import GjcRemote.SuccessorEnvelope

/-! The other records of `shared/successor-envelope.js` and the bundle that holds the evidence
of one successor operation. -/
namespace GjcRemote.SuccessorEnvelope

open Utf16 StrictJson Record Envelope
open GenesisEnvelope (validateAuthorityReservation validateAuthorityCommitSnapshot validateAuthorityEpoch)

/-- A relation that is checked when its other side is given. -/
def whenGiven (other : Value) (related : Bool) : Bool := !isTruthy other || related

/-- The identity every record of an operation repeats of the request. -/
def requestIdentity : List (String × String) :=
  [("txId","txId"),("rootGenesisTxId","rootGenesisTxId"),("requestFingerprint","requestFingerprint")]

def isBoundReader (request : Value) : Bool := isText "bound-reader" (get request "readerMode")

def isNoReader (request : Value) : Bool := isText "no-reader" (get request "readerMode")

section Digest

variable (sha256 : List UInt8 → Units)

def CL : List String :=
  ["version","kind","txId","rootGenesisTxId","requestFingerprint","previousReceiptFingerprint",
    "fenceGeneration","previousBarrierGeneration","barrierGeneration","affectedScope",
    "affectedMappingIds","affectedRouteFingerprints","readerInstanceId","readerStartNonce",
    "retiredGrantFingerprint","retiredProjectionFingerprint","retiredAckFingerprint",
    "admissionPhaseBefore","admissionPhaseAfter","admissionDrained","outstandingRouteGrantCount",
    "routeDisposition","closeFingerprint"]

def closeFields : List (String × Shape) :=
  [("kind",.text "authority-close-proof"),("txId",.identity),("rootGenesisTxId",.identity),
    ("requestFingerprint",.hex),("previousReceiptFingerprint",.hex),
    ("previousBarrierGeneration",.nonNegative),("affectedScope",.oneOf ["all","mapping"]),
    ("readerInstanceId",.nullableIdentity),("readerStartNonce",.nullableIdentity),
    ("retiredGrantFingerprint",.nullableHex),("retiredProjectionFingerprint",.nullableHex),
    ("retiredAckFingerprint",.nullableHex),("admissionPhaseBefore",.text "closed"),
    ("admissionPhaseAfter",.text "closed-drained"),("admissionDrained",.flag true),
    ("outstandingRouteGrantCount",.number 0),("routeDisposition",.text "no-route")]

def validateAuthorityCloseProof (record request authority : Value) : Except JsError Unit := do
  assertGenesisRoot record authority
  assertFence record
  assertKeys record CL
  check (fields record closeFields &&
      isNext (get record "barrierGeneration") (get record "previousBarrierGeneration") &&
      sortedUnique isOpaqueIdentity (get record "affectedMappingIds") &&
      sortedUnique isHex (get record "affectedRouteFingerprints") &&
      isNull (get record "readerInstanceId") == isNull (get record "readerStartNonce"))
    (fail "CL fields")
  check (whenGiven request (relate record request [("fenceGeneration","candidateFenceGeneration")]))
    (fail "CL fence relation")
  check (whenGiven request (relate record request (requestIdentity ++
          [("previousReceiptFingerprint","previousReceiptFingerprint")]) &&
        isText (if isText "tokens-attest" (get request "operation") then "all" else "mapping")
          (get record "affectedScope") &&
        if isNoReader request then every record ["readerInstanceId","readerStartNonce"] isNull
        else agree record request ["readerInstanceId","readerStartNonce"]))
    (fail "CL request relation")
  assertHash sha256 record "closeFingerprint"

def F2 : List String :=
  ["version","kind","txId","rootGenesisTxId","requestFingerprint","fenceGeneration",
    "anchorFingerprint","authorityCommitSnapshotFingerprint","readerInstanceId","readerStartNonce",
    "readerVersion","previousFenceBindingFingerprint","fenceBindingFingerprint"]

def fenceFields : List (String × Shape) :=
  [("kind",.text "authority-successor-fence"),("txId",.identity),("rootGenesisTxId",.identity),
    ("readerInstanceId",.identity),("readerStartNonce",.identity),("requestFingerprint",.hex),
    ("anchorFingerprint",.hex),("authorityCommitSnapshotFingerprint",.hex),
    ("previousFenceBindingFingerprint",.hex),("readerVersion",.number 2)]

def validateAuthoritySuccessorFence (record request commit authority : Value) :
    Except JsError Unit := do
  assertGenesisRoot record authority
  assertKeys record F2
  assertFence record
  check (fields record fenceFields) (fail "F2 fields")
  check (whenGiven request (isBoundReader request && relate record request (requestIdentity ++
      [("fenceGeneration","candidateFenceGeneration"),("anchorFingerprint","anchorFingerprint"),
        ("readerInstanceId","readerInstanceId"),("readerStartNonce","readerStartNonce"),
        ("previousFenceBindingFingerprint","previousReceiptFingerprint")])))
    (fail "F2 request relation")
  check (whenGiven commit (agree record commit ["txId","fenceGeneration","anchorFingerprint",
      "authorityCommitSnapshotFingerprint"])) (fail "F2 commit relation")
  assertHash sha256 record "fenceBindingFingerprint"

def SB : List String :=
  ["version","kind","txId","rootGenesisTxId","requestFingerprint","fenceGeneration",
    "anchorFingerprint","operation","targetState","revision","authorityEpoch","tokenConfigGeneration",
    "tokenConfigHostSetFingerprint","mappingGeneration","candidateSnapshotFingerprint",
    "candidateTargetFingerprint","attestationFingerprint","authorityReservationFingerprint",
    "authorityCommitSnapshotFingerprint","closeFingerprint","fenceBindingFingerprint",
    "leaseBindingFingerprint","readerProjectionFingerprint","readerInstanceId","readerStartNonce",
    "readerVersion","baselineFingerprint"]

def baselineFields : List (String × Shape) :=
  [("kind",.text "authority-successor-baseline"),("txId",.identity),("rootGenesisTxId",.identity),
    ("requestFingerprint",.hex),("anchorFingerprint",.hex),("tokenConfigHostSetFingerprint",.hex),
    ("candidateSnapshotFingerprint",.hex),("candidateTargetFingerprint",.hex),
    ("attestationFingerprint",.hex),("authorityReservationFingerprint",.hex),
    ("authorityCommitSnapshotFingerprint",.hex),("closeFingerprint",.hex),
    ("operation",.oneOf operations),("targetState",.oneOf targetStates),("revision",.positive),
    ("authorityEpoch",.positive),("tokenConfigGeneration",.positive),
    ("mappingGeneration",.nonNegative),("fenceBindingFingerprint",.nullableHex),
    ("leaseBindingFingerprint",.nullableHex),("readerProjectionFingerprint",.nullableHex),
    ("readerInstanceId",.nullableIdentity),("readerStartNonce",.nullableIdentity)]

/-- `reader(record, required)`. -/
def reader (record : Value) (required : Bool) : Except JsError Unit :=
  if required then
    check (every record ["readerInstanceId","readerStartNonce"] isOpaqueIdentity &&
      isNumber 2 (get record "readerVersion")) (fail "reader binding")
  else
    check (every record ["readerInstanceId","readerStartNonce","readerVersion"] isNull)
      (fail "no-reader binding")

def validateAuthoritySuccessorBaseline (record request close fence reservation commit
    authority : Value) : Except JsError Unit := do
  assertGenesisRoot record authority
  assertFence record
  assertKeys record SB
  check (fields record baselineFields && validTargetState (get record "operation") (get record "targetState") &&
      (isNull (get record "readerVersion") || isNumber 2 (get record "readerVersion")))
    (fail "SB fields")
  check (whenGiven request (relate record request [("fenceGeneration","candidateFenceGeneration")]))
    (fail "SB fence relation")
  check (every record ["leaseBindingFingerprint","readerProjectionFingerprint"] isNull) (fail "SB B outputs")
  check (whenGiven request (relate record request (requestIdentity ++
      [("anchorFingerprint","anchorFingerprint"),("operation","operation"),
        ("targetState","targetState"),("revision","candidateRevision"),
        ("authorityEpoch","candidateAuthorityEpoch"),
        ("tokenConfigGeneration","candidateTokenConfigGeneration"),
        ("mappingGeneration","candidateMappingGeneration"),
        ("attestationFingerprint","candidateAttestationFingerprint"),
        ("candidateSnapshotFingerprint","candidateSnapshotFingerprint"),
        ("candidateTargetFingerprint","candidateTargetFingerprint")])))
    (fail "SB request relation")
  check (whenGiven request (if isNoReader request then
        every record ["readerInstanceId","readerStartNonce","readerVersion","fenceBindingFingerprint"] isNull
      else agree record request ["readerInstanceId","readerStartNonce"] &&
        isNumber 2 (get record "readerVersion")))
    (fail "SB reader relation")
  check (whenGiven close (agree record close ["closeFingerprint"])) (fail "SB close relation")
  check (if isTruthy fence then agree record fence ["fenceBindingFingerprint"]
      else isNull (get record "fenceBindingFingerprint")) (fail "SB fence relation")
  check (whenGiven reservation (relate record reservation
      [("authorityReservationFingerprint","reservationFingerprint")])) (fail "SB reservation relation")
  check (whenGiven commit (agree record commit ["authorityCommitSnapshotFingerprint"]))
    (fail "SB commit relation")
  check (isNull reservation || !isNull commit) (fail "SB commit relation")
  check (isNull commit || !isNull reservation) (fail "SB reservation relation")
  reader record (!isNull (get record "fenceBindingFingerprint"))
  assertHash sha256 record "baselineFingerprint"

def SF : List String :=
  ["version","kind","sequence","txId","rootGenesisTxId","requestFingerprint","fenceGeneration",
    "operation","baselineFingerprint","closeFingerprint","anchorFingerprint",
    "authorityReservationFingerprint","authorityCommitSnapshotFingerprint",
    "authorityEpochFingerprint","tokenFloorFingerprint","attestationFingerprint",
    "publicationKFingerprint","publicationYFingerprint","operationEvidenceFingerprint",
    "auditEntryFingerprint","targetFingerprint","targetIdentityFingerprint","targetAclFingerprint",
    "wrapperFingerprint","controlRootFingerprint","revision","authorityEpoch","tokenConfigGeneration",
    "mappingGeneration","snapshotFingerprint","routeDisposition","finalityFingerprint"]

def finalityFields : List (String × Shape) :=
  [("kind",.text "authority-successor-finality"),("sequence",.positive),("txId",.identity),
    ("rootGenesisTxId",.identity),("operation",.oneOf operations),("requestFingerprint",.hex),
    ("baselineFingerprint",.hex),("closeFingerprint",.hex),("anchorFingerprint",.hex),
    ("authorityReservationFingerprint",.hex),("authorityCommitSnapshotFingerprint",.hex),
    ("authorityEpochFingerprint",.hex),("tokenFloorFingerprint",.hex),
    ("attestationFingerprint",.hex),("publicationKFingerprint",.hex),
    ("publicationYFingerprint",.hex),("operationEvidenceFingerprint",.hex),
    ("auditEntryFingerprint",.hex),("targetFingerprint",.hex),("targetIdentityFingerprint",.hex),
    ("targetAclFingerprint",.hex),("wrapperFingerprint",.hex),("controlRootFingerprint",.hex),
    ("snapshotFingerprint",.hex),("revision",.positive),("authorityEpoch",.positive),
    ("tokenConfigGeneration",.positive),("mappingGeneration",.nonNegative),
    ("routeDisposition",.text "no-route")]

def validateAuthoritySuccessorFinality (record request baseline reservation commit authorityEpoch
    authority : Value) : Except JsError Unit := do
  assertGenesisRoot record authority
  assertKeys record SF
  assertFence record
  check (fields record finalityFields) (fail "SF fields")
  check (whenGiven request (relate record request (requestIdentity ++
      [("sequence","sequence"),("fenceGeneration","candidateFenceGeneration"),
        ("operation","operation"),("anchorFingerprint","anchorFingerprint"),
        ("revision","candidateRevision"),("authorityEpoch","candidateAuthorityEpoch"),
        ("tokenConfigGeneration","candidateTokenConfigGeneration"),
        ("mappingGeneration","candidateMappingGeneration"),
        ("attestationFingerprint","candidateAttestationFingerprint")])))
    (fail "SF request relation")
  check (whenGiven baseline (agree record baseline ["baselineFingerprint","fenceGeneration",
      "closeFingerprint","authorityCommitSnapshotFingerprint","revision","authorityEpoch",
      "tokenConfigGeneration","mappingGeneration","attestationFingerprint"]))
    (fail "SF baseline relation")
  whenever (!isNull reservation) do
    validateAuthorityReservation sha256 reservation request
    check (relate record reservation [("authorityReservationFingerprint","reservationFingerprint")])
      (fail "SF reservation relation")
  whenever (!isNull commit) do
    validateAuthorityCommitSnapshot sha256 commit reservation request
    check (agree record commit ["authorityCommitSnapshotFingerprint"]) (fail "SF commit relation")
  check (isNull reservation == isNull commit) (fail "SF reservation/commit relation")
  check (isNull authorityEpoch || !(isNull reservation || isNull commit)) (fail "SF authority epoch relation")
  whenever (!isNull authorityEpoch) do
    validateAuthorityEpoch sha256 authorityEpoch request reservation commit
    check (agree record authorityEpoch ["authorityEpochFingerprint"]) (fail "SF authority epoch relation")
  assertHash sha256 record "finalityFingerprint"

def authoritySuccessorPreviousLeaseBindingFingerprint (request : Value) : Except JsError Value := do
  validateAuthoritySuccessorRequest sha256 request .null .null
  return get request "previousReceiptFingerprint"

def L2 : List String :=
  ["version","kind","txId","rootGenesisTxId","requestFingerprint","fenceGeneration",
    "readerInstanceId","readerStartNonce","readerVersion","fenceBindingFingerprint",
    "previousLeaseBindingFingerprint","leaseBindingFingerprint"]

def leaseFields : List (String × Shape) :=
  [("kind",.text "authority-successor-lease"),("txId",.identity),("rootGenesisTxId",.identity),
    ("readerInstanceId",.identity),("readerStartNonce",.identity),("requestFingerprint",.hex),
    ("fenceBindingFingerprint",.hex),("previousLeaseBindingFingerprint",.hex),
    ("readerVersion",.number 2)]

/-- The reader of a request, and the fence it is bound at. -/
def requestReader : List (String × String) :=
  requestIdentity ++ [("fenceGeneration","candidateFenceGeneration"),
    ("readerInstanceId","readerInstanceId"),("readerStartNonce","readerStartNonce")]

def validateAuthoritySuccessorLease (record request fence authority : Value) :
    Except JsError Unit := do
  assertGenesisRoot record authority
  assertKeys record L2
  assertFence record
  check (fields record leaseFields) (fail "L2 fields")
  check (isTruthy request) (fail "L2 predecessor relation")
  let previous ← authoritySuccessorPreviousLeaseBindingFingerprint sha256 request
  check (strictEqual (get record "previousLeaseBindingFingerprint") previous) (fail "L2 predecessor relation")
  check (whenGiven request (isBoundReader request && relate record request requestReader))
    (fail "L2 request relation")
  check (whenGiven fence (agree record fence ["txId","rootGenesisTxId","requestFingerprint",
      "fenceGeneration","readerInstanceId","readerStartNonce","readerVersion",
      "fenceBindingFingerprint"])) (fail "L2 fence relation")
  assertHash sha256 record "leaseBindingFingerprint"

def RP2 : List String :=
  ["version","kind","txId","rootGenesisTxId","requestFingerprint","fenceGeneration",
    "finalityFingerprint","anchorFingerprint","authorityCommitSnapshotFingerprint",
    "targetFingerprint","wrapperFingerprint","revision","authorityEpoch","tokenConfigGeneration",
    "mappingGeneration","readerInstanceId","readerStartNonce","readerVersion","readerNonce",
    "fenceBindingFingerprint","leaseBindingFingerprint","readerProjectionFingerprint"]

def projectionFields : List (String × Shape) :=
  [("kind",.text "authority-successor-reader-projection"),("txId",.identity),
    ("rootGenesisTxId",.identity),("readerInstanceId",.identity),("readerStartNonce",.identity),
    ("readerNonce",.identity),("requestFingerprint",.hex),("finalityFingerprint",.hex),
    ("anchorFingerprint",.hex),("authorityCommitSnapshotFingerprint",.hex),
    ("targetFingerprint",.hex),("wrapperFingerprint",.hex),("fenceBindingFingerprint",.hex),
    ("leaseBindingFingerprint",.hex),("revision",.positive),("authorityEpoch",.positive),
    ("tokenConfigGeneration",.positive),("mappingGeneration",.nonNegative),
    ("readerVersion",.number 2)]

def projectionFinality : List String :=
  ["txId","rootGenesisTxId","requestFingerprint","finalityFingerprint","fenceGeneration",
    "anchorFingerprint","authorityCommitSnapshotFingerprint","targetFingerprint","wrapperFingerprint",
    "revision","authorityEpoch","tokenConfigGeneration","mappingGeneration"]

def projectionLease : List String :=
  ["txId","rootGenesisTxId","requestFingerprint","fenceGeneration","readerInstanceId",
    "readerStartNonce","readerVersion","fenceBindingFingerprint","leaseBindingFingerprint"]

def validateAuthoritySuccessorReaderProjection (record request finality lease authority : Value) :
    Except JsError Unit := do
  assertGenesisRoot record authority
  assertKeys record RP2
  assertFence record
  check (fields record projectionFields) (fail "RP2 fields")
  check (whenGiven request (isBoundReader request && relate record request (requestReader ++
      [("anchorFingerprint","anchorFingerprint"),("readerNonce","readerNonce")])))
    (fail "RP2 request relation")
  check (whenGiven finality (agree record finality projectionFinality)) (fail "RP2 SF relation")
  check (whenGiven lease (agree record lease projectionLease)) (fail "RP2 L2 relation")
  assertHash sha256 record "readerProjectionFingerprint"

def AK2 : List String :=
  ["version","kind","txId","rootGenesisTxId","requestFingerprint","fenceGeneration",
    "finalityFingerprint","readerProjectionFingerprint","leaseBindingFingerprint","readerInstanceId",
    "readerStartNonce","readerVersion","readerNonce","ackDisposition","ackFingerprint"]

def ackFields : List (String × Shape) :=
  [("kind",.text "authority-successor-ack"),("txId",.identity),("rootGenesisTxId",.identity),
    ("readerInstanceId",.identity),("readerStartNonce",.identity),("readerNonce",.identity),
    ("requestFingerprint",.hex),("finalityFingerprint",.hex),("readerProjectionFingerprint",.hex),
    ("leaseBindingFingerprint",.hex),("readerVersion",.number 2),
    ("ackDisposition",.text "verified-no-route")]

def ackProjection : List String :=
  ["txId","rootGenesisTxId","requestFingerprint","fenceGeneration","finalityFingerprint",
    "readerProjectionFingerprint","leaseBindingFingerprint","readerInstanceId","readerStartNonce",
    "readerVersion","readerNonce"]

def validateAuthoritySuccessorAck (record request finality projection authority : Value) :
    Except JsError Unit := do
  assertGenesisRoot record authority
  assertKeys record AK2
  assertFence record
  check (fields record ackFields) (fail "AK2 fields")
  check (whenGiven request (isBoundReader request &&
      relate record request (requestReader ++ [("readerNonce","readerNonce")])))
    (fail "AK2 request relation")
  check (whenGiven finality (agree record finality ["txId","rootGenesisTxId","requestFingerprint",
      "fenceGeneration","finalityFingerprint"])) (fail "AK2 SF relation")
  check (whenGiven projection (agree record projection ackProjection)) (fail "AK2 RP2 relation")
  assertHash sha256 record "ackFingerprint"

def SRC : List String :=
  ["version","kind","sequence","txId","rootGenesisTxId","requestFingerprint","fenceGeneration",
    "operation","previousReceiptFingerprint","finalityFingerprint","readerMode",
    "leaseBindingFingerprint","readerProjectionFingerprint","ackFingerprint","snapshotFingerprint",
    "revision","authorityEpoch","tokenConfigGeneration","mappingGeneration","phase",
    "routeDisposition","receiptFingerprint"]

def receiptFields : List (String × Shape) :=
  [("kind",.text "authority-successor-receipt"),("sequence",.positive),("txId",.identity),
    ("rootGenesisTxId",.identity),("operation",.oneOf operations),("requestFingerprint",.hex),
    ("previousReceiptFingerprint",.hex),("finalityFingerprint",.hex),("snapshotFingerprint",.hex),
    ("readerMode",.oneOf readerModes),("leaseBindingFingerprint",.nullableHex),
    ("readerProjectionFingerprint",.nullableHex),("ackFingerprint",.nullableHex),
    ("revision",.positive),("authorityEpoch",.positive),("tokenConfigGeneration",.positive),
    ("mappingGeneration",.nonNegative),("phase",.text "terminal"),
    ("routeDisposition",.text "no-route")]

def validateAuthoritySuccessorReceipt (record request finality lease projection ack
    authority : Value) : Except JsError Unit := do
  assertGenesisRoot record authority
  assertKeys record SRC
  assertFence record
  check (fields record receiptFields) (fail "SRC fields")
  check (whenGiven request (relate record request (requestIdentity ++
      [("sequence","sequence"),("fenceGeneration","candidateFenceGeneration"),
        ("operation","operation"),("previousReceiptFingerprint","previousReceiptFingerprint"),
        ("readerMode","readerMode"),("revision","candidateRevision"),
        ("authorityEpoch","candidateAuthorityEpoch"),
        ("tokenConfigGeneration","candidateTokenConfigGeneration"),
        ("mappingGeneration","candidateMappingGeneration")]))) (fail "SRC request relation")
  check (whenGiven finality (agree record finality ["txId","rootGenesisTxId","requestFingerprint",
      "fenceGeneration","finalityFingerprint","snapshotFingerprint","revision","authorityEpoch",
      "tokenConfigGeneration","mappingGeneration"])) (fail "SRC SF relation")
  whenever (isNoReader record) (check (every record ["leaseBindingFingerprint",
      "readerProjectionFingerprint","ackFingerprint"] isNull) (fail "SRC no-reader B outputs"))
  whenever (!isNoReader record) (check (isTruthy lease && isTruthy projection && isTruthy ack &&
      agree record lease ["leaseBindingFingerprint"] &&
      agree record projection ["readerProjectionFingerprint"] && agree record ack ["ackFingerprint"])
    (fail "SRC B outputs"))
  assertHash sha256 record "receiptFingerprint"

def managedHistoryMarkerKeys : List String :=
  ["version","kind","anchorFingerprint","sequence","fenceGeneration","previousMarkerFingerprint",
    "markerFingerprint"]

/-- `expected === undefined || value === expected`. -/
def expects (expected value : Value) : Bool :=
  match expected with
  | .other 0 => true
  | expected => strictEqual value expected

def validateManagedHistoryMarker (record anchorFingerprint expectedSequence : Value) :
    Except JsError Unit := do
  assertKeys record managedHistoryMarkerKeys
  check (isText "managed-history-marker" (get record "kind") && isHex (get record "anchorFingerprint") &&
      isGeneration (get record "sequence") && isGeneration (get record "fenceGeneration") &&
      if isNumber 1 (get record "sequence") then isNull (get record "previousMarkerFingerprint")
      else isHex (get record "previousMarkerFingerprint"))
    (fail "managed history marker fields")
  check (expects anchorFingerprint (get record "anchorFingerprint")) (fail "managed history marker anchor")
  check (expects expectedSequence (get record "sequence")) (fail "managed history marker sequence")
  assertHash sha256 record "markerFingerprint"

/-- The descent from a marker to the seal, from a sequence on. -/
def descend (sealMarker : Value) (predecessors : List Value) : Nat → Value → Except JsError Unit
  | 0,_ => .ok ()
  | sequence + 1,cursor =>
    let named := fun predecessor =>
      relate cursor predecessor [("previousMarkerFingerprint","markerFingerprint")]
    match if sequence = 0 then some sealMarker else predecessors.find? named with
    | some predecessor => do
      check (isNumber (sequence + 1) (get predecessor "sequence") && named predecessor &&
          isNext (get cursor "fenceGeneration") (get predecessor "fenceGeneration"))
        (fail "managed history marker predecessor chain")
      descend sealMarker predecessors sequence predecessor
    | none => .error (fail "managed history marker predecessor chain")

def indexPredecessors (anchorFingerprint : Value) : List Value → List Value → Except JsError Unit
  | _,[] => .ok ()
  | seen,predecessor :: rest => do
    validateManagedHistoryMarker sha256 predecessor anchorFingerprint undefined
    check (!seen.any fun other => agree other predecessor ["markerFingerprint"])
      (fail "managed history marker duplicate predecessor")
    indexPredecessors anchorFingerprint (predecessor :: seen) rest

/-- The default of the parameter `predecessors = []`. -/
def predecessorsOr : Value → Value
  | .other 0 => .array []
  | predecessors => predecessors

def validateManagedHistoryMarkerSeal (marker sealMarker anchorFingerprint predecessors : Value) :
    Except JsError Unit := do
  check (!isNull marker && !isNull sealMarker) (fail "managed history marker seal")
  validateManagedHistoryMarker sha256 marker anchorFingerprint undefined
  validateManagedHistoryMarker sha256 sealMarker anchorFingerprint (.number (.int 1))
  if isNumber 1 (get marker "sequence") then
    check (agree marker sealMarker ["markerFingerprint","fenceGeneration"])
      (fail "managed history marker seal mismatch")
  else
    match predecessorsOr predecessors with
    | .array predecessors => do
      indexPredecessors sha256 anchorFingerprint [] predecessors
      descend sealMarker predecessors (((safeInteger (get marker "sequence")).getD 1).toNat - 1) marker
    | _ => throw (fail "managed history marker predecessor chain")

/-- `const { member = fallback } = bundle ?? {}`. -/
def memberOr (bundle fallback : Value) (name : String) : Value :=
  match get bundle name with
  | .other 0 => fallback
  | value => value

/-- `assertFence(record, expected)`. -/
def assertFenceIs (expected record : Value) : Except JsError Unit :=
  check (isGeneration (get record "fenceGeneration") &&
    strictEqual (get record "fenceGeneration") expected) (fail "fence generation")

/-- `record?.[field] ?? null`. -/
def fingerprintOr (record : Value) (field : String) : Value :=
  if isNullish (get record field) then .null else get record field

def nonNull (records : List Value) : Bool := records.any fun record => !isNull record

/-- `["replaced", "reader-pending", "terminal"].includes(head.phase)`. -/
def isReplaced (head : Value) : Bool :=
  isOneOf ["replaced","reader-pending","terminal"] (get head "phase")

def assertEpochArchive (epoch archive request reservation commit : Value) (required : Bool) :
    Except JsError Unit :=
  if isNull epoch then check (isNull archive) (fail "AH authority epoch archive without epoch")
  else if isNull archive then check (!required) (fail "AH authority epoch archive evidence")
  else do
    validateAuthorityEpoch sha256 archive request reservation commit
    let archived ← canonicalJsonHash sha256 archive
    let live ← canonicalJsonHash sha256 epoch
    check (archived == live) (fail "AH authority epoch archive drift")

def validateAuthoritySuccessorBundle (bundle authority : Value) : Except JsError Unit := do
  let of := memberOr bundle .null
  let request := get bundle "request"
  let head := get bundle "head"
  let phase := get head "phase"
  let marker := of "historyMarker"
  validateAuthoritySuccessorRequest sha256 request authority .null
  validateAuthoritySuccessorHead sha256 head request authority
  whenever (!isNull (of "close")) (validateAuthorityCloseProof sha256 (of "close") request authority)
  whenever (!isNull (of "fence"))
    (validateAuthoritySuccessorFence sha256 (of "fence") request (of "commit") authority)
  whenever (!isNull (of "baseline"))
    (validateAuthoritySuccessorBaseline sha256 (of "baseline") request (of "close") (of "fence")
      (of "reservation") (of "commit") authority)
  whenever (!isNull (of "finality"))
    (validateAuthoritySuccessorFinality sha256 (of "finality") request (of "baseline")
      (of "reservation") (of "commit") (of "authorityEpoch") authority)
  whenever (!isNull (of "lease"))
    (validateAuthoritySuccessorLease sha256 (of "lease") request (of "fence") authority)
  whenever (!isNull (of "projection"))
    (validateAuthoritySuccessorReaderProjection sha256 (of "projection") request (of "finality")
      (of "lease") authority)
  whenever (!isNull (of "ack"))
    (validateAuthoritySuccessorAck sha256 (of "ack") request (of "finality") (of "projection") authority)
  check (isNull authority || [of "publicationK",of "publicationY"].all fun publication =>
      isNull publication || strictEqual (get publication "genesisTxId") (rootGenesisTxId authority))
    (fail "publication Genesis authority root")
  whenever (!isNull (of "receipt"))
    (validateAuthoritySuccessorReceipt sha256 (of "receipt") request (of "finality") (of "lease")
      (of "projection") (of "ack") authority)
  (["close","fence","baseline","reservation","commit","publicationK","publicationY","finality",
      "lease","projection","ack","receipt"].filter fun name => !isNull (of name)).forM fun name =>
    assertFenceIs (get request "candidateFenceGeneration") (of name)
  whenever (isReplaced head) do
    check (!isNull (of "reservation") && !isNull (of "commit"))
      (fail "AH authority reservation/commit evidence")
    validateAuthorityReservation sha256 (of "reservation") request
    validateAuthorityCommitSnapshot sha256 (of "commit") (of "reservation") request
  whenever (!isNull (of "finality")) do
    check (!isNull (of "authorityEpoch")) (fail "AH authority epoch evidence")
    validateAuthorityEpoch sha256 (of "authorityEpoch") request (of "reservation") (of "commit")
  assertEpochArchive sha256 (of "authorityEpoch") (of "authorityEpochArchive") request
    (of "reservation") (of "commit") (!isNull (of "finality") || isReplaced head)
  [("closeFingerprint","close"),("baselineFingerprint","baseline"),
      ("finalityFingerprint","finality"),("receiptFingerprint","receipt")].forM fun pair =>
    check (strictEqual (get head pair.1) (fingerprintOr (of pair.2) pair.1)) (fail s!"AH {pair.1}")
  check (!isNull marker && !isNull (of "historyMarkerSeal")) (fail "AH history evidence")
  validateManagedHistoryMarker sha256 marker (get head "anchorFingerprint")
    (if isText "terminal" phase then get head "sequence" else previousSequence head)
  validateManagedHistoryMarkerSeal sha256 marker (of "historyMarkerSeal") (get head "anchorFingerprint")
    (memberOr bundle (.array []) "historyMarkerPredecessors")
  -- the marker has just passed its validator, so of its schema only the hash is checked again
  assertHash sha256 marker "markerFingerprint"
  check (isText "terminal" phase || (strictEqual (get marker "sequence") (previousSequence head) &&
      relate marker request [("fenceGeneration","previousFenceGeneration")]))
    (fail "AH predecessor history")
  let readers := [of "fence",of "lease",of "projection",of "ack"]
  check (!isNoReader request || !nonNull readers) (fail "B no-reader bundle")
  check (!(isBoundReader request && isNull (of "fence")) || !nonNull readers) (fail "B fence prerequisite")
  check (isNull (of "lease") || !isNull (of "fence")) (fail "B lease prerequisite")
  check (isNull (of "projection") || [of "fence",of "lease",of "finality"].all fun record => !isNull record)
    (fail "B projection prerequisite")
  check (isNull (of "ack") || [of "projection",of "finality"].all fun record => !isNull record)
    (fail "B ack prerequisite")
  check (!isText "reserved" phase || !nonNull (["close","fence","baseline","commit","publicationK",
      "publicationY","finality","lease","projection","ack","receipt"].map of)) (fail "AH reserved bundle")
  check (!isText "closed" phase || (!isNull (of "close") && !nonNull (["baseline","commit",
      "publicationK","publicationY","finality","lease","projection","ack","receipt"].map of)))
    (fail "AH closed bundle")
  check (!isReplaced head || (isTruthy (of "commit") &&
      relate (of "commit") head [("authorityCommitSnapshotFingerprint","authorityCommitSnapshotFingerprint")] &&
      isTruthy (of "publicationK") &&
      relate (of "publicationK") head [("publication-kFingerprint","publicationKFingerprint")] &&
      isTruthy (of "publicationY") &&
      relate (of "publicationY") head [("publication-yFingerprint","publicationYFingerprint")]))
    (fail "AH replaced proof")
  check (!isText "replaced" phase ||
      !nonNull (["finality","lease","projection","ack","receipt"].map of)) (fail "AH replaced bundle")
  check (!isText "reader-pending" phase || (!isNull (of "finality") && isNull (of "receipt") &&
      isOneOf ["bound-reader","no-reader"] (get request "readerMode") &&
      !(isBoundReader request && isNull (of "fence")))) (fail "AH pending bundle")
  check (!isText "terminal" phase || (!isNull (of "finality") && !isNull (of "receipt") &&
      isTruthy marker && isGeneration (get marker "fenceGeneration") &&
      relate marker head [("fenceGeneration","fenceGeneration"),
        ("markerFingerprint","historyMarkerFingerprint"),("sequence","sequence")] &&
      !(isBoundReader request && readers.any isNull))) (fail "AH terminal bundle")
where
  /-- `head.sequence - 1`. -/
  previousSequence (head : Value) : Value :=
    match safeInteger (get head "sequence") with
    | some n => .number (.int (n - 1))
    | none => undefined

end Digest

end GjcRemote.SuccessorEnvelope
