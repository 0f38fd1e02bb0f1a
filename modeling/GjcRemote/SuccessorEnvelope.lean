import GjcRemote.GenesisEnvelope

/-! Records of `shared/successor-envelope.js`: the request of a successor operation, the
evidence its phases leave behind, and the head that walks through the phases. An argument
that the source defaults to null is the value null. -/
namespace GjcRemote.SuccessorEnvelope

open Utf16 StrictJson Record Envelope

def fail (message : String) : JsError := failure "SUCCESSOR_ENVELOPE_INVALID" message

/-- `rootGenesisTxId(authority)`. -/
def rootGenesisTxId (authority : Value) : Value :=
  match authority with
  | .string text => .string text
  | authority => get authority "genesisTxId"

def assertGenesisRoot (record authority : Value) : Except JsError Unit :=
  check (isNull authority || (isPlainObject record && isOpaqueIdentity (rootGenesisTxId authority) &&
      strictEqual (get record "rootGenesisTxId") (rootGenesisTxId authority)))
    (fail "Genesis authority root relation")

def operations : List String :=
  ["tokens-attest","mapping-reconcile","mapping-revoke","mapping-rollback","mapping-recovery"]

def targetStates : List String := ["genesis-empty","managed-empty","managed","legacy-retained"]

def validTargetState (operation targetState : Value) : Bool :=
  isOneOf targetStates targetState &&
    (!isText "legacy-retained" targetState || isText "tokens-attest" operation)

def readerModes : List String := ["no-reader","bound-reader"]

def phases : List String := ["reserved","closed","replaced","reader-pending","terminal"]

/-- `order.indexOf(head.phase)`. -/
def phaseLevel (head : Value) : Int :=
  match phases.findIdx? fun phase => isText phase (get head "phase") with
  | some level => level
  | none => -1

def assertKeys (record : Value) (keys : List String) : Except JsError Unit :=
  check (hasExactKeys record keys && isNumber 1 (get record "version")) (fail "exact schema")

/-- `assertFence` without an expected generation. -/
def assertFence (record : Value) : Except JsError Unit :=
  check (isGeneration (get record "fenceGeneration")) (fail "fence generation")

/-- `sortedUnique(values, valid)`; the members compare as strings. -/
def sortedUnique (valid : Value → Bool) : Value → Bool
  | .array values =>
    values.all valid && (values.zip values.tail).all fun pair =>
      match pair.1,pair.2 with
      | .string left,.string right => compare left right == .lt
      | _,_ => false
  | _ => false

section Digest

variable (sha256 : List UInt8 → Units)

def assertHash (record : Value) (field : String) : Except JsError Unit := do
  check (isHex (get record field)) (fail s!"{describe record} fingerprint")
  assertFingerprint sha256 record field (fail s!"{describe record} fingerprint")
where
  describe (record : Value) : String :=
    match get record "kind" with
    | .string text => String.ofList (decode text)
    | _ => "undefined"

def SR : List String :=
  ["version","kind","sequence","txId","rootGenesisTxId","idempotencyKey","operation",
    "anchorFingerprint","actorPrincipalFingerprint","previousReceiptFingerprint",
    "previousTargetFingerprint","previousWrapperFingerprint","previousRevision","candidateRevision",
    "previousAuthorityEpoch","candidateAuthorityEpoch","previousTokenConfigGeneration",
    "candidateTokenConfigGeneration","previousAttestationFingerprint","candidateAttestationFingerprint",
    "previousMappingGeneration","candidateMappingGeneration","previousSnapshotFingerprint",
    "candidateSnapshotFingerprint","candidateTargetFingerprint","previousFenceGeneration",
    "candidateFenceGeneration","mappingRecoveryTxFingerprint","targetState","readerMode",
    "readerInstanceId","readerStartNonce","readerNonce","requestFingerprint"]

def successorPredecessorFields : List String :=
  ["receiptFingerprint","targetFingerprint","wrapperFingerprint","snapshotFingerprint","revision",
    "authorityEpoch","tokenConfigGeneration","attestationFingerprint","mappingGeneration",
    "fenceGeneration"]

def assertSuccessorPredecessor (request predecessor : Value) : Except JsError Unit := do
  check (hasExactKeys predecessor successorPredecessorFields &&
      every predecessor ["receiptFingerprint","targetFingerprint","wrapperFingerprint",
        "snapshotFingerprint","attestationFingerprint"] isHex &&
      every predecessor ["revision","authorityEpoch","tokenConfigGeneration"] isNonNegative &&
      isNonNegative (get predecessor "mappingGeneration") &&
      isGeneration (get predecessor "fenceGeneration"))
    (fail "SR predecessor tuple")
  check (relate request predecessor [("previousReceiptFingerprint","receiptFingerprint"),
      ("previousTargetFingerprint","targetFingerprint"),
      ("previousWrapperFingerprint","wrapperFingerprint"),
      ("previousSnapshotFingerprint","snapshotFingerprint"),("previousRevision","revision"),
      ("previousAuthorityEpoch","authorityEpoch"),
      ("previousTokenConfigGeneration","tokenConfigGeneration"),
      ("previousAttestationFingerprint","attestationFingerprint"),
      ("previousMappingGeneration","mappingGeneration"),("previousFenceGeneration","fenceGeneration")])
    (fail "SR predecessor tuple")

def readerFields : List String := ["readerInstanceId","readerStartNonce","readerNonce"]

def validateAuthoritySuccessorRequest (record authority predecessor : Value) : Except JsError Unit := do
  assertGenesisRoot record authority
  assertKeys record SR
  check (isText "authority-successor-request" (get record "kind") && isGeneration (get record "sequence") &&
      every record ["txId","rootGenesisTxId","idempotencyKey"] isOpaqueIdentity &&
      isOneOf operations (get record "operation") &&
      every record ["anchorFingerprint","actorPrincipalFingerprint","previousReceiptFingerprint",
        "previousTargetFingerprint","previousWrapperFingerprint","previousAttestationFingerprint",
        "candidateAttestationFingerprint","previousSnapshotFingerprint","candidateSnapshotFingerprint",
        "candidateTargetFingerprint"] isHex &&
      every record ["previousRevision","previousAuthorityEpoch","previousTokenConfigGeneration",
        "previousMappingGeneration","candidateMappingGeneration"] isNonNegative &&
      every record ["candidateRevision","candidateAuthorityEpoch","candidateTokenConfigGeneration"]
        isGeneration &&
      isNext (get record "candidateRevision") (get record "previousRevision") &&
      isNext (get record "candidateAuthorityEpoch") (get record "previousAuthorityEpoch") &&
      isNullableHex (get record "mappingRecoveryTxFingerprint") &&
      validTargetState (get record "operation") (get record "targetState") &&
      isOneOf readerModes (get record "readerMode"))
    (fail "SR fields")
  if !isNull predecessor then assertSuccessorPredecessor record predecessor
  check (every record ["previousFenceGeneration","candidateFenceGeneration"] isGeneration &&
      isNext (get record "candidateFenceGeneration") (get record "previousFenceGeneration"))
    (fail "SR fence CAS")
  if isText "tokens-attest" (get record "operation") then
    check (isNext (get record "candidateTokenConfigGeneration") (get record "previousTokenConfigGeneration") &&
        strictEqual (get record "candidateMappingGeneration") (get record "previousMappingGeneration") &&
        isNull (get record "mappingRecoveryTxFingerprint"))
      (fail "SR token lineage")
  else
    check (strictEqual (get record "candidateTokenConfigGeneration")
          (get record "previousTokenConfigGeneration") &&
        strictEqual (get record "candidateAttestationFingerprint")
          (get record "previousAttestationFingerprint") &&
        isNext (get record "candidateMappingGeneration") (get record "previousMappingGeneration") &&
        isHex (get record "mappingRecoveryTxFingerprint"))
      (fail "SR mapping lineage")
  if isText "bound-reader" (get record "readerMode") then
    check (every record readerFields isOpaqueIdentity) (fail "SR reader binding")
  else
    check (every record readerFields isNull && isOneOf operations (get record "operation"))
      (fail "SR no-reader")
  assertHash sha256 record "requestFingerprint"

def AH : List String :=
  ["version","kind","anchorFingerprint","sequence","txId","rootGenesisTxId","fenceGeneration",
    "operation","phase","requestFingerprint","closeFingerprint","authorityCommitSnapshotFingerprint",
    "baselineFingerprint","publicationKFingerprint","publicationYFingerprint","finalityFingerprint",
    "receiptFingerprint","historyMarkerFingerprint","previousHeadFingerprint",
    "previousReceiptFingerprint","routeDisposition","headFingerprint"]

/-- The fingerprints a head collects, in the order of its phases. -/
def evidenceFields : List String :=
  ["closeFingerprint","authorityCommitSnapshotFingerprint","baselineFingerprint",
    "publicationKFingerprint","publicationYFingerprint","finalityFingerprint","receiptFingerprint",
    "historyMarkerFingerprint"]

/-- `required[level]`. -/
def required (level : Int) : List String :=
  evidenceFields.take (if level ≤ 0 then 0 else if level = 1 then 1 else if level = 2 then 5
    else if level = 3 then 6 else 8)

def validateAuthoritySuccessorHead (record request authority : Value) : Except JsError Unit := do
  assertGenesisRoot record authority
  assertKeys record AH
  assertFence record
  check (isText "authority-successor-head" (get record "kind") && isHex (get record "anchorFingerprint") &&
      isGeneration (get record "sequence") && every record ["txId","rootGenesisTxId"] isOpaqueIdentity &&
      isOneOf operations (get record "operation") && isOneOf phases (get record "phase") &&
      isHex (get record "requestFingerprint") &&
      every record (evidenceFields ++ ["previousHeadFingerprint"]) isNullableHex &&
      isHex (get record "previousReceiptFingerprint") &&
      isText "no-route" (get record "routeDisposition"))
    (fail "AH fields")
  let level := phaseLevel record
  check (every record (required level) fun value => !isNull value) (fail "AH phase fields")
  check (3 ≤ level || every record ["receiptFingerprint","historyMarkerFingerprint"] isNull)
    (fail "AH premature terminal")
  check (!isTruthy request || relate record request [("txId","txId"),
      ("rootGenesisTxId","rootGenesisTxId"),("anchorFingerprint","anchorFingerprint"),
      ("sequence","sequence"),("requestFingerprint","requestFingerprint"),
      ("fenceGeneration","candidateFenceGeneration"),("operation","operation")])
    (fail "AH request relation")
  assertHash sha256 record "headFingerprint"

def immutableFields : List String :=
  ["anchorFingerprint","sequence","txId","rootGenesisTxId","operation","requestFingerprint",
    "previousReceiptFingerprint","routeDisposition"]

/-- `previous[field] === null || next[field] === previous[field]`. -/
def durable (previous next : Value) : Bool :=
  evidenceFields.all fun field =>
    isNull (get previous field) || strictEqual (get next field) (get previous field)

def validateAuthoritySuccessorHeadTransition (previous next request authority predecessor : Value) :
    Except JsError Unit := do
  validateAuthoritySuccessorHead sha256 next request authority
  if !isNull predecessor then
    assertSuccessorPredecessor (if isNullish request then next else request) predecessor
    check (strictEqual (get next "previousReceiptFingerprint") (get predecessor "receiptFingerprint"))
      (fail "AH predecessor receipt")
  if isNull previous then
    check (isText "reserved" (get next "phase") && isNull (get next "previousHeadFingerprint"))
      (fail "AH genesis transition")
    check (!isTruthy request || (isNumber 1 (get request "previousFenceGeneration") &&
        strictEqual (get next "fenceGeneration") (get request "candidateFenceGeneration")))
      (fail "AH genesis fence relation")
  else do
    assertGenesisRoot previous authority
    validateAuthoritySuccessorHead sha256 previous .null authority
    if agree previous next ["txId","sequence"] then
      check (phaseLevel next = phaseLevel previous + 1 &&
          relate next previous [("previousHeadFingerprint","headFingerprint")])
        (fail "AH phase transition")
      check (agree next previous ["fenceGeneration"]) (fail "AH fence replay")
      check (agree next previous immutableFields) (fail "AH immutable transition")
      check (durable previous next) (fail "AH durable transition")
    else
      check (isText "terminal" (get previous "phase") && isText "reserved" (get next "phase") &&
          isNext (get next "sequence") (get previous "sequence") &&
          relate next previous [("previousHeadFingerprint","headFingerprint"),
            ("previousReceiptFingerprint","receiptFingerprint")] &&
          (!isTruthy request ||
            strictEqual (get request "previousFenceGeneration") (get previous "fenceGeneration")) &&
          isNext (get next "fenceGeneration") (get previous "fenceGeneration"))
        (fail "AH rolling transition")

end Digest

end GjcRemote.SuccessorEnvelope
