import GjcRemote.Envelope

/-! Records of `shared/genesis-envelope.js`: the token attestation, the token floor, and the
reservation, commit snapshot and epoch of an authority. An argument that the source
defaults to null is the value null. -/
namespace GjcRemote.GenesisEnvelope

open Utf16 StrictJson Record Envelope

def fail (message : String) : JsError := failure "GENESIS_ENVELOPE_INVALID" message

/-- `assertFence` without an expected generation. -/
def assertFence (record : Value) : Except JsError Unit :=
  check (isGeneration (get record "fenceGeneration")) (fail "fence generation")

/-- `value.startsWith(prefix)`. -/
def startsWith (start : String) : Value → Bool
  | .string text => (ofString start).isPrefixOf text
  | _ => false

/-- `left < right`, both validated. -/
def lessThan (left right : Value) : Bool :=
  match safeInteger left,safeInteger right with
  | some l,some r => l < r
  | _,_ => false

def isSafe (value : Value) : Bool := (safeInteger value).isSome

section Digest

variable (sha256 : List UInt8 → Units)

def attestationKeys : List String :=
  ["version","kind","anchorFingerprint","fenceGeneration","tokenConfigGeneration",
    "tokenConfigHostSetFingerprint","managedGrammarVersion","sourceKind","producerPrincipal",
    "rotationKind","previousAttestationFingerprint","txId","attestationFingerprint"]

def validateTokenConfigAttestation (attestation : Value) : Except JsError Unit := do
  let rotation := get attestation "rotationKind"
  let previous := get attestation "previousAttestationFingerprint"
  check (hasExactKeys attestation attestationKeys && isNumber 1 (get attestation "version") &&
      isText "token-config-attestation" (get attestation "kind") &&
      isHex (get attestation "anchorFingerprint") &&
      isGeneration (get attestation "tokenConfigGeneration") &&
      isHex (get attestation "tokenConfigHostSetFingerprint") &&
      isNumber 1 (get attestation "managedGrammarVersion") &&
      isText "protected-stdin" (get attestation "sourceKind") &&
      isOpaqueIdentity (get attestation "producerPrincipal") &&
      startsWith "management/" (get attestation "producerPrincipal") &&
      isOneOf ["genesis","same-key","host-set-change"] rotation && isNullableHex previous &&
      isOpaqueIdentity (get attestation "txId") && isHex (get attestation "attestationFingerprint"))
    (fail "token attestation schema")
  assertFence attestation
  check (!isText "genesis" rotation || isNumber 1 (get attestation "fenceGeneration"))
    (fail "genesis attestation fence")
  check (isText "genesis" rotation == isNull previous) (fail "token attestation lineage")
  check (!isText "genesis" rotation == !isNull previous) (fail "token attestation lineage")
  assertFingerprint sha256 attestation "attestationFingerprint" (fail "token attestation fingerprint")

def tokenFloorKeys : List String :=
  ["version","kind","anchorFingerprint","fenceGeneration","genesisGeneration",
    "highestReservedGeneration","highestCommittedGeneration","lastReservationTxId",
    "lastCommittedTxId","lastAttestationFingerprint","floorPhase","attestedProofFingerprint",
    "floorFingerprint"]

def validateTokenFloor (floor : Value) : Except JsError Unit := do
  let genesis := get floor "genesisGeneration"
  let reserved := get floor "highestReservedGeneration"
  let committed := get floor "highestCommittedGeneration"
  let proof := get floor "attestedProofFingerprint"
  let phase := get floor "floorPhase"
  let belowGenesis (value : Value) : Bool :=
    match safeInteger value,safeInteger genesis with
    | some n,some g => n < g - 1
    | _,_ => false
  check (hasExactKeys floor tokenFloorKeys && isNumber 1 (get floor "version") &&
      isText "token-generation-floor" (get floor "kind") && isHex (get floor "anchorFingerprint") &&
      isGeneration genesis && isSafe reserved && isSafe committed && !belowGenesis reserved &&
      !belowGenesis committed && !lessThan reserved committed &&
      isNullableOpaque (get floor "lastReservationTxId") &&
      isNullableOpaque (get floor "lastCommittedTxId") &&
      isNullableHex (get floor "lastAttestationFingerprint") &&
      isOneOf ["reserved","attested","committed"] phase && isNullableHex proof &&
      isHex (get floor "floorFingerprint"))
    (fail "token floor schema")
  assertFence floor
  check (lessThan reserved genesis == isNull (get floor "lastReservationTxId") &&
      lessThan committed genesis == (isNull (get floor "lastCommittedTxId") ||
        isNull (get floor "lastAttestationFingerprint")))
    (fail "token floor relation")
  check (!isText "reserved" phase || isNull proof) (fail "reserved floor proof")
  check (!isText "attested" phase || (!isNull proof && isNext reserved committed))
    (fail "attested floor relation")
  check (!isText "committed" phase || (!isNull proof && strictEqual reserved committed))
    (fail "committed floor relation")
  assertFingerprint sha256 floor "floorFingerprint" (fail "token floor fingerprint")

def authorityReservationKeys : List String :=
  ["version","kind","anchorFingerprint","fenceGeneration","txId","epoch","generation",
    "candidateFingerprint","previousAuthorityCommitSnapshotFingerprint","reservationFingerprint"]

def validateAuthorityReservation (reservation request : Value) : Except JsError Unit := do
  let previous := get reservation "previousAuthorityCommitSnapshotFingerprint"
  check (hasExactKeys reservation authorityReservationKeys &&
      isNumber 1 (get reservation "version") && isText "authority-reservation" (get reservation "kind") &&
      isHex (get reservation "anchorFingerprint") && isOpaqueIdentity (get reservation "txId") &&
      isGeneration (get reservation "epoch") && isGeneration (get reservation "generation") &&
      isHex (get reservation "candidateFingerprint") && isNullableHex previous &&
      isHex (get reservation "reservationFingerprint"))
    (fail "authority reservation schema")
  assertFence reservation
  check (isNull request || relate reservation request [("anchorFingerprint","anchorFingerprint"),
      ("fenceGeneration","candidateFenceGeneration"),("txId","txId"),
      ("epoch","candidateAuthorityEpoch"),("generation","candidateTokenConfigGeneration"),
      ("candidateFingerprint","requestFingerprint"),
      ("previousAuthorityCommitSnapshotFingerprint","previousReceiptFingerprint")])
    (fail "successor authority reservation relation")
  check (!isNull previous || isNumber 1 (get reservation "fenceGeneration"))
    (fail "genesis authority reservation fence")
  assertFingerprint sha256 reservation "reservationFingerprint" (fail "authority reservation fingerprint")

def authorityCommitKeys : List String :=
  ["version","kind","anchorFingerprint","fenceGeneration","txId","epoch","generation",
    "candidateFingerprint","reservationFingerprint","previousAuthorityCommitSnapshotFingerprint",
    "authorityCommitSnapshotFingerprint"]

def validateAuthorityCommitSnapshot (commit reservation request : Value) : Except JsError Unit := do
  let previous := get commit "previousAuthorityCommitSnapshotFingerprint"
  check (hasExactKeys commit authorityCommitKeys && isNumber 1 (get commit "version") &&
      isText "authority-commit-snapshot" (get commit "kind") && isHex (get commit "anchorFingerprint") &&
      isOpaqueIdentity (get commit "txId") && isGeneration (get commit "epoch") &&
      isGeneration (get commit "generation") && isHex (get commit "candidateFingerprint") &&
      isHex (get commit "reservationFingerprint") && isNullableHex previous &&
      isHex (get commit "authorityCommitSnapshotFingerprint"))
    (fail "authority commit schema")
  assertFence commit
  check (!isNull previous || isNumber 1 (get commit "fenceGeneration")) (fail "genesis authority commit fence")
  if isNull reservation then
    check (isNull request) (fail "authority commit reservation relation")
  else do
    validateAuthorityReservation sha256 reservation request
    check (agree commit reservation ["anchorFingerprint","fenceGeneration","txId","epoch","generation",
        "candidateFingerprint","reservationFingerprint","previousAuthorityCommitSnapshotFingerprint"])
      (fail "authority commit reservation relation")
  check (isNull request || relate commit request [("anchorFingerprint","anchorFingerprint"),
      ("fenceGeneration","candidateFenceGeneration"),("txId","txId"),
      ("epoch","candidateAuthorityEpoch"),("generation","candidateTokenConfigGeneration"),
      ("candidateFingerprint","requestFingerprint"),
      ("previousAuthorityCommitSnapshotFingerprint","previousReceiptFingerprint")])
    (fail "successor authority commit relation")
  assertFingerprint sha256 commit "authorityCommitSnapshotFingerprint" (fail "authority commit fingerprint")

def authorityEpochKeys : List String :=
  ["version","kind","anchorFingerprint","fenceGeneration","epoch","reservationTxId","commitTxId",
    "previousAuthorityCommitSnapshotFingerprint","authorityEpochFingerprint"]

/-- What the epoch has to say about a reservation or a commit. -/
def epochRelation : List (String × String) :=
  [("anchorFingerprint","anchorFingerprint"),("fenceGeneration","fenceGeneration"),("epoch","epoch"),
    ("reservationTxId","txId"),("commitTxId","txId"),
    ("previousAuthorityCommitSnapshotFingerprint","previousAuthorityCommitSnapshotFingerprint")]

def validateAuthorityEpoch (epoch request reservation commit : Value) : Except JsError Unit := do
  let previous := get epoch "previousAuthorityCommitSnapshotFingerprint"
  check (hasExactKeys epoch authorityEpochKeys && isNumber 1 (get epoch "version") &&
      isText "authority-epoch" (get epoch "kind") && isHex (get epoch "anchorFingerprint") &&
      isGeneration (get epoch "epoch") && isOpaqueIdentity (get epoch "reservationTxId") &&
      isNullableOpaque (get epoch "commitTxId") && isNullableHex previous &&
      isHex (get epoch "authorityEpochFingerprint"))
    (fail "authority epoch schema")
  assertFence epoch
  check (isNull request || relate epoch request [("anchorFingerprint","anchorFingerprint"),
      ("fenceGeneration","candidateFenceGeneration"),("epoch","candidateAuthorityEpoch"),
      ("reservationTxId","txId"),("commitTxId","txId"),
      ("previousAuthorityCommitSnapshotFingerprint","previousReceiptFingerprint")])
    (fail "successor authority epoch relation")
  if !isNull reservation then
    validateAuthorityReservation sha256 reservation request
    check (relate epoch reservation epochRelation) (fail "authority epoch reservation relation")
  if !isNull commit then
    validateAuthorityCommitSnapshot sha256 commit reservation request
    check (relate epoch commit epochRelation) (fail "authority epoch commit relation")
  check (!isNull previous || isNumber 1 (get epoch "fenceGeneration")) (fail "genesis authority epoch fence")
  assertFingerprint sha256 epoch "authorityEpochFingerprint" (fail "authority epoch fingerprint")

end Digest

end GjcRemote.GenesisEnvelope
