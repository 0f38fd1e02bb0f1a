import GjcRemote.LiveRecord

/-! The lifecycle records beside a live slot, from `shared/workspace-lifecycle-envelope.js`
and `shared/recovery-envelope.js`: the transaction, its checkpoint and the manual-cleanup
record, each carrying the digest of its other members. -/
namespace GjcRemote.Lifecycle

open Utf16 StrictJson Record Workspace

def isOpaqueIdentity : Value → Bool
  | .string units =>
    units ≠ [] && match assertStrictText units "identity" (some 4096) with
      | .ok _ => true
      | .error _ => false
  | _ => false

/-- `Object.fromEntries(Object.entries(value).filter(([key]) => key !== field))`. -/
def withoutField (record : Value) (field : String) : Value :=
  match record with
  | .object entries => .object (entries.filter fun e => e.1 ≠ ofString field)
  | _ => .object []

def isCount (value : Value) : Bool := (safeInteger value).any fun n => 0 ≤ n

def isTrue : Value → Bool
  | .bool flag => flag
  | _ => false

section Digest

variable (sha256 : List UInt8 → Units)

def recordHash (record : Value) (field : String) : Except JsError Units :=
  canonicalJsonHash sha256 (withoutField record field) STRICT_JSON_LIMITS

/-- The digest under `field` is that of the other members. -/
def checkFingerprint (record : Value) (field : String) (error : JsError) : Except JsError Unit := do
  let fingerprint ← recordHash sha256 record field
  check (strictEqual (.string fingerprint) (get record field)) error

def fail (message : String) : JsError :=
  typeError ("WORKSPACE_LIFECYCLE_ENVELOPE_INVALID: " ++ message)

def operations : List String :=
  ["create","clone","refresh","reset","delete","restore","migration"]

def txKeys : List String :=
  ["version","kind","txId","hostId","mappingId","mappingGeneration","mappingVersion","workspaceId",
    "workspaceGeneration","sourcePlatform","routeFingerprint","authorityFingerprint",
    "inventoryGeneration","anchorFingerprint","operation","principalFingerprint",
    "idempotencyFingerprint","ownerFingerprint","fenceGeneration","expectedHeadRevision",
    "expectedHeadFingerprint","beforeFingerprint","candidateFingerprint","priorFingerprint",
    "transactionFingerprint"]

def transactionSchema (tx : Value) : Bool :=
  hasExactKeys tx txKeys && isNumber 1 (get tx "version") &&
    isText "workspace-lifecycle-transaction" (get tx "kind") && isOpaqueIdentity (get tx "txId") &&
    isOpaqueIdentity (get tx "hostId") && isOpaqueIdentity (get tx "mappingId") &&
    isGeneration (get tx "mappingGeneration") && isGeneration (get tx "mappingVersion") &&
    isOpaqueIdentity (get tx "workspaceId") && isGeneration (get tx "workspaceGeneration") &&
    isOpaqueIdentity (get tx "sourcePlatform") && isHex (get tx "routeFingerprint") &&
    isHex (get tx "authorityFingerprint") && isGeneration (get tx "inventoryGeneration") &&
    isHex (get tx "anchorFingerprint") && isOneOf operations (get tx "operation") &&
    isHex (get tx "principalFingerprint") && isHex (get tx "idempotencyFingerprint") &&
    isHex (get tx "ownerFingerprint") && isGeneration (get tx "fenceGeneration") &&
    isCount (get tx "expectedHeadRevision") && isNullableHex (get tx "expectedHeadFingerprint") &&
    isNullableHex (get tx "beforeFingerprint") && isHex (get tx "candidateFingerprint") &&
    isNullableHex (get tx "priorFingerprint") && isHex (get tx "transactionFingerprint")

/-- Only a workspace that does not exist yet has nothing before it. -/
def operationEvidence (tx : Value) : Bool :=
  if isOneOf ["create","clone"] (get tx "operation") then
    isNull (get tx "beforeFingerprint") && isNull (get tx "priorFingerprint")
  else isHex (get tx "beforeFingerprint") && isHex (get tx "priorFingerprint")

def validateWorkspaceLifecycleTransaction (tx : Value) : Except JsError Unit := do
  check (transactionSchema tx) (fail "transaction schema")
  check (operationEvidence tx) (fail "transaction operation evidence")
  checkFingerprint sha256 tx "transactionFingerprint" (fail "transaction fingerprint")

def checkpointKeys : List String :=
  ["version","kind","txId","transactionFingerprint","phase","operationEvidenceFingerprint",
    "checkpointFingerprint"]

def phases : List String := ["prepared","applied","committed","manual_cleanup"]

def checkpointSchema (checkpoint : Value) : Bool :=
  hasExactKeys checkpoint checkpointKeys && isNumber 1 (get checkpoint "version") &&
    isText "workspace-lifecycle-checkpoint" (get checkpoint "kind") &&
    isOpaqueIdentity (get checkpoint "txId") && isHex (get checkpoint "transactionFingerprint") &&
    isOneOf phases (get checkpoint "phase") &&
    isNullableHex (get checkpoint "operationEvidenceFingerprint") &&
    isHex (get checkpoint "checkpointFingerprint")

/-- `if (transaction)`: callers pass `null` or a record. -/
def checkRelation (checkpoint transaction : Value) : Except JsError Unit :=
  if isNull transaction then .ok ()
  else do
    validateWorkspaceLifecycleTransaction sha256 transaction
    check (strictEqual (get checkpoint "txId") (get transaction "txId") &&
        strictEqual (get checkpoint "transactionFingerprint") (get transaction "transactionFingerprint"))
      (fail "checkpoint transaction relation")

/-- Without a transaction the candidate is `undefined`, which no evidence equals. -/
def validateWorkspaceLifecycleCheckpoint (checkpoint transaction : Value) : Except JsError Unit := do
  check (checkpointSchema checkpoint) (fail "checkpoint schema")
  checkFingerprint sha256 checkpoint "checkpointFingerprint" (fail "checkpoint fingerprint")
  checkRelation sha256 checkpoint transaction
  check (!isOneOf ["applied","committed"] (get checkpoint "phase") ||
      strictEqual (get checkpoint "operationEvidenceFingerprint") (get transaction "candidateFingerprint"))
    (fail "checkpoint operation evidence")
  check (!isOneOf ["prepared","manual_cleanup"] (get checkpoint "phase") ||
      isNull (get checkpoint "operationEvidenceFingerprint"))
    (fail "checkpoint nullable evidence")

def cleanupFail (message : String) : JsError := typeError ("RECOVERY_ENVELOPE_INVALID: " ++ message)

def mcKeys : List String :=
  ["version","kind","anchorFingerprint","fenceGeneration","txId","reason","expectedFingerprint",
    "observedFingerprint","expectedFloorFingerprint","observedFloorFingerprint","routeDisposition",
    "blockedUntilOwnerAction","manualCleanupFingerprint"]

def cleanupSchema (mc : Value) : Bool :=
  hasExactKeys mc mcKeys && isNumber 1 (get mc "version") &&
    isText "manual-cleanup" (get mc "kind") && isHex (get mc "anchorFingerprint") &&
    isGeneration (get mc "fenceGeneration") && isNullableHex (get mc "expectedFingerprint") &&
    isNullableHex (get mc "observedFingerprint") &&
    isNullableHex (get mc "expectedFloorFingerprint") &&
    isNullableHex (get mc "observedFloorFingerprint") && isOpaqueIdentity (get mc "reason") &&
    isText "no-route" (get mc "routeDisposition") && isTrue (get mc "blockedUntilOwnerAction") &&
    isHex (get mc "manualCleanupFingerprint")

def validateManualCleanup (mc : Value) : Except JsError Unit := do
  check (cleanupSchema mc) (cleanupFail "manual cleanup schema")
  check (isNull (get mc "txId") || isOpaqueIdentity (get mc "txId")) (cleanupFail "manual cleanup transaction")
  checkFingerprint sha256 mc "manualCleanupFingerprint" (cleanupFail "manual cleanup fingerprint")

end Digest

end GjcRemote.Lifecycle
