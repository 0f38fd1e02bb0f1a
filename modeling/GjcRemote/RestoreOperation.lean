import GjcRemote.PublishOperations

/-! The restore of `daemon/src/workspace-restore-migration-operation.js` and the stage
promotion of `workspace-restore-stage-promotion.js`, which makes the candidate tree and
removes it again when the restore fails. -/
namespace GjcRemote.Publish

open Utf16 StrictJson Record Workspace
open CrashTrace CrashTrace.Program
open ResetDelete (thrownStep)

namespace StagePromotion

def OPERATION : String := "workspace_restore_stage_promotion"

def fsError (code : String) : Failure := ⟨.passed ⟨none,some code,none⟩,none⟩

/-- `removeOwned`: only a tree that this instance created. -/
def removeOwned (host : Host) : Program World Failure Unit :=
  perform fun w =>
    if !w.owned then (w,.ok ())
    else
      let w := (w.lose host .remove).note (.removed w.slot)
      match host.remove with
      | .done => ({w with candidate := false,owned := false},.ok ())
      | .failed error gone => ({w with candidate := w.candidate && !gone},.error ⟨.passed error,none⟩)

/-- `cleanup` behind a validated path. -/
def cleanup (host : Host) : Program World Failure Unit := removeOwned host

def assertCandidateAbsent (host : Host) : Program World Failure Unit :=
  perform fun w => (w.lose host .lstat,
    match host.lstat with
    | some error => if error.code = some "ENOENT" then .ok () else .error ⟨.passed error,none⟩
    | none =>
      if w.candidate then
        .error ⟨.refusal (.plain OPERATION "RESTORE_STAGE_CANDIDATE_EXISTS"
          "candidate path already exists"),none⟩
      else .ok ())

/-- Not recursive: a directory that is there is not entered. -/
def mkdirCandidate (host : Host) : Program World Failure Unit :=
  perform fun w =>
    let w := w.lose host .mkdir
    match host.mkdir with
    | some error => (w,.error ⟨.passed error,none⟩)
    | none =>
      if w.candidate then (w,.error (fsError "EEXIST"))
      else ({w with candidate := true,owned := true},.ok ())

/-- The calls that fill, check and flush the new tree, up to the first that fails. -/
def fill (host : Host) : List (Except Thrown Unit) → Program World Failure Unit
  | [] => pure ()
  | answer :: rest => do
    awaits host .fill answer
    fill host rest

/-- `try { await removeOwned } catch (cleanupError) { error.cleanupError = cleanupError }`, and
throw. -/
def removeAndThrow (host : Host) (failure : Failure) : Program World Failure Unit := do
  match ← (attempt (removeOwned host) : Program World Failure (Except Failure Unit)) with
  | .error cleanupError => fail ⟨failure.thrown,some cleanupError.thrown⟩
  | .ok _ => fail failure

def materializeAndVerify (host : Host) : Program World Failure Unit := do
  ask host.stageArguments
  assertCandidateAbsent host
  mkdirCandidate host
  recover (fill host host.fill) (removeAndThrow host)

end StagePromotion

namespace Restore

def OPERATION : String := "workspace_restore_migration"

structure RestoreRequest extends Request where
  migrationKind : Value
  workspaceRoot : Value
  stagingPath : Value
  leaseCandidate : Value
  expectedWorkspaceGeneration : Value
  expectedAuthority : Value
  manifest : Value
  restoredFromWorkspaceId : Value
  restoredFromGeneration : Value

def isUndefined : Value → Bool
  | .other 0 => true
  | _ => false

/-- `value === null || typeof value !== "object"` fails. -/
def isObjectLike : Value → Bool
  | .object _ | .array _ => true
  | _ => false

def isString : Value → Bool
  | .string _ => true
  | _ => false

def assertRequest (request : RestoreRequest) : Except Refusal Unit := do
  check (isText "restore" request.operation) (configInvalid OPERATION "request.operation must be 'restore'")
  check (isUndefined request.migrationKind || ResetDelete.isNonEmptyString request.migrationKind)
    (configInvalid OPERATION "request.migrationKind must be a non-empty string")
  assertText OPERATION "hostId" request.hostId
  assertText OPERATION "workspaceId" request.workspaceId
  assertText OPERATION "sourcePlatform" request.sourcePlatform
  assertText OPERATION "workspaceRoot" request.workspaceRoot
  assertText OPERATION "workDir" request.workDir
  assertText OPERATION "generationPath" request.generationPath
  assertText OPERATION "candidatePath" request.candidatePath
  assertText OPERATION "gitDir" request.gitDir
  assertText OPERATION "stagingPath" request.stagingPath
  check (isObjectLike request.leaseCandidate) (configInvalid OPERATION "request.leaseCandidate is required")
  check (isGeneration request.expectedWorkspaceGeneration)
    (configInvalid OPERATION "request.expectedWorkspaceGeneration must be a positive safe integer")
  check (isPlainObject request.expectedAuthority)
    (configInvalid OPERATION "request.expectedAuthority must be an object")
  check (isPlainObject request.manifest && isString (get request.manifest "manifestFingerprint"))
    (configInvalid OPERATION "request.manifest must carry manifestFingerprint")
  check (ResetDelete.isNonEmptyString request.restoredFromWorkspaceId &&
      isGeneration request.restoredFromGeneration)
    (configInvalid OPERATION "request restore lineage is invalid")
  check (Lifecycle.isCount request.probedAtMs && isPlainObject request.readiness)
    (configInvalid OPERATION "request readiness is invalid")
  CALLER_DIMENSIONS.forM fun dimension =>
    check (isPlainObject (get request.readiness dimension))
      (configInvalid OPERATION ("request.readiness." ++ dimension ++ " must be an object"))

/-- The live generation is the one the accepted binding names. -/
def assertAccepted (request : RestoreRequest) (live : Option Value) : Except Refusal Value :=
  match live with
  | none => .error (.plain OPERATION WORKSPACE_GENERATION_STALE
      "live generation does not match accepted workspace authority")
  | some live => do
    check (strictEqual (get live "hostId") request.hostId &&
        strictEqual (get live "workspaceId") request.workspaceId &&
        strictEqual (get live "sourcePlatform") request.sourcePlatform &&
        strictEqual (get live "activeGeneration") request.expectedWorkspaceGeneration)
      (.plain OPERATION WORKSPACE_GENERATION_STALE
        "live generation does not match accepted workspace authority")
    check (strictEqual (get request.manifest "hostId") request.hostId &&
        strictEqual (get request.manifest "workspaceId") request.workspaceId &&
        strictEqual (get request.manifest "sourcePlatform") request.sourcePlatform &&
        strictEqual (get request.manifest "workspaceGeneration") (next (get live "activeGeneration")))
      (.plain OPERATION "WORKSPACE_MANIFEST_INVALID"
        "restore manifest destination identity does not match accepted authority")
    return live

/-- `stageReader = await makeStageReader(..)`; what it is assigned is not checked first. -/
def openStageReader (host : Host) : Program World Failure Unit := do
  let reader ← awaits host .makeStageReader host.makeStageReader
  perform fun w => ({w with stageReader := reader.close},.ok ())
  compute (check reader.readBytes (configInvalid OPERATION "stageReader.readBytes must be a function"))

/-- `stageReader.close()`, if there is such a reader and method. -/
def closeStageReader (host : Host) (last : Bool) : Program World Failure Unit :=
  perform fun w =>
    if w.stageReader then (w.lose host .closeStageReader,raises (host.closeStageReader last))
    else (w,.ok ())

def setMaterialized (materialized : Bool) : Program World Failure Unit :=
  perform fun w => ({w with materialized := materialized},.ok ())

def LINEAGE_OPERATION : String := "workspace_reversible_promotion"
def LINEAGE_LIMITS : Limits := ⟨4096,8,64⟩

section Digest

variable (sha256 : List UInt8 → Units)

/-- `buildPromotionLineage`. -/
def buildPromotionLineage (restoredFromWorkspaceId restoredFromGeneration : Value) :
    Except Refusal Value := do
  check (isId restoredFromWorkspaceId) (.plain LINEAGE_OPERATION CONFIG_INVALID
    "restoredFromWorkspaceId must be a 1..256 char string")
  check (isGeneration restoredFromGeneration) (.plain LINEAGE_OPERATION CONFIG_INVALID
    "restoredFromGeneration must be a safe integer >= 1")
  let body := [(ofString "version",.number (.int 1)),(ofString "kind",textValue "workspace-promotion-lineage"),
    (ofString "restoredFromWorkspaceId",restoredFromWorkspaceId),
    (ofString "restoredFromGeneration",restoredFromGeneration)]
  let fingerprint ← (canonicalJsonHash sha256 (.object body) LINEAGE_LIMITS).mapError fun error =>
    .plain LINEAGE_OPERATION CONFIG_INVALID s!"lineage body is not canonicalizable: {error.message}"
  return .object (body ++ [(ofString "lineageFingerprint",.string fingerprint)])

variable (host : Host) (request : RestoreRequest)

/-- From the staged source to the candidate tree. -/
def stage : Program World Failure Value := do
  awaits host .makePublisherIo host.makePublisherIo
  let read ← readLiveGeneration sha256 host false
  let live ← compute (assertAccepted request read)
  proved .base
  ask host.quarantine
  proved .quarantine
  openStageReader host
  proving host .verifyProvenance .provenance host.verifyProvenance
  proving host .verifyChecksum .checksum host.verifyChecksum
  StagePromotion.materializeAndVerify host
  proved .staged
  setMaterialized true
  closeStageReader host false
  perform fun w => ({w with stageReader := false},.ok ())
  return live

/-- A failed parent flush may leave the new pointer live: its tree is kept. -/
def publishPromotion (pointer : Value) : Program World Failure Pointer.Receipt := do
  let published ← recover (publishGeneration sha256 host pointer) fun failure => do
    if thrownStep failure.thrown = some IoStep.flushParent.name then setMaterialized false
    fail failure
  setMaterialized false
  return published

def runFenced (lease : Lease) :
    Program World Failure Receipt := do
  assertLease OPERATION lease
  assertFenceCurrent OPERATION "live validation"
  let live ← stage sha256 host request
  let rootProof ← proving host .identifyRoot .root host.identifyRoot
  verifyContained host
  let git ← awaits host .verifyRepositoryGraph host.verifyRepositoryGraph
  compute (check (strictEqual git (get request.manifest "gitGenerationFingerprint"))
    (.plain OPERATION "WORKSPACE_MANIFEST_MISMATCH" "candidate Git graph does not match the trusted manifest"))
  proved .graph
  let root ← ask (host.hashIdentity rootProof.rootIdentity)
  let storage ← ask (host.hashIdentity rootProof.storageIdentity)
  let manifest := get request.manifest "manifestFingerprint"
  let pointer ← compute (buildGenerationPointer sha256
    ⟨request.hostId,request.workspaceId,request.sourcePlatform,next (get live "activeGeneration"),
      request.generationPath,root,storage,git,manifest,get live "activeGeneration",
      get live "pointerFingerprint"⟩)
  let attestation ← attest sha256 OPERATION host request.readiness request.probedAtMs pointer root
    git manifest
  assertFenceCurrent OPERATION "readiness"
  let published ← publishPromotion sha256 host pointer
  let lineage ← compute (buildPromotionLineage sha256 request.restoredFromWorkspaceId
    request.restoredFromGeneration)
  return ⟨request.operation,published,pointer,some lease.fence,attestation.readinessFingerprint,root,
    storage,git,manifest,some lineage⟩

/-- The `catch` of the restore. -/
def undo (failure : Failure) : Program World Failure Receipt := do
  let materialized ← inspect fun w => .ok w.materialized
  if materialized then
    match ← (attempt (StagePromotion.cleanup host) : Program World Failure (Except Failure Unit)) with
    | .error cleanupError => fail ⟨failure.thrown,some cleanupError.thrown⟩
    | .ok _ => fail failure
  else fail failure

def runRestoreMigration :
    Program World Failure Receipt := do
  compute (assertRequest request)
  compute (check (!isText "docker-session-volume" request.migrationKind)
    (.plain OPERATION "WORKSPACE_MIGRATION_UNSUPPORTED" "docker session-volume migration is not supported"))
  let lease ← acquireFence host
  finish (recover (runFenced sha256 host request lease) (undo host))
    (finish (closeStageReader host true) (releaseFence host lease))

end Digest

end Restore

end GjcRemote.Publish
