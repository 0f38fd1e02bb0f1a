import GjcRemote.BootRecovery
import GjcRemote.CrashTrace

/-! The destructive transition `runResetDelete` of
`daemon/src/workspace-reset-delete-operation.js` over the real storage io, with the
callbacks the daemon passes it: the manual-cleanup record is published and cleared as in
`workspace-generation-storage-io.js`, and the terminal commit bars the workspace. Each
file changes in one atomic step (a rename or an unlink), so a crash leaves the files as
before or after it. -/
namespace GjcRemote.ResetDelete

open Utf16 StrictJson Record Workspace Lifecycle
open CrashTrace CrashTrace.Program
open Recovery (Files raiseWith)

def OPERATION : String := "workspace_reset_delete"
def CONFIG_INVALID : String := "CONFIG_INVALID"
def LEASE_CONFLICT : String := "LEASE_CONFLICT"
def WORKSPACE_BUSY : String := "WORKSPACE_BUSY"
def WORKSPACE_GENERATION_STALE : String := "WORKSPACE_GENERATION_STALE"
def RESET_DELETE_OPERATIONS : List String := ["reset","delete"]

def LIFECYCLE_AUTHORITY_KEYS : List String :=
  ["anchorFingerprint","fenceGeneration","txId","reason","expectedFingerprint",
    "observedFingerprint","expectedFloorFingerprint","observedFloorFingerprint"]

def refusal (code reason : String) : Refusal := .plain OPERATION code reason
def configInvalid (reason : String) : Refusal := refusal CONFIG_INVALID reason
def stale (reason : String) : Refusal := refusal WORKSPACE_GENERATION_STALE reason

/-- What a file system call rejects with; a missing file is no failure. -/
structure FsError where
  code : String

def FsError.io (error : FsError) : IoError := ⟨none,some error.code,none⟩

/-- `error?.step` and `error?.code`. -/
def thrownStep : Thrown → Option String
  | .refusal refusal => refusal.step
  | .raised _ => none
  | .passed error => error.step

def thrownCode : Thrown → Option String
  | .refusal refusal => some refusal.code
  | .raised _ => none
  | .passed error => error.code

inductive CleanupStep where
  | ensureDir
  | pointer (step : IoStep)
  | unlink
  deriving DecidableEq, Repr

abbrev CleanupFaults := CleanupStep → Option FsError

/-- `error.terminalPreparationAmbiguous` travels with the error. -/
structure CleanupFailure where
  thrown : Thrown
  ambiguous : Bool

def journalConflict : Thrown := .passed ⟨none,some "WORKSPACE_LIFECYCLE_JOURNAL_CONFLICT",none⟩

def cleanupStepFailed (step : IoStep) (error : IoError) : CleanupFailure :=
  ⟨.passed error,step = .flushParent⟩

def clearManualCleanup (faults : CleanupFaults) (existing : Option Bytes) :
    Option Bytes × Except Thrown Unit :=
  match faults .ensureDir with
  | some error => (existing,.error (.passed error.io))
  | none =>
    match faults .unlink with
    | some error => (existing,.error (.passed error.io))
    | none =>
      match faults (.pointer .flushParent) with
      | some error => (none,.error (.passed error.io))
      | none => (none,.ok ())

section Digest

variable (sha256 : List UInt8 → Units)

/-- The bytes still to be written, if they are not there yet. -/
def prepareCleanup (faults : CleanupFaults) (existing : Option Bytes) (record : Value) :
    Except Thrown (Option Bytes) := do
  if let some error := faults .ensureDir then throw (.passed error.io)
  raiseWith (validateManualCleanup sha256 record)
  let bytes ← raiseWith (canonicalJsonBytes record STRICT_JSON_LIMITS)
  if let some error := faults (.pointer .readLivePointer) then throw (.passed error.io)
  match existing with
  | none => return some bytes
  | some held => if held = bytes then return none else throw journalConflict

def publishManualCleanup (faults : CleanupFaults) (existing : Option Bytes) (record : Value) :
    Option Bytes × Except CleanupFailure Unit :=
  match prepareCleanup sha256 faults existing record with
  | .error thrown => (existing,.error ⟨thrown,false⟩)
  | .ok none => (existing,.ok ())
  | .ok (some bytes) =>
    runSteps cleanupStepFailed (fun step => (faults (.pointer step)).map FsError.io) existing bytes

structure Request where
  operation : Value
  hostId : Value
  workspaceId : Value
  sourcePlatform : Value
  workDir : Value
  leaseCandidate : Value
  expectedWorkspaceGeneration : Value
  lifecycleAuthority : Value

def isNonEmptyString : Value → Bool
  | .string units => units ≠ []
  | _ => false

def isNullish : Value → Bool
  | .null | .other 0 => true
  | _ => false

def assertText (key : String) (value : Value) : Except Refusal Unit :=
  check (isNonEmptyString value) (configInvalid ("request." ++ key ++ " must be a non-empty string"))

def assertRequest (request : Request) : Except Refusal Unit := do
  check (isOneOf RESET_DELETE_OPERATIONS request.operation)
    (configInvalid "operation must be 'reset' or 'delete'")
  assertText "hostId" request.hostId
  assertText "workspaceId" request.workspaceId
  assertText "sourcePlatform" request.sourcePlatform
  assertText "workDir" request.workDir
  check (!isNullish request.leaseCandidate)
    (configInvalid "request.leaseCandidate is required for the exclusive fence")
  check (isGeneration request.expectedWorkspaceGeneration)
    (configInvalid "request.expectedWorkspaceGeneration must be a positive safe integer")
  check (hasExactKeys request.lifecycleAuthority LIFECYCLE_AUTHORITY_KEYS)
    (configInvalid ("request.lifecycleContext.lifecycleAuthority must carry exactly " ++
      ", ".intercalate LIFECYCLE_AUTHORITY_KEYS))

/-- `{ ...record, [key]: value }` for a key the record has. -/
def withMember (record : Value) (key : String) (value : Value) : Value :=
  match record with
  | .object entries =>
    .object (entries.map fun e => if e.1 = ofString key then (e.1,value) else e)
  | other => other

def cleanupRecord (lifecycleAuthority : Value) : Value :=
  .object [(ofString "version",.number (.int 1)),(ofString "kind",textValue "manual-cleanup"),
    (ofString "anchorFingerprint",get lifecycleAuthority "anchorFingerprint"),
    (ofString "fenceGeneration",get lifecycleAuthority "fenceGeneration"),
    (ofString "txId",get lifecycleAuthority "txId"),
    (ofString "reason",get lifecycleAuthority "reason"),
    (ofString "expectedFingerprint",get lifecycleAuthority "expectedFingerprint"),
    (ofString "observedFingerprint",get lifecycleAuthority "observedFingerprint"),
    (ofString "expectedFloorFingerprint",get lifecycleAuthority "expectedFloorFingerprint"),
    (ofString "observedFloorFingerprint",get lifecycleAuthority "observedFloorFingerprint"),
    (ofString "routeDisposition",textValue "no-route"),
    (ofString "blockedUntilOwnerAction",.bool true),(ofString "manualCleanupFingerprint",.null)]

/-- `classifyWorkspaceLifecycleEvidence` on a manual-cleanup record alone. -/
def classifyCleanupEvidence (manualCleanup : Value) : String :=
  match validateManualCleanup sha256 manualCleanup with
  | .ok _ => "manual_cleanup"
  | .error _ => "no-route"

def buildManualCleanup (lifecycleAuthority : Value) : Except Thrown Value := do
  let body := cleanupRecord lifecycleAuthority
  let fingerprint ← raiseWith (recordHash sha256 body "manualCleanupFingerprint")
  let record := withMember body "manualCleanupFingerprint" (.string fingerprint)
  refuseWith ((validateManualCleanup sha256 record).mapError fun error =>
    configInvalid ("manual-cleanup authority is invalid: " ++ error.message))
  refuseWith (check (classifyCleanupEvidence sha256 record = "manual_cleanup")
    (configInvalid "manual-cleanup record did not classify as manual_cleanup"))
  return record

structure TombstoneInput where
  hostId : Value
  workspaceId : Value
  sourcePlatform : Value
  operation : Value
  tombstonedGeneration : Value
  priorKind : String
  priorPointerFingerprint : Value
  dirtyBackupFingerprint : Value

def tombstoneRecord (input : TombstoneInput) : Value :=
  .object [(ofString "version",.number (.int 1)),(ofString "kind",textValue Tombstone.KIND),
    (ofString "hostId",input.hostId),(ofString "workspaceId",input.workspaceId),
    (ofString "sourcePlatform",input.sourcePlatform),(ofString "operation",input.operation),
    (ofString "tombstonedGeneration",input.tombstonedGeneration),
    (ofString "priorKind",textValue input.priorKind),
    (ofString "priorPointerFingerprint",input.priorPointerFingerprint),
    (ofString "dirtyBackupFingerprint",Recovery.orNull input.dirtyBackupFingerprint),
    (ofString "tombstoneFingerprint",.null)]

def buildTombstone (input : TombstoneInput) : Except Refusal Value := do
  let body := tombstoneRecord input
  let fingerprint ← Tombstone.tombstoneFingerprintOf sha256 body
  let record := withMember body "tombstoneFingerprint" (.string fingerprint)
  Tombstone.validateTombstone sha256 record
  return record

inductive FenceCheck where
  | liveRead | publication | terminalPreparation
  deriving DecidableEq, Repr

def FenceCheck.name : FenceCheck → String
  | .liveRead => "live-read"
  | .publication => "publication"
  | .terminalPreparation => "terminal-preparation"

/-- What the operation meets: the answers of its callbacks and the failures of its io. The
backup and the residual scan read the tree only. -/
structure Host where
  acquireFence : Except Thrown Value
  probeQuiescence : Except Thrown Value
  isCurrent : FenceCheck → Bool
  tombstoneIo : Except Thrown Unit
  readLive : Option FsError
  dirtyBackup : Tombstone.Disposition → Except Thrown Value
  residualAbsence : Except Thrown Unit
  prepare : CleanupFaults
  publication : IoStep → Option FsError
  clear : CleanupFaults
  retireBinding : Except Thrown Unit

/-- The durable files, and what the running daemon holds against serving the workspace. -/
structure World where
  files : Files
  barred : Bool
  fenced : Bool

structure Cause where
  code : Option String
  step : Option String

structure Receipt where
  operation : Value
  published : Option Tombstone.Receipt
  tombstone : Value
  fence : Value
  dirtyBackupFingerprint : Value
  disposition : String
  manualCleanup : Option Value
  cause : Option Cause

/-- `assertQuiescent`; a missing probe has no counts. -/
def assertQuiescent (probe : Value) : Except Thrown Unit := do
  raiseWith (check (isCount (get probe "pendingInvokes"))
    (typeError "assertQuiescent pendingInvokes must be a non-negative safe integer"))
  raiseWith (check (isCount (get probe "pendingSessions"))
    (typeError "assertQuiescent pendingSessions must be a non-negative safe integer"))
  check (safeInteger (get probe "pendingInvokes") = some 0 &&
      safeInteger (get probe "pendingSessions") = some 0)
    (.passed ⟨none,some WORKSPACE_BUSY,none⟩)

variable (host : Host)

def assertFenceCurrent (checkpoint : FenceCheck) : Except Thrown Unit :=
  refuseWith (check (host.isCurrent checkpoint)
    ⟨OPERATION,LEASE_CONFLICT,"exclusive fence was lost before " ++ checkpoint.name,none,
      [("checkpoint",textValue checkpoint.name)]⟩)

/-- The live record must be the pointer of the accepted binding. -/
def assertAccepted (request : Request) (live : Tombstone.Disposition) : Except Refusal Unit := do
  check (live.kind = Pointer.KIND) (stale "live slot is not the accepted generation pointer")
  check (strictEqual (get live.record "hostId") request.hostId &&
      strictEqual (get live.record "workspaceId") request.workspaceId &&
      strictEqual (get live.record "sourcePlatform") request.sourcePlatform &&
      strictEqual (get live.record "activeGeneration") request.expectedWorkspaceGeneration)
    (stale "live pointer identity differs from the accepted binding")

def acquireFence : Program World Thrown Value :=
  perform fun world =>
    match host.acquireFence with
    | .error thrown => (world,.error thrown)
    | .ok fence => ({world with fenced := true},.ok fence)

/-- Quiescence and fence first; only then is the slot opened and read. -/
def readAccepted (request : Request) :
    Program World Thrown Tombstone.Disposition := do
  let probe ← lift host.probeQuiescence
  lift (assertQuiescent probe)
  lift (assertFenceCurrent host .liveRead)
  lift host.tombstoneIo
  let live ← inspect fun world =>
    Tombstone.readLiveDisposition sha256 (fun _ => host.readLive.map FsError.io) world.files.live
  match live with
  | none => fail (.refusal (stale "no live record to tombstone"))
  | some live => do
    lift (refuseWith (assertAccepted request live))
    return live

def prepareTerminal (manualCleanup : Value) : Program World CleanupFailure Unit :=
  perform fun world =>
    let (held,result) :=
      publishManualCleanup sha256 host.prepare world.files.manualCleanup manualCleanup
    ({world with files := {world.files with manualCleanup := held}},result)

def clearTerminalPreparation : Program World Thrown Unit :=
  perform fun world =>
    let (held,result) := clearManualCleanup host.clear world.files.manualCleanup
    ({world with files := {world.files with manualCleanup := held}},result)

def publishTombstone (tombstone : Value) : Program World Thrown Tombstone.Receipt :=
  perform fun world =>
    let (live,result) := Tombstone.publishTombstone sha256
      (fun step => (host.publication step).map FsError.io) world.files.live tombstone
    ({world with files := {world.files with live := live}},result)

/-- The workspace is barred before the fallible retirement of its binding. -/
def commitTerminal : Program World Thrown Unit :=
  perform fun world => ({world with barred := true},host.retireBinding)

structure Terminal where
  operation : Value
  tombstone : Value
  fence : Value
  dirtyBackupFingerprint : Value
  manualCleanup : Value

variable (terminal : Terminal)

def Terminal.committed (published : Tombstone.Receipt) : Receipt :=
  ⟨terminal.operation,some published,terminal.tombstone,terminal.fence,
    terminal.dirtyBackupFingerprint,"committed",none,none⟩

def Terminal.cleanup (code step : Option String) : Receipt :=
  ⟨terminal.operation,none,terminal.tombstone,terminal.fence,terminal.dirtyBackupFingerprint,
    "manual_cleanup",some terminal.manualCleanup,some ⟨code,step⟩⟩

def commitManualCleanup (thrown : Thrown)
    (step : Option String) : Program World Thrown Receipt := do
  commitTerminal host
  return terminal.cleanup (thrownCode thrown) step

/-- Undo the preparation and throw, unless undoing fails. -/
def clearOr (thrown : Thrown) : Program World Thrown Receipt := do
  match ← attempt (clearTerminalPreparation host) with
  | .error clearError =>
    commitManualCleanup host terminal clearError (some "clearTerminalPreparation")
  | .ok _ => fail thrown

def TOMBSTONE_STEPS : List String := PUBLISH_STEPS.map IoStep.name

def fenceLost : Thrown :=
  .refusal ⟨OPERATION,LEASE_CONFLICT,"exclusive fence was lost after terminal preparation",none,
    [("checkpoint",textValue FenceCheck.terminalPreparation.name)]⟩

/-- `TOMBSTONE_STEPS.includes(error?.step)`. -/
def isTombstoneStep (thrown : Thrown) : Bool :=
  (thrownStep thrown).any fun step => TOMBSTONE_STEPS.contains step

/-- After the tombstone is live: commit, then drop the preparation. -/
def commitPublished (published : Tombstone.Receipt) :
    Program World Thrown Receipt := do
  commitTerminal host
  match ← attempt (clearTerminalPreparation host) with
  | .error thrown =>
    return terminal.cleanup (thrownCode thrown) (some "clearTerminalPreparation")
  | .ok _ => return terminal.committed published

def publishTerminal : Program World Thrown Receipt := do
  match ← attempt (publishTombstone sha256 host terminal.tombstone) with
  | .error thrown =>
    if isTombstoneStep thrown then commitManualCleanup host terminal thrown (thrownStep thrown)
    else clearOr host terminal thrown
  | .ok published => commitPublished host terminal published

def runTerminal : Program World Thrown Receipt := do
  match ← attempt (prepareTerminal sha256 host terminal.manualCleanup) with
  | .error failure =>
    if failure.ambiguous then
      commitManualCleanup host terminal failure.thrown (some "prepareTerminal")
    else fail failure.thrown
  | .ok _ =>
    if host.isCurrent .terminalPreparation then publishTerminal sha256 host terminal
    else clearOr host terminal fenceLost

def runFenced (request : Request) (manualCleanup fence : Value) :
    Program World Thrown Receipt := do
  let live ← readAccepted sha256 host request
  let dirtyBackupFingerprint ← lift (host.dirtyBackup live)
  lift host.residualAbsence
  lift (assertFenceCurrent host .publication)
  let tombstone ← lift (refuseWith (buildTombstone sha256
    ⟨request.hostId,request.workspaceId,request.sourcePlatform,request.operation,
      get live.record "activeGeneration",live.kind,live.fingerprint,dirtyBackupFingerprint⟩))
  runTerminal sha256 host ⟨request.operation,tombstone,fence,dirtyBackupFingerprint,manualCleanup⟩

def runResetDelete (request : Request) : Program World Thrown Receipt := do
  lift (refuseWith (assertRequest request))
  let manualCleanup ← lift (buildManualCleanup sha256 request.lifecycleAuthority)
  let fence ← acquireFence host
  ensuring (runFenced sha256 host request manualCleanup fence) fun world => {world with fenced := false}

end Digest

end GjcRemote.ResetDelete
