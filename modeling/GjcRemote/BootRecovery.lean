import GjcRemote.LifecycleEnvelope
import GjcRemote.LiveSlot

/-! Boot recovery over the durable files of the workspaces: the snapshot reader of
`workspace-generation-storage-io.js`, the classifier, the bounded queue and the
orchestrator `recoverWorkspaces`. A pass can lose its process while it handles a
workspace; what it replaced by then stays. -/
namespace GjcRemote.Recovery

open Utf16 StrictJson Record Workspace Lifecycle

structure Files where
  live : Option Bytes
  prior : Option Bytes
  candidate : Option Bytes
  checkpoint : Option Bytes
  transaction : Option Bytes
  manualCleanup : Option Bytes

inductive DurableFile where
  | live | prior | candidate | checkpoint | transaction | manualCleanup
  deriving DecidableEq, Repr

structure RecoveryFaults where
  reads : DurableFile → Option IoError
  publisher : Faults

/-- `RecoverySnapshot`: its key set is exact by construction, an absent record is `null`. -/
structure Snapshot where
  workspaceId : Value
  livePointer : Value
  priorPointer : Value
  candidatePointer : Value
  checkpoint : Value
  transaction : Value
  manualCleanup : Value

def OPERATION : String := "workspace_recovery_snapshot"
def SNAPSHOT_INVALID : String := "WORKSPACE_RECOVERY_SNAPSHOT_INVALID"

def raiseWith {α : Type} (result : Except JsError α) : Except Thrown α := result.mapError .raised

/-- `value ?? null`. -/
def orNull : Value → Value
  | .other 0 => .null
  | value => value

section Digest

variable (sha256 : List UInt8 → Units) (jsonParse : Bytes → Except JsError Value)

/-- `readBytesOrNull`: only a missing file is `null`. -/
def readBytesOrNull (fault : Option IoError) (file : Option Bytes) : Except Thrown (Option Bytes) :=
  match fault with
  | some error => .error (.passed error)
  | none => .ok file

def readJsonOrNull (fault : Option IoError) (file : Option Bytes) : Except Thrown Value := do
  match ← readBytesOrNull fault file with
  | none => return .null
  | some bytes => raiseWith (jsonParse bytes)

def pointerOrNull (bytes : Option Bytes) : Except Thrown Value :=
  match bytes with
  | none => .ok .null
  | some bytes => refuseWith (Pointer.parseGenerationPointer sha256 bytes)

/-- `readSnapshotInputs`. The six reads run together; which of several failures is
reported is settled here in their order. -/
def readSnapshotInputs (reads : DurableFile → Option IoError) (workspaceId : Units)
    (files : Files) : Except Thrown Snapshot := do
  let live ← readBytesOrNull (reads .live) files.live
  let prior ← readBytesOrNull (reads .prior) files.prior
  let candidate ← readBytesOrNull (reads .candidate) files.candidate
  let checkpoint ← readJsonOrNull jsonParse (reads .checkpoint) files.checkpoint
  let transaction ← readJsonOrNull jsonParse (reads .transaction) files.transaction
  let manualCleanup ← readJsonOrNull jsonParse (reads .manualCleanup) files.manualCleanup
  let livePointer ← pointerOrNull sha256 live
  let priorPointer ← pointerOrNull sha256 prior
  let candidatePointer ← pointerOrNull sha256 candidate
  return ⟨.string workspaceId,livePointer,priorPointer,candidatePointer,checkpoint,transaction,manualCleanup⟩

def validateUnlessNull (value : Value) (validate : Except Thrown Unit) : Except Thrown Unit :=
  if isNull value then .ok () else validate

section

variable (snapshot : Snapshot)

def validateRecoverySnapshot : Except Thrown Unit := do
  refuseWith (check (isId snapshot.workspaceId)
    (.plain OPERATION SNAPSHOT_INVALID "workspaceId must be a 1..256 char string"))
  validateUnlessNull snapshot.transaction
    (raiseWith (validateWorkspaceLifecycleTransaction sha256 snapshot.transaction))
  validateUnlessNull snapshot.checkpoint
    (raiseWith (validateWorkspaceLifecycleCheckpoint sha256 snapshot.checkpoint snapshot.transaction))
  validateUnlessNull snapshot.livePointer
    (refuseWith (Pointer.validateGenerationPointer sha256 snapshot.livePointer))
  validateUnlessNull snapshot.priorPointer
    (refuseWith (Pointer.validateGenerationPointer sha256 snapshot.priorPointer))
  validateUnlessNull snapshot.candidatePointer
    (refuseWith (Pointer.validateGenerationPointer sha256 snapshot.candidatePointer))
  validateUnlessNull snapshot.manualCleanup (raiseWith (validateManualCleanup sha256 snapshot.manualCleanup))

def buildRecoverySnapshot (input : Snapshot) : Except Thrown Snapshot := do
  let snapshot := {input with
    livePointer := orNull input.livePointer
    priorPointer := orNull input.priorPointer
    candidatePointer := orNull input.candidatePointer
    checkpoint := orNull input.checkpoint
    transaction := orNull input.transaction
    manualCleanup := orNull input.manualCleanup}
  validateRecoverySnapshot sha256 snapshot
  return snapshot

/-- The four dispositions; a replay carries the candidate to publish. -/
inductive Disposition where
  | committed
  | committedNeedsFlush
  | safeReplay (candidatePointer : Value)
  | manualCleanup

def Disposition.name : Disposition → String
  | .committed => "committed"
  | .committedNeedsFlush => "committed-needs-flush"
  | .safeReplay _ => "safe-replay"
  | .manualCleanup => "manual_cleanup"

def pointerFp (pointer : Value) : Value :=
  if isNull pointer then .null else get pointer "pointerFingerprint"

def replaceLanded : Bool :=
  !isNull (pointerFp snapshot.livePointer) &&
    strictEqual (pointerFp snapshot.livePointer) (get snapshot.transaction "candidateFingerprint")

def replaceNeverLanded : Bool :=
  strictEqual (pointerFp snapshot.livePointer) (pointerFp snapshot.priorPointer)

def candidateBodyMatches : Bool :=
  !isNull (pointerFp snapshot.candidatePointer) &&
    strictEqual (pointerFp snapshot.candidatePointer) (get snapshot.transaction "candidateFingerprint")

def candidateChainsOntoLive : Bool :=
  !isNull snapshot.candidatePointer &&
    strictEqual (get snapshot.candidatePointer "priorPointerFingerprint") (pointerFp snapshot.livePointer)

def dispositionOf : Disposition :=
  if !isNull snapshot.manualCleanup then .manualCleanup
  else if isNull snapshot.transaction && isNull snapshot.checkpoint then .committed
  else if isNull snapshot.transaction || isNull snapshot.checkpoint then .manualCleanup
  else if isText "committed" (get snapshot.checkpoint "phase") then
    if replaceLanded snapshot then .committed else .manualCleanup
  else if isOneOf ["prepared","applied"] (get snapshot.checkpoint "phase") then
    if replaceLanded snapshot then .committedNeedsFlush
    else if replaceNeverLanded snapshot && candidateBodyMatches snapshot &&
        candidateChainsOntoLive snapshot then .safeReplay snapshot.candidatePointer
    else .manualCleanup
  else .manualCleanup

def classifyGenerationRecovery : Except Thrown Disposition := do
  validateRecoverySnapshot sha256 snapshot
  return dispositionOf snapshot

end

inductive Action where
  | none | flushed | republished | barred
  deriving DecidableEq, Repr

/-- `String(error?.code ?? "unknown")`; the reason is the text of the cause. -/
structure Failure where
  code : String
  cause : Thrown

def failureOf (thrown : Thrown) : Failure :=
  ⟨match thrown with
    | .refusal refusal => refusal.code
    | .raised _ => "unknown"
    | .passed error => error.code.getD "unknown",thrown⟩

structure Processed where
  workspaceId : Units
  disposition : String
  action : Action
  failure : Option Failure

/-- What the files of a workspace are classified as, or why they cannot be. -/
def classified (reads : DurableFile → Option IoError) (workspaceId : Units) (files : Files) :
    Except Thrown Disposition := do
  let inputs ← readSnapshotInputs sha256 jsonParse reads workspaceId files
  let snapshot ← buildRecoverySnapshot sha256 inputs
  classifyGenerationRecovery sha256 snapshot

/-- The report on a workspace whose action failed or not. -/
def settle {α : Type} (workspaceId : Units) (disposition : Disposition) (action : Action)
    (result : Except Thrown α) : Processed :=
  match result with
  | .ok _ => ⟨workspaceId,disposition.name,action,none⟩
  | .error thrown => ⟨workspaceId,disposition.name,.barred,some (failureOf thrown)⟩

/-- The body of the loop: act on the disposition and only on it, and bar the workspace
on any failure. Only `publishGeneration` writes. -/
def recoverWorkspace (faults : RecoveryFaults) (workspaceId : Units) (files : Files) :
    Files × Processed :=
  match classified sha256 jsonParse faults.reads workspaceId files with
  | .error thrown =>
    (files,⟨workspaceId,"manual_cleanup",.barred,some (failureOf thrown)⟩)
  | .ok .committed => (files,⟨workspaceId,Disposition.committed.name,.none,none⟩)
  | .ok .committedNeedsFlush =>
    let flushed : Except Thrown Unit :=
      match faults.publisher .flushParent with
      | none => .ok ()
      | some error => .error (.passed error)
    (files,settle workspaceId .committedNeedsFlush .flushed flushed)
  | .ok (.safeReplay candidatePointer) =>
    let (live,result) :=
      Pointer.publishGeneration sha256 faults.publisher files.live candidatePointer
    ({files with live := live},settle workspaceId (.safeReplay candidatePointer) .republished result)
  | .ok .manualCleanup => (files,⟨workspaceId,Disposition.manualCleanup.name,.barred,none⟩)

end Digest

def QUEUE_OPERATION : String := "workspace_recovery_queue"
def QUEUE_INVALID : String := "WORKSPACE_RECOVERY_QUEUE_INVALID"
def ADMISSION_EXCEEDED : String := "WORKSPACE_ADMISSION_EXCEEDED"
def MAX_RECOVERY_BATCH : Nat := 8
def MAX_RECOVERY_TOTAL : Nat := 64

def queueInvalid (reason : String) (detail : Option Value) : Refusal :=
  ⟨QUEUE_OPERATION,QUEUE_INVALID,reason,detail,[]⟩

/-- Every id is a bounded string that was not seen before. -/
def admitIds : List Value → List Units → Except Refusal (List Units)
  | [],seen => .ok seen
  | item :: rest,seen =>
    match item with
    | .string id =>
      if isId item = false then
        .error (queueInvalid "every workspaceId must be a 1..256 char string" none)
      else if id ∈ seen then .error (queueInvalid "duplicate workspaceId: " (some item))
      else admitIds rest (seen ++ [id])
    | _ => .error (queueInvalid "every workspaceId must be a 1..256 char string" none)

def admissionExceeded (requested : Nat) : Refusal :=
  ⟨QUEUE_OPERATION,ADMISSION_EXCEEDED,
    s!"recovery admission of {requested} workspaces exceeds the {MAX_RECOVERY_TOTAL} ceiling",none,
    [("requested",.number (.int requested)),("ceiling",.number (.int MAX_RECOVERY_TOTAL)),
      ("admitted",.number (.int 0))]⟩

/-- The slices of the loop `for (index = 0; index < length; index += MAX_RECOVERY_BATCH)`. -/
def batchesOf (ids : List Units) : List (List Units) :=
  (List.range ((ids.length + (MAX_RECOVERY_BATCH - 1)) / MAX_RECOVERY_BATCH)).map fun index =>
    (ids.drop (index * MAX_RECOVERY_BATCH)).take MAX_RECOVERY_BATCH

structure Plan where
  totalAdmitted : Nat
  batches : List (List Units)

def planRecoveryBatches (workspaceIds : Value) : Except Refusal Plan :=
  match workspaceIds with
  | .array items => do
    let ids ← admitIds items []
    check (ids.length ≤ MAX_RECOVERY_TOTAL) (admissionExceeded ids.length)
    return ⟨ids.length,batchesOf ids⟩
  | _ => .error (queueInvalid "workspaceIds must be an array" none)

/-- One boot: the ids it is given, the steps that fail, and the workspace during whose
handling the process dies, if it does: at the failing step, or after the last one. -/
structure Pass where
  workspaceIds : Value
  faults : Units → RecoveryFaults
  crash : Option Units

abbrev Store := Units → Files

def Store.set (store : Store) (id : Units) (files : Files) : Store :=
  fun other => if other = id then files else store other

inductive Ending where
  | refused (refusal : Refusal)
  | crashed
  | completed (admitted batchCount : Nat) (barredWorkspaceIds : List Units)

/-- What a pass did to each workspace it came to, and how it ended. -/
structure Outcome where
  processed : List Processed
  ending : Ending

section Digest

variable (sha256 : List UInt8 → Units) (jsonParse : Bytes → Except JsError Value)

/-- The loop over the workspaces; the flag tells whether the process lived through it. -/
def recoverIds (faults : Units → RecoveryFaults) (crash : Option Units) :
    List Units → Store → Store × List Processed × Bool
  | [],store => (store,[],true)
  | id :: rest,store =>
    let (files,entry) := recoverWorkspace sha256 jsonParse (faults id) id (store id)
    if crash = some id then (store.set id files,[entry],false)
    else
      let (after,entries,alive) := recoverIds faults crash rest (store.set id files)
      (after,entry :: entries,alive)

def barredOf (processed : List Processed) : List Units :=
  (processed.filter fun entry => entry.action = .barred).map Processed.workspaceId

/-- `recoverWorkspaces`; the two nested loops run over the ids of all batches in order. -/
def recoverWorkspaces (store : Store) (pass : Pass) : Store × Outcome :=
  match planRecoveryBatches pass.workspaceIds with
  | .error refusal => (store,⟨[],.refused refusal⟩)
  | .ok plan =>
    let (after,processed,alive) :=
      recoverIds sha256 jsonParse pass.faults pass.crash plan.batches.flatten store
    (after,⟨processed,
      if alive then .completed plan.totalAdmitted plan.batches.length (barredOf processed)
      else .crashed⟩)

end Digest

end GjcRemote.Recovery
