import GjcRemote.BootRecovery
import GjcRemote.LiveSlotChain

/-! Boot recovery over any sequence of passes, each of which can lose its process: the
slot moves at most once, and only to the candidate that its transaction names. -/
namespace GjcRemote.Recovery

open Utf16 StrictJson Record Workspace Lifecycle Pointer Except Runs
open List hiding get

theorem admitIds_ok (admitted : admitIds items seen = .ok ids) (distinct : seen.Nodup) :
    ids.Nodup ∧ ids.length = seen.length + items.length := by
  induction items generalizing seen with
  | nil =>
    cases admitted
    exact ⟨distinct,rfl⟩
  | cons item rest ih =>
    cases item with
    | string id =>
      simp only [admitIds] at admitted
      split at admitted
      · cases admitted
      · split at admitted
        · cases admitted
        · next fresh =>
          have distinct' : (seen ++ [id]).Nodup := by
            refine nodup_append.mpr ⟨distinct,nodup_singleton id,fun a member b last => ?_⟩
            rintro rfl
            exact fresh (mem_singleton.mp last ▸ member)
          obtain ⟨nodup,length⟩ := ih admitted distinct'
          refine ⟨nodup,?_⟩
          simp only [length_append,length_cons,length_nil] at length ⊢
          omega
    | _ => simp [admitIds] at admitted

/-- The batches are the ids, each once and in order. -/
theorem batchesOf_flatten (ids : List Units) : (batchesOf ids).flatten = ids := by
  have slices : ∀ count, ((List.range count).map fun index =>
      (ids.drop (index * MAX_RECOVERY_BATCH)).take MAX_RECOVERY_BATCH).flatten =
        ids.take (count * MAX_RECOVERY_BATCH) := by
    intro count
    induction count with
    | zero => simp
    | succ count ih =>
      rw [range_succ,map_append,flatten_append,ih,Nat.succ_mul,take_add]
      simp
  rw [batchesOf,slices]
  apply take_of_length_le
  rw [MAX_RECOVERY_BATCH]
  omega

theorem planRecoveryBatches_ok (planned : planRecoveryBatches workspaceIds = .ok plan) :
    plan.batches.flatten.Nodup ∧ ∀ items, workspaceIds = .array items → items.length ≤ MAX_RECOVERY_TOTAL := by
  cases workspaceIds with
  | array items =>
    rw [planRecoveryBatches,except_bind_ok] at planned
    obtain ⟨ids,admitted,rest⟩ := planned
    rw [except_unit_bind_ok,check_ok,decide_eq_true_eq] at rest
    obtain ⟨bounded,result⟩ := rest
    cases result
    obtain ⟨distinct,length⟩ := admitIds_ok admitted nodup_nil
    refine ⟨by rw [batchesOf_flatten]; exact distinct,fun _ same => ?_⟩
    cases same
    omega
  | _ => simp [planRecoveryBatches] at planned

def handledIds (crash : Option Units) : List Units → List Units
  | [] => []
  | id :: rest => if crash = some id then [id] else id :: handledIds crash rest

def handled (pass : Pass) : List Units :=
  match planRecoveryBatches pass.workspaceIds with
  | .error _ => []
  | .ok plan => handledIds pass.crash plan.batches.flatten

theorem handledIds_subset (crash : Option Units) (ids : List Units) : handledIds crash ids ⊆ ids := by
  induction ids with
  | nil => exact List.Subset.refl _
  | cons id rest ih =>
    rw [handledIds]
    split
    · exact cons_subset_cons id (nil_subset rest)
    · exact cons_subset_cons id ih

section Digest

variable {sha256 : List UInt8 → Units} {jsonParse : Bytes → Except JsError Value}

/-- A pass handles each of its workspaces by itself. -/
theorem recoverIds_spec (faults : Units → RecoveryFaults) (crash : Option Units)
    (ids : List Units) (distinct : ids.Nodup) (store : Store) :
    (∀ other, (recoverIds sha256 jsonParse faults crash ids store).1 other =
      if other ∈ handledIds crash ids then
        (recoverWorkspace sha256 jsonParse (faults other) other (store other)).1 else store other) ∧
    (recoverIds sha256 jsonParse faults crash ids store).2.1 = (handledIds crash ids).map fun id =>
        (recoverWorkspace sha256 jsonParse (faults id) id (store id)).2 := by
  induction ids generalizing store with
  | nil => exact ⟨fun other => by simp [recoverIds,handledIds],rfl⟩
  | cons id rest ih =>
    obtain ⟨absent,distinct'⟩ := nodup_cons.mp distinct
    by_cases dies : crash = some id
    · refine ⟨fun other => ?_,by simp [recoverIds,handledIds,dies]⟩
      by_cases same : other = id
      · subst same
        simp [recoverIds,handledIds,dies,Store.set]
      · simp [recoverIds,handledIds,dies,Store.set,same]
    · obtain ⟨files,entries⟩ := ih distinct'
        (store.set id (recoverWorkspace sha256 jsonParse (faults id) id (store id)).1)
      have untouched : ∀ other ∈ handledIds crash rest, other ≠ id := fun other member same =>
        absent (same ▸ handledIds_subset crash rest member)
      constructor
      · intro other
        simp only [recoverIds,handledIds,dies,if_false,files,mem_cons]
        by_cases same : other = id
        · subst same
          have absent' : other ∉ handledIds crash rest := fun member => untouched other member rfl
          simp [Store.set,absent']
        · simp [Store.set,same]
      · simp only [recoverIds,handledIds,dies,if_false,entries,map_cons,List.cons.injEq,true_and]
        apply map_congr_left
        intro other member
        simp [Store.set,untouched other member]

theorem recoverWorkspaces_files (store : Store) (pass : Pass) (other : Units) :
    (recoverWorkspaces sha256 jsonParse store pass).1 other = if other ∈ handled pass then
        (recoverWorkspace sha256 jsonParse (pass.faults other) other (store other)).1 else store other := by
  unfold recoverWorkspaces handled
  cases planned : planRecoveryBatches pass.workspaceIds with
  | error refusal => simp
  | ok plan =>
    exact (recoverIds_spec pass.faults pass.crash _ (planRecoveryBatches_ok planned).1 store).1 other

theorem recoverWorkspaces_processed (store : Store) (pass : Pass) :
    (recoverWorkspaces sha256 jsonParse store pass).2.processed = (handled pass).map fun id =>
        (recoverWorkspace sha256 jsonParse (pass.faults id) id (store id)).2 := by
  unfold recoverWorkspaces handled
  cases planned : planRecoveryBatches pass.workspaceIds with
  | error refusal => simp
  | ok plan =>
    exact (recoverIds_spec pass.faults pass.crash _ (planRecoveryBatches_ok planned).1 store).2

structure Spelled (sha256 : List UInt8 → Units) (jsonParse : Bytes → Except JsError Value)
    (files : Files) (snapshot : Snapshot) : Prop where
  live : pointerOrNull sha256 files.live = .ok snapshot.livePointer
  prior : pointerOrNull sha256 files.prior = .ok snapshot.priorPointer
  candidate : pointerOrNull sha256 files.candidate = .ok snapshot.candidatePointer
  checkpoint : readJsonOrNull jsonParse none files.checkpoint = .ok snapshot.checkpoint
  transaction : readJsonOrNull jsonParse none files.transaction = .ok snapshot.transaction
  manualCleanup : readJsonOrNull jsonParse none files.manualCleanup = .ok snapshot.manualCleanup

theorem readBytesOrNull_ok (read : readBytesOrNull fault file = .ok bytes) : bytes = file := by
  cases fault with
  | some error => cases read
  | none =>
    cases read
    rfl

theorem readJsonOrNull_ok (read : readJsonOrNull jsonParse fault file = .ok value) :
    readJsonOrNull jsonParse none file = .ok value := by
  cases fault with
  | some error => cases read
  | none => exact read

/-- Only what is read decides what is read: a fault can stop the reader, not mislead it. -/
theorem readSnapshotInputs_ok {reads : DurableFile → Option IoError}
    (read : readSnapshotInputs sha256 jsonParse reads workspaceId files = .ok snapshot) :
    Spelled sha256 jsonParse files snapshot := by
  unfold readSnapshotInputs at read
  simp only [except_bind_ok] at read
  obtain ⟨live,readLive,prior,readPrior,candidate,readCandidate,checkpoint,readCheckpoint,
    transaction,readTransaction,cleanup,readCleanup,livePointer,parsedLive,priorPointer,parsedPrior,
    candidatePointer,parsedCandidate,result⟩ := read
  cases result
  rw [readBytesOrNull_ok readLive] at parsedLive
  rw [readBytesOrNull_ok readPrior] at parsedPrior
  rw [readBytesOrNull_ok readCandidate] at parsedCandidate
  exact ⟨parsedLive,parsedPrior,parsedCandidate,readJsonOrNull_ok readCheckpoint,
    readJsonOrNull_ok readTransaction,readJsonOrNull_ok readCleanup⟩

/-- The snapshot `buildRecoverySnapshot` hands to the classifier. -/
def normalized (input : Snapshot) : Snapshot :=
  {input with
    livePointer := orNull input.livePointer
    priorPointer := orNull input.priorPointer
    candidatePointer := orNull input.candidatePointer
    checkpoint := orNull input.checkpoint
    transaction := orNull input.transaction
    manualCleanup := orNull input.manualCleanup}

theorem classified_ok {reads : DurableFile → Option IoError}
    (known : classified sha256 jsonParse reads workspaceId files = .ok disposition) :
    ∃ snapshot, Spelled sha256 jsonParse files snapshot ∧
      disposition = dispositionOf (normalized snapshot) := by
  rw [classified,except_bind_ok] at known
  obtain ⟨inputs,read,rest⟩ := known
  rw [except_bind_ok] at rest
  obtain ⟨snapshot,built,result⟩ := rest
  rw [buildRecoverySnapshot,except_unit_bind_ok] at built
  rw [classifyGenerationRecovery,except_unit_bind_ok] at result
  cases built.2
  cases result.2
  exact ⟨inputs,readSnapshotInputs_ok read,rfl⟩

structure ReplayDue (snapshot : Snapshot) : Prop where
  noCleanup : isNull snapshot.manualCleanup = true
  transaction : isNull snapshot.transaction = false
  checkpoint : isNull snapshot.checkpoint = false
  uncommitted : isText "committed" (get snapshot.checkpoint "phase") = false
  inFlight : isOneOf ["prepared","applied"] (get snapshot.checkpoint "phase") = true
  notLanded : replaceLanded snapshot = false
  body : candidateBodyMatches snapshot = true

theorem dispositionOf_safeReplay (replay : dispositionOf snapshot = .safeReplay candidatePointer) :
    ReplayDue snapshot ∧ candidatePointer = snapshot.candidatePointer := by
  unfold dispositionOf at replay
  split at replay
  · cases replay
  · next noCleanup =>
    split at replay
    · cases replay
    · split at replay
      · cases replay
      · next both =>
        split at replay
        · split at replay <;> cases replay
        · next uncommitted =>
          split at replay
          · next inFlight =>
            split at replay
            · cases replay
            · next notLanded =>
              split at replay
              · next chained =>
                cases replay
                simp only [Bool.and_eq_true] at chained
                simp only [Bool.or_eq_true,not_or,Bool.not_eq_true] at both
                exact ⟨⟨by simpa using noCleanup,both.1,both.2,by simpa using uncommitted,inFlight,
                  by simpa using notLanded,chained.1.2⟩,rfl⟩
              · cases replay
          · cases replay

/-- With its candidate in the slot, the same workspace only needs the flush. -/
theorem ReplayDue.landed (due : ReplayDue snapshot) :
    dispositionOf {snapshot with livePointer := snapshot.candidatePointer} =
      .committedNeedsFlush := by
  have landed : replaceLanded {snapshot with livePointer := snapshot.candidatePointer} :=
    due.body
  simp [dispositionOf,due.noCleanup,due.transaction,due.checkpoint,due.uncommitted,due.inFlight,landed]

/-- A slot that holds a valid pointer is not `null` to the reader. -/
theorem pointerOrNull_some
    (read : pointerOrNull sha256 file = .ok pointer) (present : isNull (orNull pointer) = false) :
    ∃ bytes, file = some bytes ∧ parseGenerationPointer sha256 bytes = .ok pointer := by
  cases file with
  | none =>
    cases read
    simp [orNull,isNull] at present
  | some bytes => exact ⟨bytes,rfl,refuseWith_ok.mp read⟩

theorem orNull_present (present : isNull (orNull value) = false) :
    orNull value = value := by
  cases value with
  | other tag =>
    cases tag with
    | zero => simp [orNull,isNull] at present
    | succ tag => rfl
  | _ => rfl

theorem readJsonOrNull_some
    (read : readJsonOrNull jsonParse none file = .ok value) (present : isNull value = false) :
    ∃ bytes, file = some bytes ∧ jsonParse bytes = .ok value := by
  cases file with
  | none =>
    cases read
    simp [isNull] at present
  | some bytes =>
    have parsed : raiseWith (jsonParse bytes) = .ok value := read
    exact ⟨bytes,rfl,mapError_ok.mp parsed⟩

theorem isNull_of_orNull (present : isNull (orNull value) = false) :
    isNull value = false := by
  rw [orNull_present present] at present
  exact present

variable (sha256 jsonParse)

def replacesSlot (faults : Faults) (live : Option Bytes) (newPointer : Value) : Bool :=
  match prepareGeneration sha256 faults live newPointer with
  | .error _ => false
  | .ok _ => [IoStep.writeTemp,.flushTemp,.replace].all fun step => (faults step).isNone

def replaces (faults : RecoveryFaults) (workspaceId : Units) (files : Files) : Bool :=
  match classified sha256 jsonParse faults.reads workspaceId files with
  | .ok (.safeReplay candidatePointer) =>
    replacesSlot sha256 faults.publisher files.live candidatePointer
  | _ => false

/-- The stored candidate, whose fingerprint the stored transaction names. -/
def CandidateOf (files : Files) (bytes : Bytes) : Prop :=
  files.candidate = some bytes ∧ ∃ pointer transaction spelled,
    parseGenerationPointer sha256 bytes = .ok pointer ∧
    files.transaction = some spelled ∧ jsonParse spelled = .ok transaction ∧
    strictEqual (get pointer "pointerFingerprint") (get transaction "candidateFingerprint") = true

/-- Whatever fails, the workspace is flushed or barred from here on. -/
def Settled (workspaceId : Units) (files : Files) : Prop :=
  ∀ reads disposition, classified sha256 jsonParse reads workspaceId files = .ok disposition →
    disposition = .committedNeedsFlush

variable {sha256 jsonParse}

theorem publishGeneration_slot (faults : Faults) (live : Option Bytes) (newPointer : Value) :
    (replacesSlot sha256 faults live newPointer = false ∧
      (publishGeneration sha256 faults live newPointer).1 = live) ∨
    ∃ bytes, replacesSlot sha256 faults live newPointer = true ∧
      prepareGeneration sha256 faults live newPointer = .ok bytes ∧
      (publishGeneration sha256 faults live newPointer).1 = some bytes := by
  unfold publishGeneration publishPrepared replacesSlot
  cases prepared : prepareGeneration sha256 faults live newPointer with
  | error thrown => exact .inl ⟨rfl,rfl⟩
  | ok bytes =>
    unfold runSteps
    cases write : faults .writeTemp with
    | some error => exact .inl ⟨by simp [write],rfl⟩
    | none =>
      cases flush : faults .flushTemp with
      | some error => exact .inl ⟨by simp [flush],rfl⟩
      | none =>
        cases move : faults .replace with
        | some error => exact .inl ⟨by simp [move],rfl⟩
        | none =>
          refine .inr ⟨bytes,by simp [write,flush,move],rfl,?_⟩
          cases faults .flushParent <;> rfl

/-- The candidate a replay carries is the one stored, spelled by the stored bytes. -/
theorem candidate_of_replay (spelled : Spelled sha256 jsonParse files snapshot)
    (replay : dispositionOf (normalized snapshot) = .safeReplay candidatePointer) :
    ∃ bytes, CandidateOf sha256 jsonParse files bytes ∧
      parseGenerationPointer sha256 bytes = .ok candidatePointer ∧
      snapshot.candidatePointer = candidatePointer := by
  obtain ⟨due,rfl⟩ := dispositionOf_safeReplay replay
  have body := due.body
  simp only [candidateBodyMatches,Bool.and_eq_true,Bool.not_eq_true'] at body
  have present : isNull (orNull snapshot.candidatePointer) = false := by
    cases null : isNull (orNull snapshot.candidatePointer) with
    | false => rfl
    | true =>
      rw [isNull_iff] at null
      simp [normalized,pointerFp,null,isNull] at body
  have same : orNull snapshot.candidatePointer = snapshot.candidatePointer := orNull_present present
  obtain ⟨bytes,stored,parsed⟩ := pointerOrNull_some spelled.candidate present
  have transaction : isNull (orNull snapshot.transaction) = false := due.transaction
  obtain ⟨text,storedTransaction,parsedTransaction⟩ :=
    readJsonOrNull_some spelled.transaction (isNull_of_orNull transaction)
  refine ⟨bytes,⟨stored,snapshot.candidatePointer,snapshot.transaction,text,parsed,
    storedTransaction,parsedTransaction,?_⟩,?_,same.symm⟩
  · have equal := body.2
    simp only [normalized,pointerFp,present,Bool.false_eq_true,if_false] at equal
    rwa [same,orNull_present transaction] at equal
  · exact parsed.trans (congrArg ok same.symm)

/-- Two readings of the same files agree. -/
theorem Spelled.landed {snapshot landed : Snapshot} (spelled : Spelled sha256 jsonParse files snapshot)
    (after : Spelled sha256 jsonParse {files with live := some bytes} landed)
    (parsed : parseGenerationPointer sha256 bytes = .ok snapshot.candidatePointer) :
    dispositionOf (normalized landed) =
      dispositionOf {normalized snapshot with livePointer := (normalized snapshot).candidatePointer} := by
  have live : landed.livePointer = snapshot.candidatePointer := by
    have read : refuseWith (parseGenerationPointer sha256 bytes) = .ok landed.livePointer :=
      after.live
    rw [refuseWith_ok,parsed] at read
    exact (ok.inj read).symm
  have prior := ok.inj (after.prior.symm.trans spelled.prior)
  have candidate := ok.inj (after.candidate.symm.trans spelled.candidate)
  have checkpoint := ok.inj (after.checkpoint.symm.trans spelled.checkpoint)
  have transaction := ok.inj (after.transaction.symm.trans spelled.transaction)
  have cleanup := ok.inj (after.manualCleanup.symm.trans spelled.manualCleanup)
  simp only [normalized,live,prior,candidate,checkpoint,transaction,cleanup]
  rfl

/-- A replay puts the candidate in the slot, and settles the workspace. -/
theorem replaces_true (replaced : replaces sha256 jsonParse faults workspaceId files) :
    ∃ bytes, CandidateOf sha256 jsonParse files bytes ∧ files.live ≠ some bytes ∧
      (recoverWorkspace sha256 jsonParse faults workspaceId files).1 = {files with live := some bytes} ∧
      Settled sha256 jsonParse workspaceId {files with live := some bytes} := by
  unfold replaces at replaced
  cases known : classified sha256 jsonParse faults.reads workspaceId files with
  | error thrown => simp [known] at replaced
  | ok disposition =>
    cases disposition with
    | safeReplay candidatePointer =>
      simp only [known] at replaced
      obtain ⟨snapshot,spelled,replay⟩ := classified_ok known
      obtain ⟨bytes,candidate,parsed,same⟩ := candidate_of_replay spelled replay.symm
      obtain ⟨due,_⟩ := dispositionOf_safeReplay replay.symm
      have body := due.body
      subst same
      refine ⟨bytes,candidate,?_,?_,?_⟩
      · intro already
        have live : snapshot.livePointer = snapshot.candidatePointer := by
          have read := spelled.live
          rw [already] at read
          have read' : refuseWith (parseGenerationPointer sha256 bytes) = .ok snapshot.livePointer := read
          rw [refuseWith_ok,parsed] at read'
          exact (ok.inj read').symm
        have landed : replaceLanded (normalized snapshot) := by
          have equal : (normalized snapshot).livePointer = (normalized snapshot).candidatePointer :=
            congrArg orNull live
          rw [replaceLanded,equal]
          exact body
        rw [due.notLanded] at landed
        cases landed
      · rcases publishGeneration_slot faults.publisher files.live snapshot.candidatePointer with
          ⟨stopped,_⟩ | ⟨written,_,prepared,slot⟩
        · rw [stopped] at replaced
          cases replaced
        · obtain ⟨_,canonical⟩ := parseGenerationPointer_ok sha256 parsed
          obtain ⟨_,written',slot'⟩ := (prepareGeneration_ok prepared).1.spelled
          cases slot'
          rw [canonical] at written'
          cases written'
          simp only [recoverWorkspace,known,slot]
      · intro reads disposition again
        obtain ⟨landed,after,rfl⟩ := classified_ok again
        rw [spelled.landed after parsed]
        exact due.landed
    | _ => simp [known] at replaced

theorem replaces_false (kept : replaces sha256 jsonParse faults workspaceId files = false) :
    (recoverWorkspace sha256 jsonParse faults workspaceId files).1 = files := by
  unfold replaces at kept
  unfold recoverWorkspace
  cases known : classified sha256 jsonParse faults.reads workspaceId files with
  | error thrown => rfl
  | ok disposition =>
    cases disposition with
    | safeReplay candidatePointer =>
      simp only [known] at kept
      rcases @publishGeneration_slot sha256 faults.publisher files.live candidatePointer with
        ⟨_,slot⟩ | ⟨_,replaced,_⟩
      · simp only [slot]
      · rw [replaced] at kept
        cases kept
    | _ => rfl

theorem Settled.replaces_false
    (settled : Settled sha256 jsonParse workspaceId files) (faults : RecoveryFaults) :
    replaces sha256 jsonParse faults workspaceId files = false := by
  unfold replaces
  cases known : classified sha256 jsonParse faults.reads workspaceId files with
  | error thrown => rfl
  | ok disposition =>
    cases settled _ _ known
    rfl

theorem Settled.action (settled : Settled sha256 jsonParse workspaceId files) (faults : RecoveryFaults) :
    (recoverWorkspace sha256 jsonParse faults workspaceId files).2.action ∈ [Action.none,.flushed,.barred] := by
  unfold recoverWorkspace
  cases known : classified sha256 jsonParse faults.reads workspaceId files with
  | error thrown => simp
  | ok disposition =>
    cases settled _ _ known
    cases faults.publisher .flushParent <;> simp [settle]

variable (sha256 jsonParse)

def replacedBy (workspaceId : Units) (store : Store) (pass : Pass) : Bool :=
  decide (workspaceId ∈ handled pass) &&
    replaces sha256 jsonParse (pass.faults workspaceId) workspaceId (store workspaceId)

structure CrashSafe (start : Store) (passes : List Pass) (workspaceId : Units) : Prop where
  slot : ∃ live, run (recoverWorkspaces sha256 jsonParse) start passes workspaceId =
      {start workspaceId with live := live} ∧
    (live = (start workspaceId).live ∨
      ∃ bytes, live = some bytes ∧ CandidateOf sha256 jsonParse (start workspaceId) bytes)
  once : (visits (recoverWorkspaces sha256 jsonParse) start passes).countP
    (fun visit => replacedBy sha256 jsonParse workspaceId visit.1 visit.2) ≤ 1
  visible : ∀ visit ∈ visits (recoverWorkspaces sha256 jsonParse) start passes,
    replacedBy sha256 jsonParse workspaceId visit.1 visit.2 = true ↔
      ((recoverWorkspaces sha256 jsonParse visit.1 visit.2).1 workspaceId).live ≠ (visit.1 workspaceId).live
  afterwards : ∀ before pass later, passes = before ++ pass :: later →
    replacedBy sha256 jsonParse workspaceId
      (run (recoverWorkspaces sha256 jsonParse) start before) pass = true →
    ∀ visit ∈ visits (recoverWorkspaces sha256 jsonParse)
        (run (recoverWorkspaces sha256 jsonParse) start (before ++ [pass])) later,
      ∀ entry ∈ (recoverWorkspaces sha256 jsonParse visit.1 visit.2).2.processed,
        entry.workspaceId = workspaceId → entry.action ∈ [Action.none,.flushed,.barred]

/-- What one pass owes each workspace, whatever the others are like. -/
structure Isolated (store : Store) (pass : Pass) : Prop where
  corrupt : ∀ workspaceId ∈ handled pass, ∀ thrown,
    classified sha256 jsonParse (pass.faults workspaceId).reads workspaceId (store workspaceId) =
      .error thrown →
    (recoverWorkspaces sha256 jsonParse store pass).1 workspaceId = store workspaceId ∧
      ⟨workspaceId,"manual_cleanup",.barred,some (failureOf thrown)⟩ ∈
        (recoverWorkspaces sha256 jsonParse store pass).2.processed ∧
      workspaceId ∈ barredOf (recoverWorkspaces sha256 jsonParse store pass).2.processed
  independent : ∀ store' pass', pass'.workspaceIds = pass.workspaceIds → pass'.crash = pass.crash →
    ∀ other, store' other = store other → pass'.faults other = pass.faults other →
      (recoverWorkspaces sha256 jsonParse store' pass').1 other =
        (recoverWorkspaces sha256 jsonParse store pass).1 other ∧
      ((recoverWorkspaces sha256 jsonParse store' pass').2.processed.filter fun entry =>
          entry.workspaceId = other) =
        (recoverWorkspaces sha256 jsonParse store pass).2.processed.filter fun entry =>
          entry.workspaceId = other
  bounded : ∀ items, pass.workspaceIds = .array items → MAX_RECOVERY_TOTAL < items.length →
    ∃ refusal, recoverWorkspaces sha256 jsonParse store pass = (store,⟨[],.refused refusal⟩)

variable {sha256 jsonParse}

theorem settle_workspaceId (workspaceId : Units) (disposition : Disposition)
    (action : Action) (result : Except Thrown α) :
    (settle workspaceId disposition action result).workspaceId = workspaceId := by
  cases result <;> rfl

theorem recoverWorkspace_workspaceId (faults : RecoveryFaults) (workspaceId : Units) (files : Files) :
    (recoverWorkspace sha256 jsonParse faults workspaceId files).2.workspaceId = workspaceId := by
  unfold recoverWorkspace
  cases classified sha256 jsonParse faults.reads workspaceId files with
  | error thrown => rfl
  | ok disposition =>
    cases disposition with
    | committedNeedsFlush => exact settle_workspaceId _ _ _ _
    | safeReplay candidatePointer => exact settle_workspaceId _ _ _ _
    | _ => rfl

/-- One pass keeps a workspace's files or replays it. -/
theorem recoverWorkspaces_cases (workspaceId : Units) (store : Store) (pass : Pass) :
    (replacedBy sha256 jsonParse workspaceId store pass = false ∧
      (recoverWorkspaces sha256 jsonParse store pass).1 workspaceId = store workspaceId) ∨
    (replacedBy sha256 jsonParse workspaceId store pass = true ∧ ∃ bytes,
      CandidateOf sha256 jsonParse (store workspaceId) bytes ∧ (store workspaceId).live ≠ some bytes ∧
      (recoverWorkspaces sha256 jsonParse store pass).1 workspaceId =
        {store workspaceId with live := some bytes} ∧
      Settled sha256 jsonParse workspaceId
        ((recoverWorkspaces sha256 jsonParse store pass).1 workspaceId)) := by
  unfold replacedBy
  rw [recoverWorkspaces_files]
  by_cases member : workspaceId ∈ handled pass
  · rw [if_pos member]
    cases replaced : replaces sha256 jsonParse (pass.faults workspaceId) workspaceId
        (store workspaceId) with
    | false => exact .inl ⟨by simp,replaces_false replaced⟩
    | true =>
      obtain ⟨bytes,candidate,differs,after,settled⟩ := replaces_true replaced
      exact .inr ⟨by simp [member],bytes,candidate,differs,after,by rw [after]; exact settled⟩
  · rw [if_neg member]
    exact .inl ⟨by simp [member],rfl⟩

theorem Settled.step
    (settled : Settled sha256 jsonParse workspaceId (store workspaceId)) (pass : Pass) :
    Settled sha256 jsonParse workspaceId ((recoverWorkspaces sha256 jsonParse store pass).1 workspaceId) := by
  rcases recoverWorkspaces_cases workspaceId store pass with ⟨_,same⟩ | ⟨_,_,_,_,_,after⟩
  · rw [same]
    exact settled
  · exact after

theorem crashSafe (start : Store) (passes : List Pass) (workspaceId : Units) :
    CrashSafe sha256 jsonParse start passes workspaceId where
  slot := by
    have preserved : ∀ store pass, (∃ live, store workspaceId = {start workspaceId with live := live} ∧
        (live = (start workspaceId).live ∨
          ∃ bytes, live = some bytes ∧ CandidateOf sha256 jsonParse (start workspaceId) bytes)) →
        ∃ live, (recoverWorkspaces sha256 jsonParse store pass).1 workspaceId =
            {start workspaceId with live := live} ∧
          (live = (start workspaceId).live ∨
            ∃ bytes, live = some bytes ∧ CandidateOf sha256 jsonParse (start workspaceId) bytes) := by
      rintro store pass ⟨live,same,origin⟩
      rcases recoverWorkspaces_cases workspaceId store pass with
        ⟨_,kept⟩ | ⟨_,bytes,candidate,_,after,_⟩
      · exact ⟨live,by rw [kept,same],origin⟩
      · rw [same] at candidate after
        exact ⟨some bytes,after,.inr ⟨bytes,rfl,candidate⟩⟩
    exact run_invariant preserved ⟨_,rfl,.inl rfl⟩ passes
  once := by
    refine @visits_once _ _ _ _ (replacedBy sha256 jsonParse workspaceId)
      (fun store => Settled sha256 jsonParse workspaceId (store workspaceId)) ?_ ?_ ?_ start passes
    · intro store pass replaced
      rcases recoverWorkspaces_cases workspaceId store pass with ⟨kept,_⟩ | ⟨_,_,_,_,_,settled⟩
      · rw [replaced] at kept
        cases kept
      · exact settled
    · exact fun store pass settled => settled.step pass
    · intro store pass settled
      simp [replacedBy,settled.replaces_false]
  visible := by
    intro visit _
    rcases @recoverWorkspaces_cases sha256 jsonParse workspaceId visit.1 visit.2 with
      ⟨kept,same⟩ | ⟨replaced,bytes,_,differs,after,_⟩
    · simp [kept,same]
    · simp [replaced,after,differs.symm]
  afterwards := by
    intro before pass later split replaced visit member entry listed own
    have settled : Settled sha256 jsonParse workspaceId (visit.1 workspaceId) := by
      refine @visits_invariant _ _ _ _
        (fun store : Store => Settled sha256 jsonParse workspaceId (store workspaceId))
        (fun store pass settled => settled.step pass) _ ?_ later visit member
      rw [run_append]
      rcases recoverWorkspaces_cases workspaceId
        (run (recoverWorkspaces sha256 jsonParse) start before) pass with
        ⟨kept,_⟩ | ⟨_,_,_,_,_,settled⟩
      · rw [replaced] at kept
        cases kept
      · exact settled
    rw [recoverWorkspaces_processed] at listed
    obtain ⟨id,_,rfl⟩ := mem_map.mp listed
    rw [recoverWorkspace_workspaceId] at own
    subst own
    exact settled.action _

theorem handled_congr {pass : Pass} (ids : pass'.workspaceIds = pass.workspaceIds)
    (crash : pass'.crash = pass.crash) : handled pass' = handled pass := by
  rw [handled,handled,ids,crash]

theorem isolated (store : Store) (pass : Pass) : Isolated sha256 jsonParse store pass where
  corrupt := by
    intro workspaceId member thrown refused
    have result : recoverWorkspace sha256 jsonParse (pass.faults workspaceId) workspaceId (store workspaceId) =
        (store workspaceId,⟨workspaceId,"manual_cleanup",.barred,some (failureOf thrown)⟩) := by
      simp only [recoverWorkspace,refused]
    have listed : ⟨workspaceId,"manual_cleanup",.barred,some (failureOf thrown)⟩ ∈
        (recoverWorkspaces sha256 jsonParse store pass).2.processed := by
      rw [recoverWorkspaces_processed]
      exact mem_map.mpr ⟨workspaceId,member,by rw [result]⟩
    rw [recoverWorkspaces_files,if_pos member,result]
    exact ⟨rfl,listed,mem_map.mpr ⟨_,mem_filter.mpr ⟨listed,rfl⟩,rfl⟩⟩
  independent := by
    intro store' pass' ids crash other files faults
    rw [recoverWorkspaces_files,recoverWorkspaces_files,recoverWorkspaces_processed,
      recoverWorkspaces_processed,handled_congr ids crash,files,faults]
    refine ⟨rfl,?_⟩
    simp only [filter_map]
    have own : ∀ (faults : Units → RecoveryFaults) (store : Store), (handled pass).filter
        ((fun entry => decide (entry.workspaceId = other)) ∘ fun id =>
          (recoverWorkspace sha256 jsonParse (faults id) id (store id)).2) =
        (handled pass).filter fun id => decide (id = other) := by
      intro faults store
      simp only [Function.comp_def,recoverWorkspace_workspaceId]
    rw [own,own]
    apply map_congr_left
    intro id member
    have same : id = other := by simpa using (mem_filter.mp member).2
    rw [same,files,faults]
  bounded := by
    intro items ids many
    unfold recoverWorkspaces
    cases planned : planRecoveryBatches pass.workspaceIds with
    | error refusal => exact ⟨refusal,rfl⟩
    | ok plan =>
      have bound := (planRecoveryBatches_ok planned).2 items ids
      omega

/-- Every sequence of passes over every store, crashes included. -/
theorem boot_recovery_crash_safe (start : Store) (passes : List Pass) :
    (∀ workspaceId, CrashSafe sha256 jsonParse start passes workspaceId) ∧
      ∀ store pass, Isolated sha256 jsonParse store pass :=
  ⟨crashSafe start passes,isolated⟩

end Digest

end GjcRemote.Recovery
