import GjcRemote.RestoreOperation

/-! What the publishing operations keep: one replacement, after every proof, under a current
lease and a fresh attestation; one release; and no removal of a tree that the slot names. -/
namespace GjcRemote.Publish

open Utf16 StrictJson Record Workspace
open List hiding get replace
open CrashTrace CrashTrace.Program
open ResetDelete (thrownStep)
open Readiness (Evidence Freshness Attestation Fresh)

def Event.isAcquired : Event → Bool
  | .acquired => true
  | _ => false

def Event.isReleased : Event → Bool
  | .released => true
  | _ => false

def Event.isReplaced : Event → Bool
  | .replaced _ => true
  | _ => false

def Event.proof : Event → Option ProofStep
  | .proved step _ => some step
  | _ => none

def proofsOf (log : List Event) : List ProofStep := log.filterMap Event.proof

@[simp] theorem proofsOf_append (a b : List Event) : proofsOf (a ++ b) = proofsOf a ++ proofsOf b :=
  filterMap_append

variable {w : World}

theorem current_lose (current : (w.lose host call).current) :
    w.current := by
  exact (Bool.and_eq_true _ _ ▸ current).1

section Digest

variable (sha256 : List UInt8 → Units)

def References (path : Value) (slot : Option Bytes) : Prop :=
  ∃ pointer, HoldsPointer sha256 slot pointer ∧ get pointer "generationPath" = path

/-- The io reports a replacement that had its effect as done, and a parent flush that failed
as that step. -/
structure Honest (host : Host) : Prop where
  replace : ∀ error, host.replace ≠ .late error
  flush : ∀ error, host.publication .flushParent = some error →
    thrownStep (Pointer.stepFailed .flushParent error) = some IoStep.flushParent.name

structure Disk (path : Value) where
  slot : Option Bytes
  candidate : Bool
  owned : Bool
  seen : List Units
  current : Bool
  whole : References sha256 path slot → candidate = true

variable {sha256}

def Disk.start {path : Value} (disk : Disk sha256 path) : World :=
  ⟨disk.slot,disk.candidate,disk.owned,disk.seen,disk.current,[],false,false⟩

/-- An operation on one request: its host, the path and the manifest of the generation, the
proofs it makes, where it checks the lease last, and whether it removes a candidate tree. -/
structure Task where
  host : Host
  path : Value
  manifest : Except Thrown Value
  proofs : List ProofStep
  checkpoint : Option String
  removes : Bool

/-- The pointer says of the tree at the requested path what the proofs of the run answered. -/
structure Verified (task : Task) (pointer : Value) : Prop where
  path : get pointer "generationPath" = task.path
  identity : ∃ proof, task.host.identifyRoot = .ok proof ∧
    task.host.hashIdentity proof.rootIdentity = .ok (get pointer "rootIdentityFingerprint") ∧
    task.host.hashIdentity proof.storageIdentity = .ok (get pointer "storageIdentityFingerprint")
  graph : task.host.verifyRepositoryGraph = .ok (get pointer "gitGenerationFingerprint")
  manifest : task.manifest = .ok (get pointer "manifestFingerprint")

def pointerEvidence (pointer : Value) : Value :=
  workspaceEvidence pointer (get pointer "rootIdentityFingerprint")
    (get pointer "gitGenerationFingerprint") (get pointer "manifestFingerprint")

variable (sha256)

/-- The attestation is one that the workspace is ready with this pointer. -/
def Attests (pointer : Value) (freshness : Freshness) (readinessFingerprint : Units) : Prop :=
  ∃ evidence attestation, Readiness.evaluateGenerationReadiness sha256 evidence = .ok attestation ∧
    evidence.workspace = pointerEvidence pointer ∧ evidence.freshness = freshness ∧
    attestation.readinessFingerprint = readinessFingerprint

/-- What precedes a replacement: every proof of the operation, each under a current lease if
there is one; then a fresh attestation of the pointer that was not used before; then, under a
lease, the last check of it. -/
structure Sanctioned (proofs : List ProofStep) (checkpoint : Option String) (seen : List Units)
    (pointer : Value) (before : List Event) : Prop where
  quiet : before.countP Event.isReplaced = 0
  split : ∃ front freshness readinessFingerprint, before = front ++
    .attested freshness readinessFingerprint :: (checkpoint.map Event.checked).toList ∧
    proofsOf front = proofs ∧ Fresh freshness ∧ readinessFingerprint ∉ seen ∧
    Attests sha256 pointer freshness readinessFingerprint ∧
    (checkpoint.isSome → ∀ step current, .proved step current ∈ front → current = true)

/-- The slot is as it was, or holds a pointer that was proved and attested and whose tree was
there; the tree stays unless the io of an operation that removes it misreports. -/
inductive Replaced (task : Task) (start w : World) : Prop where
  | never (quiet : w.log.countP Event.isReplaced = 0) (slot : w.slot = start.slot)
  | once {before after : List Event} {pointer : Value} (log : w.log = before ++ .replaced true :: after)
      (sanctioned : Sanctioned sha256 task.proofs task.checkpoint start.seen pointer before)
      (verified : Verified task pointer) (holds : HoldsPointer sha256 w.slot pointer)
      (quiet : after.countP Event.isReplaced = 0)
      (tree : task.removes = false ∨ Honest task.host → w.candidate = true)

def Removable (task : Task) (slot : Option Bytes) : Prop :=
  task.removes = true ∧ (Honest task.host → ¬References sha256 task.path slot)

structure Lawful (task : Task) (start : World) (run : Progress World Failure Receipt) : Prop where
  replaced : Replaced sha256 task start run.state
  acquired : run.state.log.countP Event.isAcquired ≤ 1
  released : (∀ lease, task.host.acquireFence = .ok lease → lease.release = true) →
    run.state.log.countP Event.isReleased = run.state.log.countP Event.isAcquired
  removed : ∀ slot, .removed slot ∈ run.state.log → Removable sha256 task slot

/-- What all assertions share: who holds the lease, and that removals were right. -/
structure Frame (task : Task) (acquired : Nat) (w : World) : Prop where
  acquired : w.log.countP Event.isAcquired = acquired
  released : w.log.countP Event.isReleased = 0
  tidy : ∀ slot, .removed slot ∈ w.log → Removable sha256 task slot

structure Unpublished (task : Task) (acquired : Nat) (start : World) (w : World) :
    Prop extends Frame sha256 task acquired w where
  slot : w.slot = start.slot
  quiet : w.log.countP Event.isReplaced = 0
  tree : References sha256 task.path start.slot → w.candidate = true
  made : w.materialized = true → ¬References sha256 task.path start.slot

/-- The proofs done so far; once the tree is built it is there. -/
structure Proving (task : Task) (acquired : Nat) (start : World) (built : Prop)
    (done : List ProofStep) (w : World) : Prop extends Unpublished sha256 task acquired start w where
  seen : w.seen = start.seen
  there : built → w.candidate = true
  proofs : proofsOf w.log = done
  current : w.current = true → ∀ step current, .proved step current ∈ w.log → current = true

variable {sha256}

section Steps

variable {task : Task} {acquired : Nat} {start : World} {built : Prop} {done : List ProofStep}

abbrev anytime : World → Prop := fun _ => True

theorem Unpublished.lose (held : Unpublished sha256 task acquired start w) (call : Call) :
    Unpublished sha256 task acquired start (w.lose task.host call) :=
  ⟨⟨held.acquired,held.released,held.tidy⟩,held.slot,held.quiet,held.tree,held.made⟩

theorem Proving.lose (held : Proving sha256 task acquired start built done w) (call : Call) :
    Proving sha256 task acquired start built done (w.lose task.host call) :=
  ⟨held.toUnpublished.lose call,held.seen,held.there,held.proofs,
    fun current => held.current (current_lose current)⟩

structure Event.Plain (event : Event) : Prop where
  acquired : event.isAcquired = false
  released : event.isReleased = false
  replaced : event.isReplaced = false
  removed : ∀ slot, event ≠ .removed slot

theorem plain_proved (step : ProofStep) (current : Bool) : (Event.proved step current).Plain :=
  ⟨rfl,rfl,rfl,by rintro slot ⟨⟩⟩

theorem plain_checked (checkpoint : String) : (Event.checked checkpoint).Plain :=
  ⟨rfl,rfl,rfl,by rintro slot ⟨⟩⟩

theorem plain_attested (freshness : Freshness) (fingerprint : Units) :
    (Event.attested freshness fingerprint).Plain :=
  ⟨rfl,rfl,rfl,by rintro slot ⟨⟩⟩

theorem tidy_append (tidy : ∀ slot, Event.removed slot ∈ log → Removable sha256 task slot)
    (other : ∀ slot, event ≠ .removed slot) :
    ∀ slot, .removed slot ∈ log ++ [event] → Removable sha256 task slot := by
  intro slot member
  rcases mem_append.mp member with before | new
  · exact tidy slot before
  · exact absurd (mem_singleton.mp new).symm (other slot)

theorem Unpublished.note (held : Unpublished sha256 task acquired start w) (plain : event.Plain) :
    Unpublished sha256 task acquired start (w.note event) where
  acquired := by simp [countP_append,held.acquired,plain.acquired]
  released := by simp [countP_append,held.released,plain.released]
  tidy := tidy_append held.tidy plain.removed
  slot := held.slot
  quiet := by simp [countP_append,held.quiet,plain.replaced]
  tree := held.tree
  made := held.made

theorem Proving.note (held : Proving sha256 task acquired start built done w) (step : ProofStep) :
    Proving sha256 task acquired start built (done ++ [step]) (w.note (.proved step w.current)) where
  toUnpublished := held.toUnpublished.note (plain_proved step w.current)
  seen := held.seen
  there := held.there
  proofs := by
    rw [log_note,proofsOf_append,held.proofs]
    rfl
  current current step' flag member := by
    rcases mem_append.mp member with before | new
    · exact held.current current step' flag before
    · cases mem_singleton.mp new
      exact current

variable {α : Type}

theorem ensures_awaits (call : Call) (answer : Except Thrown α) :
    Ensures (Proving sha256 task acquired start built done) anytime (awaits task.host call answer)
      (fun _ => Proving sha256 task acquired start built done)
      (fun _ => Unpublished sha256 task acquired start) := by
  refine Ensures.perform (fun _ _ => trivial) (fun w _ held _ => held.lose call) ?_
  exact fun w _ held _ => (held.lose call).toUnpublished

theorem ensures_lift {failed : ε' → World → Prop}
    {result : Except ε' α} (stays : ∀ w error, before w → failed error w) :
    Ensures before anytime (lift result : Program World ε' α) (fun _ => before) failed :=
  Ensures.lift (fun _ _ held _ => held) fun w error held _ => stays w error held

theorem ensures_proved (step : ProofStep) :
    Ensures (Proving sha256 task acquired start built done) anytime (proved step)
      (fun _ => Proving sha256 task acquired start built (done ++ [step]))
      (fun _ => Unpublished sha256 task acquired start) := by
  refine Ensures.perform (fun _ _ => trivial) (fun w _ held _ => held.note step) ?_
  rintro w error held ⟨⟩

theorem ensures_proving (call : Call) (step : ProofStep) (answer : Except Thrown α) :
    Ensures (Proving sha256 task acquired start built done) anytime (proving task.host call step answer)
      (fun _ => Proving sha256 task acquired start built (done ++ [step]))
      (fun _ => Unpublished sha256 task acquired start) := by
  refine Ensures.bind (ensures_awaits call answer) fun a => ?_
  refine Ensures.perform (fun _ _ => trivial) (fun w _ held _ => held.note step) ?_
  rintro w error held ⟨⟩

theorem raises_ok {answer : Except Thrown α} (ok : raises answer = .ok a) : answer = .ok a := by
  cases answer with
  | error => cases ok
  | ok b =>
    cases ok
    rfl

theorem told_ask (w : World) (a : α) (ok : (ask answer w).result = .ok a) : answer = .ok a :=
  raises_ok ok

theorem told_proving (w : World) (a : α) (ok : (proving host call step answer w).result = .ok a) :
    answer = .ok a := by
  cases answer with
  | error => cases ok
  | ok b =>
    cases ok
    rfl

theorem told_compute (w : World) (a : α) (ok : (compute result w).result = .ok a) : result = .ok a := by
  cases result with
  | error => cases ok
  | ok b =>
    cases ok
    rfl

variable (result : Except Refusal α)

theorem ensures_compute :
    Ensures (Proving sha256 task acquired start built done) anytime (compute result)
      (fun _ => Proving sha256 task acquired start built done)
      (fun _ => Unpublished sha256 task acquired start) :=
  ensures_lift fun _ _ held => held.toUnpublished

theorem ensures_ask (answer : Except Thrown α) :
    Ensures (Proving sha256 task acquired start built done) anytime (ask answer)
      (fun _ => Proving sha256 task acquired start built done)
      (fun _ => Unpublished sha256 task acquired start) :=
  ensures_lift fun _ _ held => held.toUnpublished

theorem ensures_fence (operation checkpoint : String) :
    Ensures (Proving sha256 task acquired start built done) anytime (assertFenceCurrent operation checkpoint)
      (fun _ => Proving sha256 task acquired start built done)
      (fun _ => Unpublished sha256 task acquired start) := by
  refine Ensures.perform (fun _ _ => trivial) (fun w _ held ok => ?_) fun w error held failed => ?_
  · cases current : w.current with
    | false => simp [current] at ok
    | true =>
      simp only [if_true]
      refine ⟨held.toUnpublished.note (plain_checked checkpoint),held.seen,held.there,?_,?_⟩
      · rw [log_note,proofsOf_append,held.proofs]
        exact append_nil done
      · intro current step flag member
        rcases mem_append.mp member with before | new
        · exact held.current current step flag before
        · cases mem_singleton.mp new
  · cases current : w.current with
    | true => simp [current] at failed
    | false => exact held.toUnpublished

theorem ensures_readLive (publishing : Bool) :
    Ensures (Proving sha256 task acquired start built done) anytime (readLiveGeneration sha256 task.host publishing)
      (fun _ => Proving sha256 task acquired start built done)
      (fun _ => Unpublished sha256 task acquired start) :=
  Ensures.perform (fun _ _ => trivial) (fun _ _ held _ => held.lose _)
    fun _ _ held _ => (held.lose _).toUnpublished

theorem ensures_materialize :
    Ensures (Proving sha256 task acquired start built done) anytime (materialize task.host)
      (fun _ => Proving sha256 task acquired start True done)
      (fun _ => Unpublished sha256 task acquired start) := by
  have made : ∀ w, Proving sha256 task acquired start built done w →
      Proving sha256 task acquired start True done
        {w.lose task.host .materialize with candidate := true} :=
    fun w held =>
      let lost := held.lose .materialize
      ⟨⟨⟨lost.acquired,lost.released,lost.tidy⟩,lost.slot,lost.quiet,fun _ => rfl,lost.made⟩,
        lost.seen,fun _ => rfl,lost.proofs,lost.current⟩
  exact Ensures.perform (fun _ _ => trivial) (fun w _ held _ => made w held)
    fun w _ held _ => (made w held).toUnpublished

theorem ensures_verifyContained :
    Ensures (Proving sha256 task acquired start built done) anytime (verifyContained task.host)
      (fun _ => Proving sha256 task acquired start built (done ++ [.candidate] ++ [.gitDir]))
      (fun _ => Unpublished sha256 task acquired start) :=
  Ensures.bind (ensures_proving _ _ _) fun _ => ensures_proving _ _ _

structure Cleared (sha256 : List UInt8 → Units) (task : Task) (acquired : Nat) (start : World)
    (pointer : Value) (proofs : List ProofStep) (checkpoint : Option String) (w : World) : Prop
    extends Unpublished sha256 task acquired start w where
  there : w.candidate = true
  split : ∃ front freshness readinessFingerprint, w.log = front ++
    .attested freshness readinessFingerprint :: (checkpoint.map Event.checked).toList ∧
    proofsOf front = proofs ∧ Fresh freshness ∧ readinessFingerprint ∉ start.seen ∧
    Attests sha256 pointer freshness readinessFingerprint ∧
    ((checkpoint.isSome ∨ w.current = true) → ∀ step current, .proved step current ∈ front → current = true)

theorem Cleared.lose (held : Cleared sha256 task acquired start pointer proofs checkpoint w) (call : Call) :
    Cleared sha256 task acquired start pointer proofs checkpoint (w.lose task.host call) := by
  obtain ⟨front,freshness,fingerprint,log,made,fresh,unused,attests,current⟩ := held.split
  exact ⟨held.toUnpublished.lose call,held.there,front,freshness,fingerprint,log,made,fresh,unused,
    attests,fun checked => current (checked.imp_right current_lose)⟩

theorem ensures_consume (operation : String) (freshness : Freshness) (fingerprint : Units)
    (fresh : Fresh freshness) (attests : Attests sha256 pointer freshness fingerprint) :
    Ensures (Proving sha256 task acquired start True done) anytime
      (consume operation task.host freshness fingerprint)
      (fun _ => Cleared sha256 task acquired start pointer done none)
      (fun _ => Unpublished sha256 task acquired start) := by
  refine Ensures.perform (fun _ _ => trivial) (fun w a held ok => ?_) fun w error held failed => ?_
  · cases has : task.host.replayHas with
    | error thrown => simp [has] at ok
    | ok =>
      by_cases used : fingerprint ∈ w.seen
      · simp [has,used] at ok
      cases add : task.host.replayAdd with
      | error thrown => simp [has,used,add] at ok
      | ok =>
        simp only [if_neg used]
        have noted := held.toUnpublished.note (plain_attested freshness fingerprint)
        refine ⟨⟨⟨noted.acquired,noted.released,noted.tidy⟩,held.slot,noted.quiet,held.tree,held.made⟩,
          held.there trivial,w.log,freshness,fingerprint,rfl,held.proofs,fresh,?_,attests,?_⟩
        · rw [← held.seen]
          exact used
        · rintro (⟨⟨⟩⟩ | current)
          exact held.current current
  · cases has : task.host.replayHas with
    | error thrown => exact held.toUnpublished
    | ok =>
      by_cases used : fingerprint ∈ w.seen
      · simpa [has,used] using held.toUnpublished
      cases add : task.host.replayAdd with
      | error thrown => simpa [has,used,add] using held.toUnpublished
      | ok => simp [has,used,add] at failed

theorem ensures_attest (operation : String) (readiness probedAtMs pointer root git manifest : Value)
    (same : workspaceEvidence pointer root git manifest = pointerEvidence pointer) :
    Ensures (Proving sha256 task acquired start True done) anytime
      (attest sha256 operation task.host readiness probedAtMs pointer root git manifest)
      (fun _ => Cleared sha256 task acquired start pointer done none)
      (fun _ => Unpublished sha256 task acquired start) := by
  refine Ensures.bind (ensures_ask _) fun nowMs => ?_
  refine Ensures.bind ((ensures_compute _).known told_compute) fun attestation =>
    Ensures.given fun evaluated => ?_
  have fresh := (Readiness.evaluateGenerationReadiness_attested evaluated).fresh
  refine Ensures.bind (ensures_consume operation _ _ fresh ⟨_,_,evaluated,same,rfl,rfl⟩) fun _ => ?_
  exact Ensures.pure fun _ held => held

/-- The last check of the lease. -/
theorem ensures_lastFence (operation checkpoint : String) :
    Ensures (Cleared sha256 task acquired start pointer done none) anytime
      (assertFenceCurrent operation checkpoint)
      (fun _ => Cleared sha256 task acquired start pointer done (some checkpoint))
      (fun _ => Unpublished sha256 task acquired start) := by
  refine Ensures.perform (fun _ _ => trivial) (fun w _ held ok => ?_) fun w error held failed => ?_
  · cases current : w.current with
    | false => simp [current] at ok
    | true =>
      simp only [if_true]
      obtain ⟨front,freshness,fingerprint,log,made,fresh,unused,attests,proofs⟩ := held.split
      refine ⟨held.toUnpublished.note (plain_checked checkpoint),held.there,front,freshness,fingerprint,
        ?_,made,fresh,unused,attests,fun _ => proofs (.inr current)⟩
      rw [log_note,log]
      simp
  · cases current : w.current with
    | true => simp [current] at failed
    | false => exact held.toUnpublished

structure Published (sha256 : List UInt8 → Units) (task : Task) (acquired : Nat) (start w : World) :
    Prop extends Frame sha256 task acquired w where
  log : ∃ before pointer, w.log = before ++ [.replaced true] ∧
    Sanctioned sha256 task.proofs task.checkpoint start.seen pointer before ∧
    Verified task pointer ∧ HoldsPointer sha256 w.slot pointer
  there : w.candidate = true

variable {proofs : List ProofStep} {checkpoint : Option String} {pointer : Value}

theorem Cleared.sanctioned (held : Cleared sha256 task acquired start pointer proofs checkpoint w) :
    Sanctioned sha256 proofs checkpoint start.seen pointer w.log := by
  obtain ⟨front,freshness,fingerprint,log,made,fresh,unused,attests,current⟩ := held.split
  exact ⟨held.quiet,front,freshness,fingerprint,log,made,fresh,unused,attests,
    fun checked => current (.inl checked)⟩

theorem Cleared.publish (held : Cleared sha256 task acquired start pointer task.proofs task.checkpoint w)
    (verified : Verified task pointer) (holds : HoldsPointer sha256 (some bytes) pointer) :
    Published sha256 task acquired start
      ({w with slot := some bytes}.note (.replaced w.candidate)) where
  acquired := by simp [countP_append,held.acquired,Event.isAcquired]
  released := by simp [countP_append,held.released,Event.isReleased]
  tidy := tidy_append held.tidy (by rintro slot ⟨⟩)
  log := by
    rw [held.there]
    exact ⟨w.log,pointer,rfl,held.sanctioned,verified,holds⟩
  there := held.there

theorem Published.lose (held : Published sha256 task acquired start w) (call : Call) :
    Published sha256 task acquired start (w.lose task.host call) :=
  ⟨⟨held.acquired,held.released,held.tidy⟩,held.log,held.there⟩

/-- What a publication throws after the replacement, unless the io misreports. -/
def FlushFailed (failure : Failure) : Prop :=
  thrownStep failure.thrown = some IoStep.flushParent.name

abbrev PublishFailed (sha256 : List UInt8 → Units) (task : Task) (acquired : Nat) (start : World)
    (failure : Failure) (w : World) : Prop :=
  Unpublished sha256 task acquired start w ∨
    Published sha256 task acquired start w ∧ (Honest task.host → FlushFailed failure)

theorem ensures_stay (same : m = awaits task.host call answer) :
    Ensures (Cleared sha256 task acquired start pointer proofs checkpoint) anytime m
      (fun _ => Cleared sha256 task acquired start pointer proofs checkpoint)
      (PublishFailed sha256 task acquired start) := by
  rw [same]
  exact Ensures.perform (fun _ _ => trivial) (fun w _ held _ => held.lose call)
    fun w _ held _ => .inl (held.lose call).toUnpublished

theorem ensures_settled :
    Ensures (Cleared sha256 task acquired start pointer proofs checkpoint) anytime (compute result)
      (fun a w => Cleared sha256 task acquired start pointer proofs checkpoint w ∧ result = .ok a)
      (PublishFailed sha256 task acquired start) :=
  (ensures_lift fun _ _ held => .inl held.toUnpublished).known told_compute

theorem ensures_replace (verified : Verified task pointer)
    (holds : HoldsPointer sha256 (some bytes) pointer) :
    Ensures (Cleared sha256 task acquired start pointer task.proofs task.checkpoint) anytime
      (replace task.host bytes) (fun _ => Published sha256 task acquired start)
      (PublishFailed sha256 task acquired start) := by
  refine Ensures.perform (fun _ _ => trivial) (fun w _ held ok => ?_) fun w error held failed => ?_
  · cases answer : task.host.replace with
    | done => exact (held.lose _).publish verified holds
    | refused error => simp [answer] at ok
    | late error => simp [answer] at ok
  · cases answer : task.host.replace with
    | done => simp [answer] at failed
    | refused error => exact .inl (held.lose _).toUnpublished
    | late error =>
      exact .inr ⟨(held.lose _).publish verified holds,fun honest => absurd answer (honest.replace _)⟩

theorem ensures_flushParent :
    Ensures (Published sha256 task acquired start) anytime (runStep task.host .flushParent)
      (fun _ => Published sha256 task acquired start) (PublishFailed sha256 task acquired start) := by
  refine Ensures.perform (fun _ _ => trivial) (fun w _ held _ => held.lose _) fun w failure held failed => ?_
  refine .inr ⟨held.lose _,fun honest => ?_⟩
  cases fault : task.host.publication .flushParent with
  | none =>
    simp only [fault] at failed
    cases failed
  | some error =>
    simp only [fault] at failed
    cases failed
    exact honest.flush error fault

theorem generationPointerBytes_holds
    (spelled : Pointer.generationPointerBytes sha256 pointer = .ok bytes) :
    HoldsPointer sha256 (some bytes) pointer := by
  rw [Pointer.generationPointerBytes,except_unit_bind_ok,mapError_ok] at spelled
  exact ⟨spelled.1,_,spelled.2,rfl⟩

theorem ensures_publish (verified : Verified task pointer) :
    Ensures (Cleared sha256 task acquired start pointer task.proofs task.checkpoint) anytime
      (publishGeneration sha256 task.host pointer) (fun _ => Published sha256 task acquired start)
      (PublishFailed sha256 task acquired start) := by
  refine Ensures.bind (ensures_settled _) fun _ => Ensures.given fun _ => ?_
  have read : Ensures (Cleared sha256 task acquired start pointer task.proofs task.checkpoint) anytime
      (readLiveGeneration sha256 task.host true)
      (fun _ => Cleared sha256 task acquired start pointer task.proofs task.checkpoint)
      (PublishFailed sha256 task acquired start) :=
    Ensures.perform (fun _ _ => trivial) (fun w _ held _ => held.lose _)
      fun w _ held _ => .inl (held.lose _).toUnpublished
  refine Ensures.bind read fun current => ?_
  refine Ensures.bind (ensures_settled _) fun _ => Ensures.given fun _ => ?_
  refine Ensures.bind (ensures_settled _) fun bytes => Ensures.given fun spelled => ?_
  refine Ensures.bind (ensures_stay rfl) fun _ => ?_
  refine Ensures.bind (ensures_stay rfl) fun _ => ?_
  refine Ensures.bind (ensures_replace verified (generationPointerBytes_holds spelled)) fun _ => ?_
  exact Ensures.bind ensures_flushParent fun _ => Ensures.pure fun _ held => held

/-- A part that fails before the replacement, ahead of the publication. -/
theorem ensures_early {after : β → World → Prop}
    {f : α → Program World Failure β} (first : Ensures before anytime m between
      (fun _ => Unpublished sha256 task acquired start))
    (early : ∀ failure w, Unpublished sha256 task acquired start w → failed failure w)
    (rest : ∀ a, Ensures (between a) anytime (f a) after failed) :
    Ensures before anytime (m >>= f) after failed :=
  Ensures.bind (first.weaken (fun _ => id) (fun _ _ => id) early) rest

structure Ended (sha256 : List UInt8 → Units) (task : Task) (acquired released : Nat)
    (start w : World) : Prop where
  replaced : Replaced sha256 task start w
  acquired : w.log.countP Event.isAcquired = acquired
  released : w.log.countP Event.isReleased = released
  tidy : ∀ slot, .removed slot ∈ w.log → Removable sha256 task slot

theorem Unpublished.ended (held : Unpublished sha256 task acquired start w) :
    Ended sha256 task acquired 0 start w :=
  ⟨.never held.quiet held.slot,held.acquired,held.released,held.tidy⟩

theorem Published.ended (held : Published sha256 task acquired start w) :
    Ended sha256 task acquired 0 start w := by
  obtain ⟨before,pointer,log,sanctioned,verified,holds⟩ := held.log
  exact ⟨.once log sanctioned verified holds rfl fun _ => held.there,
    held.acquired,held.released,held.tidy⟩

/-- An event after which the run goes on to its end. -/
theorem Replaced.note (held : Replaced sha256 task start w)
    (other : event.isReplaced = false) : Replaced sha256 task start (w.note event) := by
  cases held with
  | never quiet slot =>
    exact .never (by simp [countP_append,quiet,other]) slot
  | @once before after pointer log sanctioned verified holds quiet tree =>
    have later : (w.note event).log = before ++ .replaced true :: (after ++ [event]) := by
      rw [log_note,log,append_assoc,cons_append]
    exact .once later sanctioned verified holds (by simp [countP_append,quiet,other]) tree

theorem Replaced.lose (held : Replaced sha256 task start w) (call : Call) :
    Replaced sha256 task start (w.lose task.host call) := by
  cases held with
  | never quiet slot => exact .never quiet slot
  | once log sanctioned verified holds quiet tree =>
    exact .once log sanctioned verified holds quiet tree

theorem Ended.release (held : Ended sha256 task acquired 0 start w) :
    Ended sha256 task acquired 1 start (w.note .released) where
  replaced := held.replaced.note rfl
  acquired := by simp [countP_append,held.acquired,Event.isAcquired]
  released := by simp [countP_append,held.released,Event.isReleased]
  tidy := tidy_append held.tidy (by rintro slot ⟨⟩)

theorem ensures_release (lease : Lease) :
    Ensures (Ended sha256 task acquired 0 start) anytime (releaseFence task.host lease)
      (fun _ => Ended sha256 task acquired lease.release.toNat start)
      (fun _ => Ended sha256 task acquired lease.release.toNat start) := by
  unfold releaseFence
  cases lease.release with
  | false => exact Ensures.pure fun _ held => held
  | true =>
    exact Ensures.perform (fun _ _ => trivial) (fun _ _ held _ => held.release) fun _ _ held _ => held.release

/-- The end of a run that takes a lease: none was acquired, or one was and is released. -/
def LeaseEnded (sha256 : List UInt8 → Units) (task : Task) (start w : World) : Prop :=
  Ended sha256 task 0 0 start w ∨ ∃ lease, task.host.acquireFence = .ok lease ∧
    Ended sha256 task 1 lease.release.toNat start w

theorem Proving.acquire (held : Proving sha256 task 0 start False [] w) :
    Proving sha256 task 1 start False [] (w.note .acquired) where
  acquired := by simp [countP_append,held.acquired,Event.isAcquired]
  released := by simp [countP_append,held.released,Event.isReleased]
  tidy := tidy_append held.tidy (by rintro slot ⟨⟩)
  slot := held.slot
  quiet := by simp [countP_append,held.quiet,Event.isReplaced]
  tree := held.tree
  made := held.made
  seen := held.seen
  there := held.there
  proofs := by
    rw [log_note,proofsOf_append,held.proofs]
    rfl
  current current step flag member := by
    rcases mem_append.mp member with before | new
    · exact held.current current step flag before
    · cases mem_singleton.mp new

theorem ensures_acquire {f : Lease → Program World Failure Receipt}
    (fenced : ∀ lease, task.host.acquireFence = .ok lease →
      Ensures (Proving sha256 task 1 start False []) anytime (f lease)
        (fun _ => Ended sha256 task 1 lease.release.toNat start)
        (fun _ => Ended sha256 task 1 lease.release.toNat start)) :
    Ensures (Proving sha256 task 0 start False []) anytime (acquireFence task.host >>= f)
      (fun _ => LeaseEnded sha256 task start)
      (fun _ => LeaseEnded sha256 task start) := by
  cases answer : task.host.acquireFence with
  | error thrown =>
    have refused : Ensures (Proving sha256 task 0 start False []) anytime (acquireFence task.host)
        (fun _ _ => False) (fun _ => LeaseEnded sha256 task start) := by
      refine Ensures.perform (fun _ _ => trivial) ?_ ?_
      · intro w a _ ok
        simp [answer] at ok
      · intro w error held _
        simp only [answer]
        exact .inl held.toUnpublished.ended
    exact Ensures.bind refused fun _ _ impossible => impossible.elim
  | ok lease =>
    have granted : Ensures (Proving sha256 task 0 start False []) anytime (acquireFence task.host)
        (fun a w => Proving sha256 task 1 start False [] w ∧ a = lease)
        (fun _ => LeaseEnded sha256 task start) := by
      refine Ensures.perform (fun _ _ => trivial) ?_ ?_
      · intro w a held ok
        simp only [answer] at ok ⊢
        cases ok
        exact ⟨held.acquire,rfl⟩
      · intro w error _ failed
        simp [answer] at failed
    refine Ensures.bind granted fun a => Ensures.given fun same => ?_
    rw [same]
    refine (fenced lease answer).weaken (fun _ => id) ?_ ?_
    · exact fun _ w ended => .inr ⟨lease,answer,ended⟩
    · exact fun _ w ended => .inr ⟨lease,answer,ended⟩

theorem Disk.proving (disk : Disk sha256 path) (same : task.path = path) :
    Proving sha256 task 0 disk.start False [] disk.start where
  acquired := rfl
  released := rfl
  tidy := by rintro slot ⟨⟩
  slot := rfl
  quiet := rfl
  tree := same ▸ disk.whole
  made := by rintro ⟨⟩
  seen := rfl
  there := False.elim
  proofs := rfl
  current := by rintro _ step flag ⟨⟩

theorem Ended.lawful {released : Nat}
    (ended : Ended sha256 task acquired released start run.state) (one : acquired ≤ 1)
    (all : (∀ lease, task.host.acquireFence = .ok lease → lease.release) → released = acquired) :
    Lawful sha256 task start run where
  replaced := ended.replaced
  acquired := ended.acquired.trans_le one
  released releasable := by rw [ended.released,ended.acquired,all releasable]
  removed := ended.tidy

theorem LeaseEnded.lawful (ended : LeaseEnded sha256 task start run.state) :
    Lawful sha256 task start run := by
  rcases ended with none | ⟨lease,answer,one⟩
  · exact none.lawful (Nat.zero_le 1) fun _ => rfl
  · refine one.lawful le_rfl fun releasable => ?_
    rw [releasable lease answer]
    rfl

theorem lawful_of_ensures (proved : Ensures before anytime m (fun _ => ended) (fun _ => ended))
    (begun : before start) (lawful : ended (m start).state → Lawful sha256 task start (m start)) :
    Lawful sha256 task start (m start) := by
  have ends := (proved start begun).2
  apply lawful
  cases result : (m start).result with
  | error error =>
    rw [result] at ends
    exact ends
  | ok receipt =>
    rw [result] at ends
    exact ends

theorem PublishFailed.ended {failure : Failure}
    (failed : PublishFailed sha256 task acquired start failure w) :
    Ended sha256 task acquired 0 start w := by
  rcases failed with early | ⟨late,_⟩
  · exact early.ended
  · exact late.ended

/-- A pointer built from what the proofs answered. -/
theorem verified_of_built (task : Task) {input : PointerInput} {proof : RootProof}
    (built : buildGenerationPointer sha256 input = .ok pointer) (path : input.generationPath = task.path)
    (root : task.host.identifyRoot = .ok proof)
    (identity : task.host.hashIdentity proof.rootIdentity = .ok input.rootIdentityFingerprint)
    (storage : task.host.hashIdentity proof.storageIdentity = .ok input.storageIdentityFingerprint)
    (graph : task.host.verifyRepositoryGraph = .ok input.gitGenerationFingerprint)
    (manifest : task.manifest = .ok input.manifestFingerprint) :
    Verified task pointer ∧ workspaceEvidence pointer input.rootIdentityFingerprint
      input.gitGenerationFingerprint input.manifestFingerprint = pointerEvidence pointer := by
  rw [buildGenerationPointer,except_unit_bind_ok] at built
  obtain ⟨_,built⟩ := built
  obtain ⟨fingerprint,_,built⟩ := except_bind_ok.mp built
  obtain ⟨_,made⟩ := except_unit_bind_ok.mp built
  cases made
  exact ⟨⟨path,⟨proof,root,identity,storage⟩,graph,manifest⟩,rfl⟩

def createProofs : List ProofStep := [.root,.candidate,.gitDir,.graph,.manifest]

/-- The first generation has no activity to fence. -/
def createTask (host : Host) (request : Create.CreateRequest) : Task :=
  ⟨host,request.generationPath,host.manifest,createProofs,none,false⟩

theorem ensures_runCreateClone (host : Host) (request : Create.CreateRequest) :
    Ensures (Proving sha256 (createTask host request) 0 start False []) anytime
      (Create.runCreateClone sha256 host request)
      (fun _ => Ended sha256 (createTask host request) 0 0 start)
      (fun _ => Ended sha256 (createTask host request) 0 0 start) := by
  have body : Ensures (Proving sha256 (createTask host request) 0 start False []) anytime
      (Create.runCreateClone sha256 host request)
      (fun _ => Published sha256 (createTask host request) 0 start)
      (PublishFailed sha256 (createTask host request) 0 start) := by
    refine ensures_early (ensures_compute _) (fun _ _ => .inl) fun _ => ?_
    refine ensures_early ((ensures_proving _ _ _).known told_proving) (fun _ _ => .inl) fun rootProof =>
      Ensures.given fun proved => ?_
    refine ensures_early ensures_materialize (fun _ _ => .inl) fun _ => ?_
    refine ensures_early ensures_verifyContained (fun _ _ => .inl) fun _ => ?_
    refine ensures_early ((ensures_proving _ _ _).known told_proving) (fun _ _ => .inl) fun git =>
      Ensures.given fun graph => ?_
    refine ensures_early ((ensures_ask _).known told_ask) (fun _ _ => .inl) fun root =>
      Ensures.given fun identity => ?_
    refine ensures_early ((ensures_ask _).known told_ask) (fun _ _ => .inl) fun storage =>
      Ensures.given fun stored => ?_
    refine ensures_early ((ensures_proving _ _ _).known told_proving) (fun _ _ => .inl) fun manifest =>
      Ensures.given fun listed => ?_
    refine ensures_early ((ensures_compute _).known told_compute) (fun _ _ => .inl) fun pointer =>
      Ensures.given fun built => ?_
    obtain ⟨verified,evidence⟩ := verified_of_built (createTask host request) built rfl proved
      identity stored graph listed
    refine ensures_early (ensures_attest _ _ _ _ _ _ _ evidence) (fun _ _ => .inl) fun attestation => ?_
    refine Ensures.bind (ensures_publish verified) fun published => ?_
    exact Ensures.pure fun _ held => held
  exact body.weaken (fun _ => id) (fun _ _ held => held.ended) fun _ _ failed => failed.ended

def refreshProofs : List ProofStep := [.base,.root,.candidate,.gitDir,.graph,.manifest]

def refreshTask (host : Host) (request : Refresh.RefreshRequest) : Task :=
  ⟨host,request.generationPath,host.manifest,refreshProofs,some "publication",false⟩

theorem ensures_refreshFenced (host : Host) (request : Refresh.RefreshRequest) (lease : Lease) :
    Ensures (Proving sha256 (refreshTask host request) 1 start False []) anytime
      (Refresh.runFenced sha256 host request lease)
      (fun _ => Ended sha256 (refreshTask host request) 1 0 start)
      (fun _ => Ended sha256 (refreshTask host request) 1 0 start) := by
  have body : Ensures (Proving sha256 (refreshTask host request) 1 start False []) anytime
      (Refresh.runFenced sha256 host request lease)
      (fun _ => Published sha256 (refreshTask host request) 1 start)
      (PublishFailed sha256 (refreshTask host request) 1 start) := by
    refine ensures_early (ensures_compute _) (fun _ _ => .inl) fun _ => ?_
    refine ensures_early (ensures_readLive _) (fun _ _ => .inl) fun read => ?_
    refine ensures_early (ensures_compute _) (fun _ _ => .inl) fun live => ?_
    refine ensures_early (ensures_proved _) (fun _ _ => .inl) fun _ => ?_
    refine ensures_early (ensures_fence _ _) (fun _ _ => .inl) fun _ => ?_
    refine ensures_early ensures_materialize (fun _ _ => .inl) fun _ => ?_
    refine ensures_early ((ensures_proving _ _ _).known told_proving) (fun _ _ => .inl) fun rootProof =>
      Ensures.given fun proved => ?_
    refine ensures_early ensures_verifyContained (fun _ _ => .inl) fun _ => ?_
    refine ensures_early ((ensures_proving _ _ _).known told_proving) (fun _ _ => .inl) fun git =>
      Ensures.given fun graph => ?_
    refine ensures_early ((ensures_ask _).known told_ask) (fun _ _ => .inl) fun root =>
      Ensures.given fun identity => ?_
    refine ensures_early ((ensures_ask _).known told_ask) (fun _ _ => .inl) fun storage =>
      Ensures.given fun stored => ?_
    refine ensures_early ((ensures_proving _ _ _).known told_proving) (fun _ _ => .inl) fun manifest =>
      Ensures.given fun listed => ?_
    refine ensures_early ((ensures_compute _).known told_compute) (fun _ _ => .inl) fun pointer =>
      Ensures.given fun built => ?_
    obtain ⟨verified,evidence⟩ := verified_of_built (refreshTask host request) built rfl proved
      identity stored graph listed
    refine ensures_early (ensures_attest _ _ _ _ _ _ _ evidence) (fun _ _ => .inl) fun attestation => ?_
    refine ensures_early (ensures_lastFence _ _) (fun _ _ => .inl) fun _ => ?_
    refine Ensures.bind (ensures_publish verified) fun published => ?_
    exact Ensures.pure fun _ held => held
  exact body.weaken (fun _ => id) (fun _ _ held => held.ended) fun _ _ failed => failed.ended

theorem ensures_runRefresh (host : Host) (request : Refresh.RefreshRequest) :
    Ensures (Proving sha256 (refreshTask host request) 0 start False []) anytime
      (Refresh.runRefresh sha256 host request)
      (fun _ => LeaseEnded sha256 (refreshTask host request) start)
      (fun _ => LeaseEnded sha256 (refreshTask host request) start) := by
  refine ensures_early (ensures_compute _) (fun _ _ early => .inl early.ended) fun _ => ?_
  refine ensures_acquire fun lease _ => ?_
  exact Ensures.finish (ensures_refreshFenced host request lease) (fun _ => ensures_release lease)
    fun _ => ensures_release lease

end Steps

end Digest

end GjcRemote.Publish
