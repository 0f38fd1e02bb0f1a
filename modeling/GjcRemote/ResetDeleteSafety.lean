import GjcRemote.ResetDelete
import GjcRemote.BootRecoverySafety

/-! Reset and delete at every crash point: what the files can hold, what a recovery pass
then does with them, and how the receipt relates to the slot. -/
namespace GjcRemote.ResetDelete

open Utf16 StrictJson Record Workspace Lifecycle
open Pointer hiding Receipt
open CrashTrace CrashTrace.Program
open Recovery (Files RecoveryFaults recoverWorkspace)

section Digest

variable (sha256 : List UInt8 → Units)

def SpellsCleanup (bytes : Bytes) : Prop :=
  ∃ record, validateManualCleanup sha256 record = .ok () ∧
    canonicalJsonBytes record STRICT_JSON_LIMITS = .ok bytes

def HoldsCleanup (files : Files) : Prop :=
  ∃ bytes, SpellsCleanup sha256 bytes ∧ files.manualCleanup = some bytes

/-- As found, but for a cleanup record that was there and was dropped. -/
def Kept (start now : Files) : Prop :=
  now = start ∨ (now = {start with manualCleanup := none} ∧ HoldsCleanup sha256 start)

structure Durable (start now : Files) : Prop where
  frame : now = {start with live := now.live, manualCleanup := now.manualCleanup}
  slot : now.live = start.live ∨ ∃ tombstone, HoldsTombstone sha256 now.live tombstone
  outcome : Kept sha256 start now ∨ HoldsCleanup sha256 now ∨
    ∃ tombstone, HoldsTombstone sha256 now.live tombstone

structure Running (start now : World) : Prop where
  durable : Durable sha256 start.files now.files
  guarded : now.files.live = start.files.live ∨ now.fenced = true ∨ now.barred = true

structure Ended (start now : World) : Prop where
  durable : Durable sha256 start.files now.files
  guarded : now.files.live = start.files.live ∨ now.barred = true

structure Untouched (start now : World) : Prop where
  files : now.files = start.files
  fenced : now.fenced = true

structure Prepared (start now : World) : Prop where
  noted : HoldsCleanup sha256 now.files
  files : now.files = {start.files with manualCleanup := now.files.manualCleanup}
  removable : start.files.manualCleanup = none ∨ HoldsCleanup sha256 start.files
  fenced : now.fenced = true

structure Buried (start : World) (tombstone : Value) (now : World) : Prop where
  holds : HoldsTombstone sha256 now.files.live tombstone
  files : now.files = {start.files with live := now.files.live, manualCleanup := now.files.manualCleanup}

structure ReceiptLaw (start : World) (receipt : Receipt) (now : World) : Prop where
  published : receipt.published.isSome = true →
    receipt.disposition = "committed" ∧ HoldsTombstone sha256 now.files.live receipt.tombstone
  unpublished : receipt.published = none →
    receipt.disposition = "manual_cleanup" ∧ (now.files.live = start.files.live ∨
      HoldsTombstone sha256 now.files.live receipt.tombstone ∧
        ∃ cause, receipt.cause = some cause ∧
          cause.step ∈ [some "flushParent",some "clearTerminalPreparation"])

variable {sha256}

theorem Durable.refl (files : Files) : Durable sha256 files files :=
  ⟨rfl,.inl rfl,.inl (.inl rfl)⟩

variable {now : World}

theorem Untouched.running (untouched : Untouched start now) :
    Running sha256 start now := by
  refine ⟨?_,.inl (by rw [untouched.files])⟩
  rw [untouched.files]
  exact .refl _

theorem Prepared.durable (prepared : Prepared sha256 start now) :
    Durable sha256 start.files now.files := by
  have live : now.files.live = start.files.live := by rw [prepared.files]
  exact ⟨by rw [live]; exact prepared.files,.inl live,.inr (.inl prepared.noted)⟩

theorem Prepared.live (prepared : Prepared sha256 start now) :
    now.files.live = start.files.live := by
  rw [prepared.files]

theorem Buried.durable (buried : Buried sha256 start tombstone now) :
    Durable sha256 start.files now.files :=
  ⟨buried.files,.inr ⟨tombstone,buried.holds⟩,.inr (.inr ⟨tombstone,buried.holds⟩)⟩

theorem prepareCleanup_ok (ready : prepareCleanup sha256 faults existing record = .ok toWrite) :
    ∃ bytes, SpellsCleanup sha256 bytes ∧
      ((existing = none ∧ toWrite = some bytes) ∨ (existing = some bytes ∧ toWrite = none)) := by
  unfold prepareCleanup at ready
  cases ensured : faults .ensureDir with
  | some error => simp [ensured,bind,Except.bind,throw,throwThe,MonadExceptOf.throw] at ready
  | none =>
    simp only [ensured] at ready
    rw [except_unit_bind_ok,except_bind_ok] at ready
    obtain ⟨validated,bytes,spelled,rest⟩ := ready
    refine ⟨bytes,⟨record,mapError_ok.mp validated,mapError_ok.mp spelled⟩,?_⟩
    cases read : faults (.pointer .readLivePointer) with
    | some error => simp [read,bind,Except.bind,throw,throwThe,MonadExceptOf.throw] at rest
    | none =>
      simp only [read] at rest
      cases existing with
      | none =>
        cases rest
        exact .inl ⟨rfl,rfl⟩
      | some held =>
        simp only at rest
        split at rest
        · next same =>
          cases rest
          exact .inr ⟨by rw [same],rfl⟩
        · cases rest

/-- What publishing the record can come to. -/
theorem publishManualCleanup_cases (faults : CleanupFaults) (existing : Option Bytes) (record : Value) :
    (∃ failure, failure.ambiguous = false ∧
      publishManualCleanup sha256 faults existing record = (existing,.error failure)) ∨
    ∃ bytes result, SpellsCleanup sha256 bytes ∧ (existing = none ∨ existing = some bytes) ∧
      (∀ failure, result = .error failure → failure.ambiguous = true) ∧
      publishManualCleanup sha256 faults existing record = (some bytes,result) := by
  unfold publishManualCleanup
  cases ready : prepareCleanup sha256 faults existing record with
  | error thrown => exact .inl ⟨⟨thrown,false⟩,rfl,rfl⟩
  | ok toWrite =>
    obtain ⟨bytes,spells,⟨rfl,rfl⟩ | ⟨rfl,rfl⟩⟩ := prepareCleanup_ok ready
    · rcases runSteps_cases cleanupStepFailed
        (fun step => (faults (.pointer step)).map FsError.io) none bytes with
        ⟨step,error,early,_,result⟩ | ⟨error,_,_,result⟩ | result
      · exact .inl ⟨_,by simp [cleanupStepFailed,early],result⟩
      · refine .inr ⟨bytes,_,spells,.inl rfl,fun failure same => ?_,result⟩
        cases same
        rfl
      · exact .inr ⟨bytes,.ok (),spells,.inl rfl,fun _ impossible => (nomatch impossible),result⟩
    · exact .inr ⟨bytes,.ok (),spells,.inr rfl,fun _ impossible => (nomatch impossible),rfl⟩

theorem prepareTerminal_ensures (start : World) (host : Host) (manualCleanup : Value) :
    Ensures (Untouched start) (Running sha256 start) (prepareTerminal sha256 host manualCleanup)
      (fun _ => Prepared sha256 start) (fun failure now => if failure.ambiguous then Prepared sha256 start now
        else Untouched start now) := by
  have written : ∀ now bytes, Untouched start now → SpellsCleanup sha256 bytes →
      (now.files.manualCleanup = none ∨ now.files.manualCleanup = some bytes) →
      Prepared sha256 start {now with files := {now.files with manualCleanup := some bytes}} := by
    intro now bytes untouched spells before
    refine ⟨⟨bytes,spells,rfl⟩,by rw [untouched.files],?_,untouched.fenced⟩
    rw [untouched.files] at before
    rcases before with absent | present
    · exact .inl absent
    · exact .inr ⟨bytes,spells,present⟩
  have running : ∀ now, Prepared sha256 start now → Running sha256 start now := fun now prepared =>
    ⟨prepared.durable,.inl prepared.live⟩
  apply Ensures.perform
  · intro now untouched
    rcases @publishManualCleanup_cases sha256 host.prepare now.files.manualCleanup manualCleanup with
      ⟨failure,_,result⟩ | ⟨bytes,_,spells,before,_,result⟩
    · simp only [result]
      exact untouched.running
    · simp only [result]
      exact running _ (written now bytes untouched spells before)
  · intro now _ untouched succeeded
    rcases @publishManualCleanup_cases sha256 host.prepare now.files.manualCleanup manualCleanup with
      ⟨failure,_,result⟩ | ⟨bytes,_,spells,before,_,result⟩
    · simp [result] at succeeded
    · simp only [result]
      exact written now bytes untouched spells before
  · intro now failure untouched failed
    rcases @publishManualCleanup_cases sha256 host.prepare now.files.manualCleanup manualCleanup with
      ⟨_,clean,result⟩ | ⟨bytes,_,spells,before,ambiguous,result⟩
    · simp only [result,Except.error.injEq] at failed ⊢
      subst failed
      rw [clean]
      exact untouched
    · simp only [result] at failed ⊢
      rw [ambiguous failure failed]
      exact written now bytes untouched spells before

/-- Errors of the file system never carry the operation, so the step is always named. -/
theorem thrownStep_flushParent (error : FsError) :
    thrownStep (Tombstone.stepFailed .flushParent error.io) = some "flushParent" := by
  exact congrArg some (decode_ofString "flushParent")

/-- What publishing the tombstone can come to. -/
theorem publishTombstone_cases (faults : IoStep → Option FsError) (live : Option Bytes) (tombstone : Value) :
    (∃ thrown, Tombstone.publishTombstone sha256 (fun step => (faults step).map FsError.io) live
        tombstone = (live,.error thrown)) ∨ ∃ bytes result, HoldsTombstone sha256 (some bytes) tombstone ∧
      (∀ thrown, result = .error thrown → thrownStep thrown = some "flushParent") ∧
      Tombstone.publishTombstone sha256 (fun step => (faults step).map FsError.io) live tombstone =
        (some bytes,result) := by
  rcases publishPrepared_cases Tombstone.stepFailed (fun step => (faults step).map FsError.io) live
    (Tombstone.prepareTombstone sha256 (fun step => (faults step).map FsError.io) live tombstone)
    (Tombstone.receiptOf tombstone) with
    ⟨thrown,result⟩ | ⟨bytes,error,prepared,failed,_,result⟩ | ⟨bytes,prepared,result⟩
  · exact .inl ⟨thrown,result⟩
  · refine .inr ⟨bytes,_,(Tombstone.prepareTombstone_ok prepared).1,fun thrown same => ?_,result⟩
    cases same
    obtain ⟨fsError,_,rfl⟩ := Option.map_eq_some_iff.mp failed
    exact thrownStep_flushParent fsError
  · exact .inr ⟨bytes,.ok _,(Tombstone.prepareTombstone_ok prepared).1,
      fun _ impossible => (nomatch impossible),result⟩

theorem publishTombstone_ensures (start : World) (host : Host) (tombstone : Value) :
    Ensures (Prepared sha256 start) (Running sha256 start)
      (publishTombstone sha256 host tombstone) (fun _ => Buried sha256 start tombstone)
      (fun thrown now => Prepared sha256 start now ∨
        Buried sha256 start tombstone now ∧ thrownStep thrown = some "flushParent") := by
  have landed : ∀ now bytes, Prepared sha256 start now → HoldsTombstone sha256 (some bytes) tombstone →
      Buried sha256 start tombstone {now with files := {now.files with live := some bytes}} := by
    intro now bytes prepared holds
    refine ⟨holds,?_⟩
    rw [prepared.files]
  apply Ensures.perform
  · intro now prepared
    rcases @publishTombstone_cases sha256 host.publication now.files.live tombstone with
      ⟨_,result⟩ | ⟨bytes,_,holds,_,result⟩
    · simp only [result]
      exact ⟨prepared.durable,.inl prepared.live⟩
    · simp only [result]
      exact ⟨(landed now bytes prepared holds).durable,.inr (.inl prepared.fenced)⟩
  · intro now _ prepared succeeded
    rcases @publishTombstone_cases sha256 host.publication now.files.live tombstone with
      ⟨_,result⟩ | ⟨bytes,_,holds,_,result⟩
    · simp [result] at succeeded
    · simp only [result]
      exact landed now bytes prepared holds
  · intro now thrown prepared failed
    rcases @publishTombstone_cases sha256 host.publication now.files.live tombstone with
      ⟨_,result⟩ | ⟨bytes,_,holds,step,result⟩
    · simp only [result]
      exact .inl prepared
    · simp only [result] at failed ⊢
      exact .inr ⟨landed now bytes prepared holds,step thrown failed⟩

theorem clearManualCleanup_cases (faults : CleanupFaults) (existing : Option Bytes) :
    ((clearManualCleanup faults existing).1 = existing ∧
      ∃ thrown, (clearManualCleanup faults existing).2 = .error thrown) ∨
    (clearManualCleanup faults existing).1 = none := by
  unfold clearManualCleanup
  cases faults .ensureDir with
  | some error => exact .inl ⟨rfl,_,rfl⟩
  | none =>
    cases faults .unlink with
    | some error => exact .inl ⟨rfl,_,rfl⟩
    | none =>
      cases faults (.pointer .flushParent) with
      | some error => exact .inr rfl
      | none => exact .inr rfl

/-- The slot as found, and any cleanup record beside it that may stand there. -/
structure Idle (sha256 : List UInt8 → Units) (start now : World) : Prop where
  durable : Durable sha256 start.files now.files
  live : now.files.live = start.files.live

theorem Prepared.cleared (prepared : Prepared sha256 start now) :
    Idle sha256 start {now with files := {now.files with manualCleanup := none}} := by
  have files := prepared.files
  refine ⟨⟨?_,.inl prepared.live,.inl ?_⟩,prepared.live⟩
  · rw [files]
  · rw [files]
    rcases prepared.removable with absent | present
    · refine .inl ?_
      rw [← absent]
    · exact .inr ⟨rfl,present⟩

theorem clear_prepared (start : World) (host : Host) :
    Ensures (Prepared sha256 start) (Running sha256 start) (clearTerminalPreparation host)
      (fun _ => Idle sha256 start) (fun _ => Idle sha256 start) := by
  have idle : ∀ now, Prepared sha256 start now → Idle sha256 start {now with files := {now.files with
      manualCleanup := (clearManualCleanup host.clear now.files.manualCleanup).1}} := by
    intro now prepared
    rcases clearManualCleanup_cases host.clear now.files.manualCleanup with ⟨kept,_⟩ | dropped
    · rw [kept]
      exact ⟨prepared.durable,prepared.live⟩
    · rw [dropped]
      exact prepared.cleared
  exact Ensures.perform (fun now prepared => ⟨(idle now prepared).durable,.inl (idle now prepared).live⟩)
    (fun now _ prepared _ => idle now prepared) (fun now _ prepared _ => idle now prepared)

/-- Dropping the record leaves the tombstone where it is. -/
theorem clear_buried (start : World) (host : Host) (tombstone : Value) :
    Ensures (fun now => Buried sha256 start tombstone now ∧ now.barred)
      (Running sha256 start) (clearTerminalPreparation host)
      (fun _ now => Buried sha256 start tombstone now ∧ now.barred)
      (fun _ now => Buried sha256 start tombstone now ∧ now.barred) := by
  have buried : ∀ now, Buried sha256 start tombstone now → Buried sha256 start tombstone
      {now with files := {now.files with
        manualCleanup := (clearManualCleanup host.clear now.files.manualCleanup).1}} :=
    fun now buried => ⟨buried.holds,by rw [buried.files]⟩
  exact Ensures.perform (fun now held => ⟨(buried now held.1).durable,.inr (.inr held.2)⟩)
    (fun now _ held _ => ⟨buried now held.1,held.2⟩) (fun now _ held _ => ⟨buried now held.1,held.2⟩)

/-- Committing changes nothing but the bar, whatever becomes of the binding. -/
theorem commitTerminal_ensures (host : Host)
    (durable : ∀ now, before now → Durable sha256 start.files now.files)
    (unbarred : ∀ now, before now → before {now with barred := true}) :
    Ensures before (Running sha256 start) (commitTerminal host) (fun _ now => before now ∧ now.barred)
      (fun _ now => before now ∧ now.barred) :=
  Ensures.perform (fun now held => ⟨durable now held,.inr (.inr rfl)⟩)
    (fun now _ held _ => ⟨unbarred now held,rfl⟩) (fun now _ held _ => ⟨unbarred now held,rfl⟩)

/-- What is owed when the fence is about to be released. -/
def Finished (sha256 : List UInt8 → Units) (start : World) (receipt : Receipt) (now : World) : Prop :=
  Ended sha256 start now ∧ ReceiptLaw sha256 start receipt now

theorem Terminal.cleanup_law (terminal : Terminal) (code step : Option String)
    (slot : now.files.live = start.files.live ∨ HoldsTombstone sha256 now.files.live terminal.tombstone ∧
        step ∈ [some "flushParent",some "clearTerminalPreparation"]) :
    ReceiptLaw sha256 start (terminal.cleanup code step) now where
  published := fun impossible => by cases impossible
  unpublished := fun _ => ⟨rfl,slot.imp id fun held => ⟨held.1,_,rfl,held.2⟩⟩

theorem Terminal.committed_law (terminal : Terminal) (published : Tombstone.Receipt)
    (slot : HoldsTombstone sha256 now.files.live terminal.tombstone) :
    ReceiptLaw sha256 start (terminal.committed published) now where
  published := fun _ => ⟨rfl,slot⟩
  unpublished := fun impossible => by cases impossible

/-- A manual-cleanup receipt is right about the slot as found, and after a failed flush. -/
theorem commitManualCleanup_ensures (start : World) (host : Host) (terminal : Terminal)
    (thrown : Thrown) (step : Option String) :
    Ensures (fun now => Idle sha256 start now ∨
        Buried sha256 start terminal.tombstone now ∧ step = some "flushParent")
      (Running sha256 start) (commitManualCleanup host terminal thrown step)
      (Finished sha256 start) (fun _ => Ended sha256 start) := by
  have durable : ∀ now, (Idle sha256 start now ∨
      Buried sha256 start terminal.tombstone now ∧ step = some "flushParent") →
      Durable sha256 start.files now.files := by
    rintro now (idle | ⟨buried,_⟩)
    · exact idle.durable
    · exact buried.durable
  refine Ensures.bind (Ensures.weaken
    (commitTerminal_ensures host durable ?_) (fun _ held => held) (fun _ _ held => held)
    (fun _ now held => ⟨durable now held.1,.inr held.2⟩)) fun _ => Ensures.pure ?_
  · rintro now (⟨durable,live⟩ | ⟨⟨holds,files⟩,flushed⟩)
    · exact .inl ⟨durable,live⟩
    · exact .inr ⟨⟨holds,files⟩,flushed⟩
  · rintro now ⟨held,barred⟩
    refine ⟨⟨durable now held,.inr barred⟩,terminal.cleanup_law _ step ?_⟩
    rcases held with idle | ⟨buried,flushed⟩
    · exact .inl idle.live
    · exact .inr ⟨buried.holds,by simp [flushed]⟩

theorem clearOr_ensures (start : World) (host : Host) (terminal : Terminal) (thrown : Thrown) :
    Ensures (Prepared sha256 start) (Running sha256 start) (clearOr host terminal thrown)
      (Finished sha256 start) (fun _ => Ended sha256 start) := by
  have tried : Ensures (Prepared sha256 start) (Running sha256 start)
      (attempt (clearTerminalPreparation host)) (fun _ => Idle sha256 start)
      (fun (_ : Thrown) => Ended sha256 start) := Ensures.attempt (clear_prepared start host)
  refine tried.bind fun cleared => ?_
  cases cleared with
  | error clearError =>
    exact (commitManualCleanup_ensures start host terminal clearError _).weaken
      (fun _ idle => .inl idle) (fun _ _ held => held) (fun _ _ held => held)
  | ok _ => exact Ensures.fail fun _ idle => ⟨idle.durable,.inl idle.live⟩

theorem commitPublished_ensures (start : World) (host : Host) (terminal : Terminal)
    (published : Tombstone.Receipt) :
    Ensures (Buried sha256 start terminal.tombstone) (Running sha256 start)
      (commitPublished host terminal published) (Finished sha256 start) (fun _ => Ended sha256 start) := by
  have ended : ∀ now, Buried sha256 start terminal.tombstone now ∧ now.barred →
      Ended sha256 start now := fun now held => ⟨held.1.durable,.inr held.2⟩
  have committed := commitTerminal_ensures host
    (fun now (buried : Buried sha256 start terminal.tombstone now) => buried.durable)
    (fun now buried => ⟨buried.holds,buried.files⟩)
  refine Ensures.bind (committed.weaken (fun _ held => held) (fun _ _ held => held)
    (fun _ now held => ended now held)) fun _ => ?_
  have tried : Ensures (fun now => Buried sha256 start terminal.tombstone now ∧ now.barred)
      (Running sha256 start) (attempt (clearTerminalPreparation host))
      (fun _ now => Buried sha256 start terminal.tombstone now ∧ now.barred)
      (fun (_ : Thrown) => Ended sha256 start) :=
    Ensures.attempt (clear_buried start host terminal.tombstone)
  refine tried.bind fun cleared => ?_
  cases cleared with
  | error thrown =>
    exact Ensures.pure fun now held =>
      ⟨ended now held,terminal.cleanup_law _ _ (.inr ⟨held.1.holds,by simp⟩)⟩
  | ok _ =>
    exact Ensures.pure fun now held =>
      ⟨ended now held,terminal.committed_law published held.1.holds⟩

theorem flushParent_isTombstoneStep
    (step : thrownStep thrown = some "flushParent") : isTombstoneStep thrown := by
  rw [isTombstoneStep,step]
  decide

section

variable (start : World) (host : Host)

theorem publishTerminal_ensures (terminal : Terminal) :
    Ensures (Prepared sha256 start) (Running sha256 start) (publishTerminal sha256 host terminal)
      (Finished sha256 start) (fun _ => Ended sha256 start) := by
  have tried : Ensures (Prepared sha256 start) (Running sha256 start)
      (attempt (publishTombstone sha256 host terminal.tombstone))
      (fun result now => match result with
        | .ok _ => Buried sha256 start terminal.tombstone now
        | .error thrown => Prepared sha256 start now ∨
          Buried sha256 start terminal.tombstone now ∧ thrownStep thrown = some "flushParent")
      (fun (_ : Thrown) => Ended sha256 start) :=
    Ensures.attempt (publishTombstone_ensures start host terminal.tombstone)
  refine tried.bind fun result => ?_
  cases result with
  | ok published => exact commitPublished_ensures start host terminal published
  | error thrown =>
    simp only
    split
    · refine (commitManualCleanup_ensures start host terminal thrown _).weaken ?_
        (fun _ _ held => held) (fun _ _ held => held)
      rintro now (prepared | flushed)
      · exact .inl ⟨prepared.durable,prepared.live⟩
      · exact .inr flushed
    · next other =>
      refine (clearOr_ensures start host terminal thrown).weaken ?_
        (fun _ _ held => held) (fun _ _ held => held)
      rintro now (prepared | ⟨_,step⟩)
      · exact prepared
      · exact absurd (flushParent_isTombstoneStep step) other

theorem runTerminal_ensures (terminal : Terminal) :
    Ensures (Untouched start) (Running sha256 start) (runTerminal sha256 host terminal)
      (Finished sha256 start) (fun _ => Ended sha256 start) := by
  have tried : Ensures (Untouched start) (Running sha256 start)
      (attempt (prepareTerminal sha256 host terminal.manualCleanup))
      (fun result now => match result with
        | .ok _ => Prepared sha256 start now
        | .error failure => if failure.ambiguous then Prepared sha256 start now
          else Untouched start now)
      (fun (_ : Thrown) => Ended sha256 start) :=
    Ensures.attempt (prepareTerminal_ensures start host terminal.manualCleanup)
  refine tried.bind fun result => ?_
  cases result with
  | ok _ =>
    simp only
    split
    · exact publishTerminal_ensures start host terminal
    · exact clearOr_ensures start host terminal fenceLost
  | error failure =>
    cases ambiguous : failure.ambiguous with
    | true =>
      simp only [ambiguous,if_true]
      exact (commitManualCleanup_ensures start host terminal failure.thrown _).weaken
        (fun _ prepared => .inl ⟨prepared.durable,prepared.live⟩) (fun _ _ held => held)
        (fun _ _ held => held)
    | false =>
      simp only [ambiguous,Bool.false_eq_true,if_false]
      exact Ensures.fail fun _ untouched => ⟨untouched.running.durable,.inl (by rw [untouched.files])⟩

/-- Whatever is decided before the first write ends the operation with nothing written. -/
theorem lift_untouched (result : Except Thrown α) :
    Ensures (Untouched start) (Running sha256 start) (lift result) (fun _ => Untouched start)
      (fun _ => Ended sha256 start) :=
  Ensures.lift (fun _ _ untouched _ => untouched)
    (fun _ _ untouched _ => ⟨untouched.running.durable,.inl (by rw [untouched.files])⟩)

theorem readAccepted_ensures (request : Request) :
    Ensures (Untouched start) (Running sha256 start) (readAccepted sha256 host request)
      (fun _ => Untouched start) (fun _ => Ended sha256 start) := by
  have ended : ∀ now, Untouched start now → Ended sha256 start now := fun now untouched =>
    ⟨untouched.running.durable,.inl (by rw [untouched.files])⟩
  refine (lift_untouched start _).bind fun _ => (lift_untouched start _).bind fun _ =>
    (lift_untouched start _).bind fun _ => (lift_untouched start _).bind fun _ => ?_
  refine Ensures.bind (Ensures.inspect (fun _ _ untouched _ => untouched)
    (fun now _ untouched _ => ended now untouched)) fun live => ?_
  cases live with
  | none => exact Ensures.fail ended
  | some live => exact (lift_untouched start _).bind fun _ => Ensures.pure fun _ untouched => untouched

theorem runFenced_ensures (request : Request) (manualCleanup fence : Value) :
    Ensures (Untouched start) (Running sha256 start)
      (runFenced sha256 host request manualCleanup fence) (Finished sha256 start)
      (fun _ => Ended sha256 start) :=
  (readAccepted_ensures start host request).bind fun _ => (lift_untouched start _).bind fun _ =>
    (lift_untouched start _).bind fun _ => (lift_untouched start _).bind fun _ =>
      (lift_untouched start _).bind fun _ => runTerminal_ensures start host _

theorem runResetDelete_ensures (request : Request) :
    Ensures (fun now => now = start) (Running sha256 start) (runResetDelete sha256 host request)
      (Finished sha256 start) (fun _ => Ended sha256 start) := by
  have idle : ∀ now, now = start → Ended sha256 start now := by
    rintro now rfl
    exact ⟨.refl _,.inl rfl⟩
  refine Ensures.bind (Ensures.lift (fun _ _ same _ => same) (fun now _ same _ => idle now same)) fun _ => ?_
  refine Ensures.bind (Ensures.lift (fun _ _ same _ => same) (fun now _ same _ => idle now same))
    fun manualCleanup => ?_
  have acquired : Ensures (fun now => now = start) (Running sha256 start) (acquireFence host)
      (fun _ => Untouched start) (fun _ => Ended sha256 start) := by
    unfold acquireFence
    cases host.acquireFence with
    | error thrown =>
      apply Ensures.perform
      · rintro now rfl
        exact ⟨.refl _,.inl rfl⟩
      · exact fun _ _ _ impossible => by cases impossible
      · exact fun now _ same _ => idle now same
    | ok fence =>
      apply Ensures.perform
      · rintro now rfl
        exact ⟨.refl _,.inl rfl⟩
      · rintro now _ rfl _
        exact ⟨rfl,rfl⟩
      · exact fun _ _ _ impossible => by cases impossible
  refine acquired.bind fun fence => ?_
  exact Ensures.ensuring (runFenced_ensures start host request manualCleanup fence)
    (fun _ now held => ⟨held.1.durable,held.1.guarded.imp id .inr⟩)
    (fun _ now held => ⟨held.durable,held.guarded.imp id .inr⟩)
    (fun _ now held => ⟨⟨held.1.durable,held.1.guarded⟩,⟨held.2.published,held.2.unpublished⟩⟩)
    (fun _ now held => ⟨held.durable,held.guarded⟩)

end

/-- The operation after every check has passed. -/
theorem runResetDelete_reaches {host : Host} {request : Request} {world : World}
    {manualCleanup fence probe dirty tombstone : Value} {live : Tombstone.Disposition}
    (asserted : assertRequest request = .ok ())
    (built : buildManualCleanup sha256 request.lifecycleAuthority = .ok manualCleanup)
    (acquired : host.acquireFence = .ok fence) (probed : host.probeQuiescence = .ok probe)
    (quiescent : assertQuiescent probe = .ok ()) (current : ∀ checkpoint, host.isCurrent checkpoint = true)
    (opened : host.tombstoneIo = .ok ())
    (read : Tombstone.readLiveDisposition sha256 (fun _ => host.readLive.map FsError.io)
      world.files.live = .ok (some live))
    (accepted : assertAccepted request live = .ok ()) (saved : host.dirtyBackup live = .ok dirty)
    (absent : host.residualAbsence = .ok ())
    (buried : buildTombstone sha256 ⟨request.hostId,request.workspaceId,request.sourcePlatform,
      request.operation,get live.record "activeGeneration",live.kind,live.fingerprint,dirty⟩ = .ok tombstone) :
    (runResetDelete sha256 host request world).result =
      (runTerminal sha256 host ⟨request.operation,tombstone,fence,dirty,manualCleanup⟩
        {world with fenced := true}).result ∧
    (runResetDelete sha256 host request world).state.files =
      (runTerminal sha256 host ⟨request.operation,tombstone,fence,dirty,manualCleanup⟩
        {world with fenced := true}).state.files := by
  have checked : ∀ checkpoint, assertFenceCurrent host checkpoint = .ok () := by
    intro checkpoint
    rw [assertFenceCurrent,current]
    rfl
  have reading : readAccepted sha256 host request {world with fenced := true} =
      ⟨[],{world with fenced := true},.ok live⟩ := by
    simp only [readAccepted,probed,quiescent,checked,opened,bind_lift_ok]
    simp only [bind,Program.bind,inspect,read]
    simp only [accepted,refuseWith,Except.mapError]
    rfl
  have inner : runFenced sha256 host request manualCleanup fence {world with fenced := true} =
      runTerminal sha256 host ⟨request.operation,tombstone,fence,dirty,manualCleanup⟩
        {world with fenced := true} := by
    show Program.bind (readAccepted sha256 host request) _ _ = _
    simp only [Program.bind,reading,saved,absent,checked,buried,refuseWith,Except.mapError,
      bind_lift_ok,List.nil_append]
  have outer : runResetDelete sha256 host request =
      (acquireFence host >>= fun fence =>
        ensuring (runFenced sha256 host request manualCleanup fence)
          fun world => {world with fenced := false}) := by
    simp only [runResetDelete,asserted,built,refuseWith,Except.mapError,bind_lift_ok]
  rw [outer]
  simp only [bind,Program.bind,acquireFence,perform,acquired,ensuring,inner,and_self]

/-- A publication that fails at the last flush: the receipt says unpublished. -/
theorem runTerminal_flushFailed {host : Host} {terminal : Terminal} {world : World}
    {held live : Option Bytes} {thrown : Thrown}
    (noted : publishManualCleanup sha256 host.prepare world.files.manualCleanup
      terminal.manualCleanup = (held,.ok ())) (current : host.isCurrent .terminalPreparation = true)
    (failed : Tombstone.publishTombstone sha256 (fun step => (host.publication step).map FsError.io)
      world.files.live terminal.tombstone = (live,.error thrown))
    (step : isTombstoneStep thrown = true) (retired : host.retireBinding = .ok ()) :
    (runTerminal sha256 host terminal world).result =
      .ok (terminal.cleanup (thrownCode thrown) (thrownStep thrown)) ∧
    (runTerminal sha256 host terminal world).state.files.live = live := by
  have preparing : (Program.attempt (prepareTerminal sha256 host terminal.manualCleanup) world :
        Progress World Thrown (Except CleanupFailure Unit)) =
      ⟨[{world with files := {world.files with manualCleanup := held}}],
        {world with files := {world.files with manualCleanup := held}},.ok (.ok ())⟩ := by
    simp only [Program.attempt,prepareTerminal,perform,noted]
  have publishing : (Program.attempt (publishTombstone sha256 host terminal.tombstone)
      {world with files := {world.files with manualCleanup := held}} : Progress World Thrown (Except Thrown Tombstone.Receipt)) =
      ⟨[{world with files := {world.files with live := live, manualCleanup := held}}],
        {world with files := {world.files with live := live, manualCleanup := held}},
        .ok (.error thrown)⟩ := by
    simp only [Program.attempt,publishTombstone,perform,failed]
  constructor <;>
  simp only [runTerminal,bind,Program.bind,preparing,current,if_true,publishTerminal,publishing,step,
    commitManualCleanup,commitTerminal,perform,retired,pure,Program.pure]

/-- What is used of `JSON.parse`: a text that opens with a brace is an object or an error. -/
def ReadsObjects (jsonParse : Bytes → Except JsError Value) : Prop :=
  ∀ bytes value, bytes.head? = some 0x7B → jsonParse bytes = .ok value → isPlainObject value = true

variable {jsonParse : Bytes → Except JsError Value}

theorem utf8_brace (rest : Units) : (utf8 (0x7B :: rest)).head? = some 0x7B := by
  have plain : decode (0x7B :: rest) = Char.ofNat 0x7B :: decode rest :=
    decode_plain (by decide) (by decide) rest
  rw [utf8,plain,List.flatMap_cons]
  rfl

/-- A cleanup record is spelled as an object. -/
theorem SpellsCleanup.brace (spells : SpellsCleanup sha256 bytes) :
    bytes.head? = some 0x7B := by
  obtain ⟨record,validated,spelled⟩ := spells
  rw [validateManualCleanup,except_unit_bind_ok,check_ok] at validated
  have exact : hasExactKeys record mcKeys := by
    have schema := validated.1
    simp only [cleanupSchema,Bool.and_eq_true] at schema
    exact schema.1.1.1.1.1.1.1.1.1.1.1.1
  obtain ⟨_,_,rfl⟩ := (canonicalJsonBytes_iff ..).mp spelled
  cases record with
  | object entries =>
    exact utf8_brace _
  | _ => simp [hasExactKeys] at exact

/-- A pass bars a workspace with a cleanup record, whatever else is there. -/
theorem recovery_bars_cleanup (objects : ReadsObjects jsonParse)
    (held : HoldsCleanup sha256 files) (faults : RecoveryFaults) (workspaceId : Units) :
    (recoverWorkspace sha256 jsonParse faults workspaceId files).1 = files ∧
      (recoverWorkspace sha256 jsonParse faults workspaceId files).2.action = .barred := by
  unfold recoverWorkspace
  cases known : Recovery.classified sha256 jsonParse faults.reads workspaceId files with
  | error thrown => exact ⟨rfl,rfl⟩
  | ok disposition =>
    obtain ⟨snapshot,spelled,same⟩ := Recovery.classified_ok known
    obtain ⟨bytes,spells,onFile⟩ := held
    have read := spelled.manualCleanup
    rw [onFile] at read
    have parsed : jsonParse bytes = .ok snapshot.manualCleanup := mapError_ok.mp read
    have object := objects bytes _ spells.brace parsed
    have present : isNull (Recovery.normalized snapshot).manualCleanup = false := by
      revert object
      simp only [Recovery.normalized]
      cases snapshot.manualCleanup <;> simp [isPlainObject,Recovery.orNull,isNull]
    have barred : disposition = .manualCleanup := by
      rw [same,Recovery.dispositionOf,present]
      rfl
    subst barred
    exact ⟨rfl,rfl⟩

/-- A pass bars a workspace whose slot holds a tombstone. -/
theorem recovery_bars_tombstone (buried : HoldsTombstone sha256 files.live tombstone) (faults : RecoveryFaults)
    (workspaceId : Units) :
    (recoverWorkspace sha256 jsonParse faults workspaceId files).1 = files ∧
      (recoverWorkspace sha256 jsonParse faults workspaceId files).2.action = .barred := by
  unfold recoverWorkspace
  cases known : Recovery.classified sha256 jsonParse faults.reads workspaceId files with
  | error thrown => exact ⟨rfl,rfl⟩
  | ok disposition =>
    obtain ⟨snapshot,spelled,_⟩ := Recovery.classified_ok known
    obtain ⟨bytes,_,live⟩ := buried.spelled
    have read := spelled.live
    rw [live] at read
    have parsed : parseGenerationPointer sha256 bytes = .ok snapshot.livePointer :=
      refuseWith_ok.mp read
    obtain ⟨validated,canonical⟩ := parseGenerationPointer_ok sha256 parsed
    have pointer : HoldsPointer sha256 files.live snapshot.livePointer :=
      ⟨validated,bytes,canonical,live⟩
    exact (pointer.not_tombstone buried).elim

variable (sha256 jsonParse)

/-- What the operation leaves at one moment, and what a reboot makes of it. -/
structure Recovers (start now : World) : Prop where
  frame : now.files = {start.files with live := now.files.live, manualCleanup := now.files.manualCleanup}
  /-- The slot is untouched and the workspace is not barred by this operation, or it is barred. -/
  reboot : (now.files.live = start.files.live ∧ Kept sha256 start.files now.files) ∨
    ∀ faults workspaceId,(recoverWorkspace sha256 jsonParse faults workspaceId now.files).1 = now.files ∧
      (recoverWorkspace sha256 jsonParse faults workspaceId now.files).2.action = .barred
  tombstoned : ∀ tombstone, HoldsTombstone sha256 now.files.live tombstone →
    ∀ faults workspaceId,(recoverWorkspace sha256 jsonParse faults workspaceId now.files).1 = now.files ∧
      (recoverWorkspace sha256 jsonParse faults workspaceId now.files).2.action = .barred
  notServed : now.files.live = start.files.live ∨ now.fenced = true ∨ now.barred = true

variable {sha256 jsonParse}

theorem Running.recovers (objects : ReadsObjects jsonParse)
    (running : Running sha256 start now) : Recovers sha256 jsonParse start now where
  frame := running.durable.frame
  reboot := by
    rcases running.durable.outcome with kept | noted | ⟨tombstone,buried⟩
    · refine .inl ⟨?_,kept⟩
      rcases kept with same | ⟨same,_⟩ <;> rw [same]
    · exact .inr (recovery_bars_cleanup objects noted)
    · exact .inr (recovery_bars_tombstone buried)
  tombstoned := fun _ buried => recovery_bars_tombstone buried
  notServed := running.guarded

/-- Reset and delete are crash-safe, and a receipt never claims more than the slot holds. -/
theorem reset_delete_crash_safe (objects : ReadsObjects jsonParse) (start : World) (host : Host)
    (request : Request) :
    (∀ now ∈ start :: (runResetDelete sha256 host request start).seen, Recovers sha256 jsonParse start now) ∧
    ∀ receipt, (runResetDelete sha256 host request start).result = .ok receipt →
      ReceiptLaw sha256 start receipt (runResetDelete sha256 host request start).state := by
  obtain ⟨crashes,ends⟩ := @runResetDelete_ensures sha256 start host request start rfl
  constructor
  · intro now member
    rcases List.mem_cons.mp member with rfl | later
    · exact Running.recovers objects ⟨.refl _,.inl rfl⟩
    · exact (crashes now later).recovers objects
  · intro receipt result
    rw [result] at ends
    exact ends.2

/-- SHA-256 of the three bodies below, told apart by the second letter of their first key. -/
def sampleDigest : Bytes → Units
  | _ :: _ :: _ :: letter :: _ =>
    if letter = 0x63 then firstDigest
    else if letter = 0x69 then
      ofString "ec7a0ddca02b8378d4431c26ca0fa7ce92181203ababcefdf855220a34dffb65"
    else ofString "f9b5c75ba8ff696192bb3a026a552accb88bd6cdb64362dcba3bed85497674a3"
  | _ => []

def hexOf (letter : UInt16) : Value := .string (List.replicate 64 letter)

/-- `firstPointer`, its keys in canonical order. -/
def livePointer : Value :=
  .object [(ofString "activeGeneration",.number (.int 1)),(ofString "generationPath",textValue "g1"),
    (ofString "gitGenerationFingerprint",hexOf 0x63),(ofString "hostId",textValue "h"),
    (ofString "kind",textValue KIND),(ofString "manifestFingerprint",hexOf 0x64),
    (ofString "pointerFingerprint",.string firstDigest),(ofString "priorGeneration",.null),
    (ofString "priorPointerFingerprint",.null),(ofString "rootIdentityFingerprint",hexOf 0x61),
    (ofString "sourcePlatform",textValue "posix"),(ofString "storageIdentityFingerprint",hexOf 0x62),
    (ofString "version",.number (.int 1)),(ofString "workspaceId",textValue "w")]

def liveBytes : Bytes := utf8 (render livePointer)

def sampleRequest : Request :=
  ⟨textValue "reset",textValue "h",textValue "w",textValue "posix",textValue "d",textValue "c",
    .number (.int 1),.object [(ofString "anchorFingerprint",hexOf 0x66),
      (ofString "fenceGeneration",.number (.int 1)),(ofString "txId",textValue "t"),
      (ofString "reason",textValue "r"),(ofString "expectedFingerprint",.null),
      (ofString "observedFingerprint",.null),(ofString "expectedFloorFingerprint",.null),
      (ofString "observedFloorFingerprint",.null)]⟩

/-- Everything succeeds but the flush after the replacement. -/
def flushFails : Host where
  acquireFence := .ok .null
  probeQuiescence := .ok (.object [(ofString "pendingInvokes",.number (.int 0)),
    (ofString "pendingSessions",.number (.int 0))])
  isCurrent := fun _ => true
  tombstoneIo := .ok ()
  readLive := none
  dirtyBackup := fun _ => .ok (hexOf 0x65)
  residualAbsence := .ok ()
  prepare := fun _ => none
  publication := fun step => if step = .flushParent then some ⟨"EIO"⟩ else none
  clear := fun _ => none
  retireBinding := .ok ()

def liveWorld : World := ⟨⟨some liveBytes,none,none,none,none,none⟩,false,false⟩

def sampleTombstone : Value :=
  .object [(ofString "version",.number (.int 1)),(ofString "kind",textValue Tombstone.KIND),
    (ofString "hostId",textValue "h"),(ofString "workspaceId",textValue "w"),
    (ofString "sourcePlatform",textValue "posix"),(ofString "operation",textValue "reset"),
    (ofString "tombstonedGeneration",.number (.int 1)),(ofString "priorKind",textValue KIND),
    (ofString "priorPointerFingerprint",.string firstDigest),
    (ofString "dirtyBackupFingerprint",hexOf 0x65),
    (ofString "tombstoneFingerprint",
      textValue "ec7a0ddca02b8378d4431c26ca0fa7ce92181203ababcefdf855220a34dffb65")]

def sampleCleanup : Value :=
  .object [(ofString "version",.number (.int 1)),(ofString "kind",textValue "manual-cleanup"),
    (ofString "anchorFingerprint",hexOf 0x66),(ofString "fenceGeneration",.number (.int 1)),
    (ofString "txId",textValue "t"),(ofString "reason",textValue "r"),
    (ofString "expectedFingerprint",.null),(ofString "observedFingerprint",.null),
    (ofString "expectedFloorFingerprint",.null),(ofString "observedFloorFingerprint",.null),
    (ofString "routeDisposition",textValue "no-route"),
    (ofString "blockedUntilOwnerAction",.bool true),
    (ofString "manualCleanupFingerprint",
      textValue "f9b5c75ba8ff696192bb3a026a552accb88bd6cdb64362dcba3bed85497674a3")]

theorem live_validated : validateGenerationPointer sampleDigest livePointer = .ok () := by rfl

theorem live_spelled : canonicalJsonBytes livePointer RECORD_LIMITS = .ok liveBytes := by rfl

theorem live_sorted : normalize livePointer = livePointer := by rfl

theorem live_parsed : parseCanonicalJsonBytes liveBytes RECORD_LIMITS = .ok livePointer := by
  have distinct := (validateGenerationPointer_valid sampleDigest live_validated).distinct
  have short : (render livePointer).length ≤ 1024 := by decide +kernel
  have fits : liveBytes.length ≤ RECORD_LIMITS.maxBytes := by
    have bound := utf8_length_le (render livePointer)
    have room : 4096 ≤ RECORD_LIMITS.maxBytes := by decide
    rw [liveBytes]
    omega
  have parsed := parseCanonicalJsonBytes_canonical ⟨livePointer,distinct⟩ live_spelled fits
  rwa [live_sorted] at parsed

theorem live_disposed : Tombstone.dispositionOf sampleDigest liveBytes =
    .ok ⟨KIND,.string firstDigest,livePointer⟩ := by
  have pointer : parseGenerationPointer sampleDigest liveBytes = .ok livePointer := by
    rw [parseGenerationPointer,except_bind_ok]
    exact ⟨livePointer,mapError_ok.mpr live_parsed,except_unit_bind_ok.mpr ⟨live_validated,rfl⟩⟩
  have kind : isText KIND (get livePointer "kind") := by rfl
  rw [Tombstone.dispositionOf,except_bind_ok]
  refine ⟨livePointer,mapError_ok.mpr live_parsed,except_unit_bind_ok.mpr ⟨rfl,?_⟩⟩
  rw [if_pos kind,except_bind_ok]
  exact ⟨livePointer,pointer,rfl⟩

theorem live_read (faults : Faults) (quiet : faults .readLivePointer = none) :
    Tombstone.readLiveDisposition sampleDigest faults (some liveBytes) =
      .ok (some ⟨KIND,.string firstDigest,livePointer⟩) := by
  simp only [Tombstone.readLiveDisposition,quiet,live_disposed]
  rfl

theorem tombstone_built : buildTombstone sampleDigest
    ⟨textValue "h",textValue "w",textValue "posix",textValue "reset",.number (.int 1),
      KIND,.string firstDigest,hexOf 0x65⟩ = .ok sampleTombstone := by rfl

theorem tombstone_prepared : Tombstone.prepareTombstone sampleDigest
    (fun step => (flushFails.publication step).map FsError.io) (some liveBytes) sampleTombstone =
      .ok (utf8 (render sampleTombstone)) := by
  rw [Tombstone.prepareTombstone,live_read _ rfl]
  rfl

theorem cleanup_built :
    buildManualCleanup sampleDigest sampleRequest.lifecycleAuthority = .ok sampleCleanup := by rfl

/-- The receipt of the run, beside the slot it leaves. -/
theorem flushFails_run :
    ∃ receipt, (runResetDelete sampleDigest flushFails sampleRequest liveWorld).result = .ok receipt ∧
      receipt.published = none ∧ HoldsTombstone sampleDigest
        (runResetDelete sampleDigest flushFails sampleRequest liveWorld).state.files.live
        receipt.tombstone := by
  obtain ⟨result,files⟩ := @runResetDelete_reaches sampleDigest flushFails sampleRequest liveWorld
    _ _ _ _ _ _ rfl cleanup_built rfl rfl rfl (fun _ => rfl) rfl (live_read _ rfl) rfl rfl rfl
    tombstone_built
  have noted : publishManualCleanup sampleDigest flushFails.prepare none sampleCleanup =
      (some (utf8 (render sampleCleanup)),.ok ()) := by
    rfl
  have failed : Tombstone.publishTombstone sampleDigest
      (fun step => (flushFails.publication step).map FsError.io) (some liveBytes) sampleTombstone =
      (some (utf8 (render sampleTombstone)),
        .error (Tombstone.stepFailed .flushParent (FsError.io ⟨"EIO"⟩))) := by
    rw [Tombstone.publishTombstone,tombstone_prepared]
    rfl
  obtain ⟨receipt,live⟩ := @runTerminal_flushFailed sampleDigest flushFails
    ⟨sampleRequest.operation,sampleTombstone,.null,hexOf 0x65,sampleCleanup⟩
    ⟨liveWorld.files,liveWorld.barred,true⟩ _ _ _ noted rfl failed
    (flushParent_isTombstoneStep (thrownStep_flushParent ⟨"EIO"⟩)) rfl
  have slot : (runResetDelete sampleDigest flushFails sampleRequest liveWorld).state.files.live =
      some (utf8 (render sampleTombstone)) := by
    rw [files]
    exact live
  refine ⟨_,result.trans receipt,rfl,?_⟩
  rw [slot]
  exact (Tombstone.prepareTombstone_ok tombstone_prepared).1

/-- The receipt reports nothing published, and the slot holds the tombstone. -/
theorem receipt_disagrees :
    ∃ receipt, (runResetDelete sampleDigest flushFails sampleRequest liveWorld).result = .ok receipt ∧
      ¬ (receipt.published.isSome = true ↔ HoldsTombstone sampleDigest
        (runResetDelete sampleDigest flushFails sampleRequest liveWorld).state.files.live
        receipt.tombstone) := by
  obtain ⟨receipt,result,unpublished,holds⟩ := flushFails_run
  refine ⟨receipt,result,fun agrees => ?_⟩
  have published := agrees.mpr holds
  rw [unpublished] at published
  cases published

/-- `JSON.parse` on the text of an object in strict JSON. -/
def parseObject (bytes : Bytes) : Except JsError Value := do
  let value ← parseStrictJsonBytes bytes STRICT_JSON_LIMITS ⟨none⟩
  check (isPlainObject value) (syntaxError "not an object")
  return value

theorem parseObject_readsObjects : ReadsObjects parseObject := by
  intro bytes value _ parsed
  rw [parseObject,except_bind_ok] at parsed
  obtain ⟨read,_,rest⟩ := parsed
  rw [except_unit_bind_ok,check_ok] at rest
  cases rest.2
  exact rest.1

theorem reset_delete_crash_safe_flush :
    ∃ receipt, (runResetDelete sampleDigest flushFails sampleRequest liveWorld).result = .ok receipt ∧
      ReceiptLaw sampleDigest liveWorld receipt
        (runResetDelete sampleDigest flushFails sampleRequest liveWorld).state ∧
      ∀ now ∈ liveWorld :: (runResetDelete sampleDigest flushFails sampleRequest liveWorld).seen,
        Recovers sampleDigest parseObject liveWorld now := by
  obtain ⟨receipt,result,_⟩ := flushFails_run
  have safe := @reset_delete_crash_safe sampleDigest parseObject parseObject_readsObjects liveWorld
    flushFails sampleRequest
  exact ⟨receipt,result,safe.2 receipt result,safe.1⟩

end Digest

end GjcRemote.ResetDelete
