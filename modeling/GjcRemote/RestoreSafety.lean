import GjcRemote.PublishSafety

/-! The restore keeps what the other publishing operations keep, and removes the candidate
tree only while the slot does not name it. -/
namespace GjcRemote.Publish

open Utf16 StrictJson Record Workspace
open CrashTrace CrashTrace.Program
open ResetDelete (thrownStep)
open Readiness (Freshness Fresh)

variable {sha256 : List UInt8 → Units} {host : Host} {task : Task} {acquired released : Nat}
  {start : World} {built : Prop} {done : List ProofStep}

structure Removing (w v : World) : Prop where
  slot : v.slot = w.slot
  log : v.log = w.log ∨ v.log = w.log ++ [.removed w.slot]
  materialized : v.materialized = w.materialized

theorem removeOwned_removing (w : World) :
    Removing w (StagePromotion.removeOwned host w).state := by
  unfold StagePromotion.removeOwned perform
  dsimp only
  cases w.owned with
  | false => exact ⟨rfl,.inl rfl,rfl⟩
  | true =>
    cases host.remove with
    | done => exact ⟨rfl,.inr rfl,rfl⟩
    | failed error gone => exact ⟨rfl,.inr rfl,rfl⟩

theorem Removing.quiet (removing : Removing w v)
    (other : ∀ slot, test (.removed slot) = false) : v.log.countP test = w.log.countP test := by
  rcases removing.log with same | more
  · rw [same]
  · rw [more,List.countP_append,List.countP_singleton,other]
    rfl

theorem Removing.tidy (removing : Removing w v)
    (before : ∀ slot, .removed slot ∈ w.log → Removable sha256 task slot)
    (now : Removable sha256 task w.slot) :
    ∀ slot, .removed slot ∈ v.log → Removable sha256 task slot := by
  intro slot member
  rcases removing.log with same | more
  · rw [same] at member
    exact before slot member
  · rw [more] at member
    rcases List.mem_append.mp member with old | new
    · exact before slot old
    · cases List.mem_singleton.mp new
      exact now

theorem Unpublished.remove (held : Unpublished sha256 task acquired start w) (removing : Removing w v)
    (removes : task.removes = true) (unnamed : ¬References sha256 task.path start.slot) :
    Unpublished sha256 task acquired start v where
  acquired := (removing.quiet fun _ => rfl).trans held.acquired
  released := (removing.quiet fun _ => rfl).trans held.released
  tidy := removing.tidy held.tidy ⟨removes,fun _ => by rw [held.slot]; exact unnamed⟩
  slot := removing.slot.trans held.slot
  quiet := (removing.quiet fun _ => rfl).trans held.quiet
  tree named := absurd named unnamed
  made _ := unnamed

/-- The tree of a published pointer goes only if the io misreports. -/
theorem Replaced.remove (held : Replaced sha256 task start w) (removing : Removing w v)
    (removable : Removable sha256 task w.slot) : Replaced sha256 task start v := by
  cases held with
  | never quiet slot =>
    exact .never ((removing.quiet fun _ => rfl).trans quiet) (removing.slot.trans slot)
  | @once before after pointer log sanctioned verified holds quiet tree =>
    have gone : task.removes = false ∨ Honest task.host → v.candidate = true := by
      rintro (keeps | honest)
      · rw [removable.1] at keeps
        cases keeps
      · exact absurd ⟨pointer,holds,verified.path⟩ (removable.2 honest)
    have still : HoldsPointer sha256 v.slot pointer := by
      rw [removing.slot]
      exact holds
    rcases removing.log with same | more
    · exact .once (same.trans log) sanctioned verified still quiet gone
    · have later : v.log = before ++ .replaced true :: (after ++ [.removed w.slot]) := by
        rw [more,log,List.append_assoc,List.cons_append]
      exact .once later sanctioned verified still (by simp [List.countP_append,quiet,Event.isReplaced]) gone

theorem Ended.remove (ended : Ended sha256 task acquired released start w)
    (removing : Removing w v) (removable : Removable sha256 task w.slot) :
    Ended sha256 task acquired released start v where
  replaced := ended.replaced.remove removing removable
  acquired := (removing.quiet fun _ => rfl).trans ended.acquired
  released := (removing.quiet fun _ => rfl).trans ended.released
  tidy := removing.tidy ended.tidy removable

theorem ensures_state {m : Program World Failure α} (reached : ∀ w, before w → after (m w).state) :
    Ensures before anytime m (fun _ => after) (fun _ => after) := by
  intro w held
  refine ⟨fun _ _ => trivial,?_⟩
  cases (m w).result with
  | error => exact reached w held
  | ok => exact reached w held

theorem ensures_fill (answers : List (Except Thrown Unit)) :
    Ensures (Proving sha256 task acquired start built done) anytime (StagePromotion.fill task.host answers)
      (fun _ => Proving sha256 task acquired start built done)
      (fun _ => Unpublished sha256 task acquired start) := by
  induction answers with
  | nil => exact Ensures.pure fun _ held => held
  | cons answer rest ih => exact Ensures.bind (ensures_awaits _ _) fun _ => ih

theorem ensures_mkdir :
    Ensures (Proving sha256 task acquired start built done) anytime (StagePromotion.mkdirCandidate task.host)
      (fun _ w => Proving sha256 task acquired start True done w ∧ ¬References sha256 task.path start.slot)
      (fun _ => Unpublished sha256 task acquired start) := by
  refine Ensures.perform (fun _ _ => trivial) (fun w _ held ok => ?_) fun w error held failed => ?_
  · cases fault : task.host.mkdir with
    | some error => simp [fault] at ok
    | none =>
      cases there : w.candidate with
      | true => simp [fault,there] at ok
      | false =>
        -- the tree is new, so the slot, which names no missing tree, does not name it
        have unnamed : ¬References sha256 task.path start.slot := by
          intro named
          have := held.tree named
          rw [there] at this
          cases this
        have lost := held.lose .mkdir
        simp only [candidate_lose,there]
        exact ⟨⟨⟨⟨lost.acquired,lost.released,lost.tidy⟩,lost.slot,lost.quiet,fun _ => rfl,lost.made⟩,
          lost.seen,fun _ => rfl,lost.proofs,lost.current⟩,unnamed⟩
  · cases fault : task.host.mkdir with
    | some error => exact (held.lose _).toUnpublished
    | none =>
      cases there : w.candidate with
      | true => simpa [there] using (held.lose _).toUnpublished
      | false => simp [fault,there] at failed

theorem ensures_removeAndThrow (removes : task.removes = true) (failure : Failure) (unnamed : ¬References sha256 task.path start.slot) :
    Ensures (Unpublished sha256 task acquired start) anytime
      (StagePromotion.removeAndThrow task.host failure) (fun _ _ => False)
      (fun _ => Unpublished sha256 task acquired start) := by
  have tried : Ensures (Unpublished sha256 task acquired start) anytime
      (attempt (StagePromotion.removeOwned task.host) : Program World Failure (Except Failure Unit))
      (fun _ => Unpublished sha256 task acquired start)
      (fun _ => Unpublished sha256 task acquired start) :=
    Ensures.attempt (ensures_state fun w held => held.remove (removeOwned_removing w) removes unnamed)
  refine Ensures.bind tried fun result => ?_
  cases result with
  | error cleanupError => exact Ensures.fail fun _ held => held
  | ok => exact Ensures.fail fun _ held => held

theorem ensures_materializeAndVerify (removes : task.removes = true) :
    Ensures (Proving sha256 task acquired start built done) anytime (StagePromotion.materializeAndVerify task.host)
      (fun _ w => Proving sha256 task acquired start True done w ∧ ¬References sha256 task.path start.slot)
      (fun _ => Unpublished sha256 task acquired start) := by
  refine Ensures.bind (ensures_ask _) fun _ => ?_
  have absent : Ensures (Proving sha256 task acquired start built done) anytime
      (StagePromotion.assertCandidateAbsent task.host)
      (fun _ => Proving sha256 task acquired start built done)
      (fun _ => Unpublished sha256 task acquired start) :=
    Ensures.perform (fun _ _ => trivial) (fun _ _ held _ => held.lose _)
      fun _ _ held _ => (held.lose _).toUnpublished
  refine Ensures.bind absent fun _ => ?_
  refine Ensures.bind ensures_mkdir fun _ => Ensures.given fun unnamed => ?_
  refine Ensures.recover ((ensures_fill task.host.fill).weaken (fun _ => id) ?_ fun _ _ => id) fun failure => ?_
  · exact fun _ w held => ⟨held,unnamed⟩
  · exact (ensures_removeAndThrow removes failure unnamed).weaken (fun _ => id)
      (fun _ _ never => never.elim) fun _ _ => id

/-- The restore's two variables change. -/
theorem Unpublished.vars (held : Unpublished sha256 task acquired start w)
    (log : v.log = w.log) (slot : v.slot = w.slot) (candidate : v.candidate = w.candidate)
    (made : v.materialized → ¬References sha256 task.path start.slot) :
    Unpublished sha256 task acquired start v where
  acquired := by rw [log]; exact held.acquired
  released := by rw [log]; exact held.released
  tidy := by rw [log]; exact held.tidy
  slot := slot.trans held.slot
  quiet := by rw [log]; exact held.quiet
  tree := by rw [candidate]; exact held.tree
  made := made

theorem Proving.reader (held : Proving sha256 task acquired start built done w) (stageReader : Bool) :
    Proving sha256 task acquired start built done {w with stageReader := stageReader} :=
  ⟨held.toUnpublished.vars rfl rfl rfl held.made,held.seen,held.there,held.proofs,held.current⟩

theorem ensures_openStageReader :
    Ensures (Proving sha256 task acquired start built done) anytime (Restore.openStageReader task.host)
      (fun _ => Proving sha256 task acquired start built done)
      (fun _ => Unpublished sha256 task acquired start) := by
  refine Ensures.bind (ensures_awaits _ _) fun reader => ?_
  have assigned : Ensures (Proving sha256 task acquired start built done) anytime
      (perform fun w => ({w with stageReader := reader.close},.ok ()) : Program World Failure Unit)
      (fun _ => Proving sha256 task acquired start built done)
      (fun _ => Unpublished sha256 task acquired start) := by
    refine Ensures.perform (fun _ _ => trivial) (fun w _ held _ => held.reader _) ?_
    rintro w error held ⟨⟩
  exact Ensures.bind assigned fun _ => ensures_compute _

theorem ensures_setMaterialized (unnamed : ¬References sha256 task.path start.slot) :
    Ensures (Proving sha256 task acquired start built done) anytime (Restore.setMaterialized true)
      (fun _ => Proving sha256 task acquired start built done)
      (fun _ => Unpublished sha256 task acquired start) := by
  refine Ensures.perform (fun _ _ => trivial) (fun w _ held _ => ?_) ?_
  · exact ⟨held.toUnpublished.vars rfl rfl rfl fun _ => unnamed,held.seen,held.there,held.proofs,held.current⟩
  · rintro w error held ⟨⟩

theorem ensures_closeStageReader :
    Ensures (Proving sha256 task acquired start built done) anytime (Restore.closeStageReader task.host false)
      (fun _ => Proving sha256 task acquired start built done)
      (fun _ => Unpublished sha256 task acquired start) := by
  refine Ensures.perform (fun _ _ => trivial) (fun w _ held _ => ?_) fun w error held _ => ?_
  · cases w.stageReader with
    | true => exact held.lose _
    | false => exact held
  · cases w.stageReader with
    | true => exact (held.lose _).toUnpublished
    | false => exact held.toUnpublished

variable (request : Restore.RestoreRequest)

theorem ensures_stage (removes : task.removes = true) :
    Ensures (Proving sha256 task acquired start built done) anytime (Restore.stage sha256 task.host request)
      (fun _ => Proving sha256 task acquired start True
        (done ++ [.base] ++ [.quarantine] ++ [.provenance] ++ [.checksum] ++ [.staged]))
      (fun _ => Unpublished sha256 task acquired start) := by
  refine Ensures.bind (ensures_awaits _ _) fun _ => ?_
  refine Ensures.bind (ensures_readLive _) fun read => ?_
  refine Ensures.bind (ensures_compute _) fun live => ?_
  refine Ensures.bind (ensures_proved _) fun _ => ?_
  refine Ensures.bind (ensures_ask _) fun _ => ?_
  refine Ensures.bind (ensures_proved _) fun _ => ?_
  refine Ensures.bind ensures_openStageReader fun _ => ?_
  refine Ensures.bind (ensures_proving _ _ _) fun _ => ?_
  refine Ensures.bind (ensures_proving _ _ _) fun _ => ?_
  refine Ensures.bind (ensures_materializeAndVerify removes) fun _ => Ensures.given fun unnamed => ?_
  refine Ensures.bind (ensures_proved _) fun _ => ?_
  refine Ensures.bind (ensures_setMaterialized unnamed) fun _ => ?_
  refine Ensures.bind ensures_closeStageReader fun _ => ?_
  have forgotten : Ensures (Proving sha256 task acquired start True
        (done ++ [.base] ++ [.quarantine] ++ [.provenance] ++ [.checksum] ++ [.staged])) anytime
      (perform fun w => ({w with stageReader := false},.ok ()) : Program World Failure Unit)
      (fun _ => Proving sha256 task acquired start True
        (done ++ [.base] ++ [.quarantine] ++ [.provenance] ++ [.checksum] ++ [.staged]))
      (fun _ => Unpublished sha256 task acquired start) := by
    refine Ensures.perform (fun _ _ => trivial) (fun w _ held _ => held.reader _) ?_
    rintro w error held ⟨⟩
  exact Ensures.bind forgotten fun _ => Ensures.pure fun _ held => held

/-- What the `catch` of the restore finds: the tree is only taken for unpublished when it is,
if the io is honest. -/
def RestoreFailed (sha256 : List UInt8 → Units) (task : Task) (acquired : Nat) (start w : World) : Prop :=
  Unpublished sha256 task acquired start w ∨
    Published sha256 task acquired start w ∧ (Honest task.host → w.materialized = false)

theorem Published.forget (held : Published sha256 task acquired start w) :
    Published sha256 task acquired start {w with materialized := false} :=
  ⟨⟨held.acquired,held.released,held.tidy⟩,held.log,held.there⟩

theorem ensures_publishPromotion (verified : Verified task pointer) :
    Ensures (Cleared sha256 task acquired start pointer task.proofs task.checkpoint) anytime
      (Restore.publishPromotion sha256 task.host pointer)
      (fun _ w => Published sha256 task acquired start w ∧ w.materialized = false)
      (fun _ => RestoreFailed sha256 task acquired start) := by
  have caught : Ensures (Cleared sha256 task acquired start pointer task.proofs task.checkpoint) anytime
      (recover (publishGeneration sha256 task.host pointer) fun failure => do
        if thrownStep failure.thrown = some IoStep.flushParent.name then
          Restore.setMaterialized false
        fail failure)
      (fun _ => Published sha256 task acquired start)
      (fun _ => RestoreFailed sha256 task acquired start) := by
    refine Ensures.recover (ensures_publish verified) fun failure => ?_
    by_cases flush : thrownStep failure.thrown = some IoStep.flushParent.name
    · have cleared : Ensures (PublishFailed sha256 task acquired start failure) anytime
          (Restore.setMaterialized false)
          (fun _ => RestoreFailed sha256 task acquired start)
          (fun _ => RestoreFailed sha256 task acquired start) := by
        refine ensures_state fun w failed => ?_
        rcases failed with early | ⟨late,_⟩
        · exact .inl (early.vars rfl rfl rfl (by rintro ⟨⟩))
        · exact .inr ⟨late.forget,fun _ => rfl⟩
      rw [if_pos flush]
      exact Ensures.bind cleared fun _ => Ensures.fail fun _ held => held
    · rw [if_neg flush]
      have skipped : Ensures (PublishFailed sha256 task acquired start failure) anytime
          (pure PUnit.unit : Program World Failure PUnit)
          (fun _ => PublishFailed sha256 task acquired start failure)
          (fun _ => RestoreFailed sha256 task acquired start) :=
        Ensures.pure fun _ held => held
      refine Ensures.bind skipped fun _ => Ensures.fail fun w failed => ?_
      rcases failed with early | ⟨late,honest⟩
      · exact .inl early
      · exact .inr ⟨late,fun fair => absurd (honest fair) flush⟩
  refine Ensures.bind caught fun published => ?_
  refine Ensures.bind (Ensures.perform (fun _ _ => trivial) (fun w _ held _ => ?_) ?_) fun _ =>
    Ensures.pure fun _ held => held
  · exact ⟨held.forget,rfl⟩
  · rintro w error held ⟨⟩

def restoreProofs : List ProofStep :=
  [.base,.quarantine,.provenance,.checksum,.staged,.root,.candidate,.gitDir,.graph]

/-- The manifest is that of the request, with which the Git graph agrees. -/
def restoreTask (host : Host) (request : Restore.RestoreRequest) : Task :=
  ⟨host,request.generationPath,.ok (get request.manifest "manifestFingerprint"),restoreProofs,
    some "readiness",true⟩

theorem told_awaits (w : World) (a : α) (ok : (awaits host call answer w).result = .ok a) : answer = .ok a :=
  raises_ok ok

theorem ensures_restoreFenced (host : Host) (lease : Lease) :
    Ensures (Proving sha256 (restoreTask host request) 1 start False []) anytime
      (Restore.runFenced sha256 host request lease)
      (fun _ => Published sha256 (restoreTask host request) 1 start)
      (fun _ => RestoreFailed sha256 (restoreTask host request) 1 start) := by
  refine ensures_early (ensures_compute _) (fun _ _ => .inl) fun _ => ?_
  refine ensures_early (ensures_fence _ _) (fun _ _ => .inl) fun _ => ?_
  refine ensures_early (ensures_stage request rfl) (fun _ _ => .inl) fun live => ?_
  refine ensures_early ((ensures_proving _ _ _).known told_proving) (fun _ _ => .inl) fun rootProof =>
    Ensures.given fun proved => ?_
  refine ensures_early ensures_verifyContained (fun _ _ => .inl) fun _ => ?_
  refine ensures_early ((ensures_awaits _ _).known told_awaits) (fun _ _ => .inl) fun git =>
    Ensures.given fun graph => ?_
  refine ensures_early (ensures_compute _) (fun _ _ => .inl) fun _ => ?_
  refine ensures_early (ensures_proved _) (fun _ _ => .inl) fun _ => ?_
  refine ensures_early ((ensures_ask _).known told_ask) (fun _ _ => .inl) fun root =>
    Ensures.given fun identity => ?_
  refine ensures_early ((ensures_ask _).known told_ask) (fun _ _ => .inl) fun storage =>
    Ensures.given fun stored => ?_
  refine ensures_early ((ensures_compute _).known told_compute) (fun _ _ => .inl) fun pointer =>
    Ensures.given fun built => ?_
  obtain ⟨verified,evidence⟩ := verified_of_built (restoreTask host request) built rfl proved
    identity stored graph rfl
  refine ensures_early (ensures_attest _ _ _ _ _ _ _ evidence) (fun _ _ => .inl) fun attestation => ?_
  refine ensures_early (ensures_lastFence _ _) (fun _ _ => .inl) fun _ => ?_
  refine Ensures.bind (ensures_publishPromotion verified) fun published => ?_
  refine Ensures.bind (Ensures.lift (fun _ _ held _ => held) fun w error held _ => ?_) fun lineage =>
    Ensures.pure fun _ held => held.1
  exact .inr ⟨held.1,fun _ => held.2⟩

theorem RestoreFailed.ended (failed : RestoreFailed sha256 task acquired start w) :
    Ended sha256 task acquired 0 start w := by
  rcases failed with early | ⟨late,_⟩
  · exact early.ended
  · exact late.ended

/-- A tree is removed only after a failure before the replacement, if the io is honest. -/
theorem RestoreFailed.remove (failed : RestoreFailed sha256 task acquired start w)
    (removes : task.removes = true) (materialized : w.materialized) (removing : Removing w v) :
    Ended sha256 task acquired 0 start v := by
  refine failed.ended.remove removing ⟨removes,fun honest => ?_⟩
  rcases failed with early | ⟨late,kept⟩
  · rw [early.slot]
    exact early.made materialized
  · rw [kept honest] at materialized
    cases materialized

theorem ensures_undo (removes : task.removes = true) (failure : Failure) :
    Ensures (RestoreFailed sha256 task acquired start) anytime
      (Restore.undo task.host failure) (fun _ => Ended sha256 task acquired 0 start)
      (fun _ => Ended sha256 task acquired 0 start) := by
  have looked : Ensures (RestoreFailed sha256 task acquired start) anytime
      (inspect fun w => .ok w.materialized : Program World Failure Bool)
      (fun materialized w =>
        RestoreFailed sha256 task acquired start w ∧
          w.materialized = materialized)
      (fun _ => Ended sha256 task acquired 0 start) := by
    refine Ensures.inspect ?_ ?_
    · rintro w materialized held ⟨⟩
      exact ⟨held,rfl⟩
    · rintro w error held ⟨⟩
  refine Ensures.bind looked fun materialized => ?_
  cases materialized with
  | false => exact Ensures.fail fun w held => held.1.ended
  | true =>
    have tried : Ensures (fun w => RestoreFailed sha256 task acquired start w ∧
          w.materialized) anytime
        (attempt (StagePromotion.cleanup task.host) : Program World Failure (Except Failure Unit))
        (fun _ => Ended sha256 task acquired 0 start)
        (fun _ => Ended sha256 task acquired 0 start) :=
      Ensures.attempt (ensures_state fun w held => held.1.remove removes held.2 (removeOwned_removing w))
    refine Ensures.bind tried fun result => ?_
    cases result with
    | error cleanupError => exact Ensures.fail fun _ held => held
    | ok => exact Ensures.fail fun _ held => held

theorem ensures_lastClose :
    Ensures (Ended sha256 task acquired 0 start) anytime
      (Restore.closeStageReader task.host true) (fun _ => Ended sha256 task acquired 0 start)
      (fun _ => Ended sha256 task acquired 0 start) := by
  refine ensures_state fun w ended => ?_
  unfold Restore.closeStageReader perform
  dsimp only
  cases w.stageReader with
  | true => exact ⟨ended.replaced.lose _,ended.acquired,ended.released,ended.tidy⟩
  | false => exact ended

theorem ensures_runRestoreMigration (host : Host) :
    Ensures (Proving sha256 (restoreTask host request) 0 start False []) anytime
      (Restore.runRestoreMigration sha256 host request)
      (fun _ => LeaseEnded sha256 (restoreTask host request) start)
      (fun _ => LeaseEnded sha256 (restoreTask host request) start) := by
  refine ensures_early (ensures_compute _) (fun _ _ early => .inl early.ended) fun _ => ?_
  refine ensures_early (ensures_compute _) (fun _ _ early => .inl early.ended) fun _ => ?_
  refine ensures_acquire fun lease _ => ?_
  have body : Ensures (Proving sha256 (restoreTask host request) 1 start False []) anytime
      (recover (Restore.runFenced sha256 host request lease) (Restore.undo host))
      (fun _ => Ended sha256 (restoreTask host request) 1 0 start)
      (fun _ => Ended sha256 (restoreTask host request) 1 0 start) := by
    refine Ensures.recover ((ensures_restoreFenced request host lease).weaken (fun _ => id)
      (fun _ _ held => held.ended) fun _ _ => id) fun failure => ensures_undo rfl failure
  have ending : Ensures (Ended sha256 (restoreTask host request) 1 0 start) anytime
      (finish (Restore.closeStageReader host true) (releaseFence host lease))
      (fun _ => Ended sha256 (restoreTask host request) 1 lease.release.toNat start)
      (fun _ => Ended sha256 (restoreTask host request) 1 lease.release.toNat start) :=
    Ensures.finish ensures_lastClose (fun _ => ensures_release lease) fun _ => ensures_release lease
  exact Ensures.finish body (fun _ => ending) fun _ => ending

end GjcRemote.Publish
