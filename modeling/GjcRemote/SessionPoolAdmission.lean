import GjcRemote.SessionPoolExclusive
import Mathlib.Data.Finset.Card

/-! The bound on the directories with a session: what the pool admits is never more than
its limit, and what it reports as admitted covers every session. -/
namespace GjcRemote.SessionPool

open List OrderedMap
variable {W I : Type} [DecidableEq W]

/-- The operation relies on the creation hold of its directory. -/
@[grind] def Phase.holding : Phase → Bool
  | .queued | .creating _ | .late _ | .lateDisposal _ => true
  | _ => false

namespace Pool

variable (p : Pool W I)

def Storing (workDir : W) : Prop :=
  ∃ t, p.sessionTransitions.get workDir = some t ∧ t.phase.storing

/-- The directory counts towards the limit: it has an entry, a session, a hold or an
operation that will have one. -/
def Claims (workDir : W) : Prop :=
  (p.sessions.get workDir).isSome ∨ SessionExists p workDir ∨
    (p.creationHolds.get workDir).isSome ∨ p.Storing workDir

/-- A factory call that is near, pending or late keeps its hold. -/
def Held : Prop :=
  ∀ workDir t, p.sessionTransitions.get workDir = some t → t.phase.holding →
    p.creationHolds.get workDir = some t.token

/-- No directory claims a place that it did not claim before. -/
def Shrinks (p q : Pool W I) : Prop :=
  q.maxSessions = p.maxSessions ∧ ∀ workDir, q.Claims workDir → p.Claims workDir

def Bounded : Prop :=
  ∃ places : Finset W, places.card ≤ p.maxSessions ∧ ∀ workDir, p.Claims workDir → workDir ∈ places

variable {q : Pool W I}

theorem Bounded.shrink {p : Pool W I} (bounded : p.Bounded) (shrinks : p.Shrinks q) :
    q.Bounded := by
  obtain ⟨places,fits,covers⟩ := bounded
  exact ⟨places,by rw [shrinks.1]; exact fits,fun w claims => covers w (shrinks.2 w claims)⟩

/-- A step that starts nothing and touches neither operations nor holds. -/
structure Quiet (p q : Pool W I) : Prop where
  maxSessions : q.maxSessions = p.maxSessions
  transitions : q.sessionTransitions = p.sessionTransitions
  holds : q.creationHolds = p.creationHolds
  sessions : ∀ workDir, (q.sessions.get workDir).isSome → (p.sessions.get workDir).isSome
  existing : ∀ workDir, SessionExists q workDir → SessionExists p workDir

variable (p : Pool W I)

theorem Quiet.refl : p.Quiet p :=
  ⟨rfl,rfl,rfl,fun _ => id,fun _ => id⟩

theorem Quiet.trans {p r : Pool W I} (first : p.Quiet q) (second : q.Quiet r) : p.Quiet r where
  maxSessions := second.maxSessions.trans first.maxSessions
  transitions := second.transitions.trans first.transitions
  holds := second.holds.trans first.holds
  sessions w := first.sessions w ∘ second.sessions w
  existing w := first.existing w ∘ second.existing w

theorem Quiet.shrinks {p : Pool W I} (quiet : p.Quiet q) : p.Shrinks q := by
  refine ⟨quiet.maxSessions,fun w claims => ?_⟩
  rcases claims with entry | existing | hold | ⟨t,operation,storing⟩
  · exact .inl (quiet.sessions w entry)
  · exact .inr (.inl (quiet.existing w existing))
  · exact .inr (.inr (.inl (by rw [← quiet.holds]; exact hold)))
  · exact .inr (.inr (.inr ⟨t,by rw [← quiet.transitions]; exact operation,storing⟩))

theorem Quiet.held {p q : Pool W I} (quiet : p.Quiet q) (held : p.Held) : q.Held := by
  intro w t operation holding
  rw [quiet.transitions] at operation
  rw [quiet.holds]
  exact held w t operation holding

section

variable (retirement : Nat)

theorem Quiet.setDisposal (disposal : Retirement W I) :
    p.Quiet (p.setDisposal retirement disposal) :=
  ⟨rfl,rfl,rfl,fun _ => id,fun _ => id⟩

/-- A settled creation or an ended session adds none. -/
theorem Quiet.setCreation {p : Pool W I} (made : p.creations.get session = some creation)
    (shrinks : state.remains → creation.state.remains) :
    p.Quiet (p.setCreation session {creation with state := state}) := by
  refine ⟨rfl,rfl,rfl,fun _ => id,?_⟩
  rintro w ⟨s,k,found,here,remains⟩
  change (p.creations.set session _).get s = some k at found
  rw [get_set] at found
  split at found
  · cases found
    have remained := shrinks (by rcases remains with rfl | rfl <;> rfl)
    refine ⟨session,creation,made,here,?_⟩
    cases old : creation.state <;> simp_all [Existence.remains]
  · exact ⟨s,k,found,here,remains⟩

theorem Quiet.factorySettles (session : Nat) (state : Existence) :
    p.Quiet (p.factorySettles session state).1 := by
  unfold Pool.factorySettles
  split
  · rename_i creation made
    split
    · rename_i pending
      exact .setCreation made (by rw [pending]; exact fun _ => rfl)
    · exact .refl p
  · exact .refl p

theorem Quiet.disposed (session : Nat) : p.Quiet (p.disposed session) := by
  unfold Pool.disposed
  split
  · rename_i creation made
    exact .setCreation made (by rintro ⟨⟩)
  · exact .refl p

theorem Quiet.disposeSettles (fulfilled : Bool) :
    p.Quiet (p.disposeSettles retirement fulfilled).1 := by
  unfold Pool.disposeSettles
  split
  · split
    · cases fulfilled with
      | false => exact .setDisposal p _ _
      | true => exact (Quiet.setDisposal p _ _).trans (.disposed _ _)
    · exact .refl p
  · exact .refl p

theorem Quiet.settlementRuns :
    p.Quiet (p.settlementRuns retirement).1 := by
  have left : ∀ (q : Pool W I) (workDir : W), q.Quiet (q.leaveRetirements retirement workDir) := by
    intro q workDir
    unfold leaveRetirements
    split
    · exact ⟨rfl,rfl,rfl,fun _ => id,fun _ => id⟩
    · exact .refl q
  unfold Pool.settlementRuns
  split
  · split
    · exact (Quiet.setDisposal p _ _).trans (left _ _)
    · exact .setDisposal p _ _
    · exact .refl p
  · exact .refl p

theorem Quiet.boundedSettles :
    p.Quiet (p.boundedSettles retirement).1 := by
  unfold Pool.boundedSettles
  split
  · split
    · exact .setDisposal p _ _
    · exact .setDisposal p _ _
    · exact .refl p
  · exact .refl p

theorem Quiet.boundedTimesOut :
    p.Quiet (p.boundedTimesOut retirement).1 := by
  unfold Pool.boundedTimesOut
  split
  · split
    · exact .setDisposal p _ _
    · exact .refl p
  · exact .refl p

end

/-- Where the operations and holds of the other directories stay the same. -/
theorem Held.local_step {p : Pool W I} (held : p.Held) (workDir : W)
    (transitions : ∀ w, w ≠ workDir → q.sessionTransitions.get w = p.sessionTransitions.get w)
    (holds : ∀ w, w ≠ workDir → q.creationHolds.get w = p.creationHolds.get w)
    (here : ∀ t, q.sessionTransitions.get workDir = some t → t.phase.holding →
      q.creationHolds.get workDir = some t.token) : q.Held := by
  intro w t operation holding
  by_cases same : w = workDir
  · rw [same] at operation ⊢
    exact here t operation holding
  · rw [holds w same]
    rw [transitions w same] at operation
    exact held w t operation holding

/-- Every session is in one of the maps that count as admitted, except where a closed
pool is between a created session and its disposal. -/
def HandingOver (workDir : W) : Prop :=
  p.closed = true ∧ ∃ t session, p.sessionTransitions.get workDir = some t ∧
    t.phase = .created session

variable {workDir : W}

theorem Guarded.admitted {p : Pool W I} (guarded : p.Guarded) (held : p.Held)
    (existing : SessionExists p workDir) (owned : ¬p.HandingOver workDir) :
    workDir ∈ p.sessions.keys ++ p.retirements.keys ++ p.creationHolds.keys := by
  obtain ⟨session,⟨w,state⟩,made,rfl,remains⟩ := existing
  have local_guarded := guarded.directories w
  rw [mem_append,mem_append]
  rcases local_guarded.tracked session state (creation_eq_some.mpr made)
      (by rcases remains with rfl | rfl <;> rfl) with
    ⟨entry,found,_⟩ | ⟨retirement,_,found,_⟩ | ⟨t,operation,holds⟩
  · exact .inl (.inl (mem_keys.mpr ⟨entry,found⟩))
  · exact .inl (.inr (mem_keys.mpr ⟨retirement,found⟩))
  · cases phase : t.phase with
    | created c =>
      cases closed : p.closed with
      | true => exact absurd ⟨closed,t,c,operation,phase⟩ owned
      | false =>
        obtain ⟨entry,found,_⟩ :=
          (local_guarded.phases t operation).owns (by rw [phase]; rfl) closed
        exact .inl (.inl (mem_keys.mpr ⟨entry,found⟩))
    | creating c =>
      exact .inr (mem_keys.mpr ⟨_,held w t operation (by rw [phase]; rfl)⟩)
    | late c =>
      exact .inr (mem_keys.mpr ⟨_,held w t operation (by rw [phase]; rfl)⟩)
    | _ =>
      rw [phase] at holds
      cases holds

/-- In an open pool what claims a place is what counts as admitted. -/
theorem Guarded.claims_admitted {p : Pool W I} (guarded : p.Guarded) (held : p.Held)
    (running : p.closed = false) (claims : p.Claims workDir) :
    workDir ∈ p.sessions.keys ++ p.retirements.keys ++ p.creationHolds.keys := by
  rcases claims with entry | existing | hold | ⟨t,operation,storing⟩
  · obtain ⟨e,found⟩ := Option.isSome_iff_exists.mp entry
    exact mem_append_left _ (mem_append_left _ (mem_keys.mpr ⟨e,found⟩))
  · apply guarded.admitted held existing
    rintro ⟨closed,_⟩
    rw [running] at closed
    cases closed
  · obtain ⟨e,found⟩ := Option.isSome_iff_exists.mp hold
    exact mem_append_right _ (mem_keys.mpr ⟨e,found⟩)
  · obtain ⟨e,found,_⟩ :=
      ((guarded.directories workDir).phases t operation).owns storing running
    exact mem_append_left _ (mem_append_left _ (mem_keys.mpr ⟨e,found⟩))

/-- The operation moves on without a new claim: what it relies on and what it means to
store it had relied on and meant before. -/
theorem setTransition_steps {p : Pool W I} (held : p.Held) {workDir : W} {t t' : Transition I}
    (operation : p.sessionTransitions.get workDir = some t) (token : t'.token = t.token)
    (holding : t'.phase.holding → t.phase.holding) (storing : t'.phase.storing → t.phase.storing) :
    p.Shrinks (p.setTransition workDir t') ∧ (p.setTransition workDir t').Held := by
  have transitions : ∀ w, (p.setTransition workDir t').sessionTransitions.get w =
      if w = workDir then some t' else p.sessionTransitions.get w :=
    fun w => get_set _ _ _ _
  constructor
  · refine ⟨rfl,fun w claims => ?_⟩
    rcases claims with entry | existing | hold | ⟨other,operation',storing'⟩
    · exact .inl entry
    · exact .inr (.inl existing)
    · exact .inr (.inr (.inl hold))
    · rw [transitions] at operation'
      split at operation'
      · rename_i here
        cases operation'
        exact .inr (.inr (.inr ⟨t,by rw [here]; exact operation,storing storing'⟩))
      · exact .inr (.inr (.inr ⟨other,operation',storing'⟩))
  · apply held.local_step workDir
    · intro w ne
      rw [transitions,if_neg ne]
    · exact fun _ _ => rfl
    · intro other operation' holding'
      rw [transitions,if_pos rfl] at operation'
      cases operation'
      rw [token]
      exact held workDir t operation (holding holding')

/-- The same, with the hold released. -/
theorem releasePhase_steps {p : Pool W I} (held : p.Held) {workDir : W} {t : Transition I}
    (operation : p.sessionTransitions.get workDir = some t) {phase : Phase}
    (resting : phase.holding = false) (storing : phase.storing → t.phase.storing) :
    p.Shrinks ((p.releaseHold workDir t.token).setPhase workDir t phase) ∧
      ((p.releaseHold workDir t.token).setPhase workDir t phase).Held := by
  have transitions : ∀ w,((p.releaseHold workDir t.token).setPhase workDir t phase).sessionTransitions.get w =
      if w = workDir then some {t with phase := phase} else p.sessionTransitions.get w := by
    intro w
    unfold releaseHold
    split <;> exact get_set _ _ _ _
  have holds : ∀ w, w ≠ workDir →
      ((p.releaseHold workDir t.token).setPhase workDir t phase).creationHolds.get w =
      p.creationHolds.get w := by
    intro w ne
    unfold releaseHold
    split
    · exact get_delete_ne _ ne
    · rfl
  constructor
  · refine ⟨by unfold releaseHold; split <;> rfl,fun w claims => ?_⟩
    rcases claims with entry | existing | hold | ⟨t',operation',storing'⟩
    · refine .inl ?_
      unfold releaseHold at entry
      split at entry <;> exact entry
    · refine .inr (.inl ?_)
      unfold releaseHold at existing
      split at existing <;> exact existing
    · refine .inr (.inr (.inl ?_))
      unfold releaseHold at hold
      split at hold
      · change ((p.creationHolds.delete workDir).get w).isSome at hold
        rw [get_delete] at hold
        split at hold
        · cases hold
        · exact hold
      · exact hold
    · rw [transitions] at operation'
      split at operation'
      · rename_i here
        cases operation'
        exact .inr (.inr (.inr ⟨t,by rw [here]; exact operation,storing storing'⟩))
      · exact .inr (.inr (.inr ⟨t',operation',storing'⟩))
  · apply held.local_step workDir
    · intro w ne
      rw [transitions,if_neg ne]
    · exact holds
    · intro t' operation' holding'
      rw [transitions,if_pos rfl] at operation'
      cases operation'
      rw [resting] at holding'
      cases holding'

theorem clearTransition_steps {p : Pool W I} (held : p.Held) (workDir : W) :
    p.Shrinks (p.clearTransition workDir) ∧ (p.clearTransition workDir).Held := by
  have transitions : ∀ w, (p.clearTransition workDir).sessionTransitions.get w =
      if w = workDir then none else p.sessionTransitions.get w :=
    fun w => get_delete _ _ _
  constructor
  · refine ⟨rfl,fun w claims => ?_⟩
    rcases claims with entry | existing | hold | ⟨t,operation,storing⟩
    · exact .inl entry
    · exact .inr (.inl existing)
    · exact .inr (.inr (.inl hold))
    · rw [transitions] at operation
      split at operation
      · cases operation
      · exact .inr (.inr (.inr ⟨t,operation,storing⟩))
  · apply held.local_step workDir
    · intro w ne
      rw [transitions,if_neg ne]
    · exact fun _ _ => rfl
    · intro t operation
      rw [transitions,if_pos rfl] at operation
      cases operation

theorem Quiet.dropEntry (workDir : W) (token : Nat) :
    p.Quiet (p.dropEntry workDir token) := by
  unfold Pool.dropEntry
  split
  · refine ⟨rfl,rfl,rfl,fun w entry => ?_,fun _ => id⟩
    rw [get_delete] at entry
    split at entry
    · cases entry
    · exact entry
  · exact .refl p

theorem Shrinks.trans {p r : Pool W I} (first : p.Shrinks q) (second : q.Shrinks r) :
    p.Shrinks r :=
  ⟨second.1.trans first.1,fun w => first.2 w ∘ second.2 w⟩

theorem Quiet.steps {p : Pool W I} (quiet : p.Quiet q) (held : p.Held) :
    p.Shrinks q ∧ q.Held :=
  ⟨quiet.shrinks,quiet.held held⟩

theorem unwind_steps {p : Pool W I} (held : p.Held) (workDir : W) :
    p.Shrinks (p.unwind workDir).1 ∧ (p.unwind workDir).1.Held := by
  unfold unwind
  split
  · exact (Quiet.refl p).steps held
  · rename_i t operation
    split
    · have dropped := Quiet.dropEntry p workDir t.token
      have operation' : (p.dropEntry workDir t.token).sessionTransitions.get workDir = some t := by
        rw [dropped.transitions]
        exact operation
      have moved := @setTransition_steps W I _ _ (dropped.held held) workDir t
        {t with cleanupPending := true} operation' rfl id id
      exact ⟨dropped.shrinks.trans moved.1,moved.2⟩
    · exact (Quiet.refl p).steps held

theorem startFactory_steps {p : Pool W I} (held : p.Held) (workDir : W) :
    p.Shrinks (p.startFactory workDir).1 ∧ (p.startFactory workDir).1.Held := by
  unfold startFactory
  split
  · exact (Quiet.refl p).steps held
  · rename_i t operation
    split
    · rename_i queued
      have moved := @setTransition_steps W I _ p held workDir t
        {t with phase := .creating p.nextCreation} operation rfl
        (fun _ => by rw [queued]; rfl) (fun _ => by rw [queued]; rfl)
      refine ⟨⟨rfl,fun w claims => ?_⟩,moved.2⟩
      rcases claims with entry | ⟨session,creation,made,here,remains⟩ | hold | storing
      · exact .inl entry
      · change (p.creations.set p.nextCreation ⟨workDir,.pending⟩).get session = _ at made
        rw [get_set] at made
        split at made
        · -- the new factory call is the one its operation was to make
          cases made
          cases here
          exact .inr (.inr (.inr ⟨t,operation,by rw [queued]; rfl⟩))
        · exact .inr (.inl ⟨session,creation,made,here,remains⟩)
      · exact .inr (.inr (.inl hold))
      · exact moved.1.2 w (.inr (.inr (.inr storing)))
    · exact (Quiet.refl p).steps held

theorem creationTimesOut_steps {p : Pool W I} (held : p.Held) (workDir : W) :
    p.Shrinks (p.creationTimesOut workDir).1 ∧ (p.creationTimesOut workDir).1.Held := by
  unfold creationTimesOut
  split
  · exact (Quiet.refl p).steps held
  · rename_i t operation
    split
    · rename_i session creating
      exact setTransition_steps held operation rfl (fun _ => by rw [creating]; rfl) (by rintro ⟨⟩)
    · exact (Quiet.refl p).steps held

/-- The replaced session is gone and the hold is set. -/
theorem queue_steps {p : Pool W I} (held : p.Held) (operation : p.sessionTransitions.get workDir = some t)
    (replacing : t.phase = .replacing retirement) :
    p.Shrinks ((p.hold workDir t.token).setPhase workDir t .queued) ∧
      ((p.hold workDir t.token).setPhase workDir t .queued).Held := by
  have storing : p.Storing workDir := ⟨t,operation,by rw [replacing]; rfl⟩
  have transitions : ∀ w,((p.hold workDir t.token).setPhase workDir t .queued).sessionTransitions.get w =
      if w = workDir then some {t with phase := .queued} else p.sessionTransitions.get w :=
    fun w => get_set _ _ _ _
  have holds : ∀ w, ((p.hold workDir t.token).setPhase workDir t .queued).creationHolds.get w =
      if w = workDir then some t.token else p.creationHolds.get w :=
    fun w => get_set _ _ _ _
  constructor
  · refine ⟨rfl,fun w claims => ?_⟩
    by_cases here : w = workDir
    · rw [here]
      exact .inr (.inr (.inr storing))
    · rcases claims with entry | existing | hold | ⟨other,operation',storing'⟩
      · exact .inl entry
      · exact .inr (.inl existing)
      · rw [holds,if_neg here] at hold
        exact .inr (.inr (.inl hold))
      · rw [transitions,if_neg here] at operation'
        exact .inr (.inr (.inr ⟨other,operation',storing'⟩))
  · apply held.local_step workDir
    · intro w ne
      rw [transitions,if_neg ne]
    · intro w ne
      rw [holds,if_neg ne]
    · intro other operation' _
      rw [transitions,if_pos rfl] at operation'
      cases operation'
      rw [holds,if_pos rfl]

theorem Quiet.setSession (workDir : W) (token session : Nat) :
    p.Quiet (p.setSession workDir token session) := by
  unfold Pool.setSession
  split
  · rename_i entry found
    split
    · refine ⟨rfl,rfl,rfl,fun w present => ?_,fun _ => id⟩
      rw [get_set] at present
      split at present
      · rename_i here
        rw [here,found]
        rfl
      · exact present
    · exact .refl p
  · exact .refl p

/-- The transition of a new operation, where the rest of the step concerns its directory
only. -/
theorem start_steps {p q : Pool W I} (held : p.Held) {workDir : W} {t : Transition I}
    (token : Nat) (limit : q.maxSessions = p.maxSessions)
    (transitions : q.sessionTransitions = p.sessionTransitions) (creations : q.creations = p.creations)
    (holds : ∀ w, w ≠ workDir → q.creationHolds.get w = p.creationHolds.get w)
    (entries : ∀ w, w ≠ workDir → (q.sessions.get w).isSome → (p.sessions.get w).isSome)
    (here : t.phase.holding → q.creationHolds.get workDir = some t.token) :
    let r := {q.setTransition workDir t with nextToken := token}
    r.maxSessions = p.maxSessions ∧ (∀ w, w ≠ workDir → r.Claims w → p.Claims w) ∧ r.Held := by
  have installed : ∀ w, (q.setTransition workDir t).sessionTransitions.get w =
      if w = workDir then some t else p.sessionTransitions.get w := by
    intro w
    rw [← transitions]
    exact get_set _ _ _ _
  refine ⟨limit,fun w ne claims => ?_,?_⟩
  · rcases claims with entry | ⟨session,creation,made,rest⟩ | hold | ⟨t',operation,storing⟩
    · exact .inl (entries w ne entry)
    · refine .inr (.inl ⟨session,creation,?_,rest⟩)
      rw [← creations]
      exact made
    · refine .inr (.inr (.inl ?_))
      rw [← holds w ne]
      exact hold
    · refine .inr (.inr (.inr ⟨t',?_,storing⟩))
      have same := (installed w).symm.trans operation
      rw [if_neg ne] at same
      exact same
  · apply held.local_step workDir
    · intro w ne
      exact (installed w).trans (if_neg ne)
    · exact holds
    · intro t' operation holding
      have same := (installed workDir).symm.trans operation
      rw [if_pos rfl] at same
      cases same
      exact here holding

variable [DecidableEq I]

theorem Quiet.retire (session : Nat) (workDir : W) (managedIdentity : Option I) :
    p.Quiet (p.retire session workDir managedIdentity).1 := by
  unfold Pool.retire
  split
  · split
    · exact .refl p
    · split <;> exact .refl p
  · refine ⟨rfl,rfl,rfl,fun w present => ?_,fun _ => id⟩
    change ((p.forget session workDir).get w).isSome at present
    unfold forget at present
    split at present
    · rw [get_delete] at present
      split at present
      · cases present
      · exact present
    · exact present

theorem quiet_rule : RetireRule p.Quiet where
  entry _ _ _ _ quiet _ _ _ := quiet.trans (.retire _ _ _ _)
  settled _ _ _ _ quiet _ _ _ := quiet.trans (.retire _ _ _ _)
  receipt _ quiet _ _ := quiet.trans ⟨rfl,rfl,rfl,fun _ => id,fun _ => id⟩
  ended _ quiet _ := quiet.trans ⟨rfl,rfl,rfl,fun _ => id,fun _ => id⟩

theorem Quiet.shutdown : p.Quiet p.shutdown.1 := by
  unfold Pool.shutdown
  split
  · exact .refl p
  · have kept := @retireAll_rule W I _ _ {p with closed := true} (Pool.Quiet {p with closed := true})
      (fun q session workDir managedIdentity quiet => quiet.trans (.retire q session workDir managedIdentity))
      p.sessions.entries (.refl _)
    split <;> rename_i ran <;> rw [ran] at kept
    · exact ⟨kept.maxSessions,kept.transitions,kept.holds,by rintro w ⟨⟩,kept.existing⟩
    · exact ⟨kept.maxSessions,kept.transitions,kept.holds,kept.sessions,kept.existing⟩

/-- A retirement followed by another phase of its operation. -/
theorem retire_steps {p : Pool W I} (held : p.Held) (operation : p.sessionTransitions.get workDir = some t)
    (retired : p.retire session workDir t.managedIdentity = (q,answer))
    (holding : phase.holding → t.phase.holding) (storing : phase.storing → t.phase.storing) :
    p.Shrinks (q.setPhase workDir t phase) ∧ (q.setPhase workDir t phase).Held := by
  have kept := Quiet.retire p session workDir t.managedIdentity
  rw [retired] at kept
  have moved := @setTransition_steps W I _ q (kept.held held) workDir t {t with phase := phase}
    (by rw [kept.transitions]; exact operation) rfl holding storing
  exact ⟨kept.shrinks.trans moved.1,moved.2⟩

theorem resume_steps {p : Pool W I} (held : p.Held) (workDir : W) :
    p.Shrinks (p.resume workDir).1 ∧ (p.resume workDir).1.Held := by
  have stays := (Quiet.refl p).steps held
  unfold Pool.resume
  split
  · exact stays
  · rename_i t operation
    have rests := fun (phase : Phase) (plain : phase.holding = false)
        (storing : phase.storing = false) => @setTransition_steps W I _ p held workDir t
      {t with phase := phase} operation rfl (by rw [plain]; rintro ⟨⟩) (by rw [storing]; rintro ⟨⟩)
    split
    · exact stays
    · exact stays
    · rename_i retirement replacing
      split
      · exact stays
      · exact queue_steps held operation replacing
      · exact rests _ rfl rfl
      · exact rests _ rfl rfl
    · rename_i session creating
      split
      · exact releasePhase_steps held operation rfl (fun _ => by rw [creating]; rfl)
      · exact releasePhase_steps held operation rfl (by rintro ⟨⟩)
      · exact stays
    · rename_i session created
      split
      · split
        · rename_i retired
          exact retire_steps held operation retired (by rintro ⟨⟩) (by rintro ⟨⟩)
        · rename_i retired
          exact retire_steps held operation retired (by rintro ⟨⟩) (by rintro ⟨⟩)
      · have kept := Quiet.setSession p workDir t.token session
        have moved := @setTransition_steps W I _ _ (kept.held held) workDir t
          {t with phase := .settled session} (by rw [kept.transitions]; exact operation) rfl
          (by rintro ⟨⟩) (by rintro ⟨⟩)
        exact ⟨kept.shrinks.trans moved.1,moved.2⟩
    · split
      · exact rests _ rfl rfl
      · exact stays
    · split
      · exact stays
      · have dropped := Quiet.dropEntry p workDir t.token
        have cleared := clearTransition_steps (dropped.held held) workDir
        exact ⟨dropped.shrinks.trans cleared.1,cleared.2⟩
    · split
      · exact stays
      · exact clearTransition_steps held workDir
    · exact clearTransition_steps held workDir
    · rename_i session late
      split
      · split
        · rename_i retired
          exact retire_steps held operation retired (fun _ => by rw [late]; rfl) (by rintro ⟨⟩)
        · rename_i q _ retired
          have kept := Quiet.retire p session workDir t.managedIdentity
          rw [retired] at kept
          have moved := @releasePhase_steps W I _ q (kept.held held) workDir t
            (by rw [kept.transitions]; exact operation) (.cleaned true) rfl (by rintro ⟨⟩)
          exact ⟨kept.shrinks.trans moved.1,moved.2⟩
      · exact releasePhase_steps held operation rfl (by rintro ⟨⟩)
      · exact stays
    · split
      · exact releasePhase_steps held operation rfl (by rintro ⟨⟩)
      · exact stays
    · split
      · exact rests _ rfl rfl
      · exact stays
    · split
      · exact stays
      · have cleared := clearTransition_steps held workDir
        exact ⟨cleared.1,cleared.2⟩

/-- A call of `ensureSession` gives a place to a new directory only below the limit. -/
theorem ensureCanonicalSession_steps {p : Pool W I} (guarded : p.Guarded) (held : p.Held)
    (clear : p.retirements.get workDir = none)
    (idle : p.sessionTransitions.get workDir = none) (managedIdentity : Option I) (sessionClosed : Bool) :
    let started := p.ensureCanonicalSession workDir managedIdentity sessionClosed
    let r := {started.1.setTransition workDir ⟨p.nextToken,managedIdentity,false,started.2⟩ with
      nextToken := p.nextToken + 1}
    r.maxSessions = p.maxSessions ∧ r.Held ∧ ∀ w, r.Claims w →
      p.Claims w ∨ (w = workDir ∧ p.admittedWorkspaces < p.maxSessions) := by
  -- a directory with an entry has its place already
  have known : ∀ {r : Pool W I}, (p.sessions.get workDir).isSome →
      (r.maxSessions = p.maxSessions ∧ (∀ w, w ≠ workDir → r.Claims w → p.Claims w) ∧ r.Held) →
      r.maxSessions = p.maxSessions ∧ r.Held ∧ ∀ w, r.Claims w →
        p.Claims w ∨ (w = workDir ∧ p.admittedWorkspaces < p.maxSessions) := by
    rintro r entry ⟨limit,claims,held⟩
    refine ⟨limit,held,fun w claim => .inl ?_⟩
    by_cases here : w = workDir
    · rw [here]
      exact .inl entry
    · exact claims w here claim
  have elsewhere : ∀ (entry : Entry I) (w : W), w ≠ workDir →
      ((p.sessions.set workDir entry).get w).isSome → (p.sessions.get w).isSome := by
    intro entry w ne present
    rw [get_set_ne _ _ ne] at present
    exact present
  unfold Pool.ensureCanonicalSession
  split
  · split
    · obtain ⟨limit,claims,held'⟩ := @start_steps W I _ p p held workDir
        ⟨p.nextToken,managedIdentity,false,.denied⟩ (p.nextToken + 1) rfl rfl rfl
        (fun _ _ => rfl) (fun _ _ => id) (by rintro ⟨⟩)
      refine ⟨limit,held',fun w claim => .inl ?_⟩
      by_cases here : w = workDir
      · rw [here] at claim ⊢
        rcases claim with entry | existing | hold | ⟨t,operation,storing⟩
        · exact .inl entry
        · exact .inr (.inl existing)
        · exact .inr (.inr (.inl hold))
        · change (p.sessionTransitions.set workDir _).get workDir = some t at operation
          rw [get_set_self] at operation
          cases operation
          cases storing
      · exact claims w here claim
    · obtain ⟨limit,claims,held'⟩ := @start_steps W I _ p
        ((p.addEntry workDir managedIdentity).hold workDir p.nextToken) held workDir
        ⟨p.nextToken,managedIdentity,false,.queued⟩ (p.nextToken + 1) rfl rfl rfl
        (fun w ne => get_set_ne _ _ ne) (elsewhere _)
        (fun _ => get_set_self _ _ _)
      refine ⟨limit,held',fun w claim => ?_⟩
      by_cases here : w = workDir
      · exact .inr ⟨here,by omega⟩
      · exact .inl (claims w here claim)
  · rename_i existing found
    have entry : (p.sessions.get workDir).isSome := by
      rw [found]
      rfl
    split
    · rename_i pending
      obtain ⟨session,live⟩ := (guarded.directories workDir).entry_live idle found
      rw [pending] at live
      cases live
    · rename_i session live
      split
      · exact known entry (start_steps held _ rfl rfl rfl (fun _ _ => rfl) (fun _ _ => id) (by rintro ⟨⟩))
      · have retired : p.retire session workDir existing.managedIdentity =
            (p.startRetirement session workDir existing.managedIdentity,.ok p.nextRetirementGeneration) := by
          unfold retire
          rw [clear]
        have kept := Quiet.retire p session workDir existing.managedIdentity
        rw [retired] at kept ⊢
        refine known entry (start_steps held _ rfl rfl rfl (fun _ _ => rfl) ?_ (by rintro ⟨⟩))
        intro w ne present
        change ((set _ workDir _).get w).isSome at present
        rw [get_set_ne _ _ ne] at present
        exact kept.sessions w present

theorem ensureSession_steps {p : Pool W I} (guarded : p.Guarded) (held : p.Held)
    (bounded : p.Bounded) (workDir : Option W) (managedIdentity : Option I) (sessionClosed : Bool) :
    (p.ensureSession workDir managedIdentity sessionClosed).1.Bounded ∧
      (p.ensureSession workDir managedIdentity sessionClosed).1.Held ∧
      (p.ensureSession workDir managedIdentity sessionClosed).1.maxSessions = p.maxSessions := by
  have stays : p.Bounded ∧ p.Held ∧ p.maxSessions = p.maxSessions := ⟨bounded,held,rfl⟩
  unfold Pool.ensureSession
  split
  · exact stays
  rename_i running
  split
  · exact stays
  · exact stays
  split
  · exact stays
  rename_i workDir
  split
  · exact stays
  rename_i clear
  split
  · split
    · exact stays
    · split <;> exact stays
  rename_i idle
  obtain ⟨limit,held',claims⟩ :=
    ensureCanonicalSession_steps guarded held clear idle managedIdentity sessionClosed
  refine ⟨?_,held',limit⟩
  by_cases room : p.admittedWorkspaces < p.maxSessions
  · -- the admitted directories and the new one are within the limit
    refine ⟨insert workDir (p.sessions.keys ++ p.retirements.keys ++ p.creationHolds.keys).toFinset,?_,?_⟩
    · have card := Finset.card_insert_le workDir
        (p.sessions.keys ++ p.retirements.keys ++ p.creationHolds.keys).toFinset
      exact (card.trans room).trans_eq limit.symm
    · intro w claim
      rcases claims w claim with old | ⟨rfl,_⟩
      · exact Finset.mem_insert_of_mem (mem_toFinset.mpr
          (guarded.claims_admitted held (by simpa using running) old))
      · exact Finset.mem_insert_self _ _
  · apply bounded.shrink
    refine ⟨limit,fun w claim => ?_⟩
    rcases claims w claim with old | ⟨_,below⟩
    · exact old
    · exact absurd below room

/-- A refusal at the limit changes none of the maps that count. -/
theorem ensureSession_limit (workDir : Option W) (managedIdentity : Option I) (sessionClosed : Bool)
    (refused : (p.ensureSession workDir managedIdentity sessionClosed).2 = .refused .sessionLimit) :
    let q := (p.ensureSession workDir managedIdentity sessionClosed).1
    q.sessions = p.sessions ∧ q.retirements = p.retirements ∧ q.creationHolds = p.creationHolds := by
  have denied : ∀ w, (p.ensureCanonicalSession w managedIdentity sessionClosed).2 = .denied →
      (p.ensureCanonicalSession w managedIdentity sessionClosed).1 = p := by
    intro w denied
    unfold Pool.ensureCanonicalSession at denied ⊢
    grind
  unfold Pool.ensureSession at refused ⊢
  split
  · exact ⟨rfl,rfl,rfl⟩
  rename_i running
  split
  · exact ⟨rfl,rfl,rfl⟩
  · exact ⟨rfl,rfl,rfl⟩
  rename_i receipts
  split
  · exact ⟨rfl,rfl,rfl⟩
  rename_i workDir
  split
  · exact ⟨rfl,rfl,rfl⟩
  rename_i clear
  split
  · split
    · exact ⟨rfl,rfl,rfl⟩
    · split <;> exact ⟨rfl,rfl,rfl⟩
  rename_i idle
  rw [if_neg running,receipts] at refused
  dsimp only at refused
  rw [clear,idle] at refused
  dsimp only at refused ⊢
  have unchanged := denied workDir (by
    by_contra accepted
    rw [if_neg accepted] at refused
    cases refused)
  rw [unchanged]
  exact ⟨rfl,rfl,rfl⟩

end Pool

structure Pool.Admitting (maxSessions : Nat) (p : Pool W I) : Prop where
  guarded : p.Guarded
  held : p.Held
  bounded : p.Bounded
  limit : p.maxSessions = maxSessions

theorem Pool.admitting_new (maxSessions : Nat) :
    (Pool.new maxSessions : Pool W I).Admitting maxSessions where
  guarded := guarded_new maxSessions
  held := by rintro w t ⟨⟩
  bounded := by
    refine ⟨∅,Nat.zero_le _,fun w claims => ?_⟩
    rcases claims with ⟨⟨⟩⟩ | ⟨session,creation,made,_⟩ | ⟨⟨⟩⟩ | ⟨t,operation,_⟩
    · cases made
    · cases operation
  limit := rfl

variable [DecidableEq I]

theorem Pool.Admitting.step {maxSessions : Nat} {p : Pool W I} (admitting : p.Admitting maxSessions)
    (event : Event W I) : (step p event).1.Admitting maxSessions := by
  have guarded := admitting.guarded.step event
  have quiet : ∀ {q : Pool W I}, p.Quiet q → q.Guarded → q.Admitting maxSessions :=
    fun quiet guarded => ⟨guarded,quiet.held admitting.held,
      admitting.bounded.shrink quiet.shrinks,quiet.maxSessions.trans admitting.limit⟩
  have shrinks : ∀ {q : Pool W I}, p.Shrinks q ∧ q.Held → q.Guarded → q.Admitting maxSessions :=
    fun steps guarded => ⟨guarded,steps.2,admitting.bounded.shrink steps.1,steps.1.1.trans admitting.limit⟩
  cases event with
  | ensureSession workDir identity closed =>
    obtain ⟨bounded,held,limit⟩ := ensureSession_steps admitting.guarded admitting.held
      admitting.bounded workDir identity closed
    exact ⟨guarded,held,bounded,limit.trans admitting.limit⟩
  | resume workDir => exact shrinks (resume_steps admitting.held workDir) guarded
  | unwind workDir => exact shrinks (unwind_steps admitting.held workDir) guarded
  | startFactory workDir => exact shrinks (startFactory_steps admitting.held workDir) guarded
  | factoryResolves session => exact quiet (.factorySettles p session .live) guarded
  | factoryRejects session => exact quiet (.factorySettles p session .rejected) guarded
  | creationTimesOut workDir => exact shrinks (creationTimesOut_steps admitting.held workDir) guarded
  | disposeFulfils retirement => exact quiet (.disposeSettles p retirement true) guarded
  | disposeRejects retirement => exact quiet (.disposeSettles p retirement false) guarded
  | settlementRuns retirement => exact quiet (.settlementRuns p retirement) guarded
  | boundedSettles retirement => exact quiet (.boundedSettles p retirement) guarded
  | boundedTimesOut retirement => exact quiet (.boundedTimesOut p retirement) guarded
  | reapIdle idle => exact quiet ((quiet_rule p).reapIdle (.refl p) idle) guarded
  | retireSession session => exact quiet ((quiet_rule p).retireSession (.refl p) session) guarded
  | retireManagedReceipt identity => exact quiet ((quiet_rule p).retireManagedReceipt (.refl p) identity) guarded
  | resumeReceipt identity => exact quiet ((quiet_rule p).resumeReceipt (.refl p) identity) guarded
  | shutdown => exact quiet (.shutdown p) guarded

/-- In every run the directories with a session are within the limit; they are among those
the snapshot reports as admitted, except where a closed pool is between a created session
and its disposal; and a refusal at the limit changes nothing that counts. -/
theorem admission_bounded (maxSessions : Nat) (events : List (Event W I)) :
    let p := Runs.run step (Pool.new maxSessions) events
    (∀ workDirs : List W, workDirs.Nodup → (∀ w ∈ workDirs, SessionExists p w) →
      workDirs.length ≤ maxSessions) ∧
    (∀ (sessionClosed : Nat → Bool) (workDirs : List W), workDirs.Nodup →
      (∀ w ∈ workDirs, SessionExists p w ∧ ¬p.HandingOver w) →
      workDirs.length ≤ (p.getAdmissionSnapshot sessionClosed).admittedWorkspaces) ∧
    ∀ workDir managedIdentity sessionClosed,
      (p.ensureSession workDir managedIdentity sessionClosed).2 = .refused .sessionLimit →
      let q := (p.ensureSession workDir managedIdentity sessionClosed).1
      q.sessions = p.sessions ∧ q.retirements = p.retirements ∧
        q.creationHolds = p.creationHolds := by
  intro p
  have admitting : p.Admitting maxSessions :=
    Runs.run_invariant (fun _ event admitting => admitting.step event) (Pool.admitting_new maxSessions) events
  refine ⟨fun workDirs distinct existing => ?_,fun sessionClosed workDirs distinct owned => ?_,
    fun workDir managedIdentity sessionClosed => Pool.ensureSession_limit p _ _ _⟩
  · obtain ⟨places,fits,covers⟩ := admitting.bounded
    have inside : workDirs.toFinset ⊆ places := by
      intro w member
      exact covers w (.inr (.inl (existing w (mem_toFinset.mp member))))
    have card := Finset.card_le_card inside
    rw [toFinset_card_of_nodup distinct] at card
    exact card.trans (fits.trans_eq admitting.limit)
  · have inside : workDirs ⊆
        (p.sessions.keys ++ p.retirements.keys ++ p.creationHolds.keys).dedup := by
      intro w member
      rw [mem_dedup]
      exact admitting.guarded.admitted admitting.held (owned w member).1 (owned w member).2
    exact distinct.length_le_of_subset inside

/-- The factory resolves after the shutdown: until its function goes on, the session is in
none of the maps. -/
theorem handover_not_admitted :
    ¬∀ (maxSessions : Nat) (events : List (Event Nat Nat)) (sessionClosed : Nat → Bool)
      (workDirs : List Nat), workDirs.Nodup →
      (∀ w ∈ workDirs, SessionExists (Runs.run step (Pool.new maxSessions) events) w) →
      workDirs.length ≤ ((Runs.run step (Pool.new maxSessions) events).getAdmissionSnapshot
        sessionClosed).admittedWorkspaces := by
  intro claim
  have admitted := claim 8 [.ensureSession (some 0) none false,.startFactory 0,.shutdown,
    .factoryResolves 0,.resume 0] (fun _ => false) [0] (by simp)
    (by
      intro w member
      rw [mem_singleton] at member
      subst member
      exact ⟨0,⟨0,.live⟩,rfl,rfl,.inr rfl⟩)
  exact absurd admitted (by decide)

end GjcRemote.SessionPool
