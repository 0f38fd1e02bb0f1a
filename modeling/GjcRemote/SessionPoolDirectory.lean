import GjcRemote.SessionDirectory

/-! The pool seen as its directories: what each change of the pool does to each of them,
and that the steps which concern one directory keep its invariant. -/
namespace GjcRemote.SessionPool

open OrderedMap
variable {W I : Type} [DecidableEq W]

namespace Pool

/-- The part of the pool that belongs to one directory. -/
def directory (p : Pool W I) (workDir : W) : Directory W I where
  closed := p.closed
  entry := p.sessions.get workDir
  transition := p.sessionTransitions.get workDir
  retirement := p.retirements.get workDir
  creation session :=
    (p.creations.get session).bind fun c => if c.workDir = workDir then some c.state else none
  disposal retirement :=
    (p.disposals.get retirement).filter fun d => d.workDir = workDir

structure Numbered (p : Pool W I) : Prop where
  creations : ∀ session, p.nextCreation ≤ session → p.creations.get session = none
  disposals : ∀ retirement, p.nextRetirementGeneration ≤ retirement →
    p.disposals.get retirement = none

structure Guarded (p : Pool W I) : Prop where
  numbered : p.Numbered
  directories : ∀ workDir, (p.directory workDir).Guarded

theorem guarded_new (maxSessions : Nat) : (new maxSessions : Pool W I).Guarded :=
  ⟨⟨fun _ _ => rfl,fun _ _ => rfl⟩,fun _ => Directory.guarded_new⟩

variable {p : Pool W I}

/-- A step of one directory leaves the others alone. -/
theorem Guarded.local_step {q : Pool W I} (guarded : p.Guarded) (numbered : q.Numbered)
    (workDir : W) (elsewhere : ∀ w, w ≠ workDir → q.directory w = p.directory w)
    (here : (q.directory workDir).Guarded) : q.Guarded where
  numbered := numbered
  directories w := by
    by_cases same : w = workDir
    · rw [same]
      exact here
    · rw [elsewhere w same]
      exact guarded.directories w

variable {workDir : W}

/-- The record of another directory is not seen. -/
theorem disposal_eq_some :
    (p.directory workDir).disposal retirement = some disposal ↔
      p.disposals.get retirement = some disposal ∧ disposal.workDir = workDir := by
  simp [directory,Option.filter_eq_some_iff]

theorem creation_eq_some :
    (p.directory workDir).creation session = some state ↔ p.creations.get session = some ⟨workDir,state⟩ := by
  simp only [directory,Option.bind_eq_some_iff]
  constructor
  · rintro ⟨⟨w,s⟩,made,same⟩
    split at same
    · rename_i here
      cases same
      cases here
      exact made
    · cases same
  · intro made
    exact ⟨_,made,if_pos rfl⟩

theorem directory_setTransition (p : Pool W I) (workDir w : W) (t : Transition I) :
    (p.setTransition workDir t).directory w =
      if w = workDir then {p.directory w with transition := some t} else p.directory w := by
  by_cases same : w = workDir <;> simp [directory,setTransition,get_set,same]

theorem directory_setCreation (made : p.creations.get session = some creation) (state : Existence) (w : W) :
    (p.setCreation session {creation with state := state}).directory w =
      if w = creation.workDir then
        {p.directory w with
          creation := fun c => if c = session then some state else (p.directory w).creation c}
      else p.directory w := by
  by_cases same : w = creation.workDir
  · rw [if_pos same]
    simp only [directory,setCreation,get_set,Directory.mk.injEq,true_and,and_true]
    funext c
    split <;> simp [same]
  · rw [if_neg same]
    simp only [directory,setCreation,get_set,Directory.mk.injEq,true_and,and_true]
    funext c
    split
    · rename_i here
      simp [here,made,Ne.symm same]
    · rfl

theorem directory_addCreation (numbered : p.Numbered) (workDir w : W) :
    (p.addCreation workDir).directory w = if w = workDir then {p.directory w with
          creation := fun c =>
            if c = p.nextCreation then some .pending else (p.directory w).creation c}
      else p.directory w := by
  have unused := numbered.creations _ (Nat.le_refl _)
  by_cases same : w = workDir
  · rw [if_pos same]
    simp only [directory,addCreation,get_set,Directory.mk.injEq,true_and,and_true]
    funext c
    split <;> simp [same]
  · rw [if_neg same]
    simp only [directory,addCreation,get_set,Directory.mk.injEq,true_and,and_true]
    funext c
    split
    · rename_i here
      simp [here,unused,Ne.symm same]
    · rfl

theorem directory_setDisposal {p : Pool W I} {retirement : Nat} {disposal : Retirement W I}
    (found : p.disposals.get retirement = some disposal) {disposal' : Retirement W I}
    (kept : disposal'.workDir = disposal.workDir) (w : W) :
    (p.setDisposal retirement disposal').directory w = if w = disposal.workDir then {p.directory w with
          disposal := fun r =>
            if r = retirement then some disposal' else (p.directory w).disposal r}
      else p.directory w := by
  by_cases same : w = disposal.workDir
  · rw [if_pos same]
    simp only [directory,setDisposal,get_set,Directory.mk.injEq,true_and]
    funext r
    split <;> simp [same,kept]
  · rw [if_neg same]
    simp only [directory,setDisposal,get_set,Directory.mk.injEq,true_and]
    funext r
    split
    · rename_i here
      rw [here,found]
      simp [Option.filter,kept,Ne.symm same]
    · rfl

theorem directory_releaseHold (p : Pool W I) (workDir : W) (token : Nat) :
    (p.releaseHold workDir token).directory = p.directory := by
  unfold releaseHold
  split <;> rfl

theorem directory_clearTransition (p : Pool W I) (workDir w : W) :
    (p.clearTransition workDir).directory w =
      if w = workDir then {p.directory w with transition := none} else p.directory w := by
  by_cases same : w = workDir <;> simp [directory,clearTransition,get_delete,same]

theorem directory_dropEntry (p : Pool W I) (workDir w : W) (token : Nat) :
    (p.dropEntry workDir token).directory w = if w = workDir then {p.directory w with
          entry :=
            if (p.sessions.get workDir).map Entry.token = some token then none
            else p.sessions.get workDir}
      else p.directory w := by
  by_cases same : w = workDir
  · subst same
    unfold dropEntry
    by_cases own : (p.sessions.get w).map Entry.token = some token <;> simp [directory,own]
  · unfold dropEntry
    split <;> simp [directory,get_delete,same]

theorem directory_startRetirement (numbered : p.Numbered) (session : Nat)
    (workDir : W) (managedIdentity : Option I) (w : W) :
    (p.startRetirement session workDir managedIdentity).directory w = if w = workDir then {p.directory w with
          entry :=
            if (p.sessions.get workDir).bind Entry.session = some session then none
            else p.sessions.get workDir}.startRetirement p.nextRetirementGeneration
          ⟨session,workDir,managedIdentity,.pending,none,none⟩
      else p.directory w := by
  have unused := numbered.disposals _ (Nat.le_refl _)
  by_cases same : w = workDir
  · subst same
    simp only [directory,startRetirement,Directory.startRetirement,if_true,get_set,
      forget,Directory.mk.injEq,true_and]
    refine ⟨?_,?_⟩
    · split <;> simp
    · funext r
      split <;> simp_all
  · simp only [directory,startRetirement,if_neg same,get_set,forget,Directory.mk.injEq,true_and]
    refine ⟨?_,?_⟩
    · split <;> simp [get_delete,same]
    · funext r
      split
      · rename_i new
        simp [new,unused,Ne.symm same]
      · rfl

theorem numbered_startRetirement (numbered : p.Numbered) (session : Nat)
    (workDir : W) (managedIdentity : Option I) :
    (p.startRetirement session workDir managedIdentity).Numbered where
  creations := numbered.creations
  disposals retirement new := by
    have later : p.nextRetirementGeneration + 1 ≤ retirement := new
    change (p.disposals.set _ _).get retirement = none
    rw [get_set_ne _ _ (by omega)]
    exact numbered.disposals retirement (by omega)

/-- Another phase of the operation on a directory. -/
theorem Guarded.setPhase (guarded : p.Guarded) (workDir : W) (t : Transition I) (phase : Phase)
    (here : Directory.Guarded {p.directory workDir with transition := some {t with phase := phase}}) :
    (p.setPhase workDir t phase).Guarded := by
  apply guarded.local_step
  · exact ⟨guarded.numbered.creations,guarded.numbered.disposals⟩
  · intro w ne
    exact (directory_setTransition p workDir w _).trans (if_neg ne)
  · rw [Pool.setPhase,directory_setTransition,if_pos rfl]
    exact here

theorem Guarded.releaseHold (guarded : p.Guarded) (workDir : W) (token : Nat) :
    (p.releaseHold workDir token).Guarded := by
  refine ⟨?_,fun w => ?_⟩
  · unfold Pool.releaseHold
    split <;> exact ⟨guarded.numbered.creations,guarded.numbered.disposals⟩
  · rw [directory_releaseHold]
    exact guarded.directories w

theorem numbered_dropEntry (numbered : p.Numbered) (workDir : W) (token : Nat) :
    (p.dropEntry workDir token).Numbered := by
  unfold dropEntry
  split <;> exact ⟨numbered.creations,numbered.disposals⟩

section

variable (guarded : p.Guarded)
include guarded

theorem Guarded.unwind (workDir : W) :
    (p.unwind workDir).1.Guarded := by
  unfold Pool.unwind
  split
  · exact guarded
  · rename_i t operation
    split
    · rename_i pending
      have cleanup : hasPendingCleanup t.phase := by
        simp only [Bool.and_eq_true] at pending
        exact pending.1
      have dropped := numbered_dropEntry guarded.numbered workDir t.token
      apply guarded.local_step
      · exact ⟨dropped.creations,dropped.disposals⟩
      · intro w ne
        rw [directory_setTransition,if_neg ne,directory_dropEntry,if_neg ne]
      · rw [directory_setTransition,if_pos rfl,directory_dropEntry,if_pos rfl]
        exact (guarded.directories workDir).unwind operation cleanup
    · exact guarded

theorem Guarded.startFactory (workDir : W) :
    (p.startFactory workDir).1.Guarded := by
  unfold Pool.startFactory
  split
  · exact guarded
  · rename_i t operation
    split
    · rename_i queued
      apply guarded.local_step _ workDir
      · intro w ne
        rw [Pool.setPhase,directory_setTransition,if_neg ne,directory_addCreation guarded.numbered,if_neg ne]
      · rw [Pool.setPhase,directory_setTransition,if_pos rfl,directory_addCreation guarded.numbered,if_pos rfl]
        have unused := guarded.numbered.creations _ (Nat.le_refl _)
        exact (guarded.directories workDir).start_factory operation queued (by simp [directory,unused])
      · refine ⟨fun session new => ?_,guarded.numbered.disposals⟩
        have later : p.nextCreation + 1 ≤ session := new
        change (p.creations.set _ _).get session = none
        rw [get_set_ne _ _ (by omega)]
        exact guarded.numbered.creations session (by omega)
    · exact guarded

/-- A session or a pending creation changes its state. -/
theorem Guarded.setCreation (made : p.creations.get session = some creation) (state : Existence)
    (shrinks : state.remains → creation.state.remains) (ends : creation.state = .disposed → state = .disposed) :
    (p.setCreation session {creation with state := state}).Guarded := by
  apply guarded.local_step _ creation.workDir
  · intro w ne
    rw [directory_setCreation made,if_neg ne]
  · rw [directory_setCreation made,if_pos rfl]
    exact (guarded.directories creation.workDir).advance (creation_eq_some.mpr made) shrinks ends
  · refine ⟨fun c new => ?_,guarded.numbered.disposals⟩
    have old := guarded.numbered.creations c new
    have other : c ≠ session := by
      rintro rfl
      rw [old] at made
      cases made
    exact (get_set_ne _ _ other).trans old

theorem Guarded.factorySettles (session : Nat) :
    (p.factorySettles session state).1.Guarded := by
  unfold Pool.factorySettles
  split
  · rename_i creation made
    split
    · rename_i pending
      apply guarded.setCreation made
      · rw [pending]
        exact fun _ => rfl
      · rw [pending]
        rintro ⟨⟩
    · exact guarded
  · exact guarded

theorem Guarded.creationTimesOut (workDir : W) :
    (p.creationTimesOut workDir).1.Guarded := by
  unfold Pool.creationTimesOut
  split
  · exact guarded
  · rename_i t operation
    split
    · rename_i session creating
      apply guarded.setPhase
      exact (guarded.directories workDir).hold_on operation creating (.inr rfl)
    · exact guarded

end

omit [DecidableEq W] in
theorem numbered_setDisposal (numbered : p.Numbered) {retirement : Nat}
    {disposal : Retirement W I} (found : p.disposals.get retirement = some disposal)
    (disposal' : Retirement W I) : (p.setDisposal retirement disposal').Numbered := by
  refine ⟨numbered.creations,fun r new => ?_⟩
  have old := numbered.disposals r new
  have other : r ≠ retirement := by
    rintro rfl
    rw [old] at found
    cases found
  exact (get_set_ne _ _ other).trans old

/-- The record of a retirement changes, but not whether it has retired. -/
theorem Guarded.setDisposal {p : Pool W I} (guarded : p.Guarded) {retirement : Nat}
    {disposal : Retirement W I} (found : p.disposals.get retirement = some disposal)
    (disposal' : Retirement W I) (kept : disposal'.workDir = disposal.workDir)
    (session : disposal'.session = disposal.session)
    (retired : disposal.state ≠ .retired → disposal'.state ≠ .retired)
    (ok : (p.directory disposal.workDir).DisposalOk retirement disposal') :
    (p.setDisposal retirement disposal').Guarded := by
  apply guarded.local_step (numbered_setDisposal guarded.numbered found _) disposal.workDir
  · intro w ne
    rw [directory_setDisposal found kept,if_neg ne]
  · rw [directory_setDisposal found kept,if_pos rfl]
    have here := disposal_eq_some.mpr ⟨found,rfl⟩
    exact (guarded.directories disposal.workDir).update here session retired ok

theorem Guarded.disposal_ok (guarded : p.Guarded) (found : p.disposals.get retirement = some disposal) :
    (p.directory disposal.workDir).DisposalOk retirement disposal :=
  (guarded.directories disposal.workDir).disposals retirement disposal (disposal_eq_some.mpr ⟨found,rfl⟩)

theorem Guarded.disposed (guarded : p.Guarded) (session : Nat) :
    (p.disposed session).Guarded := by
  unfold Pool.disposed
  split
  · rename_i creation made
    exact guarded.setCreation made .disposed (by rintro ⟨⟩) (fun _ => rfl)
  · exact guarded

/-- A session that was made is gone once it is disposed of. -/
theorem creation_disposed (known : ((p.directory workDir).creation session).isSome) :
    ((p.disposed session).directory workDir).creation session = some .disposed := by
  obtain ⟨state,made⟩ := Option.isSome_iff_exists.mp known
  have here := creation_eq_some.mp made
  unfold disposed
  rw [here]
  rw [directory_setCreation here,if_pos rfl]
  exact if_pos rfl

omit [DecidableEq W] in
theorem disposals_disposed (p : Pool W I) (session : Nat) :
    (p.disposed session).disposals = p.disposals := by
  unfold disposed
  split <;> rfl

theorem directory_disposed_retirement (p : Pool W I) (session : Nat) (workDir : W) :
    ((p.disposed session).directory workDir).retirement = p.retirements.get workDir := by
  unfold disposed
  split <;> rfl

theorem Guarded.disposeSettles (guarded : p.Guarded) (retirement : Nat) (fulfilled : Bool) :
    (p.disposeSettles retirement fulfilled).1.Guarded := by
  unfold Pool.disposeSettles
  split
  · rename_i disposal found
    split
    · rename_i unsettled
      have ok := guarded.disposal_ok found
      have open_settled : disposal.settled = none := by simpa using unsettled
      have unretired : disposal.state ≠ .retired := by
        intro retired
        have := ok.retired retired
        rw [open_settled] at this
        cases this
      have unfailed : disposal.state ≠ .failed := by
        intro failed
        have := ok.failed failed
        rw [open_settled] at this
        cases this
      cases fulfilled with
      | false =>
        apply guarded.setDisposal found {disposal with settled := some false} rfl rfl id
        exact ⟨ok.present,fun retired => absurd retired unretired,fun _ => rfl,ok.fulfilled,
          (by rintro ⟨⟩),ok.known⟩
      | true =>
        -- the session goes first, then the record says so
        have swap : (p.setDisposal retirement {disposal with settled := some true}).disposed disposal.session =
            (p.disposed disposal.session).setDisposal retirement
              {disposal with settled := some true} := by
          unfold Pool.disposed
          rw [show (p.setDisposal retirement {disposal with settled := some true}).creations =
            p.creations from rfl]
          split <;> rfl
        simp only [if_true,swap]
        have found' : (p.disposed disposal.session).disposals.get retirement = some disposal := by
          rw [disposals_disposed]
          exact found
        apply (guarded.disposed disposal.session).setDisposal found'
          {disposal with settled := some true} rfl rfl id
        have gone := creation_disposed ok.known
        refine ⟨?_,fun retired => absurd retired unretired,fun failed => absurd failed unfailed,
          ok.fulfilled,fun _ => gone,?_⟩
        · rw [directory_disposed_retirement]
          exact ok.present
        · rw [gone]
          rfl
    · exact guarded
  · exact guarded

theorem directory_leaveRetirements (p : Pool W I) (retirement : Nat) (workDir w : W) :
    (p.leaveRetirements retirement workDir).directory w = if w = workDir then {p.directory w with
          retirement :=
            if p.retirements.get workDir = some retirement then none
            else p.retirements.get workDir}
      else p.directory w := by
  by_cases same : w = workDir
  · subst same
    unfold leaveRetirements
    by_cases present : p.retirements.get w = some retirement <;> simp [directory,present]
  · unfold leaveRetirements
    split <;> simp [directory,get_delete,same]

theorem numbered_leaveRetirements (numbered : p.Numbered) (retirement : Nat) (workDir : W) :
    (p.leaveRetirements retirement workDir).Numbered := by
  unfold leaveRetirements
  split <;> exact ⟨numbered.creations,numbered.disposals⟩

theorem Guarded.settlementRuns (guarded : p.Guarded) (retirement : Nat) :
    (p.settlementRuns retirement).1.Guarded := by
  unfold Pool.settlementRuns
  split
  · rename_i disposal found
    have ok := guarded.disposal_ok found
    split
    · rename_i pending settled
      have present : p.retirements.get disposal.workDir = some retirement :=
        ok.present (by rw [pending]; rintro ⟨⟩)
      have retired := @directory_setDisposal _ _ _ p retirement disposal found
        {disposal with state := .retired} rfl
      apply guarded.local_step
      · exact numbered_leaveRetirements (numbered_setDisposal guarded.numbered found _) _ _
      · intro w ne
        rw [directory_leaveRetirements,if_neg ne,retired,if_neg ne]
      · rw [directory_leaveRetirements,if_pos rfl,retired,if_pos rfl]
        rw [show (p.setDisposal retirement {disposal with state := .retired}).retirements =
          p.retirements from rfl,if_pos present]
        exact (guarded.directories disposal.workDir).retired (disposal_eq_some.mpr ⟨found,rfl⟩) pending settled
    · rename_i pending settled
      apply guarded.setDisposal found {disposal with state := .failed} rfl rfl
      · rintro _ ⟨⟩
      · refine ⟨fun _ => ok.present ?_,?_,fun _ => settled,fun fulfilled => ?_,ok.gone,ok.known⟩
        · rw [pending]
          rintro ⟨⟩
        · rintro ⟨⟩
        · have retired := ok.fulfilled fulfilled
          rw [pending] at retired
          cases retired
    · exact guarded
  · exact guarded

theorem Guarded.boundedSettles (guarded : p.Guarded) (retirement : Nat) :
    (p.boundedSettles retirement).1.Guarded := by
  unfold Pool.boundedSettles
  split
  · rename_i disposal found
    have ok := guarded.disposal_ok found
    split
    · rename_i retired
      apply guarded.setDisposal found {disposal with bounded := some .fulfilled} rfl rfl id
      exact ⟨ok.present,ok.retired,ok.failed,fun _ => retired,ok.gone,ok.known⟩
    · apply guarded.setDisposal found {disposal with bounded := some .rejected} rfl rfl id
      exact ⟨ok.present,ok.retired,ok.failed,(by rintro ⟨⟩),ok.gone,ok.known⟩
    · exact guarded
  · exact guarded

theorem Guarded.boundedTimesOut (guarded : p.Guarded) (retirement : Nat) :
    (p.boundedTimesOut retirement).1.Guarded := by
  unfold Pool.boundedTimesOut
  split
  · rename_i disposal found
    have ok := guarded.disposal_ok found
    split
    · apply guarded.setDisposal found {disposal with bounded := some .timedOut} rfl rfl id
      exact ⟨ok.present,ok.retired,ok.failed,(by rintro ⟨⟩),ok.gone,ok.known⟩
    · exact guarded
  · exact guarded

/-- Another phase of the operation, its hold released as well. -/
theorem Guarded.releasePhase (guarded : p.Guarded) (workDir : W) (t : Transition I) (phase : Phase)
    (here : Directory.Guarded {p.directory workDir with transition := some {t with phase := phase}}) :
    ((p.releaseHold workDir t.token).setPhase workDir t phase).Guarded := by
  apply (guarded.releaseHold workDir t.token).setPhase
  rw [directory_releaseHold]
  exact here

variable {t : Transition I}

/-- The transition of an operation that is ended goes. -/
theorem Guarded.clearTransition (guarded : p.Guarded)
    (operation : p.sessionTransitions.get workDir = some t) (holds : t.phase.session = none)
    (ended : t.phase.unfinished = false ∨ t.cleanupPending = true) :
    (p.clearTransition workDir).Guarded := by
  apply guarded.local_step
  · exact ⟨guarded.numbered.creations,guarded.numbered.disposals⟩
  · intro w ne
    exact (directory_clearTransition p workDir w).trans (if_neg ne)
  · rw [directory_clearTransition,if_pos rfl]
    exact (guarded.directories workDir).clear operation holds ended

theorem Guarded.fail (guarded : p.Guarded)
    (operation : p.sessionTransitions.get workDir = some t) (failing : t.phase = .failing) :
    ((p.dropEntry workDir t.token).clearTransition workDir).Guarded := by
  have dropped := numbered_dropEntry guarded.numbered workDir t.token
  apply guarded.local_step
  · exact ⟨dropped.creations,dropped.disposals⟩
  · intro w ne
    rw [directory_clearTransition,if_neg ne,directory_dropEntry,if_neg ne]
  · rw [directory_clearTransition,if_pos rfl,directory_dropEntry,if_pos rfl]
    exact (guarded.directories workDir).fail operation (by rw [failing]; rfl) (by rw [failing]; rfl)

/-- An operation that holds on to nothing comes to rest. -/
theorem Guarded.rest {p : Pool W I} (guarded : p.Guarded) {workDir : W} {t : Transition I}
    (operation : p.sessionTransitions.get workDir = some t) (unfinished : t.phase.unfinished)
    (holds : t.phase.session = none) {phase : Phase} (resting : phase.resting) :
    Directory.Guarded {p.directory workDir with transition := some {t with phase := phase}} := by
  apply (guarded.directories workDir).rest operation unfinished _ resting
  intro session held
  rw [holds] at held
  cases held

/-- An operation whose factory call rejected comes to rest. -/
theorem Guarded.rest_rejected (guarded : p.Guarded) (operation : p.sessionTransitions.get workDir = some t)
    (held : t.phase.session = some session) (rejected : p.existence session = some .rejected)
    (resting : phase.resting) :
    Directory.Guarded {p.directory workDir with transition := some {t with phase := phase}} := by
  have local_guarded := guarded.directories workDir
  apply local_guarded.rest operation _ _ resting
  · cases t_phase : t.phase <;> grind
  · intro session' held'
    obtain rfl : session = session' := by
      rw [held] at held'
      cases held'
      rfl
    have known : t.phase.known = some session := by cases t_phase : t.phase <;> grind
    obtain ⟨state,made⟩ :=
      Option.isSome_iff_exists.mp ((local_guarded.phases t operation).known session known)
    rw [existence,creation_eq_some.mp made] at rejected
    cases rejected
    exact made

/-- The replacement goes on once the replaced session is gone. -/
theorem Guarded.resume_replacing (guarded : p.Guarded) (operation : p.sessionTransitions.get workDir = some t)
    (replacing : t.phase = .replacing retirement) (fulfilled : p.boundedOf retirement = some .fulfilled) :
    ((p.hold workDir t.token).setPhase workDir t .queued).Guarded := by
  have held : (p.hold workDir t.token).Guarded :=
    ⟨⟨guarded.numbered.creations,guarded.numbered.disposals⟩,guarded.directories⟩
  apply held.setPhase
  apply (guarded.directories workDir).queue operation replacing
  intro disposal found
  rw [boundedOf,(disposal_eq_some.mp found).1] at fulfilled
  exact fulfilled

theorem Guarded.store (guarded : p.Guarded) (operation : p.sessionTransitions.get workDir = some t)
    (created : t.phase = .created session) (running : p.closed = false) :
    ((p.setSession workDir t.token session).setPhase workDir t (.settled session)).Guarded := by
  have local_guarded := guarded.directories workDir
  obtain ⟨e,found,own⟩ :=
    (local_guarded.phases t operation).owns (by rw [created]; rfl) running
  have stored : p.setSession workDir t.token session =
      {p with sessions := p.sessions.set workDir {e with session := some session}} := by
    unfold Pool.setSession
    rw [show p.sessions.get workDir = some e from found]
    exact if_pos own
  rw [stored]
  apply guarded.local_step
  · exact ⟨guarded.numbered.creations,guarded.numbered.disposals⟩
  · intro w ne
    rw [Pool.setPhase,directory_setTransition,if_neg ne]
    simp [directory,get_set,ne]
  · rw [Pool.setPhase,directory_setTransition,if_pos rfl]
    have here := local_guarded.store operation created found
    simpa [directory] using here

theorem directory_addEntry (p : Pool W I) (workDir w : W) (managedIdentity : Option I) :
    (p.addEntry workDir managedIdentity).directory w = if w = workDir then
        {p.directory w with entry := some ⟨p.nextToken,managedIdentity,none⟩}
      else p.directory w := by
  by_cases same : w = workDir <;> simp [directory,addEntry,get_set,same]

/-- The transition that `ensureSession` installs. -/
theorem Guarded.start {q : Pool W I} (guarded : p.Guarded) (numbered : q.Numbered)
    (workDir : W) (t : Transition I) (token : Nat)
    (elsewhere : ∀ w, w ≠ workDir → q.directory w = p.directory w)
    (here : Directory.Guarded {q.directory workDir with transition := some t}) :
    {q.setTransition workDir t with nextToken := token}.Guarded := by
  have moved : (q.setTransition workDir t).Guarded := by
    apply guarded.local_step
    · exact ⟨numbered.creations,numbered.disposals⟩
    · intro w ne
      rw [directory_setTransition,if_neg ne,elsewhere w ne]
    · rw [directory_setTransition,if_pos rfl]
      exact here
  exact ⟨⟨moved.numbered.creations,moved.numbered.disposals⟩,moved.directories⟩

end Pool

end GjcRemote.SessionPool
