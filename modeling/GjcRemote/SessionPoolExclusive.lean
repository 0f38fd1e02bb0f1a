import GjcRemote.SessionPoolGuarded

/-! The factory is never started for a directory where a session remains, and never again
where a dispose was rejected. -/
namespace GjcRemote.SessionPool

open OrderedMap Runs

variable {W I : Type}

namespace Pool

/-- No retirement is forgotten, and none that rejected changes its mind. -/
def Remembers (p q : Pool W I) : Prop :=
  ∀ retirement disposal, p.disposals.get retirement = some disposal →
    ∃ disposal', q.disposals.get retirement = some disposal' ∧
      disposal'.workDir = disposal.workDir ∧
      (disposal.settled = some false → disposal'.settled = some false)

variable {p : Pool W I}

theorem Remembers.of_eq (same : q.disposals = p.disposals) : p.Remembers q :=
  fun _ disposal found => ⟨disposal,by rw [same]; exact found,rfl,id⟩

theorem Remembers.refl (p : Pool W I) : p.Remembers p := .of_eq rfl

theorem Remembers.trans (first : p.Remembers q) (second : q.Remembers r) :
    p.Remembers r := by
  intro retirement disposal found
  obtain ⟨disposal',found',same,rejected⟩ := first retirement disposal found
  obtain ⟨disposal'',found'',same',rejected'⟩ := second retirement disposal' found'
  exact ⟨disposal'',found'',same'.trans same,rejected' ∘ rejected⟩

theorem Remembers.setDisposal {p : Pool W I} {retirement : Nat} {disposal : Retirement W I}
    (found : p.disposals.get retirement = some disposal) {disposal' : Retirement W I}
    (kept : disposal'.workDir = disposal.workDir)
    (rejected : disposal.settled = some false → disposal'.settled = some false) :
    p.Remembers (p.setDisposal retirement disposal') := by
  intro r x found'
  by_cases same : r = retirement
  · rw [same,found] at found'
    cases found'
    refine ⟨disposal',?_,kept,rejected⟩
    rw [same]
    exact get_set_self _ _ _
  · exact ⟨x,(get_set_ne _ _ same).trans found',rfl,id⟩

theorem disposals_factorySettles (p : Pool W I) (session : Nat) (state : Existence) :
    (p.factorySettles session state).1.disposals = p.disposals := by
  unfold factorySettles
  split
  · split <;> rfl
  · rfl

theorem Remembers.disposeSettles (p : Pool W I) (retirement : Nat) (fulfilled : Bool) :
    p.Remembers (p.disposeSettles retirement fulfilled).1 := by
  unfold Pool.disposeSettles
  split
  · rename_i disposal found
    split
    · rename_i unsettled
      have settles := @Remembers.setDisposal W I p retirement disposal found
        {disposal with settled := some fulfilled} rfl (by
          intro rejected
          rw [rejected] at unsettled
          cases unsettled)
      cases fulfilled with
      | false => exact settles
      | true => exact settles.trans (.of_eq (disposals_disposed _ _))
    · exact .refl p
  · exact .refl p

theorem Remembers.boundedSettles (p : Pool W I) (retirement : Nat) :
    p.Remembers (p.boundedSettles retirement).1 := by
  unfold Pool.boundedSettles
  split
  · rename_i disposal found
    split
    · exact .setDisposal found rfl id
    · exact .setDisposal found rfl id
    · exact .refl p
  · exact .refl p

theorem Remembers.boundedTimesOut (p : Pool W I) (retirement : Nat) :
    p.Remembers (p.boundedTimesOut retirement).1 := by
  unfold Pool.boundedTimesOut
  split
  · rename_i disposal found
    split
    · exact .setDisposal found rfl id
    · exact .refl p
  · exact .refl p

section

variable [DecidableEq W]

variable (p : Pool W I) (workDir : W)

theorem disposals_releaseHold (token : Nat) :
    (p.releaseHold workDir token).disposals = p.disposals := by
  unfold releaseHold
  split <;> rfl

theorem disposals_dropEntry (token : Nat) :
    (p.dropEntry workDir token).disposals = p.disposals := by
  unfold dropEntry
  split <;> rfl

theorem disposals_setSession (token session : Nat) :
    (p.setSession workDir token session).disposals = p.disposals := by
  unfold setSession
  split
  · split <;> rfl
  · rfl

theorem disposals_leaveRetirements (retirement : Nat) (workDir : W) :
    (p.leaveRetirements retirement workDir).disposals = p.disposals := by
  unfold leaveRetirements
  split <;> rfl

theorem disposals_unwind :
    (p.unwind workDir).1.disposals = p.disposals := by
  unfold unwind
  split
  · rfl
  · split
    · exact disposals_dropEntry _ _ _
    · rfl

theorem disposals_startFactory :
    (p.startFactory workDir).1.disposals = p.disposals := by
  unfold startFactory
  split
  · rfl
  · split <;> rfl

theorem disposals_creationTimesOut :
    (p.creationTimesOut workDir).1.disposals = p.disposals := by
  unfold creationTimesOut
  split
  · rfl
  · split <;> rfl

theorem Remembers.settlementRuns (retirement : Nat) :
    p.Remembers (p.settlementRuns retirement).1 := by
  unfold Pool.settlementRuns
  split
  · rename_i disposal found
    split
    · have retired := @Remembers.setDisposal W I p retirement disposal found
        {disposal with state := .retired} rfl id
      exact retired.trans (.of_eq (disposals_leaveRetirements _ _ _))
    · exact .setDisposal found rfl id
    · exact .refl p
  · exact .refl p

end

variable [DecidableEq W] [DecidableEq I]

/-- A new retirement has a new number. -/
theorem Remembers.retire (numbered : p.Numbered) (session : Nat) (workDir : W)
    (managedIdentity : Option I) : p.Remembers (p.retire session workDir managedIdentity).1 := by
  unfold Pool.retire
  split
  · split
    · exact .refl p
    · split <;> exact .refl p
  · intro r x found
    have other : r ≠ p.nextRetirementGeneration := by
      rintro rfl
      rw [numbered.disposals _ (Nat.le_refl _)] at found
      cases found
    exact ⟨x,(get_set_ne _ _ other).trans found,rfl,id⟩

theorem numbered_retire (numbered : p.Numbered) (session : Nat) (workDir : W)
    (managedIdentity : Option I) : (p.retire session workDir managedIdentity).1.Numbered := by
  unfold Pool.retire
  split
  · split
    · exact numbered
    · split <;> exact numbered
  · exact numbered_startRetirement numbered _ _ _

/-- Retirements are remembered when a session is retired, and their numbers stay in order. -/
theorem remembers_retire (q : Pool W I) (session : Nat) (workDir : W) (managedIdentity : Option I)
    (holds : p.Remembers q ∧ q.Numbered) : p.Remembers (q.retire session workDir managedIdentity).1 ∧
      (q.retire session workDir managedIdentity).1.Numbered :=
  ⟨holds.1.trans (.retire holds.2 _ _ _),numbered_retire holds.2 _ _ _⟩

theorem remembers_rule (p : Pool W I) : RetireRule fun q => p.Remembers q ∧ q.Numbered where
  entry _ _ _ _ holds _ _ _ := remembers_retire _ _ _ _ holds
  settled _ _ _ _ holds _ _ _ := remembers_retire _ _ _ _ holds
  receipt _ holds _ _ := ⟨holds.1.trans (.of_eq rfl),holds.2.creations,holds.2.disposals⟩
  ended _ holds _ := ⟨holds.1.trans (.of_eq rfl),holds.2.creations,holds.2.disposals⟩

theorem Remembers.shutdown (numbered : p.Numbered) :
    p.Remembers p.shutdown.1 := by
  unfold Pool.shutdown
  split
  · exact .refl p
  · have kept := (@retireAll_rule W I _ _ {p with closed := true} _ (remembers_retire (p := p))
      p.sessions.entries ⟨.of_eq rfl,numbered.creations,numbered.disposals⟩).1
    split <;> rename_i ran <;> rwa [ran] at kept

theorem Remembers.ensureSession (numbered : p.Numbered) (workDir : Option W)
    (managedIdentity : Option I) (sessionClosed : Bool) :
    p.Remembers (p.ensureSession workDir managedIdentity sessionClosed).1 := by
  have started : ∀ w,
      p.Remembers (p.ensureCanonicalSession w managedIdentity sessionClosed).1 := by
    intro w
    unfold ensureCanonicalSession
    split
    · split <;> exact .of_eq rfl
    · rename_i existing _
      split
      · split <;> exact .of_eq rfl
      · rename_i session _
        split
        · exact .refl p
        · have kept := Remembers.retire numbered session w existing.managedIdentity
          split
          · rename_i retired
            rw [retired] at kept
            exact kept.trans (.of_eq rfl)
          · rename_i retired
            rw [retired] at kept
            exact kept.trans (.of_eq rfl)
  unfold Pool.ensureSession
  split
  · exact .refl p
  split
  · exact .refl p
  · exact .refl p
  split
  · exact .refl p
  split
  · exact .refl p
  split
  · split
    · exact .refl p
    · split <;> exact .refl p
  exact (started _).trans (.of_eq rfl)

theorem Remembers.resume (numbered : p.Numbered) (workDir : W) :
    p.Remembers (p.resume workDir).1 := by
  unfold Pool.resume
  split
  · exact .refl p
  · rename_i t _
    have retires := fun session => Remembers.retire numbered session workDir t.managedIdentity
    split
    · exact .refl p
    · exact .refl p
    · split <;> exact .of_eq rfl
    · split
      · exact .of_eq (disposals_releaseHold _ _ _)
      · exact .of_eq (disposals_releaseHold _ _ _)
      · exact .refl p
    · rename_i session _
      have kept := retires session
      split
      · split
        · rename_i retired
          rw [retired] at kept
          exact kept.trans (.of_eq rfl)
        · rename_i retired
          rw [retired] at kept
          exact kept.trans (.of_eq rfl)
      · exact .of_eq (disposals_setSession _ _ _ _)
    · split <;> exact .of_eq rfl
    · split
      · exact .refl p
      · exact .of_eq (disposals_dropEntry _ _ _)
    · split <;> exact .of_eq rfl
    · exact .of_eq rfl
    · rename_i session _
      have kept := retires session
      split
      · split
        · rename_i retired
          rw [retired] at kept
          exact kept.trans (.of_eq rfl)
        · rename_i retired
          rw [retired] at kept
          exact kept.trans (.of_eq (disposals_releaseHold _ _ _))
      · exact .of_eq (disposals_releaseHold _ _ _)
      · exact .refl p
    · split
      · exact .of_eq (disposals_releaseHold _ _ _)
      · exact .refl p
    · split <;> exact .of_eq rfl
    · split <;> exact .of_eq rfl

theorem Remembers.step (numbered : p.Numbered) (event : Event W I) :
    p.Remembers (step p event).1 := by
  cases event with
  | ensureSession workDir identity closed => exact .ensureSession numbered _ _ _
  | resume workDir => exact .resume numbered _
  | unwind workDir => exact .of_eq (disposals_unwind p _)
  | startFactory workDir => exact .of_eq (disposals_startFactory p _)
  | factoryResolves session => exact .of_eq (disposals_factorySettles p _ _)
  | factoryRejects session => exact .of_eq (disposals_factorySettles p _ _)
  | creationTimesOut workDir => exact .of_eq (disposals_creationTimesOut p _)
  | disposeFulfils retirement => exact .disposeSettles p _ _
  | disposeRejects retirement => exact .disposeSettles p _ _
  | settlementRuns retirement => exact .settlementRuns p _
  | boundedSettles retirement => exact .boundedSettles p _
  | boundedTimesOut retirement => exact .boundedTimesOut p _
  | reapIdle idle => exact ((remembers_rule p).reapIdle ⟨.refl p,numbered⟩ idle).1
  | retireSession session => exact ((remembers_rule p).retireSession ⟨.refl p,numbered⟩ session).1
  | retireManagedReceipt identity => exact ((remembers_rule p).retireManagedReceipt ⟨.refl p,numbered⟩ identity).1
  | resumeReceipt identity => exact ((remembers_rule p).resumeReceipt ⟨.refl p,numbered⟩ identity).1
  | shutdown => exact .shutdown numbered

end Pool

variable [DecidableEq W] [DecidableEq I]

/-- The event calls the session factory for the directory. -/
def StartsFactory (p : Pool W I) (event : Event W I) (workDir : W) : Prop :=
  event = .startFactory workDir ∧ (step p event).2 = .factoryStarted

/-- The factory promise is pending, or it resolved with a session whose dispose has not
fulfilled. -/
def SessionExists (p : Pool W I) (workDir : W) : Prop :=
  ∃ session creation, p.creations.get session = some creation ∧ creation.workDir = workDir ∧
    (creation.state = .pending ∨ creation.state = .live)

/-- A dispose of a session of the directory has rejected. -/
def DisposeRejected (p : Pool W I) (workDir : W) : Prop :=
  ∃ retirement disposal, p.disposals.get retirement = some disposal ∧
    disposal.workDir = workDir ∧ disposal.settled = some false

theorem Pool.Guarded.starts_alone {p : Pool W I} (guarded : p.Guarded)
    (starts : StartsFactory p event workDir) :
    ¬SessionExists p workDir ∧ ¬DisposeRejected p workDir := by
  obtain ⟨rfl,started⟩ := starts
  change (p.startFactory workDir).2 = .factoryStarted at started
  unfold Pool.startFactory at started
  split at started
  · cases started
  · rename_i t operation
    split at started
    · rename_i queued
      obtain ⟨gone,fulfilled⟩ := (guarded.directories workDir).free operation queued
      constructor
      · rintro ⟨session,⟨w,state⟩,made,rfl,remains⟩
        have ended := gone session state (Pool.creation_eq_some.mpr made)
        rcases remains with rfl | rfl <;> cases ended
      · rintro ⟨retirement,disposal,found,here,rejected⟩
        have settled := fulfilled retirement disposal (Pool.disposal_eq_some.mpr ⟨found,here⟩)
        rw [rejected] at settled
        cases settled
    · cases started

/-- No run leaks a session: while it remains, its directory tracks it, and no other remains there. -/
theorem sessions_tracked (maxSessions : Nat) (events : List (Event W I)) :
    let p := run step (Pool.new maxSessions) events
    ∀ session creation, p.creations.get session = some creation → creation.state.remains →
      (p.directory creation.workDir).Tracks session ∧
      ∀ other creation', p.creations.get other = some creation' → creation'.state.remains →
        creation'.workDir = creation.workDir → other = session := by
  intro p session creation made remains
  have guarded : p.Guarded :=
    run_invariant (fun _ event guarded => guarded.step event) (Pool.guarded_new maxSessions) events
  have here := guarded.directories creation.workDir
  have tracked := here.tracked session _ (Pool.creation_eq_some.mpr made) remains
  refine ⟨tracked,fun other creation' made' remains' same => ?_⟩
  have tracked' := here.tracked other _ (same ▸ Pool.creation_eq_some.mpr made') remains'
  have stored := here.stored
  have exclusive (t : Transition I) operation s (holds : t.phase.session = some s) :=
    (here.phases t operation).exclusive (by cases phase : t.phase <;> grind)
  grind [Directory.Tracks]

/-- In every run of the pool the factory is started for a directory only while no session
exists there, and never after a dispose there rejected. -/
theorem sessions_never_overlap (maxSessions : Nat) (events : List (Event W I)) :
    (∀ visit ∈ visits step (Pool.new maxSessions) events, ∀ workDir,
      StartsFactory visit.1 visit.2 workDir → ¬SessionExists visit.1 workDir) ∧
    ∀ before after, events = before ++ after → ∀ workDir,
      DisposeRejected (run step (Pool.new maxSessions) before) workDir →
      ∀ visit ∈ visits step (run step (Pool.new maxSessions) before) after,
        ¬StartsFactory visit.1 visit.2 workDir := by
  have kept : ∀ (p : Pool W I) event, p.Guarded → (step p event).1.Guarded :=
    fun p event guarded => guarded.step event
  constructor
  · intro visit member workDir starts
    have guarded := visits_invariant kept (Pool.guarded_new maxSessions) events visit member
    exact (guarded.starts_alone starts).1
  · intro before after _ workDir rejected visit member starts
    have fenced : ∀ (p : Pool W I) event, p.Guarded ∧ DisposeRejected p workDir →
        (step p event).1.Guarded ∧ DisposeRejected (step p event).1 workDir := by
      rintro p event ⟨guarded,retirement,disposal,found,here,rejected⟩
      obtain ⟨disposal',found',same,still⟩ :=
        Pool.Remembers.step guarded.numbered event retirement disposal found
      exact ⟨guarded.step event,retirement,disposal',found',same.trans here,still rejected⟩
    have reached := run_invariant kept (Pool.guarded_new maxSessions) before
    obtain ⟨guarded,still⟩ := visits_invariant fenced ⟨reached,rejected⟩ after visit member
    exact (guarded.starts_alone starts).2 still

end GjcRemote.SessionPool
