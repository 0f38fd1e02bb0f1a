import GjcRemote.SessionPoolChanges

/-! Every event of a running pool keeps what its records tell. -/
namespace GjcRemote.SessionPool.Pool

open OrderedMap
variable {W I : Type} [DecidableEq W]

/-- Phases that have met nothing to speak of. -/
theorem Admissible.plain {p : Pool W I} {workDir : W} {phase : Phase}
    (disposing : phase.disposing = none) (received : phase.received = none)
    (failing : phase ≠ .failing) (cleaned : phase ≠ .cleaned true)
    (unclosed : ∀ retirement, phase ≠ .closing retirement) : p.Admissible workDir phase where
  settled s settled := by
    rw [settled] at received
    cases received
  disposing r waits := by
    rw [disposing] at waits
    cases waits
  failing same := absurd same failing
  cleaned same := absurd same cleaned
  received s same := by
    rw [received] at same
    cases same
  unclosed := unclosed

variable {p : Pool W I} {workDir : W}

/-- Phases that wait for a retirement of the directory. -/
theorem Admissible.disposes (located : ∃ x, p.disposals.get retirement = some x ∧ x.workDir = workDir)
    (disposing : phase.disposing = some retirement) : p.Admissible workDir phase where
  settled s settled := by
    rw [settled] at disposing
    cases disposing
  disposing r waits := by
    rw [disposing] at waits
    cases waits
    exact located
  failing same := by
    rw [same] at disposing
    cases disposing
  cleaned same := by
    rw [same] at disposing
    cases disposing
  received s same := by
    cases phase <;> simp [Phase.disposing,Phase.received] at disposing same
  unclosed r same := by
    rw [same] at disposing
    cases disposing

theorem Admissible.fails (refused : Refused p workDir) :
    p.Admissible workDir .failing where
  settled := by rintro s ⟨⟩
  disposing := by rintro r ⟨⟩
  failing _ := refused
  cleaned := by rintro ⟨⟩
  received := by rintro s ⟨⟩
  unclosed := by rintro r ⟨⟩

theorem Admissible.cleans (blamed : rejected = true → DisposeRejected p workDir) :
    p.Admissible workDir (.cleaned rejected) where
  settled := by rintro s ⟨⟩
  disposing := by rintro r ⟨⟩
  failing := by rintro ⟨⟩
  cleaned same := by
    cases same
    exact blamed rfl
  received := by rintro s ⟨⟩
  unclosed := by rintro r ⟨⟩

theorem receipts_dropEntry (p : Pool W I) (workDir : W) (token : Nat) :
    (p.dropEntry workDir token).receiptRetirements = p.receiptRetirements := by
  unfold dropEntry
  split <;> rfl

theorem transitions_dropEntry (p : Pool W I) (workDir : W) (token : Nat) :
    (p.dropEntry workDir token).sessionTransitions = p.sessionTransitions := by
  unfold dropEntry
  split <;> rfl

theorem operation_releaseHold (p : Pool W I) (workDir : W) (token : Nat) :
    (p.releaseHold workDir token).sessionTransitions = p.sessionTransitions ∧
      (p.releaseHold workDir token).disposals = p.disposals ∧
      (p.releaseHold workDir token).creations = p.creations := by
  unfold releaseHold
  split <;> exact ⟨rfl,rfl,rfl⟩

/-- The dispose promise of a failed retirement has rejected. -/
theorem Guarded.failed_rejected (guarded : p.Guarded)
    (located : ∃ x, p.disposals.get retirement = some x ∧ x.workDir = workDir)
    (failed : p.stateOf retirement = some .failed) : DisposeRejected p workDir := by
  obtain ⟨x,found,here⟩ := located
  have ok := (guarded.directories workDir).disposals retirement x (disposal_eq_some.mpr ⟨found,here⟩)
  have state : x.state = .failed := by simpa [stateOf,found] using failed
  exact ⟨retirement,x,found,here,ok.failed state⟩

theorem refused_releaseHold (refused : Refused p w) :
    Refused (p.releaseHold workDir token) w := by
  obtain ⟨_,disposals,creations⟩ := operation_releaseHold p workDir token
  unfold Refused DisposeRejected at refused ⊢
  rwa [disposals,creations]

theorem Guarded.cleanup_rejected (guarded : p.Guarded)
    (located : ∃ x, p.disposals.get retirement = some x ∧ x.workDir = workDir)
    (cleanup : p.cleanupOf retirement reports = some true) : DisposeRejected p workDir := by
  unfold cleanupOf at cleanup
  split at cleanup
  · cases cleanup
  · rename_i failed
    exact guarded.failed_rejected located failed
  · cases cleanup

variable [DecidableEq I]

theorem Changes.refl (p : Pool W I) : p.Changes p := Relation.ReflTransGen.refl

theorem Changes.one (change : p.Change q) : p.Changes q :=
  Relation.ReflTransGen.single change

theorem Changes.trans (first : p.Changes q) (second : q.Changes r) :
    p.Changes r :=
  Relation.ReflTransGen.trans first second

theorem Changes.and (first : p.Changes q) (second : q.Change r) : p.Changes r :=
  Relation.ReflTransGen.tail first second

theorem changes_factorySettles (p : Pool W I) (session : Nat) (state : Existence) :
    p.Changes (p.factorySettles session state).1 := by
  unfold factorySettles
  split
  · rename_i creation made
    split
    · rename_i pending
      refine .one (.creations _ p.nextCreation ?_ ?_)
      · intro s w rejected
        rw [get_set_ne]
        · exact rejected
        · rintro rfl
          rw [made] at rejected
          cases rejected
          cases pending
      · intro s resolved
        have ne : s ≠ session := by
          rintro rfl
          rcases resolved with live | disposed
          · simp [existence,made,pending] at live
          · simp [existence,made,pending] at disposed
        unfold Resolved existence at resolved ⊢
        rwa [get_set_ne _ _ ne]
    · exact .refl p
  · exact .refl p

theorem changes_disposed (resolved : Resolved p session) :
    p.Changes (p.disposed session) := by
  unfold disposed
  split
  · refine .one (.creations _ p.nextCreation ?_ ?_)
    · intro s w rejected
      rw [get_set_ne]
      · exact rejected
      · rintro rfl
        rcases resolved with live | disposed
        · simp [existence,rejected] at live
        · simp [existence,rejected] at disposed
    · intro s resolved
      unfold Resolved existence at resolved ⊢
      rw [get_set]
      split
      · exact .inr rfl
      · exact resolved
  · exact .refl p

theorem Attributed.changes_disposeSettles (told : p.Attributed) (retirement : Nat) (fulfilled : Bool) :
    p.Changes (p.disposeSettles retirement fulfilled).1 := by
  unfold disposeSettles
  split
  · rename_i disposal found
    split
    · rename_i unsettled
      have unsettled : disposal.settled = none := Option.isNone_iff_eq_none.mp unsettled
      have settles : p.Changes (p.setDisposal retirement {disposal with settled := some fulfilled}) := by
        refine .one (.disposal retirement disposal _ found rfl rfl rfl rfl ?_ ?_)
        · intro b settled
          rw [unsettled] at settled
          cases settled
        · intro bounded
          have := told.bounded retirement disposal found bounded
          rw [unsettled] at this
          cases this
      cases fulfilled with
      | true => exact settles.trans (changes_disposed (told.owned retirement disposal found))
      | false => exact settles
    · exact .refl p
  · exact .refl p

theorem Guarded.changes_boundedSettles (guarded : p.Guarded) (retirement : Nat) :
    p.Changes (p.boundedSettles retirement).1 := by
  unfold Pool.boundedSettles
  split
  · rename_i disposal found
    split
    · exact .one (.disposal retirement disposal _ found rfl rfl rfl rfl (fun _ => id) (by rintro ⟨⟩))
    · rename_i failed
      have ok := (guarded.directories disposal.workDir).disposals retirement disposal
        (disposal_eq_some.mpr ⟨found,rfl⟩)
      exact .one (.disposal retirement disposal _ found rfl rfl rfl rfl (fun _ => id) fun _ => ok.failed failed)
    · exact .refl p
  · exact .refl p

theorem changes_boundedTimesOut (p : Pool W I) (retirement : Nat) :
    p.Changes (p.boundedTimesOut retirement).1 := by
  unfold boundedTimesOut
  split
  · rename_i disposal found
    split
    · exact .one (.disposal retirement disposal _ found rfl rfl rfl rfl (fun _ => id) (by rintro ⟨⟩))
    · exact .refl p
  · exact .refl p

theorem changes_creationTimesOut (p : Pool W I) (workDir : W) :
    p.Changes (p.creationTimesOut workDir).1 := by
  unfold creationTimesOut
  split
  · exact .refl p
  · rename_i t operation
    split
    · exact .one (.move workDir t _ operation
        (.plain rfl rfl (by rintro ⟨⟩) (by rintro ⟨⟩) (by rintro r ⟨⟩)) (by rintro ⟨⟩))
    · exact .refl p

theorem Guarded.changes_startFactory (guarded : p.Guarded) (workDir : W) :
    p.Changes (p.startFactory workDir).1 := by
  unfold Pool.startFactory
  split
  · exact .refl p
  · rename_i t operation
    split
    · have unused := guarded.numbered.creations _ (Nat.le_refl _)
      have other : ∀ s w state, p.creations.get s = some ⟨w,state⟩ → s ≠ p.nextCreation := by
        rintro s w state made rfl
        rw [unused] at made
        cases made
      have made : p.Change (p.addCreation workDir) := by
        refine .creations _ (p.nextCreation + 1) ?_ ?_
        · intro s w rejected
          rwa [get_set_ne _ _ (other s w _ rejected)]
        · intro s resolved
          have ne : s ≠ p.nextCreation := by
            rintro rfl
            rcases resolved with live | disposed
            · simp [existence,unused] at live
            · simp [existence,unused] at disposed
          unfold Resolved existence at resolved ⊢
          rwa [get_set_ne _ _ ne]
      exact (Changes.one made).and (.move workDir t _ operation
        (.plain rfl rfl (by rintro ⟨⟩) (by rintro ⟨⟩) (by rintro r ⟨⟩)) (by rintro ⟨⟩))
    · exact .refl p

theorem changes_dropEntry (p : Pool W I) (workDir : W) (token : Nat) :
    p.Changes (p.dropEntry workDir token) := by
  unfold dropEntry
  split
  · exact .one (.unlist workDir)
  · exact .refl p

theorem changes_releaseHold (p : Pool W I) (workDir : W) (token : Nat) :
    p.Changes (p.releaseHold workDir token) := by
  unfold releaseHold
  split
  · exact .one (.holds _)
  · exact .refl p

theorem changes_unwind (p : Pool W I) (workDir : W) : p.Changes (p.unwind workDir).1 := by
  unfold unwind
  split
  · exact .refl p
  · rename_i t operation
    split
    · refine (changes_dropEntry p workDir t.token).and (.pend workDir t ?_)
      rw [transitions_dropEntry]
      exact operation
    · exact .refl p

/-- A session that is nobody's yet, or that of the entry, is retired. -/
theorem Guarded.changes_startRetirement (guarded : p.Guarded)
    (named : ∀ t c, p.sessionTransitions.get workDir = some t → t.phase = .settled c →
      identity = t.managedIdentity ∧ session = c) (resolved : Resolved p session) :
    p.Changes (p.startRetirement session workDir identity) := by
  have fresh := guarded.numbered.disposals _ (Nat.le_refl _)
  have unused : ∀ w, p.retirements.get w ≠ some p.nextRetirementGeneration := by
    intro w retiring
    obtain ⟨disposal,found,_⟩ := (guarded.directories w).retiring _ retiring
    rw [(disposal_eq_some.mp found).1] at fresh
    cases fresh
  have started := Changes.one (.retire session workDir identity fresh unused named resolved)
  unfold startRetirement forget
  split
  · exact started.and (.unlist workDir)
  · exact started

theorem Guarded.changes_retire_entry (guarded : p.Guarded) (told : p.Attributed)
    (found : p.sessions.get workDir = some e) (live : e.session = some session) :
    p.Changes (p.retire session workDir e.managedIdentity).1 := by
  unfold Pool.retire
  split
  · split
    · exact .refl p
    · split <;> exact .refl p
  · refine guarded.changes_startRetirement (fun t c operation settled => ?_)
      (told.stored workDir e session found live)
    have same := ((guarded.directories workDir).stored e session found live).2.2 t operation
    rw [settled] at same
    cases same
    exact ⟨told.entries workDir e t found operation,rfl⟩

/-- Retiring the sessions of entries is a run of changes. -/
theorem changes_retires (q : Pool W I) (workDir : W) (e : Entry I) (session : Nat)
    (holds : p.Changes q ∧ q.Guarded ∧ q.Attributed) (found : q.sessions.get workDir = some e)
    (live : e.session = some session) :
    let r := (q.retire session workDir e.managedIdentity).1
    p.Changes r ∧ r.Guarded ∧ r.Attributed := by
  obtain ⟨changes,guarded,told⟩ := holds
  have next := guarded.changes_retire_entry told found live
  exact ⟨changes.trans next,guarded.retire_entry found live _,told.changes next⟩

theorem Guarded.changes_retireSession (guarded : p.Guarded) (told : p.Attributed) (session : Nat) :
    p.Changes (p.retireSession session).1 :=
  (retireSession_rule changes_retires ⟨.refl p,guarded,told⟩ session).1

theorem Guarded.changes_reapIdle (guarded : p.Guarded) (told : p.Attributed) (idle : W → Bool) :
    p.Changes (p.reapIdle idle) :=
  (reapIdle_rule changes_retires ⟨.refl p,guarded,told⟩ idle).1

/-- The operation gives its directory back and moves on. -/
theorem changes_releasePhase (operation : p.sessionTransitions.get workDir = some t)
    (admissible : (p.releaseHold workDir t.token).Admissible workDir phase) (undenied : phase ≠ .denied) :
    p.Changes ((p.releaseHold workDir t.token).setPhase workDir t phase) := by
  refine (changes_releaseHold p workDir t.token).and (.move workDir t phase ?_ admissible undenied)
  rw [(operation_releaseHold p workDir t.token).1]
  exact operation

/-- Nobody waits for the creation of an operation that may end. -/
theorem unawaited_of_creationAwaited (free : ¬p.creationAwaited workDir token = true) (identity : I) :
    p.receiptRetirements.get identity ≠ some (.awaitingCreation workDir token) := by
  intro found
  apply free
  unfold creationAwaited
  rw [List.any_eq_true]
  exact ⟨_,get_eq_some.mp found,by simp⟩

theorem Guarded.late_rejected (guarded : p.Guarded) (told : p.Attributed)
    (located : ∃ x, p.disposals.get retirement = some x ∧ x.workDir = workDir)
    (cleanup : p.lateCleanupOf retirement managed = some true) : DisposeRejected p workDir := by
  unfold lateCleanupOf at cleanup
  split at cleanup
  · cases cleanup
  · cases cleanup
  · rename_i bounded
    obtain ⟨x,found,here⟩ := located
    have rejected : x.bounded = some .rejected := by simpa [boundedOf,found] using bounded
    exact ⟨retirement,x,found,here,told.bounded retirement x found rejected⟩
  · exact guarded.cleanup_rejected located cleanup

theorem changes_clear (operation : p.sessionTransitions.get workDir = some t) (unawaited : ∀ identity,
      p.receiptRetirements.get identity ≠ some (.awaitingCreation workDir t.token)) :
    p.Changes (p.clearTransition workDir) :=
  .one (.clear workDir t false operation (by rintro ⟨⟩) unawaited)

/-- The session of a factory that resolved late or after the pool had closed. -/
theorem Guarded.changes_retire_received (guarded : p.Guarded)
    (operation : p.sessionTransitions.get workDir = some t)
    (late : t.phase = .late session) (resolved : Resolved p session) :
    ∃ q, p.retire session workDir t.managedIdentity = (q,.ok p.nextRetirementGeneration) ∧
      p.Changes (q.setPhase workDir t (.lateDisposal p.nextRetirementGeneration)) := by
  have clear : p.retirements.get workDir = none :=
    ((guarded.directories workDir).phases t operation).exclusive (by rw [late]; rfl)
  refine ⟨p.startRetirement session workDir t.managedIdentity,?_,?_⟩
  · unfold Pool.retire
    rw [clear]
  · have started : p.Changes (p.startRetirement session workDir t.managedIdentity) := by
      apply guarded.changes_startRetirement _ resolved
      intro t' c operation' settled
      rw [operation] at operation'
      cases operation'
      rw [late] at settled
      cases settled
    refine started.and (.move workDir t _ operation (.disposes ?_ rfl) (by rintro ⟨⟩))
    exact ⟨_,get_set_self _ _ _,rfl⟩

theorem changes_resume_replacing (told : p.Attributed) (operation : p.sessionTransitions.get workDir = some t)
    (replacing : t.phase = .replacing r) : p.Changes (p.resume workDir).1 := by
  have located := told.disposing workDir t r operation (by rw [replacing]; rfl)
  simp only [Pool.resume,operation,replacing]
  split
  · exact .refl p
  · have queued (q : Pool W I) : q.Admissible workDir .queued :=
      .plain rfl rfl (by rintro ⟨⟩) (by rintro ⟨⟩) (by rintro r ⟨⟩)
    exact (Changes.one (.holds _)).and (.move workDir t .queued operation (queued _) (by rintro ⟨⟩))
  · rename_i bounded
    obtain ⟨x,found,here⟩ := located
    have rejected : x.bounded = some .rejected := by simpa [boundedOf,found] using bounded
    have refused : Refused p workDir := .inl ⟨r,x,found,here,told.bounded r x found rejected⟩
    exact .one (.move workDir t _ operation (.fails refused) (by rintro ⟨⟩))
  · exact .one (.move workDir t _ operation (.disposes located rfl) (by rintro ⟨⟩))

theorem Guarded.changes_resume_creating (guarded : p.Guarded) (operation : p.sessionTransitions.get workDir = some t)
    (creating : t.phase = .creating session) : p.Changes (p.resume workDir).1 := by
  simp only [Pool.resume,operation,creating]
  split
  · rename_i live
    refine changes_releasePhase operation ⟨?_,?_,?_,?_,?_,by rintro r ⟨⟩⟩ (by rintro ⟨⟩)
    · rintro s ⟨⟩
    · rintro r ⟨⟩
    · rintro ⟨⟩
    · rintro ⟨⟩
    · rintro s ⟨⟩
      unfold Resolved existence
      rw [(operation_releaseHold p workDir t.token).2.2]
      exact .inl live
  · rename_i rejected
    have known := ((guarded.directories workDir).phases t operation).known session (by rw [creating]; rfl)
    obtain ⟨state,made⟩ := Option.isSome_iff_exists.mp known
    have made := creation_eq_some.mp made
    have refused : Refused p workDir := by
      refine .inr ⟨session,?_⟩
      rw [existence,made] at rejected
      rw [made]
      cases rejected
      rfl
    exact changes_releasePhase operation (.fails (refused_releaseHold refused)) (by rintro ⟨⟩)
  · exact .refl p

theorem Guarded.changes_resume_created (guarded : p.Guarded) (told : p.Attributed) (running : p.closed = false)
    (operation : p.sessionTransitions.get workDir = some t) (created : t.phase = .created session) :
    p.Changes (p.resume workDir).1 := by
  simp only [Pool.resume,operation,created,running]
  have resolved := told.received workDir t session operation (by rw [created]; rfl)
  have clear : p.retirements.get workDir = none :=
    ((guarded.directories workDir).phases t operation).exclusive (by rw [created]; rfl)
  have admissible : ∀ q : Pool W I, q.retirements = p.retirements → q.creations = p.creations →
      q.Admissible workDir (.settled session) := by
    intro q retirements creations
    refine ⟨?_,by rintro r ⟨⟩,by rintro ⟨⟩,by rintro ⟨⟩,?_,by rintro r ⟨⟩⟩
    · rintro s _
      rw [retirements]
      exact clear
    · rintro s ⟨⟩
      unfold Resolved existence at resolved ⊢
      rwa [creations]
  change p.Changes ((p.setSession workDir t.token session).setPhase workDir t (.settled session))
  unfold setSession
  split
  · rename_i e listed
    split
    · have stored : p.Change {p with
          sessions := p.sessions.set workDir {e with session := some session}} := by
        refine .enlist workDir _ ?_ ?_
        · intro t' operation'
          rw [operation] at operation'
          cases operation'
          exact told.entries workDir e t listed operation
        · rintro s ⟨⟩
          exact resolved
      exact (Changes.one stored).and (.move workDir t _ operation (admissible _ rfl rfl) (by rintro ⟨⟩))
    · exact .one (.move workDir t _ operation (admissible p rfl rfl) (by rintro ⟨⟩))
  · exact .one (.move workDir t _ operation (admissible p rfl rfl) (by rintro ⟨⟩))

/-- The operation is over: its record, and an entry without a session, go. -/
theorem changes_resume_settled (operation : p.sessionTransitions.get workDir = some t)
    (settled : t.phase = .failing ∨ ∃ session, t.phase = .settled session) : p.Changes (p.resume workDir).1 := by
  rcases settled with failing | ⟨session,settled⟩
  · simp only [Pool.resume,operation,failing]
    split
    · exact .refl p
    · rename_i free
      refine (changes_dropEntry p workDir t.token).trans (changes_clear (t := t) ?_ ?_)
      · rw [transitions_dropEntry]
        exact operation
      · intro identity
        rw [receipts_dropEntry]
        exact unawaited_of_creationAwaited free identity
  · simp only [Pool.resume,operation,settled]
    split
    · exact .refl p
    · rename_i free
      exact changes_clear operation (unawaited_of_creationAwaited free)

theorem changes_resume_denied (told : p.Attributed) (operation : p.sessionTransitions.get workDir = some t)
    (denied : t.phase = .denied) : p.Changes (p.resume workDir).1 := by
  simp only [Pool.resume,operation,denied]
  refine changes_clear operation fun identity found => ?_
  obtain ⟨t',present,_,undenied⟩ := told.creating identity workDir t.token found
  rw [operation] at present
  cases present
  exact undenied denied

theorem Guarded.changes_resume_late (guarded : p.Guarded) (operation : p.sessionTransitions.get workDir = some t)
    (late : t.phase = .late session) : p.Changes (p.resume workDir).1 := by
  simp only [Pool.resume,operation,late]
  split
  · rename_i live
    obtain ⟨q,retired,changes⟩ := guarded.changes_retire_received operation late (.inl live)
    rw [retired]
    exact changes
  · exact changes_releasePhase operation (.cleans (by rintro ⟨⟩)) (by rintro ⟨⟩)
  · exact .refl p

theorem Guarded.changes_resume_lateDisposal (guarded : p.Guarded) (told : p.Attributed)
    (operation : p.sessionTransitions.get workDir = some t) (late : t.phase = .lateDisposal r) :
    p.Changes (p.resume workDir).1 := by
  have located := told.disposing workDir t r operation (by rw [late]; rfl)
  simp only [Pool.resume,operation,late]
  split
  · rename_i rejected cleanup
    refine changes_releasePhase operation (.cleans ?_) (by rintro ⟨⟩)
    rintro rfl
    have blamed := guarded.late_rejected told located cleanup
    unfold DisposeRejected at blamed ⊢
    rwa [(operation_releaseHold p workDir t.token).2.1]
  · exact .refl p

theorem Guarded.changes_resume_releasing (guarded : p.Guarded) (told : p.Attributed)
    (operation : p.sessionTransitions.get workDir = some t) (releasing : t.phase = .releasing r) :
    p.Changes (p.resume workDir).1 := by
  have located := told.disposing workDir t r operation (by rw [releasing]; rfl)
  simp only [Pool.resume,operation,releasing]
  split
  · rename_i rejected cleanup
    refine .one (.move workDir t _ operation (.cleans ?_) (by rintro ⟨⟩))
    rintro rfl
    exact guarded.cleanup_rejected located cleanup
  · exact .refl p

theorem changes_resume_cleaned (operation : p.sessionTransitions.get workDir = some t)
    (cleaned : t.phase = .cleaned rejected) : p.Changes (p.resume workDir).1 := by
  simp only [Pool.resume,operation,cleaned]
  split
  · exact .refl p
  · rename_i free
    have uncreated : ¬p.creationAwaited workDir t.token = true :=
      fun awaited => free (by rw [awaited,Bool.or_true])
    have alone := unawaited_of_creationAwaited uncreated
    refine .one (.clear workDir t rejected operation ?_ alone)
    rintro rfl
    exact cleaned

theorem Guarded.changes_resume (guarded : p.Guarded) (told : p.Attributed)
    (running : p.closed = false) (workDir : W) : p.Changes (p.resume workDir).1 := by
  cases operation : p.sessionTransitions.get workDir with
  | none =>
    simp only [Pool.resume,operation]
    exact .refl p
  | some t =>
    cases phase : t.phase with
    | awaitingPrior | queued =>
      simp only [Pool.resume,operation,phase]
      exact .refl p
    | replacing r => exact changes_resume_replacing told operation phase
    | creating session => exact guarded.changes_resume_creating operation phase
    | created session => exact guarded.changes_resume_created told running operation phase
    | closing r => exact absurd phase (told.unclosed workDir t r operation)
    | failing => exact changes_resume_settled operation (.inl phase)
    | settled session => exact changes_resume_settled operation (.inr ⟨session,phase⟩)
    | denied => exact changes_resume_denied told operation phase
    | late session => exact guarded.changes_resume_late operation phase
    | lateDisposal r => exact guarded.changes_resume_lateDisposal told operation phase
    | releasing r => exact guarded.changes_resume_releasing told operation phase
    | cleaned rejected => exact changes_resume_cleaned operation phase

structure Begins (p q : Pool W I) (workDir : W) (managedIdentity : Option I) (phase : Phase) :
    Prop where
  changes : p.Changes q
  transitions : q.sessionTransitions = p.sessionTransitions
  nextToken : q.nextToken = p.nextToken
  named : ∀ e, q.sessions.get workDir = some e → e.managedIdentity = managedIdentity
  admissible : q.Admissible workDir phase

theorem Guarded.begins (guarded : p.Guarded) (told : p.Attributed)
    (clear : p.retirements.get workDir = none) (idle : p.sessionTransitions.get workDir = none)
    (managedIdentity : Option I) (sessionClosed : Bool) :
    p.Begins (p.ensureCanonicalSession workDir managedIdentity sessionClosed).1 workDir
      managedIdentity (p.ensureCanonicalSession workDir managedIdentity sessionClosed).2 := by
  have idle_named : ∀ e : Entry I, ∀ t, p.sessionTransitions.get workDir = some t →
      e.managedIdentity = t.managedIdentity := by
    intro e t operation
    rw [idle] at operation
    cases operation
  have entered : p.Change (p.addEntry workDir managedIdentity) :=
    .enlist workDir _ (idle_named _) (by rintro s ⟨⟩)
  have own : ∀ e, (p.addEntry workDir managedIdentity).sessions.get workDir = some e →
      e.managedIdentity = managedIdentity := by
    intro e listed
    have same : some ⟨p.nextToken,managedIdentity,none⟩ = some e :=
      (get_set_self _ _ _).symm.trans listed
    cases same
    rfl
  unfold Pool.ensureCanonicalSession
  split
  · rename_i absent
    split
    · refine ⟨.refl p,rfl,rfl,?_,.plain rfl rfl (by rintro ⟨⟩) (by rintro ⟨⟩) (by rintro r ⟨⟩)⟩
      intro e listed
      rw [absent] at listed
      cases listed
    · exact ⟨(Changes.one entered).and (.holds _),rfl,rfl,own,
        .plain rfl rfl (by rintro ⟨⟩) (by rintro ⟨⟩) (by rintro r ⟨⟩)⟩
  · rename_i existing found
    obtain ⟨session,live⟩ := (guarded.directories workDir).entry_live idle found
    rw [live]
    dsimp only
    split
    · rename_i usable
      refine ⟨.refl p,rfl,rfl,?_,?_,by rintro r ⟨⟩,by rintro ⟨⟩,by rintro ⟨⟩,?_,by rintro r ⟨⟩⟩
      · intro e listed
        rw [found] at listed
        cases listed
        exact usable.1
      · exact fun _ _ => clear
      · rintro s ⟨⟩
        exact told.stored workDir existing session found live
    · have started : p.Changes (p.startRetirement session workDir existing.managedIdentity) := by
        apply guarded.changes_startRetirement _ (told.stored workDir existing session found live)
        intro t c operation
        rw [idle] at operation
        cases operation
      have retired : p.retire session workDir existing.managedIdentity =
          (p.startRetirement session workDir existing.managedIdentity,.ok p.nextRetirementGeneration) := by
        unfold Pool.retire
        rw [clear]
      rw [retired]
      refine ⟨started.and (.enlist workDir _ (idle_named _) (by rintro s ⟨⟩)),rfl,rfl,?_,
        .disposes ⟨_,get_set_self _ _ _,rfl⟩ rfl⟩
      intro e listed
      have same : some ⟨p.nextToken,managedIdentity,none⟩ = some e :=
        (get_set_self _ _ _).symm.trans listed
      cases same
      rfl

theorem Guarded.changes_ensureSession (guarded : p.Guarded) (told : p.Attributed)
    (workDir : Option W) (managedIdentity : Option I) (sessionClosed : Bool) :
    p.Changes (p.ensureSession workDir managedIdentity sessionClosed).1 := by
  unfold Pool.ensureSession
  split
  · exact .refl p
  split
  · exact .refl p
  · exact .refl p
  split
  · exact .refl p
  rename_i workDir
  split
  · exact .refl p
  rename_i clear
  split
  · split
    · exact .refl p
    · split <;> exact .refl p
  rename_i idle
  obtain ⟨changes,transitions,nextToken,named,admissible⟩ :=
    guarded.begins told clear idle managedIdentity sessionClosed
  rw [← nextToken]
  refine changes.and (.enter workDir _ ?_ rfl named admissible)
  rw [transitions]
  exact idle

theorem Attributed.settlementRuns (told : p.Attributed) (retirement : Nat) :
    (p.settlementRuns retirement).1.Attributed := by
  unfold Pool.settlementRuns
  split
  · rename_i disposal found
    split
    · have retired : (p.setDisposal retirement {disposal with state := .retired}).Attributed :=
        told.setDisposal found rfl rfl rfl (fun _ => id) (told.bounded retirement disposal found)
      dsimp only
      unfold leaveRetirements
      split
      · refine ⟨retired.entries,?_,retired.bounded,retired.disposing,retired.failing,
          retired.cleaned,retired.tokens,retired.distinct,retired.ended,retired.merged,
          retired.awaiting,retired.creating,retired.stored,retired.received,retired.owned,
          retired.unclosed⟩
        intro w t s r x operation phase retiring
        apply retired.settled w t s r x operation phase
        rw [get_delete] at retiring
        split at retiring
        · cases retiring
        · exact retiring
      · exact retired
    · exact told.setDisposal found rfl rfl rfl (fun _ => id) (told.bounded retirement disposal found)
    · exact told
  · exact told

end GjcRemote.SessionPool.Pool
