import GjcRemote.SessionPoolDirectory

/-! Every event of the pool keeps the invariant of every directory. -/
namespace GjcRemote.SessionPool

open List OrderedMap
variable {W I : Type} [DecidableEq W] [DecidableEq I]

namespace Pool

variable {p : Pool W I} {workDir : W}

/-- A session that no entry holds yet is retired, and the operation rests on that. -/
theorem Guarded.retire_created (guarded : p.Guarded) (operation : p.sessionTransitions.get workDir = some t)
    (held : t.phase = .created session ∨ t.phase = .late session) (managedIdentity : Option I)
    (phase : Nat → Phase) (resting : ∀ retirement, (phase retirement).resting) :
    ∃ q retirement, p.retire session workDir managedIdentity = (q,.ok retirement) ∧
      (q.setPhase workDir t (phase retirement)).Guarded := by
  have local_guarded := guarded.directories workDir
  have ok := local_guarded.phases t operation
  have kind : t.phase.exclusive ∧ t.phase.unfinished ∧ t.phase.session = some session ∧
      t.phase.known = some session := by
    rcases held with held | held <;> rw [held] <;> exact ⟨rfl,rfl,rfl,rfl⟩
  obtain ⟨exclusive,unfinished,holds,knows⟩ := kind
  have clear : p.retirements.get workDir = none := ok.exclusive exclusive
  refine ⟨_,_,by unfold retire; rw [clear],?_⟩
  have pending : ∀ e, p.sessions.get workDir = some e → e.session = none :=
    fun e found => local_guarded.entry_pending operation unfinished found
  have kept : (if (p.sessions.get workDir).bind Entry.session = some session then none
      else p.sessions.get workDir) = p.sessions.get workDir := by
    cases found : p.sessions.get workDir with
    | none => simp
    | some e => simp [pending e found]
  apply guarded.local_step
  · have started := numbered_startRetirement guarded.numbered session workDir managedIdentity
    exact ⟨started.creations,started.disposals⟩
  · intro w ne
    rw [Pool.setPhase,directory_setTransition,if_neg ne,directory_startRetirement guarded.numbered,if_neg ne]
  · rw [Pool.setPhase,directory_setTransition,if_pos rfl,
      directory_startRetirement guarded.numbered,if_pos rfl,kept]
    apply local_guarded.retire p.nextRetirementGeneration
      ⟨session,workDir,managedIdentity,.pending,none,none⟩ (p.sessions.get workDir)
      (some {t with phase := phase p.nextRetirementGeneration}) clear rfl rfl rfl
    · exact ok.known session knows
    · intro e c found live
      rw [pending e found] at live
      cases live
    · intro t' c operation' holds'
      obtain rfl : t = t' := Option.some.inj (operation.symm.trans operation')
      rw [holds] at holds'
      exact (Option.some.inj holds').symm
    · intro e found
      obtain ⟨t',operation',same,plain,_⟩ := local_guarded.creating e found (pending e found)
      obtain rfl : t = t' := Option.some.inj (operation.symm.trans operation')
      exact ⟨pending e found,_,rfl,same,plain,Phase.unfinished_of_resting (resting _)⟩
    · rintro t' ⟨⟩
      exact Directory.PhaseOk.resting (resting _)

theorem Guarded.resume (guarded : p.Guarded) (workDir : W) :
    (p.resume workDir).1.Guarded := by
  unfold Pool.resume
  split
  · exact guarded
  · rename_i t operation
    have rest := @Guarded.rest _ _ _ p guarded workDir t operation
    split
    · exact guarded
    · exact guarded
    · rename_i retirement replacing
      split
      · exact guarded
      · rename_i fulfilled
        exact guarded.resume_replacing operation replacing fulfilled
      · exact guarded.setPhase _ _ _ (rest (by rw [replacing]; rfl) (by rw [replacing]; rfl) rfl)
      · exact guarded.setPhase _ _ _ (rest (by rw [replacing]; rfl) (by rw [replacing]; rfl) rfl)
    · rename_i session creating
      split
      · apply guarded.releasePhase
        exact (guarded.directories workDir).hold_on operation creating (.inl rfl)
      · rename_i rejected
        apply guarded.releasePhase
        exact guarded.rest_rejected operation (by rw [creating]; rfl) rejected rfl
      · exact guarded
    · rename_i session created
      split
      · obtain ⟨q,retirement,retired,kept⟩ := guarded.retire_created operation (.inl created)
          t.managedIdentity .closing (fun _ => rfl)
        rw [retired]
        exact kept
      · rename_i running
        exact guarded.store operation created (by simpa using running)
    · rename_i retirement closing
      split
      · exact guarded.setPhase _ _ _ (rest (by rw [closing]; rfl) (by rw [closing]; rfl) rfl)
      · exact guarded
    · rename_i failing
      split
      · exact guarded
      · exact guarded.fail operation failing
    · rename_i session settled
      split
      · exact guarded
      · exact guarded.clearTransition operation (by rw [settled]; rfl) (.inl (by rw [settled]; rfl))
    · rename_i denied
      exact guarded.clearTransition operation (by rw [denied]; rfl) (.inl (by rw [denied]; rfl))
    · rename_i session late
      split
      · obtain ⟨q,retirement,retired,kept⟩ := guarded.retire_created operation (.inr late)
          t.managedIdentity .lateDisposal (fun _ => rfl)
        rw [retired]
        exact kept
      · rename_i rejected
        apply guarded.releasePhase
        exact guarded.rest_rejected operation (by rw [late]; rfl) rejected rfl
      · exact guarded
    · rename_i retirement late
      split
      · apply guarded.releasePhase
        exact rest (by rw [late]; rfl) (by rw [late]; rfl) rfl
      · exact guarded
    · rename_i retirement releasing
      split
      · exact guarded.setPhase _ _ _ (rest (by rw [releasing]; rfl) (by rw [releasing]; rfl) rfl)
      · exact guarded
    · rename_i rejected cleaned
      split
      · exact guarded
      · rename_i pending
        have cleanup : t.cleanupPending = true := by
          simp only [Bool.or_eq_true,not_or] at pending
          simpa using pending.1
        have cleared := guarded.clearTransition operation (by rw [cleaned]; rfl) (.inr cleanup)
        exact ⟨⟨cleared.numbered.creations,cleared.numbered.disposals⟩,cleared.directories⟩

/-- The session that a settled directory knows can be retired. -/
theorem Guarded.retire_known (guarded : p.Guarded) (known : ((p.directory workDir).creation session).isSome)
    (stored : ∀ e c, p.sessions.get workDir = some e → e.session = some c → c = session)
    (settled : ∀ t, p.sessionTransitions.get workDir = some t → t.phase = .settled session)
    (managedIdentity : Option I) :
    (p.retire session workDir managedIdentity).1.Guarded := by
  have local_guarded := guarded.directories workDir
  cases present : p.retirements.get workDir with
  | some existing =>
    simp only [retire,present]
    split
    · exact guarded
    · split <;> exact guarded
  | none =>
    simp only [retire,present]
    have gone : ∀ e, (if (p.sessions.get workDir).bind Entry.session = some session then none
        else p.sessions.get workDir) ≠ some e := by
      intro e kept
      split at kept
      · cases kept
      · rename_i other
        cases live : e.session with
        | some c =>
          have same := stored e c kept live
          rw [kept] at other
          simp [live,same] at other
        | none =>
          obtain ⟨t,operation,_,_,unfinished⟩ := local_guarded.creating e kept live
          rw [settled t operation] at unfinished
          cases unfinished
    apply guarded.local_step (numbered_startRetirement guarded.numbered _ _ _) workDir
    · intro w ne
      rw [directory_startRetirement guarded.numbered,if_neg ne]
    · rw [directory_startRetirement guarded.numbered,if_pos rfl]
      apply local_guarded.retire p.nextRetirementGeneration
        ⟨session,workDir,managedIdentity,.pending,none,none⟩ _ _ present rfl rfl rfl known stored
      · intro t c operation holds
        rw [settled t operation] at holds
        cases holds
      · intro e kept
        exact absurd kept (gone e)
      · intro t operation
        have phase := settled t operation
        apply Directory.PhaseOk.plain
        · rw [phase]
          rintro _ ⟨⟩
        · rw [phase]
          rfl
        · rw [phase]
          rfl
        · rw [phase]
          rintro _ ⟨⟩
          exact known

theorem Guarded.retire_entry (guarded : p.Guarded) (found : p.sessions.get workDir = some entry)
    (live : entry.session = some session) (managedIdentity : Option I) :
    (p.retire session workDir managedIdentity).1.Guarded := by
  obtain ⟨_,known,settled⟩ := (guarded.directories workDir).stored entry session found live
  apply guarded.retire_known known _ settled
  intro e c found' live'
  rw [found] at found'
  cases found'
  rw [live] at live'
  cases live'
  rfl

/-- Retiring the session of an entry takes the entry away and leaves the others. -/
theorem sessions_retire {p : Pool W I} {session : Nat} {workDir w : W} (ne : w ≠ workDir)
    (managedIdentity : Option I) :
    (p.retire session workDir managedIdentity).1.sessions.get w = p.sessions.get w := by
  unfold retire
  split
  · split
    · rfl
    · split <;> rfl
  · change (p.forget session workDir).get w = _
    unfold forget
    split
    · exact get_delete_ne _ ne
    · rfl

/-- The reaper visits the entries in turn and at most retires the session of each. -/
theorem reapIdle_visits (p : Pool W I) (idle : W → Bool) :
    ∃ visit : Pool W I → W × Entry I → Pool W I, p.reapIdle idle = p.sessions.entries.foldl visit p ∧
      ∀ q e, visit q e = q ∨ ∃ session, e.2.session = some session ∧
        visit q e = (q.retire session e.1 e.2.managedIdentity).1 := by
  refine ⟨_,rfl,fun q e => ?_⟩
  split
  · rename_i session live
    split
    · exact .inr ⟨session,live,rfl⟩
    · exact .inl rfl
  · exact .inl rfl

variable {Holds : Pool W I → Prop}

/-- What retiring the session of an entry keeps, the reaper keeps: no directory is visited twice, so the
entries still to visit are untouched. -/
theorem reapIdle_rule
    (retires : ∀ q workDir e session, Holds q → q.sessions.get workDir = some e → e.session = some session →
      Holds (q.retire session workDir e.managedIdentity).1)
    (holds : Holds p) (idle : W → Bool) : Holds (p.reapIdle idle) := by
  obtain ⟨visit,visits,each⟩ := reapIdle_visits p idle
  have kept : ∀ (rest : List (W × Entry I)) (q : Pool W I), (rest.map Prod.fst).Nodup →
      (∀ e ∈ rest, q.sessions.get e.1 = some e.2) → Holds q → Holds (rest.foldl visit q) := by
    intro rest
    induction rest with
    | nil => exact fun q _ _ holds => holds
    | cons e rest ih =>
      intro q distinct present holds
      obtain ⟨apart,distinct⟩ := nodup_cons.mp distinct
      have later : ∀ e' ∈ rest, q.sessions.get e'.1 = some e'.2 :=
        fun e' member => present e' (mem_cons_of_mem _ member)
      rw [foldl_cons]
      rcases each q e with stays | ⟨session,live,retired⟩
      · rw [stays]
        exact ih q distinct later holds
      · rw [retired]
        apply ih _ distinct
        · intro e' member
          rw [sessions_retire,later e' member]
          rintro same
          exact apart (mem_map.mpr ⟨e',member,same⟩)
        · exact retires _ _ _ _ holds (present e mem_cons_self) live
  rw [visits]
  exact kept _ p p.sessions.distinct (fun e member => get_eq_some.mpr member) holds

theorem retireSession_rule
    (retires : ∀ q workDir e session, Holds q → q.sessions.get workDir = some e → e.session = some session →
      Holds (q.retire session workDir e.managedIdentity).1)
    (holds : Holds p) (session : Nat) : Holds (p.retireSession session).1 := by
  unfold Pool.retireSession
  split
  · exact holds
  · split
    · rename_i workDir entry located
      have live : entry.session = some session := by simpa using List.find?_some located
      have found := get_eq_some.mpr (List.mem_of_find?_eq_some located)
      have kept := retires p workDir entry session holds found live
      split <;> rename_i retired <;> rwa [retired] at kept
    · split <;> exact holds

/-- What retiring any session keeps. -/
theorem retireAll_rule
    (retires : ∀ q session workDir managedIdentity, Holds q → Holds (q.retire session workDir managedIdentity).1)
    (rest : List (W × Entry I)) (holds : Holds p) : Holds (p.retireAll rest).1 := by
  induction rest generalizing p with
  | nil => exact holds
  | cons e rest ih =>
    obtain ⟨workDir,entry⟩ := e
    unfold Pool.retireAll
    cases entry.session with
    | none => exact ih holds
    | some session =>
      have first := retires p session workDir entry.managedIdentity holds
      simp only
      split <;> rename_i retired <;> rw [retired] at first
      · exact ih first
      · exact first

/-- What stays when the session of an entry or of a settled operation is retired, whatever receipts say. -/
structure RetireRule (Holds : Pool W I → Prop) : Prop where
  entry : ∀ q workDir e session, Holds q → q.sessions.get workDir = some e → e.session = some session →
    ∀ managedIdentity, Holds (q.retire session workDir managedIdentity).1
  settled : ∀ q workDir t session, Holds q → q.sessionTransitions.get workDir = some t →
    t.phase = .settled session → ∀ managedIdentity, Holds (q.retire session workDir managedIdentity).1
  receipt : ∀ q, Holds q → ∀ identity receipt, Holds (q.setReceipt identity receipt)
  ended : ∀ q, Holds q → ∀ identity, Holds (q.endReceipt identity)

section

variable {Holds : Pool W I → Prop} (rule : RetireRule Holds)

include rule

theorem RetireRule.reapIdle (holds : Holds p) (idle : W → Bool) : Holds (p.reapIdle idle) :=
  reapIdle_rule (fun q _ _ _ holds found live => rule.entry q _ _ _ holds found live _) holds idle

theorem RetireRule.retireSession (holds : Holds p) (session : Nat) : Holds (p.retireSession session).1 :=
  retireSession_rule (fun q _ _ _ holds found live => rule.entry q _ _ _ holds found live _) holds session

theorem RetireRule.retireForReceipt (kept : Holds (p.retire session workDir (some identity)).1) :
    Holds (p.retireForReceipt identity session workDir) := by
  unfold Pool.retireForReceipt
  split <;> rename_i retired <;> rw [retired] at kept <;> exact rule.receipt _ kept _ _

theorem RetireRule.retireMatch (holds : Holds p) (identity : I) : Holds (p.retireMatch identity) := by
  unfold Pool.retireMatch
  split
  · exact rule.receipt _ holds _ _
  · split
    · exact rule.ended _ holds _
    · rename_i located
      have found := get_eq_some.mpr (List.mem_of_find?_eq_some located)
      split
      · rename_i session live
        exact rule.retireForReceipt (rule.entry _ _ _ _ holds found live _)
      · exact rule.receipt _ holds _ _

theorem RetireRule.retireManagedReceipt (holds : Holds p) (identity : I) :
    Holds (p.retireManagedReceipt identity).1 := by
  unfold Pool.retireManagedReceipt
  split
  · exact holds
  · split
    · exact holds
    · exact holds
    · split
      · exact rule.receipt _ holds _ _
      · exact rule.retireMatch holds _

theorem RetireRule.resumeReceipt (holds : Holds p) (identity : I) : Holds (p.resumeReceipt identity).1 := by
  unfold Pool.resumeReceipt
  split
  · exact holds
  · exact holds
  · split
    · exact holds
    · split
      · exact rule.receipt _ holds _ _
      · exact rule.retireMatch holds _
  · split
    · exact holds
    · rename_i t operation
      split
      · exact holds
      · split
        · rename_i session settled
          exact rule.retireForReceipt (rule.settled _ _ _ _ holds operation settled _)
        · exact rule.receipt _ holds _ _
        · split
          · exact rule.receipt _ holds _ _
          · exact holds
  · split
    · exact holds
    · split
      · exact rule.receipt _ holds _ _
      · exact rule.ended _ holds _
  · split
    · exact holds
    · exact rule.ended _ holds _
    · exact rule.receipt _ holds _ _
    · exact rule.receipt _ holds _ _
  · split
    · exact rule.receipt _ holds _ _
    · exact rule.ended _ holds _
    · exact holds

end

/-- No session of an entry is refused, and its entry goes. -/
theorem Guarded.retire_entry_ok (guarded : p.Guarded) (found : p.sessions.get workDir = some entry)
    (live : entry.session = some session) (managedIdentity : Option I) :
    ∃ q retirement, p.retire session workDir managedIdentity = (q,.ok retirement) ∧ q.Guarded ∧
      q.closed = p.closed ∧ q.sessions.get workDir = none ∧
      ∀ w, w ≠ workDir → q.sessions.get w = p.sessions.get w := by
  have clear := ((guarded.directories workDir).stored entry session found live).1
  have retired : p.retire session workDir managedIdentity =
      (p.startRetirement session workDir managedIdentity,.ok p.nextRetirementGeneration) := by
    unfold retire
    rw [show p.retirements.get workDir = none from clear]
  have kept := guarded.retire_entry found live managedIdentity
  have others := fun w ne => @sessions_retire _ _ _ _ p session workDir w ne managedIdentity
  rw [retired] at kept others
  refine ⟨_,_,retired,kept,rfl,?_,others⟩
  change (p.forget session workDir).get workDir = none
  unfold forget
  rw [if_pos (by rw [found]; exact live)]
  exact get_delete_self _ _

/-- Retiring the session of every entry succeeds and leaves the entries in creation. -/
theorem Guarded.retireAll {rest : List (W × Entry I)} {p : Pool W I} (guarded : p.Guarded)
    (distinct : (rest.map Prod.fst).Nodup) (present : ∀ e ∈ rest, p.sessions.get e.1 = some e.2) :
    ∃ q, p.retireAll rest = (q,.ok ()) ∧ q.Guarded ∧ q.closed = p.closed ∧
      ∀ workDir entry, q.sessions.get workDir = some entry → entry.session = none ∨
          (p.sessions.get workDir = some entry ∧ workDir ∉ rest.map Prod.fst) := by
  induction rest generalizing p with
  | nil => exact ⟨p,rfl,guarded,rfl,fun w entry found => .inr ⟨found,by simp⟩⟩
  | cons e rest ih =>
    obtain ⟨workDir,entry⟩ := e
    obtain ⟨apart,distinct⟩ := nodup_cons.mp distinct
    have here : p.sessions.get workDir = some entry := present _ mem_cons_self
    have later : ∀ e' ∈ rest, p.sessions.get e'.1 = some e'.2 :=
      fun e' member => present e' (mem_cons_of_mem _ member)
    cases live : entry.session with
    | none =>
      obtain ⟨q,ran,kept,closed,left⟩ := ih guarded distinct later
      refine ⟨q,by simp only [Pool.retireAll,live,ran],kept,closed,?_⟩
      intro w entry' found
      rcases left w entry' found with pending | ⟨old,outside⟩
      · exact .inl pending
      · by_cases same : w = workDir
        · rw [same,here] at old
          cases old
          exact .inl live
        · exact .inr ⟨old,by simpa [same] using outside⟩
    | some session =>
      obtain ⟨p',retirement,retired,guarded',closed',gone,others⟩ :=
        guarded.retire_entry_ok here live entry.managedIdentity
      have later' : ∀ e' ∈ rest, p'.sessions.get e'.1 = some e'.2 := by
        intro e' member
        rw [others,later e' member]
        rintro same
        exact apart (mem_map.mpr ⟨e',member,same⟩)
      obtain ⟨q,ran,kept,closed,left⟩ := ih guarded' distinct later'
      refine ⟨q,by simp only [Pool.retireAll,live,retired,ran],kept,closed.trans closed',?_⟩
      intro w entry' found
      rcases left w entry' found with pending | ⟨old,outside⟩
      · exact .inl pending
      · by_cases same : w = workDir
        · rw [same,gone] at old
          cases old
        · exact .inr ⟨by rw [← others w same]; exact old,by simpa [same] using outside⟩

theorem Guarded.shutdown (guarded : p.Guarded) : p.shutdown.1.Guarded := by
  unfold Pool.shutdown
  split
  · exact guarded
  · have closing : {p with closed := true}.Guarded :=
      ⟨⟨guarded.numbered.creations,guarded.numbered.disposals⟩,fun w => (guarded.directories w).close⟩
    have entries : ∀ e ∈ p.sessions.entries, p.sessions.get e.1 = some e.2 :=
      fun e member => get_eq_some.mpr member
    obtain ⟨q,ran,kept,closed,left⟩ := closing.retireAll p.sessions.distinct entries
    rw [ran]
    refine ⟨⟨kept.numbered.creations,kept.numbered.disposals⟩,fun w => ?_⟩
    apply (kept.directories w).forget closed
    intro entry found
    rcases left w entry found with pending | ⟨old,outside⟩
    · exact pending
    · exact absurd (OrderedMap.mem_keys.mpr ⟨entry,old⟩) outside

/-- The receipts are no part of any directory. -/
theorem guarded_rule : RetireRule (Pool.Guarded (W := W) (I := I)) where
  entry _ _ _ _ guarded found live := guarded.retire_entry found live
  settled q workDir t session guarded operation settled managedIdentity := by
    have local_guarded := guarded.directories workDir
    apply guarded.retire_known
    · exact (local_guarded.phases t operation).known session (by rw [settled]; rfl)
    · intro e c found live
      have same := (local_guarded.stored e c found live).2.2 t operation
      rw [settled] at same
      cases same
      rfl
    · intro t' operation'
      rw [operation] at operation'
      cases operation'
      exact settled
  receipt _ guarded _ _ := ⟨⟨guarded.numbered.creations,guarded.numbered.disposals⟩,guarded.directories⟩
  ended _ guarded _ := ⟨⟨guarded.numbered.creations,guarded.numbered.disposals⟩,guarded.directories⟩

theorem Guarded.ensureCanonicalSession (guarded : p.Guarded) (clear : p.retirements.get workDir = none)
    (idle : p.sessionTransitions.get workDir = none) (managedIdentity : Option I) (sessionClosed : Bool) :
    let started := p.ensureCanonicalSession workDir managedIdentity sessionClosed
    {started.1.setTransition workDir ⟨p.nextToken,managedIdentity,false,started.2⟩ with
      nextToken := p.nextToken + 1}.Guarded := by
  have local_guarded := guarded.directories workDir
  unfold Pool.ensureCanonicalSession
  split
  · rename_i absent
    split
    · apply guarded.start guarded.numbered workDir
      · exact fun _ _ => rfl
      · exact local_guarded.start_denied idle absent _ _
    · apply guarded.start
      · exact ⟨guarded.numbered.creations,guarded.numbered.disposals⟩
      · intro w ne
        exact (directory_addEntry p workDir w managedIdentity).trans (if_neg ne)
      · rw [show ((p.addEntry workDir managedIdentity).hold workDir p.nextToken).directory workDir =
          (p.addEntry workDir managedIdentity).directory workDir from rfl,
          directory_addEntry,if_pos rfl]
        exact local_guarded.start_queued idle absent clear _ _
  · rename_i existing found
    split
    · -- an entry in creation has its operation
      rename_i pending
      obtain ⟨session,live⟩ := local_guarded.entry_live idle found
      rw [pending] at live
      cases live
    · rename_i session live
      split
      · apply guarded.start guarded.numbered workDir
        · exact fun _ _ => rfl
        · exact local_guarded.start_settled idle found live _ _
      · have retired : p.retire session workDir existing.managedIdentity =
            (p.startRetirement session workDir existing.managedIdentity,.ok p.nextRetirementGeneration) := by
          unfold retire
          rw [clear]
        rw [retired]
        have numbered := numbered_startRetirement guarded.numbered session workDir existing.managedIdentity
        apply guarded.start
        · exact ⟨numbered.creations,numbered.disposals⟩
        · intro w ne
          rw [directory_addEntry,if_neg ne,directory_startRetirement guarded.numbered,if_neg ne]
        · rw [directory_addEntry,if_pos rfl,directory_startRetirement guarded.numbered,if_pos rfl]
          have known := (local_guarded.stored existing session found live).2.1
          apply local_guarded.retire p.nextRetirementGeneration
            ⟨session,workDir,existing.managedIdentity,.pending,none,none⟩
            (some ⟨p.nextToken,managedIdentity,none⟩)
            (some ⟨p.nextToken,managedIdentity,false,.replacing p.nextRetirementGeneration⟩)
            clear rfl rfl rfl known
          · intro e c found' live'
            obtain rfl : existing = e := Option.some.inj (found.symm.trans found')
            exact Option.some.inj (live'.symm.trans live)
          · intro t c operation
            rw [show (p.directory workDir).transition = none from idle] at operation
            cases operation
          · rintro e ⟨⟩
            exact ⟨rfl,_,rfl,rfl,rfl,rfl⟩
          · rintro t ⟨⟩
            exact {
              settledPrior := by rintro _ ⟨⟩
              exclusive := by rintro ⟨⟩
              replacing := by
                rintro _ ⟨⟩
                exact .inr rfl
              awaited := by
                rintro _ ⟨⟩
                simp [Directory.startRetirement]
              known := by rintro _ ⟨⟩
              owns := fun _ _ => ⟨_,rfl,rfl⟩}

theorem Guarded.ensureSession (guarded : p.Guarded) (workDir : Option W)
    (managedIdentity : Option I) (sessionClosed : Bool) :
    (p.ensureSession workDir managedIdentity sessionClosed).1.Guarded := by
  unfold Pool.ensureSession
  split
  · exact guarded
  split
  · exact guarded
  · exact guarded
  split
  · exact guarded
  split
  · exact guarded
  rename_i clear
  split
  · split
    · exact guarded
    · split <;> exact guarded
  rename_i idle
  exact guarded.ensureCanonicalSession clear idle managedIdentity sessionClosed

end Pool

theorem Pool.Guarded.step (guarded : p.Guarded) (event : Event W I) :
    (step p event).1.Guarded := by
  cases event with
  | ensureSession workDir identity closed => exact guarded.ensureSession workDir identity closed
  | resume workDir => exact guarded.resume workDir
  | unwind workDir => exact guarded.unwind workDir
  | startFactory workDir => exact guarded.startFactory workDir
  | factoryResolves session => exact guarded.factorySettles session
  | factoryRejects session => exact guarded.factorySettles session
  | creationTimesOut workDir => exact guarded.creationTimesOut workDir
  | disposeFulfils retirement => exact guarded.disposeSettles retirement true
  | disposeRejects retirement => exact guarded.disposeSettles retirement false
  | settlementRuns retirement => exact guarded.settlementRuns retirement
  | boundedSettles retirement => exact guarded.boundedSettles retirement
  | boundedTimesOut retirement => exact guarded.boundedTimesOut retirement
  | reapIdle idle => exact Pool.guarded_rule.reapIdle guarded idle
  | retireSession session => exact Pool.guarded_rule.retireSession guarded session
  | retireManagedReceipt identity => exact Pool.guarded_rule.retireManagedReceipt guarded identity
  | resumeReceipt identity => exact Pool.guarded_rule.resumeReceipt guarded identity
  | shutdown => exact guarded.shutdown

end GjcRemote.SessionPool
