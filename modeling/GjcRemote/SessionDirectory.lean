import GjcRemote.SessionPool

/-! One directory of the pool by itself: which of the pool's maps tracks each session
that may still exist there, and why at most one of them does. -/
namespace GjcRemote.SessionPool

/-- What the pool holds for one directory: its slot in every map, the factory calls made
for it and the retirements of its sessions. -/
structure Directory (W I : Type) where
  closed : Bool
  entry : Option (Entry I)
  transition : Option (Transition I)
  retirement : Option Nat
  creation : Nat → Option Existence
  disposal : Nat → Option (Retirement W I)

/-- The factory promise is pending, or its session has not been disposed of. -/
@[grind] def Existence.remains : Existence → Bool
  | .pending | .live => true
  | .rejected | .disposed => false

namespace Phase

@[grind] def session : Phase → Option Nat
  | .creating session | .created session | .late session => some session
  | _ => none

/-- The operation has neither found nor stored a session. -/
@[grind] def unfinished : Phase → Bool
  | .settled _ | .denied => false
  | _ => true

@[grind] def exclusive : Phase → Bool
  | .queued | .creating _ | .created _ | .late _ => true
  | _ => false

/-- The operation will still put a session in its entry. -/
@[grind] def storing : Phase → Bool
  | .replacing _ | .queued | .creating _ | .created _ => true
  | _ => false

/-- The session that the operation has answered with or is about to store. -/
@[grind] def known : Phase → Option Nat
  | .creating session | .created session | .late session | .settled session => some session
  | _ => none

/-- The operation waits without holding on to a session or to the directory. -/
@[grind] def resting : Phase → Bool
  | .closing _ | .failing | .lateDisposal _ | .releasing _ | .cleaned _ => true
  | _ => false

theorem unfinished_of_resting {phase : Phase} (rests : phase.resting) : phase.unfinished := by
  cases phase <;> simp_all [resting,unfinished]

end Phase

namespace Directory

variable {W I : Type} (d : Directory W I)

def Tracks (session : Nat) : Prop :=
  (∃ entry, d.entry = some entry ∧ entry.session = some session) ∨
    (∃ retirement disposal, d.retirement = some retirement ∧
      d.disposal retirement = some disposal ∧ disposal.session = session) ∨
    ∃ t, d.transition = some t ∧ t.phase.session = some session

structure DisposalOk (retirement : Nat) (disposal : Retirement W I) :
    Prop where
  present : disposal.state ≠ .retired → d.retirement = some retirement
  retired : disposal.state = .retired → disposal.settled = some true
  failed : disposal.state = .failed → disposal.settled = some false
  fulfilled : disposal.bounded = some .fulfilled → disposal.state = .retired
  gone : disposal.settled = some true → d.creation disposal.session = some .disposed
  known : (d.creation disposal.session).isSome

structure PhaseOk (t : Transition I) : Prop where
  settledPrior : ∀ token, t.phase ≠ .awaitingPrior token
  exclusive : t.phase.exclusive → d.retirement = none
  replacing : ∀ retirement, t.phase = .replacing retirement →
    d.retirement = none ∨ d.retirement = some retirement
  awaited : ∀ retirement, t.phase = .replacing retirement → (d.disposal retirement).isSome
  known : ∀ session, t.phase.known = some session → (d.creation session).isSome
  owns : t.phase.storing → d.closed = false →
    ∃ entry, d.entry = some entry ∧ entry.token = t.token

/-- The invariant of a directory: what remains is tracked, and the trackers exclude one
another. -/
structure Guarded : Prop where
  tracked : ∀ session state, d.creation session = some state → state.remains → d.Tracks session
  stored : ∀ entry session, d.entry = some entry → entry.session = some session →
    d.retirement = none ∧ (d.creation session).isSome ∧
      ∀ t, d.transition = some t → t.phase = .settled session
  creating : ∀ entry, d.entry = some entry → entry.session = none →
    ∃ t, d.transition = some t ∧ t.token = entry.token ∧ t.cleanupPending = false ∧
      t.phase.unfinished
  retiring : ∀ retirement, d.retirement = some retirement →
    ∃ disposal, d.disposal retirement = some disposal ∧ disposal.state ≠ .retired
  disposals : ∀ retirement disposal, d.disposal retirement = some disposal →
    d.DisposalOk retirement disposal
  phases : ∀ t, d.transition = some t → d.PhaseOk t

variable {t : Transition I}

/-- At the start of a factory call nothing of the directory remains, and none of its
disposals has been rejected. -/
theorem Guarded.free {d : Directory W I} (guarded : d.Guarded)
    (operation : d.transition = some t) (queued : t.phase = .queued) :
    (∀ session state, d.creation session = some state → state.remains = false) ∧
      ∀ retirement disposal, d.disposal retirement = some disposal → disposal.settled = some true := by
  have phase := guarded.phases t operation
  have none_retiring : d.retirement = none := phase.exclusive (by rw [queued]; rfl)
  constructor
  · intro session state made
    by_contra remains
    rcases guarded.tracked session state made (by simpa using remains) with
      ⟨entry,found,stored⟩ | ⟨retirement,_,found,_⟩ | ⟨t',found,creating⟩
    · have settled := (guarded.stored entry session found stored).2.2 t operation
      rw [queued] at settled
      cases settled
    · rw [none_retiring] at found
      cases found
    · rw [operation] at found
      cases found
      rw [queued] at creating
      cases creating
  · intro retirement disposal found
    have ok := guarded.disposals retirement disposal found
    by_cases state : disposal.state = .retired
    · exact ok.retired state
    · have := ok.present state
      rw [none_retiring] at this
      cases this

variable {d : Directory W I}

theorem DisposalOk.frame {d d' : Directory W I} (ok : d.DisposalOk r x) (same : d'.retirement = d.retirement)
    (kept : d'.creation = d.creation) : d'.DisposalOk r x where
  present := by rw [same]; exact ok.present
  retired := ok.retired
  failed := ok.failed
  fulfilled := ok.fulfilled
  gone := by rw [kept]; exact ok.gone
  known := by rw [kept]; exact ok.known

section

variable (guarded : d.Guarded)
include guarded

/-- Only the entry and the operation change. -/
theorem Guarded.move {entry : Option (Entry I)} {transition : Option (Transition I)}
    (tracked : ∀ session, d.creation session = some .pending ∨ d.creation session = some .live →
      d.Tracks session → Tracks {d with entry := entry,transition := transition} session)
    (stored : ∀ e session, entry = some e → e.session = some session →
      d.retirement = none ∧ (d.creation session).isSome ∧
        ∀ t, transition = some t → t.phase = .settled session)
    (creating : ∀ e, entry = some e → e.session = none →
      ∃ t, transition = some t ∧ t.token = e.token ∧ t.cleanupPending = false ∧
        t.phase.unfinished)
    (phases : ∀ t, transition = some t → PhaseOk {d with entry := entry,transition := transition} t) :
    Guarded {d with entry := entry,transition := transition} where
  tracked session state made remains :=
    tracked session (by cases state <;> simp_all [Existence.remains])
      (guarded.tracked session state made remains)
  stored := stored
  creating := creating
  retiring := guarded.retiring
  disposals retirement disposal found := (guarded.disposals retirement disposal found).frame rfl rfl
  phases := phases

/-- Without an operation every entry has its session. -/
theorem Guarded.entry_live (idle : d.transition = none)
    (found : d.entry = some e) : ∃ session, e.session = some session := by
  cases live : e.session with
  | some session => exact ⟨session,rfl⟩
  | none =>
    obtain ⟨t,operation,_⟩ := guarded.creating e found live
    rw [idle] at operation
    cases operation

/-- Only a settled operation stands next to an entry with a session. -/
theorem Guarded.entry_pending (operation : d.transition = some t) (unsettled : t.phase.unfinished)
    (found : d.entry = some e) : e.session = none := by
  cases live : e.session with
  | none => rfl
  | some session =>
    have settled := (guarded.stored e session found live).2.2 t operation
    rw [settled] at unsettled
    cases unsettled

theorem Guarded.start_queued (idle : d.transition = none)
    (absent : d.entry = none) (clear : d.retirement = none) (token : Nat) (identity : Option I) :
    Guarded {d with
      entry := some ⟨token,identity,none⟩
      transition := some ⟨token,identity,false,.queued⟩} := by
  apply guarded.move
  · grind [Tracks]
  · grind
  · grind
  · rintro t ⟨⟩
    constructor <;> grind

theorem Guarded.start_settled (idle : d.transition = none)
    (found : d.entry = some e) (live : e.session = some session) (token : Nat) (identity : Option I) :
    Guarded {d with transition := some ⟨token,identity,false,.settled session⟩} := by
  have stored := guarded.stored e session found live
  apply guarded.move
  · grind [Tracks]
  · grind
  · grind
  · rintro t ⟨⟩
    constructor <;> grind

theorem Guarded.start_denied (idle : d.transition = none)
    (absent : d.entry = none) (token : Nat) (identity : Option I) :
    Guarded {d with transition := some ⟨token,identity,false,.denied⟩} := by
  apply guarded.move
  · grind [Tracks]
  · grind
  · grind
  · rintro t ⟨⟩
    constructor <;> grind

section

variable (operation : d.transition = some t)
include operation

/-- The phase of an unfinished operation moves on, keeping hold of what may remain. -/
theorem Guarded.enter (unsettled : t.phase.unfinished) (phase : Phase)
    (next : phase.unfinished) (keeps : ∀ session, t.phase.session = some session →
      phase.session = some session ∨ d.creation session = some .rejected)
    (ok : PhaseOk {d with transition := some {t with phase := phase}} {t with phase := phase}) :
    Guarded {d with transition := some {t with phase := phase}} := by
  apply guarded.move
  · grind [Tracks]
  · intro e session found live
    rw [guarded.entry_pending operation unsettled found] at live
    cases live
  · intro e found pending
    obtain ⟨t',operation',same,plain,_⟩ := guarded.creating e found pending
    rw [operation] at operation'
    cases operation'
    exact ⟨_,rfl,same,plain,next⟩
  · rintro t ⟨⟩
    exact ok

/-- The operation ends, and its own entry with it. -/
theorem Guarded.fail (unsettled : t.phase.unfinished)
    (holds : t.phase.session = none) :
    Guarded {d with
      entry := if d.entry.map Entry.token = some t.token then none else d.entry
      transition := none} := by
  have pending := fun e => guarded.creating e
  apply guarded.move
  · grind [Tracks,guarded.entry_pending operation unsettled]
  · grind [guarded.entry_pending operation unsettled]
  · grind
  · rintro t ⟨⟩

/-- The operation has settled and its transition goes. -/
theorem Guarded.clear (holds : t.phase.session = none)
    (ended : t.phase.unfinished = false ∨ t.cleanupPending) :
    Guarded {d with transition := none} := by
  apply guarded.move
  · grind [Tracks]
  · intro e session found live
    exact ⟨(guarded.stored e session found live).1,(guarded.stored e session found live).2.1,by simp⟩
  · intro e found pending
    obtain ⟨t',operation',_,plain,unsettled⟩ := guarded.creating e found pending
    grind
  · rintro t ⟨⟩

theorem Guarded.unwind (cleanup : Pool.hasPendingCleanup t.phase) :
    Guarded {d with
      entry := if d.entry.map Entry.token = some t.token then none else d.entry
      transition := some {t with cleanupPending := true}} := by
  have unsettled : t.phase.unfinished := by
    cases phase : t.phase <;> simp_all [Pool.hasPendingCleanup,Phase.unfinished]
  have ok := guarded.phases t operation
  apply guarded.move
  · grind [Tracks,guarded.entry_pending operation unsettled]
  · grind [guarded.entry_pending operation unsettled]
  · intro e found pending
    have kept : d.entry = some e := by grind
    obtain ⟨t',operation',same,_⟩ := guarded.creating e kept pending
    grind
  · rintro t' ⟨⟩
    refine ⟨ok.settledPrior,ok.exclusive,ok.replacing,ok.awaited,ok.known,?_⟩
    intro storing
    cases phase : t.phase <;> simp_all [Pool.hasPendingCleanup,Phase.storing]

end

end

/-- Phases that promise nothing but what they know. -/
theorem PhaseOk.plain {t : Transition I} (prior : ∀ token, t.phase ≠ .awaitingPrior token)
    (shared : t.phase.exclusive = false) (resting : t.phase.storing = false)
    (known : ∀ session, t.phase.known = some session → (d.creation session).isSome) :
    d.PhaseOk t where
  settledPrior := prior
  exclusive := by rw [shared]; rintro ⟨⟩
  replacing := by
    intro retirement replacing
    rw [replacing] at resting
    cases resting
  awaited := by
    intro retirement replacing
    rw [replacing] at resting
    cases resting
  known := known
  owns := by rw [resting]; rintro ⟨⟩

theorem PhaseOk.resting (resting : t.phase.resting) : d.PhaseOk t := by
  apply PhaseOk.plain <;> cases phase : t.phase <;>
    simp_all [Phase.resting,Phase.exclusive,Phase.storing,Phase.known]

section

variable (guarded : d.Guarded)
include guarded

/-- An operation that holds on to nothing that remains comes to rest. -/
theorem Guarded.rest (operation : d.transition = some t) (unfinished : t.phase.unfinished)
    (keeps : ∀ session, t.phase.session = some session → d.creation session = some .rejected)
    (resting : phase.resting) :
    Guarded {d with transition := some {t with phase := phase}} := by
  apply guarded.enter operation unfinished
  · exact Phase.unfinished_of_resting resting
  · exact fun session holds => .inr (keeps session holds)
  · exact PhaseOk.resting resting

/-- The replaced session is gone: the directory is held for a new one. -/
theorem Guarded.queue (operation : d.transition = some t) {retirement : Nat}
    (phase : t.phase = .replacing retirement) (fulfilled : ∀ disposal, d.disposal retirement = some disposal →
      disposal.bounded = some .fulfilled) :
    Guarded {d with transition := some {t with phase := .queued}} := by
  have ok := guarded.phases t operation
  obtain ⟨disposal,found⟩ := Option.isSome_iff_exists.mp (ok.awaited retirement phase)
  have state :=
    (guarded.disposals retirement disposal found).fulfilled (fulfilled disposal found)
  have clear : d.retirement = none := by
    rcases ok.replacing retirement phase with clear | present
    · exact clear
    · obtain ⟨disposal',found',unretired⟩ := guarded.retiring retirement present
      rw [found] at found'
      cases found'
      exact absurd state unretired
  apply guarded.enter operation (by rw [phase]; rfl) .queued rfl (by rw [phase]; rintro _ ⟨⟩)
  exact {
    settledPrior := by rintro _ ⟨⟩
    exclusive := fun _ => clear
    replacing := by rintro _ ⟨⟩
    awaited := by rintro _ ⟨⟩
    known := by rintro _ ⟨⟩
    owns := fun _ => ok.owns (by rw [phase]; rfl)}

/-- The creation moves between phases that hold on to the same session. -/
theorem Guarded.hold_on (operation : d.transition = some t) (creating : t.phase = .creating session)
    (next : phase = .created session ∨ phase = .late session) :
    Guarded {d with transition := some {t with phase := phase}} := by
  have ok := guarded.phases t operation
  have clear : d.retirement = none := ok.exclusive (by rw [creating]; rfl)
  have known := ok.known session (by rw [creating]; rfl)
  have owns := ok.owns (by rw [creating]; rfl)
  apply guarded.enter operation (by rw [creating]; rfl)
  · rcases next with rfl | rfl <;> rfl
  · rw [creating]
    rcases next with rfl | rfl <;> exact fun _ same => .inl same
  · constructor <;> grind

/-- The factory is called: the directory gets one more creation. -/
theorem Guarded.start_factory
    (operation : d.transition = some t) (queued : t.phase = .queued) (fresh : d.creation session = none) :
    Guarded {d with
      transition := some {t with phase := .creating session}
      creation := fun c => if c = session then some .pending else d.creation c} := by
  have ok := guarded.phases t operation
  have clear : d.retirement = none := ok.exclusive (by rw [queued]; rfl)
  have owns := ok.owns (by rw [queued]; rfl)
  have nothing := (guarded.free operation queued).1
  constructor
  · grind [Tracks]
  · grind [guarded.entry_pending operation (by rw [queued]; rfl)]
  · intro e found pending
    obtain ⟨t',operation',same,plain,_⟩ := guarded.creating e found pending
    grind
  · exact guarded.retiring
  · intro r x found
    have x_ok := guarded.disposals r x found
    refine ⟨x_ok.present,x_ok.retired,x_ok.failed,x_ok.fulfilled,?_,?_⟩
    · grind [x_ok.gone]
    · grind [x_ok.known]
  · rintro t' ⟨⟩
    constructor <;> grind

/-- A pending creation settles, or a session ends. -/
theorem Guarded.advance (made : d.creation session = some old)
    (shrinks : state.remains → old.remains) (ends : old = .disposed → state = .disposed) :
    Guarded {d with creation := fun c => if c = session then some state else d.creation c} := by
  constructor
  · intro c state' made' remains
    have tracked := guarded.tracked c
    grind [Tracks]
  · intro e c found live
    have stored := guarded.stored e c found live
    grind
  · exact guarded.creating
  · exact guarded.retiring
  · intro r x found
    have x_ok := guarded.disposals r x found
    refine ⟨x_ok.present,x_ok.retired,x_ok.failed,x_ok.fulfilled,?_,?_⟩
    · grind [x_ok.gone]
    · grind [x_ok.known]
  · intro t operation
    have ok := guarded.phases t operation
    refine ⟨ok.settledPrior,ok.exclusive,ok.replacing,ok.awaited,?_,ok.owns⟩
    grind [ok.known]

/-- The entry of the operation receives its session. -/
theorem Guarded.store
    (operation : d.transition = some t) (created : t.phase = .created session) (found : d.entry = some e) :
    Guarded {d with
      entry := some {e with session := some session}
      transition := some {t with phase := .settled session}} := by
  have ok := guarded.phases t operation
  have clear : d.retirement = none := ok.exclusive (by rw [created]; rfl)
  have known := ok.known session (by rw [created]; rfl)
  apply guarded.move
  · grind [Tracks,guarded.entry_pending operation (by rw [created]; rfl) found]
  · rintro e session ⟨⟩ ⟨⟩
    exact ⟨clear,known,by rintro t ⟨⟩; rfl⟩
  · rintro e ⟨⟩ ⟨⟩
  · rintro t' ⟨⟩
    apply PhaseOk.plain
    · rintro _ ⟨⟩
    · rfl
    · rfl
    · rintro _ ⟨⟩
      exact known

def startRetirement (d : Directory W I) (retirement : Nat) (disposal : Retirement W I) :
    Directory W I :=
  {d with
    retirement := some retirement
    disposal := fun r => if r = retirement then some disposal else d.disposal r}

/-- A retirement takes over the one session that may remain. -/
theorem Guarded.retire (retirement : Nat) (disposal : Retirement W I)
    (entry : Option (Entry I)) (transition : Option (Transition I))
    (clear : d.retirement = none) (state : disposal.state = .pending) (settled : disposal.settled = none)
    (bounded : disposal.bounded = none) (known : (d.creation disposal.session).isSome)
    (stored : ∀ e session, d.entry = some e → e.session = some session → session = disposal.session)
    (held : ∀ t session, d.transition = some t → t.phase.session = some session → session = disposal.session)
    (creating : ∀ e, entry = some e → e.session = none ∧
      ∃ t, transition = some t ∧ t.token = e.token ∧ t.cleanupPending = false ∧ t.phase.unfinished)
    (phases : ∀ t, transition = some t →
      PhaseOk ({d with entry := entry,transition := transition}.startRetirement retirement disposal) t) :
    Guarded ({d with entry := entry,transition := transition}.startRetirement retirement disposal) := by
  have others := guarded.disposals
  constructor
  · intro session state made remains
    have tracked := guarded.tracked session state made remains
    refine .inr (.inl ⟨retirement,disposal,rfl,if_pos rfl,?_⟩)
    rcases tracked with ⟨e,found,live⟩ | ⟨_,_,present,_⟩ | ⟨t,operation,holds⟩
    · exact (stored e session found live).symm
    · rw [clear] at present
      cases present
    · exact (held t session operation holds).symm
  · intro e session found live
    rw [(creating e found).1] at live
    cases live
  · exact fun e found _ => (creating e found).2
  · rintro r ⟨⟩
    exact ⟨disposal,if_pos rfl,by rw [state]; rintro ⟨⟩⟩
  · intro r x found
    by_cases same : r = retirement
    · constructor <;> simp_all [startRetirement]
    · have found' : d.disposal r = some x := by
        simpa [startRetirement,same] using found
      have ok := others r x found'
      refine ⟨?_,ok.retired,ok.failed,ok.fulfilled,ok.gone,ok.known⟩
      intro unretired
      have present := ok.present unretired
      rw [clear] at present
      cases present
  · exact phases

/-- The record of a retirement changes, but not whether it has retired. -/
theorem Guarded.update {retirement : Nat}
    {disposal disposal' : Retirement W I} (found : d.disposal retirement = some disposal)
    (session : disposal'.session = disposal.session)
    (retired : disposal.state ≠ .retired → disposal'.state ≠ .retired)
    (ok : d.DisposalOk retirement disposal') :
    Guarded {d with
      disposal := fun r => if r = retirement then some disposal' else d.disposal r} := by
  constructor
  · intro c state made remains
    have tracked := guarded.tracked c state made remains
    grind [Tracks]
  · exact guarded.stored
  · exact guarded.creating
  · grind [guarded.retiring]
  · intro r x found'
    by_cases same : r = retirement
    · obtain rfl : disposal' = x := by simpa [same] using found'
      subst same
      exact ⟨ok.present,ok.retired,ok.failed,ok.fulfilled,ok.gone,ok.known⟩
    · have found'' : d.disposal r = some x := by simpa [same] using found'
      have old := guarded.disposals r x found''
      exact ⟨old.present,old.retired,old.failed,old.fulfilled,old.gone,old.known⟩
  · intro t operation
    have phase := guarded.phases t operation
    refine ⟨phase.settledPrior,phase.exclusive,phase.replacing,?_,phase.known,phase.owns⟩
    grind [phase.awaited]

/-- The handler of a fulfilled dispose: the retirement leaves the map. -/
theorem Guarded.retired {retirement : Nat} {disposal : Retirement W I}
    (found : d.disposal retirement = some disposal) (state : disposal.state = .pending)
    (settled : disposal.settled = some true) :
    Guarded {d with
      retirement := none
      disposal := fun r =>
        if r = retirement then some {disposal with state := .retired} else d.disposal r} := by
  have ok := guarded.disposals retirement disposal found
  have present : d.retirement = some retirement := ok.present (by rw [state]; rintro ⟨⟩)
  have gone := ok.gone settled
  constructor
  · intro c state' made remains
    rcases guarded.tracked c state' made remains with live | ⟨r,x,present',found',same⟩ | creating
    · exact .inl live
    · -- the session of this retirement has ended
      grind
    · exact .inr (.inr creating)
  · grind [guarded.stored]
  · exact guarded.creating
  · rintro r ⟨⟩
  · intro r x found'
    by_cases same : r = retirement
    · obtain rfl : {disposal with state := .retired} = x := by simpa [same] using found'
      exact {
        present := fun unretired => absurd rfl unretired
        retired := fun _ => settled
        failed := by rintro ⟨⟩
        fulfilled := fun _ => rfl
        gone := ok.gone
        known := ok.known}
    · have found'' : d.disposal r = some x := by simpa [same] using found'
      have old := guarded.disposals r x found''
      refine ⟨?_,old.retired,old.failed,old.fulfilled,old.gone,old.known⟩
      intro unretired
      have other := old.present unretired
      rw [present] at other
      cases other
      exact absurd rfl same
  · intro t operation
    have phase := guarded.phases t operation
    refine ⟨phase.settledPrior,fun _ => rfl,fun _ _ => .inl rfl,?_,phase.known,phase.owns⟩
    grind [phase.awaited]

theorem Guarded.close : Guarded {d with closed := true} := by
  constructor
  · exact guarded.tracked
  · exact guarded.stored
  · exact guarded.creating
  · exact guarded.retiring
  · intro r x found
    have old := guarded.disposals r x found
    exact ⟨old.present,old.retired,old.failed,old.fulfilled,old.gone,old.known⟩
  · intro t operation
    have phase := guarded.phases t operation
    exact ⟨phase.settledPrior,phase.exclusive,phase.replacing,phase.awaited,phase.known,by rintro _ ⟨⟩⟩

/-- A closed pool forgets the entries that are still being created. -/
theorem Guarded.forget (closed : d.closed)
    (pending : ∀ e, d.entry = some e → e.session = none) : Guarded {d with entry := none} := by
  apply guarded.move
  · grind [Tracks]
  · rintro e session ⟨⟩
  · rintro e ⟨⟩
  · intro t operation
    have phase := guarded.phases t operation
    exact ⟨phase.settledPrior,phase.exclusive,phase.replacing,phase.awaited,phase.known,by grind⟩

end

theorem guarded_new : Guarded (⟨false,none,none,none,fun _ => none,fun _ => none⟩ : Directory W I) := by
  constructor <;> simp

end Directory

end GjcRemote.SessionPool
