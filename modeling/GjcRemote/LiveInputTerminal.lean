import GjcRemote.LiveInputEnds

/-! Every call of the router: an end is the first, until `deliver` lets a second one through. -/
namespace GjcRemote.LiveInput

open List Option Router Runs
variable {E O F : Type}

namespace Router

variable {hooks : Hooks E O F} {p : Router E O F} {c : Nat}

theorem bindOwned_advances (sound : p.Sound hooks []) (live : p.Live r) (below : c < p.nextCohort)
    (token : Nat) : Advances hooks p (p.bindOwned hooks token r c).1 := by
  unfold bindOwned bind
  by_cases free : (p.records r).cohort = none ∨ (p.records r).cohort = some c
  · rw [if_pos free]
    have bound := sound.setCohort live below free
    have same : (p.setCohort r c).Same
        {p.setCohort r c with pending := (p.setCohort r c).pending.filter (· ≠ token)} :=
      ⟨fun _ => rfl,fun _ => rfl,fun _ => rfl,rfl,rfl,rfl,rfl,rfl,rfl,rfl,rfl,rfl⟩
    have calm : Calm hooks (p.setCohort r c)
        {p.setCohort r c with pending := (p.setCohort r c).pending.filter (· ≠ token)} :=
      .frame rfl rfl rfl rfl rfl rfl rfl rfl rfl
    exact (Advances.setCohort hooks free).trans (calm.advances.trans (flushed_advances (same.sound bound) _))
  · rw [if_neg free]
    exact .refl hooks p

theorem bindExecution_advances (sound : p.Sound hooks [])
    (token : Nat) (scope : Option Scope) (promoted : Bool) (owner : Nat) :
    Advances hooks p (p.bindExecution hooks token scope promoted owner).1 := by
  unfold bindExecution
  split
  · exact .refl hooks p
  · rename_i q made
    exact .record sound made
  rename_i q r made
  have recorded := sound.record made
  have live := recorded.live r rfl
  refine (Advances.record sound made).trans ?_
  split
  · split
    · split
      · exact .refl hooks q
      · rename_i c bound
        split
        · exact .refl hooks q
        · have below := recorded.sound.bound r c bound
          have owned := recorded.sound.setOwner below owner
          have same := setBoundary_same (q.setOwner c owner) r
          have calm : Calm hooks (q.setOwner c owner) ((q.setOwner c owner).setBoundary r) :=
            .setRecord _ r rfl rfl rfl
          exact (Calm.setOwner q c owner).advances.trans (calm.advances.trans
            (bindOwned_advances (same.sound owned) live below token))
    · have created := recorded.sound.createCohort none
      have below : q.nextCohort < (q.createCohort none).nextCohort := Nat.lt_succ_self _
      have owned := created.setOwner below owner
      have same := setBoundary_same ((q.createCohort none).setOwner q.nextCohort owner) r
      have calm : Calm hooks ((q.createCohort none).setOwner q.nextCohort owner)
          (((q.createCohort none).setOwner q.nextCohort owner).setBoundary r) :=
        .setRecord _ r rfl rfl rfl
      exact (Advances.createCohort hooks q none).trans ((Calm.setOwner _ _ owner).advances.trans
        (calm.advances.trans (bindOwned_advances (same.sound owned) live below token)))
  · split
    · exact .refl hooks q
    · rename_i c found
      cases bound : (q.records r).cohort with
      | some d =>
        rw [bound] at found
        cases found
        exact bindOwned_advances recorded.sound live (recorded.sound.bound r c bound) token
      | none =>
        rw [bound] at found
        obtain ⟨s,_,bound'⟩ := cohortBefore_bound found
        exact bindOwned_advances recorded.sound live (recorded.sound.bound s c bound') token

theorem finalTerminal_advances (sound : p.Sound hooks []) (c : Nat) (scope : Option Scope) :
    Advances hooks p (p.finalTerminal hooks c scope).1 := by
  unfold finalTerminal
  split
  · exact .refl hooks p
  rename_i known
  split
  · exact .refl hooks p
  · rename_i q made
    exact .record sound made
  rename_i q r made
  have recorded := sound.record made
  refine (Advances.record sound made).trans ?_
  split
  · exact .refl hooks q
  unfold bind
  by_cases free : (q.records r).cohort = none ∨ (q.records r).cohort = some c
  · rw [if_pos free]
    have below : c < q.nextCohort := by
      rw [recorded.nextCohort]
      exact Nat.lt_of_not_le known
    have live := recorded.live r rfl
    have bound := recorded.sound.setCohort live below free
    have advances := flush_advances bound
    refine (Advances.setCohort hooks free).trans ?_
    dsimp only
    split
    · rename_i s fault flushed
      rw [flushed] at advances
      exact advances
    · rename_i s flushed
      rw [flushed] at advances
      obtain ⟨sound',_,follows,_⟩ := bound.flush flushed
      obtain ⟨key,found⟩ := live
      exact advances.trans (.await hooks (sound'.scopes key r (follows.scopes key r found)).1)
  · rw [if_neg free]
    exact .refl hooks q

theorem openPrimary_advances (hooks : Hooks E O F) (p : Router E O F) (owner : Nat)
    (refusal : Option String) : Advances hooks p (p.openPrimary owner refusal).1 := by
  unfold openPrimary
  split
  · exact .refl hooks p
  rename_i q retained
  have opened : Calm hooks (q.createCohort (some owner))
      {q.createCohort (some owner) with primary := some q.nextCohort} :=
    .frame rfl rfl rfl rfl rfl rfl rfl rfl rfl
  exact (retain_calm hooks retained).advances.trans
    ((Advances.createCohort hooks q (some owner)).trans opened.advances)

theorem gate_advances (sound : p.Sound hooks []) (name : Nat) (size : Option Nat) :
    Advances hooks p (p.gate hooks name size).1 := by
  apply gate_cases (P := fun result => Advances hooks p result.1)
  · exact .refl hooks p
  · exact fun _ => .refl hooks p
  · intro owner
    have calm : Calm hooks p (p.present name owner) := .frame rfl rfl rfl rfl rfl rfl rfl rfl rfl
    exact calm.advances
  · intro running cohort q buffered
    have joined := sound.gateJoins running buffered
    obtain ⟨item,bytes,_,rfl⟩ := bufferEvent_ok buffered
    have calm : Calm hooks p {p with buffer := p.buffer ++ [item],bufferBytes := bytes} :=
      .frame rfl rfl rfl rfl rfl rfl rfl rfl rfl
    exact calm.advances.trans (flushed_advances joined none)

theorem setBoundary_advances (hooks : Hooks E O F) (p : Router E O F) (r : Nat) :
    Advances hooks p (p.setBoundary r) :=
  have calm : Calm hooks p (p.setBoundary r) := .setRecord p r rfl rfl rfl
  calm.advances

theorem authorize_advances (hooks : Hooks E O F) (p : Router E O F) (type : EventType)
    (record : Option Nat) : Advances hooks p (p.authorize type record) := by
  unfold authorize
  split
  · exact .refl hooks p
  rename_i r
  dsimp only
  split
  · split
    · have started : Calm hooks p {p with sawPrimaryStart := true} :=
        .frame rfl rfl rfl rfl rfl rfl rfl rfl rfl
      refine (started.advances.trans (setBoundary_advances hooks _ r)).trans ?_
      have same := setBoundary_same {p with sawPrimaryStart := true} r
      split
      · split
        · rename_i unbound
          exact .setCohort hooks (.inl ((same.bindings r).trans unbound))
        · exact .refl hooks _
      · exact .refl hooks _
    · split
      · rename_i unbound
        have same := setBoundary_same (p.createCohort none) r
        exact ((Advances.createCohort hooks p none).trans (setBoundary_advances hooks _ r)).trans
          (.setCohort hooks (.inl ((same.bindings r).trans unbound)))
      · exact .refl hooks p
  · split
    · split
      · rename_i unbound
        exact .setCohort hooks (.inl unbound)
      · exact .refl hooks p
    · exact .refl hooks p
  · exact .refl hooks p

variable {event : E} {record : Option Nat}

theorem forward_advances (sound : p.Sound hooks [⟨.event n event record (record.or p.currentScope),0⟩])
    (running : p.closed = false) (here : p.arrived[n]? = some event)
    (ready : p.Quiet ∨ p.Opens (hooks.type event) record) :
    Advances hooks p (p.forward hooks n event record).1 := by
  have calm := fun event' => hold_calm hooks p n event' record (record.or p.currentScope)
  apply forward_cases (P := fun result => Advances hooks p result.1)
  · intro c q fault owned thrown
    simpa [thrown] using hand_advances sound owned event
  · intro c q owned handed
    have advances := hand_advances sound owned event
    rw [handed] at advances
    have sound' : q.Sound hooks [] := by
      rcases ready with quiet | ⟨r,rfl,starts,undelivered,_⟩
      · have rounded := Rounded.hand sound quiet running owned
        rw [handed] at rounded
        exact rounded.sound
      · rw [hand_start p starts] at handed
        cases handed
        exact ((Same.meet p event (some r) c).sound sound).handed owned fun s same => by cases same; exact .inr ⟨undelivered,event,here,starts⟩
    exact advances.trans (flushed_advances sound' none)
  · intro event' q fault _ _ thrown
    simpa [thrown] using (calm event').advances
  · intro event' q _ _ held
    simpa [held] using (calm event').advances
  · intro r failure _
    have calm : Calm hooks p (p.setRecord r {p.records r with failure := failure}) :=
      .setRecord p r rfl rfl rfl
    exact calm.advances.trans (Calm.logged _ n rfl).advances

theorem route_advances (sound : p.Sound hooks []) (quiet : p.Quiet) (event : E) :
    Advances hooks p (p.route hooks event).1 := by
  have arrived : ∀ q : Router E O F, Advances hooks q {q with arrived := p.arrived ++ [event]} :=
    fun q => (Calm.frame rfl rfl rfl rfl rfl rfl rfl rfl rfl :
      Calm hooks q {q with arrived := p.arrived ++ [event]}).advances
  unfold route
  dsimp only
  split
  · exact (arrived p).trans (Calm.logged _ _ rfl).advances
  rename_i running
  rw [Bool.or_eq_true,not_or,Bool.not_eq_true,Bool.not_eq_true,isNone_eq_false_iff] at running
  obtain ⟨running,active⟩ := running
  rw [record_arrived]
  cases made : p.record (hooks.scope event) with
  | error fault => exact (arrived p).trans (Calm.logged _ _ rfl).advances
  | ok found =>
  obtain ⟨q,record⟩ := found
  have recorded := sound.record made
  have active' : q.primary.isSome := by
    rw [recorded.primary]
    exact active
  have arriving := recorded.sound.arriving active' recorded.live recorded.key
  rw [recorded.arrived] at arriving
  refine ((Advances.record sound made).trans (arrived q)).trans ?_
  dsimp only [Except.map]
  split
  · exact (Calm.logged _ _ rfl).advances
  split
  · exact (Calm.logged _ _ rfl).advances
  obtain ⟨sound',ready,_,books,closed,_⟩ :=
    arriving.forwarding (recorded.quiet quiet) active' recorded.live (hooks.type event)
  have scoped' : Advances hooks (authorize {q with arrived := p.arrived ++ [event]} (hooks.type event) record)
      ((authorize {q with arrived := p.arrived ++ [event]} (hooks.type event)
        record).setCurrentScope (hooks.type event) record) := by
    unfold setCurrentScope
    split
    · exact Calm.advances (.frame rfl rfl rfl rfl rfl rfl rfl rfl rfl)
    · exact .refl hooks _
  refine ((authorize_advances hooks _ _ record).trans scoped').trans (forward_advances sound' ?_ ?_ ready)
  · rw [closed]
    exact recorded.closed.trans running
  · rw [books]
    exact List.getElem?_concat_length

theorem release_advances (refusal : Option String) :
    Advances hooks p (p.release refusal).1 := by
  have calm : Calm hooks p {p with references := p.references - 1} :=
    .frame rfl rfl rfl rfl rfl rfl rfl rfl rfl
  unfold release
  dsimp only
  split
  · exact calm.advances
  split
  · exact calm.advances
  split
  · exact calm.advances
  · exact .cleared rfl rfl rfl rfl rfl rfl rfl (fun _ => rfl) (fun _ => rfl)
      (fun _ => .inl rfl) ⟨[],(append_nil _).symm,nofun⟩

theorem close_advances (hooks : Hooks E O F) (p : Router E O F) : Advances hooks p p.close := by
  have same : ∀ {α : Type} (field : ScopeRecord O F → α), (∀ s : ScopeRecord O F,
      field {s with waiters := []} = field s) → ∀ r,
      field (p.close.records r) = field (p.records r) := by
    intro α field kept r
    change field (if r ∈ p.scopes.entries.map Prod.snd then _ else _) = _
    split
    · exact kept _
    · rfl
  refine .cleared rfl rfl rfl rfl rfl rfl rfl (same _ fun _ => rfl) (same _ fun _ => rfl)
    (fun r => ?_) ⟨_,rfl,fun f member => ?_⟩
  · change (if r ∈ p.scopes.entries.map Prod.snd then _ else _ : ScopeRecord O F).waiters = _ ∨
      (if r ∈ p.scopes.entries.map Prod.snd then _ else _ : ScopeRecord O F).waiters = _
    split
    · exact .inr rfl
    · exact .inl rfl
  · obtain ⟨m,_,rfl⟩ := mem_map.mp member
    rfl

theorem step_advances (sound : p.Sound hooks []) (quiet : p.Quiet) (op : Op E) :
    Advances hooks p (step hooks p op).1 := by
  cases op with
  | openPrimary owner refusal => exact openPrimary_advances hooks p owner refusal
  | expectExecution token refusal =>
    change Advances hooks p (p.expectExecution token refusal).1
    unfold expectExecution
    split
    · exact .refl hooks p
    · rename_i q retained
      exact (retain_calm hooks retained).advances.trans
        (Calm.advances (.frame rfl rfl rfl rfl rfl rfl rfl rfl rfl))
  | forgetExecution token =>
    have same : p.Same {p with pending := p.pending.filter (· ≠ token)} :=
      ⟨fun _ => rfl,fun _ => rfl,fun _ => rfl,rfl,rfl,rfl,rfl,rfl,rfl,rfl,rfl,rfl⟩
    have calm : Calm hooks p {p with pending := p.pending.filter (· ≠ token)} :=
      .frame rfl rfl rfl rfl rfl rfl rfl rfl rfl
    exact calm.advances.trans (flushed_advances (same.sound sound) none)
  | bindExecution token scope promoted owner =>
    exact bindExecution_advances sound token scope promoted owner
  | finalTerminal c scope => exact finalTerminal_advances sound c scope
  | route event => exact route_advances sound quiet event
  | gate name size => exact gate_advances sound name size
  | release refusal => exact release_advances refusal
  | close => exact close_advances hooks p

theorem ended_new (hooks : Hooks E O F) : (new : Router E O F).Ended hooks where
  unborn _ _ := rfl
  running _ _ := rfl
  promise _ finished := by cases finished
  owned _ finished := by cases finished
  endings _ := rfl
  settlings _ := rfl
  settled _ settled := by cases settled
  fresh _ _ := ⟨rfl,rfl⟩
  asked _ _ asked := by cases asked
  waiting _ := ⟨nodup_nil,nofun⟩
  told _ _ asked := by cases asked
  patient _ _ asked := by cases asked
  numbered _ _ member := by cases member

def destination (hooks : Hooks E O F) (p : Router E O F) (event : E) : Option Nat :=
  match scopeKey (hooks.scope event) with
  | some key => (p.scopes.get key).bind fun r => (p.records r).cohort
  | none =>
    match p.currentScope with
    | some t => (p.records t).cohort
    | none => p.primary

/-- A terminal that is led to a run that has ended makes the router fail. -/
theorem forward_ended (ends : hooks.isTerminal event)
    (led : p.ownedCohort (record.or p.currentScope) = some c) (finished : (p.states c).ended)
    (sound : p.Sound hooks [⟨.event n event record (record.or p.currentScope),0⟩]) (quiet : p.Quiet)
    (running : p.closed = false) (careful : Careful hooks (p.forward hooks n event record).1.handings) :
    ∃ fault, (p.forward hooks n event record).2 = .error fault := by
  have rounded := Rounded.hand sound quiet running led
  unfold forward at careful ⊢
  dsimp only at careful ⊢
  rw [led] at careful ⊢
  dsimp only at careful ⊢
  cases handed : p.hand hooks n event record c with
  | mk q fault =>
    cases fault with
    | some fault => exact ⟨fault,rfl⟩
    | none =>
      rw [handed] at rounded careful
      -- the call has let it through
      have called : p.handing event record c ∈ q.handings ∧
          ((p.states c).ended = false ∨ (p.handing event record c).overwrites hooks) := by
        unfold hand at handed
        dsimp only at handed
        split at handed
        · rename_i r delivered
          cases handed
          refine ⟨?_,(deliver_terminal ends delivered).1⟩
          change p.handing event record c ∈ r.handings
          rw [handings_deliver delivered]
          exact mem_append_right _ mem_cons_self
        · cases handed
      have later := (flushed_advances rounded.sound none).handings
      have fine := careful _ (later.subset called.1)
      rcases called.2 with still | through
      · rw [finished] at still
        cases still
      · rw [through] at fine
        cases fine

theorem record_known (keyed : scopeKey scope = some key) (found : p.scopes.get key = some r) :
    p.record scope = .ok (p,some r) := by
  unfold record
  rw [keyed]
  dsimp only
  rw [found]

theorem record_unscoped (unscoped : scopeKey scope = none) :
    p.record scope = .ok (p,none) := by
  unfold record
  rw [unscoped]

theorem authorize_end (p : Router E O F) (record : Option Nat) :
    (p.authorize .agentEnd record).setCurrentScope .agentEnd record = p := by
  cases record <;> rfl

/-- The way of a terminal event whose scope, if it has one, is known. -/
theorem route_terminal
    (ends : hooks.isTerminal event) (running : p.closed = false) (active : p.primary.isSome)
    (made : p.record (hooks.scope event) = .ok (p,record)) :
    p.route hooks event = if record.isNone && (1 < p.references || 1 < p.cohorts.length) then
        ((({p with arrived := p.arrived ++ [event]} : Router E O F).log p.arrived.length .failed),
          .error .unscopedTerminal)
      else if record.isNone && 1 < p.candidates.length then
        ((({p with arrived := p.arrived ++ [event]} : Router E O F).log p.arrived.length
          (.dropped .overlapping)),.ok none)
      else forward hooks {p with arrived := p.arrived ++ [event]} p.arrived.length event record := by
  have type : hooks.type event = .agentEnd := by
    unfold Hooks.isTerminal at ends
    rw [Bool.and_eq_true,decide_eq_true_eq] at ends
    exact ends.1
  have open' : ¬(p.closed || p.primary.isNone) := by
    rw [running,isNone_eq_false_iff.mpr active]
    exact Bool.false_ne_true
  unfold route
  rw [if_neg open',record_arrived,made]
  dsimp only [Except.map]
  rw [type,authorize_end,ends,Bool.and_true]
  rfl

theorem route_ended (sound : p.Sound hooks []) (quiet : p.Quiet) (ended : p.Ended hooks)
    (ends : hooks.isTerminal event) (running : p.closed = false) (active : p.primary.isSome)
    (led : p.destination hooks event = some c) (finished : (p.states c).ended)
    (careful : Careful hooks (p.route hooks event).1.handings) :
    ∃ fault, (p.route hooks event).2 = .error fault := by
  obtain ⟨record,made,target⟩ : ∃ record, p.record (hooks.scope event) = .ok (p,record) ∧
      p.ownedCohort (record.or p.currentScope) = some c := by
    unfold destination at led
    split at led
    · rename_i key keyed
      obtain ⟨r,found,bound⟩ := bind_eq_some_iff.mp led
      exact ⟨some r,record_known keyed found,filter_eq_some_iff.mpr ⟨bound,ended.owned c finished⟩⟩
    · rename_i unscoped
      refine ⟨none,record_unscoped unscoped,?_⟩
      cases current : p.currentScope with
      | some t =>
        rw [current] at led
        exact filter_eq_some_iff.mpr ⟨led,ended.owned c finished⟩
      | none =>
        rw [current] at led
        exact filter_eq_some_iff.mpr ⟨led,ended.owned c finished⟩
  have recorded := sound.record made
  have arriving := recorded.sound.arriving active recorded.live recorded.key
  have routed := route_terminal ends running active made
  rw [routed] at careful ⊢
  split
  · exact ⟨_,rfl⟩
  rename_i alone
  rw [if_neg alone] at careful
  split
  · -- an unscoped terminal is refused before, where several runs are live
    rename_i overlapping
    rw [Bool.and_eq_true,decide_eq_true_eq] at overlapping
    exfalso
    apply alone
    have longer : 1 < p.cohorts.length :=
      Nat.lt_of_lt_of_le overlapping.2 (length_filter_le _ _)
    rw [overlapping.1,decide_eq_true longer,Bool.or_true]
    rfl
  rename_i single
  rw [if_neg single] at careful
  have aimed : Sound hooks {p with arrived := p.arrived ++ [event]}
      [⟨.event p.arrived.length event record (record.or p.currentScope),0⟩] := by
    refine arriving.aimed active (by rintro r rfl; rfl) fun t here => ?_
    cases record with
    | none => exact sound.currentScope t here
    | some r =>
      cases here
      exact recorded.live _ rfl
  exact forward_ended ends target finished aimed quiet running careful

/-- What a run keeps. -/
theorem run_advances (sound : p.Sound hooks [] ∧ p.Quiet) (ops : List (Op E)) :
    Advances hooks p (Runs.run (step hooks) p ops) := by
  induction ops generalizing p with
  | nil => exact .refl hooks p
  | cons op rest ih =>
    have kept := step_kept sound.1 sound.2 op
    exact (step_advances sound.1 sound.2 op).trans (ih ⟨kept.sound,kept.quiet⟩)

/-- What each call of a run finds. -/
theorem visits_ended (sound : p.Sound hooks [] ∧ p.Quiet) (ended : p.Ended hooks)
    (careful : Careful hooks (Runs.run (step hooks) p ops).handings) :
    ∀ visit ∈ visits (step hooks) p ops, visit.1.Sound hooks [] ∧ visit.1.Quiet ∧
      visit.1.Ended hooks ∧ Careful hooks (step hooks visit.1 visit.2).1.handings := by
  induction ops generalizing p with
  | nil => exact fun visit member => absurd member not_mem_nil
  | cons op rest ih =>
    have kept := step_kept sound.1 sound.2 op
    have later := run_advances ⟨kept.sound,kept.quiet⟩ rest
    have careful' := careful.mono later.handings
    refine forall_mem_cons.mpr ⟨⟨sound.1,sound.2,ended,careful'⟩,?_⟩
    exact ih ⟨kept.sound,kept.quiet⟩ ((step_advances sound.1 sound.2 op).once careful' ended).1 careful

end Router

/-- From the first calls on, what has ended has ended for good: the outcome, the final key and
the terminal of a scope stay, the promise has the outcome, a scope with a terminal is bound to
a cohort that has ended, whoever waits is told the terminal once, no second terminal is applied,
and one that arrives makes the router fail. -/
structure EndsOnce (hooks : Hooks E O F) (before after : List (Op E)) : Prop where
  cohorts : ∀ c, ((run hooks before).states c).ended →
    ((run hooks (before ++ after)).states c).ended ∧
    ((run hooks (before ++ after)).states c).finalKey = ((run hooks before).states c).finalKey ∧
    ((run hooks (before ++ after)).states c).outcome = ((run hooks before).states c).outcome
  promises : ∀ c, ((run hooks (before ++ after)).states c).ended →
    ((run hooks (before ++ after)).states c).outcome.isSome ∧
    ((run hooks (before ++ after)).states c).terminal = ((run hooks (before ++ after)).states c).outcome
  terminals : ∀ r outcome, ((run hooks before).records r).terminal = some outcome →
    ((run hooks (before ++ after)).records r).terminal = some outcome
  scopes : ∀ r, ((run hooks (before ++ after)).records r).terminal.isSome →
    ∃ c, ((run hooks (before ++ after)).records r).cohort = some c ∧
      ((run hooks (before ++ after)).states c).ended
  waiters : ∀ w r : Nat, (run hooks (before ++ after)).awaited[w]? = some r →
    answers w (run hooks (before ++ after)).resolved = ((run hooks (before ++ after)).records r).terminal.toList
  endings : ∀ c, (run hooks (before ++ after)).fates.countP (fun f => f.2.ends hooks c) ≤ 1
  settlings : ∀ r, (run hooks (before ++ after)).fates.countP (fun f => f.2.settles hooks r) ≤ 1
  refused : ∀ visit ∈ visits (step hooks) .new (before ++ after), ∀ event c,
    visit.2 = .route event → hooks.isTerminal event = true → visit.1.closed = false →
    visit.1.primary.isSome → visit.1.destination hooks event = some c →
    (visit.1.states c).ended → ∃ fault, (step hooks visit.1 visit.2).2 = .error fault

/-- A run ends once if and only if none of its calls of `deliver` finds an ended cohort whose
final key is the one of the record, with no terminal there. -/
theorem live_input_ends_once (hooks : Hooks E O F) (before after : List (Op E)) :
    EndsOnce hooks before after ↔ Careful hooks (run hooks (before ++ after)).handings := by
  have start : (new : Router E O F).Sound hooks [] ∧ (new : Router E O F).Quiet :=
    ⟨sound_new hooks,by rintro n e record target size ⟨⟩⟩
  constructor
  · intro endsOnce
    by_contra careless
    obtain ⟨c,two⟩ := (run_advances start _).twice (by rintro h ⟨⟩) (ended_new hooks) careless
    exact absurd (endsOnce.endings c) (Nat.not_le.mpr two)
  · intro careful
    have visited := visits_ended start (ended_new hooks) careful
    have split : run hooks (before ++ after) =
        run (step hooks) (run hooks before) after := run_append _ _ _ _
    have later := run_advances (sound_run hooks before) after
    rw [← split] at later
    obtain ⟨ended,_⟩ := (run_advances start before).once (careful.mono later.handings) (ended_new hooks)
    obtain ⟨ended',stable⟩ := later.once careful ended
    refine ⟨fun c finished => ⟨stable.ended c finished,stable.finalKey c finished,
      stable.outcome c finished⟩,ended'.promise,stable.terminal,ended'.settled,ended'.told,
      fun c => ?_,fun r => ?_,?_⟩
    · rw [ended'.endings]
      split <;> omega
    · rw [ended'.settlings]
      split <;> omega
    · intro visit member event c call ends running active led finished
      obtain ⟨sound,quiet,ended,careful⟩ := visited visit member
      rw [call] at careful ⊢
      exact route_ended sound quiet ended ends running active led finished careful

/-- A start and terminal events of one scope or of none, each its own outcome. -/
def numberedEnds (scope : Option Scope) : Hooks Nat Nat Unit where
  type event := if event = 0 then .agentStart else .agentEnd
  scope _ := scope
  continues _ := false
  classifyTerminal event _ := event
  sanitizeFailure _ := ()
  failed _ := 0
  snapshot event := some (event,4)

/-- The second terminal without a scope overwrites the outcome of the first; and so does the
terminal of a scope that is used again, after the last release, for the run that has ended. -/
theorem second_end :
    ¬EndsOnce (numberedEnds none) [.openPrimary 0 none,.route 1] [.route 2] ∧
    ¬EndsOnce (numberedEnds (oneScope.scope .other)) [.openPrimary 0 none,.route 0,.route 1]
      [.release none,.openPrimary 1 none,.finalTerminal 0 (oneScope.scope .other),.route 2] := by
  refine ⟨fun endsOnce => ?_,fun endsOnce => ?_⟩
  · have kept := (endsOnce.cohorts 0 rfl).2.2
    cases kept
  · have kept := (endsOnce.cohorts 0 rfl).2.2
    cases kept

end GjcRemote.LiveInput
