import GjcRemote.LiveInputDelivery

/-! How a run ends: what its terminal does to the cohort, to the scope and to those that wait
for it, and which calls of `deliver` let a second terminal through. -/
namespace GjcRemote.LiveInput

open List Bool Router
variable {E O F : Type}

section

variable (hooks : Hooks E O F)

def Fate.terminal : Fate E → Bool
  | .delivered _ _ event => hooks.isTerminal event
  | _ => false

def Fate.ends (c : Nat) : Fate E → Bool
  | .delivered d _ event => d = c && hooks.isTerminal event
  | _ => false

/-- A terminal event of the scope record was delivered. -/
def Fate.settles (r : Nat) : Fate E → Bool
  | .delivered _ (some s) event => s = r && hooks.isTerminal event
  | _ => false

def answers (w : Nat) : List (Nat × O) → List O
  | [] => []
  | (v,outcome) :: rest => if v = w then outcome :: answers w rest else answers w rest

/-- The cohort has ended, and neither of the two checks of `deliver` stops the terminal: the
final key of the cohort is the key of the record, or there is neither, and the record has no
terminal. -/
def Handing.overwrites (h : Handing E O F) : Bool :=
  hooks.isTerminal h.event && h.cohort.ended &&
    decide (h.cohort.finalKey = h.record.map ScopeRecord.key) &&
    (h.record.bind ScopeRecord.terminal).isNone

def Careful (handings : List (Handing E O F)) : Prop := ∀ h ∈ handings, h.overwrites hooks = false

end

theorem Careful.mono (careful : Careful hooks second) (before : first <+: second) : Careful hooks first :=
  fun h member => careful h (before.subset member)

theorem answers_append (w : Nat) (first second : List (Nat × O)) :
    answers w (first ++ second) = answers w first ++ answers w second := by
  induction first with
  | nil => rfl
  | cons entry rest ih =>
    rw [cons_append,answers,answers,ih]
    split <;> rfl

/-- Each waiter of a scope is told its terminal, and nobody else. -/
theorem answers_waiters (w : Nat) (waiters : List Nat) (distinct : waiters.Nodup) (outcome : O) :
    answers w (waiters.map fun v => (v,outcome)) = if w ∈ waiters then [outcome] else [] := by
  induction waiters with
  | nil => rfl
  | cons v rest ih =>
    obtain ⟨apart,distinct⟩ := nodup_cons.mp distinct
    rw [map_cons,answers,ih distinct]
    by_cases here : v = w
    · rw [if_pos here,if_neg (here ▸ apart),if_pos (here ▸ mem_cons_self)]
    · rw [if_neg here]
      by_cases later : w ∈ rest
      · rw [if_pos later,if_pos (mem_cons_of_mem _ later)]
      · rw [if_neg later,if_neg]
        rintro member
        rcases mem_cons.mp member with same | member
        · exact here same.symm
        · exact later member

theorem answers_unknown {resolved : List (Nat × O)}
    (unknown : ∀ o, (w,o) ∉ resolved) : answers w resolved = [] := by
  induction resolved with
  | nil => rfl
  | cons entry rest ih =>
    obtain ⟨v,outcome⟩ := entry
    rw [answers,if_neg]
    · exact ih fun o member => unknown o (mem_cons_of_mem _ member)
    · rintro rfl
      exact unknown outcome mem_cons_self

namespace Router

/-- Every end so far was the first, and those who wait for it know. -/
structure Ended (hooks : Hooks E O F) (p : Router E O F) : Prop where
  unborn : ∀ c, p.nextCohort ≤ c → (p.states c).ended = false
  running : ∀ c, (p.states c).ended = false → (p.states c).terminal = none
  promise : ∀ c, (p.states c).ended → (p.states c).outcome.isSome ∧
    (p.states c).terminal = (p.states c).outcome
  owned : ∀ c, (p.states c).ended → (p.states c).owner.isSome
  endings : ∀ c, (p.fates.countP fun f => f.2.ends hooks c) = if (p.states c).ended then 1 else 0
  settlings : ∀ r, (p.fates.countP fun f => f.2.settles hooks r) =
    if (p.records r).terminal.isSome then 1 else 0
  settled : ∀ r, (p.records r).terminal.isSome →
    ∃ c, (p.records r).cohort = some c ∧ (p.states c).ended
  fresh : ∀ r, p.nextRecord ≤ r → (p.records r).terminal = none ∧ (p.records r).waiters = []
  asked : ∀ (w r : Nat), p.awaited[w]? = some r → r < p.nextRecord
  waiting : ∀ r, (p.records r).waiters.Nodup ∧ ∀ w ∈ (p.records r).waiters,
    p.awaited[w]? = some r ∧ (p.records r).terminal = none
  told : ∀ (w r : Nat), p.awaited[w]? = some r →
    answers w p.resolved = (p.records r).terminal.toList
  patient : ∀ (w r : Nat), p.awaited[w]? = some r → p.Live r → (p.records r).terminal = none →
    w ∈ (p.records r).waiters
  numbered : ∀ w o, (w,o) ∈ p.resolved → w < p.awaited.length

structure Stable (p q : Router E O F) : Prop where
  ended : ∀ c, (p.states c).ended → (q.states c).ended
  finalKey : ∀ c, (p.states c).ended → (q.states c).finalKey = (p.states c).finalKey
  outcome : ∀ c, (p.states c).ended → (q.states c).outcome = (p.states c).outcome
  terminal : ∀ r o, (p.records r).terminal = some o → (q.records r).terminal = some o

theorem Stable.refl (p : Router E O F) : p.Stable p :=
  ⟨fun _ => id,fun _ _ => rfl,fun _ _ => rfl,fun _ _ => id⟩

theorem Stable.trans {p q r : Router E O F} (first : p.Stable q) (second : q.Stable r) :
    p.Stable r where
  ended c here := second.ended c (first.ended c here)
  finalKey c here := (second.finalKey c (first.ended c here)).trans (first.finalKey c here)
  outcome c here := (second.outcome c (first.ended c here)).trans (first.outcome c here)
  terminal s o here := second.terminal s o (first.terminal s o here)

/-- A step after which everything that ends still ends once, as long as no call of `deliver`
lets a second terminal through, and some cohort has ended twice otherwise. -/
structure Advances (hooks : Hooks E O F) (p q : Router E O F) : Prop where
  fates : p.fates <+: q.fates
  handings : p.handings <+: q.handings
  once : Careful hooks q.handings → p.Ended hooks → q.Ended hooks ∧ p.Stable q
  twice : Careful hooks p.handings → p.Ended hooks → ¬Careful hooks q.handings →
    ∃ c, 1 < q.fates.countP fun f => f.2.ends hooks c

/-- A step that calls `deliver` with care. -/
theorem Advances.careful (fates : p.fates <+: q.fates) (handings : p.handings <+: q.handings)
    (same : Careful hooks p.handings → Careful hooks q.handings)
    (once : p.Ended hooks → q.Ended hooks ∧ p.Stable q) : Advances hooks p q :=
  ⟨fates,handings,fun _ => once,fun careful _ careless => absurd (same careful) careless⟩

theorem Advances.refl (hooks : Hooks E O F) (p : Router E O F) : Advances hooks p p :=
  .careful (prefix_refl _) (prefix_refl _) id fun ended => ⟨ended,.refl p⟩

variable {hooks : Hooks E O F}

theorem Advances.trans (first : Advances hooks p q)
    (second : Advances hooks q r) : Advances hooks p r where
  fates := first.fates.trans second.fates
  handings := first.handings.trans second.handings
  once careful ended := by
    obtain ⟨ended,stable⟩ := first.once (careful.mono second.handings) ended
    obtain ⟨ended,stable'⟩ := second.once careful ended
    exact ⟨ended,stable.trans stable'⟩
  twice careful ended careless := by
    by_cases middle : Careful hooks q.handings
    · exact second.twice middle (first.once middle ended).1 careless
    · obtain ⟨c,two⟩ := first.twice careful ended middle
      exact ⟨c,Nat.lt_of_lt_of_le two second.fates.sublist.countP_le⟩

structure Calm (hooks : Hooks E O F) (p q : Router E O F) : Prop where
  scopes : q.scopes = p.scopes
  nextRecord : q.nextRecord = p.nextRecord
  nextCohort : q.nextCohort = p.nextCohort
  awaited : q.awaited = p.awaited
  resolved : q.resolved = p.resolved
  bindings : ∀ r, (q.records r).cohort = (p.records r).cohort
  terminals : ∀ r, (q.records r).terminal = (p.records r).terminal
  waiters : ∀ r, (q.records r).waiters = (p.records r).waiters
  ended : ∀ c, (q.states c).ended = (p.states c).ended
  finalKey : ∀ c, (q.states c).finalKey = (p.states c).finalKey
  outcome : ∀ c, (q.states c).outcome = (p.states c).outcome
  promise : ∀ c, (q.states c).terminal = (p.states c).terminal
  owners : ∀ c, (p.states c).owner.isSome → (q.states c).owner.isSome
  fates : ∃ more, q.fates = p.fates ++ more ∧ ∀ f ∈ more, f.2.terminal hooks = false
  handings : ∃ more, q.handings = p.handings ++ more ∧ Careful hooks more

theorem countP_more {more : List (Nat × Fate E)} {hooks : Hooks E O F}
    (quiet : ∀ f ∈ more, f.2.terminal hooks = false) {counts : Fate E → Bool}
    (implies : ∀ fate, counts fate → fate.terminal hooks) :
    (more.countP fun f => counts f.2) = 0 := by
  apply countP_eq_zero.mpr
  intro f member counted
  have none := quiet f member
  rw [implies f.2 counted] at none
  cases none

theorem ends_terminal (fate : Fate E)
    (ends : fate.ends hooks c) : fate.terminal hooks := by
  cases fate with
  | delivered d record event => exact (and_eq_true _ _ ▸ ends : _ ∧ _).2
  | _ => cases ends

theorem settles_terminal (fate : Fate E)
    (settles : fate.settles hooks r) : fate.terminal hooks := by
  cases fate with
  | delivered d record event =>
    cases record with
    | none => cases settles
    | some s => exact (and_eq_true _ _ ▸ settles : _ ∧ _).2
  | _ => cases settles

theorem Careful.append (start : Careful hooks first) (more : Careful hooks second) :
    Careful hooks (first ++ second) :=
  fun h member => (mem_append.mp member).elim (start h) (more h)

theorem Calm.advances (calm : Calm hooks p q) :
    Advances hooks p q := by
  obtain ⟨more,books,quiet⟩ := calm.fates
  obtain ⟨calls,called,careful⟩ := calm.handings
  have counts : ∀ {counts : Fate E → Bool}, (∀ fate, counts fate → fate.terminal hooks) →
      (q.fates.countP fun f => counts f.2) = p.fates.countP fun f => counts f.2 := by
    intro counts implies
    rw [books,countP_append,countP_more quiet implies,Nat.add_zero]
  have live : ∀ r, q.Live r → p.Live r := by
    rintro r ⟨key,found⟩
    exact ⟨key,by rw [← calm.scopes]; exact found⟩
  refine .careful ⟨more,books.symm⟩ ⟨calls,called.symm⟩ (fun before => ?_) fun ended => ⟨?_,?_⟩
  · rw [called]
    exact Careful.append before careful
  · refine ⟨?_,?_,?_,?_,?_,?_,?_,?_,?_,?_,?_,?_,?_⟩
    · intro c
      rw [calm.nextCohort,calm.ended]
      exact ended.unborn c
    · intro c
      rw [calm.ended,calm.promise]
      exact ended.running c
    · intro c
      rw [calm.ended,calm.outcome,calm.promise]
      exact ended.promise c
    · intro c
      rw [calm.ended]
      exact fun here => calm.owners c (ended.owned c here)
    · intro c
      rw [calm.ended,counts ends_terminal]
      exact ended.endings c
    · intro r
      rw [calm.terminals,counts settles_terminal]
      exact ended.settlings r
    · intro r
      rw [calm.terminals,calm.bindings]
      simp only [calm.ended]
      exact ended.settled r
    · intro r
      rw [calm.nextRecord,calm.terminals,calm.waiters]
      exact ended.fresh r
    · rw [calm.awaited,calm.nextRecord]
      exact ended.asked
    · intro r
      rw [calm.waiters,calm.awaited,calm.terminals]
      exact ended.waiting r
    · intro w r
      rw [calm.awaited,calm.resolved,calm.terminals]
      exact ended.told w r
    · intro w r
      rw [calm.awaited,calm.terminals,calm.waiters]
      exact fun asked here => ended.patient w r asked (live r here)
    · rw [calm.resolved,calm.awaited]
      exact ended.numbered
  · exact ⟨fun c here => (calm.ended c).trans here,fun c _ => calm.finalKey c,
      fun c _ => calm.outcome c,fun r o here => (calm.terminals r).trans here⟩

theorem Advances.record {record : Option Nat} (sound : p.Sound hooks line)
    (made : p.record scope = .ok (q,record)) : Advances hooks p q := by
  unfold Router.record at made
  split at made
  · cases made
    exact .refl hooks p
  rename_i key _
  split at made
  · cases made
    exact .refl hooks p
  split at made
  · cases made
  cases made
  refine .careful (prefix_refl _) (prefix_refl _) id fun ended => ?_
  have bindings : ∀ r, (if r = p.nextRecord then ScopeRecord.fresh key else p.records r :
      ScopeRecord O F).cohort = (p.records r).cohort := by
    intro r
    split
    · rename_i here
      rw [here,sound.fresh _ (Nat.le_refl _)]
      rfl
    · rfl
  have terminals : ∀ r, (if r = p.nextRecord then ScopeRecord.fresh key else p.records r :
      ScopeRecord O F).terminal = (p.records r).terminal := by
    intro r
    split
    · rename_i here
      rw [here,(ended.fresh _ (Nat.le_refl _)).1]
      rfl
    · rfl
  have waiters : ∀ r, (if r = p.nextRecord then ScopeRecord.fresh key else p.records r :
      ScopeRecord O F).waiters = (p.records r).waiters := by
    intro r
    split
    · rename_i here
      rw [here,(ended.fresh _ (Nat.le_refl _)).2]
      rfl
    · rfl
  have live : ∀ k r, (p.scopes.set key p.nextRecord).get k = some r → r = p.nextRecord ∨ p.Live r := by
    intro k r found
    rw [OrderedMap.get_set] at found
    split at found
    · cases found
      exact .inl rfl
    · exact .inr ⟨k,found⟩
  constructor
  · exact {ended with
      settlings := fun r => by
        rw [terminals]
        exact ended.settlings r
      settled := fun r => by
        rw [terminals,bindings]
        exact ended.settled r
      fresh := fun r beyond => by
        rw [terminals,waiters]
        exact ended.fresh r (Nat.le_of_succ_le beyond)
      asked := fun w r here => Nat.lt_succ_of_lt (ended.asked w r here)
      waiting := fun r => by
        rw [terminals,waiters]
        exact ended.waiting r
      told := fun w r here => by
        rw [terminals]
        exact ended.told w r here
      patient := fun w r here found => by
        rw [terminals,waiters]
        obtain ⟨k,found⟩ := found
        rcases live k r found with new | old
        · exact absurd (ended.asked w r here) (by rw [new]; exact Nat.lt_irrefl _)
        · exact ended.patient w r here old}
  · exact ⟨fun _ => id,fun _ _ => rfl,fun _ _ => rfl,fun r o here => (terminals r).trans here⟩

theorem Advances.setCohort (hooks : Hooks E O F)
    (free : (p.records r).cohort = none ∨ (p.records r).cohort = some c) :
    Advances hooks p (p.setCohort r c) := by
  have cohorts : ∀ s, ((p.setCohort r c).records s).cohort =
      if s = r then some c else (p.records s).cohort := by
    intro s
    change (if s = r then _ else p.records s).cohort = _
    split <;> rfl
  have terminals : ∀ s, ((p.setCohort r c).records s).terminal = (p.records s).terminal := by
    intro s
    change (if s = r then _ else p.records s).terminal = _
    split
    · rename_i here
      rw [here]
    · rfl
  have waiters : ∀ s, ((p.setCohort r c).records s).waiters = (p.records s).waiters := by
    intro s
    change (if s = r then _ else p.records s).waiters = _
    split
    · rename_i here
      rw [here]
    · rfl
  refine .careful (prefix_refl _) (prefix_refl _) id fun ended =>
    ⟨?_,⟨fun _ => id,fun _ _ => rfl,fun _ _ => rfl,fun s o here => (terminals s).trans here⟩⟩
  exact {ended with
    settlings := fun s => by
      rw [terminals]
      exact ended.settlings s
    settled := fun s here => by
      rw [terminals] at here
      obtain ⟨d,bound,finished⟩ := ended.settled s here
      refine ⟨d,?_,finished⟩
      rw [cohorts]
      split
      · rename_i same
        rw [same] at bound
        rcases free with free | free
        · rw [free] at bound
          cases bound
        · exact free.symm.trans bound
      · exact bound
    fresh := fun s => by
      rw [terminals,waiters]
      exact ended.fresh s
    waiting := fun s => by
      rw [terminals,waiters]
      exact ended.waiting s
    told := fun w s => by
      rw [terminals]
      exact ended.told w s
    patient := fun w s => by
      rw [terminals,waiters]
      exact ended.patient w s}

theorem Advances.createCohort (hooks : Hooks E O F) (p : Router E O F) (owner : Option Nat) :
    Advances hooks p (p.createCohort owner) := by
  have older : ∀ c, c ≠ p.nextCohort → (p.createCohort owner).states c = p.states c :=
    fun c ne => if_neg ne
  have newest : (p.createCohort owner).states p.nextCohort = .fresh owner := if_pos rfl
  refine .careful (prefix_refl _) (prefix_refl _) id fun ended => ?_
  have same : ∀ c, ((p.createCohort owner).states c).ended = (p.states c).ended := by
    intro c
    by_cases new : c = p.nextCohort
    · rw [new,newest,ended.unborn _ (Nat.le_refl _)]
      rfl
    · rw [older c new]
  have old : ∀ c, (p.states c).ended → (p.createCohort owner).states c = p.states c := by
    intro c here
    apply older
    rintro rfl
    rw [ended.unborn _ (Nat.le_refl _)] at here
    cases here
  constructor
  · exact {ended with
      unborn := fun c beyond => by
        rw [same]
        exact ended.unborn c (Nat.le_of_succ_le beyond)
      running := fun c here => by
        by_cases new : c = p.nextCohort
        · rw [new,newest]
          rfl
        · rw [older c new] at here ⊢
          exact ended.running c here
      promise := fun c here => by
        rw [same] at here
        rw [old c here]
        exact ended.promise c here
      owned := fun c here => by
        rw [same] at here
        rw [old c here]
        exact ended.owned c here
      endings := fun c => by
        rw [same]
        exact ended.endings c
      settled := fun r here => by
        obtain ⟨c,bound,finished⟩ := ended.settled r here
        exact ⟨c,bound,(same c).trans finished⟩}
  · exact ⟨fun c here => (same c).trans here,fun c here => by rw [old c here],
      fun c here => by rw [old c here],fun _ _ => id⟩

theorem getElem_concat {l : List Nat} (here : (l ++ [a])[w]? = some x) :
    l[w]? = some x ∨ w = l.length ∧ x = a := by
  rcases Nat.lt_trichotomy w l.length with below | same | beyond
  · rw [getElem?_append_left below] at here
    exact .inl here
  · rw [same,getElem?_concat_length] at here
    exact .inr ⟨same,(Option.some.inj here).symm⟩
  · rw [getElem?_append_right (Nat.le_of_lt beyond)] at here
    have none : [a][w - l.length]? = none := by
      apply getElem?_eq_none
      rw [length_singleton]
      omega
    rw [none] at here
    cases here

theorem Ended.unanswered {p : Router E O F} (ended : p.Ended hooks) :
    answers p.awaited.length p.resolved = [] :=
  answers_unknown fun o member => Nat.lt_irrefl _ (ended.numbered _ o member)

section

variable {p : Router E O F}

theorem Ended.asked_concat {w s : Nat} (ended : p.Ended hooks) (known : r < p.nextRecord)
    (here : (p.awaited ++ [r])[w]? = some s) : s < p.nextRecord := by
  rcases getElem_concat here with old | ⟨_,rfl⟩
  · exact ended.asked w s old
  · exact known

theorem Ended.waiting_concat (ended : p.Ended hooks) (r : Nat) (member : w ∈ (p.records s).waiters) :
    (p.awaited ++ [r])[w]? = some s ∧ (p.records s).terminal = none := by
  obtain ⟨here,unsettled⟩ := (ended.waiting s).2 w member
  rw [List.getElem?_append_left (List.getElem?_eq_some_iff.mp here).1]
  exact ⟨here,unsettled⟩

/-- Who asks for a terminal that is there is told at once. -/
theorem Ended.await_settled (ended : p.Ended hooks) (known : r < p.nextRecord)
    (settled : (p.records r).terminal = some outcome) : Ended hooks {p with
      awaited := p.awaited ++ [r]
      resolved := p.resolved ++ [(p.awaited.length,outcome)]} :=
  {ended with
    asked := fun w s here => ended.asked_concat known here
    waiting := fun s => ⟨(ended.waiting s).1,fun w member => ended.waiting_concat r member⟩
    told := fun w s here => by
      rw [answers_append]
      rcases getElem_concat here with old | ⟨rfl,rfl⟩
      · rw [answers,if_neg,ended.told w s old]
        · exact append_nil _
        · rintro rfl
          exact absurd (List.getElem?_eq_some_iff.mp old).1 (Nat.lt_irrefl _)
      · rw [ended.unanswered,settled,answers,if_pos rfl]
        rfl
    patient := fun w s here live unsettled => by
      rcases getElem_concat here with old | ⟨_,rfl⟩
      · exact ended.patient w s old live unsettled
      · rw [settled] at unsettled
        cases unsettled
    numbered := fun w o member => by
      rw [length_append,length_singleton]
      rcases mem_append.mp member with old | new
      · exact Nat.lt_succ_of_lt (ended.numbered w o old)
      · cases mem_singleton.mp new
        exact Nat.lt_succ_self _}

def wait (p : Router E O F) (r : Nat) : ScopeRecord O F :=
  {p.records r with waiters := (p.records r).waiters ++ [p.awaited.length]}

theorem records_wait {α : Type} (p : Router E O F) (r : Nat) (field : ScopeRecord O F → α) (kept : field (p.wait r) = field (p.records r))
    (s : Nat) : field (if s = r then p.wait r else p.records s) = field (p.records s) := by
  split
  · rename_i here
    rw [kept,here]
  · rfl

theorem Ended.waiting_wait (ended : p.Ended hooks) (unsettled : (p.records r).terminal = none) :
    (p.wait r).waiters.Nodup ∧ ∀ w ∈ (p.wait r).waiters,
      (p.awaited ++ [r])[w]? = some r ∧ (p.records r).terminal = none := by
  refine ⟨?_,fun w member => ?_⟩
  · refine nodup_append.mpr ⟨(ended.waiting r).1,nodup_singleton _,?_⟩
    intro w member v new same
    rw [mem_singleton.mp new] at same
    have below := (List.getElem?_eq_some_iff.mp ((ended.waiting r).2 w member).1).1
    exact absurd same (Nat.ne_of_lt below)
  · rcases mem_append.mp member with old | new
    · exact ended.waiting_concat r old
    · rw [mem_singleton.mp new]
      exact ⟨getElem?_concat_length,unsettled⟩

/-- Who asks for a terminal that is not there joins those that wait. -/
theorem Ended.await_waiting (ended : p.Ended hooks) (known : r < p.nextRecord)
    (unsettled : (p.records r).terminal = none) :
    (setRecord {p with awaited := p.awaited ++ [r]} r (p.wait r)).Ended hooks := by
  have terminals := records_wait p r ScopeRecord.terminal rfl
  have bindings := records_wait p r ScopeRecord.cohort rfl
  exact {ended with
    settlings := fun s => (ended.settlings s).trans
      (congrArg (fun t : Option O => if t.isSome then 1 else 0) (terminals s).symm)
    settled := fun s here => by
      dsimp only [setRecord] at here ⊢
      rw [terminals] at here
      rw [bindings]
      exact ended.settled s here
    fresh := fun s beyond => by
      dsimp only [setRecord]
      rw [if_neg]
      · exact ended.fresh s beyond
      · rintro rfl
        exact absurd known (Nat.not_lt.mpr beyond)
    asked := fun w s here => ended.asked_concat known here
    waiting := fun s => by
      dsimp only [setRecord]
      split
      · rename_i here
        rw [here]
        exact ended.waiting_wait unsettled
      · exact ⟨(ended.waiting s).1,fun w member => ended.waiting_concat r member⟩
    told := fun w s here => by
      dsimp only [setRecord]
      rw [terminals]
      rcases getElem_concat here with old | ⟨rfl,rfl⟩
      · exact ended.told w s old
      · rw [unsettled]
        exact ended.unanswered
    patient := fun w s here live open' => by
      dsimp only [setRecord] at open' ⊢
      rw [terminals] at open'
      rcases getElem_concat here with old | ⟨same,rfl⟩
      · have member := ended.patient w s old live open'
        split
        · rename_i here
          rw [here] at member
          exact mem_append_left _ member
        · exact member
      · rw [if_pos rfl,same]
        exact mem_append_right _ mem_cons_self
    numbered := fun w o member => by
      dsimp only [setRecord]
      rw [length_append,length_singleton]
      exact Nat.lt_succ_of_lt (ended.numbered w o member)}

theorem Advances.await (hooks : Hooks E O F) (known : r < p.nextRecord) : Advances hooks p (p.await r) := by
  unfold Router.await
  dsimp only
  split
  · rename_i outcome settled
    exact .careful (prefix_refl _) (prefix_refl _) id fun ended => ⟨ended.await_settled known settled,
      fun _ => id,fun _ _ => rfl,fun _ _ => rfl,fun _ _ => id⟩
  · rename_i unsettled
    exact .careful (prefix_refl _) (prefix_refl _) id fun ended => ⟨ended.await_waiting known unsettled,
      fun _ => id,fun _ _ => rfl,fun _ _ => rfl,fun s o here => (records_wait p r _ rfl s).trans here⟩

end

/-- The scopes are let go of; waiters may go with them. -/
theorem Advances.cleared (scopes : q.scopes = .empty) (states : q.states = p.states)
    (nextRecord : q.nextRecord = p.nextRecord) (nextCohort : q.nextCohort = p.nextCohort)
    (awaited : q.awaited = p.awaited) (resolved : q.resolved = p.resolved)
    (handings : q.handings = p.handings)
    (bindings : ∀ r, (q.records r).cohort = (p.records r).cohort)
    (terminals : ∀ r, (q.records r).terminal = (p.records r).terminal)
    (waiters : ∀ r, (q.records r).waiters = (p.records r).waiters ∨ (q.records r).waiters = [])
    (fates : ∃ more, q.fates = p.fates ++ more ∧ ∀ f ∈ more, f.2.terminal hooks = false) :
    Advances hooks p q := by
  obtain ⟨more,books,quiet⟩ := fates
  have counts : ∀ {counts : Fate E → Bool}, (∀ fate, counts fate → fate.terminal hooks) →
      (q.fates.countP fun f => counts f.2) = p.fates.countP fun f => counts f.2 := by
    intro counts implies
    rw [books,countP_append,countP_more quiet implies,Nat.add_zero]
  have dead : ∀ r, ¬q.Live r := by
    rintro r ⟨key,found⟩
    rw [scopes] at found
    cases found
  refine .careful ⟨more,books.symm⟩ (by simp only [handings,prefix_refl]) (by rw [handings]; exact id)
    fun ended =>
    ⟨⟨?_,?_,?_,?_,?_,?_,?_,?_,?_,?_,?_,?_,?_⟩,?_⟩
  · rw [nextCohort,states]
    exact ended.unborn
  · rw [states]
    exact ended.running
  · rw [states]
    exact ended.promise
  · rw [states]
    exact ended.owned
  · intro c
    rw [states,counts ends_terminal]
    exact ended.endings c
  · intro r
    rw [terminals,counts settles_terminal]
    exact ended.settlings r
  · intro r
    rw [terminals,bindings,states]
    exact ended.settled r
  · intro r
    rw [nextRecord,terminals]
    intro beyond
    obtain ⟨unsettled,nobody⟩ := ended.fresh r beyond
    rcases waiters r with same | none
    · exact ⟨unsettled,same.trans nobody⟩
    · exact ⟨unsettled,none⟩
  · rw [awaited,nextRecord]
    exact ended.asked
  · intro r
    rw [awaited,terminals]
    rcases waiters r with same | none
    · rw [same]
      exact ended.waiting r
    · rw [none]
      exact ⟨nodup_nil,nofun⟩
  · intro w r
    rw [awaited,resolved,terminals]
    exact ended.told w r
  · exact fun w r _ live => absurd live (dead r)
  · rw [resolved,awaited]
    exact ended.numbered
  · exact ⟨fun c here => by rw [states]; exact here,fun c _ => by rw [states],
      fun c _ => by rw [states],fun r o here => (terminals r).trans here⟩

/-- A change that leaves records, states and books alone. -/
theorem Calm.frame (scopes : q.scopes = p.scopes) (nextRecord : q.nextRecord = p.nextRecord)
    (nextCohort : q.nextCohort = p.nextCohort) (awaited : q.awaited = p.awaited)
    (resolved : q.resolved = p.resolved) (records : q.records = p.records) (states : q.states = p.states)
    (fates : q.fates = p.fates) (handings : q.handings = p.handings) : Calm hooks p q :=
  ⟨scopes,nextRecord,nextCohort,awaited,resolved,fun _ => by rw [records],
    fun _ => by rw [records],fun _ => by rw [records],fun _ => by rw [states],
    fun _ => by rw [states],fun _ => by rw [states],fun _ => by rw [states],
    fun _ => by rw [states]; exact id,⟨[],by rw [fates,append_nil],forall_mem_nil _⟩,
    ⟨[],by rw [handings,append_nil],forall_mem_nil _⟩⟩

theorem Calm.setRecord (p : Router E O F) (r : Nat) {record : ScopeRecord O F}
    (cohort : record.cohort = (p.records r).cohort) (terminal : record.terminal = (p.records r).terminal)
    (waiters : record.waiters = (p.records r).waiters) : Calm hooks p (p.setRecord r record) := by
  refine ⟨rfl,rfl,rfl,rfl,rfl,fun s => ?_,fun s => ?_,fun s => ?_,fun _ => rfl,fun _ => rfl,
    fun _ => rfl,fun _ => rfl,fun _ => id,⟨[],(append_nil _).symm,forall_mem_nil _⟩,⟨[],(append_nil _).symm,forall_mem_nil _⟩⟩
  · change (if s = r then record else p.records s).cohort = _
    split
    · rename_i here
      rw [cohort,here]
    · rfl
  · change (if s = r then record else p.records s).terminal = _
    split
    · rename_i here
      rw [terminal,here]
    · rfl
  · change (if s = r then record else p.records s).waiters = _
    split
    · rename_i here
      rw [waiters,here]
    · rfl

/-- A cohort changes in what its end does not touch. -/
theorem Calm.setState (p : Router E O F) (c : Nat) {state : Cohort O F}
    (ended : state.ended = (p.states c).ended) (finalKey : state.finalKey = (p.states c).finalKey)
    (outcome : state.outcome = (p.states c).outcome) (terminal : state.terminal = (p.states c).terminal)
    (owner : (p.states c).owner.isSome → state.owner.isSome) : Calm hooks p (p.setState c state) := by
  have same : ∀ {α : Type} (field : Cohort O F → α), field state = field (p.states c) → ∀ d,
      field ((p.setState c state).states d) = field (p.states d) := by
    intro α field kept d
    change field (if d = c then state else p.states d) = _
    split
    · rename_i here
      rw [kept,here]
    · rfl
  refine ⟨rfl,rfl,rfl,rfl,rfl,fun _ => rfl,fun _ => rfl,fun _ => rfl,same Cohort.ended ended,
    same Cohort.finalKey finalKey,same Cohort.outcome outcome,same Cohort.terminal terminal,
    fun d here => ?_,⟨[],(append_nil _).symm,forall_mem_nil _⟩,⟨[],(append_nil _).symm,forall_mem_nil _⟩⟩
  change (if d = c then state else p.states d).owner.isSome
  split
  · rename_i same
    exact owner (same ▸ here)
  · exact here

theorem Calm.logged (p : Router E O F) (n : Nat) {fate : Fate E}
    (goesOn : fate.terminal hooks = false) : Calm hooks p (p.log n fate) :=
  ⟨rfl,rfl,rfl,rfl,rfl,fun _ => rfl,fun _ => rfl,fun _ => rfl,fun _ => rfl,fun _ => rfl,
    fun _ => rfl,fun _ => rfl,fun _ => id,⟨[(n,fate)],rfl,fun f member => by
      rw [mem_singleton.mp member]
      exact goesOn⟩,⟨[],(append_nil _).symm,forall_mem_nil _⟩⟩

theorem Calm.giveUp (p : Router E O F) (line : List (Item E))
    (goesOn : fate.terminal hooks = false) : Calm hooks p (p.giveUp line fate) :=
  ⟨rfl,rfl,rfl,rfl,rfl,fun _ => rfl,fun _ => rfl,fun _ => rfl,fun _ => rfl,fun _ => rfl,
    fun _ => rfl,fun _ => rfl,fun _ => id,⟨_,rfl,fun f member => by
      obtain ⟨m,_,rfl⟩ := mem_map.mp member
      exact goesOn⟩,⟨[],(append_nil _).symm,forall_mem_nil _⟩⟩

theorem Calm.setOwner (p : Router E O F) (c owner : Nat) :
    Calm hooks p (p.setOwner c owner) :=
  .setState p c rfl rfl rfl rfl fun _ => rfl

theorem Calm.meet (p : Router E O F) (event : E) (record : Option Nat) (c : Nat)
    (careful : (p.handing event record c).overwrites hooks = false) : Calm hooks p (p.meet event record c) :=
  ⟨rfl,rfl,rfl,rfl,rfl,fun _ => rfl,fun _ => rfl,fun _ => rfl,fun _ => rfl,fun _ => rfl,
    fun _ => rfl,fun _ => rfl,fun _ => id,⟨[],(append_nil _).symm,forall_mem_nil _⟩,⟨_,rfl,fun h member => by
      rw [mem_singleton.mp member]
      exact careful⟩⟩

/-- What a delivery does beside the books, where it is no terminal. -/
theorem deliver_calm {record : Option Nat} (goesOn : hooks.isTerminal event = false)
    (delivered : p.deliver hooks event record c = .ok q) : Calm hooks p q := by
  unfold deliver at delivered
  rw [goesOn] at delivered
  split at delivered
  · cases delivered
    cases record with
    | some r => exact .setRecord p r rfl rfl rfl
    | none => exact .setState p c rfl rfl rfl rfl id
  · cases delivered
    exact .frame rfl rfl rfl rfl rfl rfl rfl rfl rfl

theorem overwrites_iff {p : Router E O F} {record : Option Nat} : (p.handing event record c).overwrites hooks ↔
    hooks.isTerminal event ∧ (p.states c).ended ∧
      (p.states c).finalKey = (record.map fun r => (p.records r).key) ∧
      ∀ r, record = some r → (p.records r).terminal = none := by
  unfold Handing.overwrites handing
  cases record <;> simp only [Bool.and_eq_true,decide_eq_true_eq,Option.isNone_iff_eq_none] <;> grind

/-- A terminal that is applied is the first of its cohort, or one that both checks let through. -/
theorem deliver_terminal {p q : Router E O F} {event : E}
    {record : Option Nat} {c : Nat} (ends : hooks.isTerminal event)
    (delivered : p.deliver hooks event record c = .ok q) :
    ((p.states c).ended = false ∨ (p.handing event record c).overwrites hooks) ∧
    match record with
    | some r => (p.records r).terminal = none ∧ ∃ outcome,
        q = (p.settleRecord r outcome).endCohort c (some (p.records r).key) outcome
    | none => ∃ outcome, q = p.endCohort c none outcome := by
  have type : ¬hooks.type event = .agentFailed := by
    unfold Hooks.isTerminal at ends
    intro other
    rw [other] at ends
    cases ends
  unfold deliver at delivered
  rw [if_neg type,if_pos ends] at delivered
  split at delivered
  · cases delivered
  rename_i first
  have checked : (∀ r, record = some r → (p.records r).terminal = none) →
      (p.states c).ended = false ∨ (p.handing event record c).overwrites hooks := by
    intro unsettled
    cases state : (p.states c).ended with
    | false => exact .inl rfl
    | true => exact .inr (overwrites_iff.mpr ⟨ends,state,not_not.mp fun other => first ⟨state,other⟩,unsettled⟩)
  cases record with
  | none =>
    cases delivered
    exact ⟨checked (by rintro r ⟨⟩),_,rfl⟩
  | some r =>
    dsimp only at delivered ⊢
    split at delivered
    · cases delivered
    · rename_i unsettled
      cases delivered
      have unsettled := Option.not_isSome_iff_eq_none.mp unsettled
      exact ⟨checked (by rintro s ⟨⟩; exact unsettled),unsettled,_,rfl⟩

/-- A delivery that is refused was one of the checks. -/
theorem deliver_refused {p : Router E O F} {record : Option Nat}
    (refused : p.deliver hooks event record c = .error fault) :
    (p.handing event record c).overwrites hooks = false := by
  refine Bool.eq_false_iff.mpr fun through => ?_
  obtain ⟨ends,finished,key,unsettled⟩ := overwrites_iff.mp through
  unfold deliver at refused
  split at refused
  · cases refused
  rw [if_neg fun other => other.2 key] at refused
  cases record with
  | none => cases refused
  | some r =>
    dsimp only at refused
    rw [unsettled r rfl] at refused
    cases refused

theorem endCohort_state (p : Router E O F) (c d : Nat) (finalKey : Option ScopeKey) (outcome : O) :
    (p.endCohort c finalKey outcome).states d = if d = c then {p.states c with
        ended := true
        finalKey := finalKey
        outcome := some outcome
        terminal := (p.states c).terminal.or (some outcome)}
    else p.states d := rfl

structure EndedHere (p q : Router E O F) (c : Nat) (outcome : O) (entry : Nat × Fate E) : Prop where
  scopes : q.scopes = p.scopes
  nextRecord : q.nextRecord = p.nextRecord
  nextCohort : q.nextCohort = p.nextCohort
  awaited : q.awaited = p.awaited
  fates : q.fates = p.fates ++ [entry]
  bindings : ∀ r, (q.records r).cohort = (p.records r).cohort
  ended : ∀ d, (q.states d).ended = (decide (d = c) || (p.states d).ended)
  result : (q.states c).outcome = some outcome
  promise : (q.states c).terminal = some outcome
  others : ∀ d, d ≠ c → q.states d = p.states d
  owners : ∀ d, (q.states d).owner = (p.states d).owner

theorem EndedHere.of_endCohort {p q : Router E O F}
    (silent : (p.states c).terminal = none) (entry : Nat × Fate E)
    (same : p.Same q) (awaited : q.awaited = p.awaited) (states : q.states = p.states) :
    EndedHere p ((q.endCohort c finalKey outcome).log entry.1 entry.2) c outcome entry := by
  have shown : ∀ d, (q.endCohort c finalKey outcome).states d =
      (p.endCohort c finalKey outcome).states d := by
    intro d
    rw [endCohort_state,endCohort_state,states]
  refine ⟨same.scopes,same.nextRecord,same.nextCohort,awaited,?_,same.bindings,
    fun d => ?_,?_,?_,fun d ne => ?_,fun d => ?_⟩
  · change q.fates ++ _ = _
    rw [same.fates]
  · refine (congrArg Cohort.ended (shown d)).trans ?_
    rw [endCohort_state]
    by_cases here : d = c
    · rw [if_pos here,decide_eq_true here]
      rfl
    · rw [if_neg here,decide_eq_false here]
      rfl
  · refine (congrArg Cohort.outcome (shown c)).trans ?_
    rw [endCohort_state,if_pos rfl]
  · refine (congrArg Cohort.terminal (shown c)).trans ?_
    rw [endCohort_state,if_pos rfl]
    rw [silent]
    rfl
  · refine (shown d).trans ?_
    rw [endCohort_state,if_neg ne]
  · refine (congrArg Cohort.owner (shown d)).trans ?_
    rw [endCohort_state]
    split
    · rename_i here
      rw [here]
    · rfl

section

variable {hooks : Hooks E O F} {p q : Router E O F} {c n : Nat} {record : Option Nat} {event : E}
  {outcome : O}

theorem EndedHere.stable (here : EndedHere p q c outcome entry) (running : (p.states c).ended = false)
    (terminal : ∀ r o, (p.records r).terminal = some o → (q.records r).terminal = some o) :
    p.Stable q := by
  have other : ∀ d, (p.states d).ended → q.states d = p.states d := by
    intro d finished
    apply here.others
    rintro rfl
    rw [running] at finished
    cases finished
  exact ⟨fun d finished => by rw [other d finished]; exact finished,
    fun d finished => by rw [other d finished],fun d finished => by rw [other d finished],terminal⟩

section

variable (ended : p.Ended hooks)
include ended

/-- What the end of a cohort means for the cohorts. -/
theorem Ended.cohorts_end (here : EndedHere p q c outcome (n,.delivered c record event))
    (running : (p.states c).ended = false) (ends : hooks.isTerminal event) :
    (∀ d, (q.states d).ended = false → (q.states d).terminal = none) ∧
    (∀ d, (q.states d).ended → (q.states d).outcome.isSome ∧ (q.states d).terminal = (q.states d).outcome) ∧
    ∀ d, (q.fates.countP fun f => f.2.ends hooks d) = if (q.states d).ended then 1 else 0 := by
  refine ⟨fun d still => ?_,fun d finished => ?_,fun d => ?_⟩
  · rw [here.ended,or_eq_false_iff,decide_eq_false_iff_not] at still
    rw [here.others d still.1]
    exact ended.running d still.2
  · by_cases same : d = c
    · rw [same,here.result,here.promise]
      exact ⟨rfl,rfl⟩
    · rw [here.others d same] at finished ⊢
      exact ended.promise d finished
  · rw [here.fates,countP_append,countP_singleton,ended.endings,here.ended]
    by_cases same : d = c
    · rw [same,running,decide_eq_true rfl]
      simp [Fate.ends,ends]
    · rw [decide_eq_false same]
      simp [Fate.ends,Ne.symm same]

theorem Ended.owned_end (here : EndedHere p q c outcome entry) (below : c < p.nextCohort)
    (owner : (p.states c).owner.isSome) :
    (∀ d, q.nextCohort ≤ d → (q.states d).ended = false) ∧
    ∀ d, (q.states d).ended → (q.states d).owner.isSome := by
  rw [here.nextCohort]
  refine ⟨fun d beyond => ?_,fun d finished => ?_⟩
  · rw [here.ended,ended.unborn d beyond,Bool.or_false,decide_eq_false_iff_not]
    rintro rfl
    exact absurd below (Nat.not_lt.mpr beyond)
  · rw [here.owners]
    by_cases same : d = c
    · rw [same]
      exact owner
    · rw [here.others d same] at finished
      exact ended.owned d finished

theorem Ended.end_unscoped (here : EndedHere p q c outcome (n,.delivered c none event))
    (running : (p.states c).ended = false) (below : c < p.nextCohort)
    (owner : (p.states c).owner.isSome) (ends : hooks.isTerminal event)
    (records : q.records = p.records) (resolved : q.resolved = p.resolved) :
    q.Ended hooks ∧ p.Stable q := by
  obtain ⟨silent,promise,endings⟩ := ended.cohorts_end here running ends
  obtain ⟨unborn,owned⟩ := ended.owned_end here below owner
  have live : ∀ r, q.Live r → p.Live r := by
    rintro r ⟨key,found⟩
    exact ⟨key,by rw [← here.scopes]; exact found⟩
  refine ⟨⟨unborn,silent,promise,owned,endings,?_,?_,?_,?_,?_,?_,?_,?_⟩,
    here.stable running fun r o settled => by rw [records]; exact settled⟩
  · intro r
    rw [here.fates,countP_append,countP_singleton,ended.settlings,records]
    rfl
  · intro r settled
    rw [records] at settled ⊢
    obtain ⟨d,bound,finished⟩ := ended.settled r settled
    exact ⟨d,bound,by rw [here.ended,finished,Bool.or_true]⟩
  · rw [here.nextRecord,records]
    exact ended.fresh
  · rw [here.awaited,here.nextRecord]
    exact ended.asked
  · rw [here.awaited,records]
    exact ended.waiting
  · rw [here.awaited,records,resolved]
    exact ended.told
  · rw [here.awaited,records]
    exact fun w r asked alive => ended.patient w r asked (live r alive)
  · rw [here.awaited,resolved]
    exact ended.numbered

theorem Ended.end_scoped (here : EndedHere p q c outcome (n,.delivered c (some r) event))
    (running : (p.states c).ended = false) (below : c < p.nextCohort)
    (owner : (p.states c).owner.isSome) (ends : hooks.isTerminal event) (live : p.Live r)
    (known : r < p.nextRecord) (bound : (p.records r).cohort = some c)
    (unsettled : (p.records r).terminal = none)
    (record : q.records r = {p.records r with terminal := some outcome,waiters := []})
    (records : ∀ s, s ≠ r → q.records s = p.records s)
    (resolved : q.resolved = p.resolved ++ (p.records r).waiters.map fun w => (w,outcome)) :
    q.Ended hooks ∧ p.Stable q := by
  obtain ⟨silent,promise,endings⟩ := ended.cohorts_end here running ends
  obtain ⟨unborn,owned⟩ := ended.owned_end here below owner
  have terminals : ∀ s o, (p.records s).terminal = some o → (q.records s).terminal = some o := by
    intro s o settled
    rw [records s]
    · exact settled
    · rintro rfl
      rw [unsettled] at settled
      cases settled
  refine ⟨⟨unborn,silent,promise,owned,endings,?_,?_,?_,?_,?_,?_,?_,?_⟩,here.stable running terminals⟩
  · intro s
    rw [here.fates,countP_append,countP_singleton,ended.settlings]
    by_cases same : s = r
    · rw [same,record,unsettled]
      simp [Fate.settles,ends]
    · rw [records s same]
      simp [Fate.settles,Ne.symm same]
  · intro s settled
    by_cases same : s = r
    · rw [same,record]
      exact ⟨c,bound,by rw [here.ended,decide_eq_true rfl]; rfl⟩
    · rw [records s same] at settled ⊢
      obtain ⟨d,bound',finished⟩ := ended.settled s settled
      exact ⟨d,bound',by rw [here.ended,finished,Bool.or_true]⟩
  · intro s beyond
    rw [here.nextRecord] at beyond
    rw [records s]
    · exact ended.fresh s beyond
    · rintro rfl
      exact absurd known (Nat.not_lt.mpr beyond)
  · rw [here.awaited,here.nextRecord]
    exact ended.asked
  · intro s
    rw [here.awaited]
    by_cases same : s = r
    · rw [same,record]
      exact ⟨nodup_nil,nofun⟩
    · rw [records s same]
      exact ended.waiting s
  · intro w s asked
    rw [here.awaited] at asked
    rw [resolved,answers_append,answers_waiters w _ (ended.waiting r).1,ended.told w s asked]
    by_cases same : s = r
    · rw [same] at asked ⊢
      rw [if_pos (ended.patient w r asked live unsettled),record,unsettled]
      rfl
    · rw [records s same,if_neg]
      · exact append_nil _
      · intro member
        have asked' := ((ended.waiting r).2 w member).1
        rw [asked] at asked'
        exact same (Option.some.inj asked')
  · intro w s asked alive unsettled'
    rw [here.awaited] at asked
    obtain ⟨key,alive⟩ := alive
    rw [here.scopes] at alive
    by_cases same : s = r
    · rw [same,record] at unsettled'
      cases unsettled'
    · rw [records s same] at unsettled' ⊢
      exact ended.patient w s asked ⟨key,alive⟩ unsettled'
  · intro w o member
    rw [here.awaited]
    rw [resolved] at member
    rcases mem_append.mp member with old | new
    · exact ended.numbered w o old
    · obtain ⟨v,waits,same⟩ := mem_map.mp new
      cases same
      exact (List.getElem?_eq_some_iff.mp ((ended.waiting r).2 w waits).1).1

end

end

/-- The run an event is led to is known and has an owner. -/
theorem Sound.led {p : Router E O F} {record target : Option Nat}
    (sound : p.Sound hooks (⟨.event n e record target,size⟩ :: rest))
    (owned : p.ownedCohort target = some c) : c < p.nextCohort ∧ (p.states c).owner.isSome := by
  obtain ⟨led,owner⟩ := Option.filter_eq_some_iff.mp owned
  refine ⟨?_,owner⟩
  cases target with
  | none => exact (sound.primary c led).1
  | some t => exact sound.bound t c led

/-- A terminal that is applied to a cohort that runs. -/
theorem Ended.applied {p q : Router E O F} {record target : Option Nat} (ended : p.Ended hooks)
    (sound : p.Sound hooks (⟨.event n e record target,size⟩ :: rest))
    (owned : p.ownedCohort target = some c) (running : (p.states c).ended = false)
    (ends : hooks.isTerminal event) (delivered : p.deliver hooks event record c = .ok q) :
    (q.log n (.delivered c record event)).Ended hooks ∧
      p.Stable (q.log n (.delivered c record event)) := by
  obtain ⟨aimed,live,_⟩ := sound.items n e record target size (mem_append_right _ mem_cons_self)
  obtain ⟨below,owner⟩ := sound.led owned
  obtain ⟨_,applied⟩ := deliver_terminal ends delivered
  cases record with
  | none =>
    obtain ⟨outcome,rfl⟩ := applied
    exact ended.end_unscoped (.of_endCohort (ended.running c running) (n,.delivered c none event)
      (.refl p) rfl rfl) running below owner ends rfl rfl
  | some r =>
    obtain ⟨unsettled,outcome,rfl⟩ := applied
    have alive := live r (aimed r rfl)
    obtain ⟨key,found⟩ := alive
    have bound : (p.records r).cohort = some c := by
      rw [aimed r rfl] at owned
      exact (Option.filter_eq_some_iff.mp owned).1
    exact ended.end_scoped (.of_endCohort (ended.running c running) (n,.delivered c (some r) event)
      (.settleRecord p r outcome) rfl rfl) running below owner ends ⟨key,found⟩
      (sound.scopes key r found).1 bound unsettled (if_pos rfl) (fun s ne => if_neg ne) rfl

theorem handings_deliver {p q : Router E O F} {record : Option Nat} (delivered : p.deliver hooks event record c = .ok q) :
    q.handings = p.handings := by
  unfold deliver at delivered
  split at delivered
  · cases delivered
    cases record <;> rfl
  split at delivered
  · split at delivered
    · cases delivered
    · cases record with
      | none =>
        cases delivered
        rfl
      | some r =>
        dsimp only at delivered
        split at delivered
        · cases delivered
        · cases delivered
          rfl
  · cases delivered
    rfl

theorem hand_advances {record target : Option Nat}
    (sound : p.Sound hooks (⟨.event n e record target,size⟩ :: rest))
    (owned : p.ownedCohort target = some c) (event : E) :
    Advances hooks p (p.hand hooks n event record c).1 := by
  unfold hand
  dsimp only
  split
  · rename_i q delivered
    cases ends : hooks.isTerminal event with
    | false =>
      have careful : (p.handing event record c).overwrites hooks = false :=
        Bool.eq_false_iff.mpr fun through => by
          rw [(overwrites_iff.mp through).1] at ends
          cases ends
      have logged : Calm hooks q (q.log n (.delivered c record event)) := .logged q n ends
      exact (Calm.meet p event record c careful).advances.trans
        ((deliver_calm ends delivered).advances.trans logged.advances)
    | true =>
      have met := Same.meet p event record c
      have books : (q.log n (.delivered c record event)).fates =
          p.fates ++ [(n,.delivered c record event)] := by
        change q.fates ++ _ = _
        rw [(met.trans (Same.deliver delivered)).fates]
      have called : (q.log n (.delivered c record event)).handings =
          p.handings ++ [p.handing event record c] := handings_deliver delivered
      have running : (p.handing event record c).overwrites hooks = false → (p.states c).ended = false :=
        fun careful => (deliver_terminal ends delivered).1.resolve_right fun through => by
          rw [show (p.handing event record c).overwrites hooks = true from through] at careful
          cases careful
      refine ⟨by rw [books]; exact prefix_append _ _,by rw [called]; exact prefix_append _ _,
        fun careful ended => ?_,fun careful ended careless => ⟨c,?_⟩⟩
      · rw [called] at careful
        have begun : (p.meet event record c).Ended hooks := {ended with}
        obtain ⟨ended',stable⟩ := begun.applied (met.sound sound) owned
          (running (careful _ (mem_append_right _ mem_cons_self))) ends delivered
        exact ⟨ended',stable.ended,stable.finalKey,stable.outcome,stable.terminal⟩
      · -- the call lets a terminal through to a cohort that has one
        have through : (p.handing event record c).overwrites hooks := by
          refine eq_true_of_ne_false fun fine => careless ?_
          rw [called]
          exact Careful.append careful fun h member => by rw [mem_singleton.mp member]; exact fine
        have hit : Fate.ends hooks c (.delivered c record event) := by
          simp [Fate.ends,ends]
        rw [books,countP_append,countP_singleton,if_pos hit,ended.endings,
          if_pos (overwrites_iff.mp through).2.1]
        exact Nat.lt_succ_self 1
  · rename_i refused
    have fine := deliver_refused refused
    have logged : Calm hooks (p.meet event record c) ((p.meet event record c).log n .failed) :=
      .logged _ n rfl
    exact (Calm.meet p event record c fine).advances.trans logged.advances

theorem hold_calm (hooks : Hooks E O F) (p : Router E O F) (n : Nat) (event : E)
    (record target : Option Nat) : Calm hooks p (p.hold hooks n event record target).1 := by
  unfold hold
  split
  · rename_i q buffered
    obtain ⟨item,bytes,_,rfl⟩ := bufferEvent_ok buffered
    exact .frame rfl rfl rfl rfl rfl rfl rfl rfl rfl
  · exact .logged p n rfl

theorem flushItem_advances (sound : p.Sound hooks (item :: rest)) :
    Advances hooks p (p.flushItem hooks item).1 := by
  obtain ⟨payload,size⟩ := item
  cases payload with
  | event n e record target =>
    unfold flushItem
    dsimp only
    split
    · rename_i c owned
      exact hand_advances sound owned e
    · exact (hold_calm hooks p n e record target).advances
  | gate name bytes cohort =>
    have presented : ∀ owner, Advances hooks p (p.present name owner) := fun owner =>
      (Calm.frame rfl rfl rfl rfl rfl rfl rfl rfl rfl : Calm hooks p (p.present name owner)).advances
    unfold flushItem
    dsimp only
    split
    · exact presented none
    split
    · exact presented _
    split
    · rename_i q buffered
      obtain ⟨item,bytes,_,rfl⟩ := bufferEvent_ok buffered
      exact Calm.advances (.frame rfl rfl rfl rfl rfl rfl rfl rfl rfl)
    · exact .refl hooks p

theorem flushItems_advances (sound : p.Sound hooks line) (quiet : p.Quiet) (running : p.closed = false) :
    Advances hooks p (p.flushItems hooks line).1 := by
  induction line generalizing p with
  | nil => exact .refl hooks p
  | cons item rest ih =>
    have advances := flushItem_advances sound
    have round := flushItem_rounded sound quiet running
    unfold flushItems
    split
    · rename_i q kept
      rw [kept] at round advances
      exact advances.trans (ih round.sound round.quiet round.running)
    · rename_i q fault thrown
      rw [thrown] at advances
      exact advances.trans (Calm.giveUp q rest rfl).advances

theorem flush_advances (sound : p.Sound hooks []) :
    Advances hooks p (p.flush hooks).1 := by
  unfold flush
  split
  · exact .refl hooks p
  · rename_i running
    have calm : Calm hooks p p.emptied := .frame rfl rfl rfl rfl rfl rfl rfl rfl rfl
    exact calm.advances.trans (flushItems_advances sound.emptied
      (by intro n e record target size member; cases member) (eq_false_iff.mpr running))

theorem flushed_advances (sound : p.Sound hooks [])
    (value : Option Nat) : Advances hooks p (p.flushed hooks value).1 := by
  have advances := flush_advances sound
  unfold flushed
  split <;> rename_i result <;> rw [result] at advances <;> exact advances

theorem retain_calm (hooks : Hooks E O F) (retained : p.retain refusal = .ok q) : Calm hooks p q := by
  unfold retain at retained
  split at retained
  · split at retained
    · cases retained
    · cases retained
      exact .frame rfl rfl rfl rfl rfl rfl rfl rfl rfl
  · cases retained
    exact .frame rfl rfl rfl rfl rfl rfl rfl rfl rfl

end Router

end GjcRemote.LiveInput
