import GjcRemote.LiveInputRouter
import Mathlib.Data.List.Perm.Basic
import Mathlib.Data.List.Range

/-! The books of the router balance: every routed event is in them once, and what waits of
a scope comes after what was delivered of it. -/
namespace GjcRemote.LiveInput

open List Router
variable {E O F : Type}

def queued (r : Nat) : List (Item E) → List Nat
  | [] => []
  | ⟨.event arrival _ record _,_⟩ :: rest =>
    if record = some r then arrival :: queued r rest else queued r rest
  | ⟨.gate _ _ _,_⟩ :: rest => queued r rest

/-- What was delivered of a scope record, in the order of delivery. -/
def deliveries (r : Nat) : List (Nat × Fate E) → List Nat
  | [] => []
  | (arrival,.delivered _ record _) :: rest =>
    if record = some r then arrival :: deliveries r rest else deliveries r rest
  | (_,.dropped _) :: rest => deliveries r rest
  | (_,.failed) :: rest => deliveries r rest

theorem arrivals_append (first second : List (Item E)) :
    arrivals (first ++ second) = arrivals first ++ arrivals second := by
  induction first with
  | nil => rfl
  | cons item rest ih =>
    obtain ⟨payload,size⟩ := item
    cases payload with
    | event n e record target => simp only [cons_append,arrivals,ih]
    | gate id bytes cohort => simp only [cons_append,arrivals,ih]

theorem queued_append (r : Nat) (first second : List (Item E)) :
    queued r (first ++ second) = queued r first ++ queued r second := by
  induction first with
  | nil => rfl
  | cons item rest ih =>
    obtain ⟨payload,size⟩ := item
    cases payload with
    | event n e record target =>
      simp only [cons_append,queued,ih]
      split <;> rfl
    | gate id bytes cohort => simp only [cons_append,queued,ih]

theorem deliveries_append (r : Nat) (first second : List (Nat × Fate E)) :
    deliveries r (first ++ second) = deliveries r first ++ deliveries r second := by
  induction first with
  | nil => rfl
  | cons entry rest ih =>
    obtain ⟨n,fate⟩ := entry
    cases fate with
    | delivered c record e =>
      simp only [cons_append,deliveries,ih]
      split <;> rfl
    | dropped rule => simp only [cons_append,deliveries,ih]
    | failed => simp only [cons_append,deliveries,ih]

theorem mem_queued (member : n ∈ queued r items) :
    ∃ e target size, (⟨.event n e (some r) target,size⟩ : Item E) ∈ items := by
  induction items with
  | nil => cases member
  | cons item rest ih =>
    have later : n ∈ queued r rest →
        ∃ e target size, (⟨.event n e (some r) target,size⟩ : Item E) ∈ item :: rest := by
      intro member
      obtain ⟨e,target,size,inside⟩ := ih member
      exact ⟨e,target,size,mem_cons_of_mem _ inside⟩
    obtain ⟨payload,size⟩ := item
    cases payload with
    | event m e record target =>
      rw [queued] at member
      split at member
      · rename_i same
        rcases mem_cons.mp member with rfl | member
        · rw [same]
          exact ⟨e,target,size,mem_cons_self⟩
        · exact later member
      · exact later member
    | gate id bytes cohort => exact later member

theorem mem_deliveries {fates : List (Nat × Fate E)} (member : n ∈ deliveries r fates) :
    ∃ c e, (n,.delivered c (some r) e) ∈ fates := by
  induction fates with
  | nil => cases member
  | cons entry rest ih =>
    have later : n ∈ deliveries r rest →
        ∃ c e, (n,.delivered c (some r) e) ∈ entry :: rest := by
      intro member
      obtain ⟨c,e,inside⟩ := ih member
      exact ⟨c,e,mem_cons_of_mem _ inside⟩
    obtain ⟨m,fate⟩ := entry
    cases fate with
    | delivered c record e =>
      rw [deliveries] at member
      split at member
      · rename_i same
        rcases mem_cons.mp member with rfl | member
        · rw [same]
          exact ⟨c,e,mem_cons_self⟩
        · exact later member
      · exact later member
    | dropped rule => exact later member
    | failed => exact later member

/-- The queue of a scope is part of the line, so what is sorted there is sorted here. -/
theorem mem_arrivals_of_queued (member : n ∈ queued r items) :
    n ∈ arrivals items := by
  induction items with
  | nil => cases member
  | cons item rest ih =>
    obtain ⟨payload,size⟩ := item
    cases payload with
    | event m e record target =>
      rw [queued] at member
      split at member
      · rcases mem_cons.mp member with rfl | member
        · exact mem_cons_self
        · exact mem_cons_of_mem _ (ih member)
      · exact mem_cons_of_mem _ (ih member)
    | gate id bytes cohort => exact ih member

namespace Router

def Live (p : Router E O F) (r : Nat) : Prop := ∃ key, p.scopes.get key = some r

/-- An event is handed over as it is or as the buffer holds it: read back from its JSON text,
and an unscoped diagnostic with its sanitized failure. -/
inductive Carried (hooks : Hooks E O F) (event : E) : E → Prop where
  | same : Carried hooks event event
  | sanitized (diagnostic : hooks.type event = .agentFailed) (unscoped : scopeKey (hooks.scope event) = none) :
      Carried hooks event (hooks.failed (hooks.sanitizeFailure event))
  | snapshot {e e' : E} {size : Nat} (carried : Carried hooks event e)
      (taken : hooks.snapshot e = some (e',size)) : Carried hooks event e'

/-- The event with this number has the scope of the record, or none where there is none, and
is what is carried on. -/
def Tied (hooks : Hooks E O F) (p : Router E O F) (n : Nat) (e : E) (record : Option Nat) : Prop :=
  ∃ event, p.arrived[n]? = some event ∧
    scopeKey (hooks.scope event) = (record.map fun r => (p.records r).key) ∧ Carried hooks event e

/-- The record was bound by the start event that was delivered first, or by none. -/
def Ordered (hooks : Hooks E O F) (p : Router E O F) (line : List (Item E)) (r : Nat) : Prop :=
  ∃ start rest, deliveries r p.fates = start ++ rest ∧ start.length ≤ 1 ∧
    (∀ n ∈ start, ∃ e, p.arrived[n]? = some e ∧ (hooks.type e).starts) ∧
    rest.Pairwise (· < ·) ∧ ∀ n ∈ rest, ∀ m ∈ queued r line, n < m

/-- The objects of a router are wired up and its books are right. `line` is what a flush
in progress has still to look at. -/
structure Sound (hooks : Hooks E O F) (p : Router E O F) (line : List (Item E)) : Prop where
  fresh : ∀ r, p.nextRecord ≤ r → (p.records r).cohort = none
  unborn : ∀ c, p.nextCohort ≤ c → (p.states c).owner = none
  scopes : ∀ key r, p.scopes.get key = some r → r < p.nextRecord ∧ (p.records r).key = key
  bound : ∀ r c, (p.records r).cohort = some c → c < p.nextCohort
  currentScope : ∀ r, p.currentScope = some r → p.Live r
  primary : ∀ c, p.primary = some c → c < p.nextCohort ∧ (p.states c).owner.isSome
  closed : p.closed → p.buffer = []
  items : ∀ n e record target size, ⟨.event n e record target,size⟩ ∈ p.buffer ++ line →
    (∀ r, record = some r → target = some r) ∧ (∀ t, target = some t → p.Live t) ∧
      (target = none → p.primary.isSome)
  tied : ∀ n e record target size, ⟨.event n e record target,size⟩ ∈ p.buffer ++ line →
    p.Tied hooks n e record
  delivered : ∀ n c r e, (n,.delivered c (some r) e) ∈ p.fates →
    (p.records r).cohort = some c ∧ (p.states c).owner.isSome ∧ r < p.nextRecord
  told : ∀ n c record e, (n,.delivered c record e) ∈ p.fates → p.Tied hooks n e record
  counted : (p.fates.map Prod.fst ++ arrivals (p.buffer ++ line)).Perm (List.range p.arrived.length)
  sorted : (arrivals (p.buffer ++ line)).Pairwise (· < ·)
  ordered : ∀ r, p.Ordered hooks (p.buffer ++ line) r

def Quiet (p : Router E O F) : Prop :=
  ∀ n e record target size, ⟨.event n e record target,size⟩ ∈ p.buffer →
    p.ownedCohort target = none

structure Same (p q : Router E O F) : Prop where
  bindings : ∀ r, (q.records r).cohort = (p.records r).cohort
  keys : ∀ r, (q.records r).key = (p.records r).key
  owners : ∀ c, (q.states c).owner = (p.states c).owner
  scopes : q.scopes = p.scopes
  buffer : q.buffer = p.buffer
  currentScope : q.currentScope = p.currentScope
  primary : q.primary = p.primary
  closed : q.closed = p.closed
  nextRecord : q.nextRecord = p.nextRecord
  nextCohort : q.nextCohort = p.nextCohort
  arrived : q.arrived = p.arrived
  fates : q.fates = p.fates

theorem Same.refl (p : Router E O F) : p.Same p :=
  ⟨fun _ => rfl,fun _ => rfl,fun _ => rfl,rfl,rfl,rfl,rfl,rfl,rfl,rfl,rfl,rfl⟩

variable {p : Router E O F}

theorem Same.trans (first : p.Same q) (second : q.Same r) : p.Same r where
  bindings s := (second.bindings s).trans (first.bindings s)
  keys s := (second.keys s).trans (first.keys s)
  owners c := (second.owners c).trans (first.owners c)
  scopes := second.scopes.trans first.scopes
  buffer := second.buffer.trans first.buffer
  currentScope := second.currentScope.trans first.currentScope
  primary := second.primary.trans first.primary
  closed := second.closed.trans first.closed
  nextRecord := second.nextRecord.trans first.nextRecord
  nextCohort := second.nextCohort.trans first.nextCohort
  arrived := second.arrived.trans first.arrived
  fates := second.fates.trans first.fates

theorem Same.tied (same : p.Same q)
    {record : Option Nat} (tied : p.Tied hooks n e record) : q.Tied hooks n e record := by
  obtain ⟨event,here,key,carried⟩ := tied
  exact ⟨event,by rw [same.arrived]; exact here,by simp only [same.keys]; exact key,carried⟩

theorem Tied.snapshot {record : Option Nat} (tied : p.Tied hooks n e record)
    (taken : hooks.snapshot e = some (e',size)) : p.Tied hooks n e' record := by
  obtain ⟨event,here,key,carried⟩ := tied
  exact ⟨event,here,key,carried.snapshot taken⟩

theorem Same.live (same : p.Same q) (live : p.Live r) :
    q.Live r := by
  obtain ⟨key,found⟩ := live
  exact ⟨key,by rw [same.scopes]; exact found⟩

theorem Same.sound (same : p.Same q) (sound : p.Sound hooks line) : q.Sound hooks line where
  fresh r := by
    rw [same.nextRecord,same.bindings]
    exact sound.fresh r
  unborn c := by
    rw [same.nextCohort,same.owners]
    exact sound.unborn c
  scopes key r := by
    rw [same.scopes,same.nextRecord,same.keys]
    exact sound.scopes key r
  bound r c := by
    rw [same.bindings,same.nextCohort]
    exact sound.bound r c
  currentScope r := by
    rw [same.currentScope]
    exact fun here => same.live (sound.currentScope r here)
  primary c := by
    rw [same.primary,same.nextCohort,same.owners]
    exact sound.primary c
  closed := by
    rw [same.closed,same.buffer]
    exact sound.closed
  items n e record target size := by
    rw [same.buffer]
    intro member
    obtain ⟨aimed,live,active⟩ := sound.items n e record target size member
    exact ⟨aimed,fun t here => same.live (live t here),fun none => by rw [same.primary]; exact active none⟩
  tied n e record target size := by
    rw [same.buffer]
    exact fun member => same.tied (sound.tied n e record target size member)
  delivered n c r e := by
    rw [same.fates,same.bindings,same.owners,same.nextRecord]
    exact sound.delivered n c r e
  told n c record e := by
    rw [same.fates]
    exact fun member => same.tied (sound.told n c record e member)
  counted := by
    rw [same.fates,same.buffer,same.arrived]
    exact sound.counted
  sorted := by
    rw [same.buffer]
    exact sound.sorted
  ordered r := by
    rw [same.buffer,Ordered,same.fates,same.arrived]
    exact sound.ordered r

theorem Same.ownedCohort (same : p.Same q) (target : Option Nat) :
    q.ownedCohort target = p.ownedCohort target := by
  unfold Router.ownedCohort
  simp only [same.bindings,same.primary,same.owners]

theorem Same.quiet (same : p.Same q) (quiet : p.Quiet) : q.Quiet := by
  intro n e record target size
  rw [same.buffer,same.ownedCohort]
  exact quiet n e record target size

structure Follows (p q : Router E O F) : Prop where
  bindings : ∀ r c, (p.records r).cohort = some c → (q.records r).cohort = some c
  scopes : ∀ key r, p.scopes.get key = some r → q.scopes.get key = some r

theorem Follows.refl (p : Router E O F) : p.Follows p := ⟨fun _ _ => id,fun _ _ => id⟩

theorem Follows.trans (first : p.Follows q) (second : q.Follows r) :
    p.Follows r :=
  ⟨fun s c here => second.bindings s c (first.bindings s c here),
    fun key s here => second.scopes key s (first.scopes key s here)⟩

theorem Same.follows (same : p.Same q) : p.Follows q :=
  ⟨fun r c here => (same.bindings r).trans here,fun key r here => by rw [same.scopes]; exact here⟩

theorem Same.setRecord (p : Router E O F) (r : Nat) {record : ScopeRecord O F}
    (cohort : record.cohort = (p.records r).cohort) (key : record.key = (p.records r).key) :
    p.Same (p.setRecord r record) := by
  refine ⟨fun s => ?_,fun s => ?_,fun _ => rfl,rfl,rfl,rfl,rfl,rfl,rfl,rfl,rfl,rfl⟩
  · change (if s = r then record else p.records s).cohort = _
    split
    · rename_i here
      rw [cohort,here]
    · rfl
  · change (if s = r then record else p.records s).key = _
    split
    · rename_i here
      rw [key,here]
    · rfl

theorem Same.setState (p : Router E O F) (c : Nat)
    (owner : state.owner = (p.states c).owner) : p.Same (p.setState c state) := by
  refine ⟨fun _ => rfl,fun _ => rfl,fun d => ?_,rfl,rfl,rfl,rfl,rfl,rfl,rfl,rfl,rfl⟩
  change (if d = c then state else p.states d).owner = _
  split
  · rename_i here
    rw [owner,here]
  · rfl

theorem Same.settleRecord (p : Router E O F) (r : Nat) (outcome : O) :
    p.Same (p.settleRecord r outcome) := by
  have same := @Same.setRecord E O F p r {p.records r with terminal := some outcome,waiters := []} rfl rfl
  exact ⟨same.bindings,same.keys,same.owners,rfl,rfl,rfl,rfl,rfl,rfl,rfl,rfl,rfl⟩

theorem Same.endCohort (p : Router E O F) (c : Nat) (finalKey : Option ScopeKey) (outcome : O) :
    p.Same (p.endCohort c finalKey outcome) :=
  .setState p c rfl

variable {hooks : Hooks E O F}

theorem Same.meet (p : Router E O F) (event : E) (record : Option Nat) (c : Nat) :
    p.Same (p.meet event record c) :=
  ⟨fun _ => rfl,fun _ => rfl,fun _ => rfl,rfl,rfl,rfl,rfl,rfl,rfl,rfl,rfl,rfl⟩

theorem Same.deliver {record : Option Nat} (delivered : p.deliver hooks event record c = .ok q) : p.Same q := by
  unfold Router.deliver at delivered
  split at delivered
  · cases delivered
    cases record with
    | some r => exact .setRecord p r rfl rfl
    | none => exact .setState p c rfl
  split at delivered
  · split at delivered
    · cases delivered
    · cases record with
      | some r =>
        dsimp only at delivered
        split at delivered
        · cases delivered
        · cases delivered
          exact (Same.settleRecord p r _).trans (.endCohort _ c _ _)
      | none =>
        cases delivered
        exact .endCohort p c _ _
  · cases delivered
    exact .refl p

theorem mem_line_cons {buffer rest : List (Item E)} (member : item ∈ buffer ++ rest) :
    item ∈ buffer ++ first :: rest := by
  rcases mem_append.mp member with early | late
  · exact mem_append_left _ early
  · exact mem_append_right _ (mem_cons_of_mem _ late)

variable {record target : Option Nat}

/-- The number of an event moves from the line to the books. -/
theorem Sound.counted_log (sound : p.Sound hooks (⟨.event n e record target,size⟩ :: rest)) (fate : Fate E) :
    ((p.log n fate).fates.map Prod.fst ++ arrivals (p.buffer ++ rest)).Perm (List.range p.arrived.length) := by
  have counted := sound.counted
  change ((p.fates ++ [(n,fate)]).map Prod.fst ++ arrivals (p.buffer ++ rest)).Perm _
  rw [arrivals_append,arrivals] at counted
  rw [map_append,arrivals_append,append_assoc]
  refine Perm.trans ?_ counted
  apply Perm.append_left
  exact (@perm_middle _ n (arrivals p.buffer) (arrivals rest)).symm

theorem Sound.sorted_rest (sound : p.Sound hooks (⟨.event n e record target,size⟩ :: rest)) :
    (arrivals (p.buffer ++ rest)).Pairwise (· < ·) := by
  have sorted := sound.sorted
  rw [arrivals_append,arrivals] at sorted
  rw [arrivals_append]
  exact sorted.sublist (Sublist.append_left (sublist_cons_self _ _) _)

/-- An event leaves the line for the books without being delivered. -/
theorem Sound.logged (sound : p.Sound hooks (⟨.event n e record target,size⟩ :: rest)) {fate : Fate E}
    (undelivered : ∀ c record e, fate ≠ .delivered c record e) :
    (p.log n fate).Sound hooks rest where
  fresh := sound.fresh
  unborn := sound.unborn
  scopes := sound.scopes
  bound := sound.bound
  currentScope := sound.currentScope
  primary := sound.primary
  closed := sound.closed
  items m e' record' target' size' member :=
    sound.items m e' record' target' size' (mem_line_cons member)
  tied m e' record' target' size' member :=
    sound.tied m e' record' target' size' (mem_line_cons member)
  delivered m c r e' member := by
    rcases mem_append.mp member with old | new
    · exact sound.delivered m c r e' old
    · cases mem_singleton.mp new
      exact absurd rfl (undelivered c (some r) e')
  told m c record e' member := by
    rcases mem_append.mp member with old | new
    · exact sound.told m c record e' old
    · cases mem_singleton.mp new
      exact absurd rfl (undelivered c record e')
  counted := sound.counted_log fate
  sorted := sound.sorted_rest
  ordered r := by
    obtain ⟨start,rest',split,short,starts,increasing,behind⟩ := sound.ordered r
    refine ⟨start,rest',?_,short,starts,increasing,fun m member k waits => behind m member k ?_⟩
    · change deliveries r (p.fates ++ [(n,fate)]) = _
      rw [deliveries_append,split]
      cases fate with
      | delivered c record e => exact absurd rfl (undelivered c record e)
      | dropped rule => exact append_nil _
      | failed => exact append_nil _
    · rw [queued_append] at waits ⊢
      rcases mem_append.mp waits with early | late
      · exact mem_append_left _ early
      · apply mem_append_right
        rw [queued]
        split
        · exact mem_cons_of_mem _ late
        · exact late

/-- An event of the line is delivered. Nothing of its scope waits in the buffer, or it is the
start that has just bound the scope. -/
theorem Sound.handed (sound : p.Sound hooks (⟨.event n e record target,size⟩ :: rest))
    (owned : p.ownedCohort target = some c)
    (turn : ∀ r, record = some r → queued r p.buffer = [] ∨ deliveries r p.fates = [] ∧
      ∃ e, p.arrived[n]? = some e ∧ (hooks.type e).starts) :
    (p.log n (.delivered c record e)).Sound hooks rest where
  fresh := sound.fresh
  unborn := sound.unborn
  scopes := sound.scopes
  bound := sound.bound
  currentScope := sound.currentScope
  primary := sound.primary
  closed := sound.closed
  items m e' record' target' size' member :=
    sound.items m e' record' target' size' (mem_line_cons member)
  tied m e' record' target' size' member :=
    sound.tied m e' record' target' size' (mem_line_cons member)
  delivered m d r e' member := by
    rcases mem_append.mp member with old | new
    · exact sound.delivered m d r e' old
    · cases mem_singleton.mp new
      obtain ⟨aimed,live,_⟩ := sound.items n e (some r) target size (mem_append_right _ mem_cons_self)
      rw [aimed r rfl] at owned
      obtain ⟨bound,owner⟩ := Option.filter_eq_some_iff.mp owned
      obtain ⟨key,found⟩ := live r (aimed r rfl)
      exact ⟨bound,owner,(sound.scopes key r found).1⟩
  told m d record' e' member := by
    rcases mem_append.mp member with old | new
    · exact sound.told m d record' e' old
    · cases mem_singleton.mp new
      exact sound.tied n e record target size (mem_append_right _ mem_cons_self)
  counted := sound.counted_log _
  sorted := sound.sorted_rest
  ordered r := by
    have sorted := sound.sorted
    obtain ⟨start,rest',split,short,starts,increasing,behind⟩ := sound.ordered r
    rw [queued_append] at behind
    rw [arrivals_append,arrivals] at sorted
    by_cases here : record = some r
    · have shown : deliveries r (p.log n (.delivered c record e)).fates =
          deliveries r p.fates ++ [n] := by
        change deliveries r (p.fates ++ [(n,_)]) = _
        rw [deliveries_append,deliveries,if_pos here]
        rfl
      have waiting : queued r (⟨.event n e record target,size⟩ :: rest) = n :: queued r rest := by
        rw [queued,if_pos here]
      have later : ∀ m ∈ queued r rest, n < m := by
        intro m member
        have after := pairwise_append.mp sorted
        exact rel_of_pairwise_cons after.2.1 (mem_arrivals_of_queued member)
      rw [waiting] at behind
      rcases turn r here with none_waits | ⟨undelivered,opens⟩
      · refine ⟨start,rest' ++ [n],?_,short,starts,?_,?_⟩
        · rw [shown,split,append_assoc]
        · apply pairwise_append.mpr
          refine ⟨increasing,pairwise_singleton _ _,fun m member k single => ?_⟩
          rw [mem_singleton.mp single]
          exact behind m member n (mem_append_right _ mem_cons_self)
        · intro m member k waits
          change k ∈ queued r (p.buffer ++ rest) at waits
          rw [queued_append,none_waits] at waits
          rcases mem_append.mp member with old | new
          · exact behind m old k (mem_append_right _ (mem_cons_of_mem _ waits))
          · rw [mem_singleton.mp new]
            exact later k waits
      · refine ⟨[n],[],?_,Nat.le_refl 1,?_,List.Pairwise.nil,fun m member => by cases member⟩
        · rw [shown,undelivered]
          rfl
        · intro m member
          rw [mem_singleton.mp member]
          exact opens
    · refine ⟨start,rest',?_,short,starts,increasing,fun m member k waits => behind m member k ?_⟩
      · change deliveries r (p.fates ++ [(n,_)]) = _
        rw [deliveries_append,split,deliveries,if_neg here]
        exact append_nil _
      · rw [queued_append] at waits
        rw [queued,if_neg here]
        exact waits

/-- Buffer and line are cut anew. -/
theorem Sound.relined {line line' buffer : List (Item E)}
    (sound : p.Sound hooks line) (bytes : Nat) (shut : p.closed → buffer = [])
    (same : arrivals (buffer ++ line') = arrivals (p.buffer ++ line))
    (same' : ∀ r, queued r (buffer ++ line') = queued r (p.buffer ++ line))
    (members : ∀ n e record target size, ⟨.event n e record target,size⟩ ∈ buffer ++ line' →
      ∃ e' size', ⟨.event n e' record target,size'⟩ ∈ p.buffer ++ line ∧
        (p.Tied hooks n e' record → p.Tied hooks n e record)) :
    ({p with buffer := buffer,bufferBytes := bytes} : Router E O F).Sound hooks line' where
  fresh := sound.fresh
  unborn := sound.unborn
  scopes := sound.scopes
  bound := sound.bound
  currentScope := sound.currentScope
  primary := sound.primary
  closed := shut
  items n e record target size member := by
    obtain ⟨e',size',inside,_⟩ := members n e record target size member
    exact sound.items n e' record target size' inside
  tied n e record target size member := by
    obtain ⟨e',size',inside,carries⟩ := members n e record target size member
    exact carries (sound.tied n e' record target size' inside)
  delivered := sound.delivered
  told := sound.told
  counted := by
    have counted := sound.counted
    rw [← same] at counted
    exact counted
  sorted := by
    have sorted := sound.sorted
    rw [← same] at sorted
    exact sorted
  ordered r := by
    obtain ⟨start,rest,split,short,starts,increasing,behind⟩ := sound.ordered r
    rw [← same'] at behind
    exact ⟨start,rest,split,short,starts,increasing,behind⟩

/-- An event of the line goes back into the buffer. -/
theorem Sound.held
    (sound : p.Sound hooks (⟨.event n e record target,size⟩ :: rest)) (running : p.closed = false)
    (tied : p.Tied hooks n e' record) (size' bytes : Nat) :
    ({p with buffer := p.buffer ++ [⟨.event n e' record target,size'⟩],bufferBytes := bytes} :
      Router E O F).Sound hooks rest := by
  refine sound.relined bytes (fun shut => ?_) ?_ (fun r => ?_) ?_
  · rw [running] at shut
    cases shut
  · rw [append_assoc,arrivals_append,arrivals_append p.buffer]
    rfl
  · rw [append_assoc,queued_append,queued_append r p.buffer]
    rfl
  · intro m e'' record' target' size'' member
    rw [append_assoc] at member
    rcases mem_append.mp member with early | late
    · exact ⟨e'',size'',mem_append_left _ early,id⟩
    · rcases mem_cons.mp late with same | late
      · cases same
        exact ⟨e,size,mem_append_right _ mem_cons_self,fun _ => tied⟩
      · exact ⟨e'',size'',mem_append_right _ (mem_cons_of_mem _ late),id⟩

theorem Sound.gateHeld {id : Nat}
    (sound : p.Sound hooks (⟨.gate id size cohort,bytes⟩ :: rest)) (running : p.closed = false)
    (bytes' total : Nat) :
    ({p with buffer := p.buffer ++ [⟨.gate id size cohort,bytes'⟩],bufferBytes := total} :
      Router E O F).Sound hooks rest := by
  refine sound.relined total (fun shut => ?_) ?_ (fun r => ?_) ?_
  · rw [running] at shut
    cases shut
  · rw [append_assoc,arrivals_append,arrivals_append p.buffer]
    rfl
  · rw [append_assoc,queued_append,queued_append r p.buffer]
    rfl
  · intro m e record target size' member
    rw [append_assoc] at member
    rcases mem_append.mp member with early | late
    · exact ⟨e,size',mem_append_left _ early,fun tied => tied⟩
    · rcases mem_cons.mp late with same | late
      · cases same
      · exact ⟨e,size',mem_append_right _ (mem_cons_of_mem _ late),fun tied => tied⟩

theorem Sound.gatePassed {id : Nat}
    (sound : p.Sound hooks (⟨.gate id size cohort,bytes⟩ :: rest)) : p.Sound hooks rest := by
  refine sound.relined p.bufferBytes sound.closed ?_ (fun r => ?_) ?_
  · rw [arrivals_append,arrivals_append]
    rfl
  · rw [queued_append,queued_append]
    rfl
  · intro m e record target size' member
    rcases mem_append.mp member with early | late
    · exact ⟨e,size',mem_append_left _ early,fun tied => tied⟩
    · exact ⟨e,size',mem_append_right _ (mem_cons_of_mem _ late),fun tied => tied⟩

/-- The line is given up as a whole. -/
theorem Sound.giveUp (sound : p.Sound hooks line) (undelivered : ∀ c record e, fate ≠ .delivered c record e) :
    (p.giveUp line fate).Sound hooks [] := by
  induction line generalizing p with
  | nil =>
    have same : p.giveUp [] fate = p := by
      unfold giveUp
      rw [arrivals,map_nil,append_nil]
    rw [same]
    exact sound
  | cons item rest ih =>
    obtain ⟨payload,size⟩ := item
    cases payload with
    | event n e record target =>
      have step := ih (sound.logged undelivered)
      have same : (p.log n fate).giveUp rest fate =
          p.giveUp (⟨.event n e record target,size⟩ :: rest) fate := by
        unfold giveUp log
        rw [arrivals,map_cons,append_assoc]
        rfl
      rw [← same]
      exact step
    | gate id bytes cohort => exact ih (sound.gatePassed)

/-- What is buffered is the payload itself, but for the snapshot of an event. -/
theorem bufferEvent_ok (buffered : bufferEvent hooks p payload = .ok q) :
    ∃ item bytes, measure hooks payload = some item ∧
      q = {p with buffer := p.buffer ++ [item],bufferBytes := bytes} := by
  unfold bufferEvent at buffered
  split at buffered
  · cases buffered
  · rename_i item measured
    split at buffered
    · cases buffered
    · cases buffered
      exact ⟨item,_,measured,rfl⟩

theorem measure_event (measured : measure hooks (.event n e record target) = some item) :
    ∃ e' size, hooks.snapshot e = some (e',size) ∧ item = ⟨.event n e' record target,size⟩ := by
  obtain ⟨taken,read,rfl⟩ := Option.map_eq_some_iff.mp measured
  exact ⟨taken.1,taken.2,read,rfl⟩

theorem measure_gate {id : Nat} (measured : measure hooks (.gate id size cohort) = some item) :
    ∃ bytes, item = ⟨.gate id size cohort,bytes⟩ := by
  obtain ⟨bytes,_,rfl⟩ := Option.map_eq_some_iff.mp measured
  exact ⟨bytes,rfl⟩

/-- What one round of a flush, or one event that is passed on, leaves behind. -/
structure Rounded (hooks : Hooks E O F) (p : Router E O F) (rest : List (Item E))
    (result : Router E O F × Option Fault) : Prop where
  sound : result.1.Sound hooks rest
  quiet : result.1.Quiet
  running : result.1.closed = false
  follows : p.Follows result.1
  honest : result.2 = none → ∀ n, (n,.failed) ∈ result.1.fates → (n,.failed) ∈ p.fates

theorem Rounded.hold (sound : p.Sound hooks (⟨.event n e record target,size⟩ :: rest)) (quiet : p.Quiet)
    (running : p.closed = false) (unowned : p.ownedCohort target = none)
    (tied : p.Tied hooks n event record) :
    Rounded hooks p rest (p.hold hooks n event record target) := by
  unfold Router.hold
  split
  · rename_i q buffered
    obtain ⟨item,bytes,measured,rfl⟩ := bufferEvent_ok buffered
    obtain ⟨e',size',taken,rfl⟩ := measure_event measured
    refine ⟨sound.held running (tied.snapshot taken) _ _,?_,running,⟨fun _ _ => id,fun _ _ => id⟩,fun _ _ => id⟩
    intro m e'' record' target' size'' member
    rcases mem_append.mp member with old | new
    · exact quiet m e'' record' target' size'' old
    · cases mem_singleton.mp new
      exact unowned
  · exact ⟨sound.logged (by rintro _ _ _ ⟨⟩),quiet,running,⟨fun _ _ => id,fun _ _ => id⟩,by rintro ⟨⟩⟩

theorem Rounded.hand (sound : p.Sound hooks (⟨.event n e record target,size⟩ :: rest)) (quiet : p.Quiet)
    (running : p.closed = false) (owned : p.ownedCohort target = some c) :
    Rounded hooks p rest (p.hand hooks n e record c) := by
  unfold Router.hand
  have met := Same.meet p e record c
  dsimp only
  split
  · rename_i q delivered
    have same := met.trans (Same.deliver delivered)
    have owned' : q.ownedCohort target = some c := (same.ownedCohort target).trans owned
    refine ⟨(same.sound sound).handed owned' (fun r here => .inl ?_),same.quiet quiet,
      same.closed.trans running,
      ⟨same.follows.bindings,same.follows.scopes⟩,fun _ m member => ?_⟩
    · -- what waits of the scope would have the same owner to go to
      rw [same.buffer]
      apply eq_nil_iff_forall_not_mem.mpr
      intro m waits
      obtain ⟨e',target',size',inside⟩ := mem_queued waits
      have unowned := quiet m e' (some r) target' size' inside
      have aimed' := (sound.items m e' (some r) target' size' (mem_append_left _ inside)).1 r rfl
      have aimed := (sound.items n e record target size (mem_append_right _ mem_cons_self)).1 r here
      rw [aimed',← aimed,owned] at unowned
      cases unowned
    · rcases mem_append.mp member with old | new
      · rw [← same.fates]
        exact old
      · cases mem_singleton.mp new
  · exact ⟨(met.sound sound).logged (by rintro _ _ _ ⟨⟩),quiet,running,⟨fun _ _ => id,fun _ _ => id⟩,
      by rintro ⟨⟩⟩

theorem flushItem_rounded (sound : p.Sound hooks (item :: rest)) (quiet : p.Quiet)
    (running : p.closed = false) : Rounded hooks p rest (p.flushItem hooks item) := by
  obtain ⟨payload,size⟩ := item
  cases payload with
  | event n e record target =>
    unfold flushItem
    dsimp only
    split
    · rename_i c owned
      exact .hand sound quiet running owned
    · rename_i unowned
      exact .hold sound quiet running unowned
        (sound.tied n e record target size (mem_append_right _ mem_cons_self))
  | gate name bytes cohort =>
    have presented : ∀ owner, Rounded hooks p rest (p.present name owner,none) := fun owner =>
      have same : p.Same (p.present name owner) :=
        ⟨fun _ => rfl,fun _ => rfl,fun _ => rfl,rfl,rfl,rfl,rfl,rfl,rfl,rfl,rfl,rfl⟩
      ⟨same.sound sound.gatePassed,same.quiet quiet,running,same.follows,fun _ _ => id⟩
    unfold flushItem
    dsimp only
    split
    · exact presented none
    split
    · exact presented _
    · split
      · rename_i q buffered
        obtain ⟨item,bytes',measured,rfl⟩ := bufferEvent_ok buffered
        obtain ⟨bytes'',rfl⟩ := measure_gate measured
        refine ⟨sound.gateHeld running _ _,?_,running,⟨fun _ _ => id,fun _ _ => id⟩,fun _ _ => id⟩
        intro m e' record' target' size' member
        rcases mem_append.mp member with old | new
        · exact quiet m e' record' target' size' old
        · cases mem_singleton.mp new
      · exact ⟨sound.gatePassed,quiet,running,⟨fun _ _ => id,fun _ _ => id⟩,fun _ _ => id⟩

theorem flushItems_rounded (sound : p.Sound hooks line) (quiet : p.Quiet) (running : p.closed = false) :
    Rounded hooks p [] (p.flushItems hooks line) := by
  induction line generalizing p with
  | nil => exact ⟨sound,quiet,running,⟨fun _ _ => id,fun _ _ => id⟩,fun _ _ => id⟩
  | cons item rest ih =>
    have round := flushItem_rounded sound quiet running
    unfold flushItems
    split
    · rename_i q kept
      rw [kept] at round
      have rounds := ih round.sound round.quiet round.running
      exact ⟨rounds.sound,rounds.quiet,rounds.running,round.follows.trans rounds.follows,
        fun fine n member => round.honest rfl n (rounds.honest fine n member)⟩
    · rename_i q fault thrown
      rw [thrown] at round
      exact ⟨round.sound.giveUp (by rintro _ _ _ ⟨⟩),round.quiet,round.running,
        ⟨round.follows.bindings,round.follows.scopes⟩,by rintro ⟨⟩⟩

end Router

end GjcRemote.LiveInput
