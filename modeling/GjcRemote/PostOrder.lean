import Mathlib.Logic.Relation
import Mathlib.Data.List.Dedup
import Mathlib.Algebra.BigOperators.Group.List.Basic
import Mathlib.Algebra.Ring.Nat

/-! Depth-first walks with an explicit stack, and graphs without cycles. The walk lists every
element after the ones that it leads to and that do not lead back to it. -/
namespace GjcRemote.PostOrder

open List
variable {α : Type}

def Acyclic (r : α → α → Prop) : Prop := ∀ x, ¬ Relation.TransGen r x x

variable {x : α}

/-- A path over new edges into one target goes to a start of one of them, and on from the target. -/
theorem transGen_edges {source : α → Prop}
    (edges : ∀ x y, r' x y → r x y ∨ (source x ∧ y = target)) (path : Relation.TransGen r' x y) :
    Relation.TransGen r x y ∨
      ((∃ z, source z ∧ Relation.ReflTransGen r x z) ∧ Relation.ReflTransGen r target y) := by
  induction path with
  | single last =>
    rcases edges _ _ last with old | ⟨start,rfl⟩
    · exact .inl (.single old)
    · exact .inr ⟨⟨_,start,.refl⟩,.refl⟩
  | tail _ last ih =>
    rcases edges _ _ last with old | ⟨start,rfl⟩
    · rcases ih with path | ⟨before,after⟩
      · exact .inl (path.tail old)
      · exact .inr ⟨before,after.tail old⟩
    · rcases ih with path | ⟨before,-⟩
      · exact .inr ⟨⟨_,start,path.to_reflTransGen⟩,.refl⟩
      · exact .inr ⟨before,.refl⟩

/-- Edges into a target that leads to none of their starts close no cycle. -/
theorem Acyclic.edges {source : α → Prop} (acyclic : Acyclic r)
    (edges : ∀ x y, r' x y → r x y ∨ (source x ∧ y = target))
    (away : ∀ x, source x → ¬ Relation.ReflTransGen r target x) : Acyclic r' := by
  intro x cycle
  rcases transGen_edges edges cycle with old | ⟨⟨z,start,before⟩,after⟩
  · exact acyclic x old
  · exact away z start (after.trans before)

/-- An element is `true` on the stack when the ones that it leads to were put above it. -/
structure Walk (α : Type) where
  stack : List (α × Bool)
  visited : List α
  ordered : List α

variable [DecidableEq α] (next : α → List α)

def Walk.step (walk : Walk α) : Walk α :=
  match walk.stack with
  | [] => walk
  | (current,true) :: rest => {walk with stack := rest,ordered := walk.ordered ++ [current]}
  | (current,false) :: rest =>
    if current ∈ walk.visited then {walk with stack := rest}
    else ⟨(next current).reverse.map (fun x => (x,false)) ++ (current,true) :: rest,
      current :: walk.visited,walk.ordered⟩

def Walk.run : Nat → Walk α → Walk α
  | 0,walk => walk
  | fuel + 1,walk => (walk.step next).run fuel

/-- What is left to do: the stack, and what the unvisited elements will put on it. -/
def Walk.measure (all : List α) (walk : Walk α) : Nat :=
  walk.stack.length + ((all.filter fun x => x ∉ walk.visited).map fun x => 1 + (next x).length).sum

theorem measure_visit {all : List α} (distinct : all.Nodup) (inside : x ∈ all)
    (fresh : x ∉ visited) (weight : α → Nat) :
    ((all.filter fun y => y ∉ visited).map weight).sum =
      weight x + ((all.filter fun y => y ∉ x :: visited).map weight).sum := by
  induction all with
  | nil => cases inside
  | cons y rest ih =>
    obtain ⟨other,distinct⟩ := nodup_cons.mp distinct
    by_cases here : y = x
    · subst here
      have same : (rest.filter fun z => z ∉ y :: visited) = rest.filter fun z => z ∉ visited := by
        apply filter_congr
        intro z member
        have ne : z ≠ y := fun same => other (same ▸ member)
        simp [ne]
      simp only [filter_cons,fresh,not_false_eq_true,decide_true,if_true,map_cons,sum_cons,
        mem_cons_self,not_true_eq_false,decide_false,Bool.false_eq_true,if_false,same]
    · have later : x ∈ rest := (mem_cons.mp inside).resolve_left (Ne.symm here)
      have ih := ih distinct later
      by_cases seen : y ∈ visited
      · simpa [filter_cons,here,seen] using ih
      · simp [here,seen] at ih ⊢
        omega

/-- The walk stays among the elements, which lead to one another only. -/
structure Walk.Inside (all : List α) (walk : Walk α) : Prop where
  distinct : all.Nodup
  stack : ∀ x ∈ walk.stack, x.1 ∈ all
  visited : ∀ x ∈ walk.visited, x ∈ all
  closed : ∀ x ∈ all, ∀ y ∈ next x, y ∈ all

variable {next} {all : List α} {walk : Walk α}

theorem Walk.Inside.step (inside : walk.Inside next all) : (walk.step next).Inside next all := by
  obtain ⟨distinct,stack,visited,closed⟩ := inside
  cases shape : walk.stack with
  | nil => simpa [Walk.step,shape] using (⟨distinct,stack,visited,closed⟩ : walk.Inside next all)
  | cons head rest =>
    obtain ⟨current,expanded⟩ := head
    rw [shape] at stack
    have here : current ∈ all := stack _ mem_cons_self
    have below : ∀ x ∈ rest, x.1 ∈ all := fun x member => stack x (mem_cons_of_mem _ member)
    cases expanded with
    | true =>
      simp only [Walk.step,shape]
      exact ⟨distinct,below,visited,closed⟩
    | false =>
      simp only [Walk.step,shape]
      split
      · exact ⟨distinct,below,visited,closed⟩
      · refine ⟨distinct,fun x member => ?_,fun x member => ?_,closed⟩
        · simp only [mem_append,mem_map,mem_reverse,mem_cons] at member
          rcases member with ⟨y,found,rfl⟩ | rfl | later
          · exact closed current here y found
          · exact here
          · exact below x later
        · rcases mem_cons.mp member with rfl | later
          · exact here
          · exact visited x later

theorem Walk.Inside.run (inside : walk.Inside next all) (fuel : Nat) : (walk.run next fuel).Inside next all := by
  induction fuel generalizing walk with
  | zero => exact inside
  | succ fuel ih => exact ih inside.step

theorem measure_step (inside : walk.Inside next all) (busy : walk.stack ≠ []) :
    (walk.step next).measure next all < walk.measure next all := by
  unfold Walk.step
  split
  · next empty => exact absurd empty busy
  · next current rest eq => simp [Walk.measure,eq]
  · next current rest eq =>
    split
    · simp [Walk.measure,eq]
    · next fresh =>
      have here : current ∈ all := inside.stack (current,false) (by simp [eq])
      have visit := measure_visit inside.distinct here fresh fun x => 1 + (next x).length
      simp only [Walk.measure,eq,visit,length_append,length_map,length_reverse,length_cons]
      omega

theorem run_idle (idle : walk.stack = []) (fuel : Nat) : walk.run next fuel = walk := by
  induction fuel with
  | zero => rfl
  | succ fuel ih =>
    have still : walk.step next = walk := by simp [Walk.step,idle]
    rw [Walk.run,still,ih]

/-- Enough steps empty the stack. -/
theorem run_empties (inside : walk.Inside next all) (enough : walk.measure next all ≤ fuel) :
    (walk.run next fuel).stack = [] := by
  induction fuel generalizing walk with
  | zero =>
    rw [Walk.measure] at enough
    exact length_eq_zero_iff.mp (by simp only [Walk.run]; omega)
  | succ fuel ih =>
    by_cases idle : walk.stack = []
    · rw [run_idle idle]
      exact idle
    · have less := measure_step inside idle
      exact ih inside.step (by omega)

section

variable (next : α → List α)

/-- What was visited stays visited. -/
theorem step_visited (walk : Walk α) (seen : x ∈ walk.visited) :
    x ∈ (walk.step next).visited := by
  unfold Walk.step
  split
  · exact seen
  · exact seen
  · split
    · exact seen
    · exact mem_cons_of_mem _ seen

theorem run_visited (fuel : Nat) :
    ∀ walk : Walk α, x ∈ walk.visited → x ∈ (walk.run next fuel).visited := by
  induction fuel with
  | zero => exact fun _ seen => seen
  | succ fuel ih => exact fun walk seen => ih _ (step_visited next walk seen)

/-- The element that a walk starts from is visited. -/
theorem run_visits (walk : Walk α) (x : α) (fuel : Nat) :
    x ∈ ({walk with stack := [(x,false)]}.run next (1 + fuel)).visited := by
  rw [Nat.add_comm,Walk.run]
  apply run_visited
  simp only [Walk.step]
  split
  · assumption
  · exact mem_cons_self

/-- Every element comes after the ones that it leads to, but for those that lead back to it. -/
def Ordered (ordered : List α) : Prop :=
  ∀ before x after, ordered = before ++ x :: after → ∀ y ∈ next x,
    y ∈ before ∨ Relation.ReflTransGen (fun a b => b ∈ next a) y x

end

variable {ordered : List α}

omit [DecidableEq α] in
theorem Ordered.append (sorted : Ordered next ordered)
    (known : ∀ y ∈ next x, y ∈ ordered ∨ Relation.ReflTransGen (fun a b => b ∈ next a) y x) :
    Ordered next (ordered ++ [x]) := by
  intro before z after eq
  rcases append_eq_append_iff.mp eq with ⟨more,rfl,tail⟩ | ⟨more,rfl,tail⟩
  · cases more with
    | nil =>
      simp only [nil_append,List.cons.injEq] at tail
      simpa [← tail.1] using known
    | cons w more => simp at tail
  · cases more with
    | nil =>
      simp only [nil_append,List.cons.injEq] at tail
      simpa [tail.1] using known
    | cons w more =>
      simp only [cons_append,List.cons.injEq] at tail
      exact sorted before z more (by rw [tail.1])

/-- What an element of the stack that was visited leads to is visited or above it, and it leads
to all that is above it. -/
def Waits (next : α → List α) (visited : List α) : List α → List (α × Bool) → Prop
  | _,[] => True
  | above,(x,expanded) :: below =>
    (expanded = true → (∀ y ∈ next x, y ∈ visited ∨ y ∈ above) ∧
      ∀ y ∈ above, Relation.TransGen (fun a b => b ∈ next a) x y) ∧
    Waits next visited (x :: above) below

variable {stack : List (α × Bool)}

omit [DecidableEq α] in
/-- Something else is above: what went is visited, and what came is led to. -/
theorem Waits.change (waits : Waits next visited above stack) (seen : ∀ y ∈ visited, y ∈ visited')
    (kept : ∀ y ∈ above, y ∈ visited' ∨ y ∈ above')
    (led : ∀ x, (∀ y ∈ above, Relation.TransGen (fun a b => b ∈ next a) x y) →
      ∀ y ∈ above', Relation.TransGen (fun a b => b ∈ next a) x y) :
    Waits next visited' above' stack := by
  induction stack generalizing above above' with
  | nil => trivial
  | cons head below ih =>
    obtain ⟨x,expanded⟩ := head
    refine ⟨fun yes => ?_,ih waits.2 ?_ ?_⟩
    · obtain ⟨known,leads⟩ := waits.1 yes
      refine ⟨fun y member => ?_,led x leads⟩
      rcases known y member with found | found
      · exact .inl (seen y found)
      · exact kept y found
    · intro y member
      rcases mem_cons.mp member with rfl | later
      · exact .inr mem_cons_self
      · exact (kept y later).imp_right (mem_cons_of_mem _)
    · intro z leads y member
      rcases mem_cons.mp member with rfl | later
      · exact leads y mem_cons_self
      · exact led z (fun y found => leads y (mem_cons_of_mem _ found)) y later

omit [DecidableEq α] in
/-- An element that was put on the stack before is led to from below. -/
theorem Waits.leads (waits : Waits next visited above stack) (member : (x,true) ∈ stack) :
    ∀ y ∈ above, Relation.TransGen (fun a b => b ∈ next a) x y := by
  induction stack generalizing above with
  | nil => cases member
  | cons head below ih =>
    intro y found
    rcases mem_cons.mp member with same | later
    · cases same
      exact (waits.1 rfl).2 y found
    · exact ih waits.2 later y (mem_cons_of_mem _ found)

omit [DecidableEq α] in
/-- New elements are put on the stack above the one that leads to them. -/
theorem Waits.push (elements : List α)
    (waits : Waits next visited (elements.reverse ++ above) stack) :
    Waits next visited above (elements.map (fun x => (x,false)) ++ stack) := by
  induction elements generalizing above with
  | nil => exact waits
  | cons x rest ih =>
    refine ⟨fun none => absurd none Bool.false_ne_true,ih ?_⟩
    simpa using waits

def expanded : List (α × Bool) → List α
  | [] => []
  | (x,true) :: rest => x :: expanded rest
  | (_,false) :: rest => expanded rest

omit [DecidableEq α] in
theorem mem_expanded (found : x ∈ expanded stack) : (x,true) ∈ stack := by
  induction stack with
  | nil => cases found
  | cons head rest ih =>
    obtain ⟨y,seen⟩ := head
    cases seen with
    | false => exact mem_cons_of_mem _ (ih found)
    | true =>
      rcases mem_cons.mp found with rfl | later
      · exact mem_cons_self
      · exact mem_cons_of_mem _ (ih later)

omit [DecidableEq α] in
@[simp] theorem expanded_push (elements : List α) (stack : List (α × Bool)) :
    expanded (elements.map (fun x => (x,false)) ++ stack) = expanded stack := by
  induction elements with
  | nil => rfl
  | cons x rest ih => exact ih

structure Walk.Good (next : α → List α) (walk : Walk α) : Prop where
  visited : ∀ x, x ∈ walk.visited ↔ x ∈ walk.ordered ++ expanded walk.stack
  distinct : (walk.ordered ++ expanded walk.stack).Nodup
  sorted : Ordered next walk.ordered
  waits : Waits next walk.visited [] walk.stack

theorem Walk.Good.step (good : walk.Good next) : (walk.step next).Good next := by
  obtain ⟨visited,distinct,sorted,waits⟩ := good
  cases shape : walk.stack with
  | nil => simpa [Walk.step,shape] using (⟨visited,distinct,sorted,waits⟩ : walk.Good next)
  | cons head rest =>
    obtain ⟨current,seen⟩ := head
    rw [shape] at visited distinct waits
    cases seen with
    | true =>
      simp only [Walk.step,shape]
      have here : current ∈ walk.visited := (visited current).mpr (by simp [expanded])
      have known : ∀ y ∈ next current,
          y ∈ walk.ordered ∨ Relation.ReflTransGen (fun a b => b ∈ next a) y current := by
        intro y member
        have found : y ∈ walk.visited := by simpa using (waits.1 rfl).1 y member
        rcases mem_append.mp ((visited y).mp found) with listed | below
        · exact .inl listed
        rcases mem_cons.mp below with rfl | below
        · exact .inr .refl
        · -- what is below on the stack leads to all above it
          exact .inr (waits.2.leads (mem_expanded below) current mem_cons_self).to_reflTransGen
      refine ⟨?_,?_,sorted.append known,?_⟩
      · simpa [expanded] using visited
      · simpa [expanded] using distinct
      · refine waits.2.change (fun y found => found) ?_ ?_
        · intro y member
          rw [mem_singleton.mp member]
          exact .inl here
        · intro x _ y none
          cases none
    | false =>
      simp only [Walk.step,shape]
      split
      · rename_i here
        refine ⟨visited,distinct,sorted,waits.2.change (fun y found => found) ?_ ?_⟩
        · intro y member
          rw [mem_singleton.mp member]
          exact .inl here
        · intro x _ y none
          cases none
      · rename_i fresh
        have away : current ∉ walk.ordered ++ expanded rest := fun found => fresh ((visited current).mpr found)
        refine ⟨fun x => ?_,?_,sorted,?_⟩
        · have before := visited x
          simp only [expanded,mem_append,expanded_push,mem_cons] at before ⊢
          tauto
        · simp only [expanded_push,expanded]
          exact nodup_middle.mpr (nodup_cons.mpr ⟨away,distinct⟩)
        · apply Waits.push
          simp only [reverse_reverse,append_nil]
          refine ⟨fun _ => ⟨fun y member => .inr member,fun y member => .single member⟩,?_⟩
          refine waits.2.change (fun y found => mem_cons_of_mem _ found) ?_ ?_
          · intro y member
            rw [mem_singleton.mp member]
            exact .inl mem_cons_self
          · intro x leads y member
            have here := leads current mem_cons_self
            rcases mem_cons.mp member with rfl | later
            · exact here
            · exact here.tail later

theorem Walk.Good.run (good : walk.Good next) (fuel : Nat) : (walk.run next fuel).Good next := by
  induction fuel generalizing walk with
  | zero => exact good
  | succ fuel ih => exact ih good.step

/-- The steps that suffice for a walk from one element. -/
def enough (next : α → List α) (all : List α) : Nat := 1 + (all.map fun x => 1 + (next x).length).sum

/-- A walk from each of the elements, which shares what the others visited. -/
def Walk.visitAll (next : α → List α) (fuel : Nat) (walk : Walk α) : List α → Walk α
  | [] => walk
  | x :: rest => Walk.visitAll next fuel ({walk with stack := [(x,false)]}.run next fuel) rest

omit [DecidableEq α] in
theorem filter_sum_le (all : List α) (p : α → Bool) (weight : α → Nat) :
    ((all.filter p).map weight).sum ≤ (all.map weight).sum := by
  induction all with
  | nil => exact Nat.le_refl _
  | cons x rest ih =>
    by_cases here : p x = true
    · simpa [here] using ih
    · simp only [filter_cons,here,Bool.false_eq_true,if_false,map_cons,sum_cons]
      omega

structure Walk.Done (next : α → List α) (all starts : List α) (walk : Walk α) : Prop where
  listed : ∀ x ∈ starts, x ∈ walk.ordered
  inside : ∀ x ∈ walk.ordered, x ∈ all
  distinct : walk.ordered.Nodup
  sorted : Ordered next walk.ordered

/-- Walks from all the elements list each of them once, after the ones that it leads to and that
do not lead back. -/
theorem visitAll_done (starts : List α) :
    ∀ (walk : Walk α) (done : List α), walk.Good next → walk.Inside next all → walk.stack = [] →
      (∀ x ∈ starts, x ∈ all) → (∀ x ∈ done, x ∈ walk.ordered) →
      (walk.visitAll next (enough next all) starts).Done next all (done ++ starts) := by
  induction starts with
  | nil =>
    intro walk done good inside idle _ before
    have distinct := good.distinct
    have visited := good.visited
    simp only [idle,expanded,append_nil] at distinct visited
    refine ⟨?_,fun x member => inside.visited x ((visited x).mpr member),distinct,good.sorted⟩
    simpa [Walk.visitAll] using before
  | cons x rest ih =>
    intro walk done good inside idle within before
    let begun : Walk α := {walk with stack := [(x,false)]}
    have start : begun.Good next := by
      refine ⟨?_,?_,good.sorted,⟨fun none => absurd none Bool.false_ne_true,trivial⟩⟩
      · simpa [begun,idle,expanded] using good.visited
      · simpa [begun,idle,expanded] using good.distinct
    have begins : begun.Inside next all := by
      refine ⟨inside.distinct,fun y member => ?_,inside.visited,inside.closed⟩
      rw [mem_singleton.mp member]
      exact within x mem_cons_self
    have measured : begun.measure next all ≤ enough next all := by
      have less := filter_sum_le all (fun y => y ∉ walk.visited) fun y => 1 + (next y).length
      simp only [Walk.measure,begun,enough,length_singleton]
      omega
    have after := start.run (enough next all)
    have empty := run_empties begins measured
    have listed : ∀ y ∈ (begun.run next (enough next all)).visited, y ∈ (begun.run next (enough next all)).ordered := by
      intro y seen
      simpa [empty,expanded] using (after.visited y).mp seen
    have result := ih (begun.run next (enough next all)) (done ++ [x]) after (begins.run _) empty
      (fun y member => within y (mem_cons_of_mem _ member)) ?_
    · simpa [Walk.visitAll,begun] using result
    · intro y member
      rcases mem_append.mp member with earlier | here
      · exact listed y (run_visited next _ begun ((good.visited y).mpr (mem_append_left _ (before y earlier))))
      · rw [mem_singleton.mp here]
        exact listed x (run_visits next walk x _)

def Walk.empty : Walk α := ⟨[],[],[]⟩

theorem visitAll_empty (distinct : all.Nodup)
    (closed : ∀ x ∈ all, ∀ y ∈ next x, y ∈ all) (starts : List α) (within : ∀ x ∈ starts, x ∈ all) :
    (Walk.empty.visitAll next (enough next all) starts).Done next all starts := by
  have good : (Walk.empty : Walk α).Good next := by
    refine ⟨fun x => Iff.rfl,nodup_nil,?_,trivial⟩
    intro before x after eq
    simp [Walk.empty] at eq
  have nothing : ∀ x ∈ ([] : List α), x ∈ all := fun _ none => absurd none not_mem_nil
  exact visitAll_done starts .empty [] good
    ⟨distinct,fun _ none => absurd none not_mem_nil,nothing,closed⟩ rfl within
    fun _ none => absurd none not_mem_nil

end GjcRemote.PostOrder
