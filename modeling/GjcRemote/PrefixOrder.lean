import Mathlib.Data.List.Chain
import Mathlib.Data.List.Sort

/-! Lists in lexicographic order: the lists with one prefix stand side by side, so that what
holds of neighbours with a prefix in common holds of all of them. -/
namespace GjcRemote.PrefixOrder

open List
variable {κ α : Type} {cmp : κ → κ → Ordering}

def common [DecidableEq κ] : List κ → List κ → Nat
  | a :: as,b :: bs => if a = b then common as bs + 1 else 0
  | _,_ => 0

theorem take_common [DecidableEq κ] (as bs : List κ) : as.take (common as bs) = bs.take (common as bs) := by
  induction as generalizing bs with
  | nil => cases bs <;> simp [common]
  | cons a as ih =>
    cases bs with
    | nil => simp [common]
    | cons b bs =>
      rw [common]
      split
      · next same => simp [same,ih bs]
      · simp

/-- Two lists share no more than their longest prefix. -/
theorem le_common [DecidableEq κ] {as bs : List κ} {k : Nat} (same : as.take k = bs.take k)
    (inside : k ≤ as.length) : k ≤ common as bs := by
  induction as generalizing bs k with
  | nil =>
    obtain rfl : k = 0 := by simpa using inside
    exact Nat.zero_le _
  | cons a as ih =>
    cases k with
    | zero => exact Nat.zero_le _
    | succ k =>
      cases bs with
      | nil => simp at same
      | cons b bs =>
        simp only [take_succ_cons,List.cons.injEq] at same
        rw [common,if_pos same.1]
        exact Nat.succ_le_succ (ih same.2 (by simpa using inside))

theorem prefix_iff_common [DecidableEq κ] {as bs : List κ} : as <+: bs ↔ common as bs = as.length := by
  constructor
  · rintro ⟨rest,rfl⟩
    have same := take_common as (as ++ rest)
    by_contra more
    induction as with
    | nil => simp [common] at more
    | cons a as ih =>
      simp only [cons_append,common,if_true,length_cons] at more
      exact ih (take_common _ _) (by omega)
  · intro whole
    have same := take_common as bs
    rw [whole,take_length] at same
    exact same ▸ take_prefix _ _

/-- What stands between two lists with a prefix in common has it too. -/
theorem take_between [Std.TransCmp cmp] [Std.LawfulEqCmp cmp]
    (ab : (List.compareLex cmp a b).isLE) (bc : (List.compareLex cmp b c).isLE)
    (same : a.take k = c.take k) : a.take k = b.take k := by
  induction k generalizing a b c with
  | zero => simp
  | succ k ih =>
    cases a with
    | nil =>
      have none : c = [] := by simpa using same.symm
      subst none
      cases b with
      | nil => rfl
      | cons y b => simp [List.compareLex_cons_nil] at bc
    | cons x a =>
      cases c with
      | nil => simp at same
      | cons z c =>
        simp only [take_succ_cons,List.cons.injEq] at same
        obtain ⟨rfl,same⟩ := same
        cases b with
        | nil => simp [List.compareLex_cons_nil] at ab
        | cons y b =>
          rw [List.compareLex_cons_cons] at ab bc
          have xy : cmp x y = .eq := by
            cases first : cmp x y with
            | eq => rfl
            | gt => simp [first] at ab
            | lt =>
              have back : cmp y x = .gt := Std.OrientedCmp.gt_of_lt first
              simp [back] at bc
          have equal := Std.LawfulEqCmp.eq_of_compare xy
          subst equal
          simp only [xy,Ordering.eq_then] at ab bc
          simp only [take_succ_cons,ih ab bc same]

/-- A list is not before its own prefix. -/
theorem eq_of_prefix_of_isLE [Std.ReflCmp cmp] (above : b <+: a)
    (ordered : (List.compareLex cmp a b).isLE) : a = b := by
  obtain ⟨rest,rfl⟩ := above
  induction b with
  | nil =>
    cases rest with
    | nil => rfl
    | cons x rest => simp [List.compareLex_cons_nil] at ordered
  | cons x b ih =>
    have equal : cmp x x = .eq := Std.ReflCmp.compare_self
    rw [cons_append,List.compareLex_cons_cons,equal,Ordering.eq_then] at ordered
    rw [cons_append,ih ordered]

/-- A relation of neighbours that share a prefix is one of all that share it. -/
theorem pairwise_of_neighbours [Std.TransCmp cmp] [Std.LawfulEqCmp cmp] (key : α → List κ)
    (related : Nat → α → α → Prop) (trans : ∀ {k a b c}, related k a b → related k b c → related k a c)
    {xs : List α} (sorted : xs.Pairwise fun a b => (List.compareLex cmp (key a) (key b)).isLE)
    (near : xs.IsChain fun a b => ∀ k, (key a).take k = (key b).take k → related k a b) :
    xs.Pairwise fun a b => ∀ k, (key a).take k = (key b).take k → related k a b := by
  induction xs with
  | nil => exact .nil
  | cons a rest ih =>
    obtain ⟨first,later⟩ := pairwise_cons.mp sorted
    cases rest with
    | nil => simp
    | cons b rest =>
      obtain ⟨here,onward⟩ := isChain_cons_cons.mp near
      have there := ih later onward
      refine pairwise_cons.mpr ⟨fun c member k same => ?_,there⟩
      rcases mem_cons.mp member with rfl | beyond
      · exact here k same
      have bc := (pairwise_cons.mp later).1 c beyond
      have between := take_between (first b mem_cons_self) bc same
      exact trans (here k between) ((pairwise_cons.mp there).1 c beyond k (between.symm.trans same))

end GjcRemote.PrefixOrder
