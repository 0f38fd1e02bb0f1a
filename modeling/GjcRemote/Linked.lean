import Mathlib.Data.List.Basic

/-! Things that are related one to the next are related whenever the links lead to one root. -/
namespace GjcRemote.Linked

variable {α : Type} [DecidableEq α] {R : α → α → Prop}

/-- Where the links from a thing lead, taking the first link of each thing. -/
def root (links : List (α × α)) : Nat → α → α
  | 0,a => a
  | fuel + 1,a =>
    match links.lookup a with
    | some b => root links fuel b
    | none => a

theorem mem_of_lookup {links : List (α × α)} (found : links.lookup a = some b) :
    (a,b) ∈ links := by
  induction links with
  | nil => simp at found
  | cons link rest ih =>
    rw [List.lookup_cons] at found
    by_cases here : a = link.1
    · simp only [here,beq_self_eq_true,Option.some.injEq] at found
      simp [here,← found]
    · have other : (a == link.1) = false := by simpa using here
      simp only [other] at found
      exact List.mem_cons_of_mem _ (ih found)

theorem root_related (trans : ∀ {a b c}, R a b → R b c → R a c)
    (related : ∀ link ∈ links, R link.1 link.2) (fuel : Nat) (a : α) :
    root links fuel a = a ∨ R a (root links fuel a) := by
  induction fuel generalizing a with
  | zero => exact .inl rfl
  | succ fuel ih =>
    rw [root]
    cases found : links.lookup a with
    | none => exact .inl rfl
    | some b =>
      have step : R a b := related _ (mem_of_lookup found)
      rcases ih b with stop | onward
      · simp only [stop]
        exact .inr step
      · exact .inr (trans step onward)

/-- Two things with one root are related. -/
theorem related_of_root_eq (symm : ∀ {a b}, R a b → R b a) (trans : ∀ {a b c}, R a b → R b c → R a c)
    (related : ∀ link ∈ links, R link.1 link.2)
    (ne : a ≠ b) (same : root links fuel a = root links fuel b) : R a b := by
  rcases root_related (R := R) trans related fuel a with stopA | onA <;>
    rcases root_related (R := R) trans related fuel b with stopB | onB
  · exact absurd (stopA.symm.trans (same.trans stopB)) ne
  · rw [← same,stopA] at onB
    exact symm onB
  · rwa [same,stopB] at onA
  · exact trans onA (same ▸ symm onB)

end GjcRemote.Linked
