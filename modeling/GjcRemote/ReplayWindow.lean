import GjcRemote.Runs
import Mathlib.Algebra.Order.Ring.Rat

/-! `workspace-readiness-replay-window.js`. -/
namespace GjcRemote.ReplayWindow

abbrev Seen := List (String × Rat)

/-- `lastNowMs` is there once the clock was read. -/
structure Window where
  seen : Seen
  lastNowMs : Option Rat

/-- `raw` is there when the clock reads a finite number, which need not be a whole one. -/
structure Call where
  add : Bool
  fp : String
  raw : Option Rat

variable (maxAgeMs nowMs : Rat) (seen : Seen)

/-- Stops at the first fresh entry. -/
def evict : Seen := seen.dropWhile (nowMs - ·.2 > maxAgeMs)

/-- Looks at every age. -/
def evictAll : Seen := seen.filter (nowMs - ·.2 ≤ maxAgeMs)

def call (evict : Rat → Seen → Seen) (w : Window) (c : Call) : Window × Except String (Option Bool) :=
  if c.fp = "" then (w,.error "fingerprint must be a non-empty string")
  else
    match c.raw with
    | none => (w,.error "clock.now() must return a finite number")
    | some raw =>
      let nowMs := w.lastNowMs.elim raw (max raw)
      let seen := evict nowMs w.seen
      let found := seen.any (·.1 = c.fp)
      if c.add then (⟨if found then seen else seen ++ [(c.fp,nowMs)],nowMs⟩,.ok none)
      else (⟨seen,nowMs⟩,.ok found)

/-- Insertion order is chronological, and the last reading is not before it. -/
def Chronological (w : Window) : Prop :=
  w.seen.Pairwise (·.2 ≤ ·.2) ∧ ∀ e ∈ w.seen, some e.2 ≤ w.lastNowMs

variable {maxAgeMs nowMs seen}

theorem evict_all (sorted : seen.Pairwise (·.2 ≤ ·.2)) :
    evict maxAgeMs nowMs seen = evictAll maxAgeMs nowMs seen := by
  induction seen with
  | nil => rfl
  | cons e rest ih =>
    obtain ⟨later,sorted⟩ := List.pairwise_cons.mp sorted
    simp only [evict,evictAll,List.dropWhile_cons] at ih ⊢
    -- What follows a fresh entry is fresh as well.
    grind [List.filter_eq_self]

theorem call_chronological {w : Window} (holds : Chronological w) (c : Call) :
    call (evict maxAgeMs) w c = call (evictAll maxAgeMs) w c ∧
      Chronological (call (evict maxAgeMs) w c).1 := by
  obtain ⟨sorted,past⟩ := holds
  unfold call
  simp only [evict_all sorted,true_and]
  split
  · exact ⟨sorted,past⟩
  cases c.raw with
  | none => exact ⟨sorted,past⟩
  | some raw =>
    have before : ∀ e ∈ w.seen, e.2 ≤ w.lastNowMs.elim raw (max raw) := by
      intro e member
      have := past e member
      cases last : w.lastNowMs <;> grind
    simp only [Chronological,evictAll]
    grind

end GjcRemote.ReplayWindow
