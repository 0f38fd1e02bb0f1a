import Mathlib.Logic.Basic

/-! Runs of a deterministic machine: one call after the other, each answered from the
state it finds. -/
namespace GjcRemote.Runs

variable {σ ι ο : Type}

def run (step : σ → ι → σ × ο) : σ → List ι → σ
  | s,[] => s
  | s,call :: rest => run step (step s call).1 rest

def visits (step : σ → ι → σ × ο) : σ → List ι → List (σ × ι)
  | _,[] => []
  | s,call :: rest => (s,call) :: visits step (step s call).1 rest

theorem run_append (step : σ → ι → σ × ο) (s : σ) (first second : List ι) :
    run step s (first ++ second) = run step (run step s first) second := by
  induction first generalizing s with
  | nil => rfl
  | cons call rest ih => exact ih _

theorem visits_append (step : σ → ι → σ × ο) (s : σ) (first second : List ι) :
    visits step s (first ++ second) = visits step s first ++ visits step (run step s first) second := by
  induction first generalizing s with
  | nil => rfl
  | cons call rest ih => simp only [List.cons_append,visits,run,ih]

variable {step : σ → ι → σ × ο}

/-- Only the calls of the run are made. -/
theorem visited_mem :
    ∀ visit ∈ visits step s calls, visit.2 ∈ calls := by
  induction calls generalizing s with
  | nil => simp [visits]
  | cons call rest ih =>
    intro visit member
    rcases List.mem_cons.mp member with rfl | later
    · exact List.mem_cons_self
    · exact List.mem_cons_of_mem _ (ih visit later)

/-- What holds at the start and survives every call holds after every run. -/
theorem run_invariant {holds : σ → Prop}
    (preserved : ∀ s call, holds s → holds (step s call).1) {s : σ} (start : holds s)
    (calls : List ι) : holds (run step s calls) := by
  induction calls generalizing s with
  | nil => exact start
  | cons call rest ih => exact ih (preserved s call start)

/-- An invariant also holds in every state a call of the run finds. -/
theorem visits_invariant {holds : σ → Prop}
    (preserved : ∀ s call, holds s → holds (step s call).1) {s : σ} (start : holds s)
    (calls : List ι) : ∀ visit ∈ visits step s calls, holds visit.1 := by
  induction calls generalizing s with
  | nil => simp [visits]
  | cons call rest ih =>
    intro visit member
    rcases List.mem_cons.mp member with rfl | later
    · exact start
    · exact ih (preserved s call start) visit later

/-- An event that leads to states in which it does not happen again happens at most once. -/
theorem visits_once {event : σ → ι → Bool} {settled : σ → Prop}
    (starts : ∀ s call, event s call = true → settled (step s call).1)
    (stays : ∀ s call, settled s → settled (step s call).1)
    (quiet : ∀ s call, settled s → event s call = false) (s : σ) (calls : List ι) :
    (visits step s calls).countP (fun visit => event visit.1 visit.2) ≤ 1 := by
  have none_after : ∀ (rest : List ι) (s : σ), settled s →
      (visits step s rest).countP (fun visit => event visit.1 visit.2) = 0 := by
    intro rest
    induction rest with
    | nil => intro s _; rfl
    | cons call rest ih =>
      intro s calm
      simp [visits,quiet s call calm,ih _ (stays s call calm)]
  induction calls generalizing s with
  | nil => simp [visits]
  | cons call rest ih =>
    cases happened : event s call with
    | false => simpa [visits,happened] using ih (step s call).1
    | true => simp [visits,happened,none_after rest _ (starts s call happened)]

end GjcRemote.Runs
