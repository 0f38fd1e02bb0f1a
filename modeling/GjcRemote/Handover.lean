import Mathlib.Data.Set.Insert

/-! One release of a program hands its data over to the next, which may hand it back to an earlier
one: which formats are there when a release starts. -/
namespace GjcRemote.Handover

variable {δ φ : Type}

/-- Who runs: the release before the switch, the one after it, or the one rolled back to. -/
inductive Stage where
  | current | candidate | predecessor
  deriving DecidableEq

/-- The formats in each domain of the data, and those of them that the current release has written
since they were observed. -/
structure Retained (δ φ : Type) where
  stage : Stage
  present : δ → Set φ
  fresh : δ → Set φ

def Retained.add (s : Retained δ φ) (domain : δ) (format : φ) : Retained δ φ where
  stage := s.stage
  present d := s.present d ∪ {f | d = domain ∧ f = format}
  fresh d := s.fresh d ∪ {f | s.stage = .current ∧ d = domain ∧ f = format}

/-- The release that runs writes a format it may write, or the next one takes over. -/
inductive Step (writes : Stage → δ → Set φ) : Retained δ φ → Retained δ φ → Prop where
  | write {s : Retained δ φ} {domain : δ} {format : φ} (allowed : format ∈ writes s.stage domain) :
    Step writes s (s.add domain format)
  | switch {s : Retained δ φ} (current : s.stage = .current) : Step writes s { s with stage := .candidate }
  | rollback {s : Retained δ φ} (candidate : s.stage = .candidate) : Step writes s { s with stage := .predecessor }

/-- What a run reaches from data in which nothing but the observed formats is. -/
inductive Reached (writes : Stage → δ → Set φ) (observed : δ → Set φ) : Retained δ φ → Prop where
  | start {s : Retained δ φ} (current : s.stage = .current) (seen : ∀ d, s.present d ⊆ observed d)
    (fresh : ∀ d, s.fresh d = ∅) : Reached writes observed s
  | step {s t : Retained δ φ} (before : Reached writes observed s) (next : Step writes s t) : Reached writes observed t

structure Origin (writes : Stage → δ → Set φ) (observed : δ → Set φ) (s : Retained δ φ) : Prop where
  fresh : ∀ d, s.fresh d ⊆ writes .current d
  current : s.stage = .current → ∀ d, s.present d ⊆ observed d ∪ s.fresh d
  candidate : s.stage = .candidate → ∀ d, s.present d ⊆ observed d ∪ s.fresh d ∪ writes .candidate d

variable {writes : Stage → δ → Set φ} {observed : δ → Set φ}

theorem step_origin (origin : Origin writes observed s) (step : Step writes s t) :
    Origin writes observed t := by
  cases step with
  | write allowed =>
    constructor
    · rintro d f (old | ⟨running,rfl,rfl⟩)
      · exact origin.fresh d old
      · exact running ▸ allowed
    · rintro running d f (old | ⟨rfl,rfl⟩)
      · rcases origin.current running d old with seen | fresh
        · exact .inl seen
        · exact .inr (.inl fresh)
      · exact .inr (.inr ⟨running,rfl,rfl⟩)
    · rintro running d f (old | ⟨rfl,rfl⟩)
      · rcases origin.candidate running d old with (seen | fresh) | written
        · exact .inl (.inl seen)
        · exact .inl (.inr (.inl fresh))
        · exact .inr written
      · have stage : s.stage = .candidate := running
        exact .inr (stage ▸ allowed)
  | switch current =>
    exact ⟨origin.fresh,fun none => (by cases none),fun _ d f there => .inl (origin.current current d there)⟩
  | rollback candidate =>
    exact ⟨origin.fresh,fun none => (by cases none),fun none => (by cases none)⟩

theorem Reached.origin (reached : Reached writes observed s) : Origin writes observed s := by
  induction reached with
  | start current seen fresh =>
    refine ⟨fun d f there => ?_,fun _ d f there => .inl (seen d there),fun running => ?_⟩
    · simp [fresh d] at there
    · rw [current] at running
      cases running
  | step _ next ih => exact step_origin ih next

/-- The data of a run in which the current release writes one format and the switch follows. -/
theorem reached_written (allowed : f ∈ writes .current d) :
    ∃ s, Reached writes observed s ∧ s.stage = .candidate ∧ f ∈ s.present d := by
  have start : Reached writes observed ⟨.current,observed,fun _ => ∅⟩ := .start rfl (fun _ => subset_rfl) fun _ => rfl
  refine ⟨_,.step (.step start (.write (show f ∈ writes Stage.current d from allowed))) (.switch rfl),rfl,?_⟩
  exact .inr ⟨rfl,rfl⟩

/-- A release that reads what was observed and what the candidate writes reads all that is there when
the candidate gives way, exactly if it reads what the current release writes. -/
theorem reads_at_rollback_iff {reads : δ → Set φ} {domains : List δ}
    (seen : ∀ d ∈ domains, observed d ⊆ reads d) (written : ∀ d ∈ domains, writes .candidate d ⊆ reads d) :
    (∀ s, Reached writes observed s → s.stage = .candidate → ∀ d ∈ domains, s.present d ⊆ reads d) ↔
      ∀ d ∈ domains, writes .current d ⊆ reads d := by
  constructor
  · intro all d listed f allowed
    obtain ⟨s,reached,running,there⟩ := @reached_written δ φ writes observed d f allowed
    exact all s reached running d listed there
  · intro current s reached running d listed f there
    rcases reached.origin.candidate running d there with (old | fresh) | new
    · exact seen d listed old
    · exact current d listed (reached.origin.fresh d fresh)
    · exact written d listed new

end GjcRemote.Handover
