import Mathlib.Logic.Basic

/-! Programs over a durable state that fail and that can lose their process. A run keeps
the state after each of its atomic steps: a crash leaves one of them. Their rules are
those of a Hoare logic with an assertion for the crashes. -/
namespace GjcRemote.CrashTrace

open List
structure Progress (σ ε α : Type) where
  seen : List σ
  state : σ
  result : Except ε α

def Program (σ ε α : Type) : Type := σ → Progress σ ε α

namespace Program

variable {σ ε ε' α β : Type}

protected def pure (a : α) : Program σ ε α := fun s => ⟨[],s,.ok a⟩

section

variable (m : Program σ ε α)

protected def bind (f : α → Program σ ε β) : Program σ ε β := fun s =>
  match (m s).result with
  | .error error => ⟨(m s).seen,(m s).state,.error error⟩
  | .ok a =>
    let rest := f a (m s).state
    ⟨(m s).seen ++ rest.seen,rest.state,rest.result⟩

instance : Monad (Program σ ε) where
  pure := Program.pure
  bind := Program.bind

def fail (error : ε) : Program σ ε α := fun s => ⟨[],s,.error error⟩

/-- A step that looks at the state and leaves it alone. -/
def inspect (f : σ → Except ε α) : Program σ ε α := fun s => ⟨[],s,f s⟩

def lift (result : Except ε α) : Program σ ε α := inspect fun _ => result

/-- One atomic step; it may change the state and fail all the same. -/
def perform (f : σ → σ × Except ε α) : Program σ ε α := fun s => ⟨[(f s).1],(f s).1,(f s).2⟩

/-- `try`: the failure becomes a value. -/
def attempt : Program σ ε' (Except ε α) := fun s =>
  ⟨(m s).seen,(m s).state,.ok (m s).result⟩

/-- `finally`: a change of the state after success and failure alike. -/
def ensuring (after : σ → σ) : Program σ ε α := fun s =>
  ⟨(m s).seen ++ [after (m s).state],after (m s).state,(m s).result⟩

/-- `catch`: the handler runs after a failure, and decides. -/
def recover (handler : ε → Program σ ε α) : Program σ ε α := do
  match ← (attempt m : Program σ ε (Except ε α)) with
  | .error error => handler error
  | .ok a => return a

/-- `finally`: the last part runs after success and failure alike, and may fail itself. -/
def finish (last : Program σ ε Unit) : Program σ ε α := do
  let result ← (attempt m : Program σ ε (Except ε α))
  last
  lift result

end

theorem bind_lift_ok (a : α) (f : α → Program σ ε β) : (lift (.ok a) >>= f) = f a := rfl

section

variable {m : Program σ ε α} {f : α → Program σ ε β}

/-- The steps of a part that succeeds come before those of the rest. -/
theorem bind_ok (first : m s = ⟨seen,t,.ok a⟩) (rest : f a t = ⟨seen',u,result⟩) :
    (m >>= f) s = ⟨seen ++ seen',u,result⟩ := by
  have unfolded : (m >>= f) s = Program.bind m f s := rfl
  rw [unfolded,Program.bind,first]
  simp only [rest]

theorem bind_quiet (first : m s = ⟨[],t,.ok a⟩) : (m >>= f) s = f a t :=
  bind_ok first rfl

end

/-- From `before`, every crash is `safe`, success ends in `after`, failure in `failed`. -/
def Ensures (before safe : σ → Prop) (m : Program σ ε α) (after : α → σ → Prop)
    (failed : ε → σ → Prop) : Prop :=
  ∀ s, before s → (∀ t ∈ (m s).seen, safe t) ∧
    match (m s).result with
    | .ok a => after a (m s).state
    | .error error => failed error (m s).state

variable {before before' safe safe' : σ → Prop} {after after' : α → σ → Prop}
  {failed failed' : ε → σ → Prop}

theorem Ensures.pure (reached : ∀ s, before s → after a s) :
    Ensures before safe (Pure.pure a : Program σ ε α) after failed :=
  fun s start => ⟨fun _ member => absurd member not_mem_nil,reached s start⟩

theorem Ensures.fail (reached : ∀ s, before s → failed error s) :
    Ensures before safe (Program.fail error : Program σ ε α) after failed :=
  fun s start => ⟨fun _ member => absurd member not_mem_nil,reached s start⟩

theorem Ensures.bind {f : α → Program σ ε β} (first : Ensures before safe m after failed)
    (rest : ∀ a, Ensures (after a) safe (f a) final failed) :
    Ensures before safe (m >>= f) final failed := by
  intro s start
  obtain ⟨crashes,ends⟩ := first s start
  have unfolded : (m >>= f) s = Program.bind m f s := rfl
  rw [unfolded,Program.bind]
  cases result : (m s).result with
  | error error =>
    rw [result] at ends
    exact ⟨crashes,ends⟩
  | ok a =>
    rw [result] at ends
    obtain ⟨crashes',ends'⟩ := rest a _ ends
    refine ⟨fun t member => ?_,ends'⟩
    rcases mem_append.mp member with early | late
    · exact crashes t early
    · exact crashes' t late

theorem Ensures.inspect (ok : ∀ s a, before s → f s = .ok a → after a s)
    (error : ∀ s e, before s → f s = .error e → failed e s) :
    Ensures before safe (Program.inspect f) after failed := by
  intro s start
  cases result : f s with
  | error e => simpa [Program.inspect,result] using error s e start result
  | ok a => simpa [Program.inspect,result] using ok s a start result

theorem Ensures.lift (ok : ∀ s a, before s → result = .ok a → after a s)
    (error : ∀ s e, before s → result = .error e → failed e s) :
    Ensures before safe (Program.lift result) after failed :=
  Ensures.inspect ok error

theorem Ensures.perform (crash : ∀ s, before s → safe (f s).1)
    (ok : ∀ s a, before s → (f s).2 = .ok a → after a (f s).1)
    (error : ∀ s e, before s → (f s).2 = .error e → failed e (f s).1) :
    Ensures before safe (Program.perform f) after failed := by
  intro s start
  refine ⟨fun t member => ?_,?_⟩
  · rw [mem_singleton.mp member]
    exact crash s start
  · cases result : (f s).2 with
    | error e => simpa [Program.perform,result] using error s e start result
    | ok a => simpa [Program.perform,result] using ok s a start result

theorem Ensures.attempt (tried : Ensures before safe m (fun a => final (.ok a)) (fun e => final (.error e))) :
    Ensures before safe (Program.attempt m : Program σ ε' (Except ε α)) final never := by
  intro s start
  obtain ⟨crashes,ends⟩ := tried s start
  refine ⟨crashes,?_⟩
  cases result : (m s).result <;> simpa [Program.attempt,result] using ends

def outcome (after : α → σ → Prop) (failed : ε → σ → Prop) : Except ε α → σ → Prop
  | .ok a => after a
  | .error error => failed error

theorem Ensures.recover (body : Ensures before safe m after failed')
    (handled : ∀ error, Ensures (failed' error) safe (handler error) after failed) :
    Ensures before safe (Program.recover m handler) after failed := by
  have tried : Ensures before safe (Program.attempt m : Program σ ε (Except ε α))
      (outcome after failed') failed := Ensures.attempt body
  refine Ensures.bind tried fun result => ?_
  cases result with
  | error error => exact handled error
  | ok a => exact Ensures.pure fun _ reached => reached

theorem Ensures.finish (body : Ensures before safe m done given)
    (ends : ∀ a, Ensures (done a) safe last (fun _ => after a) failed)
    (ends' : ∀ error, Ensures (given error) safe last (fun _ => failed error) failed) :
    Ensures before safe (Program.finish m last) after failed := by
  have tried : Ensures before safe (Program.attempt m : Program σ ε (Except ε α))
      (outcome done given) failed := Ensures.attempt body
  refine Ensures.bind tried fun result => ?_
  cases result with
  | error error =>
    refine Ensures.bind (ends' error) fun _ => Ensures.lift (fun _ _ _ none => ?_) ?_
    · cases none
    · rintro s _ reached ⟨⟩
      exact reached
  | ok a =>
    refine Ensures.bind (ends a) fun _ => Ensures.lift ?_ (fun _ _ _ none => ?_)
    · rintro s _ reached ⟨⟩
      exact reached
    · cases none

theorem Ensures.ensuring (body : Ensures before safe m after failed)
    (crash : ∀ a s, after a s → safe (cleanup s)) (crash' : ∀ e s, failed e s → safe (cleanup s))
    (ok : ∀ a s, after a s → final a (cleanup s)) (error : ∀ e s, failed e s → gaveUp e (cleanup s)) :
    Ensures before safe (Program.ensuring m cleanup) final gaveUp := by
  intro s start
  obtain ⟨crashes,ends⟩ := body s start
  cases result : (m s).result with
  | error e =>
    rw [result] at ends
    refine ⟨fun t member => ?_,by simpa [Program.ensuring,result] using error e _ ends⟩
    rcases mem_append.mp member with early | last
    · exact crashes t early
    · rw [mem_singleton.mp last]
      exact crash' e _ ends
  | ok a =>
    rw [result] at ends
    refine ⟨fun t member => ?_,by simpa [Program.ensuring,result] using ok a _ ends⟩
    rcases mem_append.mp member with early | last
    · exact crashes t early
    · rw [mem_singleton.mp last]
      exact crash a _ ends

/-- A fact that does not depend on the state may be used throughout. -/
theorem Ensures.given (proved : fact → Ensures before safe m after failed) :
    Ensures (fun s => before s ∧ fact) safe m after failed :=
  fun s start => proved start.2 s start.1

/-- A fact that the result tells whatever the state is. -/
theorem Ensures.known {fact : α → Prop} (proved : Ensures before safe m after failed)
    (told : ∀ s a, (m s).result = .ok a → fact a) :
    Ensures before safe m (fun a s => after a s ∧ fact a) failed := by
  intro s start
  obtain ⟨crashes,ends⟩ := proved s start
  refine ⟨crashes,?_⟩
  cases result : (m s).result with
  | error error =>
    rw [result] at ends
    exact ends
  | ok a =>
    rw [result] at ends
    exact ⟨ends,told s a result⟩

theorem Ensures.weaken (proved : Ensures before safe m after failed)
    (start : ∀ s, before' s → before s) (ok : ∀ a s, after a s → after' a s)
    (error : ∀ e s, failed e s → failed' e s) : Ensures before' safe m after' failed' := by
  intro s held
  obtain ⟨crashes,ends⟩ := proved s (start s held)
  refine ⟨crashes,?_⟩
  cases result : (m s).result with
  | error e =>
    rw [result] at ends
    exact error e _ ends
  | ok a =>
    rw [result] at ends
    exact ok a _ ends

structure Leads (m : Program σ ε α) (s : σ) (a : α) (t : σ) : Prop where
  result : (m s).result = .ok a
  state : (m s).state = t

structure Throws (m : Program σ ε α) (s : σ) (error : ε) (t : σ) : Prop where
  result : (m s).result = .error error
  state : (m s).state = t

variable {m : Program σ ε α} {f : α → Program σ ε β} {s t u : σ} {a : α} {b : β} {error : ε}

theorem Leads.bind_eq (first : Leads m s a t) :
    ((m >>= f) s).result = (f a t).result ∧ ((m >>= f) s).state = (f a t).state := by
  have unfolded : (m >>= f) s = Program.bind m f s := rfl
  rw [unfolded,Program.bind,first.result,first.state]
  exact ⟨rfl,rfl⟩

theorem Leads.bind (first : Leads m s a t) (rest : Leads (f a) t b u) : Leads (m >>= f) s b u := by
  obtain ⟨result,state⟩ := first.bind_eq (f := f)
  exact ⟨result.trans rest.result,state.trans rest.state⟩

theorem Leads.throws (first : Leads m s a t) (rest : Throws (f a) t error u) :
    Throws (m >>= f) s error u := by
  obtain ⟨result,state⟩ := first.bind_eq (f := f)
  exact ⟨result.trans rest.result,state.trans rest.state⟩

section

variable (first : Throws m s error t)
include first

theorem Throws.bind : Throws (m >>= f) s error t := by
  have unfolded : (m >>= f) s = Program.bind m f s := rfl
  constructor
  · rw [unfolded,Program.bind,first.result]
  · rw [unfolded,Program.bind,first.result]
    exact first.state

theorem Throws.attempt :
    Leads (Program.attempt m : Program σ ε' (Except ε α)) s (.error error) t :=
  ⟨congrArg Except.ok first.result,first.state⟩

theorem Throws.recover
    (handled : Throws (handler error) t error' u) : Throws (Program.recover m handler) s error' u :=
  Leads.throws first.attempt handled

theorem Throws.finish (ends : Leads last t () u) : Throws (Program.finish m last) s error u :=
  Leads.throws first.attempt (Leads.throws ends ⟨rfl,rfl⟩)

end

end Program

end GjcRemote.CrashTrace
