import GjcRemote.GenerationReadiness
import GjcRemote.ReplayWindow
import Mathlib.Data.List.Induction
import Mathlib.Tactic.Linarith

/-! The single use of an attestation: create, refresh and restore probe, ask the replay window and then add to
it. The window is a memory of insertions over the clamped clock, which need not agree with the probe's
reading. -/
namespace GjcRemote.ReplayWindow

open StrictJson (Value)
open Readiness (assertFresh)

/-- When each fingerprint was first inserted since it was last forgotten, and the clamped clock. -/
structure Memory where
  insertedAt : String → Option Rat
  lastNowMs : Option Rat

def Memory.new : Memory := ⟨fun _ => none,none⟩

def clamp (lastNowMs : Option Rat) (raw : Rat) : Rat := lastNowMs.elim raw (max raw)

section

variable (maxAgeMs : Rat)

/-- An insertion counts up to the age that the probe takes for fresh. -/
def Memory.holds (m : Memory) (nowMs : Rat) (fp : String) : Bool :=
  (m.insertedAt fp).any fun insertedAtMs => nowMs - insertedAtMs ≤ maxAgeMs

def Memory.call (m : Memory) (c : Call) : Memory × Except String (Option Bool) :=
  if c.fp = "" then (m,.error "fingerprint must be a non-empty string")
  else
    match c.raw with
    | none => (m,.error "clock.now() must return a finite number")
    | some raw =>
      let nowMs := clamp m.lastNowMs raw
      let found := m.holds maxAgeMs nowMs c.fp
      if c.add then
        (⟨if found then m.insertedAt else Function.update m.insertedAt c.fp (some nowMs),some nowMs⟩,.ok none)
      else (⟨m.insertedAt,some nowMs⟩,.ok (some found))

/-- What the window holds was inserted, and what it lacks is too old. -/
structure Remembers (w : Window) (m : Memory) : Prop where
  clock : w.lastNowMs = m.lastNowMs
  inserted : ∀ e ∈ w.seen, m.insertedAt e.1 = some e.2
  kept : ∀ fp insertedAtMs, m.insertedAt fp = some insertedAtMs → (fp,insertedAtMs) ∈ w.seen ∨
    ∃ nowMs, m.lastNowMs = some nowMs ∧ maxAgeMs < nowMs - insertedAtMs

end

variable {maxAgeMs : Rat} {w : Window} {m : Memory}

theorem le_clamp (last : lastNowMs = some before) (raw : Rat) : before ≤ clamp lastNowMs raw := by
  rw [last]
  exact le_max_right raw before

theorem Remembers.found (remembers : Remembers maxAgeMs w m) (raw : Rat) (fp : String) :
    (evictAll maxAgeMs (clamp m.lastNowMs raw) w.seen).any (·.1 = fp) =
      m.holds maxAgeMs (clamp m.lastNowMs raw) fp := by
  rw [Bool.eq_iff_iff,List.any_eq_true,Memory.holds,Option.any_eq_true]
  constructor
  · rintro ⟨e,held,same⟩
    obtain ⟨held,young⟩ := List.mem_filter.mp held
    obtain rfl := of_decide_eq_true same
    exact ⟨e.2,remembers.inserted e held,young⟩
  · rintro ⟨insertedAtMs,known,young⟩
    refine ⟨(fp,insertedAtMs),List.mem_filter.mpr ⟨?_,young⟩,by simp⟩
    rcases remembers.kept fp insertedAtMs known with held | ⟨before,last,old⟩
    · exact held
    · have later := le_clamp last raw
      have young := of_decide_eq_true young
      linarith

/-- Entries that are forgotten are too old for good. -/
theorem Remembers.evicted (remembers : Remembers maxAgeMs w m) (raw : Rat) :
    Remembers maxAgeMs ⟨evictAll maxAgeMs (clamp m.lastNowMs raw) w.seen,some (clamp m.lastNowMs raw)⟩
      ⟨m.insertedAt,some (clamp m.lastNowMs raw)⟩ where
  clock := rfl
  inserted e held := remembers.inserted e (List.mem_of_mem_filter held)
  kept fp insertedAtMs known := by
    by_cases young : clamp m.lastNowMs raw - insertedAtMs ≤ maxAgeMs
    · rcases remembers.kept fp insertedAtMs known with held | ⟨before,last,old⟩
      · exact .inl (List.mem_filter.mpr ⟨held,decide_eq_true young⟩)
      · have later := le_clamp last raw
        linarith
    · exact .inr ⟨_,rfl,not_le.mp young⟩

/-- A fingerprint that is not held is inserted at the clamped clock. -/
theorem Remembers.added (remembers : Remembers maxAgeMs ⟨seen,some nowMs⟩ ⟨insertedAt,some nowMs⟩) {fp : String}
    (absent : seen.any (·.1 = fp) = false) :
    Remembers maxAgeMs ⟨seen ++ [(fp,nowMs)],some nowMs⟩
      ⟨Function.update insertedAt fp (some nowMs),some nowMs⟩ where
  clock := rfl
  inserted e held := by
    rcases List.mem_append.mp held with held | last
    · have other : e.1 ≠ fp := by simpa using List.any_eq_false.mp absent e held
      exact (Function.update_of_ne other ..).trans (remembers.inserted e held)
    · rw [List.mem_singleton.mp last]
      exact Function.update_self ..
  kept fp' insertedAtMs known := by
    change Function.update insertedAt fp (some nowMs) fp' = some insertedAtMs at known
    by_cases same : fp' = fp
    · subst same
      rw [Function.update_self] at known
      rw [← Option.some.inj known]
      exact .inl (List.mem_append_right _ List.mem_cons_self)
    · rw [Function.update_of_ne same] at known
      exact (remembers.kept fp' insertedAtMs known).imp (List.mem_append_left _) id

/-- The window answers as the memory does. -/
theorem Remembers.call (remembers : Remembers maxAgeMs w m) (c : Call) :
    (call (evictAll maxAgeMs) w c).2 = (m.call maxAgeMs c).2 ∧
      Remembers maxAgeMs (call (evictAll maxAgeMs) w c).1 (m.call maxAgeMs c).1 := by
  unfold ReplayWindow.call Memory.call
  split
  · exact ⟨rfl,remembers⟩
  cases c.raw with
  | none => exact ⟨rfl,remembers⟩
  | some raw =>
    have found := remembers.found raw c.fp
    have evicted := remembers.evicted raw
    have clock : w.lastNowMs.elim raw (max raw) = clamp m.lastNowMs raw := by rw [remembers.clock,clamp]
    simp only [clock,found]
    cases c.add with
    | false => exact ⟨rfl,evicted⟩
    | true =>
      refine ⟨rfl,?_⟩
      cases held : m.holds maxAgeMs (clamp m.lastNowMs raw) c.fp with
      | true => exact evicted
      | false => exact evicted.added (found.trans held)

/-- A window and the memory that it stands for. -/
def Tracks (maxAgeMs : Rat) (w : Window) (m : Memory) : Prop := Chronological w ∧ Remembers maxAgeMs w m

theorem tracks_new (maxAgeMs : Rat) : Tracks maxAgeMs ⟨[],none⟩ .new :=
  ⟨⟨.nil,by simp⟩,⟨rfl,by simp,by simp [Memory.new]⟩⟩

theorem Tracks.call (tracks : Tracks maxAgeMs w m) (c : Call) :
    (call (evict maxAgeMs) w c).2 = (m.call maxAgeMs c).2 ∧
      Tracks maxAgeMs (call (evict maxAgeMs) w c).1 (m.call maxAgeMs c).1 := by
  obtain ⟨chronological,remembers⟩ := tracks
  obtain ⟨same,after⟩ := @call_chronological maxAgeMs w chronological c
  obtain ⟨answer,kept⟩ := remembers.call c
  rw [← same] at answer kept
  exact ⟨answer,after,kept⟩

section Attempts

/-- What an operation brings: its evidence's times, and what the clock reads when the window is asked and when it
is added to. -/
structure Attempt where
  fp : String
  named : fp ≠ ""
  probedAtMs : Value
  nowMs : Value
  hasRaw : Rat
  addRaw : Rat

inductive Verdict where
  | expired
  | replayed
  | consumed
  deriving DecidableEq

variable (bound : Int)

def Attempt.fresh (a : Attempt) : Bool :=
  (assertFresh ⟨a.probedAtMs,a.nowMs,.number (.int bound)⟩).isOk

variable {σ : Type} (ask : σ → Call → σ × Except String (Option Bool))

/-- The part of an operation between its probe and its publication; the other refusals of the probe leave the
window alone as well. -/
def attempt (s : σ) (a : Attempt) : σ × Verdict :=
  if !a.fresh bound then (s,.expired)
  else
    let (asked,answer) := ask s ⟨false,a.fp,some a.hasRaw⟩
    match answer with
    | .ok (some true) => (asked,.replayed)
    | _ => ((ask asked ⟨true,a.fp,some a.addRaw⟩).1,.consumed)

/-- The window that a run of operations leaves, and the memory that it stands for. -/
def windowAfter (attempts : List Attempt) : Window :=
  Runs.run (attempt bound (ReplayWindow.call (evict bound))) ⟨[],none⟩ attempts

def memoryAfter (attempts : List Attempt) : Memory :=
  Runs.run (attempt bound (Memory.call bound)) .new attempts

def verdict (before : List Attempt) (a : Attempt) : Verdict :=
  (attempt bound (ReplayWindow.call (evict bound)) (windowAfter bound before) a).2

/-- An earlier operation added the fingerprint. -/
def Consumed (before : List Attempt) (fp : String) : Prop :=
  ∃ front a back, before = front ++ a :: back ∧ a.fp = fp ∧ verdict bound front a = .consumed

/-- No operation passes the probe with a fingerprint that was added. -/
def SingleUse (attempts : List Attempt) : Prop :=
  ∀ before a after, attempts = before ++ a :: after → a.fresh bound = true → Consumed bound before a.fp →
    verdict bound before a = .replayed

/-- What the probe takes for fresh is no older on the clamped clock than the window remembers. -/
def Agrees (attempts : List Attempt) : Prop :=
  ∀ before a after, attempts = before ++ a :: after → a.fresh bound = true → ∀ insertedAtMs,
    (memoryAfter bound before).insertedAt a.fp = some insertedAtMs →
      clamp (memoryAfter bound before).lastNowMs a.hasRaw - insertedAtMs ≤ bound

variable {bound}

theorem Tracks.attempt (tracks : Tracks bound w m) (a : Attempt) :
    (attempt bound (ReplayWindow.call (evict bound)) w a).2 = (attempt bound (Memory.call bound) m a).2 ∧
      Tracks bound (attempt bound (ReplayWindow.call (evict bound)) w a).1
        (attempt bound (Memory.call bound) m a).1 := by
  unfold ReplayWindow.attempt
  split
  · exact ⟨rfl,tracks⟩
  · obtain ⟨same,asked⟩ := tracks.call ⟨false,a.fp,some a.hasRaw⟩
    have added := (asked.call ⟨true,a.fp,some a.addRaw⟩).2
    simp only [same]
    split
    · exact ⟨rfl,asked⟩
    · exact ⟨rfl,added⟩

theorem windowAfter_tracks (attempts : List Attempt) :
    Tracks bound (windowAfter bound attempts) (memoryAfter bound attempts) := by
  induction attempts using List.reverseRecOn with
  | nil => exact tracks_new _
  | append_singleton before a ih =>
    rw [windowAfter,memoryAfter,Runs.run_append,Runs.run_append]
    exact (ih.attempt a).2

/-- What the memory says of an operation. -/
theorem memory_attempt (m : Memory) (a : Attempt) (fresh : a.fresh bound = true) :
    attempt bound (Memory.call bound) m a =
      let asked : Memory := ⟨m.insertedAt,some (clamp m.lastNowMs a.hasRaw)⟩
      if m.holds bound (clamp m.lastNowMs a.hasRaw) a.fp then (asked,.replayed)
      else ((asked.call bound ⟨true,a.fp,some a.addRaw⟩).1,.consumed) := by
  simp only [attempt,fresh,Bool.not_true,Bool.false_eq_true,if_false,Memory.call,if_neg a.named]
  cases m.holds bound (clamp m.lastNowMs a.hasRaw) a.fp <;> rfl

theorem inserted_call (m : Memory) (a : Attempt) (fp : String) :
    ((m.call bound ⟨true,a.fp,some a.addRaw⟩).1.insertedAt fp).isSome = true ↔
      (m.insertedAt fp).isSome = true ∨ a.fp = fp := by
  simp only [Memory.call,if_neg a.named,if_true]
  cases found : m.holds bound (clamp m.lastNowMs a.addRaw) a.fp with
  | true =>
    rw [if_pos rfl]
    refine ⟨.inl,fun known => known.elim id ?_⟩
    rintro rfl
    obtain ⟨_,known,_⟩ := Option.any_eq_true _ _ |>.mp found
    rw [known]
    rfl
  | false =>
    rw [if_neg (by simp)]
    by_cases same : fp = a.fp
    · subst same
      simp
    · simp [Function.update_of_ne same,Ne.symm same]

theorem inserted_attempt (m : Memory) (a : Attempt) (fp : String) :
    ((attempt bound (Memory.call bound) m a).1.insertedAt fp).isSome = true ↔
      (m.insertedAt fp).isSome = true ∨ a.fp = fp ∧ (attempt bound (Memory.call bound) m a).2 = .consumed := by
  cases fresh : a.fresh bound with
  | false => simp [attempt,fresh]
  | true =>
    rw [memory_attempt m a fresh]
    split
    · simp
    · rw [inserted_call]
      simp

theorem verdict_memory (before : List Attempt) (a : Attempt) :
    verdict bound before a = (attempt bound (Memory.call bound) (memoryAfter bound before) a).2 :=
  ((windowAfter_tracks before).attempt a).1

theorem consumed_concat (before : List Attempt) (a : Attempt) (fp : String) :
    Consumed bound (before ++ [a]) fp ↔
      Consumed bound before fp ∨ a.fp = fp ∧ verdict bound before a = .consumed := by
  constructor
  · rintro ⟨front,b,back,whole,named,consumed⟩
    rcases List.eq_nil_or_concat back with rfl | ⟨back,last,rfl⟩
    · obtain ⟨rfl,same⟩ := List.append_inj' whole rfl
      obtain rfl := List.singleton_inj.mp same
      exact .inr ⟨named,consumed⟩
    · rw [List.concat_eq_append,← List.cons_append,← List.append_assoc] at whole
      obtain ⟨rfl,_⟩ := List.append_inj' whole rfl
      exact .inl ⟨front,b,back,rfl,named,consumed⟩
  · rintro (⟨front,b,back,rfl,named,consumed⟩ | ⟨named,consumed⟩)
    · exact ⟨front,b,back ++ [a],by simp,named,consumed⟩
    · exact ⟨before,a,[],rfl,named,consumed⟩

/-- A fingerprint was added exactly when the memory knows when. -/
theorem consumed_iff (before : List Attempt) (fp : String) :
    Consumed bound before fp ↔ ((memoryAfter bound before).insertedAt fp).isSome = true := by
  induction before using List.reverseRecOn with
  | nil => simp [Consumed,memoryAfter,Runs.run,Memory.new]
  | append_singleton before a ih =>
    rw [consumed_concat,ih,verdict_memory,← inserted_attempt]
    conv_rhs => rw [memoryAfter,Runs.run_append]
    rfl

/-- An operation that passes the probe is refused exactly when the window remembers its fingerprint. -/
theorem verdict_replayed (before : List Attempt) (a : Attempt) (fresh : a.fresh bound = true) :
    verdict bound before a = .replayed ↔ ∃ insertedAtMs,
      (memoryAfter bound before).insertedAt a.fp = some insertedAtMs ∧
      clamp (memoryAfter bound before).lastNowMs a.hasRaw - insertedAtMs ≤ bound := by
  have held :
      (memoryAfter bound before).holds bound (clamp (memoryAfter bound before).lastNowMs a.hasRaw) a.fp = true ↔
      ∃ insertedAtMs, (memoryAfter bound before).insertedAt a.fp = some insertedAtMs ∧
        clamp (memoryAfter bound before).lastNowMs a.hasRaw - insertedAtMs ≤ bound := by
    rw [Memory.holds,Option.any_eq_true]
    simp
  rw [verdict_memory,memory_attempt _ a fresh,← held]
  split
  · next found => exact iff_of_true rfl found
  · next missing => exact iff_of_false (by simp) missing

/-- The clock stands still during an operation and never steps back, and a fingerprint names when it was probed. -/
structure Steady (attempts : List Attempt) : Prop where
  still : ∀ a ∈ attempts, ∃ now : Int, Record.safeInteger a.nowMs = some now ∧ a.hasRaw = now ∧ a.addRaw = now
  ordered : attempts.Pairwise (·.hasRaw ≤ ·.hasRaw)
  stamped : ∀ a ∈ attempts, ∀ b ∈ attempts, a.fp = b.fp → a.probedAtMs = b.probedAtMs

/-- What a memory knows is the reading of an operation. -/
structure Read (bound : Int) (before : List Attempt) (m : Memory) : Prop where
  inserted : ∀ fp insertedAtMs, m.insertedAt fp = some insertedAtMs →
    ∃ a ∈ before, a.fp = fp ∧ a.fresh bound = true ∧ insertedAtMs = a.hasRaw
  clock : ∀ nowMs, m.lastNowMs = some nowMs → ∃ a ∈ before, nowMs = a.hasRaw

variable {before : List Attempt} {m : Memory} {a : Attempt}

theorem Read.clamp (read : Read bound before m) (later : ∀ b ∈ before, b.hasRaw ≤ a.hasRaw) :
    clamp m.lastNowMs a.hasRaw = a.hasRaw := by
  cases last : m.lastNowMs with
  | none => rfl
  | some nowMs =>
    obtain ⟨b,listed,rfl⟩ := read.clock nowMs last
    exact max_eq_left (later b listed)

theorem Read.attempt (read : Read bound before m) (later : ∀ b ∈ before, b.hasRaw ≤ a.hasRaw)
    (still : a.addRaw = a.hasRaw) :
    Read bound (before ++ [a]) (attempt bound (Memory.call bound) m a).1 := by
  have inserted (fp : String) (insertedAtMs : Rat) (known : m.insertedAt fp = some insertedAtMs) :
      ∃ b ∈ before ++ [a], b.fp = fp ∧ b.fresh bound = true ∧ insertedAtMs = b.hasRaw := by
    obtain ⟨b,listed,facts⟩ := read.inserted fp insertedAtMs known
    exact ⟨b,List.mem_append_left _ listed,facts⟩
  have own : a ∈ before ++ [a] := List.mem_append_right _ List.mem_cons_self
  cases fresh : a.fresh bound with
  | false =>
    rw [ReplayWindow.attempt,fresh]
    refine ⟨inserted,fun nowMs last => ?_⟩
    obtain ⟨b,listed,same⟩ := read.clock nowMs last
    exact ⟨b,List.mem_append_left _ listed,same⟩
  | true =>
    rw [memory_attempt m a fresh,read.clamp later]
    have clock (nowMs : Rat) (last : some a.hasRaw = some nowMs) : ∃ b ∈ before ++ [a], nowMs = b.hasRaw :=
      ⟨a,own,(Option.some.inj last).symm⟩
    split
    · exact ⟨inserted,clock⟩
    · have again : ReplayWindow.clamp (some a.hasRaw) a.addRaw = a.hasRaw := by
        rw [still]
        exact max_self a.hasRaw
      simp only [Memory.call,if_neg a.named,again,if_true]
      refine ⟨fun fp insertedAtMs known => ?_,clock⟩
      split at known
      · exact inserted fp insertedAtMs known
      · change Function.update m.insertedAt a.fp (some a.hasRaw) fp = some insertedAtMs at known
        by_cases same : fp = a.fp
        · subst same
          rw [Function.update_self] at known
          exact ⟨a,own,rfl,fresh,(Option.some.inj known).symm⟩
        · rw [Function.update_of_ne same] at known
          exact inserted fp insertedAtMs known

theorem memoryAfter_read (steady : Steady before) : Read bound before (memoryAfter bound before) := by
  induction before using List.reverseRecOn with
  | nil => exact ⟨by simp [memoryAfter,Runs.run,Memory.new],by simp [memoryAfter,Runs.run,Memory.new]⟩
  | append_singleton before a ih =>
    obtain ⟨ordered,_,across⟩ := List.pairwise_append.mp steady.ordered
    have front : Steady before :=
      ⟨fun b listed => steady.still b (List.mem_append_left _ listed),ordered,fun b listed c among =>
        steady.stamped b (List.mem_append_left _ listed) c (List.mem_append_left _ among)⟩
    obtain ⟨now,_,has,add⟩ := steady.still a (List.mem_append_right _ List.mem_cons_self)
    rw [memoryAfter,Runs.run_append]
    exact (ih front).attempt (fun b listed => across b listed a List.mem_cons_self) (add.trans has.symm)

/-- What passes the probe was stamped before it was read, and is no older than the bound. -/
theorem Attempt.fresh_times (fresh : a.fresh bound = true) : ∃ probedAt now : Int,
    Record.safeInteger a.probedAtMs = some probedAt ∧ Record.safeInteger a.nowMs = some now ∧ probedAt ≤ now ∧
      now - probedAt ≤ bound := by
  have passed : assertFresh ⟨a.probedAtMs,a.nowMs,.number (.int bound)⟩ = .ok () := by
    rw [Attempt.fresh] at fresh
    cases result : assertFresh ⟨a.probedAtMs,a.nowMs,.number (.int bound)⟩ with
    | ok => rfl
    | error refusal =>
      rw [result] at fresh
      cases fresh
  obtain ⟨probedAt,now,maxAge,probed,clock,limit,stamped,young⟩ := Readiness.assertFresh_fresh passed
  rw [Record.safeInteger] at limit
  split at limit
  · rw [Option.some.inj limit]
    exact ⟨probedAt,now,probed,clock,stamped,young⟩
  · cases limit

/-- On a clock that never steps back and stands still during an operation, the two agree. -/
theorem steady_agrees (attempts : List Attempt) (steady : Steady attempts) : Agrees bound attempts := by
  rintro before a after rfl fresh insertedAtMs known
  obtain ⟨ordered,_,across⟩ := List.pairwise_append.mp steady.ordered
  have front : Steady before :=
    ⟨fun b listed => steady.still b (List.mem_append_left _ listed),ordered,fun b listed c among =>
      steady.stamped b (List.mem_append_left _ listed) c (List.mem_append_left _ among)⟩
  have read := @memoryAfter_read bound before front
  have own : a ∈ before ++ a :: after := List.mem_append_right _ List.mem_cons_self
  rw [read.clamp fun b listed => across b listed a List.mem_cons_self]
  obtain ⟨b,listed,same,earlier,rfl⟩ := read.inserted a.fp insertedAtMs known
  have among : b ∈ before ++ a :: after := List.mem_append_left _ listed
  obtain ⟨now,clock,has,_⟩ := steady.still a own
  obtain ⟨now',clock',has',_⟩ := steady.still b among
  obtain ⟨probedAt,_,probed,read,_,young⟩ := Attempt.fresh_times fresh
  obtain ⟨probedAt',_,probed',read',stamped,_⟩ := Attempt.fresh_times earlier
  rw [clock] at read
  rw [clock'] at read'
  cases read
  cases read'
  rw [steady.stamped b among a own same,probed] at probed'
  cases probed'
  rw [has,has']
  have gap : now - now' ≤ bound := by omega
  exact_mod_cast gap

end Attempts

section Sample

/-- An operation on a clock that reads the same when the window is asked and added to. -/
def operation (fp : String) (named : fp ≠ "") (probedAtMs nowMs : Int) (hasRaw : Rat) : Attempt :=
  ⟨fp,named,.number (.int probedAtMs),.number (.int nowMs),hasRaw,hasRaw⟩

def first : Attempt := operation "a" (by decide) 0 0 0

end Sample

end GjcRemote.ReplayWindow
