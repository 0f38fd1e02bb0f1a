import GjcRemote.Runs
import Mathlib.Logic.Function.Basic

/-! `#withStreamingTimeout` of `daemon/src/sdk-session.js`: the idle, hard-cap and gate timers of
one run. A timer that is armed may expire at any moment, so no duration is kept, and any call of
the controller may come between the expiry, the handler that reports it and the `finally`. -/
namespace GjcRemote.StreamingTimeout

open Runs List

inductive Timer
  | idle
  | hardCap
  | gate
deriving DecidableEq,Repr

structure TerminalError where
  message : String
  code : Option String
  terminalDisposition : String
  interruptionConfirmed : Bool
deriving DecidableEq,Repr

def timedOutTerminalError (message : String) : TerminalError := ⟨message,none,"timed_out",false⟩

/-- What wins `Promise.race`. -/
inductive Outcome
  | operation
  | timeout (timer : Timer)
deriving DecidableEq,Repr

inductive Phase
  | waiting
  | caught
  | done
deriving DecidableEq,Repr

structure Controller where
  /-- The handle `setTimeout` gives out next. -/
  next : Nat
  /-- The timers of the host that have neither expired nor been cleared. -/
  pending : List (Nat × Timer)
  /-- The handles of the timers that have expired. -/
  expired : List Nat
  /-- `idleTimer`, `hardCapTimer` and `gateTimer`: a handle stays after its timer is gone. -/
  held : Timer → Option Nat
  settled : Bool
  gateSuspended : Bool
  queueSuspended : Bool
  gateError : TerminalError
  race : Option Outcome
  phase : Phase

def clearTimeout (timer : Timer) (s : Controller) : Controller :=
  { s with pending := s.pending.filter fun armed => s.held timer ≠ some armed.1 }

def setTimeout (timer : Timer) (s : Controller) : Controller :=
  { s with
    next := s.next + 1
    pending := (s.next,timer) :: s.pending
    held := Function.update s.held timer (some s.next) }

section

variable (s : Controller)

def armIdle : Controller :=
  if s.settled || s.gateSuspended || s.queueSuspended then s else setTimeout .idle (clearTimeout .idle s)

def suspendForQueue : Controller :=
  if s.settled || s.queueSuspended then s else clearTimeout .idle { s with queueSuspended := true }

def resumeAfterQueue : Controller :=
  if s.settled || !s.queueSuspended then s else armIdle { s with queueSuspended := false }

def suspendForGate : Controller :=
  if s.settled || s.gateSuspended then s
  else setTimeout .gate (clearTimeout .idle { s with gateSuspended := true })

def resumeAfterGate : Controller :=
  if s.settled || !s.gateSuspended then s
  else armIdle (clearTimeout .gate { s with gateSuspended := false })

/-- Before any timer is armed. -/
def created : Controller :=
  { next := 0,pending := [],expired := [],held := fun _ => none,settled := false,gateSuspended := false,
    queueSuspended := false,gateError := timedOutTerminalError "SDK gate answer window expired",
    race := none,phase := .waiting }

def start : Controller := setTimeout .hardCap (armIdle created)

/-- The callback of a timer: only the first rejection of the promise counts. -/
def expire (handle : Nat) (timer : Timer) (hasPendingGate : Bool) (s : Controller) : Controller :=
  { s with
    pending := s.pending.filter (·.1 ≠ handle)
    expired := handle :: s.expired
    gateError := if timer = .gate && hasPendingGate then
        { s.gateError with
          code := some "SDK_TRACKED_INPUT_GATE_OWNERSHIP"
          message := "SDK workflow gate ownership is not provable from public run events" }
      else s.gateError
    race := s.race.or (some (.timeout timer)) }

def settle : Controller :=
  clearTimeout .gate (clearTimeout .hardCap (clearTimeout .idle { s with settled := true,phase := .done }))

def error : Timer → TerminalError
  | .idle => timedOutTerminalError "SDK command timed out"
  | .hardCap => timedOutTerminalError "SDK command exceeded absolute hard-cap"
  | .gate => s.gateError

inductive Event
  | arm
  | suspendForGate
  | resumeAfterGate
  | suspendForQueue
  | resumeAfterQueue
  /-- The host runs the callback of the timer with this handle. -/
  | expire (handle : Nat) (hasPendingGate : Bool)
  | operationSettles
  /-- The `await` of the race goes on. -/
  | await
  /-- The `catch` is left for the `finally`. -/
  | finish
deriving DecidableEq,Repr

/-- What an event does, and the expiry with which it closes the adapter. An event that cannot
happen in the state does nothing. -/
def step : Event → Controller × Option TerminalError
  | .arm => (armIdle s,none)
  | .suspendForGate => (suspendForGate s,none)
  | .resumeAfterGate => (resumeAfterGate s,none)
  | .suspendForQueue => (suspendForQueue s,none)
  | .resumeAfterQueue => (resumeAfterQueue s,none)
  | .expire handle hasPendingGate =>
    match s.pending.find? (·.1 = handle) with
    | some (_,timer) => (expire handle timer hasPendingGate s,none)
    | none => (s,none)
  | .operationSettles => ({ s with race := s.race.or (some .operation) },none)
  | .await =>
    match s.phase,s.race with
    | .waiting,some (.timeout timer) => ({ s with phase := .caught },some (error s timer))
    | .waiting,some .operation => (settle s,none)
    | _,_ => (s,none)
  | .finish => if s.phase = .caught then (settle s,none) else (s,none)

/-- The state after the events of a run. -/
def after (events : List Event) : Controller := run step start events

def Armed (timer : Timer) : Prop := ∃ handle, (handle,timer) ∈ s.pending

/-- The timer that was armed last has itself expired. -/
def RanOut (timer : Timer) : Prop :=
  ∃ handle, s.held timer = some handle ∧ handle ∈ s.expired

/-- The variables hold the handles of all armed timers, and no handle is given out twice. -/
structure Handles : Prop where
  holds : ∀ handle timer, (handle,timer) ∈ s.pending → s.held timer = some handle
  distinct : ∀ a b handle, s.held a = some handle → s.held b = some handle → a = b
  below : ∀ timer handle, s.held timer = some handle → handle < s.next
  spent : ∀ handle ∈ s.expired, handle < s.next
  apart : ∀ handle timer, (handle,timer) ∈ s.pending → handle ∉ s.expired

end

theorem mem_clearTimeout (h : Handles s) :
    (handle,other) ∈ (clearTimeout timer s).pending ↔ (handle,other) ∈ s.pending ∧ other ≠ timer := by
  simp only [clearTimeout,mem_filter,decide_eq_true_eq]
  refine and_congr_right fun member => not_congr ⟨fun same => ?_,fun same => ?_⟩
  · exact h.distinct _ _ _ (h.holds _ _ member) same
  · exact same ▸ h.holds _ _ member

theorem armed_clearTimeout (h : Handles s) : Armed (clearTimeout timer s) other ↔ Armed s other ∧ other ≠ timer := by
  simp only [Armed,mem_clearTimeout h,exists_and_right]

theorem armed_setTimeout : Armed (setTimeout timer s) other ↔ Armed s other ∨ other = timer := by
  simp only [Armed,setTimeout,mem_cons,Prod.mk.injEq,exists_or,exists_and_right,exists_eq,true_and]
  exact or_comm

theorem ranOut_setTimeout (h : Handles s) : RanOut (setTimeout timer s) other ↔ RanOut s other ∧ other ≠ timer := by
  by_cases same : other = timer
  · subst same
    simpa [RanOut,setTimeout] using fun old => Nat.lt_irrefl _ (h.spent _ old)
  · simp [RanOut,setTimeout,same]

theorem Handles.clearTimeout (h : Handles s) : Handles (clearTimeout timer s) where
  holds _ _ member := h.holds _ _ ((mem_clearTimeout h).mp member).1
  distinct := h.distinct
  below := h.below
  spent := h.spent
  apart _ _ member := h.apart _ _ ((mem_clearTimeout h).mp member).1

theorem Handles.setTimeout (h : Handles s) (off : ¬Armed s timer) : Handles (setTimeout timer s) where
  holds handle other member := by
    rcases mem_cons.mp member with equal | old
    · obtain ⟨rfl,rfl⟩ := Prod.mk.inj equal
      exact Function.update_self ..
    · have different : other ≠ timer := fun same => off ⟨handle,same ▸ old⟩
      exact (Function.update_of_ne different ..).trans (h.holds _ _ old)
  distinct a b handle left right := by
    simp only [StreamingTimeout.setTimeout,Function.update_apply] at left right
    split at left <;> split at right
    · simp_all
    · exact absurd (Option.some.inj left ▸ h.below _ _ right) (Nat.lt_irrefl _)
    · exact absurd (Option.some.inj right ▸ h.below _ _ left) (Nat.lt_irrefl _)
    · exact h.distinct _ _ _ left right
  below other handle found := by
    simp only [StreamingTimeout.setTimeout,Function.update_apply] at found
    split at found
    · exact Option.some.inj found ▸ Nat.lt_succ_self _
    · exact Nat.lt_succ_of_lt (h.below _ _ found)
  spent _ member := Nat.lt_succ_of_lt (h.spent _ member)
  apart handle other member := by
    rcases mem_cons.mp member with equal | old
    · exact fun old => Nat.lt_irrefl _ ((Prod.mk.inj equal).1 ▸ h.spent _ old)
    · exact h.apart _ _ old

theorem armed_expire (h : Handles s) (armed : (handle,timer) ∈ s.pending) :
    Armed (expire handle timer hasPendingGate s) other ↔ Armed s other ∧ other ≠ timer := by
  simp only [Armed,expire,mem_filter,decide_eq_true_eq]
  constructor
  · rintro ⟨found,member,different⟩
    refine ⟨⟨found,member⟩,fun same => different ?_⟩
    exact Option.some.inj ((same ▸ h.holds _ _ member).symm.trans (h.holds _ _ armed))
  · rintro ⟨⟨found,member⟩,different⟩
    exact ⟨found,member,fun same => different (h.distinct _ _ _ (h.holds _ _ member) (same ▸ h.holds _ _ armed))⟩

theorem Handles.expire (h : Handles s) (armed : (handle,timer) ∈ s.pending) :
    Handles (expire handle timer hasPendingGate s) where
  holds _ _ member := h.holds _ _ (mem_filter.mp member).1
  distinct := h.distinct
  below := h.below
  spent found member := by
    rcases mem_cons.mp member with rfl | old
    · exact h.below _ _ (h.holds _ _ armed)
    · exact h.spent _ old
  apart found other member := by
    obtain ⟨old,different⟩ := mem_filter.mp member
    exact not_mem_cons_of_ne_of_not_mem (of_decide_eq_true different) (h.apart _ _ old)

structure Inv (s : Controller) : Prop extends Handles s where
  idle : Armed s .idle → s.gateSuspended = false ∧ s.queueSuspended = false
  hardCap : s.settled = false → Armed s .hardCap ∨ RanOut s .hardCap
  suspended : s.settled = false → s.gateSuspended = true → Armed s .gate ∨ RanOut s .gate
  gate : Armed s .gate → s.gateSuspended = true
  quiet : s.settled = true → ∀ timer, ¬Armed s timer
  decided : s.expired ≠ [] → s.race ≠ none

theorem Inv.armIdle (h : Inv s) : Inv (armIdle s) := by
  unfold StreamingTimeout.armIdle
  split
  · exact h
  next free =>
    simp only [Bool.or_eq_true,not_or,Bool.not_eq_true] at free
    have cleared : Handles (clearTimeout .idle s) := h.toHandles.clearTimeout
    have off : ¬Armed (clearTimeout .idle s) .idle := fun armed => ((armed_clearTimeout h.toHandles).mp armed).2 rfl
    refine ⟨cleared.setTimeout off,fun _ => ⟨free.1.2,free.2⟩,fun going => ?_,fun _ suspended => ?_,fun armed => ?_,
      fun settled => ?_,h.decided⟩
    · exact (h.hardCap going).imp
        (fun armed => armed_setTimeout.mpr (.inl ((armed_clearTimeout h.toHandles).mpr ⟨armed,by decide⟩)))
        fun out => (ranOut_setTimeout cleared).mpr ⟨out,by decide⟩
    · exact absurd (free.1.2.symm.trans suspended) Bool.false_ne_true
    · simp only [armed_setTimeout,armed_clearTimeout h.toHandles,reduceCtorEq,or_false] at armed
      exact h.gate armed.1
    · exact absurd (free.1.1.symm.trans settled) Bool.false_ne_true

theorem Inv.suspendForQueue (h : Inv s) : Inv (suspendForQueue s) := by
  unfold StreamingTimeout.suspendForQueue
  split
  · exact h
  next free =>
    have base : Handles { s with queueSuspended := true } := { h.toHandles with }
    refine ⟨base.clearTimeout,fun armed => ?_,fun going => ?_,fun going suspended => ?_,fun armed => ?_,
      fun settled timer armed => ?_,h.decided⟩
    · exact absurd rfl ((armed_clearTimeout base).mp armed).2
    · exact (h.hardCap going).imp_left fun armed => (armed_clearTimeout base).mpr ⟨armed,by decide⟩
    · exact (h.suspended going suspended).imp_left fun armed => (armed_clearTimeout base).mpr ⟨armed,by decide⟩
    · exact h.gate ((armed_clearTimeout base).mp armed).1
    · exact h.quiet settled timer ((armed_clearTimeout base).mp armed).1

theorem Inv.resumeAfterQueue (h : Inv s) : Inv (resumeAfterQueue s) := by
  unfold StreamingTimeout.resumeAfterQueue
  split
  · exact h
  · exact Inv.armIdle ⟨{ h.toHandles with },fun armed => ⟨(h.idle armed).1,rfl⟩,h.hardCap,h.suspended,h.gate,h.quiet,
      h.decided⟩

theorem Inv.suspendForGate (h : Inv s) : Inv (suspendForGate s) := by
  unfold StreamingTimeout.suspendForGate
  split
  · exact h
  next free =>
    simp only [Bool.or_eq_true,not_or,Bool.not_eq_true] at free
    have base : Handles { s with gateSuspended := true } := { h.toHandles with }
    have off : ¬Armed (clearTimeout .idle { s with gateSuspended := true }) .gate := fun armed =>
      absurd (free.2.symm.trans (h.gate ((armed_clearTimeout base).mp armed).1)) Bool.false_ne_true
    refine ⟨base.clearTimeout.setTimeout off,fun armed => ?_,fun going => ?_,fun _ _ => ?_,fun _ => rfl,
      fun settled => ?_,h.decided⟩
    · simp [armed_setTimeout,armed_clearTimeout base] at armed
    · exact (h.hardCap going).imp
        (fun armed => armed_setTimeout.mpr (.inl ((armed_clearTimeout base).mpr ⟨armed,by decide⟩)))
        fun out => (ranOut_setTimeout base.clearTimeout).mpr ⟨out,by decide⟩
    · exact .inl (armed_setTimeout.mpr (.inr rfl))
    · exact absurd (free.1.symm.trans settled) Bool.false_ne_true

theorem Inv.resumeAfterGate (h : Inv s) : Inv (resumeAfterGate s) := by
  unfold StreamingTimeout.resumeAfterGate
  split
  · exact h
  next bound =>
    simp only [Bool.or_eq_true,not_or,Bool.not_eq_true,Bool.not_eq_false'] at bound
    have base : Handles { s with gateSuspended := false } := { h.toHandles with }
    refine Inv.armIdle ⟨base.clearTimeout,fun armed => ?_,fun going => ?_,fun _ suspended => ?_,fun armed => ?_,
      fun settled => ?_,h.decided⟩
    · exact absurd ((h.idle ((armed_clearTimeout base).mp armed).1).1.symm.trans bound.2) Bool.false_ne_true
    · exact (h.hardCap going).imp_left fun armed => (armed_clearTimeout base).mpr ⟨armed,by decide⟩
    · exact absurd suspended Bool.false_ne_true
    · exact absurd rfl ((armed_clearTimeout base).mp armed).2
    · exact absurd (bound.1.symm.trans settled) Bool.false_ne_true

theorem Inv.expire (h : Inv s) (armed : (handle,timer) ∈ s.pending) : Inv (expire handle timer hasPendingGate s) := by
  have fell : RanOut (StreamingTimeout.expire handle timer hasPendingGate s) timer :=
    ⟨handle,h.holds _ _ armed,mem_cons_self⟩
  have stays : ∀ other, Armed s other ∨ RanOut s other →
      Armed (StreamingTimeout.expire handle timer hasPendingGate s) other ∨
        RanOut (StreamingTimeout.expire handle timer hasPendingGate s) other := by
    intro other before
    by_cases same : other = timer
    · exact .inr (same ▸ fell)
    · exact before.imp (fun old => (armed_expire h.toHandles armed).mpr ⟨old,same⟩)
        fun old => old.imp fun _ at_ => ⟨at_.1,mem_cons_of_mem _ at_.2⟩
  refine ⟨h.toHandles.expire armed,fun now => ?_,fun going => ?_,fun going suspended => ?_,fun now => ?_,
    fun settled other now => ?_,fun _ => ?_⟩
  · exact h.idle ((armed_expire h.toHandles armed).mp now).1
  · exact stays _ (h.hardCap going)
  · exact stays _ (h.suspended going suspended)
  · exact h.gate ((armed_expire h.toHandles armed).mp now).1
  · exact h.quiet settled other ((armed_expire h.toHandles armed).mp now).1
  · cases found : s.race <;> simp [StreamingTimeout.expire,found]

theorem Inv.settle (h : Inv s) : Inv (settle s) := by
  have base : Handles { s with settled := true,phase := .done } := { h.toHandles with }
  have quiet : ∀ timer, ¬Armed (StreamingTimeout.settle s) timer := by
    intro timer
    simp only [StreamingTimeout.settle,armed_clearTimeout base.clearTimeout.clearTimeout,
      armed_clearTimeout base.clearTimeout,armed_clearTimeout base]
    cases timer <;> simp
  exact ⟨base.clearTimeout.clearTimeout.clearTimeout,fun armed => absurd armed (quiet _),
    fun going => Bool.noConfusion going,fun going => Bool.noConfusion going,
    fun armed => absurd armed (quiet _),fun _ => quiet,h.decided⟩

theorem inv_start : Inv start := by
  have base : Handles created := by constructor <;> simp [created]
  have first : Handles (setTimeout .idle (clearTimeout .idle created)) :=
    base.clearTimeout.setTimeout (by simp [Armed,clearTimeout,created])
  have off : ¬Armed (setTimeout .idle (clearTimeout .idle created)) .hardCap := by
    simp [Armed,setTimeout,clearTimeout,created]
  refine ⟨first.setTimeout off,fun _ => ⟨rfl,rfl⟩,fun _ => .inl (armed_setTimeout.mpr (.inr rfl)),
    fun _ suspended => Bool.noConfusion suspended,fun armed => ?_,fun settled => Bool.noConfusion settled,
    fun some_ => absurd rfl some_⟩
  simp [Armed,start,armIdle,setTimeout,clearTimeout,created] at armed

theorem inv_step (s : Controller) (event : Event) (h : Inv s) : Inv (step s event).1 := by
  cases event with
  | arm => exact h.armIdle
  | suspendForGate => exact h.suspendForGate
  | resumeAfterGate => exact h.resumeAfterGate
  | suspendForQueue => exact h.suspendForQueue
  | resumeAfterQueue => exact h.resumeAfterQueue
  | expire handle hasPendingGate =>
    simp only [step]
    split
    next found =>
      have same := find?_some found
      exact h.expire (of_decide_eq_true same ▸ mem_of_find?_eq_some found)
    · exact h
  | operationSettles =>
    refine { h with decided := fun some_ => ?_ }
    cases found : s.race <;> simp [step,found]
  | await =>
    simp only [step]
    split
    · exact { h with }
    · exact h.settle
    · exact h
  | finish =>
    simp only [step]
    split
    · exact h.settle
    · exact h

theorem inv_after (events : List Event) : Inv (after events) :=
  run_invariant inv_step inv_start events

theorem Handles.not_ranOut (h : Handles s) (armed : Armed s timer) : ¬RanOut s timer := by
  rintro ⟨handle,held,out⟩
  obtain ⟨found,member⟩ := armed
  exact h.apart _ _ member (Option.some.inj ((h.holds _ _ member).symm.trans held) ▸ out)

theorem Inv.armed_hardCap (h : Inv s) : Armed s .hardCap ↔ s.settled = false ∧ ¬RanOut s .hardCap := by
  constructor
  · exact fun armed => ⟨eq_false_of_ne_true fun settled => h.quiet settled _ armed,h.not_ranOut armed⟩
  · exact fun going => (h.hardCap going.1).resolve_right going.2

theorem Inv.armed_gate (h : Inv s) :
    Armed s .gate ↔ s.settled = false ∧ s.gateSuspended = true ∧ ¬RanOut s .gate := by
  constructor
  · exact fun armed => ⟨eq_false_of_ne_true fun settled => h.quiet settled _ armed,h.gate armed,
      h.not_ranOut armed⟩
  · exact fun going => (h.suspended going.1 going.2.1).resolve_right going.2.2

theorem reports_leave (s : Controller) (event : Event) (reported : (step s event).2.isSome = true) :
    (step s event).1.phase ≠ .waiting := by
  cases event with
  | await =>
    simp only [step] at reported ⊢
    split at reported <;> simp_all
  | expire | finish =>
    simp only [step] at reported
    split at reported <;> exact absurd reported Bool.false_ne_true
  | _ => exact absurd reported Bool.false_ne_true

theorem phase_stays (s : Controller) (event : Event) (left : s.phase ≠ .waiting) :
    (step s event).1.phase ≠ .waiting ∧ (step s event).2.isSome = false := by
  cases event <;>
    simp only [step,armIdle,suspendForGate,resumeAfterGate,suspendForQueue,resumeAfterQueue]
  all_goals repeat' split
  all_goals simp_all [setTimeout,clearTimeout,expire,settle]

/-- The timer that ran out and decided the race may be gone before the run is settled. -/
theorem streaming_timeouts (events : List Event) :
    (Armed (after events) .idle → (after events).gateSuspended = false ∧ (after events).queueSuspended = false) ∧
    (Armed (after events) .hardCap ↔ (after events).settled = false ∧ ¬RanOut (after events) .hardCap) ∧
    (Armed (after events) .gate ↔
      (after events).settled = false ∧ (after events).gateSuspended = true ∧ ¬RanOut (after events) .gate) ∧
    ((after events).expired ≠ [] → (after events).race ≠ none) ∧
    ((after events).settled = true → ∀ timer, ¬Armed (after events) timer) ∧
    (visits step start events).countP (fun visit => (step visit.1 visit.2).2.isSome) ≤ 1 := by
  have h := inv_after events
  refine ⟨h.idle,h.armed_hardCap,h.armed_gate,h.decided,h.quiet,?_⟩
  exact @visits_once _ _ _ step (fun s event => (step s event).2.isSome) (·.phase ≠ .waiting) reports_leave
    (fun s event left => (phase_stays s event left).1) (fun s event left => (phase_stays s event left).2) _ _

/-- The hard cap and the gate window leave the state before the `finally` settles the run. -/
theorem expired_timer_gone :
    ((after [.expire 1 false]).settled = false ∧ ¬Armed (after [.expire 1 false]) .hardCap) ∧
    (after [.suspendForGate,.expire 2 false]).gateSuspended = true ∧
    ¬Armed (after [.suspendForGate,.expire 2 false]) .gate := by
  have capped : (after [.expire 1 false]).pending = [(0,.idle)] := rfl
  have suspended : (after [.suspendForGate,.expire 2 false]).pending = [(1,.hardCap)] := rfl
  refine ⟨⟨rfl,?_⟩,rfl,?_⟩
  · rintro ⟨handle,armed⟩
    rw [capped] at armed
    cases mem_singleton.mp armed
  · rintro ⟨handle,armed⟩
    rw [suspended] at armed
    cases mem_singleton.mp armed

end GjcRemote.StreamingTimeout
