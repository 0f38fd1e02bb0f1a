import GjcRemote.PendingInvoke

/-! What holds of the pending invokes of the bot at all times, and that the operations on one
request keep it. -/
namespace GjcRemote.HostInvoke

open Utf16 List OrderedMap Registry

variable {p : Nat}

/-- Where no request is on its way, none is this one. -/
theorem not_loose {P : Prop} (none : none = some p) : P := absurd none.symm (Option.some_ne_none p)

def Ticking (pending : Pending) : Prop :=
  pending.settled = false →
    (pending.cancellation = none ∧ pending.hardCapTimer = true) ∨
      (pending.cancellation.isSome = true ∧ pending.cancelReceiptTimer = true)

/-- The cancellation takes the place of the hard cap, and a gate that of the idle timer. -/
structure Paused (pending : Pending) : Prop where
  hardCap : pending.cancellation.isSome = true → pending.hardCapTimer = false
  idle : pending.gatePending = true → pending.idleTimer = false

/-- The socket is connected, or its connection is ending. -/
def Registry.isLive (s : Registry) (ending : Option Nat) (socket : Nat) : Prop :=
  (s.connectionIdentities.get socket).isSome = true ∨ ending = some socket

def Registry.pendingOn (s : Registry) (socket : Nat) : Nat :=
  s.pendingRequests.entries.countP fun e => (s.pendings e.2).socket == socket

def Registry.settledTimes (s : Registry) (p : Nat) : Nat := (s.settlements.map Prod.fst).count p

/-- An answer that a host has not confirmed, and the request that it is for. -/
structure Awaited (issued invoked : Nat) (pending : Pending) (a : Nat) (e : GateAnswer) : Prop where
  drawn : a < issued
  below : e.pending < invoked
  request : pending.requestId = e.requestId
  socket : pending.socket = e.socket
  asked : pending.gateAnswers.get e.gateId = some a

/-- The registry is sound but for the timers of the request `loose`. -/
structure Sound (ending loose : Option Nat) (s : Registry) : Prop where
  requests : ∀ r p, s.pendingRequests.get r = some p →
    p < s.invoked ∧ (s.pendings p).requestId = r ∧ s.isLive ending (s.pendings p).socket
  unsettled : ∀ p < s.invoked, (s.pendings p).settled = false →
    s.pendingRequests.get (s.pendings p).requestId = some p
  counted : ∀ socket, (s.pendingCountBySocket.get socket).getD 0 = s.pendingOn socket
  settlements : ∀ p, s.settledTimes p = if p < s.invoked ∧ (s.pendings p).settled = true then 1 else 0
  ticking : ∀ p < s.invoked, loose ≠ some p → Ticking (s.pendings p)
  paused : ∀ p < s.invoked, Paused (s.pendings p)
  tombstones : ∀ r e, s.cancelTombstones.get r = some e → s.isLive ending e.socket
  presentations : ∀ a e, s.pendingGatePresentations.get a = some e → s.isLive ending e.socket
  abandons : ∀ a e, s.pendingGateAbandons.get a = some e → s.isLive ending e.socket
  answers : ∀ a e, s.pendingGateAnswers.get a = some e → s.isLive ending e.socket ∧
    Awaited s.issued s.invoked (s.pendings e.pending) a e
  asked : ∀ p < s.invoked, ∀ g a, (s.pendings p).gateAnswers.get g = some a →
    ∃ e, s.pendingGateAnswers.get a = some e ∧ e.pending = p ∧ e.gateId = g
  room : ∀ socket, s.outstanding socket ≤ MAX_PENDING_PER_HOST
  connected : ∀ hostId socket, s.connections.get hostId = some socket →
    s.isLive ending socket ∧ s.sockets[socket]? = some hostId

structure SameRequest (before after : Pending) : Prop where
  requestId : after.requestId = before.requestId
  hostId : after.hostId = before.hostId
  socket : after.socket = before.socket
  connectionIdentity : after.connectionIdentity = before.connectionIdentity

theorem SameRequest.refl (pending : Pending) : SameRequest pending pending := ⟨rfl,rfl,rfl,rfl⟩

theorem SameRequest.trans (one : SameRequest first second)
    (two : SameRequest second third) : SameRequest first third :=
  ⟨two.requestId.trans one.requestId,two.hostId.trans one.hostId,two.socket.trans one.socket,
    two.connectionIdentity.trans one.connectionIdentity⟩

variable {cfg : Config} {net : Transport} {ending loose : Option Nat} {s : Registry}

@[simp] theorem modify_self (s : Registry) (p : Nat) (change : Pending → Pending) :
    (s.modify p change).pendings p = change (s.pendings p) := Function.update_self ..

theorem modify_ne (s : Registry) (change : Pending → Pending) (ne : q ≠ p) :
    (s.modify p change).pendings q = s.pendings q := Function.update_of_ne ne ..

theorem modify_same (same : SameRequest (s.pendings p) (change (s.pendings p)))
    (q : Nat) : SameRequest (s.pendings q) ((s.modify p change).pendings q) := by
  by_cases here : q = p
  · subst here
    rw [modify_self]
    exact same
  · rw [modify_ne s change here]
    exact .refl _

variable {s' : Registry}

theorem pendingOn_congr (requests : s'.pendingRequests = s.pendingRequests)
    (same : ∀ q, SameRequest (s.pendings q) (s'.pendings q)) (socket : Nat) :
    s'.pendingOn socket = s.pendingOn socket := by
  rw [pendingOn,pendingOn,requests]
  exact countP_congr fun e _ => by rw [(same e.2).socket]

structure Touches (s s' : Registry) : Prop where
  rest : s' = {s with pendings := s'.pendings,settlements := s'.settlements}
  same : ∀ q, SameRequest (s.pendings q) (s'.pendings q)
  answers : ∀ q, (s'.pendings q).gateAnswers = (s.pendings q).gateAnswers
  unsettled : ∀ q, (s'.pendings q).settled = false → (s.pendings q).settled = false

theorem Touches.requests (touches : Touches s s') :
    s'.pendingRequests = s.pendingRequests := by rw [touches.rest]

theorem Sound.touch (sound : Sound ending loose s) (touches : Touches s s')
    (settlements : ∀ q, s'.settledTimes q = if q < s.invoked ∧ (s'.pendings q).settled = true then 1 else 0)
    (ticking : ∀ q < s.invoked, loose' ≠ some q → Ticking (s'.pendings q))
    (paused : ∀ q < s.invoked, Paused (s'.pendings q)) : Sound ending loose' s' := by
  obtain ⟨rest,same,answers,unsettled⟩ := touches
  have requests : s'.pendingRequests = s.pendingRequests := by rw [rest]
  have invoked : s'.invoked = s.invoked := by rw [rest]
  have live : s'.isLive ending = s.isLive ending := by rw [rest]; rfl
  constructor
  case requests =>
    intro r q found
    rw [requests] at found
    rw [invoked,live,(same q).requestId,(same q).socket]
    exact sound.requests r q found
  case unsettled =>
    intro q below open'
    rw [invoked] at below
    rw [requests,(same q).requestId]
    exact sound.unsettled q below (unsettled q open')
  case counted =>
    intro socket
    rw [pendingOn_congr requests same,← sound.counted,rest]
  case settlements =>
    rw [invoked]
    exact settlements
  case ticking =>
    rw [invoked]
    exact ticking
  case paused =>
    rw [invoked]
    exact paused
  case tombstones =>
    rw [live,rest]
    exact sound.tombstones
  case presentations =>
    rw [live,rest]
    exact sound.presentations
  case abandons =>
    rw [live,rest]
    exact sound.abandons
  case answers =>
    intro a e found
    have found' : s.pendingGateAnswers.get a = some e := by rw [← found,rest]
    obtain ⟨live',awaited⟩ := sound.answers a e found'
    have issued : s'.issued = s.issued := by rw [rest]
    exact ⟨live ▸ live',{
      drawn := issued ▸ awaited.drawn
      below := invoked ▸ awaited.below
      request := (same e.pending).requestId.trans awaited.request
      socket := (same e.pending).socket.trans awaited.socket
      asked := (answers e.pending).symm ▸ awaited.asked}⟩
  case asked =>
    intro q below g a asked
    rw [invoked] at below
    rw [answers] at asked
    obtain ⟨e,found,own⟩ := sound.asked q below g a asked
    refine ⟨e,?_,own⟩
    rw [← found,rest]
  case room =>
    intro socket
    rw [rest]
    exact sound.room socket
  case connected =>
    intro hostId socket found
    have found' : s.connections.get hostId = some socket := by rw [← found,rest]
    rw [live]
    refine ⟨(sound.connected hostId socket found').1,?_⟩
    rw [rest]
    exact (sound.connected hostId socket found').2

/-- A change of a request that settles nothing and answers nothing. -/
structure Mild (change : Pending → Pending) : Prop where
  same : ∀ pending, SameRequest pending (change pending)
  answers : ∀ pending, (change pending).gateAnswers = pending.gateAnswers
  settled : ∀ pending, (change pending).settled = pending.settled

theorem modify_touches (s : Registry) (p : Nat) {change : Pending → Pending}
    (same : ∀ pending, SameRequest pending (change pending))
    (answers : ∀ pending, (change pending).gateAnswers = pending.gateAnswers)
    (unsettled : ∀ pending, (change pending).settled = false → pending.settled = false) :
    Touches s (s.modify p change) := by
  refine ⟨rfl,modify_same (same _),fun q => ?_,fun q => ?_⟩
  all_goals by_cases here : q = p
  · rw [here,modify_self]
    exact answers _
  · rw [modify_ne s change here]
  · rw [here,modify_self]
    exact unsettled _
  · rw [modify_ne s change here]
    exact id

/-- The timers of the request change, or its gate. `loose'` is the request whose timers are not
right yet. -/
theorem Sound.modify (sound : Sound ending loose s) (mild : Mild change)
    (ticking : p < s.invoked → loose' ≠ some p → Ticking (change (s.pendings p)))
    (others : ∀ q, q ≠ p → loose' ≠ some q → loose ≠ some q)
    (paused : Paused (s.pendings p) → Paused (change (s.pendings p))) :
    Sound ending loose' (s.modify p change) := by
  refine sound.touch (modify_touches s p mild.same mild.answers fun pending => ?_) ?_ ?_ ?_
  · rw [mild.settled]
    exact id
  · intro q
    by_cases here : q = p
    · rw [here,modify_self,mild.settled]
      exact sound.settlements p
    · rw [modify_ne s change here]
      exact sound.settlements q
  · intro q below tight
    by_cases here : q = p
    · rw [here] at below tight ⊢
      rw [modify_self]
      exact ticking below tight
    · rw [modify_ne s change here]
      exact sound.ticking q below (others q here tight)
  · intro q below
    by_cases here : q = p
    · rw [here] at below ⊢
      rw [modify_self]
      exact paused (sound.paused p below)
    · rw [modify_ne s change here]
      exact sound.paused q below

@[simp] theorem settle_settled (s : Registry) (p : Nat) (result : Result) :
    ((s.settle p result).pendings p).settled := by
  unfold settle
  split
  · next done => exact done
  · simp only [resolve,modify_self,Pending.settle]

theorem settle_touches (s : Registry) (p : Nat) (result : Result) : Touches s (s.settle p result) := by
  unfold settle
  split
  · exact ⟨rfl,fun q => .refl _,fun _ => rfl,fun _ => id⟩
  · have touches := @modify_touches s p Pending.settle (fun _ => ⟨rfl,rfl,rfl,rfl⟩) (fun _ => rfl)
      (fun _ none => nomatch none)
    exact ⟨rfl,touches.same,touches.answers,touches.unsettled⟩

theorem settle_ne (s : Registry) (result : Result) (ne : q ≠ p) :
    (s.settle p result).pendings q = s.pendings q := by
  unfold settle
  split
  · rfl
  · exact modify_ne s _ ne

/-- A promise is settled once. -/
theorem settle_times (sound : Sound ending loose s) (below : p < s.invoked) (result : Result) (q : Nat) :
    (s.settle p result).settledTimes q =
      if q < s.invoked ∧ ((s.settle p result).pendings q).settled = true then 1 else 0 := by
  have before := sound.settlements q
  unfold Registry.settle
  split
  · exact before
  · next open' =>
    have logged : ((s.modify p Pending.settle).resolve p result).settledTimes q =
        s.settledTimes q + if p = q then 1 else 0 := by
      simp only [Registry.settledTimes,Registry.resolve,Registry.modify,map_append,map_cons,
        map_nil,count_append,count_singleton,beq_iff_eq]
    rw [logged,before]
    by_cases here : q = p
    · rw [here] at *
      simp only [Registry.resolve,modify_self,Pending.settle,open',below]
      rfl
    · rw [if_neg (Ne.symm here)]
      simp only [Registry.resolve,modify_ne s _ here]
      rfl

theorem Sound.settle (sound : Sound ending loose s) (below : p < s.invoked)
    (only : ∀ q, q ≠ p → loose ≠ some q) (result : Result) : Sound ending none (s.settle p result) := by
  refine sound.touch (settle_touches s p result) (settle_times sound below result) ?_ ?_
  · intro q inside _
    by_cases here : q = p
    · rw [here]
      intro open'
      rw [settle_settled] at open'
      cases open'
    · rw [settle_ne s result here]
      exact sound.ticking q inside (only q here)
  · intro q inside
    by_cases here : q = p
    · rw [here]
      unfold Registry.settle
      split
      · exact sound.paused p below
      · simp only [resolve,modify_self]
        exact ⟨fun _ => rfl,fun _ => rfl⟩
    · rw [settle_ne s result here]
      exact sound.paused q inside

theorem create_same (s : Registry) (pending : Pending) (below : q < s.invoked) :
    (s.create pending).pendings q = s.pendings q := Function.update_of_ne (Nat.ne_of_lt below) ..

@[simp] theorem create_self (s : Registry) (pending : Pending) :
    (s.create pending).pendings s.invoked = pending := Function.update_self ..

structure Entering (ending : Option Nat) (s : Registry) (pending : Pending) : Prop where
  absent : s.pendingRequests.get pending.requestId = none
  live : s.isLive ending pending.socket
  unsettled : pending.settled = false
  ticking : Ticking pending
  paused : Paused pending
  unasked : pending.gateAnswers = .empty

theorem Sound.create (sound : Sound ending none s) (enters : Entering ending s pending) :
    Sound ending none ((s.create pending).addPending pending.requestId s.invoked) := by
  have new := create_self s pending
  have old {q : Nat} (below : q < s.invoked) := create_same s pending below
  have split {q : Nat} (below : q < s.invoked + 1) : q = s.invoked ∨ q < s.invoked := by omega
  have looked (r : Units) (q : Nat) (found : (s.pendingRequests.set pending.requestId s.invoked).get r = some q) :
      (r = pending.requestId ∧ q = s.invoked) ∨ s.pendingRequests.get r = some q := by
    rw [get_set] at found
    split at found
    · next here => exact .inl ⟨here,(Option.some.inj found).symm⟩
    · exact .inr found
  constructor
  case requests =>
    intro r q found
    rcases looked r q found with ⟨rfl,rfl⟩ | found'
    · simp only [addPending,new]
      exact ⟨Nat.lt_succ_self _,trivial,enters.live⟩
    · obtain ⟨below,own,live'⟩ := sound.requests r q found'
      simp only [addPending,old below]
      exact ⟨Nat.lt_succ_of_lt below,own,live'⟩
  case unsettled =>
    intro q below open'
    rcases split below with rfl | below'
    · simp only [addPending,new]
      exact get_set_self ..
    · simp only [addPending,old below'] at open' ⊢
      have found := sound.unsettled q below' open'
      refine (get_set_ne _ _ ?_).trans found
      intro same
      rw [same,enters.absent] at found
      cases found
  case counted =>
    intro socket
    have counted := sound.counted socket
    have kept : s.pendingRequests.entries.countP (fun e =>
        ((s.create pending).pendings e.2).socket == socket) = s.pendingOn socket := by
      refine countP_congr fun e member => ?_
      rw [old (sound.requests e.1 e.2 (get_eq_some.mpr member)).1]
    have added := countP_set_new s.pendingRequests s.invoked enters.absent fun e =>
      ((s.create pending).pendings e.2).socket == socket
    simp only [kept,new] at added
    simp only [addPending,pendingOn,get_set,new]
    refine Eq.trans ?_ added.symm
    have counters : (s.create pending).pendingCountBySocket = s.pendingCountBySocket := rfl
    by_cases here : socket = pending.socket
    · subst here
      simp only [if_true,Option.getD_some,beq_self_eq_true,counters,counted]
    · have other : (pending.socket == socket) = false := beq_eq_false_iff_ne.mpr (Ne.symm here)
      simp only [here,if_false,other,Bool.false_eq_true,Nat.add_zero,counters,counted]
  case settlements =>
    intro q
    have invoked : (s.create pending).invoked = s.invoked + 1 := rfl
    refine (sound.settlements q).trans ?_
    simp only [addPending,invoked]
    by_cases here : q = s.invoked
    · simp only [here,new,enters.unsettled,Nat.lt_irrefl,false_and,Bool.false_eq_true,and_false]
    · by_cases below : q < s.invoked
      · simp only [old below,below,Nat.lt_succ_of_lt below]
      · have above : ¬ q < s.invoked + 1 := by omega
        simp only [below,above,false_and]
  case ticking =>
    intro q below _
    rcases split below with rfl | below'
    · simp only [addPending,new]
      exact enters.ticking
    · simp only [addPending,old below']
      exact sound.ticking q below' not_loose
  case paused =>
    intro q below
    rcases split below with rfl | below'
    · simp only [addPending,new]
      exact enters.paused
    · simp only [addPending,old below']
      exact sound.paused q below'
  case tombstones => exact sound.tombstones
  case presentations => exact sound.presentations
  case abandons => exact sound.abandons
  case answers =>
    intro a e found
    obtain ⟨live',awaited⟩ := sound.answers a e found
    have kept := old awaited.below
    exact ⟨live',{
      drawn := awaited.drawn
      below := Nat.lt_succ_of_lt awaited.below
      request := (congrArg Pending.requestId kept).trans awaited.request
      socket := (congrArg Pending.socket kept).trans awaited.socket
      asked := (congrArg (fun pending => pending.gateAnswers.get e.gateId) kept).trans awaited.asked}⟩
  case asked =>
    intro q below g a asked
    rcases split below with rfl | below'
    · simp only [addPending,new,enters.unasked] at asked
      cases asked
    · simp only [addPending,old below'] at asked
      exact sound.asked q below' g a asked
  case room => exact sound.room
  case connected => exact sound.connected

theorem mild_clearTimers : Mild Pending.clearTimers := ⟨fun _ => ⟨rfl,rfl,rfl,rfl⟩,fun _ => rfl,fun _ => rfl⟩

/-- A settled request leaves the table. -/
theorem Sound.removePending (sound : Sound ending none s)
    (there : s.pendingRequests.get requestId = some p) (settled : (s.pendings p).settled) :
    Sound ending none (s.removePending requestId (s.pendings p).socket) := by
  constructor
  case requests => exact fun r q found => sound.requests r q (get_delete_eq_some.mp found).2
  case unsettled =>
    intro q below open'
    have found := sound.unsettled q below open'
    have kept : (s.pendings q).requestId ≠ requestId := by
      intro same
      rw [same,there] at found
      cases found
      cases settled.symm.trans open'
    exact (get_delete_ne _ kept).trans found
  case counted =>
    intro socket
    have counted := sound.counted socket
    have removed := countP_delete there fun e => (s.pendings e.2).socket == socket
    simp only [Registry.pendingOn,Registry.removePending] at counted ⊢
    by_cases here : socket = (s.pendings p).socket
    · subst here
      simp only [beq_self_eq_true,if_true] at removed
      split
      · rw [get_set_self,Option.getD_some]
        omega
      · rw [get_delete_self,Option.getD_none]
        omega
    · have other : ((s.pendings p).socket == socket) = false := beq_eq_false_iff_ne.mpr (Ne.symm here)
      simp only [other,Bool.false_eq_true,if_false,Nat.add_zero] at removed
      split
      · rw [get_set_ne _ _ here]
        omega
      · rw [get_delete_ne _ here]
        omega
  case presentations =>
    exact fun a e found => sound.presentations a e (get_discard.mp found).1
  case settlements => exact sound.settlements
  case ticking => exact sound.ticking
  case paused => exact sound.paused
  case tombstones => exact sound.tombstones
  case abandons => exact sound.abandons
  case answers => exact sound.answers
  case asked => exact sound.asked
  case room => exact sound.room
  case connected => exact sound.connected

theorem Sound.deletePending (sound : Sound ending none s)
    (settled : ∀ p, s.pendingRequests.get requestId = some p → (s.pendings p).settled) :
    Sound ending none (s.deletePending requestId) := by
  unfold Registry.deletePending
  cases there : s.pendingRequests.get requestId with
  | none => exact sound
  | some p =>
    have cleared : Sound ending none (s.modify p Pending.clearTimers) := by
      refine sound.modify mild_clearTimers (fun _ _ open' => ?_) (fun _ _ _ => not_loose) fun paused => ⟨fun _ => rfl,fun _ => rfl⟩
      rw [mild_clearTimers.settled,settled p there] at open'
      cases open'
    have removed := cleared.removePending (p := p) there (by
      rw [modify_self,mild_clearTimers.settled]
      exact settled p there)
    rw [modify_self,(mild_clearTimers.same _).socket] at removed
    exact removed

theorem Sound.deleteCancelTombstone (sound : Sound ending loose s) (requestId : Units) :
    Sound ending loose (s.deleteCancelTombstone requestId) := by
  refine {sound with tombstones := fun r e found => ?_}
  exact sound.tombstones r e (get_delete_eq_some.mp found).2

theorem Sound.retainCancelTombstone (sound : Sound ending loose s)
    (live : s.isLive ending (s.pendings p).socket) : Sound ending loose (s.retainCancelTombstone p).1 := by
  have deleted := sound.deleteCancelTombstone (s.pendings p).requestId
  simp only [Registry.retainCancelTombstone]
  split
  · exact deleted
  · refine {deleted with tombstones := fun r e found => ?_}
    simp only [get_set] at found
    split at found
    · cases found
      exact live
    · exact deleted.tombstones r e found

theorem retain_pendingRequests (s : Registry) (p : Nat) :
    (s.retainCancelTombstone p).1.pendingRequests = s.pendingRequests ∧
      (s.retainCancelTombstone p).1.pendings = s.pendings := by
  simp only [retainCancelTombstone]
  split
  · exact ⟨rfl,rfl⟩
  · exact ⟨rfl,rfl⟩

theorem Sound.retire (sound : Sound ending none s)
    (there : s.pendingRequests.get (s.pendings p).requestId = some p) (settled : (s.pendings p).settled) :
    Sound ending none (s.retireCancellationTracker p) := by
  have retained := sound.retainCancelTombstone (sound.requests _ p there).2.2
  obtain ⟨requests,pendings⟩ := retain_pendingRequests s p
  simp only [retireCancellationTracker]
  split
  · refine retained.deletePending fun q found => ?_
    rw [requests,there] at found
    cases found
    rw [pendings]
    exact settled
  · exact retained

theorem mild_clearReceiptTimer : Mild Pending.clearReceiptTimer :=
  ⟨fun _ => ⟨rfl,rfl,rfl,rfl⟩,fun _ => rfl,fun _ => rfl⟩

theorem Sound.giveUp (sound : Sound ending loose s) (only : ∀ q, q ≠ p → loose ≠ some q)
    (there : s.pendingRequests.get (s.pendings p).requestId = some p) (kind : Unconfirmed) :
    Sound ending none (s.giveUp p kind) := by
  have below := (sound.requests _ p there).1
  have cleared : Sound ending (some p) (s.modify p Pending.clearReceiptTimer) :=
    sound.modify mild_clearReceiptTimer (fun _ none => absurd rfl none) (fun q ne _ => only q ne)
      fun paused => ⟨paused.hardCap,paused.idle⟩
  have settled := cleared.settle below (fun q ne same => ne (Option.some.inj same).symm) (.unconfirmed kind)
  have touches := settle_touches (s.modify p Pending.clearReceiptTimer) p (.unconfirmed kind)
  refine settled.retire ?_ (settle_settled ..)
  rw [touches.rest,(touches.same p).requestId,modify_self,(mild_clearReceiptTimer.same _).requestId]
  exact there

theorem Sound.draw (sound : Sound ending loose s) : Sound ending loose s.draw :=
  {sound with answers := fun a e found =>
    let ⟨live,awaited⟩ := sound.answers a e found
    ⟨live,{awaited with drawn := Nat.lt_succ_of_lt awaited.drawn}⟩}

theorem mild_present (presentation : Presentation) : Mild fun pending => pending.present presentation :=
  ⟨fun _ => ⟨rfl,rfl,rfl,rfl⟩,fun _ => rfl,fun _ => rfl⟩

theorem Sound.present (sound : Sound ending loose s) (p : Nat) (presentation : Presentation) :
    Sound ending loose (s.modify p fun pending => pending.present presentation) :=
  sound.modify (mild_present presentation) (sound.ticking p) (fun _ _ tight => tight)
    fun paused => ⟨paused.hardCap,paused.idle⟩

theorem reaches_connected (reaches : s.reaches net pending) :
    s.connections.get pending.hostId = some pending.socket := by
  rw [Registry.reaches,Bool.and_eq_true,beq_iff_eq] at reaches
  exact reaches.2

structure SameTable (s s' : Registry) : Prop where
  requests : s'.pendingRequests = s.pendingRequests
  connections : s'.connections = s.connections
  identities : s'.connectionIdentities = s.connectionIdentities
  invoked : s'.invoked = s.invoked
  pendings : ∀ q, ∃ presentation, s'.pendings q = {s.pendings q with gatePresentation := presentation}

theorem SameTable.refl (s : Registry) : SameTable s s := ⟨rfl,rfl,rfl,rfl,fun _ => ⟨_,rfl⟩⟩

theorem SameTable.of_present
    (requests : s'.pendingRequests = s.pendingRequests) (connections : s'.connections = s.connections)
    (identities : s'.connectionIdentities = s.connectionIdentities) (invoked : s'.invoked = s.invoked)
    (pendings : s'.pendings = (s.modify p fun pending => pending.present presentation).pendings) :
    SameTable s s' := by
  refine ⟨requests,connections,identities,invoked,fun q => ?_⟩
  rw [pendings]
  by_cases here : q = p
  · rw [here,modify_self]
    exact ⟨_,rfl⟩
  · rw [modify_ne s _ here]
    exact ⟨_,rfl⟩

theorem abandonGate_table (cfg : Config) (net : Transport) (s : Registry) (p : Nat) (reason : AbandonReason) :
    SameTable s (s.abandonGate cfg net p reason) := by
  unfold abandonGate
  simp only
  split
  · exact .refl s
  split
  · exact .refl s
  split
  · exact .refl s
  split
  · exact ⟨rfl,rfl,rfl,rfl,fun _ => ⟨_,rfl⟩⟩
  · exact .of_present rfl rfl rfl rfl rfl

theorem Sound.abandonGate (sound : Sound ending loose s) (cfg : Config) (net : Transport) (p : Nat)
    (reason : AbandonReason) : Sound ending loose (s.abandonGate cfg net p reason) := by
  unfold Registry.abandonGate
  simp only
  split
  · exact sound
  next presentation _ =>
  split
  · exact sound
  split
  · exact sound
  next able =>
  split
  · exact sound.draw
  · have presented := sound.draw.present p {presentation with abandonId := some s.issued}
    refine {presented with abandons := fun a e found => ?_}
    have reaches : s.reaches net (s.pendings p) := by
      rw [Bool.or_eq_true,not_or,Bool.not_eq_true',Bool.not_eq_false] at able
      exact able.1
    have live := (sound.connected _ _ (reaches_connected reaches)).1
    split at found
    · obtain ⟨other,there⟩ := get_delete_eq_some.mp found
      rw [get_set_ne _ _ other] at there
      exact presented.abandons a e there
    · rw [get_set] at found
      split at found
      · cases found
        exact live
      · exact presented.abandons a e found

/-- The request waits for its cancellation, or its timers are right. -/
def Cancellable (loose : Option Nat) (s : Registry) (p : Nat) : Prop :=
  (∀ q, q ≠ p → loose ≠ some q) ∧ (loose = some p → (s.pendings p).cancellation = none)

theorem mild_cancel (cancelId : Nat) (reason : CancelReason) :
    Mild fun pending => pending.cancel cancelId reason :=
  ⟨fun _ => ⟨rfl,rfl,rfl,rfl⟩,fun _ => rfl,fun _ => rfl⟩

theorem Sound.sendCancellation (sound : Sound ending loose s) (only : ∀ q, q ≠ p → loose ≠ some q)
    (there : s.pendingRequests.get (s.pendings p).requestId = some p) (cancelId : Nat) (reason : CancelReason) :
    Sound ending none (s.sendCancellation net p cancelId reason).1 := by
  have sent : Sound ending none (s.modify p fun pending => pending.cancel cancelId reason) :=
    sound.modify (mild_cancel cancelId reason) (fun _ _ _ => .inr ⟨rfl,rfl⟩) (fun q ne _ => only q ne)
      fun paused => ⟨fun _ => rfl,fun _ => rfl⟩
  simp only [Registry.sendCancellation]
  split
  · refine sent.giveUp (fun _ _ => not_loose) ?_ .sendFailed
    rw [modify_self,((mild_cancel cancelId reason).same _).requestId]
    exact there
  · exact sent

theorem Sound.cancel (sound : Sound ending loose s) (cancellable : Cancellable loose s p)
    (reason : CancelReason) : Sound ending none (s.initiateCancellation cfg net p reason).1 := by
  obtain ⟨only,fresh⟩ := cancellable
  unfold initiateCancellation
  simp only
  split
  · next absent =>
    refine {sound with ticking := fun q below _ => ?_}
    by_cases here : q = p
    · rw [here] at below ⊢
      exact fun open' => absurd (sound.unsettled p below open') absent
    · exact sound.ticking q below (only q here)
  next there =>
  rw [ne_eq,not_not] at there
  have below := (sound.requests _ p there).1
  split
  · next cancelling =>
    refine {sound with ticking := fun q below _ => ?_}
    refine sound.ticking q below fun same => ?_
    by_cases here : q = p
    · rw [here] at same
      rw [fresh same] at cancelling
      cases cancelling
    · exact only q here same
  split
  · have settled := sound.settle below only (.terminal .disconnected (some CONNECTION_LOST))
    refine settled.deletePending fun q found => ?_
    rw [settle_touches s p _ |>.requests,there] at found
    cases found
    exact settle_settled ..
  have gated : Sound ending loose (if (s.pendings p).gatePending
      then s.abandonGate cfg net p (abandonReason reason) else s) := by
    split
    · exact sound.abandonGate cfg net p _
    · exact sound
  have table : SameTable s (if (s.pendings p).gatePending
      then s.abandonGate cfg net p (abandonReason reason) else s) := by
    split
    · exact abandonGate_table ..
    · exact .refl s
  generalize (if (s.pendings p).gatePending
      then s.abandonGate cfg net p (abandonReason reason) else s) = s' at gated table ⊢
  obtain ⟨presentation,same⟩ := table.pendings p
  have there' : s'.pendingRequests.get (s'.pendings p).requestId = some p := by
    rw [table.requests,same]
    exact there
  split
  · have settled := gated.draw.settle (table.invoked.symm ▸ below) only (.unconfirmed .cancellationUnconfirmed)
    refine settled.deletePending fun q found => ?_
    rw [settle_touches s'.draw p _ |>.requests] at found
    have own : (s'.pendings p).requestId = (s.pendings p).requestId := by rw [same]
    rw [← own] at found
    cases there'.symm.trans found
    exact settle_settled ..
  · exact gated.draw.sendCancellation only there' ..

end GjcRemote.HostInvoke
