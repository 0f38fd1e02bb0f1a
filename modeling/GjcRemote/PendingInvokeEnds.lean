import GjcRemote.PendingInvokeRun

/-! How the invokes of the bot end: with their connection, and by their timers at the latest. -/
namespace GjcRemote.HostInvoke

open Utf16 Registry Runs

variable {cfg : Config} {net : Transport} {s : Registry}

structure Ages (s s' : Registry) : Prop where
  sockets : s.sockets.length ≤ s'.sockets.length
  identities : ∀ socket < s.sockets.length, s.connectionIdentities.get socket = none →
    s'.connectionIdentities.get socket = none

theorem ages_of_network (same : s'.network = s.network) : Ages s s' := by
  refine ⟨?_,fun socket _ lost => ?_⟩
  · rw [network_sockets same]
  · rw [network_identities same]
    exact lost

theorem ages_of_lost (sockets : s'.sockets = s.sockets) [DecidablePred lost]
    (identities : ∀ other, s'.connectionIdentities.get other =
      if lost other then none else s.connectionIdentities.get other) : Ages s s' := by
  refine ⟨by rw [sockets],fun socket _ none => ?_⟩
  rw [identities,none,ite_self]

theorem register_identities (sound : Sound none none s) (hostId : Units) (capabilities : Capabilities)
    (below : other < s.sockets.length) :
    (s.register cfg net hostId capabilities).connectionIdentities.get other =
      if s.connections.get hostId = some other then none else s.connectionIdentities.get other := by
  obtain ⟨-,sockets,identities⟩ := dropPrevious_spec cfg net sound hostId
  refine (OrderedMap.get_set_ne _ _ ?_).trans (identities other)
  rw [sockets]
  exact Nat.ne_of_lt below

theorem register_sockets (sound : Sound none none s) (hostId : Units) (capabilities : Capabilities) :
    (s.register cfg net hostId capabilities).sockets = s.sockets ++ [hostId] := by
  rw [register,connect,(dropPrevious_spec cfg net sound hostId).2.1]

theorem step_ages (sound : Sound none none s) (call : Call) : Ages s (step cfg s call).1 := by
  obtain ⟨event,net⟩ := call
  cases event with
  | register hostId capabilities =>
    refine ⟨?_,fun socket below lost => ?_⟩
    · simp only [step,register_sockets sound,List.length_append]
      exact Nat.le_add_right ..
    · simp only [step,register_identities sound hostId capabilities below,lost,ite_self]
  | drop socket code =>
    obtain ⟨-,sockets,identities⟩ := dropConnection_spec cfg net sound socket code
    exact ages_of_lost sockets identities
  | close =>
    obtain ⟨-,sockets,identities⟩ := close_spec cfg net sound
    exact ages_of_lost sockets identities
  | message socket frame => exact ages_of_network (network_handleMessage ..)
  | invoke msg => exact ages_of_network (network_invoke ..)
  | cancelInvoke hostId requestId reason => exact ages_of_network (network_cancelInvoke ..)
  | answerGate hostId requestId gateId presentationId sendable => exact ages_of_network (network_answerGate ..)
  | gateHandle p number valid => exact ages_of_network (network_gateHandle ..)
  | activateFails p number => exact ages_of_network (network_activateFails ..)
  | presentSendFails attemptId => exact ages_of_network (network_endPresentation ..)
  | answerSendFails answerId => exact ages_of_network (network_settleGateAnswer ..)
  | idleExpires p => exact ages_of_network (network_idleExpires ..)
  | hardCapExpires p => exact ages_of_network (network_hardCapExpires ..)
  | cancelReceiptExpires p => exact ages_of_network (network_cancelReceiptExpires ..)
  | answerExpires answerId => exact ages_of_network (network_settleGateAnswer ..)
  | presentationExpires attemptId => exact ages_of_network (network_endPresentation ..)
  | abandonExpires abandonId => exact ages_of_network rfl
  | tombstoneExpires requestId => exact ages_of_network rfl

theorem Ages.dropped (ages : Ages s s') (dropped : s.isDropped socket) :
    s'.isDropped socket :=
  ⟨Nat.lt_of_lt_of_le dropped.1 ages.sockets,ages.identities socket dropped.1 dropped.2⟩

/-- The event ends the connection of the socket: it closes, the registry closes, or its host
registers again. -/
def Registry.ends (s : Registry) (event : Event) (socket : Nat) : Prop :=
  match event with
  | .drop dropped _ => dropped = socket
  | .close => True
  | .register hostId _ => s.connections.get hostId = some socket
  | _ => False

section

variable (sound : Sound none none s)
include sound

theorem ends_dropped (below : socket < s.sockets.length) (ends : s.ends call.event socket) :
    (step cfg s call).1.isDropped socket := by
  obtain ⟨event,net⟩ := call
  refine ⟨Nat.lt_of_lt_of_le below (step_ages sound ⟨event,net⟩).sockets,?_⟩
  cases event with
  | register hostId capabilities =>
    have here : s.connections.get hostId = some socket := ends
    simp only [step,register_identities sound hostId capabilities below,here,if_true]
  | drop dropped code =>
    obtain ⟨-,-,identities⟩ := dropConnection_spec cfg net sound dropped code
    have here : dropped = socket := ends
    exact (identities socket).trans (if_pos ⟨here.symm,here ▸ below⟩)
  | close =>
    obtain ⟨-,-,identities⟩ := close_spec cfg net sound
    exact (identities socket).trans (if_pos below)
  | _ => exact ends.elim

theorem run_dropped (dropped : s.isDropped socket)
    (calls : List Call) : (run (step cfg) s calls).isDropped socket :=
  (@run_invariant _ _ _ (step cfg) (fun s => Sound none none s ∧ s.isDropped socket)
    (fun _ call both => ⟨step_sound cfg both.1 call,(step_ages both.1 call).dropped both.2⟩) _
    ⟨sound,dropped⟩ calls).2

/-- Nothing refers to a socket that is not connected any more. -/
theorem dropped_unreferenced (dropped : s.isDropped socket) :
    Unreferenced s socket := by
  have away {other : Nat} (live : s.isLive none other) : other ≠ socket := by
    rintro rfl
    rcases live with connected | none
    · rw [dropped.2] at connected
      cases connected
    · cases none
  exact {
    requests := fun r p found => away (sound.requests r p found).2.2
    tombstones := fun r e found => away (sound.tombstones r e found)
    answers := fun a e found => away (sound.answers a e found).1
    presentations := fun a e found => away (sound.presentations a e found)
    abandons := fun a e found => away (sound.abandons a e found)}

theorem settledTimes_eq_one (below : p < s.invoked) :
    s.settledTimes p = 1 ↔ (s.pendings p).settled := by
  rw [sound.settlements]
  by_cases settled : (s.pendings p).settled
  · simp [below,settled]
  · simp [settled]

theorem settledTimes_eq_zero (below : p < s.invoked) :
    s.settledTimes p = 0 ↔ (s.pendings p).settled = false := by
  rw [sound.settlements]
  by_cases settled : (s.pendings p).settled
  · simp [below,settled]
  · simp [settled]

theorem dropped_settled (dropped : s.isDropped socket)
    (below : p < s.invoked) (own : (s.pendings p).socket = socket) : s.settledTimes p = 1 := by
  rw [settledTimes_eq_one sound below]
  by_contra open'
  have there := sound.unsettled p below (Bool.eq_false_iff.mpr open')
  exact (dropped_unreferenced sound dropped).requests _ _ there own

end

/-- In every run the counter of a socket is the number of its pending requests, and a promise is
settled once at most. When the connection of a socket has ended, then and ever after its invokes
are settled and nothing refers to it. -/
theorem pending_invokes_accounted (cfg : Config) (calls : List Call) :
    let s := run (step cfg) empty calls
    (∀ socket, (s.pendingCountBySocket.get socket).getD 0 = s.pendingOn socket) ∧
      (∀ p, s.settledTimes p ≤ 1) ∧
      (∀ socket, s.isDropped socket → Unreferenced s socket ∧
        ∀ p < s.invoked, (s.pendings p).socket = socket → s.settledTimes p = 1) ∧
      ∀ call socket, socket < s.sockets.length → s.ends call.event socket →
        ∀ later, (run (step cfg) (step cfg s call).1 later).isDropped socket := by
  have sound := run_sound cfg calls
  refine ⟨sound.counted,fun p => ?_,fun socket dropped => ?_,fun call socket below ends later => ?_⟩
  · rw [sound.settlements]
    split
    · exact Nat.le_refl 1
    · exact Nat.zero_le 1
  · exact ⟨dropped_unreferenced sound dropped,fun p below own => dropped_settled sound dropped below own⟩
  · exact run_dropped (step_sound cfg sound call) (ends_dropped sound below ends) later

section

variable (s : Registry)

@[simp] theorem deletePending_settled (requestId : Units) (q : Nat) :
    ((s.deletePending requestId).pendings q).settled = (s.pendings q).settled := by
  unfold deletePending
  split
  · rfl
  · next p _ =>
    by_cases here : q = p
    · simp only [removePending,here,modify_self,Pending.clearTimers]
    · simp only [removePending,modify_ne s _ here]

@[simp] theorem retire_settled (p q : Nat) :
    ((s.retireCancellationTracker p).pendings q).settled = (s.pendings q).settled := by
  simp only [retireCancellationTracker]
  split
  · rw [deletePending_settled,(retain_pendingRequests s p).2]
  · rw [(retain_pendingRequests s p).2]

@[simp] theorem giveUp_settled (p : Nat) (kind : Unconfirmed) :
    ((s.giveUp p kind).pendings p).settled := by
  simp [giveUp]

@[simp] theorem retire_invoked (p : Nat) :
    (s.retireCancellationTracker p).invoked = s.invoked := by
  have retained : (s.retainCancelTombstone p).1.invoked = s.invoked := by
    simp only [retainCancelTombstone]
    split
    · rfl
    · rfl
  simp only [retireCancellationTracker]
  split
  · exact (deletePending_fails ..).invoked.trans retained
  · exact retained

@[simp] theorem giveUp_invoked (p : Nat) (kind : Unconfirmed) :
    (s.giveUp p kind).invoked = s.invoked := by
  rw [giveUp,retire_invoked,(settle_fails ..).invoked]
  rfl

@[simp] theorem cancel_invoked (p : Nat) (reason : CancelReason) :
    (s.initiateCancellation cfg net p reason).1.invoked = s.invoked := by
  have abandoned : (if (s.pendings p).gatePending
      then s.abandonGate cfg net p (abandonReason reason) else s).invoked = s.invoked := by
    split
    · exact (abandonGate_table ..).invoked
    · rfl
  simp only [initiateCancellation]
  split
  · rfl
  split
  · rfl
  split
  · rw [(deletePending_fails ..).invoked,(settle_fails ..).invoked]
  generalize (if (s.pendings p).gatePending
      then s.abandonGate cfg net p (abandonReason reason) else s) = s' at abandoned ⊢
  split
  · rw [(deletePending_fails ..).invoked,(settle_fails ..).invoked]
    exact abandoned
  simp only [sendCancellation]
  split
  · rw [giveUp_invoked]
    exact abandoned
  · exact abandoned

end

/-- A request that is cancelled is settled, or it has a cancellation. -/
theorem cancel_begins (cfg : Config) (net : Transport) (there : s.pendingRequests.get (s.pendings p).requestId = some p)
    (reason : CancelReason) :
    let after := (s.initiateCancellation cfg net p reason).1.pendings p
    after.settled ∨ after.cancellation.isSome := by
  simp only [initiateCancellation]
  split
  · next absent => exact absurd there absent
  split
  · next cancelling => exact .inr cancelling
  split
  · exact .inl (by simp)
  generalize (if (s.pendings p).gatePending
      then s.abandonGate cfg net p (abandonReason reason) else s) = s'
  split
  · exact .inl (by simp)
  simp only [sendCancellation]
  split
  · exact .inl (giveUp_settled ..)
  · right
    simp only [modify_self,Pending.cancel,Option.isSome_some]

/-- In every run a promise that is not settled is the one of a pending request with a timer armed,
and when that expires the promise is settled or the other timer armed. -/
theorem no_invoke_hangs (cfg : Config) (calls : List Call) :
    let s := run (step cfg) empty calls
    ∀ p < s.invoked, s.settledTimes p = 0 →
      s.pendingRequests.get (s.pendings p).requestId = some p ∧
        ((s.pendings p).hardCapTimer = true ∨ (s.pendings p).cancelReceiptTimer = true) ∧
        (∀ net, (s.pendings p).hardCapTimer = true →
          let s' := (step cfg s ⟨.hardCapExpires p,net⟩).1
          s'.settledTimes p = 1 ∨ (s'.pendings p).cancelReceiptTimer = true) ∧
        ∀ net, (s.pendings p).cancelReceiptTimer = true →
          let s' := (step cfg s ⟨.cancelReceiptExpires p,net⟩).1
          s'.settledTimes p = 1 ∨ (s'.pendings p).hardCapTimer = true := by
  have sound := run_sound cfg calls
  simp only
  generalize run (step cfg) empty calls = s at sound ⊢
  intro p below waits
  have open' := (settledTimes_eq_zero sound below).mp waits
  have there := sound.unsettled p below open'
  refine ⟨there,?_,fun net armed => ?_,fun net armed => ?_⟩
  · rcases sound.ticking p below not_loose open' with ⟨-,hardCap⟩ | ⟨-,receipt⟩
    · exact .inl hardCap
    · exact .inr receipt
  · have after := step_sound cfg sound ⟨.hardCapExpires p,net⟩
    have there' : (s.modify p Pending.clearHardCap).pendingRequests.get
        ((s.modify p Pending.clearHardCap).pendings p).requestId = some p := by
      rw [modify_self]
      exact there
    have begins := cancel_begins cfg net there' .hardCap
    have eq : (step cfg s ⟨.hardCapExpires p,net⟩).1 =
        ((s.modify p Pending.clearHardCap).initiateCancellation cfg net p .hardCap).1 := by
      simp only [step,hardCapExpires,armed,Bool.not_true,Bool.false_eq_true,if_false]
    have inside : p < (step cfg s ⟨.hardCapExpires p,net⟩).1.invoked := by
      rw [eq,cancel_invoked]
      exact below
    rw [← eq] at begins
    rcases begins with settled | cancelling
    · exact .inl ((settledTimes_eq_one after inside).mpr settled)
    · by_cases settled : ((step cfg s ⟨.hardCapExpires p,net⟩).1.pendings p).settled = true
      · exact .inl ((settledTimes_eq_one after inside).mpr settled)
      · right
        rcases after.ticking p inside not_loose (Bool.eq_false_iff.mpr settled) with ⟨none,-⟩ | ⟨-,receipt⟩
        · rw [none] at cancelling
          cases cancelling
        · exact receipt
  · left
    have after := step_sound cfg sound ⟨.cancelReceiptExpires p,net⟩
    have eq : (step cfg s ⟨.cancelReceiptExpires p,net⟩).1 = s.giveUp p (receiptTimeout (s.pendings p)) := by
      simp only [step,cancelReceiptExpires,armed,Bool.not_true,Bool.false_eq_true,if_false]
      rw [if_neg (not_not.mpr there)]
    rw [eq] at after ⊢
    rw [settledTimes_eq_one after (by rw [giveUp_invoked]; exact below)]
    exact giveUp_settled ..

end GjcRemote.HostInvoke
