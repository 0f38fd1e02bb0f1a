import GjcRemote.PendingInvokeConnections

/-! Runs of the pending invokes: the accounts of the sockets are right, no invoke hangs, and the
answers to a gate are exact. -/
namespace GjcRemote.HostInvoke

open Utf16 OrderedMap Registry

variable {cfg : Config} {net : Transport} {s : Registry}

theorem dropPrevious_spec (cfg : Config) (net : Transport) (sound : Sound none none s) (hostId : Units) :
    Sound none none (s.dropPrevious cfg net hostId) ∧ (s.dropPrevious cfg net hostId).sockets = s.sockets ∧
      ∀ other, (s.dropPrevious cfg net hostId).connectionIdentities.get other =
        if s.connections.get hostId = some other then none else s.connectionIdentities.get other := by
  unfold dropPrevious
  cases previous : s.connections.get hostId with
  | none => exact ⟨sound,rfl,fun other => by simp⟩
  | some socket =>
    obtain ⟨dropped,sockets,identities⟩ :=
      dropConnection_spec cfg net sound socket (some CONNECTION_LOST)
    refine ⟨dropped,sockets,fun other => (identities other).trans ?_⟩
    have below : socket < s.sockets.length :=
      (List.getElem?_eq_some_iff.mp (sound.connected hostId socket previous).2).1
    simp only [below,and_true,Option.some.injEq,eq_comm]

theorem Sound.connect (sound : Sound none none s) (hostId : Units) (capabilities : Capabilities) :
    Sound none none (s.connect hostId capabilities) := by
  have live {socket : Nat} (connected : s.isLive none socket) :
      (s.connect hostId capabilities).isLive none socket := by
    rcases connected with connected | none
    · left
      simp only [Registry.connect,get_set]
      split
      · rfl
      · exact connected
    · cases none
  exact {
    requests := fun r p found =>
      have known := sound.requests r p found
      ⟨known.1,known.2.1,live known.2.2⟩
    unsettled := sound.unsettled
    counted := sound.counted
    settlements := sound.settlements
    ticking := sound.ticking
    paused := sound.paused
    tombstones := fun r e found => live (sound.tombstones r e found)
    presentations := fun a e found => live (sound.presentations a e found)
    abandons := fun a e found => live (sound.abandons a e found)
    answers := fun a e found =>
      have known := sound.answers a e found
      ⟨live known.1,known.2⟩
    asked := sound.asked
    room := sound.room
    connected := fun other socket found => by
      simp only [Registry.connect,get_set] at found
      split at found
      · next same =>
        cases found
        refine ⟨.inl ?_,?_⟩
        · simp only [Registry.connect,get_set_self,Option.isSome_some]
        · simp [Registry.connect,same]
      · obtain ⟨connected,own⟩ := sound.connected other socket found
        refine ⟨live connected,?_⟩
        exact (List.getElem?_append_left (List.getElem?_eq_some_iff.mp own).1).trans own}

theorem closeSocket_spec (cfg : Config) (net : Transport) (sound : Sound none none s) (socket : Nat) :
    Sound none none (s.closeSocket cfg net socket) ∧ (s.closeSocket cfg net socket).sockets = s.sockets ∧
      ∀ other, (s.closeSocket cfg net socket).connectionIdentities.get other =
        if other = socket ∧ socket < s.sockets.length then none else s.connectionIdentities.get other := by
  obtain ⟨cancelled,network⟩ := cancelAll_spec cfg net sound socket
  obtain ⟨dropped,sockets,identities⟩ :=
    dropConnection_spec cfg net cancelled socket (some CONNECTION_LOST)
  rw [network_sockets network] at sockets
  refine ⟨dropped,sockets,fun other => (identities other).trans ?_⟩
  rw [network_sockets network,network_identities network]

theorem closeSockets_spec (cfg : Config) (net : Transport) (sockets : List Nat) (sound : Sound none none s) :
    let after := sockets.foldl (closeSocket cfg net) s
    Sound none none after ∧ after.sockets = s.sockets ∧
      ∀ other, after.connectionIdentities.get other =
        if other ∈ sockets ∧ other < s.sockets.length then none else s.connectionIdentities.get other := by
  induction sockets generalizing s with
  | nil => exact ⟨sound,rfl,fun other => by simp⟩
  | cons socket rest ih =>
    obtain ⟨closed,same,identities⟩ := closeSocket_spec cfg net sound socket
    obtain ⟨sound',same',identities'⟩ := ih closed
    refine ⟨sound',same'.trans same,fun other => (identities' other).trans ?_⟩
    rw [identities,same]
    by_cases here : other = socket
    · subst here
      by_cases below : other < s.sockets.length
      · simp [below]
      · simp [below]
    · simp [here]

theorem close_spec (cfg : Config) (net : Transport) (sound : Sound none none s) :
    Sound none none (s.close cfg net) ∧ (s.close cfg net).sockets = s.sockets ∧
      ∀ other, (s.close cfg net).connectionIdentities.get other =
        if other < s.sockets.length then none else s.connectionIdentities.get other := by
  obtain ⟨closed,same,identities⟩ :=
    closeSockets_spec cfg net s.connectionIdentities.keys sound
  obtain ⟨failed,network,-⟩ := failAnswers_spec closed fun _ => true
  refine ⟨?_,(network_sockets network).trans same,fun other => ?_⟩
  · exact {failed with connected := fun hostId socket none => nomatch none}
  · refine (congrArg (get · other) (network_identities network)).trans ?_
    refine (identities other).trans ?_
    by_cases there : other ∈ s.connectionIdentities.keys
    · simp only [there,true_and]
    · rw [if_neg fun both => there both.1,get_eq_none.mpr there,ite_self]

theorem newPending_enters (hostId : Units)
    (connectionIdentity : Option Nat) (absent : s.pendingRequests.get requestId = none) (live : s.isLive none socket) :
    Entering none s (newPending requestId hostId socket connectionIdentity) where
  absent := absent
  live := live
  unsettled := rfl
  ticking _ := .inl ⟨rfl,rfl⟩
  paused := ⟨nofun,nofun⟩
  unasked := rfl

theorem Sound.invoke (sound : Sound none none s) (msg : Invocation) :
    Sound none none (s.invoke cfg net msg).1 := by
  simp only [Registry.invoke]
  split
  · exact sound
  next socket connected =>
  split
  · exact sound
  split
  · exact sound
  split
  · exact sound
  split
  · exact sound
  next free =>
  have absent : s.pendingRequests.get msg.requestId = none := by
    rw [Bool.or_eq_true,not_or,Option.not_isSome_iff_eq_none] at free
    exact free.1
  have entered := sound.create (newPending_enters msg.hostId (s.connectionIdentities.get socket) absent
    (sound.connected _ _ connected).1)
  have armed := entered.armIdleTimer s.invoked
  split
  · exact armed.cancel (cancellable ..) .presentationFailed
  · exact armed

theorem Sound.cancelInvoke (sound : Sound none none s) (hostId requestId : Units) (reason : CancelReason) :
    Sound none none (s.cancelInvoke cfg net hostId requestId reason).1 := by
  simp only [Registry.cancelInvoke]
  split
  · exact sound
  split
  · exact sound
  split
  · exact sound
  · exact sound.cancel (cancellable ..) reason

theorem mild_confirm (cancellation : Cancellation) : Mild fun pending => pending.confirm cancellation :=
  ⟨fun _ => ⟨rfl,rfl,rfl,rfl⟩,fun _ => rfl,fun _ => rfl⟩

theorem Sound.acceptCancelResult (sound : Sound none none s) (socket : Nat) (requestId : Units) (cancelId : Nat)
    (outcome : CancelOutcome) :
    Sound none none (s.acceptCancelResult socket requestId cancelId outcome) := by
  simp only [Registry.acceptCancelResult]
  split
  · exact sound
  next p found =>
  split
  · exact sound
  split
  · exact sound
  next cancellation cancelling =>
  split
  · exact sound
  split
  · refine sound.modify (mild_confirm _) (fun _ _ _ => .inr ⟨rfl,rfl⟩) (fun _ _ _ => not_loose) fun paused => ?_
    refine ⟨fun _ => paused.hardCap ?_,paused.idle⟩
    rw [cancelling]
    rfl
  · refine sound.giveUp (fun _ _ => not_loose) ?_ _
    rw [(sound.requests _ _ found).2.1]
    exact found

theorem owned_found (owned : s.owned socket requestId = some p) :
    s.pendingRequests.get requestId = some p := (Option.filter_eq_some_iff.mp owned).1

theorem Sound.acceptTerminal (sound : Sound none none s) (socket : Nat) (requestId : Units)
    (disposition : Disposition) (code : Option Units) :
    Sound none none (s.acceptTerminal cfg net socket requestId disposition code) := by
  simp only [Registry.acceptTerminal]
  split
  · split
    · exact sound
    split
    · exact sound.deleteCancelTombstone requestId
    · exact sound
  split
  · exact sound
  next p owned =>
  have there := owned_found owned
  obtain ⟨below,own,-⟩ := sound.requests _ _ there
  split
  · have settled := sound.settle below (fun _ _ => not_loose) (.unconfirmed .terminalConflict)
    have touches := settle_touches s p (.unconfirmed .terminalConflict)
    refine settled.retire ?_ (settle_settled ..)
    rw [touches.requests,(touches.same p).requestId,own]
    exact there
  · have settled := sound.settle below (fun _ _ => not_loose) (terminalResult (s.pendings p) disposition code)
    have touches := settle_touches s p (terminalResult (s.pendings p) disposition code)
    have abandoned := settled.abandonGate cfg net p .invokeTerminal
    have table := abandonGate_table cfg net
      (s.settle p (terminalResult (s.pendings p) disposition code)) p .invokeTerminal
    refine (abandoned.deletePending fun q found => ?_).deleteCancelTombstone requestId
    rw [table.requests,touches.requests,there] at found
    cases found
    obtain ⟨presentation,same⟩ := table.pendings p
    rw [same]
    exact settle_settled ..

theorem mild_gate (presentation : Presentation) : Mild fun pending => pending.gate presentation :=
  ⟨fun _ => ⟨rfl,rfl,rfl,rfl⟩,fun _ => rfl,fun _ => rfl⟩

theorem Sound.countPresentation (sound : Sound none none s) (presented : Nat) :
    Sound none none {s with presented := presented} := {sound with requests := sound.requests}

theorem Sound.acceptGateRequest (sound : Sound none none s) (p : Nat) (gateId presentationId : Units)
    (presenterThrows : Bool) :
    Sound none none (s.acceptGateRequest cfg net p gateId presentationId presenterThrows) := by
  simp only [Registry.acceptGateRequest]
  split
  · exact sound
  split
  · exact sound
  have abandoned := sound.abandonGate cfg net p .replaced
  generalize s.abandonGate cfg net p .replaced = s' at abandoned ⊢
  have counted := abandoned.countPresentation (s'.presented + 1)
  have gated := counted.modify (p := p) (mild_gate ⟨s'.presented,gateId,presentationId,.awaitingHandle,none,none⟩)
    (fun below _ => counted.ticking p below not_loose) (fun _ _ (_ : none ≠ some _) => not_loose)
    fun paused => ⟨paused.hardCap,fun _ => rfl⟩
  split
  · exact gated.failPresentation p .sendFailed
  · exact gated

theorem mild_read (truncated : Bool) (text : Option Units) : Mild fun pending => pending.read truncated text := by
  constructor
  all_goals
    intro pending
    unfold Pending.read
    split
  · exact ⟨rfl,rfl,rfl,rfl⟩
  · exact ⟨rfl,rfl,rfl,rfl⟩
  · rfl
  · rfl
  · rfl
  · rfl

theorem Sound.acceptOutput (sound : Sound none none s) (p : Nat) (truncated : Bool) (text : Option Units) :
    Sound none none (s.acceptOutput p truncated text) := by
  refine (sound.modify (mild_read truncated text) ?_ (fun _ _ (_ : none ≠ some _) => not_loose) ?_).armIdleTimer p
  · intro below _
    have ticking := sound.ticking p below not_loose
    unfold Pending.read
    split
    · exact ticking
    · exact ticking
  · intro paused
    unfold Pending.read
    split
    · exact ⟨paused.hardCap,paused.idle⟩
    · exact ⟨paused.hardCap,paused.idle⟩

theorem Sound.acceptEvent (sound : Sound none none s) (socket : Nat) (requestId : Units)
    (kept : ∀ p, Sound none none (handle s p)) :
    Sound none none (s.acceptEvent socket requestId handle) := by
  unfold Registry.acceptEvent
  split
  · exact sound
  split
  · exact sound
  · exact kept _

theorem Sound.handleMessage (sound : Sound none none s) (socket : Nat) (frame : Frame) :
    Sound none none (s.handleMessage cfg net socket frame) := by
  cases frame with
  | malformed => exact sound
  | presentationResult msg activateThrows => exact sound.acceptGatePresentationResult socket msg activateThrows
  | abandonResult msg => exact sound.acceptGateAbandonResult socket msg
  | answerResult msg => exact sound.acceptGateAnswerResult socket msg
  | cancelResult requestId cancelId outcome => exact sound.acceptCancelResult socket requestId cancelId outcome
  | terminal requestId disposition code => exact sound.acceptTerminal socket requestId disposition code
  | gateRequest requestId gateId presentationId presenterThrows =>
    simp only [Registry.handleMessage]
    exact sound.acceptEvent socket requestId fun p =>
      sound.acceptGateRequest p gateId presentationId presenterThrows
  | output requestId truncated text =>
    simp only [Registry.handleMessage]
    exact sound.acceptEvent socket requestId fun p => sound.acceptOutput p truncated text

theorem mild_clearIdle : Mild Pending.clearIdle := ⟨fun _ => ⟨rfl,rfl,rfl,rfl⟩,fun _ => rfl,fun _ => rfl⟩

theorem mild_clearHardCap : Mild Pending.clearHardCap := ⟨fun _ => ⟨rfl,rfl,rfl,rfl⟩,fun _ => rfl,fun _ => rfl⟩

theorem Sound.idleExpires (sound : Sound none none s) (p : Nat) :
    Sound none none (s.idleExpires cfg net p) := by
  have cleared : Sound none none (s.modify p Pending.clearIdle) :=
    sound.modify mild_clearIdle (fun below _ => sound.ticking p below not_loose) (fun _ _ _ => not_loose)
      fun paused => ⟨paused.hardCap,fun _ => rfl⟩
  simp only [Registry.idleExpires]
  split
  · exact sound
  split
  · exact cleared
  · exact cleared.cancel (cancellable ..) .idleTimeout

/-- The hard cap is armed only before a cancellation, which takes its place. -/
theorem Sound.hardCapExpires (sound : Sound none none s) (p : Nat) :
    Sound none none (s.hardCapExpires cfg net p) := by
  unfold Registry.hardCapExpires
  split
  · exact sound
  next armed =>
  have paused : Paused (s.pendings p) → Paused (s.pendings p).clearHardCap :=
    fun paused => ⟨fun _ => rfl,paused.idle⟩
  by_cases below : p < s.invoked
  · have cleared : Sound none (some p) (s.modify p Pending.clearHardCap) :=
      sound.modify mild_clearHardCap (fun _ tight => absurd rfl tight) (fun _ _ _ => not_loose) paused
    refine cleared.cancel ⟨fun q ne same => ne (Option.some.inj same).symm,fun _ => ?_⟩ .hardCap
    rw [modify_self,← Option.not_isSome_iff_eq_none]
    intro cancelling
    have disarmed := (sound.paused p below).hardCap cancelling
    rw [disarmed] at armed
    exact armed rfl
  · have cleared : Sound none none (s.modify p Pending.clearHardCap) :=
      sound.modify mild_clearHardCap (fun inside => absurd inside below) (fun _ _ _ => not_loose) paused
    exact cleared.cancel (cancellable ..) .hardCap

theorem Sound.cancelReceiptExpires (sound : Sound none none s) (p : Nat) :
    Sound none none (s.cancelReceiptExpires p) := by
  unfold Registry.cancelReceiptExpires
  split
  · exact sound
  split
  · next absent =>
    refine sound.modify mild_clearReceiptTimer (fun below _ open' => ?_) (fun _ _ _ => not_loose)
      fun paused => ⟨paused.hardCap,paused.idle⟩
    exact absurd (sound.unsettled p below open') absent
  · next there => exact sound.giveUp (fun _ _ => not_loose) (not_not.mp there) _

theorem step_sound (cfg : Config) (sound : Sound none none s) (call : Call) : Sound none none (step cfg s call).1 := by
  obtain ⟨event,net⟩ := call
  cases event with
  | register hostId capabilities => exact (dropPrevious_spec cfg net sound hostId).1.connect hostId capabilities
  | drop socket code => exact (dropConnection_spec cfg net sound socket code).1
  | close => exact (close_spec cfg net sound).1
  | message socket frame => exact sound.handleMessage socket frame
  | invoke msg => exact sound.invoke msg
  | cancelInvoke hostId requestId reason => exact sound.cancelInvoke hostId requestId reason
  | answerGate hostId requestId gateId presentationId sendable =>
    exact sound.answerGate hostId requestId gateId presentationId sendable
  | gateHandle p number valid => exact sound.gateHandle p number valid
  | activateFails p number => exact sound.activateFails p number
  | presentSendFails attemptId => exact sound.endPresentation attemptId .sendFailed
  | answerSendFails answerId => exact sound.settleGateAnswer answerId .sendFailed
  | idleExpires p => exact sound.idleExpires p
  | hardCapExpires p => exact sound.hardCapExpires p
  | cancelReceiptExpires p => exact sound.cancelReceiptExpires p
  | answerExpires answerId => exact sound.settleGateAnswer answerId .timedOut
  | presentationExpires attemptId => exact sound.endPresentation attemptId .presentationTimeout
  | abandonExpires abandonId => exact sound.deleteAbandon abandonId
  | tombstoneExpires requestId => exact sound.deleteCancelTombstone requestId

theorem empty_sound : Sound none none empty where
  requests _ _ none := nomatch none
  unsettled _ none := absurd none (Nat.not_lt_zero _)
  counted _ := rfl
  settlements p := by
    rfl
  ticking _ none := absurd none (Nat.not_lt_zero _)
  paused _ none := absurd none (Nat.not_lt_zero _)
  tombstones _ _ none := nomatch none
  presentations _ _ none := nomatch none
  abandons _ _ none := nomatch none
  answers _ _ none := nomatch none
  asked _ none := absurd none (Nat.not_lt_zero _)
  room _ := Nat.zero_le _
  connected _ _ none := nomatch none

theorem run_sound (cfg : Config) (calls : List Call) :
    Sound none none (Runs.run (step cfg) empty calls) :=
  @Runs.run_invariant _ _ _ (step cfg) (Sound none none) (fun _ call sound => step_sound cfg sound call) _
    empty_sound calls

end GjcRemote.HostInvoke
