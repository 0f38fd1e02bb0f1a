import GjcRemote.PendingInvoke

/-! The operations on requests, gates and answers leave the connections as they are. -/
namespace GjcRemote.HostInvoke

open Utf16 Registry

def Registry.network (s : Registry) : List Units × OrderedMap Units Nat × OrderedMap Nat Nat :=
  (s.sockets,s.connections,s.connectionIdentities)

variable (cfg : Config) (net : Transport) (s : Registry)

variable (p : Nat)

@[simp] theorem network_modify (change : Pending → Pending) :
    (s.modify p change).network = s.network := rfl

@[simp] theorem network_draw : s.draw.network = s.network := rfl

@[simp] theorem network_settle (result : Result) : (s.settle p result).network = s.network := by
  unfold settle
  split
  · rfl
  · rfl

@[simp] theorem network_deletePending (requestId : Units) :
    (s.deletePending requestId).network = s.network := by
  unfold deletePending
  split
  · rfl
  · rfl

@[simp] theorem network_retainCancelTombstone :
    (s.retainCancelTombstone p).1.network = s.network := by
  simp only [retainCancelTombstone]
  split
  · rfl
  · rfl

@[simp] theorem network_retire : (s.retireCancellationTracker p).network = s.network := by
  simp only [retireCancellationTracker]
  split
  · simp
  · simp

@[simp] theorem network_giveUp (kind : Unconfirmed) : (s.giveUp p kind).network = s.network := by
  simp [giveUp]

@[simp] theorem network_abandonGate (reason : AbandonReason) :
    (s.abandonGate cfg net p reason).network = s.network := by
  simp only [abandonGate]
  split
  · rfl
  split
  · rfl
  split
  · rfl
  split
  · rfl
  · rfl

@[simp] theorem network_sendCancellation (p cancelId : Nat) (reason : CancelReason) :
    (s.sendCancellation net p cancelId reason).1.network = s.network := by
  simp only [sendCancellation]
  split
  · simp
  · rfl

@[simp] theorem network_initiateCancellation (reason : CancelReason) :
    (s.initiateCancellation cfg net p reason).1.network = s.network := by
  simp only [initiateCancellation]
  split
  · rfl
  split
  · rfl
  split
  · simp
  split
  · split
    · simp
    · simp
  · split
    · simp
    · simp

@[simp] theorem network_armIdleTimer : (s.armIdleTimer p).network = s.network := by
  unfold armIdleTimer
  split
  · rfl
  · rfl

@[simp] theorem network_failPresentation (reason : AbandonReason) :
    (s.failPresentation cfg net p reason).network = s.network := by
  simp [failPresentation]

@[simp] theorem network_presentations (presentations : OrderedMap Nat GatePresentation) :
    network {s with pendingGatePresentations := presentations} = s.network := rfl

@[simp] theorem network_presentGate (p number : Nat) :
    (s.presentGate cfg net p number).network = s.network := by
  simp only [presentGate]
  split
  · rfl
  split
  · rfl
  split
  · simp
  split
  · simp
  split
  · simp
  · rfl

@[simp] theorem network_gateHandle (p number : Nat) (valid : Bool) :
    (s.gateHandle cfg net p number valid).network = s.network := by
  unfold gateHandle
  split
  · rfl
  split
  · simp
  · simp

@[simp] theorem network_endPresentation (attemptId : Nat) (reason : AbandonReason) :
    (s.endPresentation cfg net attemptId reason).network = s.network := by
  simp only [endPresentation]
  split
  · rfl
  split
  · rfl
  · simp

@[simp] theorem network_activateFails (p number : Nat) :
    (s.activateFails cfg net p number).network = s.network := by
  unfold activateFails
  split
  · rfl
  · simp

variable (socket : Nat)

@[simp] theorem network_acceptGatePresentationResult (msg : PresentationResult)
    (activateThrows : Bool) :
    (s.acceptGatePresentationResult cfg net socket msg activateThrows).network = s.network := by
  simp only [acceptGatePresentationResult]
  split
  · rfl
  split
  · rfl
  split
  · rfl
  split
  · rfl
  split
  · simp
  split
  · simp
  · rfl

@[simp] theorem network_acceptGateAbandonResult (msg : AbandonResult) :
    (s.acceptGateAbandonResult socket msg).network = s.network := by
  unfold acceptGateAbandonResult
  split
  · rfl
  split
  · rfl
  · rfl

@[simp] theorem network_settleGateAnswer (answerId : Nat) (result : AnswerResult) :
    (s.settleGateAnswer answerId result).network = s.network := by
  unfold settleGateAnswer
  split
  · rfl
  · rfl

@[simp] theorem network_acceptGateAnswerResult (msg : AnswerReceipt) :
    (s.acceptGateAnswerResult socket msg).network = s.network := by
  simp only [acceptGateAnswerResult]
  split
  · rfl
  split
  · rfl
  split
  · simp
  split
  · simp
  · simp

@[simp] theorem network_answers (answers : OrderedMap Nat GateAnswer) :
    network {s with pendingGateAnswers := answers} = s.network := rfl

@[simp] theorem network_answerGate (hostId requestId gateId presentationId : Units) (sendable : Bool) :
    (s.answerGate net hostId requestId gateId presentationId sendable).1.network = s.network := by
  simp only [answerGate]
  split
  · split
    · rfl
    split
    · rfl
    split
    · rfl
    split
    · rfl
    split
    · rfl
    split
    · rw [network_settleGateAnswer]
      rfl
    · rfl
  · rfl

@[simp] theorem network_create (pending : Pending) : (s.create pending).network = s.network := rfl

section

variable (requestId : Units)

@[simp] theorem network_addPending (p : Nat) :
    (s.addPending requestId p).network = s.network := rfl

@[simp] theorem network_invoke (msg : Invocation) : (s.invoke cfg net msg).1.network = s.network := by
  simp only [invoke]
  split
  · rfl
  split
  · rfl
  split
  · rfl
  split
  · rfl
  split
  · rfl
  split
  · simp
  · simp

@[simp] theorem network_cancelInvoke (hostId requestId : Units) (reason : CancelReason) :
    (s.cancelInvoke cfg net hostId requestId reason).1.network = s.network := by
  simp only [cancelInvoke]
  split
  · rfl
  split
  · rfl
  split
  · rfl
  · simp

@[simp] theorem network_acceptCancelResult (cancelId : Nat)
    (outcome : CancelOutcome) :
    (s.acceptCancelResult socket requestId cancelId outcome).network = s.network := by
  simp only [acceptCancelResult]
  split
  · rfl
  split
  · rfl
  split
  · rfl
  split
  · rfl
  split
  · rfl
  · simp

@[simp] theorem network_deleteCancelTombstone :
    (s.deleteCancelTombstone requestId).network = s.network := rfl

@[simp] theorem network_acceptTerminal (disposition : Disposition)
    (code : Option Units) :
    (s.acceptTerminal cfg net socket requestId disposition code).network = s.network := by
  simp only [acceptTerminal]
  split
  · split
    · rfl
    split
    · rfl
    · rfl
  split
  · rfl
  split
  · simp
  · simp

@[simp] theorem network_acceptGateRequest (gateId presentationId : Units) (presenterThrows : Bool) :
    (s.acceptGateRequest cfg net p gateId presentationId presenterThrows).network = s.network := by
  simp only [acceptGateRequest]
  split
  · rfl
  split
  · rfl
  split
  · rw [network_failPresentation]
    exact network_abandonGate cfg net s p .replaced
  · exact network_abandonGate cfg net s p .replaced

@[simp] theorem network_acceptOutput (truncated : Bool) (text : Option Units) :
    (s.acceptOutput p truncated text).network = s.network := by
  simp [acceptOutput]

theorem network_acceptEvent (kept : ∀ s p, (handle s p).network = s.network) :
    (s.acceptEvent socket requestId handle).network = s.network := by
  unfold acceptEvent
  split
  · rfl
  split
  · rfl
  · exact kept s _

end

@[simp] theorem network_handleMessage (frame : Frame) :
    (s.handleMessage cfg net socket frame).network = s.network := by
  cases frame with
  | malformed => rfl
  | presentationResult msg activateThrows => exact network_acceptGatePresentationResult ..
  | abandonResult msg => exact network_acceptGateAbandonResult ..
  | answerResult msg => exact network_acceptGateAnswerResult ..
  | cancelResult requestId cancelId outcome => exact network_acceptCancelResult ..
  | terminal requestId disposition code => exact network_acceptTerminal ..
  | gateRequest requestId gateId presentationId presenterThrows =>
    exact network_acceptEvent s socket requestId fun _ _ => network_acceptGateRequest ..
  | output requestId truncated text =>
    exact network_acceptEvent s socket requestId fun _ _ => network_acceptOutput ..

@[simp] theorem network_idleExpires : (s.idleExpires cfg net p).network = s.network := by
  simp only [idleExpires]
  split
  · rfl
  split
  · rfl
  · simp

@[simp] theorem network_hardCapExpires : (s.hardCapExpires cfg net p).network = s.network := by
  unfold hardCapExpires
  split
  · rfl
  · simp

@[simp] theorem network_cancelReceiptExpires :
    (s.cancelReceiptExpires p).network = s.network := by
  unfold cancelReceiptExpires
  split
  · rfl
  split
  · rfl
  · simp

end GjcRemote.HostInvoke
