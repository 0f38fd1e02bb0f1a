import GjcRemote.GateNotices

/-! Presentations are numbered by the gates that are presented: no other callback of the registry
draws a number. -/
namespace GjcRemote.HostInvoke

open Utf16 Registry Bool

variable (cfg : Config) (net : Transport)

section Requests

variable (s : Registry) (p : Nat)

theorem modify_presented (change : Pending → Pending) : (s.modify p change).presented = s.presented := rfl

theorem draw_presented : s.draw.presented = s.presented := rfl

theorem settle_presented (result : Result) : (s.settle p result).presented = s.presented := by
  unfold settle
  split
  · rfl
  · rfl

theorem deletePending_presented (requestId : Units) : (s.deletePending requestId).presented = s.presented := by
  unfold deletePending
  split
  · rfl
  · rfl

theorem deleteCancelTombstone_presented (requestId : Units) :
    (s.deleteCancelTombstone requestId).presented = s.presented := rfl

theorem retainCancelTombstone_presented : (s.retainCancelTombstone p).1.presented = s.presented := by
  simp only [retainCancelTombstone]
  split
  · rfl
  · rfl

theorem retireCancellationTracker_presented : (s.retireCancellationTracker p).presented = s.presented := by
  simp only [retireCancellationTracker]
  split
  · rw [deletePending_presented,retainCancelTombstone_presented]
  · exact retainCancelTombstone_presented s p

theorem armIdleTimer_presented : (s.armIdleTimer p).presented = s.presented := by
  unfold armIdleTimer
  split
  · rfl
  · rfl

theorem abandonGate_presented (reason : AbandonReason) :
    (s.abandonGate cfg net p reason).presented = s.presented := by
  simp only [abandonGate]
  split
  · rfl
  split
  · rfl
  split
  · rfl
  split
  · rfl
  · rfl

theorem giveUp_presented (kind : Unconfirmed) : (s.giveUp p kind).presented = s.presented := by
  rw [giveUp,retireCancellationTracker_presented,settle_presented,modify_presented]

theorem initiateCancellation_presented (reason : CancelReason) :
    (s.initiateCancellation cfg net p reason).1.presented = s.presented := by
  simp only [initiateCancellation,sendCancellation]
  split
  · rfl
  split
  · rfl
  split
  · rw [deletePending_presented,settle_presented]
  have abandoned : (if (s.pendings p).gatePending then s.abandonGate cfg net p (abandonReason reason) else s).presented =
      s.presented := by
    split
    · exact abandonGate_presented cfg net s p _
    · rfl
  generalize (if (s.pendings p).gatePending then s.abandonGate cfg net p (abandonReason reason) else s) = t at abandoned ⊢
  split
  · rw [deletePending_presented,settle_presented,draw_presented,abandoned]
  split
  · rw [giveUp_presented,modify_presented,draw_presented,abandoned]
  · rw [modify_presented,draw_presented,abandoned]

theorem failPresentation_presented (reason : AbandonReason) :
    (s.failPresentation cfg net p reason).presented = s.presented := by
  rw [failPresentation,initiateCancellation_presented,abandonGate_presented]

end Requests

section Gates

variable (s : Registry)

theorem presentGate_presented (p number : Nat) : (s.presentGate cfg net p number).presented = s.presented := by
  simp only [presentGate]
  split
  · rfl
  split
  · rfl
  split
  · exact failPresentation_presented ..
  split
  · exact failPresentation_presented ..
  split
  · exact failPresentation_presented ..
  · rfl

theorem gateHandle_presented (p number : Nat) (valid : Bool) :
    (s.gateHandle cfg net p number valid).presented = s.presented := by
  unfold gateHandle
  split
  · rfl
  split
  · exact presentGate_presented ..
  · exact failPresentation_presented ..

theorem endPresentation_presented (attemptId : Nat) (reason : AbandonReason) :
    (s.endPresentation cfg net attemptId reason).presented = s.presented := by
  simp only [endPresentation]
  split
  · rfl
  split
  · rfl
  · exact failPresentation_presented ..

theorem acceptGatePresentationResult_presented (socket : Nat) (msg : PresentationResult) (activateThrows : Bool) :
    (s.acceptGatePresentationResult cfg net socket msg activateThrows).presented = s.presented := by
  simp only [acceptGatePresentationResult]
  split
  · rfl
  split
  · rfl
  split
  · rfl
  split
  · rfl
  split
  · exact failPresentation_presented ..
  split
  · exact failPresentation_presented ..
  · rfl

theorem settleGateAnswer_presented (answerId : Nat) (result : AnswerResult) :
    (s.settleGateAnswer answerId result).presented = s.presented := by
  unfold settleGateAnswer
  split
  · rfl
  · rfl

theorem acceptGateAnswerResult_presented (socket : Nat) (msg : AnswerReceipt) :
    (s.acceptGateAnswerResult socket msg).presented = s.presented := by
  simp only [acceptGateAnswerResult]
  split
  · rfl
  split
  · rfl
  split
  · exact settleGateAnswer_presented ..
  split
  · rw [armIdleTimer_presented,settleGateAnswer_presented,modify_presented]
  · rw [settleGateAnswer_presented,modify_presented]

theorem answerGate_presented (hostId requestId gateId presentationId : Units) (sendable : Bool) :
    (s.answerGate net hostId requestId gateId presentationId sendable).1.presented = s.presented := by
  simp only [answerGate]
  split
  swap
  · rfl
  split_ifs
  · rfl
  · rfl
  · rfl
  · rfl
  · rfl
  · exact settleGateAnswer_presented ..
  · rfl

end Gates

section Connections

variable (s : Registry)

/-- A loop counts as many presentations as its turns do. -/
theorem foldl_presented {α : Type} {act : Registry → α → Registry} (same : ∀ s a, (act s a).presented = s.presented)
    (items : List α) : (items.foldl act s).presented = s.presented := by
  induction items generalizing s with
  | nil => rfl
  | cons a rest ih => exact (ih (act s a)).trans (same s a)

theorem cancelAll_presented (socket : Nat) : (s.cancelAll cfg net socket).presented = s.presented := by
  refine foldl_presented s (fun s e => ?_) _
  unfold cancelEntry
  split
  · exact initiateCancellation_presented ..
  · rfl

theorem failAnswers_presented (fails : GateAnswer → Bool) : (s.failAnswers fails).presented = s.presented := by
  refine foldl_presented s (fun s e => ?_) _
  unfold failAnswer
  split
  · exact settleGateAnswer_presented ..
  · rfl

theorem failPending_presented (socket : Nat) (code : Option Units) :
    (s.failPending socket code).presented = s.presented := by
  refine foldl_presented s (fun s e => ?_) _
  unfold failEntry
  split
  · rfl
  · rw [deletePending_presented,settle_presented]

theorem dropConnection_presented (socket : Nat) (code : Option Units) :
    (s.dropConnection cfg net socket code).presented = s.presented := by
  simp only [dropConnection,failPendingForSocket]
  split
  · rfl
  next hostId _ =>
  have cancelled : (if net.isOpen socket then s.cancelAll cfg net socket else s).presented = s.presented := by
    split
    · exact cancelAll_presented cfg net s socket
    · rfl
  generalize (if net.isOpen socket then s.cancelAll cfg net socket else s) = t at cancelled ⊢
  simp only [failAnswers_presented,failPending_presented]
  split
  · exact cancelled
  · exact cancelled

theorem dropPrevious_presented (hostId : Units) : (s.dropPrevious cfg net hostId).presented = s.presented := by
  unfold dropPrevious
  split
  · rfl
  · exact dropConnection_presented ..

theorem close_presented : (s.close cfg net).presented = s.presented := by
  have closed : (s.connectionIdentities.keys.foldl (closeSocket cfg net) s).presented = s.presented := by
    refine foldl_presented s (fun s socket => ?_) _
    rw [closeSocket,dropConnection_presented,cancelAll_presented]
  exact (failAnswers_presented _ _).trans closed

end Connections

section Frames

variable (s : Registry)

/-- A frame that is for no gate counts no presentation. -/
theorem acceptOutput_presented (socket : Nat) (requestId : Units) (truncated : Bool) (text : Option Units) :
    (s.acceptEvent socket requestId fun s p => s.acceptOutput p truncated text).presented = s.presented := by
  unfold acceptEvent
  split
  · rfl
  split
  · rfl
  · exact armIdleTimer_presented ..

theorem acceptCancelResult_presented (socket : Nat) (requestId : Units) (cancelId : Nat) (outcome : CancelOutcome) :
    (s.acceptCancelResult socket requestId cancelId outcome).presented = s.presented := by
  simp only [acceptCancelResult]
  split
  · rfl
  split
  · rfl
  split
  · rfl
  split
  · rfl
  split
  · rfl
  · exact giveUp_presented ..

theorem acceptTerminal_presented (socket : Nat) (requestId : Units) (disposition : Disposition) (code : Option Units) :
    (s.acceptTerminal cfg net socket requestId disposition code).presented = s.presented := by
  simp only [acceptTerminal]
  split
  · split
    · rfl
    · split
      · rfl
      · rfl
  · split
    · rfl
    · split
      · rw [retireCancellationTracker_presented,settle_presented]
      · rw [deleteCancelTombstone_presented,deletePending_presented,abandonGate_presented,settle_presented]

/-- The gate that is presented takes the next number. -/
theorem acceptGateRequest_presented (presenterThrows : Bool)
    (capable : (s.hostInfo.get (s.pendings p).hostId).any Capabilities.gatePresentation)
    (fresh : isPresented (s.pendings p) gateId presentationId = false) :
    (s.acceptGateRequest cfg net p gateId presentationId presenterThrows).presented = s.presented + 1 := by
  simp only [acceptGateRequest,capable,fresh,Bool.not_true,false_eq_true,if_false]
  split
  · rw [failPresentation_presented,modify_presented,abandonGate_presented]
  · rw [modify_presented,abandonGate_presented]

theorem acceptGateRequest_known (presenterThrows : Bool)
    (known : ((s.hostInfo.get (s.pendings p).hostId).any Capabilities.gatePresentation &&
      !isPresented (s.pendings p) gateId presentationId) = false) :
    s.acceptGateRequest cfg net p gateId presentationId presenterThrows = s := by
  unfold acceptGateRequest
  rw [and_eq_false_iff,not_eq_false'] at known
  rcases known with incapable | presented
  · rw [incapable]
    rfl
  · split
    · rfl
    · rfl

theorem invoke_presented (msg : Invocation) : (s.invoke cfg net msg).1.presented = s.presented := by
  simp only [invoke]
  split
  · rfl
  split_ifs
  · rfl
  · rfl
  · rfl
  · rfl
  · rw [initiateCancellation_presented,armIdleTimer_presented]
    rfl
  · exact armIdleTimer_presented ..

theorem cancelInvoke_presented (hostId requestId : Units) (reason : CancelReason) :
    (s.cancelInvoke cfg net hostId requestId reason).1.presented = s.presented := by
  simp only [cancelInvoke]
  split
  · rfl
  split
  · rfl
  split
  · rfl
  · exact initiateCancellation_presented ..

theorem idleExpires_presented (p : Nat) : (s.idleExpires cfg net p).presented = s.presented := by
  simp only [idleExpires]
  split
  · rfl
  split
  · rfl
  · exact initiateCancellation_presented ..

theorem hardCapExpires_presented (p : Nat) : (s.hardCapExpires cfg net p).presented = s.presented := by
  unfold hardCapExpires
  split
  · rfl
  · exact initiateCancellation_presented ..

theorem cancelReceiptExpires_presented (p : Nat) : (s.cancelReceiptExpires p).presented = s.presented := by
  unfold cancelReceiptExpires
  split
  · rfl
  split
  · rfl
  · exact giveUp_presented ..

end Frames

def Event.noGate : Event → Bool
  | .message _ (.gateRequest _ _ _ _) => false
  | _ => true

/-- Only a gate request counts a presentation. -/
theorem step_presented (s : Registry) (other : call.event.noGate) :
    (step cfg s call).1.presented = s.presented := by
  obtain ⟨event,net⟩ := call
  cases event with
  | register hostId capabilities => exact dropPrevious_presented cfg net s hostId
  | drop socket code => exact dropConnection_presented cfg net s socket code
  | close => exact close_presented cfg net s
  | message socket frame =>
    cases frame with
    | malformed => rfl
    | presentationResult msg activateThrows => exact acceptGatePresentationResult_presented ..
    | abandonResult msg =>
      simp only [step,handleMessage,acceptGateAbandonResult]
      split
      · rfl
      split
      · rfl
      · rfl
    | answerResult msg => exact acceptGateAnswerResult_presented ..
    | cancelResult requestId cancelId outcome => exact acceptCancelResult_presented ..
    | terminal requestId disposition code => exact acceptTerminal_presented ..
    | gateRequest requestId gateId presentationId presenterThrows => cases other
    | output requestId truncated text => exact acceptOutput_presented ..
  | invoke msg => exact invoke_presented ..
  | cancelInvoke hostId requestId reason => exact cancelInvoke_presented ..
  | answerGate hostId requestId gateId presentationId sendable => exact answerGate_presented ..
  | gateHandle p number valid => exact gateHandle_presented ..
  | activateFails p number =>
    simp only [step,activateFails]
    split
    · rfl
    · exact failPresentation_presented ..
  | presentSendFails attemptId => exact endPresentation_presented ..
  | answerSendFails answerId => exact settleGateAnswer_presented ..
  | idleExpires p => exact idleExpires_presented ..
  | hardCapExpires p => exact hardCapExpires_presented ..
  | cancelReceiptExpires p => exact cancelReceiptExpires_presented ..
  | answerExpires answerId => exact settleGateAnswer_presented ..
  | presentationExpires attemptId => exact endPresentation_presented ..
  | abandonExpires abandonId => rfl
  | tombstoneExpires requestId => rfl

section Requests

variable {s : Registry}

/-- A request that a gate is presented for. -/
theorem presents_some (presents : s.presents socket requestId gateId presentationId = some p) :
    s.owned socket requestId = some p ∧ (s.pendings p).cancellation.isSome = false ∧
      (s.hostInfo.get (s.pendings p).hostId).any Capabilities.gatePresentation ∧
      isPresented (s.pendings p) gateId presentationId = false := by
  obtain ⟨own,allows⟩ := Option.filter_eq_some_iff.mp presents
  simp only [and_eq_true,not_eq_true',← Option.not_isSome] at allows
  exact ⟨own,allows.1.1,allows.1.2,allows.2⟩

/-- A gate request whose gate is presented takes the next number. -/
theorem gateRequest_presented (presents : s.presents socket requestId gateId presentationId = some p)
    (presenterThrows : Bool) :
    (s.handleMessage cfg net socket (.gateRequest requestId gateId presentationId presenterThrows)).presented =
      s.presented + 1 := by
  obtain ⟨own,cancelling,capable,fresh⟩ := presents_some presents
  simp only [handleMessage,acceptEvent,own,cancelling,false_eq_true,if_false]
  exact acceptGateRequest_presented cfg net s presenterThrows capable fresh

theorem gateRequest_ignored (none : s.presents socket requestId gateId presentationId = none)
    (presenterThrows : Bool) :
    s.handleMessage cfg net socket (.gateRequest requestId gateId presentationId presenterThrows) = s := by
  simp only [handleMessage,acceptEvent]
  split
  · rfl
  next p own =>
  split
  · rfl
  next running =>
  apply acceptGateRequest_known
  have refused := Option.filter_eq_none_iff.mp none p own
  have still : (s.pendings p).cancellation.isNone := by simpa using running
  rw [still,Bool.true_and,not_eq_true] at refused
  exact refused

end Requests

theorem step_presented_le (s : Registry) (call : Call) : s.presented ≤ (step cfg s call).1.presented := by
  cases other : call.event.noGate with
  | true => exact Nat.le_of_eq (step_presented cfg s other).symm
  | false =>
    obtain ⟨event,net⟩ := call
    cases event with
    | message socket frame =>
      cases frame with
      | gateRequest requestId gateId presentationId presenterThrows =>
        cases presents : s.presents socket requestId gateId presentationId with
        | none =>
          have ignored := gateRequest_ignored cfg net presents presenterThrows
          exact Nat.le_of_eq (congrArg presented ignored).symm
        | some p =>
          have counted := gateRequest_presented cfg net presents presenterThrows
          exact Nat.le_trans (Nat.le_succ _) (Nat.le_of_eq counted.symm)
      | _ => cases other
    | _ => cases other

end GjcRemote.HostInvoke
