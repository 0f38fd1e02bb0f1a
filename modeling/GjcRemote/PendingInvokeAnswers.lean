import GjcRemote.PendingInvokeRun

/-! The answers to a gate: one at a time, for the gate that was asked, and again after one that
failed. -/
namespace GjcRemote.HostInvoke

open Utf16 Registry

variable {cfg : Config} {net : Transport} {s : Registry}

def Pending.gateState (pending : Pending) : Bool × Option Units × Option Presentation :=
  (pending.gatePending,pending.gateId,pending.gatePresentation)

/-- The request waits for the answer that was given, to this gate and this presentation. -/
structure IsAnswered (entry : GateAnswer) (pending : Pending) : Prop where
  waits : pending.gatePending = true
  gate : pending.gateId = some entry.gateId
  presentation : ∃ presentation, pending.gatePresentation = some presentation ∧
    presentation.presentationId = entry.presentationId

theorem answersCurrent_iff (entry : GateAnswer) (pending : Pending) :
    answersCurrent entry pending ↔ IsAnswered entry pending := by
  rw [answersCurrent,Bool.and_eq_true,Bool.and_eq_true,beq_iff_eq,Option.any_eq_true]
  constructor
  · rintro ⟨⟨waits,gate⟩,presentation,there,same⟩
    exact ⟨waits,gate,presentation,there,beq_iff_eq.mp same⟩
  · rintro ⟨waits,gate,presentation,there,same⟩
    exact ⟨⟨waits,gate⟩,presentation,there,beq_iff_eq.mpr same⟩

/-- The receipt is one for the answer, from the socket that was asked. -/
structure Receives (s : Registry) (socket : Nat) (msg : AnswerReceipt) (entry : GateAnswer) : Prop where
  found : s.pendingGateAnswers.get msg.answerId = some entry
  own : entry.socket = socket
  identity : entry.connectionIdentity = s.connectionIdentities.get socket
  request : entry.requestId = msg.requestId
  gate : entry.gateId = msg.gateId
  presentation : entry.presentationId = msg.presentationId

@[simp] theorem settleGateAnswer_gateState (s : Registry) (answerId : Nat) (result : AnswerResult) (q : Nat) :
    ((s.settleGateAnswer answerId result).pendings q).gateState = (s.pendings q).gateState := by
  obtain ⟨answers,same⟩ := (settleGateAnswer_answers s answerId result).pendings q
  rw [same]
  rfl

@[simp] theorem armIdleTimer_gateState (s : Registry) (p q : Nat) :
    ((s.armIdleTimer p).pendings q).gateState = (s.pendings q).gateState := by
  unfold armIdleTimer
  split
  · rfl
  · by_cases here : q = p
    · rw [here,modify_self]
      rfl
    · rw [modify_ne s _ here]

variable {msg : AnswerReceipt}

/-- A receipt that is for no answer changes nothing. -/
theorem receipt_ignored (none : ¬ ∃ entry, Receives s socket msg entry) :
    s.acceptGateAnswerResult socket msg = s := by
  unfold acceptGateAnswerResult
  split
  · rfl
  next entry found =>
  split
  · rfl
  next matching =>
  simp only [not_or,ne_eq,not_not] at matching
  obtain ⟨own,identity,request,gate,presentation⟩ := matching
  exact absurd ⟨entry,found,own,identity,request,gate,presentation⟩ none

theorem receipt_accepted (receives : Receives s socket msg entry) (accepted : msg.errorCode = none) (q : Nat) :
    ((s.acceptGateAnswerResult socket msg).pendings q).gateState =
      ((s.modify entry.pending fun pending => pending.retireGate entry).pendings q).gateState := by
  obtain ⟨found,own,identity,request,gate,presentation⟩ := receives
  simp only [acceptGateAnswerResult,found,own,identity,request,gate,presentation,accepted,
    ne_eq,not_true_eq_false,or_self,if_false]
  split
  · rw [armIdleTimer_gateState,settleGateAnswer_gateState]
  · rw [settleGateAnswer_gateState]

theorem receipt_rejected (receives : Receives s socket msg entry) (rejected : msg.errorCode = some code) :
    s.acceptGateAnswerResult socket msg = s.settleGateAnswer msg.answerId (.rejected code) := by
  obtain ⟨found,own,identity,request,gate,presentation⟩ := receives
  simp only [acceptGateAnswerResult,found,own,identity,request,gate,presentation,rejected,
    ne_eq,not_true_eq_false,or_self,if_false]

/-- An accepted receipt retires the gate of the request that waits for this answer. -/
theorem receipt_retires (receives : Receives s socket msg entry) (accepted : msg.errorCode = none)
    (answered : IsAnswered entry (s.pendings entry.pending)) :
    ((s.acceptGateAnswerResult socket msg).pendings entry.pending).gateState =
      (false,none,(s.pendings entry.pending).gatePresentation) := by
  rw [receipt_accepted receives accepted,modify_self,Pending.retireGate,
    if_pos ((answersCurrent_iff ..).mpr answered)]
  rfl

/-- It leaves every other gate as it is. -/
theorem receipt_keeps (accepted : msg.errorCode = none)
    (other : ¬ ∃ entry, Receives s socket msg entry ∧ entry.pending = q ∧ IsAnswered entry (s.pendings q)) :
    ((s.acceptGateAnswerResult socket msg).pendings q).gateState = (s.pendings q).gateState := by
  by_cases received : ∃ entry, Receives s socket msg entry
  · obtain ⟨entry,receives⟩ := received
    rw [receipt_accepted receives accepted]
    by_cases here : q = entry.pending
    · have unanswered : ¬ IsAnswered entry (s.pendings entry.pending) :=
        fun answered => other ⟨entry,receives,here.symm,here ▸ answered⟩
      rw [here,modify_self,Pending.retireGate,if_neg fun current => unanswered ((answersCurrent_iff ..).mp current)]
    · rw [modify_ne s _ here]
  · rw [receipt_ignored received]

inductive AnswerFails (s : Registry) (answerId : Nat) (entry : GateAnswer) : Event → Prop where
  | rejected {msg : AnswerReceipt} {code : Units} : msg.answerId = answerId →
      Receives s entry.socket msg entry → msg.errorCode = some code →
      AnswerFails s answerId entry (.message entry.socket (.answerResult msg))
  | timedOut : AnswerFails s answerId entry (.answerExpires answerId)

variable {answerId : Nat}

theorem answerFails_step (cfg : Config) (fails : AnswerFails s answerId entry call.event) :
    ∃ result, (step cfg s call).1 = s.settleGateAnswer answerId result := by
  obtain ⟨event,net⟩ := call
  cases fails with
  | rejected same receives rejected =>
    rw [← same]
    exact ⟨_,receipt_rejected receives rejected⟩
  | timedOut => exact ⟨_,rfl⟩

theorem settled_unasked (sound : Sound none none s)
    (found : s.pendingGateAnswers.get answerId = some entry) (result : AnswerResult) :
    ((s.settleGateAnswer answerId result).pendings entry.pending).gateAnswers.get entry.gateId = none := by
  simp only [settleGateAnswer,found,modify_self]
  exact (forget_asked sound found entry.gateId).trans (if_pos rfl)

theorem settled_room (sound : Sound none none s)
    (found : s.pendingGateAnswers.get answerId = some entry) (result : AnswerResult) :
    (s.settleGateAnswer answerId result).outstanding entry.socket < MAX_PENDING_PER_HOST := by
  have counted := OrderedMap.countP_delete found fun e => e.2.socket == entry.socket
  have before := sound.room entry.socket
  simp only [beq_self_eq_true,if_true] at counted
  simp only [settleGateAnswer,found,outstanding,Registry.modify] at before ⊢
  omega

/-- The request can be asked: its host is connected by the socket of the request, which is open,
and the gate is the accepted one that waits. -/
structure CanAnswer (s : Registry) (net : Transport) (p : Nat) (gateId presentationId : Units) : Prop where
  there : s.pendingRequests.get (s.pendings p).requestId = some p
  reaches : s.reaches net (s.pendings p) = true
  answerable : isAnswerable (s.pendings p) gateId presentationId = true

theorem answerGate_answers (can : CanAnswer s net p gateId presentationId)
    (unasked : (s.pendings p).gateAnswers.get gateId = none)
    (room : s.outstanding (s.pendings p).socket < MAX_PENDING_PER_HOST) :
    (s.answerGate net (s.pendings p).hostId (s.pendings p).requestId gateId presentationId true).2 =
      .answering s.issued := by
  obtain ⟨there,reaches,answerable⟩ := can
  have connected := reaches_connected reaches
  have isOpen : net.isOpen (s.pendings p).socket := by
    rw [Registry.reaches,Bool.and_eq_true] at reaches
    exact reaches.1
  simp [answerGate,there,connected,isOpen,answerable,unasked,Nat.not_le.mpr room]

theorem isAnswerable_congr (same : after.gateState = before.gateState) (gateId presentationId : Units) :
    isAnswerable after gateId presentationId = isAnswerable before gateId presentationId := by
  obtain ⟨waits,gate,presentation⟩ : after.gatePending = before.gatePending ∧ after.gateId = before.gateId ∧
      after.gatePresentation = before.gatePresentation := by
    simpa [Pending.gateState] using same
  rw [isAnswerable,isAnswerable,waits,gate,presentation]

/-- After an answer that failed the gate is as it was, and it can be answered again. -/
theorem answered_again (sound : Sound none none s)
    (found : s.pendingGateAnswers.get answerId = some entry) (result : AnswerResult)
    (can : CanAnswer s net entry.pending entry.gateId presentationId) :
    let after := s.settleGateAnswer answerId result
    (after.answerGate net (s.pendings entry.pending).hostId entry.requestId entry.gateId presentationId true).2 =
      .answering after.issued := by
  have answers := settleGateAnswer_answers s answerId result
  have awaited := (sound.answers answerId entry found).2
  have same := answers.same entry.pending
  have unasked := settled_unasked sound found result
  have room := settled_room sound found result
  have state := settleGateAnswer_gateState s answerId result entry.pending
  have network := network_settleGateAnswer s answerId result
  have requests : (s.settleGateAnswer answerId result).pendingRequests = s.pendingRequests := by rw [answers.rest]
  generalize s.settleGateAnswer answerId result = after at same unasked room state network requests ⊢
  have can' : CanAnswer after net entry.pending entry.gateId presentationId := by
    refine ⟨?_,?_,?_⟩
    · rw [requests,same.requestId]
      exact can.there
    · rw [Registry.reaches,network_connections network,same.socket,same.hostId]
      exact can.reaches
    · rw [isAnswerable_congr state]
      exact can.answerable
  have room' : after.outstanding (after.pendings entry.pending).socket < MAX_PENDING_PER_HOST := by
    rw [same.socket,awaited.socket]
    exact room
  have answered := answerGate_answers can' unasked room'
  rw [same.hostId,same.requestId,awaited.request] at answered
  exact answered

/-- In every run the answers that a request remembers are the outstanding ones of the registry, and a socket
has 64 of these at most. -/
theorem gate_answers_mirrored (cfg : Config) (calls : List Call) :
    let s := Runs.run (step cfg) empty calls
    (∀ socket, s.outstanding socket ≤ MAX_PENDING_PER_HOST) ∧ ∀ p < s.invoked, ∀ gateId a,
      (s.pendings p).gateAnswers.get gateId = some a ↔
        ∃ e, s.pendingGateAnswers.get a = some e ∧ e.pending = p ∧ e.gateId = gateId := by
  have sound := run_sound cfg calls
  refine ⟨sound.room,fun p below gateId a => ⟨sound.asked p below gateId a,?_⟩⟩
  rintro ⟨e,found,rfl,rfl⟩
  exact (sound.answers a e found).2.asked

/-- In every run a request with a gate has no idle timer armed, and one answer to a gate of it is
outstanding at most. An accepted receipt retires the gate and the presentation that was answered
and no other, and after an answer that failed the gate can be answered again. -/
theorem gate_answers_exact (cfg : Config) (calls : List Call) :
    let s := Runs.run (step cfg) empty calls
    (∀ p < s.invoked, (s.pendings p).gatePending = true → (s.pendings p).idleTimer = false) ∧
      (∀ a a' e e', s.pendingGateAnswers.get a = some e → s.pendingGateAnswers.get a' = some e' →
        e.pending = e'.pending → e.gateId = e'.gateId → a = a') ∧
      (∀ net socket msg, msg.errorCode = none →
        let s' := (step cfg s ⟨.message socket (.answerResult msg),net⟩).1
        (∀ entry, Receives s socket msg entry → IsAnswered entry (s.pendings entry.pending) →
          (s'.pendings entry.pending).gateState = (false,none,(s.pendings entry.pending).gatePresentation)) ∧
        ∀ q, (¬ ∃ entry, Receives s socket msg entry ∧ entry.pending = q ∧ IsAnswered entry (s.pendings q)) →
          (s'.pendings q).gateState = (s.pendings q).gateState) ∧
      ∀ a entry, s.pendingGateAnswers.get a = some entry → ∀ call, AnswerFails s a entry call.event →
        let s' := (step cfg s call).1
        (∀ q, (s'.pendings q).gateState = (s.pendings q).gateState) ∧
        ∀ net presentationId, CanAnswer s net entry.pending entry.gateId presentationId →
          ∃ answerId, (step cfg s' ⟨.answerGate (s.pendings entry.pending).hostId entry.requestId
            entry.gateId presentationId true,net⟩).2 = .answering answerId := by
  have sound := run_sound cfg calls
  refine ⟨fun p below => (sound.paused p below).idle,?_,fun net socket msg accepted => ⟨?_,?_⟩,?_⟩
  · intro a a' e e' found found' same gate
    have one := (sound.answers a e found).2.asked
    have other := (sound.answers a' e' found').2.asked
    rw [same,gate,other] at one
    exact (Option.some.inj one).symm
  · exact fun entry receives answered => receipt_retires receives accepted answered
  · exact fun q other => receipt_keeps accepted other
  · intro a entry found call fails
    obtain ⟨result,eq⟩ := answerFails_step cfg fails
    rw [eq]
    refine ⟨fun q => settleGateAnswer_gateState .., fun net presentationId can => ?_⟩
    exact ⟨_,answered_again sound found result can⟩

end GjcRemote.HostInvoke
