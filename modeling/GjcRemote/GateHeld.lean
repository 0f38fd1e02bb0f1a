import GjcRemote.GateNotices
import GjcRemote.GateAnswer
import GjcRemote.PendingInvokeAnswers

/-! A request that waits at a gate goes on to wait at it, or the presentation of the gate hears a
text that retires it, but for the requests that a callback ends without a word. -/
namespace GjcRemote.HostInvoke

open Utf16 List OrderedMap
open Option hiding or_self
open GjcRemote.GateAnswer (retirement)

/-- The request is pending, and it waits at the gate of the presentation. -/
structure Registry.Held (s : Registry) (p n : Nat) : Prop where
  pending : s.pendingRequests.get (s.pendings p).requestId = some p
  waits : (s.pendings p).gatePending = true
  current : (s.pendings p).gatePresentation.map Presentation.number = some n

def Retired (notices : List Notice) (n : Nat) : Prop :=
  ∃ notice ∈ notices, notice.presentation = n ∧ (retirement notice.text).isSome = true

variable {n : Nat}

theorem Retired.left (retired : Retired first n) (second : List Notice) :
    Retired (first ++ second) n := by
  obtain ⟨notice,member,heard⟩ := retired
  exact ⟨notice,mem_append_left _ member,heard⟩

theorem Retired.right (retired : Retired second n) (first : List Notice) :
    Retired (first ++ second) n := by
  obtain ⟨notice,member,heard⟩ := retired
  exact ⟨notice,mem_append_right _ member,heard⟩

/-- What waits at a gate still does, or its presentation is retired, but for the lost requests. -/
def Kept (lost : Nat → Prop) (s s' : Registry) (notices : List Notice) : Prop :=
  ∀ p n, s.Held p n → ¬lost p → s'.Held p n ∨ Retired notices n

section Rules

variable {lost lost' : Nat → Prop} {s s' s'' : Registry} {notices notices' : List Notice}

theorem Kept.refl : Kept lost s s [] := fun _ _ held _ => .inl held

theorem Kept.trans (first : Kept lost s s' notices) (second : Kept lost' s' s'' notices')
    (later : ∀ p, ¬lost p → ¬lost' p) : Kept lost s s'' (notices ++ notices') := by
  intro p n held kept
  rcases first p n held kept with held' | retired
  · rcases second p n held' (later p kept) with held'' | retired
    · exact .inl held''
    · exact .inr (retired.right notices)
  · exact .inr (retired.left notices')

theorem Kept.weaken (kept : Kept lost s s' notices) (fewer : ∀ p, lost p → lost' p) : Kept lost' s s' notices :=
  fun p n held safe => kept p n held fun gone => safe (fewer p gone)

end Rules

/-- What is told of the current presentation. -/
theorem notice_retires {s : Registry}
    (current : (s.pendings p).gatePresentation.map Presentation.number = some n)
    (retires : (retirement (ofString text)).isSome) : Retired (s.notice p text) n := by
  obtain ⟨presentation,there,number⟩ := map_eq_some_iff.mp current
  exact ⟨⟨presentation.number,ofString text⟩,by simp [Registry.notice,there],number,retires⟩

def Pending.place (pending : Pending) : (Units × Units × Nat) × Bool × Bool × Option Nat :=
  ((pending.requestId,pending.hostId,pending.socket),pending.cancellation.isSome,pending.gatePending,
    pending.gatePresentation.map Presentation.number)

structure SameGates (s s' : Registry) : Prop where
  requests : s'.pendingRequests = s.pendingRequests
  connections : s'.connections = s.connections
  place : ∀ q, (s'.pendings q).place = (s.pendings q).place

section Places

variable {s s' s'' : Registry}

theorem place_eq {before after : Pending} (same : after.place = before.place) :
    after.requestId = before.requestId ∧ after.hostId = before.hostId ∧ after.socket = before.socket ∧
      after.cancellation.isSome = before.cancellation.isSome ∧ after.gatePending = before.gatePending ∧
      after.gatePresentation.map Presentation.number = before.gatePresentation.map Presentation.number := by
  simpa only [Pending.place,Prod.mk.injEq,and_assoc] using same

theorem SameGates.refl (s : Registry) : SameGates s s := ⟨rfl,rfl,fun _ => rfl⟩

theorem SameGates.trans (first : SameGates s s') (second : SameGates s' s'') : SameGates s s'' :=
  ⟨second.requests.trans first.requests,second.connections.trans first.connections,
    fun q => (second.place q).trans (first.place q)⟩

theorem SameGates.held (same : SameGates s s') (held : s.Held p n) : s'.Held p n := by
  obtain ⟨requestId,-,-,-,waits,current⟩ := place_eq (same.place p)
  exact ⟨by rw [same.requests,requestId]; exact held.pending,waits.trans held.waits,current.trans held.current⟩

theorem SameGates.reaches (same : SameGates s s') (net : Transport) (p : Nat) :
    s'.reaches net (s'.pendings p) = s.reaches net (s.pendings p) := by
  obtain ⟨-,hostId,socket,-⟩ := place_eq (same.place p)
  rw [Registry.reaches,Registry.reaches,same.connections,hostId,socket]

theorem SameGates.kept (same : SameGates s s') : Kept lost s s' [] :=
  fun _ _ held _ => .inl (same.held held)

theorem same_modify (s : Registry) (p : Nat)
    (same : (change (s.pendings p)).place = (s.pendings p).place) : SameGates s (s.modify p change) := by
  refine ⟨rfl,rfl,fun q => ?_⟩
  by_cases here : q = p
  · subst here
    rw [modify_self,same]
  · rw [modify_ne s change here]

theorem same_settle (s : Registry) (p : Nat) (result : Result) : SameGates s (s.settle p result) := by
  unfold Registry.settle
  split
  · exact .refl s
  · exact (same_modify s p rfl).trans ⟨rfl,rfl,fun _ => rfl⟩

theorem same_present (s : Registry) (presentation' : Presentation)
    (current : (s.pendings p).gatePresentation = some presentation)
    (number : presentation'.number = presentation.number) :
    SameGates s (s.modify p fun pending => pending.present presentation') :=
  same_modify s p (by simp [Pending.place,Pending.present,current,number])

theorem same_abandonGate (cfg : Config) (net : Transport) (s : Registry) (p : Nat) (reason : AbandonReason) :
    SameGates s (s.abandonGate cfg net p reason) := by
  simp only [Registry.abandonGate]
  split
  · exact .refl s
  next presentation current =>
  split
  · exact .refl s
  split
  · exact .refl s
  split
  · exact ⟨rfl,rfl,fun _ => rfl⟩
  have drawn : SameGates s s.draw := ⟨rfl,rfl,fun _ => rfl⟩
  have presented := same_present s.draw {presentation with abandonId := some s.issued} current rfl
  exact (drawn.trans presented).trans ⟨rfl,rfl,fun _ => rfl⟩

theorem same_retainCancelTombstone (s : Registry) (p : Nat) : SameGates s (s.retainCancelTombstone p).1 := by
  simp only [Registry.retainCancelTombstone]
  split
  · exact ⟨rfl,rfl,fun _ => rfl⟩
  · exact ⟨rfl,rfl,fun _ => rfl⟩

end Places

/-- Only the request `p` changes its place, or leaves. -/
structure Apart (p : Nat) (s s' : Registry) : Prop where
  connections : s'.connections = s.connections
  place : ∀ q ≠ p, (s'.pendings q).place = (s.pendings q).place
  own : ((s'.pendings p).requestId,(s'.pendings p).hostId,(s'.pendings p).socket) =
    ((s.pendings p).requestId,(s.pendings p).hostId,(s.pendings p).socket)
  requests : ∀ r, r ≠ (s.pendings p).requestId → s'.pendingRequests.get r = s.pendingRequests.get r

section Apart

variable {p : Nat} {s s' s'' : Registry}

theorem SameGates.apart (same : SameGates s s') : Apart p s s' := by
  obtain ⟨requestId,hostId,socket,-⟩ := place_eq (same.place p)
  exact ⟨same.connections,fun q _ => same.place q,by rw [requestId,hostId,socket],fun r _ => by rw [same.requests]⟩

theorem Apart.refl (p : Nat) (s : Registry) : Apart p s s := (SameGates.refl s).apart

theorem Apart.trans (first : Apart p s s') (second : Apart p s' s'') : Apart p s s'' := by
  refine ⟨second.connections.trans first.connections,fun q ne => (second.place q ne).trans (first.place q ne),
    second.own.trans first.own,fun r ne => (second.requests r ?_).trans (first.requests r ne)⟩
  have same : (s'.pendings p).requestId = (s.pendings p).requestId := congrArg Prod.fst first.own
  rw [same]
  exact ne

/-- Another request that waits at a gate still does. -/
theorem Apart.held (apart : Apart p s s') (there : s.pendingRequests.get (s.pendings p).requestId = some p)
    (other : q ≠ p) (held : s.Held q n) : s'.Held q n := by
  obtain ⟨requestId,-,-,-,waits,current⟩ := place_eq (apart.place q other)
  refine ⟨?_,waits.trans held.waits,current.trans held.current⟩
  rw [requestId,apart.requests]
  · exact held.pending
  · intro same
    have both := held.pending
    rw [same,there] at both
    exact other (Option.some.inj both).symm

theorem apart_modify (s : Registry) (p : Nat)
    (same : ((change (s.pendings p)).requestId,(change (s.pendings p)).hostId,(change (s.pendings p)).socket) =
      ((s.pendings p).requestId,(s.pendings p).hostId,(s.pendings p).socket)) : Apart p s (s.modify p change) := by
  refine ⟨rfl,fun q ne => by rw [modify_ne s change ne],?_,fun _ _ => rfl⟩
  rw [modify_self]
  exact same

theorem apart_deletePending (s : Registry) (p : Nat) : Apart p s (s.deletePending (s.pendings p).requestId) := by
  unfold Registry.deletePending
  split
  · exact .refl p s
  next q found =>
  refine ⟨rfl,fun q' _ => ?_,?_,fun r ne => get_delete_ne _ ne⟩
  · exact (same_modify s q rfl).place q'
  · have cleared : SameGates s (s.modify q Pending.clearTimers) := same_modify s q rfl
    have same := place_eq (cleared.place p)
    exact congrArg₂ Prod.mk same.1 (congrArg₂ Prod.mk same.2.1 same.2.2.1)

theorem apart_retire (s : Registry) (p : Nat) : Apart p s (s.retireCancellationTracker p) := by
  have retained := same_retainCancelTombstone s p
  simp only [Registry.retireCancellationTracker]
  split
  · have named := (place_eq (retained.place p)).1
    have deleted := apart_deletePending (s.retainCancelTombstone p).1 p
    rw [named] at deleted
    exact retained.apart.trans deleted
  · exact retained.apart

theorem apart_giveUp (s : Registry) (p : Nat) (kind : Unconfirmed) : Apart p s (s.giveUp p kind) := by
  have cleared : SameGates s (s.modify p Pending.clearReceiptTimer) := same_modify s p rfl
  exact (cleared.trans (same_settle _ p _)).apart.trans (apart_retire _ p)

theorem apart_sendCancellation (net : Transport) (s : Registry) (p cancelId : Nat) (reason : CancelReason) :
    Apart p s (s.sendCancellation net p cancelId reason).1 := by
  have cancelled : Apart p s (s.modify p fun pending => pending.cancel cancelId reason) := apart_modify s p rfl
  simp only [Registry.sendCancellation]
  split
  · exact cancelled.trans (apart_giveUp _ p .sendFailed)
  · exact cancelled

theorem apart_initiateCancellation (cfg : Config) (net : Transport) (s : Registry) (p : Nat) (reason : CancelReason) :
    Apart p s (s.initiateCancellation cfg net p reason).1 := by
  simp only [Registry.initiateCancellation]
  split
  · exact .refl p s
  split
  · exact .refl p s
  split
  · have settled := same_settle s p (.terminal .disconnected (some CONNECTION_LOST))
    have deleted := apart_deletePending (s.settle p (.terminal .disconnected (some CONNECTION_LOST))) p
    rw [(place_eq (settled.place p)).1] at deleted
    exact settled.apart.trans deleted
  have abandoned : SameGates s (if (s.pendings p).gatePending then s.abandonGate cfg net p (abandonReason reason) else s) := by
    split
    · exact same_abandonGate cfg net s p _
    · exact .refl s
  generalize (if (s.pendings p).gatePending then s.abandonGate cfg net p (abandonReason reason) else s) = t at abandoned
  have drawn : SameGates t t.draw := ⟨rfl,rfl,fun _ => rfl⟩
  have before := (abandoned.trans drawn).apart (p := p)
  split
  · have settled := same_settle t.draw p (.unconfirmed .cancellationUnconfirmed)
    have deleted := apart_deletePending (t.draw.settle p (.unconfirmed .cancellationUnconfirmed)) p
    rw [(place_eq (((abandoned.trans drawn).trans settled).place p)).1] at deleted
    exact before.trans (settled.apart.trans deleted)
  · exact before.trans (apart_sendCancellation net _ p _ reason)

end Apart

section Cancellations

variable {cfg : Config} {net : Transport} {s : Registry}

/-- A cancellation that would end the request without a word. -/
def Registry.unreachable (s : Registry) (net : Transport) (p : Nat) : Bool :=
  (s.pendings p).cancellation.isNone && !s.reaches net (s.pendings p)

theorem SameGates.unreachable (same : SameGates s s') (net : Transport) (p : Nat) :
    s'.unreachable net p = s.unreachable net p := by
  have cancelling := (place_eq (same.place p)).2.2.2.1
  rw [Registry.unreachable,Registry.unreachable,same.reaches net p,← not_isSome,cancelling,not_isSome]

theorem cancel_kept (p : Nat) (reason : CancelReason) :
    Kept (fun q => q = p ∧ s.unreachable net q) s (s.initiateCancellation cfg net p reason).1
      (s.cancellationNotices net p) := by
  intro q n held safe
  have apart := apart_initiateCancellation cfg net s p reason
  by_cases there : s.pendingRequests.get (s.pendings p).requestId = some p
  swap
  · left
    simpa only [Registry.initiateCancellation,if_pos there] using held
  by_cases other : q = p
  swap
  · exact .inl (apart.held there other held)
  subst other
  cases cancelling : (s.pendings q).cancellation.isSome with
  | true =>
    left
    simpa [Registry.initiateCancellation,there,cancelling] using held
  | false =>
    right
    have reaches : s.reaches net (s.pendings q) := by
      by_contra away
      refine safe ⟨rfl,?_⟩
      simpa [Registry.unreachable,← not_isSome,cancelling] using away
    have told : s.cancellationNotices net q = s.notice q "Expired" := by
      simp [Registry.cancellationNotices,there,cancelling,reaches,held.waits]
    rw [told]
    exact notice_retires held.current (by decide)

theorem abandon_kept (p : Nat) (reason : AbandonReason) (reason' : CancelReason) :
    Kept (fun q => q = p ∧ s.unreachable net q) s
      ((s.abandonGate cfg net p reason).initiateCancellation cfg net p reason').1 (s.abandonNotices cfg net p reason) := by
  have same := same_abandonGate cfg net s p reason
  refine same.kept.trans (cancel_kept p reason') fun q safe lost => safe ⟨lost.1,?_⟩
  rw [← same.unreachable net q]
  exact lost.2

theorem cancel_others (other : q ≠ p) (held : s.Held q n) (reason : CancelReason) :
    (s.initiateCancellation cfg net p reason).1.Held q n := by
  by_cases there : s.pendingRequests.get (s.pendings p).requestId = some p
  · exact (apart_initiateCancellation cfg net s p reason).held there other held
  · simpa only [Registry.initiateCancellation,if_pos there] using held

/-- A presentation that fails hears so first; the text is told where the gates are as they are. -/
theorem fail_kept (reason : AbandonReason) (told : SameGates s s')
    (failed : SameGates s s'') (retires : (retirement (ofString text)).isSome) :
    Kept (fun _ => False) s (s''.failPresentation cfg net p reason) (s'.failNotices cfg net p reason text) := by
  intro q n held _
  by_cases here : q = p
  · subst here
    exact .inr ((notice_retires (told.held held).current retires).left _)
  · exact .inl (cancel_others here ((failed.trans (same_abandonGate cfg net s'' p reason)).held held) _)

end Cancellations

section Presentations

variable {cfg : Config} {net : Transport} {s : Registry}

theorem SameGates.then_kept (same : SameGates s s')
    (kept : Kept lost s' s'' notices) : Kept lost s s'' notices :=
  fun p n held safe => kept p n (same.held held) safe

theorem presented_number (presenting : s.isPresenting p number)
    (current : (s.pendings p).gatePresentation.map Presentation.number = some n) : number = n := by
  obtain ⟨presentation,there,rfl⟩ := map_eq_some_iff.mp current
  rw [Registry.isPresenting,there,any_some,beq_iff_eq] at presenting
  exact presenting.symm

theorem SameGates.presentations (same : SameGates s s') (presentations : OrderedMap Nat GatePresentation) :
    SameGates s {s' with pendingGatePresentations := presentations} :=
  ⟨same.requests,same.connections,same.place⟩

theorem presentGate_kept (p number : Nat) :
    Kept (fun _ => False) s (s.presentGate cfg net p number) (s.presentNotices cfg net p number) := by
  simp only [Registry.presentGate,Registry.presentNotices]
  cases current : (s.pendings p).gatePresentation with
  | none => exact Kept.refl
  | some presentation =>
    have drawn : SameGates s s.draw := ⟨rfl,rfl,fun _ => rfl⟩
    have sent := drawn.trans (same_present s.draw {presentation with
      presentationAttemptId := some s.issued,state := .awaitingReceipt} current rfl)
    simp only
    split_ifs
    · exact Kept.refl
    · exact fail_kept .sendFailed (.refl s) (.refl s) (by decide)
    · exact fail_kept .sendFailed drawn drawn (by decide)
    · exact fail_kept .sendFailed sent (sent.presentations _) (by decide)
    · exact (sent.presentations _).kept

theorem gateHandle_kept (p number : Nat) (valid : Bool) :
    Kept (fun _ => False) s (s.gateHandle cfg net p number valid) (s.gateHandleNotices cfg net p number valid) := by
  simp only [Registry.gateHandle,Registry.gateHandleNotices]
  split_ifs
  · exact fun _ _ held _ => .inl held
  · exact fun _ _ held _ => .inl held
  · exact presentGate_kept p number
  · exact fail_kept .sendFailed (.refl s) (.refl s) (by decide)

/-- The presentation of the entry hears the text; one that does not retire leaves the request to its
cancellation. -/
theorem endPresentation_kept (attemptId : Nat) (reason : AbandonReason) (text : String) :
    Kept (fun q => (∃ entry, s.pendingGatePresentations.get attemptId = some entry ∧ entry.pending = q ∧
        s.isPresenting q entry.presentation) ∧ s.unreachable net q ∧
        (retirement (ofString text)).isSome = false)
      s (s.endPresentation cfg net attemptId reason) (s.endPresentationNotices cfg net attemptId reason text) := by
  simp only [Registry.endPresentation,Registry.endPresentationNotices]
  cases found : s.pendingGatePresentations.get attemptId with
  | none => exact Kept.refl
  | some entry =>
    have deleted : SameGates s {s with pendingGatePresentations := s.pendingGatePresentations.delete attemptId} :=
      (SameGates.refl s).presentations _
    simp only
    split_ifs with presenting
    · exact fun _ _ held _ => .inl (deleted.held held)
    intro q n held safe
    rw [Bool.not_eq_true',Bool.not_eq_false] at presenting
    have presents : s.isPresenting entry.pending entry.presentation := presenting
    by_cases here : q = entry.pending
    swap
    · exact .inl (cancel_others here ((deleted.trans (same_abandonGate cfg net _ _ reason)).held held) _)
    subst here
    cases retires : (retirement (ofString text)).isSome with
    | true => exact .inr ⟨_,mem_cons_self,presented_number presents held.current,retires⟩
    | false =>
      have reachable : ¬(entry.pending = entry.pending ∧ Registry.unreachable
          {s with pendingGatePresentations := s.pendingGatePresentations.delete attemptId} net entry.pending) := by
        rintro ⟨-,away⟩
        exact safe ⟨⟨entry,rfl,rfl,presents⟩,away,retires⟩
      rcases abandon_kept entry.pending reason .presentationFailed entry.pending n (deleted.held held) reachable with
        held' | retired
      · exact .inl held'
      · exact .inr (retired.right [_])

/-- The effect of a result on the presentation that it is for. -/
theorem acceptGatePresentationResult_cases (cfg : Config) (net : Transport) (s : Registry) (socket : Nat)
    (msg : PresentationResult) (activateThrows : Bool) :
    (s.answeredPresentation socket msg = none ∧
      SameGates s (s.acceptGatePresentationResult cfg net socket msg activateThrows)) ∨
    ∃ p t, s.answeredPresentation socket msg = some p ∧ SameGates s t ∧
      s.acceptGatePresentationResult cfg net socket msg activateThrows =
        if msg.accepted ∧ activateThrows = false then t else t.failPresentation cfg net p .sendFailed := by
  have deleted := (SameGates.refl s).presentations (s.pendingGatePresentations.delete msg.presentationAttemptId)
  simp only [Registry.acceptGatePresentationResult,Registry.answeredPresentation]
  cases found : s.pendingGatePresentations.get msg.presentationAttemptId with
  | none => exact .inl ⟨rfl,.refl s⟩
  | some entry =>
    by_cases foreign : entry.socket ≠ socket ∨ entry.connectionIdentity ≠ s.connectionIdentities.get socket ∨
        entry.requestId ≠ msg.requestId ∨ entry.gateId ≠ msg.gateId ∨ entry.presentationId ≠ msg.presentationId
    · simp only [if_pos foreign]
      exact .inl ⟨trivial,.refl s⟩
    simp only [if_neg foreign]
    cases current : (s.pendings entry.pending).gatePresentation with
    | none => exact .inl ⟨rfl,deleted⟩
    | some presentation =>
      by_cases other : presentation.presentationAttemptId ≠ some msg.presentationAttemptId
      · simp only [if_pos other]
        exact .inl ⟨trivial,deleted⟩
      simp only [if_neg other]
      right
      cases accepted : msg.accepted with
      | false => exact ⟨_,_,rfl,deleted,rfl⟩
      | true =>
        have presented := deleted.trans (same_present {s with
          pendingGatePresentations := s.pendingGatePresentations.delete msg.presentationAttemptId}
          (p := entry.pending) {presentation with state := .accepted} current rfl)
        refine ⟨_,_,rfl,presented,?_⟩
        cases activateThrows with
        | true => rfl
        | false => rfl

theorem acceptGatePresentationResult_kept (socket : Nat) (msg : PresentationResult) (activateThrows : Bool) :
    Kept (fun _ => False) s (s.acceptGatePresentationResult cfg net socket msg activateThrows)
      (s.presentationResultNotices cfg net socket msg activateThrows) := by
  have deleted := (SameGates.refl s).presentations (s.pendingGatePresentations.delete msg.presentationAttemptId)
  rcases acceptGatePresentationResult_cases cfg net s socket msg activateThrows with
    ⟨none,same⟩ | ⟨p,t,answered,same,result⟩
  · rw [Registry.presentationResultNotices,none]
    exact same.kept
  · rw [Registry.presentationResultNotices,answered,result]
    cases msg.accepted with
    | false => exact fail_kept .sendFailed deleted same (by decide)
    | true =>
      cases activateThrows with
      | false => exact same.kept
      | true =>
        refine fail_kept .sendFailed (deleted.trans (same_modify _ p ?_)) same (by decide)
        simp only [Pending.place,Option.map_map]
        rfl

end Presentations

section Answers

variable {net : Transport} {s : Registry}

theorem place_forget (pending : Pending) (gateId : Units) (answerId : Nat) :
    (pending.forget gateId answerId).place = pending.place := by
  unfold Pending.forget
  split
  · rfl
  · rfl

theorem same_settleGateAnswer (s : Registry) (answerId : Nat) (result : AnswerResult) :
    SameGates s (s.settleGateAnswer answerId result) := by
  unfold Registry.settleGateAnswer
  split
  · exact .refl s
  next entry _ =>
  have deleted : SameGates s {s with pendingGateAnswers := s.pendingGateAnswers.delete answerId} :=
    ⟨rfl,rfl,fun _ => rfl⟩
  exact (deleted.trans (same_modify _ entry.pending (place_forget _ _ _))).trans ⟨rfl,rfl,fun _ => rfl⟩

theorem SameGates.answers (same : SameGates s s') (answers : OrderedMap Nat GateAnswer) :
    SameGates s {s' with pendingGateAnswers := answers} :=
  ⟨same.requests,same.connections,same.place⟩

theorem same_armIdleTimer (s : Registry) (p : Nat) : SameGates s (s.armIdleTimer p) := by
  unfold Registry.armIdleTimer
  split
  · exact .refl s
  · exact same_modify s p rfl

theorem same_answerGate (hostId requestId gateId presentationId : Units) (sendable : Bool) :
    SameGates s (s.answerGate net hostId requestId gateId presentationId sendable).1 := by
  simp only [Registry.answerGate]
  split
  swap
  · exact .refl s
  next p socket _ _ =>
  have drawn : SameGates s s.draw := ⟨rfl,rfl,fun _ => rfl⟩
  have asked : SameGates s (s.draw.modify p fun pending => pending.ask gateId s.issued) :=
    drawn.trans (same_modify s.draw p rfl)
  split_ifs
  · exact .refl s
  · exact .refl s
  · exact .refl s
  · exact .refl s
  · exact .refl s
  · exact (asked.answers _).trans (same_settleGateAnswer _ _ _)
  · exact asked.answers _

/-- The receipt takes the gate from the request: its answer was accepted. -/
def Registry.AnsweredBy (s : Registry) (socket : Nat) (msg : AnswerReceipt) (q : Nat) : Prop :=
  msg.errorCode = none ∧ ∃ entry, Receives s socket msg entry ∧ entry.pending = q ∧ IsAnswered entry (s.pendings q)

theorem same_retireGate (other : ¬IsAnswered entry (s.pendings p)) :
    SameGates s (s.modify p fun pending => pending.retireGate entry) := by
  refine same_modify s p ?_
  rw [Pending.retireGate,if_neg fun current => other ((answersCurrent_iff _ _).mp current)]

theorem held_modify_ne (ne : q ≠ p) (held : s.Held q n) (change : Pending → Pending) :
    (s.modify p change).Held q n := by
  obtain ⟨pending,waits,current⟩ := held
  exact ⟨by rwa [modify_ne s _ ne],by rwa [modify_ne s _ ne],by rwa [modify_ne s _ ne]⟩

theorem held_retireGate (other : ¬(p = q ∧ IsAnswered entry (s.pendings p)))
    (held : s.Held q n) : (s.modify p fun pending => pending.retireGate entry).Held q n := by
  by_cases answered : IsAnswered entry (s.pendings p)
  · exact held_modify_ne (fun same => other ⟨same.symm,answered⟩) held _
  · exact (same_retireGate answered).held held

theorem acceptGateAnswerResult_kept (socket : Nat) (msg : AnswerReceipt) :
    Kept (s.AnsweredBy socket msg) s (s.acceptGateAnswerResult socket msg) [] := by
  by_cases received : ∃ entry, Receives s socket msg entry
  swap
  · rw [receipt_ignored received]
    exact Kept.refl
  obtain ⟨entry,receives⟩ := received
  cases accepted : msg.errorCode with
  | some code =>
    rw [receipt_rejected receives accepted]
    exact (same_settleGateAnswer s _ _).kept
  | none =>
    intro q n held safe
    left
    have other : ¬(entry.pending = q ∧ IsAnswered entry (s.pendings entry.pending)) :=
      fun lost => safe ⟨accepted,entry,receives,lost.1,lost.1 ▸ lost.2⟩
    have kept := held_retireGate other held
    obtain ⟨found,own,identity,request,gate,presentation⟩ := receives
    simp only [Registry.acceptGateAnswerResult,found,own,identity,request,gate,presentation,accepted,
      ne_eq,not_true_eq_false,or_self,if_false]
    split
    · exact ((same_settleGateAnswer _ _ _).trans (same_armIdleTimer _ _)).held kept
    · exact (same_settleGateAnswer _ _ _).held kept

/-- An accepted receipt is one for an answer that is heard. -/
theorem receipt_heard (receives : Receives s socket msg entry) (accepted : msg.errorCode = none) :
    (s.acceptGateAnswerResult socket msg).answered = s.answered ++ [(msg.answerId,.accepted)] := by
  obtain ⟨found,own,identity,request,gate,presentation⟩ := receives
  have settled (s' : Registry) (awaited : s'.pendingGateAnswers.get msg.answerId = some entry) :
      (s'.settleGateAnswer msg.answerId .accepted).answered = s'.answered ++ [(msg.answerId,.accepted)] := by
    simp only [Registry.settleGateAnswer,awaited]
    rfl
  have armed (s' : Registry) (p : Nat) : (s'.armIdleTimer p).answered = s'.answered := by
    unfold Registry.armIdleTimer
    split
    · rfl
    · rfl
  simp only [Registry.acceptGateAnswerResult,found,own,identity,request,gate,presentation,accepted,
    ne_eq,not_true_eq_false,or_self,if_false]
  split
  · exact (armed _ _).trans (settled _ found)
  · exact settled _ found

theorem same_failAnswers (fails : GateAnswer → Bool) : SameGates s (s.failAnswers fails) := by
  unfold Registry.failAnswers
  generalize s.pendingGateAnswers.entries = entries
  induction entries generalizing s with
  | nil => exact .refl s
  | cons e rest ih =>
    have first : SameGates s (s.failAnswer fails e) := by
      unfold Registry.failAnswer
      split
      · exact same_settleGateAnswer s _ _
      · exact .refl s
    exact first.trans ih

end Answers

section Frames

variable {cfg : Config} {net : Transport} {s : Registry}

def Registry.hasRoom (s : Registry) (p : Nat) : Prop :=
  (s.cancelTombstones.delete (s.pendings p).requestId).size < MAX_CANCEL_TOMBSTONES

/-- A request is only given up when a tombstone is kept for it. -/
theorem same_retire (full : ¬s.hasRoom p) : SameGates s (s.retireCancellationTracker p) := by
  have retained := same_retainCancelTombstone s p
  have failed : (s.retainCancelTombstone p).2 = false := by
    simp only [Registry.retainCancelTombstone]
    split
    · rfl
    · next room => exact absurd (not_le.mp room) full
  simpa only [Registry.retireCancellationTracker,failed,Bool.false_eq_true,if_false] using retained

theorem retire_kept (there : s.pendingRequests.get (s.pendings p).requestId = some p) :
    Kept (fun q => q = p ∧ s.hasRoom q) s (s.retireCancellationTracker p) [] := by
  intro q n held safe
  left
  by_cases here : q = p
  · subst here
    exact (same_retire fun room => safe ⟨rfl,room⟩).held held
  · exact (apart_retire s p).held there here held

theorem giveUp_kept (there : s.pendingRequests.get (s.pendings p).requestId = some p) (kind : Unconfirmed) :
    Kept (fun q => q = p ∧ s.hasRoom q) s (s.giveUp p kind) [] := by
  have cleared : SameGates s (s.modify p Pending.clearReceiptTimer) := same_modify s p rfl
  have settled := cleared.trans (same_settle _ p (.unconfirmed kind))
  have tombs : ((s.modify p Pending.clearReceiptTimer).settle p (.unconfirmed kind)).cancelTombstones =
      s.cancelTombstones := by
    unfold Registry.settle
    split
    · rfl
    · rfl
  have named := (place_eq (settled.place p)).1
  have kept := retire_kept (s := (s.modify p Pending.clearReceiptTimer).settle p (.unconfirmed kind)) (p := p)
    (by rw [settled.requests,named,there])
  refine settled.then_kept (kept.weaken ?_)
  rintro q ⟨rfl,room⟩
  refine ⟨rfl,?_⟩
  rwa [Registry.hasRoom,tombs,named] at room

theorem acceptCancelResult_kept (sound : Sound none none s) (socket : Nat) (requestId : Units) (cancelId : Nat)
    (outcome : CancelOutcome) :
    Kept (fun q => s.owned socket requestId = some q ∧ outcome ≠ .cancelledBeforeStart ∧ s.hasRoom q ∧
        ∃ cancellation, (s.pendings q).cancellation = some cancellation ∧ cancellation.cancelId = cancelId ∧
          cancellation.receipt = none) s (s.acceptCancelResult socket requestId cancelId outcome) [] := by
  simp only [Registry.acceptCancelResult]
  split
  · exact Kept.refl
  next p found =>
  split
  · exact Kept.refl
  next own =>
  split
  · exact Kept.refl
  next cancellation cancelling =>
  split
  · exact Kept.refl
  next open' =>
  split
  · refine (same_modify s p ?_).kept
    simp [Pending.place,Pending.confirm,cancelling]
  next outcome' =>
  have there : s.pendingRequests.get (s.pendings p).requestId = some p := by
    rw [(sound.requests _ _ found).2.1]
    exact found
  refine (giveUp_kept there _).weaken ?_
  rintro q ⟨rfl,room⟩
  simp only [not_or,ne_eq,not_not,Bool.not_eq_true,isSome_eq_false_iff,isNone_iff_eq_none] at own open'
  refine ⟨?_,outcome',room,cancellation,cancelling,open'.1,open'.2⟩
  simp [Registry.owned,found,own]

theorem same_deleteCancelTombstone (s : Registry) (requestId : Units) :
    SameGates s (s.deleteCancelTombstone requestId) := ⟨rfl,rfl,fun _ => rfl⟩

theorem acceptTerminal_kept (sound : Sound none none s) (socket : Nat) (requestId : Units) (disposition : Disposition)
    (code : Option Units) :
    Kept (fun q => s.owned socket requestId = some q ∧ conflicts (s.pendings q) disposition ∧ s.hasRoom q)
      s (s.acceptTerminal cfg net socket requestId disposition code)
      (s.terminalNotices socket requestId disposition) := by
  simp only [Registry.acceptTerminal,Registry.terminalNotices]
  cases own : s.owned socket requestId with
  | none =>
    split
    · split
      · exact Kept.refl
      · split
        · exact (same_deleteCancelTombstone s requestId).kept
        · exact Kept.refl
    · exact Kept.refl
  | some p =>
    have found := owned_found own
    have named := (sound.requests _ _ found).2.1
    have there : s.pendingRequests.get (s.pendings p).requestId = some p := by rw [named,found]
    simp only [found]
    split_ifs with conflicting waiting
    · have settled := same_settle s p (.unconfirmed .terminalConflict)
      have tombs : (s.settle p (.unconfirmed .terminalConflict)).cancelTombstones = s.cancelTombstones := by
        unfold Registry.settle
        split
        · rfl
        · rfl
      have named' := (place_eq (settled.place p)).1
      refine settled.then_kept ((retire_kept (by rw [settled.requests,named',there])).weaken ?_)
      rintro q ⟨rfl,room⟩
      rw [Registry.hasRoom,tombs,named'] at room
      exact ⟨rfl,conflicting,room⟩
    all_goals
      have settled := (same_settle s p (terminalResult (s.pendings p) disposition code)).trans
        (same_abandonGate cfg net _ p .invokeTerminal)
      have ended := apart_deletePending ((s.settle p (terminalResult (s.pendings p) disposition code)).abandonGate cfg
        net p .invokeTerminal) p
      rw [(place_eq (settled.place p)).1,named] at ended
      have apart := (settled.apart.trans ended).trans (same_deleteCancelTombstone _ requestId).apart
      intro q n held _
      by_cases here : q = p
    · subst here
      exact .inr (notice_retires held.current (by decide))
    · exact .inl (apart.held there here held)
    · subst here
      exact absurd held.waits waiting
    · exact .inl (apart.held there here held)

/-- The gate that a request waited at is replaced, and hears so. -/
theorem acceptGateRequest_kept {p : Nat} {gateId presentationId : Units} (presenterThrows : Bool)
    (capable : (s.hostInfo.get (s.pendings p).hostId).any Capabilities.gatePresentation = true)
    (fresh : isPresented (s.pendings p) gateId presentationId = false) :
    Kept (fun _ => False) s (s.acceptGateRequest cfg net p gateId presentationId presenterThrows)
      (s.gateRequestNotices cfg net p gateId presentationId presenterThrows) := by
  intro q n held _
  by_cases here : q = p
  · subst here
    exact .inr ((notice_retires held.current (by decide)).left _)
  left
  simp only [Registry.acceptGateRequest,capable,fresh,Bool.not_true,Bool.false_eq_true,if_false]
  have abandoned := (same_abandonGate cfg net s p .replaced).held held
  have counted : SameGates (s.abandonGate cfg net p .replaced)
      {s.abandonGate cfg net p .replaced with presented := (s.abandonGate cfg net p .replaced).presented + 1} :=
    ⟨rfl,rfl,fun _ => rfl⟩
  have gated := held_modify_ne here (counted.held abandoned) fun pending => pending.gate
    ⟨(s.abandonGate cfg net p .replaced).presented,gateId,presentationId,.awaitingHandle,none,none⟩
  split
  · exact cancel_others here ((same_abandonGate cfg net _ p .sendFailed).held gated) _
  · exact gated

theorem gateRequest_kept (socket : Nat) (requestId gateId presentationId : Units) (presenterThrows : Bool) :
    Kept (fun _ => False) s (s.handleMessage cfg net socket (.gateRequest requestId gateId presentationId presenterThrows))
      (s.messageNotices cfg net socket (.gateRequest requestId gateId presentationId presenterThrows)) := by
  simp only [Registry.handleMessage,Registry.acceptEvent,Registry.messageNotices,Registry.presents]
  cases own : s.owned socket requestId with
  | none => exact Kept.refl
  | some p =>
    cases cancelling : (s.pendings p).cancellation with
    | some => simpa [filter_some,cancelling] using Kept.refl
    | none =>
      cases capable : (s.hostInfo.get (s.pendings p).hostId).any Capabilities.gatePresentation with
      | false => simpa [filter_some,cancelling,capable,Registry.acceptGateRequest] using Kept.refl
      | true =>
        cases fresh : isPresented (s.pendings p) gateId presentationId with
        | true => simpa [filter_some,cancelling,capable,fresh,Registry.acceptGateRequest] using Kept.refl
        | false =>
          have kept := @acceptGateRequest_kept cfg net s p gateId presentationId presenterThrows capable fresh
          simpa [filter_some,cancelling,capable,fresh] using kept

theorem output_kept (socket : Nat) (requestId : Units) (truncated : Bool) (text : Option Units) :
    Kept (fun _ => False) s (s.acceptEvent socket requestId fun s p => s.acceptOutput p truncated text) [] := by
  unfold Registry.acceptEvent
  split
  · exact Kept.refl
  split
  · exact Kept.refl
  next p _ _ =>
  have read : SameGates s (s.modify p fun pending => pending.read truncated text) := by
    refine same_modify s p ?_
    unfold Pending.read
    split
    · rfl
    · rfl
  exact (read.trans (same_armIdleTimer _ p)).kept

theorem invoke_kept (sound : Sound none none s) (msg : Invocation) :
    Kept (fun _ => False) s (s.invoke cfg net msg).1 [] := by
  intro q n held _
  left
  simp only [Registry.invoke]
  split
  · exact held
  next socket _ =>
  split_ifs with denied incapable full known created
  · exact held
  · exact held
  · exact held
  · exact held
  all_goals
    have below := (sound.requests _ _ held.pending).1
    have ne : q ≠ s.invoked := by omega
    have apart : (s.pendings q).requestId ≠ msg.requestId := by
      intro same
      refine known ?_
      rw [← same,held.pending]
      rfl
    have entered : Registry.Held ((s.create (newPending msg.requestId msg.hostId socket
        (s.connectionIdentities.get socket))).addPending msg.requestId s.invoked) q n := by
      have own : ((s.create (newPending msg.requestId msg.hostId socket
          (s.connectionIdentities.get socket))).pendings q) = s.pendings q := Function.update_of_ne ne _ _
      obtain ⟨pending,waits,current⟩ := held
      refine ⟨?_,(congrArg Pending.gatePending own).trans waits,
        (congrArg (fun pending => pending.gatePresentation.map Presentation.number) own).trans current⟩
      simp only [Registry.addPending,own]
      rw [get_set_ne _ _ apart]
      exact pending
    have armed := (same_armIdleTimer _ s.invoked).held entered
  · exact cancel_others ne armed _
  · exact armed

theorem cancelInvoke_kept (hostId requestId : Units) (reason : CancelReason) :
    Kept (fun q => (reason = .userCancelled ∨ reason = .presentationFailed) ∧
        s.pendingRequests.get requestId = some q ∧ (s.pendings q).hostId = hostId ∧
        s.connections.get hostId = some (s.pendings q).socket ∧ s.unreachable net q)
      s (s.cancelInvoke cfg net hostId requestId reason).1 (s.cancelInvokeNotices net hostId requestId reason) := by
  simp only [Registry.cancelInvoke,Registry.cancelInvokeNotices]
  by_cases allowed : reason ≠ .userCancelled ∧ reason ≠ .presentationFailed
  · simp only [if_pos allowed]
    exact Kept.refl
  simp only [if_neg allowed]
  cases found : s.pendingRequests.get requestId with
  | none => exact Kept.refl
  | some p =>
    by_cases foreign : (s.pendings p).hostId ≠ hostId ∨ s.connections.get hostId ≠ some (s.pendings p).socket
    · simp only [if_pos foreign]
      exact Kept.refl
    · simp only [if_neg foreign]
      refine (cancel_kept p reason).weaken ?_
      rintro q ⟨rfl,away⟩
      rw [not_and_or,ne_eq,ne_eq,not_not,not_not] at allowed
      rw [not_or,ne_eq,ne_eq,not_not,not_not] at foreign
      exact ⟨allowed,rfl,foreign.1,foreign.2,away⟩

theorem idleExpires_kept (p : Nat) : Kept (fun _ => False) s (s.idleExpires cfg net p) [] := by
  simp only [Registry.idleExpires]
  have cleared : SameGates s (s.modify p Pending.clearIdle) := same_modify s p rfl
  split
  · exact Kept.refl
  split
  · exact cleared.kept
  next idle =>
  intro q n held _
  left
  refine cancel_others (fun here => idle (.inl ?_)) (cleared.held held) _
  subst here
  exact (cleared.held held).waits

theorem hardCapExpires_kept (p : Nat) :
    Kept (fun q => q = p ∧ (s.pendings q).hardCapTimer ∧ s.unreachable net q) s
      (s.hardCapExpires cfg net p) (s.hardCapNotices net p) := by
  unfold Registry.hardCapExpires Registry.hardCapNotices
  have cleared : SameGates s (s.modify p Pending.clearHardCap) := same_modify s p rfl
  split_ifs with armed
  · exact Kept.refl
  · refine cleared.then_kept ((cancel_kept p .hardCap).weaken ?_)
    rintro q ⟨rfl,away⟩
    rw [cleared.unreachable] at away
    exact ⟨rfl,by simpa using armed,away⟩

theorem cancelReceiptExpires_kept (p : Nat) :
    Kept (fun q => q = p ∧ (s.pendings q).cancelReceiptTimer ∧ s.hasRoom q) s (s.cancelReceiptExpires p) [] := by
  unfold Registry.cancelReceiptExpires
  split
  · exact Kept.refl
  next armed =>
  split
  · exact (same_modify s p rfl).kept
  next there =>
  refine (giveUp_kept (not_not.mp there) _).weaken ?_
  rintro q ⟨rfl,room⟩
  exact ⟨rfl,by simpa using armed,room⟩

end Frames

section Connections

variable {cfg : Config} {net : Transport} {s : Registry}

/-- The connections but those that close are there, and a request that was being cancelled still is. -/
structure Follows (closing : Nat → Prop) (s s' : Registry) : Prop where
  connections : ∀ hostId socket, ¬closing socket → s.connections.get hostId = some socket →
    s'.connections.get hostId = some socket
  route : ∀ q, ((s'.pendings q).hostId,(s'.pendings q).socket) = ((s.pendings q).hostId,(s.pendings q).socket)
  cancelling : ∀ q, (s.pendings q).cancellation.isSome = true → (s'.pendings q).cancellation.isSome = true

variable {closing : Nat → Prop}

theorem Follows.refl (s : Registry) : Follows closing s s :=
  ⟨fun _ _ _ found => found,fun _ => rfl,fun _ cancelling => cancelling⟩

variable {s' : Registry}

theorem Follows.trans (first : Follows closing s s') (second : Follows closing s' s'') :
    Follows closing s s'' :=
  ⟨fun hostId socket stays found => second.connections hostId socket stays (first.connections hostId socket stays found),
    fun q => (second.route q).trans (first.route q),
    fun q cancelling => second.cancelling q (first.cancelling q cancelling)⟩

theorem Follows.socket (follows : Follows closing s s') (q : Nat) :
    (s'.pendings q).socket = (s.pendings q).socket := (Prod.mk.inj (follows.route q)).2

theorem Follows.unreachable (follows : Follows closing s s')
    (stays : ¬closing (s.pendings q).socket) (away : s'.unreachable net q) :
    s.unreachable net q := by
  obtain ⟨hostId,socket⟩ := Prod.mk.inj (follows.route q)
  simp only [Registry.unreachable,Registry.reaches,hostId,socket,Bool.and_eq_true,Bool.not_eq_true',
    Bool.and_eq_false_iff,beq_eq_false_iff_ne] at away ⊢
  refine ⟨?_,away.2.imp id fun gone found => gone (follows.connections _ _ stays found)⟩
  cases cancelling : (s.pendings q).cancellation with
  | none => rfl
  | some cancellation =>
    have still := follows.cancelling q (by rw [cancelling]; rfl)
    rw [← not_isSome,still] at away
    cases away.1

/-- A loop keeps what each of its steps keeps. -/
theorem gather_kept {tells : Registry → α → List Notice} {act : Registry → α → Registry}
    {along : Registry → Prop} (items : List α) (first : along s)
    (step : ∀ t, ∀ a ∈ items, along t → along (act t a) ∧ Kept lost t (act t a) (tells t a)) :
    along (items.foldl act s) ∧ Kept lost s (items.foldl act s) (gather tells act s items) := by
  induction items generalizing s with
  | nil => exact ⟨first,Kept.refl⟩
  | cons a rest ih =>
    obtain ⟨next,kept⟩ := step s a mem_cons_self first
    obtain ⟨last,kept'⟩ := ih next fun t b member => step t b (mem_cons_of_mem a member)
    exact ⟨last,kept.trans kept' fun _ safe => safe⟩

theorem initiateCancellation_follows (p : Nat) (reason : CancelReason) :
    Follows closing s (s.initiateCancellation cfg net p reason).1 := by
  have apart := apart_initiateCancellation cfg net s p reason
  refine ⟨fun hostId socket _ found => by rw [apart.connections,found],fun q => ?_,fun q cancelling => ?_⟩
  · by_cases here : q = p
    · subst here
      exact congrArg Prod.snd apart.own
    · obtain ⟨-,hostId,socket,-⟩ := place_eq (apart.place q here)
      rw [hostId,socket]
  · by_cases here : q = p
    · subst here
      by_cases there : s.pendingRequests.get (s.pendings q).requestId = some q
      · simp [Registry.initiateCancellation,there,cancelling]
      · simpa only [Registry.initiateCancellation,if_pos there] using cancelling
    · rw [(place_eq (apart.place q here)).2.2.2.1]
      exact cancelling

variable (socket : Nat)

theorem cancelEntry_step (follows : Follows (fun _ => False) s t) (e : Units × Nat) :
    Follows (fun _ => False) s (t.cancelEntry cfg net socket e) ∧
      Kept (fun q => (s.pendings q).socket = socket ∧ s.unreachable net q) t (t.cancelEntry cfg net socket e)
        (t.cancelEntryNotices net socket e) := by
  unfold Registry.cancelEntry Registry.cancelEntryNotices
  by_cases own : (t.pendings e.2).socket = socket
  · rw [if_pos own,if_pos own]
    refine ⟨follows.trans (initiateCancellation_follows e.2 .disconnect),(cancel_kept e.2 .disconnect).weaken ?_⟩
    rintro q ⟨rfl,away⟩
    exact ⟨(follows.socket e.2).symm.trans own,follows.unreachable not_false away⟩
  · rw [if_neg own,if_neg own]
    exact ⟨follows,Kept.refl⟩

theorem cancelAll_kept (cfg : Config) (net : Transport) (s : Registry) (socket : Nat) :
    Follows (fun _ => False) s (s.cancelAll cfg net socket) ∧
      Kept (fun q => (s.pendings q).socket = socket ∧ s.unreachable net q) s (s.cancelAll cfg net socket)
        (s.cancelAllNotices cfg net socket) :=
  gather_kept s.pendingRequests.entries (Follows.refl s) fun _ e _ follows => cancelEntry_step socket follows e

theorem deletePending_held (other : (s.pendings q).requestId ≠ requestId)
    (held : s.Held q n) : (s.deletePending requestId).Held q n := by
  unfold Registry.deletePending
  split
  · exact held
  next p found =>
  have same : SameGates s (s.modify p Pending.clearTimers) := same_modify s p rfl
  have cleared := same.held held
  have named := (place_eq (same.place q)).1
  refine ⟨?_,cleared.waits,cleared.current⟩
  simp only [Registry.removePending]
  rw [get_delete_ne _ (named ▸ other)]
  exact cleared.pending

def Fewer (s s' : Registry) : Prop := ∀ r p, s'.pendingRequests.get r = some p → s.pendingRequests.get r = some p

theorem deletePending_fewer (requestId : Units) : Fewer s (s.deletePending requestId) := by
  intro r p found
  unfold Registry.deletePending at found
  split at found
  · exact found
  · exact (get_delete_eq_some.mp found).2

variable (code : Option Units)

theorem failEntry_step (fewer : Fewer s t)
    (member : e ∈ s.pendingRequests.entries) :
    Fewer s (t.failEntry socket code e) ∧
      Kept (fun _ => False) t (t.failEntry socket code e) (t.failEntryNotices socket e) := by
  unfold Registry.failEntry Registry.failEntryNotices
  by_cases foreign : (t.pendings e.2).socket ≠ socket
  · rw [if_pos foreign,if_pos foreign]
    exact ⟨fewer,Kept.refl⟩
  rw [if_neg foreign,if_neg foreign]
  have settled := same_settle t e.2 (.terminal .disconnected code)
  refine ⟨fun r p found => fewer r p ?_,fun q n held _ => ?_⟩
  · rw [← settled.requests]
    exact deletePending_fewer e.1 r p found
  · by_cases own : (t.pendings q).requestId = e.1
    · right
      have there := fewer _ _ held.pending
      rw [own,get_eq_some.mpr member] at there
      rw [Option.some.inj there]
      exact notice_retires held.current (by decide)
    · left
      refine deletePending_held ?_ (settled.held held)
      rwa [(place_eq (settled.place q)).1]

theorem failPending_kept :
    Kept (fun _ => False) s (s.failPending socket code) (s.failPendingNotices socket code) := by
  have step (t : Registry) (e : Units × Nat) (member : e ∈ s.pendingRequests.entries) (fewer : Fewer s t) :=
    failEntry_step socket code fewer member
  exact (gather_kept s.pendingRequests.entries (fun _ _ found => found) step).2

theorem failPendingForSocket_kept :
    Kept (fun _ => False) s (s.failPendingForSocket socket code) (s.failPendingNotices socket code) := by
  have cleared : SameGates (s.failPending socket code) {s.failPending socket code with
      cancelTombstones := (s.failPending socket code).cancelTombstones.discard fun _ e => e.socket == socket} :=
    ⟨rfl,rfl,fun _ => rfl⟩
  have answered := cleared.trans (same_failAnswers fun e => e.socket == socket)
  intro q n held safe
  rcases failPending_kept socket code q n held safe with held' | retired
  · have held'' := answered.held held'
    exact .inl ⟨held''.pending,held''.waits,held''.current⟩
  · exact .inr retired

theorem held_congr (s' : Registry) (requests : s'.pendingRequests = s.pendingRequests)
    (pendings : s'.pendings = s.pendings) (held : s.Held q n) : s'.Held q n := by
  obtain ⟨pending,waits,current⟩ := held
  exact ⟨by rwa [requests,pendings],by rwa [pendings],by rwa [pendings]⟩

theorem dropConnection_kept :
    Kept (fun q => (s.sockets[socket]?).isSome ∧ net.isOpen socket ∧ (s.pendings q).socket = socket ∧
        s.unreachable net q) s (s.dropConnection cfg net socket code) (s.dropNotices cfg net socket code) := by
  simp only [Registry.dropConnection,Registry.dropNotices]
  cases bound : s.sockets[socket]? with
  | none => exact Kept.refl
  | some hostId =>
    have cancelled : Kept (fun q => net.isOpen socket ∧ (s.pendings q).socket = socket ∧
        s.unreachable net q) s (if net.isOpen socket then s.cancelAll cfg net socket else s)
        (if net.isOpen socket then s.cancelAllNotices cfg net socket else []) := by
      split
      · next opened => exact (cancelAll_kept cfg net s socket).2.weaken fun q lost => ⟨opened,lost⟩
      · exact Kept.refl
    generalize (if net.isOpen socket then s.cancelAll cfg net socket else s) = t at cancelled ⊢
    intro q n held safe
    rcases cancelled q n held fun lost => safe ⟨rfl,lost⟩ with held' | retired
    · refine (failPendingForSocket_kept socket code q n (held_congr _ ?_ ?_ held') not_false).imp id fun retired =>
        retired.right _
      · split
        · rfl
        · rfl
      · split
        · rfl
        · rfl
    · exact .inr (retired.left _)

theorem register_kept (hostId : Units) (capabilities : Capabilities) :
    Kept (fun q => ∃ previous, s.connections.get hostId = some previous ∧ net.isOpen previous ∧
        (s.pendings q).socket = previous ∧ s.unreachable net q)
      s (s.register cfg net hostId capabilities) (s.registerNotices cfg net hostId) := by
  have dropped : Kept (fun q => ∃ previous, s.connections.get hostId = some previous ∧ net.isOpen previous ∧
      (s.pendings q).socket = previous ∧ s.unreachable net q) s (s.dropPrevious cfg net hostId)
      (s.registerNotices cfg net hostId) := by
    unfold Registry.dropPrevious Registry.registerNotices
    cases connected : s.connections.get hostId with
    | none => exact Kept.refl
    | some previous =>
      exact (dropConnection_kept previous _).weaken fun q lost => ⟨previous,rfl,lost.2⟩
  intro q n held safe
  refine (dropped q n held safe).imp (fun held' => ?_) id
  exact held_congr (s := s.dropPrevious cfg net hostId) (s.register cfg net hostId capabilities) rfl rfl held'

/-- A socket that closes. -/
theorem closeSocket_kept (cfg : Config) (net : Transport) (s : Registry) (socket : Nat) :
    Kept (fun q => (s.pendings q).socket = socket ∧ s.unreachable net q) s (s.closeSocket cfg net socket)
      (s.closeSocketNotices cfg net socket) := by
  obtain ⟨follows,cancelled⟩ := cancelAll_kept cfg net s socket
  refine cancelled.trans (dropConnection_kept socket (some CONNECTION_LOST)) fun q safe lost => safe ?_
  obtain ⟨-,-,own,away⟩ := lost
  exact ⟨(follows.socket q).symm.trans own,follows.unreachable not_false away⟩

theorem deletePending_follows (requestId : Units) : Follows closing s (s.deletePending requestId) := by
  unfold Registry.deletePending
  split
  · exact .refl s
  next p _ =>
  have cleared : SameGates s (s.modify p Pending.clearTimers) := same_modify s p rfl
  refine ⟨fun _ _ _ found => found,fun q => ?_,fun q cancelling => ?_⟩
  · obtain ⟨-,hostId,socket,-⟩ := place_eq (cleared.place q)
    exact congrArg₂ Prod.mk hostId socket
  · exact (place_eq (cleared.place q)).2.2.2.1.trans cancelling

theorem SameGates.follows (same : SameGates s s') : Follows closing s s' := by
  refine ⟨fun _ _ _ found => by rw [same.connections,found],fun q => ?_,fun q cancelling => ?_⟩
  · obtain ⟨-,hostId,socket,-⟩ := place_eq (same.place q)
    exact congrArg₂ Prod.mk hostId socket
  · exact (place_eq (same.place q)).2.2.2.1.trans cancelling

theorem failPending_follows : Follows closing s (s.failPending socket code) := by
  unfold Registry.failPending
  generalize s.pendingRequests.entries = entries
  induction entries generalizing s with
  | nil => exact .refl s
  | cons e rest ih =>
    have first : Follows closing s (s.failEntry socket code e) := by
      unfold Registry.failEntry
      split
      · exact .refl s
      · exact (same_settle s e.2 _).follows.trans (deletePending_follows e.1)
    exact first.trans ih

theorem failPendingForSocket_follows :
    Follows closing s (s.failPendingForSocket socket code) := by
  have cleared : SameGates (s.failPending socket code) {s.failPending socket code with
      cancelTombstones := (s.failPending socket code).cancelTombstones.discard fun _ e => e.socket == socket} :=
    ⟨rfl,rfl,fun _ => rfl⟩
  have answered := cleared.trans (same_failAnswers fun e => e.socket == socket)
  refine (failPending_follows socket code).trans (answered.follows.trans ?_)
  exact ⟨fun _ _ _ found => found,fun _ => rfl,fun _ cancelling => cancelling⟩

theorem dropConnection_follows :
    Follows (fun other => other = socket) s (s.dropConnection cfg net socket code) := by
  simp only [Registry.dropConnection]
  split
  · exact .refl s
  next hostId _ =>
  have cancelled : Follows (fun other => other = socket) s (if net.isOpen socket then s.cancelAll cfg net socket else s) := by
    split
    · obtain ⟨connections,route,cancelling⟩ := (cancelAll_kept cfg net s socket).1
      exact ⟨fun other m _ found => connections other m not_false found,route,cancelling⟩
    · exact .refl s
  refine cancelled.trans (Follows.trans ?_ (failPendingForSocket_follows socket code))
  generalize (if net.isOpen socket then s.cancelAll cfg net socket else s) = t
  split
  · next connected =>
    refine ⟨fun other m stays found => ?_,fun _ => rfl,fun _ cancelling => cancelling⟩
    refine (get_delete_ne _ ?_).trans found
    rintro rfl
    exact stays (Option.some.inj (found.symm.trans connected))
  · exact ⟨fun _ _ _ found => found,fun _ => rfl,fun _ cancelling => cancelling⟩

/-- Sockets that close one after the other. -/
theorem closeSockets_kept (distinct : sockets.Nodup) :
    Kept (fun q => (s.pendings q).socket ∈ sockets ∧ s.unreachable net q) s
      (sockets.foldl (Registry.closeSocket cfg net) s)
      (gather (Registry.closeSocketNotices cfg net) (Registry.closeSocket cfg net) s sockets) := by
  induction sockets generalizing s with
  | nil => exact Kept.refl
  | cons socket rest ih =>
    obtain ⟨apart,distinct⟩ := nodup_cons.mp distinct
    have first := (closeSocket_kept cfg net s socket).weaken
      fun q lost => (⟨by rw [lost.1]; exact mem_cons_self,lost.2⟩ :
        (s.pendings q).socket ∈ socket :: rest ∧ s.unreachable net q)
    have follows : Follows (fun other => other = socket) s (s.closeSocket cfg net socket) := by
      obtain ⟨connections,route,cancelling⟩ := (cancelAll_kept cfg net s socket).1
      exact Follows.trans ⟨fun other m _ found => connections other m not_false found,route,cancelling⟩
        (dropConnection_follows socket _)
    refine first.trans (ih distinct) ?_
    rintro q safe ⟨member,away⟩
    rw [follows.socket] at member
    refine safe ⟨mem_cons_of_mem _ member,follows.unreachable ?_ away⟩
    rintro rfl
    exact apart member

theorem close_kept :
    Kept (fun q => (s.pendings q).socket ∈ s.connectionIdentities.keys ∧ s.unreachable net q) s
      (s.close cfg net) (s.closeNotices cfg net) := by
  intro q n held safe
  rcases closeSockets_kept s.connectionIdentities.distinct q n held safe with held' | retired
  · left
    have answered := (same_failAnswers fun _ => true).held held'
    exact held_congr (s := (s.connectionIdentities.keys.foldl (Registry.closeSocket cfg net) s).failAnswers fun _ => true)
      (s.close cfg net) rfl rfl answered
  · exact .inr retired

end Connections

/-- The callback ends the request without a word to its gate. -/
def Registry.Silences (s : Registry) (call : Call) (q : Nat) : Prop :=
  match call.event with
  | .register hostId _ => ∃ previous, s.connections.get hostId = some previous ∧ call.net.isOpen previous = true ∧
      (s.pendings q).socket = previous ∧ s.unreachable call.net q = true
  | .drop socket _ => (s.sockets[socket]?).isSome = true ∧ call.net.isOpen socket = true ∧
      (s.pendings q).socket = socket ∧ s.unreachable call.net q = true
  | .close => (s.pendings q).socket ∈ s.connectionIdentities.keys ∧ s.unreachable call.net q = true
  | .message socket (.cancelResult requestId cancelId outcome) => s.owned socket requestId = some q ∧
      outcome ≠ .cancelledBeforeStart ∧ s.hasRoom q ∧
      ∃ cancellation, (s.pendings q).cancellation = some cancellation ∧ cancellation.cancelId = cancelId ∧
        cancellation.receipt = none
  | .message socket (.terminal requestId disposition _) => s.owned socket requestId = some q ∧
      conflicts (s.pendings q) disposition = true ∧ s.hasRoom q
  | .cancelInvoke hostId requestId reason => (reason = .userCancelled ∨ reason = .presentationFailed) ∧
      s.pendingRequests.get requestId = some q ∧ (s.pendings q).hostId = hostId ∧
      s.connections.get hostId = some (s.pendings q).socket ∧ s.unreachable call.net q = true
  | .hardCapExpires p => q = p ∧ (s.pendings q).hardCapTimer = true ∧ s.unreachable call.net q = true
  | .cancelReceiptExpires p => q = p ∧ (s.pendings q).cancelReceiptTimer = true ∧ s.hasRoom q
  | .presentationExpires attemptId => (∃ entry, s.pendingGatePresentations.get attemptId = some entry ∧
      entry.pending = q ∧ s.isPresenting q entry.presentation = true) ∧ s.unreachable call.net q = true
  | _ => False

def Registry.Answered (s : Registry) (call : Call) (q : Nat) : Prop :=
  match call.event with
  | .message socket (.answerResult msg) => s.AnsweredBy socket msg q
  | _ => False

/-- A callback keeps what waits at a gate, or retires it, or it ends it without a word, or by its answer. -/
theorem step_kept (sound : Sound none none s) (call : Call) :
    Kept (fun q => s.Silences call q ∨ s.Answered call q) s (step cfg s call).1 (stepNotices cfg s call) := by
  obtain ⟨event,net⟩ := call
  cases event with
  | register hostId capabilities => exact (register_kept hostId capabilities).weaken fun _ => .inl
  | drop socket code => exact (dropConnection_kept socket code).weaken fun _ => .inl
  | close => exact close_kept.weaken fun _ => .inl
  | message socket frame =>
    cases frame with
    | malformed => exact Kept.refl
    | presentationResult msg activateThrows =>
      exact (acceptGatePresentationResult_kept socket msg activateThrows).weaken fun _ => False.elim
    | abandonResult msg =>
      refine SameGates.kept ?_
      simp only [step,Registry.handleMessage,Registry.acceptGateAbandonResult]
      split
      · exact .refl s
      split
      · exact .refl s
      · exact ⟨rfl,rfl,fun _ => rfl⟩
    | answerResult msg => exact (acceptGateAnswerResult_kept socket msg).weaken fun _ => .inr
    | cancelResult requestId cancelId outcome =>
      exact (acceptCancelResult_kept sound socket requestId cancelId outcome).weaken fun _ => .inl
    | terminal requestId disposition code =>
      exact (acceptTerminal_kept sound socket requestId disposition code).weaken fun _ => .inl
    | gateRequest requestId gateId presentationId presenterThrows =>
      exact (gateRequest_kept socket requestId gateId presentationId presenterThrows).weaken fun _ => False.elim
    | output requestId truncated text => exact (output_kept socket requestId truncated text).weaken fun _ => False.elim
  | invoke msg => exact (invoke_kept sound msg).weaken fun _ => False.elim
  | cancelInvoke hostId requestId reason => exact (cancelInvoke_kept hostId requestId reason).weaken fun _ => .inl
  | answerGate hostId requestId gateId presentationId sendable => exact (same_answerGate ..).kept
  | gateHandle p number valid => exact (gateHandle_kept p number valid).weaken fun _ => False.elim
  | activateFails p number =>
    simp only [step,stepNotices,Registry.activateFails]
    split_ifs
    · exact Kept.refl
    · exact (fail_kept .sendFailed (.refl s) (.refl s) (by decide)).weaken fun _ => False.elim
  | presentSendFails attemptId =>
    refine (endPresentation_kept attemptId .sendFailed "Presentation failed").weaken ?_
    rintro q ⟨-,-,silent⟩
    exact absurd silent (by decide)
  | answerSendFails answerId => exact (same_settleGateAnswer s _ _).kept
  | idleExpires p => exact (idleExpires_kept p).weaken fun _ => False.elim
  | hardCapExpires p => exact (hardCapExpires_kept p).weaken fun _ => .inl
  | cancelReceiptExpires p => exact (cancelReceiptExpires_kept p).weaken fun _ => .inl
  | answerExpires answerId => exact (same_settleGateAnswer s _ _).kept
  | presentationExpires attemptId =>
    refine (endPresentation_kept attemptId .presentationTimeout "Presentation timed out").weaken ?_
    rintro q ⟨presenting,away,-⟩
    exact .inl ⟨presenting,away⟩
  | abandonExpires abandonId =>
    have expired : SameGates s {s with pendingGateAbandons := s.pendingGateAbandons.delete abandonId} :=
      ⟨rfl,rfl,fun _ => rfl⟩
    exact expired.kept
  | tombstoneExpires requestId => exact (same_deleteCancelTombstone s requestId).kept

end GjcRemote.HostInvoke
