import GjcRemote.PendingInvokeSound

/-! That the presentation of a gate and the answers to it keep what holds at all times. -/
namespace GjcRemote.HostInvoke

open Utf16 OrderedMap Registry Pending

variable {cfg : Config} {net : Transport} {ending loose : Option Nat} {s : Registry}

theorem mild_armIdle : Mild armIdle := ⟨fun _ => ⟨rfl,rfl,rfl,rfl⟩,fun _ => rfl,fun _ => rfl⟩

/-- The idle timer is armed only while no gate waits. -/
theorem Sound.armIdleTimer (sound : Sound ending none s) (p : Nat) :
    Sound ending none (s.armIdleTimer p) := by
  unfold Registry.armIdleTimer
  split
  · exact sound
  · next ungated =>
    refine sound.modify mild_armIdle (fun below _ => sound.ticking p below not_loose) (fun _ _ _ => not_loose) ?_
    intro paused
    exact ⟨paused.hardCap,fun gated => absurd gated ungated⟩

theorem cancellable (s : Registry) (p : Nat) : Cancellable none s p := ⟨fun _ _ => not_loose,not_loose⟩

theorem Sound.failPresentation (sound : Sound ending none s) (p : Nat) (reason : AbandonReason) :
    Sound ending none (s.failPresentation cfg net p reason) :=
  (sound.abandonGate cfg net p reason).cancel (cancellable _ p) .presentationFailed

/-- The open presentations are of sockets that are connected. -/
theorem Sound.withPresentations (sound : Sound ending loose s) {presentations : OrderedMap Nat GatePresentation}
    (live : ∀ a e, presentations.get a = some e → s.isLive ending e.socket) :
    Sound ending loose {s with pendingGatePresentations := presentations} :=
  {sound with presentations := live}

theorem Sound.deletePresentation (sound : Sound ending loose s) (attemptId : Nat) :
    Sound ending loose {s with
      pendingGatePresentations := s.pendingGatePresentations.delete attemptId} := by
  refine sound.withPresentations fun a e found => ?_
  exact sound.presentations a e (get_delete_eq_some.mp found).2

section

variable (sound : Sound ending none s)
include sound

theorem Sound.presentGate (p number : Nat) :
    Sound ending none (s.presentGate cfg net p number) := by
  unfold Registry.presentGate
  simp only
  split
  · exact sound
  next presentation _ =>
  split
  · exact sound
  split
  · exact sound.failPresentation p .sendFailed
  next able =>
  split
  · exact sound.draw.failPresentation p .sendFailed
  have reaches : s.reaches net (s.pendings p) := by
    rw [Bool.or_eq_true,not_or,Bool.not_eq_true',Bool.not_eq_false] at able
    exact able.1
  have live := (sound.connected _ _ (reaches_connected reaches)).1
  have presented := sound.draw.present p
    {presentation with presentationAttemptId := some s.issued,state := .awaitingReceipt}
  split
  · refine (presented.withPresentations fun a e found => ?_).failPresentation p .sendFailed
    obtain ⟨other,there⟩ := get_delete_eq_some.mp found
    rw [get_set_ne _ _ other] at there
    exact presented.presentations a e there
  · refine presented.withPresentations fun a e found => ?_
    rw [get_set] at found
    split at found
    · cases found
      exact live
    · exact presented.presentations a e found

theorem Sound.gateHandle (p number : Nat) (valid : Bool) :
    Sound ending none (s.gateHandle cfg net p number valid) := by
  unfold Registry.gateHandle
  split
  · exact sound
  split
  · exact sound.presentGate p number
  · exact sound.failPresentation p .sendFailed

theorem Sound.endPresentation (attemptId : Nat) (reason : AbandonReason) :
    Sound ending none (s.endPresentation cfg net attemptId reason) := by
  unfold Registry.endPresentation
  simp only
  split
  · exact sound
  split
  · exact sound.deletePresentation attemptId
  · exact (sound.deletePresentation attemptId).failPresentation _ reason

theorem Sound.activateFails (p number : Nat) :
    Sound ending none (s.activateFails cfg net p number) := by
  unfold Registry.activateFails
  split
  · exact sound
  · exact sound.failPresentation p .sendFailed

theorem Sound.acceptGatePresentationResult (socket : Nat) (msg : PresentationResult) (activateThrows : Bool) :
    Sound ending none (s.acceptGatePresentationResult cfg net socket msg activateThrows) := by
  have deleted := sound.deletePresentation msg.presentationAttemptId
  unfold Registry.acceptGatePresentationResult
  simp only
  split
  · exact sound
  split
  · exact sound
  split
  · exact deleted
  split
  · exact deleted
  split
  · exact deleted.failPresentation _ .sendFailed
  split
  · exact (deleted.present _ _).failPresentation _ .sendFailed
  · exact deleted.present _ _

end

theorem Sound.deleteAbandon (sound : Sound ending loose s) (abandonId : Nat) :
    Sound ending loose {s with pendingGateAbandons := s.pendingGateAbandons.delete abandonId} := by
  refine {sound with abandons := fun a e found => ?_}
  exact sound.abandons a e (get_delete_eq_some.mp found).2

theorem Sound.acceptGateAbandonResult (sound : Sound ending loose s) (socket : Nat) (msg : AbandonResult) :
    Sound ending loose (s.acceptGateAbandonResult socket msg) := by
  unfold Registry.acceptGateAbandonResult
  split
  · exact sound
  split
  · exact sound
  · exact sound.deleteAbandon msg.abandonId

structure Answers (s s' : Registry) : Prop where
  rest : s' = {s with
    pendings := s'.pendings,issued := s'.issued,pendingGateAnswers := s'.pendingGateAnswers,
    answered := s'.answered}
  pendings : ∀ q, ∃ answers, s'.pendings q = {s.pendings q with gateAnswers := answers}

theorem Answers.same (answers : Answers s s') (q : Nat) :
    SameRequest (s.pendings q) (s'.pendings q) := by
  obtain ⟨entries,same⟩ := answers.pendings q
  rw [same]
  exact ⟨rfl,rfl,rfl,rfl⟩

/-- Nothing but the answers has to be shown when only they change. -/
theorem Sound.answer (sound : Sound ending loose s) (answers : Answers s s')
    (awaited : ∀ a e, s'.pendingGateAnswers.get a = some e → s.isLive ending e.socket ∧
      Awaited s'.issued s.invoked (s'.pendings e.pending) a e)
    (asked : ∀ p < s.invoked, ∀ g a, (s'.pendings p).gateAnswers.get g = some a →
      ∃ e, s'.pendingGateAnswers.get a = some e ∧ e.pending = p ∧ e.gateId = g)
    (room : ∀ socket, s'.outstanding socket ≤ MAX_PENDING_PER_HOST) : Sound ending loose s' := by
  have same := answers.same
  have settled (q : Nat) : (s'.pendings q).settled = (s.pendings q).settled := by
    obtain ⟨entries,eq⟩ := answers.pendings q
    rw [eq]
  have requests : s'.pendingRequests = s.pendingRequests := by rw [answers.rest]
  have invoked : s'.invoked = s.invoked := by rw [answers.rest]
  have live : s'.isLive ending = s.isLive ending := by rw [answers.rest]; rfl
  constructor
  case requests =>
    intro r q found
    rw [requests] at found
    rw [invoked,live,(same q).requestId,(same q).socket]
    exact sound.requests r q found
  case unsettled =>
    intro q below open'
    rw [invoked] at below
    rw [settled] at open'
    rw [requests,(same q).requestId]
    exact sound.unsettled q below open'
  case counted =>
    intro socket
    rw [pendingOn_congr requests same,← sound.counted,answers.rest]
  case settlements =>
    intro q
    have before := sound.settlements q
    rw [settled,invoked,← before,answers.rest]
    rfl
  case ticking =>
    intro q below tight
    rw [invoked] at below
    obtain ⟨entries,eq⟩ := answers.pendings q
    rw [eq]
    exact sound.ticking q below tight
  case paused =>
    intro q below
    rw [invoked] at below
    obtain ⟨entries,eq⟩ := answers.pendings q
    rw [eq]
    exact ⟨(sound.paused q below).hardCap,(sound.paused q below).idle⟩
  case tombstones =>
    rw [live,answers.rest]
    exact sound.tombstones
  case presentations =>
    rw [live,answers.rest]
    exact sound.presentations
  case abandons =>
    rw [live,answers.rest]
    exact sound.abandons
  case answers =>
    rw [live,invoked]
    exact awaited
  case asked =>
    rw [invoked]
    exact asked
  case room => exact room
  case connected =>
    intro hostId socket found
    have found' : s.connections.get hostId = some socket := by rw [← found,answers.rest]
    rw [live]
    refine ⟨(sound.connected hostId socket found').1,?_⟩
    rw [answers.rest]
    exact (sound.connected hostId socket found').2

theorem forget_eq (pending : Pending) (gateId : Units) (answerId : Nat) :
    ∃ answers, pending.forget gateId answerId = {pending with gateAnswers := answers} := by
  unfold forget
  split
  · exact ⟨_,rfl⟩
  · exact ⟨_,rfl⟩

theorem settleGateAnswer_answers (s : Registry) (answerId : Nat) (result : AnswerResult) :
    Answers s (s.settleGateAnswer answerId result) := by
  unfold settleGateAnswer
  split
  · exact ⟨rfl,fun q => ⟨_,rfl⟩⟩
  · next entry _ =>
    refine ⟨rfl,fun q => ?_⟩
    by_cases here : q = entry.pending
    · rw [here]
      simp only [modify_self]
      exact forget_eq ..
    · simp only [modify_ne _ _ here]
      exact ⟨_,rfl⟩

/-- An answer that is awaited is the one of its gate. -/
theorem forget_asked (sound : Sound ending loose s)
    (found : s.pendingGateAnswers.get answerId = some entry) (g : Units) :
    ((s.pendings entry.pending).forget entry.gateId answerId).gateAnswers.get g =
      if g = entry.gateId then none else (s.pendings entry.pending).gateAnswers.get g := by
  rw [forget,if_pos (sound.answers answerId entry found).2.asked]
  exact get_delete ..

theorem Sound.settleGateAnswer (sound : Sound ending loose s) (answerId : Nat) (result : AnswerResult) :
    Sound ending loose (s.settleGateAnswer answerId result) := by
  have answers := settleGateAnswer_answers s answerId result
  unfold Registry.settleGateAnswer at answers ⊢
  split at answers
  · exact sound
  next entry found =>
  refine sound.answer answers ?_ ?_ ?_
  · intro a e there
    obtain ⟨other,before⟩ := get_delete_eq_some.mp there
    obtain ⟨live,awaited⟩ := sound.answers a e before
    have same := answers.same e.pending
    refine ⟨live,awaited.drawn,awaited.below,same.requestId.trans awaited.request,
      same.socket.trans awaited.socket,?_⟩
    by_cases here : e.pending = entry.pending
    · have asked := awaited.asked
      simp only [here,modify_self] at asked ⊢
      refine (forget_asked sound found e.gateId).trans ?_
      split
      · next gate =>
        rw [gate,(sound.answers answerId entry found).2.asked] at asked
        exact absurd (Option.some.inj asked).symm other
      · exact asked
    · simp only [modify_ne _ _ here]
      exact awaited.asked
  · intro q below g a asked
    have before : (s.pendings q).gateAnswers.get g = some a ∧ (q = entry.pending → g ≠ entry.gateId) := by
      by_cases here : q = entry.pending
      · simp only [here,modify_self] at asked ⊢
        have asked' := (forget_asked sound found g).symm.trans asked
        split at asked'
        · cases asked'
        · next other => exact ⟨asked',fun _ => other⟩
      · simp only [modify_ne _ _ here] at asked
        exact ⟨asked,fun same => absurd same here⟩
    obtain ⟨e,there,own,gate⟩ := sound.asked q below g a before.1
    refine ⟨e,?_,own,gate⟩
    refine (get_delete_ne _ ?_).trans there
    intro same
    rw [same,found] at there
    cases there
    exact before.2 own.symm gate.symm
  · intro socket
    have counted := countP_delete found fun e => e.2.socket == socket
    have before := sound.room socket
    exact Nat.le_trans (Nat.le_of_add_right_le (Nat.le_of_eq counted.symm)) before

theorem mild_retireGate (entry : GateAnswer) : Mild fun pending => pending.retireGate entry := by
  constructor
  all_goals
    intro pending
    unfold retireGate
    split
  · exact ⟨rfl,rfl,rfl,rfl⟩
  · exact .refl _
  · rfl
  · rfl
  · rfl
  · rfl

theorem Sound.retireGate (sound : Sound ending none s) (p : Nat) (entry : GateAnswer) :
    Sound ending none (s.modify p fun pending => pending.retireGate entry) := by
  refine sound.modify (mild_retireGate entry) ?_ (fun _ _ _ => not_loose) ?_
  · intro below _
    have ticking := sound.ticking p below not_loose
    unfold Pending.retireGate
    split
    · exact ticking
    · exact ticking
  · intro paused
    unfold Pending.retireGate
    split
    · exact ⟨paused.hardCap,fun none => by cases none⟩
    · exact paused

theorem Sound.acceptGateAnswerResult (sound : Sound ending none s) (socket : Nat) (msg : AnswerReceipt) :
    Sound ending none (s.acceptGateAnswerResult socket msg) := by
  unfold Registry.acceptGateAnswerResult
  simp only
  split
  · exact sound
  next entry _ =>
  split
  · exact sound
  split
  · exact sound.settleGateAnswer ..
  have accepted := (sound.retireGate entry.pending entry).settleGateAnswer msg.answerId .accepted
  split
  · exact accepted.armIdleTimer _
  · exact accepted

theorem ask_answers (s : Registry) (p : Nat) (gateId : Units) (answerId : Nat)
    (answers : OrderedMap Nat GateAnswer) :
    Answers s {s.draw.modify p (fun pending => pending.ask gateId answerId) with
      pendingGateAnswers := answers} := by
  refine ⟨rfl,fun q => ?_⟩
  by_cases here : q = p
  · rw [here]
    simp only [modify_self]
    exact ⟨_,rfl⟩
  · simp only [modify_ne _ _ here]
    exact ⟨_,rfl⟩

structure Askable (s : Registry) (p : Nat) (entry : GateAnswer) : Prop where
  there : s.pendingRequests.get entry.requestId = some p
  pending : entry.pending = p
  socket : entry.socket = (s.pendings p).socket
  unasked : (s.pendings p).gateAnswers.get entry.gateId = none
  room : s.outstanding entry.socket < MAX_PENDING_PER_HOST

theorem Sound.ask (sound : Sound ending loose s) (askable : Askable s p entry) :
    Sound ending loose {s.draw.modify p (fun pending => pending.ask entry.gateId s.issued) with
      pendingGateAnswers := s.pendingGateAnswers.set s.issued entry} := by
  obtain ⟨below,own,live⟩ := sound.requests _ p askable.there
  have absent : s.pendingGateAnswers.get s.issued = none := by
    rw [Option.eq_none_iff_forall_ne_some]
    exact fun e found => Nat.lt_irrefl _ (sound.answers _ e found).2.drawn
  have self : ∀ g, ((s.pendings p).ask entry.gateId s.issued).gateAnswers.get g =
      if g = entry.gateId then some s.issued else (s.pendings p).gateAnswers.get g :=
    fun g => get_set ..
  have answers := ask_answers s p entry.gateId s.issued (s.pendingGateAnswers.set s.issued entry)
  refine sound.answer answers ?_ ?_ ?_
  · intro a e there
    simp only [get_set] at there
    split at there
    · next new =>
      cases there
      rw [new,askable.pending,askable.socket]
      simp only [modify_self]
      refine ⟨live,Nat.lt_succ_self _,askable.pending ▸ below,own,askable.socket.symm,?_⟩
      refine (self entry.gateId).trans ?_
      rw [if_pos rfl]
    · obtain ⟨live',awaited⟩ := sound.answers a e there
      have same := answers.same e.pending
      refine ⟨live',Nat.lt_succ_of_lt awaited.drawn,awaited.below,same.requestId.trans awaited.request,
        same.socket.trans awaited.socket,?_⟩
      by_cases here : e.pending = p
      · have asked := awaited.asked
        rw [here] at asked ⊢
        simp only [modify_self]
        refine (self e.gateId).trans ?_
        split
        · next gate =>
          rw [gate,askable.unasked] at asked
          cases asked
        · exact asked
      · simp only [modify_ne _ _ here]
        exact awaited.asked
  · intro q inside g a asked
    by_cases new : q = p ∧ g = entry.gateId
    · obtain ⟨here,gate⟩ := new
      simp only [here,modify_self] at asked
      have asked' := (self g).symm.trans asked
      rw [if_pos gate] at asked'
      cases asked'
      exact ⟨entry,get_set_self ..,askable.pending.trans here.symm,gate.symm⟩
    · have before : (s.pendings q).gateAnswers.get g = some a := by
        by_cases here : q = p
        · simp only [here,modify_self] at asked ⊢
          have asked' := (self g).symm.trans asked
          rw [if_neg fun gate => new ⟨here,gate⟩] at asked'
          exact asked'
        · simp only [modify_ne _ _ here] at asked
          exact asked
      obtain ⟨e,there,own'⟩ := sound.asked q inside g a before
      refine ⟨e,(get_set_ne _ _ ?_).trans there,own'⟩
      intro same
      rw [same,absent] at there
      cases there
  · intro socket
    have before := sound.room socket
    have counted := countP_set_new s.pendingGateAnswers entry absent fun e => e.2.socket == socket
    simp only [outstanding] at before ⊢
    rw [counted]
    by_cases here : entry.socket = socket
    · have room := askable.room
      rw [here,outstanding] at room
      simp only [here,beq_self_eq_true,if_true]
      exact room
    · simp only [beq_eq_false_iff_ne.mpr here,Bool.false_eq_true,if_false]
      exact before

theorem Sound.answerGate (sound : Sound ending loose s) (hostId requestId gateId presentationId : Units)
    (sendable : Bool) :
    Sound ending loose (s.answerGate net hostId requestId gateId presentationId sendable).1 := by
  unfold Registry.answerGate
  simp only
  split
  next p socket there connected =>
    split
    · exact sound
    next current =>
    split
    · exact sound
    split
    · exact sound
    next unasked =>
    split
    · exact sound
    next room =>
    split
    · exact sound
    have own : socket = (s.pendings p).socket := by
      rw [not_or,ne_eq,not_not] at current
      exact current.1
    let entry : GateAnswer := ⟨requestId,gateId,presentationId,socket,(s.pendings p).connectionIdentity,p⟩
    have askable : Askable s p entry := {
      there := there
      pending := rfl
      socket := own
      unasked := by
        rw [← Option.not_isSome_iff_eq_none]
        exact unasked
      room := Nat.lt_of_not_le room}
    have asked := sound.ask askable
    split
    · exact asked.settleGateAnswer ..
    · exact asked
  · exact sound

end GjcRemote.HostInvoke
