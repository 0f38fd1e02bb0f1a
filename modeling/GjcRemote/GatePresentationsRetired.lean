import GjcRemote.GatePresentationsSafe

/-! The entries that are not terminal: each is of a render in flight, or of the gate that a pending request
waits at, as long as no step ends such a gate without a text that retires its entry. -/
namespace GjcRemote.GatePresentations

open Utf16 List OrderedMap Runs
open HostInvoke (Registry Config Transport Call Notice AnswerResult PresentationResult Presentation
  Retired SameGates)
open GateAnswer

/-- The entry of a handle is there, and a request waits at its gate. -/
structure Bot.Waits (b : Bot) (n : Nat) (render : Render) (token : Nat) : Prop where
  found : b.renders.get n = some render
  own : render.token = some token
  handed : render.phase = .handed
  held : b.registry.Held render.pending n
  live : ¬b.store.Over token

/-- The callback takes a receipt for an answer that was given on the entry. -/
def Bot.Hears (b : Bot) (call : Call) (token : Nat) : Prop :=
  match call.event with
  | .message _ (.answerResult msg) =>
    ∃ waiting, b.awaiting msg.answerId = some waiting ∧ waiting.2.reply.token = token
  | _ => False

/-- The callback ends the gate of no entry without a word, and by no answer but one on the entry. -/
def Bot.Minds (b : Bot) (call : Call) : Prop :=
  ∀ n render token, b.Waits n render token →
    ¬b.registry.Silences call render.pending ∧ (b.registry.Answered call render.pending → b.Hears call token)

/-- A step that leaves no entry behind: a handle comes to a request that waits at its gate, or to one
that has another gate, and a callback ends no gate without retiring its entry. -/
def Bot.Careful (b : Bot) : Event → Prop
  | .host call => b.Minds call
  | .renderSettles number _ => ∀ render, b.renders.get number = some render → render.phase = .bound →
      b.registry.isPresenting render.pending number = true → b.registry.Held render.pending number
  | _ => True

section Heard

variable {b : Bot} {n token : Nat}

theorem tells_moves (b : Bot) (notices : List Notice) : b.store.Moves (notices.foldl Bot.tell b).store := by
  induction notices generalizing b with
  | nil => exact .refl _
  | cons notice rest ih => exact (tell_moves b notice).trans (ih (b.tell notice))

theorem settle_moves (b : Bot) (answer : Nat × AnswerResult) : b.store.Moves (b.settle answer).store := by
  unfold Bot.settle
  split
  · exact .refl _
  · exact (finish_moves b _ _ _).1

theorem react_moves (b : Bot) (heard : Nat) : b.store.Moves (b.react heard).store := by
  unfold Bot.react
  generalize b.registry.answered.drop heard = answers
  induction answers generalizing b with
  | nil => exact .refl _
  | cons answer rest ih => exact (settle_moves b answer).trans (ih (b.settle answer))

theorem perform_moves (cfg : Config) (b : Bot) (call : Call) : b.store.Moves (b.perform cfg call).store :=
  (tells_moves {b with registry := (HostInvoke.step cfg b.registry call).1} _).trans (react_moves _ _)

/-- The entry behind a handle is terminal when the handle has heard a text that retires it. -/
theorem tells_over (numbered : b.store.Numbered) (handle : b.handle n = some token)
    (retired : Retired notices n) : (notices.foldl Bot.tell b).store.Over token := by
  induction notices generalizing b with
  | nil =>
    obtain ⟨notice,member,-⟩ := retired
    cases member
  | cons notice rest ih =>
    have numbered' := (tell_moves b notice).numbered numbered
    obtain ⟨heard,member,same,retires⟩ := retired
    rcases mem_cons.mp member with rfl | later
    · have ended : (b.tell heard).store.Over token := by
        simp only [Bot.tell,same,handle,Option.elim_some]
        exact updateState_over retires
      exact (tells_moves _ rest).over numbered' ended
    · exact ih numbered' handle ⟨heard,later,same,retires⟩

theorem handle_of (found : b.renders.get n = some render) (own : render.token = some token)
    (handed : render.phase = .handed) : b.handle n = some token := by
  simp [Bot.handle,found,handed,own]

theorem perform_retired (cfg : Config) (safe : Safe b) (handle : b.handle n = some token)
    (retired : Retired (HostInvoke.stepNotices cfg b.registry call) n) : (b.perform cfg call).store.Over token := by
  have told := tells_over (b := {b with registry := (HostInvoke.step cfg b.registry call).1}) safe.numbered handle retired
  have moves := tells_moves {b with registry := (HostInvoke.step cfg b.registry call).1}
    (HostInvoke.stepNotices cfg b.registry call)
  exact (react_moves _ _).over (moves.numbered safe.numbered) told

theorem finish_over (b : Bot) (k : Nat) (delivery : Delivery) :
    (b.finish k delivery true).store.Over delivery.reply.token := by
  have retires : (retirement (ofString "answered")).isSome := by decide
  exact updateState_over retires

/-- An entry is terminal when the receipt of its answer is there. -/
theorem perform_answered (cfg : Config) (answered : b.registry.Answered call q)
    (hears : b.Hears call token) : (b.perform cfg call).store.Over token := by
  obtain ⟨event,net⟩ := call
  cases event with
  | message socket frame =>
    cases frame with
    | answerResult msg =>
      obtain ⟨accepted,entry,receives,-⟩ := answered
      obtain ⟨waiting,awaits,own⟩ := hears
      have heard := HostInvoke.receipt_heard receives accepted
      simp only [Bot.perform,HostInvoke.step,HostInvoke.stepNotices,Registry.handleMessage,
        HostInvoke.Registry.messageNotices,foldl_nil,Bot.react]
      rw [heard,drop_left]
      simp only [foldl_cons,foldl_nil,Bot.settle]
      have same : Bot.awaiting {b with registry := b.registry.acceptGateAnswerResult socket msg} msg.answerId =
          some waiting := awaits
      rw [same]
      exact own ▸ finish_over _ _ _
    | _ => exact answered.elim
  | _ => exact answered.elim

end Heard

/-- The render is in flight, or a pending request waits at its gate. -/
def Bot.Holds (b : Bot) (n : Nat) (render : Render) : Prop :=
  render.inFlight = true ∨ render.phase = .handed ∧ b.registry.Held render.pending n

/-- Every entry that is not terminal, but for the free ones, is held. -/
def Bot.Covered (b : Bot) (free : Nat → Prop) : Prop :=
  ∀ token, ¬b.store.Over token → ¬free token →
    ∃ n render, b.renders.get n = some render ∧ render.token = some token ∧ b.Holds n render

section Covered

variable {b b' : Bot} {free : Nat → Prop} {cfg : Config}

section

variable (covered : b.Covered free)
include covered

/-- Entries that move on stay held by gates that are waited at. -/
theorem Bot.Covered.along (safe : Safe b) (moves : b.store.Moves b'.store)
    (renders : b'.renders = b.renders) (held : ∀ p n, b.registry.Held p n → b'.registry.Held p n) :
    b'.Covered free := by
  intro token live kept
  obtain ⟨n,render,found,own,holds⟩ := covered token (fun ended => live (moves.over safe.numbered ended)) kept
  exact ⟨n,render,by rw [renders,found],own,holds.imp id fun both => ⟨both.1,held _ _ both.2⟩⟩

theorem Bot.Covered.perform (safe : Safe b) (minds : b.Minds call) :
    (b.perform cfg call).Covered free := by
  obtain ⟨registry,renders⟩ := perform_frame b cfg call
  intro token live kept
  have before : ¬b.store.Over token := fun ended => live ((perform_moves cfg b call).over safe.numbered ended)
  obtain ⟨n,render,found,own,holds⟩ := covered token before kept
  refine ⟨n,render,by rw [renders,found],own,?_⟩
  rcases holds with flying | ⟨handed,held⟩
  · exact .inl flying
  obtain ⟨heard,hears⟩ := minds n render token ⟨found,own,handed,held,before⟩
  by_cases answered : b.registry.Answered call render.pending
  · exact absurd (perform_answered cfg answered (hears answered)) live
  have spared : ¬(b.registry.Silences call render.pending ∨ b.registry.Answered call render.pending) :=
    not_or.mpr ⟨heard,answered⟩
  rcases HostInvoke.step_kept safe.registry call render.pending n held spared with held' | retired
  · refine .inr ⟨handed,?_⟩
    rw [registry]
    exact held'
  · exact absurd (perform_retired cfg safe (handle_of found own handed) retired) live

/-- A render goes on. -/
theorem Bot.Covered.setRender {render : Render} (found : b.renders.get n = some render) (phase : Phase)
    (fewer : ∀ token, free token → free' token) (holds : ∀ token, render.token = some token → ¬b.store.Over token → ¬free' token →
      b.Holds n {render with phase := phase}) : (b.setRender n {render with phase := phase}).Covered free' := by
  intro token live kept
  obtain ⟨n',render',there,own,holds'⟩ := covered token live fun gone => kept (fewer token gone)
  by_cases same : n' = n
  · subst same
    rw [found] at there
    cases there
    exact ⟨n',_,get_set_self _ _ _,own,holds token own live kept⟩
  · exact ⟨n',render',(get_set_ne _ _ same).trans there,own,holds'⟩

theorem Bot.Covered.render (number p : Nat) (gateId presentationId : Units)
    (new : b.renders.get number = none) : (b.render number p gateId presentationId).Covered free := by
  have elsewhere {n : Nat} {render after : Render} (there : b.renders.get n = some render) :
      (b.renders.set number after).get n = some render := by
    refine (get_set_ne _ _ ?_).trans there
    rintro rfl
    rw [new] at there
    cases there
  intro token live kept
  unfold Bot.render at live ⊢
  split at live
  swap
  · next unavailable =>
    obtain ⟨n,render,there,own,holds⟩ := covered token live kept
    rw [if_neg unavailable]
    exact ⟨n,render,elsewhere there,own,holds⟩
  next available =>
  rw [if_pos available]
  obtain ⟨entry,found⟩ := not_forall.mp live
  obtain ⟨found,alive⟩ := Classical.not_imp.mp found
  rcases create_entry found with old | created
  · obtain ⟨n,render,there,own,holds⟩ := covered token (fun ended => alive (ended entry old)) kept
    exact ⟨n,render,elsewhere there,own,holds⟩
  · refine ⟨number,_,get_set_self _ _ _,created,.inl ?_⟩
    simp [created,Render.inFlight]

theorem Bot.Covered.gateRequest (safe : Safe b) (socket : Nat)
    (requestId gateId presentationId : Units) (presenterThrows : Bool) (net : Transport) :
    (b.gateRequest cfg socket requestId gateId presentationId presenterThrows net).Covered free := by
  have minds : b.Minds ⟨.message socket (.gateRequest requestId gateId presentationId presenterThrows),net⟩ :=
    fun _ _ _ _ => ⟨id,False.elim⟩
  unfold Bot.gateRequest
  split
  · exact covered.perform safe minds
  split
  · exact covered.perform safe minds
  refine (covered.perform safe minds).render _ _ _ _ ?_
  rw [(perform_frame b cfg _).2,get_eq_none,OrderedMap.mem_keys]
  rintro ⟨render,there⟩
  exact Nat.lt_irrefl _ (safe.renders _ render there).1

theorem Bot.Covered.presentationResult (safe : Safe b) (socket : Nat)
    (msg : PresentationResult) (net : Transport) : (b.presentationResult cfg socket msg net).Covered free := by
  have minds (b' : Bot) (throws : Bool) : b'.Minds ⟨.message socket (.presentationResult msg throws),net⟩ :=
    fun _ _ _ _ => ⟨id,False.elim⟩
  unfold Bot.presentationResult
  split
  · exact covered.perform safe (minds _ _)
  split
  · exact covered.perform safe (minds _ _)
  next store activates =>
  obtain ⟨token,entry,presenting,changes⟩ := activated activates
  have idle : entry.state ≠ .answering := by simp [presenting]
  have covered' : Bot.Covered {b with store := store} free :=
    covered.along safe changes.moves rfl fun _ _ held => held
  exact covered'.perform (safe.change changes idle) (minds _ _)

theorem Bot.Covered.host (safe : Safe b) (minds : b.Minds call) :
    (b.host cfg call).Covered free := by
  unfold Bot.host
  split
  · exact covered.gateRequest safe _ _ _ _ _ _
  · exact covered.presentationResult safe _ _ _
  · exact covered
  · exact covered
  · exact covered
  · exact covered.perform safe minds

theorem Bot.Covered.sendSettles (safe : Safe b) (number : Nat) (sent : Option Units) :
    (b.sendSettles number sent).Covered free := by
  unfold Bot.sendSettles
  split
  · exact covered
  next render found =>
  split
  swap
  · exact covered
  next token _ own =>
  split
  · next store bound =>
    obtain ⟨messageId,-,bound⟩ := Option.bind_eq_some_iff.mp bound
    obtain ⟨entry,-,changes⟩ := bindMessage_changes bound
    have moved : Bot.Covered {b with store := store} free := covered.along safe changes.moves rfl fun _ _ held => held
    exact moved.setRender found .bound (fun _ => id) fun _ _ _ _ => .inl rfl
  · have moved : Bot.Covered {b with store := b.store.retire token .expired} free :=
      covered.along safe (retire_moves _ _ _) rfl fun _ _ held => held
    refine moved.setRender found .failing (fun _ => id) fun token' own' live _ => absurd ?_ live
    rw [own] at own'
    cases own'
    exact retire_over rfl

end

theorem Bot.Covered.renderSettles (covered : b.Covered fun _ => False) (safe : Safe b)
    (careful : b.Careful (.renderSettles number net)) : (b.renderSettles cfg number net).Covered fun _ => False := by
  have minds (b' : Bot) (p : Nat) (valid : Bool) : b'.Minds ⟨.gateHandle p number valid,net⟩ :=
    fun _ _ _ _ => ⟨id,False.elim⟩
  unfold Bot.renderSettles
  split
  · exact covered
  next render found =>
  split
  · next bound =>
    have safe' := safe.setRender found .handed
    cases presenting : b.registry.isPresenting render.pending number with
    | true =>
      have held := careful render found bound presenting
      have covered' := covered.setRender found .handed (fun _ => id) fun _ _ _ _ => .inr ⟨rfl,held⟩
      exact covered'.perform safe' (minds _ _ _)
    | false =>
      -- the handle comes too late, and hears that its gate was replaced
      have covered' : (b.setRender number {render with phase := .handed}).Covered fun token => render.token = some token :=
        covered.setRender found .handed (fun _ => False.elim) fun token own _ kept => absurd own kept
      intro token live _
      refine covered'.perform safe' (minds _ _ _) token live fun own => live ?_
      refine perform_retired cfg safe' (handle_of (n := number) (get_set_self _ _ _) own rfl) ?_
      have retires : (retirement (ofString "Replaced")).isSome := by decide
      refine ⟨⟨number,ofString "Replaced"⟩,?_,rfl,retires⟩
      have same : (b.setRender number {render with phase := .handed}).registry = b.registry := rfl
      simp [HostInvoke.stepNotices,HostInvoke.Registry.gateHandleNotices,same,presenting]
  · next failing =>
    have covered' : (b.setRender number {render with phase := .ended}).Covered fun _ => False := by
      refine covered.setRender found .ended (fun _ => id) fun token own live kept => ?_
      obtain ⟨n,render',there,own',holds⟩ := covered token live kept
      cases safe.unique n number render' render token there found own' own
      rw [found] at there
      cases there
      rcases holds with flying | ⟨handed,-⟩
      · simp [Render.inFlight,failing] at flying
      · rw [failing] at handed
        cases handed
    exact covered'.perform (safe.setRender found .ended) (minds _ _ _)
  · exact covered

theorem Bot.Covered.replies (covered : b.Covered free) (safe : Safe b) (reply : Reply) : (b.replies reply).Covered free := by
  unfold Bot.replies
  split
  · next entry store found begun =>
    obtain ⟨entry',-,changes⟩ := beginAnswer_changes begun
    exact covered.along safe changes.moves rfl fun _ _ held => held
  · exact covered

theorem Bot.Covered.delivers (covered : b.Covered free) (safe : Safe b) (k : Nat) (sendable : Bool) (net : Transport) :
    (b.delivers k sendable net).Covered free := by
  unfold Bot.delivers
  split
  · exact covered
  next delivery found =>
  split
  · exact covered
  have same : SameGates b.registry (b.registry.answerGate net delivery.entry.hostId delivery.entry.requestId
      delivery.entry.gateId delivery.entry.presentationId sendable).1 := HostInvoke.same_answerGate ..
  simp only
  split
  · next answerId _ =>
    have moves := react_moves {b with
      registry := (b.registry.answerGate net delivery.entry.hostId delivery.entry.requestId delivery.entry.gateId
        delivery.entry.presentationId sendable).1,
      deliveries := b.deliveries.set k {delivery with answerId := some answerId}} b.registry.answered.length
    refine covered.along safe moves ?_ fun p n held => ?_
    · exact (settles_frame _ _).2
    · rw [Bot.react,(settles_frame _ _).1]
      exact same.held held
  · exact covered.along safe (finish_moves b k delivery false).1 rfl fun p n held => same.held held

theorem next_covered (cfg : Config) (covered : b.Covered fun _ => False) (safe : Safe b) (careful : b.Careful event) :
    (b.next cfg event).Covered fun _ => False := by
  cases event with
  | host call => exact covered.host safe careful
  | sendSettles number sent => exact covered.sendSettles safe number sent
  | renderSettles number net => exact covered.renderSettles safe careful
  | replies reply => exact covered.replies safe reply
  | delivers k sendable net => exact covered.delivers safe k sendable net

theorem new_covered (maxEntries : Nat) (bounded : 1 ≤ maxEntries ∧ maxEntries ≤ 64) (users : Nat → Units)
    (channels : Nat → Bool) : (Bot.new maxEntries bounded users channels).Covered fun _ => False := by
  intro token live
  refine absurd (fun entry found => ?_) live
  cases found

theorem run_covered (cfg : Config) (covered : b.Covered fun _ => False) (safe : Safe b) (events : List Event)
    (careful : ∀ visit ∈ visits (step cfg) b events, visit.1.Careful visit.2) :
    (run (step cfg) b events).Covered fun _ => False := by
  induction events generalizing b with
  | nil => exact covered
  | cons event rest ih =>
    have first := next_covered cfg covered safe (careful (b,event) mem_cons_self)
    exact ih first (next_safe cfg safe event) fun visit member => careful visit (mem_cons_of_mem _ member)

end Covered

section Counts

variable {b : Bot}

def gates (s : Registry) : List (Units × Nat) := s.pendingRequests.entries.filter fun e => (s.pendings e.2).gatePending

def Bot.flights (b : Bot) : List (Nat × Render) := b.renders.entries.filter fun e => e.2.inFlight

def Bot.gateToken (b : Bot) (p : Nat) : Option Nat :=
  (b.registry.pendings p).gatePresentation.bind fun presentation =>
    (b.renders.get presentation.number).bind Render.token

/-- Live entries are not more than the gates of pending requests and the renders in flight. -/
theorem Bot.Covered.live (covered : b.Covered fun _ => False) :
    b.store.live.length ≤ (gates b.registry).length + b.flights.length := by
  have inside : b.store.live ⊆ (gates b.registry).filterMap (fun e => b.gateToken e.2) ++
      b.flights.filterMap (fun e => e.2.token) := by
    intro token live
    obtain ⟨n,render,found,own,holds⟩ := covered token (mem_live.mp live) id
    apply mem_append.mpr
    rcases holds with flying | ⟨-,held⟩
    · right
      exact mem_filterMap.mpr ⟨(n,render),mem_filter.mpr ⟨get_eq_some.mp found,flying⟩,own⟩
    · left
      refine mem_filterMap.mpr ⟨(_,render.pending),mem_filter.mpr ⟨get_eq_some.mp held.pending,held.waits⟩,?_⟩
      obtain ⟨presentation,current,rfl⟩ := Option.map_eq_some_iff.mp held.current
      simp [Bot.gateToken,current,found,own]
  calc b.store.live.length
      ≤ _ := (live_nodup b.store).length_le_of_subset inside
    _ = _ := length_append
    _ ≤ _ := Nat.add_le_add (length_filterMap_le _ _) (length_filterMap_le _ _)

end Counts

/-- The gate of a render is no longer that of a pending request. -/
def Bot.Gone (b : Bot) (n : Nat) (render : Render) : Prop :=
  b.registry.pendingRequests.get (b.registry.pendings render.pending).requestId ≠ some render.pending ∨
    (b.registry.pendings render.pending).gatePresentation.map Presentation.number ≠ some n

/-- The entries of gates that are gone are terminal, live entries are not more than the gates of pending
requests and the renders in flight, and a gate is only refused when these fill the store. -/
structure Retires (cfg : Config) (b : Bot) : Prop where
  retired : ∀ n render token, b.renders.get n = some render → render.inFlight = false → render.token = some token →
    b.Gone n render → b.store.Over token
  live : b.store.live.length ≤ (gates b.registry).length + b.flights.length
  refused : ∀ call shown, shown.complete = true → ((b.perform cfg call).store.create shown).2 = none →
    b.store.maxEntries ≤ (gates b.registry).length + b.flights.length

theorem Bot.Covered.retires (covered : b.Covered fun _ => False) (safe : Safe b) (cfg : Config) :
    Retires cfg b := by
  refine ⟨fun n render token found landed own gone => ?_,covered.live,fun call shown complete refused => ?_⟩
  · by_contra live
    obtain ⟨n',render',there,own',holds⟩ := covered token live id
    cases safe.unique n' n render' render token there found own' own
    rw [found] at there
    cases there
    rcases holds with flying | ⟨-,held⟩
    · rw [landed] at flying
      cases flying
    · rcases gone with ended | replaced
      · exact ended held.pending
      · exact replaced held.current
  · have moves := perform_moves cfg b call
    have full := create_refused refused complete
    rw [moves.later.capacity] at full
    exact Nat.le_trans full (Nat.le_trans (moves.live safe.numbered) covered.live)

/-- An answer on its way was begun by the user of the gate's request, on the message of its entry while it was
answerable; it is the only one of its entry, and an entry that is terminal stays as it is. -/
structure Once (cfg : Config) (b : Bot) (visits : List (Bot × Event)) : Prop where
  began : ∀ k delivery, b.deliveries.get k = some delivery →
    ∃ visit ∈ visits, visit.2 = .replies delivery.reply ∧ Began visit.1 delivery
  single : ∀ k k' delivery delivery', b.deliveries.get k = some delivery → b.deliveries.get k' = some delivery' →
    delivery.reply.token = delivery'.reply.token → k = k'
  terminal : ∀ event token entry entry', b.store.entries.get token = some entry → entry.state.terminal = true →
    (b.next cfg event).store.entries.get token = some entry' → entry' = entry

/-- In every run answers are given once, by their user; in a run of careful steps gates are retired too. -/
theorem gates_answered_once_and_retired (cfg : Config) {maxEntries : Nat} (bounded : 1 ≤ maxEntries ∧ maxEntries ≤ 64)
    (users : Nat → Units) (channels : Nat → Bool) (events : List Event) :
    Once cfg (run (step cfg) (.new maxEntries bounded users channels) events)
        (visits (step cfg) (.new maxEntries bounded users channels) events) ∧
      ((∀ visit ∈ visits (step cfg) (.new maxEntries bounded users channels) events, visit.1.Careful visit.2) →
        Retires cfg (run (step cfg) (.new maxEntries bounded users channels) events)) := by
  have start := new_safe maxEntries bounded users channels
  have safe := run_safe cfg start events
  refine ⟨⟨fun k delivery there => ?_,safe.single,fun event token entry entry' found terminal found' => ?_⟩,fun careful => ?_⟩
  · rcases run_began cfg start events there with ⟨before,there',-⟩ | began
    · cases there'
    · exact began
  · obtain ⟨before,there,-,kept⟩ := (next_later cfg _ event).entry token entry' found'
      (safe.numbered.tokens token entry found).2
    rw [found] at there
    cases there
    exact kept terminal
  · exact (run_covered cfg (new_covered maxEntries bounded users channels) start events careful).retires safe cfg

def always : Config := ⟨fun _ _ _ => true,fun _ _ _ _ => true,fun _ _ _ _ _ => true⟩

def openNet : Transport := ⟨fun _ => true,fun _ => false⟩

/-- A host registers, and a request of it reaches a gate. -/
def gateShown : List Event :=
  [.host ⟨.register [1] ⟨true,true,true⟩,openNet⟩,.host ⟨.invoke ⟨[1],[2],true,true,false⟩,openNet⟩,
    .host ⟨.message 0 (.gateRequest [2] [3] [4] false),openNet⟩]

/-- The message is sent, the user answers it, and the answer is accepted. -/
def answeredGate : List Event := gateShown ++
  [.sendSettles 0 (some [5]),.renderSettles 0 openNet,
    .host ⟨.message 0 (.presentationResult ⟨[2],[3],[4],0,true⟩ false),openNet⟩,
    .replies ⟨0,[5],[6],some [5]⟩,
    .delivers 0 true openNet,
    .host ⟨.message 0 (.answerResult ⟨[2],1,[3],[4],none⟩),openNet⟩]

/-- The request ends while the message of its gate is being sent. -/
def lateHandle : List Event := gateShown ++
  [.host ⟨.message 0 (.terminal [2] .completed none),openNet⟩,.sendSettles 0 (some [5]),
    .renderSettles 0 openNet]

abbrev oneGate : Bot := .new 1 (by decide) (fun _ => [6]) fun _ => true

/-- The entry that a late handle leaves presents a gate that is gone. -/
theorem lateHandle_stays : ¬Retires always (run (step always) oneGate lateHandle) := by
  intro retires
  have ended := retires.retired 0 ⟨0,some 0,.handed⟩ 0 (by decide +kernel) rfl rfl (.inl (by decide +kernel))
  have terminal := ended ⟨0,[1],[2],[3],[4],[6],some [5],.presenting⟩ (by decide +kernel)
  cases terminal

theorem careful_cons (first : b.Careful event)
    (later : ∀ visit ∈ visits (step cfg) (b.next cfg event) rest, visit.1.Careful visit.2) :
    ∀ visit ∈ visits (step cfg) b (event :: rest), visit.1.Careful visit.2 := by
  intro visit member
  rcases mem_cons.mp member with rfl | member
  · exact first
  · exact later visit member

def answering : Bot := run (step always) oneGate (answeredGate.take 8)

theorem answering_minds : answering.Minds ⟨.message 0 (.answerResult ⟨[2],1,[3],[4],none⟩),openNet⟩ := by
  intro n render token waits
  refine ⟨id,fun _ => ?_⟩
  have rendered : answering.renders.entries = [(0,⟨0,some 0,.handed⟩)] := by decide +kernel
  have member := get_eq_some.mp waits.found
  rw [rendered,mem_singleton] at member
  cases member
  cases waits.own
  have awaited : (answering.awaiting 1).map (fun waiting => waiting.2.reply.token) = some 0 := by decide +kernel
  exact Option.map_eq_some_iff.mp awaited

theorem answeredGate_careful :
    ∀ visit ∈ visits (step always) oneGate answeredGate, visit.1.Careful visit.2 := by
  refine careful_cons (fun n render token waits => ?_) ?_
  · cases waits.found
  refine careful_cons (fun _ _ _ _ => ⟨id,False.elim⟩) ?_
  refine careful_cons (fun _ _ _ _ => ⟨id,False.elim⟩) ?_
  refine careful_cons trivial ?_
  refine careful_cons (fun render found _ _ => ?_) ?_
  · have rendered : (run (step always) oneGate (answeredGate.take 4)).renders.get 0 = some ⟨0,some 0,.bound⟩ := by
      decide +kernel
    cases found.symm.trans rendered
    exact ⟨by decide +kernel,by decide +kernel,by decide +kernel⟩
  refine careful_cons (fun _ _ _ _ => ⟨id,False.elim⟩) ?_
  refine careful_cons trivial ?_
  refine careful_cons trivial ?_
  refine careful_cons answering_minds ?_
  intro visit member
  cases member

/-- The gate is answered, and its entry is not there any more for anyone. -/
theorem answeredGate_retires : Retires always (run (step always) oneGate answeredGate) :=
  (gates_answered_once_and_retired always (by decide) (fun _ => [6]) (fun _ => true) answeredGate).2 answeredGate_careful

end GjcRemote.GatePresentations
