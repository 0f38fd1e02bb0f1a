import GjcRemote.GateHeld
import GjcRemote.GateNumbers
import GjcRemote.GatePresentations

/-! What holds in every run of the bot: an entry has one render, and one answer on its way at most, which
its user began on its message; an entry that is terminal stays so. -/
namespace GjcRemote.GatePresentations

open Utf16 OrderedMap
open HostInvoke (Registry Config Transport Call Notice AnswerResult PresentationResult)
open GateAnswer

structure Safe (b : Bot) : Prop where
  registry : HostInvoke.Sound none none b.registry
  numbered : b.store.Numbered
  busy : ∀ k delivery, b.deliveries.get k = some delivery →
    b.store.Busy delivery.reply.token ∧ delivery.reply.token < b.store.drawn
  single : ∀ k k' delivery delivery', b.deliveries.get k = some delivery → b.deliveries.get k' = some delivery' →
    delivery.reply.token = delivery'.reply.token → k = k'
  started : ∀ k delivery, b.deliveries.get k = some delivery → k < b.started
  renders : ∀ n render, b.renders.get n = some render →
    n < b.registry.presented ∧ ∀ token ∈ render.token, token < b.store.drawn
  unique : ∀ n n' render render' token, b.renders.get n = some render → b.renders.get n' = some render' →
    render.token = some token → render'.token = some token → n = n'
  owned : ∀ token entry, b.store.entries.get token = some entry →
    ∃ n render, b.renders.get n = some render ∧ render.token = some token ∧ entry.userId = b.users render.pending

structure Goes (b b' : Bot) : Prop where
  later : b.store.Later b'.store
  users : b'.users = b.users
  deliveries : ∀ k delivery, b'.deliveries.get k = some delivery →
    ∃ before, b.deliveries.get k = some before ∧ before.reply = delivery.reply ∧ before.entry = delivery.entry

theorem Goes.refl (b : Bot) : Goes b b := ⟨.refl _,rfl,fun _ delivery found => ⟨delivery,found,rfl,rfl⟩⟩

theorem Goes.trans (first : Goes b b') (second : Goes b' b'') : Goes b b'' := by
  refine ⟨first.later.trans second.later,second.users.trans first.users,fun k delivery found => ?_⟩
  obtain ⟨middle,there,reply,entry⟩ := second.deliveries k delivery found
  obtain ⟨before,there',reply',entry'⟩ := first.deliveries k middle there
  exact ⟨before,there',reply'.trans reply,entry'.trans entry⟩

section Store

variable {b : Bot}

/-- The entries move on, and those that an answer is on its way for stay busy. -/
theorem Safe.move (safe : Safe b) (moves : b.store.Moves store)
    (busy : ∀ k delivery, b.deliveries.get k = some delivery → store.Busy delivery.reply.token) :
    Safe {b with store := store} := by
  refine ⟨safe.registry,moves.numbered safe.numbered,fun k delivery found => ⟨busy k delivery found,?_⟩,safe.single,
    safe.started,fun n render found => ⟨(safe.renders n render found).1,fun token there => ?_⟩,safe.unique,?_⟩
  · rw [moves.drawn]
    exact (safe.busy k delivery found).2
  · rw [moves.drawn]
    exact (safe.renders n render found).2 token there
  · intro token entry found
    have below := ((moves.numbered safe.numbered).tokens token entry found).2
    rw [moves.drawn] at below
    obtain ⟨before,there,shown,-⟩ := moves.later.entry token entry found below
    obtain ⟨n,render,rendered,own,user⟩ := safe.owned token before there
    exact ⟨n,render,rendered,own,(congrArg Shown.userId shown).trans user⟩

theorem goes_store (later : b.store.Later store) : Goes b {b with store := store} :=
  ⟨later,rfl,fun _ delivery found => ⟨delivery,found,rfl,rfl⟩⟩

/-- One entry changes that no answer is on its way for, or it ends. -/
theorem Safe.change (safe : Safe b)
    (changes : b.store.Changes store token entry entry') (idle : entry.state ≠ .answering) :
    Safe {b with store := store} :=
  safe.move changes.moves fun k delivery found => changes.busy (safe.busy k delivery found).1 fun _ => .inl idle

theorem Safe.retire (safe : Safe b) (token : Nat) (state : State) :
    Safe {b with store := b.store.retire token state} :=
  safe.move (retire_moves b.store token state) fun k delivery found => retire_busy (safe.busy k delivery found).1 token state

/-- A render goes on. -/
theorem Safe.setRender (safe : Safe b) (found : b.renders.get n = some render)
    (phase : Phase) : Safe (b.setRender n {render with phase := phase}) := by
  have before (n' : Nat) (render' : Render)
      (there : (b.renders.set n {render with phase := phase}).get n' = some render') :
      ∃ old, b.renders.get n' = some old ∧ old.pending = render'.pending ∧ old.token = render'.token := by
    rw [get_set] at there
    split at there
    · next same =>
      cases there
      exact ⟨render,same ▸ found,rfl,rfl⟩
    · exact ⟨render',there,rfl,rfl⟩
  refine ⟨safe.registry,safe.numbered,safe.busy,safe.single,safe.started,fun n' render' there => ?_,?_,?_⟩
  · obtain ⟨old,there',-,token⟩ := before n' render' there
    rw [← token]
    exact safe.renders n' old there'
  · intro n₁ n₂ render₁ render₂ token there₁ there₂ own₁ own₂
    obtain ⟨old₁,there₁',-,token₁⟩ := before n₁ render₁ there₁
    obtain ⟨old₂,there₂',-,token₂⟩ := before n₂ render₂ there₂
    exact safe.unique n₁ n₂ old₁ old₂ token there₁' there₂' (token₁.trans own₁) (token₂.trans own₂)
  · intro token entry there
    obtain ⟨n',old,there',own,user⟩ := safe.owned token entry there
    by_cases same : n' = n
    · subst same
      rw [found] at there'
      cases there'
      exact ⟨n',_,get_set_self _ _ _,own,user⟩
    · exact ⟨n',old,(get_set_ne _ _ same).trans there',own,user⟩

theorem goes_setRender (n : Nat) (render : Render) : Goes b (b.setRender n render) :=
  ⟨.refl _,rfl,fun _ delivery found => ⟨delivery,found,rfl,rfl⟩⟩

end Store

section Reactions

variable {b : Bot}

theorem tell_moves (b : Bot) (notice : Notice) : b.store.Moves (b.tell notice).store := by
  unfold Bot.tell
  cases b.handle notice.presentation with
  | none => exact .refl _
  | some token => exact updateState_moves _ _ _

theorem Safe.tell (safe : Safe b) (notice : Notice) : Safe (b.tell notice) := by
  refine safe.move (tell_moves b notice) fun k delivery found => ?_
  have busy := (safe.busy k delivery found).1
  cases b.handle notice.presentation with
  | none => exact busy
  | some token => exact updateState_busy busy token notice.text

/-- The store after an answer, and the entry that it leaves. -/
theorem finish_moves (b : Bot) (k : Nat) (delivery : Delivery) (accepted : Bool) :
    b.store.Moves (b.finish k delivery accepted).store ∧
      (∀ t ≠ delivery.reply.token, b.store.Busy t → (b.finish k delivery accepted).store.Busy t) := by
  simp only [Bot.finish]
  cases ended : (if accepted then b.store.completeAnswer delivery.reply.token
      else b.store.rejectAnswer delivery.reply.token) with
  | none => exact ⟨updateState_moves _ _ _,fun t _ busy => updateState_busy busy _ _⟩
  | some store =>
    have changes : ∃ entry entry', b.store.Changes store delivery.reply.token entry entry' := by
      cases accepted with
      | true =>
        obtain ⟨entry,-,changes⟩ := @endAnswer_changes _ _ _ .answered ended
        exact ⟨_,_,changes⟩
      | false =>
        obtain ⟨entry,-,changes⟩ := @endAnswer_changes _ _ _ .answerable ended
        exact ⟨_,_,changes⟩
    obtain ⟨entry,entry',changes⟩ := changes
    refine ⟨changes.moves.trans (updateState_moves _ _ _),fun t other busy => updateState_busy ?_ _ _⟩
    exact changes.busy busy fun same => absurd same other

theorem Safe.finish (safe : Safe b) (there : b.deliveries.get k = some delivery)
    (accepted : Bool) : Safe (b.finish k delivery accepted) := by
  obtain ⟨moves,busy⟩ := finish_moves b k delivery accepted
  have left (k' : Nat) (other : Delivery) (found : (b.deliveries.delete k).get k' = some other) :
      k' ≠ k ∧ b.deliveries.get k' = some other := get_delete_eq_some.mp found
  have dropped : Safe {b with deliveries := b.deliveries.delete k} :=
    ⟨safe.registry,safe.numbered,fun k' other found => safe.busy k' other (left k' other found).2,
      fun k₁ k₂ d₁ d₂ found₁ found₂ => safe.single k₁ k₂ d₁ d₂ (left k₁ d₁ found₁).2 (left k₂ d₂ found₂).2,
      fun k' other found => safe.started k' other (left k' other found).2,safe.renders,safe.unique,safe.owned⟩
  refine dropped.move moves fun k' other found => ?_
  obtain ⟨apart,found'⟩ := left k' other found
  exact busy _ (fun same => apart (safe.single k' k other delivery found' there same)) (safe.busy k' other found').1

theorem finish_goes (b : Bot) (k : Nat) (delivery : Delivery) (accepted : Bool) :
    Goes b (b.finish k delivery accepted) :=
  ⟨(finish_moves b k delivery accepted).1.later,rfl,
    fun _ other found => ⟨other,(get_delete_eq_some.mp found).2,rfl,rfl⟩⟩

theorem awaiting_found (awaits : b.awaiting answerId = some waiting) :
    b.deliveries.get waiting.1 = some waiting.2 :=
  get_eq_some.mpr (List.mem_of_find?_eq_some awaits)

theorem Safe.settle (safe : Safe b) (answer : Nat × AnswerResult) : Safe (b.settle answer) := by
  unfold Bot.settle
  split
  · exact safe
  next waiting awaits => exact safe.finish (awaiting_found awaits) _

theorem settle_goes (b : Bot) (answer : Nat × AnswerResult) : Goes b (b.settle answer) := by
  unfold Bot.settle
  split
  · exact .refl b
  next waiting _ => exact finish_goes b _ _ _

/-- A list of reactions is safe when each is. -/
theorem foldl_safe {α : Type} {act : Bot → α → Bot} (keeps : ∀ b a, Safe b → Safe (act b a)) (safe : Safe b)
    (items : List α) : Safe (items.foldl act b) := by
  induction items generalizing b with
  | nil => exact safe
  | cons a rest ih => exact ih (keeps b a safe)

theorem foldl_goes {α : Type} {act : Bot → α → Bot} (goes : ∀ b a, Goes b (act b a)) (b : Bot) (items : List α) :
    Goes b (items.foldl act b) := by
  induction items generalizing b with
  | nil => exact .refl b
  | cons a rest ih => exact (goes b a).trans (ih (act b a))

theorem Safe.react (safe : Safe b) (heard : Nat) : Safe (b.react heard) :=
  foldl_safe (fun _ answer safe => safe.settle answer) safe _

theorem react_goes (b : Bot) (heard : Nat) : Goes b (b.react heard) := foldl_goes settle_goes b _

theorem tell_goes (b : Bot) (notice : Notice) : Goes b (b.tell notice) := goes_store (tell_moves b notice).later

/-- The registry goes on. -/
theorem Safe.goOn (safe : Safe b) {registry : Registry} (sound : HostInvoke.Sound none none registry)
    (counted : b.registry.presented ≤ registry.presented) : Safe {b with registry := registry} :=
  ⟨sound,safe.numbered,safe.busy,safe.single,safe.started,
    fun n render found => ⟨Nat.lt_of_lt_of_le (safe.renders n render found).1 counted,(safe.renders n render found).2⟩,
    safe.unique,safe.owned⟩

theorem goes_registry (registry : Registry) : Goes b {b with registry := registry} :=
  ⟨.refl _,rfl,fun _ delivery found => ⟨delivery,found,rfl,rfl⟩⟩

variable (cfg : Config)

theorem Safe.perform (safe : Safe b) (call : Call) : Safe (b.perform cfg call) := by
  have stepped := safe.goOn (HostInvoke.step_sound cfg safe.registry call) (HostInvoke.step_presented_le cfg b.registry call)
  exact Safe.react (foldl_safe (fun _ notice safe => safe.tell notice) stepped _) _

theorem perform_goes (b : Bot) (call : Call) : Goes b (b.perform cfg call) :=
  ((goes_registry _).trans (foldl_goes tell_goes _ _)).trans (react_goes _ _)

end Reactions

section Frames

variable (b : Bot)

theorem settle_frame (answer : Nat × AnswerResult) :
    (b.settle answer).registry = b.registry ∧ (b.settle answer).renders = b.renders := by
  unfold Bot.settle
  split
  · exact ⟨rfl,rfl⟩
  · exact ⟨rfl,rfl⟩

theorem settles_frame (answers : List (Nat × AnswerResult)) :
    (answers.foldl Bot.settle b).registry = b.registry ∧ (answers.foldl Bot.settle b).renders = b.renders := by
  induction answers generalizing b with
  | nil => exact ⟨rfl,rfl⟩
  | cons answer rest ih =>
    obtain ⟨registry,renders⟩ := ih (b.settle answer)
    exact ⟨registry.trans (settle_frame b answer).1,renders.trans (settle_frame b answer).2⟩

theorem tells_frame (notices : List Notice) :
    (notices.foldl Bot.tell b).registry = b.registry ∧ (notices.foldl Bot.tell b).renders = b.renders ∧
      (notices.foldl Bot.tell b).deliveries = b.deliveries := by
  induction notices generalizing b with
  | nil => exact ⟨rfl,rfl,rfl⟩
  | cons notice rest ih => exact ih (b.tell notice)

theorem perform_frame (cfg : Config) (call : Call) :
    (b.perform cfg call).registry = (HostInvoke.step cfg b.registry call).1 ∧
      (b.perform cfg call).renders = b.renders := by
  obtain ⟨registry,renders⟩ := settles_frame ((HostInvoke.stepNotices cfg b.registry call).foldl Bot.tell
    {b with registry := (HostInvoke.step cfg b.registry call).1}) _
  obtain ⟨registry',renders',-⟩ := tells_frame {b with registry := (HostInvoke.step cfg b.registry call).1}
    (HostInvoke.stepNotices cfg b.registry call)
  exact ⟨registry.trans registry',renders.trans renders'⟩

end Frames

section Steps

variable {b : Bot} {cfg : Config}

/-- A render that has no channel fails before it has an entry. -/
theorem Safe.unavailable (safe : Safe b) (drawn : number < b.registry.presented)
    (new : b.renders.get number = none) (p : Nat) : Safe (b.setRender number ⟨p,none,.failing⟩) := by
  have before (n : Nat) (render : Render) (token : Nat) (own : render.token = some token)
      (there : (b.renders.set number ⟨p,none,.failing⟩).get n = some render) : b.renders.get n = some render := by
    rw [get_set] at there
    split at there
    · cases there
      cases own
    · exact there
  refine ⟨safe.registry,safe.numbered,safe.busy,safe.single,safe.started,fun n render there => ?_,
    fun n n' render render' token there there' own own' => ?_,fun token entry found => ?_⟩
  · rw [Bot.setRender,get_set] at there
    split at there
    · next same =>
      cases there
      exact ⟨same ▸ drawn,fun token own => by cases own⟩
    · exact safe.renders n render there
  · exact safe.unique n n' render render' token (before n render token own there) (before n' render' token own' there')
      own own'
  · obtain ⟨n,render,there,own,user⟩ := safe.owned token entry found
    refine ⟨n,render,(get_set_ne _ _ ?_).trans there,own,user⟩
    rintro rfl
    rw [new] at there
    cases there

/-- The number of a presentation that is new is that of no render. -/
theorem Safe.render (safe : Safe b) (drawn : number < b.registry.presented)
    (new : b.renders.get number = none) (p : Nat) (gateId presentationId : Units) :
    Safe (b.render number p gateId presentationId) := by
  unfold Bot.render
  split
  swap
  · exact safe.unavailable drawn new p
  simp only [Bot.setRender]
  generalize shows : (⟨(b.registry.pendings p).hostId,(b.registry.pendings p).requestId,gateId,presentationId,b.users p⟩ : Shown) = shown
  have user : shown.userId = b.users p := by rw [← shows]
  have later : b.store.Later (b.store.create shown).1 := create_later
  generalize (if (b.store.create shown).2.isSome then Phase.sending else Phase.failing) = phase
  have before (n : Nat) (render : Render)
      (there : (b.renders.set number ⟨p,(b.store.create shown).2,phase⟩).get n = some render) :
      n = number ∧ render = ⟨p,(b.store.create shown).2,phase⟩ ∨ b.renders.get n = some render := by
    rw [get_set] at there
    split at there
    · next same =>
      cases there
      exact .inl ⟨same,rfl⟩
    · exact .inr there
  have fresh (token : Nat) (created : (b.store.create shown).2 = some token) : token = b.store.drawn ∧
      (b.store.create shown).1.drawn = b.store.drawn + 1 := by
    obtain ⟨own,drawn,-⟩ := create_some created
    exact ⟨own,drawn⟩
  refine ⟨safe.registry,create_numbered safe.numbered,fun k delivery found => ?_,safe.single,safe.started,
    fun n render there => ?_,?_,?_⟩
  · obtain ⟨busy,below⟩ := safe.busy k delivery found
    exact ⟨create_busy busy below,Nat.lt_of_lt_of_le below later.drawn⟩
  · rcases before n render there with ⟨rfl,rfl⟩ | old
    · refine ⟨drawn,fun token own => ?_⟩
      have drew := fresh token own
      simp only
      omega
    · exact ⟨(safe.renders n render old).1,
        fun token own => Nat.lt_of_lt_of_le ((safe.renders n render old).2 token own) later.drawn⟩
  · intro n n' render render' token there there' own own'
    rcases before n render there with ⟨rfl,rfl⟩ | old
    · rcases before n' render' there' with ⟨rfl,rfl⟩ | old'
      · rfl
      · have below := (safe.renders n' render' old').2 token own'
        rw [(fresh token own).1] at below
        exact absurd below (Nat.lt_irrefl _)
    · rcases before n' render' there' with ⟨rfl,rfl⟩ | old'
      · have below := (safe.renders n render old).2 token own
        rw [(fresh token own').1] at below
        exact absurd below (Nat.lt_irrefl _)
      · exact safe.unique n n' render render' token old old' own own'
  · intro token entry found
    rcases create_entry found with old | created
    · obtain ⟨n,render,there,own,user⟩ := safe.owned token entry old
      refine ⟨n,render,?_,own,user⟩
      refine (get_set_ne _ _ ?_).trans there
      rintro rfl
      rw [new] at there
      cases there
    · obtain ⟨-,-,-,entries⟩ := create_some created
      rw [entries,get_set_self] at found
      cases found
      exact ⟨number,_,get_set_self _ _ _,created,user⟩

theorem render_goes (b : Bot) (number p : Nat) (gateId presentationId : Units) :
    Goes b (b.render number p gateId presentationId) := by
  unfold Bot.render
  split
  · exact ⟨create_later,rfl,fun _ delivery found => ⟨delivery,found,rfl,rfl⟩⟩
  · exact ⟨.refl _,rfl,fun _ delivery found => ⟨delivery,found,rfl,rfl⟩⟩

theorem Safe.sendSettles (safe : Safe b) (number : Nat) (sent : Option Units) : Safe (b.sendSettles number sent) := by
  unfold Bot.sendSettles
  split
  · exact safe
  next render found =>
  split
  · next token _ _ =>
    split
    · next store bound =>
      obtain ⟨messageId,-,bound⟩ := Option.bind_eq_some_iff.mp bound
      obtain ⟨entry,presenting,changes⟩ := bindMessage_changes bound
      have idle : entry.state ≠ .answering := by simp [presenting]
      exact (safe.change changes idle).setRender found .bound
    · exact (safe.retire token .expired).setRender found .failing
  · exact safe

theorem sendSettles_goes (b : Bot) (number : Nat) (sent : Option Units) : Goes b (b.sendSettles number sent) := by
  unfold Bot.sendSettles
  split
  · exact .refl b
  split
  · split
    · next store bound =>
      obtain ⟨messageId,-,bound⟩ := Option.bind_eq_some_iff.mp bound
      obtain ⟨entry,-,changes⟩ := bindMessage_changes bound
      exact (goes_store changes.later).trans (goes_setRender _ _)
    · exact (goes_store (retire_moves _ _ _).later).trans (goes_setRender _ _)
  · exact .refl b

theorem Safe.renderSettles (safe : Safe b) (number : Nat) (net : Transport) : Safe (b.renderSettles cfg number net) := by
  unfold Bot.renderSettles
  split
  · exact safe
  next render found =>
  split
  · exact (safe.setRender found .handed).perform cfg _
  · exact (safe.setRender found .ended).perform cfg _
  · exact safe

theorem renderSettles_goes (b : Bot) (number : Nat) (net : Transport) : Goes b (b.renderSettles cfg number net) := by
  unfold Bot.renderSettles
  split
  · exact .refl b
  split
  · exact (goes_setRender _ _).trans (perform_goes cfg _ _)
  · exact (goes_setRender _ _).trans (perform_goes cfg _ _)
  · exact .refl b

theorem Safe.gateRequest (safe : Safe b) (socket : Nat) (requestId gateId presentationId : Units)
    (presenterThrows : Bool) (net : Transport) :
    Safe (b.gateRequest cfg socket requestId gateId presentationId presenterThrows net) := by
  unfold Bot.gateRequest
  split
  · exact safe.perform cfg _
  next p presents =>
  split
  · exact safe.perform cfg _
  refine Safe.render (safe.perform cfg _) ?_ ?_ p gateId presentationId
  · rw [(perform_frame b cfg _).1]
    exact Nat.lt_of_lt_of_le (Nat.lt_succ_self _)
      (Nat.le_of_eq (HostInvoke.gateRequest_presented cfg net presents presenterThrows).symm)
  · rw [(perform_frame b cfg _).2,get_eq_none,mem_keys]
    rintro ⟨render,there⟩
    exact Nat.lt_irrefl _ (safe.renders _ render there).1

theorem gateRequest_goes (b : Bot) (socket : Nat) (requestId gateId presentationId : Units) (presenterThrows : Bool)
    (net : Transport) : Goes b (b.gateRequest cfg socket requestId gateId presentationId presenterThrows net) := by
  unfold Bot.gateRequest
  split
  · exact perform_goes cfg b _
  split
  · exact perform_goes cfg b _
  · exact (perform_goes cfg b _).trans (render_goes _ _ _ _ _)

theorem activated (activates : (b.handle number).bind b.store.activate = some store) :
    ∃ token entry, entry.state = .presenting ∧
      b.store.Changes store token entry {entry with state := .answerable} := by
  obtain ⟨token,-,activates⟩ := Option.bind_eq_some_iff.mp activates
  obtain ⟨entry,presenting,changes⟩ := activate_changes activates
  exact ⟨token,entry,presenting,changes⟩

theorem Safe.presentationResult (safe : Safe b) (socket : Nat) (msg : PresentationResult) (net : Transport) :
    Safe (b.presentationResult cfg socket msg net) := by
  unfold Bot.presentationResult
  split
  · exact safe.perform cfg _
  split
  · exact safe.perform cfg _
  next store activates =>
  obtain ⟨token,entry,presenting,changes⟩ := activated activates
  have idle : entry.state ≠ .answering := by simp [presenting]
  exact (safe.change changes idle).perform cfg _

theorem presentationResult_goes (b : Bot) (socket : Nat) (msg : PresentationResult) (net : Transport) :
    Goes b (b.presentationResult cfg socket msg net) := by
  unfold Bot.presentationResult
  split
  · exact perform_goes cfg b _
  split
  · exact perform_goes cfg b _
  next store activates =>
  obtain ⟨token,entry,-,changes⟩ := activated activates
  exact (goes_store changes.later).trans (perform_goes cfg _ _)

theorem Safe.host (safe : Safe b) (call : Call) : Safe (b.host cfg call) := by
  unfold Bot.host
  split
  · exact safe.gateRequest _ _ _ _ _ _
  · exact safe.presentationResult _ _ _
  · exact safe
  · exact safe
  · exact safe
  · exact safe.perform cfg call

theorem host_goes (b : Bot) (call : Call) : Goes b (b.host cfg call) := by
  unfold Bot.host
  split
  · exact gateRequest_goes b _ _ _ _ _ _
  · exact presentationResult_goes b _ _ _
  · exact .refl b
  · exact .refl b
  · exact .refl b
  · exact perform_goes cfg b call

/-- A delivery of an answer gets its identifier. -/
theorem Safe.await (safe : Safe b) (found : b.deliveries.get k = some delivery) (answerId : Option Nat) :
    Safe {b with deliveries := b.deliveries.set k {delivery with answerId := answerId}} := by
  have before (k' : Nat) (other : Delivery)
      (there : (b.deliveries.set k {delivery with answerId := answerId}).get k' = some other) :
      ∃ old, b.deliveries.get k' = some old ∧ old.reply = other.reply := by
    rw [get_set] at there
    split at there
    · next same =>
      cases there
      exact ⟨delivery,same ▸ found,rfl⟩
    · exact ⟨other,there,rfl⟩
  refine ⟨safe.registry,safe.numbered,fun k' other there => ?_,?_,fun k' other there => ?_,safe.renders,safe.unique,
    safe.owned⟩
  · obtain ⟨old,there',reply⟩ := before k' other there
    rw [← reply]
    exact safe.busy k' old there'
  · intro k₁ k₂ d₁ d₂ there₁ there₂ same
    obtain ⟨old₁,there₁',reply₁⟩ := before k₁ d₁ there₁
    obtain ⟨old₂,there₂',reply₂⟩ := before k₂ d₂ there₂
    rw [← reply₁,← reply₂] at same
    exact safe.single k₁ k₂ old₁ old₂ there₁' there₂' same
  · obtain ⟨old,there',-⟩ := before k' other there
    exact safe.started k' old there'

theorem goes_await (found : b.deliveries.get k = some delivery) (answerId : Option Nat) :
    Goes b {b with deliveries := b.deliveries.set k {delivery with answerId := answerId}} := by
  refine ⟨.refl _,rfl,fun k' other there => ?_⟩
  rw [get_set] at there
  split at there
  · next same =>
    cases there
    exact ⟨delivery,same ▸ found,rfl,rfl⟩
  · exact ⟨other,there,rfl,rfl⟩

theorem Safe.delivers (safe : Safe b) (k : Nat) (sendable : Bool) (net : Transport) :
    Safe (b.delivers k sendable net) := by
  unfold Bot.delivers
  split
  · exact safe
  next delivery found =>
  split
  · exact safe
  have asked : Safe {b with registry := (b.registry.answerGate net delivery.entry.hostId delivery.entry.requestId
      delivery.entry.gateId delivery.entry.presentationId sendable).1} :=
    safe.goOn (safe.registry.answerGate _ _ _ _ _) (Nat.le_of_eq (HostInvoke.answerGate_presented net _ _ _ _ _ _).symm)
  simp only
  split
  · exact (asked.await found _).react _
  · exact asked.finish found false

theorem delivers_goes (b : Bot) (k : Nat) (sendable : Bool) (net : Transport) : Goes b (b.delivers k sendable net) := by
  unfold Bot.delivers
  split
  · exact .refl b
  next delivery found =>
  split
  · exact .refl b
  simp only
  split
  · next answerId _ =>
    refine Goes.trans ?_ (react_goes _ _)
    exact (goes_await found (some answerId)).trans (goes_registry _)
  · exact (goes_registry _).trans (finish_goes _ _ _ _)

theorem Safe.replies (safe : Safe b) (reply : Reply) : Safe (b.replies reply) := by
  unfold Bot.replies
  split
  swap
  · exact safe
  next entry store found begun =>
  obtain ⟨entry',answers,changes⟩ := beginAnswer_changes begun
  have idle : entry'.state ≠ .answering := by simp [answers.state]
  have moved := safe.change changes idle
  have unanswered (k : Nat) (delivery : Delivery) (there : b.deliveries.get k = some delivery) :
      delivery.reply.token ≠ reply.token := by
    intro same
    rcases (safe.busy k delivery there).1 entry' (same ▸ changes.found) with answering | terminal
    · exact idle answering
    · rw [changes.live] at terminal
      cases terminal
  have before (k : Nat) (delivery : Delivery)
      (there : (b.deliveries.set b.started ⟨reply,entry,none⟩).get k = some delivery) :
      k = b.started ∧ delivery = ⟨reply,entry,none⟩ ∨ b.deliveries.get k = some delivery := by
    rw [get_set] at there
    split at there
    · next same =>
      cases there
      exact .inl ⟨same,rfl⟩
    · exact .inr there
  refine ⟨safe.registry,moved.numbered,fun k delivery there => ?_,?_,fun k delivery there => ?_,moved.renders,
    safe.unique,moved.owned⟩
  · rcases before k delivery there with ⟨-,rfl⟩ | old
    · refine ⟨fun e there' => ?_,?_⟩
      · rw [changes.get,if_pos rfl] at there'
        cases there'
        exact .inl rfl
      · rw [changes.drawn]
        exact (safe.numbered.tokens _ _ changes.found).2
    · exact moved.busy k delivery old
  · intro k k' delivery delivery' there there' same
    rcases before k delivery there with ⟨rfl,rfl⟩ | old
    · rcases before k' delivery' there' with ⟨rfl,rfl⟩ | old'
      · rfl
      · exact absurd same.symm (unanswered k' delivery' old')
    · rcases before k' delivery' there' with ⟨rfl,rfl⟩ | old'
      · exact absurd same (unanswered k delivery old)
      · exact safe.single k k' delivery delivery' old old' same
  · rcases before k delivery there with ⟨rfl,-⟩ | old
    · exact Nat.lt_succ_self _
    · exact Nat.lt_succ_of_lt (safe.started k delivery old)

end Steps

section Runs

variable {b : Bot} (cfg : Config)

theorem next_safe (safe : Safe b) (event : Event) : Safe (b.next cfg event) := by
  cases event with
  | host call => exact safe.host call
  | sendSettles number sent => exact safe.sendSettles number sent
  | renderSettles number net => exact safe.renderSettles number net
  | replies reply => exact safe.replies reply
  | delivers k sendable net => exact safe.delivers k sendable net

/-- The entry that a reply finds admits its answer: the user of the gate's request replies on its
message. -/
structure Began (b : Bot) (delivery : Delivery) : Prop where
  found : b.store.entries.get delivery.reply.token = some delivery.entry
  answers : Answers delivery.entry delivery.reply
  initiator : ∃ n render, b.renders.get n = some render ∧ render.token = some delivery.reply.token ∧
    delivery.reply.userId = b.users render.pending

theorem replies_began (safe : Safe b) (there : (b.replies reply).deliveries.get k = some delivery) :
    b.deliveries.get k = some delivery ∨ reply = delivery.reply ∧ Began b delivery := by
  unfold Bot.replies at there
  split at there
  swap
  · exact .inl there
  next entry store found begun =>
  simp only [get_set] at there
  split at there
  swap
  · exact .inl there
  cases there
  obtain ⟨entry',answers,changes⟩ := beginAnswer_changes begun
  rw [changes.found] at found
  cases found
  obtain ⟨n,render,rendered,own,user⟩ := safe.owned _ _ changes.found
  exact .inr ⟨rfl,changes.found,answers,n,render,rendered,own,answers.user.symm.trans user⟩

theorem replies_later (b : Bot) (reply : Reply) : b.store.Later (b.replies reply).store := by
  unfold Bot.replies
  split
  · next entry store found begun =>
    obtain ⟨entry',-,changes⟩ := beginAnswer_changes begun
    exact changes.later
  · exact .refl _

theorem next_later (b : Bot) (event : Event) : b.store.Later (b.next cfg event).store := by
  cases event with
  | host call => exact (host_goes b call).later
  | sendSettles number sent => exact (sendSettles_goes b number sent).later
  | renderSettles number net => exact (renderSettles_goes b number net).later
  | replies reply => exact replies_later b reply
  | delivers k sendable net => exact (delivers_goes b k sendable net).later

/-- A step begins the answer of the reply that it is, and no other. -/
theorem next_began (safe : Safe b) (there : (b.next cfg event).deliveries.get k = some delivery) :
    (∃ before, b.deliveries.get k = some before ∧ before.reply = delivery.reply ∧ before.entry = delivery.entry) ∨
      event = .replies delivery.reply ∧ Began b delivery := by
  cases event with
  | host call => exact .inl ((host_goes b call).deliveries k delivery there)
  | sendSettles number sent => exact .inl ((sendSettles_goes b number sent).deliveries k delivery there)
  | renderSettles number net => exact .inl ((renderSettles_goes b number net).deliveries k delivery there)
  | replies reply =>
    rcases replies_began safe there with old | ⟨rfl,began⟩
    · exact .inl ⟨delivery,old,rfl,rfl⟩
    · exact .inr ⟨rfl,began⟩
  | delivers k' sendable net => exact .inl ((delivers_goes b k' sendable net).deliveries k delivery there)

theorem new_safe (maxEntries : Nat) (bounded : 1 ≤ maxEntries ∧ maxEntries ≤ 64) (users : Nat → Units)
    (channels : Nat → Bool) : Safe (.new maxEntries bounded users channels) := by
  refine ⟨HostInvoke.empty_sound,⟨fun t entry found => ?_⟩,fun k delivery found => ?_,fun k _ delivery _ found => ?_,
    fun k delivery found => ?_,fun n render found => ?_,fun n _ render _ _ found => ?_,fun t entry found => ?_⟩
  · cases found
  · cases found
  · cases found
  · cases found
  · cases found
  · cases found
  · cases found

theorem run_safe (safe : Safe b) (events : List Event) : Safe (Runs.run (step cfg) b events) :=
  @Runs.run_invariant _ _ _ (step cfg) Safe (fun _ event safe => next_safe cfg safe event) _ safe events

/-- The answers that are on their way after a run began in it, or they were there. -/
theorem run_began (safe : Safe b) (events : List Event)
    (there : (Runs.run (step cfg) b events).deliveries.get k = some delivery) :
    (∃ before, b.deliveries.get k = some before ∧ before.reply = delivery.reply ∧ before.entry = delivery.entry) ∨
      ∃ visit ∈ Runs.visits (step cfg) b events, visit.2 = .replies delivery.reply ∧ Began visit.1 delivery := by
  induction events generalizing b with
  | nil => exact .inl ⟨delivery,there,rfl,rfl⟩
  | cons event rest ih =>
    rcases ih (next_safe cfg safe event) there with ⟨middle,there',reply,entry⟩ | ⟨visit,member,began⟩
    · rcases next_began cfg safe there' with ⟨before,there'',reply',entry'⟩ | ⟨same,began⟩
      · exact .inl ⟨before,there'',reply'.trans reply,entry'.trans entry⟩
      · refine .inr ⟨(b,event),List.mem_cons_self,same.trans (congrArg Event.replies reply),?_⟩
        obtain ⟨found,answers,initiator⟩ := began
        rw [reply,entry] at found answers
        rw [reply] at initiator
        exact ⟨found,answers,initiator⟩
    · exact .inr ⟨visit,List.mem_cons_of_mem _ member,began⟩

end Runs

end GjcRemote.GatePresentations
