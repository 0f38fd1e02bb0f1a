import GjcRemote.GateAnswer
import GjcRemote.GateNotices

/-! The bot that shows gates in Discord: the registry with `renderGatePresentation` of
`bot/src/gate-presentation.js` as its gate presenter, over one store, and `deliverGateAnswer` of
`bot/src/gate-answer.js` for the replies and the clicks that `bot/src/bot.js` passes on. One step is one
callback of the runtime with the reactions to the promises that it settles. Left out are the contents
of the messages, and their edits, which change no state. -/
namespace GjcRemote.GatePresentations

open Utf16
open HostInvoke (Registry Config Transport Call Notice AnswerResult PresentationResult stepNotices)
open GjcRemote.GateAnswer (Store Entry Reply)

/-- A render sends its message, then the registry hears of its handle, or that it failed. -/
inductive Phase where
  | sending | failing | bound | handed | ended
  deriving DecidableEq

/-- A call of `renderGatePresentation` for the gate of a request. -/
structure Render where
  pending : Nat
  /-- The token of its entry, when the store had room. -/
  token : Option Nat
  phase : Phase
  deriving DecidableEq

/-- The registry has not heard of a handle yet, and there may be one. -/
def Render.inFlight (render : Render) : Bool := render.phase = .sending || render.phase = .bound

/-- A call of `deliverGateAnswer` that began its answer: the entry is the one that it found. -/
structure Delivery where
  reply : Reply
  entry : Entry
  answerId : Option Nat

structure Bot where
  registry : Registry
  store : Store
  /-- The user that initiates an invoke. -/
  users : Nat → Units
  /-- By the number of the presentation: there is a channel that can send its message. -/
  channels : Nat → Bool
  /-- By the number of the presentation. -/
  renders : OrderedMap Nat Render
  deliveries : OrderedMap Nat Delivery
  started : Nat

def Bot.new (maxEntries : Nat) (bounded : 1 ≤ maxEntries ∧ maxEntries ≤ 64) (users : Nat → Units)
    (channels : Nat → Bool) : Bot :=
  ⟨.empty,.new maxEntries bounded,users,channels,.empty,.empty,0⟩

def Bot.handle (b : Bot) (number : Nat) : Option Nat :=
  (b.renders.get number).bind fun render => if render.phase = .handed then render.token else none

def Bot.tell (b : Bot) (notice : Notice) : Bot :=
  {b with store := (b.handle notice.presentation).elim b.store fun token => b.store.updateState token notice.text}

/-- The promise of `answerGate` settles. -/
def Bot.finish (b : Bot) (k : Nat) (delivery : Delivery) (accepted : Bool) : Bot :=
  let token := delivery.reply.token
  let ended := if accepted then b.store.completeAnswer token else b.store.rejectAnswer token
  let text := if accepted then "answered" else "rejected"
  {b with
    store := (ended.getD b.store).updateState token (ofString text),
    deliveries := b.deliveries.delete k}

def Bot.awaiting (b : Bot) (answerId : Nat) : Option (Nat × Delivery) :=
  b.deliveries.entries.find? fun e => e.2.answerId = some answerId

def Bot.settle (b : Bot) (answer : Nat × AnswerResult) : Bot :=
  match b.awaiting answer.1 with
  | none => b
  | some waiting => b.finish waiting.1 waiting.2 (answer.2 = .accepted)

/-- The answers that were settled meanwhile reach their deliveries. -/
def Bot.react (b : Bot) (heard : Nat) : Bot := (b.registry.answered.drop heard).foldl Bot.settle b

variable (cfg : Config)

/-- A callback of the registry: the handles hear its state texts. -/
def Bot.perform (b : Bot) (call : Call) : Bot :=
  let told := (stepNotices cfg b.registry call).foldl Bot.tell {b with registry := (HostInvoke.step cfg b.registry call).1}
  told.react b.registry.answered.length

def Bot.setRender (b : Bot) (number : Nat) (render : Render) : Bot :=
  {b with renders := b.renders.set number render}

/-- `renderGatePresentation` until its message is sent, or its failure: it has no channel, or the store has
no room. -/
def Bot.render (b : Bot) (number p : Nat) (gateId presentationId : Units) : Bot :=
  if b.channels number then
    let pending := b.registry.pendings p
    let created := b.store.create ⟨pending.hostId,pending.requestId,gateId,presentationId,b.users p⟩
    let phase := if created.2.isSome then Phase.sending else Phase.failing
    {b with store := created.1}.setRender number ⟨p,created.2,phase⟩
  else b.setRender number ⟨p,none,.failing⟩

/-- The message is sent and gets its identifier, or it is not sent. -/
def Bot.sendSettles (b : Bot) (number : Nat) (sent : Option Units) : Bot :=
  match b.renders.get number with
  | none => b
  | some render =>
    match render.phase,render.token with
    | .sending,some token =>
      match sent.bind (b.store.bindMessage token) with
      | some store => {b with store := store}.setRender number {render with phase := .bound}
      | none => {b with store := b.store.retire token .expired}.setRender number {render with phase := .failing}
    | _,_ => b

/-- The promise of the render settles: the registry hears of its handle, or of its failure. -/
def Bot.renderSettles (b : Bot) (number : Nat) (net : Transport) : Bot :=
  match b.renders.get number with
  | none => b
  | some render =>
    match render.phase with
    | .bound =>
      (b.setRender number {render with phase := .handed}).perform cfg ⟨.gateHandle render.pending number true,net⟩
    | .failing =>
      (b.setRender number {render with phase := .ended}).perform cfg ⟨.gateHandle render.pending number false,net⟩
    | _ => b

def Bot.gateRequest (b : Bot) (socket : Nat) (requestId gateId presentationId : Units) (presenterThrows : Bool)
    (net : Transport) : Bot :=
  let call : Call := ⟨.message socket (.gateRequest requestId gateId presentationId presenterThrows),net⟩
  match b.registry.presents socket requestId gateId presentationId with
  | none => b.perform cfg call
  | some p =>
    if presenterThrows then b.perform cfg call
    else (b.perform cfg call).render b.registry.presented p gateId presentationId

/-- An accepted presentation is activated, which fails when its entry is not presenting. -/
def Bot.presentationResult (b : Bot) (socket : Nat) (msg : PresentationResult) (net : Transport) : Bot :=
  let call (activateThrows : Bool) : Call := ⟨.message socket (.presentationResult msg activateThrows),net⟩
  match b.registry.activating socket msg with
  | none => b.perform cfg (call false)
  | some number =>
    match (b.handle number).bind b.store.activate with
    | none => b.perform cfg (call true)
    | some store => {b with store := store}.perform cfg (call false)

/-- A callback that neither the render nor the delivery of an answer causes. -/
def Bot.host (b : Bot) (call : Call) : Bot :=
  match call.event with
  | .message socket (.gateRequest requestId gateId presentationId presenterThrows) =>
    b.gateRequest cfg socket requestId gateId presentationId presenterThrows call.net
  | .message socket (.presentationResult msg _) => b.presentationResult cfg socket msg call.net
  | .answerGate _ _ _ _ _ => b
  | .gateHandle _ _ _ => b
  | .activateFails _ _ => b
  | _ => b.perform cfg call

/-- A reply or a click: its answer begins, unless the entry does not admit it. -/
def Bot.replies (b : Bot) (reply : Reply) : Bot :=
  match b.store.entries.get reply.token,b.store.beginAnswer reply with
  | some entry,some store =>
    {b with
      store := store,
      deliveries := b.deliveries.set b.started ⟨reply,entry,none⟩,
      started := b.started + 1}
  | _,_ => b

/-- After the edit of the message the answer reaches the registry. -/
def Bot.delivers (b : Bot) (k : Nat) (sendable : Bool) (net : Transport) : Bot :=
  match b.deliveries.get k with
  | none => b
  | some delivery =>
    if delivery.answerId.isSome then b
    else
      let entry := delivery.entry
      let asked := b.registry.answerGate net entry.hostId entry.requestId entry.gateId entry.presentationId sendable
      let b' := {b with registry := asked.1}
      match asked.2 with
      | .answering answerId =>
        {b' with deliveries := b'.deliveries.set k {delivery with answerId := some answerId}}.react
          b.registry.answered.length
      | _ => b'.finish k delivery false

inductive Event where
  | host (call : Call)
  | sendSettles (number : Nat) (sent : Option Units)
  | renderSettles (number : Nat) (net : Transport)
  | replies (reply : Reply)
  | delivers (delivery : Nat) (sendable : Bool) (net : Transport)

def Bot.next (b : Bot) : Event → Bot
  | .host call => b.host cfg call
  | .sendSettles number sent => b.sendSettles number sent
  | .renderSettles number net => b.renderSettles cfg number net
  | .replies reply => b.replies reply
  | .delivers k sendable net => b.delivers k sendable net

def step (b : Bot) (event : Event) : Bot × Unit := (b.next cfg event,())

end GjcRemote.GatePresentations
