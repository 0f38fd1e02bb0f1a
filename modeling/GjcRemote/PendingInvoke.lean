import GjcRemote.ManagedBindingRun
import Mathlib.Logic.Function.Basic

/-! Pending invokes of the bot, from `bot/src/host-registry.js`: the requests with their
counters, timers and cancellations, the presentation of gates, and the answers to them. One
step is one callback of the runtime. Sockets, pending requests and presentations are objects,
numbered in the order of their creation, and so are the identifiers that the registry draws.
An entry of a map that has a timer has it for as long as it is there. Left out are the
readiness, route and payload checks of an invoke, whose outcome the call brings, the
observability sink, the updates of a handle, and the remembered receipts of presentations
and abandonments: these only close sockets. -/
namespace GjcRemote.HostInvoke

open Utf16

def MAX_CANCEL_TOMBSTONES : Nat := 64
def MAX_GATE_PRESENTATION_ATTEMPTS : Nat := 64
def MAX_PENDING_PER_HOST : Nat := 64
def MAX_UINT53 : Nat := 9007199254740991
def OUTPUT_TRUNCATED_NOTICE : Units := ofString "[output truncated: too large]"
def CONNECTION_LOST : Units := ofString "CONNECTION_LOST"

inductive Disposition where
  | completed | failed | cancelled | paused | timedOut | disconnected
  deriving DecidableEq

inductive CancelReason where
  | idleTimeout | hardCap | disconnect | userCancelled | presentationFailed
  deriving DecidableEq

inductive CancelOutcome where
  | cancelledBeforeStart | cancellationPending | alreadyTerminal | notOwned
  deriving DecidableEq

inductive AbandonReason where
  | sendFailed | presentationTimeout | replaced | invokeTerminal | disconnected
  deriving DecidableEq

/-- The local outcomes of `interruptionUnconfirmedError`. -/
inductive Unconfirmed where
  | cancellationUnconfirmed | receiptTimeout | sendFailed | terminalTimeout | terminalConflict
  | outcome (outcome : CancelOutcome)
  deriving DecidableEq

inductive Result where
  | completed (text : Option Units)
  | terminal (disposition : Disposition) (code : Option Units)
  | unconfirmed (kind : Unconfirmed)
  deriving DecidableEq

inductive AnswerResult where
  | accepted
  | rejected (errorCode : Units)
  | timedOut | sendFailed | disconnected
  deriving DecidableEq

structure Cancellation where
  cancelId : Nat
  reason : CancelReason
  receipt : Option CancelOutcome

inductive PresentationState where
  | awaitingHandle | awaitingReceipt | accepted
  deriving DecidableEq

structure Presentation where
  number : Nat
  gateId : Units
  presentationId : Units
  state : PresentationState
  presentationAttemptId : Option Nat
  abandonId : Option Nat

/-- A timer is `true` while it is armed. -/
structure Pending where
  requestId : Units
  hostId : Units
  socket : Nat
  connectionIdentity : Option Nat
  idleTimer : Bool
  hardCapTimer : Bool
  cancelReceiptTimer : Bool
  cancellation : Option Cancellation
  gatePending : Bool
  gateId : Option Units
  gatePresentation : Option Presentation
  gateAnswers : OrderedMap Units Nat
  settled : Bool
  text : Option Units
  truncated : Bool

/-- An entry of `cancelTombstones`. -/
structure Tombstone where
  socket : Nat
  connectionIdentity : Option Nat
  cancelId : Option Nat

/-- An entry of `pendingGateAnswers`. -/
structure GateAnswer where
  requestId : Units
  gateId : Units
  presentationId : Units
  socket : Nat
  connectionIdentity : Option Nat
  pending : Nat

/-- An entry of `pendingGatePresentations`. -/
structure GatePresentation where
  requestId : Units
  gateId : Units
  presentationId : Units
  socket : Nat
  connectionIdentity : Option Nat
  pending : Nat
  presentation : Nat

/-- An entry of `pendingGateAbandons`. -/
structure GateAbandon where
  requestId : Units
  gateId : Units
  presentationId : Units
  reason : AbandonReason
  socket : Nat
  connectionIdentity : Option Nat

structure Capabilities where
  gatePresentation : Bool
  terminalDisposition : Bool
  invokeCancellation : Bool

/-- The registry. `settlements` and `answered` list the promises that were resolved. -/
structure Registry where
  sockets : List Units
  connections : OrderedMap Units Nat
  hostInfo : OrderedMap Units Capabilities
  connectionIdentities : OrderedMap Nat Nat
  nextConnectionIdentity : Nat
  pendings : Nat → Pending
  invoked : Nat
  presented : Nat
  issued : Nat
  pendingRequests : OrderedMap Units Nat
  pendingCountBySocket : OrderedMap Nat Nat
  cancelTombstones : OrderedMap Units Tombstone
  pendingGateAnswers : OrderedMap Nat GateAnswer
  pendingGatePresentations : OrderedMap Nat GatePresentation
  pendingGateAbandons : OrderedMap Nat GateAbandon
  settlements : List (Nat × Result)
  answered : List (Nat × AnswerResult)

/-- The checks of `shared/protocol.js` on the frames that the registry builds. -/
structure Config where
  isCancelInvokeMessage : Units → Nat → CancelReason → Bool
  isPresentGateMessage : Units → Units → Units → Nat → Bool
  isAbandonGateMessage : Units → Units → Units → Nat → AbandonReason → Bool

structure Transport where
  isOpen : Nat → Bool
  sendThrows : Nat → Bool

def newPending (requestId hostId : Units) (socket : Nat) (connectionIdentity : Option Nat) : Pending where
  requestId := requestId
  hostId := hostId
  socket := socket
  connectionIdentity := connectionIdentity
  idleTimer := false
  hardCapTimer := true
  cancelReceiptTimer := false
  cancellation := none
  gatePending := false
  gateId := none
  gatePresentation := none
  gateAnswers := .empty
  settled := false
  text := none
  truncated := false

def Registry.empty : Registry where
  sockets := []
  connections := .empty
  hostInfo := .empty
  connectionIdentities := .empty
  nextConnectionIdentity := 0
  pendings := fun _ => newPending [] [] 0 none
  invoked := 0
  presented := 0
  issued := 0
  pendingRequests := .empty
  pendingCountBySocket := .empty
  cancelTombstones := .empty
  pendingGateAnswers := .empty
  pendingGatePresentations := .empty
  pendingGateAbandons := .empty
  settlements := []
  answered := []

def Registry.modify (s : Registry) (p : Nat) (change : Pending → Pending) : Registry :=
  {s with pendings := Function.update s.pendings p (change (s.pendings p))}

/-- The socket of the request is open, and it is the one its host is connected by. -/
def Registry.reaches (s : Registry) (net : Transport) (pending : Pending) : Bool :=
  net.isOpen pending.socket && s.connections.get pending.hostId == some pending.socket

variable (pending : Pending)

def Pending.settle : Pending :=
  {pending with settled := true,idleTimer := false,hardCapTimer := false}

section

variable (s : Registry)

def Registry.resolve (p : Nat) (result : Result) : Registry :=
  {s with settlements := s.settlements ++ [(p,result)]}

def Registry.settle (p : Nat) (result : Result) : Registry :=
  if (s.pendings p).settled then s else (s.modify p Pending.settle).resolve p result

variable (requestId : Units)

def Registry.addPending (p : Nat) : Registry :=
  let socket := (s.pendings p).socket
  {s with
    pendingRequests := s.pendingRequests.set requestId p,
    pendingCountBySocket :=
      s.pendingCountBySocket.set socket ((s.pendingCountBySocket.get socket).getD 0 + 1)}

def Pending.clearTimers : Pending :=
  {pending with idleTimer := false,hardCapTimer := false,cancelReceiptTimer := false}

/-- The request leaves the table and the counter of its socket. -/
def Registry.removePending (socket : Nat) : Registry :=
  let next := (s.pendingCountBySocket.get socket).getD 0 - 1
  {s with
    pendingGatePresentations := s.pendingGatePresentations.discard fun _ e => e.requestId == requestId,
    pendingRequests := s.pendingRequests.delete requestId,
    pendingCountBySocket :=
      if 0 < next then s.pendingCountBySocket.set socket next else s.pendingCountBySocket.delete socket}

def Registry.deletePending : Registry :=
  match s.pendingRequests.get requestId with
  | none => s
  | some p => (s.modify p Pending.clearTimers).removePending requestId (s.pendings p).socket

def Registry.deleteCancelTombstone : Registry :=
  {s with cancelTombstones := s.cancelTombstones.delete requestId}

def Registry.retainCancelTombstone (p : Nat) : Registry × Bool :=
  let pending := s.pendings p
  let s := s.deleteCancelTombstone pending.requestId
  if MAX_CANCEL_TOMBSTONES ≤ s.cancelTombstones.size then (s,false)
  else
    let entry : Tombstone :=
      ⟨pending.socket,pending.connectionIdentity,pending.cancellation.map Cancellation.cancelId⟩
    ({s with cancelTombstones := s.cancelTombstones.set pending.requestId entry},true)

def Registry.retireCancellationTracker (p : Nat) : Registry :=
  let retained := s.retainCancelTombstone p
  if retained.2 then retained.1.deletePending (s.pendings p).requestId else retained.1

def Pending.armIdle : Pending := {pending with idleTimer := true}

def Registry.armIdleTimer (p : Nat) : Registry :=
  if (s.pendings p).gatePending then s else s.modify p Pending.armIdle

end

variable (cfg : Config) (net : Transport)

def Pending.present (presentation : Presentation) : Pending :=
  {pending with gatePresentation := some presentation}

section

variable (s : Registry)

def Registry.draw : Registry := {s with issued := s.issued + 1}

def Registry.abandonGate (p : Nat) (reason : AbandonReason) : Registry :=
  let pending := s.pendings p
  match pending.gatePresentation with
  | none => s
  | some presentation =>
    if presentation.abandonId.isSome then s
    else if !s.reaches net pending || decide (MAX_GATE_PRESENTATION_ATTEMPTS ≤ s.pendingGateAbandons.size) then
      s
    else
      let abandonId := s.issued
      let s := s.draw
      if !cfg.isAbandonGateMessage pending.requestId presentation.gateId presentation.presentationId
          abandonId reason then s
      else
        let s := s.modify p fun pending => pending.present {presentation with abandonId := some abandonId}
        let entry : GateAbandon := ⟨pending.requestId,presentation.gateId,presentation.presentationId,reason,
          pending.socket,pending.connectionIdentity⟩
        let abandons := s.pendingGateAbandons.set abandonId entry
        {s with pendingGateAbandons := if net.sendThrows pending.socket then abandons.delete abandonId else abandons}

def abandonReason : CancelReason → AbandonReason
  | .presentationFailed => .sendFailed
  | _ => .presentationTimeout

def Pending.cancel (cancelId : Nat) (reason : CancelReason) : Pending :=
  {pending with
    cancellation := some ⟨cancelId,reason,none⟩,idleTimer := false,hardCapTimer := false,
    cancelReceiptTimer := true}

def Pending.clearReceiptTimer : Pending := {pending with cancelReceiptTimer := false}

/-- The promise is settled without the terminal, which a tombstone waits for. -/
def Registry.giveUp (p : Nat) (kind : Unconfirmed) : Registry :=
  ((s.modify p Pending.clearReceiptTimer).settle p (.unconfirmed kind)).retireCancellationTracker p

def Registry.sendCancellation (p : Nat) (cancelId : Nat) (reason : CancelReason) :
    Registry × Bool :=
  let s := s.modify p fun pending => pending.cancel cancelId reason
  if net.sendThrows (s.pendings p).socket then (s.giveUp p .sendFailed,false) else (s,true)

def Registry.initiateCancellation (p : Nat) (reason : CancelReason) : Registry × Bool :=
  let pending := s.pendings p
  if s.pendingRequests.get pending.requestId ≠ some p then (s,false)
  else if pending.cancellation.isSome then (s,true)
  else if !s.reaches net pending then
    ((s.settle p (.terminal .disconnected (some CONNECTION_LOST))).deletePending pending.requestId,false)
  else
    let s := if pending.gatePending then s.abandonGate cfg net p (abandonReason reason) else s
    let cancelId := s.issued
    let s := s.draw
    if !cfg.isCancelInvokeMessage pending.requestId cancelId reason then
      ((s.settle p (.unconfirmed .cancellationUnconfirmed)).deletePending pending.requestId,false)
    else s.sendCancellation net p cancelId reason

/-- The presentation failed: the gate is abandoned and the invoke cancelled. -/
def Registry.failPresentation (p : Nat) (reason : AbandonReason) : Registry :=
  ((s.abandonGate cfg net p reason).initiateCancellation cfg net p .presentationFailed).1

/-- The presentation is the current one of the request. -/
def Registry.isPresenting (p number : Nat) : Bool :=
  (s.pendings p).gatePresentation.any fun presentation => presentation.number == number

def Registry.presentGate (p number : Nat) : Registry :=
  let pending := s.pendings p
  match pending.gatePresentation with
  | none => s
  | some presentation =>
    if s.pendingRequests.get pending.requestId ≠ some p ∨ presentation.number ≠ number then s
    else if !s.reaches net pending ||
        decide (MAX_GATE_PRESENTATION_ATTEMPTS ≤ s.pendingGatePresentations.size) then
      s.failPresentation cfg net p .sendFailed
    else
      let attemptId := s.issued
      let s := s.draw
      if !cfg.isPresentGateMessage pending.requestId presentation.gateId presentation.presentationId attemptId
      then s.failPresentation cfg net p .sendFailed
      else
        let sent := {presentation with presentationAttemptId := some attemptId,state := .awaitingReceipt}
        let s := s.modify p fun pending => pending.present sent
        let entry : GatePresentation := ⟨pending.requestId,presentation.gateId,presentation.presentationId,
          pending.socket,pending.connectionIdentity,p,number⟩
        let presentations := s.pendingGatePresentations.set attemptId entry
        if net.sendThrows pending.socket then
          let s := {s with pendingGatePresentations := presentations.delete attemptId}
          s.failPresentation cfg net p .sendFailed
        else {s with pendingGatePresentations := presentations}

/-- The promise of `onGate`: a handle, or a failure. -/
def Registry.gateHandle (p number : Nat) (valid : Bool) : Registry :=
  if !s.isPresenting p number then s
  else if valid then s.presentGate cfg net p number
  else s.failPresentation cfg net p .sendFailed

/-- A presentation that cannot be sent, or is not answered in time. -/
def Registry.endPresentation (attemptId : Nat) (reason : AbandonReason) : Registry :=
  match s.pendingGatePresentations.get attemptId with
  | none => s
  | some entry =>
    let s := {s with pendingGatePresentations := s.pendingGatePresentations.delete attemptId}
    if !s.isPresenting entry.pending entry.presentation then s
    else s.failPresentation cfg net entry.pending reason

def Registry.activateFails (p number : Nat) : Registry :=
  if !s.isPresenting p number then s else s.failPresentation cfg net p .sendFailed

structure PresentationResult where
  requestId : Units
  gateId : Units
  presentationId : Units
  presentationAttemptId : Nat
  accepted : Bool

variable (socket : Nat)

def Registry.acceptGatePresentationResult (msg : PresentationResult)
    (activateThrows : Bool) : Registry :=
  match s.pendingGatePresentations.get msg.presentationAttemptId with
  | none => s
  | some entry =>
    if entry.socket ≠ socket ∨ entry.connectionIdentity ≠ s.connectionIdentities.get socket ∨
        entry.requestId ≠ msg.requestId ∨ entry.gateId ≠ msg.gateId ∨
        entry.presentationId ≠ msg.presentationId then s
    else
      let s := {s with
        pendingGatePresentations := s.pendingGatePresentations.delete msg.presentationAttemptId}
      match (s.pendings entry.pending).gatePresentation with
      | none => s
      | some presentation =>
        if presentation.presentationAttemptId ≠ some msg.presentationAttemptId then s
        else if !msg.accepted then s.failPresentation cfg net entry.pending .sendFailed
        else
          let s := s.modify entry.pending fun pending =>
            pending.present {presentation with state := .accepted}
          if activateThrows then s.failPresentation cfg net entry.pending .sendFailed else s

structure AbandonResult where
  requestId : Units
  gateId : Units
  presentationId : Units
  abandonId : Nat
  accepted : Bool

def Registry.acceptGateAbandonResult (msg : AbandonResult) : Registry :=
  match s.pendingGateAbandons.get msg.abandonId with
  | none => s
  | some entry =>
    if entry.socket ≠ socket ∨ entry.connectionIdentity ≠ s.connectionIdentities.get socket ∨
        entry.requestId ≠ msg.requestId ∨ entry.gateId ≠ msg.gateId ∨
        entry.presentationId ≠ msg.presentationId then s
    else {s with pendingGateAbandons := s.pendingGateAbandons.delete msg.abandonId}

def Pending.forget (gateId : Units) (answerId : Nat) : Pending :=
  if pending.gateAnswers.get gateId = some answerId then
    {pending with gateAnswers := pending.gateAnswers.delete gateId}
  else pending

def Pending.ask (gateId : Units) (answerId : Nat) : Pending :=
  {pending with gateAnswers := pending.gateAnswers.set gateId answerId}

/-- An answer that is no longer awaited is left as it is. -/
def Registry.settleGateAnswer (answerId : Nat) (result : AnswerResult) : Registry :=
  match s.pendingGateAnswers.get answerId with
  | none => s
  | some entry =>
    let s := {s with pendingGateAnswers := s.pendingGateAnswers.delete answerId}
    let s := s.modify entry.pending fun pending => pending.forget entry.gateId answerId
    {s with answered := s.answered ++ [(answerId,result)]}

structure AnswerReceipt where
  requestId : Units
  answerId : Nat
  gateId : Units
  presentationId : Units
  /-- The error code of a rejection. -/
  errorCode : Option Units

/-- The gate that was answered is the one of the request. -/
def answersCurrent (entry : GateAnswer) (pending : Pending) : Bool :=
  pending.gatePending && pending.gateId == some entry.gateId &&
    pending.gatePresentation.any fun presentation => presentation.presentationId == entry.presentationId

/-- The gate is retired if it is the one that was answered. -/
def Pending.retireGate (entry : GateAnswer) : Pending :=
  if answersCurrent entry pending then {pending with gatePending := false,gateId := none} else pending

def Registry.acceptGateAnswerResult (msg : AnswerReceipt) : Registry :=
  match s.pendingGateAnswers.get msg.answerId with
  | none => s
  | some entry =>
    if entry.socket ≠ socket ∨ entry.connectionIdentity ≠ s.connectionIdentities.get socket ∨
        entry.requestId ≠ msg.requestId ∨ entry.gateId ≠ msg.gateId ∨
        entry.presentationId ≠ msg.presentationId then s
    else
      match msg.errorCode with
      | some code => s.settleGateAnswer msg.answerId (.rejected code)
      | none =>
        -- a successor may be there before the receipt of its predecessor
        let s := s.modify entry.pending fun pending => pending.retireGate entry
        let s := s.settleGateAnswer msg.answerId .accepted
        if !(s.pendings entry.pending).gatePending && s.pendingRequests.get msg.requestId == some entry.pending
        then s.armIdleTimer entry.pending
        else s

inductive Reply where
  | none
  | denied
  | invoked (pending : Nat)
  | cancelling (cancelId : Option Nat)
  | refused
  | answering (answerId : Nat)
  deriving DecidableEq

/-- The gate can be answered: it is the accepted one of the request. -/
def isAnswerable (gateId presentationId : Units) : Bool :=
  pending.gatePending && pending.gateId == some gateId &&
    pending.gatePresentation.any fun presentation =>
      presentation.presentationId == presentationId && presentation.state == .accepted

def Registry.outstanding : Nat :=
  s.pendingGateAnswers.entries.countP fun e => e.2.socket == socket

/-- `sendable` says that the frame passes its check, serializes and fits. -/
def Registry.answerGate (hostId requestId gateId presentationId : Units) (sendable : Bool) :
    Registry × Reply :=
  match s.pendingRequests.get requestId,s.connections.get hostId with
  | some p,some socket =>
    let pending := s.pendings p
    if socket ≠ pending.socket ∨ !net.isOpen socket then (s,.refused)
    else if !isAnswerable pending gateId presentationId then (s,.refused)
    else if (pending.gateAnswers.get gateId).isSome then (s,.refused)
    else if MAX_PENDING_PER_HOST ≤ s.outstanding socket then (s,.refused)
    else if !sendable then (s,.refused)
    else
      let answerId := s.issued
      let s := s.draw.modify p fun pending => pending.ask gateId answerId
      let entry : GateAnswer := ⟨requestId,gateId,presentationId,socket,pending.connectionIdentity,p⟩
      let s := {s with pendingGateAnswers := s.pendingGateAnswers.set answerId entry}
      (if net.sendThrows socket then s.settleGateAnswer answerId .sendFailed else s,.answering answerId)
  | _,_ => (s,.refused)

variable (code : Option Units)

/-- The pending request of an entry fails if it is one of the socket. -/
def Registry.failEntry (s : Registry) (e : Units × Nat) : Registry :=
  if (s.pendings e.2).socket ≠ socket then s
  else (s.settle e.2 (.terminal .disconnected code)).deletePending e.1

def Registry.failPending : Registry :=
  s.pendingRequests.entries.foldl (Registry.failEntry socket code) s

def Registry.failAnswer (fails : GateAnswer → Bool) (s : Registry) (e : Nat × GateAnswer) : Registry :=
  if fails e.2 then s.settleGateAnswer e.1 .disconnected else s

def Registry.failAnswers (fails : GateAnswer → Bool) : Registry :=
  s.pendingGateAnswers.entries.foldl (Registry.failAnswer fails) s

def Registry.failPendingForSocket : Registry :=
  let s := s.failPending socket code
  let s := {s with cancelTombstones := s.cancelTombstones.discard fun _ e => e.socket == socket}
  let s := s.failAnswers fun e => e.socket == socket
  {s with
    pendingGatePresentations := s.pendingGatePresentations.discard fun _ e => e.socket == socket,
    pendingGateAbandons := s.pendingGateAbandons.discard fun _ e => e.socket == socket}

def Registry.cancelEntry (s : Registry) (e : Units × Nat) : Registry :=
  if (s.pendings e.2).socket = socket then (s.initiateCancellation cfg net e.2 .disconnect).1 else s

def Registry.cancelAll : Registry :=
  s.pendingRequests.entries.foldl (Registry.cancelEntry cfg net socket) s

def Registry.dropConnection : Registry :=
  match s.sockets[socket]? with
  | none => s
  | some hostId =>
    let s := if net.isOpen socket then s.cancelAll cfg net socket else s
    let s := if s.connections.get hostId = some socket then
        {s with connections := s.connections.delete hostId,hostInfo := s.hostInfo.delete hostId}
      else s
    let s := {s with connectionIdentities := s.connectionIdentities.delete socket}
    s.failPendingForSocket socket code

/-- A host that registers again loses the socket that it had. -/
def Registry.dropPrevious (hostId : Units) : Registry :=
  match s.connections.get hostId with
  | none => s
  | some previous => s.dropConnection cfg net previous (some CONNECTION_LOST)

def Registry.connect (hostId : Units) (capabilities : Capabilities) : Registry :=
  let socket := s.sockets.length
  let identity := min MAX_UINT53 (s.nextConnectionIdentity + 1)
  {s with
    sockets := s.sockets ++ [hostId],
    connections := s.connections.set hostId socket,
    nextConnectionIdentity := identity,
    connectionIdentities := s.connectionIdentities.set socket identity,
    hostInfo := s.hostInfo.set hostId capabilities}

def Registry.register (hostId : Units) (capabilities : Capabilities) : Registry :=
  (s.dropPrevious cfg net hostId).connect hostId capabilities

def Registry.closeSocket : Registry :=
  (s.cancelAll cfg net socket).dropConnection cfg net socket (some CONNECTION_LOST)

end

/-- The sockets that are registered, one after the other, then what is left. -/
def Registry.close (s : Registry) : Registry :=
  let s := s.connectionIdentities.keys.foldl (Registry.closeSocket cfg net) s
  let s := s.failAnswers fun _ => true
  {s with connections := .empty,hostInfo := .empty}

/-- An invoke: `gates` for the commands that may be asked a question, `admitted` for the checks
that are left out, `createdThrows` for the callback. -/
structure Invocation where
  hostId : Units
  requestId : Units
  gates : Bool
  admitted : Bool
  createdThrows : Bool

def Capabilities.allow (capabilities : Capabilities) (gates : Bool) : Bool :=
  (!gates || capabilities.gatePresentation) && capabilities.terminalDisposition &&
    capabilities.invokeCancellation

section

variable (s : Registry)

def Registry.create (pending : Pending) : Registry :=
  {s with pendings := Function.update s.pendings s.invoked pending,invoked := s.invoked + 1}

/-- A socket that registered is past connecting, so the frame of the invoke is sent. -/
def Registry.invoke (msg : Invocation) : Registry × Reply :=
  match s.connections.get msg.hostId with
  | none => (s,.denied)
  | some socket =>
    if !msg.admitted then (s,.denied)
    else if !(s.hostInfo.get msg.hostId).any fun capabilities => capabilities.allow msg.gates then (s,.denied)
    else if MAX_PENDING_PER_HOST ≤ (s.pendingCountBySocket.get socket).getD 0 then (s,.denied)
    else if (s.pendingRequests.get msg.requestId).isSome || (s.cancelTombstones.get msg.requestId).isSome then
      (s,.denied)
    else
      let p := s.invoked
      let pending := newPending msg.requestId msg.hostId socket (s.connectionIdentities.get socket)
      let s := ((s.create pending).addPending msg.requestId p).armIdleTimer p
      (if msg.createdThrows then (s.initiateCancellation cfg net p .presentationFailed).1 else s,.invoked p)

def Registry.cancelInvoke (hostId requestId : Units) (reason : CancelReason) :
    Registry × Reply :=
  if reason ≠ .userCancelled ∧ reason ≠ .presentationFailed then (s,.refused)
  else
    match s.pendingRequests.get requestId with
    | none => (s,.refused)
    | some p =>
      if (s.pendings p).hostId ≠ hostId ∨ s.connections.get hostId ≠ some (s.pendings p).socket then (s,.refused)
      else
        let started := s.initiateCancellation cfg net p reason
        (started.1,if started.2 then
          .cancelling (((started.1.pendings p).cancellation).map Cancellation.cancelId)
        else .refused)

/-- Frames of the daemon. A frame that fails its check closes the socket and changes
nothing. -/
inductive Frame where
  | malformed
  | presentationResult (msg : PresentationResult) (activateThrows : Bool)
  | abandonResult (msg : AbandonResult)
  | answerResult (msg : AnswerReceipt)
  | cancelResult (requestId : Units) (cancelId : Nat) (outcome : CancelOutcome)
  | terminal (requestId : Units) (disposition : Disposition) (code : Option Units)
  | gateRequest (requestId gateId presentationId : Units) (presenterThrows : Bool)
  | output (requestId : Units) (truncated : Bool) (text : Option Units)

/-- The receipt timer is cleared, and armed again for the terminal. -/
def Pending.confirm (cancellation : Cancellation) : Pending :=
  {pending with cancellation := some cancellation,cancelReceiptTimer := true}

variable (socket : Nat) (requestId : Units)

def Registry.acceptCancelResult (cancelId : Nat)
    (outcome : CancelOutcome) : Registry :=
  match s.pendingRequests.get requestId with
  | none => s
  | some p =>
    let pending := s.pendings p
    if pending.socket ≠ socket ∨ pending.connectionIdentity ≠ s.connectionIdentities.get socket then s
    else
      match pending.cancellation with
      | none => s
      | some cancellation =>
        if cancellation.cancelId ≠ cancelId ∨ cancellation.receipt.isSome then s
        else if outcome = .cancelledBeforeStart then
          s.modify p fun pending => pending.confirm {cancellation with receipt := some outcome}
        else s.giveUp p (.outcome outcome)

def Registry.owned : Option Nat :=
  (s.pendingRequests.get requestId).filter fun p =>
    (s.pendings p).socket == socket && (s.pendings p).connectionIdentity == s.connectionIdentities.get socket

def Pending.output : Option Units :=
  if pending.truncated then
    match pending.text with
    | none => some OUTPUT_TRUNCATED_NOTICE
    | some text =>
      if text.isEmpty then some OUTPUT_TRUNCATED_NOTICE else some (text ++ 0x0a :: OUTPUT_TRUNCATED_NOTICE)
  else pending.text

variable (disposition : Disposition)

def terminalResult (code : Option Units) : Result :=
  if disposition = .completed then .completed pending.output else .terminal disposition code

/-- A terminal after the daemon said that the invoke was cancelled before its start. -/
def conflicts : Bool :=
  pending.cancellation.any (fun cancellation => cancellation.receipt == some .cancelledBeforeStart) &&
    disposition != .cancelled

def Registry.acceptTerminal (code : Option Units) : Registry :=
  match s.pendingRequests.get requestId with
  | none =>
    match s.cancelTombstones.get requestId with
    | none => s
    | some tombstone =>
      if tombstone.socket = socket ∧ tombstone.connectionIdentity = s.connectionIdentities.get socket then
        s.deleteCancelTombstone requestId
      else s
  | some _ =>
    match s.owned socket requestId with
    | none => s
    | some p =>
      if conflicts (s.pendings p) disposition then
        (s.settle p (.unconfirmed .terminalConflict)).retireCancellationTracker p
      else
        let s := s.settle p (terminalResult (s.pendings p) disposition code)
        let s := s.abandonGate cfg net p .invokeTerminal
        (s.deletePending requestId).deleteCancelTombstone requestId

def isPresented (gateId presentationId : Units) : Bool :=
  pending.gatePresentation.any fun presentation =>
    presentation.gateId == gateId && presentation.presentationId == presentationId

/-- The idle timer stops while the gate waits for its answer. -/
def Pending.gate (presentation : Presentation) : Pending :=
  {pending with
    gatePending := true,gateId := some presentation.gateId,idleTimer := false,
    gatePresentation := some presentation}

def Registry.acceptGateRequest (p : Nat) (gateId presentationId : Units)
    (presenterThrows : Bool) : Registry :=
  if !(s.hostInfo.get (s.pendings p).hostId).any Capabilities.gatePresentation then s
  else if isPresented (s.pendings p) gateId presentationId then s
  else
    let s := s.abandonGate cfg net p .replaced
    let presentation : Presentation := ⟨s.presented,gateId,presentationId,.awaitingHandle,none,none⟩
    let s := {s with presented := s.presented + 1}
    let s := s.modify p fun pending => pending.gate presentation
    if presenterThrows then s.failPresentation cfg net p .sendFailed else s

def Pending.read (truncated : Bool) (text : Option Units) : Pending :=
  if truncated then {pending with truncated := true}
  else {pending with text := text.orElse fun _ => pending.text}

def Registry.acceptOutput (p : Nat) (truncated : Bool) (text : Option Units) : Registry :=
  (s.modify p fun pending => pending.read truncated text).armIdleTimer p

/-- A frame of a running invoke; one that is being cancelled takes none. -/
def Registry.acceptEvent (handle : Registry → Nat → Registry) : Registry :=
  match s.owned socket requestId with
  | none => s
  | some p => if (s.pendings p).cancellation.isSome then s else handle s p

def Registry.handleMessage : Frame → Registry
  | .malformed => s
  | .presentationResult msg activateThrows => s.acceptGatePresentationResult cfg net socket msg activateThrows
  | .abandonResult msg => s.acceptGateAbandonResult socket msg
  | .answerResult msg => s.acceptGateAnswerResult socket msg
  | .cancelResult requestId cancelId outcome => s.acceptCancelResult socket requestId cancelId outcome
  | .terminal requestId disposition code => s.acceptTerminal cfg net socket requestId disposition code
  | .gateRequest requestId gateId presentationId presenterThrows =>
    s.acceptEvent socket requestId fun s p => s.acceptGateRequest cfg net p gateId presentationId presenterThrows
  | .output requestId truncated text =>
    s.acceptEvent socket requestId fun s p => s.acceptOutput p truncated text

def Pending.clearIdle : Pending := {pending with idleTimer := false}

def Pending.clearHardCap : Pending := {pending with hardCapTimer := false}

def Registry.idleExpires (p : Nat) : Registry :=
  if !(s.pendings p).idleTimer then s
  else
    let s := s.modify p Pending.clearIdle
    if (s.pendings p).gatePending ∨ s.pendingRequests.get (s.pendings p).requestId ≠ some p then s
    else (s.initiateCancellation cfg net p .idleTimeout).1

def Registry.hardCapExpires (p : Nat) : Registry :=
  if !(s.pendings p).hardCapTimer then s
  else ((s.modify p Pending.clearHardCap).initiateCancellation cfg net p .hardCap).1

/-- Of the receipt, or of the terminal where the receipt was there. -/
def receiptTimeout : Unconfirmed :=
  if pending.cancellation.any fun cancellation => cancellation.receipt.isSome then .terminalTimeout
  else .receiptTimeout

def Registry.cancelReceiptExpires (p : Nat) : Registry :=
  if !(s.pendings p).cancelReceiptTimer then s
  else if s.pendingRequests.get (s.pendings p).requestId ≠ some p then s.modify p Pending.clearReceiptTimer
  else s.giveUp p (receiptTimeout (s.pendings p))

end

inductive Event where
  | register (hostId : Units) (capabilities : Capabilities)
  | drop (socket : Nat) (code : Option Units)
  | close
  | message (socket : Nat) (frame : Frame)
  | invoke (msg : Invocation)
  | cancelInvoke (hostId requestId : Units) (reason : CancelReason)
  | answerGate (hostId requestId gateId presentationId : Units) (sendable : Bool)
  | gateHandle (pending number : Nat) (valid : Bool)
  | activateFails (pending number : Nat)
  | presentSendFails (attemptId : Nat)
  | answerSendFails (answerId : Nat)
  | idleExpires (pending : Nat)
  | hardCapExpires (pending : Nat)
  | cancelReceiptExpires (pending : Nat)
  | answerExpires (answerId : Nat)
  | presentationExpires (attemptId : Nat)
  | abandonExpires (abandonId : Nat)
  | tombstoneExpires (requestId : Units)

structure Call where
  event : Event
  net : Transport

def step (s : Registry) (call : Call) : Registry × Reply :=
  match call.event with
  | .register hostId capabilities => (s.register cfg call.net hostId capabilities,.none)
  | .drop socket code => (s.dropConnection cfg call.net socket code,.none)
  | .close => (s.close cfg call.net,.none)
  | .message socket frame => (s.handleMessage cfg call.net socket frame,.none)
  | .invoke msg => s.invoke cfg call.net msg
  | .cancelInvoke hostId requestId reason => s.cancelInvoke cfg call.net hostId requestId reason
  | .answerGate hostId requestId gateId presentationId sendable =>
    s.answerGate call.net hostId requestId gateId presentationId sendable
  | .gateHandle p number valid => (s.gateHandle cfg call.net p number valid,.none)
  | .activateFails p number => (s.activateFails cfg call.net p number,.none)
  | .presentSendFails attemptId => (s.endPresentation cfg call.net attemptId .sendFailed,.none)
  | .answerSendFails answerId => (s.settleGateAnswer answerId .sendFailed,.none)
  | .idleExpires p => (s.idleExpires cfg call.net p,.none)
  | .hardCapExpires p => (s.hardCapExpires cfg call.net p,.none)
  | .cancelReceiptExpires p => (s.cancelReceiptExpires p,.none)
  | .answerExpires answerId => (s.settleGateAnswer answerId .timedOut,.none)
  | .presentationExpires attemptId => (s.endPresentation cfg call.net attemptId .presentationTimeout,.none)
  | .abandonExpires abandonId =>
    ({s with pendingGateAbandons := s.pendingGateAbandons.delete abandonId},.none)
  | .tombstoneExpires requestId => (s.deleteCancelTombstone requestId,.none)

end GjcRemote.HostInvoke
