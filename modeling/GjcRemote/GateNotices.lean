import GjcRemote.PendingInvoke

/-! The state texts that the registry sends to the handles of its presentations, from
`bot/src/host-registry.js`: what each of its callbacks tells them, by the state that it finds. A
presentation without a handle hears nothing. -/
namespace GjcRemote.HostInvoke

open Utf16 Registry

structure Notice where
  presentation : Nat
  text : Units

/-- `#deactivateGateHandle` of the current presentation. -/
def Registry.notice (s : Registry) (p : Nat) (text : String) : List Notice :=
  (s.pendings p).gatePresentation.toList.map fun presentation => ⟨presentation.number,ofString text⟩

variable (cfg : Config) (net : Transport)

section

variable (s : Registry)

def Registry.cancellationNotices (p : Nat) : List Notice :=
  let pending := s.pendings p
  if s.pendingRequests.get pending.requestId ≠ some p then []
  else if pending.cancellation.isSome then []
  else if !s.reaches net pending then []
  else if pending.gatePending then s.notice p "Expired"
  else []

/-- After the gate was abandoned the invoke is cancelled. -/
def Registry.abandonNotices (p : Nat) (reason : AbandonReason) : List Notice :=
  (s.abandonGate cfg net p reason).cancellationNotices net p

def Registry.failNotices (p : Nat) (reason : AbandonReason) (text : String) : List Notice :=
  s.notice p text ++ s.abandonNotices cfg net p reason

def Registry.presentNotices (p number : Nat) : List Notice :=
  let pending := s.pendings p
  match pending.gatePresentation with
  | none => []
  | some presentation =>
    if s.pendingRequests.get pending.requestId ≠ some p ∨ presentation.number ≠ number then []
    else if !s.reaches net pending ||
        decide (MAX_GATE_PRESENTATION_ATTEMPTS ≤ s.pendingGatePresentations.size) then
      s.failNotices cfg net p .sendFailed "Presentation failed"
    else
      let attemptId := s.issued
      let s := s.draw
      if !cfg.isPresentGateMessage pending.requestId presentation.gateId presentation.presentationId attemptId
      then s.failNotices cfg net p .sendFailed "Presentation failed"
      else
        let sent := {presentation with presentationAttemptId := some attemptId,state := .awaitingReceipt}
        let s := s.modify p fun pending => pending.present sent
        if net.sendThrows pending.socket then s.failNotices cfg net p .sendFailed "Presentation failed" else []

def Registry.gateHandleNotices (p number : Nat) (valid : Bool) : List Notice :=
  if !s.isPresenting p number then if valid then [⟨number,ofString "Replaced"⟩] else []
  else if valid then s.presentNotices cfg net p number
  else s.failNotices cfg net p .sendFailed "Presentation failed"

def Registry.endPresentationNotices (attemptId : Nat) (reason : AbandonReason) (text : String) :
    List Notice :=
  match s.pendingGatePresentations.get attemptId with
  | none => []
  | some entry =>
    let s := {s with pendingGatePresentations := s.pendingGatePresentations.delete attemptId}
    ⟨entry.presentation,ofString text⟩ ::
      if !s.isPresenting entry.pending entry.presentation then [] else s.abandonNotices cfg net entry.pending reason

variable (socket : Nat)

/-- The request whose current presentation the result is for. -/
def Registry.answeredPresentation (msg : PresentationResult) : Option Nat :=
  match s.pendingGatePresentations.get msg.presentationAttemptId with
  | none => none
  | some entry =>
    if entry.socket ≠ socket ∨ entry.connectionIdentity ≠ s.connectionIdentities.get socket ∨
        entry.requestId ≠ msg.requestId ∨ entry.gateId ≠ msg.gateId ∨
        entry.presentationId ≠ msg.presentationId then none
    else
      match (s.pendings entry.pending).gatePresentation with
      | none => none
      | some presentation =>
        if presentation.presentationAttemptId ≠ some msg.presentationAttemptId then none else some entry.pending

def Registry.activating (msg : PresentationResult) : Option Nat :=
  if msg.accepted then
    (s.answeredPresentation socket msg).bind fun p => (s.pendings p).gatePresentation.map Presentation.number
  else none

def Registry.presentationResultNotices (msg : PresentationResult)
    (activateThrows : Bool) : List Notice :=
  match s.answeredPresentation socket msg with
  | none => []
  | some p =>
    let s := {s with
      pendingGatePresentations := s.pendingGatePresentations.delete msg.presentationAttemptId}
    if !msg.accepted then s.failNotices cfg net p .sendFailed "Presentation rejected"
    else if activateThrows then
      let s := s.modify p fun pending =>
        {pending with gatePresentation := pending.gatePresentation.map fun presentation =>
          {presentation with state := .accepted}}
      s.failNotices cfg net p .sendFailed "Presentation failed"
    else []

def Registry.presents (requestId gateId presentationId : Units) : Option Nat :=
  (s.owned socket requestId).filter fun p =>
    (s.pendings p).cancellation.isNone &&
      (s.hostInfo.get (s.pendings p).hostId).any Capabilities.gatePresentation &&
      !isPresented (s.pendings p) gateId presentationId

def Registry.gateRequestNotices (p : Nat) (gateId presentationId : Units)
    (presenterThrows : Bool) : List Notice :=
  let replaced := s.notice p "Replaced"
  let s := s.abandonGate cfg net p .replaced
  let presentation : Presentation := ⟨s.presented,gateId,presentationId,.awaitingHandle,none,none⟩
  let s := {s with presented := s.presented + 1}
  let s := s.modify p fun pending => pending.gate presentation
  replaced ++ if presenterThrows then s.abandonNotices cfg net p .sendFailed else []

def Registry.terminalNotices (requestId : Units) (disposition : Disposition) :
    List Notice :=
  match s.owned socket requestId with
  | none => []
  | some p =>
    if conflicts (s.pendings p) disposition then []
    else if (s.pendings p).gatePending then s.notice p "Expired"
    else []

def Registry.messageNotices : Frame → List Notice
  | .presentationResult msg activateThrows => s.presentationResultNotices cfg net socket msg activateThrows
  | .terminal requestId disposition _ => s.terminalNotices socket requestId disposition
  | .gateRequest requestId gateId presentationId presenterThrows =>
    match s.presents socket requestId gateId presentationId with
    | none => []
    | some p => s.gateRequestNotices cfg net p gateId presentationId presenterThrows
  | _ => []

/-- What the steps of a loop tell, one after the other. -/
def gather {α : Type} (tells : Registry → α → List Notice) (act : Registry → α → Registry) :
    Registry → List α → List Notice
  | _,[] => []
  | s,a :: rest => tells s a ++ gather tells act (act s a) rest

def Registry.cancelEntryNotices (s : Registry) (e : Units × Nat) : List Notice :=
  if (s.pendings e.2).socket = socket then s.cancellationNotices net e.2 else []

def Registry.cancelAllNotices : List Notice :=
  gather (cancelEntryNotices net socket) (cancelEntry cfg net socket) s s.pendingRequests.entries

def Registry.failEntryNotices (s : Registry) (e : Units × Nat) : List Notice :=
  if (s.pendings e.2).socket ≠ socket then [] else s.notice e.2 "Disconnected"

def Registry.failPendingNotices (code : Option Units) : List Notice :=
  gather (failEntryNotices socket) (failEntry socket code) s s.pendingRequests.entries

def Registry.dropNotices (code : Option Units) : List Notice :=
  match s.sockets[socket]? with
  | none => []
  | some hostId =>
    let expired := if net.isOpen socket then s.cancelAllNotices cfg net socket else []
    let s := if net.isOpen socket then s.cancelAll cfg net socket else s
    let s := if s.connections.get hostId = some socket then
        {s with connections := s.connections.delete hostId,hostInfo := s.hostInfo.delete hostId}
      else s
    let s := {s with connectionIdentities := s.connectionIdentities.delete socket}
    expired ++ s.failPendingNotices socket code

def Registry.registerNotices (hostId : Units) : List Notice :=
  match s.connections.get hostId with
  | none => []
  | some previous => s.dropNotices cfg net previous (some CONNECTION_LOST)

def Registry.closeSocketNotices : List Notice :=
  s.cancelAllNotices cfg net socket ++
    (s.cancelAll cfg net socket).dropNotices cfg net socket (some CONNECTION_LOST)

end

def Registry.closeNotices (s : Registry) : List Notice :=
  gather (closeSocketNotices cfg net) (closeSocket cfg net) s s.connectionIdentities.keys

def Registry.cancelInvokeNotices (s : Registry) (hostId requestId : Units) (reason : CancelReason) : List Notice :=
  if reason ≠ .userCancelled ∧ reason ≠ .presentationFailed then []
  else
    match s.pendingRequests.get requestId with
    | none => []
    | some p =>
      if (s.pendings p).hostId ≠ hostId ∨ s.connections.get hostId ≠ some (s.pendings p).socket then []
      else s.cancellationNotices net p

def Registry.hardCapNotices (s : Registry) (p : Nat) : List Notice :=
  if !(s.pendings p).hardCapTimer then [] else (s.modify p Pending.clearHardCap).cancellationNotices net p

/-- An invoke that is new has no gate, and one that idles waits at none. -/
def stepNotices (s : Registry) (call : Call) : List Notice :=
  match call.event with
  | .register hostId _ => s.registerNotices cfg call.net hostId
  | .drop socket code => s.dropNotices cfg call.net socket code
  | .close => s.closeNotices cfg call.net
  | .message socket frame => s.messageNotices cfg call.net socket frame
  | .cancelInvoke hostId requestId reason => s.cancelInvokeNotices call.net hostId requestId reason
  | .gateHandle p number valid => s.gateHandleNotices cfg call.net p number valid
  | .activateFails p number =>
    if !s.isPresenting p number then [] else s.failNotices cfg call.net p .sendFailed "Presentation failed"
  | .presentSendFails attemptId => s.endPresentationNotices cfg call.net attemptId .sendFailed "Presentation failed"
  | .hardCapExpires p => s.hardCapNotices call.net p
  | .presentationExpires attemptId =>
    s.endPresentationNotices cfg call.net attemptId .presentationTimeout "Presentation timed out"
  | _ => []

end GjcRemote.HostInvoke
