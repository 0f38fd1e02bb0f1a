import GjcRemote.ReceiptBinding
import Mathlib.Algebra.Order.Ring.Rat

/-! Readiness frames and managed bindings of one host, from `bot/src/host-registry.js` and
the frame checks of `shared/protocol.js`. Sockets are numbered in the order in which they
register. Left out are the projection of readiness (its dimensions, expiry and
degradation), observability, and what a deadline does: it closes the socket. -/
namespace GjcRemote.HostReadiness

open Utf16
open ReceiptBinding (Generation Hex64 OpaqueId ReceiptAuthority Proof)

/-- A reading of `monotonicNow`, which has fractions. -/
abbrev Clock := Rat

def MAX_BINDING_READINESS_STATES : Nat := 64
def READINESS_MIN_TTL_MS : Nat := 1000
def READINESS_MAX_TTL_MS : Nat := 60000
def READINESS_DEFAULT_TTL_MS : Nat := READINESS_MAX_TTL_MS
def READINESS_MAX_SKEW_MS : Nat := 5 * 60 * 1000
def INVENTORY_RECEIPT_TTL_MS : Nat := 10000

inductive RuntimeStatus where
  | ready | incompatible | error
  deriving DecidableEq

inductive ProviderAuthStatus where
  | configured | missing | invalid | unknown
  deriving DecidableEq

inductive ModelProfileStatus where
  | ready | missing | invalid | unknown
  deriving DecidableEq

inductive WorkspaceStatus where
  | ready | unavailable | unknown
  deriving DecidableEq

structure Status where
  online : Bool
  runtime : RuntimeStatus
  providerAuth : ProviderAuthStatus
  modelProfile : ModelProfileStatus
  workspace : WorkspaceStatus
  deriving DecidableEq

/-- `READINESS_STATUS_VALUES[dimension][0]` in every dimension. -/
def Status.allFirst : Status := ⟨true,.ready,.configured,.ready,.ready⟩

/-- The codes of `INVENTORY_RECEIPT_READINESS_ERRORS`, and the others. -/
inductive ErrorCode where
  | inventoryPending | workspaceNotFound | inventoryInvalid | inventoryAccessDenied | inventoryStale
  | inventoryManualCleanup | inventoryIoFailed | workspaceRootEscape | containmentUnsupported
  | workspaceMappingChanged
  | other (code : Units)
  deriving DecidableEq

def isInventoryReceiptError : ErrorCode → Bool
  | .other _ => false
  | _ => true

structure Timestamp where
  value : Nat
  safe : value ≤ ReceiptBinding.largest

theorem Timestamp.value_inj {a b : Timestamp} : a.value = b.value ↔ a = b := by
  cases a
  cases b
  simp

instance : DecidableEq Timestamp := fun _ _ => decidable_of_iff _ Timestamp.value_inj

/-- A frame whose members are what their names ask for. Which members are there decides
which shape it has. -/
structure Frame where
  socketGeneration : Generation
  revision : Generation
  observedAt : Timestamp
  ttlMs : Option Nat
  workspace : Option (OpaqueId × Generation)
  bindingId : Option OpaqueId
  status : Status
  lastError : Option (ErrorCode × Timestamp)
  expiresAt : Option Timestamp
  proof : Option Proof
  deriving DecidableEq

def isReadinessTtl (ttl : Nat) : Bool := READINESS_MIN_TTL_MS ≤ ttl && ttl ≤ READINESS_MAX_TTL_MS

def normalizeReadinessTtl (ttl : Option Nat) : Nat := ttl.getD READINESS_DEFAULT_TTL_MS

def isReadinessFrameShape (msg : Frame) : Bool := msg.ttlMs.all isReadinessTtl && msg.proof.isNone

def isInventoryReceiptReadinessShape (msg : Frame) : Bool :=
  if msg.bindingId.isNone && msg.workspace.isNone && msg.proof.isNone then isReadinessFrameShape msg
  else
    msg.ttlMs == some INVENTORY_RECEIPT_TTL_MS && msg.bindingId.isSome && msg.workspace.isSome &&
    match msg.lastError with
    | some error =>
      msg.proof.isNone && msg.status.workspace == .unknown && isInventoryReceiptError error.1
    | none =>
      msg.proof.isSome && (msg.status.workspace == .unknown || msg.status.workspace == .ready) &&
        (msg.status.workspace != .ready || msg.status == .allFirst)

structure Previous where
  socketGeneration : Generation
  revision : Generation
  observedAt : Timestamp

def Frame.marks (msg : Frame) : Previous := ⟨msg.socketGeneration,msg.revision,msg.observedAt⟩

/-- `Math.abs(observedAt - receivedAt) > READINESS_MAX_SKEW_MS`. -/
def skewed (msg : Frame) (receivedAt : Timestamp) : Bool :=
  READINESS_MAX_SKEW_MS < ((msg.observedAt.value : Int) - receivedAt.value).natAbs

def isReadinessContextValid (msg : Frame) (currentSocketGeneration : Option Generation)
    (previous : Option Previous) (receivedAt : Option Timestamp) : Bool :=
  currentSocketGeneration.all (fun current => msg.socketGeneration == current) &&
    previous.all (fun p =>
      !(p.socketGeneration == msg.socketGeneration && msg.revision.value ≤ p.revision.value) &&
        !(msg.observedAt.value < p.observedAt.value)) &&
    receivedAt.all fun at' => !skewed msg at'

def isReadinessMessage (msg : Frame) (currentSocketGeneration : Option Generation)
    (previous : Option Previous) (receivedAt : Option Timestamp) : Bool :=
  isReadinessFrameShape msg && isReadinessContextValid msg currentSocketGeneration previous receivedAt

def isInventoryReceiptReadinessMessage (msg : Frame) (currentSocketGeneration : Option Generation)
    (previous : Option Previous) (receivedAt : Option Timestamp) : Bool :=
  isInventoryReceiptReadinessShape msg &&
    isReadinessContextValid msg currentSocketGeneration previous receivedAt

/-- An entry of `bindingReadiness`. -/
structure BindingReadiness where
  workspaceId : OpaqueId
  workspaceGeneration : Generation
  socketGeneration : Generation
  revision : Generation
  monoExpiresAt : Clock

inductive BindingStatus where
  | binding | pending | bound | negative | unbinding | tombstone
  deriving DecidableEq

structure Descriptor where
  authority : ReceiptAuthority
  mapping : StrictJson.Value

/-- An entry of `bindingsById`. -/
structure ManagedBinding where
  bindingId : OpaqueId
  descriptorKey : Hex64
  authority : ReceiptAuthority
  mapping : StrictJson.Value
  status : BindingStatus
  receipt : Option Proof
  readiness : Option Frame
  heldReadiness : Option Frame
  socketGeneration : Option Generation
  revision : Option Generation
  observedAt : Option Timestamp
  receiptPrevious : Option Frame

/-- An entry of `readinessStates`. -/
structure ReadinessState where
  socket : Nat
  readinessEnabled : Bool
  bindingEnabled : Bool
  marks : Option Previous
  workspace : Option (OpaqueId × Generation)
  bindingId : Option OpaqueId
  bindingReadiness : OrderedMap OpaqueId BindingReadiness
  bindingsById : OrderedMap OpaqueId ManagedBinding
  bindingsByDescriptor : OrderedMap Hex64 OpaqueId
  workspaceGenerationHighWater : OrderedMap OpaqueId Generation
  receiptSocketGeneration : Option Generation
  receiptPrevious : Option Frame
  rejected : Bool

/-- An entry of `readinessAuthorities`. -/
structure Authority where
  marks : Previous
  bindingId : Option OpaqueId
  workspace : Option (OpaqueId × Generation)
  workspaceGenerationHighWater : OrderedMap OpaqueId Generation
  offlineRetireAt : Option Clock
  retirementTimer : Bool

/-- What the registry keeps of one host. `issued` counts the identifiers drawn. -/
structure Host where
  connection : Option Nat
  readiness : Option ReadinessState
  authority : Option Authority
  managedDescriptors : OrderedMap Hex64 Descriptor
  registered : Nat
  issued : Nat

/-- Functions of the runtime: hashes, fresh identifiers, the order of `localeCompare`. -/
structure Config where
  canonicalJsonHash : ReceiptAuthority → Hex64
  workspaceBindingFingerprint : ReceiptAuthority → Generation → Hex64 → Hex64
  randomUUID : Nat → OpaqueId
  localeCompare : OpaqueId → OpaqueId → Ordering

def Host.empty : Host := ⟨none,none,none,.empty,0,0⟩

/-- The readiness state of the socket, if the host is connected by it. -/
def Host.stateOf (s : Host) (socket : Nat) : Option ReadinessState :=
  if s.connection = some socket then s.readiness.filter fun state => state.socket = socket else none

def Host.setState (s : Host) (state : ReadinessState) : Host := {s with readiness := some state}

def without {ν : Type} (m : OrderedMap OpaqueId ν) (drop : OpaqueId → ν → Bool) : OrderedMap OpaqueId ν where
  entries := m.entries.filter fun e => !drop e.1 e.2
  distinct := m.distinct.sublist (List.filter_sublist.map _)

def Host.getReadinessAuthority (s : Host) (mono : Clock) : Host × Option Authority :=
  match s.authority with
  | none => (s,none)
  | some authority =>
    match authority.offlineRetireAt with
    | none => (s,some authority)
    | some retireAt => if mono < retireAt then (s,some authority) else ({s with authority := none},none)

/-- `#markOfflineReadiness`, for the state that was current. -/
def Host.markOfflineReadiness (s : Host) (state : ReadinessState) (mono : Clock) : Host :=
  let s := s.setState {state with bindingsById := .empty,bindingsByDescriptor := .empty}
  match s.getReadinessAuthority mono with
  | (s,none) => s
  | (s,some authority) =>
    let retireAt := authority.offlineRetireAt.getD (mono + READINESS_MAX_TTL_MS)
    {s with authority := some {authority with offlineRetireAt := some retireAt,retirementTimer := true}}

def Host.dropConnection (s : Host) (socket : Nat) (mono : Clock) : Host :=
  if s.connection = some socket then
    let s := {s with connection := none}
    match s.readiness with
    | none => s
    | some state => s.markOfflineReadiness state mono
  else s

/-- The timer of `#armAuthorityRetirement`. -/
def Host.retireAuthority (s : Host) (mono : Clock) : Host :=
  match s.authority with
  | none => s
  | some authority =>
    if !authority.retirementTimer then s
    else
      match authority.offlineRetireAt with
      | none => {s with authority := some {authority with retirementTimer := false}}
      | some retireAt => if mono < retireAt then s else {s with authority := none}

def later (left right : Generation) : Generation := if left.value ≤ right.value then right else left

/-- `authorityWorkspaceGenerationHighWater`. -/
def Authority.highWater (authority : Authority) : OrderedMap OpaqueId Generation :=
  match authority.workspace with
  | none => authority.workspaceGenerationHighWater
  | some (workspaceId,generation) =>
    authority.workspaceGenerationHighWater.set workspaceId
      (match authority.workspaceGenerationHighWater.get workspaceId with
      | none => generation
      | some retained => later retained generation)

def belowMark (generation : Generation) (mark : Option Generation) : Bool :=
  mark.any fun m => generation.value < m.value

def replaysAuthority (msg : Frame) (authority : Authority) : Bool :=
  msg.socketGeneration.value ≤ authority.marks.socketGeneration.value ||
    msg.observedAt.value < authority.marks.observedAt.value ||
    msg.workspace.any fun w => belowMark w.2 (authority.highWater.get w.1)

variable (state : ReadinessState)

/-- The workspace of the frame is behind what the connection knows of it. -/
def replaysWorkspace (fence : OrderedMap OpaqueId Generation) (msg : Frame) :
    Bool :=
  msg.workspace.any fun w =>
    state.workspace.any (fun known => known.1 == w.1 && decide (w.2.value < known.2.value)) ||
      belowMark w.2 (fence.get w.1) ||
      (((state.bindingReadiness.entries.map Prod.snd).find? fun b => b.workspaceId == w.1).any
        fun b => decide (w.2.value < b.workspaceGeneration.value))

def exhausts (fence : OrderedMap OpaqueId Generation) (msg : Frame) : Bool :=
  msg.workspace.any fun w => (fence.get w.1).isNone && decide (MAX_BINDING_READINESS_STATES ≤ fence.size)

variable (cfg : Config)

def expiresFirst (left right : OpaqueId × BindingReadiness) : Bool :=
  left.2.monoExpiresAt < right.2.monoExpiresAt ||
    (left.2.monoExpiresAt == right.2.monoExpiresAt && (cfg.localeCompare left.1 right.1).isLE)

/-- The place of a binding in `bindingReadiness`: its own, a free one, or that of the entry
that expired first. -/
def makeRoom (readiness : OrderedMap OpaqueId BindingReadiness) (bindingId : OpaqueId)
    (mono : Clock) : Option (OrderedMap OpaqueId BindingReadiness) :=
  if (readiness.get bindingId).isNone && decide (MAX_BINDING_READINESS_STATES ≤ readiness.size) then
    ((readiness.entries.filter fun e => e.2.monoExpiresAt ≤ mono).mergeSort (expiresFirst cfg)).head?.map
      fun expired => readiness.delete expired.1
  else some readiness

/-- What an accepted frame writes of its workspace: nothing is left of the binding readiness
when there is no room. -/
def commitWorkspace (state : ReadinessState) (msg : Frame) (workspaceId : OpaqueId)
    (generation : Generation) (mono : Clock) : ReadinessState × Bool :=
  let behind := without state.bindingReadiness fun _ b =>
    b.workspaceId == workspaceId && decide (b.workspaceGeneration.value < generation.value)
  let state := {state with
    workspaceGenerationHighWater := state.workspaceGenerationHighWater.set workspaceId generation,
    bindingReadiness := behind,workspace := some (workspaceId,generation),bindingId := msg.bindingId}
  match msg.bindingId with
  | none => (state,true)
  | some bindingId =>
    let own := without state.bindingReadiness fun id b => id != bindingId && b.workspaceId == workspaceId
    match makeRoom cfg own bindingId mono with
    | none => ({state with bindingReadiness := own,rejected := true},false)
    | some room =>
      let ttl := min (normalizeReadinessTtl msg.ttlMs) READINESS_MAX_TTL_MS
      let entry : BindingReadiness :=
        ⟨workspaceId,generation,msg.socketGeneration,msg.revision,mono + ttl⟩
      ({state with bindingReadiness := room.set bindingId entry},true)

/-- The marks after a frame: the generation of a connection is that of its first. -/
def marksAfter (msg : Frame) : Previous :=
  ⟨(state.marks.map Previous.socketGeneration).getD msg.socketGeneration,msg.revision,msg.observedAt⟩

def commitFrame (state : ReadinessState) (msg : Frame)
    (fence : OrderedMap OpaqueId Generation) (mono : Clock) : ReadinessState × Bool :=
  let state := {state with
    workspaceGenerationHighWater := fence,marks := some (marksAfter state msg)}
  match msg.workspace with
  | none => (state,true)
  | some w => commitWorkspace cfg state msg w.1 w.2 mono

/-- The frame is taken over, with the high water marks it was checked against. -/
def Host.commitReadiness (s : Host) (state : ReadinessState) (msg : Frame)
    (fence : OrderedMap OpaqueId Generation) (mono : Clock) : Host × Bool :=
  let committed := commitFrame cfg state msg fence mono
  if committed.2 then
    let authority : Authority := ⟨marksAfter state msg,msg.workspace.bind fun _ => msg.bindingId,
      msg.workspace,committed.1.workspaceGenerationHighWater,none,false⟩
    ({s.setState committed.1 with authority := some authority},true)
  else (s.setState committed.1,false)

def ReadinessState.recordReadinessError : ReadinessState :=
  {state with rejected := true}

/-- A message of type `readiness`. One with members of other types counts as malformed;
`stampInvalid` says that a timestamp is among them. -/
inductive Message where
  | frame (msg : Frame)
  | malformed (stampInvalid : Bool)

def timestampInvalid (receivedAt : Option Timestamp) : Message → Bool
  | .malformed stampInvalid => receivedAt.isNone || stampInvalid
  | .frame msg => receivedAt.all (skewed msg)

/-- The marks of earlier connections, which the first frame of a connection is checked
against. -/
def authorityFor (s : Host) (state : ReadinessState) (mono : Clock) : Option Authority :=
  if state.marks.isNone then (s.getReadinessAuthority mono).2 else none

/-- `workspaceGenerationFence`. -/
def fenceFor (authority : Option Authority) : OrderedMap OpaqueId Generation :=
  (authority.map Authority.highWater).getD state.workspaceGenerationHighWater

def Host.acceptReadiness (s : Host) (socket : Nat) (message : Message)
    (receivedAt : Option Timestamp) (mono : Clock) : Host × Bool :=
  match s.stateOf socket with
  | none => (s,false)
  | some state =>
    if !state.readinessEnabled || state.rejected then (s,false)
    else if timestampInvalid receivedAt message then (s.setState state.recordReadinessError,false)
    else
      match message with
      | .malformed _ => (s,false)
      | .frame msg =>
        if !isReadinessFrameShape msg then (s,false)
        else
          let authority := authorityFor s state mono
          let s := (s.getReadinessAuthority mono).1
          if authority.any (replaysAuthority msg) then (s.setState state.recordReadinessError,false)
          else if !isReadinessMessage msg (state.marks.map Previous.socketGeneration) state.marks receivedAt
          then (s.setState state.recordReadinessError,false)
          else if replaysWorkspace state (fenceFor state authority) msg ||
              exhausts (fenceFor state authority) msg then
            (s.setState state.recordReadinessError,false)
          else s.commitReadiness cfg state msg (fenceFor state authority) mono

end GjcRemote.HostReadiness
