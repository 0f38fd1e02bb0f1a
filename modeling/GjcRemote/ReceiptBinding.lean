import GjcRemote.AdoptedLeaseCandidate
import GjcRemote.WorkspaceLeaseCurrency

/-! Receipt bindings of the daemon, from `daemon/src/daemon.js`: binding and unbinding
frames, the inventory poll with its cascade, and the admission of managed invokes. A call
that awaits is resumed by an event of its own, so other events may come in between.
Sockets, binding states and admissions are objects, numbered in the order of their
creation; the reads of a finished bind stay in its record. Left out are the disposal of
sessions and of requests in flight, and the readiness of the socket as a whole. -/
namespace GjcRemote.ReceiptBinding

open Utf16 StrictJson
open WorkspaceLease (Js Candidate adoptionCandidate admissionCandidate)

def MAX_BINDINGS_PER_SOCKET : Nat := 64

def largest : Nat := 9007199254740991

/-- `isPositiveSafeInteger`. -/
structure Generation where
  value : Nat
  positive : 1 ≤ value
  safe : value ≤ largest
  deriving DecidableEq

def Generation.js (generation : Generation) : Js := .number (.int generation.value)

structure Hex64 where
  digits : Units
  hex : isHex64 digits = true
  deriving DecidableEq

def isLetterOrDigit (u : UInt16) : Bool :=
  (0x30 ≤ u && u ≤ 0x39) || (0x41 ≤ u && u ≤ 0x5a) || (0x61 ≤ u && u ≤ 0x7a)

/-- `/^[A-Za-z0-9][A-Za-z0-9._-]{0,127}$/`. -/
def isOpaqueId : Units → Bool
  | [] => false
  | first :: rest =>
    isLetterOrDigit first && rest.length ≤ 127 &&
      rest.all fun u => isLetterOrDigit u || u == 0x2e || u == 0x5f || u == 0x2d

structure OpaqueId where
  text : Units
  valid : isOpaqueId text = true
  deriving DecidableEq

inductive SourcePlatform where
  | posix | windowsDrive | windowsUnc
  deriving DecidableEq, Repr

def SourcePlatform.text : SourcePlatform → Units
  | .posix => ofString "posix"
  | .windowsDrive => ofString "windows-drive"
  | .windowsUnc => ofString "windows-unc"

/-- What `receiptAuthority` projects from a frame that is a receipt bind. -/
structure ReceiptAuthority where
  authorityEpoch : Generation
  fenceGeneration : Generation
  hostId : Units
  mappingId : OpaqueId
  mappingGeneration : Generation
  workspaceGeneration : Generation
  mappingVersion : Generation
  sourcePlatform : SourcePlatform
  workspaceId : OpaqueId
  authorityFingerprint : Hex64
  deriving DecidableEq

/-- A frame that passes `isInventoryReceiptBindWorkspaceMessage`. -/
structure Binding where
  bindingId : OpaqueId
  authority : ReceiptAuthority
  deriving DecidableEq

/-- The frame as the object that the registry's candidates are made of. -/
def Binding.candidate (binding : Binding) : Candidate
  | .authorityEpoch => binding.authority.authorityEpoch.js
  | .fenceGeneration => binding.authority.fenceGeneration.js
  | .hostId => .string binding.authority.hostId
  | .mappingId => .string binding.authority.mappingId.text
  | .mappingGeneration => binding.authority.mappingGeneration.js
  | .mappingVersion => binding.authority.mappingVersion.js
  | .workspaceId => .string binding.authority.workspaceId.text
  | .workspaceGeneration => binding.authority.workspaceGeneration.js
  | .sourcePlatform => .string binding.authority.sourcePlatform.text
  | .authorityFingerprint => .string binding.authority.authorityFingerprint.digits
  | .bindingId => .string binding.bindingId.text
  | .routeFingerprint | .inventoryGeneration | .inventoryFingerprint | .socketGeneration
  | .bindingFingerprint => .undefined

structure Proof where
  inventoryGeneration : Generation
  inventoryFingerprint : Hex64
  bindingFingerprint : Hex64
  deriving DecidableEq

def Proof.js (proof : Proof) : WorkspaceLease.Proof :=
  ⟨proof.inventoryGeneration.js,.string proof.inventoryFingerprint.digits,
    .string proof.bindingFingerprint.digits⟩

structure InventoryWorkspace where
  hostId : Units
  workspaceId : OpaqueId
  sourcePlatform : SourcePlatform
  workDir : Units
  deriving DecidableEq

structure Inventory where
  inventoryGeneration : Generation
  inventoryFingerprint : Hex64
  workspaces : List InventoryWorkspace
  deriving DecidableEq

inductive Code where
  | inventoryPending | inventoryStale | inventoryIoFailed | workspaceNotFound
  | other (text : Units)
  deriving DecidableEq

structure Reading where
  epoch : Nat
  inventory : Inventory
  deriving DecidableEq

/-- What a read answers; the code of a refusal is the classified one. -/
inductive Read where
  | present (reading : Reading)
  | missing
  | transient
  | refused (code : Code)
  deriving DecidableEq

def receiptInventoryError : Read → Code
  | .missing | .transient => .inventoryPending
  | .present _ => .workspaceNotFound
  | .refused code => code

/-- The two readings name the same inventory at the same epoch. -/
def Reading.agrees (first second : Reading) : Prop :=
  second.epoch = first.epoch ∧
    second.inventory.inventoryGeneration = first.inventory.inventoryGeneration ∧
    second.inventory.inventoryFingerprint = first.inventory.inventoryFingerprint

structure Floor where
  authority : ReceiptAuthority
  inventory : Option (Generation × Hex64)

structure BindingState where
  socket : Nat
  binding : Binding
  inventoryWorkspace : Option InventoryWorkspace
  proof : Option Proof
  ready : Bool
  lastError : Option Code
  invalidated : Bool

/-- Where `acceptReceiptBinding` stands with a binding. -/
inductive BindCall where
  | firstRead
  | secondRead (first : Reading) (workspace : Option InventoryWorkspace)
  | finished (reads : Option (Reading × Reading))

/-- The readiness state of a connection; `connected` says that `connections` has it. -/
structure Socket where
  socketGeneration : Generation
  connected : Bool
  handshakeAccepted : Bool
  committed : Bool
  receiptCommitted : Bool
  probing : Bool
  probePassed : Bool
  bindings : OrderedMap Units Nat
  retiredBindings : OrderedMap Units Nat
  receiptWorkspaceFloors : OrderedMap Units Floor

/-- Where `admitReadyWorkload` stands. -/
inductive AdmissionStep where
  | admissionRead | ensuring | publishRead | retiring | admitted | refused | threw
  deriving DecidableEq, Repr

/-- `fingerprint` is the one captured for the final check. -/
structure Admission where
  binding : Nat
  epoch : Nat
  fingerprint : Option Hex64
  lease : Option Nat
  step : AdmissionStep

structure Unbind where
  socket : Nat
  bindingId : OpaqueId
  settled : Bool

inductive Poll where
  | idle | reading | cascading
  deriving DecidableEq, Repr

structure Snapshot where
  epoch : Nat
  inventoryGeneration : Generation
  inventoryFingerprint : Hex64
  deriving DecidableEq

inductive Frame where
  | bindOk (bindingId : OpaqueId) (proof : Proof)
  | unbindOk (bindingId : OpaqueId)
  | readiness (bindingId : OpaqueId) (ready : Bool) (proof : Option Proof) (lastError : Option Code)
  | close (code : Nat) (reason : String)
  deriving DecidableEq

abbrev Sent := List (Nat × Frame)

/-- The hashes are those of `workspaceBindingFingerprint` and `bindingFingerprint`. -/
structure Config where
  hostId : Units
  bounds : WorkspaceLease.Bounds
  workspaceBindingFingerprint : ReceiptAuthority → Generation → Hex64 → Hex64
  bindingFingerprint : Binding → Hex64

structure State where
  sockets : Nat → Socket
  opened : Nat
  readinessSocketGeneration : Nat
  bindings : Nat → BindingState
  calls : Nat → BindCall
  allocated : Nat
  promotions : List Nat
  unbinds : List Unbind
  admissions : List Admission
  leases : WorkspaceLease.State
  providerEpoch : Nat
  poll : Poll
  inventorySnapshot : Option Snapshot

variable (s : State)

/-- `inventoryCascading`. -/
def State.inventoryCascading : Bool := s.poll = .cascading

variable (c : Nat)

def State.setSocket (change : Socket → Socket) : State :=
  {s with sockets := fun i => if i = c then change (s.sockets i) else s.sockets i}

variable (b : Nat)

def State.setBinding (change : BindingState → BindingState) : State :=
  {s with bindings := fun i => if i = b then change (s.bindings i) else s.bindings i}

def State.setCall (call : BindCall) : State :=
  {s with calls := fun i => if i = b then call else s.calls i}

def State.setAdmission (a : Nat) (change : Admission → Admission) : State :=
  {s with admissions := s.admissions.modify a change}

def State.call (call : WorkspaceLease.Call) : State :=
  {s with leases := (WorkspaceLease.step s.leases call).1}

def State.home : Socket := s.sockets (s.bindings b).socket

/-- `state.bindings.get(bindingState.binding.bindingId) === bindingState`. -/
def State.listed : Bool :=
  (s.home b).bindings.get (s.bindings b).binding.bindingId.text = some b

/-- What binding adopts under a proof and retiring retires. -/
def State.identity (proof : Proof) : Candidate :=
  adoptionCandidate (s.home b).socketGeneration.js (s.bindings b).binding.candidate proof.js

def State.readinessFrame : Frame :=
  let state := s.bindings b
  .readiness state.binding.bindingId state.ready state.proof state.lastError

/-- `publishReadiness`: one frame for each binding. -/
def State.publish : Sent :=
  let k := s.sockets c
  if k.committed && k.connected then k.bindings.entries.map fun e => (c,s.readinessFrame e.2)
  else []

def currentReceiptBinding : Bool :=
  (s.home b).receiptCommitted && (s.home b).connected && s.listed b && !(s.bindings b).invalidated

def ownsReceiptAuthorityFloor : Bool :=
  match (s.home b).receiptWorkspaceFloors.get (s.bindings b).binding.authority.workspaceId.text with
  | some floor => floor.authority = (s.bindings b).binding.authority
  | none => false

/-- The binding leaves its map, and `invalidateBindingRequests` marks it. -/
def State.delist : State :=
  let s' := s.setSocket (s.bindings b).socket fun k =>
    {k with bindings := k.bindings.delete (s.bindings b).binding.bindingId.text}
  s'.setBinding b fun state => {state with invalidated := true}

/-- The registry is told of a binding that leaves with a proof. -/
def State.withdraw : State :=
  match (s.bindings b).proof with
  | some proof => (s.delist b).call (.retireBinding (s.identity b proof))
  | none => s.delist b

def State.retire : State :=
  (s.withdraw b).setSocket (s.bindings b).socket fun k =>
    {k with retiredBindings := k.retiredBindings.set (s.bindings b).binding.bindingId.text b}

def retireSupersededReceiptBinding : State :=
  if s.listed b then s.retire b else s

def RECEIPT_AUTHORITY_GENERATIONS : List (ReceiptAuthority → Generation) :=
  [ReceiptAuthority.authorityEpoch,ReceiptAuthority.fenceGeneration,
    ReceiptAuthority.mappingGeneration,ReceiptAuthority.workspaceGeneration]

/-- Some generation of the first is below that of the second. -/
def below (left right : ReceiptAuthority) : Bool :=
  RECEIPT_AUTHORITY_GENERATIONS.any fun field => (field left).value < (field right).value

/-- The fields of `RECEIPT_AUTHORITY_IDENTITY`. -/
def sameIdentity (left right : ReceiptAuthority) : Bool :=
  left.hostId = right.hostId && left.mappingId = right.mappingId &&
    left.mappingVersion = right.mappingVersion && left.sourcePlatform = right.sourcePlatform &&
    left.workspaceId = right.workspaceId && left.authorityFingerprint = right.authorityFingerprint

def State.ofWorkspace (workspaceId : OpaqueId) : List Nat :=
  ((s.sockets c).bindings.entries.map Prod.snd).filter fun b =>
    (s.bindings b).binding.authority.workspaceId = workspaceId

def State.setFloor (workspaceId : OpaqueId) (floor : Floor) : State :=
  s.setSocket c fun k =>
    {k with receiptWorkspaceFloors := k.receiptWorkspaceFloors.set workspaceId.text floor}

/-- `none` when the floor refuses the binding. -/
def reserveReceiptAuthorityFloor (binding : Binding) : Option State :=
  let candidate := binding.authority
  let floor := (s.sockets c).receiptWorkspaceFloors.get candidate.workspaceId.text
  let inventory := floor.bind Floor.inventory
  let generationAdvanced := (floor.map fun floor => below floor.authority candidate).getD false
  let refused := (floor.map fun floor =>
    below candidate floor.authority || (!generationAdvanced && !sameIdentity candidate floor.authority) ||
      (!generationAdvanced && (s.ofWorkspace c candidate.workspaceId).any fun b =>
        (s.bindings b).binding.bindingId ≠ binding.bindingId)).getD false
  if refused then none
  else
    let s :=
      if generationAdvanced then
        (s.ofWorkspace c candidate.workspaceId).foldl retireSupersededReceiptBinding s
      else s
    some (s.setFloor c candidate.workspaceId ⟨candidate,inventory⟩)

/-- `none` when the inventory is below the floor of the workspace, or differs at it. -/
def acceptReceiptInventoryFloor (workspaceId : OpaqueId)
    (inventory : Inventory) : Option State :=
  match (s.sockets c).receiptWorkspaceFloors.get workspaceId.text with
  | none => none
  | some floor =>
    let refused := (floor.inventory.map fun known =>
      inventory.inventoryGeneration.value < known.1.value ||
        (inventory.inventoryGeneration = known.1 && inventory.inventoryFingerprint ≠ known.2)).getD
        false
    if refused then none
    else
      some (s.setFloor c workspaceId
        ⟨floor.authority,some (inventory.inventoryGeneration,inventory.inventoryFingerprint)⟩)

/-- A new binding state, listed on its socket, before its first read. -/
def State.file (binding : Binding) : State :=
  let b := s.allocated
  let s : State := {s with
    bindings := fun i =>
      if i = b then ⟨c,binding,none,none,false,some .inventoryPending,false⟩
      else s.bindings i
    calls := fun i => if i = b then .firstRead else s.calls i
    allocated := b + 1}
  s.setSocket c fun k => {k with bindings := k.bindings.set binding.bindingId.text b}

def closePolicyViolation (reason : String) : Sent := [(c,.close 1008 reason)]

variable (cfg : Config)

/-- `acceptReceiptBinding` up to its first await; `refusal` is the code of a preimage that
does not verify. -/
def acceptReceiptBinding (s : State) (c : Nat) (message : Binding)
    (refusal : Option String) : State × Sent :=
  let rejected : State × Sent := (s,closePolicyViolation c "invalid workspace binding")
  let k := s.sockets c
  let id := message.bindingId.text
  if !k.receiptCommitted || message.authority.hostId ≠ cfg.hostId then rejected
  else
    match refusal with
    | some code => (s,closePolicyViolation c code)
    | none =>
      match (k.bindings.get id).or (k.retiredBindings.get id) with
      | some existing =>
        if k.retiredBindings.get id = some existing then rejected
        else if (s.bindings existing).binding.authority ≠ message.authority then rejected
        else if k.bindings.get id = some existing then
          match (s.bindings existing).proof with
          | some proof => (s,[(c,.bindOk message.bindingId proof)])
          | none => (s,[])
        else (s,[])
      | none =>
        if MAX_BINDINGS_PER_SOCKET ≤ k.bindings.size + k.retiredBindings.size then rejected
        else
          match reserveReceiptAuthorityFloor s c message with
          | none => rejected
          | some s => (s.file c message,(s.file c message).publish c)

variable (workspace : Option InventoryWorkspace)

def State.deny (code : Code) : State :=
  s.setBinding b fun state =>
    {state with inventoryWorkspace := workspace, proof := none, lastError := some code}

def State.grant (proof : Proof) : State :=
  s.setBinding b fun state =>
    {state with inventoryWorkspace := workspace, proof := some proof, lastError := none}

/-- The end of `acceptReceiptBinding`: nothing comes between its checks and its answer. -/
def settle (proof : Option Proof)
    (errorCode : Code) (epoch : Nat) : State × Sent :=
  let c := (s.bindings b).socket
  match proof with
  | none =>
    let s := s.deny b workspace errorCode
    (s,s.publish c)
  | some proof =>
    let answer := (WorkspaceLease.step s.leases (.adoptBinding (s.identity b proof))).2
    let s := (s.grant b workspace proof).call (.adoptBinding (s.identity b proof))
    match answer with
    | .bool true =>
      let baseline : Snapshot := ⟨epoch,proof.inventoryGeneration,proof.inventoryFingerprint⟩
      let s : State := {s with
        inventorySnapshot := some (s.inventorySnapshot.getD baseline)
        promotions := s.promotions ++ [b]}
      (s,(c,.bindOk (s.bindings b).binding.bindingId proof) :: s.publish c)
    | .bool false =>
      let s := s.deny b workspace .inventoryStale
      (s,s.publish c)
    -- an authority that the registry cannot read; the answers above are the others
    | _ => (s,[])

def resumeFirstRead (s : State) (b : Nat) (result : Except Code Read) :
    State × Sent :=
  let binding := (s.bindings b).binding
  let finished := s.setCall b (.finished none)
  if !currentReceiptBinding s b then (finished,[])
  else
    match result with
    | .error code =>
      let s := finished.deny b none code
      (s,s.publish (s.bindings b).socket)
    | .ok read =>
      if !ownsReceiptAuthorityFloor s b then (retireSupersededReceiptBinding finished b,[])
      else
        match read with
        | .present first =>
          let workspace := first.inventory.workspaces.find? fun workspace =>
            workspace.hostId = cfg.hostId && workspace.workspaceId = binding.authority.workspaceId &&
              workspace.sourcePlatform = binding.authority.sourcePlatform
          (s.setCall b (.secondRead first workspace),[])
        | read => settle finished b none none (receiptInventoryError read) 0

/-- The continuation after the second read, the same with and without a workspace: only
with one is there a proof. -/
def resumeSecondRead (s : State) (b : Nat) (first : Reading)
    (workspace : Option InventoryWorkspace) (result : Except Code Read) : State × Sent :=
  let binding := (s.bindings b).binding
  let c := (s.bindings b).socket
  let finished := s.setCall b (.finished none)
  if !currentReceiptBinding s b then (finished,[])
  else if !ownsReceiptAuthorityFloor s b then (retireSupersededReceiptBinding finished b,[])
  else
    match result with
    | .error code => settle finished b workspace none code first.epoch
    | .ok (.present second) =>
      let s := s.setCall b (.finished (some (first,second)))
      if second.epoch ≠ first.epoch then settle s b workspace none .inventoryPending first.epoch
      else if second.inventory.inventoryGeneration ≠ first.inventory.inventoryGeneration ∨
          second.inventory.inventoryFingerprint ≠ first.inventory.inventoryFingerprint then
        settle s b workspace none .inventoryStale first.epoch
      else
        match acceptReceiptInventoryFloor s c binding.authority.workspaceId first.inventory with
        | none => settle s b workspace none .inventoryStale first.epoch
        | some s =>
          let generation := first.inventory.inventoryGeneration
          let fingerprint := first.inventory.inventoryFingerprint
          let proof : Proof := ⟨generation,fingerprint,
            cfg.workspaceBindingFingerprint binding.authority generation fingerprint⟩
          settle s b workspace (workspace.map fun _ => proof) .workspaceNotFound first.epoch
    | .ok read => settle finished b workspace none (receiptInventoryError read) first.epoch

def promoteWorkspaceIfProven : State :=
  if (s.home b).probePassed && (s.bindings b).inventoryWorkspace.isSome &&
      (s.bindings b).proof.isSome then
    s.setBinding b fun state => {state with ready := true, lastError := none}
  else s

/-- The microtask queued by a bind that was answered OK. -/
def promote : State × Sent :=
  if b ∈ s.promotions then
    let s : State := {s with promotions := s.promotions.erase b}
    if s.listed b then
      let s := promoteWorkspaceIfProven s b
      (s,s.publish (s.bindings b).socket)
    else (s,[])
  else (s,[])

def State.bound : List Nat := (s.sockets c).bindings.entries.map Prod.snd

/-- The end of `probeReadiness`, with the classified error of a probe that failed. -/
def probeReadiness (error : Option Code) : State × Sent :=
  if !(s.sockets c).probing then (s,[])
  else
    match error with
    | none =>
      let s := s.setSocket c fun k => {k with probing := false, probePassed := true}
      let s := (s.bound c).foldl promoteWorkspaceIfProven s
      (s,s.publish c)
    | some code =>
      let s := s.setSocket c fun k => {k with probing := false}
      let s := (s.bound c).foldl (fun s b => s.setBinding b fun state =>
        {state with lastError := if state.ready then state.lastError else some code}) s
      (s,s.publish c)

/-- `unbindReceiptBinding` up to its await; a binding retired before is waited for again. -/
def unbindReceiptBinding (bindingId : OpaqueId) : State × Sent :=
  let k := s.sockets c
  match k.bindings.get bindingId.text,k.retiredBindings.get bindingId.text with
  | some b,_ =>
    let s := s.retire b
    ({s with unbinds := s.unbinds ++ [⟨c,bindingId,false⟩]},[])
  | none,some _ => ({s with unbinds := s.unbinds ++ [⟨c,bindingId,false⟩]},[])
  | none,none => (s,closePolicyViolation c "invalid workspace unbind")

/-- The retirement an unbind awaited is done, or failed. -/
def settleUnbind (i : Nat) (retired : Bool) : State × Sent :=
  match s.unbinds[i]? with
  | none => (s,[])
  | some unbind =>
    if unbind.settled then (s,[])
    else
      let c := unbind.socket
      let s : State := {s with unbinds := s.unbinds.set i {unbind with settled := true}}
      if !retired then (s,closePolicyViolation c "invalid workspace unbind")
      else (s,[(c,.unbindOk unbind.bindingId)])

/-- `nextReadinessSocketGeneration`. -/
def nextReadinessSocketGeneration (previous : Nat) : Generation :=
  if room : largest ≤ previous then ⟨1,by decide,by decide⟩
  else ⟨previous + 1,by omega,by omega⟩

/-- `connectToBot`. -/
def connectToBot : State :=
  let generation := nextReadinessSocketGeneration s.readinessSocketGeneration
  let socket : Socket :=
    ⟨generation,true,false,false,false,false,false,.empty,.empty,.empty⟩
  {s with
    sockets := fun i => if i = s.opened then socket else s.sockets i
    opened := s.opened + 1
    readinessSocketGeneration := generation.value}

/-- A registration that the bot accepts, with what the two capability gates answer. -/
def registrationAccepted (readinessV2 receipt : Bool) : State × Sent :=
  if (s.sockets c).handshakeAccepted then (s,[])
  else
    let s := s.setSocket c fun k =>
      {k with handshakeAccepted := true, receiptCommitted := receipt, committed := readinessV2 || receipt, probing := readinessV2 || receipt}
    (s,s.publish c)

def hasReceiptCommittedConnection : Bool :=
  (List.range s.opened).any fun c => (s.sockets c).connected && (s.sockets c).receiptCommitted

/-- The close handler of a connection, as far as bindings go. -/
def connectionClosed : State :=
  let s := s.setSocket c fun k => {k with committed := false}
  let s :=
    if (s.sockets c).receiptCommitted then
      ((s.bound c).foldl State.withdraw s).setSocket c fun k =>
        {k with retiredBindings := .empty, receiptCommitted := false}
    else s
  let s := s.setSocket c fun k => {k with connected := false}
  if hasReceiptCommittedConnection s then s else {s with inventorySnapshot := none}

def hasActiveReceiptBindings : Bool :=
  (List.range s.opened).any fun c =>
    (s.sockets c).connected && (s.sockets c).committed && (s.sockets c).receiptCommitted &&
      0 < (s.sockets c).bindings.size

def collectCommittedReceiptProofs : List Proof :=
  (List.range s.opened).flatMap fun c =>
    if (s.sockets c).connected && (s.sockets c).committed && (s.sockets c).receiptCommitted then
      (s.bound c).filterMap fun b => (s.bindings b).proof
    else []

/-- The loop over every binding of every connection reaches this one. -/
def State.reached : Bool := (s.home b).connected && s.listed b

/-- `cascadeInventoryInvalidation` up to its await. -/
def cascadeInventoryInvalidation (code : Code) : State :=
  {s.call .invalidateAll with
    poll := .cascading
    providerEpoch := s.providerEpoch + 1
    inventorySnapshot := none
    sockets := fun c =>
      if (s.sockets c).connected then {s.sockets c with receiptCommitted := false} else s.sockets c
    bindings := fun b =>
      if s.reached b then
        {s.bindings b with invalidated := true, ready := false, proof := none, lastError := some code}
      else s.bindings b}

def Socket.retired (k : Socket) : Socket :=
  if k.connected then {k with committed := false, receiptCommitted := false} else k

/-- The rest of the cascade, once the sessions are disposed of. -/
def cascadeEnds : State × Sent :=
  if s.poll ≠ .cascading then (s,[])
  else
    let sent := ((List.range s.opened).filter fun c => (s.sockets c).connected).flatMap fun c =>
      s.publish c ++ [(c,.close 1013 "inventory retired")]
    ({s with
      poll := .idle
      inventorySnapshot := none
      sockets := fun c => (s.sockets c).retired},sent)

/-- `runInventoryPoll` up to its await; `expired` says that the snapshot is too old. -/
def runInventoryPoll (expired : Bool) : State :=
  if s.poll ≠ .idle then s
  else if !hasActiveReceiptBindings s then {s with inventorySnapshot := none}
  else if s.inventorySnapshot.isSome && expired then cascadeInventoryInvalidation s .inventoryStale
  else {s with poll := .reading}

def Reading.snapshot (reading : Reading) : Snapshot :=
  ⟨reading.epoch,reading.inventory.inventoryGeneration,reading.inventory.inventoryFingerprint⟩

def resumePoll (result : Except Code Read) : State :=
  if s.poll ≠ .reading then s
  else
    match result with
    | .error _ => cascadeInventoryInvalidation s .inventoryIoFailed
    | .ok (.present reading) =>
      let drifted := (collectCommittedReceiptProofs s).any fun proof =>
        reading.inventory.inventoryGeneration ≠ proof.inventoryGeneration ||
          reading.inventory.inventoryFingerprint ≠ proof.inventoryFingerprint
      if drifted then cascadeInventoryInvalidation s .inventoryStale
      else if s.inventorySnapshot.any fun known => known ≠ reading.snapshot then
        cascadeInventoryInvalidation s .inventoryStale
      else {s with poll := .idle, inventorySnapshot := some reading.snapshot}
    | .ok read => cascadeInventoryInvalidation s (receiptInventoryError read)

/-- The lease of an admission, with the identity its binding adopted. -/
def acquire (s : State) (a : Nat) (admission : Admission) : State :=
  let state := s.bindings admission.binding
  let candidate := admissionCandidate (s.home admission.binding).socketGeneration.js
    ⟨state.binding.candidate,true,state.proof.map Proof.js⟩
    fun _ => .string (cfg.bindingFingerprint state.binding).digits
  let answer := (WorkspaceLease.step s.leases (.acquireActivity candidate false)).2
  let s := s.call (.acquireActivity candidate false)
  match answer with
  | .lease position => s.setAdmission a fun _ =>
      ⟨admission.binding,admission.epoch,state.proof.map Proof.bindingFingerprint,some position,.ensuring⟩
  | _ => s.setAdmission a fun admission => {admission with step := .refused}

/-- `admitReadyWorkload` up to its first await; `refused` is what the checks of the socket
and of the mapping identity answer. -/
def admitReadyWorkload (s : State) (c : Nat) (bindingId : OpaqueId)
    (refused : Bool) : State :=
  match (s.sockets c).bindings.get bindingId.text with
  | none => s
  | some b =>
    if refused || !(s.bindings b).ready then s
    else
      let admission : Admission := ⟨b,s.providerEpoch,none,none,.admissionRead⟩
      let s : State := {s with admissions := s.admissions ++ [admission]}
      if (s.bindings b).proof.isSome then s
      else acquire cfg s (s.admissions.length - 1) admission

/-- The inventory read before or after the session was made is not the one of the proof.
`none` when the proof is gone and the comparison throws. -/
def stale (admission : Admission) (result : Except Code Read) : Option Bool :=
  if s.inventoryCascading || admission.epoch ≠ s.providerEpoch then some true
  else
    match result with
    | .ok (.present reading) =>
      (s.bindings admission.binding).proof.map fun proof =>
        reading.inventory.inventoryGeneration ≠ proof.inventoryGeneration ||
          reading.inventory.inventoryFingerprint ≠ proof.inventoryFingerprint
    | _ => some true

/-- The stale branch: the proof goes, and the registry is not told. -/
def State.forsake : State :=
  s.setBinding b fun state =>
    {state with invalidated := true, ready := false, proof := none, lastError := some .inventoryStale}

/-- The continuation after the read before admission; `barred` is what the serving gate and
the recovery bar answer. -/
def resumeAdmission (s : State) (a : Nat) (admission : Admission)
    (result : Except Code Read) (barred : Bool) : State × Sent :=
  match stale s admission result with
  | none => (s.setAdmission a fun admission => {admission with step := .threw},[])
  | some true =>
    let s := s.forsake admission.binding
    (s.setAdmission a fun admission => {admission with step := .refused},
      s.publish (s.bindings admission.binding).socket)
  | some false =>
    if barred then (s.setAdmission a fun admission => {admission with step := .refused},[])
    else (acquire cfg s a admission,[])

def State.releaseOf (admission : Admission) : State :=
  match admission.lease with
  | some lease => s.call (.release lease)
  | none => s

def sessionEnsured (a : Nat) (admission : Admission) (created : Bool) : State :=
  if created then s.setAdmission a fun admission => {admission with step := .publishRead}
  else (s.releaseOf admission).setAdmission a fun admission => {admission with step := .refused}

def currentBindingState (fingerprint : Option Hex64) : Bool :=
  (s.home b).committed && s.listed b && !(s.bindings b).invalidated &&
    ((s.bindings b).proof.map Proof.bindingFingerprint) = fingerprint

/-- `activityLease.isCurrent()`. -/
def State.leaseIsCurrent (admission : Admission) : Bool :=
  (admission.lease.bind (WorkspaceLease.currentAt s.leases)).any fun answer => answer.toOption = some true

/-- The continuation after the read that follows the session's creation. A rotated
inventory hands the lease to the session pool, which releases it later. -/
def resumePublication (a : Nat) (admission : Admission) (result : Except Code Read) :
    State :=
  if (stale s admission result).getD true then
    s.setAdmission a fun admission => {admission with step := .retiring}
  else if !s.leaseIsCurrent admission ||
      !currentBindingState s admission.binding admission.fingerprint then
    (s.releaseOf admission).setAdmission a fun admission => {admission with step := .refused}
  else s.setAdmission a fun admission => {admission with step := .admitted}

/-- A bind of the older protocol, of a socket without receipts: it shares the registry, and
may take the place of a listed binding. -/
def acceptWorkspaceBinding (message : Candidate) (replaced : Option Nat) :
    State :=
  if !(s.sockets c).committed || (s.sockets c).receiptCommitted ||
      message .authorityEpoch ≠ .undefined || message .socketGeneration ≠ .undefined then s
  else
    let answer := (WorkspaceLease.step s.leases (.adoptBinding message)).2
    let s := s.call (.adoptBinding message)
    match answer,replaced with
    | .bool true,some b => if (s.bindings b).socket = c && s.listed b then s.delist b else s
    | _,_ => s

inductive Event where
  | connect
  | registered (socket : Nat) (readinessV2 receipt : Bool)
  | probed (socket : Nat) (error : Option Code)
  /-- `none` is a frame that is no receipt bind. -/
  | bind (socket : Nat) (message : Option Binding) (refusal : Option String)
  | bindRead (binding : Nat) (result : Except Code Read)
  | promote (binding : Nat)
  /-- `none` is a frame that is no unbind. -/
  | unbind (socket : Nat) (bindingId : Option OpaqueId)
  | unbindSettles (unbind : Nat) (retired : Bool)
  | closed (socket : Nat)
  | poll (expired : Bool)
  | pollRead (result : Except Code Read)
  | cascadeEnds
  | workload (socket : Nat) (bindingId : OpaqueId) (refused : Bool)
  | admissionRead (admission : Nat) (result : Except Code Read) (barred : Bool)
  | ensured (admission : Nat) (created : Bool)
  | publishRead (admission : Nat) (result : Except Code Read)
  /-- Whoever holds a lease gives it up. -/
  | release (lease : Nat)
  /-- Another part of the daemon asks the registry for a lease. -/
  | acquire (candidate : Candidate) (exclusive : Bool)
  | legacyBind (socket : Nat) (message : Candidate) (replaced : Option Nat)

def State.open : Bool :=
  c < s.opened && (s.sockets c).connected && (s.sockets c).handshakeAccepted

def State.admissionAt (a : Nat) (at' : AdmissionStep) : Option Admission :=
  (s.admissions[a]?).filter fun admission => admission.step = at'

def step (s : State) : Event → State × Sent
  | .connect => (connectToBot s,[])
  | .registered c readinessV2 receipt =>
    if c < s.opened && (s.sockets c).connected then registrationAccepted s c readinessV2 receipt
    else (s,[])
  | .probed c error => probeReadiness s c error
  | .bind c message refusal =>
    if s.open c then
      match message with
      | none => (s,closePolicyViolation c "invalid workspace binding")
      | some message => acceptReceiptBinding cfg s c message refusal
    else (s,[])
  | .bindRead b result =>
    if b < s.allocated then
      match s.calls b with
      | .firstRead => resumeFirstRead cfg s b result
      | .secondRead first workspace => resumeSecondRead cfg s b first workspace result
      | .finished _ => (s,[])
    else (s,[])
  | .promote b => promote s b
  | .unbind c bindingId =>
    if s.open c then
      match bindingId with
      | some bindingId =>
        if (s.sockets c).receiptCommitted then unbindReceiptBinding s c bindingId
        else (s,closePolicyViolation c "invalid workspace unbind")
      | none => (s,closePolicyViolation c "invalid workspace unbind")
    else (s,[])
  | .unbindSettles i retired => settleUnbind s i retired
  | .closed c => if c < s.opened && (s.sockets c).connected then (connectionClosed s c,[]) else (s,[])
  | .poll expired => (runInventoryPoll s expired,[])
  | .pollRead result => (resumePoll s result,[])
  | .cascadeEnds => cascadeEnds s
  | .workload c bindingId refused =>
    if s.open c then (admitReadyWorkload cfg s c bindingId refused,[]) else (s,[])
  | .admissionRead a result barred =>
    match s.admissionAt a .admissionRead with
    | some admission => resumeAdmission cfg s a admission result barred
    | none => (s,[])
  | .ensured a created =>
    match s.admissionAt a .ensuring with
    | some admission => (sessionEnsured s a admission created,[])
    | none => (s,[])
  | .publishRead a result =>
    match s.admissionAt a .publishRead with
    | some admission => (resumePublication s a admission result,[])
    | none => (s,[])
  | .release lease => (s.call (.release lease),[])
  | .acquire candidate exclusive => (s.call (.acquireActivity candidate exclusive),[])
  | .legacyBind c message replaced =>
    if s.open c then (acceptWorkspaceBinding s c message replaced,[]) else (s,[])

def zeroHex : Hex64 := ⟨List.replicate 64 0x30,by decide⟩

def unusedBinding : BindingState :=
  let generation : Generation := ⟨1,by decide,by decide⟩
  let id : OpaqueId := ⟨[0x30],by decide⟩
  ⟨0,⟨id,generation,generation,[],id,generation,generation,generation,.posix,id,zeroHex⟩,none,none,
    false,none,true⟩

def unusedSocket : Socket :=
  ⟨⟨1,by decide,by decide⟩,false,false,false,false,false,false,.empty,.empty,.empty⟩

def State.new : State where
  sockets _ := unusedSocket
  opened := 0
  readinessSocketGeneration := 0
  bindings _ := unusedBinding
  calls _ := .finished none
  allocated := 0
  promotions := []
  unbinds := []
  admissions := []
  leases := .new cfg.bounds
  providerEpoch := 0
  poll := .idle
  inventorySnapshot := none

end GjcRemote.ReceiptBinding
