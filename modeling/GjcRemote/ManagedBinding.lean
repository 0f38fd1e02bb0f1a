import GjcRemote.HostReadiness

/-! The managed bindings of a connection, from `bot/src/host-registry.js`: requested for
every desired descriptor, accepted by the daemon, and retired. Then the events a host sees,
one step for each. -/
namespace GjcRemote.HostReadiness

open List

open ReceiptBinding (Generation Hex64 OpaqueId ReceiptAuthority Proof)

def receiptMatchesReadiness (receipt : Proof) (readiness : Frame) : Bool :=
  readiness.proof == some receipt

/-- The binding with its end on the way; what the caller forgets is its descriptor. -/
def ManagedBinding.unbind (binding : ManagedBinding) : ManagedBinding :=
  {binding with status := .unbinding,receipt := none,readiness := none,heldReadiness := none}

def ManagedBinding.isActive (binding : ManagedBinding) : Bool :=
  binding.status != .unbinding && binding.status != .tombstone

def unbindBinding (state : ReadinessState) (bindingId : OpaqueId) : ReadinessState :=
  match state.bindingsById.get bindingId with
  | none => state
  | some binding =>
    if !binding.isActive then state
    else {state with
      bindingsById := state.bindingsById.set bindingId binding.unbind,
      bindingsByDescriptor := state.bindingsByDescriptor.delete binding.descriptorKey}

def requested (bindingId : OpaqueId) (descriptorKey : Hex64) (descriptor : Descriptor) : ManagedBinding where
  bindingId := bindingId
  descriptorKey := descriptorKey
  authority := descriptor.authority
  mapping := descriptor.mapping
  status := .binding
  receipt := none
  readiness := none
  heldReadiness := none
  socketGeneration := none
  revision := none
  observedAt := none
  receiptPrevious := none

/-- One round of the loop over the desired descriptors. -/
def requestBinding (cfg : Config) (made : ReadinessState × Nat) (desired : Hex64 × Descriptor) :
    ReadinessState × Nat :=
  let state := made.1
  if (state.bindingsByDescriptor.get desired.1).isSome then made
  else if MAX_BINDING_READINESS_STATES ≤ state.bindingsById.size then made
  else
    let bindingId := cfg.randomUUID made.2
    ({state with
      bindingsById := state.bindingsById.set bindingId (requested bindingId desired.1 desired.2),
      bindingsByDescriptor := state.bindingsByDescriptor.set desired.1 bindingId},made.2 + 1)

/-- The bindings whose descriptors are no longer desired are unbound. -/
def unbindUndesired (managedDescriptors : OrderedMap Hex64 Descriptor) (state : ReadinessState) :
    ReadinessState :=
  (state.bindingsByDescriptor.entries.filter fun e => (managedDescriptors.get e.1).isNone).foldl
    (fun state e => unbindBinding state e.2) state

def reconcileManagedBindings (cfg : Config) (s : Host) : Host :=
  match s.readiness with
  | none => s
  | some state =>
    if !state.bindingEnabled || s.connection != some state.socket then s
    else
      let state := unbindUndesired s.managedDescriptors state
      if state.bindingsById.entries.any fun e => e.2.status == .unbinding then s.setState state
      else
        let made := s.managedDescriptors.entries.foldl (requestBinding cfg) (state,s.issued)
        {s.setState made.1 with issued := made.2}

structure BindOk where
  bindingId : OpaqueId
  proof : Proof

/-- The binding as the daemon accepted it; a readiness frame that was held is its own now. -/
def acceptBindOk (cfg : Config) (binding : ManagedBinding) (proof : Proof) : Option ManagedBinding :=
  let fingerprint := cfg.workspaceBindingFingerprint binding.authority proof.inventoryGeneration
    proof.inventoryFingerprint
  if fingerprint != proof.bindingFingerprint then none
  else
    match binding.heldReadiness with
    | none => some {binding with status := .bound,receipt := some proof}
    | some held =>
      if !receiptMatchesReadiness proof held then none
      else some {binding with
        status := .bound,receipt := some proof,readiness := some held,heldReadiness := none}

def Host.acceptBindOk (cfg : Config) (s : Host) (socket : Nat) (msg : BindOk) : Host × Bool :=
  match s.stateOf socket with
  | none => (s,false)
  | some state =>
    if !state.bindingEnabled then (s,false)
    else
      match state.bindingsById.get msg.bindingId with
      | none => (s,false)
      | some binding =>
        match binding.status with
        | .unbinding => (s,true)
        | .bound => (s,binding.receipt == some msg.proof)
        | .binding | .pending =>
          match HostReadiness.acceptBindOk cfg binding msg.proof with
          | none => (s,false)
          | some bound =>
            (s.setState {state with bindingsById := state.bindingsById.set msg.bindingId bound},true)
        | .negative | .tombstone => (s,false)

def Host.acceptUnbindOk (cfg : Config) (s : Host) (socket : Nat) (bindingId : OpaqueId) : Host × Bool :=
  match s.stateOf socket with
  | none => (s,false)
  | some state =>
    if !state.bindingEnabled then (s,false)
    else
      match state.bindingsById.get bindingId with
      | none => (s,false)
      | some binding =>
        if binding.status != .unbinding then (s,false)
        else
          let state := {state with
            bindingsById := state.bindingsById.set bindingId {binding with status := .tombstone},
            bindingsByDescriptor := state.bindingsByDescriptor.delete binding.descriptorKey}
          (reconcileManagedBindings cfg (s.setState state),true)

def ManagedBinding.receive (binding : ManagedBinding) (msg : Frame) : ManagedBinding × Bool :=
  let binding := {binding with
    socketGeneration := some (binding.socketGeneration.getD msg.socketGeneration),
    revision := some msg.revision,observedAt := some msg.observedAt,receiptPrevious := some msg}
  match msg.lastError with
  | some (code,_) =>
    ({binding with
      status := if code = .inventoryPending then .pending else .negative,receipt := none,
      readiness := some msg,heldReadiness := none},true)
  | none =>
    if binding.status = .binding ∨ binding.status = .pending then
      ({binding with heldReadiness := some msg},true)
    else if binding.status ≠ .bound ∨ binding.receipt = none then (binding,false)
    else ({binding with readiness := some msg},true)

inductive Answer where
  | refused | ignored | accepted
  deriving DecidableEq

def isAwaited (binding : ManagedBinding) : Bool :=
  binding.status == .binding || binding.status == .pending || binding.status == .bound

/-- A bound binding takes no proof but that of its receipt. -/
def provesOther (binding : ManagedBinding) (msg : Frame) : Bool :=
  binding.status == .bound && msg.lastError.isNone &&
    !binding.receipt.any fun receipt => receiptMatchesReadiness receipt msg

def Host.acceptReceipt (s : Host) (state : ReadinessState) (msg : Frame) (bindingId : OpaqueId)
    (receivedAt : Option Timestamp) : Host × Answer :=
  match state.bindingsById.get bindingId with
  | none => (s,.refused)
  | some binding =>
    if binding.status == .unbinding then (s,.ignored)
    else if !isAwaited binding then (s,.refused)
    else if msg.workspace != some (binding.authority.workspaceId,binding.authority.workspaceGeneration) then
      (s,.refused)
    else if !isInventoryReceiptReadinessMessage msg binding.socketGeneration
        (binding.receiptPrevious.map Frame.marks) receivedAt then (s,.refused)
    else if provesOther binding msg then (s,.refused)
    else
      let received := binding.receive msg
      let state := {state with
        receiptSocketGeneration := some (state.receiptSocketGeneration.getD msg.socketGeneration),
        receiptPrevious := some msg,
        bindingsById := state.bindingsById.set bindingId received.1}
      (s.setState state,if received.2 then .accepted else .refused)

def Host.acceptInventoryReceiptReadiness (cfg : Config) (s : Host) (state : ReadinessState)
    (message : Message) (receivedAt : Option Timestamp) (mono : Clock) : Host × Answer :=
  match message with
  | .malformed _ => (s,.refused)
  | .frame msg =>
    if !isInventoryReceiptReadinessMessage msg state.receiptSocketGeneration
        (state.receiptPrevious.map Frame.marks) receivedAt then (s,.refused)
    else
      match msg.bindingId with
      | some bindingId => s.acceptReceipt state msg bindingId receivedAt
      | none =>
        let (s,accepted) := s.acceptReadiness cfg state.socket (.frame msg) receivedAt mono
        if accepted then
          match s.readiness with
          | none => (s,.accepted)
          | some state =>
            (s.setState {state with
              receiptSocketGeneration := some (state.receiptSocketGeneration.getD msg.socketGeneration),
              receiptPrevious := some msg},.accepted)
        else (s,.refused)

inductive Negotiated where
  | none | readiness | receipts
  deriving DecidableEq

inductive Event where
  | register (negotiated : Negotiated)
  | disconnect (socket : Nat)
  | readiness (socket : Nat) (message : Message)
  | bindOk (socket : Nat) (msg : BindOk)
  | unbindOk (socket : Nat) (bindingId : OpaqueId)
  | setManagedRoutes (descriptors : List Descriptor)
  | retirementTimer
  | close

structure Call where
  event : Event
  now : Option Timestamp
  mono : Clock

def newState (socket : Nat) (negotiated : Negotiated) : ReadinessState where
  socket := socket
  readinessEnabled := negotiated != .none
  bindingEnabled := negotiated == .receipts
  marks := none
  workspace := none
  bindingId := none
  bindingReadiness := .empty
  bindingsById := .empty
  bindingsByDescriptor := .empty
  workspaceGenerationHighWater := .empty
  receiptSocketGeneration := none
  receiptPrevious := none
  rejected := false

variable (cfg : Config)

def Host.register (s : Host) (negotiated : Negotiated) (mono : Clock) : Host :=
  let s := match s.connection with
    | none => s
    | some previous => s.dropConnection previous mono
  let state := newState s.registered negotiated
  let s := {s with connection := some state.socket,readiness := some state}
  reconcileManagedBindings cfg {s with registered := s.registered + 1}

def Host.acceptReadinessFrame (s : Host) (socket : Nat) (message : Message)
    (now : Option Timestamp) (mono : Clock) : Host × Answer :=
  match s.stateOf socket with
  | none => (s,.refused)
  | some state =>
    if state.bindingEnabled then s.acceptInventoryReceiptReadiness cfg state message now mono
    else
      let (s,accepted) := s.acceptReadiness cfg socket message now mono
      (s,if accepted then .accepted else .refused)

/-- The descriptors of the routes; routes of one authority share theirs. -/
def descriptorsOf (descriptors : List Descriptor) : OrderedMap Hex64 Descriptor :=
  descriptors.foldl (fun next descriptor =>
    let key := cfg.canonicalJsonHash descriptor.authority
    if (next.get key).isSome then next else next.set key descriptor) .empty

def step (s : Host) (call : Call) : Host × Answer :=
  match call.event with
  | .register negotiated => (s.register cfg negotiated call.mono,.ignored)
  | .disconnect socket => (s.dropConnection socket call.mono,.ignored)
  | .readiness socket message => s.acceptReadinessFrame cfg socket message call.now call.mono
  | .bindOk socket msg => ((s.acceptBindOk cfg socket msg).1,.ignored)
  | .unbindOk socket bindingId => ((s.acceptUnbindOk cfg socket bindingId).1,.ignored)
  | .setManagedRoutes descriptors =>
    (reconcileManagedBindings cfg {s with managedDescriptors := descriptorsOf cfg descriptors},.ignored)
  | .retirementTimer => (s.retireAuthority call.mono,.ignored)
  | .close =>
    let s := match s.connection with
      | none => s
      | some socket => s.dropConnection socket call.mono
    ({s with connection := none,readiness := none,authority := none},.ignored)

/-- `getManagedRouteBinding`: the binding of a descriptor, once it is bound. -/
def Host.managedRouteBinding (s : Host) (authority : ReceiptAuthority) : Option OpaqueId :=
  match s.readiness with
  | none => none
  | some state =>
    if !state.bindingEnabled || s.connection != some state.socket then none
    else
      match state.bindingsByDescriptor.get (cfg.canonicalJsonHash authority) with
      | none => none
      | some bindingId =>
        match state.bindingsById.get bindingId with
        | none => none
        | some binding => if binding.status == .bound then some bindingId else none

theorem numbered_valid (n : Nat) :
    ReceiptBinding.isOpaqueId (0x31 :: replicate (n % 128) 0x31) := by
  have short : n % 128 ≤ 127 := by omega
  simp [ReceiptBinding.isOpaqueId,ReceiptBinding.isLetterOrDigit,short]

theorem hexZeros_valid : StrictJson.isHex64 (replicate 64 0x30) := by decide
theorem hexOnes_valid : StrictJson.isHex64 (replicate 64 0x31) := by decide

theorem generation_valid (n : Nat) : 1 ≤ n % 128 + 1 ∧ n % 128 + 1 ≤ ReceiptBinding.largest := by
  rw [ReceiptBinding.largest]
  omega

def numberedId (n : Nat) : OpaqueId := ⟨0x31 :: replicate (n % 128) 0x31,numbered_valid n⟩
def hexZeros : Hex64 := ⟨replicate 64 0x30,hexZeros_valid⟩
def hexOnes : Hex64 := ⟨replicate 64 0x31,hexOnes_valid⟩
def numberedGeneration (n : Nat) : Generation := ⟨n % 128 + 1,(generation_valid n).1,(generation_valid n).2⟩
def generationOne : Generation := numberedGeneration 0
def generationTwo : Generation := numberedGeneration 1
def stampOne : Timestamp := ⟨0 % 128 + 1,(generation_valid 0).2⟩
def stampTwo : Timestamp := ⟨1 % 128 + 1,(generation_valid 1).2⟩

def sampleHash (authority : ReceiptAuthority) : Hex64 :=
  if authority.workspaceGeneration = generationOne then hexZeros else hexOnes

/-- Fresh identifiers, and hashes that tell the sample descriptors apart. -/
def sampleConfig : Config :=
  ⟨sampleHash,fun authority _ _ => sampleHash authority,numberedId,fun _ _ => .eq⟩

/-- A descriptor of the workspace, in one of its generations. -/
def sampleDescriptor (generation : Nat) : Descriptor :=
  ⟨⟨generationOne,generationOne,[0x68],numberedId 0,generationOne,numberedGeneration generation,
    generationOne,.posix,numberedId 0,hexZeros⟩,.null⟩

def sampleCall (event : Event) : Call := ⟨event,some stampOne,0⟩

end GjcRemote.HostReadiness
