import GjcRemote.ManagedBinding

/-! The order of the readiness frames a host accepts: on one connection, and across
reconnects for as long as the marks of the last connection are retained. -/
namespace GjcRemote.HostReadiness

open Bool hiding not_or
open Option
open ReceiptBinding (Generation Hex64 OpaqueId ReceiptAuthority Proof)

variable {s : Host}

theorem stateOf_some (known : s.stateOf socket = some state) :
    s.connection = some socket ∧ s.readiness = some state ∧ state.socket = socket := by
  unfold Host.stateOf at known
  split at known
  · next current =>
    obtain ⟨there,same⟩ := filter_eq_some_iff.mp known
    exact ⟨current,there,of_decide_eq_true same⟩
  · cases known

structure SameConnection (state next : ReadinessState) : Prop where
  socket : next.socket = state.socket
  bindingEnabled : next.bindingEnabled = state.bindingEnabled
  receiptSocketGeneration : next.receiptSocketGeneration = state.receiptSocketGeneration
  receiptPrevious : next.receiptPrevious = state.receiptPrevious
  bindingsById : next.bindingsById = state.bindingsById
  bindingsByDescriptor : next.bindingsByDescriptor = state.bindingsByDescriptor

def raised (fence : OrderedMap OpaqueId Generation) (msg : Frame) : OrderedMap OpaqueId Generation :=
  match msg.workspace with
  | none => fence
  | some w => fence.set w.1 w.2

theorem commitWorkspace_spec (state : ReadinessState) (msg : Frame) (workspaceId : OpaqueId)
    (generation : Generation) (mono : Clock) :
    let next := (commitWorkspace cfg state msg workspaceId generation mono).1
    SameConnection state next ∧ next.marks = state.marks ∧
      next.workspaceGenerationHighWater = state.workspaceGenerationHighWater.set workspaceId generation := by
  simp only [commitWorkspace]
  split
  · exact ⟨⟨rfl,rfl,rfl,rfl,rfl,rfl⟩,rfl,rfl⟩
  · split
    · exact ⟨⟨rfl,rfl,rfl,rfl,rfl,rfl⟩,rfl,rfl⟩
    · exact ⟨⟨rfl,rfl,rfl,rfl,rfl,rfl⟩,rfl,rfl⟩

theorem commitFrame_spec (state : ReadinessState) (msg : Frame) (fence : OrderedMap OpaqueId Generation)
    (mono : Clock) :
    let next := (commitFrame cfg state msg fence mono).1
    SameConnection state next ∧ next.marks = some (marksAfter state msg) ∧
      next.workspaceGenerationHighWater = raised fence msg := by
  cases workspace : msg.workspace with
  | none =>
    rw [commitFrame,raised,workspace]
    exact ⟨⟨rfl,rfl,rfl,rfl,rfl,rfl⟩,rfl,rfl⟩
  | some w =>
    rw [commitFrame,raised,workspace]
    let marked := {state with
      workspaceGenerationHighWater := fence,marks := some (marksAfter state msg)}
    obtain ⟨same,marks,highWater⟩ := @commitWorkspace_spec cfg marked msg w.1 w.2 mono
    exact ⟨⟨same.socket,same.bindingEnabled,same.receiptSocketGeneration,same.receiptPrevious,
      same.bindingsById,same.bindingsByDescriptor⟩,marks,highWater⟩

structure Commits (s : Host) (state : ReadinessState) (msg : Frame)
    (fence : OrderedMap OpaqueId Generation) (result : Host × Bool) (next : ReadinessState) : Prop where
  readiness : result.1.readiness = some next
  same : SameConnection state next
  marks : next.marks = some (marksAfter state msg)
  highWater : next.workspaceGenerationHighWater = raised fence msg
  connection : result.1.connection = s.connection
  registered : result.1.registered = s.registered
  descriptors : result.1.managedDescriptors = s.managedDescriptors
  issued : result.1.issued = s.issued
  authority : result.2 = true → ∃ bindingId, result.1.authority =
    some ⟨marksAfter state msg,bindingId,msg.workspace,raised fence msg,none,false⟩
  exhausted : result.2 = false → result.1.authority = s.authority

theorem commitReadiness_spec (s : Host) (state : ReadinessState) (msg : Frame)
    (fence : OrderedMap OpaqueId Generation) (mono : Clock) :
    ∃ next, Commits s state msg fence (s.commitReadiness cfg state msg fence mono) next := by
  obtain ⟨same,marks,highWater⟩ := @commitFrame_spec cfg state msg fence mono
  refine ⟨(commitFrame cfg state msg fence mono).1,?_⟩
  simp only [Host.commitReadiness]
  split
  · constructor
    case same => exact same
    case marks => exact marks
    case highWater => exact highWater
    case authority => exact fun _ => ⟨_,by rw [highWater]⟩
    case exhausted => exact fun failed => by cases failed
    all_goals rfl
  · constructor
    case same => exact same
    case marks => exact marks
    case highWater => exact highWater
    case authority => exact fun done => by cases done
    case exhausted => exact fun _ => rfl
    all_goals rfl

structure Passes (s : Host) (state : ReadinessState) (msg : Frame) (receivedAt : Option Timestamp)
    (mono : Clock) : Prop where
  enabled : state.readinessEnabled = true
  unrejected : state.rejected = false
  shape : isReadinessFrameShape msg = true
  ahead : (authorityFor s state mono).any (replaysAuthority msg) = false
  context : isReadinessContextValid msg (state.marks.map Previous.socketGeneration) state.marks
    receivedAt = true
  current : replaysWorkspace state (fenceFor state (authorityFor s state mono)) msg = false

/-- What `#acceptReadiness` makes of a frame. -/
inductive Outcome (cfg : Config) (s : Host) (receivedAt : Option Timestamp) (mono : Clock) (socket : Nat)
    (message : Message) : Host × Bool → Prop where
  | refused : Outcome cfg s receivedAt mono socket message (s,false)
  | rejected (state : ReadinessState) (known : s.stateOf socket = some state)
      (looked : Host) (kept : looked = s ∨ looked = (s.getReadinessAuthority mono).1) :
      Outcome cfg s receivedAt mono socket message (looked.setState state.recordReadinessError,false)
  | committed (state : ReadinessState) (known : s.stateOf socket = some state) (msg : Frame)
      (frame : message = .frame msg) (passes : Passes s state msg receivedAt mono) :
      Outcome cfg s receivedAt mono socket message
        ((s.getReadinessAuthority mono).1.commitReadiness cfg state msg
          (fenceFor state (authorityFor s state mono)) mono)

theorem acceptReadiness_cases (s : Host) (socket : Nat) (message : Message)
    (receivedAt : Option Timestamp) (mono : Clock) :
    Outcome cfg s receivedAt mono socket message (s.acceptReadiness cfg socket message receivedAt mono) := by
  unfold Host.acceptReadiness
  cases known : s.stateOf socket with
  | none => exact .refused
  | some state =>
    simp only
    split
    · exact .refused
    next able =>
    split
    · exact .rejected state known s (.inl rfl)
    cases message with
    | malformed => exact .refused
    | frame msg =>
      simp only
      split
      · exact .refused
      next shape =>
      split
      · exact .rejected state known _ (.inr rfl)
      next ahead =>
      split
      · exact .rejected state known _ (.inr rfl)
      next context =>
      split
      · exact .rejected state known _ (.inr rfl)
      next current =>
      simp only [or_eq_true,not_eq_true',not_or,not_eq_true,not_eq_false] at *
      refine .committed state known msg rfl ⟨able.1,able.2,shape,ahead,?_,current.1⟩
      rw [isReadinessMessage,and_eq_true] at context
      exact context.2

/-- Nothing changes of a connection but its bindings, or that it refuses further frames. -/
structure KeepsMarks (state next : ReadinessState) : Prop where
  socket : next.socket = state.socket
  bindingEnabled : next.bindingEnabled = state.bindingEnabled
  marks : next.marks = state.marks
  highWater : next.workspaceGenerationHighWater = state.workspaceGenerationHighWater
  receiptSocketGeneration : next.receiptSocketGeneration = state.receiptSocketGeneration
  receiptPrevious : next.receiptPrevious = state.receiptPrevious

theorem KeepsMarks.refl (state : ReadinessState) : KeepsMarks state state := ⟨rfl,rfl,rfl,rfl,rfl,rfl⟩

theorem KeepsMarks.trans (one : KeepsMarks first second)
    (two : KeepsMarks second third) : KeepsMarks first third :=
  ⟨two.socket.trans one.socket,two.bindingEnabled.trans one.bindingEnabled,two.marks.trans one.marks,
    two.highWater.trans one.highWater,two.receiptSocketGeneration.trans one.receiptSocketGeneration,
    two.receiptPrevious.trans one.receiptPrevious⟩

/-- The readiness state after, where there is one, is that before with its marks. -/
def KeepsReadiness (s s' : Host) : Prop :=
  ∀ next, s'.readiness = some next → ∃ state, s.readiness = some state ∧ KeepsMarks state next

theorem KeepsReadiness.refl (s : Host) : KeepsReadiness s s :=
  fun next known => ⟨next,known,.refl next⟩

theorem KeepsReadiness.trans (one : KeepsReadiness s s') (two : KeepsReadiness s' s'') :
    KeepsReadiness s s'' := by
  intro next known
  obtain ⟨middle,there,keeps⟩ := two next known
  obtain ⟨state,here,keeps'⟩ := one middle there
  exact ⟨state,here,keeps'.trans keeps⟩

theorem keeps_setState (known : s.readiness = some state)
    (keeps : KeepsMarks state next) : KeepsReadiness s (s.setState next) := by
  intro next' same
  cases same
  exact ⟨state,known,keeps⟩

theorem unbindBinding_keeps (state : ReadinessState) (bindingId : OpaqueId) :
    KeepsMarks state (unbindBinding state bindingId) := by
  unfold unbindBinding
  split
  · exact .refl state
  · split
    · exact .refl state
    · exact ⟨rfl,rfl,rfl,rfl,rfl,rfl⟩

theorem unbindUndesired_keeps (managedDescriptors : OrderedMap Hex64 Descriptor) (state : ReadinessState) :
    KeepsMarks state (unbindUndesired managedDescriptors state) := by
  unfold unbindUndesired
  generalize state.bindingsByDescriptor.entries.filter _ = entries
  induction entries generalizing state with
  | nil => exact .refl state
  | cons e rest ih => exact (unbindBinding_keeps state e.2).trans (ih _)

theorem requestBinding_keeps (made : ReadinessState × Nat) (desired : Hex64 × Descriptor) :
    KeepsMarks made.1 (requestBinding cfg made desired).1 := by
  simp only [requestBinding]
  split
  · exact .refl _
  · split
    · exact .refl _
    · exact ⟨rfl,rfl,rfl,rfl,rfl,rfl⟩

theorem requestBindings_keeps (entries : List (Hex64 × Descriptor)) (made : ReadinessState × Nat) :
    KeepsMarks made.1 (entries.foldl (requestBinding cfg) made).1 := by
  induction entries generalizing made with
  | nil => exact .refl _
  | cons e rest ih => exact (requestBinding_keeps made e).trans (ih _)

structure Reconciles (s s' : Host) : Prop where
  readiness : KeepsReadiness s s'
  connection : s'.connection = s.connection
  authority : s'.authority = s.authority
  registered : s'.registered = s.registered
  descriptors : s'.managedDescriptors = s.managedDescriptors

theorem reconcile_keeps (s : Host) : Reconciles s (reconcileManagedBindings cfg s) := by
  unfold reconcileManagedBindings
  cases known : s.readiness with
  | none => exact ⟨.refl s,rfl,rfl,rfl,rfl⟩
  | some state =>
    simp only
    have undesired := unbindUndesired_keeps s.managedDescriptors state
    split
    · exact ⟨.refl s,rfl,rfl,rfl,rfl⟩
    · split
      · exact ⟨keeps_setState known undesired,rfl,rfl,rfl,rfl⟩
      · exact ⟨keeps_setState known (undesired.trans
          (requestBindings_keeps _ (unbindUndesired s.managedDescriptors state,s.issued))),rfl,rfl,rfl,rfl⟩

theorem acceptBindOk_keeps (s : Host) (socket : Nat) (msg : BindOk) :
    Reconciles s (s.acceptBindOk cfg socket msg).1 := by
  unfold Host.acceptBindOk
  cases known : s.stateOf socket with
  | none => exact ⟨.refl s,rfl,rfl,rfl,rfl⟩
  | some state =>
    have there := (stateOf_some known).2.1
    simp only
    repeat' split
    all_goals first
      | exact ⟨.refl s,rfl,rfl,rfl,rfl⟩
      | exact ⟨keeps_setState there ⟨rfl,rfl,rfl,rfl,rfl,rfl⟩,rfl,rfl,rfl,rfl⟩

theorem acceptUnbindOk_keeps (s : Host) (socket : Nat) (bindingId : OpaqueId) :
    Reconciles s (s.acceptUnbindOk cfg socket bindingId).1 := by
  unfold Host.acceptUnbindOk
  cases known : s.stateOf socket with
  | none => exact ⟨.refl s,rfl,rfl,rfl,rfl⟩
  | some state =>
    have there := (stateOf_some known).2.1
    simp only
    split
    · exact ⟨.refl s,rfl,rfl,rfl,rfl⟩
    · split
      · exact ⟨.refl s,rfl,rfl,rfl,rfl⟩
      · split
        · exact ⟨.refl s,rfl,rfl,rfl,rfl⟩
        · next binding _ _ =>
          let retired := {state with
            bindingsById := state.bindingsById.set bindingId {binding with status := .tombstone},
            bindingsByDescriptor := state.bindingsByDescriptor.delete binding.descriptorKey}
          have keeps : KeepsMarks state retired := ⟨rfl,rfl,rfl,rfl,rfl,rfl⟩
          have reconciles := @reconcile_keeps cfg (s.setState retired)
          exact ⟨(keeps_setState there keeps).trans reconciles.readiness,
            reconciles.connection,reconciles.authority,reconciles.registered,reconciles.descriptors⟩

/-- The clock is at or past the end of the retention window. -/
def overdue (s : Host) (mono : Clock) : Prop :=
  ∃ authority retireAt, s.authority = some authority ∧ authority.offlineRetireAt = some retireAt ∧
    retireAt ≤ mono

/-- What becomes of the retained marks besides being replaced by those of a frame. -/
inductive Retains (s : Host) (mono : Clock) (s' : Host) : Prop where
  | same (kept : s'.authority = s.authority)
  | stamped (authority : Authority) (known : s.authority = some authority) (retireAt : Option Clock)
      (timer : Bool) (kept : s'.authority =
        some {authority with offlineRetireAt := retireAt,retirementTimer := timer})
  | retired (expired : overdue s mono) (gone : s'.authority = none)

theorem getReadinessAuthority_cases (s : Host) (mono : Clock) :
    s.getReadinessAuthority mono = (s,s.authority) ∨
      (overdue s mono ∧ s.getReadinessAuthority mono = ({s with authority := none},none)) := by
  unfold Host.getReadinessAuthority
  cases known : s.authority with
  | none => exact .inl rfl
  | some authority =>
    simp only
    cases stamped : authority.offlineRetireAt with
    | none => exact .inl rfl
    | some retireAt =>
      simp only
      split
      · exact .inl rfl
      · next late => exact .inr ⟨⟨authority,retireAt,known,stamped,not_lt.mp late⟩,rfl⟩

theorem markOffline_spec (s : Host) (state : ReadinessState) (mono : Clock) :
    Retains s mono (s.markOfflineReadiness state mono) ∧
      (∃ next, (s.markOfflineReadiness state mono).readiness = some next ∧ KeepsMarks state next) ∧
      (s.markOfflineReadiness state mono).registered = s.registered ∧
      (s.markOfflineReadiness state mono).connection = s.connection ∧
      (s.markOfflineReadiness state mono).managedDescriptors = s.managedDescriptors := by
  let cleared := {state with bindingsById := OrderedMap.empty,bindingsByDescriptor := OrderedMap.empty}
  have keeps : KeepsMarks state cleared := ⟨rfl,rfl,rfl,rfl,rfl,rfl⟩
  simp only [Host.markOfflineReadiness]
  rcases getReadinessAuthority_cases (s.setState cleared) mono with same | ⟨expired,gone⟩
  · rw [same]
    cases known : s.authority with
    | none =>
      rw [show (s.setState cleared).authority = none from known]
      exact ⟨.same rfl,⟨_,rfl,keeps⟩,rfl,rfl,rfl⟩
    | some authority =>
      rw [show (s.setState cleared).authority = some authority from known]
      exact ⟨.stamped authority known _ _ rfl,⟨_,rfl,keeps⟩,rfl,rfl,rfl⟩
  · rw [gone]
    exact ⟨.retired expired rfl,⟨_,rfl,keeps⟩,rfl,rfl,rfl⟩

structure Drops (s : Host) (mono : Clock) (s' : Host) : Prop where
  readiness : KeepsReadiness s s'
  authority : Retains s mono s'
  registered : s'.registered = s.registered
  descriptors : s'.managedDescriptors = s.managedDescriptors

theorem dropConnection_drops (s : Host) (socket : Nat) (mono : Clock) :
    Drops s mono (s.dropConnection socket mono) := by
  simp only [Host.dropConnection]
  split
  · cases known : s.readiness with
    | none => exact ⟨fun next there => (nomatch there),.same rfl,rfl,rfl⟩
    | some state =>
      obtain ⟨retains,⟨next,there,keeps⟩,registered,_,descriptors⟩ :=
        markOffline_spec {s with connection := none} state mono
      refine ⟨?_,?_,registered,descriptors⟩
      · intro next' same
        cases there.symm.trans same
        exact ⟨state,known,keeps⟩
      · cases retains with
        | same kept => exact .same kept
        | stamped authority known retireAt timer kept => exact .stamped authority known retireAt timer kept
        | retired expired gone => exact .retired expired gone
  · exact ⟨.refl s,.same rfl,rfl,rfl⟩

theorem retireAuthority_drops (s : Host) (mono : Clock) : Drops s mono (s.retireAuthority mono) := by
  unfold Host.retireAuthority
  cases known : s.authority with
  | none => exact ⟨.refl s,.same rfl,rfl,rfl⟩
  | some authority =>
    simp only
    split
    · exact ⟨.refl s,.same rfl,rfl,rfl⟩
    · cases stamped : authority.offlineRetireAt with
      | none => exact ⟨.refl s,.stamped authority known none false (by simp only),rfl,rfl⟩
      | some retireAt =>
        simp only
        split
        · exact ⟨.refl s,.same rfl,rfl,rfl⟩
        · next late =>
          exact ⟨.refl s,.retired ⟨authority,retireAt,known,stamped,not_lt.mp late⟩ rfl,rfl,rfl⟩

inductive Moves (cfg : Config) (s : Host) (call : Call) : Host × Answer → Prop where
  | keeps (s' : Host) (answer : Answer) (readiness : KeepsReadiness s s')
      (authority : Retains s call.mono s') (registered : s'.registered = s.registered)
      (unaccepted : answer ≠ .accepted) : Moves cfg s call (s',answer)
  | opens (s' : Host) (fresh : ∀ next, s'.readiness = some next → next.socket = s.registered ∧
      next.marks = none ∧ next.receiptSocketGeneration = none)
      (authority : Retains s call.mono s') (registered : s'.registered = s.registered + 1) :
      Moves cfg s call (s',.ignored)
  | closes (s' : Host) (event : call.event = .close) (gone : s'.readiness = none)
      (registered : s'.registered = s.registered) : Moves cfg s call (s',.ignored)
  | receives (state next : ReadinessState) (msg : Frame) (socket : Nat) (answer : Answer)
      (event : call.event = .readiness socket (.frame msg)) (known : s.stateOf socket = some state)
      (bindingEnabled : state.bindingEnabled = true) (named : msg.bindingId.isSome = true)
      (context : isReadinessContextValid msg state.receiptSocketGeneration
        (state.receiptPrevious.map Frame.marks) call.now = true)
      (socket' : next.socket = state.socket) (bindingEnabled' : next.bindingEnabled = true)
      (marks : next.marks = state.marks)
      (highWater : next.workspaceGenerationHighWater = state.workspaceGenerationHighWater)
      (generation : next.receiptSocketGeneration =
        some (state.receiptSocketGeneration.getD msg.socketGeneration))
      (previous : next.receiptPrevious = some msg) : Moves cfg s call (s.setState next,answer)
  | commits (state next : ReadinessState) (msg : Frame) (socket : Nat) (result : Host × Bool)
      (s' : Host) (event : call.event = .readiness socket (.frame msg))
      (known : s.stateOf socket = some state) (passes : Passes s state msg call.now call.mono)
      (commit : Commits (s.getReadinessAuthority call.mono).1 state msg
        (fenceFor state (authorityFor s state call.mono)) result next)
      (unnamed : state.bindingEnabled = true → msg.bindingId = none ∧
        isReadinessContextValid msg state.receiptSocketGeneration
          (state.receiptPrevious.map Frame.marks) call.now = true)
      (authority : s'.authority = result.1.authority) (registered : s'.registered = s.registered)
      (left : ∀ next', s'.readiness = some next' → next'.socket = next.socket ∧
        next'.bindingEnabled = next.bindingEnabled ∧ next'.marks = next.marks ∧
        next'.workspaceGenerationHighWater = next.workspaceGenerationHighWater ∧
        (result.2 = true → state.bindingEnabled = true → next'.receiptSocketGeneration =
            some (state.receiptSocketGeneration.getD msg.socketGeneration) ∧
          next'.receiptPrevious = some msg) ∧
        (result.2 = false → next' = next)) :
      Moves cfg s call (s',if result.2 then .accepted else .refused)

theorem looked_retains (s : Host) (mono : Clock) : Retains s mono (s.getReadinessAuthority mono).1 ∧
    (s.getReadinessAuthority mono).1.readiness = s.readiness ∧
    (s.getReadinessAuthority mono).1.registered = s.registered := by
  rcases getReadinessAuthority_cases s mono with same | ⟨expired,gone⟩
  · rw [same]
    exact ⟨.same rfl,rfl,rfl⟩
  · rw [gone]
    exact ⟨.retired expired rfl,rfl,rfl⟩

theorem rejected_keeps
    (known : s.readiness = some state) (kept : looked = s ∨ looked = (s.getReadinessAuthority mono).1) :
    KeepsReadiness s (looked.setState state.recordReadinessError) ∧
      Retains s mono (looked.setState state.recordReadinessError) ∧
      (looked.setState state.recordReadinessError).registered = s.registered := by
  obtain ⟨retains,_,registered⟩ := looked_retains s mono
  refine ⟨?_,?_,?_⟩
  · intro next same
    cases same
    exact ⟨state,known,⟨rfl,rfl,rfl,rfl,rfl,rfl⟩⟩
  · rcases kept with rfl | rfl
    · exact .same rfl
    · cases retains with
      | same kept => exact .same kept
      | stamped authority known retireAt timer kept => exact .stamped authority known retireAt timer kept
      | retired expired gone => exact .retired expired gone
  · rcases kept with rfl | rfl
    · rfl
    · exact registered

theorem acceptReceipt_moves (event : call.event = .readiness socket (.frame msg))
    (known : s.stateOf socket = some state) (enabled : state.bindingEnabled)
    (named : msg.bindingId = some bindingId)
    (context : isReadinessContextValid msg state.receiptSocketGeneration
      (state.receiptPrevious.map Frame.marks) call.now) :
    Moves cfg s call (s.acceptReceipt state msg bindingId call.now) := by
  have refused : Moves cfg s call (s,.refused) := .keeps s _ (.refl s) (.same rfl) rfl (by decide)
  unfold Host.acceptReceipt
  split
  · exact refused
  split
  · exact .keeps s _ (.refl s) (.same rfl) rfl (by decide)
  split
  · exact refused
  split
  · exact refused
  split
  · exact refused
  split
  · exact refused
  · exact .receives state _ msg socket _ event known enabled (by rw [named]; rfl) context rfl enabled
      rfl rfl rfl rfl

def Host.disconnected (s : Host) (mono : Clock) : Host :=
  match s.connection with
  | none => s
  | some previous => s.dropConnection previous mono

theorem register_moves (s : Host) (call : Call) (negotiated : Negotiated) :
    Moves cfg s call (s.register cfg negotiated call.mono,.ignored) := by
  let dropped := s.disconnected call.mono
  have drops : Drops s call.mono dropped := by
    simp only [dropped,Host.disconnected]
    split
    · exact ⟨.refl s,.same rfl,rfl,rfl⟩
    · exact dropConnection_drops ..
  let state := newState dropped.registered negotiated
  let opened := {dropped with connection := some state.socket,readiness := some state}
  let counted := {opened with registered := dropped.registered + 1}
  have reconciles := @reconcile_keeps cfg counted
  refine .opens _ ?_ ?_ (reconciles.registered.trans (congrArg (· + 1) drops.registered))
  · intro next there
    obtain ⟨state',same,keeps⟩ := reconciles.readiness next there
    cases same
    exact ⟨keeps.socket.trans drops.registered,keeps.marks,keeps.receiptSocketGeneration⟩
  · have kept : (s.register cfg negotiated call.mono).authority = dropped.authority := reconciles.authority
    cases drops.authority with
    | same same => exact .same (kept.trans same)
    | stamped authority known retireAt timer same =>
      exact .stamped authority known retireAt timer (kept.trans same)
    | retired expired gone => exact .retired expired (kept.trans gone)

theorem acceptReadiness_moves (event : call.event = .readiness socket message)
    (known : s.stateOf socket = some state) (disabled : state.bindingEnabled = false) :
    Moves cfg s call ((s.acceptReadiness cfg socket message call.now call.mono).1,
      if (s.acceptReadiness cfg socket message call.now call.mono).2 then .accepted else .refused) := by
  have outcome := @acceptReadiness_cases cfg s socket message call.now call.mono
  generalize s.acceptReadiness cfg socket message call.now call.mono = result at outcome ⊢
  cases outcome with
  | refused => exact .keeps s .refused (.refl s) (.same rfl) rfl (by decide)
  | rejected state known looked kept =>
    obtain ⟨readiness,retains,registered⟩ := rejected_keeps (stateOf_some known).2.1 kept
    exact .keeps _ .refused readiness retains registered (by decide)
  | committed state' known' msg frame passes =>
    cases known.symm.trans known'
    obtain ⟨next,commit⟩ := @commitReadiness_spec cfg (s.getReadinessAuthority call.mono).1 state msg
      (fenceFor state (authorityFor s state call.mono)) call.mono
    have enabled (binding : state.bindingEnabled) : False := by
      rw [disabled] at binding
      cases binding
    refine .commits state next msg socket _ _ (frame ▸ event) known passes commit
      (fun binding => (enabled binding).elim) rfl (commit.registered.trans (looked_retains s call.mono).2.2)
      fun next' same => ?_
    cases commit.readiness.symm.trans same
    exact ⟨rfl,rfl,rfl,rfl,fun _ binding => (enabled binding).elim,fun _ => rfl⟩

theorem inventoryReceipt_moves (event : call.event = .readiness socket message)
    (known : s.stateOf socket = some state) (enabled : state.bindingEnabled) :
    Moves cfg s call (s.acceptInventoryReceiptReadiness cfg state message call.now call.mono) := by
  have refused : Moves cfg s call (s,.refused) := .keeps s _ (.refl s) (.same rfl) rfl (by decide)
  unfold Host.acceptInventoryReceiptReadiness
  cases message with
  | malformed => exact refused
  | frame msg =>
    simp only
    split
    · exact refused
    next shaped =>
    rw [not_eq_true',not_eq_false,isInventoryReceiptReadinessMessage,and_eq_true] at shaped
    cases named : msg.bindingId with
    | some bindingId => exact acceptReceipt_moves event known enabled named shaped.2
    | none =>
      have here := (stateOf_some known).2.2
      have outcome := @acceptReadiness_cases cfg s state.socket (.frame msg) call.now call.mono
      generalize s.acceptReadiness cfg state.socket (.frame msg) call.now call.mono = result at outcome ⊢
      cases outcome with
      | refused => exact refused
      | rejected state' known' looked kept =>
        obtain ⟨readiness,retains,registered⟩ := rejected_keeps (stateOf_some known').2.1 kept
        exact .keeps _ _ readiness retains registered (by decide)
      | committed state' known' msg' frame passes =>
        cases frame
        cases (here ▸ known').symm.trans known
        obtain ⟨next,commit⟩ := @commitReadiness_spec cfg (s.getReadinessAuthority call.mono).1 state msg
          (fenceFor state (authorityFor s state call.mono)) call.mono
        have registered := commit.registered.trans (looked_retains s call.mono).2.2
        generalize Host.commitReadiness cfg (s.getReadinessAuthority call.mono).1 state msg
          (fenceFor state (authorityFor s state call.mono)) call.mono = result at commit registered
        obtain ⟨s',accepted⟩ := result
        cases accepted with
        | false =>
          refine .commits state next msg socket _ s' event known passes commit (fun _ => ⟨named,shaped.2⟩) rfl
            registered fun next' same => ?_
          cases commit.readiness.symm.trans same
          exact ⟨rfl,rfl,rfl,rfl,fun done => (nomatch done),fun _ => rfl⟩
        | true =>
          have there : s'.readiness = some next := commit.readiness
          simp only [there,if_true]
          refine .commits state next msg socket _ _ event known passes commit (fun _ => ⟨named,shaped.2⟩) rfl
            registered fun next' same => ?_
          cases same
          refine ⟨rfl,rfl,rfl,rfl,fun _ _ => ⟨?_,rfl⟩,fun failed => nomatch failed⟩
          simp only [commit.same.receiptSocketGeneration]

theorem readinessFrame_moves (event : call.event = .readiness socket message) :
    Moves cfg s call (s.acceptReadinessFrame cfg socket message call.now call.mono) := by
  unfold Host.acceptReadinessFrame
  cases known : s.stateOf socket with
  | none => exact .keeps s _ (.refl s) (.same rfl) rfl (by decide)
  | some state =>
    simp only
    split
    · next enabled => exact inventoryReceipt_moves event known enabled
    · next disabled =>
      exact acceptReadiness_moves event known (eq_false_iff.mpr disabled)

theorem step_moves (s : Host) (call : Call) : Moves cfg s call (step cfg s call) := by
  unfold step
  cases event : call.event with
  | register negotiated => exact register_moves s call negotiated
  | disconnect socket =>
    have drops := dropConnection_drops s socket call.mono
    exact .keeps _ _ drops.readiness drops.authority drops.registered (by decide)
  | readiness socket message => exact readinessFrame_moves event
  | bindOk socket msg =>
    have keeps := @acceptBindOk_keeps cfg s socket msg
    exact .keeps _ _ keeps.readiness (.same keeps.authority) keeps.registered (by decide)
  | unbindOk socket bindingId =>
    have keeps := @acceptUnbindOk_keeps cfg s socket bindingId
    exact .keeps _ _ keeps.readiness (.same keeps.authority) keeps.registered (by decide)
  | setManagedRoutes descriptors =>
    have keeps := @reconcile_keeps cfg {s with managedDescriptors := descriptorsOf cfg descriptors}
    exact .keeps _ _ keeps.readiness (.same keeps.authority) keeps.registered (by decide)
  | retirementTimer =>
    have drops := retireAuthority_drops s call.mono
    exact .keeps _ _ drops.readiness drops.authority drops.registered (by decide)
  | close =>
    have registered : (s.disconnected call.mono).registered = s.registered := by
      unfold Host.disconnected
      split
      · rfl
      · exact (dropConnection_drops ..).registered
    exact .closes _ event rfl registered

def Accepts (cfg : Config) (s : Host) (call : Call) (socket : Nat) (msg : Frame) : Prop :=
  call.event = .readiness socket (.frame msg) ∧ (step cfg s call).2 = .accepted

structure Follows (f : Frame) (marks : Previous) : Prop where
  socketGeneration : marks.socketGeneration = f.socketGeneration
  revision : f.revision.value ≤ marks.revision.value
  observedAt : f.observedAt.value ≤ marks.observedAt.value

structure Heard (f : Frame) (state : ReadinessState) : Prop where
  marks : state.bindingEnabled = false → ∃ marks, state.marks = some marks ∧ Follows f marks
  receipts : state.bindingEnabled = true → state.receiptSocketGeneration = some f.socketGeneration ∧
    ∃ previous, state.receiptPrevious = some previous ∧ Follows f previous.marks

structure Remembers (n : Nat) (f : Frame) (s : Host) : Prop where
  registered : n < s.registered
  heard : ∀ state, s.readiness = some state → state.socket = n → Heard f state

variable {g : Frame}

theorem context_follows (follows : Follows f marks)
    (context : isReadinessContextValid g (some marks.socketGeneration) (some marks) receivedAt) :
    g.socketGeneration = f.socketGeneration ∧ f.revision.value < g.revision.value ∧
      f.observedAt.value ≤ g.observedAt.value := by
  simp only [isReadinessContextValid,all_some,and_eq_true,beq_iff_eq,not_eq_true',
    and_eq_false_iff,beq_eq_false_iff_ne,decide_eq_false_iff_not,Nat.not_le,Nat.not_lt] at context
  obtain ⟨⟨generation,fresh,ordered⟩,_⟩ := context
  have ahead : marks.revision.value < g.revision.value :=
    fresh.resolve_left fun apart => apart generation.symm
  exact ⟨generation.trans follows.socketGeneration,follows.revision.trans_lt ahead,
    follows.observedAt.trans ordered⟩

theorem follows_self (f : Frame) : Follows f f.marks := ⟨rfl,Nat.le_refl _,Nat.le_refl _⟩

theorem follows_after (generation : g.socketGeneration = f.socketGeneration)
    (ahead : f.revision.value < g.revision.value) (ordered : f.observedAt.value ≤ g.observedAt.value) :
    Follows f g.marks := ⟨generation,Nat.le_of_lt ahead,ordered⟩

theorem KeepsMarks.heard (keeps : KeepsMarks state next) (heard : Heard f state) : Heard f next := by
  constructor
  · intro disabled
    rw [keeps.marks]
    exact heard.marks (keeps.bindingEnabled ▸ disabled)
  · intro enabled
    rw [keeps.receiptSocketGeneration,keeps.receiptPrevious]
    exact heard.receipts (keeps.bindingEnabled ▸ enabled)

/-- A frame that the context admits, compared with one that the connection knows. -/
theorem Heard.receipt (heard : Heard f state) (enabled : state.bindingEnabled)
    (context : isReadinessContextValid g state.receiptSocketGeneration
      (state.receiptPrevious.map Frame.marks) receivedAt) :
    g.socketGeneration = f.socketGeneration ∧ f.revision.value < g.revision.value ∧
      f.observedAt.value ≤ g.observedAt.value := by
  obtain ⟨generation,previous,known,follows⟩ := heard.receipts enabled
  rw [generation,known,map_some,← follows.socketGeneration] at context
  exact context_follows follows context

theorem Heard.host (heard : Heard f state) (disabled : state.bindingEnabled = false)
    (context : isReadinessContextValid g (state.marks.map Previous.socketGeneration) state.marks receivedAt) :
    g.socketGeneration = f.socketGeneration ∧ f.revision.value < g.revision.value ∧
      f.observedAt.value ≤ g.observedAt.value := by
  obtain ⟨marks,known,follows⟩ := heard.marks disabled
  rw [known] at context
  exact context_follows follows context

theorem generation_context (context : isReadinessContextValid g generation marks receivedAt) :
    generation.getD g.socketGeneration = g.socketGeneration := by
  cases generation with
  | none => rfl
  | some current =>
    simp only [isReadinessContextValid,all_some,and_eq_true,beq_iff_eq] at context
    exact context.1.1.symm

/-- The generation of a connection does not change. -/
theorem marksAfter_context
    (context : isReadinessContextValid g (state.marks.map Previous.socketGeneration) state.marks
      receivedAt) : marksAfter state g = g.marks := by
  cases known : state.marks with
  | none => simp [marksAfter,known,Frame.marks]
  | some marks =>
    simp only [known,isReadinessContextValid,map_some,all_some,and_eq_true,
      beq_iff_eq] at context
    simp [marksAfter,known,Frame.marks,context.1.1]

theorem step_remembers (remembers : Remembers n f s) (call : Call) :
    Remembers n f (step cfg s call).1 := by
  have moves := @step_moves cfg s call
  generalize step cfg s call = result at moves ⊢
  cases moves with
  | keeps s' answer readiness authority registered unaccepted =>
    refine ⟨registered ▸ remembers.registered,fun next there here => ?_⟩
    obtain ⟨state,known,keeps⟩ := readiness next there
    exact keeps.heard (remembers.heard state known (keeps.socket.symm.trans here))
  | opens s' fresh authority registered =>
    refine ⟨registered ▸ Nat.lt_succ_of_lt remembers.registered,fun next there here => ?_⟩
    have own := (fresh next there).1
    have past := remembers.registered
    omega
  | closes s' event gone registered =>
    exact ⟨registered ▸ remembers.registered,fun next there _ => by rw [gone] at there; cases there⟩
  | receives state next msg socket answer event known enabled named context socket' enabled' marks highWater
      generation previous =>
    refine ⟨remembers.registered,fun next' there here => ?_⟩
    cases there
    have heard := remembers.heard state (stateOf_some known).2.1 (socket'.symm.trans here)
    obtain ⟨same,ahead,ordered⟩ := heard.receipt enabled context
    refine ⟨fun disabled => ?_,fun _ => ⟨?_,msg,previous,follows_after same ahead ordered⟩⟩
    · rw [enabled'] at disabled
      cases disabled
    · rw [generation,(heard.receipts enabled).1]
      rfl
  | commits state next msg socket result s' event known passes commit unnamed authority registered left =>
    refine ⟨registered ▸ remembers.registered,fun next' there here => ?_⟩
    obtain ⟨socket',enabled',marks',_,receipts',unchanged⟩ := left next' there
    have heard := remembers.heard state (stateOf_some known).2.1
      ((commit.same.socket.symm.trans socket'.symm).trans here)
    have binding' : next'.bindingEnabled = state.bindingEnabled :=
      enabled'.trans commit.same.bindingEnabled
    constructor
    · intro disabled
      obtain ⟨same,ahead,ordered⟩ := heard.host (binding' ▸ disabled) passes.context
      refine ⟨msg.marks,?_,follows_after same ahead ordered⟩
      rw [marks',commit.marks,marksAfter_context passes.context]
    · intro enabled
      rw [binding'] at enabled
      obtain ⟨same,ahead,ordered⟩ := heard.receipt enabled (unnamed enabled).2
      cases done : result.2 with
      | true =>
        obtain ⟨generation,previous⟩ := receipts' done enabled
        refine ⟨?_,msg,previous,follows_after same ahead ordered⟩
        rw [generation,(heard.receipts enabled).1]
        rfl
      | false =>
        rw [unchanged done,commit.same.receiptSocketGeneration,commit.same.receiptPrevious]
        exact heard.receipts enabled

/-- Sockets are numbered in the order in which they register. -/
def Numbered (s : Host) : Prop := ∀ state, s.readiness = some state → state.socket < s.registered

theorem step_numbered {s : Host} (numbered : Numbered s) (call : Call) :
    Numbered (step cfg s call).1 := by
  have moves := @step_moves cfg s call
  generalize step cfg s call = result at moves ⊢
  cases moves with
  | keeps s' answer readiness authority registered unaccepted =>
    intro next there
    obtain ⟨state,known,keeps⟩ := readiness next there
    have below := numbered state known
    have same := keeps.socket
    simp only at registered ⊢
    omega
  | opens s' fresh authority registered =>
    intro next there
    have own := (fresh next there).1
    simp only at registered ⊢
    omega
  | closes s' event gone registered =>
    intro next there
    rw [gone] at there
    cases there
  | receives state next msg socket answer event known enabled named context socket' =>
    intro next' there
    cases there
    have below := numbered state (stateOf_some known).2.1
    exact socket' ▸ below
  | commits state next msg socket result s' event known passes commit unnamed authority registered left =>
    intro next' there
    have below := numbered state (stateOf_some known).2.1
    have same := (left next' there).1.trans commit.same.socket
    simp only at registered ⊢
    omega

/-- What an accepted frame finds, and what it leaves. -/
theorem accepts_moves (accepts : Accepts cfg s call socket msg) : ∃ state, s.stateOf socket = some state ∧
    (state.bindingEnabled → isReadinessContextValid msg state.receiptSocketGeneration
      (state.receiptPrevious.map Frame.marks) call.now) ∧
    (state.bindingEnabled = false → isReadinessContextValid msg
      (state.marks.map Previous.socketGeneration) state.marks call.now) ∧
    ∀ next, (step cfg s call).1.readiness = some next → Heard msg next := by
  obtain ⟨event,answer⟩ := accepts
  have moves := @step_moves cfg s call
  generalize step cfg s call = result at moves answer ⊢
  cases moves with
  | keeps s' answer' readiness authority registered unaccepted => exact absurd answer unaccepted
  | opens => cases answer
  | closes => cases answer
  | receives state next msg' socket' answer' event' known enabled named context socket'' enabled' marks
      highWater generation previous =>
    cases event.symm.trans event'
    refine ⟨state,known,fun _ => context,fun disabled => ?_,fun next' there => ?_⟩
    · rw [enabled] at disabled
      cases disabled
    · cases there
      refine ⟨fun disabled => ?_,fun _ => ⟨?_,msg,previous,follows_self msg⟩⟩
      · rw [enabled'] at disabled
        cases disabled
      · rw [generation,generation_context context]
  | commits state next msg' socket' result s' event' known passes commit unnamed authority registered left =>
    cases event.symm.trans event'
    refine ⟨state,known,fun enabled => (unnamed enabled).2,fun _ => passes.context,fun next' there => ?_⟩
    obtain ⟨_,enabled',marks',_,receipts',_⟩ := left next' there
    have binding' : next'.bindingEnabled = state.bindingEnabled :=
      enabled'.trans commit.same.bindingEnabled
    have done : result.2 := by
      by_contra failed
      rw [if_neg failed] at answer
      cases answer
    refine ⟨fun _ => ⟨msg.marks,?_,follows_self msg⟩,fun enabled => ?_⟩
    · rw [marks',commit.marks,marksAfter_context passes.context]
    · rw [binding'] at enabled
      obtain ⟨generation,previous⟩ := receipts' done enabled
      refine ⟨?_,msg,previous,follows_self msg⟩
      rw [generation,generation_context (unnamed enabled).2]

end GjcRemote.HostReadiness
