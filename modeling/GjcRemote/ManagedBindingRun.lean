import GjcRemote.HostReadinessRetained
import GjcRemote.ManagedBindingSound
import Mathlib.Data.List.Induction

/-! What one event does to the managed bindings of a host, what holds of them after a run,
and which bindings routes may use. -/
namespace GjcRemote.HostReadiness

open OrderedMap
open ReceiptBinding (Generation Hex64 OpaqueId ReceiptAuthority Proof)

variable {cfg : Config} {named : ReceiptAuthority → Prop}

structure Leaves (s s' : Host) : Prop where
  connection : s'.connection = s.connection
  descriptors : s'.managedDescriptors = s.managedDescriptors
  issued : s'.issued = s.issued
  readiness : ∀ next, s'.readiness = some next → ∃ state, s.readiness = some state ∧
    next.socket = state.socket ∧ next.bindingEnabled = state.bindingEnabled ∧
    next.bindingsById = state.bindingsById ∧ next.bindingsByDescriptor = state.bindingsByDescriptor

variable (s : Host)

theorem Leaves.refl : Leaves s s := ⟨rfl,rfl,rfl,fun next there => ⟨next,there,rfl,rfl,rfl,rfl⟩⟩

theorem Leaves.trans {s s' s'' : Host} (one : Leaves s s') (two : Leaves s' s'') : Leaves s s'' := by
  refine ⟨two.connection.trans one.connection,two.descriptors.trans one.descriptors,
    two.issued.trans one.issued,fun next there => ?_⟩
  obtain ⟨middle,there',socket,enabled,byId,byDescriptor⟩ := two.readiness next there
  obtain ⟨state,known,socket',enabled',byId',byDescriptor'⟩ := one.readiness middle there'
  exact ⟨state,known,socket.trans socket',enabled.trans enabled',byId.trans byId',
    byDescriptor.trans byDescriptor'⟩

/-- A binding is bound by a message of its own, and by nothing else. -/
def Binds (cfg : Config) (socket : Nat) (call : Call) (b b' : ManagedBinding) : Prop :=
  b'.status = .bound → (b.status = .bound ∧ b'.receipt = b.receipt) ∨
    ∃ proof, call.event = .bindOk socket ⟨b.bindingId,proof⟩ ∧ b'.receipt = some proof ∧
      cfg.workspaceBindingFingerprint b.authority proof.inventoryGeneration proof.inventoryFingerprint =
        proof.bindingFingerprint

/-- The binding is retired: its identifier stays taken. -/
abbrev retire (state : ReadinessState) (id : OpaqueId) (b : ManagedBinding) : ReadinessState :=
  {state with
    bindingsById := state.bindingsById.set id {b with status := .tombstone},
    bindingsByDescriptor := state.bindingsByDescriptor.delete b.descriptorKey}

inductive Rebinds (cfg : Config) (s : Host) (call : Call) : Host → Prop where
  | leaves (s' : Host) (leaves : Leaves s s') : Rebinds cfg s call s'
  | drops (s' : Host) (connection : s'.connection = none)
      (descriptors : s'.managedDescriptors = s.managedDescriptors) (issued : s'.issued = s.issued)
      (cleared : ∀ next, s'.readiness = some next →
        next.bindingsById = .empty ∧ next.bindingsByDescriptor = .empty) : Rebinds cfg s call s'
  | updates (state next : ReadinessState) (known : s.readiness = some state) (live : Live s state)
      (id : OpaqueId) (b b' : ManagedBinding) (there : state.bindingsById.get id = some b)
      (same : SameBinding b b') (active : b.isActive = true) (active' : b'.isActive = true)
      (binds : b.bindingId = id → Binds cfg state.socket call b b')
      (socket : next.socket = state.socket) (enabled : next.bindingEnabled = true)
      (byId : next.bindingsById = state.bindingsById.set id b')
      (byDescriptor : next.bindingsByDescriptor = state.bindingsByDescriptor) :
      Rebinds cfg s call (s.setState next)
  | retires (state : ReadinessState) (known : s.readiness = some state) (live : Live s state)
      (id : OpaqueId) (b : ManagedBinding) (there : state.bindingsById.get id = some b)
      (unbinding : b.status = .unbinding) :
      Rebinds cfg s call (reconcileManagedBindings cfg (s.setState (retire state id b)))
  | opens (before : Host) (socket : Nat) (negotiated : Negotiated) (connection : before.connection = some socket)
      (readiness : before.readiness = some (newState socket negotiated))
      (descriptors : before.managedDescriptors = s.managedDescriptors) (issued : before.issued = s.issued) :
      Rebinds cfg s call (reconcileManagedBindings cfg before)
  | routes (descriptors : List Descriptor) (event : call.event = .setManagedRoutes descriptors) :
      Rebinds cfg s call
        (reconcileManagedBindings cfg {s with managedDescriptors := descriptorsOf cfg descriptors})

theorem looked_leaves (mono : Clock) : Leaves s (s.getReadinessAuthority mono).1 := by
  rcases getReadinessAuthority_cases s mono with same | ⟨_,gone⟩
  · rw [same]
    exact .refl s
  · rw [gone]
    exact ⟨rfl,rfl,rfl,fun next there => ⟨next,there,rfl,rfl,rfl,rfl⟩⟩

theorem acceptReadiness_leaves (s : Host) (socket : Nat) (message : Message) (receivedAt : Option Timestamp)
    (mono : Clock) : Leaves s (s.acceptReadiness cfg socket message receivedAt mono).1 := by
  have outcome := @acceptReadiness_cases cfg s socket message receivedAt mono
  generalize s.acceptReadiness cfg socket message receivedAt mono = result at outcome ⊢
  cases outcome with
  | refused => exact .refl s
  | rejected state known looked kept =>
    have there := (stateOf_some known).2.1
    have looks : Leaves s looked := by
      rcases kept with rfl | rfl
      · exact .refl _
      · exact looked_leaves s mono
    exact ⟨looks.connection,looks.descriptors,looks.issued,fun next same => by
      cases same; exact ⟨state,there,rfl,rfl,rfl,rfl⟩⟩
  | committed state known msg frame passes =>
    have there := (stateOf_some known).2.1
    have looks := looked_leaves s mono
    obtain ⟨next,commit⟩ := @commitReadiness_spec cfg (s.getReadinessAuthority mono).1 state msg
      (fenceFor state (authorityFor s state mono)) mono
    refine ⟨commit.connection.trans looks.connection,commit.descriptors.trans looks.descriptors,
      commit.issued.trans looks.issued,fun next' same => ?_⟩
    cases commit.readiness.symm.trans same
    exact ⟨state,there,commit.same.socket,commit.same.bindingEnabled,commit.same.bindingsById,
      commit.same.bindingsByDescriptor⟩

theorem markOffline_clears (state : ReadinessState) (mono : Clock) :
    Leaves (s.setState {state with bindingsById := .empty,bindingsByDescriptor := .empty})
      (s.markOfflineReadiness state mono) := by
  have looks := looked_leaves
    (s.setState {state with bindingsById := .empty,bindingsByDescriptor := .empty}) mono
  simp only [Host.markOfflineReadiness]
  generalize Host.getReadinessAuthority
    (s.setState {state with bindingsById := .empty,bindingsByDescriptor := .empty}) mono = looked at looks ⊢
  obtain ⟨s',authority⟩ := looked
  cases authority with
  | none => exact looks
  | some authority => exact ⟨looks.connection,looks.descriptors,looks.issued,looks.readiness⟩

/-- The loss of a connection: nothing, or its bindings go. -/
theorem dropConnection_cases (socket : Nat) (mono : Clock) :
    s.dropConnection socket mono = s ∨ ((s.dropConnection socket mono).connection = none ∧
      (s.dropConnection socket mono).managedDescriptors = s.managedDescriptors ∧
      (s.dropConnection socket mono).issued = s.issued ∧
      ∀ next, (s.dropConnection socket mono).readiness = some next →
        next.bindingsById = .empty ∧ next.bindingsByDescriptor = .empty) := by
  simp only [Host.dropConnection]
  split
  · refine .inr ?_
    cases known : s.readiness with
    | none => exact ⟨rfl,rfl,rfl,fun next there => by cases there⟩
    | some state =>
      have clears := markOffline_clears {s with connection := none,readiness := some state} state mono
      refine ⟨clears.connection,clears.descriptors,clears.issued,fun next there => ?_⟩
      obtain ⟨state',same,_,_,byId,byDescriptor⟩ := clears.readiness next there
      cases same
      exact ⟨byId,byDescriptor⟩
  · exact .inl rfl

theorem dropConnection_rebinds (call : Call) (socket : Nat) (mono : Clock) :
    Rebinds cfg s call (s.dropConnection socket mono) := by
  rcases dropConnection_cases s socket mono with same | ⟨connection,descriptors,issued,cleared⟩
  · rw [same]
    exact .leaves s (.refl s)
  · exact .drops _ connection descriptors issued cleared

theorem retireAuthority_leaves (mono : Clock) : Leaves s (s.retireAuthority mono) := by
  have same (authority : Option Authority) : Leaves s {s with authority := authority} :=
    ⟨rfl,rfl,rfl,fun next there => ⟨next,there,rfl,rfl,rfl,rfl⟩⟩
  unfold Host.retireAuthority
  repeat' split
  all_goals first | exact .refl s | exact same _

theorem register_rebinds (call : Call) (negotiated : Negotiated) (mono : Clock) :
    Rebinds cfg s call (s.register cfg negotiated mono) := by
  let dropped := s.disconnected mono
  have kept : dropped.managedDescriptors = s.managedDescriptors ∧ dropped.issued = s.issued := by
    simp only [dropped,Host.disconnected]
    split
    · exact ⟨rfl,rfl⟩
    · next previous _ =>
      rcases dropConnection_cases s previous mono with same | ⟨_,descriptors,issued,_⟩
      · rw [same]
        exact ⟨rfl,rfl⟩
      · exact ⟨descriptors,issued⟩
  exact .opens {dropped with
    connection := some dropped.registered,readiness := some (newState dropped.registered negotiated),
    registered := dropped.registered + 1} dropped.registered negotiated rfl rfl kept.1 kept.2

theorem acceptBindOk_spec (b : ManagedBinding) (proof : Proof) (b' : ManagedBinding)
    (accepted : acceptBindOk cfg b proof = some b') : SameBinding b b' ∧ b'.status = .bound ∧
      b'.receipt = some proof ∧
      cfg.workspaceBindingFingerprint b.authority proof.inventoryGeneration proof.inventoryFingerprint =
        proof.bindingFingerprint := by
  simp only [acceptBindOk] at accepted
  split at accepted
  · cases accepted
  next matches' =>
  have fingerprint : cfg.workspaceBindingFingerprint b.authority proof.inventoryGeneration
      proof.inventoryFingerprint = proof.bindingFingerprint := by simpa using matches'
  split at accepted
  · cases accepted
    exact ⟨⟨rfl,rfl,rfl⟩,rfl,rfl,fingerprint⟩
  · split at accepted
    · cases accepted
    · cases accepted
      exact ⟨⟨rfl,rfl,rfl⟩,rfl,rfl,fingerprint⟩

theorem acceptBindOk_rebinds (call : Call) (socket : Nat) (msg : BindOk)
    (event : call.event = .bindOk socket msg) : Rebinds cfg s call (s.acceptBindOk cfg socket msg).1 := by
  have same : Rebinds cfg s call s := .leaves s (.refl s)
  unfold Host.acceptBindOk
  cases known : s.stateOf socket with
  | none => exact same
  | some state =>
    obtain ⟨connected,there,here⟩ := stateOf_some known
    simp only
    split
    · exact same
    next able =>
    have live : Live s state := ⟨by simpa using able,here ▸ connected⟩
    cases found : state.bindingsById.get msg.bindingId with
    | none => exact same
    | some binding =>
      have accepted := @acceptBindOk_spec cfg binding msg.proof
      simp only
      cases bound : HostReadiness.acceptBindOk cfg binding msg.proof with
      | none => cases status : binding.status <;> exact same
      | some b' =>
        obtain ⟨same',status',receipt,fingerprint⟩ := accepted b' bound
        have awaited (active : binding.isActive) :
            Rebinds cfg s call
              (s.setState {state with bindingsById := state.bindingsById.set msg.bindingId b'}) := by
          refine .updates state _ there live msg.bindingId binding b' found same' active (isActive_bound status')
            (fun own _ => .inr ⟨msg.proof,?_,receipt,fingerprint⟩) rfl live.1 rfl rfl
          rw [event,own,here]
        cases status : binding.status with
        | unbinding => exact same
        | bound => exact same
        | binding =>
          exact awaited (by rw [ManagedBinding.isActive,status]; rfl)
        | pending =>
          exact awaited (by rw [ManagedBinding.isActive,status]; rfl)
        | negative => exact same
        | tombstone => exact same

theorem acceptUnbindOk_rebinds (call : Call) (socket : Nat) (bindingId : OpaqueId) :
    Rebinds cfg s call (s.acceptUnbindOk cfg socket bindingId).1 := by
  have same : Rebinds cfg s call s := .leaves s (.refl s)
  unfold Host.acceptUnbindOk
  cases known : s.stateOf socket with
  | none => exact same
  | some state =>
    obtain ⟨connected,there,here⟩ := stateOf_some known
    simp only
    split
    · exact same
    next able =>
    have live : Live s state := ⟨by simpa using able,here ▸ connected⟩
    cases found : state.bindingsById.get bindingId with
    | none => exact same
    | some binding =>
      simp only
      split
      · exact same
      · next unbinding =>
        exact .retires state there live bindingId binding found (by simpa using unbinding)

theorem isAwaited_active (awaited : isAwaited b) : b.isActive := by
  rw [isAwaited] at awaited
  rw [ManagedBinding.isActive]
  cases status : b.status <;> simp_all

theorem receive_spec (b : ManagedBinding) (msg : Frame) (awaited : isAwaited b) :
    SameBinding b (b.receive msg).1 ∧ (b.receive msg).1.isActive ∧
      ((b.receive msg).1.status = .bound → b.status = .bound ∧ (b.receive msg).1.receipt = b.receipt) := by
  have active := isAwaited_active awaited
  unfold ManagedBinding.receive
  cases msg.lastError with
  | some error =>
    simp only
    split
    · exact ⟨⟨rfl,rfl,rfl⟩,rfl,fun none => nomatch none⟩
    · exact ⟨⟨rfl,rfl,rfl⟩,rfl,fun none => nomatch none⟩
  | none =>
    simp only
    split
    · exact ⟨⟨rfl,rfl,rfl⟩,active,fun bound => ⟨bound,rfl⟩⟩
    · split
      · exact ⟨⟨rfl,rfl,rfl⟩,active,fun bound => ⟨bound,rfl⟩⟩
      · exact ⟨⟨rfl,rfl,rfl⟩,active,fun bound => ⟨bound,rfl⟩⟩

theorem acceptReceipt_rebinds {s : Host} (msg : Frame)
    (bindingId : OpaqueId) (known : s.readiness = some state) (live : Live s state)
    (receivedAt : Option Timestamp) :
    Rebinds cfg s call (s.acceptReceipt state msg bindingId receivedAt).1 := by
  have same : Rebinds cfg s call s := .leaves s (.refl s)
  unfold Host.acceptReceipt
  cases found : state.bindingsById.get bindingId with
  | none => exact same
  | some b =>
    simp only
    split
    · exact same
    split
    · exact same
    next awaits =>
    split
    · exact same
    split
    · exact same
    split
    · exact same
    have awaited : isAwaited b := by simpa using awaits
    obtain ⟨same',active,bound⟩ := receive_spec b msg awaited
    exact .updates state _ known live bindingId b (b.receive msg).1 found same' (isAwaited_active awaited)
      active (fun _ status => .inl (bound status)) rfl live.1 rfl rfl

theorem readinessFrame_rebinds (call : Call) (socket : Nat) (message : Message)
    (receivedAt : Option Timestamp) (mono : Clock) :
    Rebinds cfg s call (s.acceptReadinessFrame cfg socket message receivedAt mono).1 := by
  have same : Rebinds cfg s call s := .leaves s (.refl s)
  unfold Host.acceptReadinessFrame
  cases known : s.stateOf socket with
  | none => exact same
  | some state =>
    obtain ⟨connected,there,here⟩ := stateOf_some known
    simp only
    split
    · next enabled =>
      unfold Host.acceptInventoryReceiptReadiness
      cases message with
      | malformed => exact same
      | frame msg =>
        simp only
        split
        · exact same
        cases msg.bindingId with
        | some bindingId => exact acceptReceipt_rebinds msg bindingId there ⟨enabled,here ▸ connected⟩ receivedAt
        | none =>
          have leaves := @acceptReadiness_leaves cfg s state.socket (.frame msg) receivedAt mono
          generalize s.acceptReadiness cfg state.socket (.frame msg) receivedAt mono = result at leaves ⊢
          obtain ⟨s',accepted⟩ := result
          cases accepted with
          | false => exact .leaves s' leaves
          | true =>
            cases readied : s'.readiness with
            | none => exact .leaves s' leaves
            | some state' =>
              refine .leaves _ (leaves.trans ⟨rfl,rfl,rfl,fun next same => ?_⟩)
              cases same
              exact ⟨state',readied,rfl,rfl,rfl,rfl⟩
    · exact .leaves _ (acceptReadiness_leaves ..)

theorem step_rebinds (s : Host) (call : Call) : Rebinds cfg s call (step cfg s call).1 := by
  unfold step
  cases event : call.event with
  | register negotiated => exact register_rebinds s call negotiated call.mono
  | disconnect socket => exact dropConnection_rebinds s call socket call.mono
  | readiness socket message => exact readinessFrame_rebinds s call socket message call.now call.mono
  | bindOk socket msg => exact acceptBindOk_rebinds s call socket msg event
  | unbindOk socket bindingId => exact acceptUnbindOk_rebinds s call socket bindingId
  | setManagedRoutes descriptors => exact .routes descriptors event
  | retirementTimer => exact .leaves _ (retireAuthority_leaves s call.mono)
  | close =>
    refine .drops _ rfl ?_ ?_ fun next there => by cases there
    all_goals
      simp only
      split
      · rfl
      · next socket _ =>
        rcases dropConnection_cases s socket call.mono with same | ⟨_,descriptors,issued,_⟩
        · rw [same]
        · first | exact descriptors | exact issued

/-- The authorities of the descriptors of an event satisfy `named`. -/
def Names (named : ReceiptAuthority → Prop) (call : Call) : Prop :=
  ∀ descriptors, call.event = .setManagedRoutes descriptors → ∀ d ∈ descriptors, named d.authority

/-- What is bound afterwards was bound before with that receipt, or the event binds it. -/
def Renews (cfg : Config) (s : Host) (call : Call) (s' : Host) : Prop :=
  ∀ next, s'.readiness = some next → ∀ id b', next.bindingsById.get id = some b' → b'.status = .bound →
    ∃ state b, s.readiness = some state ∧ next.socket = state.socket ∧
      state.bindingsById.get id = some b ∧ b.bindingId = id ∧ SameBinding b b' ∧ Live s state ∧
      Binds cfg state.socket call b b'

theorem descriptorsOf_keyed (all : ∀ d ∈ descriptors, named d.authority) :
    ∀ key d, (descriptorsOf cfg descriptors).get key = some d → Keyed cfg named (key,d) := by
  suffices folded : ∀ (next : OrderedMap Hex64 Descriptor),
      (∀ key d, next.get key = some d → Keyed cfg named (key,d)) →
      ∀ key d, (descriptors.foldl (fun next descriptor =>
        let key := cfg.canonicalJsonHash descriptor.authority
        if (next.get key).isSome then next else next.set key descriptor) next).get key = some d →
      Keyed cfg named (key,d) from folded .empty fun _ _ there => nomatch there
  induction descriptors with
  | nil => exact fun next keyed => keyed
  | cons descriptor rest ih =>
    rw [List.forall_mem_cons] at all
    intro next keyed
    refine ih all.2 _ fun key d there => ?_
    simp only at there
    split at there
    · exact keyed key d there
    · rw [get_set] at there
      split at there
      · next here =>
        cases there
        exact ⟨here.symm,all.1⟩
      · exact keyed key d there

theorem Sound.live {s : Host} (sound : Sound cfg named s) (known : s.readiness = some state) {id : OpaqueId}
    (there : state.bindingsById.get id = some b) : Live s state := by
  by_contra dead
  rw [(sound.idle state known dead).1] at there
  cases there

/-- A reconciliation of the host as it is, but for its retired bindings and its descriptors. -/
theorem reconciled_renews {s before s' : Host} (sound : Sound cfg named s)
    (binds : ∀ next, s'.readiness = some next → ∃ state, before.readiness = some state ∧
      next.socket = state.socket ∧ BindsNone state.bindingsById next.bindingsById)
    (retires : ∀ state', before.readiness = some state' → ∃ state, s.readiness = some state ∧
      state'.socket = state.socket ∧ BindsNone state.bindingsById state'.bindingsById) :
    Renews cfg s call s' := by
  intro next there id b found bound
  obtain ⟨state',there',socket,none⟩ := binds next there
  obtain ⟨state,known,socket',none'⟩ := retires state' there'
  have found' := none' id b (none id b found bound) bound
  exact ⟨state,b,known,socket.trans socket',found',((sound.tracked state known).own id b found').1,
    ⟨rfl,rfl,rfl⟩,sound.live known found',fun bound => .inl ⟨bound,rfl⟩⟩

theorem Leaves.live {s s' : Host} (leaves : Leaves s s')
    (socket : next.socket = state.socket) (enabled : next.bindingEnabled = state.bindingEnabled) :
    Live s' next ↔ Live s state := by
  rw [Live,Live,leaves.connection,socket,enabled]

theorem leaves_sound {s s' : Host} (sound : Sound cfg named s) (leaves : Leaves s s') :
    Sound cfg named s' := by
  constructor
  case keyed =>
    rw [leaves.descriptors]
    exact sound.keyed
  all_goals
    intro next there
    obtain ⟨state,known,socket,enabled,byId,byDescriptor⟩ := leaves.readiness next there
  case tracked =>
    rw [leaves.issued,TrackedIn,byId,byDescriptor]
    exact sound.tracked state known
  case idle =>
    rw [leaves.live socket enabled,byId,byDescriptor]
    exact sound.idle state known
  case desired =>
    rw [leaves.descriptors,byDescriptor]
    exact sound.desired state known
  case converged =>
    rw [leaves.live socket enabled,leaves.descriptors,Converged]
    simp only [Served,byId,byDescriptor]
    exact sound.converged state known

theorem step_sound {s : Host} (sound : Sound cfg named s) (names : Names named call)
    (fresh : Fresh cfg bound) (within : (step cfg s call).1.issued ≤ bound) :
    Sound cfg named (step cfg s call).1 ∧ Renews cfg s call (step cfg s call).1 := by
  have rebinds := @step_rebinds cfg s call
  generalize (step cfg s call).1 = s' at rebinds within ⊢
  cases rebinds with
  | leaves _ leaves =>
    refine ⟨leaves_sound sound leaves,fun next there id b found bound => ?_⟩
    obtain ⟨state,known,socket,_,byId,_⟩ := leaves.readiness next there
    rw [byId] at found
    exact ⟨state,b,known,socket,found,((sound.tracked state known).own id b found).1,⟨rfl,rfl,rfl⟩,
      sound.live known found,fun bound => .inl ⟨bound,rfl⟩⟩
  | drops _ connection descriptors issued cleared =>
    have unlive (next : ReadinessState) : ¬ Live s' next := by
      rintro ⟨_,connected⟩
      rw [connection] at connected
      cases connected
    refine ⟨⟨descriptors ▸ sound.keyed,?_,?_,?_,?_⟩,?_⟩
    · intro next there
      rw [TrackedIn,(cleared next there).1,(cleared next there).2]
      exact .empty _
    · exact fun next there _ => cleared next there
    · intro next there key id listed
      rw [(cleared next there).2] at listed
      cases listed
    · exact fun next _ live => absurd live (unlive next)
    · intro next there id b found
      rw [(cleared next there).1] at found
      cases found
  | updates state next known live id b b' there same active active' binds socket enabled byId byDescriptor =>
    have own := ((sound.tracked state known).own id b there).1
    have listing : ∀ key, next.bindingsByDescriptor.get key = if key = b.descriptorKey ∧ b'.isActive = false
        then none else state.bindingsByDescriptor.get key := fun key => by simp [byDescriptor,active']
    have tracked := (sound.tracked state known).rewrite there same (.inl active) (fun _ => active) listing
    have live' : Live (s.setState next) next := ⟨enabled,socket ▸ live.2⟩
    refine ⟨⟨sound.keyed,?_,?_,?_,?_⟩,?_⟩
    all_goals
      intro next' here
      cases here
    · rw [TrackedIn,byId]
      exact tracked
    · exact fun dead => absurd live' dead
    · rw [byDescriptor]
      exact sound.desired state known
    · intro _
      rcases sound.converged state known live with ⟨id',b'',found,ending⟩ | served
      · refine .inl ⟨id',b'',?_,ending⟩
        rw [byId,get_set_ne]
        · exact found
        · rintro rfl
          cases there.symm.trans found
          rw [ManagedBinding.isActive,ending] at active
          cases active
      · refine .inr fun key d wanted => ?_
        rw [Served,byDescriptor,byId,size_set_old _ _ there]
        exact served key d wanted
    · intro id' b'' found bound
      rw [byId,get_set] at found
      split at found
      · next here =>
        cases found
        subst here
        exact ⟨state,b,known,socket,there,own,same,live,binds own⟩
      · exact ⟨state,b'',known,socket,found,((sound.tracked state known).own id' b'' found).1,
          ⟨rfl,rfl,rfl⟩,live,fun bound => .inl ⟨bound,rfl⟩⟩
  | retires state known live id b there unbinding =>
    have ended : ManagedBinding.isActive {b with status := .tombstone} = false := rfl
    have same : SameBinding b {b with status := .tombstone} := ⟨rfl,rfl,rfl⟩
    have listing : ∀ key, (state.bindingsByDescriptor.delete b.descriptorKey).get key =
        if key = b.descriptorKey ∧ ManagedBinding.isActive {b with status := .tombstone} = false
        then none else state.bindingsByDescriptor.get key := fun key => by
      simp only [get_delete,ended,and_true]
    have tracked := (sound.tracked state known).rewrite there same (.inr unbinding)
      (fun active => by rw [ended] at active; cases active) listing
    have before : Unreconciled cfg named (s.setState (retire state id b)) := by
      refine ⟨sound.keyed,fun next same => ?_,fun next same dead => ?_⟩
      · cases same
        exact tracked
      · cases same
        exact absurd live dead
    obtain ⟨sound',binds⟩ := reconcile_sound before fresh within
    refine ⟨sound',reconciled_renews sound binds fun next same => ?_⟩
    cases same
    exact ⟨state,known,rfl,BindsNone.set fun none => by cases none⟩
  | opens before socket negotiated connection readiness descriptors issued =>
    have before' : Unreconciled cfg named before := by
      refine ⟨descriptors ▸ sound.keyed,fun next same => ?_,fun next same _ => ?_⟩
      · cases readiness.symm.trans same
        exact .empty _
      · cases readiness.symm.trans same
        exact ⟨rfl,rfl⟩
    obtain ⟨sound',binds⟩ := reconcile_sound before' fresh within
    refine ⟨sound',fun next there id b found bound => ?_⟩
    obtain ⟨state,same,_,none⟩ := binds next there
    cases readiness.symm.trans same
    cases none id b found bound
  | routes descriptors event =>
    have before : Unreconciled cfg named {s with managedDescriptors := descriptorsOf cfg descriptors} :=
      ⟨descriptorsOf_keyed (names descriptors event),sound.tracked,sound.idle⟩
    obtain ⟨sound',binds⟩ := reconcile_sound before fresh within
    exact ⟨sound',reconciled_renews sound binds fun next same => ⟨next,same,rfl,.refl _⟩⟩

theorem step_issued (call : Call) : s.issued ≤ (step cfg s call).1.issued := by
  have rebinds := @step_rebinds cfg s call
  generalize (step cfg s call).1 = s' at rebinds ⊢
  cases rebinds with
  | leaves _ leaves => exact leaves.issued.ge
  | drops _ connection descriptors issued => exact issued.ge
  | updates => exact Nat.le_refl _
  | retires state known live id b => exact reconcile_issued (s.setState (retire state id b))
  | opens before socket negotiated connection readiness descriptors issued =>
    exact issued.ge.trans (reconcile_issued before)
  | routes descriptors => exact reconcile_issued {s with managedDescriptors := descriptorsOf cfg descriptors}

/-- The daemon accepted the binding on this connection, for that authority and with that receipt. -/
def Granted (cfg : Config) (earlier : List (Host × Call)) (socket : Nat) (id : OpaqueId)
    (authority : ReceiptAuthority) (receipt : Option Proof) : Prop :=
  ∃ visit ∈ earlier, ∃ proof, visit.1.connection = some socket ∧
    visit.2.event = .bindOk socket ⟨id,proof⟩ ∧ receipt = some proof ∧
    cfg.workspaceBindingFingerprint authority proof.inventoryGeneration proof.inventoryFingerprint =
      proof.bindingFingerprint

def Grants (cfg : Config) (earlier : List (Host × Call)) (s : Host) : Prop :=
  ∀ state, s.readiness = some state → ∀ id b, state.bindingsById.get id = some b → b.status = .bound →
    Granted cfg earlier state.socket id b.authority b.receipt

theorem Renews.grants {s s' : Host} (renews : Renews cfg s call s') (grants : Grants cfg earlier s) :
    Grants cfg (earlier ++ [(s,call)]) s' := by
  intro next there id b' found bound
  obtain ⟨state,b,known,socket,found',own,same,live,binds⟩ := renews next there id b' found bound
  rw [same.authority,socket]
  rcases binds bound with ⟨bound',receipt⟩ | ⟨proof,event,receipt,fingerprint⟩
  · obtain ⟨visit,member,proof,granted⟩ := grants state known id b found' bound'
    exact ⟨visit,List.mem_append_left _ member,proof,receipt ▸ granted⟩
  · exact ⟨(s,call),List.mem_append_right _ (List.mem_singleton.mpr rfl),proof,live.2,own ▸ event,receipt,
      fingerprint⟩

theorem empty_sound : Sound cfg named .empty where
  keyed _ _ there := nomatch there
  tracked _ there := nomatch there
  idle _ there := nomatch there
  desired _ there := nomatch there
  converged _ there := nomatch there

theorem run_sound (fresh : Fresh cfg bound) (calls : List Call)
    (names : ∀ call ∈ calls, Names named call) (within : (after cfg .empty calls).issued ≤ bound) :
    Sound cfg named (after cfg .empty calls) ∧
      Grants cfg (visits cfg .empty calls) (after cfg .empty calls) := by
  induction calls using List.reverseRecOn with
  | nil => exact ⟨empty_sound,fun _ there => nomatch there⟩
  | append_singleton calls call ih =>
    have last : after cfg .empty (calls ++ [call]) = (step cfg (after cfg .empty calls) call).1 :=
      Runs.run_append ..
    rw [last] at within ⊢
    obtain ⟨sound,grants⟩ := ih (fun call' member => names call' (List.mem_append_left _ member))
      ((step_issued _ call).trans within)
    have names' := names call (List.mem_append_right _ (List.mem_singleton.mpr rfl))
    obtain ⟨sound',renews⟩ := step_sound sound names' fresh within
    rw [visits,Runs.visits_append]
    exact ⟨sound',renews.grants grants⟩

/-- The bindings that are retired, whose identifiers stay taken. -/
def retired (state : ReadinessState) : Nat :=
  (state.bindingsById.entries.filter fun e => e.2.status == .tombstone).length

theorem actives_length (settled : ∀ id b, state.bindingsById.get id = some b → b.status ≠ .unbinding) :
    (state.bindingsById.entries.filter fun e => e.2.isActive).length + retired state =
      state.bindingsById.size := by
  have inactive : (state.bindingsById.entries.filter fun e => e.2.status == .tombstone) =
      state.bindingsById.entries.filter fun e => !e.2.isActive := by
    refine List.filter_congr fun e member => ?_
    have still := settled e.1 e.2 (get_eq_some.mpr member)
    rw [ManagedBinding.isActive]
    cases status : e.2.status
    case unbinding => exact absurd status still
    all_goals rfl
  rw [retired,inactive]
  exact (List.length_eq_length_filter_add fun e : OpaqueId × ManagedBinding => e.2.isActive).symm

/-- With room for the desired descriptors beside the retired bindings, each of them has one. -/
theorem served_listed {desired : OrderedMap Hex64 Descriptor} (tracked : TrackedIn cfg named issued state)
    (settled : ∀ id b, state.bindingsById.get id = some b → b.status ≠ .unbinding)
    (wanted : ∀ key id, state.bindingsByDescriptor.get key = some id → (desired.get key).isSome)
    (room : retired state + desired.size ≤ MAX_BINDING_READINESS_STATES)
    (there : desired.get key = some d) (served : Served state key) :
    (state.bindingsByDescriptor.get key).isSome := by
  rcases served with listed | full
  · exact listed
  by_contra missing
  rw [Option.not_isSome_iff_eq_none] at missing
  let actives := state.bindingsById.entries.filter fun e => e.2.isActive
  have listed (e : OpaqueId × ManagedBinding) (member : e ∈ actives) :
      state.bindingsByDescriptor.get e.2.descriptorKey = some e.1 := by
    obtain ⟨inside,active⟩ := List.mem_filter.mp member
    exact (tracked.listed _ _).mpr ⟨e.2,get_eq_some.mpr inside,active,rfl⟩
  -- the keys of the active bindings are distinct and desired, and `key` is none of them
  have distinct : (key :: actives.map fun e => e.2.descriptorKey).Nodup := by
    rw [List.nodup_cons]
    constructor
    · intro inside
      obtain ⟨e,member,same⟩ := List.mem_map.mp inside
      rw [← same,listed e member] at missing
      cases missing
    · have entries : (actives.map Prod.fst).Nodup :=
        state.bindingsById.distinct.sublist (List.filter_sublist.map _)
      refine List.Nodup.map_on (fun e member e' member' same => ?_) (List.Nodup.of_map _ entries)
      have ids : e.1 = e'.1 := by
        have found := listed e member
        rw [same,listed e' member'] at found
        exact (Option.some.inj found).symm
      exact List.inj_on_of_nodup_map entries member member' ids
  have present : ∀ k ∈ key :: actives.map fun e => e.2.descriptorKey, ∃ v, desired.get k = some v := by
    intro k member
    rcases List.mem_cons.mp member with rfl | inside
    · exact ⟨d,there⟩
    · obtain ⟨e,member',rfl⟩ := List.mem_map.mp inside
      exact Option.isSome_iff_exists.mp (wanted _ _ (listed e member'))
  have fits := length_le_size distinct present
  have counted := actives_length settled
  rw [List.length_cons,List.length_map] at fits
  simp only [actives] at fits
  omega

def Named (calls : List Call) (authority : ReceiptAuthority) : Prop :=
  ∃ call ∈ calls, ∃ descriptors, call.event = .setManagedRoutes descriptors ∧
    ∃ d ∈ descriptors, d.authority = authority

def Apart (cfg : Config) (calls : List Call) : Prop :=
  ∀ a b, Named calls a → Named calls b → cfg.canonicalJsonHash a = cfg.canonicalJsonHash b → a = b

/-- The descriptors that are desired name different workspaces. -/
def WorkspacesApart (desired : OrderedMap Hex64 Descriptor) : Prop :=
  ∀ key d key' d', desired.get key = some d → desired.get key' = some d' →
    d.authority.workspaceId = d'.authority.workspaceId → key = key'

structure Managed (cfg : Config) (calls : List Call) (s : Host) : Prop where
  /-- Active bindings differ in identifier, descriptor and authority. -/
  distinct : ∀ state, s.readiness = some state → ∀ id b id' b', state.bindingsById.get id = some b →
    state.bindingsById.get id' = some b' → b.isActive = true → b'.isActive = true →
    b.bindingId = b'.bindingId ∨ b.descriptorKey = b'.descriptorKey ∨ b.authority = b'.authority → id = id'
  /-- An active binding is that of a desired descriptor. -/
  current : ∀ state, s.readiness = some state → ∀ id b, state.bindingsById.get id = some b →
    b.isActive = true → ∃ d, s.managedDescriptors.get b.descriptorKey = some d ∧ d.authority = b.authority
  /-- Active bindings share a workspace only where desired descriptors do. -/
  workspaces : WorkspacesApart s.managedDescriptors → ∀ state, s.readiness = some state →
    ∀ id b id' b', state.bindingsById.get id = some b → state.bindingsById.get id' = some b' →
    b.isActive = true → b'.isActive = true → b.authority.workspaceId = b'.authority.workspaceId → id = id'
  /-- A route is given a binding only if the daemon accepted its descriptor on this connection. -/
  ready : ∀ authority id, Named calls authority → s.managedRouteBinding cfg authority = some id →
    (∃ d, s.managedDescriptors.get (cfg.canonicalJsonHash authority) = some d ∧ d.authority = authority) ∧
    ∃ socket receipt, s.connection = some socket ∧
      Granted cfg (visits cfg .empty calls) socket id authority receipt
  /-- With room beside the retired bindings, every desired descriptor has a binding. -/
  capacity : ∀ state, s.readiness = some state → Live s state →
    (∀ id b, state.bindingsById.get id = some b → b.status ≠ .unbinding) →
    retired state + s.managedDescriptors.size ≤ MAX_BINDING_READINESS_STATES →
    ∀ key d, s.managedDescriptors.get key = some d → ∃ id b, state.bindingsById.get id = some b ∧
      b.isActive = true ∧ b.authority = d.authority

theorem managed_bindings_converge (cfg : Config) (calls : List Call) (apart : Apart cfg calls)
    (fresh : Fresh cfg (after cfg .empty calls).issued) :
    Managed cfg calls (after cfg .empty calls) := by
  have names : ∀ call ∈ calls, Names (Named calls) call := fun call member descriptors event d inside =>
    ⟨call,member,descriptors,event,d,inside,rfl⟩
  obtain ⟨sound,grants⟩ := run_sound fresh calls names (Nat.le_refl _)
  generalize after cfg .empty calls = s at *
  have current : ∀ state, s.readiness = some state → ∀ id b, state.bindingsById.get id = some b →
      b.isActive = true → ∃ d, s.managedDescriptors.get b.descriptorKey = some d ∧ d.authority = b.authority := by
    intro state known id b found active
    have tracked := sound.tracked state known
    have listed := (tracked.listed _ id).mpr ⟨b,found,active,rfl⟩
    obtain ⟨d,there⟩ := Option.isSome_iff_exists.mp (sound.desired state known _ _ listed)
    obtain ⟨hash,named⟩ := sound.keyed _ d there
    obtain ⟨_,hash',named'⟩ := tracked.own id b found
    exact ⟨d,there,apart _ _ named named' (hash.trans hash'.symm)⟩
  constructor
  case distinct =>
    intro state known id b id' b' found found' active active' same
    have tracked := sound.tracked state known
    obtain ⟨own,hash,_⟩ := tracked.own id b found
    obtain ⟨own',hash',_⟩ := tracked.own id' b' found'
    rcases same with ids | keys | authorities
    · rw [← own,ids,own']
    · exact tracked.unique found found' active active' keys
    · refine tracked.unique found found' active active' ?_
      rw [← hash,authorities,hash']
  case current => exact current
  case workspaces =>
    intro differ state known id b id' b' found found' active active' same
    obtain ⟨d,there,authority⟩ := current state known id b found active
    obtain ⟨d',there',authority'⟩ := current state known id' b' found' active'
    have keys := differ _ d _ d' there there' (by rw [authority,authority',same])
    exact (sound.tracked state known).unique found found' active active' keys
  case ready =>
    intro authority id asked given
    unfold Host.managedRouteBinding at given
    split at given
    · cases given
    next state known =>
    split at given
    · cases given
    next able =>
    split at given
    · cases given
    next id' listed =>
    split at given
    · cases given
    next b found =>
    split at given
    · next bound =>
      cases given
      have tracked := sound.tracked state known
      obtain ⟨b',found',active,key⟩ := (tracked.listed _ id).mp listed
      cases found.symm.trans found'
      obtain ⟨d,there,same⟩ := current state known id b found active
      obtain ⟨_,hash,named⟩ := tracked.own id b found
      have own : b.authority = authority := apart _ _ named asked (hash.trans key)
      rw [key] at there
      refine ⟨⟨d,there,same.trans own⟩,state.socket,b.receipt,(sound.live known found).2,?_⟩
      rw [← own]
      exact grants state known id b found (eq_of_beq bound)
    · cases given
  case capacity =>
    intro state known live settled room key d there
    have tracked := sound.tracked state known
    have served : Served state key := by
      rcases sound.converged state known live with ⟨id,b,found,unbinding⟩ | served
      · exact absurd unbinding (settled id b found)
      · exact served key d there
    obtain ⟨id,listed⟩ := Option.isSome_iff_exists.mp
      (served_listed tracked settled (sound.desired state known) room there served)
    obtain ⟨b,found,active,own⟩ := (tracked.listed key id).mp listed
    obtain ⟨d',there',same⟩ := current state known id b found active
    rw [own,there] at there'
    cases there'
    exact ⟨id,b,found,active,same.symm⟩

def boundRun : List Call :=
  [sampleCall (.setManagedRoutes [sampleDescriptor 0]),sampleCall (.register .receipts),
    sampleCall (.bindOk 0 ⟨numberedId 0,⟨generationOne,hexZeros,hexZeros⟩⟩)]

theorem managed_bindings_converge_bound :
    (after sampleConfig .empty boundRun).managedRouteBinding sampleConfig (sampleDescriptor 0).authority =
      some (numberedId 0) ∧ ∃ socket receipt, (after sampleConfig .empty boundRun).connection = some socket ∧
      Granted sampleConfig (visits sampleConfig .empty boundRun) socket (numberedId 0)
        (sampleDescriptor 0).authority receipt := by
  have named : ∀ a, Named boundRun a → a = (sampleDescriptor 0).authority := by
    rintro a ⟨call,member,descriptors,event,d,inside,rfl⟩
    rcases member with _ | ⟨_,_ | ⟨_,_ | ⟨_,⟨⟩⟩⟩⟩
    · cases event
      rw [List.mem_singleton.mp inside]
    · cases event
    · cases event
  have given : (after sampleConfig .empty boundRun).managedRouteBinding sampleConfig
      (sampleDescriptor 0).authority = some (numberedId 0) := by decide
  have managed := managed_bindings_converge sampleConfig boundRun
    (fun a b asked asked' _ => (named a asked).trans (named b asked').symm)
    (fun i j below within => absurd (below.trans_le (Nat.le_of_lt_succ within)) (Nat.not_lt_zero i))
  exact ⟨given,(managed.ready _ _ ⟨_,List.mem_cons_self,_,rfl,_,List.mem_cons_self,rfl⟩ given).2⟩

/-- One descriptor is desired for a while, and its binding retired. -/
def round (n : Nat) : List Call :=
  [sampleCall (.setManagedRoutes [sampleDescriptor 0]),sampleCall (.setManagedRoutes []),
    sampleCall (.unbindOk 0 (numberedId n))]

/-- Then, after as many rounds as there are identifiers for, it is desired once more. -/
def wornRun : List Call :=
  (sampleCall (.register .receipts) :: (List.range 64).flatMap round) ++
    [sampleCall (.setManagedRoutes [sampleDescriptor 0])]

def sharedRun : List Call :=
  [sampleCall (.setManagedRoutes [sampleDescriptor 0,sampleDescriptor 1]),sampleCall (.register .receipts)]

/-- The host is connected, its one desired descriptor has no binding, and no unbind is in
progress. -/
def isUnserved (s : Host) : Bool :=
  s.managedDescriptors.size == 1 && s.readiness.any fun state =>
    state.bindingEnabled && s.connection == some state.socket &&
      state.bindingsById.entries.all fun e => e.2.status == .tombstone

theorem isUnserved_spec {s : Host} (unserved : isUnserved s) : s.managedDescriptors.size = 1 ∧
    ∃ state, s.readiness = some state ∧ Live s state ∧
      ∀ id b, state.bindingsById.get id = some b → b.status = .tombstone := by
  simp only [isUnserved,Bool.and_eq_true,beq_iff_eq,Option.any_eq_true,List.all_eq_true] at unserved
  obtain ⟨one,state,known,⟨enabled,connected⟩,all⟩ := unserved
  exact ⟨one,state,known,⟨enabled,connected⟩,fun id b there => all _ (get_eq_some.mp there)⟩

/-- Descriptors that share a workspace are bound at once, and retired bindings use the
capacity up. -/
theorem workspace_shared_and_capacity_worn :
    (∃ state, (after sampleConfig .empty sharedRun).readiness = some state ∧
      ∃ b b', state.bindingsById.get (numberedId 0) = some b ∧ state.bindingsById.get (numberedId 1) = some b' ∧
        b.isActive = true ∧ b'.isActive = true ∧ b.authority.workspaceId = b'.authority.workspaceId) ∧
    (after sampleConfig .empty wornRun).managedDescriptors.size = 1 ∧
    ∃ state, (after sampleConfig .empty wornRun).readiness = some state ∧
      Live (after sampleConfig .empty wornRun) state ∧
      ∀ id b, state.bindingsById.get id = some b → b.status = .tombstone := by
  refine ⟨⟨_,rfl,_,_,rfl,rfl,rfl,rfl,rfl⟩,isUnserved_spec ?_⟩
  decide +kernel

end GjcRemote.HostReadiness
