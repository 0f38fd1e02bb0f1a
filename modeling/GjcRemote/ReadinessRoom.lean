import GjcRemote.HostReadinessOrder

/-! There is always room for the binding of a readiness frame that passed its checks: what a
connection keeps of its bindings fits the marks of their workspaces, on every run of a host. -/
namespace GjcRemote.HostReadiness

open ReceiptBinding (Generation Hex64 OpaqueId ReceiptAuthority Proof)

variable {cfg : Config}

/-- The codes of `#recordReadinessError`. -/
inductive Failure where
  | timestampInvalid | replayed | resourceExhausted
  deriving DecidableEq

/-- What the checks of `#acceptReadiness` come to. A failure tells whether the marks of earlier
connections have been looked at. -/
inductive Verdict where
  | ignored
  | failed (state : ReadinessState) (failure : Failure) (looked : Bool)
  | passed (state : ReadinessState) (msg : Frame)

def Host.verdict (s : Host) (socket : Nat) (message : Message) (receivedAt : Option Timestamp) (mono : Clock) :
    Verdict :=
  match s.stateOf socket with
  | none => .ignored
  | some state =>
    if !state.readinessEnabled || state.rejected then .ignored
    else if timestampInvalid receivedAt message then .failed state .timestampInvalid false
    else
      match message with
      | .malformed _ => .ignored
      | .frame msg =>
        let authority := authorityFor s state mono
        let fence := fenceFor state authority
        if !isReadinessFrameShape msg then .ignored
        else if authority.any (replaysAuthority msg) then .failed state .replayed true
        else if !isReadinessMessage msg (state.marks.map Previous.socketGeneration) state.marks receivedAt then
          .failed state .replayed true
        else if replaysWorkspace state fence msg then .failed state .replayed true
        else if exhausts fence msg then .failed state .resourceExhausted true
        else .passed state msg

def Host.looked (s : Host) (looked : Bool) (mono : Clock) : Host :=
  if looked then (s.getReadinessAuthority mono).1 else s

/-- What becomes of the host is decided by the checks. -/
theorem acceptReadiness_verdict (s : Host) (socket : Nat) (message : Message) (receivedAt : Option Timestamp)
    (mono : Clock) : s.acceptReadiness cfg socket message receivedAt mono =
      match s.verdict socket message receivedAt mono with
      | .ignored => (s,false)
      | .failed state _ looked => ((s.looked looked mono).setState state.recordReadinessError,false)
      | .passed state msg => (s.getReadinessAuthority mono).1.commitReadiness cfg state msg
          (fenceFor state (authorityFor s state mono)) mono := by
  unfold Host.acceptReadiness Host.verdict Host.looked
  cases s.stateOf socket with
  | none => rfl
  | some state =>
    simp only
    split
    · rfl
    · split
      · rfl
      · cases message with
        | malformed _ => rfl
        | frame msg =>
          simp only
          split
          · rfl
          · split
            · rfl
            · split
              · rfl
              · cases replaysWorkspace state (fenceFor state (authorityFor s state mono)) msg <;>
                  cases exhausts (fenceFor state (authorityFor s state mono)) msg <;> rfl

structure Host.Passed (s : Host) (socket : Nat) (state : ReadinessState) (msg : Frame) (mono : Clock) : Prop where
  known : s.stateOf socket = some state
  room : exhausts (fenceFor state (authorityFor s state mono)) msg = false

variable {s : Host}

theorem verdict_passed (passed : s.verdict socket message receivedAt mono = .passed state msg) :
    s.Passed socket state msg mono := by
  unfold Host.verdict at passed
  cases known : s.stateOf socket with
  | none => simp [known] at passed
  | some other =>
    simp only [known] at passed
    split at passed
    · cases passed
    · split at passed
      · cases passed
      · cases message with
        | malformed _ => cases passed
        | frame msg =>
          simp only at passed
          split_ifs at passed with _ _ _ _ room
          cases passed
          exact ⟨known,by simpa using room⟩

theorem verdict_failed {failure : Failure}
    (failed : s.verdict socket message receivedAt mono = .failed state failure looked) :
    s.stateOf socket = some state := by
  unfold Host.verdict at failed
  cases known : s.stateOf socket with
  | none => simp [known] at failed
  | some other =>
    simp only [known] at failed
    split at failed
    · cases failed
    · split at failed
      · cases failed
        rfl
      · cases message with
        | malformed _ => cases failed
        | frame msg =>
          simp only at failed
          split_ifs at failed <;> cases failed <;> rfl

/-- There is at most one binding for a workspace, its workspace has a mark, and the marks are no more than
the bindings there is room for. A connection that has taken no frame has no bindings. -/
structure Fits (bindings : OrderedMap OpaqueId BindingReadiness) (marks : OrderedMap OpaqueId Generation)
    (fresh : Bool) : Prop where
  apart : ∀ e ∈ bindings.entries, ∀ e' ∈ bindings.entries, e.2.workspaceId = e'.2.workspaceId → e.1 = e'.1
  marked : ∀ e ∈ bindings.entries, e.2.workspaceId ∈ marks.keys
  few : marks.size ≤ MAX_BINDING_READINESS_STATES
  unused : fresh = true → bindings.entries = []

theorem size_set_le {κ ν : Type} [DecidableEq κ] (m : OrderedMap κ ν) (key : κ) (value : ν) {limit : Nat}
    (few : m.size ≤ limit) (room : m.get key = none → m.size < limit) : (m.set key value).size ≤ limit := by
  cases known : m.get key with
  | none =>
    rw [OrderedMap.size_set_new m value known]
    exact room known
  | some old =>
    have present : key ∈ m.keys := OrderedMap.mem_keys.mpr ⟨old,known⟩
    rw [OrderedMap.set,dif_pos present]
    simpa [OrderedMap.size] using few

theorem keys_set_subset {κ ν : Type} [DecidableEq κ] {m : OrderedMap κ ν} {key k : κ} {value : ν} (there : k ∈ m.keys) :
    k ∈ (m.set key value).keys := by
  obtain ⟨old,found⟩ := OrderedMap.mem_keys.mp there
  by_cases same : k = key
  · exact OrderedMap.mem_keys.mpr ⟨value,by rw [same,OrderedMap.get_set_self]⟩
  · exact OrderedMap.mem_keys.mpr ⟨old,by rw [OrderedMap.get_set_ne m value same,found]⟩

/-- The bindings of other workspaces are fewer than the marks. -/
theorem Fits.others (fits : Fits bindings marks fresh)
    (room : marks.get workspaceId = none → marks.size < MAX_BINDING_READINESS_STATES)
    {others : OrderedMap OpaqueId BindingReadiness} (inside : others.entries ⊆ bindings.entries)
    (other : ∀ e ∈ others.entries, e.2.workspaceId ≠ workspaceId) : others.size < MAX_BINDING_READINESS_STATES := by
  have apart : (others.entries.map fun e => e.2.workspaceId).Nodup := by
    refine List.Nodup.map_on (fun e there e' there' same => ?_) others.distinct.of_map
    exact List.inj_on_of_nodup_map others.distinct there there' (fits.apart e (inside there) e' (inside there') same)
  have marked : (others.entries.map fun e => e.2.workspaceId) ⊆ marks.keys := by
    intro workspace there
    obtain ⟨e,listed,rfl⟩ := List.mem_map.mp there
    exact fits.marked e (inside listed)
  cases known : marks.get workspaceId with
  | none =>
    have count := (List.subperm_of_subset apart marked).length_le
    have few := room known
    simp only [List.length_map,OrderedMap.keys,OrderedMap.size] at count few ⊢
    omega
  | some mark =>
    have apart' : (workspaceId :: others.entries.map fun e => e.2.workspaceId).Nodup := by
      refine List.nodup_cons.mpr ⟨fun there => ?_,apart⟩
      obtain ⟨e,listed,same⟩ := List.mem_map.mp there
      exact other e listed same
    have count := (List.subperm_of_subset apart'
      (List.cons_subset.mpr ⟨OrderedMap.mem_keys.mpr ⟨mark,known⟩,marked⟩)).length_le
    have few := fits.few
    simp only [List.length_cons,List.length_map,OrderedMap.keys,OrderedMap.size] at count few ⊢
    omega

def beside (bindings : OrderedMap OpaqueId BindingReadiness) (workspaceId bindingId : OpaqueId) :
    OrderedMap OpaqueId BindingReadiness :=
  without bindings fun id b => id != bindingId && b.workspaceId == workspaceId

theorem without_subset (m : OrderedMap OpaqueId ν) (drop : OpaqueId → ν → Bool) :
    (without m drop).entries ⊆ m.entries := List.filter_subset_self _

theorem Fits.subset (fits : Fits bindings marks fresh) (inside : fewer.entries ⊆ bindings.entries) :
    Fits fewer marks fresh where
  apart e there e' there' same := fits.apart e (inside there) e' (inside there') same
  marked e there := fits.marked e (inside there)
  few := fits.few
  unused first := List.subset_nil.mp (fits.unused first ▸ inside)

/-- The place of a binding beside those of other workspaces is its own, or a free one. -/
theorem makeRoom_beside {bindings : OrderedMap OpaqueId BindingReadiness} {marks : OrderedMap OpaqueId Generation}
    {fresh : Bool} (fits : Fits bindings marks fresh) {workspaceId bindingId : OpaqueId} (mono : Clock)
    (room : marks.get workspaceId = none → marks.size < MAX_BINDING_READINESS_STATES) :
    makeRoom cfg (beside bindings workspaceId bindingId) bindingId mono =
      some (beside bindings workspaceId bindingId) := by
  unfold makeRoom
  cases own : (beside bindings workspaceId bindingId).get bindingId with
  | some _ => rfl
  | none =>
    have others : ∀ e ∈ (beside bindings workspaceId bindingId).entries, e.2.workspaceId ≠ workspaceId := by
      intro e there same
      have kept := (List.mem_filter.mp there).2
      have named : e.1 = bindingId := by simpa [same] using kept
      have found : (beside bindings workspaceId bindingId).get e.1 = some e.2 := OrderedMap.get_eq_some.mpr there
      rw [named,own] at found
      cases found
    have few : (beside bindings workspaceId bindingId).size < MAX_BINDING_READINESS_STATES :=
      fits.others room (without_subset _ _) others
    simp [Nat.not_le.mpr few]

/-- The binding of the frame fits too. -/
theorem Fits.commit {bindings : OrderedMap OpaqueId BindingReadiness} {marks : OrderedMap OpaqueId Generation}
    {fresh : Bool} (fits : Fits bindings marks fresh) {workspaceId bindingId : OpaqueId} {generation : Generation}
    {entry : BindingReadiness} (named : entry.workspaceId = workspaceId)
    (room : marks.get workspaceId = none → marks.size < MAX_BINDING_READINESS_STATES) :
    Fits ((beside bindings workspaceId bindingId).set bindingId entry) (marks.set workspaceId generation) false := by
  have other : ∀ id e, id ≠ bindingId → (id,e) ∈ (beside bindings workspaceId bindingId).entries →
      e.workspaceId ≠ workspaceId ∧ (id,e) ∈ bindings.entries := by
    intro id e different there
    obtain ⟨listed,kept⟩ := List.mem_filter.mp there
    exact ⟨fun same => by simp [different,same] at kept,listed⟩
  refine ⟨?_,?_,size_set_le _ _ _ fits.few room,fun none => by cases none⟩
  · rintro ⟨id,e⟩ there ⟨id',e'⟩ there' same
    rcases OrderedMap.mem_set.mp there with ⟨rfl,rfl⟩ | ⟨different,listed⟩ <;>
      rcases OrderedMap.mem_set.mp there' with ⟨rfl,rfl⟩ | ⟨different',listed'⟩
    · rfl
    · exact absurd (same.symm.trans named) (other id' e' different' listed').1
    · exact absurd (same.trans named) (other id e different listed).1
    · exact fits.apart _ (other id e different listed).2 _ (other id' e' different' listed').2 same
  · rintro ⟨id,e⟩ there
    rcases OrderedMap.mem_set.mp there with ⟨rfl,rfl⟩ | ⟨different,listed⟩
    · exact OrderedMap.mem_keys.mpr ⟨generation,by rw [named,OrderedMap.get_set_self]⟩
    · exact keys_set_subset (fits.marked _ (other id e different listed).2)

theorem Fits.mark (fits : Fits bindings marks fresh)
    (room : marks.get workspaceId = none → marks.size < MAX_BINDING_READINESS_STATES) :
    Fits bindings (marks.set workspaceId generation) false where
  apart := fits.apart
  marked e there := keys_set_subset (fits.marked e there)
  few := size_set_le _ _ _ fits.few room
  unused none := by cases none

/-- What a state keeps of its bindings fits the marks of its workspaces. -/
def ReadinessState.Fits (state : ReadinessState) : Prop :=
  HostReadiness.Fits state.bindingReadiness state.workspaceGenerationHighWater state.marks.isNone

/-- A frame that there is room for is committed, and leaves a state that fits. -/
theorem commitFrame_fits {state : ReadinessState} {msg : Frame} {fence : OrderedMap OpaqueId Generation} (mono : Clock)
    (fits : Fits state.bindingReadiness fence state.marks.isNone) (room : exhausts fence msg = false) :
    (commitFrame cfg state msg fence mono).2 = true ∧ (commitFrame cfg state msg fence mono).1.Fits := by
  unfold commitFrame
  cases workspace : msg.workspace with
  | none => exact ⟨rfl,fits.apart,fits.marked,fits.few,fun none => by cases none⟩
  | some w =>
    have free : fence.get w.1 = none → fence.size < MAX_BINDING_READINESS_STATES := by
      intro absent
      simpa [exhausts,workspace,absent] using room
    have behind := fits.subset (without_subset state.bindingReadiness fun _ b =>
      b.workspaceId == w.1 && decide (b.workspaceGeneration.value < w.2.value))
    simp only [commitWorkspace]
    cases msg.bindingId with
    | none => exact ⟨rfl,behind.mark free⟩
    | some bindingId =>
      have place := @makeRoom_beside cfg _ _ _ behind w.1 bindingId mono free
      unfold beside at place
      simp only [place]
      exact ⟨trivial,behind.commit rfl free⟩

/-- What an authority retains of the marks, with the workspace of its last frame among them. -/
structure Authority.Fits (authority : Authority) : Prop where
  few : authority.workspaceGenerationHighWater.size ≤ MAX_BINDING_READINESS_STATES
  own : ∀ w, authority.workspace = some w → w.1 ∈ authority.workspaceGenerationHighWater.keys

structure Host.Fits (s : Host) : Prop where
  readiness : ∀ state, s.readiness = some state → state.Fits
  authority : ∀ authority, s.authority = some authority → authority.Fits

theorem Authority.Fits.highWater {authority : Authority} (fits : authority.Fits) :
    authority.highWater.size ≤ MAX_BINDING_READINESS_STATES := by
  unfold Authority.highWater
  cases named : authority.workspace with
  | none => exact fits.few
  | some w =>
    refine size_set_le _ _ _ fits.few fun absent => ?_
    obtain ⟨mark,there⟩ := OrderedMap.mem_keys.mp (fits.own w named)
    rw [absent] at there
    cases there

/-- The marks that a frame is checked against fit what the connection keeps. -/
theorem Host.Fits.fence (fits : s.Fits) (known : s.stateOf socket = some state) (mono : Clock) :
    HostReadiness.Fits state.bindingReadiness (fenceFor state (authorityFor s state mono)) state.marks.isNone := by
  have own := fits.readiness state (stateOf_some known).2.1
  unfold fenceFor authorityFor
  cases first : state.marks.isNone with
  | false =>
    rw [ReadinessState.Fits,first] at own
    exact own
  | true =>
    rw [ReadinessState.Fits,first] at own
    cases retained : (s.getReadinessAuthority mono).2 with
    | none => exact own
    | some authority =>
      have authorityFits : authority.Fits := by
        rcases getReadinessAuthority_cases s mono with same | ⟨_,gone⟩
        · rw [same] at retained
          exact fits.authority authority retained
        · rw [gone] at retained
          cases retained
      have empty := own.unused rfl
      exact ⟨by simp [empty],by simp [empty],authorityFits.highWater,fun _ => empty⟩

/-- The bindings, the marks and whether a frame was taken are those of the state. -/
structure SameRoom (state next : ReadinessState) : Prop where
  bindings : next.bindingReadiness = state.bindingReadiness
  highWater : next.workspaceGenerationHighWater = state.workspaceGenerationHighWater
  marks : next.marks = state.marks

theorem SameRoom.refl (state : ReadinessState) : SameRoom state state := ⟨rfl,rfl,rfl⟩

theorem SameRoom.trans (one : SameRoom first second) (two : SameRoom second third) :
    SameRoom first third :=
  ⟨two.bindings.trans one.bindings,two.highWater.trans one.highWater,two.marks.trans one.marks⟩

/-- What a host keeps after is what it kept before, where it keeps anything. -/
structure KeepsRoom (s s' : Host) : Prop where
  readiness : ∀ next, s'.readiness = some next → ∃ state, s.readiness = some state ∧ SameRoom state next
  authority : ∀ next, s'.authority = some next → ∃ authority, s.authority = some authority ∧
    next.workspace = authority.workspace ∧
    next.workspaceGenerationHighWater = authority.workspaceGenerationHighWater

theorem KeepsRoom.refl (s : Host) : KeepsRoom s s :=
  ⟨fun next known => ⟨next,known,.refl next⟩,fun next known => ⟨next,known,rfl,rfl⟩⟩

theorem KeepsRoom.trans (one : KeepsRoom s s') (two : KeepsRoom s' s'') :
    KeepsRoom s s'' := by
  constructor
  · intro next known
    obtain ⟨middle,there,same⟩ := two.readiness next known
    obtain ⟨state,here,same'⟩ := one.readiness middle there
    exact ⟨state,here,same'.trans same⟩
  · intro next known
    obtain ⟨middle,there,workspace,highWater⟩ := two.authority next known
    obtain ⟨authority,here,workspace',highWater'⟩ := one.authority middle there
    exact ⟨authority,here,workspace.trans workspace',highWater.trans highWater'⟩

theorem KeepsRoom.fits (keeps : KeepsRoom s s') (fits : s.Fits) : s'.Fits := by
  constructor
  · intro next known
    obtain ⟨state,here,same⟩ := keeps.readiness next known
    have own := fits.readiness state here
    rwa [ReadinessState.Fits,same.bindings,same.highWater,same.marks]
  · intro next known
    obtain ⟨authority,here,workspace,highWater⟩ := keeps.authority next known
    have own := fits.authority authority here
    exact ⟨highWater ▸ own.few,fun w named => highWater ▸ own.own w (workspace ▸ named)⟩

theorem Retains.authorities (retains : Retains s mono s') :
    ∀ next, s'.authority = some next →
    ∃ authority, s.authority = some authority ∧ next.workspace = authority.workspace ∧
      next.workspaceGenerationHighWater = authority.workspaceGenerationHighWater := by
  intro next known
  cases retains with
  | same kept => exact ⟨next,kept ▸ known,rfl,rfl⟩
  | stamped authority there retireAt timer kept =>
    rw [kept] at known
    cases known
    exact ⟨authority,there,rfl,rfl⟩
  | retired _ gone =>
    rw [gone] at known
    cases known

theorem setState_room (known : s.readiness = some state)
    (same : SameRoom state next) : KeepsRoom s (s.setState next) :=
  ⟨fun _ there => ⟨state,known,(Option.some.inj there) ▸ same⟩,fun next' there => ⟨next',there,rfl,rfl⟩⟩

theorem unbindBinding_room (state : ReadinessState) (bindingId : OpaqueId) :
    SameRoom state (unbindBinding state bindingId) := by
  unfold unbindBinding
  split
  · exact .refl state
  · split
    · exact .refl state
    · exact ⟨rfl,rfl,rfl⟩

theorem unbindUndesired_room (managedDescriptors : OrderedMap Hex64 Descriptor) (state : ReadinessState) :
    SameRoom state (unbindUndesired managedDescriptors state) := by
  unfold unbindUndesired
  generalize state.bindingsByDescriptor.entries.filter _ = entries
  induction entries generalizing state with
  | nil => exact .refl state
  | cons e rest ih => exact (unbindBinding_room state e.2).trans (ih _)

theorem requestBinding_room (made : ReadinessState × Nat) (desired : Hex64 × Descriptor) :
    SameRoom made.1 (requestBinding cfg made desired).1 := by
  simp only [requestBinding]
  split
  · exact .refl _
  · split
    · exact .refl _
    · exact ⟨rfl,rfl,rfl⟩

theorem requestBindings_room (entries : List (Hex64 × Descriptor)) (made : ReadinessState × Nat) :
    SameRoom made.1 (entries.foldl (requestBinding cfg) made).1 := by
  induction entries generalizing made with
  | nil => exact .refl _
  | cons e rest ih => exact (requestBinding_room made e).trans (ih _)

theorem reconcile_room (s : Host) : KeepsRoom s (reconcileManagedBindings cfg s) := by
  unfold reconcileManagedBindings
  cases known : s.readiness with
  | none => exact .refl s
  | some state =>
    simp only
    have undesired := unbindUndesired_room s.managedDescriptors state
    split
    · exact .refl s
    · split
      · exact setState_room known undesired
      · have made := setState_room known (undesired.trans (@requestBindings_room cfg s.managedDescriptors.entries
          (unbindUndesired s.managedDescriptors state,s.issued)))
        exact ⟨made.readiness,made.authority⟩

theorem acceptBindOk_room (s : Host) (socket : Nat) (msg : BindOk) : KeepsRoom s (s.acceptBindOk cfg socket msg).1 := by
  unfold Host.acceptBindOk
  cases known : s.stateOf socket with
  | none => exact .refl s
  | some state =>
    have there := (stateOf_some known).2.1
    simp only
    repeat' split
    all_goals first
      | exact .refl s
      | exact setState_room there ⟨rfl,rfl,rfl⟩

theorem acceptUnbindOk_room (s : Host) (socket : Nat) (bindingId : OpaqueId) :
    KeepsRoom s (s.acceptUnbindOk cfg socket bindingId).1 := by
  unfold Host.acceptUnbindOk
  cases known : s.stateOf socket with
  | none => exact .refl s
  | some state =>
    have there := (stateOf_some known).2.1
    simp only
    split
    · exact .refl s
    · split
      · exact .refl s
      · split
        · exact .refl s
        · next binding _ _ =>
          let retired := {state with
            bindingsById := state.bindingsById.set bindingId {binding with status := .tombstone},
            bindingsByDescriptor := state.bindingsByDescriptor.delete binding.descriptorKey}
          have same : SameRoom state retired := ⟨rfl,rfl,rfl⟩
          exact (setState_room there same).trans (reconcile_room (s.setState retired))

theorem acceptReceipt_room (known : s.readiness = some state) (msg : Frame)
    (bindingId : OpaqueId) (receivedAt : Option Timestamp) :
    KeepsRoom s (s.acceptReceipt state msg bindingId receivedAt).1 := by
  unfold Host.acceptReceipt
  repeat' split
  all_goals first
    | exact .refl s
    | exact setState_room known ⟨rfl,rfl,rfl⟩

theorem markOffline_readiness (s : Host) (state : ReadinessState) (mono : Clock) :
    (s.markOfflineReadiness state mono).readiness =
      some {state with bindingsById := .empty,bindingsByDescriptor := .empty} := by
  simp only [Host.markOfflineReadiness]
  have looked := (looked_retains (s.setState {state with bindingsById := .empty,bindingsByDescriptor := .empty}) mono).2.1
  split
  · next kept retained =>
    rw [retained] at looked
    exact looked
  · next kept authority retained =>
    rw [retained] at looked
    exact looked

theorem dropConnection_room (s : Host) (socket : Nat) (mono : Clock) : KeepsRoom s (s.dropConnection socket mono) := by
  refine ⟨fun next known => ?_,(dropConnection_drops s socket mono).authority.authorities⟩
  simp only [Host.dropConnection] at known
  split at known
  · cases there : s.readiness with
    | none => simp [there] at known
    | some state =>
      simp only [there,markOffline_readiness] at known
      cases known
      exact ⟨state,rfl,rfl,rfl,rfl⟩
  · exact ⟨next,known,.refl next⟩

theorem retireAuthority_room (s : Host) (mono : Clock) : KeepsRoom s (s.retireAuthority mono) := by
  refine ⟨fun next known => ⟨next,?_,.refl next⟩,(retireAuthority_drops s mono).authority.authorities⟩
  unfold Host.retireAuthority at known
  repeat' split at known
  all_goals exact known

/-- A registration opens a connection with nothing. -/
theorem register_fits (fits : s.Fits) (negotiated : Negotiated) (mono : Clock) :
    (s.register cfg negotiated mono).Fits := by
  simp only [Host.register]
  refine (reconcile_room _).fits ?_
  have dropped : (s.disconnected mono).Fits := by
    unfold Host.disconnected
    split
    · exact fits
    · exact (dropConnection_room ..).fits fits
  refine ⟨fun state known => ?_,dropped.authority⟩
  cases known
  exact ⟨by simp [newState,OrderedMap.empty],by simp [newState,OrderedMap.empty],
    by simp [newState,OrderedMap.empty,OrderedMap.size],fun _ => rfl⟩

theorem looked_room (s : Host) (mono : Clock) : KeepsRoom s (s.getReadinessAuthority mono).1 := by
  obtain ⟨retains,readiness,_⟩ := looked_retains s mono
  exact ⟨fun next known => ⟨next,readiness ▸ known,.refl next⟩,retains.authorities⟩

/-- A frame that passed is accepted, and the host fits. -/
theorem commitReadiness_fits {s : Host} (fits : s.Fits) {socket : Nat} {state : ReadinessState} {msg : Frame} {mono : Clock}
    (passed : s.Passed socket state msg mono) :
    let committed := (s.getReadinessAuthority mono).1.commitReadiness cfg state msg
      (fenceFor state (authorityFor s state mono)) mono
    committed.2 = true ∧ committed.1.Fits := by
  have frame := @commitFrame_fits cfg state msg _ mono (fits.fence passed.known mono) passed.room
  obtain ⟨done,room⟩ := frame
  simp only [Host.commitReadiness,done,if_true]
  refine ⟨trivial,fun next known => ?_,fun authority known => ?_⟩
  · cases known
    exact room
  · cases known
    refine ⟨room.few,fun w named => ?_⟩
    have highWater := (@commitFrame_spec cfg state msg (fenceFor state (authorityFor s state mono)) mono).2.2
    have named : msg.workspace = some w := named
    rw [raised,named] at highWater
    exact OrderedMap.mem_keys.mpr ⟨w.2,by rw [highWater,OrderedMap.get_set_self]⟩

theorem acceptReadiness_fits {s : Host} (fits : s.Fits) (socket : Nat) (message : Message)
    (receivedAt : Option Timestamp) (mono : Clock) : (s.acceptReadiness cfg socket message receivedAt mono).1.Fits := by
  rw [acceptReadiness_verdict]
  cases decided : s.verdict socket message receivedAt mono with
  | ignored => exact fits
  | failed state failure looked =>
    have known := (stateOf_some (verdict_failed decided)).2.1
    have kept : KeepsRoom s (s.looked looked mono) := by
      unfold Host.looked
      split
      · exact looked_room s mono
      · exact .refl s
    have there : (s.looked looked mono).readiness = some state := by
      unfold Host.looked
      split
      · rw [(looked_retains s mono).2.1,known]
      · exact known
    have recorded : SameRoom state state.recordReadinessError := ⟨rfl,rfl,rfl⟩
    exact (kept.trans (setState_room there recorded)).fits fits
  | passed state msg => exact (commitReadiness_fits fits (verdict_passed decided)).2

theorem acceptReadinessFrame_fits (fits : s.Fits) (socket : Nat) (message : Message)
    (now : Option Timestamp) (mono : Clock) : (s.acceptReadinessFrame cfg socket message now mono).1.Fits := by
  unfold Host.acceptReadinessFrame
  cases known : s.stateOf socket with
  | none => exact fits
  | some state =>
    simp only
    split
    · unfold Host.acceptInventoryReceiptReadiness
      cases message with
      | malformed _ => exact fits
      | frame msg =>
        simp only
        split
        · exact fits
        · cases msg.bindingId with
          | some bindingId => exact (acceptReceipt_room (stateOf_some known).2.1 msg bindingId now).fits fits
          | none =>
            have accepted := @acceptReadiness_fits cfg s fits state.socket (.frame msg) now mono
            simp only
            split
            · split
              · exact accepted
              · next next there => exact KeepsRoom.fits (by exact setState_room there (by exact ⟨rfl,rfl,rfl⟩)) accepted
            · exact accepted
    · exact acceptReadiness_fits fits ..

/-- What every event of a host preserves. -/
theorem step_fits (fits : s.Fits) (call : Call) : (step cfg s call).1.Fits := by
  unfold step
  cases call.event with
  | register negotiated => exact register_fits fits ..
  | disconnect socket => exact (dropConnection_room ..).fits fits
  | readiness socket message => exact acceptReadinessFrame_fits fits ..
  | bindOk socket msg => exact (acceptBindOk_room ..).fits fits
  | unbindOk socket bindingId => exact (acceptUnbindOk_room ..).fits fits
  | setManagedRoutes descriptors => exact (reconcile_room _).fits ⟨fits.readiness,fits.authority⟩
  | retirementTimer => exact (retireAuthority_room ..).fits fits
  | close =>
    constructor
    · intro state gone
      cases gone
    · intro authority gone
      cases gone

theorem empty_fits : Host.empty.Fits := ⟨fun _ gone => (by cases gone),fun _ gone => (by cases gone)⟩

end GjcRemote.HostReadiness
