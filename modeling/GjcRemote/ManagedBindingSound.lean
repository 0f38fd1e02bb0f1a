import GjcRemote.HostReadinessOrder

/-! The managed bindings of one connection: which are there, for which descriptors, and what
a reconciliation makes of them. -/
namespace GjcRemote.HostReadiness

open List hiding after
open OrderedMap Option
open ReceiptBinding (Generation Hex64 OpaqueId ReceiptAuthority Proof)

variable {cfg : Config} {named : ReceiptAuthority → Prop}

abbrev Bindings := OrderedMap OpaqueId ManagedBinding

abbrev Listing := OrderedMap Hex64 OpaqueId

/-- Every binding has an identifier of its own, and the active ones are listed by descriptor.
The authorities satisfy `named`. -/
structure Tracked (cfg : Config) (named : ReceiptAuthority → Prop) (issued : Nat) (byId : Bindings)
    (byDescriptor : Listing) : Prop where
  own : ∀ id b, byId.get id = some b → b.bindingId = id ∧
    cfg.canonicalJsonHash b.authority = b.descriptorKey ∧ named b.authority
  drawn : ∀ id b, byId.get id = some b → ∃ k < issued, cfg.randomUUID k = id
  listed : ∀ key id, byDescriptor.get key = some id ↔
    ∃ b, byId.get id = some b ∧ b.isActive = true ∧ b.descriptorKey = key
  parted : ∀ id b, byId.get id = some b → b.status = .unbinding →
    byDescriptor.get b.descriptorKey = none
  bounded : byId.size ≤ MAX_BINDING_READINESS_STATES

structure SameBinding (b b' : ManagedBinding) : Prop where
  bindingId : b'.bindingId = b.bindingId
  descriptorKey : b'.descriptorKey = b.descriptorKey
  authority : b'.authority = b.authority

def BindsNone (byId byId' : Bindings) : Prop :=
  ∀ id b, byId'.get id = some b → b.status = .bound → byId.get id = some b

theorem BindsNone.refl (byId : Bindings) : BindsNone byId byId := fun _ _ there _ => there

theorem BindsNone.trans (one : BindsNone first second) (two : BindsNone second third) : BindsNone first third :=
  fun id b there bound => one id b (two id b there bound) bound

variable {id : OpaqueId} {b : ManagedBinding}

theorem BindsNone.set (unbound : b.status ≠ .bound) :
    BindsNone byId (byId.set id b) := by
  intro id' b' there bound
  rw [get_set] at there
  split at there
  · cases there
    exact absurd bound unbound
  · exact there

theorem size_set_old (m : OrderedMap OpaqueId ν) (value : ν)
    (there : m.get id = some old) : (m.set id value).size = m.size := by
  rw [OrderedMap.set,dif_pos (OrderedMap.mem_keys.mpr ⟨old,there⟩)]
  simp [size]

theorem Tracked.empty (issued : Nat) : Tracked cfg named issued .empty .empty where
  own _ _ there := nomatch there
  drawn _ _ there := nomatch there
  listed _ _ := ⟨fun there => (nomatch there),fun ⟨_,there,_⟩ => nomatch there⟩
  parted _ _ there := nomatch there
  bounded := Nat.zero_le _

variable {issued : Nat} {byId : Bindings} {byDescriptor : Listing}

theorem isActive_bound (bound : b.status = .bound) : b.isActive := by
  rw [ManagedBinding.isActive,bound]
  rfl

section

variable (tracked : Tracked cfg named issued byId byDescriptor)
include tracked

theorem Tracked.unique (there : byId.get id = some b) (there' : byId.get id' = some b')
    (active : b.isActive) (active' : b'.isActive) (same : b.descriptorKey = b'.descriptorKey) : id = id' := by
  have found := (tracked.listed b.descriptorKey id).mpr ⟨b,there,active,rfl⟩
  have found' := (tracked.listed b.descriptorKey id').mpr ⟨b',there',active',same.symm⟩
  exact Option.some.inj (found.symm.trans found')

/-- A binding is rewritten: it stays listed if it stays active. -/
theorem Tracked.rewrite (there : byId.get id = some b) (same : SameBinding b b')
    (was : b.isActive ∨ b.status = .unbinding) (stays : b'.isActive → b.isActive)
    (listing : ∀ key, byDescriptor'.get key =
      if key = b.descriptorKey ∧ b'.isActive = false then none else byDescriptor.get key) :
    Tracked cfg named issued (byId.set id b') byDescriptor' := by
  have looked (id' : OpaqueId) (b'' : ManagedBinding) (found : (byId.set id b').get id' = some b'') :
      (id' = id ∧ b'' = b') ∨ (id' ≠ id ∧ byId.get id' = some b'') := by
    rw [get_set] at found
    split at found
    · next here => exact .inl ⟨here,(Option.some.inj found).symm⟩
    · next other => exact .inr ⟨other,found⟩
  constructor
  case own =>
    intro id' b'' found
    rcases looked id' b'' found with ⟨rfl,rfl⟩ | ⟨_,old⟩
    · rw [same.bindingId,same.authority,same.descriptorKey]
      exact tracked.own _ b there
    · exact tracked.own id' b'' old
  case drawn =>
    intro id' b'' found
    rcases looked id' b'' found with ⟨rfl,rfl⟩ | ⟨_,old⟩
    · exact tracked.drawn _ b there
    · exact tracked.drawn id' b'' old
  case listed =>
    intro key id'
    rw [listing]
    split
    · next gone =>
      refine ⟨fun none => absurd none.symm (some_ne_none _),?_⟩
      rintro ⟨b'',found,active,own⟩
      rcases looked id' b'' found with ⟨rfl,rfl⟩ | ⟨other,old⟩
      · rw [gone.2] at active
        cases active
      · rcases was with still | unbinding
        · exact absurd (tracked.unique old there active still (own.trans gone.1)) other
        · have found' := (tracked.listed key id').mpr ⟨b'',old,active,own⟩
          rw [gone.1,tracked.parted id b there unbinding] at found'
          cases found'
    · next kept =>
      rw [tracked.listed]
      constructor
      · rintro ⟨b'',found,active,own⟩
        by_cases here : id' = id
        · subst here
          cases there.symm.trans found
          refine ⟨b',get_set_self ..,?_,same.descriptorKey.trans own⟩
          exact Bool.of_not_eq_false fun inactive => kept ⟨own.symm,inactive⟩
        · exact ⟨b'',(get_set_ne _ _ here).trans found,active,own⟩
      · rintro ⟨b'',found,active,own⟩
        rcases looked id' b'' found with ⟨rfl,rfl⟩ | ⟨_,old⟩
        · exact ⟨b,there,stays active,same.descriptorKey.symm.trans own⟩
        · exact ⟨b'',old,active,own⟩
  case parted =>
    intro id' b'' found unbinding
    rw [listing]
    split
    · rfl
    · next kept =>
      rcases looked id' b'' found with ⟨rfl,rfl⟩ | ⟨_,old⟩
      · refine absurd ⟨same.descriptorKey,?_⟩ kept
        rw [ManagedBinding.isActive,unbinding]
        rfl
      · exact tracked.parted id' b'' old unbinding
  case bounded => exact (size_set_old byId b' there).le.trans tracked.bounded

/-- A binding is added for a descriptor that has none. -/
theorem Tracked.add (unbinding : ∀ id b, byId.get id = some b → b.status ≠ .unbinding)
    (fresh : ∀ k < issued, cfg.randomUUID k ≠ cfg.randomUUID issued)
    (hashed : cfg.canonicalJsonHash descriptor.authority = key) (known : named descriptor.authority)
    (missing : byDescriptor.get key = none) (room : byId.size < MAX_BINDING_READINESS_STATES) :
    Tracked cfg named (issued + 1)
      (byId.set (cfg.randomUUID issued) (requested (cfg.randomUUID issued) key descriptor))
      (byDescriptor.set key (cfg.randomUUID issued)) := by
  have absent : byId.get (cfg.randomUUID issued) = none := by
    cases found : byId.get (cfg.randomUUID issued) with
    | none => rfl
    | some b =>
      obtain ⟨k,below,same⟩ := tracked.drawn _ b found
      exact absurd same (fresh k below)
  have looked (id' : OpaqueId) (b : ManagedBinding) (found : (byId.set (cfg.randomUUID issued)
      (requested (cfg.randomUUID issued) key descriptor)).get id' = some b) :
      (id' = cfg.randomUUID issued ∧ b = requested (cfg.randomUUID issued) key descriptor) ∨
        byId.get id' = some b := by
    rw [get_set] at found
    split at found
    · next here => exact .inl ⟨here,(Option.some.inj found).symm⟩
    · exact .inr found
  constructor
  case own =>
    intro id b found
    rcases looked id b found with ⟨rfl,rfl⟩ | old
    · exact ⟨rfl,hashed,known⟩
    · exact tracked.own id b old
  case drawn =>
    intro id b found
    rcases looked id b found with ⟨rfl,rfl⟩ | old
    · exact ⟨issued,Nat.lt_succ_self _,rfl⟩
    · obtain ⟨k,below,same⟩ := tracked.drawn id b old
      exact ⟨k,below.trans (Nat.lt_succ_self _),same⟩
  case listed =>
    intro key' id
    rw [get_set]
    split
    · next here =>
      subst here
      constructor
      · intro same
        cases same
        exact ⟨_,get_set_self ..,rfl,rfl⟩
      · rintro ⟨b,found,active,own⟩
        rcases looked id b found with ⟨rfl,rfl⟩ | old
        · rfl
        · have listed := (tracked.listed _ id).mpr ⟨b,old,active,own⟩
          rw [missing] at listed
          cases listed
    · next other =>
      rw [tracked.listed]
      constructor
      · rintro ⟨b,found,active,own⟩
        refine ⟨b,(get_set_ne _ _ ?_).trans found,active,own⟩
        rintro rfl
        rw [absent] at found
        cases found
      · rintro ⟨b,found,active,own⟩
        rcases looked id b found with ⟨rfl,rfl⟩ | old
        · exact absurd own.symm other
        · exact ⟨b,old,active,own⟩
  case parted =>
    intro id b found ending
    rcases looked id b found with ⟨rfl,rfl⟩ | old
    · cases ending
    · exact absurd ending (unbinding id b old)
  case bounded => exact (size_set_new _ _ absent).trans_le room

end

abbrev TrackedIn (cfg : Config) (named : ReceiptAuthority → Prop) (issued : Nat) (state : ReadinessState) : Prop :=
  Tracked cfg named issued state.bindingsById state.bindingsByDescriptor

section

variable (tracked : TrackedIn cfg named issued state)
include tracked

theorem unbindBinding_tracked (listed : state.bindingsByDescriptor.get key = some id) :
    TrackedIn cfg named issued (unbindBinding state id) ∧
      (unbindBinding state id).bindingsByDescriptor = state.bindingsByDescriptor.delete key ∧
      BindsNone state.bindingsById (unbindBinding state id).bindingsById := by
  obtain ⟨b,there,active,rfl⟩ := (tracked.listed key id).mp listed
  have unbound : unbindBinding state id = {state with
      bindingsById := state.bindingsById.set id b.unbind,
      bindingsByDescriptor := state.bindingsByDescriptor.delete b.descriptorKey} := by
    simp only [unbindBinding,there,active,Bool.not_true,Bool.false_eq_true,if_false]
  rw [unbound]
  have ended : b.unbind.isActive = false := rfl
  have same : SameBinding b b.unbind := ⟨rfl,rfl,rfl⟩
  refine ⟨tracked.rewrite there same (.inl active) (fun _ => active) ?_,rfl,
    BindsNone.set fun bound => by cases bound⟩
  intro key
  simp only [get_delete,ended,and_true]

theorem unbindings_tracked (entries : List (Hex64 × OpaqueId)) (distinct : (entries.map Prod.fst).Nodup)
    (listed : ∀ e ∈ entries, state.bindingsByDescriptor.get e.1 = some e.2) :
    let next := entries.foldl (fun state e => unbindBinding state e.2) state
    TrackedIn cfg named issued next ∧ BindsNone state.bindingsById next.bindingsById ∧
      ∀ key, next.bindingsByDescriptor.get key =
        if key ∈ entries.map Prod.fst then none else state.bindingsByDescriptor.get key := by
  induction entries generalizing state with
  | nil => exact ⟨tracked,.refl _,fun _ => by simp⟩
  | cons e rest ih =>
    rw [map_cons,nodup_cons] at distinct
    obtain ⟨tracked',deleted,binds⟩ := unbindBinding_tracked tracked (listed e mem_cons_self)
    have still : ∀ e' ∈ rest, (unbindBinding state e.2).bindingsByDescriptor.get e'.1 = some e'.2 := by
      intro e' member
      rw [deleted,get_delete_ne]
      · exact listed e' (mem_cons_of_mem _ member)
      · exact fun same => distinct.1 (same ▸ mem_map_of_mem member)
    obtain ⟨tracked'',binds',gets⟩ := ih tracked' distinct.2 still
    refine ⟨tracked'',binds.trans binds',fun key => ?_⟩
    simp only [foldl_cons] at gets ⊢
    rw [gets,deleted,get_delete,map_cons]
    by_cases here : key = e.1
    · simp [here]
    · simp only [here,if_false,mem_cons,false_or]

theorem unbindUndesired_tracked (desired : OrderedMap Hex64 Descriptor) :
    TrackedIn cfg named issued (unbindUndesired desired state) ∧
      BindsNone state.bindingsById (unbindUndesired desired state).bindingsById ∧
      ∀ key id, (unbindUndesired desired state).bindingsByDescriptor.get key = some id →
        (desired.get key).isSome := by
  let undesired := state.bindingsByDescriptor.entries.filter fun e => (desired.get e.1).isNone
  have distinct : (undesired.map Prod.fst).Nodup :=
    state.bindingsByDescriptor.distinct.sublist (filter_sublist.map _)
  obtain ⟨tracked',binds,gets⟩ := unbindings_tracked tracked undesired distinct fun e member =>
    get_eq_some.mpr (mem_filter.mp member).1
  refine ⟨tracked',binds,fun key id listed => ?_⟩
  have listed' := (gets key).symm.trans listed
  split at listed'
  · cases listed'
  · next kept =>
    by_contra missing
    refine kept (mem_map.mpr ⟨(key,id),mem_filter.mpr ⟨get_eq_some.mp listed',?_⟩,rfl⟩)
    exact isNone_iff_eq_none.mpr (not_isSome_iff_eq_none.mp missing)

end

theorem requestBinding_issued (made : ReadinessState × Nat) (desired : Hex64 × Descriptor) :
    made.2 ≤ (requestBinding cfg made desired).2 := by
  simp only [requestBinding]
  split
  · exact Nat.le_refl _
  · split
    · exact Nat.le_refl _
    · exact Nat.le_succ _

theorem requestBindings_issued (entries : List (Hex64 × Descriptor)) (made : ReadinessState × Nat) :
    made.2 ≤ (entries.foldl (requestBinding cfg) made).2 := by
  induction entries generalizing made with
  | nil => exact Nat.le_refl _
  | cons e rest ih => exact (requestBinding_issued made e).trans (ih _)

def Fresh (cfg : Config) (bound : Nat) : Prop :=
  ∀ i j, i < j → j < bound → cfg.randomUUID i ≠ cfg.randomUUID j

def Keyed (cfg : Config) (named : ReceiptAuthority → Prop) (e : Hex64 × Descriptor) : Prop :=
  cfg.canonicalJsonHash e.2.authority = e.1 ∧ named e.2.authority

/-- Every one of the descriptors has a binding, or there is no room left. -/
def Served (state : ReadinessState) (key : Hex64) : Prop :=
  (state.bindingsByDescriptor.get key).isSome ∨ MAX_BINDING_READINESS_STATES ≤ state.bindingsById.size

structure Adds (keys : List Hex64) (state next : ReadinessState) : Prop where
  unbinding : ∀ id b, next.bindingsById.get id = some b → b.status ≠ .unbinding
  binds : BindsNone state.bindingsById next.bindingsById
  serves : ∀ key, Served state key → Served next key
  wanted : ∀ key id, next.bindingsByDescriptor.get key = some id →
    state.bindingsByDescriptor.get key = some id ∨ key ∈ keys

theorem requestBinding_tracked (tracked : TrackedIn cfg named made.2 made.1)
    (unbinding : ∀ id b, made.1.bindingsById.get id = some b → b.status ≠ .unbinding)
    (keyed : Keyed cfg named e) (fresh : Fresh cfg bound) (within : (requestBinding cfg made e).2 ≤ bound) :
    TrackedIn cfg named (requestBinding cfg made e).2 (requestBinding cfg made e).1 ∧
      Adds [e.1] made.1 (requestBinding cfg made e).1 ∧ Served (requestBinding cfg made e).1 e.1 := by
  have same : Adds [e.1] made.1 made.1 := ⟨unbinding,.refl _,fun _ served => served,fun _ _ there => .inl there⟩
  simp only [requestBinding] at within ⊢
  split at within
  · next has =>
    rw [if_pos has]
    exact ⟨tracked,same,.inl has⟩
  next missing =>
  rw [if_neg missing]
  rw [Bool.not_eq_true,isSome_eq_false_iff,isNone_iff_eq_none] at missing
  split at within
  · next full =>
    rw [if_pos full]
    exact ⟨tracked,same,.inr full⟩
  next room =>
  rw [if_neg room]
  have tracked' := tracked.add unbinding (fun k below => fresh k made.2 below within) keyed.1 keyed.2
    missing (Nat.lt_of_not_le room)
  refine ⟨tracked',⟨?_,BindsNone.set fun none => (by cases none),?_,?_⟩,.inl ?_⟩
  · intro id b there
    simp only [get_set] at there
    split at there
    · cases there
      exact fun none => by cases none
    · exact unbinding id b there
  · rintro key (listed | full)
    · refine .inl ?_
      simp only [get_set]
      split
      · rfl
      · exact listed
    · exact absurd full room
  · intro key id there
    simp only [get_set] at there
    split at there
    · next here => exact .inr (mem_singleton.mpr here)
    · exact .inl there
  · simp only [get_set_self,isSome_some]

theorem requestBindings_tracked (tracked : TrackedIn cfg named made.2 made.1)
    (unbinding : ∀ id b, made.1.bindingsById.get id = some b → b.status ≠ .unbinding)
    (entries : List (Hex64 × Descriptor)) (keyed : ∀ e ∈ entries, Keyed cfg named e)
    (fresh : Fresh cfg bound) (within : (entries.foldl (requestBinding cfg) made).2 ≤ bound) :
    let next := entries.foldl (requestBinding cfg) made
    TrackedIn cfg named next.2 next.1 ∧ Adds (entries.map Prod.fst) made.1 next.1 ∧
      ∀ e ∈ entries, Served next.1 e.1 := by
  induction entries generalizing made with
  | nil => exact ⟨tracked,⟨unbinding,.refl _,fun _ served => served,fun _ _ there => .inl there⟩,
      fun _ member => nomatch member⟩
  | cons e rest ih =>
    have later := (requestBindings_issued rest (requestBinding cfg made e)).trans within
    obtain ⟨tracked',adds,served⟩ :=
      requestBinding_tracked tracked unbinding (keyed e mem_cons_self) fresh later
    obtain ⟨tracked'',adds',served'⟩ := ih tracked' adds.unbinding
      (fun e' member => keyed e' (mem_cons_of_mem _ member)) within
    refine ⟨tracked'',⟨adds'.unbinding,adds.binds.trans adds'.binds,
      fun key served => adds'.serves key (adds.serves key served),fun key id there => ?_⟩,fun e' member => ?_⟩
    · rw [map_cons,mem_cons]
      rcases adds'.wanted key id there with before | after
      · rcases adds.wanted key id before with first | one
        · exact .inl first
        · exact .inr (.inl (mem_singleton.mp one))
      · exact .inr (.inr after)
    · rcases mem_cons.mp member with rfl | member
      · exact adds'.serves _ served
      · exact served' e' member

/-- The host is connected by the socket of the state, and bindings are negotiated. -/
def Live (s : Host) (state : ReadinessState) : Prop :=
  state.bindingEnabled = true ∧ s.connection = some state.socket

/-- Unless one ends, every desired descriptor has a binding or there is no room left. -/
def Converged (desired : OrderedMap Hex64 Descriptor) (state : ReadinessState) : Prop :=
  (∃ id b, state.bindingsById.get id = some b ∧ b.status = .unbinding) ∨
    ∀ key d, desired.get key = some d → Served state key

structure Sound (cfg : Config) (named : ReceiptAuthority → Prop) (s : Host) : Prop where
  keyed : ∀ key d, s.managedDescriptors.get key = some d → Keyed cfg named (key,d)
  tracked : ∀ state, s.readiness = some state → TrackedIn cfg named s.issued state
  idle : ∀ state, s.readiness = some state → ¬ Live s state →
    state.bindingsById = .empty ∧ state.bindingsByDescriptor = .empty
  desired : ∀ state, s.readiness = some state → ∀ key id,
    state.bindingsByDescriptor.get key = some id → (s.managedDescriptors.get key).isSome
  converged : ∀ state, s.readiness = some state → Live s state → Converged s.managedDescriptors state

inductive Reconciled (cfg : Config) (s : Host) : Host → Prop where
  | dead (unlive : ∀ state, s.readiness = some state → ¬ Live s state) : Reconciled cfg s s
  | ending (state : ReadinessState) (known : s.readiness = some state) (live : Live s state)
      (unbinding : ∃ id b, (unbindUndesired s.managedDescriptors state).bindingsById.get id = some b ∧
        b.status = .unbinding) :
      Reconciled cfg s (s.setState (unbindUndesired s.managedDescriptors state))
  | requested (state : ReadinessState) (known : s.readiness = some state) (live : Live s state)
      (settled : ∀ id b, (unbindUndesired s.managedDescriptors state).bindingsById.get id = some b →
        b.status ≠ .unbinding) (made : ReadinessState × Nat)
      (folded : made = s.managedDescriptors.entries.foldl (requestBinding cfg)
        (unbindUndesired s.managedDescriptors state,s.issued)) :
      Reconciled cfg s {s.setState made.1 with issued := made.2}

theorem reconcile_cases (s : Host) : Reconciled cfg s (reconcileManagedBindings cfg s) := by
  unfold reconcileManagedBindings
  cases known : s.readiness with
  | none =>
    refine .dead fun state there => ?_
    rw [known] at there
    cases there
  | some state =>
    simp only
    split
    · next dead =>
      refine .dead fun state' there => ?_
      cases known.symm.trans there
      rintro ⟨enabled,connected⟩
      simp [enabled,connected] at dead
    next alive =>
    have live : Live s state := by simpa [Live] using alive
    split
    · next unbinding =>
      obtain ⟨⟨id,b⟩,member,status⟩ := any_eq_true.mp unbinding
      exact .ending state known live ⟨id,b,get_eq_some.mpr member,beq_iff_eq.mp status⟩
    · next settled =>
      refine .requested state known live (fun id b there status => settled ?_) _ rfl
      exact any_eq_true.mpr ⟨(id,b),get_eq_some.mp there,beq_iff_eq.mpr status⟩

theorem reconcile_issued (s : Host) : s.issued ≤ (reconcileManagedBindings cfg s).issued := by
  have reconciled := @reconcile_cases cfg s
  generalize reconcileManagedBindings cfg s = s' at reconciled ⊢
  cases reconciled with
  | dead => exact Nat.le_refl _
  | ending => exact Nat.le_refl _
  | requested state known live settled made folded =>
    rw [folded]
    exact requestBindings_issued _ (unbindUndesired s.managedDescriptors state,s.issued)

/-- A host before its bindings are reconciled: they are tracked, and there are none where
they are not negotiated. -/
structure Unreconciled (cfg : Config) (named : ReceiptAuthority → Prop) (s : Host) : Prop where
  keyed : ∀ key d, s.managedDescriptors.get key = some d → Keyed cfg named (key,d)
  tracked : ∀ state, s.readiness = some state → TrackedIn cfg named s.issued state
  idle : ∀ state, s.readiness = some state → ¬ Live s state →
    state.bindingsById = .empty ∧ state.bindingsByDescriptor = .empty

theorem reconcile_sound (before : Unreconciled cfg named s) (fresh : Fresh cfg bound)
    (within : (reconcileManagedBindings cfg s).issued ≤ bound) :
    Sound cfg named (reconcileManagedBindings cfg s) ∧
      ∀ next, (reconcileManagedBindings cfg s).readiness = some next → ∃ state, s.readiness = some state ∧
        next.socket = state.socket ∧ BindsNone state.bindingsById next.bindingsById := by
  have reconciled := @reconcile_cases cfg s
  generalize reconcileManagedBindings cfg s = s' at reconciled within ⊢
  cases reconciled with
  | dead unlive =>
    refine ⟨⟨before.keyed,before.tracked,before.idle,fun state known key id listed => ?_,
      fun state known live => absurd live (unlive state known)⟩,fun next there => ⟨next,there,rfl,.refl _⟩⟩
    rw [(before.idle state known (unlive state known)).2] at listed
    cases listed
  | ending state known live unbinding =>
    have keeps := unbindUndesired_keeps s.managedDescriptors state
    obtain ⟨tracked,binds,wanted⟩ := unbindUndesired_tracked (before.tracked state known) s.managedDescriptors
    generalize unbindUndesired s.managedDescriptors state = left at *
    have live' : Live (s.setState left) left := ⟨keeps.bindingEnabled.trans live.1,keeps.socket ▸ live.2⟩
    refine ⟨⟨before.keyed,?_,?_,?_,?_⟩,?_⟩
    all_goals
      intro next there
      cases there
    · exact tracked
    · exact fun dead => absurd live' dead
    · exact wanted
    · exact fun _ => .inl unbinding
    · exact ⟨state,known,keeps.socket,binds⟩
  | requested state known live settled made folded =>
    have keeps := unbindUndesired_keeps s.managedDescriptors state
    obtain ⟨tracked,binds,wanted⟩ := unbindUndesired_tracked (before.tracked state known) s.managedDescriptors
    generalize unbindUndesired s.managedDescriptors state = left at *
    have keeps' := @requestBindings_keeps cfg s.managedDescriptors.entries (left,s.issued)
    obtain ⟨tracked',adds,served⟩ := @requestBindings_tracked cfg named (left,s.issued) bound tracked settled
      s.managedDescriptors.entries (fun e member => before.keyed e.1 e.2 (get_eq_some.mpr member))
      fresh (folded ▸ within)
    simp only [← folded] at keeps' tracked' adds served
    have live' : Live {s.setState made.1 with issued := made.2} made.1 :=
      ⟨keeps'.bindingEnabled.trans (keeps.bindingEnabled.trans live.1),
        (keeps'.socket.trans keeps.socket) ▸ live.2⟩
    refine ⟨⟨before.keyed,?_,?_,?_,?_⟩,?_⟩
    all_goals
      intro next there
      cases there
    · exact tracked'
    · exact fun dead => absurd live' dead
    · intro key id listed
      rcases adds.wanted key id listed with before' | asked
      · exact wanted key id before'
      · obtain ⟨d,there⟩ := mem_keys.mp asked
        exact isSome_iff_exists.mpr ⟨d,there⟩
    · exact fun _ => .inr fun key d there => served (key,d) (get_eq_some.mp there)
    · exact ⟨state,known,keeps'.socket.trans keeps.socket,binds.trans adds.binds⟩

end GjcRemote.HostReadiness
