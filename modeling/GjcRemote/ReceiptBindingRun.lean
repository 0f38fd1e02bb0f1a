import GjcRemote.ReceiptBindingSound

/-! The steps that reserve a floor, file a binding, accept an inventory or prove a
binding, and from them the books over whole runs. -/
namespace GjcRemote.ReceiptBinding

open Utf16 StrictJson List WorkspaceLease OrderedMap State

theorem OpaqueId.ext_text {a b : OpaqueId} (same : a.text = b.text) : a = b := by
  cases a
  cases same
  rfl

def State.serves (s : State) (c : Nat) (workspaceId : OpaqueId) (b : Nat) : Prop :=
  s.listed b = true ∧ (s.bindings b).socket = c ∧ (s.authority b).workspaceId = workspaceId

theorem floor_setFloor (s : State) (c c' : Nat) (workspaceId workspaceId' : OpaqueId) (f : Floor) :
    (s.setFloor c workspaceId f).floor c' workspaceId' =
      if c' = c ∧ workspaceId' = workspaceId then some f else s.floor c' workspaceId' := by
  by_cases home : c' = c
  · by_cases same : workspaceId' = workspaceId
    · simp [floor,setFloor,setSocket,home,same]
    · have other : workspaceId'.text ≠ workspaceId.text := fun eq => same (OpaqueId.ext_text eq)
      simp [floor,setFloor,setSocket,home,same,get_set_ne _ _ other]
  · simp [floor,setFloor,setSocket,home]

theorem setFloor_sockets (s : State) (c c' : Nat) (workspaceId : OpaqueId) (f : Floor) :
    (s.setFloor c workspaceId f).sockets c' = {s.sockets c' with
      receiptWorkspaceFloors := ((s.setFloor c workspaceId f).sockets c').receiptWorkspaceFloors} := by
  by_cases home : c' = c <;> simp [setFloor,setSocket,home]

theorem listed_setFloor (s : State) (c : Nat) (workspaceId : OpaqueId) (f : Floor) (b : Nat) :
    (s.setFloor c workspaceId f).listed b = s.listed b := by
  unfold listed home
  rw [setFloor_sockets]
  rfl

variable {s : State} {c : Nat} {workspaceId : OpaqueId}

/-- A floor may move as long as it fits the bindings that rest on it. -/
theorem Sound.setFloor (sound : Sound s) (known : c < s.opened)
    (fits : ∀ b, s.serves c workspaceId b → f.authority = s.authority b ∧ ∀ p, (s.bindings b).proof = some p →
        f.inventory = some (p.inventoryGeneration,p.inventoryFingerprint)) :
    Sound (s.setFloor c workspaceId f) where
  filed c' id b found := by
    rw [State.at,setFloor_sockets] at found
    exact sound.filed c' id b found
  owner b made := by
    obtain ⟨opened,accepted⟩ := sound.owner b made
    refine ⟨opened,?_⟩
    rw [State.home,setFloor_sockets]
    exact accepted
  unopened c' beyond := by
    have ne : c' ≠ c := by
      have : s.opened ≤ c' := beyond
      omega
    simpa [State.setFloor,State.setSocket,ne] using sound.unopened c' beyond
  accepted c' committed := by
    rw [setFloor_sockets] at committed ⊢
    exact sound.accepted c' committed
  floor b listed := by
    rw [listed_setFloor] at listed
    rw [floor_setFloor]
    split
    · rename_i here
      exact ⟨f,rfl,(fits b ⟨listed,here.1,here.2⟩).1⟩
    · exact sound.floor b listed
  single b b' listed listed' := by
    rw [listed_setFloor] at listed listed'
    exact sound.single b b' listed listed'
  pending := sound.pending
  proved := sound.proved
  fresh b p listed proved := by
    rw [listed_setFloor] at listed
    obtain ⟨valid,floor⟩ := sound.fresh b p listed proved
    refine ⟨valid,?_⟩
    rw [floor_setFloor]
    split
    · rename_i here
      exact (fits b ⟨listed,here.1,here.2⟩).2 p proved
    · exact floor
  ready := sound.ready
  fenced b listed open' committed fenced := by
    rw [listed_setFloor] at listed
    rw [State.home,setFloor_sockets] at open' committed fenced
    exact sound.fenced b listed open' committed fenced

theorem file_at (s : State) (c c' : Nat) (binding : Binding) (id : Units) :
    (s.file c binding).at c' id =
      if c' = c ∧ id = binding.bindingId.text then some s.allocated else s.at c' id := by
  by_cases home : c' = c
  · by_cases same : id = binding.bindingId.text
    · simp [State.at,State.file,State.setSocket,home,same]
    · simp [State.at,State.file,State.setSocket,home,same,get_set_ne _ _ same]
  · simp [State.at,State.file,State.setSocket,home]

theorem file_sockets (s : State) (c c' : Nat) (binding : Binding) :
    (s.file c binding).sockets c' =
      {s.sockets c' with bindings := ((s.file c binding).sockets c').bindings} := by
  by_cases home : c' = c <;> simp [file,setSocket,home]

theorem file_bindings (s : State) (c : Nat) (binding : Binding) (b : Nat) :
    (s.file c binding).bindings b =
      if b = s.allocated then ⟨c,binding,none,none,false,some .inventoryPending,false⟩ else s.bindings b := rfl

theorem file_calls (s : State) (c : Nat) (binding : Binding) (b : Nat) :
    (s.file c binding).calls b = if b = s.allocated then .firstRead else s.calls b := rfl

theorem floor_file (s : State) (c c' : Nat) (binding : Binding) (workspaceId : OpaqueId) :
    (s.file c binding).floor c' workspaceId = s.floor c' workspaceId := by
  rw [floor,file_sockets]
  rfl

variable {binding : Binding} {b : Nat}

/-- What is listed after a binding is filed was listed before, or is the new one. -/
theorem listed_file (free : s.at c binding.bindingId.text = none) :
    (s.file c binding).listed b ↔ b = s.allocated ∨ (b ≠ s.allocated ∧ s.listed b) := by
  rw [listed_iff,listed_iff,file_at,file_bindings]
  by_cases new : b = s.allocated
  · simp [new]
  · have only (listed : Prop) : (b = s.allocated ∨ (b ≠ s.allocated ∧ listed)) ↔ listed := by
      simp [new]
    rw [if_neg new,only]
    by_cases here : (s.bindings b).socket = c ∧
        (s.bindings b).binding.bindingId.text = binding.bindingId.text
    · rw [if_pos here,here.1,here.2,free]
      simp [Ne.symm new]
    · rw [if_neg here]

theorem file_new (s : State) (c : Nat) (binding : Binding) : (s.file c binding).bindings s.allocated =
    ⟨c,binding,none,none,false,some .inventoryPending,false⟩ := by
  rw [file_bindings,if_pos rfl]

theorem file_old (ne : b ≠ s.allocated) : (s.file c binding).bindings b = s.bindings b := by
  rw [file_bindings,if_neg ne]

theorem authority_file_new (s : State) (c : Nat) (binding : Binding) :
    (s.file c binding).authority s.allocated = binding.authority := by
  rw [State.authority,file_new]

theorem authority_file (ne : b ≠ s.allocated) : (s.file c binding).authority b = s.authority b := by
  rw [authority,file_old ne,authority]

theorem home_file (ne : b ≠ s.allocated) : (s.file c binding).home b =
    {s.home b with bindings := ((s.file c binding).home b).bindings} := by
  rw [home,file_old ne,home]
  exact file_sockets s c _ binding

theorem Sound.file_filed {id : Units} (sound : Sound s) (found : (s.file c binding).at c' id = some b) :
    b < s.allocated + 1 ∧ ((s.file c binding).bindings b).socket = c' ∧
      ((s.file c binding).bindings b).binding.bindingId.text = id := by
  rw [file_at] at found
  split at found
  · rename_i here
    cases found
    rw [file_new]
    exact ⟨Nat.lt_succ_self _,here.1.symm,here.2.symm⟩
  · obtain ⟨made,socket,frame⟩ := sound.filed c' id b found
    rw [file_old (Nat.ne_of_lt made)]
    exact ⟨made.trans (Nat.lt_succ_self _),socket,frame⟩

theorem Sound.file_owner (sound : Sound s) (known : c < s.opened) (accepted : (s.sockets c).handshakeAccepted)
    (made : b < s.allocated + 1) : ((s.file c binding).bindings b).socket < s.opened ∧
      ((s.file c binding).home b).handshakeAccepted = true := by
  by_cases new : b = s.allocated
  · subst new
    rw [State.home,file_new,file_sockets]
    exact ⟨known,accepted⟩
  · obtain ⟨opened,hand⟩ := sound.owner b (by omega)
    rw [home_file new,file_old new]
    exact ⟨opened,hand⟩

/-- A binding is filed for a workspace that no binding of the connection serves. -/
theorem Sound.file_single (sound : Sound s) (free : s.at c binding.bindingId.text = none)
    (alone : ∀ b, ¬ s.serves c binding.authority.workspaceId b)
    (inside : (s.file c binding).listed b = true) (inside' : (s.file c binding).listed b' = true)
    (socket : ((s.file c binding).bindings b).socket = ((s.file c binding).bindings b').socket)
    (workspace : ((s.file c binding).authority b).workspaceId = ((s.file c binding).authority b').workspaceId) :
    b = b' := by
  rcases (listed_file free).mp inside with rfl | ⟨ne,inside⟩ <;>
    rcases (listed_file free).mp inside' with rfl | ⟨ne',inside'⟩
  · rfl
  · rw [file_new,file_old ne'] at socket
    rw [authority_file_new,authority_file ne'] at workspace
    exact absurd ⟨inside',socket.symm,workspace.symm⟩ (alone b')
  · rw [file_new,file_old ne] at socket
    rw [authority_file_new,authority_file ne] at workspace
    exact absurd ⟨inside,socket,workspace⟩ (alone b)
  · rw [file_old ne,file_old ne'] at socket
    rw [authority_file ne,authority_file ne'] at workspace
    exact sound.single b b' inside inside' socket workspace

/-- A new binding rests on the floor that was reserved for it. -/
theorem Sound.file (sound : Sound s) (known : c < s.opened) (accepted : (s.sockets c).handshakeAccepted)
    (free : s.at c binding.bindingId.text = none) (floor : s.floor c binding.authority.workspaceId = some f)
    (reserved : f.authority = binding.authority)
    (alone : ∀ b, ¬ s.serves c binding.authority.workspaceId b) : Sound (s.file c binding) where
  filed _ _ _ found := sound.file_filed found
  owner _ made := sound.file_owner known accepted made
  unopened c' beyond := by
    have ne : c' ≠ c := by
      have : s.opened ≤ c' := beyond
      omega
    simpa [State.file,State.setSocket,ne] using sound.unopened c' beyond
  accepted c' committed := by
    rw [file_sockets] at committed ⊢
    exact sound.accepted c' committed
  floor b inside := by
    rw [floor_file]
    rcases (listed_file free).mp inside with rfl | ⟨ne,inside⟩
    · rw [file_new,authority_file_new]
      exact ⟨f,floor,reserved⟩
    · rw [file_old ne,authority_file ne]
      exact sound.floor b inside
  single _ _ inside inside' socket workspace := sound.file_single free alone inside inside' socket workspace
  pending b := by
    by_cases new : b = s.allocated
    · rw [new,file_new]
      exact .inr rfl
    · rw [file_calls,if_neg new,file_old new]
      exact sound.pending b
  proved b p proved := by
    by_cases new : b = s.allocated
    · rw [new,file_new] at proved
      cases proved
    · rw [file_calls,if_neg new]
      rw [file_old new] at proved
      exact sound.proved b p proved
  fresh b p inside proved := by
    rcases (listed_file free).mp inside with rfl | ⟨ne,inside⟩
    · rw [file_new] at proved
      cases proved
    · rw [floor_file,file_old ne,authority_file ne]
      rw [file_old ne] at proved
      exact sound.fresh b p inside proved
  ready b ready := by
    by_cases new : b = s.allocated
    · rw [new,file_new] at ready
      cases ready
    · rw [file_old new] at ready ⊢
      exact sound.ready b ready
  fenced b inside open' committed fenced := by
    rcases (listed_file free).mp inside with rfl | ⟨ne,inside⟩
    · rw [file_new]
    · rw [home_file ne] at open' committed fenced
      rw [file_old ne]
      exact sound.fenced b inside open' committed fenced

theorem current_iff : currentReceiptBinding s b ↔
    (s.home b).receiptCommitted ∧ (s.home b).connected ∧ s.listed b ∧ (s.bindings b).invalidated = false := by
  simp [currentReceiptBinding,and_assoc]

theorem grant_bindings (s : State) (b : Nat) (workspace : Option InventoryWorkspace) (proof : Proof)
    (other : Nat) : (s.grant b workspace proof).bindings other = if other = b then
      ⟨(s.bindings b).socket,(s.bindings b).binding,workspace,some proof,(s.bindings b).ready,none,
        (s.bindings b).invalidated⟩ else s.bindings other := by
  by_cases here : other = b <;> simp [grant,setBinding,here]

/-- A current binding whose reads agree gets the proof that its floor holds. -/
theorem Sound.grant (sound : Sound s) (current : currentReceiptBinding s b) (backed : Backed (s.calls b) p)
    (floor : (s.floor (s.bindings b).socket (s.authority b).workspaceId).bind Floor.inventory =
      some (p.inventoryGeneration,p.inventoryFingerprint)) (workspace : Option InventoryWorkspace) :
    Sound (s.grant b workspace p) := by
  obtain ⟨receipt,_,_,valid⟩ := current_iff.mp current
  have here : (s.grant b workspace p).bindings b = _ := (grant_bindings s b workspace p b).trans (if_pos rfl)
  have away {other : Nat} (ne : other ≠ b) : (s.grant b workspace p).bindings other = s.bindings other :=
    (grant_bindings s b workspace p other).trans (if_neg ne)
  have socket (other : Nat) :
      ((s.grant b workspace p).bindings other).socket = (s.bindings other).socket := by
    by_cases same : other = b
    · rw [same,here]
    · rw [away same]
  have frame (other : Nat) :
      ((s.grant b workspace p).bindings other).binding = (s.bindings other).binding := by
    by_cases same : other = b
    · rw [same,here]
    · rw [away same]
  have authority (other : Nat) : (s.grant b workspace p).authority other = s.authority other := by
    rw [authority,frame,authority]
  have home (other : Nat) : (s.grant b workspace p).home other = s.home other := by
    rw [home,socket]
    rfl
  have listed (other : Nat) : (s.grant b workspace p).listed other = s.listed other := by
    rw [listed,home,frame,listed]
  constructor
  case filed =>
    intro c id other found
    rw [socket,frame]
    exact sound.filed c id other found
  case owner =>
    intro other made
    rw [socket,home]
    exact sound.owner other made
  case unopened => exact sound.unopened
  case accepted => exact sound.accepted
  case floor =>
    intro other inside
    rw [socket,authority]
    exact sound.floor other (listed other ▸ inside)
  case single =>
    intro one two inside inside'
    rw [socket,socket,authority,authority]
    exact sound.single one two (listed one ▸ inside) (listed two ▸ inside')
  case pending =>
    intro other
    by_cases same : other = b
    · obtain ⟨first,second,call,_⟩ := backed
      exact .inl ⟨_,same ▸ call⟩
    · rw [away same]
      exact sound.pending other
  case proved =>
    intro other q proved
    by_cases same : other = b
    · rw [same,here] at proved
      cases proved
      exact same ▸ backed
    · rw [away same] at proved
      exact sound.proved other q proved
  case fresh =>
    intro other q inside proved
    rw [socket,authority]
    by_cases same : other = b
    · subst same
      rw [here] at proved ⊢
      cases proved
      exact ⟨valid,floor⟩
    · rw [away same] at proved ⊢
      exact sound.fresh other q (listed other ▸ inside) proved
  case ready =>
    intro other ready
    by_cases same : other = b
    · rw [same,here]
      rfl
    · rw [away same] at ready ⊢
      exact sound.ready other ready
  case fenced =>
    intro other inside open' committed fenced
    rw [home] at open' committed fenced
    by_cases same : other = b
    · rw [same] at fenced
      rw [receipt] at fenced
      cases fenced
    · rw [away same]
      exact sound.fenced other (listed other ▸ inside) open' committed fenced

theorem OpaqueId.nonempty (id : OpaqueId) : id.text ≠ [] := by
  intro empty
  have := id.valid
  rw [empty] at this
  cases this

theorem Generation.safeInteger_js (g : Generation) :
    safeInteger g.js = some (g.value : Int) := by
  have bound : -maxSafeInteger ≤ (g.value : Int) ∧ (g.value : Int) ≤ maxSafeInteger := by
    have := g.safe
    unfold largest at this
    unfold maxSafeInteger
    omega
  have safe : isSafeInteger (.int g.value) := by
    simpa [isSafeInteger] using bound
  exact if_pos safe

/-- The fields of what a bind adopts. -/
theorem identity_fields (s : State) (b : Nat) (p : Proof) :
    s.identity b p .authorityEpoch = (s.authority b).authorityEpoch.js ∧
    s.identity b p .fenceGeneration = (s.authority b).fenceGeneration.js ∧
    s.identity b p .hostId = .string (s.authority b).hostId ∧
    s.identity b p .mappingId = .string (s.authority b).mappingId.text ∧
    s.identity b p .mappingGeneration = (s.authority b).mappingGeneration.js ∧
    s.identity b p .mappingVersion = (s.authority b).mappingVersion.js ∧
    s.identity b p .workspaceId = .string (s.authority b).workspaceId.text ∧
    s.identity b p .workspaceGeneration = (s.authority b).workspaceGeneration.js ∧
    s.identity b p .sourcePlatform = .string (s.authority b).sourcePlatform.text ∧
    s.identity b p .authorityFingerprint = .string (s.authority b).authorityFingerprint.digits ∧
    s.identity b p .inventoryGeneration = p.inventoryGeneration.js ∧
    s.identity b p .inventoryFingerprint = .string p.inventoryFingerprint.digits ∧
    s.identity b p .socketGeneration = (s.home b).socketGeneration.js ∧
    s.identity b p .bindingId = .string (s.bindings b).binding.bindingId.text ∧
    s.identity b p .bindingFingerprint = .string p.bindingFingerprint.digits :=
  ⟨rfl,rfl,rfl,rfl,rfl,rfl,rfl,rfl,rfl,rfl,rfl,rfl,rfl,rfl,rfl⟩

theorem Generation.js_defined (g : Generation) : g.js ≠ .undefined := nofun

theorem identity_valid (s : State) (b : Nat) (p : Proof) :
    authorityIsValid (s.identity b p) := by
  obtain ⟨epoch,fence,host,mapping,mappingGeneration,version,workspace,workspaceGeneration,platform,
    authority,inventory,fingerprint,socket,binding,bindingFingerprint⟩ := identity_fields s b p
  have valid (g : Generation) : validGeneration g.js := by
    simp [validGeneration,g.safeInteger_js]
  have atLeastOne (g : Generation) : (safeInteger g.js).any (fun n => decide (1 ≤ n)) := by
    have := g.positive
    rw [g.safeInteger_js]
    simp only [Option.any_some,decide_eq_true_eq]
    omega
  simp [authorityIsValid,authorityFields,V3_AUTHORITY_FIELDS,
    GENERATION_FIELDS,RECEIPT_IDENTITY_FIELDS,isNonEmptyString,
    matchesHex64,OpaqueId.nonempty,Hex64.hex,Generation.js_defined,valid,atLeastOne,epoch,
    fence,host,mapping,mappingGeneration,version,workspace,workspaceGeneration,platform,authority,inventory,
    fingerprint,socket,binding,bindingFingerprint]

/-- What a bind adopts is an authority that the registry reads. -/
theorem identity_accepted (s : State) (b : Nat) (p : Proof) :
    ∃ a, requireAuthority (s.identity b p) = .ok a ∧ a.workspaceId = (s.authority b).workspaceId.text ∧
      a.value .socketGeneration = (s.home b).socketGeneration.js ∧
      a.value .bindingId = .string (s.bindings b).binding.bindingId.text := by
  have named : s.identity b p .workspaceId = .string (s.authority b).workspaceId.text := rfl
  have kept : hasReceiptIdentity (s.identity b p) := by
    simp [hasReceiptIdentity,identity_fields s b p,Generation.js_defined]
  cases accepted : requireAuthority (s.identity b p) with
  | error error =>
    unfold requireAuthority at accepted
    split at accepted
    · rw [if_pos (identity_valid s b p)] at accepted
      cases accepted
    · rename_i unnamed
      exact absurd named (unnamed _)
  | ok a =>
    obtain ⟨_,value⟩ := requireAuthority_ok accepted
    have workspace := requireAuthority_named accepted
    rw [named,Js.string.injEq] at workspace
    refine ⟨a,rfl,workspace.symm,?_,?_⟩
    · rw [value,restrict,if_pos (by simp [keptFields,kept,RECEIPT_IDENTITY_FIELDS])]
      rfl
    · rw [value,restrict,if_pos (by simp [keptFields,kept,RECEIPT_IDENTITY_FIELDS])]
      rfl

structure SameBooks (s s' : State) : Prop where
  sockets : s'.sockets = s.sockets
  opened : s'.opened = s.opened
  bindings : s'.bindings = s.bindings
  calls : s'.calls = s.calls
  allocated : s'.allocated = s.allocated

variable {s' : State}

theorem SameBooks.eases (same : SameBooks s s') : Eases s s' :=
  .of_same same.sockets same.opened same.bindings same.calls same.allocated

theorem SameBooks.current (same : SameBooks s s') (b : Nat) :
    currentReceiptBinding s' b = currentReceiptBinding s b := by
  unfold currentReceiptBinding listed home
  rw [same.sockets,same.bindings]

theorem not_published :
    (c',Frame.bindOk bindingId p) ∉ s.publish c := by
  unfold publish
  dsimp only
  split
  · simp [readinessFrame]
  · simp

def answersOk (frame : Nat × Frame) : Prop := ∃ c bindingId p, frame = (c,.bindOk bindingId p)

theorem publish_answers (s : State) (c : Nat) : ∀ frame ∈ s.publish c, ¬ answersOk frame := by
  rintro frame member ⟨c',bindingId,p,rfl⟩
  exact not_published member

structure Granted (s s' : State) (b : Nat) (workspace : Option InventoryWorkspace) (p : Proof) :
    Prop where
  books : SameBooks (s.grant b workspace p) s'
  adopted : (adoptBinding s.leases.registry (s.identity b p)).2 = .ok true
  leases : s'.leases = (WorkspaceLease.step s.leases (.adoptBinding (s.identity b p))).1

theorem adoptBinding_answers (accepted : requireAuthority candidate = .ok a) :
    (adoptBinding r candidate).2 = .ok true ∨ (adoptBinding r candidate).2 = .ok false := by
  unfold adoptBinding
  rw [accepted]
  dsimp only
  split
  · split <;> simp
  · repeat' split
    all_goals simp

/-- The two ends of a bind. -/
theorem Sound.settle_cases (sound : Sound s)
    (unproved : (s.bindings b).proof = none) (workspace : Option InventoryWorkspace)
    (proof : Option Proof) (errorCode : Code) (epoch : Nat) :
    (Eases s (settle s b workspace proof errorCode epoch).1 ∧
      (∀ frame ∈ (settle s b workspace proof errorCode epoch).2, ¬ answersOk frame) ∧
      ((settle s b workspace proof errorCode epoch).1.leases = s.leases ∨
        ∃ p, (settle s b workspace proof errorCode epoch).1.leases =
          (WorkspaceLease.step s.leases (.adoptBinding (s.identity b p))).1 ∧
        (adoptBinding s.leases.registry (s.identity b p)).2 = .ok false)) ∨
    ∃ p, proof = some p ∧ Granted s (settle s b workspace proof errorCode epoch).1 b workspace p ∧
      ∀ frame ∈ (settle s b workspace proof errorCode epoch).2, answersOk frame →
        frame = ((s.bindings b).socket,.bindOk (s.bindings b).binding.bindingId p) := by
  cases proof with
  | none =>
    exact .inl ⟨sound.eases_deny unproved workspace errorCode,publish_answers _ _,.inl rfl⟩
  | some p =>
    obtain ⟨a,accepted,_⟩ := identity_accepted s b p
    unfold settle
    dsimp only
    have answered : (WorkspaceLease.step s.leases (.adoptBinding (s.identity b p))).2 =
      answerBool (adoptBinding s.leases.registry (s.identity b p)).2 := rfl
    rcases adoptBinding_answers (r := s.leases.registry) accepted with adopted | refused
    · rw [answered,adopted]
      refine .inr ⟨p,rfl,⟨⟨rfl,rfl,rfl,rfl,rfl⟩,adopted,rfl⟩,?_⟩
      intro frame member answers
      rcases mem_cons.mp member with rfl | published
      · simp [State.call,grant_bindings]
      · exact absurd answers (publish_answers _ _ frame published)
    · rw [answered,refused]
      refine .inl ⟨?_,publish_answers _ _,.inr ⟨p,rfl,refused⟩⟩
      have denied : SameBooks (s.deny b workspace .inventoryStale)
          (((s.grant b workspace p).call (.adoptBinding (s.identity b p))).deny b workspace
            .inventoryStale) := by
        refine ⟨rfl,rfl,?_,rfl,rfl⟩
        funext other
        by_cases here : other = b <;> simp [State.deny,State.grant,State.call,State.setBinding,here]
      exact (sound.eases_deny unproved workspace _).trans denied.eases

/-- The bindings that a floor's advance supersedes, one after the other. -/
def State.superseded (s : State) (c : Nat) (workspaceId : OpaqueId) : State :=
  (s.ofWorkspace c workspaceId).foldl retireSupersededReceiptBinding s

theorem mem_ofWorkspace :
    b ∈ s.ofWorkspace c workspaceId ↔ b ∈ s.bound c ∧ (s.authority b).workspaceId = workspaceId := by
  simp [ofWorkspace,bound,authority]

theorem Sound.serves_mem (sound : Sound s) :
    s.serves c workspaceId b ↔ b ∈ s.ofWorkspace c workspaceId := by
  rw [mem_ofWorkspace]
  constructor
  · rintro ⟨listed,rfl,workspace⟩
    exact ⟨mem_map.mpr ⟨_,get_eq_some.mp (listed_iff.mp listed),rfl⟩,workspace⟩
  · rintro ⟨member,workspace⟩
    obtain ⟨_,listed,socket⟩ := sound.mem_bound member
    exact ⟨listed,socket,workspace⟩

theorem superseded_unlisted (s : State) (b : Nat) :
    (retireSupersededReceiptBinding s b).listed b = false := by
  unfold retireSupersededReceiptBinding
  split
  · have home : (s.retire b).at ((s.retire b).bindings b).socket
        ((s.retire b).bindings b).binding.bindingId.text =
        (s.delist b).at ((s.delist b).bindings b).socket
          ((s.delist b).bindings b).binding.bindingId.text := by
      unfold State.retire State.withdraw
      split <;> simp [State.at,State.call,State.setSocket]
    rw [Bool.eq_false_iff,ne_eq,listed_iff,home,← listed_iff,delist_unlisted]
    exact Bool.false_ne_true
  · rename_i gone
    rwa [Bool.not_eq_true] at gone

theorem Sound.eases_supersede (sound : Sound s) (c : Nat) (workspaceId : OpaqueId) :
    Eases s (s.superseded c workspaceId) :=
  sound.eases_foldl _ fun _ sound _ b _ => sound.eases_superseded b

/-- Every binding of the list is gone after the loop. -/
theorem Sound.superseded_all (sound : Sound s) (bs : List Nat) :
    ∀ b ∈ bs, (bs.foldl retireSupersededReceiptBinding s).listed b = false := by
  induction bs generalizing s with
  | nil => simp
  | cons first rest ih =>
    have one := sound.eases_superseded first
    intro b member
    rcases mem_cons.mp member with rfl | later
    · have loop := (sound.eases one).eases_foldl (f := retireSupersededReceiptBinding) rest
        fun _ sound _ b _ => sound.eases_superseded b
      rw [Bool.eq_false_iff]
      intro listed
      have still := loop.stays listed
      rw [superseded_unlisted] at still
      cases still
    · exact ih (sound.eases one) b later

theorem Sound.supersede_alone (sound : Sound s) (c : Nat) (workspaceId : OpaqueId) (b : Nat) :
    ¬ (s.superseded c workspaceId).serves c workspaceId b := by
  rintro ⟨listed,socket,workspace⟩
  have eases := sound.eases_supersede c workspaceId
  rw [eases.socket] at socket
  rw [eases.authority] at workspace
  have member := sound.serves_mem.mp ⟨eases.stays listed,socket,workspace⟩
  have gone := sound.superseded_all (s.ofWorkspace c workspaceId) b member
  rw [superseded,gone] at listed
  cases listed

structure Reserved (s t : State) (c : Nat) (binding : Binding) (f : Floor) : Prop where
  from' : t = s ∨ t = s.superseded c binding.authority.workspaceId
  authority : f.authority = binding.authority
  inventory : f.inventory = (s.floor c binding.authority.workspaceId).bind Floor.inventory
  alone : ∀ b, ¬ t.serves c binding.authority.workspaceId b

theorem Reserved.eases (sound : Sound s) (reserved : Reserved s t c binding f) :
    Eases s t := by
  rcases reserved.from' with rfl | rfl
  · exact .refl _
  · exact sound.eases_supersede _ _

theorem Sound.reserve_cases (sound : Sound s) (free : s.at c binding.bindingId.text = none)
    (reserved : reserveReceiptAuthorityFloor s c binding = some s') :
    ∃ t f, Reserved s t c binding f ∧ s' = t.setFloor c binding.authority.workspaceId f := by
  unfold reserveReceiptAuthorityFloor at reserved
  dsimp only at reserved
  split at reserved
  · cases reserved
  rename_i allowed
  cases reserved
  refine ⟨_,_,?_,rfl⟩
  split
  · exact ⟨.inr rfl,rfl,rfl,sound.supersede_alone _ _⟩
  rename_i stands
  refine ⟨.inl rfl,rfl,rfl,?_⟩
  rintro b ⟨listed,socket,workspace⟩
  obtain ⟨f,found,_⟩ := sound.floor b listed
  rw [socket,workspace] at found
  change (s.sockets c).receiptWorkspaceFloors.get binding.authority.workspaceId.text = some f at found
  rw [found] at allowed stands
  simp only [Option.map_some,Option.getD_some,Bool.not_eq_true] at allowed stands
  rw [stands] at allowed
  simp only [Bool.not_false,Bool.true_and,Bool.or_eq_false_iff,any_eq_false,decide_eq_true_eq,
    not_not] at allowed
  have same := allowed.2 b (sound.serves_mem.mp ⟨listed,socket,workspace⟩)
  have here := listed_iff.mp listed
  rw [socket,same,free] at here
  cases here

/-- An inventory is accepted at or above the floor of the workspace. -/
theorem accept_cases (accepted : acceptReceiptInventoryFloor s c workspaceId inventory = some s') :
    ∃ f, s.floor c workspaceId = some f ∧
      (∀ known, f.inventory = some known → known.1.value ≤ inventory.inventoryGeneration.value) ∧
      s' = s.setFloor c workspaceId
        ⟨f.authority,some (inventory.inventoryGeneration,inventory.inventoryFingerprint)⟩ := by
  unfold acceptReceiptInventoryFloor at accepted
  split at accepted
  · cases accepted
  · rename_i f found
    dsimp only at accepted
    split at accepted
    · cases accepted
    · rename_i allowed
      cases accepted
      refine ⟨f,found,?_,rfl⟩
      intro known named
      rw [named] at allowed
      simp only [Option.map_some,Option.getD_some,Bool.or_eq_true,not_or,decide_eq_true_eq] at allowed
      omega

/-- The second read agreed with the first, and the floor took the inventory. -/
structure Accepted (s : State) (b : Nat) (first second : Reading) (t : State) : Prop where
  current : currentReceiptBinding s b = true
  waiting : ∃ workspace, s.calls b = .secondRead first workspace
  agrees : first.agrees second
  above : ∃ f, s.floor (s.bindings b).socket (s.authority b).workspaceId = some f ∧
    (∀ known, f.inventory = some known → known.1.value ≤ first.inventory.inventoryGeneration.value) ∧
    t = (s.setCall b (.finished (some (first,second)))).setFloor (s.bindings b).socket
      (s.authority b).workspaceId
      ⟨f.authority,some (first.inventory.inventoryGeneration,first.inventory.inventoryFingerprint)⟩

inductive Effect (s s' : State) : Prop
  | eases (eases : Eases s s')
  | files (c : Nat) (binding : Binding) (t : State) (f : Floor) (known : c < s.opened)
      (receipts : (s.sockets c).receiptCommitted = true)
      (free : s.at c binding.bindingId.text = none) (reserved : Reserved s t c binding f)
      (filed : s' = (t.setFloor c binding.authority.workspaceId f).file c binding)
  | accepts (b : Nat) (first second : Reading) (t : State) (accepted : Accepted s b first second t)
      (eases : Eases t s')
  | grants (b : Nat) (first second : Reading) (t : State) (workspace : Option InventoryWorkspace)
      (p : Proof) (accepted : Accepted s b first second t) (granted : Granted t s' b workspace p)
      (generation : p.inventoryGeneration = first.inventory.inventoryGeneration)
      (fingerprint : p.inventoryFingerprint = first.inventory.inventoryFingerprint)

theorem Accepted.unproved (sound : Sound s)
    (accepted : Accepted s b first second t) : (s.bindings b).proof = none := by
  obtain ⟨_,waiting⟩ := accepted.waiting
  rcases sound.pending b with ⟨_,finished⟩ | unproved
  · rw [waiting] at finished
    cases finished
  · exact unproved

theorem Accepted.sound (sound : Sound s) (accepted : Accepted s b first second t) : Sound t := by
  obtain ⟨_,_,listed,_⟩ := current_iff.mp accepted.current
  obtain ⟨f,found,_,rfl⟩ := accepted.above
  have unproved := accepted.unproved sound
  have called := sound.eases (eases_setCall (.finished (some (first,second))) unproved)
  refine called.setFloor (sound.owner b (sound.known_of_listed listed)).1 ?_
  rintro b' ⟨listed',socket,workspace⟩
  have same : b' = b := sound.single b' b listed' listed socket workspace
  subst same
  obtain ⟨f',found',authority⟩ := sound.floor b' listed
  rw [found] at found'
  cases found'
  refine ⟨authority,fun p proved => ?_⟩
  change (s.bindings b').proof = some p at proved
  rw [unproved] at proved
  cases proved

theorem Accepted.still (accepted : Accepted s b first second t) :
    currentReceiptBinding t b := by
  obtain ⟨receipt,online,listed,valid⟩ := current_iff.mp accepted.current
  obtain ⟨f,_,_,rfl⟩ := accepted.above
  refine current_iff.mpr ⟨?_,?_,?_,valid⟩
  · rw [home,setFloor_sockets]
    exact receipt
  · rw [home,setFloor_sockets]
    exact online
  · rw [listed_setFloor]
    exact listed

theorem Granted.sound (sound : Sound s) (accepted : Accepted s b first second t)
    (granted : Granted t s' b workspace p)
    (generation : p.inventoryGeneration = first.inventory.inventoryGeneration)
    (fingerprint : p.inventoryFingerprint = first.inventory.inventoryFingerprint) : Sound s' := by
  have sound' := accepted.sound sound
  have still := accepted.still
  obtain ⟨f,_,_,rfl⟩ := accepted.above
  refine (sound'.grant still ?_ ?_ workspace).eases granted.books.eases
  · exact ⟨first,second,by simp [setFloor,setSocket,setCall],accepted.agrees,
      generation,fingerprint⟩
  · rw [floor_setFloor,if_pos ⟨rfl,rfl⟩,generation,fingerprint]
    rfl

theorem Sound.effect (sound : Sound s) (effect : Effect s s') : Sound s' := by
  cases effect with
  | eases eases => exact sound.eases eases
  | files c binding t f known receipts free reserved filed =>
    subst filed
    have eased := reserved.eases sound
    have sound' := sound.eases eased
    have floored := sound'.setFloor (f := f) (known.trans_le eased.opened) fun b serves =>
      absurd serves (reserved.alone b)
    refine floored.file (f := f) (known.trans_le eased.opened) ?_ ?_ ?_ reserved.authority ?_
    · rw [setFloor_sockets]
      exact eased.handshake c known (sound.accepted c receipts)
    · rw [State.at,setFloor_sockets]
      cases found : t.at c binding.bindingId.text with
      | none => exact found
      | some b =>
        rw [eased.listed _ _ _ found] at free
        cases free
    · rw [floor_setFloor,if_pos ⟨rfl,rfl⟩]
    · rintro b ⟨listed,socket,workspace⟩
      rw [listed_setFloor] at listed
      exact reserved.alone b ⟨listed,socket,workspace⟩
  | accepts b first second t accepted eases => exact (accepted.sound sound).eases eases
  | grants b first second t workspace p accepted granted generation fingerprint =>
    exact granted.sound sound accepted generation fingerprint

/-- What an answer to a bind says: the binding is the current one, with this proof. -/
def Answered (s : State) (frame : Nat × Frame) : Prop :=
  ∃ b p, frame = ((s.bindings b).socket,.bindOk (s.bindings b).binding.bindingId p) ∧
    currentReceiptBinding s b = true ∧ (s.bindings b).proof = some p

theorem Granted.current (granted : Granted s s' b workspace p) (current : currentReceiptBinding s b) :
    currentReceiptBinding s' b := by
  obtain ⟨receipt,online,listed,valid⟩ := current_iff.mp current
  rw [granted.books.current]
  refine current_iff.mpr ⟨?_,?_,?_,?_⟩
  · rwa [home,grant_bindings,if_pos rfl]
  · rwa [home,grant_bindings,if_pos rfl]
  · rw [listed_iff,grant_bindings,if_pos rfl]
    exact listed_iff.mp listed
  · rw [grant_bindings,if_pos rfl]
    exact valid

theorem Granted.answered (granted : Granted s s' b workspace p) (current : currentReceiptBinding s b) :
    Answered s' ((s.bindings b).socket,.bindOk (s.bindings b).binding.bindingId p) := by
  refine ⟨b,p,?_,granted.current current,?_⟩ <;>
    rw [granted.books.bindings,grant_bindings,if_pos rfl]

structure Stepped (s : State) (result : State × Sent) : Prop where
  effect : Effect s result.1
  answered : ∀ frame ∈ result.2, answersOk frame → Answered result.1 frame

theorem Stepped.quiet (eases : Eases s s') (silent : ∀ frame ∈ sent, ¬ answersOk frame) :
    Stepped s (s',sent) :=
  ⟨.eases eases,fun frame member answers => absurd answers (silent frame member)⟩

theorem silent_nil : ∀ frame ∈ ([] : Sent), ¬ answersOk frame := by simp

theorem closing_answers (c : Nat) (reason : String) :
    ∀ frame ∈ closePolicyViolation c reason, ¬ answersOk frame := by
  rintro frame member ⟨c',bindingId,p,rfl⟩
  simp [closePolicyViolation] at member

theorem Sound.stepped_bind (sound : Sound s) (open' : s.open c) (message : Binding) (refusal : Option String) :
    Stepped s (acceptReceiptBinding cfg s c message refusal) := by
  have rejected : Stepped s (s,closePolicyViolation c "invalid workspace binding") :=
    .quiet (.refl s) (closing_answers _ _)
  simp only [State.open,Bool.and_eq_true,decide_eq_true_eq] at open'
  obtain ⟨⟨known,online⟩,_⟩ := open'
  unfold acceptReceiptBinding
  dsimp only
  split
  · exact rejected
  rename_i receipts
  simp only [Bool.or_eq_true,Bool.not_eq_true',not_or,Bool.not_eq_false] at receipts
  split
  · exact .quiet (.refl s) (closing_answers _ _)
  split
  · rename_i existing known'
    split
    · exact rejected
    split
    · exact rejected
    split
    · rename_i here
      split
      · rename_i p proved
        refine ⟨.eases (.refl s),?_⟩
        rintro frame member -
        rw [mem_singleton] at member
        subst member
        obtain ⟨_,socket,frame⟩ := sound.filed c _ existing here
        have listed : s.listed existing := by
          rw [listed_iff,socket,frame]
          exact here
        refine ⟨existing,p,?_,?_,proved⟩
        · rw [socket,OpaqueId.ext_text frame]
        · refine current_iff.mpr ⟨?_,?_,listed,(sound.fresh existing p listed proved).1⟩
          · rw [home,socket]
            exact receipts.1
          · rw [home,socket]
            exact online
      · exact .quiet (.refl s) silent_nil
    · exact .quiet (.refl s) silent_nil
  · rename_i absent
    split
    · exact rejected
    split
    · exact rejected
    · rename_i s' reserved
      have free : s.at c message.bindingId.text = none := (Option.or_eq_none_iff.mp absent).1
      obtain ⟨t,f,fits,rfl⟩ := sound.reserve_cases free reserved
      exact ⟨.files c message t f known receipts.1 free fits rfl,
        fun frame member answers => absurd answers (publish_answers _ _ frame member)⟩

/-- Ending a bind without a proof. -/
theorem Sound.stepped_settle (sound : Sound t) (eases : Eases s t)
    (unproved : (t.bindings b).proof = none) (workspace : Option InventoryWorkspace) (code : Code)
    (epoch : Nat) : Stepped s (settle t b workspace none code epoch) := by
  rcases sound.settle_cases unproved workspace none code epoch with
    ⟨settled,silent,_⟩ | ⟨p,proof,_⟩
  · exact .quiet (eases.trans settled) silent
  · cases proof

theorem Sound.stepped_firstRead (sound : Sound s)
    (waiting : s.calls b = .firstRead) (result : Except Code Read) :
    Stepped s (resumeFirstRead cfg s b result) := by
  have unproved : (s.bindings b).proof = none := by
    rcases sound.pending b with ⟨_,finished⟩ | unproved
    · rw [waiting] at finished
      cases finished
    · exact unproved
  have ended : Eases s (s.setCall b (.finished none)) := eases_setCall _ unproved
  have sound' := sound.eases ended
  unfold resumeFirstRead
  split
  · exact .quiet ended silent_nil
  split
  · exact .quiet (ended.trans (sound'.eases_deny unproved none _)) (publish_answers _ _)
  split
  · exact .quiet (ended.trans (sound'.eases_superseded b)) silent_nil
  split
  · exact .quiet (eases_setCall _ unproved) silent_nil
  · exact sound'.stepped_settle ended unproved none _ _

theorem Sound.stepped_secondRead (sound : Sound s)
    (waiting : s.calls b = .secondRead first workspace) (result : Except Code Read) :
    Stepped s (resumeSecondRead cfg s b first workspace result) := by
  have unproved : (s.bindings b).proof = none := by
    rcases sound.pending b with ⟨_,finished⟩ | unproved
    · rw [waiting] at finished
      cases finished
    · exact unproved
  have ended (reads : Option (Reading × Reading)) : Eases s (s.setCall b (.finished reads)) :=
    eases_setCall _ unproved
  have denied (reads : Option (Reading × Reading)) (code : Code) (epoch : Nat) :
      Stepped s (settle (s.setCall b (.finished reads)) b workspace none code epoch) :=
    (sound.eases (ended reads)).stepped_settle (ended reads) unproved workspace code epoch
  unfold resumeSecondRead
  dsimp only
  split
  · exact .quiet (ended none) silent_nil
  rename_i current
  split
  · exact .quiet ((ended none).trans ((sound.eases (ended none)).eases_superseded b)) silent_nil
  split
  · exact denied none _ _
  · rename_i second
    split
    · exact denied _ _ _
    rename_i epoch
    split
    · exact denied _ _ _
    rename_i same
    split
    · exact denied _ _ _
    · rename_i t taken
      obtain ⟨f,found,above,rfl⟩ := accept_cases taken
      have accepted : Accepted s b first second _ :=
        ⟨by simpa using current,⟨workspace,waiting⟩,
          ⟨by simpa using epoch,by simpa using not_or.mp same⟩,f,found,above,rfl⟩
      have unproved' : (((s.setCall b (.finished (some (first,second)))).setFloor (s.bindings b).socket
          (s.authority b).workspaceId ⟨f.authority,some (first.inventory.inventoryGeneration,
            first.inventory.inventoryFingerprint)⟩).bindings b).proof = none := unproved
      rcases (accepted.sound sound).settle_cases unproved' workspace _ .workspaceNotFound first.epoch with
        ⟨settled,silent,_⟩ | ⟨p,proof,granted,answers⟩
      · exact ⟨.accepts b first second _ accepted settled,
          fun frame member yes => absurd yes (silent frame member)⟩
      · obtain ⟨_,_,rfl⟩ := Option.map_eq_some_iff.mp proof
        refine ⟨.grants b first second _ workspace _ accepted granted rfl rfl,?_⟩
        intro frame member yes
        rw [answers frame member yes]
        exact granted.answered accepted.still
  · exact denied none _ _

theorem registration_answers (s : State) (c : Nat) (readinessV2 receipt : Bool) :
    ∀ frame ∈ (registrationAccepted s c readinessV2 receipt).2, ¬ answersOk frame := by
  unfold registrationAccepted
  split
  · exact silent_nil
  · exact publish_answers _ _

theorem probe_answers (s : State) (c : Nat) (error : Option Code) :
    ∀ frame ∈ (probeReadiness s c error).2, ¬ answersOk frame := by
  unfold probeReadiness
  split
  · exact silent_nil
  · split <;> exact publish_answers _ _

theorem promote_answers (s : State) (b : Nat) :
    ∀ frame ∈ (promote s b).2, ¬ answersOk frame := by
  unfold promote
  split
  · dsimp only
    split
    · exact publish_answers _ _
    · exact silent_nil
  · exact silent_nil

theorem unbind_answers (s : State) (c : Nat) (bindingId : OpaqueId) :
    ∀ frame ∈ (unbindReceiptBinding s c bindingId).2, ¬ answersOk frame := by
  unfold unbindReceiptBinding
  dsimp only
  split
  · exact silent_nil
  · exact silent_nil
  · exact closing_answers _ _

theorem settleUnbind_answers (s : State) (i : Nat) (retired : Bool) :
    ∀ frame ∈ (settleUnbind s i retired).2, ¬ answersOk frame := by
  unfold settleUnbind
  split
  · exact silent_nil
  split
  · exact silent_nil
  split
  · exact closing_answers _ _
  · rintro frame member ⟨c,bindingId,p,rfl⟩
    simp at member

theorem cascadeEnds_answers (s : State) : ∀ frame ∈ (cascadeEnds s).2, ¬ answersOk frame := by
  unfold cascadeEnds
  split
  · exact silent_nil
  intro frame member
  obtain ⟨c,_,inside⟩ := mem_flatMap.mp member
  rcases mem_append.mp inside with published | closed
  · exact publish_answers s c frame published
  · rintro ⟨c',bindingId,p,rfl⟩
    simp at closed

variable (cfg : Config)

theorem resumeAdmission_answers (s : State) (a : Nat) (admission : Admission)
    (result : Except Code Read) (barred : Bool) :
    ∀ frame ∈ (resumeAdmission cfg s a admission result barred).2, ¬ answersOk frame := by
  unfold resumeAdmission
  split
  · exact silent_nil
  · exact publish_answers _ _
  · split <;> exact silent_nil

/-- One lemma for each event, put together. -/
theorem Sound.stepped (sound : Sound s) (event : Event) :
    Stepped s (step cfg s event) := by
  have idle : Stepped s (s,[]) := .quiet (.refl s) silent_nil
  have closing (c : Nat) (reason : String) : Stepped s (s,closePolicyViolation c reason) :=
    .quiet (.refl s) (closing_answers c reason)
  cases event <;> unfold step <;> dsimp only
  case connect => exact .quiet sound.eases_connect silent_nil
  case registered c readinessV2 receipt =>
    split
    · rename_i known
      simp only [Bool.and_eq_true,decide_eq_true_eq] at known
      exact .quiet (sound.eases_registration known.1 readinessV2 receipt) (registration_answers _ _ _ _)
    · exact idle
  case probed c error => exact .quiet (sound.eases_probeReadiness c error) (probe_answers _ _ _)
  case bind c message refusal =>
    split
    · rename_i known
      cases message with
      | none => exact closing _ _
      | some message => exact sound.stepped_bind known message refusal
    · exact idle
  case bindRead b result =>
    split
    · split
      · rename_i waiting
        exact sound.stepped_firstRead waiting result
      · rename_i waiting
        exact sound.stepped_secondRead waiting result
      · exact idle
    · exact idle
  case promote b => exact .quiet (eases_promotion s b) (promote_answers s b)
  case unbind c bindingId =>
    split
    · cases bindingId with
      | none => exact closing _ _
      | some bindingId =>
        dsimp only
        split
        · exact .quiet (sound.eases_unbind c bindingId) (unbind_answers s c bindingId)
        · exact closing _ _
    · exact idle
  case unbindSettles i retired =>
    exact .quiet (eases_settleUnbind s i retired) (settleUnbind_answers s i retired)
  case closed c =>
    split
    · rename_i known
      simp only [Bool.and_eq_true,decide_eq_true_eq] at known
      exact .quiet (sound.eases_closed known.1) silent_nil
    · exact idle
  case poll expired => exact .quiet (sound.eases_poll expired) silent_nil
  case pollRead result => exact .quiet (sound.eases_resumePoll result) silent_nil
  case cascadeEnds => exact .quiet (eases_cascadeEnds s sound) (cascadeEnds_answers s)
  case workload c bindingId refused =>
    split
    · exact .quiet (eases_workload cfg s c bindingId refused) silent_nil
    · exact idle
  case admissionRead a result barred =>
    split
    · exact .quiet (eases_resumeAdmission cfg s a _ result barred) (resumeAdmission_answers _ _ _ _ _ _)
    · exact idle
  case ensured a created =>
    split
    · exact .quiet (eases_sessionEnsured s a _ created) silent_nil
    · exact idle
  case publishRead a result =>
    split
    · exact .quiet (eases_resumePublication s a _ result) silent_nil
    · exact idle
  case release lease => exact .quiet (eases_call s _) silent_nil
  case acquire candidate exclusive => exact .quiet (eases_call s _) silent_nil
  case legacyBind c message replaced =>
    split
    · exact .quiet (sound.eases_legacy c message replaced) silent_nil
    · exact idle

theorem sound_new : Sound (new cfg) where
  filed _ _ _ found := by simp [State.at,State.new,unusedSocket] at found
  owner _ made := by cases made
  unopened _ _ := rfl
  accepted _ committed := by cases committed
  floor _ listed := by simp [listed_iff,State.at,State.new,unusedSocket] at listed
  single _ _ listed := by simp [listed_iff,State.at,State.new,unusedSocket] at listed
  pending _ := .inl ⟨none,rfl⟩
  proved _ _ proved := by cases proved
  fresh _ _ _ proved := by cases proved
  ready _ ready := by cases ready
  fenced _ listed := by simp [listed_iff,State.at,State.new,unusedSocket] at listed

def runEvents (cfg : Config) (events : List Event) : State :=
  Runs.run (step cfg) (.new cfg) events

theorem runEvents_append (first second : List Event) :
    runEvents cfg (first ++ second) = Runs.run (step cfg) (runEvents cfg first) second :=
  Runs.run_append _ _ _ _

theorem sound_run (events : List Event) : Sound (runEvents cfg events) :=
  Runs.run_invariant (fun _ event sound => sound.effect (sound.stepped cfg event).effect) (sound_new cfg) events

end GjcRemote.ReceiptBinding
