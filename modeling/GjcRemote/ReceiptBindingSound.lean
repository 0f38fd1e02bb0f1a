import GjcRemote.ReceiptBinding

/-! What the maps of the sockets, the floors, the proofs and the reads of the binds have to
do with each other, in every state a run reaches. Most steps only let something go. -/
namespace GjcRemote.ReceiptBinding

open Utf16 StrictJson OrderedMap

/-- `state.bindings.get(id)` of a socket. -/
def State.at (s : State) (c : Nat) (id : Units) : Option Nat := (s.sockets c).bindings.get id

def State.authority (s : State) (b : Nat) : ReceiptAuthority := (s.bindings b).binding.authority

def State.floor (s : State) (c : Nat) (workspaceId : OpaqueId) : Option Floor :=
  (s.sockets c).receiptWorkspaceFloors.get workspaceId.text

variable {s : State} {b : Nat}

theorem listed_iff : s.listed b ↔
    s.at (s.bindings b).socket (s.bindings b).binding.bindingId.text = some b := by
  exact decide_eq_true_iff

/-- The proof names the inventory that both reads of its bind found. -/
def Backed (call : BindCall) (proof : Proof) : Prop :=
  ∃ first second, call = .finished (some (first,second)) ∧ first.agrees second ∧
    proof.inventoryGeneration = first.inventory.inventoryGeneration ∧
    proof.inventoryFingerprint = first.inventory.inventoryFingerprint

structure Sound (s : State) : Prop where
  filed : ∀ c id b, s.at c id = some b →
    b < s.allocated ∧ (s.bindings b).socket = c ∧ (s.bindings b).binding.bindingId.text = id
  owner : ∀ b, b < s.allocated →
    (s.bindings b).socket < s.opened ∧ (s.home b).handshakeAccepted = true
  unopened : ∀ c, s.opened ≤ c → s.sockets c = unusedSocket
  accepted : ∀ c, (s.sockets c).receiptCommitted = true → (s.sockets c).handshakeAccepted = true
  floor : ∀ b, s.listed b = true →
    ∃ f, s.floor (s.bindings b).socket (s.authority b).workspaceId = some f ∧ f.authority = s.authority b
  single : ∀ b b', s.listed b = true → s.listed b' = true →
    (s.bindings b).socket = (s.bindings b').socket →
    (s.authority b).workspaceId = (s.authority b').workspaceId → b = b'
  pending : ∀ b, (∃ reads, s.calls b = .finished reads) ∨ (s.bindings b).proof = none
  proved : ∀ b p, (s.bindings b).proof = some p → Backed (s.calls b) p
  fresh : ∀ b p, s.listed b = true → (s.bindings b).proof = some p →
    (s.bindings b).invalidated = false ∧
      (s.floor (s.bindings b).socket (s.authority b).workspaceId).bind Floor.inventory =
        some (p.inventoryGeneration,p.inventoryFingerprint)
  ready : ∀ b, (s.bindings b).ready = true → (s.bindings b).proof.isSome = true
  fenced : ∀ b, s.listed b = true → (s.home b).connected = true → (s.home b).committed = true →
    (s.home b).receiptCommitted = false → (s.bindings b).proof = none

structure Eases (s s' : State) : Prop where
  allocated : s'.allocated = s.allocated
  opened : s.opened ≤ s'.opened
  unopened : ∀ c, s'.opened ≤ c → s'.sockets c = s.sockets c
  frame : ∀ b, (s'.bindings b).binding = (s.bindings b).binding
  socket : ∀ b, (s'.bindings b).socket = (s.bindings b).socket
  generation : ∀ c, c < s.opened →
    (s'.sockets c).socketGeneration = (s.sockets c).socketGeneration
  handshake : ∀ c, c < s.opened → (s.sockets c).handshakeAccepted = true →
    (s'.sockets c).handshakeAccepted = true
  connected : ∀ c, c < s.opened → (s'.sockets c).connected = true → (s.sockets c).connected = true
  accepted : ∀ c, ((s.sockets c).receiptCommitted = true → (s.sockets c).handshakeAccepted = true) →
    (s'.sockets c).receiptCommitted = true → (s'.sockets c).handshakeAccepted = true
  commits : ∀ c, c < s.opened → (s.sockets c).handshakeAccepted = true →
    (s'.sockets c).committed = true → (s.sockets c).committed = true
  receipts : ∀ c, c < s.opened → (s.sockets c).handshakeAccepted = true →
    (s'.sockets c).receiptCommitted = true → (s.sockets c).receiptCommitted = true
  listed : ∀ c id b, s'.at c id = some b → s.at c id = some b
  floors : ∀ c, (s'.sockets c).receiptWorkspaceFloors = (s.sockets c).receiptWorkspaceFloors
  proof : ∀ b p, (s'.bindings b).proof = some p → (s.bindings b).proof = some p
  call : ∀ b, (s'.bindings b).proof.isSome = true → s'.calls b = s.calls b
  pending : ∀ b, s'.calls b = s.calls b ∨ (∃ reads, s'.calls b = .finished reads) ∨
    (s'.bindings b).proof = none
  invalidated : ∀ b, (s.bindings b).invalidated = true → (s'.bindings b).invalidated = true
  fresh : ∀ b, s'.listed b = true → (s'.bindings b).proof.isSome = true →
    (s'.bindings b).invalidated = (s.bindings b).invalidated
  ready : ∀ b, (s'.bindings b).ready = true → (s'.bindings b).proof = (s.bindings b).proof ∧
    ((s.bindings b).ready = true ∨ (s.bindings b).proof.isSome = true)
  fenced : ∀ b, s'.listed b = true → (s'.bindings b).proof.isSome = true →
    (s'.home b).connected = true → (s'.home b).committed = true →
    (s'.home b).receiptCommitted = false →
    (s.home b).connected = true ∧ (s.home b).committed = true ∧ (s.home b).receiptCommitted = false

theorem Eases.refl (s : State) : Eases s s where
  allocated := rfl
  opened := Nat.le_refl _
  unopened _ _ := rfl
  frame _ := rfl
  socket _ := rfl
  generation _ _ := rfl
  handshake _ _ accepted := accepted
  connected _ _ open' := open'
  accepted _ accepted := accepted
  commits _ _ _ committed := committed
  receipts _ _ _ committed := committed
  listed _ _ _ found := found
  floors _ := rfl
  proof _ _ proved := proved
  call _ _ := rfl
  pending _ := .inl rfl
  invalidated _ gone := gone
  fresh _ _ _ := rfl
  ready _ ready := ⟨rfl,.inl ready⟩
  fenced _ _ _ open' committed fenced := ⟨open',committed,fenced⟩

variable {s' : State}

theorem Eases.stays (eases : Eases s s') (listed : s'.listed b) :
    s.listed b := by
  rw [listed_iff,eases.frame,eases.socket] at listed
  exact listed_iff.mpr (eases.listed _ _ _ listed)

theorem Eases.had (eases : Eases s s') (proved : (s'.bindings b).proof.isSome) :
    (s.bindings b).proof.isSome := by
  obtain ⟨p,found⟩ := Option.isSome_iff_exists.mp proved
  rw [eases.proof b p found]
  rfl

theorem Eases.unproved (eases : Eases s s')
    (unproved : (s.bindings b).proof = none) : (s'.bindings b).proof = none := by
  cases proved : (s'.bindings b).proof with
  | none => rfl
  | some p => rw [eases.proof b p proved] at unproved; cases unproved

theorem Eases.trans (first : Eases s t) (second : Eases t u) : Eases s u where
  allocated := second.allocated.trans first.allocated
  opened := first.opened.trans second.opened
  unopened c beyond :=
    (second.unopened c beyond).trans (first.unopened c (second.opened.trans beyond))
  frame b := (second.frame b).trans (first.frame b)
  socket b := (second.socket b).trans (first.socket b)
  generation c known :=
    (second.generation c (known.trans_le first.opened)).trans (first.generation c known)
  handshake c known accepted :=
    second.handshake c (known.trans_le first.opened) (first.handshake c known accepted)
  connected c known open' :=
    first.connected c known (second.connected c (known.trans_le first.opened) open')
  accepted c accepted := second.accepted c (first.accepted c accepted)
  commits c known accepted committed := first.commits c known accepted
    (second.commits c (known.trans_le first.opened) (first.handshake c known accepted) committed)
  receipts c known accepted committed := first.receipts c known accepted
    (second.receipts c (known.trans_le first.opened) (first.handshake c known accepted) committed)
  listed c id b found := first.listed c id b (second.listed c id b found)
  floors c := (second.floors c).trans (first.floors c)
  proof b p proved := first.proof b p (second.proof b p proved)
  call b proved := (second.call b proved).trans (first.call b (second.had proved))
  pending b := by
    rcases second.pending b with same | ended
    · rw [same]
      refine (first.pending b).imp_right fun ended => ended.imp_right fun unproved => ?_
      exact second.unproved unproved
    · exact .inr ended
  invalidated b gone := second.invalidated b (first.invalidated b gone)
  fresh b listed proved :=
    (second.fresh b listed proved).trans (first.fresh b (second.stays listed) (second.had proved))
  ready b ready := by
    obtain ⟨same,before⟩ := second.ready b ready
    rcases before with before | before
    · obtain ⟨same',before'⟩ := first.ready b before
      exact ⟨same.trans same',before'⟩
    · obtain ⟨p,found⟩ := Option.isSome_iff_exists.mp before
      have earlier := first.proof b p found
      exact ⟨by rw [same,found,earlier],.inr (by rw [earlier]; rfl)⟩
  fenced b listed proved open' committed fenced := by
    obtain ⟨open',committed,fenced⟩ := second.fenced b listed proved open' committed fenced
    exact first.fenced b (second.stays listed) (second.had proved) open' committed fenced

theorem Eases.floor (eases : Eases s s') (c : Nat) (workspaceId : OpaqueId) :
    s'.floor c workspaceId = s.floor c workspaceId := by
  rw [State.floor,State.floor,eases.floors]

theorem Eases.authority (eases : Eases s s') (b : Nat) :
    s'.authority b = s.authority b := by
  rw [State.authority,State.authority,eases.frame]

/-- What only lets go keeps the books in order. -/
theorem Sound.eases (sound : Sound s) (eases : Eases s s') : Sound s' where
  filed c id b found := by
    obtain ⟨known,socket,frame⟩ := sound.filed c id b (eases.listed c id b found)
    rw [eases.allocated,eases.socket,eases.frame]
    exact ⟨known,socket,frame⟩
  owner b known := by
    rw [eases.allocated] at known
    obtain ⟨opened,accepted⟩ := sound.owner b known
    rw [State.home,eases.socket]
    exact ⟨opened.trans_le eases.opened,eases.handshake _ opened accepted⟩
  unopened c beyond :=
    (eases.unopened c beyond).trans (sound.unopened c (eases.opened.trans beyond))
  accepted c := eases.accepted c (sound.accepted c)
  floor b listed := by
    rw [eases.floor,eases.authority,eases.socket]
    exact sound.floor b (eases.stays listed)
  single b b' listed listed' home workspace := by
    rw [eases.socket,eases.socket] at home
    rw [eases.authority,eases.authority] at workspace
    exact sound.single b b' (eases.stays listed) (eases.stays listed') home workspace
  pending b := by
    rcases eases.pending b with same | ended
    · rw [same]
      exact (sound.pending b).imp_right eases.unproved
    · exact ended
  proved b p proved := by
    rw [eases.call b (by rw [proved]; rfl)]
    exact sound.proved b p (eases.proof b p proved)
  fresh b p listed proved := by
    rw [eases.fresh b listed (by rw [proved]; rfl),eases.floor,eases.authority,eases.socket]
    exact sound.fresh b p (eases.stays listed) (eases.proof b p proved)
  ready b ready := by
    obtain ⟨same,before⟩ := eases.ready b ready
    rw [same]
    exact before.elim (sound.ready b) id
  fenced b listed open' committed fenced := by
    cases proved : (s'.bindings b).proof with
    | none => rfl
    | some p =>
      obtain ⟨open',committed,fenced⟩ :=
        eases.fenced b listed (by rw [proved]; rfl) open' committed fenced
      have gone := sound.fenced b (eases.stays listed) open' committed fenced
      rw [eases.proof b p proved] at gone
      cases gone

/-- Maps, sockets and bindings stay as they are. -/
theorem Eases.of_same (sockets : s'.sockets = s.sockets) (opened : s'.opened = s.opened)
    (bindings : s'.bindings = s.bindings) (calls : s'.calls = s.calls)
    (allocated : s'.allocated = s.allocated) : Eases s s' := by
  obtain ⟨_,_,_,_,_,_,_,_,_,_,_,_,_⟩ := s
  cases sockets
  cases opened
  cases bindings
  cases calls
  cases allocated
  exact {Eases.refl _ with }

theorem eases_call (s : State) (call : WorkspaceLease.Call) : Eases s (s.call call) :=
  .of_same rfl rfl rfl rfl rfl

theorem eases_setAdmission (s : State) (a : Nat) (change : Admission → Admission) :
    Eases s (s.setAdmission a change) :=
  .of_same rfl rfl rfl rfl rfl

/-- The call of a binding without a proof. -/
theorem eases_setCall (call : BindCall) (unproved : (s.bindings b).proof = none) :
    Eases s (s.setCall b call) :=
  {Eases.refl s with
    call := by
      intro other proved
      have ne : other ≠ b := by
        rintro rfl
        rw [show (s.setCall other _).bindings = s.bindings from rfl,unproved] at proved
        cases proved
      simp [State.setCall,ne]
    pending := by
      intro other
      by_cases here : other = b
      · exact .inr (.inr (here ▸ unproved))
      · exact .inl (by simp [State.setCall,here]) }

structure Lessens (old new : BindingState) : Prop where
  frame : new.binding = old.binding
  socket : new.socket = old.socket
  proof : new.proof = old.proof ∨ new.proof = none
  invalidated : old.invalidated = true → new.invalidated = true
  fresh : new.proof.isSome = true → new.invalidated = old.invalidated
  ready : new.ready = true → new.proof = old.proof ∧ (old.ready = true ∨ old.proof.isSome = true)

theorem Lessens.refl (state : BindingState) : Lessens state state :=
  ⟨rfl,rfl,.inl rfl,id,fun _ => rfl,fun ready => ⟨rfl,.inl ready⟩⟩

/-- Bindings change only as an update may change them. -/
theorem Eases.of_bindings
    (lessens : ∀ b, Lessens (s.bindings b) (bindings b)) : Eases s {s with bindings := bindings} :=
  have home (b : Nat) : State.home {s with bindings := bindings} b = s.home b := by
    simp [State.home,(lessens b).socket]
  {Eases.refl s with
    frame := fun b => (lessens b).frame
    socket := fun b => (lessens b).socket
    proof := by
      intro b p proved
      rcases (lessens b).proof with same | gone
      · exact same ▸ proved
      · rw [gone] at proved
        cases proved
    call := fun _ _ => rfl
    pending := fun _ => .inl rfl
    invalidated := fun b => (lessens b).invalidated
    fresh := fun b _ => (lessens b).fresh
    ready := fun b => (lessens b).ready
    fenced := by
      intro b _ _ open' committed fenced
      rw [home] at open' committed fenced
      exact ⟨open',committed,fenced⟩ }

theorem eases_setBinding
    (lessens : Lessens (s.bindings b) (change (s.bindings b))) : Eases s (s.setBinding b change) := by
  refine Eases.of_bindings fun other => ?_
  by_cases here : other = b
  · simpa [here] using lessens
  · simpa [here] using Lessens.refl _

structure Shuts (old new : Socket) : Prop where
  generation : new.socketGeneration = old.socketGeneration
  handshake : old.handshakeAccepted = true → new.handshakeAccepted = true
  connected : new.connected = true → old.connected = true
  accepted : (old.receiptCommitted = true → old.handshakeAccepted = true) →
    new.receiptCommitted = true → new.handshakeAccepted = true
  commits : old.handshakeAccepted = true → new.committed = true → old.committed = true
  receipts : old.handshakeAccepted = true → new.receiptCommitted = true → old.receiptCommitted = true
  listed : ∀ id b, new.bindings.get id = some b → old.bindings.get id = some b
  floors : new.receiptWorkspaceFloors = old.receiptWorkspaceFloors
  fenced : (∃ id b, new.bindings.get id = some b) → new.connected = true → new.committed = true →
    new.receiptCommitted = false →
    old.connected = true ∧ old.committed = true ∧ old.receiptCommitted = false

theorem Shuts.refl (socket : Socket) : Shuts socket socket :=
  ⟨rfl,id,id,id,fun _ => id,fun _ => id,fun _ _ => id,rfl,fun _ open' committed fenced => ⟨open',committed,fenced⟩⟩

theorem Eases.of_sockets (shuts : ∀ c, Shuts (s.sockets c) (sockets c))
    (unopened : ∀ c, s.opened ≤ c → sockets c = s.sockets c) :
    Eases s {s with sockets := sockets} :=
  {Eases.refl s with
    unopened := unopened
    generation := fun c _ => (shuts c).generation
    handshake := fun c _ => (shuts c).handshake
    connected := fun c _ => (shuts c).connected
    accepted := fun c => (shuts c).accepted
    commits := fun c _ => (shuts c).commits
    receipts := fun c _ => (shuts c).receipts
    listed := fun c id b => (shuts c).listed id b
    floors := fun c => (shuts c).floors
    fresh := fun _ _ _ => rfl
    fenced := fun b listed _ => (shuts (s.bindings b).socket).fenced ⟨_,_,listed_iff.mp listed⟩ }

variable {c : Nat}

theorem eases_setSocket (known : c < s.opened)
    (shuts : Shuts (s.sockets c) (change (s.sockets c))) : Eases s (s.setSocket c change) := by
  refine Eases.of_sockets (fun other => ?_) fun other beyond => ?_
  · by_cases here : other = c
    · simpa [here] using shuts
    · simpa [here] using Shuts.refl _
  · have ne : other ≠ c := by omega
    simp [ne]

/-- Deleting from the map of a socket. -/
theorem shuts_delete (k : Socket) (key : Units) : Shuts k {k with bindings := k.bindings.delete key} where
  generation := rfl
  handshake := id
  connected := id
  accepted := id
  commits _ := id
  receipts _ := id
  listed other b found := by
    by_cases same : other = key
    · subst same
      rw [get_delete_self] at found
      cases found
    · rwa [get_delete_ne _ same] at found
  floors := rfl
  fenced _ open' committed fenced := ⟨open',committed,fenced⟩

@[simp] theorem delist_bindings (s : State) (b other : Nat) :
    (s.delist b).bindings other =
      if other = b then {s.bindings b with invalidated := true} else s.bindings other := by
  by_cases here : other = b <;> simp [State.delist,State.setBinding,State.setSocket,here]

@[simp] theorem delist_sockets (s : State) (b c : Nat) :
    (s.delist b).sockets c = if c = (s.bindings b).socket then
        {s.sockets c with bindings := (s.sockets c).bindings.delete (s.bindings b).binding.bindingId.text}
      else s.sockets c := rfl

/-- A binding that leaves its map is not listed any more. -/
theorem delist_unlisted (s : State) (b : Nat) : (s.delist b).listed b = false := by
  rw [Bool.eq_false_iff,ne_eq,listed_iff]
  simp [State.at]

theorem delist_away (listed : (s.delist b).listed other) :
    other ≠ b := by
  rintro rfl
  rw [delist_unlisted] at listed
  cases listed

theorem eases_delist (known : (s.bindings b).socket < s.opened) :
    Eases s (s.delist b) := by
  have delisted : Eases s (s.setSocket (s.bindings b).socket fun k =>
      {k with bindings := k.bindings.delete (s.bindings b).binding.bindingId.text}) :=
    eases_setSocket known (shuts_delete _ _)
  have same (other : Nat) (ne : other ≠ b) : (s.delist b).bindings other = s.bindings other := by
    simp [ne]
  have proof (other : Nat) : ((s.delist b).bindings other).proof = (s.bindings other).proof := by
    by_cases here : other = b <;> simp [here]
  exact {delisted with
    frame := by intro other; by_cases here : other = b <;> simp [here]
    socket := by intro other; by_cases here : other = b <;> simp [here]
    proof := fun other p proved => (proof other) ▸ proved
    call := fun _ _ => rfl
    pending := fun _ => .inl rfl
    invalidated := by
      intro other gone
      by_cases here : other = b <;> simp [here,gone]
    fresh := by
      intro other listed _
      rw [same other (delist_away listed)]
    ready := by
      intro other ready
      refine ⟨proof other,.inl ?_⟩
      by_cases here : other = b <;> simpa [here] using ready
    fenced := by
      intro other listed _ open' committed fenced
      rw [State.home,same other (delist_away listed)] at open' committed fenced
      rw [State.home]
      by_cases here : (s.bindings other).socket = (s.bindings b).socket <;>
        simp_all }

theorem Sound.eases_withdraw (sound : Sound s) (known : b < s.allocated) :
    Eases s (s.withdraw b) := by
  have delisted := eases_delist (s := s) (sound.owner b known).1
  unfold State.withdraw
  cases (s.bindings b).proof with
  | none => exact delisted
  | some proof => exact delisted.trans (eases_call _ _)

theorem Sound.eases_retire (sound : Sound s) (known : b < s.allocated) :
    Eases s (s.retire b) := by
  have withdrawn := sound.eases_withdraw known
  refine withdrawn.trans (eases_setSocket ((sound.owner b known).1.trans_le withdrawn.opened) ?_)
  exact {Shuts.refl _ with }

theorem Sound.known_of_listed (sound : Sound s) (listed : s.listed b) :
    b < s.allocated :=
  (sound.filed _ _ b (listed_iff.mp listed)).1

theorem Sound.eases_superseded (sound : Sound s) (b : Nat) :
    Eases s (retireSupersededReceiptBinding s b) := by
  unfold retireSupersededReceiptBinding
  split
  · rename_i listed
    exact sound.eases_retire (sound.known_of_listed listed)
  · exact .refl s

/-- A loop whose every round only lets go. -/
theorem Sound.eases_foldl (sound : Sound s) (bs : List Nat)
    (round : ∀ t, Sound t → t.allocated = s.allocated → ∀ b ∈ bs, Eases t (f t b)) :
    Eases s (bs.foldl f s) := by
  suffices ∀ t, Sound t → t.allocated = s.allocated → Eases t (bs.foldl f t) from
    this s sound rfl
  induction bs with
  | nil => exact fun t _ _ => .refl t
  | cons b rest ih =>
    intro t sound' same
    have one := round t sound' same b List.mem_cons_self
    refine one.trans (ih (fun t sound same b member => ?_) _ (sound'.eases one) (one.allocated.trans same))
    exact round t sound same b (List.mem_cons_of_mem _ member)

/-- Between binding states that were never proved. -/
theorem Lessens.unproved (unready : old.ready = false)
    (frame : new.binding = old.binding) (socket : new.socket = old.socket) (proof : new.proof = none)
    (invalidated : new.invalidated = old.invalidated) (ready : new.ready = old.ready) :
    Lessens old new :=
  ⟨frame,socket,.inr proof,fun gone => invalidated.trans gone,fun _ => invalidated,
    fun prompt => by rw [ready,unready] at prompt; cases prompt⟩

theorem Sound.unready (sound : Sound s) (unproved : (s.bindings b).proof = none) :
    (s.bindings b).ready = false := by
  rw [Bool.eq_false_iff]
  intro ready
  have := sound.ready b ready
  rw [unproved] at this
  cases this

/-- The binding did not prove itself. -/
theorem Sound.eases_deny (sound : Sound s)
    (unproved : (s.bindings b).proof = none) (workspace : Option InventoryWorkspace) (code : Code) :
    Eases s (s.deny b workspace code) :=
  eases_setBinding (.unproved (sound.unready unproved) rfl rfl rfl rfl rfl)

theorem eases_forsake (b : Nat) : Eases s (s.forsake b) :=
  eases_setBinding ⟨rfl,rfl,.inr rfl,fun _ => rfl,nofun,nofun⟩

theorem eases_promote (s : State) (b : Nat) : Eases s (promoteWorkspaceIfProven s b) := by
  unfold promoteWorkspaceIfProven
  split
  · rename_i proven
    simp only [Bool.and_eq_true] at proven
    exact eases_setBinding ⟨rfl,rfl,.inl rfl,id,fun _ => rfl,fun _ => ⟨rfl,.inr proven.2⟩⟩
  · exact .refl s

theorem eases_promotion (s : State) (b : Nat) : Eases s (promote s b).1 := by
  unfold promote
  split
  · have popped : Eases s {s with promotions := s.promotions.erase b} := .of_same rfl rfl rfl rfl rfl
    simp only []
    split
    · exact popped.trans (eases_promote _ b)
    · exact popped
  · exact .refl s

theorem Sound.mem_bound (sound : Sound s) (member : b ∈ s.bound c) :
    b < s.allocated ∧ s.listed b ∧ (s.bindings b).socket = c := by
  obtain ⟨⟨id,b'⟩,inside,rfl⟩ := List.mem_map.mp member
  have found : s.at c id = some b' := get_eq_some.mpr inside
  obtain ⟨known,socket,frame⟩ := sound.filed c id b' found
  refine ⟨known,listed_iff.mpr ?_,socket⟩
  rw [socket,frame]
  exact found

/-- A socket that only changes what no rule speaks about. -/
theorem eases_probe (known : c < s.opened) (probing probePassed : Bool) :
    Eases s (s.setSocket c fun k => {k with probing := probing, probePassed := probePassed}) :=
  eases_setSocket known ⟨rfl,id,id,id,fun _ => id,fun _ => id,fun _ _ => id,rfl,
    fun _ open' committed fenced => ⟨open',committed,fenced⟩⟩

theorem Sound.eases_probeReadiness (sound : Sound s) (c : Nat) (error : Option Code) :
    Eases s (probeReadiness s c error).1 := by
  unfold probeReadiness
  split
  · exact .refl s
  rename_i started
  have known : c < s.opened := by
    by_contra beyond
    rw [sound.unopened c (by omega)] at started
    exact started rfl
  cases error with
  | none =>
    have probed := eases_probe known false true
    exact probed.trans ((sound.eases probed).eases_foldl _ fun t _ _ b _ => eases_promote t b)
  | some code =>
    have probed : Eases s (s.setSocket c fun k => {k with probing := false}) :=
      eases_setSocket known ⟨rfl,id,id,id,fun _ => id,fun _ => id,fun _ _ => id,rfl,
        fun _ open' committed fenced => ⟨open',committed,fenced⟩⟩
    refine probed.trans ((sound.eases probed).eases_foldl _ fun t _ _ b _ => eases_setBinding ?_)
    exact ⟨rfl,rfl,.inl rfl,id,fun _ => rfl,fun ready => ⟨rfl,.inl ready⟩⟩

theorem Sound.eases_unbind (sound : Sound s) (c : Nat) (bindingId : OpaqueId) :
    Eases s (unbindReceiptBinding s c bindingId).1 := by
  unfold unbindReceiptBinding
  dsimp only
  split
  · rename_i b found
    have retired := sound.eases_retire (sound.filed c _ b found).1
    exact retired.trans (.of_same rfl rfl rfl rfl rfl)
  · exact .of_same rfl rfl rfl rfl rfl
  · exact .refl s

theorem eases_settleUnbind (s : State) (i : Nat) (retired : Bool) :
    Eases s (settleUnbind s i retired).1 := by
  unfold settleUnbind
  split
  · exact .refl s
  · split
    · exact .refl s
    · split <;> exact .of_same rfl rfl rfl rfl rfl

theorem Sound.eases_connect (sound : Sound s) : Eases s (connectToBot s) := by
  have fresh (c : Nat) (id : Units) (b : Nat) (found : (connectToBot s).at c id = some b) :
      c ≠ s.opened ∧ s.at c id = some b := by
    by_cases here : c = s.opened
    · simp [State.at,connectToBot,here] at found
    · exact ⟨here,by simpa [State.at,connectToBot,here] using found⟩
  have unused := sound.unopened s.opened (Nat.le_refl _)
  exact {Eases.refl s with
    opened := Nat.le_succ _
    unopened := by
      intro c beyond
      have ne : c ≠ s.opened := by
        have : s.opened + 1 ≤ c := beyond
        omega
      simp [connectToBot,ne]
    generation := by
      intro c known
      simp [connectToBot,Nat.ne_of_lt known]
    handshake := by
      intro c known accepted
      simpa [connectToBot,Nat.ne_of_lt known] using accepted
    connected := by
      intro c known open'
      simpa [connectToBot,Nat.ne_of_lt known] using open'
    accepted := by
      intro c accepted committed
      by_cases here : c = s.opened
      · simp [connectToBot,here] at committed
      · simpa [connectToBot,here] using accepted (by simpa [connectToBot,here] using committed)
    commits := by
      intro c known _ committed
      simpa [connectToBot,Nat.ne_of_lt known] using committed
    receipts := by
      intro c known _ committed
      simpa [connectToBot,Nat.ne_of_lt known] using committed
    listed := fun c id b found => (fresh c id b found).2
    floors := by
      intro c
      by_cases here : c = s.opened
      · simp [connectToBot,here,unused,unusedSocket]
      · simp [connectToBot,here]
    fresh := fun _ _ _ => rfl
    fenced := by
      intro b listed _ open' committed fenced
      have ne := (fresh _ _ b (listed_iff.mp listed)).1
      have home : (connectToBot s).home b = s.home b := by
        simp only [State.home,connectToBot] at ne ⊢
        rw [if_neg ne]
      rw [home] at open' committed fenced
      exact ⟨open',committed,fenced⟩ }

/-- Nothing is bound on a socket before its registration. -/
theorem Sound.unbound (sound : Sound s) (early : (s.sockets c).handshakeAccepted = false) (id : Units) :
    s.at c id = none := by
  cases found : s.at c id with
  | none => rfl
  | some b =>
    obtain ⟨known,socket,_⟩ := sound.filed c id b found
    have accepted := (sound.owner b known).2
    rw [State.home,socket,early] at accepted
    cases accepted

theorem Sound.eases_registration (sound : Sound s) (known : c < s.opened) (readinessV2 receipt : Bool) :
    Eases s (registrationAccepted s c readinessV2 receipt).1 := by
  unfold registrationAccepted
  split
  · exact .refl s
  · rename_i early
    rw [Bool.not_eq_true] at early
    dsimp only
    refine eases_setSocket known ?_
    refine ⟨rfl,fun _ => rfl,id,fun _ _ => rfl,?_,?_,fun _ _ => id,rfl,?_⟩
    · rw [early]
      exact nofun
    · rw [early]
      exact nofun
    · rintro ⟨id,b,found⟩
      have none := sound.unbound early id
      simp_all [State.at]

/-- A socket of which no binding is committed any more. -/
theorem Shuts.uncommitted (generation : new.socketGeneration = old.socketGeneration)
    (handshake : new.handshakeAccepted = old.handshakeAccepted) (bindings : new.bindings = old.bindings)
    (floors : new.receiptWorkspaceFloors = old.receiptWorkspaceFloors)
    (connected : new.connected → old.connected) (receipts : new.receiptCommitted → old.receiptCommitted)
    (shut : new.committed = false) : Shuts old new := by
  refine ⟨generation,fun accepted => handshake.trans accepted,connected,?_,?_,fun _ => receipts,?_,floors,?_⟩
  · exact fun accepted committed => handshake.trans (accepted (receipts committed))
  · intro _ committed
    rw [shut] at committed
    cases committed
  · intro id b found
    rwa [bindings] at found
  · intro _ _ committed
    rw [shut] at committed
    cases committed

theorem Sound.eases_closed (sound : Sound s) (known : c < s.opened) :
    Eases s (connectionClosed s c) := by
  have offline : Eases s (s.setSocket c fun k => {k with committed := false}) :=
    eases_setSocket known (.uncommitted rfl rfl rfl rfl id id rfl)
  suffices ∀ t, Eases s t → (t.sockets c).committed = false → Eases s (
      let t' := t.setSocket c fun k => {k with connected := false}
      if hasReceiptCommittedConnection t' then t' else {t' with inventorySnapshot := none}) by
    unfold connectionClosed
    dsimp only
    split
    · rename_i receipt
      have sound' := sound.eases offline
      have withdrawn := sound'.eases_foldl (f := State.withdraw) (State.bound _ c)
        fun t sound same b member => sound.eases_withdraw (same ▸ (sound'.mem_bound member).1)
      have accepted := sound'.accepted c receipt
      have uncommitted := mt (withdrawn.commits c known accepted) (by simp [State.setSocket])
      rw [Bool.not_eq_true] at uncommitted
      refine this _ (offline.trans (withdrawn.trans (eases_setSocket ?_ ?_))) ?_
      · exact known.trans_le withdrawn.opened
      · exact .uncommitted rfl rfl rfl rfl id nofun uncommitted
      · simpa [State.setSocket] using uncommitted
    · exact this _ offline (by simp [State.setSocket])
  intro t eases uncommitted
  have gone : Eases t (t.setSocket c fun k => {k with connected := false}) :=
    eases_setSocket (known.trans_le eases.opened) (.uncommitted rfl rfl rfl rfl nofun id uncommitted)
  dsimp only
  split
  · exact eases.trans gone
  · exact (eases.trans gone).trans (.of_same rfl rfl rfl rfl rfl)

theorem reached_iff :
    s.reached b ↔ (s.home b).connected ∧ s.listed b := by
  simp [State.reached]

/-- The synchronous part of a cascade. -/
theorem Sound.eases_cascade (sound : Sound s) (code : Code) :
    Eases s (cascadeInventoryInvalidation s code) := by
  have kept (b : Nat) (proved : ((cascadeInventoryInvalidation s code).bindings b).proof.isSome) :
      (cascadeInventoryInvalidation s code).bindings b = s.bindings b ∧ s.reached b = false := by
    by_cases reached : s.reached b
    · simp [cascadeInventoryInvalidation,reached] at proved
    · simp [cascadeInventoryInvalidation,reached]
  have frame (b : Nat) : ((cascadeInventoryInvalidation s code).bindings b).binding = (s.bindings b).binding ∧
      ((cascadeInventoryInvalidation s code).bindings b).socket = (s.bindings b).socket := by
    by_cases reached : s.reached b = true <;> simp [cascadeInventoryInvalidation,reached]
  have socket (c : Nat) : (cascadeInventoryInvalidation s code).sockets c = s.sockets c ∨
      ((s.sockets c).connected ∧ (cascadeInventoryInvalidation s code).sockets c =
        {s.sockets c with receiptCommitted := false}) := by
    by_cases open' : (s.sockets c).connected = true <;> simp [cascadeInventoryInvalidation,open']
  have listed (c : Nat) (id : Units) : (cascadeInventoryInvalidation s code).at c id = s.at c id := by
    rcases socket c with same | ⟨_,same⟩ <;> simp [State.at,same]
  exact {Eases.refl s with
    unopened := by
      intro c beyond
      have unused := sound.unopened c beyond
      rcases socket c with same | ⟨open',_⟩
      · exact same
      · rw [unused] at open'
        cases open'
    frame := fun b => (frame b).1
    socket := fun b => (frame b).2
    generation := by intro c _; rcases socket c with same | ⟨_,same⟩ <;> rw [same]
    handshake := by intro c _ accepted; rcases socket c with same | ⟨_,same⟩ <;> simpa [same] using accepted
    connected := by intro c _ open'; rcases socket c with same | ⟨_,same⟩ <;> simpa [same] using open'
    accepted := by
      intro c accepted committed
      rcases socket c with same | ⟨_,same⟩
      · rw [same] at committed ⊢
        exact accepted committed
      · rw [same] at committed
        cases committed
    commits := by intro c _ _ committed; rcases socket c with same | ⟨_,same⟩ <;> simpa [same] using committed
    receipts := by
      intro c _ _ committed
      rcases socket c with same | ⟨_,same⟩
      · rwa [same] at committed
      · rw [same] at committed
        cases committed
    listed := fun c id b found => (listed c id) ▸ found
    floors := by intro c; rcases socket c with same | ⟨_,same⟩ <;> rw [same]
    proof := by
      intro b p proved
      rwa [(kept b (by rw [proved]; rfl)).1] at proved
    call := fun _ _ => rfl
    pending := fun _ => .inl rfl
    invalidated := by
      intro b gone
      by_cases reached : s.reached b = true <;> simp [cascadeInventoryInvalidation,reached,gone]
    fresh := by
      intro b _ proved
      rw [(kept b proved).1]
    ready := by
      intro b ready
      by_cases reached : s.reached b
      · simp [cascadeInventoryInvalidation,reached] at ready
      · simp only [cascadeInventoryInvalidation,if_neg reached] at ready ⊢
        exact ⟨trivial,.inl ready⟩
    fenced := by
      intro b listed' proved open' committed fenced
      obtain ⟨same,unreached⟩ := kept b proved
      have still : s.listed b := by
        rw [listed_iff] at listed' ⊢
        rwa [listed,same] at listed'
      rw [State.home,same] at open' committed fenced
      rcases socket (s.bindings b).socket with same | ⟨online,_⟩
      · rw [same] at open' committed fenced
        exact ⟨open',committed,fenced⟩
      · rw [reached_iff.mpr ⟨online,still⟩] at unreached
        cases unreached }

theorem eases_cascadeEnds (s : State) (sound : Sound s) : Eases s (cascadeEnds s).1 := by
  unfold cascadeEnds
  split
  · exact .refl s
  have retired : Eases s {s with sockets := fun c => (s.sockets c).retired} := by
    refine Eases.of_sockets (fun c => ?_) fun c beyond => ?_
    · unfold Socket.retired
      split
      · exact .uncommitted rfl rfl rfl rfl id nofun rfl
      · exact .refl _
    · rw [sound.unopened c beyond]
      rfl
  exact retired.trans (.of_same rfl rfl rfl rfl rfl)

theorem Sound.eases_poll (sound : Sound s) (expired : Bool) :
    Eases s (runInventoryPoll s expired) := by
  unfold runInventoryPoll
  split
  · exact .refl s
  split
  · exact .of_same rfl rfl rfl rfl rfl
  split
  · exact sound.eases_cascade _
  · exact .of_same rfl rfl rfl rfl rfl

theorem Sound.eases_resumePoll (sound : Sound s) (result : Except Code Read) :
    Eases s (resumePoll s result) := by
  unfold resumePoll
  split
  · exact .refl s
  split
  · exact sound.eases_cascade _
  · dsimp only
    split
    · exact sound.eases_cascade _
    split
    · exact sound.eases_cascade _
    · exact .of_same rfl rfl rfl rfl rfl
  · exact sound.eases_cascade _

theorem eases_acquire (cfg : Config) (s : State) (a : Nat) (admission : Admission) :
    Eases s (acquire cfg s a admission) := by
  unfold acquire
  dsimp only
  split
  · exact (eases_call s _).trans (eases_setAdmission _ _ _)
  · exact (eases_call s _).trans (eases_setAdmission _ _ _)

theorem eases_workload (cfg : Config) (s : State) (c : Nat) (bindingId : OpaqueId) (refused : Bool) :
    Eases s (admitReadyWorkload cfg s c bindingId refused) := by
  unfold admitReadyWorkload
  split
  · exact .refl s
  split
  · exact .refl s
  · have begun (admissions : List Admission) : Eases s {s with admissions := admissions} :=
      .of_same rfl rfl rfl rfl rfl
    dsimp only
    split
    · exact begun _
    · exact (begun _).trans (eases_acquire _ _ _ _)

theorem eases_resumeAdmission (cfg : Config) (s : State) (a : Nat) (admission : Admission)
    (result : Except Code Read) (barred : Bool) :
    Eases s (resumeAdmission cfg s a admission result barred).1 := by
  unfold resumeAdmission
  split
  · exact eases_setAdmission _ _ _
  · exact (eases_forsake _).trans (eases_setAdmission _ _ _)
  · split
    · exact eases_setAdmission _ _ _
    · exact eases_acquire _ _ _ _

theorem eases_releaseOf (s : State) (admission : Admission) : Eases s (s.releaseOf admission) := by
  unfold State.releaseOf
  split
  · exact eases_call _ _
  · exact .refl s

theorem eases_sessionEnsured (s : State) (a : Nat) (admission : Admission) (created : Bool) :
    Eases s (sessionEnsured s a admission created) := by
  unfold sessionEnsured
  split
  · exact eases_setAdmission _ _ _
  · exact (eases_releaseOf s admission).trans (eases_setAdmission _ _ _)

theorem eases_resumePublication (s : State) (a : Nat) (admission : Admission)
    (result : Except Code Read) : Eases s (resumePublication s a admission result) := by
  unfold resumePublication
  split
  · exact eases_setAdmission _ _ _
  split
  · exact (eases_releaseOf s admission).trans (eases_setAdmission _ _ _)
  · exact eases_setAdmission _ _ _

theorem Sound.eases_legacy (sound : Sound s) (c : Nat) (message : WorkspaceLease.Candidate)
    (replaced : Option Nat) : Eases s (acceptWorkspaceBinding s c message replaced) := by
  have called := eases_call s (.adoptBinding message)
  unfold acceptWorkspaceBinding
  split
  · exact .refl s
  dsimp only
  split
  · split
    · rename_i b _ here
      simp only [Bool.and_eq_true] at here
      have sound' := sound.eases called
      exact called.trans (eases_delist (sound'.owner b (sound'.known_of_listed here.2)).1)
    · exact called
  · exact called

end GjcRemote.ReceiptBinding
