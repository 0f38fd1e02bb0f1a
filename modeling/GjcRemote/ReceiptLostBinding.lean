import GjcRemote.ReceiptBindRace

/-! What the lease registry keeps of a binding that is lost: one that leaves the map of its
socket, or whose proof is cleared. -/
namespace GjcRemote.WorkspaceLease

open Utf16 List

theorem strictEqual_symm (same : strictEqual left right) :
    strictEqual right left := by
  cases left with
  | number m =>
    cases right with
    | number n => cases m <;> cases n <;> simp_all [strictEqual]
    | _ => simp [strictEqual] at same
  | _ => cases right <;> simp_all [strictEqual]

theorem strictEqual_trans (first : strictEqual left middle)
    (second : strictEqual middle right) : strictEqual left right := by
  cases middle with
  | number n =>
    cases left with
    | number m =>
      cases right with
      | number k => cases m <;> cases n <;> cases k <;> simp_all [strictEqual]
      | _ => simp [strictEqual] at second
    | _ => simp [strictEqual] at first
  | _ => cases left <;> cases right <;> simp_all [strictEqual]

/-- Only undefined equals undefined. -/
theorem strictEqual_defined (same : strictEqual left right) :
    left = .undefined ↔ right = .undefined := by
  cases left <;> cases right <;> simp_all [strictEqual]

theorem sameAuthority_fields (same : sameAuthority left right) :
    (∀ field ∈ authorityFields left,strictEqual (left field) (right field)) ∧
      ∀ field ∈ RECEIPT_IDENTITY_FIELDS,strictEqual (left field) (right field) := by
  simp only [sameAuthority,all_append,Bool.and_eq_true,all_eq_true] at same
  exact same

theorem authorityFields_epoch (epoch : candidate .authorityEpoch ≠ .undefined) :
    authorityFields candidate = V3_AUTHORITY_FIELDS := if_neg epoch

theorem sameAuthority_epoch (same : sameAuthority left right)
    (epoch : left .authorityEpoch ≠ .undefined) : right .authorityEpoch ≠ .undefined := by
  have fields := (sameAuthority_fields same).1
  rw [authorityFields_epoch epoch] at fields
  exact fun missing => epoch ((strictEqual_defined (fields .authorityEpoch (by decide))).mpr missing)

theorem sameAuthority_symm (same : sameAuthority left right)
    (epoch : left .authorityEpoch ≠ .undefined) : sameAuthority right left := by
  obtain ⟨fields,receipt⟩ := sameAuthority_fields same
  rw [authorityFields_epoch epoch] at fields
  rw [sameAuthority,authorityFields_epoch (sameAuthority_epoch same epoch)]
  simp only [all_append,Bool.and_eq_true,all_eq_true]
  exact ⟨fun field kept => strictEqual_symm (fields field kept),
    fun field kept => strictEqual_symm (receipt field kept)⟩

theorem sameAuthority_trans (first : sameAuthority left middle)
    (second : sameAuthority middle right) (epoch : left .authorityEpoch ≠ .undefined) :
    sameAuthority left right := by
  obtain ⟨fields,receipt⟩ := sameAuthority_fields first
  obtain ⟨fields',receipt'⟩ := sameAuthority_fields second
  rw [authorityFields_epoch (sameAuthority_epoch first epoch)] at fields'
  rw [authorityFields_epoch epoch] at fields
  rw [sameAuthority,authorityFields_epoch epoch]
  simp only [all_append,Bool.and_eq_true,all_eq_true]
  exact ⟨fun field kept => strictEqual_trans (fields field kept) (fields' field kept),
    fun field kept => strictEqual_trans (receipt field kept) (receipt' field kept)⟩

/-- Equal authorities are of one workspace and of one socket generation. -/
theorem sameAuthority_workspace {left right : Authority}
    (same : sameAuthority left.value right.value) : left.workspaceId = right.workspaceId := by
  have inside : .workspaceId ∈ authorityFields left.value := by
    unfold authorityFields
    split <;> decide
  have equal := (sameAuthority_fields same).1 _ inside
  rw [left.named,right.named] at equal
  simpa [strictEqual] using equal

theorem sameAuthority_socket (same : sameAuthority left right) :
    left .socketGeneration = .undefined ↔ right .socketGeneration = .undefined :=
  strictEqual_defined ((sameAuthority_fields same).2 _ (by decide))

/-- A legacy candidate has no receipt identity. -/
theorem requireAuthority_legacy (accepted : requireAuthority candidate = .ok a)
    (socket : candidate .socketGeneration = .undefined) : a.value .socketGeneration = .undefined := by
  rw [(requireAuthority_ok accepted).2,restrict]
  split
  · exact socket
  · rfl

@[simp] theorem invalidate_authorities (r : Registry) (id : Units) :
    (r.invalidate id).authorities = r.authorities := by
  unfold Registry.invalidate
  split
  · rfl
  · dsimp only
    split <;> rfl

/-- Retiring only forgets. -/
theorem retireBinding_keeps {id : Units} (found : (retireBinding r candidate).1.authorities.get id = some a) :
    r.authorities.get id = some a := by
  unfold retireBinding at found
  split at found
  · exact found
  split at found
  · exact found
  split at found
  · exact found
  · rename_i authority _ _ _ _ _
    simp only [invalidate_authorities] at found
    by_cases key : id = authority.workspaceId
    · simp [key] at found
    · rwa [OrderedMap.get_delete_ne _ key] at found

/-- What was to be retired is not registered afterwards. -/
theorem retireBinding_gone
    (accepted : requireAuthority candidate = .ok a) (epoch : a.value .authorityEpoch ≠ .undefined)
    (found : (retireBinding r candidate).1.authorities.get a.workspaceId = some known) :
    sameAuthority a.value known.value = false := by
  have before := retireBinding_keeps found
  rw [Bool.eq_false_iff]
  intro same
  have back := sameAuthority_symm same epoch
  simp [retireBinding,accepted,before,back] at found

theorem acquire_authorities (s : State) (held : s.registry.Held) (candidate : Candidate) (exclusive : Bool) :
    (step s (.acquireActivity candidate exclusive)).1.registry.authorities = s.registry.authorities := by
  rcases acquireActivity_cases s.registry candidate exclusive held with
    ⟨error,refused⟩ | ⟨r,lease,done,_,current,_,_,_,_,how⟩
  · simp [step,refused]
  · rcases how with ⟨_,_,_,_,rfl⟩ | ⟨_,_,_,entry,_,_,_,rfl⟩ <;>
      simp [step,done,Registry.modify,Registry.inserted]

theorem release_authorities (s : State) (position : Nat) :
    (step s (.release position)).1.registry.authorities = s.registry.authorities := by
  change (WorkspaceLease.release s position).registry.authorities = _
  unfold WorkspaceLease.release
  split
  · rfl
  · split
    · rfl
    · unfold releaseEntry
      dsimp only
      split <;> rfl

end GjcRemote.WorkspaceLease

namespace GjcRemote.ReceiptBinding

open Utf16 StrictJson
open WorkspaceLease (requireAuthority sameAuthority)

/-- The binding is in the map of its socket, with this proof. -/
def Held (s : State) (b : Nat) (p : Proof) : Prop :=
  s.listed b = true ∧ (s.bindings b).proof = some p

def State.authorities (s : State) : OrderedMap Units WorkspaceLease.Authority :=
  s.leases.registry.authorities

def State.registers (s : State) (a : WorkspaceLease.Authority) : Prop :=
  ∃ r, s.authorities.get a.workspaceId = some r ∧ sameAuthority a.value r.value = true

/-- No admission takes the stale branch for a binding that is still held and whose
authority the registry still knows. -/
def Spared (s : State) (event : Event) : Prop :=
  ∀ i result barred admission, event = .admissionRead i result barred →
    s.admissionAt i .admissionRead = some admission → stale s admission result = some true →
    ∀ p a, Held s admission.binding p → requireAuthority (s.identity admission.binding p) = .ok a →
      ¬ s.registers a

/-- Nothing of a receipt is registered, and whoever is lost is registered no more. -/
structure Drops (s s' : State) : Prop where
  authorities : ∀ id r, s'.authorities.get id = some r → r.value .socketGeneration ≠ .undefined →
    s.authorities.get id = some r
  lost : ∀ b p a, Held s b p → ¬ Held s' b p → requireAuthority (s.identity b p) = .ok a →
    ¬ s'.registers a

variable {a : WorkspaceLease.Authority}

theorem identity_socket (s : State) (b : Nat) (p : Proof)
    (accepted : requireAuthority (s.identity b p) = .ok a) :
    a.value .socketGeneration ≠ .undefined ∧ a.value .authorityEpoch ≠ .undefined := by
  obtain ⟨_,value⟩ := WorkspaceLease.requireAuthority_ok accepted
  obtain ⟨a',accepted',_,socket,_⟩ := identity_accepted s b p
  rw [accepted,Except.ok.injEq] at accepted'
  subst accepted'
  refine ⟨socket ▸ Generation.js_defined _,?_⟩
  have epoch : s.identity b p .authorityEpoch ≠ .undefined :=
    (identity_fields s b p).1 ▸ Generation.js_defined _
  rw [value,WorkspaceLease.restrict,if_pos]
  · exact epoch
  · simp [WorkspaceLease.keptFields,WorkspaceLease.authorityFields_epoch epoch,
      WorkspaceLease.V3_AUTHORITY_FIELDS]

variable {s s' : State}

/-- What is registered after a drop was registered before. -/
theorem Drops.registers (drops : Drops s s')
    (socket : a.value .socketGeneration ≠ .undefined) (after : s'.registers a) : s.registers a := by
  obtain ⟨r,found,same⟩ := after
  refine ⟨r,drops.authorities _ r found ?_,same⟩
  exact mt (WorkspaceLease.sameAuthority_socket same).mpr socket

variable {b : Nat}

theorem Eases.identity (sound : Sound s) (eases : Eases s s') (held : Held s b p) :
    s'.identity b p = s.identity b p := by
  have known := (sound.owner b (sound.known_of_listed held.1)).1
  unfold State.identity State.home
  rw [eases.frame,eases.socket,eases.generation _ known]

theorem Drops.trans (sound : Sound s) (eases : Eases s t) (first : Drops s t)
    (second : Drops t u) : Drops s u where
  authorities id r found socket := first.authorities id r (second.authorities id r found socket) socket
  lost b p a held gone accepted := by
    have socket := (identity_socket s b p accepted).1
    by_cases still : Held t b p
    · exact second.lost b p a still gone (eases.identity sound held ▸ accepted)
    · exact mt (second.registers socket) (first.lost b p a held still accepted)

/-- The registry is not told anything, and nobody is lost. -/
theorem Drops.of_keeps (authorities : s'.authorities = s.authorities)
    (keeps : ∀ b p, Held s b p → Held s' b p) : Drops s s' where
  authorities _ _ found _ := authorities ▸ found
  lost b p _ held gone := absurd (keeps b p held) gone

/-- The maps of the sockets are the same, and bindings change only where there was no proof. -/
theorem held_of_maps (maps : ∀ c, (s'.sockets c).bindings = (s.sockets c).bindings)
    (same : ∀ b, (s.bindings b).proof.isSome → (s'.bindings b).binding = (s.bindings b).binding ∧
      (s'.bindings b).socket = (s.bindings b).socket ∧ (s'.bindings b).proof = (s.bindings b).proof)
    (b : Nat) (p : Proof) (held : Held s b p) : Held s' b p := by
  obtain ⟨frame,socket,proof⟩ := same b (by rw [held.2]; rfl)
  refine ⟨?_,proof.trans held.2⟩
  rw [listed_iff,State.at,maps,frame,socket]
  exact listed_iff.mp held.1

theorem drops_setAdmission (s : State) (a : Nat) (change : Admission → Admission) :
    Drops s (s.setAdmission a change) :=
  .of_keeps rfl fun _ _ held => held

theorem drops_setBinding (frame : (change (s.bindings b)).binding = (s.bindings b).binding)
    (socket : (change (s.bindings b)).socket = (s.bindings b).socket)
    (proof : (change (s.bindings b)).proof = (s.bindings b).proof ∨ (s.bindings b).proof = none) :
    Drops s (s.setBinding b change) := by
  refine .of_keeps rfl (held_of_maps (fun _ => rfl) fun other proved => ?_)
  by_cases here : other = b
  · subst here
    have same : (s.setBinding other change).bindings other = change (s.bindings other) := by
      simp [State.setBinding]
    rw [same]
    refine ⟨frame,socket,proof.resolve_right fun none => ?_⟩
    rw [none] at proved
    cases proved
  · simp [State.setBinding,here]

theorem drops_setSocket (maps : (change (s.sockets c)).bindings = (s.sockets c).bindings) :
    Drops s (s.setSocket c change) := by
  refine .of_keeps rfl (held_of_maps (fun other => ?_) fun _ _ => ⟨rfl,rfl,rfl⟩)
  by_cases here : other = c
  · subst here
    simpa [State.setSocket] using maps
  · simp [State.setSocket,here]

/-- Withdrawing a binding that nobody else shares its place with. -/
theorem drops_withdraw (alone : ∀ other, s.listed other → (s.bindings other).socket = (s.bindings b).socket →
      (s.bindings other).binding.bindingId.text = (s.bindings b).binding.bindingId.text → other = b) :
    Drops s (s.withdraw b) := by
  have others (other : Nat) (ne : other ≠ b) (p : Proof) (held : Held s other p) :
      Held (s.delist b) other p := by
    refine ⟨?_,by simp [ne,held.2]⟩
    have found := listed_iff.mp held.1
    rw [listed_iff,delist_bindings,if_neg ne,State.at,delist_sockets]
    split
    · rename_i home
      have elsewhere : (s.bindings other).binding.bindingId.text ≠
          (s.bindings b).binding.bindingId.text := fun key => ne (alone other held.1 home key)
      rw [OrderedMap.get_delete_ne _ elsewhere]
      exact found
    · exact found
  unfold State.withdraw
  cases proved : (s.bindings b).proof with
  | none =>
    refine .of_keeps rfl fun other p held => others other ?_ p held
    rintro rfl
    rw [held.2] at proved
    cases proved
  | some q =>
    refine ⟨fun id r found _ => WorkspaceLease.retireBinding_keeps found,fun other p a held gone accepted => ?_⟩
    by_cases here : other = b
    · subst here
      rw [held.2,Option.some.injEq] at proved
      subst proved
      rintro ⟨r,found,same⟩
      have none := WorkspaceLease.retireBinding_gone accepted (identity_socket s other p accepted).2 found
      rw [same] at none
      cases none
    · exact absurd (others other here p held) gone

theorem drops_retire (alone : ∀ other, s.listed other → (s.bindings other).socket = (s.bindings b).socket →
      (s.bindings other).binding.bindingId.text = (s.bindings b).binding.bindingId.text → other = b)
    (sound : Sound s) (known : b < s.allocated) : Drops s (s.retire b) :=
  (drops_withdraw alone).trans sound (sound.eases_withdraw known) (drops_setSocket rfl)

/-- A listed binding shares its place with nobody. -/
theorem alone_of_listed (listed : s.listed b) (other : Nat)
    (here : s.listed other) (socket : (s.bindings other).socket = (s.bindings b).socket)
    (key : (s.bindings other).binding.bindingId.text = (s.bindings b).binding.bindingId.text) :
    other = b := by
  have found := listed_iff.mp here
  rw [socket,key,listed_iff.mp listed,Option.some.injEq] at found
  exact found.symm

theorem Sound.drops_superseded (sound : Sound s) (b : Nat) :
    Drops s (retireSupersededReceiptBinding s b) := by
  unfold retireSupersededReceiptBinding
  split
  · rename_i listed
    exact drops_retire (alone_of_listed listed) sound (sound.known_of_listed listed)
  · exact .of_keeps rfl fun _ _ held => held

/-- A loop whose every round drops. -/
theorem Sound.drops_foldl (sound : Sound s) (bs : List Nat)
    (round : ∀ t, Sound t → Eases s t → ∀ b ∈ bs, Eases t (f t b) ∧ Drops t (f t b)) :
    Drops s (bs.foldl f s) := by
  suffices ∀ t, Sound t → Eases s t → Drops t (bs.foldl f t) from this s sound (.refl s)
  induction bs with
  | nil => exact fun t _ _ => .of_keeps rfl fun _ _ held => held
  | cons b rest ih =>
    intro t sound' eased
    obtain ⟨eases,drops⟩ := round t sound' eased b List.mem_cons_self
    refine drops.trans sound' eases (ih (fun t sound eased b member => ?_) _ (sound'.eases eases)
      (eased.trans eases))
    exact round t sound eased b (List.mem_cons_of_mem _ member)

theorem Sound.drops_supersede (sound : Sound s) (c : Nat) (workspaceId : OpaqueId) :
    Drops s (s.superseded c workspaceId) :=
  sound.drops_foldl _ fun _ sound _ b _ => ⟨sound.eases_superseded b,sound.drops_superseded b⟩

theorem drops_call (same : (WorkspaceLease.step s.leases call).1.registry.authorities = s.authorities) :
    Drops s (s.call call) :=
  .of_keeps same fun _ _ held => held

theorem drops_promoted (s : State) (b : Nat) : Drops s (promoteWorkspaceIfProven s b) := by
  unfold promoteWorkspaceIfProven
  split
  · exact drops_setBinding rfl rfl (.inl rfl)
  · exact .of_keeps rfl fun _ _ held => held

theorem drops_promote (s : State) (b : Nat) : Drops s (promote s b).1 := by
  unfold promote
  split
  · dsimp only
    split
    · obtain ⟨authorities,lost⟩ := drops_promoted {s with promotions := s.promotions.erase b} b
      exact ⟨authorities,lost⟩
    · exact .of_keeps rfl fun _ _ held => held
  · exact .of_keeps rfl fun _ _ held => held

theorem Sound.drops_probeReadiness (sound : Sound s) (c : Nat) (error : Option Code) :
    Drops s (probeReadiness s c error).1 := by
  unfold probeReadiness
  split
  · exact .of_keeps rfl fun _ _ held => held
  rename_i started
  have known : c < s.opened := by
    by_contra beyond
    rw [sound.unopened c (by omega)] at started
    exact started rfl
  cases error with
  | none =>
    have probed := eases_probe known false true
    have kept : Drops s (s.setSocket c fun k => {k with probing := false, probePassed := true}) :=
      drops_setSocket rfl
    exact kept.trans sound probed ((sound.eases probed).drops_foldl _
      fun t _ _ b _ => ⟨eases_promote t b,drops_promoted t b⟩)
  | some code =>
    have probed : Eases s (s.setSocket c fun k => {k with probing := false}) :=
      eases_setSocket known ⟨rfl,id,id,id,fun _ => id,fun _ => id,fun _ _ => id,rfl,
        fun _ open' committed fenced => ⟨open',committed,fenced⟩⟩
    have kept : Drops s (s.setSocket c fun k => {k with probing := false}) := drops_setSocket rfl
    refine kept.trans sound probed ((sound.eases probed).drops_foldl _
      fun t _ _ b _ => ⟨eases_setBinding ?_,drops_setBinding rfl rfl (.inl rfl)⟩)
    exact ⟨rfl,rfl,.inl rfl,id,fun _ => rfl,fun ready => ⟨rfl,.inl ready⟩⟩

theorem Sound.drops_unbind (sound : Sound s) (c : Nat) (bindingId : OpaqueId) :
    Drops s (unbindReceiptBinding s c bindingId).1 := by
  unfold unbindReceiptBinding
  dsimp only
  split
  · rename_i b found
    obtain ⟨known,socket,frame⟩ := sound.filed c _ b found
    have listed : s.listed b := by
      rw [listed_iff,socket,frame]
      exact found
    obtain ⟨authorities,lost⟩ := drops_retire (alone_of_listed listed) sound known
    exact ⟨authorities,lost⟩
  · exact .of_keeps rfl fun _ _ held => held
  · exact .of_keeps rfl fun _ _ held => held

theorem drops_settleUnbind (s : State) (i : Nat) (retired : Bool) :
    Drops s (settleUnbind s i retired).1 := by
  unfold settleUnbind
  split
  · exact .of_keeps rfl fun _ _ held => held
  · split
    · exact .of_keeps rfl fun _ _ held => held
    · split <;> exact .of_keeps rfl fun _ _ held => held

theorem Sound.drops_connect (sound : Sound s) : Drops s (connectToBot s) := by
  refine .of_keeps rfl fun b p held => ⟨?_,held.2⟩
  have opened := (sound.owner b (sound.known_of_listed held.1)).1
  have home : ((connectToBot s).bindings b).socket ≠ s.opened := Nat.ne_of_lt opened
  rw [listed_iff,State.at]
  simp only [connectToBot] at home ⊢
  rw [if_neg home]
  exact listed_iff.mp held.1

theorem drops_registration (s : State) (c : Nat) (readinessV2 receipt : Bool) :
    Drops s (registrationAccepted s c readinessV2 receipt).1 := by
  unfold registrationAccepted
  split
  · exact .of_keeps rfl fun _ _ held => held
  · dsimp only
    exact drops_setSocket rfl

theorem drops_cascade (s : State) (code : Code) : Drops s (cascadeInventoryInvalidation s code) := by
  refine ⟨fun id r found _ => ?_,fun b p a _ _ _ known => ?_⟩
  · cases found
  · obtain ⟨r,found,_⟩ := known
    cases found

theorem drops_cascadeEnds (s : State) : Drops s (cascadeEnds s).1 := by
  unfold cascadeEnds
  split
  · exact .of_keeps rfl fun _ _ held => held
  · refine .of_keeps rfl (held_of_maps (fun c => ?_) fun _ _ => ⟨rfl,rfl,rfl⟩)
    change (s.sockets c).retired.bindings = _
    unfold Socket.retired
    split <;> rfl

theorem drops_poll (s : State) (expired : Bool) : Drops s (runInventoryPoll s expired) := by
  unfold runInventoryPoll
  split
  · exact .of_keeps rfl fun _ _ held => held
  split
  · exact .of_keeps rfl fun _ _ held => held
  split
  · exact drops_cascade s _
  · exact .of_keeps rfl fun _ _ held => held

theorem drops_resumePoll (s : State) (result : Except Code Read) : Drops s (resumePoll s result) := by
  unfold resumePoll
  split
  · exact .of_keeps rfl fun _ _ held => held
  split
  · exact drops_cascade s _
  · dsimp only
    split
    · exact drops_cascade s _
    split
    · exact drops_cascade s _
    · exact .of_keeps rfl fun _ _ held => held
  · exact drops_cascade s _

theorem Sound.drops_closed (sound : Sound s) (known : c < s.opened) :
    Drops s (connectionClosed s c) := by
  have offline : Eases s (s.setSocket c fun k => {k with committed := false}) :=
    eases_setSocket known (.uncommitted rfl rfl rfl rfl id id rfl)
  have sound' := sound.eases offline
  have withdrawn : Drops (s.setSocket c fun k => {k with committed := false})
      (((s.setSocket c fun k => {k with committed := false}).bound c).foldl State.withdraw
        (s.setSocket c fun k => {k with committed := false})) := by
    refine sound'.drops_foldl _ fun t soundT eased b member => ?_
    obtain ⟨made,listed,_⟩ := sound'.mem_bound member
    refine ⟨soundT.eases_withdraw (eased.allocated ▸ made),drops_withdraw ?_⟩
    intro other here socket key
    rw [eased.socket,eased.socket] at socket
    rw [eased.frame,eased.frame] at key
    exact alone_of_listed listed other (eased.stays here) socket key
  have rest (t t' : State) (authorities : t'.authorities = t.authorities) (bindings : t'.bindings = t.bindings)
      (maps : ∀ c, (t'.sockets c).bindings = (t.sockets c).bindings) :
      Drops t (if hasReceiptCommittedConnection t' then t' else {t' with inventorySnapshot := none}) := by
    have kept (b : Nat) (p : Proof) (held : Held t b p) : Held t' b p :=
      held_of_maps maps (fun _ _ => by rw [bindings]; exact ⟨rfl,rfl,rfl⟩) b p held
    split <;> exact .of_keeps authorities kept
  unfold connectionClosed
  dsimp only
  have kept : Drops s (s.setSocket c fun k => {k with committed := false}) := drops_setSocket rfl
  refine kept.trans sound offline ?_
  split
  · have eases := sound'.eases_foldl (f := State.withdraw) (State.bound _ c)
      fun t sound same b member => sound.eases_withdraw (same ▸ (sound'.mem_bound member).1)
    refine withdrawn.trans sound' eases (rest _ _ rfl rfl fun other => ?_)
    by_cases here : other = c <;> simp [State.setSocket,here]
  · refine rest _ _ rfl rfl fun other => ?_
    by_cases here : other = c <;> simp [State.setSocket,here]

theorem drops_acquire (registry : s.leases.registry.Held) (cfg : Config) (i : Nat)
    (admission : Admission) : Drops s (acquire cfg s i admission) := by
  have same (candidate : WorkspaceLease.Candidate) :=
    WorkspaceLease.acquire_authorities s.leases registry candidate false
  unfold acquire
  dsimp only
  split <;> exact .of_keeps (same _) fun _ _ held => held

theorem drops_workload (registry : s.leases.registry.Held) (cfg : Config) (c : Nat)
    (bindingId : OpaqueId) (refused : Bool) : Drops s (admitReadyWorkload cfg s c bindingId refused) := by
  unfold admitReadyWorkload
  split
  · exact .of_keeps rfl fun _ _ held => held
  split
  · exact .of_keeps rfl fun _ _ held => held
  · rename_i b _ _
    dsimp only
    split
    · exact .of_keeps rfl fun _ _ held => held
    · let begun : State := {s with admissions := s.admissions ++ [⟨b,s.providerEpoch,none,none,.admissionRead⟩]}
      have acquired := drops_acquire (s := begun) registry cfg (begun.admissions.length - 1)
        ⟨b,s.providerEpoch,none,none,.admissionRead⟩
      exact ⟨acquired.authorities,acquired.lost⟩

/-- The stale branch clears a proof of which the registry is not told. -/
theorem drops_forsake
    (unknown : ∀ p a, Held s b p → requireAuthority (s.identity b p) = .ok a → ¬ s.registers a) :
    Drops s (s.forsake b) where
  authorities _ _ found _ := found
  lost other p a held gone accepted := by
    by_cases here : other = b
    · subst here
      exact unknown p a held accepted
    · refine absurd ⟨?_,?_⟩ gone
      · rw [listed_iff]
        simpa [State.forsake,State.setBinding,here,State.at] using listed_iff.mp held.1
      · simpa [State.forsake,State.setBinding,here] using held.2

theorem drops_resumeAdmission (registry : s.leases.registry.Held) (cfg : Config) (i : Nat)
    (admission : Admission) (result : Except Code Read) (barred : Bool)
    (unknown : stale s admission result = some true → ∀ p a, Held s admission.binding p →
      requireAuthority (s.identity admission.binding p) = .ok a → ¬ s.registers a) :
    Drops s (resumeAdmission cfg s i admission result barred).1 := by
  unfold resumeAdmission
  split
  · exact drops_setAdmission s _ _
  · rename_i old
    obtain ⟨authorities,lost⟩ := drops_forsake (unknown old)
    exact ⟨authorities,lost⟩
  · split
    · exact drops_setAdmission s _ _
    · exact drops_acquire registry cfg i admission

theorem drops_releaseOf (s : State) (admission : Admission) : Drops s (s.releaseOf admission) := by
  unfold State.releaseOf
  split
  · exact drops_call (WorkspaceLease.release_authorities _ _)
  · exact .of_keeps rfl fun _ _ held => held

theorem drops_sessionEnsured (s : State) (i : Nat) (admission : Admission) (created : Bool) :
    Drops s (sessionEnsured s i admission created) := by
  obtain ⟨authorities,lost⟩ := drops_releaseOf s admission
  unfold sessionEnsured
  split
  · exact drops_setAdmission s _ _
  · exact ⟨authorities,lost⟩

theorem drops_resumePublication (s : State) (i : Nat) (admission : Admission)
    (result : Except Code Read) : Drops s (resumePublication s i admission result) := by
  obtain ⟨authorities,lost⟩ := drops_releaseOf s admission
  unfold resumePublication
  split
  · exact drops_setAdmission s _ _
  split
  · exact ⟨authorities,lost⟩
  · exact drops_setAdmission s _ _

/-- What adoption registers is the adopted authority. -/
theorem adopt_registers {s : WorkspaceLease.State} (registry : s.registry.Held) {id : Units}
    (found : (WorkspaceLease.step s (.adoptBinding candidate)).1.registry.authorities.get id = some r) :
    s.registry.authorities.get id = some r ∨ (requireAuthority candidate = .ok r ∧ r.workspaceId = id ∧
        (WorkspaceLease.step s (.adoptBinding candidate)).2 = .bool true) := by
  have written {a : WorkspaceLease.Authority} {hit : Nat → Bool}
      (result : (WorkspaceLease.adoptBinding s.registry candidate).1 =
        s.registry.reauthorized (s.registry.authorities.set a.workspaceId a) hit) :
      s.registry.authorities.get id = some r ∨ (a = r ∧ r.workspaceId = id) := by
    change (WorkspaceLease.adoptBinding s.registry candidate).1.authorities.get id = some r at found
    rw [result] at found
    change (s.registry.authorities.set a.workspaceId a).get id = some r at found
    rw [OrderedMap.get_set] at found
    split at found
    · rename_i here
      cases found
      exact .inr ⟨rfl,here.symm⟩
    · exact .inl found
  have answered (yes : (WorkspaceLease.adoptBinding s.registry candidate).2 = .ok true) :
      (WorkspaceLease.step s (.adoptBinding candidate)).2 = .bool true := by
    change WorkspaceLease.answerBool (WorkspaceLease.adoptBinding s.registry candidate).2 = _
    rw [yes]
    rfl
  rcases WorkspaceLease.adoptBinding_cases s.registry candidate registry with
    ⟨same,_⟩ | ⟨a,accepted,_,yes,result⟩ | ⟨a,_,accepted,_,_,yes,result⟩
  · refine .inl ?_
    rw [← same]
    exact found
  · exact (written result).imp_right fun here => by
      obtain ⟨same,key⟩ := here
      exact ⟨same ▸ accepted,key,answered yes⟩
  · exact (written result).imp_right fun here => by
      obtain ⟨same,key⟩ := here
      exact ⟨same ▸ accepted,key,answered yes⟩

theorem Sound.drops_legacy (sound : Sound s) (registry : s.leases.registry.Held)
    (online : (s.sockets c).connected) (message : WorkspaceLease.Candidate)
    (replaced : Option Nat) : Drops s (acceptWorkspaceBinding s c message replaced) := by
  unfold acceptWorkspaceBinding
  split
  · exact .of_keeps rfl fun _ _ held => held
  rename_i legacy
  simp only [Bool.or_eq_true,Bool.not_eq_true',decide_eq_true_eq,not_or,Bool.not_eq_false,
    Bool.not_eq_true,ne_eq,not_not] at legacy
  obtain ⟨⟨⟨committed,receipts⟩,_⟩,socket⟩ := legacy
  have called : Drops s (s.call (.adoptBinding message)) := by
    refine ⟨fun id r found defined => ?_,fun b p a held gone _ => absurd held gone⟩
    rcases adopt_registers registry found with same | ⟨accepted,_,_⟩
    · exact same
    · exact absurd (WorkspaceLease.requireAuthority_legacy accepted socket) defined
  dsimp only
  split
  · split
    · rename_i b _ here
      simp only [Bool.and_eq_true,decide_eq_true_eq] at here
      obtain ⟨home,listed⟩ := here
      have unproved : (s.bindings b).proof = none :=
        sound.fenced b listed (by rw [State.home]; exact home ▸ online)
          (by rw [State.home]; exact home ▸ committed) (by rw [State.home]; exact home ▸ receipts)
      have eased := eases_call s (.adoptBinding message)
      refine called.trans sound eased ?_
      have withdrawn := drops_withdraw (s := s.call (.adoptBinding message)) (alone_of_listed listed)
      rwa [State.withdraw,show ((s.call (.adoptBinding message)).bindings b).proof = none from unproved]
        at withdrawn
    · exact called
  · exact called

/-- What an event does to the held bindings and to the registered receipts: whoever is lost
is registered no more, and only a bind that is answered OK registers. -/
structure Accounts (s : State) (result : State × Sent) : Prop where
  lost : ∀ b p a, Held s b p → ¬ Held result.1 b p → requireAuthority (s.identity b p) = .ok a →
    ¬ result.1.registers a
  registered : ∀ id r, result.1.authorities.get id = some r → r.value .socketGeneration ≠ .undefined →
    s.authorities.get id = some r ∨ ∃ b p,
      ((result.1.bindings b).socket,.bindOk (result.1.bindings b).binding.bindingId p) ∈ result.2 ∧
        requireAuthority (result.1.identity b p) = .ok r

theorem Drops.accounts (drops : Drops s s') (sent : Sent) : Accounts s (s',sent) where
  lost := drops.lost
  registered id r found socket := .inl (drops.authorities id r found socket)

theorem Accounts.after (sound : Sound s) (eases : Eases s t)
    (keeps : ∀ b p, Held s b p → Held t b p) (authorities : t.authorities = s.authorities)
    (accounts : Accounts t result) : Accounts s result where
  lost b p a held gone accepted :=
    accounts.lost b p a (keeps b p held) gone (eases.identity sound held ▸ accepted)
  registered id r found socket := authorities ▸ accounts.registered id r found socket

/-- Bindings other than an unproved one stay as they are. -/
theorem held_of_other (unproved : (s.bindings b).proof = none) (sockets : s'.sockets = s.sockets)
    (others : ∀ other, other ≠ b → s'.bindings other = s.bindings other) (other : Nat) (p : Proof)
    (held : Held s other p) : Held s' other p := by
  refine held_of_maps (fun _ => by rw [sockets]) (fun b' proved => ?_) other p held
  rw [others b' ?_]
  · exact ⟨rfl,rfl,rfl⟩
  · rintro rfl
    rw [unproved] at proved
    cases proved

theorem settle_accounts (registry : s.leases.registry.Held)
    (unproved : (s.bindings b).proof = none) (workspace : Option InventoryWorkspace)
    (proof : Option Proof) (errorCode : Code) (epoch : Nat) :
    Accounts s (settle s b workspace proof errorCode epoch) := by
  cases proof with
  | none =>
    have denied : Drops s (s.deny b workspace errorCode) := drops_setBinding rfl rfl (.inr unproved)
    exact denied.accounts _
  | some p =>
    obtain ⟨a,accepted,_⟩ := identity_accepted s b p
    have answered : (WorkspaceLease.step s.leases (.adoptBinding (s.identity b p))).2 =
      WorkspaceLease.answerBool (WorkspaceLease.adoptBinding s.leases.registry (s.identity b p)).2 := rfl
    unfold settle
    dsimp only
    rcases adoptBinding_answers (r := s.leases.registry) accepted with adopted | refused
    · rw [answered,adopted]
      dsimp only [WorkspaceLease.answerBool]
      constructor
      · intro other q _ held gone
        refine absurd (held_of_other unproved ?_ (fun other ne => ?_) other q held) gone
        · rfl
        · simp [State.call,grant_bindings,ne]
      · intro id r found _
        refine (adopt_registers registry found).imp_right fun adopts => ⟨b,p,?_,?_⟩
        · simp [State.call,grant_bindings]
        · have same : ∀ t : State, t.sockets = s.sockets → t.bindings = (s.grant b workspace p).bindings →
              t.identity b p = s.identity b p := by
            intro t sockets bindings
            simp [State.identity,State.home,sockets,bindings,grant_bindings]
          refine Eq.trans (congrArg requireAuthority ?_) adopts.1
          apply same <;> rfl
    · rw [answered,refused]
      dsimp only [WorkspaceLease.answerBool]
      constructor
      · intro other q _ held gone
        refine absurd (held_of_other unproved ?_ (fun other ne => ?_) other q held) gone
        · rfl
        · simp [State.call,State.deny,State.setBinding,grant_bindings,ne]
      · intro id r found _
        rcases adopt_registers registry found with same | ⟨_,_,yes⟩
        · exact .inl same
        · rw [answered,refused] at yes
          cases yes

/-- A binding that is filed under a free id takes nobody's place. -/
theorem held_file (sound : Sound s)
    (free : s.at c binding.bindingId.text = none) (b : Nat) (p : Proof) (held : Held s b p) :
    Held (s.file c binding) b p := by
  have ne := Nat.ne_of_lt (sound.known_of_listed held.1)
  exact ⟨(listed_file free).mpr (.inr ⟨ne,held.1⟩),by rw [file_bindings,if_neg ne]; exact held.2⟩

theorem held_setFloor (s : State) (c : Nat) (workspaceId : OpaqueId) (f : Floor) (b : Nat) (p : Proof)
    (held : Held s b p) : Held (s.setFloor c workspaceId f) b p :=
  ⟨(listed_setFloor s c workspaceId f b).trans held.1,held.2⟩

variable {cfg : Config}

theorem Sound.drops_bind (sound : Sound s) (known : c < s.opened)
    (message : Binding) (refusal : Option String) :
    Drops s (acceptReceiptBinding cfg s c message refusal).1 := by
  have idle : Drops s s := .of_keeps rfl fun _ _ held => held
  unfold acceptReceiptBinding
  dsimp only
  split
  · exact idle
  split
  · exact idle
  split
  · repeat' split
    all_goals exact idle
  rename_i absent
  split
  · exact idle
  split
  · exact idle
  rename_i s' reserved
  have free : s.at c message.bindingId.text = none := (Option.or_eq_none_iff.mp absent).1
  obtain ⟨t,f,fits,rfl⟩ := sound.reserve_cases free reserved
  have eased := fits.eases sound
  have sound' := sound.eases eased
  have dropped : Drops s t := by
    rcases fits.from' with rfl | rfl
    · exact idle
    · exact sound.drops_supersede _ _
  have floored : Sound (t.setFloor c message.authority.workspaceId f) :=
    sound'.setFloor (known.trans_le eased.opened) fun b serves => absurd serves (fits.alone b)
  refine dropped.trans sound eased (.of_keeps rfl fun b p held => ?_)
  refine held_file floored ?_ b p (held_setFloor t _ _ _ b p held)
  rw [State.at,setFloor_sockets]
  cases found : t.at c message.bindingId.text with
  | none => exact found
  | some b =>
    rw [eased.listed _ _ _ found] at free
    cases free

theorem drops_setCall (s : State) (b : Nat) (call : BindCall) : Drops s (s.setCall b call) :=
  .of_keeps rfl fun _ _ held => held

theorem Sound.unproved_of_waiting (sound : Sound s) (waiting : ∀ reads, s.calls b ≠ .finished reads) :
    (s.bindings b).proof = none := by
  rcases sound.pending b with ⟨reads,finished⟩ | unproved
  · exact absurd finished (waiting reads)
  · exact unproved

theorem Sound.accounts_firstRead (sound : Sound s)
    (registry : s.leases.registry.Held) (waiting : s.calls b = .firstRead) (result : Except Code Read) :
    Accounts s (resumeFirstRead cfg s b result) := by
  have unproved := sound.unproved_of_waiting (b := b) (by simp [waiting])
  have ended : Eases s (s.setCall b (.finished none)) := eases_setCall _ unproved
  unfold resumeFirstRead
  split
  · exact (drops_setCall s b _).accounts _
  split
  · rename_i code
    have denied : Drops (s.setCall b (.finished none)) ((s.setCall b (.finished none)).deny b none code) :=
      drops_setBinding rfl rfl (.inr unproved)
    exact (denied.accounts _).after sound ended (fun _ _ held => held) rfl
  split
  · exact ((sound.eases ended).drops_superseded b).accounts _ |>.after sound ended (fun _ _ held => held) rfl
  split
  · exact (drops_setCall s b _).accounts _
  · exact (settle_accounts (s := s.setCall b (.finished none)) registry unproved _ _ _ _).after sound
      ended (fun _ _ held => held) rfl

theorem Sound.accounts_secondRead (sound : Sound s) (registry : s.leases.registry.Held)
    (waiting : s.calls b = .secondRead first workspace)
    (result : Except Code Read) : Accounts s (resumeSecondRead cfg s b first workspace result) := by
  have unproved := sound.unproved_of_waiting (b := b) (by simp [waiting])
  have ended (reads : Option (Reading × Reading)) : Eases s (s.setCall b (.finished reads)) :=
    eases_setCall _ unproved
  have settled (reads : Option (Reading × Reading)) (proof : Option Proof) (code : Code) (epoch : Nat) :
      Accounts s (settle (s.setCall b (.finished reads)) b workspace proof code epoch) :=
    (settle_accounts (s := s.setCall b (.finished reads)) registry unproved _ _ _ _).after sound
      (ended reads) (fun _ _ held => held) rfl
  unfold resumeSecondRead
  dsimp only
  split
  · exact (drops_setCall s b _).accounts _
  split
  · exact ((sound.eases (ended none)).drops_superseded b).accounts _ |>.after sound (ended none)
      (fun _ _ held => held) rfl
  split
  · exact settled none _ _ _
  · split
    · exact settled _ _ _ _
    split
    · exact settled _ _ _ _
    split
    · exact settled _ _ _ _
    · rename_i t taken
      obtain ⟨f,_,_,rfl⟩ := accept_cases taken
      have same (c : Nat) (workspaceId : OpaqueId) (f : Floor) (reads : Option (Reading × Reading))
          (proof : Option Proof) (code : Code) (epoch : Nat) :
          Accounts s (settle ((s.setCall b (.finished reads)).setFloor c workspaceId f) b workspace proof
            code epoch) := by
        have settled := settle_accounts (s := (s.setCall b (.finished reads)).setFloor c workspaceId f)
          (b := b) registry unproved workspace proof code epoch
        refine ⟨fun b' p a held gone accepted => ?_,settled.registered⟩
        refine settled.lost b' p a (held_setFloor _ _ _ _ b' p held) gone ?_
        have identity : State.identity ((s.setCall b (.finished reads)).setFloor c workspaceId f) b' p =
            s.identity b' p := by
          unfold State.identity State.home
          rw [setFloor_sockets]
          rfl
        rw [identity]
        exact accepted
      exact same _ _ _ _ _ _ _
  · exact settled none _ _ _

/-- One lemma for each event, put together. -/
theorem Kept.accounts (kept : Kept s) (event : Event) (spared : Spared s event) :
    Accounts s (ReceiptBinding.step cfg s event) := by
  have sound := kept.sound
  have registry := kept.registry.held
  have idle (sent : Sent) : Accounts s (s,sent) :=
    Drops.accounts (.of_keeps rfl fun _ _ held => held) sent
  cases event <;> unfold ReceiptBinding.step <;> dsimp only
  case connect => exact sound.drops_connect.accounts _
  case registered c readinessV2 receipt =>
    split
    · exact (drops_registration s c readinessV2 receipt).accounts _
    · exact idle _
  case probed c error => exact (sound.drops_probeReadiness c error).accounts _
  case bind c message refusal =>
    split
    · rename_i known
      simp only [State.open,Bool.and_eq_true,decide_eq_true_eq] at known
      cases message with
      | none => exact idle _
      | some message => exact (sound.drops_bind known.1.1 message refusal).accounts _
    · exact idle _
  case bindRead b result =>
    split
    · split
      · rename_i waiting
        exact sound.accounts_firstRead registry waiting result
      · rename_i waiting
        exact sound.accounts_secondRead registry waiting result
      · exact idle _
    · exact idle _
  case promote b => exact (drops_promote s b).accounts _
  case unbind c bindingId =>
    split
    · cases bindingId with
      | none => exact idle _
      | some bindingId =>
        dsimp only
        split
        · exact (sound.drops_unbind c bindingId).accounts _
        · exact idle _
    · exact idle _
  case unbindSettles i retired => exact (drops_settleUnbind s i retired).accounts _
  case closed c =>
    split
    · rename_i known
      simp only [Bool.and_eq_true,decide_eq_true_eq] at known
      exact (sound.drops_closed known.1).accounts _
    · exact idle _
  case poll expired => exact (drops_poll s expired).accounts _
  case pollRead result => exact (drops_resumePoll s result).accounts _
  case cascadeEnds => exact (drops_cascadeEnds s).accounts _
  case workload c bindingId refused =>
    split
    · exact (drops_workload registry cfg c bindingId refused).accounts _
    · exact idle _
  case admissionRead i result barred =>
    split
    · rename_i admission at'
      exact (drops_resumeAdmission registry cfg i admission result barred
        (spared i result barred admission rfl at')).accounts _
    · exact idle _
  case ensured i created =>
    split
    · exact (drops_sessionEnsured s i _ created).accounts _
    · exact idle _
  case publishRead i result =>
    split
    · exact (drops_resumePublication s i _ result).accounts _
    · exact idle _
  case release lease => exact (drops_call (WorkspaceLease.release_authorities _ _)).accounts _
  case acquire candidate exclusive =>
    exact (drops_call (WorkspaceLease.acquire_authorities _ registry _ _)).accounts _
  case legacyBind c message replaced =>
    split
    · rename_i known
      simp only [State.open,Bool.and_eq_true,decide_eq_true_eq] at known
      exact (sound.drops_legacy registry known.1.2 message replaced).accounts _
    · exact idle _

/-- The binding is lost at this event, and this is the authority it had adopted. -/
def Loses (cfg : Config) (s : State) (event : Event) (b : Nat) (p : Proof)
    (a : WorkspaceLease.Authority) : Prop :=
  Held s b p ∧ ¬ Held (step cfg s event).1 b p ∧ requireAuthority (s.identity b p) = .ok a

/-- A bind is answered OK at this event, and adopts this authority. -/
def Adopts (cfg : Config) (s : State) (event : Event) (a : WorkspaceLease.Authority) : Prop :=
  let result := step cfg s event
  ∃ b p r, ((result.1.bindings b).socket,.bindOk (result.1.bindings b).binding.bindingId p) ∈ result.2 ∧
    requireAuthority (result.1.identity b p) = .ok r ∧ sameAuthority a.value r.value = true

/-- Some lease of this authority is current, or one could be acquired. -/
def Usable (s : State) (a : WorkspaceLease.Authority) : Prop :=
  (∃ lease ∈ s.leases.leases, sameAuthority a.value lease.authority.value = true ∧
    WorkspaceLease.isCurrent s.leases.registry lease = .ok true) ∨
  ∃ candidate a' exclusive lease, requireAuthority candidate = .ok a' ∧
    sameAuthority a.value a'.value = true ∧
    (WorkspaceLease.acquireActivity s.leases.registry candidate exclusive).2 = .ok lease

/-- An event that is not spared takes a proof away and leaves its authority registered. -/
theorem unspared (cfg : Config) (unspared : ¬ Spared s event) :
    (step cfg s event).1.authorities = s.authorities ∧
      ∃ b p a, Loses cfg s event b p a ∧ (step cfg s event).1.registers a := by
  unfold Spared at unspared
  push Not at unspared
  obtain ⟨i,result,barred,admission,rfl,at',old,p,a,held,accepted,known⟩ := unspared
  have stepped : step cfg s (.admissionRead i result barred) =
      resumeAdmission cfg s i admission result barred := by
    simp only [step,at']
  have resumed : (resumeAdmission cfg s i admission result barred).1 =
      (s.forsake admission.binding).setAdmission i fun admission => {admission with step := .refused} := by
    simp only [resumeAdmission,old]
  rw [stepped,resumed]
  refine ⟨rfl,admission.binding,p,a,⟨held,?_,accepted⟩,known⟩
  rw [stepped,resumed]
  rintro ⟨_,still⟩
  simp [State.setAdmission,State.forsake,State.setBinding] at still

theorem Kept.registered (kept : Kept s) (event : Event) {id : Units}
    (found : (ReceiptBinding.step cfg s event).1.authorities.get id = some r)
    (socket : r.value .socketGeneration ≠ .undefined) :
    s.authorities.get id = some r ∨ ∃ b p, (((ReceiptBinding.step cfg s event).1.bindings b).socket,
        .bindOk ((ReceiptBinding.step cfg s event).1.bindings b).binding.bindingId p) ∈ (ReceiptBinding.step cfg s event).2 ∧
      requireAuthority ((ReceiptBinding.step cfg s event).1.identity b p) = .ok r := by
  by_cases spared : Spared s event
  · exact (kept.accounts event spared).registered id r found socket
  · rw [(unspared cfg spared).1] at found
    exact .inl found

def Whole (s : State) : Prop :=
  ∀ id r, s.authorities.get id = some r → r.value .socketGeneration ≠ .undefined →
    r.value .authorityEpoch ≠ .undefined

theorem Whole.step (kept : Kept s) (whole : Whole s) (event : Event) :
    Whole (ReceiptBinding.step cfg s event).1 := by
  intro id r found socket
  rcases kept.registered event found socket with before | ⟨b,p,_,accepted⟩
  · exact whole id r before socket
  · exact (identity_socket _ b p accepted).2

theorem whole_new (cfg : Config) : Whole (State.new cfg) := by
  intro id r found
  simp [State.new,State.authorities,WorkspaceLease.State.new,WorkspaceLease.Registry.new] at found

theorem whole_run (cfg : Config) (events : List Event) : Whole (runEvents cfg events) := by
  have both : Kept (runEvents cfg events) ∧ Whole (runEvents cfg events) := by
    unfold runEvents
    have start : Kept (State.new cfg) ∧ Whole (State.new cfg) := ⟨kept_new cfg,whole_new cfg⟩
    generalize State.new cfg = s at start
    induction events generalizing s with
    | nil => exact start
    | cons event rest ih => exact ih _ ⟨start.1.step event,start.2.step start.1 event⟩
  exact both.2

/-- Nothing can be done with an authority that is not registered. -/
theorem not_usable (whole : Whole s)
    (epoch : a.value .authorityEpoch ≠ .undefined) (socket : a.value .socketGeneration ≠ .undefined)
    (unknown : ¬ s.registers a) : ¬ Usable s a := by
  have registered {x r : WorkspaceLease.Authority} (same : sameAuthority a.value x.value)
      (found : s.authorities.get x.workspaceId = some r) (current : sameAuthority r.value x.value) :
      s.registers a := by
    have defined : r.value .socketGeneration ≠ .undefined := by
      rw [ne_eq,WorkspaceLease.sameAuthority_socket current,← WorkspaceLease.sameAuthority_socket same]
      exact socket
    have back := WorkspaceLease.sameAuthority_symm current (whole _ r found defined)
    refine ⟨r,?_,WorkspaceLease.sameAuthority_trans same back epoch⟩
    rw [WorkspaceLease.sameAuthority_workspace same]
    exact found
  rintro (⟨lease,_,same,current⟩ | ⟨candidate,a',exclusive,lease,accepted,same,acquired⟩)
  · unfold WorkspaceLease.isCurrent at current
    repeat' split at current
    all_goals first | cases current | skip
    rename_i r found
    exact unknown (registered same found (Except.ok.inj current))
  · unfold WorkspaceLease.acquireActivity at acquired
    rw [accepted] at acquired
    dsimp only at acquired
    split at acquired
    · cases acquired
    split at acquired
    · cases acquired
    rename_i r found
    split at acquired
    · cases acquired
    · rename_i current
      exact unknown (registered same found (by simpa using current))

/-- Only a bind that adopts an authority again registers it again. -/
theorem Kept.stays_unknown (cfg : Config) (kept : Kept s)
    (socket : a.value .socketGeneration ≠ .undefined) (unknown : ¬ s.registers a) (events : List Event) :
    (∃ middle again rest, events = middle ++ again :: rest ∧
      Adopts cfg (Runs.run (ReceiptBinding.step cfg) s middle) again a) ∨
    ¬ (Runs.run (ReceiptBinding.step cfg) s events).registers a := by
  induction events generalizing s with
  | nil => exact .inr unknown
  | cons event rest ih =>
    by_cases known : (ReceiptBinding.step cfg s event).1.registers a
    · obtain ⟨r,found,same⟩ := known
      have defined := mt (WorkspaceLease.sameAuthority_socket same).mpr socket
      rcases kept.registered event found defined with before | ⟨b,p,answered,accepted⟩
      · exact absurd ⟨r,before,same⟩ unknown
      · exact .inl ⟨[],event,rest,rfl,b,p,r,answered,accepted,same⟩
    · rcases ih (kept.step event) known with ⟨middle,again,rest',rfl,adopts⟩ | still
      · exact .inl ⟨event :: middle,again,rest',rfl,adopts⟩
      · exact .inr still

/-- An event leaves no authority of a lost binding registered exactly when it is spared.
From then on no lease of the authority is current and none can be acquired, until a bind
is answered OK that adopts it again. -/
theorem lost_binding (cfg : Config) (before : List Event) (event : Event) :
    (Spared (runEvents cfg before) event ↔ ∀ b p a, Loses cfg (runEvents cfg before) event b p a →
      ¬ (step cfg (runEvents cfg before) event).1.registers a) ∧
    ∀ b p a, Loses cfg (runEvents cfg before) event b p a → Spared (runEvents cfg before) event → ∀ after,
        (∃ middle again rest, after = middle ++ again :: rest ∧
          Adopts cfg (runEvents cfg (before ++ event :: middle)) again a) ∨
        ¬ Usable (runEvents cfg (before ++ event :: after)) a := by
  have kept := kept_run cfg before
  have lost (spared : Spared (runEvents cfg before) event) (b : Nat) (p : Proof)
      (a : WorkspaceLease.Authority) (loses : Loses cfg (runEvents cfg before) event b p a) :
      ¬ (step cfg (runEvents cfg before) event).1.registers a :=
    (kept.accounts event spared).lost b p a loses.1 loses.2.1 loses.2.2
  constructor
  · refine ⟨lost,fun gone => ?_⟩
    by_contra harmed
    obtain ⟨_,b,p,a,loses,known⟩ := unspared cfg harmed
    exact gone b p a loses known
  · intro b p a loses spared after
    obtain ⟨socket,epoch⟩ := identity_socket _ b p loses.2.2
    have here (events : List Event) : runEvents cfg (before ++ event :: events) =
        Runs.run (step cfg) (step cfg (runEvents cfg before) event).1 events :=
      runEvents_append cfg before (event :: events)
    rcases (kept.step event).stays_unknown cfg socket (lost spared b p a loses) after with
      ⟨middle,again,rest,split,adopts⟩ | unknown
    · refine .inl ⟨middle,again,rest,split,?_⟩
      rw [here]
      exact adopts
    · rw [← here] at unknown
      exact .inr (not_usable (whole_run cfg _) epoch socket unknown)

/-- A leased binding is unbound. -/
theorem lost_binding_unbound :
    let s := runEvents plainConfig leasedRun
    let now := runEvents plainConfig (leasedRun ++ [.unbind 0 (some firstId)])
    WorkspaceLease.currentAt s.leases 0 = some (.ok true) ∧
      ∃ a, requireAuthority (s.identity 0 ⟨generationOne,zeroHex,zeroHex⟩) = .ok a ∧ ¬ Usable now a := by
  intro s now
  obtain ⟨a,accepted,_⟩ := identity_accepted s 0 ⟨generationOne,zeroHex,zeroHex⟩
  have loses : Loses plainConfig s (.unbind 0 (some firstId)) 0 ⟨generationOne,zeroHex,zeroHex⟩ a := by
    refine ⟨⟨by decide,by decide⟩,?_,accepted⟩
    rintro ⟨listed,_⟩
    exact absurd listed (by decide)
  have spared : Spared s (.unbind 0 (some firstId)) := by
    rintro i result barred admission ⟨⟩
  refine ⟨rfl,a,accepted,?_⟩
  rcases (lost_binding plainConfig leasedRun (.unbind 0 (some firstId))).2 0 _ a loses spared [] with
    ⟨middle,again,rest,split,_⟩ | unusable
  · simp at split
  · exact unusable

/-- A second admission finds another inventory and clears the proof, and the unbind that
follows has nothing left to retire. -/
theorem forsaken_stays_usable :
    let s := runEvents plainConfig (leasedRun ++ [.workload 0 firstId false,
      .admissionRead 1 (.ok (inventoryOf firstId generationTwo)) false,.unbind 0 (some firstId)])
    (s.listed 0 = false ∧ (s.bindings 0).proof = none) ∧
      WorkspaceLease.currentAt s.leases 0 = some (.ok true) ∧
      (WorkspaceLease.step s.leases
        (.acquireActivity (s.identity 0 ⟨generationOne,zeroHex,zeroHex⟩) false)).2 = .lease 1 :=
  ⟨by decide,rfl,rfl⟩

end GjcRemote.ReceiptBinding
