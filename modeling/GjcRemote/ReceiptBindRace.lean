import GjcRemote.ReceiptBindingRun

/-! Binding against the inventory cascade: what holds when a bind is answered OK, and what
a cascade leaves behind for good. -/
namespace GjcRemote.ReceiptBinding

open Utf16 StrictJson WorkspaceLease

/-- The floor of a workspace, once it holds an inventory, only rises. -/
def Rises (s s' : State) : Prop :=
  ∀ c workspaceId f known, s.floor c workspaceId = some f → f.inventory = some known →
    ∃ f' known', s'.floor c workspaceId = some f' ∧ f'.inventory = some known' ∧
      known.1.value ≤ known'.1.value

variable (s : State)

theorem Rises.refl : Rises s s :=
  fun _ _ f known found holds => ⟨f,known,found,holds,Nat.le_refl _⟩

theorem Rises.trans {s t u : State} (first : Rises s t) (second : Rises t u) : Rises s u := by
  intro c workspaceId f known found holds
  obtain ⟨f',known',found',holds',le⟩ := first c workspaceId f known found holds
  obtain ⟨f'',known'',found'',holds'',le'⟩ := second c workspaceId f' known' found' holds'
  exact ⟨f'',known'',found'',holds'',le.trans le'⟩

variable {s' : State}

theorem Eases.rises {s : State} (eases : Eases s s') : Rises s s' := by
  intro c workspaceId f known found holds
  exact ⟨f,known,(eases.floor c workspaceId).trans found,holds,Nat.le_refl _⟩

variable {b : Nat}

theorem Accepted.rises {s t : State} (accepted : Accepted s b first second t) :
    Rises s t := by
  obtain ⟨g,there,above,rfl⟩ := accepted.above
  intro c workspaceId f known found holds
  rw [floor_setFloor]
  split
  · rename_i here
    rw [here.1,here.2] at found
    rw [there] at found
    cases found
    exact ⟨_,_,rfl,rfl,above known holds⟩
  · exact ⟨f,known,found,holds,Nat.le_refl _⟩

theorem Granted.rises {s : State} (granted : Granted s s' b workspace p) : Rises s s' := by
  intro c workspaceId f known found holds
  refine ⟨f,known,?_,holds,Nat.le_refl _⟩
  rw [State.floor,granted.books.sockets]
  exact found

theorem Effect.rises {s : State} (sound : Sound s) (effect : Effect s s') : Rises s s' := by
  cases effect with
  | eases eases => exact eases.rises
  | files c binding t f known receipts free reserved filed =>
    subst filed
    have eased := reserved.eases sound
    intro c' workspaceId g known found holds
    rw [floor_file,floor_setFloor]
    split
    · rename_i here
      rw [here.1,here.2] at found
      refine ⟨f,known,rfl,?_,Nat.le_refl _⟩
      rw [reserved.inventory,found]
      exact holds
    · exact ⟨g,known,(eased.floor c' workspaceId).trans found,holds,Nat.le_refl _⟩
  | accepts b first second t accepted eases => exact accepted.rises.trans eases.rises
  | grants b first second t workspace p accepted granted _ _ =>
    exact accepted.rises.trans granted.rises

theorem rises_run {s : State} (sound : Sound s) (events : List Event) :
    Rises s (Runs.run (step cfg) s events) := by
  induction events generalizing s with
  | nil => exact .refl s
  | cons event rest ih =>
    have effect := (sound.stepped cfg event).effect
    exact (effect.rises sound).trans (ih (sound.effect effect))

/-- What is so of a binding with a proof at the moment of its answer: it is current, owns
its floor, its two reads agree with each other and with the proof, and no inventory that
its socket has ever accepted for the workspace was newer. -/
structure Proven (cfg : Config) (before : List Event) (s : State) (b : Nat) (p : Proof) : Prop where
  proved : (s.bindings b).proof = some p
  current : currentReceiptBinding s b = true
  owns : ownsReceiptAuthorityFloor s b = true
  reads : Backed (s.calls b) p
  highest : ∀ earlier, earlier <+: before → ∀ f known,
    (runEvents cfg earlier).floor (s.bindings b).socket (s.authority b).workspaceId = some f →
    f.inventory = some known → known.1.value ≤ p.inventoryGeneration.value

theorem Sound.owns {s : State} (sound : Sound s) (listed : s.listed b) :
    ownsReceiptAuthorityFloor s b := by
  obtain ⟨f,found,authority⟩ := sound.floor b listed
  change (s.home b).receiptWorkspaceFloors.get (s.bindings b).binding.authority.workspaceId.text = some f
    at found
  rw [ownsReceiptAuthorityFloor,found]
  exact decide_eq_true authority

theorem proven_of_current (current : currentReceiptBinding (step cfg (runEvents cfg before) event).1 b)
    (proved : ((step cfg (runEvents cfg before) event).1.bindings b).proof = some p) :
    Proven cfg before (step cfg (runEvents cfg before) event).1 b p := by
  have sound := sound_run cfg before
  have effect := (sound.stepped cfg event).effect
  have sound' := sound.effect effect
  obtain ⟨_,_,listed,_⟩ := current_iff.mp current
  refine ⟨proved,current,sound'.owns listed,sound'.proved b p proved,?_⟩
  rintro earlier ⟨rest,rfl⟩ f known found holds
  have between : Rises (runEvents cfg earlier) (runEvents cfg (earlier ++ rest)) := by
    rw [runEvents_append]
    exact rises_run (sound_run cfg earlier) rest
  obtain ⟨f',known',found',holds',le⟩ := (between.trans (effect.rises sound)) _ _ f known found holds
  have top := (sound'.fresh b p listed proved).2
  rw [found',Option.bind_some,holds'] at top
  cases top
  exact le

/-- Only a bind whose second read was accepted sets a proof. -/
theorem Effect.proves {s : State} (sound : Sound s) (effect : Effect s s')
    (proved : (s'.bindings b).proof = some p) (fresh : (s.bindings b).proof ≠ some p) :
    currentReceiptBinding s' b := by
  cases effect with
  | eases eases => exact absurd (eases.proof b p proved) fresh
  | files c binding t f known receipts free reserved filed =>
    subst filed
    rw [file_bindings] at proved
    split at proved
    · cases proved
    · exact absurd ((reserved.eases sound).proof b p proved) fresh
  | accepts b' first second t accepted eases =>
    obtain ⟨f,_,_,rfl⟩ := accepted.above
    exact absurd (eases.proof b p proved) fresh
  | grants b' first second t workspace q accepted granted _ _ =>
    have current := granted.current accepted.still
    obtain ⟨f,_,_,rfl⟩ := accepted.above
    rw [granted.books.bindings,grant_bindings] at proved
    split at proved
    · rename_i here
      exact here ▸ current
    · exact absurd proved fresh

/-- The part of a step that admissions do not see: they stay, the epoch does not go back,
and the registry is called. -/
structure Evolves (s s' : State) : Prop where
  admissions : s'.admissions = s.admissions
  epoch : s.providerEpoch ≤ s'.providerEpoch
  leases : ∃ calls, s'.leases = Runs.run WorkspaceLease.step s.leases calls

theorem Evolves.refl : Evolves s s := ⟨rfl,Nat.le_refl _,[],rfl⟩

theorem Evolves.trans {s t u : State} (first : Evolves s t) (second : Evolves t u) : Evolves s u := by
  obtain ⟨calls,ran⟩ := first.leases
  obtain ⟨calls',ran'⟩ := second.leases
  exact ⟨second.admissions.trans first.admissions,first.epoch.trans second.epoch,calls ++ calls',
    by rw [Runs.run_append,← ran,ran']⟩

theorem Evolves.of_same {s : State} (admissions : s'.admissions = s.admissions)
    (epoch : s'.providerEpoch = s.providerEpoch) (leases : s'.leases = s.leases) : Evolves s s' :=
  ⟨admissions,epoch.ge,[],leases⟩

theorem evolves_call (call : Call) : Evolves s (s.call call) :=
  ⟨rfl,Nat.le_refl _,[call],rfl⟩

theorem evolves_setSocket (c : Nat) (change : Socket → Socket) :
    Evolves s (s.setSocket c change) := .of_same rfl rfl rfl

theorem evolves_foldl (round : ∀ s b, Evolves s (f s b)) (bs : List Nat)
    (s : State) : Evolves s (bs.foldl f s) := by
  induction bs generalizing s with
  | nil => exact .refl s
  | cons b rest ih => exact (round s b).trans (ih _)

theorem evolves_delist (b : Nat) : Evolves s (s.delist b) := .of_same rfl rfl rfl

theorem evolves_withdraw (b : Nat) : Evolves s (s.withdraw b) := by
  unfold State.withdraw
  split
  · exact (evolves_delist s b).trans (evolves_call _ _)
  · exact evolves_delist s b

theorem evolves_retire (b : Nat) : Evolves s (s.retire b) :=
  (evolves_withdraw s b).trans (.of_same rfl rfl rfl)

theorem evolves_superseded (b : Nat) :
    Evolves s (retireSupersededReceiptBinding s b) := by
  unfold retireSupersededReceiptBinding
  split
  · exact evolves_retire s b
  · exact .refl s

theorem evolves_settle (b : Nat) (workspace : Option InventoryWorkspace)
    (proof : Option Proof) (code : Code) (epoch : Nat) :
    Evolves s (settle s b workspace proof code epoch).1 := by
  unfold settle
  dsimp only
  split
  · exact .of_same rfl rfl rfl
  · rename_i p
    have granted : Evolves s (s.grant b workspace p) := .of_same rfl rfl rfl
    have called := granted.trans (evolves_call _ (.adoptBinding (s.identity b p)))
    split <;> exact called.trans (.of_same rfl rfl rfl)

theorem evolves_cascade (code : Code) :
    Evolves s (cascadeInventoryInvalidation s code) :=
  ⟨rfl,Nat.le_succ _,[.invalidateAll],rfl⟩

variable (cfg : Config)

theorem evolves_bind (s : State) (c : Nat) (message : Binding) (refusal : Option String) :
    Evolves s (acceptReceiptBinding cfg s c message refusal).1 := by
  unfold acceptReceiptBinding
  dsimp only
  split
  · exact .refl s
  split
  · exact .refl s
  split
  · repeat' split
    all_goals exact .refl s
  split
  · exact .refl s
  split
  · exact .refl s
  · rename_i t reserved
    unfold reserveReceiptAuthorityFloor at reserved
    dsimp only at reserved
    split at reserved
    · cases reserved
    · cases reserved
      split
      · exact (evolves_foldl evolves_superseded _ s).trans (.of_same rfl rfl rfl)
      · exact .of_same rfl rfl rfl

theorem evolves_firstRead (s : State) (b : Nat) (result : Except Code Read) :
    Evolves s (resumeFirstRead cfg s b result).1 := by
  have ended (call : BindCall) : Evolves s (s.setCall b call) := .of_same rfl rfl rfl
  unfold resumeFirstRead
  split
  · exact ended _
  split
  · exact .of_same rfl rfl rfl
  split
  · exact (ended _).trans (evolves_superseded _ b)
  split
  · exact ended _
  · exact (ended _).trans (evolves_settle _ _ _ _ _ _)

theorem evolves_secondRead (s : State) (b : Nat) (first : Reading)
    (workspace : Option InventoryWorkspace) (result : Except Code Read) :
    Evolves s (resumeSecondRead cfg s b first workspace result).1 := by
  have ended (call : BindCall) : Evolves s (s.setCall b call) := .of_same rfl rfl rfl
  have settled (call : BindCall) (proof : Option Proof) (code : Code) :
      Evolves s (settle (s.setCall b call) b workspace proof code first.epoch).1 :=
    (ended call).trans (evolves_settle _ _ _ _ _ _)
  unfold resumeSecondRead
  dsimp only
  split
  · exact ended _
  split
  · exact (ended _).trans (evolves_superseded _ b)
  split
  · exact settled _ _ _
  · split
    · exact settled _ _ _
    split
    · exact settled _ _ _
    split
    · exact settled _ _ _
    · rename_i taken
      obtain ⟨f,_,_,rfl⟩ := accept_cases taken
      exact ((ended _).trans (evolves_setSocket _ _ _)).trans (evolves_settle _ _ _ _ _ _)
  · exact settled _ _ _

theorem evolves_closed (c : Nat) : Evolves s (connectionClosed s c) := by
  have offline := evolves_setSocket s c fun k => {k with committed := false}
  have gone (t : State) (reached : Evolves s t) : Evolves s (
      let t' := t.setSocket c fun k => {k with connected := false}
      if hasReceiptCommittedConnection t' then t' else {t' with inventorySnapshot := none}) := by
    dsimp only
    split
    · exact reached.trans (evolves_setSocket _ _ _)
    · exact reached.trans (.of_same rfl rfl rfl)
  unfold connectionClosed
  dsimp only
  split
  · exact gone _ ((offline.trans (evolves_foldl evolves_withdraw _ _)).trans (evolves_setSocket _ _ _))
  · exact gone _ offline

theorem evolves_probe (c : Nat) (error : Option Code) :
    Evolves s (probeReadiness s c error).1 := by
  have promoted (t : State) (b : Nat) : Evolves t (promoteWorkspaceIfProven t b) := by
    unfold promoteWorkspaceIfProven
    split
    · exact .of_same rfl rfl rfl
    · exact .refl t
  unfold probeReadiness
  split
  · exact .refl s
  split
  · exact (evolves_setSocket s c _).trans (evolves_foldl promoted _ _)
  · refine (evolves_setSocket s c _).trans (evolves_foldl ?_ _ _)
    exact fun _ _ => .of_same rfl rfl rfl

theorem evolves_poll (expired : Bool) : Evolves s (runInventoryPoll s expired) := by
  unfold runInventoryPoll
  split
  · exact .refl s
  split
  · exact .of_same rfl rfl rfl
  split
  · exact evolves_cascade s _
  · exact .of_same rfl rfl rfl

theorem evolves_resumePoll (result : Except Code Read) : Evolves s (resumePoll s result) := by
  unfold resumePoll
  split
  · exact .refl s
  split
  · exact evolves_cascade s _
  · dsimp only
    split
    · exact evolves_cascade s _
    split
    · exact evolves_cascade s _
    · exact .of_same rfl rfl rfl
  · exact evolves_cascade s _

theorem evolves_legacy (c : Nat) (message : Candidate) (replaced : Option Nat) :
    Evolves s (acceptWorkspaceBinding s c message replaced) := by
  unfold acceptWorkspaceBinding
  split
  · exact .refl s
  dsimp only
  split
  · split
    · exact (evolves_call s _).trans (evolves_delist _ _)
    · exact evolves_call s _
  · exact evolves_call s _

theorem evolves_promote (b : Nat) : Evolves s (promote s b).1 := by
  unfold promote
  split
  · dsimp only
    split
    · unfold promoteWorkspaceIfProven
      split <;> exact .of_same rfl rfl rfl
    · exact .of_same rfl rfl rfl
  · exact .refl s

theorem evolves_unbind (c : Nat) (bindingId : OpaqueId) :
    Evolves s (unbindReceiptBinding s c bindingId).1 := by
  unfold unbindReceiptBinding
  dsimp only
  split
  · exact (evolves_retire s _).trans (.of_same rfl rfl rfl)
  · exact .of_same rfl rfl rfl
  · exact .refl s

theorem evolves_settleUnbind (i : Nat) (retired : Bool) :
    Evolves s (settleUnbind s i retired).1 := by
  unfold settleUnbind
  split
  · exact .refl s
  split
  · exact .refl s
  · split <;> exact .of_same rfl rfl rfl

theorem evolves_cascadeEnds : Evolves s (cascadeEnds s).1 := by
  unfold cascadeEnds
  split
  · exact .refl s
  · exact .of_same rfl rfl rfl

theorem evolves_registration (c : Nat) (readinessV2 receipt : Bool) :
    Evolves s (registrationAccepted s c readinessV2 receipt).1 := by
  unfold registrationAccepted
  split
  · exact .refl s
  · exact .of_same rfl rfl rfl

def Event.admits : Event → Bool
  | .workload _ _ _ | .admissionRead _ _ _ | .ensured _ _ | .publishRead _ _ => true
  | _ => false

theorem step_evolves (s : State) (other : event.admits = false) :
    Evolves s (step cfg s event).1 := by
  have idle := Evolves.refl s
  cases event <;> unfold step <;> dsimp only
  case connect => exact .of_same rfl rfl rfl
  case registered => split; exacts [evolves_registration _ _ _ _,idle]
  case probed c error => exact evolves_probe s c error
  case bind c message refusal =>
    split
    · cases message
      · exact idle
      · exact evolves_bind _ _ _ _ _
    · exact idle
  case bindRead b result =>
    split
    · split
      · exact evolves_firstRead _ _ _ _
      · exact evolves_secondRead _ _ _ _ _ _
      · exact idle
    · exact idle
  case promote b => exact evolves_promote s b
  case unbind c bindingId =>
    split
    · cases bindingId
      · exact idle
      · dsimp only
        split
        · exact evolves_unbind _ _ _
        · exact idle
    · exact idle
  case unbindSettles i retired => exact evolves_settleUnbind s i retired
  case closed c => split; exacts [evolves_closed s c,idle]
  case poll expired => exact evolves_poll s expired
  case pollRead result => exact evolves_resumePoll s result
  case cascadeEnds => exact evolves_cascadeEnds s
  case release lease => exact evolves_call s _
  case acquire candidate exclusive => exact evolves_call s _
  case legacyBind c message replaced => split; exacts [evolves_legacy _ _ _ _,idle]
  all_goals cases other

/-- What a cascade has done to the first `made` bindings and the first `taken` leases. -/
structure Fenced (made taken : Nat) (s : State) : Prop where
  known : made ≤ s.allocated
  gone : ∀ b, b < made → s.reached b = true →
    (s.bindings b).proof = none ∧ (s.bindings b).ready = false ∧ (s.bindings b).invalidated = true
  epoch : ∀ a ∈ s.admissions, a.binding < made → a.step = .admissionRead → a.epoch < s.providerEpoch
  leases : ∀ a ∈ s.admissions, a.binding < made → ∀ l, a.lease = some l → l < taken
  ended : ∀ l, l < taken → ∃ id, WorkspaceLease.Tracks s.leases l id False

theorem Eases.reached {s s' : State} (sound : Sound s) (eases : Eases s s')
    (reached : s'.reached b) : s.reached b := by
  obtain ⟨online,listed⟩ := reached_iff.mp reached
  have still := eases.stays listed
  have opened := (sound.owner b (sound.known_of_listed still)).1
  rw [State.home,eases.socket] at online
  exact reached_iff.mpr ⟨eases.connected _ opened online,still⟩

theorem reached_of_current {s : State} (current : currentReceiptBinding s b) :
    s.reached b := by
  obtain ⟨_,online,listed,_⟩ := current_iff.mp current
  exact reached_iff.mpr ⟨online,listed⟩

theorem reached_setFloor (c : Nat) (workspaceId : OpaqueId) (f : Floor) (b : Nat) :
    (s.setFloor c workspaceId f).reached b = s.reached b := by
  rw [State.reached,listed_setFloor,State.home,setFloor_sockets]
  rfl

/-- A binding that a cascade reached does not come back. -/
theorem Effect.gone {s s' : State} (sound : Sound s) (effect : Effect s s')
    (fenced : Fenced made taken s) : made ≤ s'.allocated ∧ ∀ b, b < made → s'.reached b →
      (s'.bindings b).proof = none ∧ (s'.bindings b).ready = false ∧ (s'.bindings b).invalidated := by
  have eased {t u : State} (sound : Sound t) (eases : Eases t u) (b : Nat)
      (gone : t.reached b → (t.bindings b).proof = none ∧ (t.bindings b).ready = false ∧
        (t.bindings b).invalidated) (reached : u.reached b) :
      (u.bindings b).proof = none ∧ (u.bindings b).ready = false ∧
        (u.bindings b).invalidated := by
    obtain ⟨unproved,unready,invalid⟩ := gone (eases.reached sound reached)
    refine ⟨eases.unproved unproved,?_,eases.invalidated b invalid⟩
    rw [Bool.eq_false_iff]
    intro ready
    rcases (eases.ready b ready).2 with before | before
    · rw [unready] at before
      cases before
    · rw [unproved] at before
      cases before
  cases effect with
  | eases eases =>
    refine ⟨eases.allocated ▸ fenced.known,fun b old => eased sound eases b (fenced.gone b old)⟩
  | files c binding t f known receipts free reserved filed =>
    subst filed
    have eases := reserved.eases sound
    have allocated : t.allocated = s.allocated := eases.allocated
    refine ⟨Nat.le_succ_of_le (allocated ▸ fenced.known),fun b old reached => ?_⟩
    have ne : b ≠ t.allocated := by
      have := fenced.known
      omega
    have same : ((t.setFloor c binding.authority.workspaceId f).file c binding).bindings b =
        t.bindings b := by rw [file_bindings]; exact if_neg ne
    rw [same]
    refine eased sound eases b (fenced.gone b old) ?_
    obtain ⟨online,listed⟩ := reached_iff.mp reached
    rw [State.home,same,file_sockets,setFloor_sockets] at online
    have free' : (t.setFloor c binding.authority.workspaceId f).at c binding.bindingId.text = none := by
      rw [State.at,setFloor_sockets]
      cases found : t.at c binding.bindingId.text with
      | none => exact found
      | some b =>
        rw [eases.listed _ _ _ found] at free
        cases free
    have listed' := (listed_file free').mp listed
    rw [listed_setFloor] at listed'
    exact reached_iff.mpr ⟨online,(listed'.resolve_left ne).2⟩
  | accepts b' first second t accepted eases =>
    have sound' := accepted.sound sound
    obtain ⟨f,_,_,rfl⟩ := accepted.above
    refine ⟨eases.allocated ▸ fenced.known,fun b old => eased sound' eases b fun reached => ?_⟩
    rw [reached_setFloor] at reached
    exact fenced.gone b old reached
  | grants b' first second t workspace p accepted granted _ _ =>
    have current := accepted.current
    obtain ⟨f,_,_,rfl⟩ := accepted.above
    refine ⟨granted.books.allocated ▸ fenced.known,fun b old reached => ?_⟩
    have ne : b ≠ b' := by
      rintro rfl
      have invalid := (fenced.gone b old (reached_of_current current)).2.2
      rw [(current_iff.mp current).2.2.2] at invalid
      cases invalid
    have same := (congrFun granted.books.bindings b).trans ((grant_bindings _ b' workspace p b).trans
      (if_neg ne))
    rw [same]
    refine fenced.gone b old ?_
    rw [reached_iff,State.home,listed_iff,State.at,same,granted.books.sockets] at reached
    rw [← reached_setFloor,reached_iff,listed_iff]
    exact reached

theorem Tracks.calls {s : WorkspaceLease.State} (inv : Invariant s) {id : Units}
    (tracks : WorkspaceLease.Tracks s l id False) (calls : List Call) :
    WorkspaceLease.Tracks (Runs.run WorkspaceLease.step s calls) l id False :=
  (tracks.run inv calls).congr (by simp)

/-- Calls on the registry hand out leases and take none back. -/
theorem leases_grow (s : WorkspaceLease.State) (calls : List Call) :
    s.leases.length ≤ (Runs.run WorkspaceLease.step s calls).leases.length := by
  induction calls generalizing s with
  | nil => exact Nat.le_refl _
  | cons call rest ih =>
    refine Nat.le_trans ?_ (ih _)
    cases call with
    | adoptBinding candidate => exact Nat.le_refl _
    | retireBinding candidate => exact Nat.le_refl _
    | invalidateAll => exact Nat.le_refl _
    | acquireActivity candidate exclusive =>
      simp only [WorkspaceLease.step]
      split <;> simp
    | release position =>
      simp only [WorkspaceLease.step,WorkspaceLease.release]
      split
      · exact Nat.le_refl _
      · split <;> simp

/-- Where an admission of the next state comes from. A lease is given only at an epoch that
did not turn since the admission began, or at its beginning. -/
inductive Moved (s s' : State) (a' : Admission) : Prop
  | kept (a : Admission) (member : a ∈ s.admissions) (binding : a'.binding = a.binding)
      (epoch : a'.epoch = a.epoch) (lease : a'.lease = a.lease)
      (waits : a'.step = .admissionRead → a.step = .admissionRead)
  | leased (a : Admission) (member : a ∈ s.admissions) (binding : a'.binding = a.binding)
      (epoch : a'.epoch = a.epoch) (waited : a.step = .admissionRead)
      (current : a.epoch = s.providerEpoch) (moved : a'.step ≠ .admissionRead)
      (bound : ∀ l, a'.lease = some l → l < s'.leases.leases.length)
  | begun (reached : s.reached a'.binding = true) (ready : (s.bindings a'.binding).ready = true)
      (epoch : a'.epoch = s.providerEpoch) (bound : ∀ l, a'.lease = some l → l < s'.leases.leases.length)

structure Moves (s s' : State) : Prop where
  epoch : s.providerEpoch ≤ s'.providerEpoch
  leases : ∃ calls, s'.leases = Runs.run WorkspaceLease.step s.leases calls
  admissions : ∀ a' ∈ s'.admissions, Moved s s' a'

theorem Evolves.moves {s : State} (evolves : Evolves s s') : Moves s s' where
  epoch := evolves.epoch
  leases := evolves.leases
  admissions a member := .kept a (evolves.admissions ▸ member) rfl rfl rfl id

/-- An update of one admission. -/
theorem mem_modify {admissions : List Admission} (member : a' ∈ admissions.modify i change) :
    a' ∈ admissions ∨ ∃ a ∈ admissions, a' = change a := by
  obtain ⟨j,at'⟩ := List.getElem?_of_mem member
  rw [List.getElem?_modify] at at'
  obtain ⟨a,there,rfl⟩ := Option.map_eq_some_iff.mp at'
  split
  · exact .inr ⟨a,List.mem_of_getElem? there,rfl⟩
  · exact .inl (List.mem_of_getElem? there)

/-- An admission that only moves its own state on, after the registry was called. -/
theorem Evolves.moves_on {s t : State} (evolves : Evolves s t) (other : next ≠ .admissionRead) :
    Moves s (t.setAdmission i fun admission => {admission with step := next}) where
  epoch := evolves.epoch
  leases := evolves.leases
  admissions a' member := by
    rcases mem_modify member with same | ⟨a,there,rfl⟩
    · exact .kept a' (evolves.admissions ▸ same) rfl rfl rfl id
    · exact .kept a (evolves.admissions ▸ there) rfl rfl rfl fun waits => absurd waits other

theorem evolves_releaseOf (admission : Admission) :
    Evolves s (s.releaseOf admission) := by
  unfold State.releaseOf
  split
  · exact evolves_call s _
  · exact .refl s

/-- What taking a lease does to the admissions. -/
theorem acquire_spec (s : State) (i : Nat) (admission : Admission) :
    (∃ calls, (acquire cfg s i admission).leases = Runs.run WorkspaceLease.step s.leases calls) ∧
    (acquire cfg s i admission).providerEpoch = s.providerEpoch ∧
    ∀ a' ∈ (acquire cfg s i admission).admissions, a' ∈ s.admissions ∨
      (∃ a ∈ s.admissions, a' = {a with step := .refused}) ∨
      (a'.binding = admission.binding ∧ a'.epoch = admission.epoch ∧ a'.step = .ensuring ∧
        ∀ l, a'.lease = some l → l < (acquire cfg s i admission).leases.leases.length) := by
  unfold acquire
  dsimp only
  split
  · rename_i position answered
    refine ⟨⟨[_],rfl⟩,rfl,fun a' member => ?_⟩
    rcases mem_modify member with same | ⟨a,there,rfl⟩
    · exact .inl same
    · refine .inr (.inr ⟨rfl,rfl,rfl,?_⟩)
      rintro l ⟨⟩
      simp only [WorkspaceLease.step] at answered
      simp only [State.setAdmission,State.call,WorkspaceLease.step]
      split at answered
      · cases answered
      · cases answered
        simp
  · refine ⟨⟨[_],rfl⟩,rfl,fun a' member => ?_⟩
    rcases mem_modify member with same | ⟨a,there,rfl⟩
    · exact .inl same
    · exact .inr (.inl ⟨a,there,rfl⟩)

theorem admissionAt_some {s : State} (found : s.admissionAt i at' = some admission) :
    admission ∈ s.admissions ∧ admission.step = at' := by
  obtain ⟨there,stands⟩ := Option.filter_eq_some_iff.mp found
  exact ⟨List.mem_of_getElem? there,by simpa using stands⟩

/-- An admission that is not stale began at this epoch. -/
theorem stale_current {s : State}
    (current : stale s admission result = some false) : admission.epoch = s.providerEpoch := by
  unfold stale at current
  split at current
  · cases current
  · rename_i same
    simp only [Bool.or_eq_true,not_or,decide_eq_true_eq,not_not] at same
    exact same.2

theorem Sound.moves_workload {cfg : Config} {s : State} (sound : Sound s) (open' : s.open c)
    (bindingId : OpaqueId) (refused : Bool) :
    Moves s (admitReadyWorkload cfg s c bindingId refused) := by
  simp only [State.open,Bool.and_eq_true,decide_eq_true_eq] at open'
  unfold admitReadyWorkload
  split
  · exact (Evolves.refl s).moves
  rename_i b found
  split
  · exact (Evolves.refl s).moves
  rename_i willing
  simp only [Bool.or_eq_true,Bool.not_eq_true',not_or,Bool.not_eq_false] at willing
  obtain ⟨_,socket,frame⟩ := sound.filed c _ b found
  have reached : s.reached b := by
    rw [reached_iff,State.home,socket,listed_iff,socket,frame]
    exact ⟨open'.1.2,found⟩
  have ready := willing.2
  dsimp only
  split
  · refine ⟨Nat.le_refl _,⟨[],rfl⟩,fun a' member => ?_⟩
    rcases List.mem_append.mp member with same | new
    · exact .kept a' same rfl rfl rfl id
    · rw [List.mem_singleton.mp new]
      exact .begun reached ready rfl (fun l held => by cases held)
  · let fresh : Admission := ⟨b,s.providerEpoch,none,none,.admissionRead⟩
    let filed : State := {s with admissions := s.admissions ++ [fresh]}
    obtain ⟨calls,epoch,admissions⟩ := acquire_spec cfg filed (filed.admissions.length - 1) fresh
    refine ⟨epoch.ge,calls,fun a' member => ?_⟩
    rcases admissions a' member with same | ⟨a,there,rfl⟩ | ⟨binding,began,_,bound⟩
    · rcases List.mem_append.mp same with same | new
      · exact .kept a' same rfl rfl rfl id
      · rw [List.mem_singleton.mp new]
        exact .begun reached ready rfl (fun l held => by cases held)
    · rcases List.mem_append.mp there with same | new
      · exact .kept a same rfl rfl rfl (fun waits => by cases waits)
      · rw [List.mem_singleton.mp new]
        exact .begun reached ready rfl (fun l held => by cases held)
    · exact .begun (binding ▸ reached) (binding ▸ ready) began bound

theorem moves_resumeAdmission {s : State}
    (member : admission ∈ s.admissions) (waits : admission.step = .admissionRead)
    (result : Except Code Read) (barred : Bool) :
    Moves s (resumeAdmission cfg s i admission result barred).1 := by
  have forsakes : Evolves s (s.forsake admission.binding) := .of_same rfl rfl rfl
  unfold resumeAdmission
  split
  · exact (Evolves.refl s).moves_on (by decide)
  · exact forsakes.moves_on (by decide)
  · rename_i current
    split
    · exact (Evolves.refl s).moves_on (by decide)
    · obtain ⟨calls,epoch,admissions⟩ := acquire_spec cfg s i admission
      refine ⟨epoch.ge,calls,fun a' inside => ?_⟩
      rcases admissions a' inside with same | ⟨a,there,rfl⟩ | ⟨binding,began,moved,bound⟩
      · exact .kept a' same rfl rfl rfl id
      · exact .kept a there rfl rfl rfl (fun waits => by cases waits)
      · exact .leased admission member binding began waits (stale_current current) (by rw [moved]; decide) bound

theorem Sound.moves {s : State} (sound : Sound s) (event : Event) :
    Moves s (step cfg s event).1 := by
  by_cases other : event.admits = false
  · exact (step_evolves cfg s other).moves
  have idle : Moves s s := (Evolves.refl s).moves
  cases event <;> unfold step <;> dsimp only
  case workload c bindingId refused =>
    split
    · rename_i known
      exact sound.moves_workload known bindingId refused
    · exact idle
  case admissionRead i result barred =>
    split
    · rename_i admission found
      obtain ⟨member,waits⟩ := admissionAt_some found
      exact moves_resumeAdmission cfg member waits result barred
    · exact idle
  case ensured i created =>
    split
    · unfold sessionEnsured
      split
      · exact (Evolves.refl s).moves_on (by decide)
      · exact (evolves_releaseOf s _).moves_on (by decide)
    · exact idle
  case publishRead i result =>
    split
    · unfold resumePublication
      split
      · exact (Evolves.refl s).moves_on (by decide)
      split
      · exact (evolves_releaseOf s _).moves_on (by decide)
      · exact (Evolves.refl s).moves_on (by decide)
    · exact idle
  all_goals exact absurd rfl other

theorem Moves.leased {s : State} (moves : Moves s s') (inv : Invariant s.leases) :
    Invariant s'.leases := by
  obtain ⟨calls,ran⟩ := moves.leases
  rw [ran]
  exact Runs.run_invariant (fun _ call inv => inv.step call) inv calls

theorem Fenced.moves {s s' : State} (sound : Sound s) (effect : Effect s s')
    (inv : Invariant s.leases) (moves : Moves s s') (fenced : Fenced made taken s) :
    Fenced made taken s' where
  known := (effect.gone sound fenced).1
  gone := (effect.gone sound fenced).2
  epoch a' member old waits := by
    cases moves.admissions a' member with
    | kept a there binding epoch lease waited =>
      rw [epoch]
      exact (fenced.epoch a there (binding ▸ old) (waited waits)).trans_le moves.epoch
    | leased a there binding epoch waited current moved bound => exact absurd waits moved
    | begun reached ready epoch bound =>
      have unready := (fenced.gone _ old reached).2.1
      rw [ready] at unready
      cases unready
  leases a' member old l held := by
    cases moves.admissions a' member with
    | kept a there binding epoch lease waited =>
      exact fenced.leases a there (binding ▸ old) l (lease ▸ held)
    | leased a there binding epoch waited current moved bound =>
      have turned := fenced.epoch a there (binding ▸ old) waited
      rw [current] at turned
      exact absurd turned (Nat.lt_irrefl _)
    | begun reached ready epoch bound =>
      have unready := (fenced.gone _ old reached).2.1
      rw [ready] at unready
      cases unready
  ended l early := by
    obtain ⟨id,tracks⟩ := fenced.ended l early
    obtain ⟨calls,ran⟩ := moves.leases
    rw [ran]
    exact ⟨id,Tracks.calls inv tracks calls⟩

/-- The books, the registry's own invariant, and where the leases of admissions are. -/
structure Kept (s : State) : Prop where
  sound : Sound s
  registry : Invariant s.leases
  epochs : ∀ a ∈ s.admissions, a.epoch ≤ s.providerEpoch
  leases : ∀ a ∈ s.admissions, ∀ l, a.lease = some l → l < s.leases.leases.length

theorem Kept.step {cfg : Config} {s : State} (kept : Kept s) (event : Event) :
    Kept (step cfg s event).1 := by
  have moves := kept.sound.moves cfg event
  refine ⟨kept.sound.effect (kept.sound.stepped cfg event).effect,moves.leased kept.registry,?_,?_⟩
  · intro a' member
    cases moves.admissions a' member with
    | kept a there _ epoch =>
      rw [epoch]
      exact (kept.epochs a there).trans moves.epoch
    | leased a there _ epoch =>
      rw [epoch]
      exact (kept.epochs a there).trans moves.epoch
    | begun _ _ epoch =>
      rw [epoch]
      exact moves.epoch
  · intro a' member l held
    cases moves.admissions a' member with
    | kept a there _ _ lease =>
      obtain ⟨calls,ran⟩ := moves.leases
      rw [ran]
      exact (kept.leases a there l (lease ▸ held)).trans_le (leases_grow _ _)
    | leased _ _ _ _ _ _ _ bound => exact bound l held
    | begun _ _ _ bound => exact bound l held

theorem kept_new : Kept (State.new cfg) where
  sound := sound_new cfg
  registry := invariant_new cfg.bounds
  epochs _ member := by cases member
  leases _ member := by cases member

theorem kept_run (events : List Event) : Kept (runEvents cfg events) :=
  Runs.run_invariant (fun _ event kept => kept.step event) (kept_new cfg) events

/-- The leases of the daemon come from calls of the registry alone, so whatever binds, cascades and admissions
interleave, an exclusive lease is the only one of its workspace. -/
theorem leases_exclusive (events : List Event) :
    let s := (runEvents cfg events).leases
    (∃ calls, s = runCalls cfg.bounds calls) ∧ ∀ l ∈ s.leases, l.released = false → l.exclusive = true →
      holderCount s l.authority.workspaceId = 1 := by
  have both : ∀ s event, (Kept s ∧ ∃ calls, s.leases = runCalls cfg.bounds calls) →
      Kept (step cfg s event).1 ∧ ∃ calls, (step cfg s event).1.leases = runCalls cfg.bounds calls := by
    rintro s event ⟨kept,calls,ran⟩
    obtain ⟨more,grown⟩ := (kept.sound.moves cfg event).leases
    exact ⟨kept.step event,calls ++ more,by rw [grown,ran,runCalls,runCalls,Runs.run_append]⟩
  obtain ⟨kept,calls⟩ := Runs.run_invariant both ⟨kept_new cfg,[],rfl⟩ events
  have registry := kept.registry
  exact ⟨calls,fun l member alive taken =>
    registry.shared _ _ (registry.owned l member alive) (registry.marked l member alive taken)⟩

theorem Fenced.run {cfg : Config} {s : State} (kept : Kept s)
    (fenced : Fenced made taken s) (events : List Event) :
    Fenced made taken (Runs.run (ReceiptBinding.step cfg) s events) := by
  induction events generalizing s with
  | nil => exact fenced
  | cons event rest ih =>
    exact ih (kept.step event) (fenced.moves kept.sound (kept.sound.stepped cfg event).effect kept.registry
      (kept.sound.moves cfg event))

/-- The synchronous part of a cascade fences everything there is. -/
theorem Kept.cascade_fences {s : State} (kept : Kept s) (code : Code) :
    Fenced s.allocated s.leases.leases.length (cascadeInventoryInvalidation s code) where
  known := Nat.le_refl _
  gone b _ reached := by
    have before := (kept.sound.eases_cascade code).reached kept.sound reached
    simp [cascadeInventoryInvalidation,before]
  epoch a member _ _ := Nat.lt_succ_of_le (kept.epochs a member)
  leases a member _ l held := kept.leases a member l held
  ended l early := by
    obtain ⟨lease,there⟩ : ∃ lease, s.leases.leases[l]? = some lease :=
      ⟨_,List.getElem?_eq_some_iff.mpr ⟨early,rfl⟩⟩
    have tracks : WorkspaceLease.Tracks s.leases l lease.authority.workspaceId
        (Valid s.leases lease) := ⟨lease,there,rfl,Iff.rfl⟩
    exact ⟨_,(tracks.invalidate kept.registry).congr (by simp [EndsBinding])⟩

def Cascades (cfg : Config) (s : State) (event : Event) : Prop :=
  ∃ code, (step cfg s event).1 = cascadeInventoryInvalidation s code

/-- For every order of events: a bind is answered OK, and a proof is set, only for the
current binding of its receipt that owns its floor, whose two reads agree, with an
inventory no older than any its socket accepted for the workspace. After a cascade no
binding made before it that a connection still lists has a proof or is ready, and no lease
taken before it, or by an admission of such a binding, is current. -/
theorem binds_and_cascades (cfg : Config) :
    (∀ before event, (∀ c bindingId p, (c,.bindOk bindingId p) ∈ (step cfg (runEvents cfg before) event).2 →
        ∃ b, ((step cfg (runEvents cfg before) event).1.bindings b).socket = c ∧
          ((step cfg (runEvents cfg before) event).1.bindings b).binding.bindingId = bindingId ∧
          Proven cfg before (step cfg (runEvents cfg before) event).1 b p) ∧
      ∀ b p, ((step cfg (runEvents cfg before) event).1.bindings b).proof = some p →
        ((runEvents cfg before).bindings b).proof ≠ some p →
        Proven cfg before (step cfg (runEvents cfg before) event).1 b p) ∧
    ∀ before event after, Cascades cfg (runEvents cfg before) event → let s := runEvents cfg before
      let now := runEvents cfg (before ++ event :: after)
      (∀ b, b < s.allocated → now.reached b = true →
        (now.bindings b).proof = none ∧ (now.bindings b).ready = false) ∧
      (∀ a ∈ now.admissions, a.binding < s.allocated → ∀ l, a.lease = some l →
        currentAt now.leases l = some (.ok false)) ∧
      ∀ l, l < s.leases.leases.length →
        currentAt now.leases l = some (.ok false) := by
  constructor
  · intro before event
    have kept := kept_run cfg before
    have stepped := kept.sound.stepped cfg event
    constructor
    · intro c bindingId p sent
      obtain ⟨b,q,frame,current,proved⟩ := stepped.answered _ sent ⟨c,bindingId,p,rfl⟩
      obtain ⟨rfl,rfl,rfl⟩ := frame
      exact ⟨b,rfl,rfl,proven_of_current current proved⟩
    · intro b p proved fresh
      exact proven_of_current (stepped.effect.proves kept.sound proved fresh) proved
  · rintro before event after ⟨code,cascaded⟩ s now
    have kept := kept_run cfg before
    have keptNow := kept_run cfg (before ++ event :: after)
    have fenced : Fenced s.allocated s.leases.leases.length now := by
      have here : now = Runs.run (step cfg) (step cfg s event).1 after := runEvents_append _ _ _
      rw [here]
      refine Fenced.run (kept.step event) ?_ after
      rw [cascaded]
      exact kept.cascade_fences code
    have ended (l : Nat) (early : l < s.leases.leases.length) :
        currentAt now.leases l = some (.ok false) := by
      obtain ⟨id,tracks⟩ := fenced.ended l early
      exact currentAt_eq keptNow.registry tracks
    refine ⟨fun b old reached => ?_,fun a member old l held => ended l ?_,ended⟩
    · exact ⟨(fenced.gone b old reached).1,(fenced.gone b old reached).2.1⟩
    · exact fenced.leases a member old l held

theorem opaque_one : isOpaqueId [0x31] := by decide
theorem opaque_two : isOpaqueId [0x32] := by decide
theorem one_positive : 1 ≤ 1 := by decide
theorem one_safe : 1 ≤ largest := by decide
theorem two_positive : 1 ≤ 2 := by decide
theorem two_safe : 2 ≤ largest := by decide

def firstId : OpaqueId := ⟨[0x31],opaque_one⟩
def secondId : OpaqueId := ⟨[0x32],opaque_two⟩
def generationOne : Generation := ⟨1,one_positive,one_safe⟩
def generationTwo : Generation := ⟨2,two_positive,two_safe⟩

def inventoryOf (workspaceId : OpaqueId) (generation : Generation) : Read :=
  .present ⟨0,⟨generation,zeroHex,[⟨[0x68],workspaceId,.posix,[0x2f]⟩]⟩⟩

def bindingOf (bindingId workspaceId : OpaqueId) : Binding :=
  ⟨bindingId,generationOne,generationOne,[0x68],bindingId,generationOne,generationOne,generationOne,
    .posix,workspaceId,zeroHex⟩

def plainConfig : Config :=
  ⟨[0x68],⟨8,8,by decide⟩,fun _ _ _ => zeroHex,fun _ => zeroHex⟩

/-- A workspace is bound, probed and leased, and the poll is reading the inventory. -/
def leasedRun : List Event :=
  [.connect,.registered 0 true true,.bind 0 (some (bindingOf firstId firstId)) none,
    .bindRead 0 (.ok (inventoryOf firstId generationOne)),
    .bindRead 0 (.ok (inventoryOf firstId generationOne)),
    .probed 0 none,
    .workload 0 firstId false,
    .admissionRead 0 (.ok (inventoryOf firstId generationOne)) false,
    .poll false]

theorem binds_and_cascades_leased :
    let s := runEvents plainConfig leasedRun
    let now := runEvents plainConfig (leasedRun ++ [.pollRead (.ok (inventoryOf firstId generationTwo))])
    ((s.bindings 0).ready = true ∧ (currentAt s.leases 0).any (Except.toOption · = some true)) ∧
      (now.reached 0 = true ∧ (now.bindings 0).proof = none ∧ (now.bindings 0).ready = false) ∧
      currentAt now.leases 0 = some (.ok false) := by
  intro s now
  have cascades : Cascades plainConfig s (.pollRead (.ok (inventoryOf firstId generationTwo))) :=
    ⟨.inventoryStale,rfl⟩
  have left := (binds_and_cascades plainConfig).2 leasedRun
    (.pollRead (.ok (inventoryOf firstId generationTwo))) [] cascades
  have reached : now.reached 0 = true := by decide
  refine ⟨by decide,⟨reached,left.1 0 (by decide) reached⟩,left.2.2 0 (by decide)⟩

/-- The inventory is an older one again when a second workspace binds: the floor of the
first says nothing about the second. -/
def restoredRun : List Event :=
  [.connect,.registered 0 true true,.bind 0 (some (bindingOf firstId firstId)) none,
    .bindRead 0 (.ok (inventoryOf firstId generationTwo)),
    .bindRead 0 (.ok (inventoryOf firstId generationTwo)),
    .bind 0 (some (bindingOf secondId secondId)) none,
    .bindRead 1 (.ok (inventoryOf secondId generationOne))]

theorem bindOk_below_an_accepted_floor :
    let s := runEvents plainConfig restoredRun
    (((s.floor 0 firstId).bind Floor.inventory).map fun known => known.1.value) = some 2 ∧
      (0,.bindOk secondId ⟨generationOne,zeroHex,zeroHex⟩) ∈
        (step plainConfig s (.bindRead 1 (.ok (inventoryOf secondId generationOne)))).2 := by
  decide

end GjcRemote.ReceiptBinding
