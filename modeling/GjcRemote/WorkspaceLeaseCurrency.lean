import GjcRemote.WorkspaceLeaseExclusion

/-! Currency of a lease over whole runs: true exactly while nothing has ended it, and
false for good afterwards. -/
namespace GjcRemote.WorkspaceLease

open Utf16 List WorkspaceLease Runs

theorem requireAuthority_named (accepted : requireAuthority candidate = .ok a) :
    candidate .workspaceId = .string a.workspaceId := by
  unfold requireAuthority at accepted
  split at accepted
  · rename_i id named
    split at accepted
    · cases accepted
      exact named
    · cases accepted
  · cases accepted

/-- A call that ends the bindings a lease of this workspace rests on: it retires the
workspace's binding, replaces its authority by a different one, or invalidates all. -/
def EndsBinding (s : State) (workspaceId : Units) (call : Call) : Prop :=
  match call with
  | .retireBinding candidate =>
    candidate .workspaceId = .string workspaceId ∧ (step s call).2 = .bool true
  | .adoptBinding candidate =>
    (step s call).2 = .bool true ∧
      ∃ previous next, s.registry.authorities.get workspaceId = some previous ∧
        requireAuthority candidate = .ok next ∧ next.workspaceId = workspaceId ∧
        sameAuthority previous.value next.value = false
  | .invalidateAll => True
  | .acquireActivity _ _ | .release _ => False

/-- `leases[position].isCurrent()`, when there is such a lease. -/
def currentAt (s : State) (position : Nat) : Option (Except LeaseError Bool) :=
  s.leases[position]?.map (isCurrent s.registry)

def Valid (s : State) (lease : Lease) : Prop :=
  lease.released = false ∧ (s.registry.heap lease.entry).invalidated = false

instance (s : State) (lease : Lease) : Decidable (Valid s lease) :=
  inferInstanceAs (Decidable (_ ∧ _))

variable {s : State}

/-- The lookups of `isCurrent` never fail, and add nothing to the two flags. -/
theorem Invariant.isCurrent (inv : Invariant s) (member : lease ∈ s.leases) :
    isCurrent s.registry lease = .ok (decide (Valid s lease)) := by
  unfold WorkspaceLease.isCurrent
  cases released : lease.released with
  | true => simp [Valid,released]
  | false =>
    cases stale : (s.registry.heap lease.entry).invalidated with
    | true => simp [Valid,stale]
    | false =>
      obtain ⟨a,known,same⟩ := inv.adopted lease member released stale
      simp [inv.owned lease member released,known,same,Valid,released,stale]

structure Tracks (s : State) (position : Nat) (workspaceId : Units) (alive : Prop) : Prop where
  found : ∃ lease, s.leases[position]? = some lease ∧
    lease.authority.workspaceId = workspaceId ∧ (Valid s lease ↔ alive)

variable {position : Nat} {id : Units} {alive : Prop}

theorem Tracks.congr (tracks : Tracks s position id alive) (same : alive ↔ alive') :
    Tracks s position id alive' := by
  obtain ⟨lease,at',named,valid⟩ := tracks.found
  exact ⟨lease,at',named,valid.trans same⟩

/-- New authorities end the lease exactly when they come with its entry. -/
theorem Tracks.reauthorized (inv : Invariant s) (tracks : Tracks s position id alive)
    (authorities : OrderedMap Units Authority) (hit : Nat → Bool)
    (hits : ∀ lease ∈ s.leases, Valid s lease → lease.authority.workspaceId = id →
      s.registry.activities.get id = some lease.entry → (hit lease.entry ↔ ends)) :
    Tracks {s with registry := s.registry.reauthorized authorities hit} position id
      (alive ∧ ¬ ends) := by
  obtain ⟨lease,at',named,valid⟩ := tracks.found
  refine ⟨lease,at',named,?_⟩
  have member := mem_of_getElem? at'
  have flag : ((s.registry.reauthorized authorities hit).heap lease.entry).invalidated = _ :=
    fenced_invalidated s.registry hit lease.entry
  rw [← valid]
  unfold Valid
  rw [flag,Bool.or_eq_false_iff]
  constructor
  · rintro ⟨live,missed,fresh⟩
    have active := named ▸ inv.owned lease member live
    refine ⟨⟨live,fresh⟩,fun ended => ?_⟩
    rw [(hits lease member ⟨live,fresh⟩ named active).mpr ended] at missed
    cases missed
  · rintro ⟨⟨live,fresh⟩,kept⟩
    have active := named ▸ inv.owned lease member live
    have missed := mt (hits lease member ⟨live,fresh⟩ named active).mp kept
    exact ⟨live,by simpa using missed,fresh⟩

theorem answerBool_true :
    answerBool result = .bool true ↔ result = .ok true := by
  cases result <;> simp [answerBool]

theorem Tracks.adopt (inv : Invariant s) (tracks : Tracks s position id alive) (candidate : Candidate) :
    Tracks (step s (.adoptBinding candidate)).1 position id
      (alive ∧ ¬ EndsBinding s id (.adoptBinding candidate)) := by
  change Tracks {s with registry := (adoptBinding s.registry candidate).1} position id _
  have view : EndsBinding s id (.adoptBinding candidate) ↔
      answerBool (adoptBinding s.registry candidate).2 = .bool true ∧
        ∃ previous next, s.registry.authorities.get id = some previous ∧
          requireAuthority candidate = .ok next ∧ next.workspaceId = id ∧
          sameAuthority previous.value next.value = false := Iff.rfl
  rw [view,answerBool_true]
  rcases adoptBinding_cases s.registry candidate inv.held with
    ⟨same,equal⟩ | ⟨a,accepted,unknown,answer,result⟩ | ⟨a,p,accepted,known,differs,answer,result⟩
  · rw [same]
    refine tracks.congr (iff_self_and.mpr fun _ => ?_)
    rintro ⟨answer,previous,next,known,accepted,rfl,differs⟩
    rw [equal next previous accepted known answer] at differs
    cases differs
  · rw [result]
    refine tracks.reauthorized inv _ _ fun lease _ _ _ _ => ?_
    simp only [Bool.false_eq_true,false_iff]
    rintro ⟨_,previous,next,known,again,rfl,_⟩
    rw [accepted] at again
    cases again
    rw [unknown] at known
    cases known
  · rw [result]
    refine tracks.reauthorized inv _ _ fun lease member valid named active => ?_
    rw [decide_eq_true_eq]
    constructor
    · intro hit
      have here := inv.separate _ _ _ hit active
      exact ⟨answer,p,a,here ▸ known,accepted,here,differs⟩
    · rintro ⟨_,previous,next,_,again,rfl,_⟩
      rw [accepted] at again
      cases again
      exact active

theorem Tracks.retire (inv : Invariant s) (tracks : Tracks s position id alive) (candidate : Candidate) :
    Tracks (step s (.retireBinding candidate)).1 position id
      (alive ∧ ¬ EndsBinding s id (.retireBinding candidate)) := by
  change Tracks {s with registry := (retireBinding s.registry candidate).1} position id _
  have view : EndsBinding s id (.retireBinding candidate) ↔
      candidate .workspaceId = .string id ∧
        answerBool (retireBinding s.registry candidate).2 = .bool true := Iff.rfl
  rw [view,answerBool_true]
  rcases retireBinding_cases s.registry candidate inv.held with
    ⟨same,refused⟩ | ⟨a,_,accepted,_,_,answer,result⟩
  · rw [same]
    exact tracks.congr (iff_self_and.mpr fun _ ends => refused ends.2)
  · rw [result]
    refine tracks.reauthorized inv _ _ fun lease member valid named active => ?_
    rw [decide_eq_true_eq,requireAuthority_named accepted,Js.string.injEq]
    constructor
    · intro hit
      exact ⟨inv.separate _ _ _ hit active,answer⟩
    · rintro ⟨rfl,_⟩
      exact active

theorem Tracks.invalidate (inv : Invariant s) (tracks : Tracks s position id alive) :
    Tracks (step s .invalidateAll).1 position id (alive ∧ ¬ EndsBinding s id .invalidateAll) := by
  change Tracks {s with registry := (invalidateAll s.registry).1} position id _
  rw [invalidateAll_eq inv.held]
  refine tracks.reauthorized inv _ _ fun lease _ _ _ active => ?_
  simp only [EndsBinding,iff_true,any_eq_true,decide_eq_true_eq]
  exact ⟨id,OrderedMap.mem_keys.mpr ⟨_,active⟩,active⟩

/-- An acquisition leaves every earlier lease as it was. -/
theorem Tracks.acquire (inv : Invariant s) (tracks : Tracks s position id alive) (candidate : Candidate)
    (exclusive : Bool) :
    Tracks (step s (.acquireActivity candidate exclusive)).1 position id alive := by
  obtain ⟨lease,at',named,valid⟩ := tracks.found
  have member := mem_of_getElem? at'
  have bound : position < s.leases.length := (List.getElem?_eq_some_iff.mp at').1
  rcases acquireActivity_cases s.registry candidate exclusive inv.held with
    ⟨error,refused⟩ | ⟨r,new,done,_,current,_,_,_,_,how⟩
  · simp only [step,refused]
    exact ⟨lease,at',named,valid⟩
  · simp only [step,done]
    refine ⟨lease,by rw [getElem?_append_left bound,at'],named,?_⟩
    rw [← valid]
    refine and_congr_right fun live => ?_
    have active := inv.owned lease member live
    rcases how with ⟨_,_,_,_,rfl⟩ | ⟨_,_,_,entry,_,_,_,rfl⟩
    · by_cases here : lease.entry = new.entry <;> simp [Registry.modify,here]
    · have := inv.allocated _ _ active
      have older : lease.entry ≠ s.registry.allocated := by omega
      simp [Registry.inserted,older]

theorem Tracks.release (tracks : Tracks s position id alive) (other : Nat) :
    Tracks (step s (.release other)).1 position id (alive ∧ other ≠ position) := by
  change Tracks (WorkspaceLease.release s other) position id _
  obtain ⟨lease,at',named,valid⟩ := tracks.found
  unfold WorkspaceLease.release
  cases at'' : s.leases[other]? with
  | none =>
    refine ⟨lease,at',named,valid.trans (iff_self_and.mpr fun _ => ?_)⟩
    rintro rfl
    rw [at'] at at''
    cases at''
  | some released =>
    simp only []
    by_cases done : released.released
    · rw [if_pos done]
      refine ⟨lease,at',named,?_⟩
      rw [← valid]
      refine iff_self_and.mpr fun still => ?_
      rintro rfl
      rw [at'] at at''
      cases at''
      exact absurd done (by simp [still.1])
    rw [if_neg done]
    obtain ⟨bound,_⟩ := List.getElem?_eq_some_iff.mp at'
    by_cases here : other = position
    · subst here
      refine ⟨{released with released := true},by simp [bound],?_,by simp [Valid]⟩
      rw [at'] at at''
      cases at''
      exact named
    · refine ⟨lease,by rw [getElem?_set_ne here,at'],named,?_⟩
      rw [← valid]
      have flag : ((releaseEntry s.registry released).heap lease.entry).invalidated =
          (s.registry.heap lease.entry).invalidated := by
        simp only [releaseEntry]
        split <;> by_cases eq : lease.entry = released.entry <;> simp [Registry.modify,eq]
      simp [Valid,flag,here]

theorem Tracks.step
    (inv : Invariant s) (tracks : Tracks s position id alive) (call : Call) :
    Tracks (step s call).1 position id
      (alive ∧ call ≠ .release position ∧ ¬ EndsBinding s id call) := by
  cases call with
  | adoptBinding candidate => exact (tracks.adopt inv candidate).congr (by simp)
  | retireBinding candidate => exact (tracks.retire inv candidate).congr (by simp)
  | invalidateAll => exact (tracks.invalidate inv).congr (by simp)
  | acquireActivity candidate exclusive =>
    exact (tracks.acquire inv candidate exclusive).congr (by simp [EndsBinding])
  | release other => exact (tracks.release other).congr (by simp [EndsBinding])

theorem Tracks.run (inv : Invariant s) (tracks : Tracks s position id alive) (calls : List Call) :
    Tracks (run WorkspaceLease.step s calls) position id (alive ∧ .release position ∉ calls ∧
        ∀ visit ∈ visits WorkspaceLease.step s calls, ¬ EndsBinding visit.1 id visit.2) := by
  induction calls generalizing s alive with
  | nil => exact tracks.congr (by simp [visits])
  | cons call rest ih =>
    refine (ih (inv.step call) (tracks.step inv call)).congr ?_
    simp only [visits,mem_cons,not_or,forall_eq_or_imp]
    grind

/-- A fresh lease is valid. -/
theorem acquired_tracks (inv : Invariant s)
    (acquired : (step s (.acquireActivity candidate exclusive)).2 = .lease position) :
    ∃ id, candidate .workspaceId = .string id ∧
      Tracks (step s (.acquireActivity candidate exclusive)).1 position id True := by
  rcases acquireActivity_cases s.registry candidate exclusive inv.held with
    ⟨error,refused⟩ | ⟨r,lease,done,accepted,current,_,_,live,_,how⟩
  · simp [step,refused] at acquired
  · simp only [step,done] at acquired ⊢
    cases acquired
    refine ⟨_,requireAuthority_named accepted,lease,by simp,rfl,?_⟩
    refine iff_true_intro ⟨live,?_⟩
    rcases how with ⟨_,_,fresh,_,rfl⟩ | ⟨_,_,at',entry,_,_,fresh,rfl⟩
    · simpa [Registry.modify] using fresh
    · simpa [Registry.inserted,at'] using fresh

theorem currentAt_eq (inv : Invariant s) (tracks : Tracks s position id alive) [Decidable alive] :
    currentAt s position = some (.ok (decide alive)) := by
  obtain ⟨lease,at',_,valid⟩ := tracks.found
  rw [currentAt,at',Option.map_some,inv.isCurrent (mem_of_getElem? at')]
  simp [valid]

/-- For a lease acquired in any run and any calls after it: `isCurrent` answers, and
answers true exactly when the lease was not released and no call ended its bindings;
once false it stays false. -/
theorem lease_currency (bounds : Bounds) (before after : List Call) (candidate : Candidate)
    (exclusive : Bool) (position : Nat)
    (acquired : (step (runCalls bounds before) (.acquireActivity candidate exclusive)).2 = .lease position) :
    let taken := (step (runCalls bounds before) (.acquireActivity candidate exclusive)).1
    let now := run step taken after
    ∃ id, candidate .workspaceId = .string id ∧
      (currentAt now position = some (.ok true) ∨ currentAt now position = some (.ok false)) ∧
      (currentAt now position = some (.ok true) ↔ .release position ∉ after ∧
          ∀ visit ∈ visits step taken after, ¬ EndsBinding visit.1 id visit.2) ∧
      (currentAt now position = some (.ok false) → ∀ later,
        currentAt (run step now later) position = some (.ok false)) := by
  classical
  intro taken now
  have inv := invariant_run bounds before
  obtain ⟨id,named,fresh⟩ := acquired_tracks inv acquired
  have invTaken : Invariant taken := inv.step _
  have invNow : Invariant now := run_invariant (fun _ call inv => inv.step call) invTaken after
  have tracks := fresh.run invTaken after
  have here := currentAt_eq invNow tracks
  refine ⟨id,named,?_,?_,?_⟩
  · rw [here]
    by_cases alive : True ∧ .release position ∉ after ∧
        ∀ visit ∈ visits step taken after, ¬ EndsBinding visit.1 id visit.2
    · exact .inl (by rw [decide_eq_true alive])
    · exact .inr (by rw [decide_eq_false alive])
  · rw [here]
    simp
  · intro gone later
    rw [here,Option.some.injEq,Except.ok.injEq,decide_eq_false_iff_not] at gone
    have invLater : Invariant (run step now later) :=
      run_invariant (fun _ call inv => inv.step call) invNow later
    rw [currentAt_eq invLater (tracks.run invNow later),decide_eq_false fun alive => gone alive.1]

/-- A binding of the older authority version, without receipt identity. -/
def sampleBinding : Candidate
  | .mappingGeneration | .workspaceGeneration | .inventoryGeneration => .number (.int 1)
  | .hostId | .mappingId | .mappingVersion | .workspaceId | .sourcePlatform | .routeFingerprint
  | .authorityFingerprint | .bindingFingerprint => .string [0x61]
  | _ => .undefined

/-- Retiring a binding and adopting the identical one again. -/
theorem lease_currency_readopted :
    let taken := (step (runCalls ⟨64,8,by decide⟩ [.adoptBinding sampleBinding])
      (.acquireActivity sampleBinding true)).1
    let now := run step taken [.retireBinding sampleBinding,.adoptBinding sampleBinding]
    (currentAt now 0 = some (.ok true) ∨ currentAt now 0 = some (.ok false)) ∧
      (currentAt now 0 = some (.ok false) → ∀ later,
        currentAt (run step now later) 0 = some (.ok false)) := by
  obtain ⟨_,_,total,_,forGood⟩ := lease_currency ⟨64,8,by decide⟩ [.adoptBinding sampleBinding]
    [.retireBinding sampleBinding,.adoptBinding sampleBinding] sampleBinding true 0 rfl
  exact ⟨total,forGood⟩

end GjcRemote.WorkspaceLease
