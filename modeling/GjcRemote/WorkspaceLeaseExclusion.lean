import GjcRemote.WorkspaceLeaseInvariant
import Mathlib.Data.List.Dedup

/-! Mutual exclusion over whole runs: the activity map and the unreleased leases stay
in step under every order of the five operations. -/
namespace GjcRemote.WorkspaceLease

open Utf16 List OrderedMap Registry

structure Invariant (s : State) : Prop where
  counted : ∀ id ref, s.registry.activities.get id = some ref →
    (s.registry.heap ref).holders = holderCount s id ∧ 1 ≤ holderCount s id
  allocated : ∀ id ref, s.registry.activities.get id = some ref → ref < s.registry.allocated
  separate : ∀ id id' ref, s.registry.activities.get id = some ref →
    s.registry.activities.get id' = some ref → id = id'
  owned : ∀ l ∈ s.leases, l.released = false →
    s.registry.activities.get l.authority.workspaceId = some l.entry
  shared : ∀ id ref, s.registry.activities.get id = some ref →
    (s.registry.heap ref).exclusive = true → holderCount s id = 1
  marked : ∀ l ∈ s.leases, l.released = false → l.exclusive = true →
    (s.registry.heap l.entry).exclusive = true
  bounded : s.registry.activities.size ≤ s.registry.bounds.maxActiveWorkspaces
  adopted : ∀ l ∈ s.leases, l.released = false → (s.registry.heap l.entry).invalidated = false →
    ∃ a, s.registry.authorities.get l.authority.workspaceId = some a ∧
      sameAuthority a.value l.authority.value = true

variable {s : State}

theorem Invariant.held (inv : Invariant s) : s.registry.Held := by
  intro id ref found
  obtain ⟨count,positive⟩ := inv.counted id ref found
  omega

variable (bounds : Bounds)

theorem invariant_new : Invariant (State.new bounds) where
  counted _ _ found := by simp [State.new,new] at found
  allocated _ _ found := by simp [State.new,new] at found
  separate _ _ _ found := by simp [State.new,new] at found
  owned _ member := by simp [State.new] at member
  shared _ _ found := by simp [State.new,new] at found
  marked _ member := by simp [State.new] at member
  bounded := Nat.zero_le _
  adopted _ member := by simp [State.new] at member

/-- Authorities may change under a lease, as long as its entry is invalidated with them. -/
theorem Invariant.reauthorized (inv : Invariant s) (authorities : OrderedMap Units Authority) (hit : Nat → Bool)
    (covered : ∀ id ref a, s.registry.activities.get id = some ref → hit ref = false →
      s.registry.authorities.get id = some a → authorities.get id = some a) :
    Invariant {s with registry := s.registry.reauthorized authorities hit} where
  counted id ref found := by
    rw [show ((s.registry.reauthorized authorities hit).heap ref).holders = _ from
      fenced_holders s.registry hit ref]
    exact inv.counted id ref found
  allocated := inv.allocated
  separate := inv.separate
  owned := inv.owned
  shared id ref found taken := by
    rw [show ((s.registry.reauthorized authorities hit).heap ref).exclusive = _ from
      fenced_exclusive s.registry hit ref] at taken
    exact inv.shared id ref found taken
  marked l member live taken := by
    rw [show ((s.registry.reauthorized authorities hit).heap l.entry).exclusive = _ from
      fenced_exclusive s.registry hit l.entry]
    exact inv.marked l member live taken
  bounded := inv.bounded
  adopted l member live valid := by
    rw [show ((s.registry.reauthorized authorities hit).heap l.entry).invalidated = _ from
      fenced_invalidated s.registry hit l.entry,Bool.or_eq_false_iff] at valid
    obtain ⟨a,known,same⟩ := inv.adopted l member live valid.2
    exact ⟨a,covered _ _ a (inv.owned l member live) valid.1 known,same⟩

theorem Invariant.adopt (inv : Invariant s) (candidate : Candidate) :
    Invariant (step s (.adoptBinding candidate)).1 := by
  change Invariant {s with registry := (adoptBinding s.registry candidate).1}
  rcases adoptBinding_cases s.registry candidate inv.held with
    ⟨same,_⟩ | ⟨a,_,unknown,_,result⟩ | ⟨a,p,_,known,_,_,result⟩
  · rw [same]
    exact inv
  · rw [result]
    refine inv.reauthorized _ _ fun id ref b _ _ found => ?_
    rw [get_set_ne _ _ (by rintro rfl; simp [unknown] at found),found]
  · rw [result]
    refine inv.reauthorized _ _ fun id ref b active missed found => ?_
    rw [get_set_ne _ _ (by rintro rfl; simp [active] at missed),found]

theorem Invariant.retire (inv : Invariant s) (candidate : Candidate) :
    Invariant (step s (.retireBinding candidate)).1 := by
  change Invariant {s with registry := (retireBinding s.registry candidate).1}
  rcases retireBinding_cases s.registry candidate inv.held with ⟨same,_⟩ | ⟨a,_,_,_,_,_,result⟩
  · rw [same]
    exact inv
  · rw [result]
    refine inv.reauthorized _ _ fun id ref b active missed found => ?_
    rw [get_delete_ne _ (by rintro rfl; simp [active] at missed),found]

theorem Invariant.invalidate (inv : Invariant s) :
    Invariant (step s .invalidateAll).1 := by
  change Invariant {s with registry := (invalidateAll s.registry).1}
  rw [invalidateAll_eq inv.held]
  refine inv.reauthorized _ _ fun id ref b active missed _ => ?_
  have reached : (s.registry.activities.keys.any fun id =>
      decide (s.registry.activities.get id = some ref)) :=
    any_eq_true.mpr ⟨id,OrderedMap.mem_keys.mpr ⟨ref,active⟩,by simpa using active⟩
  rw [reached] at missed
  cases missed

theorem holderCount_append (s : State) (r : Registry) (lease : Lease) (live : lease.released = false)
    (id : Units) : holderCount ⟨r,s.leases ++ [lease]⟩ id =
      holderCount s id + if lease.authority.workspaceId = id then 1 else 0 := by
  simp [holderCount,countP_append,holds,live]

/-- Another lease on an entry that is already shared. -/
theorem Invariant.join (inv : Invariant s)
    (known : s.registry.authorities.get lease.authority.workspaceId = some current)
    (same : sameAuthority current.value lease.authority.value)
    (live : lease.released = false) (sharedLease : lease.exclusive = false)
    (found : s.registry.activities.get lease.authority.workspaceId = some lease.entry)
    (free : (s.registry.heap lease.entry).exclusive = false) :
    Invariant ⟨s.registry.modify lease.entry fun entry => {entry with holders := entry.holders + 1},
      s.leases ++ [lease]⟩ where
  counted id ref active := by
    obtain ⟨count,positive⟩ := inv.counted id ref active
    rw [holderCount_append _ _ _ live]
    by_cases here : ref = lease.entry
    · subst here
      have eq := inv.separate _ _ _ active found
      subst eq
      simp only [Registry.modify,if_true,count]
      omega
    · have ne : lease.authority.workspaceId ≠ id := by
        rintro rfl
        exact here (Option.some.inj (active.symm.trans found))
      simp only [Registry.modify,here,if_false,ne]
      exact ⟨count,positive⟩
  allocated := inv.allocated
  separate := inv.separate
  owned l member alive := by
    rcases mem_append.mp member with old | new
    · exact inv.owned l old alive
    · obtain rfl := mem_singleton.mp new
      exact found
  shared id ref active taken := by
    by_cases here : ref = lease.entry
    · subst here
      simp [Registry.modify,free] at taken
    · have ne : lease.authority.workspaceId ≠ id := by
        rintro rfl
        exact here (Option.some.inj (active.symm.trans found))
      simp only [Registry.modify,here,if_false] at taken
      rw [holderCount_append _ _ _ live,if_neg ne]
      exact inv.shared id ref active taken
  marked l member alive taken := by
    rcases mem_append.mp member with old | new
    · have marked := inv.marked l old alive taken
      by_cases here : l.entry = lease.entry
      · rw [here,free] at marked
        cases marked
      · simpa [Registry.modify,here] using marked
    · obtain rfl := mem_singleton.mp new
      simp [sharedLease] at taken
  bounded := inv.bounded
  adopted l member alive valid := by
    rcases mem_append.mp member with old | new
    · refine inv.adopted l old alive ?_
      by_cases here : l.entry = lease.entry <;> simpa [Registry.modify,here] using valid
    · obtain rfl := mem_singleton.mp new
      exact ⟨current,known,same⟩

/-- The first lease of a workspace, on an entry of its own. -/
theorem Invariant.create (inv : Invariant s)
    (known : s.registry.authorities.get lease.authority.workspaceId = some current)
    (same : sameAuthority current.value lease.authority.value) (live : lease.released = false)
    (absent : s.registry.activities.get lease.authority.workspaceId = none)
    (room : s.registry.activities.size < s.registry.bounds.maxActiveWorkspaces)
    (fresh : lease.entry = s.registry.allocated) (one : entry.holders = 1)
    (mode : entry.exclusive = lease.exclusive) :
    Invariant ⟨s.registry.inserted lease.authority.workspaceId entry,s.leases ++ [lease]⟩ := by
  have noLease : holderCount s lease.authority.workspaceId = 0 := by
    rw [holderCount,countP_eq_zero]
    intro l member live'
    obtain ⟨alive,eq⟩ := holds_iff.mp live'
    have active := inv.owned l member alive
    rw [eq,absent] at active
    cases active
  have elsewhere : ∀ id ref, id ≠ lease.authority.workspaceId →
      (s.registry.activities.set lease.authority.workspaceId s.registry.allocated).get id = some ref →
      s.registry.activities.get id = some ref ∧ ref ≠ s.registry.allocated := by
    intro id ref ne found
    rw [get_set_ne _ _ ne] at found
    have := inv.allocated id ref found
    exact ⟨found,by omega⟩
  have older : ∀ l ∈ s.leases, l.released = false →
      l.authority.workspaceId ≠ lease.authority.workspaceId ∧ l.entry ≠ s.registry.allocated := by
    intro l member alive
    have active := inv.owned l member alive
    have := inv.allocated _ _ active
    refine ⟨?_,by omega⟩
    intro eq
    rw [eq,absent] at active
    cases active
  constructor
  case counted =>
    intro id ref active
    rw [holderCount_append _ _ _ live]
    by_cases here : id = lease.authority.workspaceId
    · subst here
      simp only [inserted,get_set_self,Option.some.injEq] at active
      subst active
      simp [inserted,one,noLease]
    · obtain ⟨found,other⟩ := elsewhere id ref here active
      simp only [inserted,other,if_false,Ne.symm here]
      exact inv.counted id ref found
  case allocated =>
    intro id ref active
    change ref < s.registry.allocated + 1
    by_cases here : id = lease.authority.workspaceId
    · subst here
      simp only [inserted,get_set_self,Option.some.injEq] at active
      omega
    · have := inv.allocated id ref (elsewhere id ref here active).1
      omega
  case separate =>
    intro id id' ref active active'
    by_cases here : id = lease.authority.workspaceId <;>
      by_cases here' : id' = lease.authority.workspaceId
    · rw [here,here']
    · subst here
      simp only [inserted,get_set_self,Option.some.injEq] at active
      exact absurd active.symm (elsewhere id' ref here' active').2
    · subst here'
      simp only [inserted,get_set_self,Option.some.injEq] at active'
      exact absurd active'.symm (elsewhere id ref here active).2
    · exact inv.separate _ _ _ (elsewhere id ref here active).1 (elsewhere id' ref here' active').1
  case owned =>
    intro l member alive
    rcases mem_append.mp member with old | new
    · change (s.registry.activities.set _ _).get _ = _
      rw [get_set_ne _ _ (older l old alive).1]
      exact inv.owned l old alive
    · obtain rfl := mem_singleton.mp new
      simp [inserted,fresh]
  case shared =>
    intro id ref active taken
    rw [holderCount_append _ _ _ live]
    by_cases here : id = lease.authority.workspaceId
    · subst here
      simp [noLease]
    · obtain ⟨found,other⟩ := elsewhere id ref here active
      simp only [inserted,other,if_false] at taken
      rw [if_neg (Ne.symm here)]
      exact inv.shared id ref found taken
  case marked =>
    intro l member alive taken
    rcases mem_append.mp member with old | new
    · simp only [inserted,(older l old alive).2,if_false]
      exact inv.marked l old alive taken
    · obtain rfl := mem_singleton.mp new
      simp [inserted,fresh,mode,taken]
  case bounded =>
    change (s.registry.activities.set _ _).size ≤ s.registry.bounds.maxActiveWorkspaces
    rw [size_set_new _ _ absent]
    exact room
  case adopted =>
    intro l member alive valid
    rcases mem_append.mp member with old | new
    · simp only [inserted,(older l old alive).2,if_false] at valid
      exact inv.adopted l old alive valid
    · obtain rfl := mem_singleton.mp new
      exact ⟨current,known,same⟩

theorem Invariant.acquire (inv : Invariant s) (candidate : Candidate) (exclusive : Bool) :
    Invariant (step s (.acquireActivity candidate exclusive)).1 := by
  rcases acquireActivity_cases s.registry candidate exclusive inv.held with
    ⟨error,refused⟩ | ⟨r,lease,done,_,current,known,same,live,mode,how⟩
  · simp only [step,refused]
    exact inv
  · simp only [step,done]
    rcases how with ⟨found,shared,_,free,rfl⟩ | ⟨absent,room,fresh,entry,one,taken,_,rfl⟩
    · exact inv.join known same live (mode.trans shared) found free
    · exact inv.create known same live absent room fresh one (taken.trans mode.symm)

section Release

variable {position : Nat} {lease l : Lease} {id : Units} {ref : Nat}

theorem holderCount_release (at' : s.leases[position]? = some lease) (live : lease.released = false)
    (r : Registry) (id : Units) : holderCount ⟨r,s.leases.set position {lease with released := true}⟩ id =
      holderCount s id - if lease.authority.workspaceId = id then 1 else 0 := by
  obtain ⟨bound,here⟩ := List.getElem?_eq_some_iff.mp at'
  simp [holderCount,countP_set,bound,here,holds,live]

theorem mem_release (inside : l ∈ s.leases.set position {lease with released := true})
    (alive : l.released = false) : l ∈ s.leases := by
  rcases mem_or_eq_of_mem_set inside with old | rfl
  · exact old
  · cases alive

/-- A lease of the workspace that is still held was counted with the released one. -/
theorem two_le_holderCount (at' : s.leases[position]? = some lease) (live : lease.released = false)
    (inside : l ∈ s.leases.set position {lease with released := true}) (alive : l.released = false)
    (same : l.authority.workspaceId = lease.authority.workspaceId) :
    2 ≤ holderCount s lease.authority.workspaceId := by
  have counts := holderCount_release at' live s.registry lease.authority.workspaceId
  have remains : 1 ≤ holderCount ⟨s.registry,s.leases.set position {lease with released := true}⟩
      lease.authority.workspaceId :=
    one_le_countP_iff.mpr ⟨l,inside,holds_iff.mpr ⟨alive,same⟩⟩
  rw [counts,if_pos rfl] at remains
  omega

theorem Invariant.entry_ne (inv : Invariant s)
    (active : s.registry.activities.get lease.authority.workspaceId = some lease.entry)
    (ne : id ≠ lease.authority.workspaceId) (found : s.registry.activities.get id = some ref) : ref ≠ lease.entry := by
  rintro rfl
  exact ne (inv.separate _ _ _ found active)

/-- The last holder goes, and the entry leaves the map. -/
theorem Invariant.release_last (inv : Invariant s) (at' : s.leases[position]? = some lease)
    (live : lease.released = false) (last : holderCount s lease.authority.workspaceId = 1) :
    Invariant ⟨{s.registry.modify lease.entry fun a => {a with holders := a.holders - 1} with
      activities := s.registry.activities.delete lease.authority.workspaceId},
      s.leases.set position {lease with released := true}⟩ := by
  have active := inv.owned lease (mem_of_getElem? at') live
  have kept : ∀ id ref,(s.registry.activities.delete lease.authority.workspaceId).get id = some ref →
      id ≠ lease.authority.workspaceId ∧ s.registry.activities.get id = some ref := by
    intro id ref found
    by_cases eq : id = lease.authority.workspaceId
    · simp [eq] at found
    · rw [get_delete_ne _ eq] at found
      exact ⟨eq,found⟩
  have elsewhere : ∀ l ∈ s.leases.set position {lease with released := true},
      l.released = false → l.authority.workspaceId ≠ lease.authority.workspaceId := by
    intro l inside alive same
    have := two_le_holderCount at' live inside alive same
    omega
  have untouched : ∀ id ref,(s.registry.activities.delete lease.authority.workspaceId).get id = some ref →
      (s.registry.modify lease.entry fun a => {a with holders := a.holders - 1}).heap ref = s.registry.heap ref := by
    intro id ref found
    obtain ⟨ne,found⟩ := kept id ref found
    exact if_neg (inv.entry_ne active ne found)
  have untaken : ∀ l ∈ s.leases.set position {lease with released := true}, l.released = false →
      (s.registry.modify lease.entry fun a => {a with holders := a.holders - 1}).heap l.entry =
        s.registry.heap l.entry := fun l inside alive =>
    if_neg (inv.entry_ne active (elsewhere l inside alive) (inv.owned l (mem_release inside alive) alive))
  constructor
  case counted =>
    intro id ref found
    obtain ⟨ne,found'⟩ := kept id ref found
    rw [holderCount_release at' live,if_neg (Ne.symm ne),untouched id ref found]
    exact inv.counted id ref found'
  case allocated => exact fun id ref found => inv.allocated id ref (kept id ref found).2
  case separate =>
    exact fun id id' ref found found' =>
      inv.separate _ _ _ (kept id ref found).2 (kept id' ref found').2
  case owned =>
    intro l inside alive
    rw [get_delete_ne _ (elsewhere l inside alive)]
    exact inv.owned l (mem_release inside alive) alive
  case shared =>
    intro id ref found taken
    obtain ⟨ne,found'⟩ := kept id ref found
    rw [untouched id ref found] at taken
    rw [holderCount_release at' live,if_neg (Ne.symm ne)]
    exact inv.shared id ref found' taken
  case marked =>
    intro l inside alive taken
    rw [untaken l inside alive]
    exact inv.marked l (mem_release inside alive) alive taken
  case bounded =>
    exact Nat.le_trans (size_delete_le _ _) inv.bounded
  case adopted =>
    intro l inside alive valid
    rw [untaken l inside alive] at valid
    exact inv.adopted l (mem_release inside alive) alive valid

/-- Other holders remain, so no lease of this workspace is exclusive. -/
theorem Invariant.release_shared (inv : Invariant s) (at' : s.leases[position]? = some lease)
    (live : lease.released = false) (more : holderCount s lease.authority.workspaceId ≠ 1) :
    Invariant ⟨s.registry.modify lease.entry fun a => {a with holders := a.holders - 1},
      s.leases.set position {lease with released := true}⟩ := by
  have active := inv.owned lease (mem_of_getElem? at') live
  obtain ⟨count,positive⟩ := inv.counted _ _ active
  have free : (s.registry.heap lease.entry).exclusive = false := by
    cases taken : (s.registry.heap lease.entry).exclusive with
    | false => rfl
    | true => exact absurd (inv.shared _ _ active taken) more
  constructor
  case counted =>
    intro id ref found
    rw [holderCount_release at' live]
    by_cases eq : id = lease.authority.workspaceId
    · subst eq
      obtain rfl := Option.some.inj (active.symm.trans found)
      simp only [Registry.modify,if_true,count]
      omega
    · rw [if_neg (Ne.symm eq)]
      simp only [Registry.modify,inv.entry_ne active eq found,if_false]
      exact inv.counted id ref found
  case allocated => exact inv.allocated
  case separate => exact inv.separate
  case owned => exact fun l inside alive => inv.owned l (mem_release inside alive) alive
  case shared =>
    intro id ref found taken
    by_cases eq : ref = lease.entry
    · simp [Registry.modify,eq,free] at taken
    · simp only [Registry.modify,eq,if_false] at taken
      have ne : lease.authority.workspaceId ≠ id := by
        rintro rfl
        exact eq (Option.some.inj (found.symm.trans active))
      rw [holderCount_release at' live,if_neg ne]
      exact inv.shared id ref found taken
  case marked =>
    intro l inside alive taken
    have old := inv.marked l (mem_release inside alive) alive taken
    by_cases eq : l.entry = lease.entry
    · rw [eq,free] at old
      cases old
    · simpa [Registry.modify,eq] using old
  case bounded => exact inv.bounded
  case adopted =>
    intro l inside alive valid
    refine inv.adopted l (mem_release inside alive) alive ?_
    by_cases eq : l.entry = lease.entry <;> simpa [Registry.modify,eq] using valid

end Release

/-- Releasing takes one holder away, and the entry with the last one. -/
theorem Invariant.release (inv : Invariant s) (position : Nat) :
    Invariant (step s (.release position)).1 := by
  change Invariant (WorkspaceLease.release s position)
  unfold WorkspaceLease.release
  cases at' : s.leases[position]? with
  | none => exact inv
  | some lease =>
    simp only []
    by_cases done : lease.released
    · rw [if_pos done]
      exact inv
    rw [if_neg done]
    have live : lease.released = false := by simpa using done
    obtain ⟨count,positive⟩ := inv.counted _ _ (inv.owned lease (mem_of_getElem? at') live)
    simp only [releaseEntry,Registry.modify,if_true,count]
    by_cases last : holderCount s lease.authority.workspaceId = 1
    · rw [if_pos (by omega)]
      exact inv.release_last at' live last
    · rw [if_neg (by omega)]
      exact inv.release_shared at' live last

theorem Invariant.step {s : State} (inv : Invariant s) (call : Call) :
    Invariant (WorkspaceLease.step s call).1 := by
  cases call with
  | adoptBinding candidate => exact inv.adopt candidate
  | retireBinding candidate => exact inv.retire candidate
  | invalidateAll => exact inv.invalidate
  | acquireActivity candidate exclusive => exact inv.acquire candidate exclusive
  | release position => exact inv.release position

theorem invariant_run (calls : List Call) : Invariant (runCalls bounds calls) :=
  Runs.run_invariant (fun _ call inv => inv.step call) (invariant_new bounds) calls

/-- The bounds are those of the constructor for good. -/
theorem step_bounds (s : State) (call : Call) (inv : Invariant s) :
    (step s call).1.registry.bounds = s.registry.bounds := by
  cases call with
  | adoptBinding candidate =>
    change (adoptBinding s.registry candidate).1.bounds = _
    rcases adoptBinding_cases s.registry candidate inv.held with
      ⟨same,_⟩ | ⟨_,_,_,_,result⟩ | ⟨_,_,_,_,_,_,result⟩
    · rw [same]
    · rw [result]; rfl
    · rw [result]; rfl
  | retireBinding candidate =>
    change (retireBinding s.registry candidate).1.bounds = _
    rcases retireBinding_cases s.registry candidate inv.held with ⟨same,_⟩ | ⟨_,_,_,_,_,_,result⟩
    · rw [same]
    · rw [result]; rfl
  | invalidateAll =>
    change (invalidateAll s.registry).1.bounds = _
    rw [invalidateAll_eq inv.held]
    rfl
  | acquireActivity candidate exclusive =>
    rcases acquireActivity_cases s.registry candidate exclusive inv.held with
      ⟨error,refused⟩ | ⟨r,lease,done,_,_,_,_,_,_,⟨_,_,_,_,rfl⟩ | ⟨_,_,_,_,_,_,_,rfl⟩⟩
    · simp only [step,refused]
    · simp only [step,done,Registry.modify]
    · simp only [step,done,inserted]
  | release position =>
    simp only [step,release]
    split
    · rfl
    · split
      · rfl
      · simp only [releaseEntry]
        split <;> rfl

theorem run_bounds (calls : List Call) :
    (runCalls bounds calls).registry.bounds = bounds := by
  have both : ∀ s call, (Invariant s ∧ s.registry.bounds = bounds) →
      Invariant (step s call).1 ∧ (step s call).1.registry.bounds = bounds :=
    fun s call ⟨inv,same⟩ => ⟨inv.step call,(step_bounds s call inv).trans same⟩
  exact (Runs.run_invariant both ⟨invariant_new bounds,rfl⟩ calls).2

/-- The workspaces some unreleased lease is for, each once. -/
def activeWorkspaces (s : State) : List Units :=
  ((s.leases.filter fun l => !l.released).map fun l => l.authority.workspaceId).dedup

structure MutualExclusion (s : State) : Prop where
  one_entry : ∀ l ∈ s.leases, l.released = false →
    s.registry.activities.get l.authority.workspaceId = some l.entry
  holders : ∀ id ref, s.registry.activities.get id = some ref →
    (s.registry.heap ref).holders = holderCount s id ∧ 1 ≤ holderCount s id
  exclusive : ∀ l ∈ s.leases, l.released = false → l.exclusive = true →
    holderCount s l.authority.workspaceId = 1
  bounded : (activeWorkspaces s).length ≤ bounds.maxActiveWorkspaces
  refused : ∀ candidate exclusive error,(step s (.acquireActivity candidate exclusive)).2 = .thrown error →
    (step s (.acquireActivity candidate exclusive)).1 = s
  released_again : ∀ position lease, s.leases[position]? = some lease → lease.released = true →
    (step s (.release position)).1 = s

/-- Every order of adoptions, retirements, invalidations, acquisitions and releases
keeps the leases mutually exclusive. -/
theorem lease_mutual_exclusion (calls : List Call) :
    MutualExclusion bounds (runCalls bounds calls) := by
  have inv := invariant_run bounds calls
  have same := run_bounds bounds calls
  generalize runCalls bounds calls = s at inv same
  constructor
  case one_entry => exact inv.owned
  case holders => exact inv.counted
  case exclusive =>
    intro l member alive taken
    exact inv.shared _ _ (inv.owned l member alive) (inv.marked l member alive taken)
  case bounded =>
    rw [← same]
    refine Nat.le_trans (length_le_size (nodup_dedup _) ?_) inv.bounded
    intro id member
    obtain ⟨l,inside,rfl⟩ := mem_map.mp (mem_dedup.mp member)
    obtain ⟨inside,alive⟩ := mem_filter.mp inside
    exact ⟨_,inv.owned l inside (by simpa using alive)⟩
  case refused =>
    intro candidate exclusive error thrown
    rcases acquireActivity_cases s.registry candidate exclusive inv.held with
      ⟨_,refused⟩ | ⟨_,_,done,_⟩
    · simp only [step,refused]
    · simp [step,done] at thrown
  case released_again =>
    intro position lease at' done
    simp [step,release,at',done]

end GjcRemote.WorkspaceLease
