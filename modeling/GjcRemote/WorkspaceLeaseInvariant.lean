import GjcRemote.WorkspaceLeaseRegistry

/-! What each registry operation can do, and the invariant all of them keep: the map of
activity entries and the leases handed out agree about who holds what. -/
namespace GjcRemote.WorkspaceLease

open Utf16 Registry

def holds (workspaceId : Units) (lease : Lease) : Bool :=
  !lease.released && decide (lease.authority.workspaceId = workspaceId)

def holderCount (s : State) (workspaceId : Units) : Nat := s.leases.countP (holds workspaceId)

@[simp] theorem holds_iff :
    holds workspaceId lease ↔ lease.released = false ∧ lease.authority.workspaceId = workspaceId := by
  simp [holds]

/-- Entries chosen by `hit` invalidated, all else untouched. -/
def Registry.fenced (r : Registry) (hit : Nat → Bool) : Registry :=
  {r with heap := fun i => if hit i then {r.heap i with invalidated := true} else r.heap i}

/-- The new authorities come with the entries they invalidate. -/
def Registry.reauthorized (r : Registry) (authorities : OrderedMap Units Authority)
    (hit : Nat → Bool) : Registry :=
  {r.fenced hit with authorities := authorities}

variable (r : Registry)

@[simp] theorem fenced_holders (hit : Nat → Bool) (i : Nat) :
    ((r.fenced hit).heap i).holders = (r.heap i).holders := by
  by_cases h : hit i = true <;> simp [fenced,h]

@[simp] theorem fenced_exclusive (hit : Nat → Bool) (i : Nat) :
    ((r.fenced hit).heap i).exclusive = (r.heap i).exclusive := by
  by_cases h : hit i = true <;> simp [fenced,h]

@[simp] theorem fenced_invalidated (hit : Nat → Bool) (i : Nat) :
    ((r.fenced hit).heap i).invalidated = (hit i || (r.heap i).invalidated) := by
  by_cases h : hit i = true <;> simp [fenced,h]

def Registry.Held (r : Registry) : Prop :=
  ∀ id ref, r.activities.get id = some ref → 1 ≤ (r.heap ref).holders

theorem Registry.Held.fenced {r : Registry} (held : r.Held) (hit : Nat → Bool) :
    (r.fenced hit).Held := by
  intro id ref found
  rw [fenced_holders]
  exact held id ref found

theorem fenced_none : r.fenced (fun _ => false) = r := by
  simp [fenced]

theorem fenced_fenced (first second : Nat → Bool) :
    (r.fenced first).fenced second = r.fenced fun i => first i || second i := by
  unfold fenced
  congr 1
  funext i
  by_cases a : first i = true <;> by_cases b : second i = true <;> simp [a,b]

/-- With a holder behind it the entry stays in the map. -/
theorem invalidate_fenced {r : Registry} (held : r.Held) (id : Units) :
    r.invalidate id = r.fenced fun ref => decide (r.activities.get id = some ref) := by
  unfold invalidate
  cases found : r.activities.get id with
  | none => simp [fenced]
  | some ref =>
    have holder := held id ref found
    have stays : ((r.modify ref fun a => {a with invalidated := true}).heap ref).holders ≠ 0 := by
      simp only [Registry.modify,if_true]
      omega
    simp only [stays,if_false]
    unfold Registry.modify fenced
    congr 1
    funext i
    by_cases same : i = ref
    · simp [same]
    · simp [same,Ne.symm same]

theorem invalidate_each {r : Registry} (held : r.Held) (ids : List Units) :
    ids.foldl invalidate r = r.fenced fun ref => ids.any fun id => decide (r.activities.get id = some ref) := by
  induction ids generalizing r with
  | nil => exact (fenced_none r).symm
  | cons id rest ih =>
    rw [List.foldl_cons,invalidate_fenced held,ih (held.fenced _),fenced_fenced]
    rfl

/-- `invalidateAll` reaches every entry of the map. -/
theorem invalidateAll_eq {r : Registry} (held : r.Held) :
    (invalidateAll r).1 = r.reauthorized .empty fun ref =>
      r.activities.keys.any fun id => decide (r.activities.get id = some ref) := by
  simp only [invalidateAll,invalidate_each held]
  rfl

theorem adoptBinding_cases (candidate : Candidate) (held : r.Held) :
    ((adoptBinding r candidate).1 = r ∧
      ∀ a p, requireAuthority candidate = .ok a → r.authorities.get a.workspaceId = some p →
        (adoptBinding r candidate).2 = .ok true → sameAuthority p.value a.value) ∨
    (∃ a, requireAuthority candidate = .ok a ∧ r.authorities.get a.workspaceId = none ∧
      (adoptBinding r candidate).2 = .ok true ∧ (adoptBinding r candidate).1 =
        r.reauthorized (r.authorities.set a.workspaceId a) fun _ => false) ∨
    (∃ a p, requireAuthority candidate = .ok a ∧ r.authorities.get a.workspaceId = some p ∧
      sameAuthority p.value a.value = false ∧ (adoptBinding r candidate).2 = .ok true ∧
      (adoptBinding r candidate).1 = r.reauthorized (r.authorities.set a.workspaceId a)
        fun ref => decide (r.activities.get a.workspaceId = some ref)) := by
  unfold adoptBinding
  cases accepted : requireAuthority candidate with
  | error error => exact .inl ⟨rfl,by simp⟩
  | ok a =>
    simp only []
    cases known : r.authorities.get a.workspaceId with
    | none =>
      by_cases full : r.bounds.maxWorkspaces ≤ r.authorities.size
      · simp only [if_pos full]
        exact .inl ⟨trivial,by simp⟩
      · simp only [if_neg full]
        refine .inr (.inl ⟨a,rfl,known,trivial,?_⟩)
        rw [reauthorized,fenced_none]
    | some p =>
      simp only []
      split
      · rename_i same
        refine .inl ⟨rfl,?_⟩
        rintro _ _ ⟨⟩ found _
        rw [known] at found
        cases found
        exact same
      rename_i differs
      split
      · exact .inl ⟨rfl,by simp⟩
      split
      · exact .inl ⟨rfl,by simp⟩
      split
      · exact .inl ⟨rfl,by simp⟩
      refine .inr (.inr ⟨a,p,rfl,known,by simpa using differs,rfl,?_⟩)
      exact invalidate_fenced (r := {r with authorities := r.authorities.set a.workspaceId a}) held _

theorem retireBinding_cases (candidate : Candidate) (held : r.Held) :
    ((retireBinding r candidate).1 = r ∧ (retireBinding r candidate).2 ≠ .ok true) ∨
    (∃ a current, requireAuthority candidate = .ok a ∧ r.authorities.get a.workspaceId = some current ∧
      sameAuthority current.value a.value ∧ (retireBinding r candidate).2 = .ok true ∧
      (retireBinding r candidate).1 = r.reauthorized (r.authorities.delete a.workspaceId)
        fun ref => decide (r.activities.get a.workspaceId = some ref)) := by
  unfold retireBinding
  cases accepted : requireAuthority candidate with
  | error error => exact .inl ⟨rfl,by simp⟩
  | ok a =>
    simp only []
    cases known : r.authorities.get a.workspaceId with
    | none => exact .inl ⟨rfl,by simp⟩
    | some current =>
      simp only []
      cases same : sameAuthority current.value a.value with
      | false => exact .inl ⟨rfl,by simp⟩
      | true =>
        refine .inr ⟨a,current,rfl,known,same,rfl,?_⟩
        exact invalidate_fenced (r := {r with authorities := r.authorities.delete a.workspaceId}) held _

def Registry.inserted (r : Registry) (id : Units) (entry : Activity) : Registry :=
  {r with
    activities := r.activities.set id r.allocated
    heap := fun i => if i = r.allocated then entry else r.heap i
    allocated := r.allocated + 1
    nextFence := entry.fence}

theorem inserted_modify (id : Units) (entry : Activity)
    (change : Activity → Activity) (fence : (change entry).fence = entry.fence) :
    (r.inserted id entry).modify r.allocated change = r.inserted id (change entry) := by
  unfold Registry.modify inserted
  rw [fence]
  congr 1
  funext i
  by_cases same : i = r.allocated
  · simp [same]
  · simp [same]

/-- A new entry starts without holders, or the workspace ceiling is reached. -/
theorem createEntry_cases (a : Authority) (receipt : Bool) (legacy : Js) :
    createEntry r a receipt legacy = .error .workspaceAdmissionExceeded ∨
    (r.activities.size < r.bounds.maxActiveWorkspaces ∧
      ∃ entry : Activity, entry.holders = 0 ∧ entry.exclusive = false ∧ entry.invalidated = false ∧
        createEntry r a receipt legacy = .ok (r.inserted a.workspaceId entry,r.allocated)) := by
  by_cases full : r.bounds.maxActiveWorkspaces ≤ r.activities.size
  · exact .inl (by simp [createEntry,full])
  · refine .inr ⟨by omega,⟨receipt,a.value .socketGeneration,a.value .bindingId,
      if receipt then a.value .bindingFingerprint else legacy,fenceAfter r.nextFence,0,false,false⟩,
      rfl,rfl,rfl,?_⟩
    rw [createEntry,if_neg full]
    rfl

theorem reserve_free {r : Registry} (free : (r.heap ref).holders ≤ 0) (a : Authority) (exclusive : Bool) :
    reserve r a ref exclusive = (r.modify ref fun entry =>
        {entry with holders := entry.holders + 1,exclusive := exclusive || entry.exclusive},
        .ok ⟨a,ref,(r.heap ref).fence,exclusive,false⟩) := by
  have idle : ¬ 0 < (r.heap ref).holders := by omega
  cases exclusive
  · simp [reserve,idle]
  · simp only [reserve,idle,decide_false,Bool.and_false,Bool.false_eq_true,if_false,if_true,
      Registry.modify,Bool.true_or]
    congr 2
    funext i
    by_cases same : i = ref <;> simp [same]

theorem reserve_held {r : Registry} (held : 1 ≤ (r.heap ref).holders) (a : Authority) (exclusive : Bool) :
    reserve r a ref exclusive = (r,.error .workspaceBusy) ∨
    ((r.heap ref).exclusive = false ∧ exclusive = false ∧ reserve r a ref exclusive =
        (r.modify ref fun entry => {entry with holders := entry.holders + 1},
          .ok ⟨a,ref,(r.heap ref).fence,false,false⟩)) := by
  have busy : 0 < (r.heap ref).holders := by omega
  cases taken : (r.heap ref).exclusive with
  | true => exact .inl (by simp [reserve,taken,busy])
  | false =>
    cases exclusive with
    | true => exact .inl (by simp [reserve,taken,busy])
    | false => exact .inr ⟨rfl,rfl,by simp [reserve,taken]⟩

/-- The entry and the lease of a successful acquisition. -/
def Acquired (r r' : Registry) (exclusive : Bool) (lease : Lease) : Prop :=
  ∃ current, r.authorities.get lease.authority.workspaceId = some current ∧
    sameAuthority current.value lease.authority.value = true ∧
    lease.released = false ∧ lease.exclusive = exclusive ∧
    ((r.activities.get lease.authority.workspaceId = some lease.entry ∧ exclusive = false ∧
      (r.heap lease.entry).invalidated = false ∧ (r.heap lease.entry).exclusive = false ∧
      r' = r.modify lease.entry fun entry => {entry with holders := entry.holders + 1}) ∨
    (r.activities.get lease.authority.workspaceId = none ∧
      r.activities.size < r.bounds.maxActiveWorkspaces ∧ lease.entry = r.allocated ∧
      ∃ entry : Activity, entry.holders = 1 ∧ entry.exclusive = exclusive ∧
        entry.invalidated = false ∧ r' = r.inserted lease.authority.workspaceId entry))

/-- A refused acquisition leaves the registry alone; the others are `Acquired`. -/
theorem acquireActivity_cases (candidate : Candidate) (exclusive : Bool) (held : r.Held) :
    (∃ error, acquireActivity r candidate exclusive = (r,.error error)) ∨
    (∃ r' lease, acquireActivity r candidate exclusive = (r',.ok lease) ∧
      requireAuthority candidate = .ok lease.authority ∧ Acquired r r' exclusive lease) := by
  unfold acquireActivity
  cases accepted : requireAuthority candidate with
  | error error => exact .inl ⟨error,rfl⟩
  | ok a =>
    simp only []
    split
    · exact .inl ⟨_,rfl⟩
    cases known : r.authorities.get a.workspaceId with
    | none => exact .inl ⟨_,rfl⟩
    | some current =>
      simp only []
      cases same : sameAuthority current.value a.value with
      | false => exact .inl ⟨_,rfl⟩
      | true =>
        simp only [Bool.not_true,Bool.false_eq_true,if_false]
        cases found : r.activities.get a.workspaceId with
        | none =>
          rcases createEntry_cases r a (decide (a.value .socketGeneration ≠ .undefined))
            (candidate .bindingFingerprint) with full | ⟨room,entry,free,shared,valid,created⟩
          · exact .inl ⟨_,by rw [full]⟩
          · rw [created]
            simp only []
            rw [reserve_free (by simp [inserted,free]),inserted_modify _ _ _ _ rfl]
            exact .inr ⟨_,_,rfl,rfl,current,known,same,rfl,rfl,.inr ⟨found,room,rfl,
                {entry with holders := entry.holders + 1,exclusive := exclusive || entry.exclusive},
                by simp [free],by simp [shared],valid,rfl⟩⟩
        | some ref =>
          have holder := held _ ref found
          simp only []
          split
          · rw [if_pos (by omega)]
            exact .inl ⟨_,rfl⟩
          · rename_i matched
            rcases reserve_held holder a exclusive with busy | ⟨open',shared,reserved⟩
            · exact .inl ⟨_,busy⟩
            · rw [reserved]
              have valid : (r.heap ref).invalidated = false := by
                simp only [identityMismatch,Bool.or_eq_true,not_or] at matched
                simpa using matched.1.1.1
              exact .inr ⟨_,_,rfl,rfl,current,known,same,rfl,shared.symm,.inl ⟨found,shared,valid,open',rfl⟩⟩

end GjcRemote.WorkspaceLease
