import GjcRemote.ServiceCalls
import Mathlib.Data.List.Chain

/-! What holds of the ledger of handles at all times: the dependents of a handle are what depends
on it and is not closed, the active locks are those that are not closed, and each lock was
acquired under the one before it. -/
namespace GjcRemote.ServiceCalls

open PostOrder List

variable {x y : Nat}

@[simp] theorem mem_addTo {set : List Nat} : y ∈ addTo set x ↔ y ∈ set ∨ y = x := by
  unfold addTo
  split
  · next found =>
    constructor
    · exact .inl
    · rintro (member | rfl)
      · exact member
      · exact found
  · simp

@[simp] theorem mem_deleteFrom {set : List Nat} : y ∈ deleteFrom set x ↔ y ∈ set ∧ y ≠ x := by
  simp [deleteFrom]

theorem deleteFrom_addTo {set : List Nat} (fresh : x ∉ set) : deleteFrom (addTo set x) x = set := by
  have kept : set.filter (fun y => y ≠ x) = set := by
    apply filter_eq_self.mpr
    intro y member
    have ne : y ≠ x := fun same => fresh (same ▸ member)
    simpa using ne
  simp [addTo,fresh,deleteFrom,filter_append] at kept ⊢
  exact kept

variable {s s' : Calls}

def Calls.handles (s : Calls) : List Nat := s.entries.map Entry.handle

def Calls.Fences (s : Calls) (x y : Nat) : Prop := ∃ e ∈ s.entries, e.handle = y ∧ x ∈ e.dependencies

theorem mem_unresolved :
    y ∈ s.unresolved x ↔ ∃ e ∈ s.entries, e.handle = y ∧ x ∈ e.dependencies ∧ e.state ≠ .closed := by
  simp only [Calls.unresolved,mem_map,mem_filter,decide_eq_true_eq]
  constructor
  · rintro ⟨e,⟨member,both⟩,own⟩
    exact ⟨e,member,own,both⟩
  · rintro ⟨e,member,own,both⟩
    exact ⟨e,⟨member,both⟩,own⟩

variable {e : Entry}

theorem get_some (found : s.get x = some e) : e ∈ s.entries ∧ e.handle = x := by
  refine ⟨List.mem_of_find?_eq_some found,?_⟩
  simpa using List.find?_some found

theorem get_none (missing : s.get handle = none) : handle ∉ s.handles := by
  simp only [Calls.get,List.find?_eq_none,beq_iff_eq] at missing
  simp only [Calls.handles,mem_map,not_exists,not_and]
  exact missing

/-- One entry has the handle. -/
theorem entry_unique (distinct : s.handles.Nodup) (here : e ∈ s.entries) (there : d ∈ s.entries)
    (same : e.handle = d.handle) : e = d :=
  inj_on_of_nodup_map distinct here there same

theorem get_of_mem (distinct : s.handles.Nodup) (member : e ∈ s.entries) : s.get e.handle = some e := by
  cases found : s.get e.handle with
  | none => exact absurd (mem_map_of_mem member) (get_none found)
  | some d =>
    obtain ⟨there,own⟩ := get_some found
    rw [entry_unique distinct there member own]

def isActiveLock (e : Entry) : Bool := e.resource = .lock ∧ e.state ≠ .closed

/-- The locks that are not closed, as they were acquired. -/
def Calls.openLocks (s : Calls) : List Nat := (s.entries.filter isActiveLock).map Entry.handle

theorem mem_openLocks :
    x ∈ s.openLocks ↔ ∃ e ∈ s.entries, e.handle = x ∧ e.resource = .lock ∧ e.state ≠ .closed := by
  simp only [Calls.openLocks,mem_map,mem_filter,isActiveLock,decide_eq_true_eq]
  constructor
  · rintro ⟨e,⟨member,both⟩,own⟩
    exact ⟨e,member,own,both⟩
  · rintro ⟨e,member,own,both⟩
    exact ⟨e,⟨member,both⟩,own⟩

structure Ledger (s : Calls) : Prop where
  distinct : s.handles.Nodup
  tracked : ∀ e ∈ s.entries, ∀ x ∈ e.dependencies, x ∈ s.handles
  matched : ∀ e ∈ s.entries, ∀ x, x ∈ e.dependents ↔ x ∈ s.unresolved e.handle
  locks : s.activeLocks = s.openLocks
  stacked : s.activeLocks.IsChain s.Fences

theorem new_ledger : Ledger Calls.new where
  distinct := nodup_nil
  tracked _ none := absurd none not_mem_nil
  matched _ none := absurd none not_mem_nil
  locks := rfl
  stacked := .nil

/-- Nothing that is not closed depends on a handle without dependents. -/
theorem Ledger.unresolved_empty (ledger : Ledger s) (member : e ∈ s.entries) (alone : e.dependents = []) :
    s.unresolved e.handle = [] := by
  apply eq_nil_iff_forall_not_mem.mpr
  intro x found
  have dependent := (ledger.matched e member x).mpr found
  rw [alone] at dependent
  cases dependent

theorem openLocks_distinct (ledger : Ledger s) : s.openLocks.Nodup :=
  ledger.distinct.sublist (filter_sublist.map _)

/-- An entry changes, but not its handle, what it depends on, and whether it is closed. -/
structure Relabels (g : Entry → Entry) (s : Calls) : Prop where
  handle : ∀ e, (g e).handle = e.handle
  resource : ∀ e, (g e).resource = e.resource
  dependencies : ∀ e, (g e).dependencies = e.dependencies
  dependents : ∀ e, (g e).dependents = e.dependents
  closed : ∀ e ∈ s.entries, ((g e).state = .closed ↔ e.state = .closed)

theorem handles_map (g : Entry → Entry) (handle : ∀ e, (g e).handle = e.handle)
    (eq : s'.entries = s.entries.map g) : s'.handles = s.handles := by
  simp [Calls.handles,eq,Function.comp_def,handle]

theorem openLocks_map (g : Entry → Entry) (handle : ∀ e, (g e).handle = e.handle)
    (active : ∀ e ∈ s.entries, isActiveLock (g e) = isActiveLock e) (eq : s'.entries = s.entries.map g) :
    s'.openLocks = s.openLocks := by
  have kept : s.entries.filter (isActiveLock ∘ g) = s.entries.filter isActiveLock :=
    filter_congr fun e member => active e member
  simp [Calls.openLocks,eq,filter_map,Function.comp_def,handle] at kept ⊢
  rw [kept]

theorem Ledger.relabel (ledger : Ledger s) (relabels : Relabels g s)
    (eq : s'.entries = s.entries.map g) (locks : s'.activeLocks = s.activeLocks) : Ledger s' := by
  have handles := handles_map g relabels.handle eq
  have fences : s'.Fences = s.Fences := by
    funext x y
    simp [Calls.Fences,eq,relabels.handle,relabels.dependencies]
  have unresolved : ∀ x y, y ∈ s'.unresolved x ↔ y ∈ s.unresolved x := by
    intro x y
    simp only [mem_unresolved,eq,mem_map]
    constructor
    · rintro ⟨_,⟨e,member,rfl⟩,own,depends,state⟩
      rw [relabels.handle] at own
      rw [relabels.dependencies] at depends
      rw [ne_eq,relabels.closed e member] at state
      exact ⟨e,member,own,depends,state⟩
    · rintro ⟨e,member,own,depends,state⟩
      refine ⟨_,⟨e,member,rfl⟩,?_,?_,?_⟩
      · rw [relabels.handle,own]
      · rw [relabels.dependencies]
        exact depends
      · rw [ne_eq,relabels.closed e member]
        exact state
  have active : ∀ e ∈ s.entries, isActiveLock (g e) = isActiveLock e := by
    intro e member
    simp [isActiveLock,relabels.resource,relabels.closed e member]
  refine ⟨by rw [handles]; exact ledger.distinct,?_,?_,?_,?_⟩
  · intro _ member x depends
    rw [eq] at member
    obtain ⟨e,there,rfl⟩ := mem_map.mp member
    rw [relabels.dependencies] at depends
    rw [handles]
    exact ledger.tracked e there x depends
  · intro _ member x
    rw [eq] at member
    obtain ⟨e,there,rfl⟩ := mem_map.mp member
    rw [relabels.dependents,relabels.handle,unresolved]
    exact ledger.matched e there x
  · rw [locks,openLocks_map g relabels.handle active eq]
    exact ledger.locks
  · rw [locks,fences]
    exact ledger.stacked

/-- What an entry becomes when the dependency of one handle on another is added. -/
def linked (entry dependency : Nat) (e : Entry) : Entry :=
  {e with
    dependencies := if e.handle = entry then addTo e.dependencies dependency else e.dependencies
    dependents := if e.handle = dependency then addTo e.dependents entry else e.dependents}

def unlinked (entry dependency : Nat) (e : Entry) : Entry :=
  {e with
    dependencies := if e.handle = entry then deleteFrom e.dependencies dependency else e.dependencies
    dependents := if e.handle = dependency then deleteFrom e.dependents entry else e.dependents}

theorem addDependency_entries (s : Calls) (entry dependency : Nat) :
    (s.addDependency entry dependency).entries = s.entries.map (linked entry dependency) := by
  simp only [Calls.addDependency,Calls.modify,map_map]
  apply map_congr_left
  intro e _
  simp only [Function.comp_apply,linked]
  split <;> split <;> simp_all

theorem removeDependency_entries (s : Calls) (entry dependency : Nat) :
    (s.removeDependency entry dependency).entries = s.entries.map (unlinked entry dependency) := by
  simp only [Calls.removeDependency,Calls.modify,map_map]
  apply map_congr_left
  intro e _
  simp only [Function.comp_apply,unlinked]
  split <;> split <;> simp_all

variable {dependency : Nat}

theorem mem_linked :
    x ∈ (linked entry dependency e).dependencies ↔ x ∈ e.dependencies ∨ (e.handle = entry ∧ x = dependency) := by
  unfold linked
  by_cases here : e.handle = entry <;> simp [here]

theorem mem_unlinked :
    x ∈ (unlinked entry dependency e).dependencies ↔ x ∈ e.dependencies ∧ ¬(e.handle = entry ∧ x = dependency) := by
  unfold unlinked
  by_cases here : e.handle = entry <;> simp [here]

theorem mem_linked_dependents :
    x ∈ (linked entry dependency e).dependents ↔ x ∈ e.dependents ∨ (e.handle = dependency ∧ x = entry) := by
  unfold linked
  by_cases here : e.handle = dependency <;> simp [here]

theorem mem_unlinked_dependents :
    x ∈ (unlinked entry dependency e).dependents ↔ x ∈ e.dependents ∧ ¬(e.handle = dependency ∧ x = entry) := by
  unfold unlinked
  by_cases here : e.handle = dependency <;> simp [here]

theorem fences_addDependency (edge : (s.addDependency entry dependency).Fences x y) :
    s.Fences x y ∨ (x = dependency ∧ y = entry) := by
  obtain ⟨_,member,own,depends⟩ := edge
  rw [addDependency_entries] at member
  obtain ⟨e,there,rfl⟩ := mem_map.mp member
  rcases mem_linked.mp depends with old | ⟨here,rfl⟩
  · exact .inl ⟨e,there,own,old⟩
  · exact .inr ⟨rfl,own.symm.trans here⟩

theorem addDependency_fences (edge : s.Fences x y) :
    (s.addDependency entry dependency).Fences x y := by
  obtain ⟨e,member,own,depends⟩ := edge
  refine ⟨linked entry dependency e,?_,own,mem_linked.mpr (.inl depends)⟩
  rw [addDependency_entries]
  exact mem_map_of_mem member

theorem fences_removeDependency (edge : (s.removeDependency entry dependency).Fences x y) :
    s.Fences x y := by
  obtain ⟨_,member,own,depends⟩ := edge
  rw [removeDependency_entries] at member
  obtain ⟨e,there,rfl⟩ := mem_map.mp member
  exact ⟨e,there,own,(mem_unlinked.mp depends).1⟩

/-- What is not closed comes to depend on another handle. -/
theorem Ledger.addDependency (ledger : Ledger s) {entry dependency : Entry} (here : entry ∈ s.entries)
    (there : dependency ∈ s.entries) (unclosed : entry.state ≠ .closed) : Ledger (s.addDependency entry.handle dependency.handle) := by
  have eq := addDependency_entries s entry.handle dependency.handle
  have handles : (s.addDependency entry.handle dependency.handle).handles = s.handles :=
    handles_map (linked _ _) (fun _ => rfl) eq
  refine ⟨by rw [handles]; exact ledger.distinct,?_,?_,?_,?_⟩
  · intro _ member x depends
    rw [eq] at member
    obtain ⟨e,old,rfl⟩ := mem_map.mp member
    rw [handles]
    rcases mem_linked.mp depends with known | ⟨-,rfl⟩
    · exact ledger.tracked e old x known
    · exact mem_map_of_mem there
  · intro _ member x
    rw [eq] at member
    obtain ⟨e,old,rfl⟩ := mem_map.mp member
    rw [mem_linked_dependents,ledger.matched e old x,mem_unresolved,mem_unresolved,eq]
    constructor
    · rintro (⟨d,found,own,depends,state⟩ | ⟨target,rfl⟩)
      · exact ⟨_,mem_map_of_mem found,own,mem_linked.mpr (.inl depends),state⟩
      · exact ⟨_,mem_map_of_mem here,rfl,mem_linked.mpr (.inr ⟨rfl,target⟩),unclosed⟩
    · rintro ⟨_,found,own,depends,state⟩
      obtain ⟨d,was,rfl⟩ := mem_map.mp found
      rcases mem_linked.mp depends with known | ⟨source,target⟩
      · exact .inl ⟨d,was,own,known,state⟩
      · exact .inr ⟨target,own.symm.trans source⟩
  · rw [openLocks_map (linked _ _) (fun _ => rfl) (fun _ _ => rfl) eq]
    exact ledger.locks
  · exact ledger.stacked.imp fun _ _ edge => addDependency_fences edge

/-- What is no lock stops to depend on another handle. -/
theorem Ledger.removeDependency (ledger : Ledger s) (here : entry ∈ s.entries) (dependency : Nat)
    (kind : entry.resource ≠ .lock) : Ledger (s.removeDependency entry.handle dependency) := by
  have eq := removeDependency_entries s entry.handle dependency
  have handles : (s.removeDependency entry.handle dependency).handles = s.handles :=
    handles_map (unlinked _ _) (fun _ => rfl) eq
  refine ⟨by rw [handles]; exact ledger.distinct,?_,?_,?_,?_⟩
  · intro _ member x depends
    rw [eq] at member
    obtain ⟨e,old,rfl⟩ := mem_map.mp member
    rw [handles]
    exact ledger.tracked e old x (mem_unlinked.mp depends).1
  · intro _ member x
    rw [eq] at member
    obtain ⟨e,old,rfl⟩ := mem_map.mp member
    rw [mem_unlinked_dependents,ledger.matched e old x,mem_unresolved,mem_unresolved,eq]
    constructor
    · rintro ⟨⟨d,found,own,depends,state⟩,away⟩
      refine ⟨_,mem_map_of_mem found,own,mem_unlinked.mpr ⟨depends,?_⟩,state⟩
      rintro ⟨source,target⟩
      exact away ⟨target,own.symm.trans source⟩
    · rintro ⟨_,found,own,depends,state⟩
      obtain ⟨d,was,rfl⟩ := mem_map.mp found
      obtain ⟨known,away⟩ := mem_unlinked.mp depends
      refine ⟨⟨d,was,own,known,state⟩,?_⟩
      rintro ⟨target,source⟩
      exact away ⟨own.trans source,target⟩
  · rw [openLocks_map (unlinked _ _) (fun _ => rfl) (fun _ _ => rfl) eq]
    exact ledger.locks
  · refine ledger.stacked.imp_of_mem_imp ?_
    intro below above _ member edge
    obtain ⟨e,old,own,depends⟩ := edge
    refine ⟨unlinked entry.handle dependency e,?_,own,mem_unlinked.mpr ⟨depends,?_⟩⟩
    · rw [eq]
      exact mem_map_of_mem old
    · -- a lock has the handle above
      rintro ⟨same,-⟩
      rw [ledger.locks] at member
      obtain ⟨d,found,held,lock,-⟩ := mem_openLocks.mp member
      have one : d = entry := entry_unique ledger.distinct found here (held.trans (own.symm.trans same))
      exact kind (one ▸ lock)

theorem unlinked_linked (forward : e.handle = entry → dependency ∉ e.dependencies)
    (backward : e.handle = dependency → entry ∉ e.dependents) :
    unlinked entry dependency (linked entry dependency e) = e := by
  have dependencies : (unlinked entry dependency (linked entry dependency e)).dependencies = e.dependencies := by
    by_cases own : e.handle = entry
    · simp [unlinked,linked,own,deleteFrom_addTo (forward own)]
    · simp [unlinked,linked,own]
  have dependents : (unlinked entry dependency (linked entry dependency e)).dependents = e.dependents := by
    by_cases own : e.handle = dependency
    · simp [unlinked,linked,own,deleteFrom_addTo (backward own)]
    · simp [unlinked,linked,own]
  have rest : unlinked entry dependency (linked entry dependency e) = {e with
      dependencies := (unlinked entry dependency (linked entry dependency e)).dependencies
      dependents := (unlinked entry dependency (linked entry dependency e)).dependents} := rfl
  rw [rest,dependencies,dependents]

/-- What was added is removed without a trace. -/
theorem removeDependency_addDependency (ledger : Ledger s) (here : entry ∈ s.entries)
    (fresh : dependency ∉ entry.dependencies) :
    (s.addDependency entry.handle dependency).removeDependency entry.handle dependency = s := by
  have same : ((s.addDependency entry.handle dependency).removeDependency entry.handle dependency).entries =
      s.entries := by
    rw [removeDependency_entries,addDependency_entries,map_map]
    refine (map_congr_left fun e member => ?_).trans (map_id _)
    have forward : e.handle = entry.handle → dependency ∉ e.dependencies := by
      intro own
      rw [entry_unique ledger.distinct member here own]
      exact fresh
    have backward : e.handle = dependency → entry.handle ∉ e.dependents := by
      intro own depends
      obtain ⟨d,found,named,known,-⟩ := mem_unresolved.mp ((ledger.matched e member _).mp depends)
      rw [entry_unique ledger.distinct found here named,own] at known
      exact fresh known
    exact unlinked_linked forward backward
  cases s
  simpa [Calls.removeDependency,Calls.addDependency,Calls.modify] using same

/-- What an entry becomes when another, or itself, is closed. -/
def settled (entry : Entry) (e : Entry) : Entry :=
  {e with
    dependents := if e.handle ∈ entry.dependencies then deleteFrom e.dependents entry.handle else e.dependents
    state := if e.handle = entry.handle then .closed else e.state}

theorem confirmClosed_entries (s : Calls) (entry : Entry) :
    (s.confirmClosed entry).entries = s.entries.map (settled entry) := by
  simp only [Calls.confirmClosed,Calls.setState,Calls.modify,map_map]
  apply map_congr_left
  intro e _
  simp only [Function.comp_apply,settled]
  split <;> split <;> simp_all

theorem mem_settled_dependents :
    x ∈ (settled entry e).dependents ↔ x ∈ e.dependents ∧ ¬(e.handle ∈ entry.dependencies ∧ x = entry.handle) := by
  unfold settled
  by_cases here : e.handle ∈ entry.dependencies <;> simp [here]

theorem settled_unclosed :
    (settled entry e).state ≠ .closed ↔ e.handle ≠ entry.handle ∧ e.state ≠ .closed := by
  unfold settled
  by_cases here : e.handle = entry.handle <;> simp [here]

theorem confirmClosed_fences (s : Calls) (entry : Entry) : (s.confirmClosed entry).Fences = s.Fences := by
  funext x y
  simp [Calls.Fences,confirmClosed_entries,settled]

theorem confirmClosed_openLocks (s : Calls) (entry : Entry) :
    (s.confirmClosed entry).openLocks = s.openLocks.filter (· ≠ entry.handle) := by
  have kept : ∀ e, isActiveLock (settled entry e) = (decide (e.handle ≠ entry.handle) && isActiveLock e) := by
    intro e
    by_cases here : e.handle = entry.handle <;> simp [isActiveLock,settled,here]
  simp only [Calls.openLocks,confirmClosed_entries,filter_map,map_map,filter_filter,Function.comp_def,kept]
  rfl

/-- In a chain, what leads to nothing in it is the last. -/
theorem chain_last {α : Type} {r : α → α → Prop} {l : List α} (chain : l.IsChain r) {x : α} (member : x ∈ l)
    (top : ∀ y ∈ l, ¬ r x y) : ∃ before, l = before ++ [x] := by
  induction l with
  | nil => cases member
  | cons y rest ih =>
    cases rest with
    | nil =>
      rw [mem_singleton.mp member]
      exact ⟨[],rfl⟩
    | cons z rest =>
      obtain ⟨edge,chain⟩ := isChain_cons_cons.mp chain
      rcases mem_cons.mp member with rfl | later
      · exact absurd edge (top z (by simp))
      · obtain ⟨before,eq⟩ := ih chain later fun w found => top w (mem_cons_of_mem _ found)
        exact ⟨y :: before,by rw [eq]; rfl⟩

/-- A lock without dependents is the last of the active locks. -/
theorem Ledger.last_lock (ledger : Ledger s) (here : entry ∈ s.entries) (lock : entry.resource = .lock)
    (unclosed : entry.state ≠ .closed) (alone : entry.dependents = []) :
    ∃ before, s.activeLocks = before ++ [entry.handle] := by
  have held : entry.handle ∈ s.activeLocks := by
    rw [ledger.locks]
    exact mem_openLocks.mpr ⟨entry,here,rfl,lock,unclosed⟩
  refine chain_last ledger.stacked held ?_
  rintro above active ⟨e,member,own,depends⟩
  rw [ledger.locks] at active
  obtain ⟨d,found,named,-,state⟩ := mem_openLocks.mp active
  have one : d = e := entry_unique ledger.distinct found member (named.trans own.symm)
  have waiting : above ∈ s.unresolved entry.handle := mem_unresolved.mpr ⟨e,member,own,depends,one ▸ state⟩
  rw [ledger.unresolved_empty here alone] at waiting
  cases waiting

/-- A handle is closed, without dependents if it is a lock. The entry may have been read before. -/
theorem Ledger.confirmClosed (ledger : Ledger s) (here : current ∈ s.entries)
    (handle : entry.handle = current.handle) (dependencies : entry.dependencies = current.dependencies)
    (resource : entry.resource = current.resource) (unclosed : current.state ≠ .closed)
    (alone : current.resource = .lock → current.dependents = []) : Ledger (s.confirmClosed entry) := by
  have eq := confirmClosed_entries s entry
  have handles : (s.confirmClosed entry).handles = s.handles := handles_map (settled _) (fun _ => rfl) eq
  refine ⟨by rw [handles]; exact ledger.distinct,?_,?_,?_,?_⟩
  · intro _ member x depends
    rw [eq] at member
    obtain ⟨e,old,rfl⟩ := mem_map.mp member
    rw [handles]
    exact ledger.tracked e old x depends
  · intro _ member x
    rw [eq] at member
    obtain ⟨e,old,rfl⟩ := mem_map.mp member
    rw [mem_settled_dependents,ledger.matched e old x,mem_unresolved,mem_unresolved,eq]
    constructor
    · rintro ⟨⟨d,found,own,depends,state⟩,away⟩
      refine ⟨_,mem_map_of_mem found,own,depends,settled_unclosed.mpr ⟨?_,state⟩⟩
      intro same
      rw [entry_unique ledger.distinct found here (same.trans handle),← dependencies] at depends
      exact away ⟨depends,own.symm.trans same⟩
    · rintro ⟨_,found,own,depends,state⟩
      obtain ⟨d,was,rfl⟩ := mem_map.mp found
      obtain ⟨other,state⟩ := settled_unclosed.mp state
      exact ⟨⟨d,was,own,depends,state⟩,fun both => other (own.trans both.2)⟩
  · rw [confirmClosed_openLocks,← ledger.locks]
    by_cases lock : entry.resource = .lock
    · have own : current.resource = .lock := resource ▸ lock
      obtain ⟨before,last⟩ := ledger.last_lock here own unclosed (alone own)
      have distinct : s.activeLocks.Nodup := ledger.locks ▸ openLocks_distinct ledger
      rw [last] at distinct
      have fresh : ∀ x ∈ before, x ≠ entry.handle := by
        intro x member same
        have disjoint := (nodup_append.mp distinct).2.2
        exact disjoint x member _ (by simp) (same.trans handle)
      have kept : before.filter (· ≠ entry.handle) = before :=
        filter_eq_self.mpr fun x member => by simpa using fresh x member
      have popped : (s.confirmClosed entry).activeLocks = before := by
        simp [Calls.confirmClosed,Calls.setState,Calls.modify,lock,last]
      rw [popped,last,filter_append,kept]
      simp [handle]
    · have kept : s.activeLocks.filter (· ≠ entry.handle) = s.activeLocks := by
        apply filter_eq_self.mpr
        intro x member
        rw [ledger.locks] at member
        obtain ⟨d,found,own,held,-⟩ := mem_openLocks.mp member
        have other : x ≠ entry.handle := by
          intro same
          rw [entry_unique ledger.distinct found here (own.trans (same.trans handle)),← resource] at held
          exact lock held
        simpa using other
      rw [kept]
      simp [Calls.confirmClosed,Calls.setState,Calls.modify,lock]
  · rw [confirmClosed_fences]
    simp only [Calls.confirmClosed,Calls.setState,Calls.modify]
    split
    · exact ledger.stacked.dropLast
    · exact ledger.stacked

/-- What an entry becomes when a new one may depend on it. -/
def awaited (entry : Entry) (e : Entry) : Entry :=
  if e.handle ∈ entry.dependencies then {e with dependents := addTo e.dependents entry.handle} else e

@[simp] theorem awaited_handle (entry e : Entry) : (awaited entry e).handle = e.handle := by
  unfold awaited
  split <;> rfl

@[simp] theorem awaited_dependencies (entry e : Entry) : (awaited entry e).dependencies = e.dependencies := by
  unfold awaited
  split <;> rfl

@[simp] theorem awaited_state (entry e : Entry) : (awaited entry e).state = e.state := by
  unfold awaited
  split <;> rfl

@[simp] theorem awaited_resource (entry e : Entry) : (awaited entry e).resource = e.resource := by
  unfold awaited
  split <;> rfl

theorem mem_awaited_dependents :
    x ∈ (awaited entry e).dependents ↔ x ∈ e.dependents ∨ (e.handle ∈ entry.dependencies ∧ x = entry.handle) := by
  unfold awaited
  by_cases here : e.handle ∈ entry.dependencies <;> simp [here]

theorem extend_openLocks (unclosed : entry.state ≠ .closed)
    (eq : s'.entries = s.entries.map (awaited entry) ++ [entry]) :
    s'.openLocks = s.openLocks ++ if entry.resource = .lock then [entry.handle] else [] := by
  have same : ∀ e, isActiveLock (awaited entry e) = isActiveLock e := fun e => by simp [isActiveLock]
  have new : isActiveLock entry = decide (entry.resource = .lock) := by simp [isActiveLock,unclosed]
  simp only [Calls.openLocks,eq,filter_append,filter_map,map_append,map_map,Function.comp_def,same,
    awaited_handle]
  by_cases lock : entry.resource = .lock <;> simp [new,lock]

/-- A new handle depends on known ones, and on the last lock. -/
theorem Ledger.extend (ledger : Ledger s) (fresh : entry.handle ∉ s.handles)
    (alone : entry.dependents = []) (unclosed : entry.state ≠ .closed)
    (known : ∀ x ∈ entry.dependencies, x ∈ s.handles)
    (under : ∀ x ∈ s.activeLocks.getLast?, x ∈ entry.dependencies)
    (eq : s'.entries = s.entries.map (awaited entry) ++ [entry])
    (locks : s'.activeLocks = if entry.resource = .lock then s.activeLocks ++ [entry.handle] else s.activeLocks) :
    Ledger s' := by
  have handles : s'.handles = s.handles ++ [entry.handle] := by
    simp [Calls.handles,eq,Function.comp_def]
  have self : entry.handle ∉ entry.dependencies := fun depends => fresh (known _ depends)
  have fences : ∀ x y, s.Fences x y → s'.Fences x y := by
    rintro x y ⟨e,member,own,depends⟩
    refine ⟨awaited entry e,?_,by simpa using own,by simpa using depends⟩
    rw [eq]
    exact mem_append_left _ (mem_map_of_mem member)
  refine ⟨?_,?_,?_,?_,?_⟩
  · rw [handles]
    exact nodup_append.mpr ⟨ledger.distinct,nodup_singleton _,fun x member y single same =>
      fresh (mem_singleton.mp single ▸ same ▸ member)⟩
  · intro d member x depends
    rw [handles,mem_append]
    rw [eq,mem_append] at member
    rcases member with old | new
    · obtain ⟨e,there,rfl⟩ := mem_map.mp old
      rw [awaited_dependencies] at depends
      exact .inl (ledger.tracked e there x depends)
    · rw [mem_singleton.mp new] at depends
      exact .inl (known x depends)
  · intro d member x
    rw [eq,mem_append] at member
    rw [mem_unresolved,eq]
    rcases member with old | new
    · obtain ⟨e,there,rfl⟩ := mem_map.mp old
      rw [mem_awaited_dependents,ledger.matched e there x,mem_unresolved,awaited_handle]
      constructor
      · rintro (⟨d,found,own,depends,state⟩ | ⟨depends,rfl⟩)
        · exact ⟨awaited entry d,mem_append_left _ (mem_map_of_mem found),by simpa using own,
            by simpa using depends,by simpa using state⟩
        · exact ⟨entry,mem_append_right _ mem_cons_self,rfl,depends,unclosed⟩
      · rintro ⟨d,found,own,depends,state⟩
        rcases mem_append.mp found with was | new
        · obtain ⟨d',there',rfl⟩ := mem_map.mp was
          exact .inl ⟨d',there',by simpa using own,by simpa using depends,by simpa using state⟩
        · rw [mem_singleton.mp new] at own depends
          exact .inr ⟨depends,own.symm⟩
    · rw [mem_singleton.mp new,alone]
      constructor
      · intro none
        cases none
      · rintro ⟨d,found,-,depends,-⟩
        rcases mem_append.mp found with was | new
        · obtain ⟨d',there',rfl⟩ := mem_map.mp was
          rw [awaited_dependencies] at depends
          exact absurd (ledger.tracked d' there' _ depends) fresh
        · rw [mem_singleton.mp new] at depends
          exact absurd depends self
  · rw [locks,extend_openLocks unclosed eq,ledger.locks]
    split
    · rfl
    · exact (append_nil _).symm
  · rw [locks]
    have chain := ledger.stacked.imp fences
    split
    · refine isChain_append.mpr ⟨chain,.singleton _,?_⟩
      intro x last y head
      cases head
      exact ⟨entry,by simp [eq],rfl,under x last⟩
    · exact chain

end GjcRemote.ServiceCalls
