import Mathlib.Data.List.Nodup

/-! A finite map that remembers insertion order, as JavaScript's `Map` does: writing an
existing key keeps its place, writing a new one appends it. -/
namespace GjcRemote

open List hiding drop

structure OrderedMap (κ ν : Type) where
  entries : List (κ × ν)
  distinct : (entries.map Prod.fst).Nodup

namespace OrderedMap

variable {κ ν : Type} [DecidableEq κ]

def empty : OrderedMap κ ν := ⟨[],nodup_nil⟩

variable (m : OrderedMap κ ν)

def get (key : κ) : Option ν :=
  (m.entries.find? fun e => e.1 = key).map Prod.snd

def size : Nat := m.entries.length

def keys : List κ := m.entries.map Prod.fst

def delete (key : κ) : OrderedMap κ ν where
  entries := m.entries.filter fun e => e.1 ≠ key
  distinct := m.distinct.sublist (filter_sublist.map _)

def discard (drop : κ → ν → Bool) : OrderedMap κ ν where
  entries := m.entries.filter fun e => !drop e.1 e.2
  distinct := m.distinct.sublist (filter_sublist.map _)

/-- Every value is replaced in its place. -/
def mapValues (f : ν → ν) : OrderedMap κ ν where
  entries := m.entries.map fun e => (e.1,f e.2)
  distinct := by
    rw [map_map]
    exact m.distinct

theorem replace_keys (entries : List (κ × ν)) (key : κ) (value : ν) :
    (entries.map fun e => if e.1 = key then (key,value) else e).map Prod.fst = entries.map Prod.fst := by
  rw [map_map]
  apply map_congr_left
  intro e _
  by_cases same : e.1 = key <;> simp [same]

def set (key : κ) (value : ν) : OrderedMap κ ν :=
  if present : key ∈ m.keys then
    ⟨m.entries.map fun e => if e.1 = key then (key,value) else e,by
      rw [replace_keys]; exact m.distinct⟩
  else
    ⟨m.entries ++ [(key,value)],by
      rw [map_append]
      exact m.distinct.append (nodup_singleton _) (by simpa [keys] using present)⟩

variable {key : κ} {value : ν}

section

variable {m : OrderedMap κ ν}

/-- Looking a key up finds its one entry. -/
theorem get_eq_some :
    m.get key = some value ↔ (key,value) ∈ m.entries := by
  constructor
  · intro found
    obtain ⟨⟨k,v⟩,located,rfl⟩ := Option.map_eq_some_iff.mp found
    have same : k = key := by simpa using find?_some located
    exact same ▸ mem_of_find?_eq_some located
  · intro member
    have located : (m.entries.find? fun e => e.1 = key).isSome := by
      rw [find?_isSome]
      exact ⟨_,member,by simp⟩
    obtain ⟨⟨k,v⟩,found⟩ := Option.isSome_iff_exists.mp located
    have same : k = key := by simpa using find?_some found
    have pair := inj_on_of_nodup_map m.distinct (mem_of_find?_eq_some found) member same
    cases pair
    rw [get,found]
    rfl

theorem get_eq_none : m.get key = none ↔ key ∉ m.keys := by
  rw [get,Option.map_eq_none_iff,find?_eq_none,keys,mem_map]
  constructor
  · rintro missing ⟨e,member,same⟩
    exact missing e member (by simpa using same)
  · intro missing e member
    simpa using fun same => missing ⟨e,member,same⟩

theorem mem_keys : key ∈ m.keys ↔ ∃ value, m.get key = some value := by
  rw [← Option.ne_none_iff_exists',ne_eq,get_eq_none,not_not]

@[simp] theorem get_empty (key : κ) : (empty : OrderedMap κ ν).get key = none := rfl

theorem mem_set :
    (k,v) ∈ (m.set key value).entries ↔ (k = key ∧ v = value) ∨ (k ≠ key ∧ (k,v) ∈ m.entries) := by
  unfold set
  split
  · rename_i present
    obtain ⟨old,found⟩ := mem_keys.mp present
    have member := get_eq_some.mp found
    simp only [mem_map]
    constructor
    · rintro ⟨⟨k',v'⟩,inside,eq⟩
      by_cases same : k' = key
      · simp only [same,if_true,Prod.mk.injEq] at eq
        exact .inl ⟨eq.1.symm,eq.2.symm⟩
      · simp only [same,if_false] at eq
        cases eq
        exact .inr ⟨same,inside⟩
    · rintro (⟨rfl,rfl⟩ | ⟨other,inside⟩)
      · exact ⟨_,member,by simp⟩
      · exact ⟨_,inside,by simp [other]⟩
  · rename_i absent
    simp only [mem_append,mem_singleton,Prod.mk.injEq]
    constructor
    · rintro (inside | same)
      · refine .inr ⟨?_,inside⟩
        rintro rfl
        exact absent (mem_map.mpr ⟨_,inside,rfl⟩)
      · exact .inl same
    · rintro (same | ⟨_,inside⟩)
      · exact .inr same
      · exact .inl inside

end

variable (m : OrderedMap κ ν)

theorem get_set (key : κ) (value : ν) (k : κ) :
    (m.set key value).get k = if k = key then some value else m.get k := by
  by_cases same : k = key
  · rw [if_pos same,get_eq_some,mem_set]
    exact .inl ⟨same,rfl⟩
  · rw [if_neg same]
    apply Option.ext
    intro v
    rw [get_eq_some,mem_set,get_eq_some]
    simp [same]

@[simp] theorem get_set_self (key : κ) (value : ν) :
    (m.set key value).get key = some value := by rw [get_set,if_pos rfl]

theorem get_mapValues (f : ν → ν) (k : κ) : (m.mapValues f).get k = (m.get k).map f := by
  simp only [get,mapValues,find?_map,Option.map_map]
  rfl

theorem get_set_ne (value : ν) (ne : k ≠ key) :
    (m.set key value).get k = m.get k := by rw [get_set,if_neg ne]

theorem get_delete (key k : κ) :
    (m.delete key).get k = if k = key then none else m.get k := by
  apply Option.ext
  intro v
  rw [get_eq_some]
  by_cases same : k = key
  · simp [delete,same]
  · rw [if_neg same,get_eq_some]
    simp [delete,same]

@[simp] theorem get_delete_self (key : κ) : (m.delete key).get key = none := by
  rw [get_delete,if_pos rfl]

theorem get_delete_ne (ne : k ≠ key) :
    (m.delete key).get k = m.get k := by rw [get_delete,if_neg ne]

theorem get_delete_eq_some {m : OrderedMap κ ν} :
    (m.delete key).get k = some value ↔ k ≠ key ∧ m.get k = some value := by
  by_cases same : k = key
  · simp [same]
  · simp [get_delete,same]

theorem get_discard {m : OrderedMap κ ν} :
    (m.discard drop).get key = some value ↔ m.get key = some value ∧ drop key value = false := by
  simp [get_eq_some,discard]

theorem size_set_new (value : ν) (absent : m.get key = none) :
    (m.set key value).size = m.size + 1 := by
  rw [set,dif_neg (get_eq_none.mp absent)]
  simp [size]

theorem size_set_le (key : κ) (value : ν) : (m.set key value).size ≤ m.size + 1 := by
  rw [set]
  split <;> simp [size]

theorem countP_set_new (value : ν) (absent : m.get key = none) (counts : κ × ν → Bool) :
    (m.set key value).entries.countP counts =
      m.entries.countP counts + if counts (key,value) then 1 else 0 := by
  rw [set,dif_neg (get_eq_none.mp absent)]
  simp only [countP_append,countP_singleton]

theorem countP_delete {m : OrderedMap κ ν} (there : m.get key = some value) (counts : κ × ν → Bool) :
    m.entries.countP counts = (m.delete key).entries.countP counts + if counts (key,value) then 1 else 0 := by
  have member := get_eq_some.mp there
  have distinct := m.distinct
  simp only [delete]
  generalize m.entries = entries at member distinct ⊢
  induction entries with
  | nil => cases member
  | cons e rest ih =>
    rw [map_cons,nodup_cons] at distinct
    by_cases here : e.1 = key
    · have own : e = (key,value) := by
        rcases mem_cons.mp member with same | later
        · exact same.symm
        · exact absurd (mem_map.mpr ⟨_,later,here.symm⟩) distinct.1
      have untouched : rest.filter (fun e' => e'.1 ≠ key) = rest := by
        refine filter_eq_self.mpr fun e' inside => ?_
        have other : e'.1 ≠ key := fun same => distinct.1 (mem_map.mpr ⟨e',inside,same.trans here.symm⟩)
        simpa using other
      simp only [own,ne_eq,not_true_eq_false,decide_false,Bool.false_eq_true,not_false_eq_true,
        filter_cons_of_neg,countP_cons]
      rw [untouched]
    · have later : (key,value) ∈ rest := by
        rcases mem_cons.mp member with same | later
        · exact absurd (congrArg Prod.fst same).symm here
        · exact later
      simp only [ne_eq,here,not_false_eq_true,decide_true,filter_cons_of_pos,countP_cons]
      rw [ih later distinct.2]
      simp only [ne_eq]
      omega

theorem size_delete_le (key : κ) : (m.delete key).size ≤ m.size :=
  length_filter_le _ _

/-- Distinct keys that are all present are no more than the entries. -/
theorem length_le_size {m : OrderedMap κ ν} {ks : List κ} (nodup : ks.Nodup)
    (present : ∀ k ∈ ks, ∃ v, m.get k = some v) : ks.length ≤ m.size := by
  have inside : ks ⊆ m.keys := fun k member => mem_keys.mpr (present k member)
  have bound := nodup.length_le_of_subset inside
  simpa [keys,size] using bound

end OrderedMap

end GjcRemote
