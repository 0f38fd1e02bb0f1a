import Mathlib.Data.List.Basic
import Mathlib.Tactic.Linarith

/-! Paths as names between separators, and foldings that a comparison of paths goes through: a folding
works name by name, and it shortens nothing. -/
namespace GjcRemote.PathNames

open List hiding tail

variable {α : Type}

def join (sep : α) (parts : List (List α)) : List α := [sep].intercalate parts

theorem join_cons (sep : α) (part : List α) (more : parts ≠ []) :
    join sep (part :: parts) = part ++ sep :: join sep parts := by
  obtain ⟨next,later,rfl⟩ := exists_cons_of_ne_nil more
  simp [join]

theorem join_append (sep : α) (some_front : front ≠ []) (some_back : back ≠ []) :
    join sep (front ++ back) = join sep front ++ sep :: join sep back := by
  induction front with
  | nil => exact absurd rfl some_front
  | cons part parts ih =>
    by_cases last : parts = []
    · subst last
      rw [singleton_append,join_cons sep part some_back]
      simp [join]
    · rw [cons_append,join_cons sep part (by simp [last]),ih last,join_cons sep part last]
      simp

theorem mem_join (member : u ∈ join sep parts) :
    u = sep ∨ ∃ part ∈ parts, u ∈ part := by
  induction parts with
  | nil => simp [join] at member
  | cons part parts ih =>
    by_cases last : parts = []
    · exact Or.inr ⟨part,mem_cons_self,by simpa [last,join] using member⟩
    · rw [join_cons sep part last,mem_append,mem_cons] at member
      rcases member with own | here | later
      · exact Or.inr ⟨part,mem_cons_self,own⟩
      · exact Or.inl here
      · rcases ih later with here | ⟨other,among,inside⟩
        · exact Or.inl here
        · exact Or.inr ⟨other,mem_cons_of_mem _ among,inside⟩

structure Folding (sep : α) where
  fold : List α → List α
  /-- No name reaches over a separator. -/
  separator : ∀ front back, fold (front ++ sep :: back) = fold front ++ sep :: fold back
  solid : ∀ name, sep ∉ name → sep ∉ fold name
  /-- The lengths of the images add up. -/
  length : ∀ front back, (fold (front ++ back)).length = (fold front).length + (fold back).length
  grows : ∀ text, text.length ≤ (fold text).length

def Folding.plain (sep : α) : Folding sep where
  fold := id
  separator _ _ := rfl
  solid _ solid := solid
  length _ _ := length_append
  grows _ := Nat.le_refl _

def Folding.ofUnits (sep : α) (image : α → List α) (kept : image sep = [sep])
    (solid : ∀ u, u ≠ sep → sep ∉ image u) (some_image : ∀ u, image u ≠ []) : Folding sep where
  fold text := text.flatMap image
  separator front back := by simp [kept]
  solid name absent inside := by
    obtain ⟨u,member,image_member⟩ := mem_flatMap.mp inside
    exact solid u (fun same => absent (same ▸ member)) image_member
  length front back := by simp
  grows text := by
    induction text with
    | nil => simp
    | cons u rest ih =>
      have one := length_pos_iff.mpr (some_image u)
      rw [flatMap_cons,length_append,length_cons]
      omega

namespace Folding

variable {sep : α} (f : Folding sep)

@[simp] theorem fold_nil : f.fold [] = [] := by
  have twice := f.length [] []
  rw [append_nil] at twice
  exact eq_nil_of_length_eq_zero (by omega)

theorem fold_eq_nil : f.fold text = [] ↔ text = [] := by
  constructor
  · intro nothing
    have grown := f.grows text
    rw [nothing] at grown
    exact eq_nil_of_length_eq_zero (Nat.le_zero.mp grown)
  · rintro rfl
    exact f.fold_nil

theorem fold_join (parts : List (List α)) : f.fold (join sep parts) = join sep (parts.map f.fold) := by
  induction parts with
  | nil => simp [join]
  | cons part parts ih =>
    by_cases last : parts = []
    · subst last
      simp [join]
    · rw [join_cons sep part last,f.separator,ih,map_cons,join_cons sep _ (by simp [last])]

end Folding

variable [DecidableEq α]

def names (sep : α) (path : List α) : List (List α) :=
  (path.splitOn sep).filter fun name => 0 < name.length

variable (path : List α)

/-- A part of a path is made of units of it that are no separators. -/
theorem mem_splitOn : ∀ part ∈ path.splitOn sep, ∀ u ∈ part, u ≠ sep ∧ u ∈ path := by
  induction path with
  | nil => simp
  | cons first rest ih =>
    have later : ∀ part ∈ rest.splitOn sep, ∀ u ∈ part, u ≠ sep ∧ u ∈ first :: rest :=
      fun part member u inside => ⟨(ih part member u inside).1,mem_cons_of_mem _ (ih part member u inside).2⟩
    rw [splitOn_cons_eq_if_modifyHead]
    split
    · simpa using later
    · rename_i other
      obtain ⟨part,parts,split⟩ := exists_cons_of_ne_nil (splitOn_ne_nil sep rest)
      rw [split] at later ⊢
      rw [modifyHead_cons,forall_mem_cons]
      refine ⟨?_,fun part member => later part (mem_cons_of_mem _ member)⟩
      rw [forall_mem_cons]
      exact ⟨⟨fun same => other (by simp [same]),mem_cons_self⟩,later part mem_cons_self⟩

theorem splitOn_solid : ∀ part ∈ path.splitOn sep, sep ∉ part :=
  fun part member inside => (mem_splitOn path part member sep inside).1 rfl

theorem mem_of_names {path name : List α} (member : name ∈ names sep path) (inside : u ∈ name) : u ∈ path :=
  (mem_splitOn path name (mem_filter.mp member).1 u inside).2

theorem mem_names {path name : List α} (member : name ∈ names sep path) :
    name ≠ [] ∧ sep ∉ name := by
  obtain ⟨part,long⟩ := mem_filter.mp member
  exact ⟨length_pos_iff.mp (by simpa using long),splitOn_solid path name part⟩

@[simp] theorem names_nil (sep : α) : names sep [] = [] := by simp [names]

theorem names_append (sep : α) (front back : List α) :
    names sep (front ++ sep :: back) = names sep front ++ names sep back := by
  rw [names,splitOn_append_cons_self,filter_append]
  rfl

theorem names_single {sep : α} (long : name ≠ []) (solid : sep ∉ name) :
    names sep name = [name] := by
  simp [names,splitOn_eq_singleton solid,length_pos_iff,long]

theorem names_join {sep : α} (long : ∀ part ∈ parts, part ≠ [])
    (solid : ∀ part ∈ parts, sep ∉ part) : names sep (join sep parts) = parts := by
  cases parts with
  | nil => simp [join]
  | cons part parts =>
    rw [names,join,splitOn_intercalate sep solid (by simp),filter_eq_self]
    intro name member
    simpa [length_pos_iff] using long name member

theorem names_separators (separators : ∀ u ∈ front, u = sep) (back : List α) :
    names sep (front ++ back) = names sep back := by
  induction front with
  | nil => rfl
  | cons u front ih =>
    obtain ⟨rfl,later⟩ := forall_mem_cons.mp separators
    have step := names_append u [] (front ++ back)
    simp only [nil_append,names_nil] at step
    rw [cons_append,step,ih later]

theorem names_cons_suffix (u : α) (rest : List α) :
    ∀ name ∈ names sep rest, ∃ whole ∈ names sep (u :: rest), name <:+ whole := by
  intro name member
  by_cases cut : u = sep
  · refine ⟨name,?_,suffix_rfl⟩
    have front := names_append u [] rest
    rw [cut] at front ⊢
    rw [nil_append,names_nil] at front
    rw [front]
    exact member
  · obtain ⟨part,parts,split⟩ := exists_cons_of_ne_nil (splitOn_ne_nil sep rest)
    have whole : (u :: rest).splitOn sep = (u :: part) :: parts := by
      rw [splitOn_cons_eq_if_modifyHead,if_neg (by simpa using cut),split,modifyHead_cons]
    rw [names,split] at member
    rw [names,whole]
    obtain ⟨among,long⟩ := mem_filter.mp member
    rcases mem_cons.mp among with rfl | later
    · exact ⟨u :: name,by simp,suffix_cons u name⟩
    · exact ⟨name,mem_filter.mpr ⟨mem_cons_of_mem _ later,long⟩,suffix_rfl⟩

/-- A name that is left when units are cut off the front is the end of a name. -/
theorem names_drop_suffix (count : Nat) : ∀ text : List α, ∀ name ∈ names sep (text.drop count),
    ∃ whole ∈ names sep text, name <:+ whole := by
  induction count with
  | zero => exact fun text name member => ⟨name,member,suffix_rfl⟩
  | succ count ih =>
    intro text name member
    cases text with
    | nil => exact ih [] name (by rwa [drop_nil] at member ⊢)
    | cons u rest =>
      obtain ⟨left,among,first⟩ := ih rest name member
      obtain ⟨whole,inside,second⟩ := names_cons_suffix u rest left among
      exact ⟨whole,inside,first.trans second⟩

namespace Folding

variable {sep : α} (f : Folding sep)

theorem splitOn_fold : (f.fold path).splitOn sep = (path.splitOn sep).map f.fold := by
  have parts : path = join sep (path.splitOn sep) := (intercalate_splitOn sep).symm
  conv_lhs => rw [parts,f.fold_join,join]
  refine splitOn_intercalate sep (fun part member => ?_) (by simp)
  obtain ⟨name,inside,rfl⟩ := mem_map.mp member
  exact f.solid name (splitOn_solid path name inside)

theorem names_fold : names sep (f.fold path) = (names sep path).map f.fold := by
  rw [names,f.splitOn_fold,filter_map,names]
  congr 1
  apply filter_congr
  intro name _
  have same : 0 < (f.fold name).length ↔ 0 < name.length := by
    rw [length_pos_iff,length_pos_iff,ne_eq,ne_eq,f.fold_eq_nil]
  simp [same]

/-- Where the image of a path starts with the image of another and a separator, so does the path, up to
the folding. -/
theorem split_front {path root : List α} (starts : f.fold path = f.fold root ++ sep :: tail) :
    ∃ own rest, path = own ++ sep :: rest ∧ f.fold own = f.fold root := by
  have parts := congrArg (List.splitOn sep) starts
  rw [splitOn_append_cons_self,f.splitOn_fold,f.splitOn_fold] at parts
  obtain ⟨front,back,split,front_same,back_same⟩ := map_eq_append_iff.mp parts
  have some_front : front ≠ [] := by
    rintro rfl
    simp at front_same
  have some_back : back ≠ [] := by
    rintro rfl
    simp at back_same
  refine ⟨join sep front,join sep back,?_,?_⟩
  · rw [← join_append sep some_front some_back,← split]
    exact (intercalate_splitOn sep).symm
  · rw [f.fold_join,front_same,← f.fold_join]
    exact congrArg f.fold (intercalate_splitOn sep)

def mass (path : List α) : Nat := ((names sep path).map fun name => (f.fold name).length).sum

theorem mass_count : f.mass path + path.count sep = (f.fold path).length := by
  induction size : path.length using Nat.strongRecOn generalizing path with
  | ind size ih =>
    by_cases inside : sep ∈ path
    · obtain ⟨front,back,rfl⟩ := append_of_mem inside
      simp only [length_append,length_cons] at size
      have left := ih front.length (by omega) front rfl
      have right := ih back.length (by omega) back rfl
      have whole : f.mass (front ++ sep :: back) = f.mass front + f.mass back := by
        simp [mass,names_append]
      rw [whole,f.separator,count_append,count_cons_self,length_append,length_cons]
      omega
    · rw [count_eq_zero_of_not_mem inside]
      by_cases nothing : path = []
      · subst nothing
        simp [mass]
      · simp [mass,names_single nothing inside]

theorem mass_append (front back : List α) : f.mass (front ++ back) = f.mass front + f.mass back := by
  have whole := f.mass_count (front ++ back)
  have left := f.mass_count front
  have right := f.mass_count back
  rw [f.length,count_append] at whole
  omega

theorem mass_eq_zero : f.mass text = 0 ↔ ∀ u ∈ text, u = sep := by
  constructor
  · intro nothing u member
    have total := f.mass_count text
    have grown := f.grows text
    have most : text.length ≤ text.count sep := by omega
    exact (count_eq_length.mp (Nat.le_antisymm count_le_length most) u member).symm
  · intro separators
    have none_left := names_separators separators []
    rw [append_nil,names_nil] at none_left
    simp [mass,none_left]

/-- Cutting units off the front leaves the names what they were, up to the folding, if and only if the
units are separators. -/
theorem names_drop_iff (count : Nat) :
    (names sep (path.drop count)).map f.fold = (names sep path).map f.fold ↔
      ∀ u ∈ path.take count, u = sep := by
  constructor
  · intro same
    rw [← f.mass_eq_zero]
    have equal : f.mass (path.drop count) = f.mass path := by
      have lengths := congrArg (fun parts : List (List α) => (parts.map List.length).sum) same
      simpa [mass,map_map,Function.comp_def] using lengths
    have total := f.mass_append (path.take count) (path.drop count)
    rw [take_append_drop] at total
    omega
  · intro separators
    have front := names_separators separators (path.drop count)
    rw [take_append_drop] at front
    rw [front]

end Folding

end GjcRemote.PathNames
