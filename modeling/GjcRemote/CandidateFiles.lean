import GjcRemote.CandidateTree
import GjcRemote.ContainmentPlaces

/-! Trees of files and directories: the files below a node, where a path leads in a tree, and the paths that
the resolver emits for it. -/
namespace GjcRemote.CandidateTree

open Utf16 StrictJson Record PathNames Containment List
open Workspace.Pointer (isWindowsReserved hasDrivePrefix)
open MappingEnvelope (isDotSegment isLetter)

inductive Node where
  | file (content : List UInt8)
  | directory (entries : List (Units × Node))

/-- The rules of a manifest for a segment of a path; how long a path may be is no rule for a segment. -/
structure SegmentRules (name : Units) : Prop where
  text : StrictUnits name
  slash : 0x2F ∉ name
  backslash : 0x5C ∉ name
  segment : ∀ path, assertSegment path name = .ok ()

mutual
/-- The files below a node, each with the names that lead to it. -/
def Node.files : Node → List (List Units × List UInt8)
  | .file content => [([],content)]
  | .directory entries => entryFiles entries
def entryFiles : List (Units × Node) → List (List Units × List UInt8)
  | [] => []
  | (name,node) :: rest => (node.files.map fun file => (name :: file.1,file.2)) ++ entryFiles rest
end

mutual
/-- Every name is a segment, and no directory has a name twice. -/
def Node.Legal : Node → Prop
  | .file _ => True
  | .directory entries => (entries.map Prod.fst).Nodup ∧ EntriesLegal entries
def EntriesLegal : List (Units × Node) → Prop
  | [] => True
  | (name,node) :: rest => SegmentRules name ∧ node.Legal ∧ EntriesLegal rest
end

mutual
def Node.depth : Node → Nat
  | .file _ => 0
  | .directory entries => entriesDepth entries + 1
def entriesDepth : List (Units × Node) → Nat
  | [] => 0
  | (_,node) :: rest => max node.depth (entriesDepth rest)
end

def Node.resolve : Node → List Units → Option Node
  | node,[] => some node
  | .file _,_ :: _ => none
  | .directory entries,name :: rest =>
    (entries.find? fun entry => entry.1 == name).bind fun entry => entry.2.resolve rest

structure Tree where
  entries : List (Units × Node)
  legal : (Node.directory entries).Legal

def Tree.root (tree : Tree) : Node := .directory tree.entries

theorem entriesLegal_iff :
    EntriesLegal entries ↔ ∀ entry ∈ entries, SegmentRules entry.1 ∧ entry.2.Legal := by
  induction entries with
  | nil => simp [EntriesLegal]
  | cons entry rest ih =>
    rw [EntriesLegal,ih,forall_mem_cons,and_assoc]

theorem mem_entryFiles :
    file ∈ entryFiles entries ↔
      ∃ entry ∈ entries, ∃ below ∈ entry.2.files, file = (entry.1 :: below.1,below.2) := by
  induction entries with
  | nil => simp [entryFiles]
  | cons entry rest ih =>
    rw [entryFiles,mem_append,ih,exists_mem_cons_iff,mem_map]
    simp only [eq_comm]

theorem depth_le (member : entry ∈ entries) :
    entry.2.depth ≤ entriesDepth entries := by
  induction entries with
  | nil => cases member
  | cons first rest ih =>
    rcases mem_cons.mp member with rfl | later
    · exact Nat.le_max_left _ _
    · exact Nat.le_trans (ih later) (Nat.le_max_right _ _)

theorem find_entry {entries : List (Units × Node)} (distinct : (entries.map Prod.fst).Nodup)
    (member : entry ∈ entries) :
    (entries.find? fun other => other.1 == entry.1) = some entry := by
  induction entries with
  | nil => cases member
  | cons first rest ih =>
    rw [map_cons,nodup_cons] at distinct
    rcases mem_cons.mp member with rfl | later
    · rw [find?_cons_of_pos (by simp)]
    · have other : first.1 ≠ entry.1 := fun same =>
        distinct.1 (mem_map.mpr ⟨entry,later,same.symm⟩)
      rw [find?_cons_of_neg (by simpa using other)]
      exact ih distinct.2 later

theorem resolve_nil (node : Node) : node.resolve [] = some node := by cases node <;> rfl

theorem resolve_append (node : Node) (front back : List Units) :
    node.resolve (front ++ back) = (node.resolve front).bind fun inner => inner.resolve back := by
  induction front generalizing node with
  | nil => rw [nil_append,resolve_nil,Option.bind_some]
  | cons name rest ih =>
    cases node with
    | file content => rfl
    | directory entries =>
      rw [cons_append,Node.resolve,Node.resolve,Option.bind_assoc]
      exact Option.bind_congr fun entry _ => ih entry.2

theorem resolve_entry {node : Node}
    (found : node.resolve segments = some (.directory entries)) (distinct : (entries.map Prod.fst).Nodup)
    (member : entry ∈ entries) :
    node.resolve (segments ++ [entry.1]) = some entry.2 := by
  rw [resolve_append,found,Option.bind_some,Node.resolve,find_entry distinct member,
    Option.bind_some,resolve_nil]

/-- The names of a file lead to it, and all of them are segments. -/
theorem file_resolves : ∀ {segments : List Units} {node : Node}, node.Legal → (segments,content) ∈ node.files →
      node.resolve segments = some (.file content) ∧ ∀ name ∈ segments, SegmentRules name := by
  intro segments
  induction segments with
  | nil =>
    intro node _ member
    cases node with
    | file other =>
      obtain rfl : content = other := by simpa [Node.files] using member
      exact ⟨rfl,by simp⟩
    | directory entries =>
      rw [Node.files,mem_entryFiles] at member
      obtain ⟨_,_,_,_,same⟩ := member
      cases same
  | cons name rest ih =>
    intro node legal member
    cases node with
    | file other => simp [Node.files] at member
    | directory entries =>
      rw [Node.files,mem_entryFiles] at member
      obtain ⟨entry,among,below,inside,same⟩ := member
      obtain ⟨rfl,rfl⟩ := cons.inj (congrArg Prod.fst same)
      obtain rfl : content = below.2 := congrArg Prod.snd same
      have child := entriesLegal_iff.mp legal.2 entry among
      obtain ⟨found,rules⟩ := ih child.2 inside
      rw [Node.resolve,find_entry legal.1 among,Option.bind_some]
      exact ⟨found,forall_mem_cons.mpr ⟨child.1,rules⟩⟩

mutual
/-- No two files have the same names. -/
theorem files_distinct : ∀ {node : Node}, node.Legal → (node.files.map Prod.fst).Nodup
  | .file _,_ => by simp [Node.files]
  | .directory entries,legal => by
    exact entryFiles_distinct legal.1 legal.2
theorem entryFiles_distinct : ∀ {entries : List (Units × Node)}, (entries.map Prod.fst).Nodup →
    EntriesLegal entries → ((entryFiles entries).map Prod.fst).Nodup
  | [],_,_ => by simp [entryFiles]
  | (name,node) :: rest,distinct,legal => by
    rw [map_cons,nodup_cons] at distinct
    have own := files_distinct legal.2.1
    have later := entryFiles_distinct distinct.2 legal.2.2
    rw [entryFiles,map_append,nodup_append']
    refine ⟨?_,later,?_⟩
    · have prefixed : (node.files.map fun file => (name :: file.1,file.2)).map Prod.fst =
          (node.files.map Prod.fst).map (name :: ·) := by simp [Function.comp_def]
      rw [prefixed]
      exact own.map (cons_injective)
    · intro path left right
      obtain ⟨file,inside,rfl⟩ := mem_map.mp left
      obtain ⟨below,_,rfl⟩ := mem_map.mp inside
      obtain ⟨other,among,same⟩ := mem_map.mp right
      obtain ⟨entry,member,_,_,rfl⟩ := mem_entryFiles.mp among
      exact distinct.1 (mem_map.mpr ⟨entry,member,(cons.inj same).1⟩)
end

theorem no_nul (strict : StrictUnits text) : 0 ∉ text := by
  induction strict with
  | nil => simp
  | plain clear _ _ _ ih =>
    rw [mem_cons,not_or]
    refine ⟨?_,ih⟩
    rintro rfl
    cases clear
  | pair high low _ ih =>
    rw [mem_cons,mem_cons,not_or,not_or]
    refine ⟨?_,?_,ih⟩
    · rintro rfl
      cases high
    · rintro rfl
      cases low

theorem strict_append (first : StrictUnits front) (second : StrictUnits back) :
    StrictUnits (front ++ back) := by
  induction first with
  | nil => exact second
  | plain clear high low _ ih => exact .plain clear high low ih
  | pair high low _ ih => exact .pair high low ih

structure SegmentFacts (name : Units) : Prop where
  long : name ≠ []
  dots : name ≠ ofString "." ∧ name ≠ ofString ".."
  colon : 0x3A ∉ name
  last : name.getLast? ≠ some 0x20 ∧ name.getLast? ≠ some 0x2E
  reserved : isWindowsReserved name = false

theorem assertSegment_ok : assertSegment path name = .ok () ↔ SegmentFacts name := by
  unfold assertSegment
  constructor
  · intro accepted
    obtain ⟨⟨⟩,long,accepted⟩ := except_bind_ok.mp accepted
    obtain ⟨⟨⟩,dots,accepted⟩ := except_bind_ok.mp accepted
    obtain ⟨⟨⟩,colon,accepted⟩ := except_bind_ok.mp accepted
    obtain ⟨⟨⟩,last,reserved⟩ := except_bind_ok.mp accepted
    simp only [check_ok,bne_iff_ne,Bool.and_eq_true,Bool.not_eq_true',contains_eq_mem,
      decide_eq_false_iff_not] at long dots colon last reserved
    exact ⟨long,dots,colon,last,reserved⟩
  · intro facts
    simp [check,bind,Except.bind,facts.long,facts.dots.1,facts.dots.2,facts.colon,facts.last.1,facts.last.2,
      facts.reserved]

theorem SegmentRules.facts (rules : SegmentRules name) : SegmentFacts name :=
  assertSegment_ok.mp (rules.segment [])

/-- The end of a segment is no dot segment. -/
theorem suffix_plain {name whole : Units} (rules : SegmentRules whole) (ends : name <:+ whole) :
    isDotSegment name = false := by
  rw [Bool.eq_false_iff]
  intro dotted
  have last : name.getLast? = some 0x2E := by
    rcases (by simpa [isDotSegment] using dotted : name = [0x2E] ∨ name = [0x2E,0x2E]) with rfl | rfl <;> rfl
  obtain ⟨front,rfl⟩ := ends
  have long : name ≠ [] := by
    rintro rfl
    cases last
  exact rules.facts.last.2 (by rw [getLast?_append_of_ne_nil _ long,last])

section Paths

variable {platform : SourcePlatform} {segments : List Units}
variable (rules : ∀ name ∈ segments, SegmentRules name)

include rules in
theorem segments_solid : ∀ name ∈ segments, separatorFor platform ∉ name := by
  intro name member
  cases platform with
  | posix => exact (rules name member).slash
  | windowsDrive => exact (rules name member).backslash

include rules in
theorem names_segments : names (separatorFor platform) (join (separatorFor platform) segments) = segments :=
  names_join (fun name member => (rules name member).facts.long) (segments_solid rules)

/-- A unit that no segment has and that is no separator is not in the path. -/
theorem not_mem_path (other : u ≠ separatorFor platform) (absent : ∀ name ∈ segments, u ∉ name) :
    u ∉ join (separatorFor platform) segments := by
  intro inside
  rcases mem_join inside with same | ⟨name,member,within⟩
  · exact other same
  · exact absent name member within

include rules in
theorem path_native :
    normalize platform (join (separatorFor platform) segments) = join (separatorFor platform) segments := by
  cases platform with
  | posix => rfl
  | windowsDrive =>
    have native : 0x2F ∉ join (separatorFor .windowsDrive) segments :=
      not_mem_path (by decide) fun name member => (rules name member).slash
    refine (map_congr_left fun u member => if_neg ?_).trans (map_id _)
    rintro rfl
    exact native member

include rules in
theorem path_head (nonempty : segments ≠ []) :
    ∃ first rest, join (separatorFor platform) segments = first :: rest ∧ first ≠ 0x2F ∧ first ≠ 0x5C := by
  obtain ⟨name,later,rfl⟩ := exists_cons_of_ne_nil nonempty
  have own := rules name mem_cons_self
  obtain ⟨first,others,same⟩ := exists_cons_of_ne_nil own.facts.long
  have solid : first ≠ 0x2F ∧ first ≠ 0x5C := by
    refine ⟨?_,?_⟩
    · rintro rfl
      exact own.slash (by rw [same]; exact mem_cons_self)
    · rintro rfl
      exact own.backslash (by rw [same]; exact mem_cons_self)
  by_cases last : later = []
  · exact ⟨first,others,by simp [last,join,same],solid⟩
  · refine ⟨first,others ++ separatorFor platform :: join (separatorFor platform) later,?_,solid⟩
    rw [join_cons _ name last,same,cons_append]

include rules in
theorem path_relative (nonempty : segments ≠ []) :
    isAbsolute platform (join (separatorFor platform) segments) = false := by
  rw [Bool.eq_false_iff]
  intro absolute
  obtain ⟨first,rest,starts,solid⟩ := @path_head platform segments rules nonempty
  cases platform with
  | posix =>
    rw [starts] at absolute
    exact solid.1 (by simpa [isAbsolute] using absolute)
  | windowsDrive =>
    obtain ⟨head,tail,⟨letter,_,rfl⟩,shape⟩ := isAbsolute_iff.mp absolute
    have colon : 0x3A ∉ join (separatorFor .windowsDrive) segments :=
      not_mem_path (by decide) fun name member => (rules name member).facts.colon
    exact colon (by rw [shape]; simp)

variable (lower : Folding (0x5C : UInt16)) (root : Units)

include rules in
theorem path_printable : 0 ∉ join (separatorFor platform) segments :=
  not_mem_path (by cases platform <;> decide) fun name member => no_nul (rules name member).text

include rules in
/-- The reader opens the path of the segments below its root. -/
theorem resolvedPath_segments (nonempty : segments ≠ []) :
    resolvedPath lower.fold root (join (separatorFor platform) segments) platform =
      .ok (joined (separatorFor platform) root segments) := by
  have long : join (separatorFor platform) segments ≠ [] := by
    obtain ⟨first,rest,starts,_⟩ := @path_head platform segments rules nonempty
    rw [starts]
    exact cons_ne_nil _ _
  have native := @path_native platform segments rules
  have components : relativeComponents lower.fold root (join (separatorFor platform) segments) platform =
      .ok segments := by
    rw [relativeComponents_relative lower root long (path_printable rules)
      (by rw [native]; exact path_relative rules nonempty),native]
    refine relativeParts_ok.mpr ⟨(names_segments rules).symm,fun name member => ?_⟩
    rw [names_segments rules] at member
    exact suffix_plain (rules name member) suffix_rfl
  have single : (segments.all fun component =>
      !component.contains 0x2F && !component.contains 0x5C) = true := by
    rw [all_eq_true]
    intro name member
    simp [(rules name member).slash,(rules name member).backslash]
  simp only [resolvedPath,components,bind,Except.bind,check,single,reduceIte]
  rfl

theorem normalize_append (front back : Units) :
    normalize platform (front ++ back) = normalize platform front ++ normalize platform back := by
  cases platform with
  | posix => rfl
  | windowsDrive => exact map_append

include rules in
theorem normalize_candidate :
    normalize platform (root ++ separatorFor platform :: join (separatorFor platform) segments) =
      normalize platform root ++ separatorFor platform :: join (separatorFor platform) segments := by
  have single : normalize platform [separatorFor platform] = [separatorFor platform] := by
    cases platform <;> decide
  have split : root ++ separatorFor platform :: join (separatorFor platform) segments =
      root ++ ([separatorFor platform] ++ join (separatorFor platform) segments) := by simp
  rw [split,normalize_append,normalize_append,single,path_native rules,singleton_append]

include rules in
/-- What is left when at least the root is cut off ends segments. -/
theorem left_names {front : Units} {count : Nat} (far : front.length ≤ count) :
    ∀ name ∈ names (separatorFor platform)
        ((front ++ separatorFor platform :: join (separatorFor platform) segments).drop count),
      ∃ whole ∈ segments, name <:+ whole := by
  intro name member
  rw [drop_append,drop_eq_nil_of_le far,nil_append] at member
  obtain ⟨whole,among,ends⟩ := names_drop_suffix _ _ name member
  have all := names_append (separatorFor platform) [] (join (separatorFor platform) segments)
  rw [nil_append,names_nil,nil_append,names_segments rules] at all
  exact ⟨whole,all ▸ among,ends⟩

include rules in
/-- The lexical guard lets every path of segments below the root through. -/
theorem guard_accepts (printable : 0 ∉ root) (absolute : isAbsolute platform (normalize platform root) = true) :
    ∃ components, relativeComponents lower.fold root
        (root ++ separatorFor platform :: join (separatorFor platform) segments) platform = .ok components ∧
      (components.any fun component => component.contains 0x2F || component.contains 0x5C) = false := by
  have clean : 0 ∉ root ++ separatorFor platform :: join (separatorFor platform) segments := by
    rw [mem_append,mem_cons,not_or,not_or]
    exact ⟨printable,by cases platform <;> decide,path_printable rules⟩
  have absolute' : isAbsolute platform (normalize platform root ++
      separatorFor platform :: join (separatorFor platform) segments) = true := by
    obtain ⟨head,rest,isHead,shape⟩ := isAbsolute_iff.mp absolute
    rw [shape]
    exact isAbsolute_iff.mpr ⟨head,_,isHead,by rw [append_assoc,cons_append]⟩
  unfold relativeComponents
  simp only [folded_eq,normalize_candidate rules]
  simp only [check,bind,Except.bind,bne_iff_ne,ne_eq,append_eq_nil_iff,reduceCtorEq,and_false,
    not_false_eq_true,reduceIte,contains_eq_mem,clean,decide_false,Bool.not_false,absolute']
  split
  · exact ⟨[],rfl,rfl⟩
  · let image := (foldingOf lower platform).fold (normalize platform root)
    let start := if endsWith (separatorFor platform) image then image else image ++ [separatorFor platform]
    have starts : start.isPrefixOf ((foldingOf lower platform).fold (normalize platform root ++
        separatorFor platform :: join (separatorFor platform) segments)) = true := by
      rw [ isPrefixOf_iff_prefix,Folding.separator]
      simp only [start]
      split
      · exact prefix_append _ _
      · exact ⟨_,append_assoc _ _ _⟩
    have far : (normalize platform root).length ≤ start.length := by
      have grown := (foldingOf lower platform).grows (normalize platform root)
      simp only [start,image]
      split
      · exact grown
      · rw [length_append]
        exact Nat.le_add_right_of_le grown
    have left := @left_names platform segments rules _ _ far
    refine ⟨names (separatorFor platform) ((normalize platform root ++
        separatorFor platform :: join (separatorFor platform) segments).drop start.length),?_,?_⟩
    · rw [if_pos starts]
      refine relativeParts_ok.mpr ⟨rfl,fun name member => ?_⟩
      obtain ⟨whole,among,ends⟩ := left name member
      exact suffix_plain (rules whole among) ends
    · rw [any_eq_false]
      intro name member
      obtain ⟨whole,among,ends⟩ := left name member
      have slash : 0x2F ∉ name := fun inside => (rules whole among).slash (ends.subset inside)
      have backslash : 0x5C ∉ name := fun inside => (rules whole among).backslash (ends.subset inside)
      simp [slash,backslash]

end Paths

end GjcRemote.CandidateTree
