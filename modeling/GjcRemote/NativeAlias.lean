import GjcRemote.OrderedMap
import GjcRemote.PathNames
import GjcRemote.Record
import Mathlib.Data.List.Induction
import Mathlib.Data.List.Perm.Subperm

/-! The alias check of `nativeFiles` in `native-control/src/service-acquisition.js`: every package path that
Node may resolve shows the files at the root. -/
namespace GjcRemote.NativeAlias

open Utf16 StrictJson PathNames
open Record (check check_ok)
open List hiding get set

structure FileRecord where
  path : Units
  size : Nat
  sha256 : Units
  executablePolicy : Units

def slash : UInt16 := 0x2F

def nodeModules : Units := ofString "node_modules"

def NATIVE_ALIAS_SEGMENTS : List Units := [nodeModules,ofString "@gjc-remote",ofString "native-control"]

def PRIMARY_NATIVE_ALIAS : Units := ofString "node_modules/@gjc-remote/native-control"

def rootPrefix : Units := ofString "native-control/"

def METADATA_INVALID : String := "SERVICE_ACQUISITION_NATIVE_METADATA_INVALID"

def FileRecord.segments (record : FileRecord) : List Units := record.path.splitOn slash

section

variable (files : List FileRecord)

def recordRoot (root : OrderedMap Units FileRecord) (record : FileRecord) : OrderedMap Units FileRecord :=
  if rootPrefix.isPrefixOf record.path then
    let relative := record.path.drop rootPrefix.length
    if relative.isEmpty || relative == nodeModules || (nodeModules ++ [slash]).isPrefixOf relative then root
    else root.set relative record
  else root

def rootFiles : OrderedMap Units FileRecord := files.foldl recordRoot .empty

/-- The positions that the two loops go through. -/
def positions : List (FileRecord × Nat) :=
  files.flatMap fun record =>
    (range (record.segments.length + 1 - NATIVE_ALIAS_SEGMENTS.length)).map fun index => (record,index)

-- `toLowerCase().toUpperCase()` of a segment, and whether the platform is Windows.
variable (fold : Units → Units) (win32 : Bool)

/-- What is at a position: a refusal, no alias, or the path of one and whether its file is counted. -/
def aliasAt (root : OrderedMap Units FileRecord) (position : FileRecord × Nat) :
    Except String (Option (Units × Bool)) :=
  let (record,index) := position
  let candidate := (record.segments.drop index).take NATIVE_ALIAS_SEGMENTS.length
  let exactAlias := candidate == NATIVE_ALIAS_SEGMENTS
  if win32 && candidate.map fold == NATIVE_ALIAS_SEGMENTS.map fold && !exactAlias then .error METADATA_INVALID
  else if !exactAlias then .ok none
  else
    let aliasPath := join slash (record.segments.take (index + NATIVE_ALIAS_SEGMENTS.length))
    match record.segments.drop (index + NATIVE_ALIAS_SEGMENTS.length) with
    | [] => .error METADATA_INVALID
    | first :: rest =>
      if first = nodeModules then .ok (some (aliasPath,false))
      else
        match root.get (join slash (first :: rest)) with
        | none => .error METADATA_INVALID
        | some rootRecord =>
          if record.size = rootRecord.size ∧ record.sha256 = rootRecord.sha256 ∧
              record.executablePolicy = rootRecord.executablePolicy then .ok (some (aliasPath,true))
          else .error METADATA_INVALID

def countAlias (aliases : OrderedMap Units Nat) (found : Units × Bool) : OrderedMap Units Nat :=
  let known := (aliases.get found.1).getD 0
  aliases.set found.1 (if found.2 then known + 1 else known)

def scan (root : OrderedMap Units FileRecord) : Except String (OrderedMap Units Nat) :=
  (positions files).foldlM (fun aliases position => do
    let found ← aliasAt fold win32 root position
    return found.elim aliases (countAlias aliases)) .empty

/-- The check up to the native addon and its metadata. -/
def nativeFiles : Except String Unit := do
  let root := rootFiles files
  let aliases ← scan files fold win32 root
  check (root.size ≠ 0 && (aliases.get PRIMARY_NATIVE_ALIAS).isSome) METADATA_INVALID
  check (aliases.entries.all fun entry => entry.2 = root.size) METADATA_INVALID

end

section Exact

variable (files : List FileRecord) (fold : Units → Units) (win32 : Bool)

def FileRecord.facts (record : FileRecord) : Nat × Units × Units :=
  (record.size,record.sha256,record.executablePolicy)

/-- What a package depends on lies elsewhere. -/
def Own (relative : List Units) : Prop := relative.head? ≠ some nodeModules

instance (relative : List Units) : Decidable (Own relative) := inferInstanceAs (Decidable (_ ≠ _))

def Shows (directory relative : List Units) (facts : Nat × Units × Units) : Prop :=
  ∃ record ∈ files, record.segments = directory ++ relative ∧ record.facts = facts

/-- A file at the root has a name. -/
def ShowsRoot (relative : List Units) (facts : Nat × Units × Units) : Prop :=
  relative ≠ [] ∧ relative ≠ [[]] ∧ Shows files [ofString "native-control"] relative facts

/-- What Node may resolve is what was verified at the root. -/
structure Exact : Prop where
  filled : ∃ relative facts, Own relative ∧ ShowsRoot files relative facts
  primary : ∃ record ∈ files, NATIVE_ALIAS_SEGMENTS <+: record.segments
  same : ∀ file ∈ files, ∀ directory, directory <+: file.segments → NATIVE_ALIAS_SEGMENTS <:+ directory →
    ∀ relative facts, Own relative → (Shows files directory relative facts ↔ ShowsRoot files relative facts)
  spelled : win32 = true → ∀ file ∈ files, ∀ candidate, candidate <:+: file.segments →
    candidate.map fold = NATIVE_ALIAS_SEGMENTS.map fold → candidate = NATIVE_ALIAS_SEGMENTS

end Exact

section Segments

variable {record : FileRecord} {parts : List Units}

theorem segments_solid (record : FileRecord) : ∀ part ∈ record.segments, slash ∉ part :=
  splitOn_solid record.path

theorem join_segments (record : FileRecord) : join slash record.segments = record.path :=
  intercalate_splitOn slash

theorem splitOn_join (solid : ∀ part ∈ parts, slash ∉ part) (filled : parts ≠ []) :
    (join slash parts).splitOn slash = parts :=
  splitOn_intercalate slash solid filled

theorem splitOn_part {part : Units} (solid : slash ∉ part) (rest : Units) :
    (part ++ slash :: rest).splitOn slash = part :: rest.splitOn slash := by
  rw [splitOn_append_cons_self,splitOn_eq_singleton solid]
  rfl

theorem ownText_iff (text : Units) : (text.isEmpty || text == nodeModules ||
    (nodeModules ++ [slash]).isPrefixOf text) = false ↔ text ≠ [] ∧ Own (text.splitOn slash) := by
  have solid : slash ∉ nodeModules := by decide
  rw [Bool.or_eq_false_iff,Bool.or_eq_false_iff,isEmpty_eq_false_iff,beq_eq_false_iff_ne,and_assoc,Own]
  refine and_congr_right fun _ => ?_
  constructor
  · rintro ⟨apart,longer⟩ first
    obtain ⟨rest,split⟩ : ∃ rest, text.splitOn slash = nodeModules :: rest := by
      cases split : text.splitOn slash with
      | nil => simp [split] at first
      | cons part rest =>
        rw [split,head?_cons,Option.some.injEq] at first
        exact ⟨rest,by rw [first]⟩
    have whole : join slash (nodeModules :: rest) = text := by
      rw [← split]
      exact intercalate_splitOn slash
    by_cases last : rest = []
    · subst last
      exact apart (by rw [← whole]; simp [join])
    · rw [join_cons slash _ last] at whole
      have opens : (nodeModules ++ [slash]).isPrefixOf text = true :=
        isPrefixOf_iff_prefix.mpr ⟨join slash rest,by simpa using whole⟩
      rw [opens] at longer
      cases longer
  · intro first
    constructor
    · rintro rfl
      exact first (by rw [splitOn_eq_singleton solid]; rfl)
    · rw [Bool.eq_false_iff]
      intro opens
      obtain ⟨rest,rfl⟩ := isPrefixOf_iff_prefix.mp opens
      rw [append_assoc,singleton_append,splitOn_part solid] at first
      exact first rfl

theorem root_path (record : FileRecord) (relative : Units) : record.path = rootPrefix ++ relative ↔
    record.segments = [ofString "native-control"] ++ relative.splitOn slash := by
  have solid : slash ∉ ofString "native-control" := by decide
  have opening : rootPrefix = ofString "native-control" ++ [slash] := by decide
  rw [opening,append_assoc,singleton_append,singleton_append]
  constructor
  · intro same
    rw [FileRecord.segments,same,splitOn_part solid]
  · intro same
    have whole := join_segments record
    rw [same,join_cons slash _ (splitOn_ne_nil slash relative)] at whole
    rw [← whole,join,intercalate_splitOn]

end Segments

section Root

variable {files : List FileRecord}

theorem recordRoot_get (root : OrderedMap Units FileRecord) (record : FileRecord) (relative : Units) :
    (recordRoot root record).get relative =
      if record.path = rootPrefix ++ relative ∧ relative ≠ [] ∧ Own (relative.splitOn slash) then some record
      else root.get relative := by
  unfold recordRoot
  split
  · next opens =>
    obtain ⟨rest,same⟩ := isPrefixOf_iff_prefix.mp opens
    rw [← same,drop_left]
    simp only [append_cancel_left_eq]
    split
    · next excluded =>
      rw [if_neg]
      rintro ⟨rfl,own⟩
      rw [(ownText_iff rest).mpr own] at excluded
      cases excluded
    · next own =>
      rw [Bool.not_eq_true] at own
      rw [OrderedMap.get_set]
      by_cases named : relative = rest
      · subst named
        rw [if_pos rfl,if_pos ⟨rfl,(ownText_iff relative).mp own⟩]
      · rw [if_neg named,if_neg fun same => named same.1.symm]
  · next apart =>
    rw [if_neg]
    rintro ⟨same,_⟩
    exact apart ( isPrefixOf_iff_prefix.mpr ⟨relative,same.symm⟩)

/-- The root's files under their names. -/
theorem rootFiles_get (unique : (files.map FileRecord.path).Nodup) :
    (rootFiles files).get relative = some record ↔
      record ∈ files ∧ record.path = rootPrefix ++ relative ∧ relative ≠ [] ∧
        Own (relative.splitOn slash) := by
  induction files using List.reverseRecOn with
  | nil => simp [rootFiles]
  | append_singleton files last ih =>
    rw [map_append,nodup_append] at unique
    have ih := ih unique.1
    rw [rootFiles,foldl_append,foldl_cons,foldl_nil,recordRoot_get,← rootFiles,mem_append,mem_singleton]
    split
    · next own =>
      constructor
      · rintro ⟨⟩
        exact ⟨.inr rfl,own⟩
      · rintro ⟨earlier | rfl,placed,_⟩
        · refine absurd (placed.trans own.1.symm) (unique.2.2 _ (mem_map_of_mem earlier) _ ?_)
          exact mem_map_of_mem mem_cons_self
        · rfl
    · next apart =>
      rw [ih]
      constructor
      · rintro ⟨earlier,own⟩
        exact ⟨.inl earlier,own⟩
      · rintro ⟨earlier | rfl,own⟩
        · exact ⟨earlier,own⟩
        · exact absurd own apart

theorem ShowsRoot.solid (shown : ShowsRoot files relative facts) : ∀ part ∈ relative, slash ∉ part := by
  obtain ⟨_,_,record,_,placed,_⟩ := shown
  exact fun part listed => segments_solid record part (placed ▸ mem_append_right _ listed)

theorem mem_rootFiles (unique : (files.map FileRecord.path).Nodup) {relative : List Units}
    (solid : ∀ part ∈ relative, slash ∉ part) (some_relative : relative ≠ []) (own : Own relative)
    (facts : Nat × Units × Units) :
    (∃ record, (rootFiles files).get (join slash relative) = some record ∧ record.facts = facts) ↔
      ShowsRoot files relative facts := by
  have split := splitOn_join solid some_relative
  have named : join slash relative ≠ [] ↔ relative ≠ [[]] := by
    refine not_congr ⟨fun none => ?_,fun none => ?_⟩
    · rw [← split,none]
      rfl
    · rw [none]
      rfl
  simp only [rootFiles_get unique,root_path,split,named,ShowsRoot,Shows]
  constructor
  · rintro ⟨record,⟨listed,placed,other,_⟩,same⟩
    exact ⟨some_relative,other,record,listed,placed,same⟩
  · rintro ⟨_,other,record,listed,placed,same⟩
    exact ⟨record,⟨listed,placed,other,own⟩,same⟩

theorem rootFiles_filled (unique : (files.map FileRecord.path).Nodup) :
    (rootFiles files).size ≠ 0 ↔ ∃ relative facts, Own relative ∧ ShowsRoot files relative facts := by
  rw [OrderedMap.size,Nat.ne_zero_iff_zero_lt,length_pos_iff_exists_mem]
  constructor
  · rintro ⟨⟨name,record⟩,listed⟩
    have known := OrderedMap.get_eq_some.mpr listed
    obtain ⟨_,_,_,own⟩ := (rootFiles_get unique).mp known
    have joined : join slash (name.splitOn slash) = name := intercalate_splitOn slash
    refine ⟨name.splitOn slash,record.facts,own,?_⟩
    refine (mem_rootFiles unique (splitOn_solid name) (splitOn_ne_nil slash name) own record.facts).mp ?_
    exact ⟨record,joined.symm ▸ known,rfl⟩
  · rintro ⟨relative,facts,own,shown⟩
    obtain ⟨record,known,_⟩ := (mem_rootFiles unique shown.solid shown.1 own facts).mpr shown
    exact ⟨_,OrderedMap.get_eq_some.mp known⟩

end Root

section Scan

variable {files : List FileRecord} {fold : Units → Units} {win32 : Bool} {root : OrderedMap Units FileRecord}

theorem mem_positions : (record,index) ∈ positions files ↔
    record ∈ files ∧ index + 3 ≤ record.segments.length := by
  have three : NATIVE_ALIAS_SEGMENTS.length = 3 := rfl
  simp only [positions,mem_flatMap,mem_map,mem_range,three,Prod.mk.injEq]
  constructor
  · rintro ⟨_,listed,_,inside,rfl,rfl⟩
    exact ⟨listed,by omega⟩
  · rintro ⟨listed,inside⟩
    exact ⟨record,listed,index,by omega,rfl,rfl⟩

theorem positions_nodup (unique : files.Nodup) : (positions files).Nodup := by
  refine nodup_flatMap.mpr ⟨fun record _ => ?_,unique.imp fun {one other} apart => ?_⟩
  · exact nodup_range.map fun _ _ same => congrArg Prod.snd same
  · intro position first second
    obtain ⟨_,_,rfl⟩ := mem_map.mp first
    obtain ⟨_,_,same⟩ := mem_map.mp second
    exact apart (congrArg Prod.fst same).symm

/-- A position lies at the end of the path of a directory. -/
theorem candidate_iff {parts : List Units} (inside : index + 3 ≤ parts.length) :
    (parts.drop index).take 3 = NATIVE_ALIAS_SEGMENTS ↔ NATIVE_ALIAS_SEGMENTS <:+ parts.take (index + 3) := by
  have length : (parts.take (index + 3)).length - NATIVE_ALIAS_SEGMENTS.length = index := by
    rw [length_take,Nat.min_eq_left inside]
    rfl
  rw [suffix_iff_eq_drop,length,drop_take,Nat.add_sub_cancel_left,eq_comm]

/-- What is found at a position that is not refused. -/
def found (fold : Units → Units) (win32 : Bool) (root : OrderedMap Units FileRecord) (position : FileRecord × Nat) :
    Option (Units × Bool) := (aliasAt fold win32 root position).toOption.join

def tally (found : α → Option (Units × Bool)) (positions : List α) : OrderedMap Units Nat :=
  positions.foldl (fun aliases position => (found position).elim aliases (countAlias aliases)) .empty

theorem foldlM_ok {σ α β ε : Type} (check : α → Except ε (Option β)) (step : σ → β → σ) (list : List α)
    (start last : σ) :
    list.foldlM (fun state a => do let found ← check a; return found.elim state (step state)) start = .ok last ↔
      (∀ a ∈ list, check a = .ok (check a).toOption.join) ∧
      last = list.foldl (fun state a => (check a).toOption.join.elim state (step state)) start := by
  induction list generalizing start with
  | nil =>
    rw [foldlM_nil,foldl_nil]
    constructor
    · rintro ⟨⟩
      exact ⟨by simp,rfl⟩
    · rintro ⟨_,rfl⟩
      rfl
  | cons a rest ih =>
    rw [foldlM_cons,foldl_cons,forall_mem_cons,and_assoc]
    cases checked : check a with
    | error refused =>
      constructor
      · rintro ⟨⟩
      · rintro ⟨⟨⟩,_⟩
    | ok found =>
      refine (ih (found.elim start (step start))).trans ?_
      exact ⟨fun later => ⟨rfl,later⟩,fun all => all.2⟩

theorem scan_ok {aliases : OrderedMap Units Nat} : scan files fold win32 root = .ok aliases ↔
    (∀ position ∈ positions files, aliasAt fold win32 root position = .ok (found fold win32 root position)) ∧
      aliases = tally (found fold win32 root) (positions files) :=
  foldlM_ok ..

theorem tally_get (found : α → Option (Units × Bool)) (positions : List α) (path : Units) :
    (tally found positions).get path =
      if ∃ position ∈ positions, ∃ counted, found position = some (path,counted)
      then some (positions.countP fun position => found position = some (path,true)) else none := by
  induction positions using List.reverseRecOn with
  | nil => simp [tally]
  | append_singleton positions last ih =>
    rw [tally,foldl_append,foldl_cons,foldl_nil,← tally,countP_append,countP_singleton]
    simp only [mem_append,mem_singleton,or_and_right,exists_or,exists_eq_left]
    have known : ((tally found positions).get path).getD 0 =
        positions.countP fun position => found position = some (path,true) := by
      rw [ih]
      split
      · rfl
      · next unseen =>
        refine (countP_eq_zero.mpr fun position listed counted => ?_).symm
        exact unseen ⟨position,listed,true,of_decide_eq_true counted⟩
    cases here : found last with
    | none =>
      rw [Option.elim_none,ih]
      simp
    | some pair =>
      obtain ⟨other,counted⟩ := pair
      rw [Option.elim_some,countAlias,OrderedMap.get_set]
      by_cases same : path = other
      · subst same
        have seen : ∃ counted', some (path,counted) = some (path,counted') := ⟨counted,rfl⟩
        rw [if_pos rfl,known,if_pos (Or.inr seen)]
        cases counted <;> simp
      · rw [if_neg same,ih]
        simp [Ne.symm same]

theorem aliasAt_apart (inside : index + 3 ≤ record.segments.length)
    (apart : ¬NATIVE_ALIAS_SEGMENTS <:+ record.segments.take (index + 3)) :
    aliasAt fold win32 root (record,index) =
      if win32 = true ∧ ((record.segments.drop index).take 3).map fold = NATIVE_ALIAS_SEGMENTS.map fold
      then .error METADATA_INVALID else .ok none := by
  have other : (((record.segments.drop index).take 3) == NATIVE_ALIAS_SEGMENTS) = false :=
    beq_eq_false_iff_ne.mpr fun same => apart ((candidate_iff inside).mp same)
  have three : NATIVE_ALIAS_SEGMENTS.length = 3 := rfl
  simp only [aliasAt,three,other,Bool.not_false,Bool.and_true,if_true,Bool.and_eq_true,beq_iff_eq]

open Classical in
theorem aliasAt_exact (unique : (files.map FileRecord.path).Nodup) (inside : index + 3 ≤ record.segments.length)
    (exact : NATIVE_ALIAS_SEGMENTS <:+ record.segments.take (index + 3)) :
    aliasAt fold win32 (rootFiles files) (record,index) =
      if Own (record.segments.drop (index + 3)) then
        if ShowsRoot files (record.segments.drop (index + 3)) record.facts
        then .ok (some (join slash (record.segments.take (index + 3)),true)) else .error METADATA_INVALID
      else .ok (some (join slash (record.segments.take (index + 3)),false)) := by
  have same : (((record.segments.drop index).take 3) == NATIVE_ALIAS_SEGMENTS) = true :=
    beq_iff_eq.mpr ((candidate_iff inside).mpr exact)
  have three : NATIVE_ALIAS_SEGMENTS.length = 3 := rfl
  have solid : ∀ part ∈ record.segments.drop (index + 3), slash ∉ part :=
    fun part listed => segments_solid record part (mem_of_mem_drop listed)
  simp only [aliasAt,three,same,Bool.not_true,Bool.and_false,Bool.false_eq_true,if_false]
  cases relative : record.segments.drop (index + 3) with
  | nil =>
    rw [if_pos (by simp [Own]),if_neg fun shown => shown.1 rfl]
  | cons first rest =>
    rw [relative] at solid
    by_cases package : first = nodeModules
    · rw [if_neg (by simp [Own,package])]
      simp [package]
    · have own : Own (first :: rest) := by simpa [Own] using package
      have shown := mem_rootFiles unique solid (cons_ne_nil first rest) own record.facts
      rw [if_pos own,← shown]
      simp only [package,if_false]
      cases (rootFiles files).get (join slash (first :: rest)) with
      | none => simp
      | some rootRecord => simp [FileRecord.facts,eq_comm]

end Scan

section Counts

variable {files : List FileRecord} {fold : Units → Units} {win32 : Bool} {directory : List Units}

theorem take_segments (record : FileRecord) (inside : index + 3 ≤ record.segments.length) :
    record.segments.take (index + 3) ≠ [] ∧ (join slash (record.segments.take (index + 3))).splitOn slash =
      record.segments.take (index + 3) := by
  have filled : record.segments.take (index + 3) ≠ [] := by
    rw [ne_eq,take_eq_nil_iff]
    rintro (none | none)
    · omega
    · rw [none,length_nil] at inside
      omega
  exact ⟨filled,splitOn_join (fun part listed => segments_solid record part (mem_of_mem_take listed)) filled⟩

theorem found_counted (unique : (files.map FileRecord.path).Nodup) (inside : index + 3 ≤ record.segments.length) :
    found fold win32 (rootFiles files) (record,index) = some (path,true) ↔
      NATIVE_ALIAS_SEGMENTS <:+ record.segments.take (index + 3) ∧
      join slash (record.segments.take (index + 3)) = path ∧ Own (record.segments.drop (index + 3)) ∧
      ShowsRoot files (record.segments.drop (index + 3)) record.facts := by
  by_cases exact : NATIVE_ALIAS_SEGMENTS <:+ record.segments.take (index + 3)
  · rw [found,aliasAt_exact unique inside exact]
    split
    · next own =>
      split
      · next shown =>
        constructor
        · intro same
          exact ⟨exact,congrArg Prod.fst (Option.some.inj same),own,shown⟩
        · rintro ⟨_,rfl,_⟩
          rfl
      · next absent =>
        refine ⟨fun refused => ?_,fun all => absurd all.2.2.2 absent⟩
        cases refused
    · next other =>
      refine ⟨fun same => ?_,fun all => absurd all.2.2.1 other⟩
      cases congrArg Prod.snd (Option.some.inj same)
  · rw [found,aliasAt_apart inside exact]
    refine ⟨fun same => ?_,fun all => absurd all.1 exact⟩
    split at same
    · cases same
    · cases same

/-- The names of an alias's files that are counted. -/
def countedNames (files : List FileRecord) (fold : Units → Units) (win32 : Bool) (path : Units) : List Units :=
  ((positions files).filter fun position => found fold win32 (rootFiles files) position = some (path,true)).map
    fun position => join slash (position.1.segments.drop (position.2 + 3))

theorem mem_countedNames (unique : (files.map FileRecord.path).Nodup)
    (named : name ∈ countedNames files fold win32 path) :
    ∃ record index, (record,index) ∈ positions files ∧ join slash (record.segments.take (index + 3)) = path ∧
      Own (record.segments.drop (index + 3)) ∧ ShowsRoot files (record.segments.drop (index + 3)) record.facts ∧
      name = join slash (record.segments.drop (index + 3)) := by
  obtain ⟨⟨record,index⟩,counted,rfl⟩ := mem_map.mp named
  obtain ⟨listed,counted⟩ := mem_filter.mp counted
  obtain ⟨_,path,own,shown⟩ := (found_counted unique (mem_positions.mp listed).2).mp (of_decide_eq_true counted)
  exact ⟨record,index,listed,path,own,shown,rfl⟩

theorem drop_solid (record : FileRecord) : ∀ part ∈ record.segments.drop n, slash ∉ part :=
  fun part listed => segments_solid record part (mem_of_mem_drop listed)

theorem countedNames_nodup (unique : (files.map FileRecord.path).Nodup) :
    (countedNames files fold win32 path).Nodup := by
  refine Nodup.map_on ?_ ((positions_nodup (Nodup.of_map _ unique)).filter _)
  rintro ⟨one,index⟩ first ⟨other,index'⟩ second same
  obtain ⟨listed,first⟩ := mem_filter.mp first
  obtain ⟨listed',second⟩ := mem_filter.mp second
  obtain ⟨listed,inside⟩ := mem_positions.mp listed
  obtain ⟨listed',inside'⟩ := mem_positions.mp listed'
  obtain ⟨_,path,_,shown⟩ := (found_counted unique inside).mp (of_decide_eq_true first)
  obtain ⟨_,path',_,shown'⟩ := (found_counted unique inside').mp (of_decide_eq_true second)
  have behind : one.segments.drop (index + 3) = other.segments.drop (index' + 3) := by
    rw [← splitOn_join (drop_solid one) shown.1,← splitOn_join (drop_solid other) shown'.1]
    exact congrArg (splitOn slash) same
  have front : one.segments.take (index + 3) = other.segments.take (index' + 3) := by
    rw [← (take_segments one inside).2,← (take_segments other inside').2,path,path']
  have whole : one.segments = other.segments := by
    rw [← take_append_drop (index + 3) one.segments,front,behind,take_append_drop]
  have paths : one.path = other.path := by rw [← join_segments one,whole,join_segments other]
  have records := inj_on_of_nodup_map unique listed listed' paths
  have lengths := congrArg length front
  rw [length_take_of_le inside,length_take_of_le inside'] at lengths
  exact Prod.ext records (by simpa using lengths)

theorem countedNames_subset (unique : (files.map FileRecord.path).Nodup) :
    countedNames files fold win32 path ⊆ (rootFiles files).keys := by
  intro name named
  obtain ⟨record,index,_,_,own,shown,rfl⟩ := mem_countedNames unique named
  obtain ⟨file,found,_⟩ := (mem_rootFiles unique (drop_solid record) shown.1 own record.facts).mpr shown
  exact OrderedMap.mem_keys.mpr ⟨file,found⟩

/-- An alias that shows as many files as there are at the root shows them all. -/
theorem shows_of_length (unique : (files.map FileRecord.path).Nodup) (solid : ∀ part ∈ directory, slash ∉ part)
    (filled : directory ≠ []) (lengths : (countedNames files fold win32 (join slash directory)).length =
      (rootFiles files).keys.length) (own : Own relative) (shown : ShowsRoot files relative facts) :
    Shows files directory relative facts := by
  have same := (subperm_of_subset (countedNames_nodup unique) (countedNames_subset unique)).perm_of_length_le lengths.ge
  obtain ⟨file,root,sameFacts⟩ := (mem_rootFiles unique shown.solid shown.1 own facts).mpr shown
  have named := same.mem_iff.mpr (OrderedMap.mem_keys.mpr ⟨file,root⟩)
  obtain ⟨record,index,listed,path,_,own',equal⟩ := mem_countedNames unique named
  obtain ⟨listed,inside⟩ := mem_positions.mp listed
  have behind : record.segments.drop (index + 3) = relative := by
    rw [← splitOn_join (drop_solid record) own'.1,← splitOn_join shown.solid shown.1,equal]
  have front : record.segments.take (index + 3) = directory := by
    rw [← (take_segments record inside).2,path,splitOn_join solid filled]
  rw [behind] at own'
  obtain ⟨file',root',recordFacts⟩ := (mem_rootFiles unique shown.solid shown.1 own record.facts).mpr own'
  rw [root] at root'
  refine ⟨record,listed,?_,?_⟩
  · rw [← front,← behind,take_append_drop]
  · rw [← recordFacts,← sameFacts,Option.some.inj root']

/-- An alias that shows every file of the root counts its name. -/
theorem counted_of_shows (unique : (files.map FileRecord.path).Nodup) (exact : NATIVE_ALIAS_SEGMENTS <:+ directory)
    (covers : ∀ relative facts, Own relative → ShowsRoot files relative facts → Shows files directory relative facts) :
    (rootFiles files).keys ⊆ countedNames files fold win32 (join slash directory) := by
  intro name named
  obtain ⟨file,root⟩ := OrderedMap.mem_keys.mp named
  obtain ⟨listed,placed,some_name,own⟩ := (rootFiles_get unique).mp root
  have nameSolid : ∀ part ∈ name.splitOn slash, slash ∉ part := splitOn_solid name
  have joined : join slash (name.splitOn slash) = name := intercalate_splitOn slash
  have shown : ShowsRoot files (name.splitOn slash) file.facts := by
    refine (mem_rootFiles unique nameSolid (splitOn_ne_nil slash name) own file.facts).mp ⟨file,?_,rfl⟩
    rwa [joined]
  obtain ⟨record,among,here,facts⟩ := covers _ _ own shown
  obtain ⟨above,rfl⟩ := exact
  have length : (above ++ NATIVE_ALIAS_SEGMENTS).length = above.length + 3 := length_append
  have inside : above.length + 3 ≤ record.segments.length := by
    rw [here,length_append,length]
    exact Nat.le_add_right ..
  have front : record.segments.take (above.length + 3) = above ++ NATIVE_ALIAS_SEGMENTS := by
    rw [here,← length,take_left]
  have behind : record.segments.drop (above.length + 3) = name.splitOn slash := by
    rw [here,← length,drop_left]
  refine mem_map.mpr ⟨(record,above.length),mem_filter.mpr ⟨mem_positions.mpr ⟨among,inside⟩,?_⟩,?_⟩
  · refine decide_eq_true ((found_counted unique inside).mpr ?_)
    rw [front,behind,facts]
    exact ⟨suffix_append above NATIVE_ALIAS_SEGMENTS,rfl,own,shown⟩
  · show join slash (record.segments.drop (above.length + 3)) = name
    rw [behind,joined]

/-- The count of an alias is that of the root exactly when it shows every file of the root. -/
theorem count_iff (unique : (files.map FileRecord.path).Nodup) (exact : NATIVE_ALIAS_SEGMENTS <:+ directory)
    (solid : ∀ part ∈ directory, slash ∉ part) (filled : directory ≠ []) :
    (positions files).countP (fun position =>
        found fold win32 (rootFiles files) position = some (join slash directory,true)) = (rootFiles files).size ↔
      ∀ relative facts, Own relative → ShowsRoot files relative facts → Shows files directory relative facts := by
  have counted : (countedNames files fold win32 (join slash directory)).Nodup := countedNames_nodup unique
  have size : (rootFiles files).size = (rootFiles files).keys.length := (length_map _).symm
  have names : (countedNames files fold win32 (join slash directory)).length = (positions files).countP
      fun position => found fold win32 (rootFiles files) position = some (join slash directory,true) := by
    rw [countedNames,length_map,countP_eq_length_filter]
  rw [← names,size]
  refine ⟨fun lengths _ _ => shows_of_length unique solid filled lengths,fun covers => ?_⟩
  have known := subperm_of_subset counted (countedNames_subset unique)
  have all : (rootFiles files).keys ⊆ countedNames files fold win32 (join slash directory) :=
    counted_of_shows unique exact covers
  exact known.length_le.antisymm (subperm_of_subset (rootFiles files).distinct all).length_le

end Counts

section Check

variable {files : List FileRecord} {fold : Units → Units} {win32 : Bool}

theorem nativeFiles_ok : nativeFiles files fold win32 = .ok () ↔
    ∃ aliases, scan files fold win32 (rootFiles files) = .ok aliases ∧ (rootFiles files).size ≠ 0 ∧
      (aliases.get PRIMARY_NATIVE_ALIAS).isSome ∧ ∀ path count, aliases.get path = some count →
        count = (rootFiles files).size := by
  rw [nativeFiles,except_bind_ok]
  refine exists_congr fun aliases => and_congr_right fun _ => ?_
  rw [except_unit_bind_ok,check_ok,check_ok,Bool.and_eq_true,decide_eq_true_eq,and_assoc,all_eq_true]
  refine and_congr_right fun _ => and_congr_right fun _ => ?_
  constructor
  · intro sizes path count known
    exact of_decide_eq_true (sizes (path,count) (OrderedMap.get_eq_some.mp known))
  · rintro sizes ⟨path,count⟩ listed
    exact decide_eq_true (sizes path count (OrderedMap.get_eq_some.mpr listed))

theorem found_path (unique : (files.map FileRecord.path).Nodup) (inside : index + 3 ≤ record.segments.length)
    (here : found fold win32 (rootFiles files) (record,index) = some (path,counted)) :
    NATIVE_ALIAS_SEGMENTS <:+ record.segments.take (index + 3) ∧
      path = join slash (record.segments.take (index + 3)) := by
  by_cases exact : NATIVE_ALIAS_SEGMENTS <:+ record.segments.take (index + 3)
  · refine ⟨exact,?_⟩
    rw [found,aliasAt_exact unique inside exact] at here
    split at here
    · split at here
      · exact (congrArg Prod.fst (Option.some.inj here)).symm
      · cases here
    · exact (congrArg Prod.fst (Option.some.inj here)).symm
  · rw [found,aliasAt_apart inside exact] at here
    split at here
    · cases here
    · cases here

theorem found_exact (unique : (files.map FileRecord.path).Nodup) (inside : index + 3 ≤ record.segments.length)
    (exact : NATIVE_ALIAS_SEGMENTS <:+ record.segments.take (index + 3))
    (passed : aliasAt fold win32 (rootFiles files) (record,index) =
      .ok (found fold win32 (rootFiles files) (record,index))) :
    ∃ counted, found fold win32 (rootFiles files) (record,index) =
      some (join slash (record.segments.take (index + 3)),counted) := by
  rw [aliasAt_exact unique inside exact] at passed
  split at passed
  · split at passed
    · exact ⟨true,(Except.ok.inj passed).symm⟩
    · cases passed
  · exact ⟨false,(Except.ok.inj passed).symm⟩

/-- A directory with the segments of an alias at its end ends at a position. -/
theorem directory_position (among : file ∈ files) (opens : directory <+: file.segments)
    (exact : NATIVE_ALIAS_SEGMENTS <:+ directory) :
    ∃ index, (file,index) ∈ positions files ∧ file.segments.take (index + 3) = directory := by
  obtain ⟨above,rfl⟩ := exact
  have length : (above ++ NATIVE_ALIAS_SEGMENTS).length = above.length + 3 := length_append
  refine ⟨above.length,mem_positions.mpr ⟨among,length ▸ opens.length_le⟩,?_⟩
  rw [← length]
  exact (prefix_iff_eq_take.mp opens).symm

theorem Exact.fine (exact : Exact files fold win32) (unique : (files.map FileRecord.path).Nodup) :
    ∀ position ∈ positions files, aliasAt fold win32 (rootFiles files) position =
      .ok (found fold win32 (rootFiles files) position) := by
  rintro ⟨record,index⟩ listed
  obtain ⟨listed,inside⟩ := mem_positions.mp listed
  by_cases here : NATIVE_ALIAS_SEGMENTS <:+ record.segments.take (index + 3)
  · rw [found,aliasAt_exact unique inside here]
    split
    · next own =>
      have shown := (exact.same record listed _ ( take_prefix ..) here _ _ own).mp
        ⟨record,listed,(take_append_drop ..).symm,rfl⟩
      rw [if_pos shown]
      rfl
    · rfl
  · rw [found,aliasAt_apart inside here,if_neg]
    · rfl
    · rintro ⟨windows,folded⟩
      have part : (record.segments.drop index).take 3 <:+: record.segments :=
        ( take_prefix ..).isInfix.trans (drop_suffix ..).isInfix
      exact here ((candidate_iff inside).mp (exact.spelled windows record listed _ part folded))

/-- No position is refused. -/
structure Fine (files : List FileRecord) (fold : Units → Units) (win32 : Bool) : Prop where
  unique : (files.map FileRecord.path).Nodup
  passed : ∀ position ∈ positions files, aliasAt fold win32 (rootFiles files) position =
    .ok (found fold win32 (rootFiles files) position)

theorem Fine.root (fine : Fine files fold win32) (ends : NATIVE_ALIAS_SEGMENTS <:+ directory) (own : Own relative)
    (shown : Shows files directory relative facts) : ShowsRoot files relative facts := by
  obtain ⟨record,among,placed,rfl⟩ := shown
  obtain ⟨index,listed,here⟩ := directory_position among ⟨relative,placed.symm⟩ ends
  have behind : record.segments.drop (index + 3) = relative := by
    rw [← take_append_drop (index + 3) record.segments,here] at placed
    exact append_cancel_left placed
  have passed := fine.passed _ listed
  rw [aliasAt_exact fine.unique (mem_positions.mp listed).2 (here ▸ ends),behind,if_pos own] at passed
  split at passed
  · assumption
  · cases passed

theorem Fine.spelled (fine : Fine files fold win32) (windows : win32 = true) (among : file ∈ files)
    (part : candidate <:+: file.segments) (folded : candidate.map fold = NATIVE_ALIAS_SEGMENTS.map fold) :
    candidate = NATIVE_ALIAS_SEGMENTS := by
  obtain ⟨front,back,whole⟩ := part
  have three : candidate.length = 3 := by
    have lengths := congrArg length folded
    rw [length_map,length_map] at lengths
    exact lengths
  have inside : front.length + 3 ≤ file.segments.length := by
    rw [← whole,length_append,length_append,three]
    omega
  have here : (file.segments.drop front.length).take 3 = candidate := by
    rw [← whole,append_assoc,drop_left,← three,take_left]
  by_contra apart
  have passed := fine.passed _ (mem_positions.mpr ⟨among,inside⟩)
  rw [aliasAt_apart inside fun ends => apart (here ▸ (candidate_iff inside).mpr ends),here,
    if_pos ⟨windows,folded⟩] at passed
  cases passed

theorem Fine.counted (fine : Fine files fold win32) (among : file ∈ files) (opens : directory <+: file.segments)
    (ends : NATIVE_ALIAS_SEGMENTS <:+ directory) :
    (tally (found fold win32 (rootFiles files)) (positions files)).get (join slash directory) =
      some ((positions files).countP fun position =>
        found fold win32 (rootFiles files) position = some (join slash directory,true)) := by
  obtain ⟨index,listed,rfl⟩ := directory_position among opens ends
  obtain ⟨counted,found⟩ := found_exact fine.unique (mem_positions.mp listed).2 ends (fine.passed _ listed)
  rw [tally_get,if_pos ⟨_,listed,counted,found⟩]

theorem Fine.alias {path : Units} {count : Nat} (fine : Fine files fold win32)
    (known : (tally (found fold win32 (rootFiles files)) (positions files)).get path = some count) :
    ∃ file ∈ files, ∃ directory, directory <+: file.segments ∧ NATIVE_ALIAS_SEGMENTS <:+ directory ∧
      path = join slash directory := by
  rw [tally_get] at known
  split at known
  · next seen =>
    obtain ⟨⟨record,index⟩,listed,_,found⟩ := seen
    obtain ⟨among,inside⟩ := mem_positions.mp listed
    obtain ⟨ends,here⟩ := found_path fine.unique inside found
    exact ⟨record,among,_, take_prefix ..,ends,here⟩
  · cases known

theorem directory_solid (opens : directory <+: FileRecord.segments file) : ∀ part ∈ directory, slash ∉ part :=
  fun part listed => segments_solid file part (opens.subset listed)

theorem directory_filled (ends : NATIVE_ALIAS_SEGMENTS <:+ directory) : directory ≠ [] := by
  rintro rfl
  cases suffix_nil.mp ends

/-- The check passes exactly when every alias shows the files at the root. -/
theorem nativeFiles_iff (unique : (files.map FileRecord.path).Nodup) :
    nativeFiles files fold win32 = .ok () ↔ Exact files fold win32 := by
  have primary : PRIMARY_NATIVE_ALIAS = join slash NATIVE_ALIAS_SEGMENTS := by decide
  have nativeSolid : ∀ part ∈ NATIVE_ALIAS_SEGMENTS, slash ∉ part := by decide
  rw [nativeFiles_ok]
  constructor
  · rintro ⟨aliases,scanned,filled,known,sizes⟩
    obtain ⟨passed,rfl⟩ := scan_ok.mp scanned
    have fine : Fine files fold win32 := ⟨unique,passed⟩
    refine ⟨(rootFiles_filled unique).mp filled,?_,fun file among directory opens ends relative facts own => ?_,
      fun windows file among candidate part folded => fine.spelled windows among part folded⟩
    · obtain ⟨count,known⟩ := Option.isSome_iff_exists.mp known
      obtain ⟨file,among,directory,opens,ends,here⟩ := fine.alias known
      refine ⟨file,among,?_⟩
      rwa [← splitOn_join nativeSolid (cons_ne_nil _ _),← primary,here,
        splitOn_join (directory_solid opens) (directory_filled ends)]
    · refine ⟨fine.root ends own,fun shown => ?_⟩
      have counts := sizes _ _ (fine.counted among opens ends)
      exact (count_iff unique ends (directory_solid opens) (directory_filled ends)).mp counts _ _ own shown
  · intro exact
    have fine : Fine files fold win32 := ⟨unique,exact.fine unique⟩
    refine ⟨_,scan_ok.mpr ⟨fine.passed,rfl⟩,(rootFiles_filled unique).mpr exact.filled,?_,
      fun path count known => ?_⟩
    · obtain ⟨record,among,opens⟩ := exact.primary
      rw [primary,fine.counted among opens suffix_rfl]
      rfl
    · obtain ⟨file,among,directory,opens,ends,rfl⟩ := fine.alias known
      rw [fine.counted among opens ends] at known
      rw [← Option.some.inj known]
      refine (count_iff unique ends (directory_solid opens) (directory_filled ends)).mpr fun relative facts own => ?_
      exact (exact.same file among directory opens ends relative facts own).mpr

end Check

/-- What `toLowerCase().toUpperCase()` does to the letters of ASCII. -/
def upperAscii (text : Units) : Units := text.map fun u => if 0x61 ≤ u ∧ u ≤ 0x7A then u - 0x20 else u

def bundle : List FileRecord :=
  ["native-control/package.json","native-control/node_modules/tool/index.js",
    "node_modules/@gjc-remote/native-control/package.json",
    "node_modules/@gjc-remote/native-control/node_modules/tool/index.js",
    "bot/node_modules/@gjc-remote/native-control/package.json"].map fun path =>
        ⟨ofString path,2,ofString "44136fa355b3678a1146ad16f7e8649e94fb4fc21fe77e8310c060f61caaff8a",
          ofString "forbidden"⟩

theorem bundle_exact : Exact bundle upperAscii true :=
  (nativeFiles_iff (by decide +kernel)).mp (by decide +kernel)

end GjcRemote.NativeAlias
