import GjcRemote.CandidateFiles
import Mathlib.Tactic.Choose

/-! The resolver, the manifest and the reader on one tree: what the walk emits for it, what the reader reads
back, and when the manifest takes the paths. -/
namespace GjcRemote.CandidateTree

open Utf16 StrictJson Record PathNames Containment List
open Workspace.Pointer (isWindowsReserved hasDrivePrefix)

def locate (platform : SourcePlatform) (root path : Units) : Option (List Units) :=
  if path = root then some []
  else if (root ++ [separatorFor platform]).isPrefixOf path then
    some (names (separatorFor platform) (path.drop (root.length + 1)))
  else none

def direntOf (entry : Units × Node) : Dirent :=
  match entry.2 with
  | .file _ => ⟨entry.1,some false,some false,some true⟩
  | .directory _ => ⟨entry.1,some false,some true,some false⟩

def Tree.readdir (tree : Tree) (platform : SourcePlatform) (root dir : Units) : Except Refused (List Dirent) :=
  match (locate platform root dir).bind tree.root.resolve with
  | some (.directory entries) => .ok (entries.map direntOf)
  | some (.file _) => .error ⟨none,"ENOTDIR",ofString "not a directory"⟩
  | none => .error ⟨none,"ENOENT",ofString "no such file or directory"⟩

def Tree.openFile (tree : Tree) (platform : SourcePlatform) (root path : Units) :
    Except Thrown (List UInt8) :=
  match (locate platform root path).bind tree.root.resolve with
  | some (.file content) => .ok content
  | some (.directory _) => .error ⟨none,some "EISDIR"⟩
  | none => .error ⟨none,some "ENOENT"⟩

def pathOf (platform : SourcePlatform) (file : List Units × List UInt8) : Units :=
  join (separatorFor platform) file.1

theorem joined_concat (sep : UInt16) (root : Units) (segments : List Units) (name : Units) :
    joined sep root (segments ++ [name]) = joined sep root segments ++ sep :: name := by
  induction segments generalizing root with
  | nil => simp [joined,join]
  | cons first rest ih => rw [cons_append,joined_cons,joined_cons,ih]

variable {segments : List Units}

theorem locate_joined (root : Units) (rules : ∀ name ∈ segments, SegmentRules name) :
    locate platform root (joined (separatorFor platform) root segments) = some segments := by
  by_cases top : segments = []
  · subst top
    simp [locate,joined]
  · have path : joined (separatorFor platform) root segments =
        (root ++ [separatorFor platform]) ++ join (separatorFor platform) segments := by
      rw [joined,if_neg (by simpa using top),append_assoc]
      rfl
    have longer : (root ++ [separatorFor platform]) ++ join (separatorFor platform) segments ≠ root := by
      intro same
      have lengths := congrArg List.length same
      simp at lengths
    have starts : (root ++ [separatorFor platform]).isPrefixOf
        ((root ++ [separatorFor platform]) ++ join (separatorFor platform) segments) := by
      rw [ isPrefixOf_iff_prefix]
      exact prefix_append _ _
    have cut : ((root ++ [separatorFor platform]) ++ join (separatorFor platform) segments).drop
        (root.length + 1) = join (separatorFor platform) segments :=
      drop_left' (by simp)
    rw [locate,path,if_neg longer,if_pos starts,cut,names_segments rules]

section Walk

variable (lower : Folding (0x5C : UInt16)) (rejectUnsupported : Bool) {platform : SourcePlatform}
variable {root : Units} (printable : 0 ∉ root)
variable (absolute : isAbsolute platform (normalize platform root) = true) (tree : Tree)

include printable absolute in
/-- A file is emitted once. -/
theorem visit_file
    {name : Units} (rules : ∀ other ∈ segments ++ [name], SegmentRules other) :
    visit lower.fold rejectUnsupported root platform descend dirAbs segments results
        (direntOf (name,.file content)) =
      .ok (results ++ [join (separatorFor platform) (segments ++ [name])]) := by
  obtain ⟨components,accepted,single⟩ := guard_accepts rules lower root printable absolute
  simp only [visit,direntOf,Bool.false_eq_true,if_false,Bool.not_true,accepted,single]

theorem visit_directory :
    visit lower.fold rejectUnsupported root platform descend dirAbs segments results
        (direntOf (name,.directory entries)) =
      descend (dirAbs ++ separatorFor platform :: name) (segments ++ [name]) results := by
  simp only [visit,direntOf,Bool.false_eq_true,if_false,if_true]

def pathsBelow (platform : SourcePlatform) (segments : List Units) (files : List (List Units × List UInt8)) :
    List Units :=
  files.map fun file => join (separatorFor platform) (segments ++ file.1)

theorem visit_entries {turn : List Units → Dirent → Except Stop (List Units)} {entries : List (Units × Node)}
    (turns : ∀ entry ∈ entries, ∀ results, turn results (direntOf entry) =
      .ok (results ++ pathsBelow platform (segments ++ [entry.1]) entry.2.files)) (results : List Units) :
    (entries.map direntOf).foldlM turn results =
      .ok (results ++ pathsBelow platform segments (entryFiles entries)) := by
  induction entries generalizing results with
  | nil =>
    have same : results ++ pathsBelow platform segments (entryFiles []) = results := by
      simp [pathsBelow,entryFiles]
    rw [same]
    rfl
  | cons entry rest ih =>
    obtain ⟨own,later⟩ := forall_mem_cons.mp turns
    have paths : pathsBelow platform segments (entryFiles (entry :: rest)) =
        pathsBelow platform (segments ++ [entry.1]) entry.2.files ++
          pathsBelow platform segments (entryFiles rest) := by
      simp [pathsBelow,entryFiles,Function.comp_def]
    rw [map_cons,foldlM_cons,own results,paths,← append_assoc]
    exact ih later _

include printable absolute in
/-- The walk of a directory pushes the paths of its files. The induction is on the fuel, which is at least
the depth of the directory. -/
theorem walk_directory : ∀ {fuel : Nat} {segments results : List Units} {entries : List (Units × Node)},
    tree.root.resolve segments = some (.directory entries) → (∀ name ∈ segments, SegmentRules name) →
    (Node.directory entries).Legal → (Node.directory entries).depth ≤ fuel →
    walk lower.fold (tree.readdir platform root) rejectUnsupported root platform fuel
        (joined (separatorFor platform) root segments) segments results =
      .ok (results ++ pathsBelow platform segments (entryFiles entries)) := by
  intro fuel
  induction fuel with
  | zero => intro segments results entries _ _ _ deep; cases deep
  | succ fuel ih =>
    intro segments results entries found rules legal deep
    have listed : tree.readdir platform root (joined (separatorFor platform) root segments) =
        .ok (entries.map direntOf) := by
      rw [Tree.readdir,locate_joined root rules,Option.bind_some,found]
    rw [walk,listed]
    refine visit_entries (fun entry member results => ?_) results
    have own := entriesLegal_iff.mp legal.2 entry member
    have inside : ∀ other ∈ segments ++ [entry.1], SegmentRules other := by
      intro other among
      rcases mem_append.mp among with before | last
      · exact rules other before
      · exact mem_singleton.mp last ▸ own.1
    have child := resolve_entry found legal.1 member
    have below := depth_le member
    obtain ⟨name,node⟩ := entry
    cases node with
    | file content =>
      rw [visit_file lower rejectUnsupported printable absolute inside]
      simp [pathsBelow,Node.files]
    | directory entries =>
      rw [visit_directory,← joined_concat,Node.files]
      exact ih child inside own.2 (Nat.le_trans below (Nat.le_of_succ_le_succ deep))

end Walk

variable (lower : Folding (0x5C : UInt16)) (rejectUnsupported : Bool) (platform : SourcePlatform)

structure Verified (root : Units) : Prop where
  printable : 0 ∉ root
  absolute : isAbsolute platform (normalize platform root) = true

variable (verified : Verified platform root) (tree : Tree)

def emitted (tree : Tree) : List Units := sortPaths (tree.root.files.map (pathOf platform))

include verified in
theorem resolve_ends (enough : tree.root.depth ≤ fuel) :
    resolveManifestPaths lower.fold (tree.readdir platform root) rejectUnsupported root platform fuel =
      .ok (emitted platform tree) := by
  have long : root ≠ [] := by
    rintro rfl
    have absolute := verified.absolute
    cases platform <;> cases absolute
  have walked := @walk_directory lower rejectUnsupported platform root verified.printable verified.absolute tree
    fuel [] [] tree.entries (resolve_nil _) (by simp) tree.legal enough
  rw [resolveManifestPaths,check,if_pos (by simpa using long)]
  rw [show joined (separatorFor platform) root [] = root from rfl] at walked
  simp only [bind,Except.bind,walked]
  rfl

theorem assertPathText_ok :
    assertPathText path = .ok () ↔ byteLength path ≤ MAX_PATH_BYTES ∧ StrictUnits path := by
  have checked : assertStrictText path "entry path" (some MAX_PATH_BYTES) = .ok () ↔
      byteLength path ≤ MAX_PATH_BYTES ∧ StrictUnits path := by
    rw [← strictUnits_iff path "entry path",assertStrictText_iff,assertStrictText]
    by_cases long : MAX_PATH_BYTES < byteLength path
    · simp [long]
    · simp [long,Nat.not_lt.mp long]
  rw [← checked,assertPathText]
  split
  · rename_i refused
    simp [refused]
  · rename_i accepted
    simp [accepted]

theorem assertSegments_ok {path : Units} {segments : List Units} :
    assertSegments path segments = .ok () ↔ ∀ name ∈ segments, SegmentFacts name := by
  induction segments with
  | nil => simp [assertSegments]
  | cons name rest ih =>
    rw [assertSegments,forall_mem_cons,← ih,← @assertSegment_ok path]
    constructor
    · intro accepted
      obtain ⟨⟨⟩,both⟩ := except_bind_ok.mp accepted
      exact both
    · exact fun both => except_bind_ok.mpr ⟨(),both⟩

theorem strict_join (strict : ∀ name ∈ segments, StrictUnits name) :
    StrictUnits (join 0x2F segments) := by
  induction segments with
  | nil => exact .nil
  | cons name rest ih =>
    obtain ⟨own,later⟩ := forall_mem_cons.mp strict
    by_cases last : rest = []
    · simpa [last,join] using own
    · rw [join_cons _ name last]
      exact strict_append own (.plain rfl rfl rfl (ih later))

theorem hasDrivePrefix_colon (drive : hasDrivePrefix path) : 0x3A ∈ path := by
  unfold hasDrivePrefix at drive
  split at drive
  · simp
  · cases drive

/-- A path of segments between slashes is accepted unless it is too long. -/
theorem assertRelativePath_slashes (rules : ∀ name ∈ segments, SegmentRules name) (nonempty : segments ≠ []) :
    assertRelativePath (join 0x2F segments) = .ok () ↔ byteLength (join 0x2F segments) ≤ MAX_PATH_BYTES := by
  constructor
  · intro accepted
    obtain ⟨⟨⟩,_,accepted⟩ := except_bind_ok.mp accepted
    obtain ⟨⟨⟩,_,accepted⟩ := except_bind_ok.mp accepted
    obtain ⟨⟨⟩,text,_⟩ := except_bind_ok.mp accepted
    exact (assertPathText_ok.mp text).1
  · intro short
    obtain ⟨first,rest,starts,solid⟩ := @path_head .posix segments rules nonempty
    have head : (join 0x2F segments).head? ≠ some 0x2F := by
      rw [show join 0x2F segments = first :: rest from starts]
      simpa using solid.1
    have text := assertPathText_ok.mpr ⟨short,strict_join fun name member => (rules name member).text⟩
    have backslash : 0x5C ∉ join 0x2F segments :=
      @not_mem_path .posix segments 0x5C (by decide) fun name member => (rules name member).backslash
    have colon : 0x3A ∉ join 0x2F segments :=
      @not_mem_path .posix segments 0x3A (by decide) fun name member => (rules name member).facts.colon
    have nul : 0 ∉ join 0x2F segments := @path_printable .posix segments rules
    have drive : hasDrivePrefix (join 0x2F segments) = false :=
      Bool.eq_false_iff.mpr fun drive => colon (hasDrivePrefix_colon drive)
    have long : join 0x2F segments ≠ [] := by
      rw [show join 0x2F segments = first :: rest from starts]
      exact cons_ne_nil _ _
    have split : (join 0x2F segments).splitOn 0x2F = segments :=
      splitOn_intercalate _ (fun name member => (rules name member).slash) nonempty
    have parts := (@assertSegments_ok (join 0x2F segments) segments).mpr
      fun name member => (rules name member).facts
    simp [assertRelativePath,check,bind,Except.bind,text,long,nul,backslash,head,drive,split,parts]

theorem assertRelativePath_backslash (inside : 0x5C ∈ path) :
    assertRelativePath path ≠ .ok () := by
  intro accepted
  obtain ⟨⟨⟩,_,accepted⟩ := except_bind_ok.mp accepted
  obtain ⟨⟨⟩,_,accepted⟩ := except_bind_ok.mp accepted
  obtain ⟨⟨⟩,_,accepted⟩ := except_bind_ok.mp accepted
  obtain ⟨⟨⟩,clean,_⟩ := except_bind_ok.mp accepted
  rw [check_ok] at clean
  simp [inside] at clean

/-- The manifest takes the path of a file if and only if it is short and has no separator of Windows. -/
theorem assertRelativePath_iff (rules : ∀ name ∈ segments, SegmentRules name) (nonempty : segments ≠ []) :
    assertRelativePath (join (separatorFor platform) segments) = .ok () ↔
      byteLength (join (separatorFor platform) segments) ≤ MAX_PATH_BYTES ∧
        (platform = .posix ∨ segments.length = 1) := by
  cases platform with
  | posix =>
    rw [show separatorFor .posix = 0x2F from rfl]
    simpa using assertRelativePath_slashes rules nonempty
  | windowsDrive =>
    obtain ⟨name,later,rfl⟩ := exists_cons_of_ne_nil nonempty
    by_cases top : later = []
    · subst top
      simpa [join,separatorFor] using assertRelativePath_slashes rules nonempty
    · have inside : 0x5C ∈ join (separatorFor .windowsDrive) (name :: later) := by
        rw [join_cons _ name top]
        exact mem_append_right _ mem_cons_self
      have nested : (name :: later).length ≠ 1 := by simpa using top
      refine ⟨fun accepted => absurd accepted (assertRelativePath_backslash inside),?_⟩
      rintro ⟨_,posix | flat⟩
      · cases posix
      · exact absurd flat nested

section Entries

variable (sha256 : List UInt8 → Units)

theorem computeLoop_ok {content : Units → List UInt8} (entries : List Entry)
    (distinct : paths.Nodup) (fresh : ∀ path ∈ paths, path ∉ seen)
    (reads : ∀ path ∈ paths, readBytes path = .ok (.bytes (content path)))
    (accepted : ∀ path ∈ paths, assertRelativePath path = .ok ()) :
    computeLoop sha256 readBytes paths seen entries =
      .ok (entries ++ paths.map fun path => ⟨path,(content path).length,sha256 (content path)⟩) := by
  induction paths generalizing seen entries with
  | nil => simp [computeLoop]
  | cons path rest ih =>
    obtain ⟨here,later⟩ := nodup_cons.mp distinct
    obtain ⟨unseen,fresh⟩ := forall_mem_cons.mp fresh
    obtain ⟨read,reads⟩ := forall_mem_cons.mp reads
    obtain ⟨own,accepted⟩ := forall_mem_cons.mp accepted
    have entry : computeEntry sha256 readBytes path =
        .ok ⟨path,(content path).length,sha256 (content path)⟩ := by
      simp [computeEntry,read]
    have apart : ∀ other ∈ rest, other ∉ path :: seen := by
      intro other member
      rw [mem_cons,not_or]
      exact ⟨fun same => here (same ▸ member),fresh other member⟩
    have again := ih (entries ++ [⟨path,(content path).length,sha256 (content path)⟩]) later apart reads
      accepted
    rw [computeLoop,own]
    simp only [bind,Except.bind,check,contains_eq_mem,unseen,decide_false,Bool.not_false,if_true,entry,again]
    simp

theorem computeLoop_accepted (computed : computeLoop sha256 readBytes paths seen entries = .ok result) :
    ∀ path ∈ paths, assertRelativePath path = .ok () := by
  induction paths generalizing seen entries with
  | nil => simp
  | cons path rest ih =>
    obtain ⟨⟨⟩,own,computed⟩ := except_bind_ok.mp computed
    obtain ⟨⟨⟩,_,computed⟩ := except_bind_ok.mp computed
    obtain ⟨entry,_,computed⟩ := except_bind_ok.mp computed
    exact forall_mem_cons.mpr ⟨own,ih computed⟩

end Entries

variable (sha256 : List UInt8 → Units)

def treeReader (root relPath : Units) : Except Thrown Answer :=
  containedReadBytes lower.fold platform (tree.openFile platform root) root relPath

/-- The resolver, the manifest and the reader agree on a tree: a walk with enough fuel ends, the list it
emits has every file once, the reader reads the file back from its path, and the manifest takes the list and
has an entry for every file. -/
structure Agrees (root : Units) (tree : Tree) (paths : List Units) : Prop where
  ends : ∃ enough, ∀ fuel, enough ≤ fuel →
    resolveManifestPaths lower.fold (tree.readdir platform root) rejectUnsupported root platform fuel =
      .ok paths
  once : paths.Perm (tree.root.files.map (pathOf platform))
  distinct : paths.Nodup
  reads : ∀ file ∈ tree.root.files,
    treeReader lower platform tree root (pathOf platform file) = .ok (.bytes file.2)
  accepted : ∃ entries,
    computeManifestEntries sha256 (treeReader lower platform tree root) paths = .ok entries ∧
      entries.Perm (tree.root.files.map fun file => ⟨pathOf platform file,file.2.length,sha256 file.2⟩)

def Fits (tree : Tree) : Prop :=
  ∀ file ∈ tree.root.files, byteLength (pathOf platform file) ≤ MAX_PATH_BYTES ∧
    (platform = .posix ∨ file.1.length = 1)

theorem file_nonempty (member : file ∈ tree.root.files) : file.1 ≠ [] := by
  rw [Tree.root,Node.files,mem_entryFiles] at member
  obtain ⟨entry,_,below,_,rfl⟩ := member
  exact cons_ne_nil _ _

theorem file_rules (member : file ∈ tree.root.files) :
    tree.root.resolve file.1 = some (.file file.2) ∧ ∀ name ∈ file.1, SegmentRules name :=
  file_resolves tree.legal member

theorem treeReader_reads (root : Units) (member : file ∈ tree.root.files) :
    treeReader lower platform tree root (pathOf platform file) = .ok (.bytes file.2) := by
  obtain ⟨found,rules⟩ := file_rules tree member
  have opened : tree.openFile platform root (joined (separatorFor platform) root file.1) = .ok file.2 := by
    rw [Tree.openFile,locate_joined root rules,Option.bind_some,found]
  rw [treeReader,containedReadBytes,pathOf,resolvedPath_segments rules lower root (file_nonempty tree member)]
  simp only [opened]

theorem paths_distinct : (tree.root.files.map (pathOf platform)).Nodup := by
  have names_distinct := files_distinct tree.legal
  have back : (tree.root.files.map (pathOf platform)).map (names (separatorFor platform)) =
      tree.root.files.map Prod.fst := by
    rw [map_map]
    refine map_congr_left fun file member => ?_
    exact names_segments (file_rules tree member).2
  exact Nodup.of_map _ (back ▸ names_distinct)

theorem emitted_perm : (emitted platform tree).Perm (tree.root.files.map (pathOf platform)) :=
  perm_insertionSort _ _

/-- The manifest of a list that has every file once, where every path fits. -/
theorem compute_fits (root : Units)
    (perm : paths.Perm (tree.root.files.map (pathOf platform))) (fits : Fits platform tree) :
    ∃ entries, computeManifestEntries sha256 (treeReader lower platform tree root) paths = .ok entries ∧
      entries.Perm (tree.root.files.map fun file => ⟨pathOf platform file,file.2.length,sha256 file.2⟩) := by
  have file_of : ∀ path ∈ paths, ∃ file ∈ tree.root.files, pathOf platform file = path :=
    fun path member => mem_map.mp (perm.subset member)
  have held : ∀ path ∈ paths, ∃ bytes, treeReader lower platform tree root path = .ok (.bytes bytes) := by
    intro path member
    obtain ⟨file,inside,rfl⟩ := file_of path member
    exact ⟨_,treeReader_reads lower platform tree root inside⟩
  choose! content reads using held
  have content_of : ∀ file ∈ tree.root.files, content (pathOf platform file) = file.2 := by
    intro file member
    have own := reads _ (perm.symm.subset (mem_map_of_mem member))
    rw [treeReader_reads lower platform tree root member,Except.ok.injEq,Answer.bytes.injEq] at own
    exact own.symm
  have accepted : ∀ path ∈ paths, assertRelativePath path = .ok () := by
    intro path member
    obtain ⟨file,inside,rfl⟩ := file_of path member
    exact (assertRelativePath_iff platform (file_rules tree inside).2 (file_nonempty tree inside)).mpr
      (fits file inside)
  have distinct := perm.symm.nodup (paths_distinct platform tree)
  have looped := computeLoop_ok sha256 [] distinct (fun path _ => not_mem_nil) reads accepted
  refine ⟨_,except_bind_ok.mpr ⟨_,looped,rfl⟩,(perm_insertionSort _ _).trans ?_⟩
  refine (perm.map _).trans (Perm.of_eq ?_)
  rw [map_map]
  refine map_congr_left fun file member => ?_
  simp only [Function.comp_apply,content_of file member]

include verified in
theorem agrees_iff : (∃ paths, Agrees lower rejectUnsupported platform sha256 root tree paths) ↔
    Fits platform tree := by
  constructor
  · rintro ⟨paths,agrees⟩ file member
    obtain ⟨entries,computed,_⟩ := agrees.accepted
    obtain ⟨result,looped,_⟩ := except_bind_ok.mp computed
    have path : pathOf platform file ∈ paths :=
      agrees.once.symm.subset (mem_map.mpr ⟨file,member,rfl⟩)
    have own := computeLoop_accepted sha256 looped _ path
    exact (assertRelativePath_iff platform (file_rules tree member).2 (file_nonempty tree member)).mp own
  · intro fits
    have perm := emitted_perm platform tree
    refine ⟨emitted platform tree,⟨tree.root.depth,fun fuel enough => ?_⟩,perm,
      perm.symm.nodup (paths_distinct platform tree),
      fun file member => treeReader_reads lower platform tree root member,
      compute_fits lower platform tree sha256 root perm fits⟩
    exact resolve_ends lower rejectUnsupported platform verified tree enough

theorem segmentRules_of (text : StrictUnits name) (slash : 0x2F ∉ name) (backslash : 0x5C ∉ name)
    (facts : SegmentFacts name) : SegmentRules name :=
  ⟨text,slash,backslash,fun _ => assertSegment_ok.mpr facts⟩

theorem sample_rules (letter : u = 0x61 ∨ u = 0x62) : SegmentRules [u] := by
  rcases letter with rfl | rfl
  all_goals
    refine segmentRules_of (.plain (by decide) (by decide) (by decide) .nil) (by decide) (by decide) ?_
    exact ⟨by decide,by decide,by decide,by decide,by decide +kernel⟩

/-- The file `b` in the directory `a`. -/
def nestedTree : Tree where
  entries := [([0x61],.directory [([0x62],.file [])])]
  legal := by
    refine ⟨by simp,sample_rules (Or.inl rfl),⟨by simp,sample_rules (Or.inr rfl),trivial,trivial⟩,trivial⟩

/-- The resolver emits `a\b`, which the manifest refuses. -/
theorem nested_disagrees : Verified .windowsDrive (ofString "C:\\w") ∧
    ¬ ∃ paths, Agrees lowerSample false .windowsDrive (fun _ => []) (ofString "C:\\w") nestedTree paths := by
  refine ⟨⟨by decide,by decide⟩,?_⟩
  rintro ⟨paths,agrees⟩
  obtain ⟨entries,computed,_⟩ := agrees.accepted
  obtain ⟨result,looped,_⟩ := except_bind_ok.mp computed
  have path : [0x61,0x5C,0x62] ∈ paths := agrees.once.symm.subset (by decide)
  exact assertRelativePath_backslash (by decide) (computeLoop_accepted _ looped _ path)

/-- The files `a/b` and `b`, whose contents differ. -/
def twoFiles : Tree where
  entries := [([0x61],.directory [([0x62],.file [0x61])]),([0x62],.file [0x62])]
  legal := by
    have nested : (Node.directory [([0x62],.file [0x61])]).Legal :=
      ⟨by simp,sample_rules (Or.inr rfl),trivial,trivial⟩
    exact ⟨by simp,sample_rules (Or.inl rfl),nested,sample_rules (Or.inr rfl),trivial,trivial⟩

/-- SHA-256 of the two contents. -/
def twoHashes (content : List UInt8) : Units :=
  if content = [0x61] then ofString "ca978112ca1bbdcafac231b39a23dc4da786eff8147c4e72b9807785afee48bb"
  else ofString "3e23e8160039594a33894f6564e1b1348bbd7a0088d42c4acb73eeaed59c009d"

/-- On the other platform nested files are served. -/
theorem agrees_iff_sample :
    ∃ paths, Agrees lowerSample false .posix twoHashes (ofString "/w") twoFiles paths := by
  have verified : Verified .posix (ofString "/w") := ⟨by decide,by decide⟩
  refine (agrees_iff lowerSample false .posix verified twoFiles twoHashes).mpr fun file member => ?_
  have listed : file = ([[0x61],[0x62]],[0x61]) ∨ file = ([[0x62]],[0x62]) := by
    simpa [twoFiles,Tree.root,Node.files,entryFiles] using member
  rcases listed with rfl | rfl
  · exact ⟨by decide,Or.inl rfl⟩
  · exact ⟨by decide,Or.inl rfl⟩

end GjcRemote.CandidateTree
