import GjcRemote.Containment

/-! Where a path leads when it is read against a workspace root, and when the components that the
containment check returns lead there too. The case mapping of Windows paths is a folding of names. -/
namespace GjcRemote.Containment

open Utf16 StrictJson Record PathNames Except
open List hiding head
open MappingEnvelope (isDotSegment isLetter)

def foldingOf (lower : Folding (0x5C : UInt16)) :
    (platform : SourcePlatform) → Folding (separatorFor platform)
  | .posix => .plain 0x2F
  | .windowsDrive => lower

/-- What stands before the first separator of an absolute path. -/
def IsHead : SourcePlatform → Units → Prop
  | .posix,head => head = []
  | .windowsDrive,head => ∃ letter, isLetter letter = true ∧ head = [letter,0x3A]

/-- A Windows path that neither is absolute nor starts at the root: it starts at a share, at the top of
the current drive or at the current directory of a drive. -/
def isElsewhere : SourcePlatform → Units → Bool
  | .windowsDrive,first :: rest => first == 0x5C || (isLetter first && rest.head? == some 0x3A)
  | _,_ => false

/-- The names a path leads along, read against a root; none where the root does not decide that. -/
def place (platform : SourcePlatform) (root path : Units) : Option (List Units) :=
  if isAbsolute platform (normalize platform path) then
    some (names (separatorFor platform) (normalize platform path))
  else if isElsewhere platform (normalize platform path) then none
  else some (names (separatorFor platform) root ++ names (separatorFor platform) (normalize platform path))

structure Proper (platform : SourcePlatform) (name : Units) : Prop where
  long : name ≠ []
  solid : separatorFor platform ∉ name
  plain : isDotSegment name = false

structure Canonical (platform : SourcePlatform) (path : Units) : Prop where
  long : path ≠ []
  printable : 0 ∉ path
  native : normalize platform path = path
  shape : (isAbsolute platform path = false ∧ ∃ parts, (∀ part ∈ parts, Proper platform part) ∧
      path = join (separatorFor platform) parts) ∨
    ∃ head parts, IsHead platform head ∧ (∀ part ∈ parts, Proper platform part) ∧
      path = head ++ separatorFor platform :: join (separatorFor platform) parts

variable (lower : Folding (0x5C : UInt16))

/-- The names of a path are those of the candidate, up to case on Windows. -/
def SamePlace (platform : SourcePlatform) (root candidate path : Units) : Prop :=
  ∃ target, place platform root candidate = some target ∧
    (names (separatorFor platform) path).map (foldingOf lower platform).fold =
      target.map (foldingOf lower platform).fold

def Inside (platform : SourcePlatform) (root candidate : Units) : Prop :=
  ∃ target, place platform root candidate = some target ∧
    (names (separatorFor platform) root).map (foldingOf lower platform).fold <+:
      target.map (foldingOf lower platform).fold

structure Leads (platform : SourcePlatform) (root candidate : Units) (components : List Units) : Prop where
  proper : ∀ component ∈ components, Proper platform component
  /-- No separator of the other kind either, on Windows. -/
  native : ∀ component ∈ components, normalize platform component = component
  same : SamePlace lower platform root candidate (joined (separatorFor platform) root components)
  inside : Inside lower platform root candidate

/-- The check names the candidates it accepts, and it accepts the canonical ones below the root. The leaf
whose identity is read and the file that the reader opens are then the candidate. -/
structure Faithful (platform : SourcePlatform) (root candidate : Units) : Prop where
  leads : ∀ components, relativeComponents lower.fold root candidate platform = .ok components →
    Leads lower platform root candidate components
  accepts : Canonical platform candidate → Inside lower platform root candidate →
    ∃ components, relativeComponents lower.fold root candidate platform = .ok components
  checks : ∀ lowLevel identity, leafIdentity lower.fold lowLevel root candidate platform = .ok identity →
    ∃ path, lowLevel.read_identity path = .ok identity ∧ SamePlace lower platform root candidate path
  opens : ∀ path, resolvedPath lower.fold root candidate platform = .ok path →
    SamePlace lower platform root candidate path

theorem folded_eq (platform : SourcePlatform) (text : Units) :
    folded lower.fold platform text = (foldingOf lower platform).fold text := by
  cases platform <;> rfl

theorem isAbsolute_iff :
    isAbsolute platform path ↔
      ∃ head rest, IsHead platform head ∧ path = head ++ separatorFor platform :: rest := by
  cases platform with
  | posix =>
    constructor
    · intro absolute
      cases path with
      | nil => cases absolute
      | cons first rest =>
        have slash : first = 0x2F := by simpa [isAbsolute] using absolute
        exact ⟨[],rest,rfl,by rw [slash]; rfl⟩
    · rintro ⟨head,rest,rfl,rfl⟩
      rfl
  | windowsDrive =>
    constructor
    · intro absolute
      rcases path with _ | ⟨letter,_ | ⟨colon,_ | ⟨slash,rest⟩⟩⟩
      · cases absolute
      · cases absolute
      · cases absolute
      · simp only [isAbsolute,Bool.and_eq_true,beq_iff_eq] at absolute
        obtain ⟨⟨alphabetic,rfl⟩,rfl⟩ := absolute
        exact ⟨[letter,0x3A],rest,⟨letter,alphabetic,rfl⟩,rfl⟩
    · rintro ⟨head,rest,⟨letter,alphabetic,rfl⟩,rfl⟩
      simp [isAbsolute,alphabetic,separatorFor]

theorem head_solid (isHead : IsHead platform head) :
    separatorFor platform ∉ head := by
  cases platform with
  | posix => rw [isHead]; simp
  | windowsDrive =>
    obtain ⟨letter,alphabetic,rfl⟩ := isHead
    intro inside
    simp only [separatorFor,mem_cons,not_mem_nil,or_false] at inside
    rcases inside with rfl | colon
    · revert alphabetic; decide
    · revert colon; decide

/-- A root is a head with proper names below it. -/
theorem root_shape (valid : validWorkDir root platform) :
    normalize platform root = root ∧ ∃ head parts, IsHead platform head ∧
      (∀ part ∈ parts, Proper platform part) ∧
      root = head ++ separatorFor platform :: join (separatorFor platform) parts := by
  have proper_of : ∀ text : Units, (text.splitOn (separatorFor platform)).all
      (fun segment => segment != [] && !isDotSegment segment) →
      ∀ part ∈ text.splitOn (separatorFor platform), Proper platform part := by
    intro text all part member
    have checked := all_eq_true.mp all part member
    simp only [Bool.and_eq_true,bne_iff_ne,ne_eq,Bool.not_eq_true'] at checked
    exact ⟨checked.1,splitOn_solid text part member,checked.2⟩
  cases platform with
  | posix =>
    simp only [validWorkDir,Bool.and_eq_true] at valid
    obtain ⟨⟨⟨slash,_⟩,_⟩,segments⟩ := valid
    cases root with
    | nil => cases slash
    | cons first rest =>
      obtain rfl : first = 0x2F := by simpa using slash
      refine ⟨rfl,[],rest.splitOn 0x2F,rfl,proper_of rest segments,?_⟩
      rw [nil_append,join,separatorFor,intercalate_splitOn]
  | windowsDrive =>
    simp only [validWorkDir,Bool.and_eq_true] at valid
    obtain ⟨⟨drive,slashes⟩,segments⟩ := valid
    have native : normalize .windowsDrive root = root := by
      refine (map_congr_left fun u member => if_neg ?_).trans (map_id root)
      rintro rfl
      simp [member] at slashes
    rcases root with _ | ⟨letter,_ | ⟨colon,_ | ⟨slash,rest⟩⟩⟩
    · cases drive
    · cases drive
    · cases drive
    · simp only [startsDrive,Bool.and_eq_true,beq_iff_eq] at drive
      obtain ⟨⟨upper,rfl⟩,rfl⟩ := drive
      have head : IsHead .windowsDrive [letter,0x3A] := ⟨letter,by simp [isLetter,upper],rfl⟩
      rw [Bool.or_eq_true] at segments
      rcases segments with bare | segments
      · have nothing : rest = [] := by simpa using bare
        exact ⟨native,[letter,0x3A],[],head,by simp,by simp [nothing,join,separatorFor]⟩
      · refine ⟨native,[letter,0x3A],rest.splitOn 0x5C,head,proper_of rest segments,?_⟩
        simp [join,separatorFor]

def bare (sep : UInt16) (root : Units) : Units := if endsWith sep root then root.dropLast else root

section Roots

variable {head : Units} {parts : List Units}

theorem endsWith_name {name : Units} (long : name ≠ []) (solid : sep ∉ name) (front : Units) :
    endsWith sep (front ++ sep :: name) = false := by
  have tail : front ++ sep :: name = (front ++ [sep]) ++ name := by simp
  rw [endsWith,tail,List.getLast?_append_of_ne_nil _ long,beq_eq_false_iff_ne]
  intro last
  exact solid (List.mem_of_getLast? last)

theorem join_concat (sep : UInt16) (front : Units) (parts : List Units) (last : Units) :
    ∃ start, front ++ sep :: join sep (parts ++ [last]) = start ++ sep :: last := by
  by_cases only : parts = []
  · exact ⟨front,by simp [only,join]⟩
  · exact ⟨front ++ sep :: join sep parts,by rw [join_append sep only (by simp)]; simp [join]⟩

section

variable (proper : ∀ part ∈ parts, Proper platform part)
include proper

section

variable (shape : root = head ++ separatorFor platform :: join (separatorFor platform) parts)
include shape

theorem bare_eq :
    bare (separatorFor platform) root = if parts = [] then head else root := by
  rw [bare]
  rcases eq_nil_or_concat parts with rfl | ⟨init,last,rfl⟩
  · have ends : endsWith (separatorFor platform) root := by simp [endsWith,shape,join]
    rw [if_pos ends,if_pos rfl,shape]
    simp [join]
  · rw [concat_eq_append] at proper shape ⊢
    obtain ⟨start,same⟩ := join_concat (separatorFor platform) head init last
    have name := proper last (by simp)
    rw [shape,same,endsWith_name name.long name.solid]
    simp

theorem names_bare :
    names (separatorFor platform) (bare (separatorFor platform) root) = names (separatorFor platform) root := by
  rw [bare_eq proper shape]
  split
  · rename_i only
    rw [shape,only,names_append]
    simp [join]
  · rfl

/-- What the check compares the start of a candidate with. -/
theorem start_eq :
    (if endsWith (separatorFor platform) ((foldingOf lower platform).fold root) then
        (foldingOf lower platform).fold root
      else (foldingOf lower platform).fold root ++ [separatorFor platform]) =
      (foldingOf lower platform).fold (bare (separatorFor platform) root) ++ [separatorFor platform] := by
  rw [bare_eq proper shape]
  rcases eq_nil_or_concat parts with rfl | ⟨init,last,rfl⟩
  · have image : (foldingOf lower platform).fold root =
        (foldingOf lower platform).fold head ++ [separatorFor platform] := by
      rw [shape,Folding.separator]
      simp [join]
    rw [image,if_pos (by simp [endsWith]),if_pos rfl]
  · rw [concat_eq_append] at proper shape ⊢
    obtain ⟨start,same⟩ := join_concat (separatorFor platform) head init last
    have name := proper last (by simp)
    rw [if_neg (by simp : ¬ init ++ [last] = []),shape,same,Folding.separator,
      endsWith_name (fun nothing => name.long ((foldingOf lower platform).fold_eq_nil.mp nothing))
        ((foldingOf lower platform).solid last name.solid)]
    rfl

end

end

end Roots

theorem relativeParts_ok :
    relativeParts sep relative = .ok components ↔
      components = names sep relative ∧ ∀ name ∈ names sep relative, isDotSegment name = false := by
  unfold relativeParts
  constructor
  · intro accepted
    obtain ⟨⟨⟩,plain,same⟩ := except_bind_ok.mp accepted
    rw [check_ok,Bool.not_eq_true',any_eq_false] at plain
    exact ⟨(Except.ok.inj same).symm,fun name member => by simpa using plain name member⟩
  · rintro ⟨rfl,plain⟩
    have none_dotted : (names sep relative).any isDotSegment = false := by
      rw [any_eq_false]
      exact fun name member => by simp [plain name member]
    simp [none_dotted,check,bind,Except.bind,pure,Except.pure]

theorem relativeParts_accepts {relative : Units}
    (plain : ∀ name ∈ names sep relative, isDotSegment name = false) :
    ∃ components, relativeParts sep relative = .ok components :=
  ⟨_,relativeParts_ok.mpr ⟨rfl,plain⟩⟩

variable {candidate : Units}

theorem relativeComponents_nonempty
    (accepted : relativeComponents lower.fold root candidate platform = .ok components) :
    candidate ≠ [] ∧ 0 ∉ candidate := by
  obtain ⟨⟨⟩,long,later⟩ := except_bind_ok.mp accepted
  obtain ⟨⟨⟩,printable,_⟩ := except_bind_ok.mp later
  exact ⟨by simpa [check_ok] using long,by simpa [check_ok] using printable⟩

theorem relativeComponents_relative (root : Units) (long : candidate ≠ []) (printable : 0 ∉ candidate)
    (relative : isAbsolute platform (normalize platform candidate) = false) :
    relativeComponents lower.fold root candidate platform =
      relativeParts (separatorFor platform) (normalize platform candidate) := by
  simp [relativeComponents,check,bind,Except.bind,long,printable,relative]

theorem relativeComponents_absolute (valid : validWorkDir root platform) (long : candidate ≠ [])
    (printable : 0 ∉ candidate) (absolute : isAbsolute platform (normalize platform candidate)) :
    relativeComponents lower.fold root candidate platform =
      if (foldingOf lower platform).fold (normalize platform candidate) = (foldingOf lower platform).fold root
      then .ok [] else if ((foldingOf lower platform).fold (bare (separatorFor platform) root) ++
          [separatorFor platform]).isPrefixOf
          ((foldingOf lower platform).fold (normalize platform candidate)) then
        relativeParts (separatorFor platform) ((normalize platform candidate).drop
          (((foldingOf lower platform).fold (bare (separatorFor platform) root)).length + 1))
      else .error (refuse "WORKSPACE_ROOT_ESCAPE" "absolute candidate is outside the workspace root") := by
  obtain ⟨native,head,parts,_,proper,shape⟩ := root_shape valid
  unfold relativeComponents
  simp only [folded_eq,native,start_eq lower proper shape]
  simp only [check,bind,Except.bind,bne_iff_ne,ne_eq,long,not_false_eq_true,reduceIte,absolute,
    contains_eq_mem,printable,decide_false,Bool.not_false,length_append,length_singleton]
  split
  · rfl
  · by_cases starts : ((foldingOf lower platform).fold (bare (separatorFor platform) root) ++
        [separatorFor platform]).isPrefixOf ((foldingOf lower platform).fold (normalize platform candidate))
    · rw [if_pos starts,if_pos starts]
    · rw [if_neg starts,if_neg starts]

theorem checkComponent_ok (checked : checkComponent lowLevel path component = .ok ()) :
    lowLevel.path_exists_no_follow path = .ok (.bool true) := by
  unfold checkComponent at checked
  split at checked
  · split at checked <;> cases checked
  · rename_i found
    split at checked
    · exact found
    · cases checked

theorem joined_cons (sep : UInt16) (path component : Units) (rest : List Units) :
    joined sep path (component :: rest) = joined sep (path ++ sep :: component) rest := by
  cases rest with
  | nil => simp [joined,join]
  | cons next later => simp [joined,join_cons]

/-- The walk ends at the joined path, and it has found every path on the way. -/
theorem walk_ok :
    ∀ {path leaf : Units}, walk lowLevel sep path components = .ok leaf →
      leaf = joined sep path components ∧ ∀ count < components.length,
        lowLevel.path_exists_no_follow (joined sep path (components.take (count + 1))) = .ok (.bool true) := by
  induction components with
  | nil =>
    intro path leaf ended
    exact ⟨(ok.inj ended).symm,fun count few => absurd few (Nat.not_lt_zero count)⟩
  | cons component rest ih =>
    intro path leaf walked
    obtain ⟨⟨⟩,checked,later⟩ := except_bind_ok.mp walked
    obtain ⟨same,found⟩ := ih later
    refine ⟨by rw [joined_cons,same],fun count few => ?_⟩
    rw [take_succ_cons,joined_cons]
    cases count with
    | zero => exact checkComponent_ok checked
    | succ count => exact found count (by simpa using few)

theorem leafIdentity_ok (read : leafIdentity lower.fold lowLevel root candidate platform = .ok identity) :
    ∃ components, relativeComponents lower.fold root candidate platform = .ok components ∧
      (∀ count < components.length, lowLevel.path_exists_no_follow
        (joined (separatorFor platform) root (components.take (count + 1))) = .ok (.bool true)) ∧
      lowLevel.read_identity (joined (separatorFor platform) root components) = .ok identity := by
  obtain ⟨components,accepted,later⟩ := except_bind_ok.mp read
  obtain ⟨leaf,walked,last⟩ := except_bind_ok.mp later
  obtain ⟨rfl,found⟩ := walk_ok walked
  refine ⟨components,accepted,found,?_⟩
  split at last
  · split at last <;> cases last
  · rename_i seen answered
    obtain ⟨⟨⟩,_,same⟩ := except_bind_ok.mp last
    rw [answered,← ok.inj same]

theorem resolvedPath_ok (resolved : resolvedPath lower.fold root candidate platform = .ok path) :
    ∃ components, relativeComponents lower.fold root candidate platform = .ok components ∧
      path = joined (separatorFor platform) root components := by
  obtain ⟨components,accepted,later⟩ := except_bind_ok.mp resolved
  obtain ⟨⟨⟩,_,same⟩ := except_bind_ok.mp later
  exact ⟨components,accepted,(ok.inj same).symm⟩

/-- What the check returns decides what the walk and the reader reach. -/
theorem faithful_of
    (leads : ∀ components, relativeComponents lower.fold root candidate platform = .ok components →
      Leads lower platform root candidate components)
    (accepts : Canonical platform candidate → Inside lower platform root candidate →
      ∃ components, relativeComponents lower.fold root candidate platform = .ok components) :
    Faithful lower platform root candidate where
  leads := leads
  accepts := accepts
  checks := by
    intro lowLevel identity read
    obtain ⟨components,accepted,_,answered⟩ := leafIdentity_ok lower read
    exact ⟨_,answered,(leads components accepted).same⟩
  opens := by
    intro path resolved
    obtain ⟨components,accepted,rfl⟩ := resolvedPath_ok lower resolved
    exact (leads components accepted).same

structure Below (root candidate own rest : Units) (platform : SourcePlatform) : Prop where
  split : normalize platform candidate = own ++ separatorFor platform :: rest
  same : (foldingOf lower platform).fold own =
    (foldingOf lower platform).fold (bare (separatorFor platform) root)

variable {own : Units}

theorem Below.names_same (valid : validWorkDir root platform)
    (below : Below lower root candidate own rest platform) :
    (names (separatorFor platform) own).map (foldingOf lower platform).fold =
      (names (separatorFor platform) root).map (foldingOf lower platform).fold := by
  obtain ⟨_,head,parts,_,proper,shape⟩ := root_shape valid
  rw [← Folding.names_fold,below.same,Folding.names_fold,names_bare proper shape]

theorem isPrefixOf_below :
    ((foldingOf lower platform).fold (bare (separatorFor platform) root) ++
        [separatorFor platform]).isPrefixOf ((foldingOf lower platform).fold (normalize platform candidate)) ↔
      ∃ own rest, Below lower root candidate own rest platform := by
  rw [ isPrefixOf_iff_prefix]
  constructor
  · rintro ⟨tail,starts⟩
    rw [append_assoc] at starts
    obtain ⟨own,rest,split,same⟩ := (foldingOf lower platform).split_front starts.symm
    exact ⟨own,rest,split,same⟩
  · rintro ⟨own,rest,below⟩
    refine ⟨(foldingOf lower platform).fold rest,?_⟩
    rw [below.split,Folding.separator,below.same,append_assoc]
    rfl

/-- What the check cuts off a candidate below the root. -/
theorem Below.drop (below : Below lower root candidate own rest platform) :
    (normalize platform candidate).drop
        (((foldingOf lower platform).fold (bare (separatorFor platform) root)).length + 1) =
      rest.drop (((foldingOf lower platform).fold own).length - own.length) := by
  have grown := (foldingOf lower platform).grows own
  have later : ((foldingOf lower platform).fold own).length + 1 - own.length =
      ((foldingOf lower platform).fold own).length - own.length + 1 := by omega
  rw [below.split,← below.same,drop_append,drop_eq_nil_of_le (by omega),nil_append,later,drop_succ_cons]

theorem place_absolute (root : Units) (absolute : isAbsolute platform (normalize platform candidate)) :
    place platform root candidate = some (names (separatorFor platform) (normalize platform candidate)) := by
  rw [place,if_pos absolute]

theorem names_of_proper {parts : List Units} (proper : ∀ part ∈ parts, Proper platform part) :
    names (separatorFor platform) (join (separatorFor platform) parts) = parts :=
  names_join (fun part member => (proper part member).long) fun part member => (proper part member).solid

/-- The names of an absolute path start with its head, where that has a name. -/
theorem heads_same {parts more : List Units} (isHead : IsHead platform head) (isHead' : IsHead platform other)
    (inside : (names (separatorFor platform) head ++ parts).map (foldingOf lower platform).fold <+:
      (names (separatorFor platform) other ++ more).map (foldingOf lower platform).fold) :
    (foldingOf lower platform).fold other = (foldingOf lower platform).fold head ∧
      parts.map (foldingOf lower platform).fold <+: more.map (foldingOf lower platform).fold := by
  have solid := head_solid isHead
  have solid' := head_solid isHead'
  cases platform with
  | posix =>
    rw [show head = [] from isHead,show other = [] from isHead'] at inside ⊢
    exact ⟨rfl,by simpa using inside⟩
  | windowsDrive =>
    obtain ⟨letter,_,rfl⟩ := isHead
    obtain ⟨letter',_,rfl⟩ := isHead'
    rw [names_single (by simp) solid,names_single (by simp) solid'] at inside
    simp only [singleton_append,map_cons,cons_prefix_cons] at inside
    exact ⟨inside.1.symm,inside.2⟩

/-- A canonical candidate below the root spells the root first. -/
theorem Canonical.below (canonical : Canonical platform candidate) (valid : validWorkDir root platform)
    (absolute : isAbsolute platform (normalize platform candidate))
    (inside : (names (separatorFor platform) root).map (foldingOf lower platform).fold <+:
      (names (separatorFor platform) (normalize platform candidate)).map (foldingOf lower platform).fold) :
    (foldingOf lower platform).fold (normalize platform candidate) = (foldingOf lower platform).fold root ∨
      ∃ own rest, Below lower root candidate own rest platform := by
  obtain ⟨_,head,parts,isHead,proper,shape⟩ := root_shape valid
  have root_bare := bare_eq proper shape
  rw [canonical.native] at absolute inside ⊢
  rcases canonical.shape with ⟨relative,_⟩ | ⟨other,more,isHead',proper',shape'⟩
  · rw [relative] at absolute
    cases absolute
  rw [shape,shape',names_append,names_append,names_of_proper proper,names_of_proper proper'] at inside
  obtain ⟨headed,tail,same⟩ := heads_same lower isHead isHead' inside
  obtain ⟨front,back,split,front_same,back_same⟩ := map_eq_append_iff.mp same.symm
  have image : (foldingOf lower platform).fold
        (other ++ separatorFor platform :: join (separatorFor platform) front) =
      (foldingOf lower platform).fold root := by
    rw [shape,Folding.separator,Folding.separator,headed,Folding.fold_join,Folding.fold_join,front_same]
  by_cases ended : back = []
  · left
    rw [ended,append_nil] at split
    rw [shape',split]
    exact image
  · right
    by_cases top : parts = []
    · rw [if_pos top] at root_bare
      refine ⟨other,join (separatorFor platform) more,?_,by rw [root_bare]; exact headed⟩
      rw [canonical.native,shape']
    · have some_front : front ≠ [] := by
        rintro rfl
        exact top (by simpa using front_same.symm)
      rw [if_neg top] at root_bare
      refine ⟨other ++ separatorFor platform :: join (separatorFor platform) front,
        join (separatorFor platform) back,?_,by rw [root_bare]; exact image⟩
      rw [canonical.native,shape',split,join_append _ some_front ended]
      simp

/-- A canonical path makes no detour. -/
theorem Canonical.plain (canonical : Canonical platform candidate) :
    ∀ name ∈ names (separatorFor platform) (normalize platform candidate), isDotSegment name = false := by
  rw [canonical.native]
  rcases canonical.shape with ⟨_,parts,proper,shape⟩ | ⟨head,parts,isHead,proper,shape⟩
  · rw [shape,names_of_proper proper]
    exact fun name member => (proper name member).plain
  · rw [shape,names_append,names_of_proper proper]
    intro name member
    rcases mem_append.mp member with top | below
    · cases platform with
      | posix =>
        rw [show head = [] from isHead,names_nil] at top
        cases top
      | windowsDrive =>
        obtain ⟨letter,alphabetic,rfl⟩ := isHead
        have solid := @head_solid .windowsDrive [letter,0x3A] ⟨letter,alphabetic,rfl⟩
        rw [names_single (by simp) solid,mem_singleton] at top
        subst top
        simp [isDotSegment]
    · exact (proper name below).plain

/-- The check cuts as many units off a candidate as the image of the root has. The units it takes after
the candidate's own spelling of the root are separators, or what is left makes a detour and is refused. -/
def RightCut (platform : SourcePlatform) (candidate own rest : Units) : Prop :=
  (∀ u ∈ rest.take (((foldingOf lower platform).fold own).length - own.length), u = separatorFor platform) ∨
    ((∃ name ∈ names (separatorFor platform)
        (rest.drop (((foldingOf lower platform).fold own).length - own.length)), isDotSegment name = true) ∧
      ¬ Canonical platform candidate)

/-- When the check does what it is for: it cuts a candidate below the root right, and it refuses a Windows
path that starts elsewhere, which happens for a detour only. -/
structure CutsRight (platform : SourcePlatform) (root candidate : Units) : Prop where
  below : candidate ≠ [] → 0 ∉ candidate → isAbsolute platform (normalize platform candidate) = true →
    ∀ own rest, Below lower root candidate own rest platform → RightCut lower platform candidate own rest
  elsewhere : candidate ≠ [] → 0 ∉ candidate → isAbsolute platform (normalize platform candidate) = false →
    isElsewhere platform (normalize platform candidate) = true →
    ∃ name ∈ names (separatorFor platform) (normalize platform candidate), isDotSegment name = true

theorem names_joined (components : List Units) (proper : ∀ component ∈ components, Proper platform component) :
    names (separatorFor platform) (joined (separatorFor platform) root components) =
      names (separatorFor platform) root ++ components := by
  rw [joined]
  split
  · rename_i nothing
    rw [eq_nil_of_length_eq_zero nothing,append_nil]
  · rw [names_append,names_of_proper proper]

theorem proper_names {text : Units}
    (plain : ∀ name ∈ names (separatorFor platform) text, isDotSegment name = false) :
    ∀ name ∈ names (separatorFor platform) text, Proper platform name :=
  fun name member => ⟨(mem_names member).1,(mem_names member).2,plain name member⟩

/-- The names of what is left of a candidate have native separators only, that is none. -/
theorem native_names (count : Nat) :
    ∀ name ∈ names (separatorFor platform) ((normalize platform candidate).drop count),
      normalize platform name = name := by
  intro name member
  cases platform with
  | posix => rfl
  | windowsDrive =>
    refine (map_congr_left fun u inside => if_neg ?_).trans (map_id name)
    rintro rfl
    have kept := mem_of_mem_drop (mem_of_names member inside)
    obtain ⟨u,_,image⟩ := mem_map.mp kept
    revert image
    split <;> simp_all

/-- The components of a path lead where the names below the root lead. -/
theorem leads_of_names {target below : List Units}
    (proper : ∀ component ∈ components, Proper platform component)
    (native : ∀ component ∈ components, normalize platform component = component)
    (placed : place platform root candidate = some target)
    (target_same : target.map (foldingOf lower platform).fold =
      (names (separatorFor platform) root).map (foldingOf lower platform).fold ++
        below.map (foldingOf lower platform).fold)
    (same : components.map (foldingOf lower platform).fold = below.map (foldingOf lower platform).fold) :
    Leads lower platform root candidate components where
  proper := proper
  native := native
  same := by
    refine ⟨target,placed,?_⟩
    rw [names_joined components proper,map_append,target_same,same]
  inside := ⟨target,placed,by rw [target_same]; exact prefix_append _ _⟩

theorem Leads.components_same {target below : List Units}
    (leads : Leads lower platform root candidate components)
    (placed : place platform root candidate = some target)
    (target_same : target.map (foldingOf lower platform).fold =
      (names (separatorFor platform) root).map (foldingOf lower platform).fold ++
        below.map (foldingOf lower platform).fold) :
    components.map (foldingOf lower platform).fold = below.map (foldingOf lower platform).fold := by
  obtain ⟨found,placed',same⟩ := leads.same
  obtain rfl := Option.some.inj (placed.symm.trans placed')
  rw [names_joined components leads.proper,map_append,target_same] at same
  exact append_cancel_left same

section Candidates

variable (valid : validWorkDir root platform = true) (long : candidate ≠ []) (printable : 0 ∉ candidate)

include long printable in
theorem faithful_relative_iff (relative : isAbsolute platform (normalize platform candidate) = false) :
    Faithful lower platform root candidate ↔ CutsRight lower platform root candidate := by
  have returned := relativeComponents_relative lower root long printable relative
  have notAbsolute : ¬ isAbsolute platform (normalize platform candidate) = true := by simp [relative]
  cases elsewhere : isElsewhere platform (normalize platform candidate) with
  | true =>
    have placed : place platform root candidate = none := by
      rw [place,if_neg notAbsolute,if_pos elsewhere]
    constructor
    · intro faithful
      refine ⟨fun _ _ absolute => absurd absolute notAbsolute,fun _ _ _ _ => ?_⟩
      by_contra plain
      have undotted : ∀ name ∈ names (separatorFor platform) (normalize platform candidate),
          isDotSegment name = false :=
        fun name member => Bool.eq_false_iff.mpr fun dotted => plain ⟨name,member,dotted⟩
      obtain ⟨components,ok⟩ := relativeParts_accepts undotted
      obtain ⟨target,some_place,_⟩ := (faithful.leads components (returned.trans ok)).same
      rw [placed] at some_place
      cases some_place
    · intro cuts
      obtain ⟨name,member,dotted⟩ := cuts.elsewhere long printable relative elsewhere
      refine faithful_of lower (fun components ok => ?_) ?_
      · have plain := (relativeParts_ok.mp (returned.symm.trans ok)).2 name member
        rw [dotted] at plain
        cases plain
      · rintro _ ⟨target,some_place,_⟩
        rw [placed] at some_place
        cases some_place
  | false =>
    have placed : place platform root candidate = some (names (separatorFor platform) root ++
        names (separatorFor platform) (normalize platform candidate)) := by
      rw [place,if_neg notAbsolute,if_neg (by simp [elsewhere])]
    refine ⟨fun _ => ⟨fun _ _ absolute => absurd absolute notAbsolute,fun _ _ _ other => ?_⟩,
      fun _ => faithful_of lower ?_ ?_⟩
    · rw [elsewhere] at other
      cases other
    · intro components ok
      obtain ⟨rfl,plain⟩ := relativeParts_ok.mp (returned.symm.trans ok)
      exact leads_of_names lower (proper_names plain) (native_names 0) placed (by rw [map_append]) rfl
    · intro canonical _
      rw [returned]
      exact relativeParts_accepts canonical.plain

theorem Below.target (valid : validWorkDir root platform)
    (below : Below lower root candidate own rest platform) :
    (names (separatorFor platform) (normalize platform candidate)).map (foldingOf lower platform).fold =
      (names (separatorFor platform) root).map (foldingOf lower platform).fold ++
        (names (separatorFor platform) rest).map (foldingOf lower platform).fold := by
  rw [below.split,names_append,map_append,below.names_same lower valid]

/-- A candidate that names the root itself. -/
theorem faithful_equal (valid : validWorkDir root platform)
    (absolute : isAbsolute platform (normalize platform candidate))
    (equal : (foldingOf lower platform).fold (normalize platform candidate) =
      (foldingOf lower platform).fold root)
    (returned : relativeComponents lower.fold root candidate platform = .ok []) :
    Faithful lower platform root candidate ∧ ∀ own rest, Below lower root candidate own rest platform →
        RightCut lower platform candidate own rest := by
  have target : (names (separatorFor platform) (normalize platform candidate)).map
        (foldingOf lower platform).fold =
      (names (separatorFor platform) root).map (foldingOf lower platform).fold := by
    rw [← Folding.names_fold,equal,Folding.names_fold]
  refine ⟨faithful_of lower (fun components ok => ?_) fun _ _ => ⟨[],returned⟩,fun own rest below => Or.inl ?_⟩
  · obtain rfl := Except.ok.inj (returned.symm.trans ok)
    have nothing : (names (separatorFor platform) (normalize platform candidate)).map
          (foldingOf lower platform).fold =
        (names (separatorFor platform) root).map (foldingOf lower platform).fold ++
          ([] : List Units).map (foldingOf lower platform).fold := by
      rw [target,map_nil,append_nil]
    exact leads_of_names lower (by simp) (by simp) (place_absolute root absolute) nothing rfl
  · have added := below.target lower valid
    rw [target,self_eq_append_right,map_eq_nil_iff] at added
    have light : (foldingOf lower platform).mass rest = 0 := by simp [Folding.mass,added]
    have separators := (foldingOf lower platform).mass_eq_zero.mp light
    exact fun u member => separators u (mem_of_mem_take member)

/-- A candidate that starts with the root. -/
theorem faithful_starts (valid : validWorkDir root platform)
    (absolute : isAbsolute platform (normalize platform candidate))
    (below : Below lower root candidate own rest platform)
    (returned : relativeComponents lower.fold root candidate platform = relativeParts (separatorFor platform)
      (rest.drop (((foldingOf lower platform).fold own).length - own.length))) :
    Faithful lower platform root candidate ↔ RightCut lower platform candidate own rest := by
  have placed := place_absolute root absolute
  have target := below.target lower valid
  have native : ∀ name ∈ names (separatorFor platform)
      (rest.drop (((foldingOf lower platform).fold own).length - own.length)),
      normalize platform name = name := by
    rw [← below.drop lower]
    exact native_names _
  constructor
  · intro faithful
    by_cases dotted : ∃ name ∈ names (separatorFor platform)
        (rest.drop (((foldingOf lower platform).fold own).length - own.length)), isDotSegment name
    · -- The refusal of a canonical path would break the promise to accept it.
      refine Or.inr ⟨dotted,fun canonical => ?_⟩
      obtain ⟨name,member,detour⟩ := dotted
      have inside : Inside lower platform root candidate :=
        ⟨_,placed,by rw [target]; exact prefix_append _ _⟩
      obtain ⟨components,ok⟩ := faithful.accepts canonical inside
      have plain := (relativeParts_ok.mp (returned.symm.trans ok)).2 name member
      rw [detour] at plain
      cases plain
    · left
      have plain : ∀ name ∈ names (separatorFor platform)
          (rest.drop (((foldingOf lower platform).fold own).length - own.length)), isDotSegment name = false :=
        fun name member => Bool.eq_false_iff.mpr fun detour => dotted ⟨name,member,detour⟩
      obtain ⟨components,ok⟩ := relativeParts_accepts plain
      have leads := faithful.leads components (returned.trans ok)
      have same := leads.components_same lower placed target
      rw [(relativeParts_ok.mp ok).1] at same
      exact ((foldingOf lower platform).names_drop_iff rest _).mp same
  · rintro (separators | ⟨⟨name,member,detour⟩,crooked⟩)
    · refine faithful_of lower (fun components ok => ?_) fun canonical _ => ?_
      · obtain ⟨rfl,plain⟩ := relativeParts_ok.mp (returned.symm.trans ok)
        exact leads_of_names lower (proper_names plain) native placed target
          (((foldingOf lower platform).names_drop_iff rest _).mpr separators)
      · rw [returned]
        apply relativeParts_accepts
        intro name member
        have kept := names_separators separators
          (rest.drop (((foldingOf lower platform).fold own).length - own.length))
        rw [take_append_drop] at kept
        apply canonical.plain
        rw [below.split,names_append,kept]
        exact mem_append_right _ member
    · refine faithful_of lower (fun components ok => ?_) fun canonical => absurd canonical crooked
      have plain := (relativeParts_ok.mp (returned.symm.trans ok)).2 name member
      rw [detour] at plain
      cases plain

include valid long printable in
theorem faithful_absolute_iff (absolute : isAbsolute platform (normalize platform candidate) = true) :
    Faithful lower platform root candidate ↔ ∀ own rest,
      Below lower root candidate own rest platform → RightCut lower platform candidate own rest := by
  have returned := relativeComponents_absolute lower valid long printable absolute
  by_cases equal : (foldingOf lower platform).fold (normalize platform candidate) =
      (foldingOf lower platform).fold root
  · rw [if_pos equal] at returned
    have both := faithful_equal lower valid absolute equal returned
    exact ⟨fun _ => both.2,fun _ => both.1⟩
  rw [if_neg equal] at returned
  by_cases starts : ((foldingOf lower platform).fold (bare (separatorFor platform) root) ++
      [separatorFor platform]).isPrefixOf
        ((foldingOf lower platform).fold (normalize platform candidate)) = true
  · rw [if_pos starts] at returned
    have cut : ∀ own rest, Below lower root candidate own rest platform →
        (Faithful lower platform root candidate ↔ RightCut lower platform candidate own rest) := by
      intro own rest below
      rw [below.drop lower] at returned
      exact faithful_starts lower valid absolute below returned
    obtain ⟨own,rest,below⟩ := (isPrefixOf_below lower).mp starts
    exact ⟨fun faithful own rest below => (cut own rest below).mp faithful,
      fun right => (cut own rest below).mpr (right own rest below)⟩
  · rw [if_neg starts] at returned
    have outside : ∀ own rest, ¬ Below lower root candidate own rest platform :=
      fun own rest below => starts ((isPrefixOf_below lower).mpr ⟨own,rest,below⟩)
    refine ⟨fun _ own rest below => absurd below (outside own rest),
      fun _ => faithful_of lower (fun components ok => ?_) ?_⟩
    · rw [returned] at ok
      cases ok
    · rintro canonical ⟨target,placed,inside⟩
      obtain rfl := Option.some.inj ((place_absolute root absolute).symm.trans placed)
      rcases canonical.below lower valid absolute inside with same | ⟨own,rest,below⟩
      · exact absurd same equal
      · exact absurd below (outside own rest)

end Candidates

/-- The check serves a candidate if and only if it cuts it right. -/
theorem faithful_iff (valid : validWorkDir root platform = true) :
    Faithful lower platform root candidate ↔ CutsRight lower platform root candidate := by
  by_cases long : candidate ≠ []
  · by_cases printable : 0 ∉ candidate
    · cases absolute : isAbsolute platform (normalize platform candidate) with
      | true =>
        rw [faithful_absolute_iff lower valid long printable absolute]
        refine ⟨fun right => ⟨fun _ _ _ => right,fun _ _ relative => ?_⟩,
          fun cuts => cuts.below long printable absolute⟩
        rw [absolute] at relative
        cases relative
      | false => exact faithful_relative_iff lower long printable absolute
    · refine ⟨fun _ => ⟨fun _ absent => absurd absent printable,fun _ absent => absurd absent printable⟩,
        fun _ => faithful_of lower (fun components ok => ?_)
          fun canonical => absurd canonical.printable printable⟩
      exact absurd (relativeComponents_nonempty lower ok).2 printable
  · refine ⟨fun _ => ⟨fun some_text => absurd some_text long,fun some_text => absurd some_text long⟩,
      fun _ => faithful_of lower (fun components ok => ?_) fun canonical => absurd canonical.long long⟩
    exact absurd (relativeComponents_nonempty lower ok).1 long

/-- Paths that are compared as they are, or that the folding keeps as long as they are, are cut right. -/
theorem rightCut_of_length (kept : ((foldingOf lower platform).fold own).length = own.length) :
    RightCut lower platform candidate own rest := by
  refine Or.inl fun u member => ?_
  rw [kept,Nat.sub_self,take_zero] at member
  cases member

/-- The lower case of the letters of English and of the dotted capital I, which is two units. -/
def lowerUnit (u : UInt16) : Units :=
  if 0x41 ≤ u ∧ u ≤ 0x5A then [u + 0x20] else if u = 0x130 then [0x69,0x307] else [u]

theorem lowerUnit_solid (u : UInt16) (other : u ≠ 0x5C) : 0x5C ∉ lowerUnit u := by
  unfold lowerUnit
  split
  · rename_i capital
    rw [mem_singleton]
    intro same
    have low : u = 0x3C := by
      have back := congrArg (· - 0x20) same
      simpa using back.symm
    subst low
    exact absurd capital (by decide)
  · split
    · decide
    · simpa using other.symm

def lowerSample : Folding (0x5C : UInt16) :=
  .ofUnits 0x5C lowerUnit rfl lowerUnit_solid fun u => by unfold lowerUnit; split <;> [simp; (split <;> simp)]

theorem lowerSample_length {text : Units} (plain : 0x130 ∉ text) :
    (lowerSample.fold text).length = text.length := by
  change (text.flatMap lowerUnit).length = text.length
  induction text with
  | nil => rfl
  | cons u rest ih =>
    obtain ⟨other,later⟩ := forall_mem_cons.mp (fun v member same => plain (same ▸ member) :
      ∀ v ∈ u :: rest, v ≠ 0x130)
    have one : (lowerUnit u).length = 1 := by
      simp only [lowerUnit,if_neg other]
      split <;> rfl
    rw [flatMap_cons,length_append,one,ih fun member => later 0x130 member rfl,length_cons]
    omega

/-- In the root `C:\İ` the image of the path `C:\İ\ab` is one unit longer than the path, and the first
unit of the name is cut off: the reader opens another file of the workspace. -/
theorem containment_misnames :
    validWorkDir [0x43,0x3A,0x5C,0x130] .windowsDrive = true ∧
      Canonical .windowsDrive [0x43,0x3A,0x5C,0x130,0x5C,0x61,0x62] ∧
      resolvedPath lowerSample.fold [0x43,0x3A,0x5C,0x130] [0x43,0x3A,0x5C,0x130,0x5C,0x61,0x62] .windowsDrive =
        .ok [0x43,0x3A,0x5C,0x130,0x5C,0x62] ∧
      ¬ Faithful lowerSample .windowsDrive [0x43,0x3A,0x5C,0x130] [0x43,0x3A,0x5C,0x130,0x5C,0x61,0x62] := by
  have resolved : resolvedPath lowerSample.fold [0x43,0x3A,0x5C,0x130] [0x43,0x3A,0x5C,0x130,0x5C,0x61,0x62]
      .windowsDrive = .ok [0x43,0x3A,0x5C,0x130,0x5C,0x62] := by rfl
  refine ⟨by decide,⟨by decide,by decide,by decide,Or.inr ⟨[0x43,0x3A],[[0x130],[0x61,0x62]],?_⟩⟩,resolved,?_⟩
  · refine ⟨⟨0x43,by decide⟩,?_,by decide⟩
    rw [forall_mem_cons,forall_mem_singleton]
    exact ⟨⟨by decide,by decide,by decide⟩,⟨by decide,by decide,by decide⟩⟩
  · intro faithful
    obtain ⟨target,placed,same⟩ := faithful.opens _ resolved
    have named : place .windowsDrive [0x43,0x3A,0x5C,0x130] [0x43,0x3A,0x5C,0x130,0x5C,0x61,0x62] =
        some [[0x43,0x3A],[0x130],[0x61,0x62]] := by decide
    obtain rfl := Option.some.inj (named.symm.trans placed)
    revert same
    decide

theorem faithful_iff_sample : Faithful lowerSample .windowsDrive (ofString "C:\\w") (ofString "c:\\W\\a") := by
  refine (faithful_iff lowerSample (by decide)).mpr ⟨fun _ _ _ own rest below => ?_,fun _ _ relative => ?_⟩
  · refine rightCut_of_length lowerSample (lowerSample_length fun inside => ?_)
    have kept : 0x130 ∈ normalize .windowsDrive (ofString "c:\\W\\a") := by
      rw [below.split]
      exact mem_append_left _ inside
    revert kept
    decide
  · revert relative
    decide

end GjcRemote.Containment
