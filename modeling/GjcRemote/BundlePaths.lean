import GjcRemote.DeploymentEnvelope
import GjcRemote.PlainRecords
import GjcRemote.TokenFloor
import GjcRemote.ServiceJournalRead

/-! The check of a bundle's paths finds every collision: what it asks of neighbours in the order of
the segments holds of all pairs. -/
namespace GjcRemote.DeploymentEnvelope

open Utf16 StrictJson Record Envelope PrefixOrder
open List hiding get get_of_mem splitOn
open GenesisEnvelope (FitsMember fits_safe fits_hex isSafe)
open ServiceEnvelope (isDecimal)
open MappingEnvelope (splitOn isSlash isBackslash isDotSegment)

section

variable (casing : Casing)

/-- The segments of a path, as they are compared on a platform. -/
def segmentKeys (windows : Bool) (path : Units) : List Units :=
  if windows then (splitOn isSlash path).map fun part => casing.toUpperCase (casing.toLowerCase part)
  else splitOn isSlash path

/-- Two paths that cannot both be in a bundle: one is the other or a directory above it, or, on
Windows, some directory or file of both has one name in two spellings. -/
def Collide (windows : Bool) (one other : Units) : Prop :=
  splitOn isSlash one <+: splitOn isSlash other ∨ splitOn isSlash other <+: splitOn isSlash one ∨
    windows = true ∧ ∃ k, (segmentKeys casing windows one).take k = (segmentKeys casing windows other).take k ∧
      (splitOn isSlash one).take k ≠ (splitOn isSlash other).take k

theorem compareKeys_le (left right : List Units) :
    compareKeys left right ≤ 0 ↔ (List.compareLex compare left right).isLE := by
  induction left generalizing right with
  | nil =>
    cases right with
    | nil => simp [compareKeys,List.compareLex_nil_nil]
    | cons r rs =>
      simp only [compareKeys,length_nil,length_cons,List.compareLex_nil_cons]
      exact iff_of_true (by omega) rfl
  | cons l ls ih =>
    cases right with
    | nil =>
      simp only [compareKeys,length_nil,length_cons,List.compareLex_cons_nil]
      exact iff_of_false (by omega) (by decide)
    | cons r rs =>
      rw [compareKeys,List.compareLex_cons_cons]
      by_cases same : l = r
      · subst same
        simp [ih]
      · have differ : compare l r ≠ .eq := fun equal => same (Std.LawfulEqCmp.eq_of_compare equal)
        cases order : compare l r with
        | eq => exact absurd order differ
        | lt => simp [same]
        | gt => simp [same]

def inOrder (windows : Bool) (paths : List Units) : List Units :=
  paths.insertionSort fun left right => compareKeys (segmentKeys casing windows left) (segmentKeys casing windows right) ≤ 0

theorem inOrder_sorted (windows : Bool) (paths : List Units) : (inOrder casing windows paths).Pairwise fun a b =>
    (List.compareLex compare (segmentKeys casing windows a) (segmentKeys casing windows b)).isLE := by
  have total : Std.Total fun left right =>
      compareKeys (segmentKeys casing windows left) (segmentKeys casing windows right) ≤ 0 := by
    refine ⟨fun a b => ?_⟩
    rw [compareKeys_le,compareKeys_le]
    have swapped : compare (segmentKeys casing windows b) (segmentKeys casing windows a) =
        (compare (segmentKeys casing windows a) (segmentKeys casing windows b)).swap := Std.OrientedCmp.eq_swap
    change (compare (segmentKeys casing windows a) (segmentKeys casing windows b)).isLE ∨
      (compare (segmentKeys casing windows b) (segmentKeys casing windows a)).isLE
    rw [swapped]
    cases compare (segmentKeys casing windows a) (segmentKeys casing windows b) <;> simp
  have trans : IsTrans Units fun left right =>
      compareKeys (segmentKeys casing windows left) (segmentKeys casing windows right) ≤ 0 := by
    refine ⟨fun a b c ab bc => ?_⟩
    rw [compareKeys_le] at ab bc ⊢
    exact @Std.TransCmp.isLE_trans (List Units) compare _ _ _ _ ab bc
  exact (pairwise_insertionSort _ paths).imp fun le => (compareKeys_le _ _).mp le

def Fits (windows : Bool) (earlier later : TreePath) : Prop :=
  ∀ k, earlier.keys.take k = later.keys.take k → k < earlier.keys.length ∧
    (windows = true → earlier.parts.take k = later.parts.take k)

theorem checkNeighbours_ok (paths : List TreePath) :
    checkNeighbours windows paths = .ok () ↔ paths.IsChain (Fits windows) := by
  induction paths with
  | nil => simp [checkNeighbours]
  | cons earlier rest ih =>
    cases rest with
    | nil => simp [checkNeighbours]
    | cons later rest =>
      rw [checkNeighbours,isChain_cons_cons,← ih]
      simp only [checks_ok,bne_iff_ne,Bool.or_eq_true,Bool.not_eq_true',beq_iff_eq]
      have shared := take_common earlier.keys later.keys
      constructor
      · rintro ⟨apart,spelled,onward⟩
        refine ⟨fun k same => ?_,onward⟩
        have inside : k < earlier.keys.length := by
          by_contra beyond
          rw [take_of_length_le (by omega)] at same
          exact apart (prefix_iff_common.mp (same ▸ take_prefix _ _))
        refine ⟨inside,fun isWindows => ?_⟩
        have within := le_common same inside.le
        have texts := congrArg (take k) (spelled.resolve_left (by simp [isWindows]))
        rwa [take_take,take_take,Nat.min_eq_left within] at texts
      · rintro ⟨fits,onward⟩
        obtain ⟨inside,spelled⟩ := fits _ shared
        refine ⟨inside.ne,?_,onward⟩
        cases windows with
        | false => exact .inl rfl
        | true => exact .inr (spelled rfl)

def foldKey (windows : Bool) (part : Units) : Units :=
  if windows then casing.toUpperCase (casing.toLowerCase part) else part

end

theorem treePath_keys (windows : Bool) (path : Units) :
    (treePath casing windows path).keys = (splitOn isSlash path).map (foldKey casing windows) := by
  cases windows
  · exact (map_id' _).symm
  · rfl

theorem segmentKeys_eq (windows : Bool) (path : Units) :
    segmentKeys casing windows path = (splitOn isSlash path).map (foldKey casing windows) :=
  treePath_keys windows path

/-- Of two paths in order, the earlier fits before the later exactly when they do not collide. -/
theorem fits_iff
    (ordered : (List.compareLex compare (segmentKeys casing windows one) (segmentKeys casing windows other)).isLE =
      true) :
    Fits windows (treePath casing windows one) (treePath casing windows other) ↔
      ¬ Collide casing windows one other := by
  have keyed : ∀ {p q : Units}, splitOn isSlash p <+: splitOn isSlash q →
      segmentKeys casing windows p <+: segmentKeys casing windows q := by
    intro p q above
    rw [segmentKeys_eq,segmentKeys_eq]
    exact above.map _
  constructor
  · intro fits collide
    have apart : ¬ segmentKeys casing windows one <+: segmentKeys casing windows other := by
      intro above
      have whole := prefix_iff_eq_take.mp above
      have inside := (fits _ ((take_length ..).trans whole)).1
      exact lt_irrefl _ inside
    rcases collide with above | below | ⟨isWindows,k,same,differ⟩
    · exact apart (keyed above)
    · exact apart (eq_of_prefix_of_isLE (keyed below) ordered ▸ prefix_rfl)
    · exact differ ((fits k same).2 isWindows)
  · intro apart k same
    have spelled (isWindows : windows) :
        (splitOn isSlash one).take k = (splitOn isSlash other).take k := by
      by_contra differ
      exact apart (.inr (.inr ⟨isWindows,k,same,differ⟩))
    refine ⟨?_,spelled⟩
    by_contra beyond
    have texts : (splitOn isSlash one).take k = (splitOn isSlash other).take k := by
      cases windows with
      | true => exact spelled rfl
      | false => simpa [treePath] using same
    rw [treePath_keys,length_map] at beyond
    rw [take_of_length_le (by omega)] at texts
    exact apart (.inl (texts ▸ take_prefix _ _))

theorem Collide.symm (collide : Collide casing windows one other) :
    Collide casing windows other one := by
  rcases collide with above | below | ⟨isWindows,k,same,differ⟩
  · exact .inr (.inl above)
  · exact .inl below
  · exact .inr (.inr ⟨isWindows,k,same.symm,differ.symm⟩)

def bundlePaths (entries : List Value) : List Units :=
  ofString APPLICATION_BUNDLE_INVENTORY_PATH :: entries.map fun entry => textOf (get entry "path")

/-- The check of neighbours finds every pair that collides. -/
theorem validatePayloadTreePaths_ok (entries : List Value) (platform : Value) :
    validatePayloadTreePaths casing entries platform = .ok () ↔
      (bundlePaths entries).Pairwise fun one other => ¬ Collide casing (isWindows platform) one other := by
  have sorted := inOrder_sorted casing (isWindows platform) (bundlePaths entries)
  have moved : (treePaths casing (isWindows platform) entries).insertionSort
      (fun left right => compareKeys left.keys right.keys ≤ 0) =
        (inOrder casing (isWindows platform) (bundlePaths entries)).map (treePath casing (isWindows platform)) :=
    (map_insertionSort _ _ (treePath casing (isWindows platform)) (bundlePaths entries)
      fun _ _ _ _ => Iff.rfl).symm
  have perm : (inOrder casing (isWindows platform) (bundlePaths entries)).Perm (bundlePaths entries) :=
    perm_insertionSort _ _
  rw [validatePayloadTreePaths,moved,checkNeighbours_ok,isChain_map,
    ← perm.pairwise_iff fun apart collide => apart collide.symm]
  constructor
  · intro near
    have all := pairwise_of_neighbours (segmentKeys casing (isWindows platform))
      (fun k a b => k < (segmentKeys casing (isWindows platform) a).length ∧
        (isWindows platform → (splitOn isSlash a).take k = (splitOn isSlash b).take k))
      (fun ab bc => ⟨ab.1,fun is => (ab.2 is).trans (bc.2 is)⟩) sorted near
    exact all.imp₂ (fun _ _ fits ordered => (fits_iff ordered).mp fits) sorted
  · intro apart
    exact (apart.imp₂ (fun _ _ free ordered => (fits_iff ordered).mpr free) sorted).isChain

structure PayloadRecord (record : Value) : Prop where
  keys : hasExactKeys record ["path","size","sha256","executablePolicy"] = true
  size : isNonNegative (get record "size") = true
  digest : isHex (get record "sha256") = true
  policy : isOneOf ["forbidden","required"] (get record "executablePolicy") = true
  path : ∃ text, get record "path" = .string text ∧ StrictUnits text

theorem payloadRecord
    (valid : validatePayloadRecord casing record platform = .ok ()) : PayloadRecord record := by
  simp only [validatePayloadRecord,validateBundlePath,checks_ok,strictText,Bool.and_eq_true] at valid
  obtain ⟨⟨⟨⟨⟨keys,size⟩,_⟩,digest⟩,policy⟩,⟨text,_⟩,_⟩ := valid
  refine ⟨keys,size,digest,policy,?_⟩
  cases path : get record "path" with
  | string units =>
    rw [path,matchesText,Bool.and_eq_true] at text
    have strict := isOk_unit text.1
    rw [assertStrictText] at strict
    split at strict
    · cases strict
    · exact ⟨units,rfl,strictUnits_of_checkText strict⟩
  | _ => simp [path,matchesText] at text

theorem accepted_scalar (scalar : isScalar value)
    (accepted : Accepted most value depth) (room : depth' ≤ most') : Accepted most' value depth' := by
  cases value <;> simp_all [Accepted,isScalar]

theorem payloadKeys_nodup : (["path","size","sha256","executablePolicy"].map ofString).Nodup :=
  names_nodup (by decide)

/-- A record has canonical bytes, with five nodes. -/
theorem PayloadRecord.accepted (valid : PayloadRecord record) :
    Accepted 16 record 1 ∧ StrictJson.size record = 5 := by
  have member {key : String} (listed : key ∈ ["path","size","sha256","executablePolicy"]) :
      Accepted 16 (get record key) 2 ∧ StrictJson.size (get record key) = 1 := by
    have scalar {value : Value} (is : isScalar value) (fits : FitsMember value) :
        Accepted 16 value 2 ∧ StrictJson.size value = 1 :=
      ⟨accepted_scalar is fits.1 (by decide),fits.2⟩
    simp only [mem_cons,not_mem_nil,or_false] at listed
    rcases listed with rfl | rfl | rfl | rfl
    · obtain ⟨text,path,strict⟩ := valid.path
      rw [path]
      exact ⟨⟨by decide,strict⟩,rfl⟩
    · have safe : isSafe (get record "size") := by
        have known := valid.size
        rw [isNonNegative,Option.any_eq_true] at known
        obtain ⟨n,known,_⟩ := known
        rw [isSafe,known]
        rfl
      exact scalar (isNonNegative_scalar valid.size) (fits_safe safe)
    · exact scalar (isHex_scalar valid.digest) (fits_hex valid.digest)
    · obtain ⟨text,listed,is⟩ := any_eq_true.mp valid.policy
      rw [isText_iff.mp is]
      simp only [mem_cons,not_mem_nil,or_false] at listed
      rcases listed with rfl | rfl
      · exact ⟨⟨by decide,printable_strict (by decide)⟩,rfl⟩
      · exact ⟨⟨by decide,printable_strict (by decide)⟩,rfl⟩
  have keys := valid.keys
  cases record with
  | object entries =>
    have perm := exactKeys_perm keys payloadKeys_nodup
    have nodup := perm.nodup_iff.mpr payloadKeys_nodup
    have each : ∀ e ∈ entries, StrictUnits e.1 ∧ Accepted 16 e.2 2 ∧ StrictJson.size e.2 = 1 := by
      intro e there
      obtain ⟨key,listed,same⟩ := mem_map.mp (perm.mem_iff.mp (mem_map_of_mem there))
      have value := @get_of_mem entries key e.2 nodup (by rw [same]; exact there)
      refine ⟨?_,value ▸ member listed⟩
      rw [← same]
      simp only [mem_cons,not_mem_nil,or_false] at listed
      rcases listed with rfl | rfl | rfl | rfl <;> exact printable_strict (by decide)
    refine ⟨⟨by decide,(acceptedEntries_iff _ _ _).mpr fun e there => ⟨(each e there).1,(each e there).2.1⟩⟩,?_⟩
    have ones : entries.map (fun e => StrictJson.size e.2) = entries.map fun _ => 1 :=
      map_congr_left fun e there => (each e there).2.2
    have length : entries.length = 4 := by simpa using perm.length_eq
    rw [StrictJson.size,sizeEntries_eq,ones]
    simp [length]
  | _ => simp [hasExactKeys] at keys

/-- The lists the check is made for: not too many entries, and not too many bytes. -/
def WithinLimits (entries : List Value) : Prop :=
  entries.length ≤ DEPLOYMENT_ENVELOPE_LIMITS.payloadEntries ∧
    2 + (entries.map entryCost).sum ≤ DEPLOYMENT_ENVELOPE_LIMITS.inventoryBytes

theorem checkEntries_ok {platform : Value} {previous : Option Units} {budget : Nat} {entries : List Value}
    (valid : ∀ entry ∈ entries, validatePayloadRecord casing entry platform = .ok ())
    (sorted : (previous.toList ++ entries.map fun entry => textOf (get entry "path")).IsChain
      fun before path => utf8Compare before path = .lt)
    (room : budget ≤ DEPLOYMENT_ENVELOPE_LIMITS.inventoryBytes) :
    checkEntries casing platform previous budget entries = .ok () ↔
      budget + (entries.map entryCost).sum ≤ DEPLOYMENT_ENVELOPE_LIMITS.inventoryBytes := by
  induction entries generalizing previous budget with
  | nil => simpa [checkEntries] using room
  | cons entry rest ih =>
    obtain ⟨here,later⟩ := forall_mem_cons.mp valid
    have ordered : (previous.all fun before => utf8Compare before (textOf (get entry "path")) == .lt) = true := by
      cases previous with
      | none => rfl
      | some before => simpa using (isChain_cons_cons.mp sorted).1
    have onward : ((some (textOf (get entry "path"))).toList ++ rest.map fun entry => textOf (get entry "path")).IsChain
        fun before path => utf8Compare before path = .lt := by
      cases previous with
      | none => exact sorted
      | some before => exact (isChain_cons_cons.mp sorted).2
    simp only [checkEntries,checks_ok,decide_eq_true_eq,here,ordered,true_and]
    rw [map_cons,sum_cons]
    constructor
    · rintro ⟨fits,checked⟩
      have total := (ih later onward fits).mp checked
      omega
    · intro total
      have fits : budget + entryCost entry ≤ DEPLOYMENT_ENVELOPE_LIMITS.inventoryBytes := by omega
      exact ⟨fits,(ih later onward fits).mpr (by omega)⟩

/-- Whatever fits has a fingerprint. -/
theorem canonicalHash_ok (sha256 : List UInt8 → Units) (valid : ∀ entry ∈ entries, PayloadRecord entry)
    (few : entries.length ≤ DEPLOYMENT_ENVELOPE_LIMITS.payloadEntries) :
    ∃ digest, canonicalHash sha256 (.array entries) INVENTORY_CANONICAL_LIMITS = .ok digest := by
  have encoded : canonicalJsonBytes (.array entries) INVENTORY_CANONICAL_LIMITS = .ok (utf8 (render (.array entries))) := by
    refine (canonicalJsonBytes_iff _ _ _).mpr ⟨⟨by decide,?_⟩,?_,rfl⟩
    · exact (acceptedItems_iff _ _ _).mpr fun entry there => (valid entry there).accepted.1
    · have fives : entries.map StrictJson.size = entries.map fun _ => 5 :=
        map_congr_left fun entry there => (valid entry there).accepted.2
      rw [StrictJson.size,sizeItems_eq,fives]
      rw [map_const',sum_replicate_nat]
      simp only [INVENTORY_CANONICAL_LIMITS,DEPLOYMENT_ENVELOPE_LIMITS] at few ⊢
      omega
  exact ⟨sha256 (utf8 (render (.array entries))),by simp [canonicalHash,encoded,pure,Except.pure,bind,Except.bind]⟩

/-- The fingerprint of a list of valid records in order is refused for its size or for a collision of
two of its paths, and for nothing else. -/
theorem bundleTreeFingerprint_collisions (casing : Casing) (sha256 : List UInt8 → Units) (entries : List Value)
    (platform : Value) (valid : ∀ entry ∈ entries, validatePayloadRecord casing entry platform = .ok ())
    (sorted : (entries.map fun entry => textOf (get entry "path")).IsChain fun before path =>
      utf8Compare before path = .lt) :
    (∃ digest, bundleTreeFingerprint casing sha256 (.array entries) platform = .ok digest) ↔
      WithinLimits entries ∧
        (bundlePaths entries).Pairwise fun one other => ¬ Collide casing (isWindows platform) one other := by
  have records : ∀ entry ∈ entries, PayloadRecord entry := fun entry there => payloadRecord (valid entry there)
  have copied : entries.map spread = entries := by
    refine (map_congr_left fun entry there => ?_).trans (map_id' _)
    have keys := (records entry there).keys
    cases entry <;> simp_all [hasExactKeys,spread]
  have checked := @checkEntries_ok casing platform none 2 entries valid sorted (show 2 ≤ DEPLOYMENT_ENVELOPE_LIMITS.inventoryBytes by decide)
  simp only [bundleTreeFingerprint,copied,checks_ok,decide_eq_true_eq,checked,validatePayloadTreePaths_ok]
  constructor
  · rintro ⟨digest,few,small,apart,_⟩
    exact ⟨⟨few,small⟩,apart⟩
  · rintro ⟨⟨few,small⟩,apart⟩
    obtain ⟨digest,hashed⟩ := canonicalHash_ok sha256 records few
    exact ⟨digest,few,small,apart,hashed⟩

def asciiUpper (u : UInt16) : UInt16 := if 0x61 ≤ u && u ≤ 0x7a then u - 0x20 else u

def asciiCasing : Casing := ⟨map asciiLower,map asciiUpper⟩

def payloadFile (path : Units) : Value :=
  .object [(ofString "path",.string path),(ofString "size",.number (.int 0)),
    (ofString "sha256",hexText 0),(ofString "executablePolicy",.string (ofString "forbidden"))]

theorem payloadFile_valid
    (valid : validateBundlePath casing (.string path) platform "inventory payload path" = .ok ())
    (other : path ≠ ofString APPLICATION_BUNDLE_INVENTORY_PATH) :
    validatePayloadRecord casing (payloadFile path) platform = .ok () := by
  have members : get (payloadFile path) "path" = .string path ∧ get (payloadFile path) "size" = .number (.int 0) ∧
      get (payloadFile path) "sha256" = hexText 0 ∧
      get (payloadFile path) "executablePolicy" = .string (ofString "forbidden") := by
    refine ⟨rfl,rfl,rfl,rfl⟩
  simp only [validatePayloadRecord,members.1,members.2.1,members.2.2.1,members.2.2.2,checks_ok]
  refine ⟨?_,valid,?_⟩
  · have keys : hasExactKeys (payloadFile path) ["path","size","sha256","executablePolicy"] := by
      simp [hasExactKeys,hasOwn,payloadFile]
    rw [keys,hexText_isHex]
    decide +kernel
  · simpa [isText] using other

def numbered (i : Nat) : Units := encode (PaddedDecimal.padded 6 i)

/-- More files than a bundle may have, side by side under numbers. -/
def crowd : List Value := (range 100001).map fun i => payloadFile (numbered i)

theorem numbered_digits (small : i < 100001) :
    (numbered i).length = 6 ∧ ∀ u ∈ numbered i, isDecimal u := by
  obtain ⟨length,digits⟩ := ServiceJournal.encode_digits (PaddedDecimal.padded_digits 6 i)
  rw [PaddedDecimal.length_padded (by decide) (by omega)] at length
  exact ⟨length,all_eq_true.mp digits⟩

theorem splitOn_plain (plain : ∀ u ∈ path, isSlash u = false) : splitOn isSlash path = [path] := by
  induction path with
  | nil => rfl
  | cons u rest ih =>
    obtain ⟨here,later⟩ := forall_mem_cons.mp plain
    rw [splitOn,ih later]
    simp [here]

theorem isDecimal_bounds (digit : isDecimal u) : 0x30 ≤ u.toNat ∧ u.toNat ≤ 0x39 := by
  simpa [isDecimal,UInt16.le_iff_toNat_le] using digit

theorem numbered_compare (less : i < j) (small : j < 100001) :
    utf8Compare (numbered i) (numbered j) = .lt := by
  have ordered := PaddedDecimal.compare_padded (show 0 < 6 by decide) less (show j < 10 ^ 6 by omega) [] []
  simpa only [utf8Compare,utf8,numbered,decode_encode,PaddedDecimal.bytes,nil_append,append_nil] using ordered

theorem digits_printable (digits : ∀ u ∈ path, isDecimal u) : isPrintable path := by
  refine all_eq_true.mpr fun u member => ?_
  have bounds := isDecimal_bounds (digits u member)
  simp only [Bool.and_eq_true,decide_eq_true_eq]
  omega

theorem strictText_ok (strict : StrictUnits text)
    (short : byteLength text ≤ most) (full : text ≠ []) : strictText (.string text) name most = .ok () := by
  have checked : assertStrictText text name (some most) = .ok () := by
    rw [assertStrictText,if_neg (by simpa using short)]
    exact checkText_of_strictUnits strict name
  rw [strictText,check_ok,matchesText,checked]
  cases text with
  | nil => exact absurd rfl full
  | cons => rfl

theorem numbered_valid (small : i < 100001) :
    validateBundlePath asciiCasing (.string (numbered i)) (.string (ofString "linux")) "inventory payload path" = .ok () := by
  obtain ⟨length,digits⟩ := numbered_digits small
  have strict := printable_strict (digits_printable digits)
  have bytes := byteLength_printable (digits_printable digits)
  generalize numbered i = path at length digits strict bytes
  have apart {u : UInt16} (there : u ∈ path) : u ≠ 0x2f ∧ u ≠ 0x5c ∧ u ≠ 0x3a ∧ u ≠ 0x2e := by
    have bounds := isDecimal_bounds (digits u there)
    refine ⟨?_,?_,?_,?_⟩ <;> rintro rfl <;> simp at bounds
  have whole := splitOn_plain fun u there => beq_eq_false_iff_ne.mpr (apart there).1
  have straight : path.any isBackslash = false :=
    any_eq_false.mpr fun u there => by simpa [isBackslash] using (apart there).2.1
  simp only [validateBundlePath,checks_ok,textOf,whole,straight]
  cases path with
  | nil => simp at length
  | cons u rest =>
    obtain ⟨slash,backslash,-,dot⟩ := apart mem_cons_self
    have drive : hasDrive (u :: rest) = false := by
      cases rest with
      | nil => rfl
      | cons v rest =>
        have colon := (apart (mem_cons_of_mem u (mem_cons_self (a := v)))).2.2.1
        simp [hasDrive,colon]
    refine ⟨strictText_ok strict (by rw [bytes,length]; decide) (by simp),?_,?_,?_,?_⟩
    · simp [drive,isSlash,isBackslash,slash,backslash]
    · have plain : isDotSegment (u :: rest) = false := by simp [isDotSegment,dot]
      simp [plain,DEPLOYMENT_ENVELOPE_LIMITS]
    · have lower : asciiLower u = u := by
        have bounds := isDecimal_bounds (digits u mem_cons_self)
        have high : ¬ (0x41 : UInt16) ≤ u := by
          rw [UInt16.le_iff_toNat_le]
          simp
          omega
        simp [asciiLower,high]
      have hidden : FORBIDDEN_BUNDLE_SEGMENTS.all fun text => (ofString text).head? == some 0x2e := by decide
      simp only [any_cons,any_nil,Bool.or_false,Bool.not_eq_true',any_eq_false]
      intro text listed same
      have start := all_eq_true.mp hidden text listed
      rw [← beq_iff_eq.mp same] at start
      simp [asciiCasing,lower,dot] at start
    · rfl

theorem single_apart (plain : splitOn isSlash one = [one])
    (plain' : splitOn isSlash other = [other]) (differ : one ≠ other) : ¬ Collide casing false one other := by
  rintro (above | below | ⟨windows,_⟩)
  · rw [plain,plain'] at above
    exact differ (by simpa using above)
  · rw [plain,plain'] at below
    exact differ (by simpa [eq_comm] using below)
  · cases windows

/-- Files that do not collide are refused where there are too many of them. -/
theorem crowd_refused : ¬ ∀ (casing : Casing) (sha256 : List UInt8 → Units) (entries : List Value) (platform : Value),
    (∀ entry ∈ entries, validatePayloadRecord casing entry platform = .ok ()) →
    ((entries.map fun entry => textOf (get entry "path")).IsChain fun before path =>
      utf8Compare before path = .lt) →
    ((∃ digest, bundleTreeFingerprint casing sha256 (.array entries) platform = .ok digest) ↔
      (bundlePaths entries).Pairwise fun one other => ¬ Collide casing (isWindows platform) one other) := by
  intro claimed
  have refused : ¬ ∃ digest, bundleTreeFingerprint asciiCasing (fun _ => []) (.array crowd)
      (.string (ofString "linux")) = .ok digest := by
    rintro ⟨digest,accepted⟩
    simp only [bundleTreeFingerprint,checks_ok,decide_eq_true_eq] at accepted
    have few := accepted.1
    rw [crowd,length_map,length_range] at few
    exact absurd few (by decide)
  have paths : (crowd.map fun entry => textOf (get entry "path")) = (range 100001).map numbered := by
    rw [crowd,map_map]
    rfl
  have sorted : ((range 100001).map numbered).Pairwise fun before path => utf8Compare before path = .lt := by
    refine pairwise_map.mpr ((pairwise_lt_range).imp_of_mem ?_)
    intro i j _ listed less
    exact numbered_compare less (mem_range.mp listed)
  refine refused ((claimed asciiCasing (fun _ => []) crowd (.string (ofString "linux")) ?_ ?_).mpr ?_)
  · intro entry member
    obtain ⟨i,listed,rfl⟩ := mem_map.mp member
    have small := mem_range.mp listed
    refine payloadFile_valid (numbered_valid small) fun same => ?_
    have digits := (numbered_digits small).2
    rw [same] at digits
    exact absurd (digits 0x62 (by decide)) (by decide)
  · rw [paths]
    exact sorted.isChain
  · rw [bundlePaths,paths,pairwise_cons]
    have plain (i : Nat) (small : i < 100001) : splitOn isSlash (numbered i) = [numbered i] :=
      splitOn_plain fun u there => by
        have bounds := isDecimal_bounds ((numbered_digits small).2 u there)
        rw [isSlash,beq_eq_false_iff_ne]
        rintro rfl
        simp at bounds
    have reserved : splitOn isSlash (ofString APPLICATION_BUNDLE_INVENTORY_PATH) =
        [ofString APPLICATION_BUNDLE_INVENTORY_PATH] := by decide
    refine ⟨fun path member => ?_,?_⟩
    · obtain ⟨i,listed,rfl⟩ := mem_map.mp member
      have small := mem_range.mp listed
      refine single_apart reserved (plain i small) fun same => ?_
      have digits := (numbered_digits small).2
      rw [← same] at digits
      exact absurd (digits 0x62 (by decide)) (by decide)
    · refine pairwise_map.mpr ((pairwise_lt_range).imp_of_mem ?_)
      intro i j here there less
      have small := mem_range.mp there
      refine single_apart (plain i (by omega)) (plain j small) fun same => ?_
      have ordered := numbered_compare less small
      have equal : compare (utf8 (numbered j)) (utf8 (numbered j)) = .eq := Std.ReflCmp.compare_self
      rw [same,utf8Compare,equal] at ordered
      cases ordered

theorem library_valid (listed : path ∈ [ofString "Lib/a.js",ofString "lib/b.js"]) :
    validatePayloadRecord asciiCasing (payloadFile path) (.string (ofString "win32")) = .ok () := by
  simp only [mem_cons,not_mem_nil,or_false] at listed
  rcases listed with rfl | rfl
  · exact payloadFile_valid (isOk_unit (by decide +kernel)) (by decide +kernel)
  · exact payloadFile_valid (isOk_unit (by decide +kernel)) (by decide +kernel)

/-- Two files under one directory of two spellings. -/
theorem bundleTreeFingerprint_collisions_library : ¬ ∃ digest, bundleTreeFingerprint asciiCasing (fun _ => [])
    (.array ([ofString "Lib/a.js",ofString "lib/b.js"].map payloadFile)) (.string (ofString "win32")) = .ok digest := by
  rw [bundleTreeFingerprint_collisions asciiCasing (fun _ => []) _ _ (fun entry member => by
      obtain ⟨path,listed,rfl⟩ := mem_map.mp member
      exact library_valid listed)
    (by
      exact isChain_pair.mpr (by decide +kernel))]
  rintro ⟨-,apart⟩
  rw [bundlePaths,map_map,pairwise_cons] at apart
  refine (pairwise_cons.mp apart.2).1 (ofString "lib/b.js") (mem_singleton.mpr rfl) (.inr (.inr ?_))
  exact ⟨by decide +kernel,1,by decide +kernel,by decide +kernel⟩

end GjcRemote.DeploymentEnvelope
