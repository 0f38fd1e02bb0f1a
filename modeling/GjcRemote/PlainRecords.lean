import GjcRemote.RecordBytes
import GjcRemote.Evaluation

/-! Concrete values of printable texts, whose canonical bytes need not be computed: what can be seen
of the value itself says that it has them and is read back from them. -/
namespace GjcRemote.Envelope

open Utf16 StrictJson Record

def isPrintable (text : Units) : Bool := text.all fun u => 0x20 ≤ u.toNat && u.toNat < 0x7f

def isBefore : Units → Units → Bool
  | [],_ :: _ => true
  | u :: us,v :: vs => u.toNat < v.toNat || (u.toNat == v.toNat && isBefore us vs)
  | _,[] => false

def ascending : List Units → Bool
  | first :: second :: rest => isBefore first second && ascending (second :: rest)
  | _ => true

theorem isPrintable_cons {rest : Units} : isPrintable (u :: rest) ↔
    (0x20 ≤ u.toNat ∧ u.toNat < 0x7f) ∧ isPrintable rest := by
  simp [isPrintable]

theorem printable_plain (printable : 0x20 ≤ u.toNat ∧ u.toNat < 0x7f) :
    forbiddenControl u = false ∧ isHigh u = false ∧ isLow u = false := by
  refine ⟨?_,?_,?_⟩
  · simp only [forbiddenControl,Bool.or_eq_false_iff,Bool.and_eq_false_iff,decide_eq_false_iff_not,
      UInt16.le_iff_toNat_le,beq_eq_false_iff_ne,ne_eq,← UInt16.toNat_inj]
    simp
    omega
  · simp only [isHigh,Bool.and_eq_false_iff,decide_eq_false_iff_not]
    omega
  · simp only [isLow,Bool.and_eq_false_iff,decide_eq_false_iff_not]
    omega

theorem printable_strict (printable : isPrintable text) : StrictUnits text := by
  induction text with
  | nil => exact .nil
  | cons u rest ih =>
    rw [isPrintable_cons] at printable
    obtain ⟨clear,high,low⟩ := printable_plain printable.1
    exact .plain clear high low (ih printable.2)

theorem utf8_printable {rest : Units} (printable : 0x20 ≤ u.toNat ∧ u.toNat < 0x7f) :
    utf8 (u :: rest) = UInt8.ofNat u.toNat :: utf8 rest := by
  obtain ⟨-,high,low⟩ := printable_plain printable
  have code : (Char.ofNat u.toNat).toNat = u.toNat := toNat_charOfNat (by omega)
  have value : (Char.ofNat u.toNat).val.toNat = u.toNat := code
  have byte : String.utf8EncodeChar (Char.ofNat u.toNat) = [UInt8.ofNat u.toNat] := by
    simp [String.utf8EncodeChar,value,show u.toNat ≤ 127 by omega]
  rw [utf8,decode_plain high low,List.flatMap_cons,byte]
  rfl

/-- The bytes of a printable text in front of another are its units. -/
theorem byteLength_append (printable : isPrintable front = true) (rest : Units) :
    byteLength (front ++ rest) = front.length + byteLength rest := by
  induction front with
  | nil => simp
  | cons u front ih =>
    obtain ⟨here,later⟩ := isPrintable_cons.mp printable
    have ih := ih later
    rw [byteLength] at ih ⊢
    rw [List.cons_append,utf8_printable here,List.length_cons,List.length_cons,ih,byteLength]
    omega

theorem byteLength_printable (printable : isPrintable units = true) : byteLength units = units.length := by
  have whole := byteLength_append printable []
  rwa [List.append_nil] at whole

theorem isBefore_le (printable : isPrintable left) (printable' : isPrintable right)
    (before : isBefore left right) : (utf8Compare left right).isLE := by
  induction left generalizing right with
  | nil =>
    cases right with
    | nil => cases before
    | cons v vs =>
      rw [isPrintable_cons] at printable'
      rw [utf8Compare,utf8_printable printable'.1]
      rfl
  | cons u us ih =>
    cases right with
    | nil => cases before
    | cons v vs =>
      rw [isPrintable_cons] at printable printable'
      have rest := ih printable.2 printable'.2
      rw [isBefore,Bool.or_eq_true,decide_eq_true_eq,Bool.and_eq_true,beq_iff_eq] at before
      rw [utf8Compare] at rest ⊢
      rw [utf8_printable printable.1,utf8_printable printable'.1,List.compare_cons_cons]
      rcases before with less | ⟨equal,before⟩
      · have bytes : compare (UInt8.ofNat u.toNat) (UInt8.ofNat v.toNat) = .lt := by
          rw [Std.compare_eq_lt,UInt8.lt_iff_toNat_lt,UInt8.toNat_ofNat',UInt8.toNat_ofNat']
          omega
        rw [bytes]
        rfl
      · rw [equal,Std.ReflOrd.compare_self]
        exact rest before

theorem isBefore_trans (first : isBefore a b) (second : isBefore b c) :
    isBefore a c := by
  induction a generalizing b c with
  | nil =>
    cases b with
    | nil => cases first
    | cons =>
      cases c with
      | nil => cases second
      | cons => rfl
  | cons u us ih =>
    cases b with
    | nil => cases first
    | cons v vs =>
      cases c with
      | nil => cases second
      | cons w ws =>
        simp only [isBefore,Bool.or_eq_true,decide_eq_true_eq,Bool.and_eq_true,beq_iff_eq] at first second ⊢
        rcases first with less | ⟨equal,first⟩
        · rcases second with less' | ⟨equal',-⟩
          · exact .inl (less.trans less')
          · exact .inl (equal' ▸ less)
        · rcases second with less' | ⟨equal',second⟩
          · exact .inl (equal ▸ less')
          · exact .inr ⟨equal.trans equal',ih first second⟩

theorem isBefore_irrefl (text : Units) : isBefore text text = false := by
  induction text with
  | nil => rfl
  | cons u rest ih => simp [isBefore,ih]

theorem ascending_pairwise (sorted : ascending texts) :
    texts.Pairwise fun a b => isBefore a b := by
  have chain : texts.IsChain fun a b => isBefore a b := by
    fun_induction ascending texts with
    | case1 first second rest ih =>
      rw [Bool.and_eq_true] at sorted
      exact .cons_cons sorted.1 (ih sorted.2)
    | case2 texts short =>
      cases texts with
      | nil => exact .nil
      | cons first rest =>
        cases rest with
        | nil => exact .singleton _
        | cons second later => exact absurd rfl (short first second later)
  have : IsTrans Units fun a b => isBefore a b := ⟨fun _ _ _ => isBefore_trans⟩
  exact chain.pairwise

/-- Keys in their order at every level, down to a depth, printable texts and natural numbers. -/
def isPlain : Nat → Value → Bool
  | depth + 1,.object entries => ascending (entries.map Prod.fst) &&
      entries.all fun e => isPrintable e.1 && isPlain depth e.2
  | depth + 1,.array items => items.all (isPlain depth)
  | _,.string text => isPrintable text
  | _,.number (.int n) => 0 ≤ n && n ≤ maxSafeInteger
  | _,.null | _,.bool _ => true
  | _,_ => false

mutual
/-- A bound on the units and on the nodes of a spelling. -/
def weight : Value → Nat
  | .string text => 2 * text.length + 2
  | .array items => weightItems items + 2
  | .object entries => weightEntries entries + 2
  | _ => 32
def weightItems : List Value → Nat
  | [] => 0
  | item :: rest => weight item + 1 + weightItems rest
def weightEntries : List (Units × Value) → Nat
  | [] => 0
  | (key,value) :: rest => 2 * key.length + 4 + weight value + weightEntries rest
end

theorem weightItems_eq (items : List Value) : weightItems items = (items.map fun item => weight item + 1).sum := by
  induction items with
  | nil => rfl
  | cons item rest ih => simp [weightItems,ih]

theorem weightEntries_eq (entries : List (Units × Value)) :
    weightEntries entries = (entries.map fun e => 2 * e.1.length + 4 + weight e.2).sum := by
  induction entries with
  | nil => rfl
  | cons entry rest ih => simp [weightEntries,ih]

theorem stringifyNumber_natural (natural : 0 ≤ n) (safe : n ≤ maxSafeInteger) :
    (stringifyNumber (.int n)).length ≤ 32 := by
  rcases eq_or_lt_of_le natural with zero | positive
  · rw [← zero]
    decide
  · exact stringifyNumber_length positive safe

/-- A plain value is a JavaScript value in its normal form, and its spelling is within its weight. -/
structure Spelled (value : Value) (depth : Nat) : Prop where
  distinct : DistinctKeys value
  normal : StrictJson.normalize value = value
  accepted : ∀ (maxDepth start : Nat), start + depth ≤ maxDepth → Accepted maxDepth value start
  nodes : size value ≤ weight value
  units : (render value).length ≤ weight value

variable {value : Value}

theorem isPlain_scalar (scalar : isScalar value) (plain : isPlain depth value) : Spelled value depth := by
  have either : isPlain 0 value := by
    cases depth with
    | zero => exact plain
    | succ =>
      cases value with
      | number n => cases n <;> exact plain
      | array => cases scalar
      | object => cases scalar
      | _ => exact plain
  cases value with
  | null => exact ⟨trivial,rfl,fun _ _ deep => by simp only [Accepted]; omega,by decide,by decide⟩
  | bool b =>
    refine ⟨trivial,rfl,fun _ _ deep => by simp only [Accepted]; omega,by simp [size,weight],?_⟩
    cases b <;> decide +kernel
  | string text =>
    have strict := printable_strict either
    exact ⟨trivial,rfl,fun _ _ deep => ⟨by omega,strict⟩,by simp [size,weight],stringifyText_length strict⟩
  | number n =>
    cases n with
    | int n =>
      have bounds : 0 ≤ n ∧ n ≤ maxSafeInteger := by
        simpa [isPlain] using either
      have safe : StrictJson.isSafeInteger (.int n) := by
        simp only [StrictJson.isSafeInteger,Bool.and_eq_true,decide_eq_true_eq]
        exact ⟨by rw [maxSafeInteger]; omega,bounds.2⟩
      exact ⟨trivial,rfl,fun _ _ deep => ⟨by omega,safe⟩,by simp [size,weight],
        stringifyNumber_natural bounds.1 bounds.2⟩
    | _ => cases either
  | other => cases either
  | _ => cases scalar

theorem accepted_object {entries : List (Units × Value)}
    (each : ∀ e ∈ entries, isPrintable e.1 ∧ Spelled e.2 depth) (deep : start + (depth + 1) ≤ maxDepth) :
    Accepted maxDepth (.object entries) start :=
  ⟨by omega,(acceptedEntries_iff ..).mpr fun e member =>
    ⟨printable_strict (each e member).1,(each e member).2.accepted maxDepth _ (by omega)⟩⟩

theorem size_object {entries : List (Units × Value)}
    (each : ∀ e ∈ entries, isPrintable e.1 ∧ Spelled e.2 depth) :
    size (.object entries) ≤ weight (.object entries) := by
  have nodes := List.sum_le_sum (g := fun e => 2 * e.1.length + 4 + weight e.2)
    fun e (member : e ∈ entries) => (each e member).2.nodes.trans (Nat.le_add_left _ _)
  rw [size,sizeEntries_eq,weight,weightEntries_eq]
  omega

theorem isPlain_spelled (plain : isPlain depth value) :
    Spelled value depth := by
  induction depth generalizing value with
  | zero =>
    refine isPlain_scalar ?_ plain
    cases value with
    | array => cases plain
    | object => cases plain
    | other => cases plain
    | _ => rfl
  | succ depth ih =>
    cases value with
    | array items =>
      rw [isPlain,List.all_eq_true] at plain
      have each (item : Value) (member : item ∈ items) := ih (plain item member)
      refine ⟨?_,?_,fun maxDepth start deep => ?_,?_,?_⟩
      · rw [DistinctKeys,distinctItems_iff]
        exact fun item member => (each item member).distinct
      · rw [StrictJson.normalize,normalizeItems_eq]
        exact congrArg Value.array ((List.map_congr_left fun item member => (each item member).normal).trans
          (List.map_id _))
      · exact ⟨by omega,(acceptedItems_iff ..).mpr fun item member =>
          (each item member).accepted maxDepth _ (by omega)⟩
      · have nodes := List.sum_le_sum (g := fun item => weight item + 1) fun item (member : item ∈ items) =>
          Nat.le_succ_of_le (each item member).nodes
        rw [size,sizeItems_eq,weight,weightItems_eq]
        omega
      · have units := List.sum_le_sum (g := fun item => weight item + 1) fun item (member : item ∈ items) =>
          Nat.succ_le_succ (each item member).units
        have joined := intercalate_length (items.map render)
        rw [List.map_map] at joined
        rw [render_array,weight,weightItems_eq,List.length_cons,List.length_append,List.length_cons,List.length_nil]
        exact Nat.succ_le_succ (Nat.succ_le_succ (joined.trans units))
    | object entries =>
      rw [isPlain,Bool.and_eq_true,List.all_eq_true] at plain
      obtain ⟨sorted,plain⟩ := plain
      have each (e : Units × Value) (member : e ∈ entries) : isPrintable e.1 ∧ Spelled e.2 depth := by
        have both := plain e member
        rw [Bool.and_eq_true] at both
        exact ⟨both.1,ih both.2⟩
      have pairs := List.pairwise_map.mp (ascending_pairwise sorted)
      have inOrder : sortEntries entries = entries := by
        refine List.Pairwise.insertionSort_eq (pairs.imp_of_mem fun left right before => ?_)
        exact isBefore_le (each _ left).1 (each _ right).1 before
      have distinct : (entries.map Prod.fst).Nodup := by
        rw [List.nodup_iff_pairwise_ne,List.pairwise_map]
        refine pairs.imp fun before same => ?_
        rw [same,isBefore_irrefl] at before
        cases before
      refine ⟨?_,?_,fun maxDepth start deep => ?_,?_,?_⟩
      · rw [DistinctKeys,distinctEntries_iff]
        exact ⟨distinct,fun e member => (each e member).2.distinct⟩
      · rw [StrictJson.normalize,normalizeEntries_eq]
        have same : (entries.map fun e => (e.1,StrictJson.normalize e.2)) = entries := by
          refine (List.map_congr_left fun e member => ?_).trans (List.map_id entries)
          rw [(each e member).2.normal]
          rfl
        rw [same,inOrder]
      · exact accepted_object each deep
      · exact size_object each
      · have units := List.sum_le_sum (l := entries) (g := fun e => 2 * e.1.length + 4 + weight e.2)
          (f := fun e => (stringifyText e.1 ++ 0x3A :: render e.2).length + 1) fun e member => by
            have := stringifyText_length (printable_strict (each e member).1)
            have := (each e member).2.units
            simp only [List.length_append,List.length_cons]
            omega
        have joined := intercalate_length (entries.map fun e => stringifyText e.1 ++ 0x3A :: render e.2)
        rw [List.map_map] at joined
        rw [render_object,inOrder,weight,weightEntries_eq,List.length_cons,List.length_append,
          List.length_cons,List.length_nil]
        exact Nat.succ_le_succ (Nat.succ_le_succ (joined.trans units))
    | other => cases plain
    | _ => exact isPlain_scalar rfl plain

/-- Plain, and small enough for every limit of the format. -/
def isSmall (value : Value) : Bool := isPlain 16 value && weight value ≤ 10000

/-- A small value has canonical bytes within any limits like those of the format, and they give it back. -/
theorem isSmall_within (small : isSmall value) {limits : Limits} (depth : 16 ≤ limits.maxDepth)
    (nodes : 10000 ≤ limits.maxNodes) (bytes : 40000 ≤ limits.maxBytes) :
    DistinctKeys value ∧ StrictJson.normalize value = value ∧
      canonicalJsonBytes value limits = .ok (utf8 (render value)) ∧
      parseCanonicalJsonBytes (utf8 (render value)) limits = .ok value := by
  rw [isSmall,Bool.and_eq_true,decide_eq_true_eq] at small
  have spelling := isPlain_spelled small.1
  have encoded : canonicalJsonBytes value limits = .ok (utf8 (render value)) :=
    (canonicalJsonBytes_iff ..).mpr ⟨spelling.accepted _ _ (by omega),
      (spelling.nodes.trans small.2).trans nodes,rfl⟩
  refine ⟨spelling.distinct,spelling.normal,encoded,?_⟩
  have back := parseCanonicalJsonBytes_canonical ⟨_,spelling.distinct⟩ encoded
    (by
      have length := utf8_length_le (render value)
      have units := spelling.units
      omega)
  rw [back]
  exact congrArg Except.ok spelling.normal

theorem isSmall_spelled (small : isSmall value) :
    DistinctKeys value ∧ StrictJson.normalize value = value ∧
      canonicalJsonBytes value STRICT_JSON_LIMITS = .ok (utf8 (render value)) ∧
      parseCanonicalJsonBytes (utf8 (render value)) STRICT_JSON_LIMITS = .ok value :=
  isSmall_within small (by decide) (by decide) (by decide)

/-- Plain but for the order of its own members. -/
def isLoose : Value → Bool
  | .object entries => decide (entries.map fun e => codeOf e.1).Nodup &&
      decide (weight (.object entries) ≤ 10000) && entries.all fun e => isPrintable e.1 && isPlain 15 e.2
  | _ => false

theorem isLoose_encoded (loose : isLoose value) :
    DistinctKeys value ∧ (canonicalJsonBytes value STRICT_JSON_LIMITS).isOk := by
  cases value with
  | object entries =>
    rw [isLoose,Bool.and_eq_true,Bool.and_eq_true,decide_eq_true_eq,decide_eq_true_eq,List.all_eq_true] at loose
    obtain ⟨⟨distinct,light⟩,plain⟩ := loose
    have each (e : Units × Value) (member : e ∈ entries) : isPrintable e.1 ∧ Spelled e.2 15 := by
      have both := plain e member
      rw [Bool.and_eq_true] at both
      exact ⟨both.1,isPlain_spelled both.2⟩
    have keys : (entries.map Prod.fst).Nodup :=
      (List.map_map (g := codeOf) (f := Prod.fst) ▸ distinct : ((entries.map Prod.fst).map codeOf).Nodup).of_map codeOf
    have encoded : canonicalJsonBytes (.object entries) STRICT_JSON_LIMITS = .ok (utf8 (render (.object entries))) :=
      (canonicalJsonBytes_iff ..).mpr ⟨accepted_object each (by decide),(size_object each).trans light,rfl⟩
    rw [encoded,DistinctKeys,distinctEntries_iff]
    exact ⟨⟨keys,fun e member => (each e member).2.distinct⟩,rfl⟩
  | _ => cases loose

/-- Small values with one spelling are one value. -/
theorem isSmall_render (small : isSmall value) (small' : isSmall other)
    (same : utf8 (render value) = utf8 (render other)) : value = other := by
  have read := (isSmall_spelled small).2.2.2
  rw [same,(isSmall_spelled small').2.2.2] at read
  exact (Except.ok.inj read).symm

/-- The last hexadecimal digits of a number, before a tail. -/
def hexInto : Nat → Nat → Units → Units
  | 0,_,tail => tail
  | k + 1,n,tail => hexInto k (n / 16) (hexDigit (n % 16) :: tail)

theorem hexInto_eq (k n : Nat) (tail : Units) : hexInto k n tail = hexUnits k n ++ tail := by
  induction k generalizing n tail with
  | zero => rfl
  | succ k ih => rw [hexInto,ih,hexUnits,List.append_assoc,List.singleton_append]

/-- `hexText`, in one pass. -/
def digestText (n : Nat) : Value := .string (hexInto 64 n [])

theorem digestText_eq (n : Nat) : digestText n = hexText n := by
  rw [digestText,hexInto_eq,List.append_nil,hexText]

theorem isBefore_ascending (pairs : texts.Pairwise fun a b => isBefore a b) :
    ascending texts := by
  induction pairs with
  | nil => rfl
  | cons first _ ih =>
    rename_i rest _
    cases rest with
    | nil => rfl
    | cons second later => rw [ascending,first second List.mem_cons_self,ih,Bool.and_true]

/-- A small record is small without one of its members. -/
theorem isSmall_without (small : isSmall record) (field : String) :
    isSmall (without record field) := by
  rw [isSmall,Bool.and_eq_true,decide_eq_true_eq] at small ⊢
  cases record with
  | object entries =>
    obtain ⟨plain,light⟩ := small
    rw [isPlain,Bool.and_eq_true,List.all_eq_true] at plain
    have fewer : (entries.filter fun e => decide (e.1 ≠ ofString field)).Sublist entries := List.filter_sublist
    rw [without,isPlain,Bool.and_eq_true,List.all_eq_true]
    refine ⟨⟨?_,fun e member => plain.2 e (fewer.subset member)⟩,?_⟩
    · exact isBefore_ascending ((ascending_pairwise plain.1).sublist (fewer.map Prod.fst))
    · rw [weight,weightEntries_eq] at light ⊢
      have := (fewer.map fun e => 2 * e.1.length + 4 + weight e.2).sum_le_sum fun _ _ => Nat.zero_le _
      omega
  | _ => exact ⟨rfl,by simp [without,weight,weightEntries]⟩

theorem isSmall_spelling (small : isSmall value) : spelled value = utf8 (render value) := by
  rw [spelled,(isSmall_spelled small).2.2.1]
  rfl

structure Tabled (table : List (Value × Nat)) : Prop where
  small : ∀ r ∈ table, isSmall r.1 = true
  apart : (table.map Prod.fst).Nodup

theorem Tabled.spelled (tabled : Tabled table) :
    (table.map fun r => spelled r.1).Nodup := by
  refine List.Nodup.map_on ?_ tabled.apart.of_map
  intro r member r' member' equal
  refine List.inj_on_of_nodup_map tabled.apart member member' ?_
  have small := tabled.small r member
  have small' := tabled.small r' member'
  rw [isSmall_spelling small,isSmall_spelling small'] at equal
  exact isSmall_render small small' equal

/-- The digest of the bytes of a value in the table. -/
theorem Tabled.bytes (tabled : Tabled table)
    (listed : (value,n) ∈ table) : recorded table (utf8 (render value)) = hexUnits 64 n := by
  rw [← isSmall_spelling (tabled.small _ listed),recorded_spelled tabled.spelled listed]

theorem Tabled.hash (tabled : Tabled table)
    (listed : (value,n) ∈ table) : canonicalJsonHash (recorded table) value = .ok (hexUnits 64 n) := by
  simp only [canonicalJsonHash,(isSmall_spelled (tabled.small _ listed)).2.2.1,bind,Except.bind,pure,
    Except.pure,tabled.bytes listed]

/-- Records with the members for their fingerprints, and values, each with its digest. -/
structure Sample where
  records : List (Value × String × Nat)
  values : List (Value × Nat)

def Sample.table (sample : Sample) : List (Value × Nat) :=
  sample.records.map (fun r => (without r.1 r.2.1,r.2.2)) ++ sample.values

def Sample.digest (sample : Sample) : List UInt8 → Units := recorded sample.table

def withoutByCode (record : Value) (field : String) : Value :=
  match record with
  | .object entries => .object (entries.filter fun e => !(codeOf e.1).beq (codeOf (unitsOf field)))
  | _ => .object []

theorem without_byCode : without = withoutByCode := by
  funext record field
  cases record with
  | object entries => simp only [without,withoutByCode,codeOf_beq,unitsOf_eq,decide_not]
  | _ => rfl

def Sample.isOwn (sample : Sample) : Bool :=
  (sample.records.all fun r => isSmall r.1 && strictEqualByCode (getByCode r.1 r.2.1) (digestText r.2.2)) &&
    sample.values.all fun r => isSmall r.1

/-- How many members a value has, and some texts of them. -/
def mark (names : List String) (value : Value) : List Nat :=
  size value :: names.map fun name =>
    match getByCode value name with
    | .string units => codeOf units
    | _ => 0

def Sample.isApart (sample : Sample) (names : List String) : Bool :=
  decide (sample.records.map (fun r => mark names (withoutByCode r.1 r.2.1)) ++
    sample.values.map fun r => mark names r.1).Nodup

structure Sample.Sound (sample : Sample) : Prop where
  tabled : Tabled sample.table
  small : ∀ r ∈ sample.records, isSmall r.1 = true
  own : ∀ r ∈ sample.records, get r.1 r.2.1 = hexText r.2.2

variable {sample : Sample}

theorem Sample.sound (names : List String) (own : sample.isOwn)
    (apart : sample.isApart names) : sample.Sound := by
  rw [isOwn,← get_byCode,← strictEqual_byCode,Bool.and_eq_true,List.all_eq_true,List.all_eq_true] at own
  obtain ⟨records,values⟩ := own
  have each (r : Value × String × Nat) (member : r ∈ sample.records) := records r member
  simp only [Bool.and_eq_true] at each
  refine ⟨⟨fun r member => ?_,?_⟩,fun r member => (each r member).1,fun r member => ?_⟩
  · rcases List.mem_append.mp member with sealed' | value
    · obtain ⟨r,listed,rfl⟩ := List.mem_map.mp sealed'
      exact isSmall_without (each r listed).1 r.2.1
    · exact values r value
  · rw [isApart,← without_byCode,decide_eq_true_eq] at apart
    have marks : ((sample.table.map Prod.fst).map (mark names)).Nodup := by
      rw [table,List.map_append,List.map_append,List.map_map,List.map_map,List.map_map]
      exact apart
    exact marks.of_map
  · rw [← digestText_eq]
    exact same_string (strictEqual_same (each r member).2)

theorem Sample.Sound.seals {records : List (Value × String × Nat)} (sound : Sound ⟨records,[]⟩) :
    Seals records := by
  refine ⟨?_,fun r member => ?_,sound.own⟩
  · have apart := sound.tabled.spelled
    simp only [table,List.append_nil,List.map_map] at apart
    exact apart
  · rw [(isSmall_spelled (isSmall_without (sound.small r member) r.2.1)).2.2.1]
    rfl

/-- The records have canonical bytes, differ in the named members, and name their own
fingerprints. -/
def areSealed (names : List String) (records : List (Value × String × Nat)) : Bool :=
  decide (records.map fun r => textCodes names (without r.1 r.2.1)).Nodup &&
    records.all fun r => isLoose (without r.1 r.2.1) && strictEqual (get r.1 r.2.1) (digestText r.2.2)

theorem areSealed_seals (sealed' : areSealed names records) : Seals records := by
  rw [areSealed,Bool.and_eq_true,decide_eq_true_eq,List.all_eq_true] at sealed'
  obtain ⟨differ,each⟩ := sealed'
  have own (r : Value × String × Nat) (member : r ∈ records) := each r member
  simp only [Bool.and_eq_true] at own
  have loose (r : Value × String × Nat) (member : r ∈ records) := isLoose_encoded (own r member).1
  refine ⟨spelled_apart differ (fun r member => (loose r member).1) fun r member => (loose r member).2,
    fun r member => (loose r member).2,fun r member => ?_⟩
  rw [← digestText_eq]
  exact same_string (strictEqual_same (own r member).2)

theorem sealing_fingerprint (sealed' : areSealed names records) (listed : (record,field,n) ∈ records) :
    fingerprint (sealing records) record field = .ok (hexUnits 64 n) ∧ get record field = hexText n :=
  ⟨(areSealed_seals sealed').fingerprint listed,(areSealed_seals sealed').own _ listed⟩

theorem sealing_asserted (sealed' : areSealed names records)
    (listed : (record,field,n) ∈ records) (error : JsError) :
    assertFingerprint (sealing records) record field error = .ok () :=
  (areSealed_seals sealed').asserted listed error

/-- Records with digests of their own. -/
structure Sealing where
  records : List (Value × String × Nat)
  seals : Seals records

structure SoundSample extends Sample where
  sound : toSample.Sound

theorem Sample.Sound.fingerprint (sound : sample.Sound) (i : Nat) (located : sample.records[i]? = some r) :
    Envelope.fingerprint sample.digest r.1 r.2.1 = .ok (hexUnits 64 r.2.2) := by
  have listed : (without r.1 r.2.1,r.2.2) ∈ sample.table :=
    List.mem_append_left _ (List.mem_map.mpr ⟨r,List.mem_of_getElem? located,rfl⟩)
  rw [Envelope.fingerprint,Sample.digest,sound.tabled.hash listed]

theorem Sample.Sound.hash (sound : sample.Sound) (i : Nat)
    (located : sample.values[i]? = some r) : canonicalJsonHash sample.digest r.1 = .ok (hexUnits 64 r.2) := by
  exact sound.tabled.hash (List.mem_append_right _ (List.mem_of_getElem? located))

end GjcRemote.Envelope
