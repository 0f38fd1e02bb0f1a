import GjcRemote.Envelope
import Mathlib.Data.List.Induction

/-! Concrete records and digests, and the accessors of records by the codes of their keys.
The kernel compares two numbers at once and two lists of code units one by one, so that a
check on a concrete record is rewritten with the equations here before it is computed. -/
namespace GjcRemote.Envelope

open Utf16 StrictJson Record Bool
open List hiding beq_eq_decide get

variable (text : String)

/-- The code units of an ASCII literal. `ofString` decodes the literal first, which takes
the kernel far longer. -/
def ascii : Units := text.toByteArray.data.toList.map fun b => UInt16.ofNat b.toNat

theorem utf8EncodeChar_ascii (small : ∀ b ∈ String.utf8EncodeChar c, b < 128) :
    (String.utf8EncodeChar c).map (fun b => UInt16.ofNat b.toNat) = encodeChar c := by
  have value : c.val.toNat = c.toNat := rfl
  unfold String.utf8EncodeChar at small ⊢
  simp only [value] at small ⊢
  split at small
  · next single =>
    have byte : (UInt8.ofNat c.toNat).toNat = c.toNat := by
      rw [UInt8.toNat_ofNat']
      omega
    rw [if_pos single,encodeChar,if_pos (by omega),map_singleton,byte]
  · -- the first byte of a longer encoding is at least 0xC0
    split at small
    · have first := UInt8.lt_iff_toNat_lt.mp (small _ (mem_cons_self ..))
      simp at first
      omega
    · split at small
      · have first := UInt8.lt_iff_toNat_lt.mp (small _ (mem_cons_self ..))
        simp at first
        omega
      · have first := UInt8.lt_iff_toNat_lt.mp (small _ (mem_cons_self ..))
        simp at first
        omega

theorem encode_ascii (small : ∀ b ∈ chars.utf8Encode.data.toList, b < 128) :
    chars.utf8Encode.data.toList.map (fun b => UInt16.ofNat b.toNat) = encode chars := by
  induction chars with
  | nil => simp
  | cons c rest ih =>
    rw [utf8Encode_cons,ByteArray.data_append,Array.toList_append,utf8Encode_singleton] at small ⊢
    rw [map_append,encode_cons,ih fun b there => small b (mem_append_right _ there)]
    have first : ∀ b ∈ String.utf8EncodeChar c, b < 128 := fun b there =>
      small b (mem_append_left _ (by simpa using there))
    rw [← utf8EncodeChar_ascii first]
    simp

/-- The code units of a literal, the quick way where there is one. -/
def unitsOf : Units :=
  if text.toByteArray.data.toList.all fun b => b < 128 then ascii text else ofString text

theorem unitsOf_eq : unitsOf text = ofString text := by
  rw [unitsOf]
  split
  · next small =>
    rw [← String.utf8Encode_toList] at small
    simp only [all_eq_true,decide_eq_true_eq] at small
    rw [ascii,← String.utf8Encode_toList,encode_ascii small,ofString]
  · rfl

def codeOf (text : Units) : Nat := text.foldl (fun code unit => code * 65536 + unit.toNat) 1

theorem codeOf_append (text : Units) (unit : UInt16) :
    codeOf (text ++ [unit]) = codeOf text * 65536 + unit.toNat := by
  simp [codeOf]

theorem codeOf_pos (text : Units) : 0 < codeOf text := by
  induction text using reverseRecOn with
  | nil => exact Nat.one_pos
  | append_singleton text unit ih =>
    rw [codeOf_append]
    omega

theorem codeOf_inj (same : codeOf left = codeOf right) : left = right := by
  induction left using reverseRecOn generalizing right with
  | nil =>
    induction right using reverseRecOn with
    | nil => rfl
    | append_singleton right unit =>
      have positive := codeOf_pos right
      rw [codeOf_append,show codeOf [] = 1 from rfl] at same
      omega
  | append_singleton left unit ih =>
    induction right using reverseRecOn with
    | nil =>
      have positive := codeOf_pos left
      rw [codeOf_append,show codeOf [] = 1 from rfl] at same
      omega
    | append_singleton right other =>
      have small := unit.toNat_lt
      have small' := other.toNat_lt
      rw [codeOf_append,codeOf_append] at same
      rw [ih (by omega : codeOf left = codeOf right),UInt16.toNat_inj.mp (by omega : unit.toNat = other.toNat)]

theorem codeOf_beq (left right : Units) :
    (codeOf left).beq (codeOf right) = decide (left = right) := by
  rw [Bool.eq_iff_iff,Nat.beq_eq,decide_eq_true_eq]
  exact ⟨codeOf_inj,congrArg codeOf⟩

def getByCode (value : Value) (key : String) : Value :=
  match value with
  | .object entries =>
    ((entries.find? fun e => (codeOf e.1).beq (codeOf (unitsOf key))).map Prod.snd).getD undefined
  | _ => undefined

def hasOwnByCode (value : Value) (key : String) : Bool :=
  match value with
  | .object entries => entries.any fun e => (codeOf e.1).beq (codeOf (unitsOf key))
  | _ => false

def isTextByCode : Value → Bool
  | .string units => (codeOf units).beq (codeOf (unitsOf text))
  | _ => false

def strictEqualByCode : Value → Value → Bool
  | .string s,.string t => (codeOf s).beq (codeOf t)
  | v,w => strictEqual v w

theorem get_byCode : get = getByCode := by
  funext value key
  cases value with
  | object entries => simp only [Record.get,getByCode,codeOf_beq,unitsOf_eq]
  | _ => rfl

theorem hasOwn_byCode : hasOwn = hasOwnByCode := by
  funext value key
  cases value with
  | object entries => simp only [hasOwn,hasOwnByCode,codeOf_beq,unitsOf_eq]
  | _ => rfl

theorem isText_byCode : isText = isTextByCode := by
  funext text value
  cases value with
  | string units =>
    simp only [isText,isTextByCode,codeOf_beq,unitsOf_eq,beq_eq_decide]
  | _ => rfl

theorem strictEqual_byCode : strictEqual = strictEqualByCode := by
  funext v w
  cases v with
  | string s =>
    cases w with
    | string t =>
      simp only [strictEqual,strictEqualByCode,codeOf_beq,beq_eq_decide]
    | _ => rfl
  | _ => rfl

theorem byCode : get = getByCode ∧ hasOwn = hasOwnByCode ∧ isText = isTextByCode ∧ strictEqual = strictEqualByCode :=
  ⟨get_byCode,hasOwn_byCode,isText_byCode,strictEqual_byCode⟩

theorem get_cons (name key : String) (value : Value) (rest : List (Units × Value)) :
    get (.object ((ofString name,value) :: rest)) key =
      if name = key then value else get (.object rest) key := by
  by_cases equal : name = key
  · simp [Record.get,equal]
  · have apart : ofString name ≠ ofString key := fun same => equal (ofString_inj same)
    rw [if_neg equal]
    simp only [Record.get,find?_cons,decide_eq_false apart]

def asciiText : Value := .string (ascii text)

def integer (n : Int) : Value := .number (.int n)

def hexUnits : Nat → Nat → Units
  | 0,_ => []
  | k + 1,n => hexUnits k (n / 16) ++ [hexDigit (n % 16)]

def hexText (n : Nat) : Value := .string (hexUnits 64 n)

def repeated (digit : Nat) : Value := .string (replicate 64 (hexDigit digit))

def spelled (value : Value) : List UInt8 :=
  (canonicalJsonBytes value STRICT_JSON_LIMITS).toOption.getD []

theorem spelled_ok (ok : (canonicalJsonBytes value STRICT_JSON_LIMITS).isOk) :
    canonicalJsonBytes value STRICT_JSON_LIMITS = .ok (spelled value) := by
  unfold spelled
  cases encoded : canonicalJsonBytes value STRICT_JSON_LIMITS with
  | ok => rfl
  | error => simp [encoded,Except.isOk,Except.toBool] at ok

/-- Values with one spelling have one digest. -/
theorem hash_spelled (sha256 : List UInt8 → Units)
    (encoded : (canonicalJsonBytes value STRICT_JSON_LIMITS).isOk) :
    canonicalJsonHash sha256 value = .ok (sha256 (spelled value)) := by
  simp only [canonicalJsonHash,spelled_ok encoded]
  rfl

theorem hexUnits_length (k n : Nat) : (hexUnits k n).length = k := by
  induction k generalizing n with
  | zero => rfl
  | succ k ih => simp [hexUnits,ih]

theorem hexText_isHex (n : Nat) : isHex (hexText n) := by
  have digit (d : Nat) (small : d < 16) :
      ((0x30 ≤ hexDigit d && hexDigit d ≤ 0x39) || (0x61 ≤ hexDigit d && hexDigit d ≤ 0x66)) := by
    interval_cases d <;> rfl
  have all (k n : Nat) : (hexUnits k n).all
      (fun u => (0x30 ≤ u && u ≤ 0x39) || (0x61 ≤ u && u ≤ 0x66)) := by
    induction k generalizing n with
    | zero => rfl
    | succ k ih => simp only [hexUnits,all_append,ih,all_cons,all_nil,Bool.and_true,
        digit (n % 16) (Nat.mod_lt _ (by decide))]
  rw [hexText,isHex,isHex64,hexUnits_length,all]
  rfl

/-- A digest known on finitely many records, and too long to be one elsewhere, which keeps it
injective. -/
def recorded (table : List (Value × Nat)) (bytes : List UInt8) : Units :=
  match table.find? fun e => spelled e.1 == bytes with
  | some e => hexUnits 64 e.2
  | none => replicate 65 0x30 ++ bytes.map UInt8.toUInt16

theorem recorded_injective (distinct : (table.map fun e => hexUnits 64 e.2).Nodup) :
    InjectiveOnCanonical (recorded table) := by
  intro _ _ left right _ _ same
  unfold recorded at same
  cases foundL : table.find? fun e => spelled e.1 == left with
  | some e =>
    have spelledL := find?_some foundL
    rw [beq_iff_eq] at spelledL
    cases foundR : table.find? fun e => spelled e.1 == right with
    | some e' =>
      have spelledR := find?_some foundR
      rw [beq_iff_eq] at spelledR
      simp only [foundL,foundR] at same
      have entry := inj_on_of_nodup_map distinct (mem_of_find?_eq_some foundL)
        (mem_of_find?_eq_some foundR) same
      rw [← spelledL,← spelledR,entry]
    | none =>
      simp only [foundL,foundR] at same
      have lengths := congrArg length same
      simp only [hexUnits_length,length_append,length_replicate] at lengths
      omega
  | none =>
    cases foundR : table.find? fun e => spelled e.1 == right with
    | some e' =>
      simp only [foundL,foundR] at same
      have lengths := congrArg length same
      simp only [hexUnits_length,length_append,length_replicate] at lengths
      omega
    | none =>
      simp only [foundL,foundR] at same
      refine map_injective_iff.mpr ?_ (append_cancel_left same)
      intro a b equal
      rw [← UInt8.toNat_inj]
      exact congrArg UInt16.toNat equal

/-- The digest of a record in the table. -/
theorem recorded_spelled (distinct : (table.map fun e => spelled e.1).Nodup)
    (listed : (value,n) ∈ table) : recorded table (spelled value) = hexUnits 64 n := by
  unfold recorded
  cases found : table.find? fun e => spelled e.1 == spelled value with
  | none =>
    have missed := find?_eq_none.mp found _ listed
    simp at missed
  | some e =>
    have same := find?_some found
    rw [beq_iff_eq] at same
    rw [inj_on_of_nodup_map distinct (mem_of_find?_eq_some found) listed same]

def textCodes (names : List String) (record : Value) : List Nat :=
  names.map fun name =>
    match get record name with
    | .string units => codeOf units
    | _ => 0

theorem get_of_absent (absent : ¬ hasOwn record key) :
    get record key = undefined := by
  cases record with
  | object entries =>
    have missed : entries.find? (fun e => decide (e.1 = ofString key)) = none := by
      rw [find?_eq_none]
      intro e member equal
      exact absent (any_eq_true.mpr ⟨e,member,equal⟩)
    rw [Record.get,missed]
    rfl
  | _ => rfl

theorem hasOwn_of_same (same : Same v w) (present : hasOwn v key) : hasOwn w key := by
  cases same with
  | object keys _ =>
    simp only [hasOwn,any_eq_true,decide_eq_true_eq] at present ⊢
    obtain ⟨e,member,named⟩ := present
    obtain ⟨e',member',equal⟩ := mem_map.mp ((keys _).mp (mem_map_of_mem member))
    exact ⟨e',member',equal.trans named⟩
  | _ => simp [hasOwn] at present

theorem textCodes_same (distinctV : DistinctKeys v) (distinctW : DistinctKeys w)
    (same : Same v w) (names : List String) : textCodes names v = textCodes names w := by
  refine map_congr_left fun name _ => ?_
  suffices members : Same (get v name) (get w name) by
    generalize get v name = left,get w name = right at members
    cases members <;> rfl
  · by_cases present : hasOwn v name
    · exact get_same distinctV distinctW same present
    · have absent : hasOwn w name ≠ true := fun there => present (hasOwn_of_same same.symm there)
      rw [get_of_absent present,get_of_absent absent]
      exact .other 0

/-- The digest that seals the records: each with the member for its fingerprint, and what
it is. -/
def sealing (records : List (Value × String × Nat)) : List UInt8 → Units :=
  recorded (records.map fun r => (without r.1 r.2.1,r.2.2))

/-- Records with canonical bytes of their own, each under the fingerprint it names. -/
structure Seals (records : List (Value × String × Nat)) : Prop where
  apart : (records.map fun r => spelled (without r.1 r.2.1)).Nodup
  encoded : ∀ r ∈ records, (canonicalJsonBytes (without r.1 r.2.1) STRICT_JSON_LIMITS).isOk = true
  own : ∀ r ∈ records, get r.1 r.2.1 = hexText r.2.2

variable {records : List (Value × String × Nat)}

/-- Records that differ in the named members have bytes of their own. -/
theorem spelled_apart (differ : (records.map fun r => textCodes names (without r.1 r.2.1)).Nodup)
    (plain : ∀ r ∈ records, DistinctKeys (without r.1 r.2.1))
    (encoded : ∀ r ∈ records, (canonicalJsonBytes (without r.1 r.2.1) STRICT_JSON_LIMITS).isOk) :
    (records.map fun r => spelled (without r.1 r.2.1)).Nodup := by
  refine Nodup.map_on ?_ differ.of_map
  intro r member r' member' equal
  refine inj_on_of_nodup_map differ member member' ?_
  have bytes := spelled_ok (encoded r member)
  rw [equal] at bytes
  exact textCodes_same (plain r member) (plain r' member') (same_of_same_bytes ⟨_,plain r member⟩
    ⟨_,plain r' member'⟩ bytes (spelled_ok (encoded r' member'))) names

theorem sealing_injective (distinct : (records.map fun r => hexUnits 64 r.2.2).Nodup) :
    InjectiveOnCanonical (sealing records) := by
  refine recorded_injective ?_
  rwa [map_map]

theorem Seals.fingerprint (seals : Seals records) (listed : (record,field,n) ∈ records) :
    Envelope.fingerprint (sealing records) record field = .ok (hexUnits 64 n) := by
  simp only [Envelope.fingerprint,canonicalJsonHash,except_bind_ok]
  refine ⟨_,spelled_ok (seals.encoded _ listed),?_⟩
  have apart : ((records.map fun r => (without r.1 r.2.1,r.2.2)).map fun e => spelled e.1).Nodup := by
    rw [map_map]
    exact seals.apart
  exact congrArg Except.ok (recorded_spelled apart (mem_map.mpr ⟨_,listed,rfl⟩))

/-- A sealed record passes the check of its fingerprint. -/
theorem Seals.asserted (seals : Seals records) (listed : (record,field,n) ∈ records) (error : JsError) :
    assertFingerprint (sealing records) record field error = .ok () := by
  rw [assertFingerprint,seals.fingerprint listed,seals.own _ listed,except_bind_ok]
  exact ⟨_,rfl,check_ok.mpr (beq_self_eq_true _)⟩

theorem isOk_unit {ε : Type} {result : Except ε Unit} (ok : result.isOk) : result = .ok () := by
  cases result with
  | ok => rfl
  | error => simp [Except.isOk,Except.toBool] at ok

end GjcRemote.Envelope
