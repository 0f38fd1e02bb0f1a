import GjcRemote.StrictJsonCanonical
import Mathlib.Data.List.Perm.Subperm

/-! The vocabulary in which the workspace records are read, checked and refused: member
access, the shape predicates every validator of `daemon/src` and `shared` repeats, and
the errors their `refuse` helpers throw. -/
namespace GjcRemote.Record

open Utf16 StrictJson

/-- `undefined`, one of the values JSON has no spelling for. -/
def undefined : Value := .other 0

/-- `value.key`. -/
def get (value : Value) (key : String) : Value :=
  match value with
  | .object entries => ((entries.find? fun e => e.1 = ofString key).map Prod.snd).getD undefined
  | _ => undefined

def hasOwn (value : Value) (key : String) : Bool :=
  match value with
  | .object entries => entries.any fun e => e.1 = ofString key
  | _ => false

def isPlainObject : Value → Bool
  | .object _ => true
  | _ => false

def hasExactKeys (value : Value) (keys : List String) : Bool :=
  match value with
  | .object entries => entries.length = keys.length && keys.all fun key => hasOwn value key
  | _ => false

def isNull : Value → Bool
  | .null => true
  | _ => false

/-- `value === n`. -/
def isNumber (n : Int) : Value → Bool
  | .number m => readNumber m == .int n
  | _ => false

/-- `value === text`. -/
def isText (text : String) : Value → Bool
  | .string units => units == ofString text
  | _ => false

def isOneOf (texts : List String) (value : Value) : Bool := texts.any fun text => isText text value

/-- `===` between two record members. Objects compare by identity, and no member that is
compared is one. -/
def strictEqual : Value → Value → Bool
  | .null,.null => true
  | .bool a,.bool b => a == b
  | .number m,.number n => readNumber m == readNumber n && isSafeInteger m
  | .string s,.string t => s == t
  | _,_ => false

def isHex : Value → Bool
  | .string units => isHex64 units
  | _ => false

def isNullableHex (value : Value) : Bool := isNull value || isHex value

/-- `typeof value === "string" && value.length > 0 && value.length <= 256`. -/
def isId : Value → Bool
  | .string units => 0 < units.length && units.length ≤ 256
  | _ => false

def safeInteger : Value → Option Int
  | .number (.int n) => if isSafeInteger (.int n) then some n else none
  | .number .negativeZero => some 0
  | _ => none

def isGeneration (value : Value) : Bool := (safeInteger value).any fun n => 1 ≤ n

def isNullableGeneration (value : Value) : Bool := isNull value || isGeneration value

/-- What `refuse` throws: `detail` is the value its reason ends with, `extra` the members
copied onto the error. -/
structure Refusal where
  operation : String
  code : String
  reason : String
  detail : Option Value
  extra : List (String × Value)

def Refusal.plain (operation code reason : String) : Refusal := ⟨operation,code,reason,none,[]⟩

/-- `error?.step`. -/
def Refusal.step (r : Refusal) : Option String :=
  (r.extra.find? fun e => e.1 = "step").bind fun e =>
    match e.2 with
    | .string units => some (String.ofList (decode units))
    | _ => none

/-- Reading a text back out of its code units. -/
theorem decode_ofString (text : String) : String.ofList (decode (ofString text)) = text := by
  rw [ofString,decode_encode,String.ofList_toList]

def check {ε : Type} (ok : Bool) (error : ε) : Except ε Unit := if ok then .ok () else .error error

theorem check_ok {error : ε} : check ok error = .ok () ↔ ok := by
  cases ok <;> simp [check]

/-- A sequence of checks passes if each of them does. -/
theorem checks_ok {ε : Type} :
    (∀ (β : Type) (first : Except ε Unit) (next : Unit → Except ε β) (b : β),
      (first >>= next) = .ok b ↔ first = .ok () ∧ next () = .ok b) ∧
    ∀ (ok : Bool) (error : ε), check ok error = .ok () ↔ ok = true :=
  ⟨fun _ _ _ _ => except_unit_bind_ok,fun _ _ => check_ok⟩

theorem isText_iff :
    isText text value ↔ value = .string (ofString text) := by
  cases value <;> simp [isText]

theorem isNull_iff : isNull value ↔ value = .null := by
  cases value <;> simp [isNull]

theorem isGeneration_iff :
    isGeneration value ↔ ∃ n, safeInteger value = some n ∧ 1 ≤ n := by
  unfold isGeneration
  cases safeInteger value <;> simp

def isScalar : Value → Bool
  | .null | .bool _ | .number _ | .string _ => true
  | _ => false

theorem isText_scalar (h : isText text value) :
    isScalar value := by
  cases value <;> simp_all [isText,isScalar]

theorem isOneOf_scalar (h : isOneOf texts value) :
    isScalar value := by
  obtain ⟨_,_,same⟩ := List.any_eq_true.mp h
  exact isText_scalar same

theorem isNumber_scalar (h : isNumber n value) :
    isScalar value := by
  cases value <;> simp_all [isNumber,isScalar]

theorem isHex_scalar (h : isHex value) : isScalar value := by
  cases value <;> simp_all [isHex,isScalar]

theorem isNullableHex_scalar (h : isNullableHex value) :
    isScalar value := by
  cases value <;> simp_all [isNullableHex,isNull,isHex,isScalar]

theorem isId_scalar (h : isId value) : isScalar value := by
  cases value <;> simp_all [isId,isScalar]

theorem isGeneration_scalar (h : isGeneration value) :
    isScalar value := by
  cases value <;> simp_all [isGeneration,safeInteger,isScalar]

theorem isNullableGeneration_scalar (h : isNullableGeneration value) :
    isScalar value := by
  cases value <;> simp_all [isNullableGeneration,isGeneration,safeInteger,isNull,isScalar]

/-- An exact key set leaves no room for a key twice. -/
theorem exactKeys_perm (exact : hasExactKeys (.object entries) keys)
    (distinct : (keys.map ofString).Nodup) : (entries.map Prod.fst).Perm (keys.map ofString) := by
  simp only [hasExactKeys,hasOwn,Bool.and_eq_true,decide_eq_true_eq,List.all_eq_true,List.any_eq_true] at exact
  have inside : keys.map ofString ⊆ entries.map Prod.fst := by
    intro unit member
    obtain ⟨key,listed,rfl⟩ := List.mem_map.mp member
    obtain ⟨e,found,same⟩ := exact.2 key listed
    exact List.mem_map.mpr ⟨e,found,same⟩
  exact ((distinct.subperm inside).perm_of_length_le (by simp [exact.1])).symm

theorem get_of_mem {entries : List (Units × Value)} {key : String} {value : Value}
    (distinct : (entries.map Prod.fst).Nodup) (member : (ofString key,value) ∈ entries) :
    get (.object entries) key = value := by
  have located : (entries.find? fun e => e.1 = ofString key).isSome := by
    rw [List.find?_isSome]
    exact ⟨_,member,by simp⟩
  obtain ⟨e,found⟩ := Option.isSome_iff_exists.mp located
  have same : e.1 = ofString key := by simpa using List.find?_some found
  have pair := List.inj_on_of_nodup_map distinct (List.mem_of_find?_eq_some found) member same
  rw [get,found,pair]
  rfl

/-- A record with an exact key set whose members are scalars is a JavaScript value. -/
theorem distinctKeys_of_scalars (exact : hasExactKeys value keys) (distinct : (keys.map ofString).Nodup)
    (scalars : ∀ key ∈ keys, isScalar (get value key)) : DistinctKeys value := by
  cases value with
  | object entries =>
    have perm := exactKeys_perm exact distinct
    have nodup := perm.nodup_iff.mpr distinct
    rw [DistinctKeys,distinctEntries_iff]
    refine ⟨nodup,fun e member => ?_⟩
    obtain ⟨key,listed,same⟩ := List.mem_map.mp (perm.mem_iff.mp (List.mem_map_of_mem member))
    have scalar := scalars key listed
    rw [@get_of_mem entries key e.2 nodup (by rw [same]; exact member)] at scalar
    revert scalar
    cases e.2 <;> simp [isScalar,DistinctKeys]
  | _ => simp [hasExactKeys] at exact

/-- Two spellings of one text agree member by member. -/
theorem get_same (distinctV : DistinctKeys v) (distinctW : DistinctKeys w)
    (same : Same v w) (present : hasOwn v key) :
    Same (get v key) (get w key) := by
  cases same with
  | @object xs ys keys values =>
    simp only [hasOwn,List.any_eq_true,decide_eq_true_eq] at present
    obtain ⟨⟨_,x⟩,member,rfl⟩ := present
    obtain ⟨⟨_,y⟩,member',eq⟩ := List.mem_map.mp ((keys _).mp (List.mem_map_of_mem member))
    subst eq
    rw [get_of_mem distinctV.1 member,get_of_mem distinctW.1 member']
    exact values _ x y member member'
  | _ => simp [hasOwn] at present

end GjcRemote.Record
