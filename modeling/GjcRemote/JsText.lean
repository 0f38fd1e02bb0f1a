import GjcRemote.StrictJsonText
import Mathlib.Algebra.Order.Floor.Ring
import Mathlib.Data.Int.Log
import Mathlib.Data.List.TakeWhile
import Mathlib.Data.Rat.Encodable
import Mathlib.Data.Rat.Floor
import Mathlib.Tactic.FieldSimp

/-! Texts as JavaScript reads them: the white space `trim` removes and `\s` matches, and the double
that `Number` makes of a text. -/
namespace GjcRemote.JsText

open Utf16 StrictJson List

/-- `/\s/`: white space and line terminators. All of it lies in the basic plane. -/
def isSpace (u : UInt16) : Bool :=
  (0x09 ≤ u && u ≤ 0x0D) || (0x2000 ≤ u && u ≤ 0x200A) ||
    [0x20,0xA0,0x1680,0x2028,0x2029,0x202F,0x205F,0x3000,0xFEFF].contains u

section

variable (text : Units)

def trimStart : Units := text.dropWhile isSpace

def trim : Units := (trimStart (trimStart text).reverse).reverse

/-- `/\S/u.test(text)`. -/
def hasInk : Bool := text.any fun u => !isSpace u

theorem trimStart_eq_nil {text : Units} : trimStart text = [] ↔ hasInk text = false := by
  simp [trimStart,hasInk,dropWhile_eq_nil_iff]

theorem trimStart_sublist : (trimStart text).Sublist text :=
  dropWhile_sublist _

theorem hasInk_trimStart : hasInk (trimStart text) = hasInk text := by
  induction text with
  | nil => rfl
  | cons u rest ih =>
    by_cases space : isSpace u = true
    · have skipped : trimStart (u :: rest) = trimStart rest := by simp [trimStart,space]
      rw [skipped,ih]
      simp [hasInk,space]
    · simp [trimStart,space]

theorem trim_eq_nil {text : Units} : trim text = [] ↔ hasInk text = false := by
  rw [trim,reverse_eq_nil_iff,trimStart_eq_nil]
  have reversed : hasInk (trimStart text).reverse = hasInk (trimStart text) := any_reverse
  rw [reversed,hasInk_trimStart]

theorem trim_length : (trim text).length ≤ text.length := by
  rw [trim,length_reverse]
  refine (trimStart_sublist _).length_le.trans ?_
  rw [length_reverse]
  exact (trimStart_sublist _).length_le

/-- A text whose first and last units are no space is its own trimming. -/
theorem trim_of_ends {middle : Units} (opens : isSpace first = false)
    (closes : isSpace last = false) : trim (first :: (middle ++ [last])) = first :: (middle ++ [last]) := by
  have front : trimStart (first :: (middle ++ [last])) = first :: (middle ++ [last]) := by
    simp [trimStart,opens]
  have back : trimStart (last :: (middle.reverse ++ [first])) = last :: (middle.reverse ++ [first]) := by
    simp [trimStart,closes]
  have mirrored : (first :: (middle ++ [last])).reverse = last :: (middle.reverse ++ [first]) := by simp
  rw [trim,front,mirrored,back,← mirrored,reverse_reverse]

/-- What `toLowerCase` does to the letters of ASCII. -/
def lowerAscii : Units := text.map fun u => if 0x41 ≤ u && u ≤ 0x5A then u + 0x20 else u

def roundEven (q : ℚ) : Int :=
  if q - ⌊q⌋ < 1 / 2 then ⌊q⌋
  else if 1 / 2 < q - ⌊q⌋ then ⌊q⌋ + 1
  else if ⌊q⌋ % 2 = 0 then ⌊q⌋ else ⌊q⌋ + 1

/-- The exponent of the last place of a double of this magnitude. -/
def lastPlace (magnitude : ℚ) : Int := max (-1074) (Int.log 2 magnitude - 52)

/-- The nearest multiple of the last place: the double, up to overflow. -/
def roundDouble (magnitude : ℚ) : ℚ :=
  roundEven (magnitude / 2 ^ lastPlace magnitude) * 2 ^ lastPlace magnitude

def notANumber : Number := .other 0

def infinity (negative : Bool) : Number := .other (if negative then 2 else 1)

def exactDouble (value : ℚ) : Number :=
  if value.den = 1 then .int value.num else .other (3 + Encodable.encode value)

def toDouble (negative : Bool) (magnitude : ℚ) : Number :=
  let rounded := roundDouble magnitude
  if 2 ^ 1024 ≤ rounded then infinity negative
  else if rounded = 0 then if negative then .negativeZero else .int 0
  else exactDouble (if negative then -rounded else rounded)

theorem roundEven_intCast (n : Int) : roundEven (n : ℚ) = n := by
  rw [roundEven,if_pos (by simp)]
  simp

/-- Up to the fifty-third power of two every natural number is a double. -/
theorem roundDouble_natCast {n : Nat} (small : n < 2 ^ 53) : roundDouble (n : ℚ) = n := by
  have place : lastPlace (n : ℚ) ≤ 0 := by
    rw [lastPlace,Int.log_natCast]
    have log : Nat.log 2 n < 53 := by
      rcases Nat.eq_zero_or_pos n with rfl | positive
      · decide
      · exact Nat.log_lt_of_lt_pow positive.ne' small
    omega
  obtain ⟨k,above⟩ := Int.eq_ofNat_of_zero_le (Int.neg_nonneg_of_nonpos place)
  have power : (2 : ℚ) ^ lastPlace (n : ℚ) = ((2 : ℚ) ^ k)⁻¹ := by
    rw [← neg_neg (lastPlace (n : ℚ)),above,zpow_neg,zpow_natCast]
  have whole : (n : ℚ) / 2 ^ lastPlace (n : ℚ) = ((n * 2 ^ k : Nat) : Int) := by
    rw [power]
    push_cast
    field_simp
  rw [roundDouble,whole,roundEven_intCast,power]
  push_cast
  field_simp

theorem toDouble_natCast {n : Nat} (small : n < 2 ^ 53) : toDouble false (n : ℚ) = .int n := by
  rw [toDouble,roundDouble_natCast small]
  have finite : ¬ (2 : ℚ) ^ 1024 ≤ n := by
    have bound : (n : ℚ) < 2 ^ 53 := by exact_mod_cast small
    have larger : (2 : ℚ) ^ 53 ≤ 2 ^ 1024 := pow_le_pow_right₀ (by norm_num) (by norm_num)
    exact not_le.mpr (bound.trans_le larger)
  rcases Nat.eq_zero_or_pos n with rfl | positive
  · simp
  · simp [finite,positive.ne',exactDouble]

/-- The digits at the front of a text and what follows them. -/
def spanDigits (rest : Units) : Units × Units := (rest.takeWhile isDigit,rest.dropWhile isDigit)

def spanSign : Units → Bool × Units
  | 0x2D :: rest => (true,rest)
  | 0x2B :: rest => (false,rest)
  | rest => (false,rest)

def scanExponent : Units → Option (Int × Units)
  | [] => some (0,[])
  | u :: rest =>
    if u = 0x65 ∨ u = 0x45 then
      let (negative,unsigned) := spanSign rest
      let (digits,after) := spanDigits unsigned
      if digits = [] then none
      else some (if negative then -(digitsValue digits : Int) else digitsValue digits,after)
    else some (0,u :: rest)

/-- The value of digits before and after a point, times a power of ten. -/
def decimalValue (whole fraction : Units) (exponent : Int) : ℚ :=
  digitsValue (whole ++ fraction) * 10 ^ (exponent - fraction.length)

/-- The digits of a literal with another base, at least one of them. -/
def radixValue (base : Nat) (digits : Units) : Option Nat :=
  if digits = [] then none
  else digits.foldlM (fun value u => (hexValue u).bind fun digit =>
    if digit < base then some (value * base + digit) else none) 0

/-- `StrUnsignedDecimalLiteral`, to the end of the text. -/
def unsignedDecimal (negative : Bool) (rest : Units) : Number :=
  if rest = ofString "Infinity" then infinity negative
  else
    let (whole,pointed) := spanDigits rest
    let (fraction,after) := match pointed with
      | 0x2E :: rest => spanDigits rest
      | _ => ([],pointed)
    if whole ++ fraction = [] then notANumber
    else match scanExponent after with
      | some (exponent,[]) => toDouble negative (decimalValue whole fraction exponent)
      | _ => notANumber

def radixLiteral (base : Nat) (digits : Units) : Number :=
  match radixValue base digits with
  | some value => toDouble false value
  | none => notANumber

/-- `Number(text)` of a text. -/
def toNumber : Number :=
  match trim text with
  | [] => .int 0
  | 0x30 :: u :: rest =>
    if u = 0x78 ∨ u = 0x58 then radixLiteral 16 rest
    else if u = 0x6F ∨ u = 0x4F then radixLiteral 8 rest
    else if u = 0x62 ∨ u = 0x42 then radixLiteral 2 rest
    else unsignedDecimal false (0x30 :: u :: rest)
  | trimmed =>
    let (negative,unsigned) := spanSign trimmed
    unsignedDecimal negative unsigned

end

theorem digit_not_space (digit : isDigit u = true) : isSpace u = false := by
  simp only [isDigit,Bool.and_eq_true,decide_eq_true_eq,UInt16.le_iff_toNat_le] at digit
  simp only [UInt16.reduceToNat] at digit
  simp only [isSpace,Bool.or_eq_false_iff,Bool.and_eq_false_iff,decide_eq_false_iff_not,
    UInt16.le_iff_toNat_le,contains_eq_mem,mem_cons,not_mem_nil,or_false,
    ← UInt16.toNat_inj]
  simp only [UInt16.reduceToNat]
  omega

theorem trim_of_no_space (solid : ∀ u ∈ text, isSpace u = false) : trim text = text := by
  have start : ∀ other : Units, (∀ u ∈ other, isSpace u = false) → trimStart other = other := by
    intro other solid
    cases other with
    | nil => rfl
    | cons u rest => simp [trimStart,solid u mem_cons_self]
  rw [trim,start text solid,start text.reverse (by simpa using solid),reverse_reverse]

theorem spanDigits_digits (each : ∀ u ∈ digits, isDigit u = true) :
    spanDigits digits = (digits,[]) := by
  rw [spanDigits,takeWhile_eq_self_iff.mpr each,dropWhile_eq_nil_iff.mpr each]

theorem unsignedDecimal_digitUnits (small : n < 2 ^ 53) :
    unsignedDecimal false (digitUnits n) = .int n := by
  have nonempty : digitUnits n ≠ [] := by
    rcases digitUnits_cases n with ⟨_,code⟩ | ⟨_,u,rest,code,_⟩ <;> simp [code]
  have finite : digitUnits n ≠ ofString "Infinity" := by
    intro same
    have digit := digitUnits_digits n 0x49 (by rw [same]; decide)
    revert digit
    decide
  rw [unsignedDecimal,if_neg finite,spanDigits_digits (digitUnits_digits n)]
  simp [nonempty,scanExponent,decimalValue,digitsValue_digitUnits,toDouble_natCast small]

/-- A printed natural number is read back. -/
theorem toNumber_digitUnits (small : n < 2 ^ 53) : toNumber (digitUnits n) = .int n := by
  have trimmed : trim (digitUnits n) = digitUnits n :=
    trim_of_no_space fun u member => digit_not_space (digitUnits_digits n u member)
  have read := unsignedDecimal_digitUnits small
  unfold toNumber
  rw [trimmed]
  rcases digitUnits_cases n with ⟨zero,code⟩ | ⟨_,u,rest,code,nonzero,digit⟩
  · rw [code] at read ⊢
    exact read
  · rw [code] at read ⊢
    have plus : u ≠ 0x2B := by rintro rfl; simp [isDigit] at digit
    have minus : u ≠ 0x2D := by rintro rfl; simp [isDigit] at digit
    have unsigned : spanSign (u :: rest) = (false,u :: rest) := by simp [spanSign,plus,minus]
    split
    · rename_i none_left
      cases none_left
    · rename_i same
      exact absurd (List.cons.inj same).1 nonzero
    · rw [unsigned]
      exact read

example : toNumber (ofString " 1.00000000000000000001e0\n") = .int 1 := by decide +kernel

end GjcRemote.JsText
