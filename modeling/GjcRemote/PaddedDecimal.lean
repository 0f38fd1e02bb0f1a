import Mathlib.Data.Nat.Digits.Defs

/-! Decimal numerals of a fixed width, padded with zeros. They say their number, and the
order of their UTF-8 bytes is the order of the numbers. -/
namespace GjcRemote.PaddedDecimal

open List

def padded (width n : Nat) : List Char :=
  replicate (width - (Nat.toDigits 10 n).length) '0' ++ Nat.toDigits 10 n

theorem length_padded (positive : 0 < width) (fits : n < 10 ^ width) :
    (padded width n).length = width := by
  have short := Nat.toDigits_length 10 n width positive fits
  simp only [padded,length_append,length_replicate]
  omega

theorem padded_digits (width n : Nat) : ∀ c ∈ padded width n, c.isDigit := by
  intro c member
  rcases mem_append.mp member with zero | digit
  · rw [eq_of_mem_replicate zero]
    rfl
  · exact Nat.isDigit_of_mem_toDigits (by decide) (by decide) digit

theorem ofDigitChars_padded (width n : Nat) : Nat.ofDigitChars 10 (padded width n) 0 = n := by
  rw [padded,Nat.ofDigitChars_append,Nat.ofDigitChars_replicate_zero,Nat.mul_zero,Nat.ofDigitChars_ten_toDigits]

theorem padded_injective (width : Nat) : Function.Injective (padded width) := by
  intro m n same
  rw [← ofDigitChars_padded width m,same,ofDigitChars_padded]

def bytes (text : List Char) : List UInt8 := text.flatMap String.utf8EncodeChar

theorem isDigit_bounds {c : Char} (digit : c.isDigit) : 48 ≤ c.toNat ∧ c.toNat ≤ 57 := by
  simp only [Char.isDigit,Bool.and_eq_true,decide_eq_true_eq] at digit
  exact digit

theorem utf8EncodeChar_digit (digit : c.isDigit) :
    String.utf8EncodeChar c = [UInt8.ofNat c.toNat] := by
  have small := isDigit_bounds digit
  have value : c.val.toNat = c.toNat := rfl
  simp [String.utf8EncodeChar,value,show c.toNat ≤ 127 by omega]

theorem compare_digits {c d : Char} (left : c.isDigit) (right : d.isDigit) :
    compare (UInt8.ofNat c.toNat) (UInt8.ofNat d.toNat) = compare c.toNat d.toNat := by
  have boundL := isDigit_bounds left
  have boundR := isDigit_bounds right
  have toNatL : (UInt8.ofNat c.toNat).toNat = c.toNat := by
    rw [UInt8.toNat_ofNat']
    omega
  have toNatR : (UInt8.ofNat d.toNat).toNat = d.toNat := by
    rw [UInt8.toNat_ofNat']
    omega
  simp only [compareOfLessAndEq,compare,UInt8.lt_iff_toNat_lt,← UInt8.toNat_inj,toNatL,toNatR]

theorem ofDigitChars_lt (all : ∀ c ∈ digits, c.isDigit) :
    Nat.ofDigitChars 10 digits 0 < 10 ^ digits.length := by
  induction digits with
  | nil => simp
  | cons c rest ih =>
    have bound := isDigit_bounds (all c mem_cons_self)
    have tail := ih fun d member => all d (mem_cons_of_mem _ member)
    rw [Nat.ofDigitChars_cons,Nat.ofDigitChars_eq_ofDigitChars_zero,length_cons,Nat.pow_succ,
      Nat.mul_zero,Nat.zero_add]
    have head : c.toNat - '0'.toNat ≤ 9 := by
      have zero : '0'.toNat = 48 := rfl
      omega
    have scaled : 10 ^ rest.length * (c.toNat - '0'.toNat) ≤ 10 ^ rest.length * 9 :=
      Nat.mul_le_mul_left _ head
    omega

/-- The first digit in which two numerals differ decides, whatever comes after both. -/
theorem compare_numerals (digitsL : ∀ c ∈ left, c.isDigit)
    (digitsR : ∀ c ∈ right, c.isDigit) (width : left.length = right.length)
    (less : Nat.ofDigitChars 10 left 0 < Nat.ofDigitChars 10 right 0) (rest : List UInt8) :
    compare (bytes left ++ rest) (bytes right ++ rest) = .lt := by
  induction left generalizing right with
  | nil =>
    cases right with
    | nil => exact absurd less (Nat.lt_irrefl _)
    | cons => simp at width
  | cons c tail ih =>
    cases right with
    | nil => simp at width
    | cons d tail' =>
      have digitC := digitsL c mem_cons_self
      have digitD := digitsR d mem_cons_self
      have inL := fun e (member : e ∈ tail) => digitsL e (mem_cons_of_mem _ member)
      have inR := fun e (member : e ∈ tail') => digitsR e (mem_cons_of_mem _ member)
      have lengths : tail.length = tail'.length := Nat.succ.inj width
      have boundD := isDigit_bounds digitD
      have smallR := ofDigitChars_lt inR
      have zero : '0'.toNat = 48 := rfl
      rw [Nat.ofDigitChars_cons,Nat.ofDigitChars_cons,@Nat.ofDigitChars_eq_ofDigitChars_zero tail,
        @Nat.ofDigitChars_eq_ofDigitChars_zero tail',lengths,Nat.mul_zero,Nat.zero_add,Nat.zero_add,zero] at less
      rw [show bytes (c :: tail) = UInt8.ofNat c.toNat :: bytes tail by
          rw [bytes,flatMap_cons,utf8EncodeChar_digit digitC]; rfl,
        show bytes (d :: tail') = UInt8.ofNat d.toNat :: bytes tail' by
          rw [bytes,flatMap_cons,utf8EncodeChar_digit digitD]; rfl,
        List.cons_append,List.cons_append,List.compare_cons_cons,compare_digits digitC digitD]
      rcases Nat.lt_trichotomy c.toNat d.toNat with before | same | after
      · rw [Nat.compare_eq_lt.mpr before]
        rfl
      · rw [Nat.compare_eq_eq.mpr same]
        rw [same] at less
        exact ih inL inR lengths (by omega)
      · have gap : 10 ^ tail'.length * (d.toNat - 48 + 1) ≤ 10 ^ tail'.length * (c.toNat - 48) :=
          Nat.mul_le_mul_left _ (by omega)
        rw [Nat.mul_succ] at gap
        omega

theorem compare_common (start : List UInt8) (left right : List UInt8) :
    compare (start ++ left) (start ++ right) = compare left right := by
  induction start with
  | nil => rfl
  | cons b rest ih =>
    rw [List.cons_append,List.cons_append,List.compare_cons_cons,ih,show compare b b = .eq from Std.ReflCmp.compare_self]
    rfl

/-- Between a common start and a common end, padded numerals are in the order of their
numbers. -/
theorem compare_padded (positive : 0 < width) (less : m < n) (fits : n < 10 ^ width)
    (start ending : List UInt8) :
    compare (start ++ (bytes (padded width m) ++ ending)) (start ++ (bytes (padded width n) ++ ending)) = .lt := by
  rw [compare_common]
  apply compare_numerals (padded_digits width m) (padded_digits width n)
  · rw [length_padded positive (less.trans fits),length_padded positive fits]
  · rwa [ofDigitChars_padded,ofDigitChars_padded]

end GjcRemote.PaddedDecimal
