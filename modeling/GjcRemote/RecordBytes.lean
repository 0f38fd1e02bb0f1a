import GjcRemote.Envelope
import Mathlib.Algebra.Order.BigOperators.Group.List

/-! How long the canonical spelling of a text, a number or a list of items can be. -/
namespace GjcRemote.Envelope

open Utf16 StrictJson Record

theorem escapeUnit_length (clear : forbiddenControl u = false) : (escapeUnit u).length ≤ 2 := by
  have printable : ¬ u < 0x20 := by
    intro small
    have control : u ≤ 0x1f := by
      exact Nat.le_of_lt_succ small
    simp [forbiddenControl,control] at clear
  unfold escapeUnit
  repeat' split
  all_goals simp

theorem escapeText_length (strict : StrictUnits text) :
    (escapeText text).length ≤ 2 * text.length := by
  induction strict with
  | nil => simp [escapeText]
  | plain clear high low _ ih =>
    have one := escapeUnit_length clear
    rw [escapeText_plain high low,List.length_append,List.length_cons]
    omega
  | pair high low _ ih =>
    rw [escapeText_pair high low,List.length_cons,List.length_cons,List.length_cons,List.length_cons]
    omega

theorem stringifyText_length (strict : StrictUnits text) :
    (stringifyText text).length ≤ 2 * text.length + 2 := by
  have := escapeText_length strict
  simp only [stringifyText,List.length_cons,List.length_append,List.length_nil]
  omega

theorem stringifyNumber_length (positive : 1 ≤ n) (safe : n ≤ maxSafeInteger) :
    (stringifyNumber (.int n)).length ≤ 32 := by
  obtain ⟨k,rfl⟩ := Int.eq_ofNat_of_zero_le (by omega : 0 ≤ n)
  have digits : (toString (k : Int)).toList.length ≤ 16 := by
    have small : k < 10 ^ 16 := by
      rw [maxSafeInteger] at safe
      omega
    have text : toString (k : Int) = k.repr := rfl
    rw [text,Nat.toList_repr]
    exact (Nat.length_toDigits_le_iff (by decide) (by decide)).mpr small
  have units (chars : List Char) : (encode chars).length ≤ 2 * chars.length := by
    induction chars with
    | nil => simp [encode]
    | cons c rest ih =>
      rw [encode_cons,List.length_append,List.length_cons]
      rcases encodeChar_cases c with ⟨u,code,_⟩ | ⟨u,v,code,_⟩ <;> rw [code] <;> simp <;> omega
  have := units (toString (k : Int)).toList
  rw [stringifyNumber]
  omega

theorem intercalate_length (items : List Units) :
    (List.intercalate [0x2C] items).length ≤ (items.map fun item => item.length + 1).sum := by
  induction items with
  | nil => simp [List.intercalate]
  | cons item rest ih =>
    cases rest with
    | nil => simp [List.intercalate]
    | cons next later =>
      rw [List.intercalate_cons_cons] at *
      simp only [List.length_append,List.length_cons,List.length_nil,List.map_cons,List.sum_cons] at ih ⊢
      omega

end GjcRemote.Envelope
