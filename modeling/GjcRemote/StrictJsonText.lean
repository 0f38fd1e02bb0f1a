import GjcRemote.StrictJsonParse
import Mathlib.Tactic.IntervalCases

/-! Strings and numbers read back what the printer wrote. The printer escapes the
quotation mark and the backslash only: every other escape is of a control that
strict text excludes. -/
namespace GjcRemote.StrictJson

open Utf16
open Bool hiding not_or

theorem assertStrictText_iff (text : Units) (name : String) :
    assertStrictText text name none = .ok () ↔ checkText name (fun _ => false) text = .ok () := by
  simp [assertStrictText]

inductive StrictUnits : Units → Prop where
  | nil : StrictUnits []
  | plain {u : UInt16} {rest : Units} : forbiddenControl u = false → isHigh u = false →
      isLow u = false → StrictUnits rest → StrictUnits (u :: rest)
  | pair {u v : UInt16} {rest : Units} : isHigh u = true → isLow v = true →
      StrictUnits rest → StrictUnits (u :: v :: rest)

theorem strictUnits_of_checkText
    (checked : checkText name (fun _ => false) text = .ok ()) : StrictUnits text := by
  fun_induction checkText name (fun _ => false) text with
  | case1 => exact .nil
  | case2 => simp at checked
  | case3 => simp at checked
  | case4 code clear plain =>
    simp only [Bool.not_false,Bool.and_true,not_eq_true] at clear
    simp only [or_eq_true,not_or,not_eq_true] at plain
    exact .plain clear plain.1 plain.2 .nil
  | case5 => simp at checked
  | case6 code next rest _ _ pair ih =>
    simp only [and_eq_true] at pair
    exact .pair pair.1 pair.2 (ih checked)
  | case7 => simp at checked
  | case8 code next rest clear plain ih =>
    simp only [Bool.not_false,Bool.and_true,not_eq_true] at clear
    simp only [or_eq_true,not_or,not_eq_true] at plain
    exact .plain clear plain.1 plain.2 (ih checked)

variable {u : UInt16}

theorem high_not_forbidden (high : isHigh u) : forbiddenControl u = false := by
  simp only [isHigh,and_eq_true,decide_eq_true_eq] at high
  simp only [forbiddenControl,or_eq_false_iff,and_eq_false_iff,beq_eq_false_iff_ne,
    ne_eq,UInt16.le_iff_toNat_le,decide_eq_false_iff_not,← UInt16.toNat_inj]
  simp only [UInt16.reduceToNat]
  omega

theorem checkText_of_strictUnits (strict : StrictUnits text) (name : String) :
    checkText name (fun _ => false) text = .ok () := by
  induction strict with
  | nil => rfl
  | @plain u rest clear high low _ ih =>
    cases rest with
    | nil => simp [checkText,clear,high,low]
    | cons v rest => simp [checkText,clear,high,low,ih]
  | @pair u v rest high low _ ih => simp [checkText,high_not_forbidden high,high,low,ih]

theorem strictUnits_iff (text : Units) (name : String) :
    assertStrictText text name none = .ok () ↔ StrictUnits text := by
  exact ⟨strictUnits_of_checkText,fun strict => checkText_of_strictUnits strict name⟩

theorem StrictUnits.wellFormed (strict : StrictUnits text) :
    Utf16.wellFormed text := by
  induction strict with
  | nil => rfl
  | plain _ high low _ ih => rw [wellFormed_plain high low,ih]
  | pair high low _ ih => rw [wellFormed_pair high low,ih]

/-- A unit that stands for itself inside a string token. -/
def Literal (u : UInt16) : Prop := u ≠ 0x22 ∧ u ≠ 0x5C ∧ ¬ u ≤ 0x1f

theorem not_control (clear : forbiddenControl u = false) : ¬ u ≤ 0x1f := by
  simp only [forbiddenControl,or_eq_false_iff,decide_eq_false_iff_not] at clear
  exact clear.1.1.1

theorem surrogate_literal (surrogate : 0xD800 ≤ u.toNat) : Literal u := by
  simp only [Literal,ne_eq,UInt16.le_iff_toNat_le,← UInt16.toNat_inj]
  simp only [UInt16.reduceToNat]
  omega

theorem high_literal (high : isHigh u) : Literal u :=
  surrogate_literal (by simp only [isHigh,and_eq_true,decide_eq_true_eq] at high; omega)

theorem low_literal (low : isLow u) : Literal u :=
  surrogate_literal (by simp only [isLow,and_eq_true,decide_eq_true_eq] at low; omega)

theorem not_lt_of_printable (printable : ¬ u ≤ 0x1f) : ¬ u < 0x20 := by
  have bound : ¬ u.toNat ≤ 0x1f := printable
  change ¬ u.toNat < 0x20
  omega

/-- Outside the controls the printer escapes two units and no other. -/
theorem escapeUnit_cases (printable : ¬ u ≤ 0x1f) :
    (escapeUnit u = [0x5C,u] ∧ (u = 0x22 ∨ u = 0x5C)) ∨ (escapeUnit u = [u] ∧ Literal u) := by
  by_cases quote : u = 0x22
  · exact .inl ⟨by simp [escapeUnit,quote],.inl quote⟩
  by_cases backslash : u = 0x5C
  · exact .inl ⟨by simp [escapeUnit,backslash],.inr backslash⟩
  refine .inr ⟨?_,quote,backslash,printable⟩
  have above : ∀ k : UInt16, k ≤ 0x1f → u ≠ k := fun k small eq => printable (eq ▸ small)
  have large := not_lt_of_printable printable
  simp [escapeUnit,quote,backslash,above 0x08 (by decide),above 0x0C (by decide),
    above 0x0A (by decide),above 0x0D (by decide),above 0x09 (by decide),large]

theorem scanString_literal (literal : Literal u) (scanned : scanString ctx rest = .ok (token,after)) :
    scanString ctx (u :: rest) = .ok (u :: token,after) := by
  obtain ⟨quote,backslash,printable⟩ := literal
  rw [scanString.eq_def]
  simp [quote,backslash,printable,scanned,bind,Except.bind,pure,Except.pure]

theorem scanString_unit (printable : ¬ u ≤ 0x1f) (scanned : scanString ctx rest = .ok (token,after)) :
    scanString ctx (escapeUnit u ++ rest) = .ok (escapeUnit u ++ token,after) := by
  rcases escapeUnit_cases printable with ⟨code,_⟩ | ⟨code,literal⟩
  · simp [code,scanString,scanned,bind,Except.bind,pure,Except.pure]
  · simpa [code] using scanString_literal literal scanned

theorem jsonParseText_literal (literal : Literal u)
    (parsed : jsonParseText rest = some text) : jsonParseText (u :: rest) = some (u :: text) := by
  obtain ⟨quote,backslash,printable⟩ := literal
  have large := not_lt_of_printable printable
  rw [jsonParseText.eq_def]
  simp [quote,backslash,large,parsed]

theorem jsonParseText_unit (printable : ¬ u ≤ 0x1f) (parsed : jsonParseText rest = some text) :
    jsonParseText (escapeUnit u ++ rest) = some (u :: text) := by
  rcases escapeUnit_cases printable with ⟨code,which⟩ | ⟨code,literal⟩
  · rcases which with rfl | rfl <;> simp [code,jsonParseText,simpleEscape,parsed]
  · simpa [code] using jsonParseText_literal literal parsed

theorem escapeText_plain (high : isHigh u = false) (low : isLow u = false) (rest : Units) :
    escapeText (u :: rest) = escapeUnit u ++ escapeText rest := by
  cases rest <;> simp [escapeText,high,low]

theorem escapeText_pair (high : isHigh u) (low : isLow v) (rest : Units) :
    escapeText (u :: v :: rest) = u :: v :: escapeText rest := by
  simp [escapeText,high,low]

theorem scanString_escapeText {ctx : Context} {text : Units} (strict : StrictUnits text) (tail : Units) :
    scanString ctx (escapeText text ++ 0x22 :: tail) = .ok (escapeText text ++ [0x22],tail) := by
  induction strict with
  | nil => rw [escapeText,List.nil_append,scanString.eq_def]; rfl
  | plain clear high low _ ih =>
    rw [escapeText_plain high low,List.append_assoc,List.append_assoc]
    exact scanString_unit (not_control clear) ih
  | pair high low _ ih =>
    rw [escapeText_pair high low]
    exact scanString_literal (high_literal high) (scanString_literal (low_literal low) ih)

theorem jsonParseText_escapeText (strict : StrictUnits text) :
    jsonParseText (escapeText text ++ [0x22]) = some text := by
  induction strict with
  | nil => simp [escapeText,jsonParseText]
  | plain clear high low _ ih =>
    rw [escapeText_plain high low,List.append_assoc]
    exact jsonParseText_unit (not_control clear) ih
  | pair high low _ ih =>
    rw [escapeText_pair high low]
    exact jsonParseText_literal (high_literal high) (jsonParseText_literal (low_literal low) ih)

/-- A printed string reads back as itself, as a key and as a value. -/
theorem parseString_stringifyText (strictOnly : ctx.options = ⟨none⟩)
    (isKey : Bool) (strict : StrictUnits text) (tail : Units) :
    parseString ctx isKey (stringifyText text ++ tail) = .ok (text,tail) := by
  have scanned := @scanString_escapeText ctx _ strict tail
  have checked := checkText_of_strictUnits strict "JSON string"
  simp [stringifyText,parseString,scanned,jsonParseText_escapeText strict,checkDecoded,strictOnly,
    assertStrictText,checked,bind,Except.bind,pure,Except.pure]

theorem escapeUnit_plain_wellFormed (clear : forbiddenControl u = false)
    (high : isHigh u = false) (low : isLow u = false) (rest : Units) :
    wellFormed (escapeUnit u ++ rest) = wellFormed rest := by
  have backslash : ∀ rest, wellFormed (0x5C :: rest) = wellFormed rest :=
    fun rest => wellFormed_plain (by decide) (by decide) rest
  rcases escapeUnit_cases (not_control clear) with ⟨code,_⟩ | ⟨code,_⟩
  · simp [code,backslash,wellFormed_plain high low]
  · simp [code,wellFormed_plain high low]

theorem stringifyText_wellFormed (strict : StrictUnits text) :
    wellFormed (stringifyText text) := by
  have quoted : wellFormed (escapeText text ++ [0x22]) := by
    induction strict with
    | nil => decide
    | plain clear high low _ ih =>
      rw [escapeText_plain high low,List.append_assoc,escapeUnit_plain_wellFormed clear high low,ih]
    | pair high low _ ih =>
      rw [escapeText_pair high low,List.cons_append,List.cons_append,wellFormed_pair high low,ih]
  rw [stringifyText,wellFormed_plain (by decide) (by decide),quoted]

def digitUnits (n : Nat) : Units := encode (Nat.toDigits 10 n)

theorem encodeChar_digit (digit : c.isDigit) :
    ∃ u, encodeChar c = [u] ∧ isDigit u ∧ (u = 0x30 → c = '0') := by
  have bounds : 48 ≤ c.toNat ∧ c.toNat ≤ 57 := by
    simp only [Char.isDigit,and_eq_true,decide_eq_true_eq] at digit
    exact digit
  have unit := toNat_ofNat_unit (n := c.toNat) (by omega)
  refine ⟨UInt16.ofNat c.toNat,by rw [encodeChar,if_pos (by omega)],?_,?_⟩
  · simp only [isDigit,and_eq_true,decide_eq_true_eq,UInt16.le_iff_toNat_le,unit]
    exact bounds
  · intro zero
    rw [← UInt16.toNat_inj,unit] at zero
    exact Char.toNat_inj.mp zero

variable (n : Nat)

theorem digitUnits_digits : ∀ u ∈ digitUnits n, isDigit u := by
  intro u member
  obtain ⟨c,inside,coded⟩ := List.mem_flatMap.mp member
  obtain ⟨v,code,digit,_⟩ := encodeChar_digit (Nat.isDigit_of_mem_toDigits (by decide) (by decide) inside)
  rw [code,List.mem_singleton] at coded
  exact coded ▸ digit

theorem toDigits_head (positive : 0 < n) :
    ∃ c rest, Nat.toDigits 10 n = c :: rest ∧ c ≠ '0' := by
  induction n using Nat.strongRecOn with
  | ind n ih =>
    by_cases small : n < 10
    · refine ⟨n.digitChar,[],Nat.toDigits_of_lt_base small,?_⟩
      interval_cases n <;> decide
    · obtain ⟨c,rest,digits,nonzero⟩ := ih (n / 10) (by omega) (by omega)
      rw [Nat.toDigits_of_base_le (by decide) (by omega),digits]
      exact ⟨c,_,rfl,nonzero⟩

/-- A printed natural is a single zero, or starts with another digit. -/
theorem digitUnits_cases :
    (n = 0 ∧ digitUnits n = [0x30]) ∨ (0 < n ∧ ∃ u rest, digitUnits n = u :: rest ∧ u ≠ 0x30 ∧ isDigit u) := by
  rcases Nat.eq_zero_or_pos n with rfl | positive
  · exact .inl ⟨rfl,by decide⟩
  obtain ⟨c,rest,digits,nonzero⟩ := toDigits_head n positive
  have digit := Nat.isDigit_of_mem_toDigits (b := 10) (n := n) (c := c) (by decide) (by decide)
    (by simp [digits])
  obtain ⟨u,code,unit,zero⟩ := encodeChar_digit digit
  refine .inr ⟨positive,u,encode rest,by simp [digitUnits,digits,code],fun eq => nonzero (zero eq),unit⟩

theorem digitsValue_digitUnits : digitsValue (digitUnits n) = n := by
  rw [digitsValue,digitUnits,decode_encode,Nat.ofDigitChars_ten_toDigits]

variable {tail : Units}

theorem endsNumber_head (ends : endsNumber tail) :
    tail.takeWhile isDigit = [] ∧ tail.dropWhile isDigit = tail := by
  cases tail with
  | nil => exact ⟨rfl,rfl⟩
  | cons u tail =>
    simp only [endsNumber,not_eq_true',or_eq_false_iff] at ends
    simp [ends.2]

theorem integerDigits_digitUnits (ends : endsNumber tail) :
    integerDigits (digitUnits n ++ tail) = some (digitUnits n,tail) := by
  rcases digitUnits_cases n with ⟨_,code⟩ | ⟨_,u,rest,code,nonzero,digit⟩
  · simp [code,integerDigits]
  · have digits : ∀ v ∈ rest, isDigit v := by
      intro v member
      exact digitUnits_digits n v (by simp [code,member])
    obtain ⟨taken,dropped⟩ := endsNumber_head ends
    simp [code,integerDigits,nonzero,digit,List.takeWhile_append_of_pos digits,
      List.dropWhile_append_of_pos digits,taken,dropped]

theorem numberToken_digitUnits (ends : endsNumber tail) :
    numberToken (digitUnits n ++ tail) = some (false,digitUnits n,tail) := by
  have digits := integerDigits_digitUnits n ends
  rcases digitUnits_cases n with ⟨_,code⟩ | ⟨_,u,rest,code,_,digit⟩
  · rw [code,List.cons_append,List.nil_append] at digits ⊢
    simp [numberToken,digits,ends]
  · rw [code,List.cons_append] at digits ⊢
    have unsigned : u ≠ 0x2D := by rintro rfl; simp [isDigit] at digit
    unfold numberToken
    split
    rename_i sign rest' eq
    split at eq
    · rename_i after eq'
      exact absurd (List.cons.inj eq').1 unsigned
    · cases eq
      simp [digits,ends]

theorem numberToken_negative (ends : endsNumber tail) :
    numberToken (0x2D :: (digitUnits n ++ tail)) = some (true,digitUnits n,tail) := by
  simp [numberToken,integerDigits_digitUnits n ends,ends]

theorem stringifyNumber_ofNat : stringifyNumber (.int n) = digitUnits n := by
  simp [stringifyNumber,digitUnits,toString,Int.repr,Nat.toList_repr]

theorem stringifyNumber_neg :
    stringifyNumber (.int (-(n + 1 : Nat))) = 0x2D :: digitUnits (n + 1) := by
  have spelled : toString (-((n + 1 : Nat) : Int)) = "-" ++ (n + 1).repr := rfl
  rw [stringifyNumber,spelled]
  simp only [String.toList_append,Nat.toList_repr]
  rfl

def readNumber : Number → Number
  | .negativeZero => .int 0
  | n => n

theorem parseScalar_digitUnits (ctx : Context) (nodes n : Nat)
    (safe : isSafeInteger (.int n)) (ends : endsNumber tail) :
    parseScalar ctx ⟨nodes,digitUnits n ++ tail⟩ = .ok (.number (.int n),⟨nodes,tail⟩) := by
  rw [parseScalar,numberToken_digitUnits n ends]
  simp [parseNumber,signedInteger,digitsValue_digitUnits,safe]

/-- A printed safe number is read back, the negative zero as zero. -/
theorem parseScalar_stringifyNumber (ctx : Context) (nodes : Nat) {n : Number}
    (safe : isSafeInteger n) (ends : endsNumber tail) :
    parseScalar ctx ⟨nodes,stringifyNumber n ++ tail⟩ = .ok (.number (readNumber n),⟨nodes,tail⟩) := by
  cases n with
  | negativeZero =>
    exact parseScalar_digitUnits ctx nodes 0 (by decide) ends
  | other tag => simp [isSafeInteger] at safe
  | int n =>
    rcases n with n | n
    · rw [Int.ofNat_eq_natCast] at safe ⊢
      rw [stringifyNumber_ofNat]
      exact parseScalar_digitUnits ctx nodes n safe ends
    · rw [Int.negSucc_eq] at safe ⊢
      have spelled := stringifyNumber_neg n
      rw [Int.natCast_succ] at spelled
      rw [spelled,parseScalar,List.cons_append,numberToken_negative (n + 1) ends]
      have nonzero : digitUnits (n + 1) ≠ [0x30] := by
        intro zero
        have value := congrArg digitsValue zero
        rw [digitsValue_digitUnits,show digitsValue [0x30] = 0 by decide] at value
        omega
      simp [parseNumber,signedInteger,digitsValue_digitUnits,readNumber,nonzero] at safe ⊢
      exact safe

end GjcRemote.StrictJson
