import Mathlib.Data.List.Basic
import Mathlib.Data.Char

/-! Strings as sequences of UTF-16 code units and their UTF-8 bytes. Code units
outside a surrogate pair decode to the replacement character, as an encoder that
never fails must; on well-formed sequences both directions are inverse. -/
namespace GjcRemote.Utf16

open Bool hiding not_or

/-- Each `charCodeAt` of a string, in order. -/
abbrev Units := List UInt16

instance lawfulUnits : LawfulBEq Units := inferInstance

def isHigh (u : UInt16) : Bool := 0xD800 ≤ u.toNat && u.toNat ≤ 0xDBFF
def isLow (u : UInt16) : Bool := 0xDC00 ≤ u.toNat && u.toNat ≤ 0xDFFF

def replacement : Char := '\uFFFD'

def pairChar (high low : UInt16) : Char :=
  Char.ofNat (0x10000 + (high.toNat - 0xD800) * 0x400 + (low.toNat - 0xDC00))

/-- Code points of a string; a lone surrogate reads as U+FFFD. -/
def decode : Units → List Char
  | [] => []
  | [u] => if isHigh u || isLow u then [replacement] else [Char.ofNat u.toNat]
  | u :: v :: rest =>
    if isHigh u && isLow v then pairChar u v :: decode rest
    else if isHigh u || isLow u then replacement :: decode (v :: rest)
    else Char.ofNat u.toNat :: decode (v :: rest)

def wellFormed : Units → Bool
  | [] => true
  | [u] => !(isHigh u || isLow u)
  | u :: v :: rest =>
    if isHigh u && isLow v then wellFormed rest
    else !(isHigh u || isLow u) && wellFormed (v :: rest)

def encodeChar (c : Char) : Units :=
  if c.toNat < 0x10000 then [UInt16.ofNat c.toNat]
  else [UInt16.ofNat (0xD800 + (c.toNat - 0x10000) / 0x400),UInt16.ofNat (0xDC00 + (c.toNat - 0x10000) % 0x400)]

def encode (chars : List Char) : Units := chars.flatMap encodeChar

def ofString (text : String) : Units := encode text.toList

@[simp] theorem encode_nil : encode [] = [] := rfl
@[simp] theorem encode_cons (c : Char) (rest : List Char) :
    encode (c :: rest) = encodeChar c ++ encode rest := rfl

theorem char_bounds (c : Char) :
    c.toNat < 0xD800 ∨ 0xDFFF < c.toNat ∧ c.toNat < 0x110000 := by
  have := c.valid
  exact this

theorem toNat_ofNat_unit (h : n < 0x10000) : (UInt16.ofNat n).toNat = n := by
  simp [UInt16.toNat_ofNat', Nat.mod_eq_of_lt h]

theorem ofNat_toNat_char (c : Char) : Char.ofNat c.toNat = c := Char.ofNat_toNat c

theorem toNat_charOfNat (h : n < 0xD800 ∨ 0xDFFF < n ∧ n < 0x110000) :
    (Char.ofNat n).toNat = n := by
  have valid : n.isValidChar := h
  rw [Char.ofNat,dif_pos valid]
  rfl

/-- A scalar outside the surrogates encodes as one unit or as one pair. -/
theorem encodeChar_cases (c : Char) :
    (∃ u, encodeChar c = [u] ∧ isHigh u = false ∧ isLow u = false ∧ Char.ofNat u.toNat = c) ∨
    (∃ u v, encodeChar c = [u,v] ∧ isHigh u ∧ isLow v ∧ pairChar u v = c) := by
  have bounds := char_bounds c
  by_cases small : c.toNat < 0x10000
  · have unit := toNat_ofNat_unit small
    refine .inl ⟨UInt16.ofNat c.toNat,by simp [encodeChar,small],?_,?_,?_⟩
    · simp only [isHigh,unit,and_eq_false_iff,decide_eq_false_iff_not]; omega
    · simp only [isLow,unit,and_eq_false_iff,decide_eq_false_iff_not]; omega
    · rw [unit,ofNat_toNat_char]
  · have high := toNat_ofNat_unit (n := 0xD800 + (c.toNat - 0x10000) / 0x400) (by omega)
    have low := toNat_ofNat_unit (n := 0xDC00 + (c.toNat - 0x10000) % 0x400) (by omega)
    refine .inr ⟨_,_,by rw [encodeChar,if_neg small],?_,?_,?_⟩
    · simp only [isHigh,high,and_eq_true,decide_eq_true_eq]; omega
    · simp only [isLow,low,and_eq_true,decide_eq_true_eq]; omega
    · have value : 0x10000 + (0xD800 + (c.toNat - 0x10000) / 0x400 - 0xD800) * 0x400 +
          (0xDC00 + (c.toNat - 0x10000) % 0x400 - 0xDC00) = c.toNat := by omega
      rw [pairChar,high,low,value,ofNat_toNat_char]

variable {u : UInt16}

theorem decode_plain (high : isHigh u = false) (low : isLow u = false) (rest : Units) :
    decode (u :: rest) = Char.ofNat u.toNat :: decode rest := by
  cases rest <;> simp [decode,high,low]

theorem decode_pair (high : isHigh u) (low : isLow v) (rest : Units) :
    decode (u :: v :: rest) = pairChar u v :: decode rest := by
  simp [decode,high,low]

theorem decode_encode (chars : List Char) : decode (encode chars) = chars := by
  induction chars with
  | nil => rfl
  | cons c rest ih =>
    rcases encodeChar_cases c with ⟨u,code,high,low,value⟩ | ⟨u,v,code,high,low,value⟩
    · simp [code,decode_plain high low,value,ih]
    · simp [code,decode_pair high low,value,ih]

theorem wellFormed_plain (high : isHigh u = false) (low : isLow u = false) (rest : Units) :
    wellFormed (u :: rest) = wellFormed rest := by
  cases rest <;> simp [wellFormed,high,low]

theorem wellFormed_pair (high : isHigh u) (low : isLow v) (rest : Units) :
    wellFormed (u :: v :: rest) = wellFormed rest := by
  simp [wellFormed,high,low]

theorem wellFormed_encode (chars : List Char) : wellFormed (encode chars) := by
  induction chars with
  | nil => rfl
  | cons c rest ih =>
    rcases encodeChar_cases c with ⟨u,code,high,low,_⟩ | ⟨u,v,code,high,low,_⟩
    · simp [code,wellFormed_plain high low,ih]
    · simp [code,wellFormed_pair high low,ih]

theorem encodeChar_plain (high : isHigh u = false) (low : isLow u = false) :
    encodeChar (Char.ofNat u.toNat) = [u] := by
  have bound := u.toNat_lt
  have scalar : u.toNat < 0xD800 ∨ 0xDFFF < u.toNat ∧ u.toNat < 0x110000 := by
    simp only [isHigh,isLow,and_eq_false_iff,decide_eq_false_iff_not] at high low
    omega
  have value := toNat_charOfNat scalar
  simp only [encodeChar,value]
  rw [if_pos (by omega)]
  simp

theorem encodeChar_pair (high : isHigh u) (low : isLow v) :
    encodeChar (pairChar u v) = [u,v] := by
  simp only [isHigh,isLow,and_eq_true,decide_eq_true_eq] at high low
  have value : (pairChar u v).toNat =
      0x10000 + (u.toNat - 0xD800) * 0x400 + (v.toNat - 0xDC00) := toNat_charOfNat (by omega)
  simp only [encodeChar,value]
  rw [if_neg (by omega)]
  have first : 0xD800 + (0x10000 + (u.toNat - 0xD800) * 0x400 + (v.toNat - 0xDC00) - 0x10000) / 0x400 =
      u.toNat := by omega
  have second : 0xDC00 + (0x10000 + (u.toNat - 0xD800) * 0x400 + (v.toNat - 0xDC00) - 0x10000) % 0x400 =
      v.toNat := by omega
  rw [first,second]
  simp

variable (units : Units)

theorem encode_decode (valid : wellFormed units) :
    encode (decode units) = units := by
  fun_induction decode units with
  | case1 => rfl
  | case2 u surrogate => simp [wellFormed] at valid surrogate; simp [valid] at surrogate
  | case3 u plain =>
    simp only [or_eq_true,not_or,not_eq_true] at plain
    simp [encodeChar_plain plain.1 plain.2]
  | case4 u v rest pair ih =>
    simp only [and_eq_true] at pair
    rw [wellFormed_pair pair.1 pair.2] at valid
    simp [encodeChar_pair pair.1 pair.2,ih valid]
  | case5 u v rest pair surrogate ih =>
    rw [wellFormed,if_neg pair] at valid
    simp [surrogate] at valid
  | case6 u v rest pair plain ih =>
    simp only [or_eq_true,not_or,not_eq_true] at plain
    rw [wellFormed_plain plain.1 plain.2] at valid
    simp [encodeChar_plain plain.1 plain.2,ih valid]

/-- `Buffer.from(text, "utf8")`. -/
def utf8 : List UInt8 := (decode units).flatMap String.utf8EncodeChar

/-- `Buffer.byteLength(text, "utf8")`. -/
def byteLength : Nat := (utf8 units).length

/-- A fatal UTF-8 decoder: `none` stands for the thrown error. -/
def utf8Decode (bytes : List UInt8) : Option Units :=
  (ByteArray.utf8Decode? bytes.toByteArray).map fun chars => encode chars.toList

/-- A code unit takes at most four bytes. -/
theorem utf8_length_le : (utf8 units).length ≤ 4 * units.length := by
  have char : ∀ c : Char, (String.utf8EncodeChar c).length ≤ 4 := by
    intro c
    unfold String.utf8EncodeChar
    simp only
    split
    · simp
    · split
      · simp
      · split <;> simp
  have encoded : ∀ chars : List Char, (chars.flatMap String.utf8EncodeChar).length ≤ 4 * chars.length := by
    intro chars
    induction chars with
    | nil => simp
    | cons c rest ih =>
      have head := char c
      simp only [List.flatMap_cons,List.length_append,List.length_cons]
      omega
  have decoded : ∀ units : Units, (decode units).length ≤ units.length := by
    intro units
    fun_induction decode units <;> simp_all
    all_goals omega
  have bytes := encoded (decode units)
  have chars := decoded units
  rw [utf8]
  omega

theorem utf8Decode_utf8 (valid : wellFormed units) :
    utf8Decode (utf8 units) = some units := by
  have decoded : (utf8 units).toByteArray.utf8Decode? = some (decode units).toArray :=
    List.utf8Decode?_utf8Encode
  simp [utf8Decode,decoded,encode_decode units valid]

/-- Distinct well-formed strings have distinct bytes. -/
theorem utf8_injective (va : wellFormed a) (vb : wellFormed b) (same : utf8 a = utf8 b) : a = b := by
  have := utf8Decode_utf8 a va
  rw [same,utf8Decode_utf8 b vb] at this
  exact (Option.some.inj this).symm

@[simp] theorem utf8_nil : utf8 [] = [] := rfl

theorem wellFormed_append (valid : wellFormed a) (b : Units) :
    wellFormed (a ++ b) = wellFormed b := by
  fun_induction wellFormed a with
  | case1 => rfl
  | case2 u => simp at valid; simp [wellFormed_plain valid.1 valid.2]
  | case3 u v rest pair ih =>
    simp only [and_eq_true] at pair
    simp [wellFormed_pair pair.1 pair.2,ih valid]
  | case4 u v rest pair ih =>
    simp only [and_eq_true,not_eq_true',or_eq_false_iff] at valid
    have := ih valid.2
    rw [List.cons_append] at this
    simp [wellFormed_plain valid.1.1 valid.1.2,this]

end GjcRemote.Utf16
