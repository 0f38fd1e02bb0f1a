import GjcRemote.JsText
import GjcRemote.OrderedMap
import GjcRemote.StrictJsonRoundTrip

/-! `JSON.parse` and `JSON.stringify`. A text is cut into tokens, and the tokens drive a machine
whose stack holds the arrays and objects that are still open. -/
namespace GjcRemote.JsonText

open Utf16 StrictJson JsText Option

inductive Token where
  | openBrace | closeBrace | openBracket | closeBracket | colon | comma
  | scalar (value : Value)

/-- A string after its opening quote, up to and with the closing one. -/
def scanText : Units → Option (Units × Units)
  | [] => none
  | u :: rest =>
    if u = 0x22 then some ([],rest)
    else if u = 0x5C then
      match rest with
      | 0x75 :: a :: b :: c :: d :: rest => do
        let unit ← hexUnit a b c d
        let found ← scanText rest
        return (unit :: found.1,found.2)
      | v :: rest => do
        let unit ← simpleEscape v
        let found ← scanText rest
        return (unit :: found.1,found.2)
      | [] => none
    else if u < 0x20 then none
    else do
      let found ← scanText rest
      return (u :: found.1,found.2)

/-- The digits after a point, at least one of them; none where there is no point. -/
def scanFraction : Units → Option (Units × Units)
  | 0x2E :: rest =>
    let (digits,after) := spanDigits rest
    if digits = [] then none else some (digits,after)
  | rest => some ([],rest)

def spanMinus : Units → Bool × Units
  | 0x2D :: rest => (true,rest)
  | rest => (false,rest)

def scanNumber (rest : Units) : Option (Value × Units) := do
  let whole ← integerDigits (spanMinus rest).2
  let fraction ← scanFraction whole.2
  let exponent ← scanExponent fraction.2
  return (.number (toDouble (spanMinus rest).1 (decimalValue whole.1 fraction.1 exponent.1)),exponent.2)

def scanScalar (rest : Units) : Option (Value × Units) :=
  match startsWith "true" rest with
  | some after => some (.bool true,after)
  | none =>
    match startsWith "false" rest with
    | some after => some (.bool false,after)
    | none =>
      match startsWith "null" rest with
      | some after => some (.null,after)
      | none => scanNumber rest

def nextToken : Units → Option (Token × Units)
  | 0x7B :: rest => some (.openBrace,rest)
  | 0x7D :: rest => some (.closeBrace,rest)
  | 0x5B :: rest => some (.openBracket,rest)
  | 0x5D :: rest => some (.closeBracket,rest)
  | 0x3A :: rest => some (.colon,rest)
  | 0x2C :: rest => some (.comma,rest)
  | 0x22 :: rest => (scanText rest).map fun found => (.scalar (.string found.1),found.2)
  | rest => (scanScalar rest).map fun found => (.scalar found.1,found.2)

/-- The tokens of a text. A token takes a unit at least, so the length is fuel enough. -/
def scanTokens : Nat → Units → Option (List Token)
  | 0,rest => if whitespace rest = [] then some [] else none
  | fuel + 1,rest =>
    match whitespace rest with
    | [] => some []
    | u :: solid => do
      let found ← nextToken (u :: solid)
      let tokens ← scanTokens fuel found.2
      return found.1 :: tokens

def tokensOf (text : Units) : Option (List Token) := scanTokens text.length text

/-- An array or an object that waits for the value of its next element. -/
inductive Frame where
  | array (items : List Value)
  | object (members : OrderedMap Units Value) (key : Units)

inductive Parser where
  | value (stack : List Frame)
  | item (stack : List Frame)
  | member (members : OrderedMap Units Value) (first : Bool) (stack : List Frame)
  | colon (members : OrderedMap Units Value) (key : Units) (stack : List Frame)
  | after (value : Value) (stack : List Frame)

def startValue (stack : List Frame) : Token → Option Parser
  | .openBrace => some (.member .empty true stack)
  | .openBracket => some (.item stack)
  | .scalar value => some (.after value stack)
  | _ => none

/-- After a complete value. A key that comes again takes the new value at its old place. -/
def endValue (value : Value) : List Frame → Token → Option Parser
  | .array items :: stack,.comma => some (.value (.array (items ++ [value]) :: stack))
  | .array items :: stack,.closeBracket => some (.after (.array (items ++ [value])) stack)
  | .object members key :: stack,.comma => some (.member (members.set key value) false stack)
  | .object members key :: stack,.closeBrace =>
    some (.after (.object (members.set key value).entries) stack)
  | _,_ => none

def Parser.step : Parser → Token → Option Parser
  | .value stack,token => startValue stack token
  | .item stack,.closeBracket => some (.after (.array []) stack)
  | .item stack,token => startValue (.array [] :: stack) token
  | .member _ true stack,.closeBrace => some (.after (.object []) stack)
  | .member members _ stack,.scalar (.string key) => some (.colon members key stack)
  | .member _ _ _,_ => none
  | .colon members key stack,.colon => some (.value (.object members key :: stack))
  | .colon _ _ _,_ => none
  | .after complete stack,token => endValue complete stack token

def Parser.run (parser : Parser) (tokens : List Token) : Option Parser :=
  tokens.foldlM Parser.step parser

def Parser.result : Parser → Option Value
  | .after complete [] => some complete
  | _ => none

/-- `JSON.parse(text)`; nothing where it throws. -/
def parse (text : Units) : Option Value := do
  let tokens ← tokensOf text
  let parser ← (Parser.value []).run tokens
  parser.result

mutual
/-- `JSON.stringify`, of values whose numbers are integers. `undefined` and its like are dropped
from an object and `null` in an array. -/
def stringify : Value → Units
  | .null => ofString "null"
  | .bool value => renderBool value
  | .number n => stringifyNumber n
  | .string text => stringifyText text
  | .array items => 0x5B :: (List.intercalate [0x2C] (stringifyItems items) ++ [0x5D])
  | .object entries => 0x7B :: (List.intercalate [0x2C] (stringifyEntries entries) ++ [0x7D])
  | .other _ => ofString "null"
def stringifyItems : List Value → List Units
  | [] => []
  | item :: rest => stringify item :: stringifyItems rest
def stringifyEntries : List (Units × Value) → List Units
  | [] => []
  | (_,.other _) :: rest => stringifyEntries rest
  | (key,value) :: rest => (stringifyText key ++ 0x3A :: stringify value) :: stringifyEntries rest
end

theorem scanText_length (scanned : scanText rest = some (text,after)) :
    text.length + after.length < rest.length := by
  fun_induction scanText rest generalizing text after with
  | case1 => simp at scanned
  | case2 rest =>
    cases scanned
    simp
  | case3 a b c d rest _ ih =>
    simp only [bind_eq_bind,Option.pure_def,bind_eq_some_iff] at scanned
    obtain ⟨unit,_,found,inner,same⟩ := scanned
    cases same
    have := ih inner
    simp only [List.length_cons]
    omega
  | case4 v rest _ _ ih =>
    simp only [bind_eq_bind,Option.pure_def,bind_eq_some_iff] at scanned
    obtain ⟨unit,_,found,inner,same⟩ := scanned
    cases same
    have := ih inner
    simp only [List.length_cons]
    omega
  | case5 => simp at scanned
  | case6 => simp at scanned
  | case7 u rest _ _ _ ih =>
    simp only [bind_eq_bind,Option.pure_def,bind_eq_some_iff] at scanned
    obtain ⟨found,inner,same⟩ := scanned
    cases same
    have := ih inner
    simp only [List.length_cons]
    omega

theorem spanDigits_length (rest : Units) : (spanDigits rest).2.length ≤ rest.length :=
  (List.dropWhile_sublist isDigit).length_le

theorem scanFraction_length
    (scanned : scanFraction rest = some (digits,after)) : after.length ≤ rest.length := by
  unfold scanFraction at scanned
  split at scanned
  · rename_i rest
    have shorter := spanDigits_length rest
    dsimp only at scanned
    split at scanned <;> cases scanned
    exact Nat.le_succ_of_le shorter
  · cases scanned
    exact Nat.le_refl _

theorem spanSign_length (rest : Units) : (spanSign rest).2.length ≤ rest.length := by
  unfold spanSign
  split <;> simp

theorem scanExponent_length
    (scanned : scanExponent rest = some (exponent,after)) : after.length ≤ rest.length := by
  unfold scanExponent at scanned
  split at scanned
  · cases scanned
    exact Nat.le_refl _
  · rename_i u rest
    split at scanned
    · dsimp only at scanned
      have shorter := (spanDigits_length (spanSign rest).2).trans (spanSign_length rest)
      split at scanned <;> cases scanned
      exact Nat.le_succ_of_le shorter
    · cases scanned
      exact Nat.le_refl _

theorem spanMinus_length (rest : Units) : (spanMinus rest).2.length ≤ rest.length := by
  unfold spanMinus
  split <;> simp

theorem scanNumber_length (scanned : scanNumber rest = some (value,after)) : after.length < rest.length := by
  simp only [scanNumber,bind_eq_bind,Option.pure_def,bind_eq_some_iff] at scanned
  obtain ⟨whole,digits,fraction,point,exponent,power,same⟩ := scanned
  cases same
  calc exponent.2.length ≤ fraction.2.length := scanExponent_length power
    _ ≤ whole.2.length := scanFraction_length point
    _ < (spanMinus rest).2.length := integerDigits_length digits
    _ ≤ rest.length := spanMinus_length rest

theorem scanScalar_length (scanned : scanScalar rest = some (value,after)) : after.length < rest.length := by
  unfold scanScalar at scanned
  split at scanned
  · rename_i found
    cases scanned
    exact startsWith_length found (by decide)
  split at scanned
  · rename_i found
    cases scanned
    exact startsWith_length found (by decide)
  split at scanned
  · rename_i found
    cases scanned
    exact startsWith_length found (by decide)
  · exact scanNumber_length scanned

theorem nextToken_length (found : nextToken rest = some (token,after)) : after.length < rest.length := by
  unfold nextToken at found
  split at found
  case h_7 rest =>
    obtain ⟨⟨text,last⟩,scanned,same⟩ := map_eq_some_iff.mp found
    cases same
    have := scanText_length scanned
    simp only [List.length_cons]
    omega
  case h_8 rest =>
    obtain ⟨⟨value,last⟩,scanned,same⟩ := map_eq_some_iff.mp found
    cases same
    exact scanScalar_length scanned
  all_goals cases found; simp

/-- Fuel above the length changes nothing. -/
theorem scanTokens_enough (enough : rest.length ≤ fuel) :
    scanTokens fuel rest = tokensOf rest := by
  suffices step : ∀ fuel rest, rest.length ≤ fuel → scanTokens (fuel + 1) rest = scanTokens fuel rest by
    induction fuel with
    | zero =>
      obtain rfl := List.eq_nil_of_length_eq_zero (Nat.le_zero.mp enough)
      rfl
    | succ fuel ih =>
      rcases Nat.lt_or_eq_of_le enough with less | same
      · rw [step fuel rest (Nat.le_of_lt_succ less),ih (Nat.le_of_lt_succ less)]
      · rw [tokensOf,same]
  intro fuel
  induction fuel with
  | zero =>
    intro rest enough
    obtain rfl := List.eq_nil_of_length_eq_zero (Nat.le_zero.mp enough)
    rfl
  | succ fuel ih =>
    intro rest enough
    rw [scanTokens,scanTokens]
    have skipped := whitespace_length rest
    cases solid : whitespace rest with
    | nil => rfl
    | cons u solid' =>
      dsimp only
      cases found : nextToken (u :: solid') with
      | none => rfl
      | some next =>
        have shorter := nextToken_length (show nextToken (u :: solid') = some (next.1,next.2) from found)
        rw [solid] at skipped
        simp only [bind_eq_bind,bind_some]
        rw [ih next.2 (by omega)]

theorem tokensOf_of_next (solid : whitespace rest = rest) (found : nextToken rest = some (token,after)) :
    tokensOf rest = (tokensOf after).map (token :: ·) := by
  have shorter := nextToken_length found
  obtain ⟨fuel,length⟩ : ∃ fuel, rest.length = fuel + 1 := ⟨rest.length - 1,by omega⟩
  rw [tokensOf,length,scanTokens,solid]
  cases rest with
  | nil => simp at length
  | cons u rest =>
    dsimp only
    rw [found,bind_eq_bind,bind_some,scanTokens_enough (by dsimp only; omega)]
    cases tokensOf after <;> rfl

end GjcRemote.JsonText
