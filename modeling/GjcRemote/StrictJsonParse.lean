import GjcRemote.StrictJson

/-! The hand-written parser of `shared/strict-json.js`. A cursor holds the node
counter and `source.slice(at)`; `fail` recovers `at` from what is left. The
recursion carries fuel, and `parseValue_total` shows that the fuel the entry point
hands out is never used up. -/
namespace GjcRemote.StrictJson

open Utf16

/-- `allowedValueControlCodes`, when the option is given. -/
structure Options where
  allowedValueControlCodes : Option (List UInt16)

structure Context where
  source : Units
  limits : Limits
  options : Options

structure Cursor where
  nodes : Nat
  rest : Units

inductive Stop where
  | thrown (error : JsError)
  | outOfFuel

/-- `fail`: the offset is that of the text before `at`, which stops at the end. -/
def fail (ctx : Context) (rest : Units) (message : String) : JsError :=
  let position := byteLength (ctx.source.take (ctx.source.length - rest.length))
  syntaxError s!"{message} at byte {position}"

def isWhitespace (u : UInt16) : Bool := u == 0x20 || u == 0x09 || u == 0x0A || u == 0x0D

def whitespace : Units → Units
  | [] => []
  | u :: rest => if isWhitespace u then whitespace rest else u :: rest

/-- The scanning loop of `string`, after the opening quote: the raw token up to and
with its closing quote, and what follows it. -/
def scanString (ctx : Context) : Units → Except JsError (Units × Units)
  | [] => .error (fail ctx [] "unterminated string")
  | u :: rest =>
    if u = 0x22 then .ok ([u],rest)
    else if u = 0x5C then
      match rest with
      | [] => .error (fail ctx [] "unterminated string")
      | v :: rest => do
        let (token,rest) ← scanString ctx rest
        return (u :: v :: token,rest)
    else if u ≤ 0x1f then .error (fail ctx rest "unescaped control character")
    else do
      let (token,rest) ← scanString ctx rest
      return (u :: token,rest)

def hexValue (u : UInt16) : Option Nat :=
  if 0x30 ≤ u && u ≤ 0x39 then some (u.toNat - 0x30)
  else if 0x61 ≤ u && u ≤ 0x66 then some (u.toNat - 0x57)
  else if 0x41 ≤ u && u ≤ 0x46 then some (u.toNat - 0x37)
  else none

def hexUnit (a b c d : UInt16) : Option UInt16 := do
  let a ← hexValue a
  let b ← hexValue b
  let c ← hexValue c
  let d ← hexValue d
  return UInt16.ofNat (((a * 16 + b) * 16 + c) * 16 + d)

def simpleEscape (u : UInt16) : Option UInt16 :=
  if u = 0x22 then some 0x22
  else if u = 0x5C then some 0x5C
  else if u = 0x2F then some 0x2F
  else if u = 0x62 then some 0x08
  else if u = 0x66 then some 0x0C
  else if u = 0x6E then some 0x0A
  else if u = 0x72 then some 0x0D
  else if u = 0x74 then some 0x09
  else none

/-- `JSON.parse` of a string token, after its opening quote. -/
def jsonParseText : Units → Option Units
  | [] => none
  | u :: rest =>
    if u = 0x22 then if rest = [] then some [] else none
    else if u = 0x5C then
      match rest with
      | 0x75 :: a :: b :: c :: d :: rest => do
        let unit ← hexUnit a b c d
        let text ← jsonParseText rest
        return unit :: text
      | v :: rest => do
        let unit ← simpleEscape v
        let text ← jsonParseText rest
        return unit :: text
      | [] => none
    else if u < 0x20 then none
    else do
      let text ← jsonParseText rest
      return u :: text

/-- The check of a decoded string: keys are always strict, values may be relaxed. -/
def checkDecoded (options : Options) (isKey : Bool) (decoded : Units) : Except JsError Unit :=
  match options.allowedValueControlCodes with
  | none => assertStrictText decoded "JSON string" none
  | some allowed =>
    if isKey then assertStrictText decoded "JSON string" none
    else checkText "JSON string" (fun code => allowed.contains code) decoded

def parseString (ctx : Context) (isKey : Bool) : Units → Except JsError (Units × Units)
  | 0x22 :: rest => do
    let (token,after) ← scanString ctx rest
    match jsonParseText token with
    | none => throw (fail ctx after "invalid string")
    | some decoded => do
      checkDecoded ctx.options isKey decoded
      return (decoded,after)
  | rest => .error (fail ctx rest "expected string")

def isDigit (u : UInt16) : Bool := 0x30 ≤ u && u ≤ 0x39

/-- The digits of `0|[1-9][0-9]*` and what follows them. -/
def integerDigits (rest : Units) : Option (Units × Units) :=
  match rest with
  | [] => none
  | u :: after =>
    if u = 0x30 then some ([u],after)
    else if isDigit u then some (u :: after.takeWhile isDigit,after.dropWhile isDigit)
    else none

/-- The lookahead `(?![.eE0-9])`. -/
def endsNumber : Units → Bool
  | [] => true
  | u :: _ => !(u = 0x2E || u = 0x65 || u = 0x45 || isDigit u)

/-- The number regular expression: its sign, its digits and what follows. A shorter
run of digits would be followed by a digit, so only the longest can match. -/
def numberToken (rest : Units) : Option (Bool × Units × Units) :=
  let (negative,unsigned) := match rest with
    | 0x2D :: after => (true,after)
    | _ => (false,rest)
  match integerDigits unsigned with
  | none => none
  | some (digits,after) => if endsNumber after then some (negative,digits,after) else none

/-- `Number(token)`. Above the safe range a double rounds, but stays above it. -/
def digitsValue (digits : Units) : Nat := Nat.ofDigitChars 10 (decode digits) 0

def signedInteger (negative : Bool) (magnitude : Nat) : Number :=
  .int (if negative then -(magnitude : Int) else magnitude)

def parseNumber (ctx : Context) (cur : Cursor) (negative : Bool) (digits after : Units) :
    Except JsError (Value × Cursor) :=
  if negative && digits == [0x30] then .error (fail ctx cur.rest "negative zero")
  else if isSafeInteger (signedInteger negative (digitsValue digits)) then
    .ok (.number (signedInteger negative (digitsValue digits)),{cur with rest := after})
  else .error (fail ctx after "unsafe number")

/-- `source.startsWith(literal, at)`. -/
def startsWith (literal : String) (rest : Units) : Option Units :=
  if (ofString literal).isPrefixOf rest then some (rest.drop (ofString literal).length) else none

/-- The tail of `value`: a number, or else one of the three literals in this order. -/
def parseScalar (ctx : Context) (cur : Cursor) : Except JsError (Value × Cursor) :=
  match numberToken cur.rest with
  | some (negative,digits,after) => parseNumber ctx cur negative digits after
  | none =>
    match startsWith "true" cur.rest with
    | some after => .ok (.bool true,{cur with rest := after})
    | none =>
      match startsWith "false" cur.rest with
      | some after => .ok (.bool false,{cur with rest := after})
      | none =>
        match startsWith "null" cur.rest with
        | some after => .ok (.null,{cur with rest := after})
        | none => .error (fail ctx cur.rest "expected value")

def attempt {α : Type} (result : Except JsError α) : Except Stop α := result.mapError .thrown

mutual
/-- `value(depth)`. -/
def parseValue (ctx : Context) : Nat → Nat → Cursor → Except Stop (Value × Cursor)
  | 0, _, _ => .error .outOfFuel
  | fuel + 1, depth, cur => do
    let nodes ← attempt (enter ctx.limits depth cur.nodes)
    match whitespace cur.rest with
    | 0x22 :: rest => do
      let (text,rest) ← attempt (parseString ctx false (0x22 :: rest))
      return (.string text,⟨nodes,rest⟩)
    | 0x7B :: rest =>
      match whitespace rest with
      | 0x7D :: rest => return (.object [],⟨nodes,rest⟩)
      | rest => parseMembers ctx fuel depth [] ⟨nodes,rest⟩
    | 0x5B :: rest =>
      match whitespace rest with
      | 0x5D :: rest => return (.array [],⟨nodes,rest⟩)
      | rest => parseItems ctx fuel depth [] ⟨nodes,rest⟩
    | rest => attempt (parseScalar ctx ⟨nodes,rest⟩)
/-- The loop over an object's members; `members` are those read so far. -/
def parseMembers (ctx : Context) : Nat → Nat → List (Units × Value) → Cursor →
    Except Stop (Value × Cursor)
  | 0, _, _, _ => .error .outOfFuel
  | fuel + 1, depth, members, cur => do
    let (key,rest) ← attempt (parseString ctx true (whitespace cur.rest))
    match whitespace rest with
    | 0x3A :: rest => do
      if (members.map Prod.fst).contains key then
        throw (.thrown (fail ctx rest "duplicate object key"))
      let (value,cur) ← parseValue ctx fuel (depth + 1) ⟨cur.nodes,rest⟩
      match whitespace cur.rest with
      | 0x7D :: rest => return (.object (members ++ [(key,value)]),⟨cur.nodes,rest⟩)
      | 0x2C :: rest => parseMembers ctx fuel depth (members ++ [(key,value)]) ⟨cur.nodes,rest⟩
      | rest => throw (.thrown (fail ctx (rest.drop 1) "expected comma"))
    | rest => throw (.thrown (fail ctx (rest.drop 1) "expected colon"))
/-- The loop over an array's items; `items` are those read so far. -/
def parseItems (ctx : Context) : Nat → Nat → List Value → Cursor → Except Stop (Value × Cursor)
  | 0, _, _, _ => .error .outOfFuel
  | fuel + 1, depth, items, cur => do
    let (value,cur) ← parseValue ctx fuel (depth + 1) cur
    match whitespace cur.rest with
    | 0x5D :: rest => return (.array (items ++ [value]),⟨cur.nodes,rest⟩)
    | 0x2C :: rest => parseItems ctx fuel depth (items ++ [value]) ⟨cur.nodes,rest⟩
    | rest => throw (.thrown (fail ctx (rest.drop 1) "expected comma"))
end

theorem whitespace_length (rest : Units) : (whitespace rest).length ≤ rest.length := by
  induction rest with
  | nil => simp [whitespace]
  | cons u rest ih =>
    rw [whitespace]
    split
    · exact Nat.le_succ_of_le ih
    · exact Nat.le_refl _

theorem scanString_length (scanned : scanString ctx rest = .ok (token,after)) : after.length < rest.length := by
  fun_induction scanString ctx rest generalizing token after with
  | case1 => simp at scanned
  | case2 rest => simp at scanned; simp [scanned]
  | case3 => simp at scanned
  | case4 v rest _ ih =>
    simp only [bind,Except.bind,pure,Except.pure] at scanned
    split at scanned
    · simp at scanned
    · rename_i found eq
      have := ih eq
      cases scanned
      simp only [List.length_cons]
      omega
  | case5 => simp at scanned
  | case6 u rest _ _ _ ih =>
    simp only [bind,Except.bind,pure,Except.pure] at scanned
    split at scanned
    · simp at scanned
    · rename_i found eq
      have := ih eq
      cases scanned
      simp only [List.length_cons]
      omega

theorem parseString_length
    (parsed : parseString ctx isKey rest = .ok (text,after)) : after.length < rest.length := by
  unfold parseString at parsed
  split at parsed
  · simp only [bind,Except.bind] at parsed
    split at parsed
    · simp at parsed
    · rename_i found eq
      have scanned := scanString_length eq
      split at parsed
      · simp [throw,throwThe,MonadExceptOf.throw] at parsed
      · split at parsed
        · simp at parsed
        · cases parsed
          simp only [List.length_cons]
          omega
  · simp at parsed

theorem integerDigits_length
    (found : integerDigits rest = some (digits,after)) : after.length < rest.length := by
  unfold integerDigits at found
  split at found
  · simp at found
  · rename_i u tail
    split at found
    · cases found; simp
    · split at found
      · cases found
        have := (List.dropWhile_sublist isDigit (l := tail)).length_le
        simp only [List.length_cons]
        omega
      · simp at found

theorem numberToken_length
    (found : numberToken rest = some (negative,digits,after)) : after.length < rest.length := by
  unfold numberToken at found
  split at found
  rename_i sign unsigned eq
  have shorter : unsigned.length ≤ rest.length := by
    split at eq <;> cases eq
    · simp
    · exact Nat.le_refl _
  split at found
  · simp at found
  · rename_i digits' after' parsed
    split at found
    · cases found
      exact Nat.lt_of_lt_of_le (integerDigits_length parsed) shorter
    · simp at found

theorem startsWith_length (found : startsWith literal rest = some after) (nonempty : ofString literal ≠ []) :
    after.length < rest.length := by
  unfold startsWith at found
  split at found
  · rename_i isPrefix
    have bound := (List.isPrefixOf_iff_prefix.mp isPrefix).length_le
    have positive := List.length_pos_iff.mpr nonempty
    cases found
    rw [List.length_drop]
    omega
  · simp at found

theorem parseScalar_length (parsed : parseScalar ctx cur = .ok (value,next)) :
    next.rest.length < cur.rest.length := by
  unfold parseScalar at parsed
  split at parsed
  · rename_i negative digits after token
    have shorter := numberToken_length token
    unfold parseNumber at parsed
    split at parsed
    · simp at parsed
    · split at parsed <;> cases parsed
      exact shorter
  · split at parsed
    · rename_i after found
      cases parsed
      exact startsWith_length found (by decide)
    · split at parsed
      · rename_i after found
        cases parsed
        exact startsWith_length found (by decide)
      · split at parsed
        · rename_i after found
          cases parsed
          exact startsWith_length found (by decide)
        · simp at parsed

/-- Some result that is not exhaustion, and on success less than `bound` left over. -/
def Settled (bound : Nat) : Except Stop (Value × Cursor) → Prop
  | .ok (_,next) => next.rest.length < bound
  | .error (.thrown _) => True
  | .error .outOfFuel => False

theorem Settled.mono (settled : Settled bound result) (le : bound ≤ larger) : Settled larger result := by
  match result, settled with
  | .ok (_,_), settled => exact Nat.lt_of_lt_of_le settled le
  | .error (.thrown _), _ => trivial

/-- Sequencing after a part without fuel. -/
theorem settled_attempt {first : Except JsError α} {next : α → Except Stop (Value × Cursor)}
    (after : ∀ a, first = .ok a → Settled bound (next a)) :
    Settled bound (attempt first >>= next) := by
  cases first with
  | error e => trivial
  | ok a => exact after a rfl

/-- Sequencing after a recursive call. -/
theorem settled_bind {inner : Nat} (settled : Settled inner first)
    (after : ∀ value cur, cur.rest.length < inner → Settled outer (next (value,cur))) :
    Settled outer (first >>= next) := by
  match first, settled with
  | .ok (value,cur), settled => exact after value cur settled
  | .error (.thrown _), _ => trivial

theorem parse_total (ctx : Context) (fuel : Nat) :
    (∀ depth cur, 2 * cur.rest.length + 1 ≤ fuel → Settled cur.rest.length (parseValue ctx fuel depth cur)) ∧
    (∀ depth members cur, 2 * cur.rest.length + 2 ≤ fuel →
      Settled cur.rest.length (parseMembers ctx fuel depth members cur)) ∧
    (∀ depth items cur, 2 * cur.rest.length + 2 ≤ fuel →
      Settled cur.rest.length (parseItems ctx fuel depth items cur)) := by
  induction fuel with
  | zero => exact ⟨fun _ _ h => by omega,fun _ _ _ h => by omega,fun _ _ _ h => by omega⟩
  | succ fuel ih =>
    obtain ⟨values,objects,arrays⟩ := ih
    refine ⟨?_,?_,?_⟩
    · intro depth cur enough
      refine settled_attempt fun nodes _ => ?_
      have skipped := whitespace_length cur.rest
      split
      · rename_i rest eq
        refine settled_attempt fun ⟨text,after⟩ parsed => ?_
        have := parseString_length parsed
        rw [← eq] at this
        exact Nat.lt_of_lt_of_le this skipped
      · rename_i rest eq
        have shorter := whitespace_length rest
        rw [eq,List.length_cons] at skipped
        split
        · rename_i after eq'
          rw [eq',List.length_cons] at shorter
          change after.length < _
          omega
        · refine (objects depth [] _ ?_).mono ?_ <;> dsimp only <;> omega
      · rename_i rest eq
        have shorter := whitespace_length rest
        rw [eq,List.length_cons] at skipped
        split
        · rename_i after eq'
          rw [eq',List.length_cons] at shorter
          change after.length < _
          omega
        · refine (arrays depth [] _ ?_).mono ?_ <;> dsimp only <;> omega
      · cases parsed : parseScalar ctx ⟨nodes,whitespace cur.rest⟩ with
        | error => trivial
        | ok result => exact Nat.lt_of_lt_of_le (parseScalar_length parsed) skipped
    · intro depth members cur enough
      refine settled_attempt fun ⟨key,rest⟩ parsed => ?_
      have skipped := whitespace_length cur.rest
      have keyed := parseString_length parsed
      have spaced := whitespace_length rest
      dsimp only
      split
      · rename_i after eq
        rw [eq,List.length_cons] at spaced
        split
        · trivial
        · refine settled_bind (values (depth + 1) ⟨cur.nodes,after⟩ (by dsimp only; omega)) ?_
          intro value next shorter
          dsimp only at shorter ⊢
          have tail := whitespace_length next.rest
          split
          · rename_i last eq'
            rw [eq',List.length_cons] at tail
            change last.length < _
            omega
          · rename_i last eq'
            rw [eq',List.length_cons] at tail
            refine (objects depth _ _ ?_).mono ?_ <;> dsimp only <;> omega
          · trivial
      · trivial
    · intro depth items cur enough
      refine settled_bind (values (depth + 1) cur (by omega)) ?_
      intro value next shorter
      dsimp only
      have tail := whitespace_length next.rest
      split
      · rename_i last eq'
        rw [eq',List.length_cons] at tail
        change last.length < _
        omega
      · rename_i last eq'
        rw [eq',List.length_cons] at tail
        refine (arrays depth _ _ ?_).mono ?_ <;> dsimp only <;> omega
      · trivial

theorem parseValue_total (ctx : Context) (depth : Nat) (cur : Cursor) :
    parseValue ctx (2 * cur.rest.length + 1) depth cur ≠ .error .outOfFuel := by
  intro exhausted
  have settled := (parse_total ctx _).1 depth cur (Nat.le_refl _)
  rw [exhausted] at settled
  exact settled

def settle {α : Type} (result : Except Stop α) (total : result ≠ .error .outOfFuel) :
    Except JsError α :=
  match result with
  | .ok value => .ok value
  | .error (.thrown error) => .error error
  | .error .outOfFuel => absurd rfl total

def parseStrictJson (source : Units) (limits : Limits) (options : Options) :
    Except JsError Value := do
  if limits.maxBytes < byteLength source then
    throw (rangeError "JSON exceeds its byte limit")
  let ctx : Context := ⟨source,limits,options⟩
  let (value,cur) ← settle (parseValue ctx (2 * source.length + 1) 0 ⟨0,source⟩)
    (parseValue_total ctx 0 ⟨0,source⟩)
  match whitespace cur.rest with
  | [] => return value
  | rest => throw (fail ctx rest "trailing JSON data")

def parseStrictJsonBytes (bytes : List UInt8) (limits : Limits) (options : Options) :
    Except JsError Value := do
  if limits.maxBytes < bytes.length then throw (rangeError "JSON exceeds its byte limit")
  if [0xEF,0xBB,0xBF].isPrefixOf bytes then throw (syntaxError "JSON must not contain a BOM")
  match utf8Decode bytes with
  | none => throw (syntaxError "JSON is not valid UTF-8")
  | some source => parseStrictJson source limits options

def parseCanonicalJsonBytes (bytes : List UInt8) (limits : Limits) : Except JsError Value := do
  let value ← parseStrictJsonBytes bytes limits ⟨none⟩
  let canonical ← canonicalJsonBytes value limits
  if bytes ≠ canonical then throw (syntaxError "JSON is not canonically encoded")
  return value

end GjcRemote.StrictJson
