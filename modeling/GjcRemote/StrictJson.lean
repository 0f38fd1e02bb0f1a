import GjcRemote.Utf16
import Mathlib.Data.List.Sort

/-! The strict JSON value, its validation and its canonical spelling, from
`shared/strict-json.js`. A value is what a JavaScript caller can pass: everything
that is not JSON is one of the `other` constructors and is refused. -/
namespace GjcRemote.StrictJson

open Utf16

/-- A double: an exact integer, the negative zero, or any other one. -/
inductive Number where
  | int (value : Int)
  | negativeZero
  | other (tag : Nat)
  deriving DecidableEq, Repr

/-- `object` lists own enumerable properties in insertion order. `other` stands for
undefined, functions, symbols, big integers and instances of a class. -/
inductive Value where
  | null
  | bool (value : Bool)
  | number (value : Number)
  | string (value : Units)
  | array (items : List Value)
  | object (entries : List (Units × Value))
  | other (tag : Nat)
  deriving Repr

inductive ErrorKind where
  | typeError | rangeError | syntaxError
  deriving DecidableEq, Repr

structure JsError where
  kind : ErrorKind
  message : String
  deriving DecidableEq, Repr

def typeError (message : String) : JsError := ⟨.typeError,message⟩
def rangeError (message : String) : JsError := ⟨.rangeError,message⟩
def syntaxError (message : String) : JsError := ⟨.syntaxError,message⟩

structure Limits where
  maxBytes : Nat
  maxDepth : Nat
  maxNodes : Nat

def STRICT_JSON_LIMITS : Limits := ⟨1024 * 1024,64,10000⟩

def maxSafeInteger : Int := 9007199254740991

def isSafeInteger : Number → Bool
  | .int n => -maxSafeInteger ≤ n && n ≤ maxSafeInteger
  | .negativeZero => true
  | .other _ => false

def utf8Compare (left right : Units) : Ordering := compare (utf8 left) (utf8 right)

/-- `/^[0-9a-f]{64}$/` on a string. -/
def isHex64 (units : Units) : Bool :=
  units.length == 64 && units.all fun u => (0x30 ≤ u && u ≤ 0x39) || (0x61 ≤ u && u ≤ 0x66)

/-- C0 and C1 controls, DEL and the two line separators. -/
def forbiddenControl (code : UInt16) : Bool :=
  code ≤ 0x1f || (0x7f ≤ code && code ≤ 0x9f) || code == 0x2028 || code == 0x2029

/-- The scan shared by `assertStrictText` and the relaxed value check of the
parser; `allowed` names the controls the latter lets through. -/
def checkText (name : String) (allowed : UInt16 → Bool) : Units → Except JsError Unit
  | [] => .ok ()
  | [code] =>
    if forbiddenControl code && !allowed code then
      .error (syntaxError s!"{name} contains a forbidden control character")
    else if isHigh code || isLow code then
      .error (syntaxError s!"{name} contains an unpaired surrogate")
    else .ok ()
  | code :: next :: rest =>
    if forbiddenControl code && !allowed code then
      .error (syntaxError s!"{name} contains a forbidden control character")
    else if isHigh code || isLow code then
      if isHigh code && isLow next then checkText name allowed rest
      else .error (syntaxError s!"{name} contains an unpaired surrogate")
    else checkText name allowed (next :: rest)

/-- The default `maxUtf8Bytes` is no limit. -/
def assertStrictText (value : Units) (name : String) (maxUtf8Bytes : Option Nat) :
    Except JsError Unit :=
  if maxUtf8Bytes.any fun limit => limit < byteLength value then
    .error (rangeError s!"{name} exceeds its byte limit")
  else checkText name (fun _ => false) value

/-- The two counters every value is charged against before it is looked at. -/
def enter (limits : Limits) (depth nodes : Nat) : Except JsError Nat :=
  if limits.maxDepth < depth then .error (rangeError "JSON nesting exceeds its depth limit")
  else if limits.maxNodes < nodes + 1 then .error (rangeError "JSON exceeds its node limit")
  else .ok (nodes + 1)

mutual
def assertJsonValue (limits : Limits) : Value → Nat → Nat → Except JsError Nat
  | .null, depth, nodes | .bool _, depth, nodes => enter limits depth nodes
  | .string text, depth, nodes => do
    let nodes ← enter limits depth nodes
    assertStrictText text "JSON string" none
    return nodes
  | .number n, depth, nodes => do
    let nodes ← enter limits depth nodes
    if isSafeInteger n then return nodes
    else throw (typeError "JSON numbers must be safe integers")
  | .array items, depth, nodes => do
    let nodes ← enter limits depth nodes
    assertItems limits items (depth + 1) nodes
  | .object entries, depth, nodes => do
    let nodes ← enter limits depth nodes
    assertEntries limits entries (depth + 1) nodes
  | .other _, depth, nodes => do
    let _ ← enter limits depth nodes
    throw (typeError "JSON objects must be plain objects")
def assertItems (limits : Limits) : List Value → Nat → Nat → Except JsError Nat
  | [], _, nodes => .ok nodes
  | item :: rest, depth, nodes => do
    let nodes ← assertJsonValue limits item depth nodes
    assertItems limits rest depth nodes
def assertEntries (limits : Limits) : List (Units × Value) → Nat → Nat → Except JsError Nat
  | [], _, nodes => .ok nodes
  | (key,value) :: rest, depth, nodes => do
    assertStrictText key "JSON object key" none
    let nodes ← assertJsonValue limits value depth nodes
    assertEntries limits rest depth nodes
end

def hexDigit (n : Nat) : UInt16 :=
  if n < 10 then UInt16.ofNat (0x30 + n) else UInt16.ofNat (0x57 + n)

def unicodeEscape (u : UInt16) : Units :=
  [0x5C,0x75,hexDigit (u.toNat / 4096),hexDigit (u.toNat / 256 % 16),
    hexDigit (u.toNat / 16 % 16),hexDigit (u.toNat % 16)]

/-- One code unit inside `JSON.stringify` of a string, surrogates apart. -/
def escapeUnit (u : UInt16) : Units :=
  if u = 0x22 then [0x5C,0x22]
  else if u = 0x5C then [0x5C,0x5C]
  else if u = 0x08 then [0x5C,0x62]
  else if u = 0x0C then [0x5C,0x66]
  else if u = 0x0A then [0x5C,0x6E]
  else if u = 0x0D then [0x5C,0x72]
  else if u = 0x09 then [0x5C,0x74]
  else if u < 0x20 then unicodeEscape u
  else [u]

def escapeText : Units → Units
  | [] => []
  | [u] => if isHigh u || isLow u then unicodeEscape u else escapeUnit u
  | u :: v :: rest =>
    if isHigh u && isLow v then u :: v :: escapeText rest
    else if isHigh u || isLow u then unicodeEscape u ++ escapeText (v :: rest)
    else escapeUnit u ++ escapeText (v :: rest)

/-- `JSON.stringify` of a string. -/
def stringifyText (text : Units) : Units := 0x22 :: (escapeText text ++ [0x22])

/-- `JSON.stringify` of a number; other doubles never reach it. -/
def stringifyNumber : Number → Units
  | .int n => encode (toString n).toList
  | .negativeZero => [0x30]
  | .other _ => []

/-- `Object.keys(item).sort(utf8Compare)`, carrying each key's value along. -/
def sortEntries {α : Type} (entries : List (Units × α)) : List (Units × α) :=
  entries.insertionSort fun a b => (utf8Compare a.1 b.1).isLE

def renderBool (value : Bool) : Units := if value then ofString "true" else ofString "false"

mutual
def render : Value → Units
  | .null => ofString "null"
  | .bool value => renderBool value
  | .number n => stringifyNumber n
  | .string text => stringifyText text
  | .array items => 0x5B :: (List.intercalate [0x2C] (renderItems items) ++ [0x5D])
  | .object entries =>
    0x7B :: (List.intercalate [0x2C]
      ((sortEntries (renderEntries entries)).map fun e => stringifyText e.1 ++ 0x3A :: e.2) ++ [0x7D])
  | .other _ => []
def renderItems : List Value → List Units
  | [] => []
  | item :: rest => render item :: renderItems rest
/-- Each key with the spelling of its value, still in insertion order. -/
def renderEntries : List (Units × Value) → List (Units × Units)
  | [] => []
  | (key,value) :: rest => (key,render value) :: renderEntries rest
end

def canonicalJson (value : Value) (limits : Limits) : Except JsError Units := do
  let _ ← assertJsonValue limits value 0 0
  return render value

def canonicalJsonBytes (value : Value) (limits : Limits) : Except JsError (List UInt8) := do
  let text ← canonicalJson value limits
  return utf8 text

end GjcRemote.StrictJson
