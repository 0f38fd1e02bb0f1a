import GjcRemote.MappingEnvelope
import GjcRemote.PrefixOrder

/-! The manifests of `shared/deployment-envelope.js`: the payload of a bundle and its tree of paths,
the formats a release reads and writes, and the check of a transition between releases. -/
namespace GjcRemote.DeploymentEnvelope

open Utf16 StrictJson Record Envelope
open ServiceEnvelope (isDecimal isAlphanumeric isHexDigit toText)
open MappingEnvelope (splitOn isSlash isBackslash isDotSegment isLetter isLineTerminator)

structure DeploymentLimits where
  manifestBytes : Nat
  archiveBytes : Nat
  unpackedPayloadBytes : Nat
  inventoryBytes : Nat
  payloadEntries : Nat
  pathBytes : Nat
  pathSegments : Nat
  selectorBytes : Nat
  formatIdBytes : Nat
  formatsPerDomain : Nat

def DEPLOYMENT_ENVELOPE_LIMITS : DeploymentLimits :=
  ⟨1024 * 1024,1024 * 1024 * 1024,2 * 1024 * 1024 * 1024,32 * 1024 * 1024,100000,4096,64,128,128,256⟩

def INVENTORY_CANONICAL_LIMITS : Limits :=
  ⟨DEPLOYMENT_ENVELOPE_LIMITS.inventoryBytes,16,DEPLOYMENT_ENVELOPE_LIMITS.payloadEntries * 6 + 32⟩

def MANIFEST_CANONICAL_LIMITS : Limits := ⟨DEPLOYMENT_ENVELOPE_LIMITS.manifestBytes,32,10000⟩

def APPLICATION_BUNDLE_INVENTORY_PATH : String := "bundle-files.json"

def APPLICATION_DEPLOYMENT_REPOSITORY : String := "kogangdon/gjc-remote"

structure Casing where
  toLowerCase : Units → Units
  toUpperCase : Units → Units

def fail (message : String) : JsError := failure "DEPLOYMENT_ENVELOPE_INVALID" message

/-- `/^[A-Za-z0-9][A-Za-z0-9…]\x7b0,most\x7d$/`. -/
def isIdentifier (extra : String) (most : Nat) : Units → Bool
  | first :: rest => isAlphanumeric first && rest.length ≤ most &&
      rest.all fun u => isAlphanumeric u || (ofString extra).contains u
  | [] => false

def SELECTOR : Units → Bool := isIdentifier "._-" 127

def KEY_ID : Units → Bool := isIdentifier "._-" 127

def FORMAT_ID : Units → Bool := isIdentifier "._:@/-" 127

def isWire : Units → Bool := isIdentifier "_-" 63

/-- `0|[1-9][0-9]*`. -/
def isNumeral : Units → Bool
  | [0x30] => true
  | first :: rest => isDecimal first && first != 0x30 && rest.all isDecimal
  | [] => false

/-- A version of three numerals, with the parts of a prerelease after a dash. -/
def SEMVER (text : Units) : Bool :=
  let core := text.takeWhile fun u => u != 0x2d
  let numerals := splitOn (fun u => u == 0x2e) core
  numerals.length = 3 && numerals.all isNumeral &&
    match text.drop core.length with
    | [] => true
    | _ :: rest => (splitOn (fun u => u == 0x2e || u == 0x2d) rest).all fun part =>
        !part.isEmpty && part.all isAlphanumeric

def GIT_OBJECT_ID (text : Units) : Bool :=
  text.length = 40 && text.all isHexDigit

def textOf : Value → Units
  | .string text => text
  | _ => []

def itemsOf : Value → List Value
  | .array items => items
  | _ => []

/-- `typeof value === "string" && test(value)`. -/
def matchesText (test : Units → Bool) : Value → Bool
  | .string text => test text
  | _ => false

def strictText (value : Value) (name : String) (maxBytes : Nat) : Except JsError Unit :=
  check (matchesText (fun text => (assertStrictText text name (some maxBytes)).isOk && !text.isEmpty) value)
    (fail name)

def validateReleaseSelector (value : Value) : Except JsError Unit :=
  check (matchesText (fun text => byteLength text ≤ DEPLOYMENT_ENVELOPE_LIMITS.selectorBytes && SELECTOR text) value)
    (fail "release selector")

def checkSorted (name : String) (predicate : Units → Bool) : Option Units → List Value → Except JsError Unit
  | _,[] => .ok ()
  | previous,value :: rest => do
    check (matchesText predicate value) (fail name)
    check (previous.all fun before => utf8Compare before (textOf value) == .lt) (fail s!"{name} ordering")
    checkSorted name predicate (some (textOf value)) rest

def validateSortedUniqueStrings (values : Value) (name : String) (predicate : Units → Bool) (maximum : Nat)
    (allowEmpty : Bool) : Except JsError Unit :=
  match values with
  | .array items => do
    check ((allowEmpty || !items.isEmpty) && items.length ≤ maximum) (fail name)
    checkSorted name predicate none items
  | _ => .error (fail name)

section Bundle

variable (casing : Casing)

def isWindows (platform : Value) : Bool := isText "win32" platform

def FORBIDDEN_BUNDLE_SEGMENTS : List String := [".env",".git",".gjc",".gjc-remote-session",".cache"]

def asciiLower (u : UInt16) : UInt16 := if 0x41 ≤ u && u ≤ 0x5a then u + 0x20 else u

/-- The names the pattern lists; `com` and `lpt` with a digit, also a superscript one. -/
def isReservedName (name : Units) : Bool :=
  (["con","prn","aux","nul","conin$","conout$"].any fun text => name == ofString text) ||
    (["com","lpt"].any fun text => name.take 3 == ofString text && name.length = 4 &&
      (name.drop 3).all fun u => (0x31 ≤ u && u ≤ 0x39) || [0xb9,0xb2,0xb3].contains u)

def WINDOWS_RESERVED_SEGMENT (segment : Units) : Bool :=
  let name := segment.takeWhile fun u => u != 0x2e
  isReservedName (name.map asciiLower) && !(segment.drop name.length).any isLineTerminator

def isWindowsSegment (segment : Units) : Bool :=
  !(segment.any fun u => (ofString "<>:\"|?*").contains u) &&
    !(segment.getLast?.any fun u => u == 0x2e || u == 0x20) && !WINDOWS_RESERVED_SEGMENT segment

/-- `/^[A-Za-z]:/`. -/
def hasDrive : Units → Bool
  | letter :: colon :: _ => isLetter letter && colon == 0x3a
  | _ => false

def validateBundlePath (value platform : Value) (name : String) : Except JsError Unit := do
  strictText value name DEPLOYMENT_ENVELOPE_LIMITS.pathBytes
  let path := textOf value
  check (!(path.head?.any fun u => isSlash u || isBackslash u) && !hasDrive path && !path.any isBackslash)
    (fail name)
  let segments := splitOn isSlash path
  check (segments.length ≤ DEPLOYMENT_ENVELOPE_LIMITS.pathSegments &&
    !segments.any fun segment => segment.isEmpty || isDotSegment segment) (fail name)
  check (!segments.any fun segment => FORBIDDEN_BUNDLE_SEGMENTS.any fun text =>
    casing.toLowerCase segment == ofString text) (fail s!"{name} mutable-state segment")
  check (!isWindows platform || segments.all isWindowsSegment) (fail name)

def validatePayloadRecord (record platform : Value) : Except JsError Unit := do
  check (hasExactKeys record ["path","size","sha256","executablePolicy"] && isNonNegative (get record "size") &&
      ((safeInteger (get record "size")).all fun n : Int => n ≤ DEPLOYMENT_ENVELOPE_LIMITS.unpackedPayloadBytes) &&
      isHex (get record "sha256") && isOneOf ["forbidden","required"] (get record "executablePolicy"))
    (fail "inventory payload record")
  validateBundlePath casing (get record "path") platform "inventory payload path"
  check (!isText APPLICATION_BUNDLE_INVENTORY_PATH (get record "path")) (fail "inventory cannot enumerate itself")

/-- A path cut into segments, and what its segments are compared by. -/
structure TreePath where
  parts : List Units
  keys : List Units

def treePath (windows : Bool) (path : Units) : TreePath :=
  let parts := splitOn isSlash path
  ⟨parts,if windows then parts.map fun part => casing.toUpperCase (casing.toLowerCase part) else parts⟩

def compareKeys : List Units → List Units → Int
  | left :: ls,right :: rs =>
    if left != right then if compare left right == .lt then -1 else 1 else compareKeys ls rs
  | left,right => left.length - right.length

def checkNeighbours (windows : Bool) : List TreePath → Except JsError Unit
  | previous :: current :: rest => do
    let common := PrefixOrder.common previous.keys current.keys
    check (common != previous.keys.length) (fail "payload file/directory or platform path collision")
    check (!windows || previous.parts.take common == current.parts.take common)
      (fail "payload directory platform path collision")
    checkNeighbours windows (current :: rest)
  | _ => .ok ()

/-- The inventory is reserved among the paths of the payload. -/
def treePaths (windows : Bool) (entries : List Value) : List TreePath :=
  (ofString APPLICATION_BUNDLE_INVENTORY_PATH :: entries.map fun entry => textOf (get entry "path")).map
    (treePath casing windows)

def validatePayloadTreePaths (entries : List Value) (platform : Value) : Except JsError Unit :=
  checkNeighbours (isWindows platform) ((treePaths casing (isWindows platform) entries).insertionSort
    fun left right => compareKeys left.keys right.keys ≤ 0)

/-- `\x7b ...entry \x7d`; the keys of a text or a list are no members of a payload record. -/
def spread : Value → Value
  | .object entries => .object entries
  | _ => .object []

/-- `JSON.stringify` of a record whose members hold no further members. -/
def stringifyRecord : Value → Units
  | .object entries => 0x7b :: (List.intercalate [0x2c]
      (entries.map fun e => stringifyText e.1 ++ 0x3a :: render e.2) ++ [0x7d])
  | _ => []

def entryCost (entry : Value) : Nat := byteLength (stringifyRecord entry) + 1

/-- The loop over the entries, with the path before and the budget used. -/
def checkEntries (platform : Value) : Option Units → Nat → List Value → Except JsError Unit
  | _,_,[] => .ok ()
  | previous,canonicalBudget,entry :: rest => do
    validatePayloadRecord casing entry platform
    check (canonicalBudget + entryCost entry ≤ DEPLOYMENT_ENVELOPE_LIMITS.inventoryBytes)
      (fail "payload record byte limit")
    check (previous.all fun before => utf8Compare before (textOf (get entry "path")) == .lt)
      (fail "payload entry ordering")
    checkEntries platform (some (textOf (get entry "path"))) (canonicalBudget + entryCost entry) rest

variable (sha256 : List UInt8 → Units)

def canonicalHash (value : Value) (limits : Limits) : Except JsError Units := do
  let bytes ← canonicalJsonBytes value limits
  return sha256 bytes

def bundleTreeFingerprint (payloadEntries platform : Value) : Except JsError Units :=
  match payloadEntries with
  | .array entries => do
    check (entries.length ≤ DEPLOYMENT_ENVELOPE_LIMITS.payloadEntries) (fail "payload entries")
    let copy := entries.map spread
    checkEntries casing platform none 2 copy
    validatePayloadTreePaths casing copy platform
    canonicalHash sha256 (.array copy) INVENTORY_CANONICAL_LIMITS
  | _ => .error (fail "payload entries")

end Bundle

end GjcRemote.DeploymentEnvelope
