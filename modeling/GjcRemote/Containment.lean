import GjcRemote.MappingEnvelope
import GjcRemote.PathNames

/-! The lexical check of `daemon/src/workspace-containment.js` that a candidate lies below a workspace
root, its walk from the root to the candidate, and the path that
`daemon/src/workspace-contained-byte-reader.js` opens. -/
namespace GjcRemote.Containment

open Utf16 StrictJson Record PathNames
open MappingEnvelope (isDotSegment isLetter)
open Envelope (isNullish)
open ServiceEnvelope (toText)

inductive SourcePlatform where
  | posix | windowsDrive
  deriving DecidableEq

def OPERATION : String := "verify_workspace_containment"

/-- What is thrown: the operation it names, its code and its reason. -/
structure Refused where
  operation : Option String
  code : String
  reason : Units

def refuse (code reason : String) : Refused := ⟨some OPERATION,code,ofString reason⟩

def separatorFor : SourcePlatform → UInt16
  | .posix => 0x2F
  | .windowsDrive => 0x5C

/-- `/^[A-Z]:\\/`. -/
def startsDrive : Units → Bool
  | letter :: colon :: slash :: _ => (0x41 ≤ letter && letter ≤ 0x5A) && colon == 0x3A && slash == 0x5C
  | _ => false

def validWorkDir (workDir : Units) : SourcePlatform → Bool
  | .posix =>
    workDir.head? == some 0x2F && !workDir.contains 0x5C &&
      (workDir == [0x2F] || workDir.getLast? != some 0x2F) &&
      (workDir.splitOn 0x2F).tail.all fun segment => segment != [] && !isDotSegment segment
  | .windowsDrive =>
    startsDrive workDir && !workDir.contains 0x2F &&
      (workDir.drop 3 == [] ||
        ((workDir.drop 3).splitOn 0x5C).all fun segment => segment != [] && !isDotSegment segment)

/-- `value.replace(/\//g, "\\")` on Windows. -/
def normalize (platform : SourcePlatform) (value : Units) : Units :=
  match platform with
  | .posix => value
  | .windowsDrive => value.map fun u => if u = 0x2F then 0x5C else u

/-- `/^[A-Za-z]:\\/` on Windows. -/
def isAbsolute (platform : SourcePlatform) (path : Units) : Bool :=
  match platform,path with
  | .posix,first :: _ => first == 0x2F
  | .windowsDrive,letter :: colon :: slash :: _ => isLetter letter && colon == 0x3A && slash == 0x5C
  | _,_ => false

def folded (toLowerCase : Units → Units) (platform : SourcePlatform) (value : Units) : Units :=
  match platform with
  | .posix => value
  | .windowsDrive => toLowerCase value

def endsWith (sep : UInt16) (text : Units) : Bool := text.getLast? == some sep

def relativeParts (sep : UInt16) (relative : Units) : Except Refused (List Units) := do
  let parts := names sep relative
  check (!parts.any isDotSegment)
    (refuse "WORKSPACE_ROOT_ESCAPE" "candidate contains a relative traversal segment")
  return parts

variable (toLowerCase : Units → Units)

def relativeComponents (workDir candidate : Units) (platform : SourcePlatform) :
    Except Refused (List Units) := do
  check (candidate != []) (refuse "WORKSPACE_ROOT_ESCAPE" "candidate is empty")
  check (!candidate.contains 0) (refuse "WORKSPACE_ROOT_ESCAPE" "candidate contains a NUL byte")
  let sep := separatorFor platform
  let normalizedCandidate := normalize platform candidate
  let normalizedWorkDir := normalize platform workDir
  if isAbsolute platform normalizedCandidate then
    let foldedCandidate := folded toLowerCase platform normalizedCandidate
    let foldedWorkDir := folded toLowerCase platform normalizedWorkDir
    if foldedCandidate = foldedWorkDir then return []
    else
      let start := if endsWith sep foldedWorkDir then foldedWorkDir else foldedWorkDir ++ [sep]
      check (start.isPrefixOf foldedCandidate)
        (refuse "WORKSPACE_ROOT_ESCAPE" "absolute candidate is outside the workspace root")
      relativeParts sep (normalizedCandidate.drop start.length)
  else relativeParts sep normalizedCandidate

/-- What a native capability throws. -/
structure NativeError where
  code : Value
  reason : Value

structure LowLevel where
  path_exists_no_follow : Units → Except NativeError Value
  read_identity : Units → Except NativeError Value

def isNoFollowRefusal (error : NativeError) : Bool :=
  isText "ERR_NATIVE_CONTROL_OPEN" error.code || isText "ERR_NATIVE_CONTROL_REFUSED" error.code ||
    match error.reason with
    | .string _ => true
    | _ => false

def about (component : Units) (complaint : String) : Units :=
  ofString "candidate component \"" ++ component ++ ofString ("\" " ++ complaint)

/-- One step of the walk: the path of a component must exist without following a link. -/
def checkComponent (lowLevel : LowLevel) (path component : Units) : Except Refused Unit :=
  match lowLevel.path_exists_no_follow path with
  | .error error =>
    if isNoFollowRefusal error then
      .error ⟨some OPERATION,"REPARSE_POINT_REJECTED",
        about component "cannot be resolved without following a reparse point"⟩
    else .error ⟨some OPERATION,"REPARSE_POINT_REJECTED",about component "could not be verified"⟩
  | .ok found =>
    match found with
    | .bool true => .ok ()
    | _ => .error ⟨some OPERATION,"CANDIDATE_NOT_FOUND",about component "does not exist"⟩

/-- The loop over the components; the last path is the leaf's. -/
def walk (lowLevel : LowLevel) (sep : UInt16) : Units → List Units → Except Refused Units
  | path,[] => .ok path
  | path,component :: rest => do
    checkComponent lowLevel (path ++ sep :: component) component
    walk lowLevel sep (path ++ sep :: component) rest

/-- `Object.keys(identity).length === 0` and no plain object. -/
def isEmptyIdentity : Value → Bool
  | .object entries => entries.length == 0
  | _ => true

/-- `verifyContained` after the identity of the root was read, up to the identity of the leaf. -/
def leafIdentity (lowLevel : LowLevel) (workDir candidate : Units) (platform : SourcePlatform) :
    Except Refused Value := do
  let components ← relativeComponents toLowerCase workDir candidate platform
  let leafPath ← walk lowLevel (separatorFor platform) workDir components
  match lowLevel.read_identity leafPath with
  | .error error =>
    if isNoFollowRefusal error then
      throw (refuse "REPARSE_POINT_REJECTED" "candidate leaf cannot be read without following a reparse point")
    else
      let code := if isNullish error.code then ofString "unknown" else toText error.code
      throw ⟨some OPERATION,"CANDIDATE_NOT_FOUND",ofString "candidate leaf identity is unavailable: " ++ code⟩
  | .ok identity =>
    check (!isEmptyIdentity identity)
      (refuse "CANDIDATE_NOT_FOUND" "candidate leaf identity is empty or malformed")
    return identity

def refuseReparseLeaf (reason : String) : Refused := ⟨none,"WORKSPACE_ROOT_ESCAPE",ofString reason⟩

def joined (sep : UInt16) (root : Units) (components : List Units) : Units :=
  if components.length = 0 then root else root ++ sep :: join sep components

/-- The path that `readBytes` opens. -/
def resolvedPath (root relPath : Units) (platform : SourcePlatform) : Except Refused Units := do
  let components ← relativeComponents toLowerCase root relPath platform
  check (components.all fun component => !component.contains 0x2F && !component.contains 0x5C)
    (refuseReparseLeaf "byte-reader refuses a path component with an embedded separator")
  return joined (separatorFor platform) root components

end GjcRemote.Containment
