import GjcRemote.Containment
import GjcRemote.LiveRecord

/-! The enumeration of a candidate tree (`daemon/src/workspace-candidate-tree-resolver.js`), the path rules
and entries of a manifest (`daemon/src/workspace-backup-manifest.js`), and the reader between them
(`daemon/src/workspace-contained-byte-reader.js`). -/
namespace GjcRemote.CandidateTree

open Utf16 StrictJson Record PathNames Containment
open Workspace.Pointer (isWindowsReserved hasDrivePrefix)

/-- A directory entry; a predicate that is no function is `none`. -/
structure Dirent where
  name : Units
  isSymbolicLink : Option Bool
  isDirectory : Option Bool
  isFile : Option Bool

def refuse (code reason : String) : Refused := ⟨none,code,ofString reason⟩

inductive Stop where
  | outOfFuel
  | thrown (error : Refused)

variable (toLowerCase : Units → Units) (readdir : Units → Except Refused (List Dirent))
variable (rejectUnsupported : Bool) (candidatePath : Units) (platform : SourcePlatform)

/-- One turn of the loop over the entries of a directory. -/
def visit (descend : Units → List Units → List Units → Except Stop (List Units)) (dirAbs : Units)
    (relSegments results : List Units) (dirent : Dirent) : Except Stop (List Units) :=
  match dirent.isSymbolicLink,dirent.isDirectory,dirent.isFile with
  | some link,some directory,some file =>
    if link then
      if rejectUnsupported then
        .error (.thrown (refuse "WORKSPACE_MANIFEST_MISMATCH" "candidate contains a symbolic link"))
      else .ok results
    else if directory then
      descend (dirAbs ++ separatorFor platform :: dirent.name) (relSegments ++ [dirent.name]) results
    else if !file then
      if rejectUnsupported then
        .error (.thrown
          (refuse "WORKSPACE_MANIFEST_MISMATCH" "candidate contains an unsupported filesystem entry"))
      else .ok results
    else
      let relPath := join (separatorFor platform) (relSegments ++ [dirent.name])
      match relativeComponents toLowerCase candidatePath (candidatePath ++ separatorFor platform :: relPath)
        platform with
      | .error error => .error (.thrown error)
      | .ok components =>
        if components.any fun component => component.contains 0x2F || component.contains 0x5C then
          .error (.thrown
            (refuse "WORKSPACE_ROOT_ESCAPE" "manifest path component carries an embedded separator"))
        else .ok (results ++ [relPath])
  | _,_,_ => .error (.thrown (refuse "CONFIG_INVALID" "readdir must yield dirents with type predicates"))

/-- `results` is what the walk has pushed so far. -/
def walk : Nat → Units → List Units → List Units → Except Stop (List Units)
  | 0,_,_,_ => .error .outOfFuel
  | fuel + 1,dirAbs,relSegments,results =>
    match readdir dirAbs with
    | .error error => .error (.thrown error)
    | .ok entries =>
      entries.foldlM (visit toLowerCase rejectUnsupported candidatePath platform (walk fuel) dirAbs relSegments)
        results

/-- `results.sort()`: by code units. -/
def sortPaths (paths : List Units) : List Units := paths.insertionSort fun left right => left ≤ right

def resolveManifestPaths (fuel : Nat) : Except Stop (List Units) := do
  check (candidatePath != []) (.thrown (refuse "CONFIG_INVALID" "candidatePath must be a non-empty string"))
  let results ← walk toLowerCase readdir rejectUnsupported candidatePath platform fuel candidatePath [] []
  return sortPaths results

def MAX_PATH_BYTES : Nat := 4096

/-- An error of an input or output function. -/
structure Thrown where
  operation : Option String
  code : Option String

inductive Rejected where
  | refused (code : String) (reason : Units) (cause : Option String)
  | rethrown (error : Thrown)

def pathRejected (reason : String) (path : Units) : Rejected :=
  .refused "WORKSPACE_MANIFEST_PATH_REJECTED" (ofString reason ++ path) none

def assertSegment (path segment : Units) : Except Rejected Unit := do
  check (segment != []) (pathRejected "entry path has an empty segment: " path)
  check (segment != ofString "." && segment != ofString "..")
    (pathRejected "entry path has a dot segment: " path)
  check (!segment.contains 0x3A) (pathRejected "entry path segment contains ':' (NTFS ADS alias): " path)
  check (segment.getLast? != some 0x20 && segment.getLast? != some 0x2E)
    (pathRejected "entry path segment has a trailing dot or space: " path)
  check (!isWindowsReserved segment) (pathRejected "entry path segment is a Windows reserved name: " path)

def assertSegments (path : Units) : List Units → Except Rejected Unit
  | [] => .ok ()
  | segment :: rest => do
    assertSegment path segment
    assertSegments path rest

/-- The call of `assertStrictText`, whose error is reported as the path's. -/
def assertPathText (path : Units) : Except Rejected Unit :=
  match assertStrictText path "entry path" (some MAX_PATH_BYTES) with
  | .error error => .error (pathRejected "entry path rejected: " (ofString error.message))
  | .ok () => .ok ()

def assertRelativePath (path : Units) : Except Rejected Unit := do
  check (path != []) (pathRejected "entry path must be a non-empty string" [])
  check (!path.contains 0) (pathRejected "entry path contains a NUL byte" [])
  assertPathText path
  check (!path.contains 0x5C) (pathRejected "entry path must use '/' separators: " path)
  check (path.head? != some 0x2F) (pathRejected "entry path must be relative: " path)
  check (!hasDrivePrefix path) (pathRejected "entry path must not carry a drive prefix: " path)
  assertSegments path (path.splitOn 0x2F)

inductive Answer where
  | bytes (content : List UInt8)
  /-- No `Uint8Array`. -/
  | other

structure Entry where
  path : Units
  size : Nat
  sha256 : Units

def MANIFEST_OPERATION : String := "workspace_backup_manifest"

variable (sha256 : List UInt8 → Units) (readBytes : Units → Except Thrown Answer)

/-- One turn of the loop: the bytes of a path and their digest. -/
def computeEntry (path : Units) : Except Rejected Entry :=
  match readBytes path with
  | .error error =>
    if error.operation = some MANIFEST_OPERATION then .error (.rethrown error)
    else .error (.refused "WORKSPACE_MANIFEST_READ_FAILED" (ofString "unable to read " ++ path)
      (some (error.code.getD "unknown")))
  | .ok .other =>
    .error (.refused "WORKSPACE_MANIFEST_READ_FAILED"
      (ofString "reader for " ++ path ++ ofString " did not return bytes") none)
  | .ok (.bytes content) => .ok ⟨path,content.length,sha256 content⟩

def computeLoop : List Units → List Units → List Entry → Except Rejected (List Entry)
  | [],_,entries => .ok entries
  | path :: rest,seen,entries => do
    assertRelativePath path
    check (!seen.contains path)
      (.refused "WORKSPACE_MANIFEST_INVALID" (ofString "duplicate path in input: " ++ path) none)
    let entry ← computeEntry sha256 readBytes path
    computeLoop rest (path :: seen) (entries ++ [entry])

def computeManifestEntries (relativePaths : List Units) : Except Rejected (List Entry) := do
  let entries ← computeLoop sha256 readBytes relativePaths [] []
  return entries.insertionSort fun left right => (utf8Compare left.path right.path).isLE

/-- `readBytes` of the contained reader over a function that opens a path without following a link. -/
def containedReadBytes (openFile : Units → Except Thrown (List UInt8)) (root relPath : Units) :
    Except Thrown Answer :=
  match resolvedPath toLowerCase root relPath platform with
  | .error error => .error ⟨error.operation,some error.code⟩
  | .ok path =>
    match openFile path with
    | .error error => .error error
    | .ok content => .ok (.bytes content)

end GjcRemote.CandidateTree
