import GjcRemote.Record

/-! The two records a workspace's live slot can hold, from
`daemon/src/workspace-generation-publisher.js` and
`daemon/src/workspace-tombstone-publisher.js`: their validators, canonical bytes and
parsers. SHA-256 comes from the runtime, so the digest is a parameter. -/
namespace GjcRemote.Workspace

open Utf16 StrictJson Record

def SOURCE_PLATFORMS : List String := ["posix","windows-drive","windows-unc"]

/-- `GENERATION_POINTER_LIMITS` and `TOMBSTONE_LIMITS`, which are the same. -/
def RECORD_LIMITS : Limits := ⟨64 * 1024,8,256⟩

section Digest

variable (sha256 : List UInt8 → Units)

/-- The digest of the canonical bytes, in lower-case hexadecimal. -/
def canonicalJsonHash (value : Value) (limits : Limits) : Except JsError Units := do
  let bytes ← canonicalJsonBytes value limits
  return sha256 bytes

/-- The members of `record` under the keys other than `own`, in the order of `keys`. -/
def bodyOf (keys : List String) (own : String) (record : Value) : Value :=
  .object ((keys.filter fun key => key ≠ own).map fun key => (ofString key,get record key))

end Digest

namespace Pointer

def OPERATION : String := "workspace_generation_publish"
def KIND : String := "workspace-generation-pointer"
def MAX_PATH_BYTES : Nat := 4096

def POINTER_KEYS : List String :=
  ["version","kind","hostId","workspaceId","sourcePlatform","activeGeneration","generationPath",
    "rootIdentityFingerprint","storageIdentityFingerprint","gitGenerationFingerprint",
    "manifestFingerprint","priorGeneration","priorPointerFingerprint","pointerFingerprint"]

def refusal (code reason : String) : Refusal := .plain OPERATION code reason
def invalid (reason : String) : Refusal := refusal "WORKSPACE_GENERATION_INVALID" reason
def pathRejected (reason : String) (detail : Option Value) : Refusal :=
  ⟨OPERATION,"WORKSPACE_GENERATION_PATH_REJECTED",reason,detail,[]⟩

def asciiLower (u : UInt16) : UInt16 := if 0x41 ≤ u && u ≤ 0x5A then u + 0x20 else u

def reservedNames : List String :=
  ["con","prn","aux","nul"] ++
    (["1","2","3","4","5","6","7","8","9"].flatMap fun digit => ["com" ++ digit,"lpt" ++ digit])

/-- `WINDOWS_RESERVED`: the name before the first dot, in any case. Line terminators,
which `.` does not match, never get this far. -/
def isWindowsReserved (segment : Units) : Bool :=
  let stem := (segment.takeWhile fun u => u ≠ 0x2E).map asciiLower
  reservedNames.any fun name => stem = ofString name

def assertPathText : Units → Except Refusal Unit
  | [] => .ok ()
  | [code] =>
    if forbiddenControl code then
      .error (pathRejected "generationPath contains a forbidden control character" none)
    else if isHigh code || isLow code then
      .error (pathRejected "generationPath contains an unpaired surrogate" none)
    else .ok ()
  | code :: next :: rest =>
    if forbiddenControl code then
      .error (pathRejected "generationPath contains a forbidden control character" none)
    else if isHigh code || isLow code then
      if isHigh code && isLow next then assertPathText rest
      else .error (pathRejected "generationPath contains an unpaired surrogate" none)
    else assertPathText (next :: rest)

def isAsciiLetter (u : UInt16) : Bool := (0x41 ≤ u && u ≤ 0x5A) || (0x61 ≤ u && u ≤ 0x7A)

/-- `/^[A-Za-z]:/`. -/
def hasDrivePrefix : Units → Bool
  | letter :: 0x3A :: _ => isAsciiLetter letter
  | _ => false

def assertSegment (path segment : Units) : Except Refusal Unit := do
  let reject (reason : String) := pathRejected reason (some (.string path))
  check (segment ≠ []) (reject "generationPath has an empty segment: ")
  check (segment ≠ ofString "." && segment ≠ ofString "..") (reject "generationPath has a dot segment: ")
  check (!segment.contains 0x3A) (reject "generationPath segment contains ':' (NTFS ADS alias): ")
  check (segment.getLast? ≠ some 0x20 && segment.getLast? ≠ some 0x2E)
    (reject "generationPath segment has a trailing dot or space: ")
  check (!isWindowsReserved segment) (reject "generationPath segment is a Windows reserved name: ")

def assertSegments (path : Units) : List Units → Except Refusal Unit
  | [] => .ok ()
  | segment :: rest => do
    assertSegment path segment
    assertSegments path rest

def assertGenerationPath (value : Value) : Except Refusal Unit :=
  match value with
  | .string path => do
    check (path ≠ []) (pathRejected "generationPath must be a non-empty string" none)
    check (!path.contains 0) (pathRejected "generationPath contains a NUL byte" none)
    check (byteLength path ≤ MAX_PATH_BYTES) (pathRejected "generationPath exceeds its byte limit" none)
    assertPathText path
    check (!path.contains 0x5C) (pathRejected "generationPath must use '/' separators: " (some value))
    check (path.head? ≠ some 0x2F) (pathRejected "generationPath must be relative: " (some value))
    check (!hasDrivePrefix path) (pathRejected "generationPath must not carry a drive prefix: " (some value))
    assertSegments path (path.splitOn 0x2F)
  | _ => .error (pathRejected "generationPath must be a non-empty string" none)

section Digest

variable (sha256 : List UInt8 → Units)

def pointerFingerprintOf (record : Value) : Except Refusal Units :=
  (canonicalJsonHash sha256 (bodyOf POINTER_KEYS "pointerFingerprint" record) RECORD_LIMITS).mapError
    fun error => invalid s!"pointer body is not canonicalizable: {error.message}"

/-- `record.activeGeneration !== record.priorGeneration + 1`, both validated. -/
def isSuccessorGeneration (active prior : Value) : Bool :=
  match Record.safeInteger active,Record.safeInteger prior with
  | some a,some p => a = p + 1
  | _,_ => false

/-- A first publication has no prior generation at all; every later one has both its
number and its pointer's fingerprint. -/
def assertPriorRelation (pointer : Value) : Except Refusal Unit :=
  if isNull (get pointer "priorGeneration") then do
    check (isNull (get pointer "priorPointerFingerprint"))
      (invalid "first publication must have a null priorPointerFingerprint")
    check (isNumber 1 (get pointer "activeGeneration"))
      (invalid "first publication must have activeGeneration === 1")
  else do
    check (!isNull (get pointer "priorPointerFingerprint"))
      (invalid "a successor publication must carry a priorPointerFingerprint")
    check (isSuccessorGeneration (get pointer "activeGeneration") (get pointer "priorGeneration"))
      (invalid "activeGeneration must be priorGeneration + 1")

def validateGenerationPointer (pointer : Value) : Except Refusal Unit := do
  check (hasExactKeys pointer POINTER_KEYS) (invalid "pointer must have the exact pointer key set")
  check (isNumber 1 (get pointer "version")) (invalid "unsupported pointer version")
  check (isText KIND (get pointer "kind")) (invalid "unexpected pointer kind")
  check (isId (get pointer "hostId")) (invalid "hostId must be a 1..256 char string")
  check (isId (get pointer "workspaceId")) (invalid "workspaceId must be a 1..256 char string")
  check (isOneOf SOURCE_PLATFORMS (get pointer "sourcePlatform"))
    {invalid "unknown sourcePlatform: " with detail := some (get pointer "sourcePlatform")}
  check (isGeneration (get pointer "activeGeneration")) (invalid "activeGeneration must be a safe integer >= 1")
  assertGenerationPath (get pointer "generationPath")
  check (isHex (get pointer "rootIdentityFingerprint")) (invalid "rootIdentityFingerprint must be hex64")
  check (isHex (get pointer "storageIdentityFingerprint")) (invalid "storageIdentityFingerprint must be hex64")
  check (isHex (get pointer "gitGenerationFingerprint")) (invalid "gitGenerationFingerprint must be hex64")
  check (isHex (get pointer "manifestFingerprint")) (invalid "manifestFingerprint must be hex64")
  check (isNullableGeneration (get pointer "priorGeneration"))
    (invalid "priorGeneration must be null or a safe integer >= 1")
  check (isNullableHex (get pointer "priorPointerFingerprint"))
    (invalid "priorPointerFingerprint must be null or hex64")
  assertPriorRelation pointer
  check (isHex (get pointer "pointerFingerprint")) (invalid "pointerFingerprint must be hex64")
  let fingerprint ← pointerFingerprintOf sha256 pointer
  check (strictEqual (.string fingerprint) (get pointer "pointerFingerprint"))
    (invalid "pointerFingerprint does not match the pointer body")

def generationPointerBytes (pointer : Value) : Except Refusal (List UInt8) := do
  validateGenerationPointer sha256 pointer
  (canonicalJsonBytes pointer RECORD_LIMITS).mapError
    fun error => invalid s!"pointer is not serializable: {error.message}"

def parseGenerationPointer (bytes : List UInt8) : Except Refusal Value := do
  let value ← (parseCanonicalJsonBytes bytes RECORD_LIMITS).mapError
    fun error => invalid s!"pointer bytes are not canonical JSON: {error.message}"
  validateGenerationPointer sha256 value
  return value

structure Valid (pointer : Value) : Prop where
  exact : hasExactKeys pointer POINTER_KEYS = true
  kind : get pointer "kind" = .string (ofString KIND)
  generation : ∃ n, Record.safeInteger (get pointer "activeGeneration") = some n ∧ 1 ≤ n
  prior : (isNull (get pointer "priorGeneration") = true ∧ isNumber 1 (get pointer "activeGeneration") = true) ∨
    (isNull (get pointer "priorGeneration") = false ∧
      isSuccessorGeneration (get pointer "activeGeneration") (get pointer "priorGeneration") = true)
  scalars : ∀ key ∈ POINTER_KEYS, isScalar (get pointer key) = true

theorem assertGenerationPath_scalar (accepted : assertGenerationPath value = .ok ()) :
    isScalar value := by
  cases value <;> simp_all [assertGenerationPath,isScalar]

theorem validateGenerationPointer_valid
    (validated : validateGenerationPointer sha256 pointer = .ok ()) : Valid pointer := by
  simp only [validateGenerationPointer,checks_ok] at validated
  obtain ⟨exact,version,kind,host,workspace,platform,active,path,root,storage,git,manifest,
    prior,priorFingerprint,relation,own,_⟩ := validated
  refine ⟨exact,isText_iff.mp kind,?_,?_,?_⟩
  · exact isGeneration_iff.mp active
  · unfold assertPriorRelation at relation
    cases first : isNull (get pointer "priorGeneration") with
    | true =>
      simp only [first,if_true,checks_ok] at relation
      exact .inl ⟨rfl,relation.2⟩
    | false =>
      simp only [first,Bool.false_eq_true,if_false,checks_ok] at relation
      exact .inr ⟨rfl,relation.2⟩
  · simp only [POINTER_KEYS,List.forall_mem_cons,List.not_mem_nil,false_implies,implies_true,and_true]
    exact ⟨isNumber_scalar version,isText_scalar kind,isId_scalar host,isId_scalar workspace,
      isOneOf_scalar platform,isGeneration_scalar active,assertGenerationPath_scalar path,
      isHex_scalar root,isHex_scalar storage,isHex_scalar git,isHex_scalar manifest,
      isNullableGeneration_scalar prior,isNullableHex_scalar priorFingerprint,isHex_scalar own⟩

theorem Valid.distinct (valid : Valid pointer) : DistinctKeys pointer :=
  distinctKeys_of_scalars valid.exact (by decide) valid.scalars

/-- A parsed pointer is valid, and its canonical bytes are the parsed ones. -/
theorem parseGenerationPointer_ok (parsed : parseGenerationPointer sha256 bytes = .ok pointer) :
    validateGenerationPointer sha256 pointer = .ok () ∧
      canonicalJsonBytes pointer RECORD_LIMITS = .ok bytes := by
  rw [parseGenerationPointer,except_bind_ok] at parsed
  obtain ⟨value,read,rest⟩ := parsed
  obtain ⟨validated,result⟩ := except_unit_bind_ok.mp rest
  cases result
  cases found : parseCanonicalJsonBytes bytes RECORD_LIMITS with
  | error error => simp [found,Except.mapError] at read
  | ok v =>
    rw [found] at read
    cases read
    exact ⟨validated,canonicalJsonBytes_of_parse found⟩

end Digest

end Pointer

namespace Tombstone

def OPERATION : String := "workspace_tombstone_publish"
def KIND : String := "workspace-tombstone"
def TOMBSTONE_OPERATIONS : List String := ["reset","delete"]
def PRIOR_KINDS : List String := [Pointer.KIND,KIND]
def CONFIG_INVALID : String := "CONFIG_INVALID"

def TOMBSTONE_KEYS : List String :=
  ["version","kind","hostId","workspaceId","sourcePlatform","operation","tombstonedGeneration",
    "priorKind","priorPointerFingerprint","dirtyBackupFingerprint","tombstoneFingerprint"]

def refusal (code reason : String) : Refusal := .plain OPERATION code reason
def invalid (reason : String) : Refusal := refusal "WORKSPACE_TOMBSTONE_INVALID" reason

section Digest

variable (sha256 : List UInt8 → Units)

def tombstoneFingerprintOf (record : Value) : Except Refusal Units :=
  (canonicalJsonHash sha256 (bodyOf TOMBSTONE_KEYS "tombstoneFingerprint" record) RECORD_LIMITS).mapError
    fun error => invalid s!"tombstone body is not canonicalizable: {error.message}"

def validateTombstone (tombstone : Value) : Except Refusal Unit := do
  check (hasExactKeys tombstone TOMBSTONE_KEYS) (invalid "tombstone must have the exact tombstone key set")
  check (isNumber 1 (get tombstone "version")) (invalid "unsupported tombstone version")
  check (isText KIND (get tombstone "kind")) (invalid "unexpected tombstone kind")
  check (isId (get tombstone "hostId")) (invalid "hostId must be a 1..256 char string")
  check (isId (get tombstone "workspaceId")) (invalid "workspaceId must be a 1..256 char string")
  check (isOneOf SOURCE_PLATFORMS (get tombstone "sourcePlatform"))
    {invalid "unknown sourcePlatform: " with detail := some (get tombstone "sourcePlatform")}
  check (isOneOf TOMBSTONE_OPERATIONS (get tombstone "operation"))
    {invalid "operation must be reset or delete: " with detail := some (get tombstone "operation")}
  check (isGeneration (get tombstone "tombstonedGeneration"))
    (invalid "tombstonedGeneration must be a safe integer >= 1")
  check (isOneOf PRIOR_KINDS (get tombstone "priorKind"))
    {invalid "priorKind must name a live-slot record kind: " with
      detail := some (get tombstone "priorKind")}
  check (isHex (get tombstone "priorPointerFingerprint"))
    (invalid "priorPointerFingerprint must be hex64 (a tombstone always chains onto a live record)")
  check (isNullableHex (get tombstone "dirtyBackupFingerprint"))
    (invalid "dirtyBackupFingerprint must be null or hex64")
  check (isHex (get tombstone "tombstoneFingerprint")) (invalid "tombstoneFingerprint must be hex64")
  let fingerprint ← tombstoneFingerprintOf sha256 tombstone
  check (strictEqual (.string fingerprint) (get tombstone "tombstoneFingerprint"))
    (invalid "tombstoneFingerprint does not match the tombstone body")

def tombstoneBytes (tombstone : Value) : Except Refusal (List UInt8) := do
  validateTombstone sha256 tombstone
  (canonicalJsonBytes tombstone RECORD_LIMITS).mapError
    fun error => invalid s!"tombstone is not serializable: {error.message}"

structure Valid (tombstone : Value) : Prop where
  exact : hasExactKeys tombstone TOMBSTONE_KEYS = true
  kind : get tombstone "kind" = .string (ofString KIND)
  generation : ∃ n, Record.safeInteger (get tombstone "tombstonedGeneration") = some n ∧ 1 ≤ n
  scalars : ∀ key ∈ TOMBSTONE_KEYS, isScalar (get tombstone key) = true

theorem validateTombstone_valid
    (validated : validateTombstone sha256 tombstone = .ok ()) : Valid tombstone := by
  simp only [validateTombstone,checks_ok] at validated
  obtain ⟨exact,version,kind,host,workspace,platform,operation,generation,priorKind,
    priorFingerprint,backup,own,_⟩ := validated
  refine ⟨exact,isText_iff.mp kind,?_,?_⟩
  · exact isGeneration_iff.mp generation
  · simp only [TOMBSTONE_KEYS,List.forall_mem_cons,List.not_mem_nil,false_implies,implies_true,and_true]
    exact ⟨isNumber_scalar version,isText_scalar kind,isId_scalar host,isId_scalar workspace,
      isOneOf_scalar platform,isOneOf_scalar operation,isGeneration_scalar generation,
      isOneOf_scalar priorKind,isHex_scalar priorFingerprint,isNullableHex_scalar backup,
      isHex_scalar own⟩

theorem Valid.distinct (valid : Valid tombstone) : DistinctKeys tombstone :=
  distinctKeys_of_scalars valid.exact (by decide) valid.scalars

end Digest

end Tombstone

end GjcRemote.Workspace
