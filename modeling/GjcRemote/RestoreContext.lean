import GjcRemote.DeploymentEnvelope
import GjcRemote.EncodedRecords
import GjcRemote.JsText
import GjcRemote.OrderedMap
import GjcRemote.ReceiptBinding

/-! `daemon/src/workspace-restore-context-registry.js`: sealed claims under the authority, operation and
idempotency fingerprint that they are for. Records are those of plain data. -/
namespace GjcRemote.RestoreContext

open Utf16 StrictJson Record
open DeploymentEnvelope (matchesText)
open JsText (isSpace)
open ReceiptBinding (isOpaqueId)
open ServiceEnvelope (record)

def DESTINATION_AUTHORITY_FIELDS : List String :=
  ["authorityEpoch","fenceGeneration","hostId","mappingId","mappingGeneration","mappingVersion","workspaceId",
    "workspaceGeneration","sourcePlatform","authorityFingerprint"]

def PROVENANCE_V2_FIELDS : List String :=
  ["hostId","roleFingerprint","volumeIdentityFingerprint","keyFingerprint","manifestFingerprint",
    "restoredFromWorkspaceId","restoredFromGeneration"]

def CLAIM_FIELDS : List String :=
  DESTINATION_AUTHORITY_FIELDS ++ ["operation","idempotencyFingerprint","stagingPath","expectedAuthority","manifest",
    "restoredFromWorkspaceId","restoredFromGeneration","expectedGraph","probedAtMs","expiresAtMs"]

def OPERATIONS : List String := ["restore","migration"]

def SOURCE_PLATFORMS : List String := ["posix","windows-drive","windows-unc"]

/-- The text is not empty, has no blank at either end and is strict. -/
def isExactHostId : Value → Bool := matchesText fun text =>
  !text.isEmpty && !text.head?.any isSpace && !text.getLast?.any isSpace &&
    (assertStrictText text "hostId" (some 128)).isOk

/-- `validateWorkspaceAuthorityDescriptor`; which check refuses is dropped by its callers. -/
def validAuthority (authority : Value) : Bool :=
  hasExactKeys authority DESTINATION_AUTHORITY_FIELDS &&
    (["authorityEpoch","fenceGeneration","mappingGeneration","workspaceGeneration","mappingVersion"].all fun field =>
      isGeneration (get authority field)) &&
    isExactHostId (get authority "hostId") &&
    (["mappingId","workspaceId"].all fun field => matchesText isOpaqueId (get authority field)) &&
    isOneOf SOURCE_PLATFORMS (get authority "sourcePlatform") && isHex (get authority "authorityFingerprint")

def authorityOf (value : Value) : Value :=
  record (DESTINATION_AUTHORITY_FIELDS.map fun field => (field,get value field))

def isTimestamp (value : Value) : Bool := (safeInteger value).any fun n => 0 ≤ n

/-- What `JSON.stringify` makes of the fields. -/
def claimKey (authority operation idempotencyFingerprint : Value) : Units :=
  render (.array (DESTINATION_AUTHORITY_FIELDS.map (get authority ·) ++ [operation,idempotencyFingerprint]))

def fail (message : String) : JsError := typeError ("restore context registry " ++ message)

def assertExpectedAuthority (authority : Value) : Except JsError Unit := do
  check (hasExactKeys authority PROVENANCE_V2_FIELDS) (fail "expectedAuthority is invalid")
  check (isId (get authority "hostId") && isId (get authority "restoredFromWorkspaceId") &&
    isGeneration (get authority "restoredFromGeneration")) (fail "expectedAuthority identity is invalid")
  ["roleFingerprint","volumeIdentityFingerprint","keyFingerprint","manifestFingerprint"].forM fun field =>
    check (isHex (get authority field)) (fail ("expectedAuthority " ++ field ++ " is invalid"))

def instant (claim : Value) (field : String) : Int := (safeInteger (get claim field)).getD 0

section

-- Whether a number that is no integer is finite.
variable (isFinite : Nat → Bool)

mutual
/-- The copy shows what the claim shows; only the refusals are kept. -/
def cloneFrozen : Value → Except JsError Unit
  | .null | .bool _ | .string _ | .number (.int _) | .number .negativeZero => .ok ()
  | .number (.other tag) => check (isFinite tag) (fail "claims must contain finite JSON values")
  | .array items => cloneItems items
  | .object entries => cloneEntries entries
  | .other _ => .error (fail "claims must contain JSON values")
def cloneItems : List Value → Except JsError Unit
  | [] => .ok ()
  | item :: rest => do
    cloneFrozen item
    cloneItems rest
def cloneEntries : List (Units × Value) → Except JsError Unit
  | [] => .ok ()
  | (_,value) :: rest => do
    cloneFrozen value
    cloneEntries rest
end

def assertClaim (claim : Value) : Except JsError Unit := do
  let fields := if isText "migration" (get claim "operation") then CLAIM_FIELDS ++ ["migrationKind"] else CLAIM_FIELDS
  check (hasExactKeys claim fields) (fail "claim must have the exact field set")
  check (validAuthority (authorityOf claim)) (fail "destination authority is invalid")
  check (isOneOf OPERATIONS (get claim "operation") && isHex (get claim "idempotencyFingerprint") &&
    isId (get claim "stagingPath")) (fail "claim operation, idempotencyFingerprint, or stagingPath is invalid")
  check (!isText "migration" (get claim "operation") || isId (get claim "migrationKind"))
    (fail "migrationKind is invalid")
  assertExpectedAuthority (get claim "expectedAuthority")
  check (isPlainObject (get claim "manifest") && isHex (get (get claim "manifest") "manifestFingerprint"))
    (fail "manifest is invalid")
  check (isId (get claim "restoredFromWorkspaceId") && isGeneration (get claim "restoredFromGeneration"))
    (fail "restore lineage is invalid")
  check (strictEqual (get (get claim "expectedAuthority") "manifestFingerprint")
      (get (get claim "manifest") "manifestFingerprint") &&
    strictEqual (get (get claim "expectedAuthority") "restoredFromWorkspaceId")
      (get claim "restoredFromWorkspaceId") &&
    strictEqual (get (get claim "expectedAuthority") "restoredFromGeneration") (get claim "restoredFromGeneration"))
    (fail "provenance-v2 lineage does not match claim lineage")
  check (isPlainObject (get claim "expectedGraph") && isTimestamp (get claim "probedAtMs") &&
    isTimestamp (get claim "expiresAtMs") && instant claim "probedAtMs" ≤ instant claim "expiresAtMs")
    (fail "claim freshness or expectedGraph is invalid")
  cloneFrozen isFinite (get claim "manifest")
  cloneFrozen isFinite (get claim "expectedGraph")

inductive Status where
  | available
  | consumed
  | expired
  | invalidated
  | ambiguous
  deriving DecidableEq

/-- A claim that was accepted. -/
structure Claim where
  value : Value
  valid : assertClaim isFinite value = .ok ()

structure Entry where
  status : Status
  claims : List (Claim isFinite)

structure Registry where
  entries : OrderedMap Units (Entry isFinite)
  maxAgeMs : Int

variable {isFinite}

def keyOf (claim : Value) : Units :=
  claimKey claim (get claim "operation") (get claim "idempotencyFingerprint")

def Claim.key (claim : Claim isFinite) : Units := keyOf claim.value

def sealClaim (maxAgeMs : Int) (claim : Value) : Except JsError (Claim isFinite) :=
  match valid : assertClaim isFinite claim with
  | .error e => .error e
  | .ok () => do
    check (instant claim "expiresAtMs" - instant claim "probedAtMs" ≤ maxAgeMs)
      (fail "claim lifetime exceeds maxAgeMs")
    cloneFrozen isFinite claim
    return ⟨claim,valid⟩

def enter (entries : OrderedMap Units (Entry isFinite)) (claim : Claim isFinite) : OrderedMap Units (Entry isFinite) :=
  match entries.get claim.key with
  | some entry => entries.set claim.key ⟨.ambiguous,entry.claims ++ [claim]⟩
  | none => entries.set claim.key ⟨.available,[claim]⟩

/-- The clock is a function, as the check of it asks. -/
def createRestoreContextRegistry (claims maxAgeMs : Value) : Except JsError (Registry isFinite) :=
  match claims,safeInteger maxAgeMs with
  | .array claims,some bound => do
    check (1 ≤ bound) (fail "maxAgeMs must be a positive safe integer")
    let entries ← claims.foldlM (fun entries claim => do return enter entries (← sealClaim bound claim)) .empty
    return ⟨entries,bound⟩
  | .array _,none => .error (fail "maxAgeMs must be a positive safe integer")
  | _,_ => .error (fail "claims must be an array")

structure Request where
  trustedBinding : Value
  message : Value
  operation : Value
  idempotencyFingerprint : Value
  /-- What the clock reads, if it is asked. -/
  reading : Value

def trustedAuthority (candidate : Value) : Option Value :=
  if isPlainObject candidate && DESTINATION_AUTHORITY_FIELDS.all (hasOwn candidate ·) &&
      validAuthority (authorityOf candidate) then some (authorityOf candidate)
  else none

/-- The authority of a request that agrees with its message. -/
def Request.authority (request : Request) : Option Value :=
  (trustedAuthority request.trustedBinding).filter fun authority =>
    isPlainObject request.message && isOneOf OPERATIONS request.operation &&
    strictEqual (get request.message "operation") request.operation && isHex request.idempotencyFingerprint &&
    strictEqual (get request.message "idempotencyFingerprint") request.idempotencyFingerprint &&
    (DESTINATION_AUTHORITY_FIELDS.drop 2).all fun field =>
      strictEqual (get request.message field) (get authority field)

def Request.key (request : Request) : Option Units :=
  request.authority.map fun authority => claimKey authority request.operation request.idempotencyFingerprint

variable (r : Registry isFinite)

def Registry.setStatus (key : Units) (entry : Entry isFinite) (status : Status) : Registry isFinite :=
  {r with entries := r.entries.set key {entry with status}}

def Registry.resolve (request : Request) : Registry isFinite × Except JsError (Option (Claim isFinite)) :=
  match request.key with
  | none => (r,.ok none)
  | some key =>
    match r.entries.get key with
    | some ⟨.available,[claim]⟩ =>
      match (safeInteger request.reading).filter (0 ≤ ·) with
      | none => (r,.error (fail "clock.now() must return a non-negative safe integer"))
      | some now =>
        if now < instant claim.value "probedAtMs" ∨ instant claim.value "expiresAtMs" < now ∨
            r.maxAgeMs < now - instant claim.value "probedAtMs" then
          (r.setStatus key ⟨.available,[claim]⟩ .expired,.ok none)
        else (r.setStatus key ⟨.available,[claim]⟩ .consumed,.ok (some claim))
    | _ => (r,.ok none)

def ofAuthority (authority : Value) (entry : Entry isFinite) : Bool :=
  entry.status = .available && entry.claims.head?.any fun claim =>
    DESTINATION_AUTHORITY_FIELDS.all fun field => strictEqual (get claim.value field) (get authority field)

def Registry.invalidateAuthority (trustedBinding : Value) : Registry isFinite × Nat :=
  match trustedAuthority trustedBinding with
  | none => (r,0)
  | some authority =>
    ({r with entries := r.entries.mapValues fun entry =>
        if ofAuthority authority entry then {entry with status := .invalidated} else entry},
      r.entries.entries.countP fun e => ofAuthority authority e.2)

inductive Call where
  | resolve (request : Request)
  | invalidateAuthority (trustedBinding : Value)

inductive Answer (isFinite : Nat → Bool) where
  | resolved (result : Except JsError (Option (Claim isFinite)))
  | invalidated (count : Nat)

def step (r : Registry isFinite) : Call → Registry isFinite × Answer isFinite
  | .resolve request => ((r.resolve request).1,.resolved (r.resolve request).2)
  | .invalidateAuthority trustedBinding =>
    ((r.invalidateAuthority trustedBinding).1,.invalidated (r.invalidateAuthority trustedBinding).2)

end

end GjcRemote.RestoreContext
