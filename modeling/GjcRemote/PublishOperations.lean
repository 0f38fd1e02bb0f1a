import GjcRemote.GenerationReadiness
import GjcRemote.ResetDelete

/-! The operations that publish a generation: `runCreateClone`, `runRefresh` and
`runRestoreMigration` of `daemon/src`, with the publisher they share and the stage promotion
of the restore. Every injected dependency answers as the host says, and the workspace lease
may be lost while any call is awaited. The containment, Git, manifest, provenance and
quarantine proofs are answers too: the operations only ask whether they succeed. -/
namespace GjcRemote.Publish

open Utf16 StrictJson Record Workspace
open CrashTrace CrashTrace.Program
open Readiness (Evidence Freshness Attestation)

inductive Call where
  | makePublisherIo | readLive (publishing : Bool) | publication (step : IoStep)
  | materialize | identifyRoot | verifyCandidate | verifyGitDir | verifyRepositoryGraph
  | manifest | makeStageReader | verifyProvenance | verifyChecksum | closeStageReader
  | lstat | mkdir | fill | remove
  deriving DecidableEq, Repr

/-- The proof steps, of which each operation makes its own selection. -/
inductive ProofStep where
  | base | quarantine | provenance | checksum | staged | root | candidate | gitDir | graph | manifest
  deriving DecidableEq, Repr

/-- What happens in a run: `current` tells whether the lease was, when the proof succeeded.
A replacement notes whether the candidate tree exists then, a removal what the slot holds. -/
inductive Event where
  | acquired
  | proved (step : ProofStep) (current : Bool)
  | attested (freshness : Freshness) (readinessFingerprint : Units)
  | checked (checkpoint : String)
  | replaced (candidate : Bool)
  | removed (slot : Option Bytes)
  | released

/-- The live slot, whether the candidate tree exists and is owned, the attestations consumed
before and whether the lease is current; then the restore's own two variables. -/
structure World where
  slot : Option Bytes
  candidate : Bool
  owned : Bool
  seen : List Units
  current : Bool
  log : List Event
  materialized : Bool
  stageReader : Bool

def World.note (w : World) (event : Event) : World := {w with log := w.log ++ [event]}

/-- What a run throws; a failed cleanup travels with the error. -/
structure Failure where
  thrown : Thrown
  cleanupError : Option Thrown

structure Lease where
  isCurrent : Bool
  release : Bool
  fence : Value

structure RootProof where
  rootIdentity : Value
  storageIdentity : Value

inductive LiveRead where
  | nothing
  | bytes (bytes : Bytes)
  | other

/-- A replacement that rejects should have had no effect, but may have had it. -/
inductive Replacement where
  | done
  | refused (error : IoError)
  | late (error : IoError)

inductive Removal where
  | done
  | failed (error : IoError) (gone : Bool)

structure ReaderShape where
  readBytes : Bool
  close : Bool

structure Host where
  loses : Call → Bool
  acquireFence : Except Thrown Lease
  release : Except Thrown Unit
  makePublisherIo : Except Thrown Unit
  readLivePointer : Bool → Option Bytes → Except IoError LiveRead
  publication : IoStep → Option IoError
  replace : Replacement
  materialize : Except Thrown Unit
  identifyRoot : Except Thrown RootProof
  verifyCandidate : Except Thrown Unit
  verifyGitDir : Except Thrown Unit
  verifyRepositoryGraph : Except Thrown Value
  manifest : Except Thrown Value
  hashIdentity : Value → Except Thrown Value
  now : Except Thrown Value
  maxAgeMs : Value
  replayHas : Except Thrown Unit
  replayAdd : Except Thrown Unit
  quarantine : Except Thrown Unit
  makeStageReader : Except Thrown ReaderShape
  closeStageReader : Bool → Except Thrown Unit
  verifyProvenance : Except Thrown Unit
  verifyChecksum : Except Thrown Unit
  stageArguments : Except Thrown Unit
  lstat : Option IoError
  mkdir : Option IoError
  fill : List (Except Thrown Unit)
  remove : Removal

def raises {α : Type} (result : Except Thrown α) : Except Failure α :=
  result.mapError fun thrown => ⟨thrown,none⟩

def compute {α : Type} (result : Except Refusal α) : Program World Failure α :=
  lift (raises (refuseWith result))

def ask {α : Type} (answer : Except Thrown α) : Program World Failure α := lift (raises answer)

def World.lose (w : World) (host : Host) (call : Call) : World :=
  {w with current := w.current && !host.loses call}

variable (w : World) (host : Host) (event : Event) (call : Call)

@[simp] theorem log_note : (w.note event).log = w.log ++ [event] := rfl
@[simp] theorem slot_note : (w.note event).slot = w.slot := rfl
@[simp] theorem seen_note : (w.note event).seen = w.seen := rfl
@[simp] theorem current_note : (w.note event).current = w.current := rfl
@[simp] theorem candidate_note :
    (w.note event).candidate = w.candidate := rfl
@[simp] theorem materialized_note :
    (w.note event).materialized = w.materialized := rfl
@[simp] theorem log_lose : (w.lose host call).log = w.log := rfl
@[simp] theorem slot_lose :
    (w.lose host call).slot = w.slot := rfl
@[simp] theorem seen_lose :
    (w.lose host call).seen = w.seen := rfl
@[simp] theorem candidate_lose :
    (w.lose host call).candidate = w.candidate := rfl
@[simp] theorem materialized_lose :
    (w.lose host call).materialized = w.materialized := rfl

def awaits {α : Type} (host : Host) (call : Call) (answer : Except Thrown α) :
    Program World Failure α :=
  perform fun w => (w.lose host call,raises answer)

def proving {α : Type} (host : Host) (call : Call) (step : ProofStep) (answer : Except Thrown α) :
    Program World Failure α := do
  let a ← awaits host call answer
  perform fun w => (w.note (.proved step w.current),.ok a)

def proved (step : ProofStep) : Program World Failure Unit :=
  perform fun w => (w.note (.proved step w.current),.ok ())

def LEASE_CONFLICT : String := "LEASE_CONFLICT"
def CONFIG_INVALID : String := "CONFIG_INVALID"
def WORKSPACE_GENERATION_STALE : String := "WORKSPACE_GENERATION_STALE"

def acquireFence : Program World Failure Lease :=
  perform fun w =>
    match host.acquireFence with
    | .error thrown => (w,.error ⟨thrown,none⟩)
    | .ok lease => (w.note .acquired,.ok lease)

def assertLease (operation : String) (lease : Lease) : Program World Failure Unit :=
  compute (check (lease.isCurrent && lease.release) (.plain operation CONFIG_INVALID
    "acquireFence must return a lease with \x7b isCurrent, release \x7d"))

def assertFenceCurrent (operation checkpoint : String) : Program World Failure Unit :=
  perform fun w =>
    if w.current then (w.note (.checked checkpoint),.ok ())
    else (w,.error ⟨.refusal ⟨operation,LEASE_CONFLICT,"activity fence was lost before " ++ checkpoint,none,
      [("checkpoint",textValue checkpoint)]⟩,none⟩)

def releaseFence (lease : Lease) : Program World Failure Unit :=
  if lease.release then perform fun w => (w.note .released,raises host.release) else pure ()

section Digest

variable (sha256 : List UInt8 → Units)

def notBytes : Refusal :=
  ⟨Pointer.OPERATION,"WORKSPACE_GENERATION_IO_FAILED","live pointer reader did not return bytes",
    none,[("step",textValue IoStep.readLivePointer.name)]⟩

def parseLive : Except IoError LiveRead → Except Thrown (Option Value)
  | .error error =>
    .error (ioFailed Pointer.OPERATION "WORKSPACE_GENERATION_IO_FAILED"
      "unable to read the live pointer" .readLivePointer error)
  | .ok .nothing => .ok none
  | .ok (.bytes bytes) => (refuseWith (Pointer.parseGenerationPointer sha256 bytes)).map some
  | .ok .other => .error (.refusal notBytes)

variable (host : Host)

def readLiveGeneration (publishing : Bool) :
    Program World Failure (Option Value) :=
  perform fun w => (w.lose host (.readLive publishing),
    raises (parseLive sha256 (host.readLivePointer publishing w.slot)))

def runStep (step : IoStep) : Program World Failure Unit :=
  awaits host (.publication step)
    (match host.publication step with
    | some error => .error (Pointer.stepFailed step error)
    | none => .ok ())

def replace (bytes : Bytes) : Program World Failure Unit :=
  perform fun w =>
    let w := w.lose host (.publication .replace)
    match host.replace with
    | .done => ({w with slot := some bytes}.note (.replaced w.candidate),.ok ())
    | .refused error => (w,.error ⟨Pointer.stepFailed .replace error,none⟩)
    | .late error =>
      ({w with slot := some bytes}.note (.replaced w.candidate),.error ⟨Pointer.stepFailed .replace error,none⟩)

def publishGeneration (newPointer : Value) :
    Program World Failure Pointer.Receipt := do
  compute (Pointer.validateGenerationPointer sha256 newPointer)
  let current ← readLiveGeneration sha256 host true
  compute (Pointer.assertCas newPointer current)
  let bytes ← compute (Pointer.generationPointerBytes sha256 newPointer)
  runStep host .writeTemp
  runStep host .flushTemp
  replace host bytes
  runStep host .flushParent
  return Pointer.receiptOf newPointer

structure PointerInput where
  hostId : Value
  workspaceId : Value
  sourcePlatform : Value
  activeGeneration : Value
  generationPath : Value
  rootIdentityFingerprint : Value
  storageIdentityFingerprint : Value
  gitGenerationFingerprint : Value
  manifestFingerprint : Value
  priorGeneration : Value
  priorPointerFingerprint : Value

def pointerRecord (input : PointerInput) (pointerFingerprint : Value) : Value :=
  .object [(ofString "version",.number (.int 1)),(ofString "kind",textValue Pointer.KIND),
    (ofString "hostId",input.hostId),(ofString "workspaceId",input.workspaceId),
    (ofString "sourcePlatform",input.sourcePlatform),
    (ofString "activeGeneration",input.activeGeneration),
    (ofString "generationPath",input.generationPath),
    (ofString "rootIdentityFingerprint",input.rootIdentityFingerprint),
    (ofString "storageIdentityFingerprint",input.storageIdentityFingerprint),
    (ofString "gitGenerationFingerprint",input.gitGenerationFingerprint),
    (ofString "manifestFingerprint",input.manifestFingerprint),
    (ofString "priorGeneration",Recovery.orNull input.priorGeneration),
    (ofString "priorPointerFingerprint",Recovery.orNull input.priorPointerFingerprint),
    (ofString "pointerFingerprint",pointerFingerprint)]

def buildGenerationPointer (input : PointerInput) : Except Refusal Value := do
  Pointer.assertGenerationPath input.generationPath
  let fingerprint ← Pointer.pointerFingerprintOf sha256 (pointerRecord input .null)
  let record := pointerRecord input (.string fingerprint)
  Pointer.validateGenerationPointer sha256 record
  return record

/-- `generationFingerprints`, on both sides of the workspace evidence. -/
def workspaceEvidence (pointer root git manifest : Value) : Value :=
  let generation := .object [(ofString "pointerFingerprint",get pointer "pointerFingerprint"),
    (ofString "rootIdentityFingerprint",root),(ofString "gitGenerationFingerprint",git),
    (ofString "manifestFingerprint",manifest)]
  .object [(ofString "state",textValue "ready"),(ofString "source",textValue "live"),
    (ofString "generation",generation),(ofString "expected",generation)]

variable (operation : String)

/-- The check and the insertion in the set of the attestations are one synchronous step. -/
def consume (host : Host) (freshness : Freshness)
    (readinessFingerprint : Units) : Program World Failure Unit :=
  perform fun w =>
    match host.replayHas with
    | .error thrown => (w,.error ⟨thrown,none⟩)
    | .ok _ =>
      if readinessFingerprint ∈ w.seen then
        (w,.error ⟨.refusal (.plain operation "READINESS_REPLAYED"
          "readiness attestation has already been consumed"),none⟩)
      else
        match host.replayAdd with
        | .error thrown => (w,.error ⟨thrown,none⟩)
        | .ok _ =>
          ({w with seen := w.seen ++ [readinessFingerprint]}.note
            (.attested freshness readinessFingerprint),.ok ())

def attest (host : Host) (readiness probedAtMs pointer root git manifest : Value) :
    Program World Failure Attestation := do
  let nowMs ← ask host.now
  let freshness : Freshness := ⟨probedAtMs,nowMs,host.maxAgeMs⟩
  let attestation ← compute (Readiness.evaluateGenerationReadiness sha256
    ⟨get readiness "connection",get readiness "runtime",get readiness "providerAuth",
      get readiness "modelProfile",workspaceEvidence pointer root git manifest,freshness⟩)
  consume operation host freshness attestation.readinessFingerprint
  return attestation

structure Request where
  operation : Value
  hostId : Value
  workspaceId : Value
  sourcePlatform : Value
  workDir : Value
  generationPath : Value
  candidatePath : Value
  gitDir : Value
  probedAtMs : Value
  readiness : Value

structure Receipt where
  operation : Value
  published : Pointer.Receipt
  pointer : Value
  fence : Option Value
  readinessFingerprint : Units
  rootIdentityFingerprint : Value
  storageIdentityFingerprint : Value
  gitGenerationFingerprint : Value
  manifestFingerprint : Value
  lineage : Option Value

def CALLER_DIMENSIONS : List String := ["connection","runtime","providerAuth","modelProfile"]

def configInvalid (operation reason : String) : Refusal := .plain operation CONFIG_INVALID reason

def assertText (operation key : String) (value : Value) : Except Refusal Unit :=
  check (ResetDelete.isNonEmptyString value)
    (configInvalid operation ("request." ++ key ++ " must be a non-empty string"))

def isNonEmptyArray : Value → Bool
  | .array items => items ≠ []
  | _ => false

def assertReadiness (probedAtMs readiness : Value) : Except Refusal Unit := do
  check (Lifecycle.isCount probedAtMs) (.plain operation "READINESS_TIMESTAMP_INVALID"
    "request.probedAtMs must be a non-negative safe integer")
  check (isPlainObject readiness) (configInvalid operation "request.readiness must be an object")
  CALLER_DIMENSIONS.forM fun dimension =>
    check (isPlainObject (get readiness dimension))
      (configInvalid operation ("request.readiness." ++ dimension ++ " must be an object"))

def assertPaths (request : Request) : Except Refusal Unit := do
  assertText operation "hostId" request.hostId
  assertText operation "workspaceId" request.workspaceId
  assertText operation "sourcePlatform" request.sourcePlatform
  assertText operation "workDir" request.workDir
  assertText operation "generationPath" request.generationPath
  assertText operation "candidatePath" request.candidatePath
  assertText operation "gitDir" request.gitDir

/-- `value + 1` for a generation. -/
def next (generation : Value) : Value :=
  match safeInteger generation with
  | some n => .number (.int (n + 1))
  | none => undefined

/-- Containment of the candidate and of the Git directory it is read from. -/
def verifyContained : Program World Failure Unit := do
  proving host .verifyCandidate .candidate host.verifyCandidate
  proving host .verifyGitDir .gitDir host.verifyGitDir

/-- `materialize`: the candidate tree may be there, whether the call succeeds or not. -/
def materialize : Program World Failure Unit :=
  perform fun w => ({w.lose host .materialize with candidate := true},raises host.materialize)

namespace Create

def OPERATION : String := "workspace_create_clone"
def SUPPORTED_OPERATIONS : List String := ["create","clone"]

structure CreateRequest extends Request where
  manifestPaths : Value
  activeGeneration : Value
  priorGeneration : Value
  priorPointerFingerprint : Value

def assertRequest (request : CreateRequest) : Except Refusal Unit := do
  check (isOneOf SUPPORTED_OPERATIONS request.operation)
    (configInvalid OPERATION "operation must be one of create/clone")
  assertPaths OPERATION request.toRequest
  check (isNonEmptyArray request.manifestPaths)
    (configInvalid OPERATION "request.manifestPaths must be a non-empty array")
  check (isGeneration request.activeGeneration)
    (configInvalid OPERATION "request.activeGeneration must be a safe integer >= 1")
  assertReadiness OPERATION request.probedAtMs request.readiness

/-- There is no lease: the first generation of a workspace has no activity to fence. -/
def runCreateClone (host : Host) (request : CreateRequest) : Program World Failure Receipt := do
  compute (assertRequest request)
  let rootProof ← proving host .identifyRoot .root host.identifyRoot
  materialize host
  verifyContained host
  let git ← proving host .verifyRepositoryGraph .graph host.verifyRepositoryGraph
  let root ← ask (host.hashIdentity rootProof.rootIdentity)
  let storage ← ask (host.hashIdentity rootProof.storageIdentity)
  let manifest ← proving host .manifest .manifest host.manifest
  let pointer ← compute (buildGenerationPointer sha256
    ⟨request.hostId,request.workspaceId,request.sourcePlatform,request.activeGeneration,
      request.generationPath,root,storage,git,manifest,request.priorGeneration,
      request.priorPointerFingerprint⟩)
  let attestation ← attest sha256 OPERATION host request.readiness request.probedAtMs pointer root
    git manifest
  let published ← publishGeneration sha256 host pointer
  return ⟨request.operation,published,pointer,none,attestation.readinessFingerprint,root,storage,git,
    manifest,none⟩

end Create

namespace Refresh

def OPERATION : String := "workspace_refresh"

structure RefreshRequest extends Request where
  manifestPaths : Value
  leaseCandidate : Value
  expected : Value

def assertRequest (request : RefreshRequest) : Except Refusal Unit := do
  check (isText "refresh" request.operation) (configInvalid OPERATION "operation must be 'refresh'")
  assertPaths OPERATION request.toRequest
  check (isNonEmptyArray request.manifestPaths)
    (configInvalid OPERATION "request.manifestPaths must be a non-empty array")
  check (!ResetDelete.isNullish request.leaseCandidate)
    (configInvalid OPERATION "request.leaseCandidate is required for the activity fence")
  check (isPlainObject request.expected)
    (configInvalid OPERATION "request.expected (base generation) must be an object")
  check (ResetDelete.isNonEmptyString (get request.expected "pointerFingerprint"))
    (configInvalid OPERATION "request.expected.pointerFingerprint must be a non-empty string")
  assertReadiness OPERATION request.probedAtMs request.readiness

def assertExpectedBase (live : Option Value) (expected : Value) : Except Refusal Value :=
  match live with
  | none => .error (.plain OPERATION WORKSPACE_GENERATION_STALE "no live generation is published to refresh")
  | some live => do
    check (strictEqual (get live "pointerFingerprint") (get expected "pointerFingerprint"))
      ⟨OPERATION,WORKSPACE_GENERATION_STALE,"live generation does not match the expected base generation",none,
        [("expectedPointerFingerprint",get expected "pointerFingerprint"),
          ("livePointerFingerprint",get live "pointerFingerprint")]⟩
    return live

def runFenced (host : Host) (request : RefreshRequest) (lease : Lease) :
    Program World Failure Receipt := do
  assertLease OPERATION lease
  let read ← readLiveGeneration sha256 host false
  let live ← compute (assertExpectedBase read request.expected)
  proved .base
  assertFenceCurrent OPERATION "materialisation"
  materialize host
  let rootProof ← proving host .identifyRoot .root host.identifyRoot
  verifyContained host
  let git ← proving host .verifyRepositoryGraph .graph host.verifyRepositoryGraph
  let root ← ask (host.hashIdentity rootProof.rootIdentity)
  let storage ← ask (host.hashIdentity rootProof.storageIdentity)
  let manifest ← proving host .manifest .manifest host.manifest
  let pointer ← compute (buildGenerationPointer sha256
    ⟨request.hostId,request.workspaceId,request.sourcePlatform,next (get live "activeGeneration"),
      request.generationPath,root,storage,git,manifest,get live "activeGeneration",
      get live "pointerFingerprint"⟩)
  let attestation ← attest sha256 OPERATION host request.readiness request.probedAtMs pointer root
    git manifest
  assertFenceCurrent OPERATION "publication"
  let published ← publishGeneration sha256 host pointer
  return ⟨request.operation,published,pointer,some lease.fence,attestation.readinessFingerprint,root,
    storage,git,manifest,none⟩

def runRefresh (host : Host) (request : RefreshRequest) : Program World Failure Receipt := do
  compute (assertRequest request)
  let lease ← acquireFence host
  finish (runFenced sha256 host request lease) (releaseFence host lease)

end Refresh

end Digest

end GjcRemote.Publish
