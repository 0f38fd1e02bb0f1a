import GjcRemote.LiveRecord
import GjcRemote.Runs

/-! Publication into a workspace's live slot: `publishGeneration` and `publishTombstone`
with their readers and compare-and-swap checks. The slot is the content of one file;
a temporary file holds the new bytes until `replace` moves them there in one step. A
step of the io that fails has no effect on the slot. -/
namespace GjcRemote.Workspace

open Utf16 StrictJson Record

abbrev Bytes := List UInt8

inductive IoStep where
  | readLivePointer | writeTemp | flushTemp | replace | flushParent
  deriving DecidableEq, Repr

def IoStep.name : IoStep → String
  | .readLivePointer => "readLivePointer"
  | .writeTemp => "writeTemp"
  | .flushTemp => "flushTemp"
  | .replace => "replace"
  | .flushParent => "flushParent"

/-- `PUBLISH_STEPS` and `TOMBSTONE_STEPS`. -/
def PUBLISH_STEPS : List IoStep := [.writeTemp,.flushTemp,.replace,.flushParent]

/-- What the io rejects with; file system errors carry a code only. -/
structure IoError where
  operation : Option String
  code : Option String
  step : Option String

abbrev Faults := IoStep → Option IoError

inductive Thrown where
  | refusal (refusal : Refusal)
  | raised (error : JsError)
  | passed (error : IoError)

def textValue (text : String) : Value := .string (ofString text)

/-- A failed step is refused, unless the error already carries the operation. -/
def ioFailed (operation code reason : String) (step : IoStep) (error : IoError) : Thrown :=
  if error.operation = some operation then .passed error
  else .refusal ⟨operation,code,reason,none,
    [("step",textValue step.name),("cause",textValue (error.code.getD "unknown"))]⟩

/-- The ordered protocol: write an exclusive temporary, flush it, replace the slot, flush
the parent directory. -/
def runSteps {ε : Type} (failed : IoStep → IoError → ε) (faults : Faults) (live : Option Bytes)
    (bytes : Bytes) : Option Bytes × Except ε Unit :=
  match faults .writeTemp with
  | some error => (live,.error (failed .writeTemp error))
  | none =>
    match faults .flushTemp with
    | some error => (live,.error (failed .flushTemp error))
    | none =>
      match faults .replace with
      | some error => (live,.error (failed .replace error))
      | none =>
        match faults .flushParent with
        | some error => (some bytes,.error (failed .flushParent error))
        | none => (some bytes,.ok ())

def refuseWith {α : Type} (result : Except Refusal α) : Except Thrown α := result.mapError .refusal

/-- Everything before the first write decides, and yields the bytes to publish. -/
def publishPrepared {α : Type} (failed : IoStep → IoError → Thrown) (faults : Faults)
    (live : Option Bytes) (prepared : Except Thrown Bytes) (receipt : α) :
    Option Bytes × Except Thrown α :=
  match prepared with
  | .error thrown => (live,.error thrown)
  | .ok bytes =>
    let (live,result) := runSteps failed faults live bytes
    (live,result.map fun _ => receipt)

namespace Pointer

variable (sha256 : List UInt8 → Units)

def readLiveGeneration (faults : Faults) (live : Option Bytes) : Except Thrown (Option Value) :=
  match faults .readLivePointer with
  | some error =>
    .error (ioFailed OPERATION "WORKSPACE_GENERATION_IO_FAILED" "unable to read the live pointer"
      .readLivePointer error)
  | none =>
    match live with
    | none => .ok none
    | some bytes => (refuseWith (parseGenerationPointer sha256 bytes)).map some

def casConflict (reason : String) (extra : List (String × Value)) : Refusal :=
  ⟨OPERATION,"WORKSPACE_GENERATION_CAS_CONFLICT",reason,none,("step",textValue "cas") :: extra⟩

def assertSuccession (next current : Value) : Except Refusal Unit := do
  check (strictEqual (get next "hostId") (get current "hostId") &&
      strictEqual (get next "workspaceId") (get current "workspaceId"))
    (casConflict "pointer host/workspace does not match the live pointer" [])
  check (strictEqual (get next "priorGeneration") (get current "activeGeneration"))
    (casConflict "priorGeneration does not match the live activeGeneration"
      [("expectedPriorGeneration",get current "activeGeneration"),
        ("actualPriorGeneration",get next "priorGeneration")])
  check (strictEqual (get next "priorPointerFingerprint") (get current "pointerFingerprint"))
    (casConflict "priorPointerFingerprint does not match the live pointer fingerprint" [])

/-- The compare-and-swap over the currently live pointer. -/
def assertCas (newPointer : Value) (current : Option Value) : Except Refusal Unit :=
  if isNull (get newPointer "priorGeneration") then
    check current.isNone (casConflict "first publication attempted but a pointer is already live" [])
  else
    match current with
    | none => .error (casConflict "successor publication attempted but no pointer is live" [])
    | some current => assertSuccession newPointer current

structure Receipt where
  activeGeneration : Value
  priorGeneration : Value
  pointerFingerprint : Value
  priorPointerFingerprint : Value

def receiptOf (pointer : Value) : Receipt :=
  ⟨get pointer "activeGeneration",get pointer "priorGeneration",get pointer "pointerFingerprint",
    get pointer "priorPointerFingerprint"⟩

def prepareGeneration (faults : Faults) (live : Option Bytes) (newPointer : Value) :
    Except Thrown Bytes := do
  refuseWith (validateGenerationPointer sha256 newPointer)
  let current ← readLiveGeneration sha256 faults live
  refuseWith (assertCas newPointer current)
  refuseWith (generationPointerBytes sha256 newPointer)

def stepFailed (step : IoStep) (error : IoError) : Thrown :=
  ioFailed OPERATION "WORKSPACE_GENERATION_IO_FAILED"
    ("native publication step '" ++ step.name ++ "' failed") step error

def publishGeneration (faults : Faults) (live : Option Bytes) (newPointer : Value) :
    Option Bytes × Except Thrown Receipt :=
  publishPrepared stepFailed faults live (prepareGeneration sha256 faults live newPointer)
    (receiptOf newPointer)

end Pointer

namespace Tombstone

variable (sha256 : List UInt8 → Units)

/-- `readLiveDisposition`: which record the slot holds, with its own fingerprint. -/
structure Disposition where
  kind : String
  fingerprint : Value
  record : Value

def configInvalid (reason : String) : Refusal := refusal CONFIG_INVALID reason

def dispositionOf (bytes : Bytes) : Except Refusal Disposition := do
  let peek ← (parseCanonicalJsonBytes bytes RECORD_LIMITS).mapError
    fun error => configInvalid s!"live slot bytes are not canonical JSON: {error.message}"
  check (isPlainObject peek && match get peek "kind" with | .string _ => true | _ => false)
    (configInvalid "live slot record has no string kind")
  if isText Pointer.KIND (get peek "kind") then do
    let pointer ← Pointer.parseGenerationPointer sha256 bytes
    return ⟨Pointer.KIND,get pointer "pointerFingerprint",pointer⟩
  else if isText KIND (get peek "kind") then do
    validateTombstone sha256 peek
    return ⟨KIND,get peek "tombstoneFingerprint",peek⟩
  else throw {configInvalid "unknown live-slot record kind: " with detail := some (get peek "kind")}

def readLiveDisposition (faults : Faults) (live : Option Bytes) :
    Except Thrown (Option Disposition) :=
  match faults .readLivePointer with
  | some error =>
    .error (ioFailed OPERATION "WORKSPACE_TOMBSTONE_IO_FAILED" "unable to read the live slot"
      .readLivePointer error)
  | none =>
    match live with
    | none => .ok none
    | some bytes => (refuseWith (dispositionOf sha256 bytes)).map some

def casConflict (reason : String) (extra : List (String × Value)) : Refusal :=
  ⟨OPERATION,"WORKSPACE_GENERATION_CAS_CONFLICT",reason,none,("step",textValue "cas") :: extra⟩

def liveGeneration (live : Disposition) : Value :=
  if live.kind = Pointer.KIND then get live.record "activeGeneration"
  else get live.record "tombstonedGeneration"

def assertTombstoneSuccession (next : Value) (live : Disposition) : Except Refusal Unit := do
  check (strictEqual (get next "hostId") (get live.record "hostId") &&
      strictEqual (get next "workspaceId") (get live.record "workspaceId"))
    (casConflict "tombstone host/workspace does not match the live record" [])
  check (isText live.kind (get next "priorKind"))
    (casConflict "priorKind does not match the live record kind"
      [("expectedPriorKind",textValue live.kind),("actualPriorKind",get next "priorKind")])
  check (strictEqual (get next "priorPointerFingerprint") live.fingerprint)
    (casConflict "priorPointerFingerprint does not match the live record fingerprint" [])
  check (strictEqual (get next "tombstonedGeneration") (liveGeneration live))
    (casConflict "tombstonedGeneration does not match the live generation"
      [("expectedTombstonedGeneration",liveGeneration live),
        ("actualTombstonedGeneration",get next "tombstonedGeneration")])

structure Receipt where
  operation : Value
  tombstonedGeneration : Value
  tombstoneFingerprint : Value
  priorPointerFingerprint : Value
  priorKind : Value

def receiptOf (tombstone : Value) : Receipt :=
  ⟨get tombstone "operation",get tombstone "tombstonedGeneration",
    get tombstone "tombstoneFingerprint",get tombstone "priorPointerFingerprint",
    get tombstone "priorKind"⟩

def prepareTombstone (faults : Faults) (live : Option Bytes) (tombstone : Value) :
    Except Thrown Bytes := do
  refuseWith (validateTombstone sha256 tombstone)
  match ← readLiveDisposition sha256 faults live with
  | none => throw (.refusal (casConflict "cannot tombstone an empty live slot" []))
  | some live => do
    refuseWith (assertTombstoneSuccession tombstone live)
    refuseWith (tombstoneBytes sha256 tombstone)

def stepFailed (step : IoStep) (error : IoError) : Thrown :=
  ioFailed OPERATION "WORKSPACE_TOMBSTONE_IO_FAILED"
    ("native tombstone step '" ++ step.name ++ "' failed") step error

def publishTombstone (faults : Faults) (live : Option Bytes) (tombstone : Value) :
    Option Bytes × Except Thrown Receipt :=
  publishPrepared stepFailed faults live (prepareTombstone sha256 faults live tombstone) (receiptOf tombstone)

end Tombstone

section Chain

variable (sha256 : List UInt8 → Units)

structure HoldsPointer (live : Option Bytes) (pointer : Value) : Prop where
  validated : Pointer.validateGenerationPointer sha256 pointer = .ok ()
  spelled : ∃ bytes, canonicalJsonBytes pointer RECORD_LIMITS = .ok bytes ∧ live = some bytes

structure HoldsTombstone (live : Option Bytes) (tombstone : Value) : Prop where
  validated : Tombstone.validateTombstone sha256 tombstone = .ok ()
  spelled : ∃ bytes, canonicalJsonBytes tombstone RECORD_LIMITS = .ok bytes ∧ live = some bytes

inductive ValidSlot : Option Bytes → Prop where
  | absent : ValidSlot none
  | pointer {live : Option Bytes} {pointer : Value} (holds : HoldsPointer sha256 live pointer) :
      ValidSlot live
  | tombstone {live : Option Bytes} {tombstone : Value}
      (holds : HoldsTombstone sha256 live tombstone) : ValidSlot live

def generationOf (record : Value) (key : String) : Option Int := Record.safeInteger (get record key)

inductive Succession : Option Bytes → Option Bytes → Prop where
  | first {after : Option Bytes} {pointer : Value} (holds : HoldsPointer sha256 after pointer)
      (start : isNull (get pointer "priorGeneration") = true)
      (one : generationOf pointer "activeGeneration" = some 1) : Succession none after
  | pointer {before after : Option Bytes} {previous next : Value}
      (held : HoldsPointer sha256 before previous) (holds : HoldsPointer sha256 after next)
      (oneMore : ∃ n, generationOf previous "activeGeneration" = some n ∧
        generationOf next "activeGeneration" = some (n + 1))
      (linked : strictEqual (get next "priorPointerFingerprint")
        (get previous "pointerFingerprint") = true) : Succession before after
  | dispose {before after : Option Bytes} {previous next : Value}
      (held : HoldsPointer sha256 before previous) (holds : HoldsTombstone sha256 after next)
      (same : ∃ n, generationOf previous "activeGeneration" = some n ∧
        generationOf next "tombstonedGeneration" = some n)
      (linked : strictEqual (get next "priorPointerFingerprint")
        (get previous "pointerFingerprint") = true) : Succession before after
  | again {before after : Option Bytes} {previous next : Value}
      (held : HoldsTombstone sha256 before previous) (holds : HoldsTombstone sha256 after next)
      (same : ∃ n, generationOf previous "tombstonedGeneration" = some n ∧
        generationOf next "tombstonedGeneration" = some n)
      (linked : strictEqual (get next "priorPointerFingerprint")
        (get previous "tombstoneFingerprint") = true) : Succession before after

variable {sha256}

/-- No bytes spell a pointer and a tombstone. -/
theorem HoldsPointer.not_tombstone
    (left : HoldsPointer sha256 live pointer) (right : HoldsTombstone sha256 live tombstone) :
    False := by
  obtain ⟨bytes,spelled,rfl⟩ := left.spelled
  obtain ⟨_,spelled',eq⟩ := right.spelled
  cases eq
  have valid := Pointer.validateGenerationPointer_valid sha256 left.validated
  have valid' := Tombstone.validateTombstone_valid sha256 right.validated
  have same := same_of_same_bytes ⟨pointer,valid.distinct⟩ ⟨tombstone,valid'.distinct⟩ spelled spelled'
  have present : hasOwn pointer "kind" := by
    have exact := valid.exact
    cases pointer with
    | object entries =>
      simp only [hasExactKeys,Bool.and_eq_true,List.all_eq_true] at exact
      exact exact.2 "kind" (by decide)
    | _ => simp [hasExactKeys] at exact
  have kinds := get_same valid.distinct valid'.distinct same present
  rw [valid.kind,valid'.kind] at kinds
  generalize eq : Value.string (ofString Pointer.KIND) = k at kinds
  generalize eq' : Value.string (ofString Tombstone.KIND) = k' at kinds
  cases kinds with
  | string text =>
    have clash := eq.trans eq'.symm
    rw [Value.string.injEq] at clash
    exact absurd clash (by decide)
  | _ => cases eq

end Chain

end GjcRemote.Workspace
