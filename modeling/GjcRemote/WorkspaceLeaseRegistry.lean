import GjcRemote.OrderedMap
import GjcRemote.Runs
import GjcRemote.StrictJson

/-! The managed-binding authority and activity fence, from
`daemon/src/workspace-lease-registry.js`. Activity entries are objects that leases
keep hold of after they leave the map, so they live in a heap and both the map and the
leases refer to them by position. -/
namespace GjcRemote.WorkspaceLease

open Utf16 StrictJson

/-- A field of a candidate, as JavaScript tells values apart. An object compares by
identity and is converted to text where a pattern is tested against it. -/
inductive Js where
  | undefined
  | number (value : Number)
  | nan
  | string (text : Units)
  | object (identity : Nat) (text : Units)
  deriving DecidableEq

/-- `===`. The two zeros are equal; the double that is not a number equals nothing. -/
def strictEqual : Js → Js → Bool
  | .undefined,.undefined => true
  | .number .negativeZero,.number n => n == .int 0 || n == .negativeZero
  | .number n,.number .negativeZero => n == .int 0
  | .number m,.number n => m == n
  | .string s,.string t => s == t
  | .object a _,.object b _ => a == b
  | _,_ => false

/-- `Number.isSafeInteger` and its value. -/
def safeInteger : Js → Option Int
  | .number (.int n) => if isSafeInteger (.int n) then some n else none
  | .number .negativeZero => some 0
  | _ => none

def isNonEmptyString : Js → Bool
  | .string text => text ≠ []
  | _ => false

/-- `/^[0-9a-f]{64}$/.test(value)`. No number or undefined is spelled with 64 digits. -/
def matchesHex64 : Js → Bool
  | .string text => isHex64 text
  | .object _ text => isHex64 text
  | _ => false

/-- `left < right` between generation fields: undefined never compares, and every
other value that gets this far is a safe integer. -/
def lessThan (left right : Js) : Bool :=
  match safeInteger left,safeInteger right with
  | some l,some r => l < r
  | _,_ => false

/-- `value ?? 0` of a validated generation field. -/
def generationOrZero (value : Js) : Int := (safeInteger value).getD 0

inductive Field where
  | authorityEpoch | fenceGeneration | hostId | mappingId | mappingGeneration | mappingVersion
  | workspaceId | workspaceGeneration | sourcePlatform | routeFingerprint | authorityFingerprint
  | inventoryGeneration | inventoryFingerprint | socketGeneration | bindingId | bindingFingerprint
  deriving DecidableEq, Repr

open Field in
def V3_AUTHORITY_FIELDS : List Field :=
  [authorityEpoch,fenceGeneration,hostId,mappingId,mappingGeneration,mappingVersion,workspaceId,
    workspaceGeneration,sourcePlatform,authorityFingerprint,inventoryGeneration,inventoryFingerprint]

open Field in
def V2_AUTHORITY_FIELDS : List Field :=
  [hostId,mappingId,mappingGeneration,mappingVersion,workspaceId,workspaceGeneration,
    sourcePlatform,routeFingerprint,authorityFingerprint,inventoryGeneration]

open Field in
def GENERATION_FIELDS : List Field :=
  [authorityEpoch,fenceGeneration,mappingGeneration,workspaceGeneration,inventoryGeneration]

open Field in
def RECEIPT_IDENTITY_FIELDS : List Field := [socketGeneration,bindingId,bindingFingerprint]

/-- What a caller passes: an absent property is undefined, and so is every property of
null and of a primitive. -/
abbrev Candidate := Field → Js

inductive LeaseError where
  | leaseConflict
  | workspaceAdmissionExceeded
  | workspaceBusy
  | typeError (message : String)
  deriving DecidableEq, Repr

structure Authority where
  value : Candidate
  workspaceId : Units
  named : value .workspaceId = .string workspaceId

variable (candidate : Candidate)

def authorityFields : List Field :=
  if candidate .authorityEpoch = .undefined then V2_AUTHORITY_FIELDS else V3_AUTHORITY_FIELDS

def hasReceiptIdentity : Bool :=
  candidate .authorityEpoch ≠ .undefined || candidate .socketGeneration ≠ .undefined

def validGeneration (value : Js) : Bool := (safeInteger value).any fun n => 0 ≤ n

/-- The checks of `requireAuthority`. -/
def authorityIsValid : Bool :=
  let generationFields :=
    if candidate .authorityEpoch = .undefined then
      [.mappingGeneration,.workspaceGeneration,.inventoryGeneration]
    else GENERATION_FIELDS
  (authorityFields candidate).all (fun field => candidate field ≠ .undefined) &&
    isNonEmptyString (candidate .workspaceId) &&
    generationFields.all (fun field => validGeneration (candidate field)) &&
    (!hasReceiptIdentity candidate ||
      (RECEIPT_IDENTITY_FIELDS.all (fun field => candidate field ≠ .undefined) &&
        (safeInteger (candidate .socketGeneration)).any (fun n => 1 ≤ n) &&
        isNonEmptyString (candidate .bindingId) &&
        matchesHex64 (candidate .bindingFingerprint)))

/-- The fields that `requireAuthority` copies. -/
def keptFields : List Field :=
  authorityFields candidate ++
    if hasReceiptIdentity candidate then RECEIPT_IDENTITY_FIELDS else []

def restrict (kept : List Field) : Candidate :=
  fun field => if field ∈ kept then candidate field else .undefined

theorem workspaceId_kept : .workspaceId ∈ keptFields candidate := by
  unfold keptFields authorityFields
  split <;> simp [V2_AUTHORITY_FIELDS,V3_AUTHORITY_FIELDS]

def requireAuthority : Except LeaseError Authority :=
  match named : candidate .workspaceId with
  | .string workspaceId =>
    if authorityIsValid candidate then
      .ok ⟨restrict candidate (keptFields candidate),workspaceId,by
        rw [restrict,if_pos (workspaceId_kept candidate),named]⟩
    else .error (.typeError "workspace lease authority is invalid")
  | _ => .error (.typeError "workspace lease authority is invalid")

def sameAuthority (left right : Candidate) : Bool :=
  (authorityFields left ++ RECEIPT_IDENTITY_FIELDS).all fun field =>
    strictEqual (left field) (right field)

def regresses (previous candidate : Candidate) : Bool :=
  let fields : List Field :=
    GENERATION_FIELDS ++ if previous .socketGeneration = .undefined then [] else [.socketGeneration]
  fields.any fun field => lessThan (candidate field) (previous field)

def authorityChanged (previous candidate : Candidate) : Bool :=
  let fields : List Field :=
    [.hostId,.mappingId,.mappingVersion,.sourcePlatform] ++
      (if previous .authorityEpoch = .undefined then [.routeFingerprint] else []) ++
      [.authorityFingerprint]
  fields.any fun field => !strictEqual (previous field) (candidate field)

structure Activity where
  receipt : Bool
  socketGeneration : Js
  bindingId : Js
  bindingFingerprint : Js
  fence : Int
  holders : Int
  exclusive : Bool
  invalidated : Bool

structure Bounds where
  maxWorkspaces : Nat
  maxActiveWorkspaces : Nat
  positive : 1 ≤ maxWorkspaces ∧ 1 ≤ maxActiveWorkspaces

/-- `heap` holds every entry ever made, `allocated` of them. -/
structure Registry where
  bounds : Bounds
  authorities : OrderedMap Units Authority
  activities : OrderedMap Units Nat
  heap : Nat → Activity
  allocated : Nat
  nextFence : Int

def unusedActivity : Activity :=
  ⟨false,.undefined,.undefined,.undefined,0,0,false,false⟩

def Registry.new (bounds : Bounds) : Registry :=
  ⟨bounds,.empty,.empty,fun _ => unusedActivity,0,0⟩

variable (r : Registry)

def Registry.modify (ref : Nat) (change : Activity → Activity) : Registry :=
  {r with heap := fun i => if i = ref then change (r.heap i) else r.heap i}

/-- `activity.invalidated = true`, and the entry leaves the map if nothing holds it. -/
def Registry.invalidate (workspaceId : Units) : Registry :=
  match r.activities.get workspaceId with
  | none => r
  | some ref =>
    let r := r.modify ref fun a => {a with invalidated := true}
    if (r.heap ref).holders = 0 then {r with activities := r.activities.delete workspaceId} else r

def adoptBinding (candidate : Candidate) : Registry × Except LeaseError Bool :=
  match requireAuthority candidate with
  | .error error => (r,.error error)
  | .ok authority =>
    match r.authorities.get authority.workspaceId with
    | none =>
      if r.bounds.maxWorkspaces ≤ r.authorities.size then (r,.ok false)
      else ({r with authorities := r.authorities.set authority.workspaceId authority},.ok true)
    | some previous =>
      if sameAuthority previous.value authority.value then (r,.ok true)
      else if regresses previous.value authority.value then (r,.ok false)
      else
        let advanced (field : Field) : Bool := lessThan (previous.value field) (authority.value field)
        let mappingAdvanced := advanced .mappingGeneration || advanced .workspaceGeneration
        let inventoryAdvanced := advanced .inventoryGeneration
        let grown (field : Field) : Bool :=
          generationOrZero (previous.value field) < generationOrZero (authority.value field)
        let fenceAdvanced := grown .authorityEpoch || grown .fenceGeneration || grown .socketGeneration
        if !mappingAdvanced && !inventoryAdvanced && !fenceAdvanced then (r,.ok false)
        else if authorityChanged previous.value authority.value && !mappingAdvanced then (r,.ok false)
        else
          let r := {r with authorities := r.authorities.set authority.workspaceId authority}
          (r.invalidate authority.workspaceId,.ok true)

/-- The ids come in the order of the two maps, each once. -/
def invalidateAll : Registry × List Units :=
  let ids := r.activities.keys ++ r.authorities.keys.filter fun id => id ∉ r.activities.keys
  let r := r.activities.keys.foldl Registry.invalidate r
  ({r with authorities := .empty},ids)

def retireBinding (candidate : Candidate) : Registry × Except LeaseError Bool :=
  match requireAuthority candidate with
  | .error error => (r,.error error)
  | .ok authority =>
    match r.authorities.get authority.workspaceId with
    | none => (r,.ok false)
    | some current =>
      if !sameAuthority current.value authority.value then (r,.ok false)
      else
        let r := {r with authorities := r.authorities.delete authority.workspaceId}
        (r.invalidate authority.workspaceId,.ok true)

/-- The closure `acquireActivity` returns: what it captured, and its own flag. -/
structure Lease where
  authority : Authority
  entry : Nat
  fence : Int
  exclusive : Bool
  released : Bool

/-- Some holder of another identity is behind `entry`, or its binding is gone. -/
def identityMismatch (entry : Activity) (receipt : Bool) (authority : Candidate)
    (legacyBindingFingerprint : Js) : Bool :=
  entry.invalidated || entry.receipt != receipt ||
    (receipt && (!strictEqual entry.socketGeneration (authority .socketGeneration) ||
        !strictEqual entry.bindingId (authority .bindingId) ||
        !strictEqual entry.bindingFingerprint (authority .bindingFingerprint))) ||
    (!receipt && !strictEqual entry.bindingFingerprint legacyBindingFingerprint)

/-- The fence counter starts again after the largest safe integer. -/
def fenceAfter (fence : Int) : Int := if maxSafeInteger ≤ fence then 1 else fence + 1

/-- A brand-new entry, or the admission error at the ceiling. -/
def createEntry (authority : Authority) (receipt : Bool)
    (legacyBindingFingerprint : Js) : Except LeaseError (Registry × Nat) :=
  if r.bounds.maxActiveWorkspaces ≤ r.activities.size then .error .workspaceAdmissionExceeded
  else
    let fence := fenceAfter r.nextFence
    let entry : Activity :=
      ⟨receipt,authority.value .socketGeneration,authority.value .bindingId,
        if receipt then authority.value .bindingFingerprint else legacyBindingFingerprint,
        fence,0,false,false⟩
    .ok ({r with
      activities := r.activities.set authority.workspaceId r.allocated
      heap := fun i => if i = r.allocated then entry else r.heap i
      allocated := r.allocated + 1
      nextFence := fence},r.allocated)

/-- The end of `acquireActivity`: exclusive-mode gating, then the reservation. -/
def reserve (authority : Authority) (ref : Nat) (exclusive : Bool) :
    Registry × Except LeaseError Lease :=
  let entry := r.heap ref
  if entry.exclusive && 0 < entry.holders then (r,.error .workspaceBusy)
  else if exclusive && 0 < entry.holders then (r,.error .workspaceBusy)
  else
    let r := if exclusive then r.modify ref fun a => {a with exclusive := true} else r
    let r := r.modify ref fun a => {a with holders := a.holders + 1}
    (r,.ok ⟨authority,ref,entry.fence,exclusive,false⟩)

def acquireActivity (candidate : Candidate) (exclusive : Bool) :
    Registry × Except LeaseError Lease :=
  match requireAuthority candidate with
  | .error error => (r,.error error)
  | .ok authority =>
    let receipt : Bool := authority.value .socketGeneration ≠ .undefined
    let legacyBindingFingerprint := candidate .bindingFingerprint
    if !receipt && !isNonEmptyString legacyBindingFingerprint then
      (r,.error (.typeError "workspace lease identity is invalid"))
    else
      match r.authorities.get authority.workspaceId with
      | none => (r,.error .leaseConflict)
      | some currentAuthority =>
        if !sameAuthority currentAuthority.value authority.value then (r,.error .leaseConflict)
        else
          let create (r : Registry) : Registry × Except LeaseError Lease :=
            match createEntry r authority receipt legacyBindingFingerprint with
            | .error error => (r,.error error)
            | .ok (r,ref) => reserve r authority ref exclusive
          match r.activities.get authority.workspaceId with
          | none => create r
          | some ref =>
            if identityMismatch (r.heap ref) receipt authority.value legacyBindingFingerprint then
              if 0 < (r.heap ref).holders then (r,.error .leaseConflict)
              else create {r with activities := r.activities.delete authority.workspaceId}
            else reserve r authority ref exclusive

/-- `lease.isCurrent()`: comparing with a missing authority throws. -/
def isCurrent (lease : Lease) : Except LeaseError Bool :=
  if lease.released then .ok false
  else if (r.heap lease.entry).invalidated then .ok false
  else if r.activities.get lease.authority.workspaceId ≠ some lease.entry then .ok false
  else
    match r.authorities.get lease.authority.workspaceId with
    | none => .error (.typeError "Cannot read properties of undefined")
    | some authority => .ok (sameAuthority authority.value lease.authority.value)

/-- `lease.release()`, apart from the lease's own flag. -/
def releaseEntry (lease : Lease) : Registry :=
  let r := r.modify lease.entry fun a => {a with holders := a.holders - 1}
  if (r.heap lease.entry).holders = 0 then
    {r with activities := r.activities.delete lease.authority.workspaceId}
  else r

structure State where
  registry : Registry
  leases : List Lease

def State.new (bounds : Bounds) : State := ⟨.new bounds,[]⟩

inductive Call where
  | adoptBinding (candidate : Candidate)
  | retireBinding (candidate : Candidate)
  | invalidateAll
  | acquireActivity (candidate : Candidate) (exclusive : Bool)
  | release (lease : Nat)

inductive Answer where
  | bool (value : Bool)
  | ids (workspaceIds : List Units)
  | lease (position : Nat)
  | done
  | thrown (error : LeaseError)

def answerBool : Except LeaseError Bool → Answer
  | .ok value => .bool value
  | .error error => .thrown error

def release (s : State) (position : Nat) : State :=
  match s.leases[position]? with
  | none => s
  | some lease =>
    if lease.released then s
    else ⟨releaseEntry s.registry lease,s.leases.set position {lease with released := true}⟩

def step (s : State) : Call → State × Answer
  | .adoptBinding candidate =>
    let (r,result) := adoptBinding s.registry candidate
    ({s with registry := r},answerBool result)
  | .retireBinding candidate =>
    let (r,result) := retireBinding s.registry candidate
    ({s with registry := r},answerBool result)
  | .invalidateAll =>
    let (r,ids) := invalidateAll s.registry
    ({s with registry := r},.ids ids)
  | .acquireActivity candidate exclusive =>
    match acquireActivity s.registry candidate exclusive with
    | (r,.error error) => ({s with registry := r},.thrown error)
    | (r,.ok lease) => (⟨r,s.leases ++ [lease]⟩,.lease s.leases.length)
  | .release position => (release s position,.done)

def runCalls (bounds : Bounds) (calls : List Call) : State := Runs.run step (.new bounds) calls

end GjcRemote.WorkspaceLease
