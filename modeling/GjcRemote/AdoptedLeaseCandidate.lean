import GjcRemote.WorkspaceLeaseRegistry

/-! The fence identity of a lifecycle operation, from
`daemon/src/workspace-adopted-lease-candidate.js`, beside the ones that binding
(`acceptReceiptBinding`) and invoking (`admitReadyWorkload`) build in
`daemon/src/daemon.js`. -/
namespace GjcRemote.WorkspaceLease

open Utf16 StrictJson List

open Field in
def RECEIPT_AUTHORITY_FIELDS : List Field :=
  [authorityEpoch,fenceGeneration,hostId,mappingId,mappingGeneration,workspaceGeneration,
    mappingVersion,sourcePlatform,workspaceId,authorityFingerprint]

/-- `receiptAuthority` of the daemon is the same function. -/
def projectReceiptAuthority (message : Candidate) : Candidate :=
  restrict message RECEIPT_AUTHORITY_FIELDS

/-- Spreading properties over an object: later ones win. -/
def assign (base : Candidate) (properties : List (Field × Js)) : Candidate :=
  properties.foldl (fun c p field => if field = p.1 then p.2 else c field) base

structure Proof where
  inventoryGeneration : Js
  inventoryFingerprint : Js
  bindingFingerprint : Js

def Proof.properties (proof : Proof) : List (Field × Js) :=
  [(.inventoryGeneration,proof.inventoryGeneration),(.inventoryFingerprint,proof.inventoryFingerprint),
    (.bindingFingerprint,proof.bindingFingerprint)]

/-- The members of a binding state that the fence identity is built from. -/
structure BindingRecord where
  binding : Candidate
  receipt : Bool
  proof : Option Proof

structure ReceiptIdentity where
  socketGeneration : Js
  bindingId : Js
  bindingFingerprint : Js

def ReceiptIdentity.properties (identity : ReceiptIdentity) : List (Field × Js) :=
  [(.socketGeneration,identity.socketGeneration),(.bindingId,identity.bindingId),
    (.bindingFingerprint,identity.bindingFingerprint)]

def isString : Js → Bool
  | .string _ => true
  | _ => false

section

variable (socketGeneration : Js)

def resolveReceiptActivityIdentity (record : BindingRecord) :
    Option ReceiptIdentity :=
  match record.proof with
  | none => none
  | some proof =>
    if record.receipt && (safeInteger socketGeneration).any (fun n => 1 ≤ n) &&
        isString (record.binding .bindingId) && matchesHex64 proof.bindingFingerprint then
      some ⟨socketGeneration,record.binding .bindingId,proof.bindingFingerprint⟩
    else none

/-- `computeLegacyBindingFingerprint` hashes the flat binding; `none` when it throws. -/
def buildAdoptedLeaseCandidate (record : BindingRecord)
    (computeLegacyBindingFingerprint : Candidate → Option Js) : Option Candidate :=
  let receiptIdentity := resolveReceiptActivityIdentity socketGeneration record
  let bindingFingerprint : Option Js :=
    match receiptIdentity with
    | some identity => some identity.bindingFingerprint
    | none => computeLegacyBindingFingerprint record.binding
  match bindingFingerprint with
  | none => none
  | some fingerprint =>
    if !(isString fingerprint && matchesHex64 fingerprint) then none
    else
      let authority :=
        if record.receipt then projectReceiptAuthority record.binding else record.binding
      some (assign authority ((.bindingFingerprint,fingerprint) ::
        (receiptIdentity.map ReceiptIdentity.properties).getD []))

def resolveAdoptedLeaseCandidateForWorkspace (bindings : OrderedMap Units BindingRecord)
    (socketGeneration : Js) (workspaceId : Units)
    (computeLegacyBindingFingerprint : Candidate → Option Js) : Option Candidate :=
  if workspaceId = [] then none
  else
    match bindings.entries.filter fun e => e.2.binding .workspaceId = .string workspaceId with
    | [(_,record)] =>
      buildAdoptedLeaseCandidate socketGeneration record computeLegacyBindingFingerprint
    | _ => none

/-- What `acceptReceiptBinding` adopts. -/
def adoptionCandidate (message : Candidate) (proof : Proof) : Candidate :=
  assign (projectReceiptAuthority message)
    (proof.properties ++ [(.socketGeneration,socketGeneration),(.bindingId,message .bindingId)])

/-- What `admitReadyWorkload` acquires. -/
def admissionCandidate (record : BindingRecord)
    (bindingFingerprint : Candidate → Js) : Candidate :=
  let receiptIdentity := resolveReceiptActivityIdentity socketGeneration record
  let fingerprint :=
    match receiptIdentity with
    | some identity => identity.bindingFingerprint
    | none => bindingFingerprint record.binding
  assign (if record.receipt then projectReceiptAuthority record.binding else record.binding)
    ((if record.receipt then (record.proof.map Proof.properties).getD [] else []) ++
      (.bindingFingerprint,fingerprint) ::
      (receiptIdentity.map ReceiptIdentity.properties).getD [])

end

def isWire : Js → Bool
  | .undefined | .number (.int _) | .string _ => true
  | _ => false

/-- A receipt binding after a successful bind: its proof is set and some registry
adopted its authority. The message and the inventory were read from JSON. -/
structure AdoptedReceipt where
  socketGeneration : Js
  record : BindingRecord
  proof : Proof
  registry : Registry
  receipt : record.receipt = true
  proved : record.proof = some proof
  wire : ∀ field, isWire (adoptionCandidate socketGeneration record.binding proof field) = true
  adopted : (adoptBinding registry (adoptionCandidate socketGeneration record.binding proof)).2 = .ok true

def granted (result : Registry × Except LeaseError Lease) : Bool :=
  match result.2 with
  | .ok _ => true
  | .error _ => false

/-- Wherever no activity stands in the way, the lifecycle candidate takes its exclusive
lease exactly when the invoke candidate takes its shared one. -/
def CandidatesAgree (lifecycle invoke : Candidate) : Prop :=
  ∀ registry : Registry, registry.activities.size = 0 →
    (granted (acquireActivity registry lifecycle true) = true ↔
      granted (acquireActivity registry invoke false) = true)

theorem strictEqual_self (wire : isWire value) :
    strictEqual value value := by
  cases value with
  | number n => cases n <;> simp_all [isWire,strictEqual]
  | _ => simp_all [isWire,strictEqual]

theorem isString_of_nonEmpty (nonempty : isNonEmptyString value) :
    isString value := by
  cases value <;> simp_all [isNonEmptyString,isString]

theorem requireAuthority_ok (accepted : requireAuthority candidate = .ok a) :
    authorityIsValid candidate ∧ a.value = restrict candidate (keptFields candidate) := by
  unfold requireAuthority at accepted
  split at accepted
  · split at accepted
    · rename_i valid
      cases accepted
      exact ⟨valid,rfl⟩
    · cases accepted
  · cases accepted

theorem requireAuthority_invalid (invalid : authorityIsValid candidate = false) :
    requireAuthority candidate = .error (.typeError "workspace lease authority is invalid") := by
  unfold requireAuthority
  split
  · rw [if_neg (by simp [invalid])]
  · rfl

theorem adopted_accepts (adopted : (adoptBinding r candidate).2 = .ok true) :
    ∃ a, requireAuthority candidate = .ok a := by
  cases accepted : requireAuthority candidate with
  | error error => simp [adoptBinding,accepted] at adopted
  | ok a => exact ⟨a,rfl⟩

/-- An authority without an epoch would need a route fingerprint, which no receipt has. -/
theorem adoption_epoch (valid : authorityIsValid (adoptionCandidate socketGeneration message proof)) :
    message .authorityEpoch ≠ .undefined := by
  intro missing
  have epoch : adoptionCandidate socketGeneration message proof .authorityEpoch = .undefined := by
    simp [adoptionCandidate,assign,Proof.properties,projectReceiptAuthority,restrict,
      RECEIPT_AUTHORITY_FIELDS,missing]
  have route : adoptionCandidate socketGeneration message proof .routeFingerprint = .undefined := by
    simp [adoptionCandidate,assign,Proof.properties,projectReceiptAuthority,restrict,RECEIPT_AUTHORITY_FIELDS]
  simp [authorityIsValid,authorityFields,epoch,V2_AUTHORITY_FIELDS,route] at valid

variable (b : AdoptedReceipt)

/-- The receipt identity is proven, from what adoption already checked. -/
theorem adopted_identity :
    resolveReceiptActivityIdentity b.socketGeneration b.record =
      some ⟨b.socketGeneration,b.record.binding .bindingId,b.proof.bindingFingerprint⟩ := by
  obtain ⟨a,accepted⟩ := adopted_accepts b.adopted
  have valid := (requireAuthority_ok accepted).1
  have epoch := adoption_epoch valid
  have receiptChecks : (safeInteger b.socketGeneration).any (fun n => decide (1 ≤ n)) ∧
      isNonEmptyString (b.record.binding .bindingId) ∧
      matchesHex64 b.proof.bindingFingerprint := by
    simp only [authorityIsValid,Bool.and_eq_true,Bool.or_eq_true] at valid
    have identity := valid.2.resolve_left (by
      simp [hasReceiptIdentity,adoptionCandidate,assign,Proof.properties,projectReceiptAuthority,
        restrict,RECEIPT_AUTHORITY_FIELDS,epoch])
    obtain ⟨⟨⟨_,socket⟩,bindingId⟩,fingerprint⟩ := identity
    refine ⟨?_,?_,?_⟩
    · simpa [adoptionCandidate,assign] using socket
    · simpa [adoptionCandidate,assign] using bindingId
    · simpa [adoptionCandidate,assign,Proof.properties] using fingerprint
  obtain ⟨socket,bindingId,fingerprint⟩ := receiptChecks
  simp [resolveReceiptActivityIdentity,b.proved,b.receipt,socket,isString_of_nonEmpty bindingId,fingerprint]

/-- Invoking presents exactly what binding adopted. -/
theorem admissionCandidate_eq (bindingFingerprint : Candidate → Js) :
    admissionCandidate b.socketGeneration b.record bindingFingerprint =
      adoptionCandidate b.socketGeneration b.record.binding b.proof := by
  unfold admissionCandidate
  rw [adopted_identity b,b.receipt,b.proved]
  funext field
  cases field <;> simp [adoptionCandidate,assign,Proof.properties,ReceiptIdentity.properties]

/-- The lifecycle candidate leaves out the inventory members of the proof. -/
theorem lifecycle_lacks_inventory
    (built : buildAdoptedLeaseCandidate b.socketGeneration b.record legacy = some candidate) :
    candidate .inventoryGeneration = .undefined ∧ candidate .authorityEpoch ≠ .undefined := by
  obtain ⟨a,accepted⟩ := adopted_accepts b.adopted
  have epoch := adoption_epoch (requireAuthority_ok accepted).1
  simp only [buildAdoptedLeaseCandidate,adopted_identity b,b.receipt,if_true] at built
  split at built
  · cases built
  · cases built
    constructor
    · simp [assign,ReceiptIdentity.properties,projectReceiptAuthority,restrict,RECEIPT_AUTHORITY_FIELDS]
    · simpa [assign,ReceiptIdentity.properties,projectReceiptAuthority,restrict,
        RECEIPT_AUTHORITY_FIELDS] using epoch

/-- So the registry refuses it, whatever state it is in. -/
theorem lacking_inventory_refused (missing : candidate .inventoryGeneration = .undefined)
    (epoch : candidate .authorityEpoch ≠ .undefined) (r : Registry) (exclusive : Bool) :
    acquireActivity r candidate exclusive = (r,.error (.typeError "workspace lease authority is invalid")) := by
  have invalid : authorityIsValid candidate = false := by
    simp [authorityIsValid,authorityFields,epoch,V3_AUTHORITY_FIELDS,missing]
  rw [acquireActivity,requireAuthority_invalid invalid]

/-- A registry that knows one authority and has no activity. -/
def Registry.knowing (bounds : Bounds) (a : Authority) : Registry :=
  {Registry.new bounds with authorities := OrderedMap.empty.set a.workspaceId a}

theorem sameAuthority_self (wire : ∀ field, isWire (value field)) :
    sameAuthority value value := by
  rw [sameAuthority,all_eq_true]
  exact fun field _ => strictEqual_self (wire field)

/-- The registry that adopted the binding would grant an invoke its lease. -/
theorem admission_granted (bindingFingerprint : Candidate → Js) :
    ∃ r : Registry, r.activities.size = 0 ∧ granted (acquireActivity r
      (admissionCandidate b.socketGeneration b.record bindingFingerprint) false) := by
  obtain ⟨a,accepted⟩ := adopted_accepts b.adopted
  obtain ⟨valid,value⟩ := requireAuthority_ok accepted
  have epoch := adoption_epoch valid
  have identified : hasReceiptIdentity
      (adoptionCandidate b.socketGeneration b.record.binding b.proof) := by
    simp [hasReceiptIdentity,adoptionCandidate,assign,Proof.properties,projectReceiptAuthority,
      restrict,RECEIPT_AUTHORITY_FIELDS,epoch]
  have receipt : a.value .socketGeneration ≠ .undefined := by
    simp only [authorityIsValid,Bool.and_eq_true,Bool.or_eq_true,identified] at valid
    have present := all_eq_true.mp (valid.2.resolve_left (by simp)).1.1.1 .socketGeneration
      (by simp [RECEIPT_IDENTITY_FIELDS])
    rw [value,restrict,if_pos (by simp [keptFields,identified,RECEIPT_IDENTITY_FIELDS])]
    simpa using present
  have wire : ∀ field, isWire (a.value field) := by
    intro field
    rw [value,restrict]
    split
    · exact b.wire field
    · rfl
  refine ⟨.knowing b.registry.bounds a,rfl,?_⟩
  have room : ¬ b.registry.bounds.maxActiveWorkspaces ≤ 0 := by
    have := b.registry.bounds.positive.2
    omega
  rw [admissionCandidate_eq,acquireActivity,accepted]
  simp [Registry.knowing,Registry.new,receipt,sameAuthority_self wire,createEntry,reserve,room,
    granted,show (OrderedMap.empty : OrderedMap Units Nat).size = 0 from rfl]

/-- Whenever the resolution answers for an adopted binding, it built the candidate
from that binding. -/
theorem resolved_from (member : (bindingId,b.record) ∈ bindings.entries)
    (named : b.record.binding .workspaceId = .string workspaceId)
    (resolved : resolveAdoptedLeaseCandidateForWorkspace bindings b.socketGeneration workspaceId
      legacy = some candidate) :
    buildAdoptedLeaseCandidate b.socketGeneration b.record legacy = some candidate := by
  unfold resolveAdoptedLeaseCandidateForWorkspace at resolved
  split at resolved
  · cases resolved
  split at resolved
  · rename_i key record only
    have inside : (bindingId,b.record) ∈ bindings.entries.filter
        fun e => e.2.binding .workspaceId = .string workspaceId :=
      mem_filter.mpr ⟨member,by simpa using named⟩
    rw [only,mem_singleton] at inside
    cases inside
    exact resolved
  · cases resolved

/-- For no adopted receipt binding does the lifecycle resolution return a candidate
that agrees with the invoke path: the registry refuses it in every state, while an
invoke is granted its lease. -/
theorem lifecycle_never_agrees (b : AdoptedReceipt) (bindings : OrderedMap Units BindingRecord)
    (bindingId workspaceId : Units) (legacy : Candidate → Option Js)
    (bindingFingerprint : Candidate → Js) (member : (bindingId,b.record) ∈ bindings.entries)
    (named : b.record.binding .workspaceId = .string workspaceId) :
    ¬ ∃ candidate, resolveAdoptedLeaseCandidateForWorkspace bindings b.socketGeneration workspaceId legacy =
        some candidate ∧
      CandidatesAgree candidate (admissionCandidate b.socketGeneration b.record bindingFingerprint) := by
  rintro ⟨candidate,resolved,agree⟩
  obtain ⟨missing,epoch⟩ := lifecycle_lacks_inventory b (resolved_from b member named resolved)
  obtain ⟨r,idle,accepted⟩ := admission_granted b bindingFingerprint
  have both := (agree r idle).mpr accepted
  rw [lacking_inventory_refused missing epoch] at both
  simp [granted] at both

/-- A receipt binding as the bot sends it, first generation throughout. -/
def sampleReceipt : Candidate
  | .authorityEpoch | .fenceGeneration | .mappingGeneration | .mappingVersion
  | .workspaceGeneration => .number (.int 1)
  | .hostId | .mappingId | .workspaceId | .bindingId => .string [0x61]
  | .sourcePlatform => .string (ofString "posix")
  | .authorityFingerprint => .string (replicate 64 0x61)
  | _ => .undefined

def sampleProof : Proof :=
  ⟨.number (.int 1),.string (replicate 64 0x62),.string (replicate 64 0x63)⟩

def sampleAdopted : AdoptedReceipt where
  socketGeneration := .number (.int 1)
  record := ⟨sampleReceipt,true,some sampleProof⟩
  proof := sampleProof
  registry := .new ⟨64,8,by decide⟩
  receipt := rfl
  proved := rfl
  wire := by intro field; cases field <;> rfl
  adopted := rfl

def sampleBindings : OrderedMap Units BindingRecord :=
  ⟨[([0x61],sampleAdopted.record)],by simp⟩

theorem lifecycle_never_agrees_sample :
    ¬ ∃ candidate, resolveAdoptedLeaseCandidateForWorkspace sampleBindings (.number (.int 1)) [0x61]
        (fun _ => none) = some candidate ∧ CandidatesAgree candidate
        (admissionCandidate (.number (.int 1)) sampleAdopted.record fun _ => .undefined) :=
  lifecycle_never_agrees sampleAdopted sampleBindings [0x61] [0x61] (fun _ => none)
    (fun _ => .undefined) (by simp [sampleBindings]) rfl

/-- In the registry that adopted this binding an invoke gets its lease, and the
lifecycle candidate of the same binding is a type error. -/
theorem sample_disagrees :
    let r := (adoptBinding (.new ⟨64,8,by decide⟩)
      (adoptionCandidate (.number (.int 1)) sampleReceipt sampleProof)).1
    granted (acquireActivity r (admissionCandidate (.number (.int 1))
      ⟨sampleReceipt,true,some sampleProof⟩ fun _ => .undefined) false) = true ∧
    ∃ candidate,
      resolveAdoptedLeaseCandidateForWorkspace sampleBindings (.number (.int 1)) [0x61]
        (fun _ => none) = some candidate ∧
      (acquireActivity r candidate true).2 =
        .error (.typeError "workspace lease authority is invalid") :=
  ⟨by rfl,_,rfl,by rfl⟩

end GjcRemote.WorkspaceLease
