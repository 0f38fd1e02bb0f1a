import GjcRemote.Envelope
import GjcRemote.ReceiptBindRace

/-! The authorisation of lifecycle messages, from `shared/protocol.js` and
`daemon/src/workspace-create-boot-wiring.js`: the shape of the four messages, the binding a
message is measured by, and the comparison field by field. -/
namespace GjcRemote.LifecycleAuthority

open Utf16 StrictJson Record Envelope
open List hiding get
open ReceiptBinding (Binding State Config Event Generation isOpaqueId runEvents)

def HOST_ID : Nat := 128

def isBoundedString (maxLength : Nat) : Value → Bool
  | .string text => text.length ≤ maxLength && 0 < text.length
  | _ => false

/-- Bounded and of `WORKSPACE_ID_PATTERN`; `isWorkspaceId` is the same. -/
def isMappingId : Value → Bool
  | .string text => isOpaqueId text
  | _ => false

def BINDING_SOURCE_PLATFORMS : List String := ["posix","windows-drive","windows-unc"]

def WORKSPACE_LIFECYCLE_AUTHORITY_FIELDS : List String :=
  ["hostId","mappingId","mappingGeneration","mappingVersion","workspaceId","workspaceGeneration",
    "sourcePlatform","routeFingerprint","authorityFingerprint"]

def WORKSPACE_LIFECYCLE_MESSAGE_FIELDS : List String :=
  ["type","operation"] ++ WORKSPACE_LIFECYCLE_AUTHORITY_FIELDS ++
    ["inventoryGeneration","idempotencyFingerprint"]

def WORKSPACE_LIFECYCLE_OPERATIONS : List (String × List String) :=
  [("workspace_create",["create","clone"]),("workspace_refresh",["refresh"]),
    ("workspace_reset_delete",["reset","delete"]),
    ("workspace_restore_migration",["restore","migration"])]

def isWorkspaceLifecycleAuthorityShape (value : Value) : Bool :=
  isPlainObject value && isBoundedString HOST_ID (get value "hostId") &&
    isMappingId (get value "mappingId") && isGeneration (get value "mappingGeneration") &&
    isGeneration (get value "mappingVersion") && isMappingId (get value "workspaceId") &&
    isGeneration (get value "workspaceGeneration") &&
    isOneOf BINDING_SOURCE_PLATFORMS (get value "sourcePlatform") &&
    isHex (get value "routeFingerprint") && isHex (get value "authorityFingerprint") &&
    isGeneration (get value "inventoryGeneration")

def isWorkspaceLifecycleMessageShape (value : Value) (type : String) (operations : List String) : Bool :=
  isWorkspaceLifecycleAuthorityShape value && isText type (get value "type") &&
    isHex (get value "idempotencyFingerprint") && isOneOf operations (get value "operation") &&
    hasExactKeys value WORKSPACE_LIFECYCLE_MESSAGE_FIELDS

/-- The four predicates differ in their type, and no message has two of them. -/
def isWorkspaceLifecycleMessage (value : Value) : Bool :=
  WORKSPACE_LIFECYCLE_OPERATIONS.any fun entry =>
    isWorkspaceLifecycleMessageShape value entry.1 entry.2

/-- A missing field projects to undefined, and is there all the same. -/
def workspaceLifecycleAuthority (message : Value) : Value :=
  .object (WORKSPACE_LIFECYCLE_AUTHORITY_FIELDS.map fun field => (ofString field,get message field))

def verifyWorkspaceLifecycleAuthority (message trustedAuthority : Value) : Bool :=
  isWorkspaceLifecycleMessage message && hasExactKeys trustedAuthority WORKSPACE_LIFECYCLE_AUTHORITY_FIELDS &&
    WORKSPACE_LIFECYCLE_AUTHORITY_FIELDS.all fun field =>
      strictEqual (get (workspaceLifecycleAuthority message) field) (get trustedAuthority field)

/-- The loop of `resolveTrustedCreateBinding`, with the match found so far. -/
def resolveAmong (workspaceId : Value) : List Value → Option Value → Option Value
  | [],found => found
  | binding :: rest,found =>
    if strictEqual (get binding "workspaceId") workspaceId then
      if found.isSome then none else resolveAmong workspaceId rest (some binding)
    else resolveAmong workspaceId rest found

/-- The one record that claims the workspace, and none when there are two. -/
def resolveTrustedCreateBinding (bindings : List Value) (workspaceId : Value) : Option Value :=
  match workspaceId with
  | .string [] => none
  | .string text => resolveAmong (.string text) bindings none
  | _ => none

/-- The dispatchers of create and refresh refuse when no binding was resolved, and measure the message
otherwise. Those of reset, delete, restore and migration resolve the binding too, but compare fields of it
by themselves, eight of them for a binding of a receipt. -/
def authorises (bindings : List Value) (message : Value) : Bool :=
  match resolveTrustedCreateBinding bindings (get message "workspaceId") with
  | some binding => verifyWorkspaceLifecycleAuthority message (workspaceLifecycleAuthority binding)
  | none => false

def number (generation : Generation) : Value := .number (.int generation.value)

/-- The frame that a binding state keeps, with its mapping preimage. -/
def record (binding : Binding) (mapping : List (Units × Value)) : Value :=
  .object
    [(ofString "type",.string (ofString "bind_workspace")),
      (ofString "bindingId",.string binding.bindingId.text),
      (ofString "authorityEpoch",number binding.authority.authorityEpoch),
      (ofString "fenceGeneration",number binding.authority.fenceGeneration),
      (ofString "hostId",.string binding.authority.hostId),
      (ofString "mappingId",.string binding.authority.mappingId.text),
      (ofString "mappingGeneration",number binding.authority.mappingGeneration),
      (ofString "mappingVersion",number binding.authority.mappingVersion),
      (ofString "workspaceId",.string binding.authority.workspaceId.text),
      (ofString "workspaceGeneration",number binding.authority.workspaceGeneration),
      (ofString "sourcePlatform",.string binding.authority.sourcePlatform.text),
      (ofString "authorityFingerprint",.string binding.authority.authorityFingerprint.digits),
      (ofString "mapping",.object mapping)]

section Connection

/-! A connection that has committed to receipts lists receipt bindings only: the bindings of
the older protocol are refused on it. `mapping` has the preimage each bind came with. -/

variable (mapping : Nat → List (Units × Value)) (s : State)

/-- The records of `readinessState.bindings`, in order. -/
def held (c : Nat) : List Value :=
  (s.bound c).map fun b => record (s.bindings b).binding (mapping b)

/-- A lifecycle message that arrives on the connection passes the two functions. -/
def passes (c : Nat) (message : Value) : Bool := authorises (held mapping s c) message

/-- A binding that is neither pending nor negative nor invalidated. -/
def Proved (b : Nat) : Prop :=
  (s.bindings b).proof.isSome = true ∧ (s.bindings b).invalidated = false

/-- The bindings of the connection whose record claims the workspace. -/
def claimants (c : Nat) (workspaceId : Value) : List Nat :=
  (s.bound c).filter fun b =>
    strictEqual (get (record (s.bindings b).binding (mapping b)) "workspaceId") workspaceId

def Exact (c : Nat) : Prop :=
  ∀ message, isWorkspaceLifecycleMessage message = true →
    (passes mapping s c message = true ↔ ∃ b,
      claimants mapping s c (get message "workspaceId") = [b] ∧ Proved s b ∧
        agree message (record (s.bindings b).binding (mapping b)) WORKSPACE_LIFECYCLE_AUTHORITY_FIELDS = true)

/-- For each proved binding of the connection there is a message that passes. -/
def Reachable (c : Nat) : Prop :=
  ∀ b ∈ s.bound c, Proved s b → ∃ message, isWorkspaceLifecycleMessage message = true ∧
    strictEqual (get (record (s.bindings b).binding (mapping b)) "workspaceId")
      (get message "workspaceId") = true ∧
    passes mapping s c message = true

end Connection

theorem resolveAmong_found (workspaceId : Value) (bindings : List Value) :
    resolveAmong workspaceId bindings (some found) = some r ↔
      bindings.filter (fun b => strictEqual (get b "workspaceId") workspaceId) = [] ∧ found = r := by
  induction bindings with
  | nil => simp [resolveAmong]
  | cons binding rest ih =>
    cases claims : strictEqual (get binding "workspaceId") workspaceId with
    | true => simp [resolveAmong,claims]
    | false => simpa [resolveAmong,claims] using ih

/-- What the loop answers is the only record that claims the workspace. -/
theorem resolveAmong_iff (workspaceId : Value) (bindings : List Value) :
    resolveAmong workspaceId bindings none = some r ↔
      bindings.filter (fun b => strictEqual (get b "workspaceId") workspaceId) = [r] := by
  induction bindings with
  | nil => simp [resolveAmong]
  | cons binding rest ih =>
    cases claims : strictEqual (get binding "workspaceId") workspaceId with
    | true =>
      simp only [resolveAmong,claims,filter_cons,if_true,Option.isSome_none,Bool.false_eq_true,
        if_false,resolveAmong_found,List.cons.injEq]
      exact and_comm
    | false => simpa [resolveAmong,claims] using ih

theorem get_authority (listed : field ∈ WORKSPACE_LIFECYCLE_AUTHORITY_FIELDS) :
    get (workspaceLifecycleAuthority message) field = get message field := by
  simp only [WORKSPACE_LIFECYCLE_AUTHORITY_FIELDS,mem_cons,not_mem_nil,or_false] at listed
  rcases listed with rfl | rfl | rfl | rfl | rfl | rfl | rfl | rfl | rfl <;> rfl

theorem authority_keys (message : Value) :
    hasExactKeys (workspaceLifecycleAuthority message) WORKSPACE_LIFECYCLE_AUTHORITY_FIELDS := rfl

/-- A valid message is measured by the nine fields of the record, absent ones included. -/
theorem verify_iff {record : Value} :
    verifyWorkspaceLifecycleAuthority message (workspaceLifecycleAuthority record) ↔
      isWorkspaceLifecycleMessage message ∧ agree message record WORKSPACE_LIFECYCLE_AUTHORITY_FIELDS := by
  have fieldwise : (∀ field ∈ WORKSPACE_LIFECYCLE_AUTHORITY_FIELDS,
      strictEqual (get (workspaceLifecycleAuthority message) field)
        (get (workspaceLifecycleAuthority record) field)) ↔
      ∀ field ∈ WORKSPACE_LIFECYCLE_AUTHORITY_FIELDS,
        strictEqual (get message field) (get record field) :=
    forall₂_congr fun field listed => by rw [get_authority listed,get_authority listed]
  rw [verifyWorkspaceLifecycleAuthority,authority_keys,Bool.and_true,Bool.and_eq_true,all_eq_true,
    fieldwise,agree,all_eq_true]

section

variable (valid : isWorkspaceLifecycleMessage message)
include valid

theorem message_shape :
    isWorkspaceLifecycleAuthorityShape message := by
  obtain ⟨entry,-,shape⟩ := any_eq_true.mp valid
  simp only [isWorkspaceLifecycleMessageShape,Bool.and_eq_true] at shape
  exact shape.1.1.1.1

theorem message_workspaceId :
    ∃ text, get message "workspaceId" = .string text ∧ text ≠ [] := by
  have shape := message_shape valid
  simp only [isWorkspaceLifecycleAuthorityShape,Bool.and_eq_true] at shape
  have identity := shape.1.1.1.1.1.2
  cases at' : get message "workspaceId" with
  | string text =>
    refine ⟨text,rfl,?_⟩
    rintro rfl
    rw [at'] at identity
    exact absurd identity (by decide)
  | _ => rw [at'] at identity; exact absurd identity Bool.false_ne_true

theorem message_routeFingerprint :
    isHex (get message "routeFingerprint") := by
  have shape := message_shape valid
  simp only [isWorkspaceLifecycleAuthorityShape,Bool.and_eq_true] at shape
  exact shape.1.1.2

theorem authorises_iff :
    authorises bindings message ↔ ∃ record,
      bindings.filter (fun b => strictEqual (get b "workspaceId") (get message "workspaceId")) = [record] ∧
        agree message record WORKSPACE_LIFECYCLE_AUTHORITY_FIELDS := by
  obtain ⟨text,at',nonempty⟩ := message_workspaceId valid
  have resolves (record : Value) :
      resolveTrustedCreateBinding bindings (get message "workspaceId") = some record ↔
        bindings.filter (fun b => strictEqual (get b "workspaceId") (get message "workspaceId")) = [record] := by
    rw [← resolveAmong_iff,at']
    cases text with
    | nil => exact absurd rfl nonempty
    | cons => rfl
  rw [authorises]
  cases found : resolveTrustedCreateBinding bindings (get message "workspaceId") with
  | none =>
    refine ⟨fun passes => absurd passes Bool.false_ne_true,?_⟩
    rintro ⟨record,alone,-⟩
    exact absurd ((resolves record).mpr alone) (by simp [found])
  | some record =>
    have alone := (resolves record).mp found
    simp only [verify_iff,valid,true_and,alone]
    exact ⟨fun agrees => ⟨record,rfl,agrees⟩,by rintro ⟨_,same,agrees⟩; cases same; exact agrees⟩

end

/-- A receipt bind carries no route. -/
theorem record_routeFingerprint (binding : Binding) (mapping : List (Units × Value)) :
    get (record binding mapping) "routeFingerprint" = undefined := rfl

/-- No message agrees with a receipt binding: its route fingerprint is a digest. -/
theorem never_agrees (valid : isWorkspaceLifecycleMessage message)
    (binding : Binding) (mapping : List (Units × Value)) :
    agree message (record binding mapping) WORKSPACE_LIFECYCLE_AUTHORITY_FIELDS = false := by
  obtain ⟨text,at',-⟩ := isHex_iff.mp (message_routeFingerprint valid)
  rw [agree,all_eq_false]
  refine ⟨"routeFingerprint",by decide,?_⟩
  rw [at',record_routeFingerprint]
  exact Bool.false_ne_true

variable (mapping : Nat → List (Units × Value))

theorem never_passes (s : State) (c : Nat)
    (valid : isWorkspaceLifecycleMessage message) : passes mapping s c message = false := by
  rw [← Bool.not_eq_true,passes,authorises_iff valid]
  rintro ⟨found,alone,agrees⟩
  have member : found ∈ held mapping s c := (mem_filter.mp (alone ▸ mem_singleton_self found)).1
  obtain ⟨b,-,rfl⟩ := mem_map.mp member
  rw [never_agrees valid] at agrees
  exact absurd agrees Bool.false_ne_true

theorem exact (s : State) (c : Nat) : Exact mapping s c := by
  intro message valid
  rw [never_passes mapping s c valid]
  refine ⟨fun passes => absurd passes Bool.false_ne_true,?_⟩
  rintro ⟨b,-,-,agrees⟩
  rw [never_agrees valid] at agrees
  exact agrees

theorem reachable_iff (s : State) (c : Nat) :
    Reachable mapping s c ↔ ∀ b ∈ s.bound c, ¬ Proved s b := by
  constructor
  · intro reachable b bound proved
    obtain ⟨message,valid,-,passed⟩ := reachable b bound proved
    rw [never_passes mapping s c valid] at passed
    exact absurd passed Bool.false_ne_true
  · intro unproved b bound proved
    exact absurd proved (unproved b bound)

/-- What a connection that has committed to receipts owes its lifecycle messages. -/
def Authorised (s : State) (c : Nat) : Prop :=
  (s.sockets c).receiptCommitted = true → Exact mapping s c ∧ Reachable mapping s c

/-- The connection has committed to receipts and holds no proved binding yet. -/
def Unproved (s : State) (c : Nat) : Prop :=
  (s.sockets c).receiptCommitted = true → ∀ b ∈ s.bound c, ¬ Proved s b

/-- The authorisation holds throughout a run exactly when the run proves no binding: a
proved one is out of the reach of every message. -/
theorem authorised_unproved (cfg : Config) (events : List Event)
    (mapping : Nat → List (Units × Value)) (c : Nat) :
    (∀ before, before <+: events → Authorised mapping (runEvents cfg before) c) ↔
      ∀ before, before <+: events → Unproved (runEvents cfg before) c := by
  refine forall₂_congr fun before _ => forall_congr' fun _ => ?_
  rw [and_iff_right (exact mapping _ c)]
  exact reachable_iff mapping _ c

open ReceiptBinding in
def provedRun : List Event :=
  [.connect,.registered 0 true true,.bind 0 (some (bindingOf firstId firstId)) none,
    .bindRead 0 (.ok (inventoryOf firstId generationOne)),
    .bindRead 0 (.ok (inventoryOf firstId generationOne))]

theorem authorised_not_proved :
    ¬ ∀ (cfg : Config) (events : List Event) (mapping : Nat → List (Units × Value)) (c : Nat),
      Authorised mapping (runEvents cfg events) c := by
  intro authorised
  have reachable := (authorised ReceiptBinding.plainConfig provedRun (fun _ => []) 0 (by decide)).2
  exact (reachable_iff _ _ _).mp reachable 0 (by decide) ⟨by decide,by decide⟩

end GjcRemote.LifecycleAuthority
