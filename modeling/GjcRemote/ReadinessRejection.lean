import GjcRemote.ReadinessRoom
import GjcRemote.PendingInvoke

/-! What `#acceptReadiness` writes of the dimensions, the expiry and the errors of a connection, in
the registry of all hosts with their invokes, and that a frame it rejects changes nothing of them but
the error of its connection. -/
namespace GjcRemote.HostReadiness

open Utf16
open ReceiptBinding (Generation OpaqueId)

/-- The fields that a host and its workspace have alike. A timer is the delay it was armed with. -/
structure Expiry where
  receivedAt : Option Timestamp
  monoReceivedAt : Option Clock
  expiresAt : Option Nat
  monoExpiresAt : Option Clock
  timer : Option Nat
  expired : Bool
  priorReady : Bool

/-- What an entry of `bindingReadiness` has besides its generations. -/
structure BindingView where
  dimensions : Status
  lastError : Option (ErrorCode × Nat)
  priorReady : Bool
  receivedAt : Timestamp
  expiresAt : Nat

/-- What an entry of `readinessStates` has besides its marks and bindings. The remediation of an
error goes with its code. -/
structure View where
  host : Expiry
  workspace : Expiry
  hostDimensions : Status
  workspaceDimensions : Option Status
  workspaceMarks : Option Previous
  bindings : OrderedMap OpaqueId BindingView
  connected : Bool
  degraded : Bool
  lastErrorAt : Option Nat
  lastError : Option (ErrorCode × Nat)

variable (view : View)

def effectiveDimensions : Status :=
  if view.host.expired then ⟨view.hostDimensions.online,.error,.unknown,.unknown,.unknown⟩
  else if view.workspace.expired then {view.hostDimensions with workspace := .unknown}
  else
    match view.workspaceDimensions with
    | some dimensions => {view.hostDimensions with workspace := dimensions.workspace}
    | none => view.hostDimensions

def dimensionsReady (dimensions : Status) : Bool := dimensions == .allFirst

def isCurrentReady : Bool :=
  view.lastError.isNone && !view.host.expired && !view.workspace.expired && view.workspaceDimensions.isSome &&
    dimensionsReady (effectiveDimensions view)

variable (expiry : Expiry)

/-- `now` is at or past the deadline, if there is one. -/
def Expiry.isDue (now : Clock) : Bool :=
  !expiry.expired && expiry.monoExpiresAt.any fun deadline => deadline ≤ now

def Expiry.expire (wasReady : Bool) : Expiry :=
  {expiry with timer := none,expired := true,priorReady := wasReady || expiry.priorReady}

def transitionReadinessExpiry (workspace : Bool) (now : Clock) : View :=
  let wasReady := isCurrentReady view
  if workspace then
    if view.workspace.isDue now then
      {view with workspace := view.workspace.expire wasReady,degraded := wasReady || view.degraded}
    else view
  else if view.host.isDue now then
    {view with host := view.host.expire wasReady,degraded := wasReady || view.degraded}
  else view

def refreshExpired (now : Clock) : View :=
  transitionReadinessExpiry (transitionReadinessExpiry view false now) true now

/-- `#armReadinessExpiry` and the deadlines before it. -/
def Expiry.arm (receivedAt : Timestamp) (ttlMs : Nat) (mono : Clock) : Expiry :=
  {expiry with
    expiresAt := some (receivedAt.value + ttlMs),monoExpiresAt := some (mono + min ttlMs READINESS_MAX_TTL_MS),
    timer := some (min ttlMs READINESS_MAX_TTL_MS),expired := false}

def Expiry.heard (receivedAt : Timestamp) (mono : Clock) : Expiry :=
  {expiry with receivedAt := some receivedAt,monoReceivedAt := some mono}

/-- `#clearWorkspaceExpiry`, for a workspace or a generation that is new. -/
def Expiry.clear : Expiry :=
  {expiry with timer := none,expiresAt := none,monoExpiresAt := none,priorReady := false,expired := false}

def errorOf (msg : Frame) : Option (ErrorCode × Nat) := msg.lastError.map fun error => (error.1,error.2.value)

def View.hear (msg : Frame) (receivedAt : Timestamp) (mono : Clock) : View :=
  let view := refreshExpired view mono
  let wasReady := isCurrentReady view
  let view := {view with host := view.host.heard receivedAt mono,connected := true,lastError := errorOf msg}
  if msg.lastError.isNone then view
  else
    {view with
      lastErrorAt := some receivedAt.value,degraded := wasReady,
      host := {view.host with priorReady := wasReady || view.host.priorReady},
      workspace := {view.workspace with
        priorReady := (wasReady && msg.workspace.isSome) || view.workspace.priorReady}}

/-- Then what it writes of its workspace, before the bindings. -/
def View.hearWorkspace (state : ReadinessState) (msg : Frame) (receivedAt : Timestamp) (mono : Clock) :
    View :=
  let workspace := if state.workspace == msg.workspace then view.workspace else view.workspace.clear
  {view with workspace := workspace.heard receivedAt mono,workspaceMarks := some msg.marks}

def View.keepBindings (left : OrderedMap OpaqueId BindingReadiness) : View :=
  {view with bindings := view.bindings.discard fun id _ => (left.get id).isNone}

def View.setBinding (bindingId : OpaqueId) (msg : Frame) (receivedAt : Timestamp) (ttlMs : Nat) : View :=
  let priorReady := (view.bindings.get bindingId).any BindingView.priorReady ||
    (msg.lastError.isNone && dimensionsReady msg.status)
  let binding : BindingView := ⟨msg.status,errorOf msg,priorReady,receivedAt,receivedAt.value + ttlMs⟩
  {view with bindings := view.bindings.set bindingId binding}

def View.settle (msg : Frame) (receivedAt : Timestamp) (mono : Clock) : View :=
  let ttlMs := normalizeReadinessTtl msg.ttlMs
  let view := {view with hostDimensions := msg.status,host := view.host.arm receivedAt ttlMs mono}
  let view :=
    if msg.workspace.isSome then
      {view with workspaceDimensions := some msg.status,workspace := view.workspace.arm receivedAt ttlMs mono}
    else view
  if msg.lastError.isSome then view
  else
    {view with
      degraded := false,host := {view.host with priorReady := false},
      workspace := {view.workspace with priorReady := !msg.workspace.isSome && view.workspace.priorReady}}

def Failure.code : Failure → ErrorCode
  | .timestampInvalid => .other (ofString "READINESS_TIMESTAMP_INVALID")
  | .replayed => .other (ofString "READINESS_REPLAYED")
  | .resourceExhausted => .other (ofString "RESOURCE_EXHAUSTED")

/-- `#recordReadinessError`; without a time of its own the error has that of the clock. -/
def View.recordReadinessError (failure : Failure) (receivedAt : Option Timestamp) (dateNow : Nat) : View :=
  let at' := (receivedAt.map Timestamp.value).getD dateNow
  {view with lastErrorAt := some at',lastError := some (failure.code,at'),degraded := true}

/-- What a frame that passed writes of the view, with the bindings that were committed and whether there
was room for its own. -/
def View.commit (state : ReadinessState) (msg : Frame) (committed : ReadinessState × Bool)
    (receivedAt : Timestamp) (mono : Clock) (dateNow : Nat) : View :=
  let view := view.hear msg receivedAt mono
  if msg.workspace.isNone then view.settle msg receivedAt mono
  else
    let view := (view.hearWorkspace state msg receivedAt mono).keepBindings committed.1.bindingReadiness
    if committed.2 then
      let view := match msg.bindingId with
        | none => view
        | some bindingId => view.setBinding bindingId msg receivedAt (normalizeReadinessTtl msg.ttlMs)
      view.settle msg receivedAt mono
    else view.recordReadinessError .resourceExhausted (some receivedAt) dateNow

structure Entry where
  host : Host
  view : View

structure Registry where
  hosts : Units → Entry
  invokes : HostInvoke.Registry

structure Clocks where
  receivedAt : Option Timestamp
  mono : Clock
  dateNow : Nat

def Entry.acceptReadiness (cfg : Config) (entry : Entry) (socket : Nat) (message : Message) (clocks : Clocks) :
    Entry × Bool :=
  match entry.host.verdict socket message clocks.receivedAt clocks.mono with
  | .ignored => (entry,false)
  | .failed state failure looked =>
    (⟨(entry.host.looked looked clocks.mono).setState state.recordReadinessError,
      entry.view.recordReadinessError failure clocks.receivedAt clocks.dateNow⟩,false)
  | .passed state msg =>
    let fence := fenceFor state (authorityFor entry.host state clocks.mono)
    let result := (entry.host.getReadinessAuthority clocks.mono).1.commitReadiness cfg state msg fence clocks.mono
    let committed := commitFrame cfg state msg fence clocks.mono
    let receivedAt := clocks.receivedAt.getD msg.observedAt
    (⟨result.1,entry.view.commit state msg committed receivedAt clocks.mono clocks.dateNow⟩,result.2)

/-- `hostId` is that of the heartbeat of the socket. -/
def Registry.acceptReadiness (cfg : Config) (registry : Registry) (hostId : Option Units) (socket : Nat)
    (message : Message) (clocks : Clocks) : Registry × Bool :=
  match hostId with
  | none => (registry,false)
  | some hostId =>
    let result := (registry.hosts hostId).acceptReadiness cfg socket message clocks
    ({registry with hosts := Function.update registry.hosts hostId result.1},result.2)

/-- What runs of the hosts reach; the views and the invokes may become anything meanwhile. -/
inductive Reached (cfg : Config) : Registry → Prop where
  | start (views : Units → View) (invokes : HostInvoke.Registry) :
    Reached cfg ⟨fun hostId => ⟨Host.empty,views hostId⟩,invokes⟩
  | event {registry : Registry} (before : Reached cfg registry) (hostId : Units) (call : Call) (view : View)
    (invokes : HostInvoke.Registry) :
    Reached cfg ⟨Function.update registry.hosts hostId ⟨(step cfg (registry.hosts hostId).host call).1,view⟩,invokes⟩

theorem Reached.fits (reached : Reached cfg registry) (hostId : Units) :
    (registry.hosts hostId).host.Fits := by
  induction reached with
  | start views invokes => exact empty_fits
  | event before acting call view invokes ih =>
    by_cases same : hostId = acting
    · subst same
      simp only [Function.update_self]
      exact step_fits ih call
    · simp only [Function.update_of_ne same]
      exact ih

/-- A host is as it was but for the diagnostics of its connection: whatever reads the retained marks later
finds the same. -/
structure Undisturbed (mono : Clock) (entry entry' : Entry) : Prop where
  connection : entry'.host.connection = entry.host.connection
  descriptors : entry'.host.managedDescriptors = entry.host.managedDescriptors
  registered : entry'.host.registered = entry.host.registered
  issued : entry'.host.issued = entry.host.issued
  readiness : ∃ rejected, entry'.host.readiness =
    entry.host.readiness.map fun state => {state with rejected := state.rejected || rejected}
  authority : ∀ later, mono ≤ later →
    (entry'.host.getReadinessAuthority later).2 = (entry.host.getReadinessAuthority later).2
  view : ∃ degraded lastErrorAt lastError,
    entry'.view = {entry.view with degraded := degraded,lastErrorAt := lastErrorAt,lastError := lastError}

theorem Undisturbed.refl (mono : Clock) (entry : Entry) : Undisturbed mono entry entry where
  connection := rfl
  descriptors := rfl
  registered := rfl
  issued := rfl
  readiness := ⟨false,by simp⟩
  authority _ _ := rfl
  view := ⟨_,_,_,rfl⟩

/-- Who has looked at the retained marks finds later what was there. -/
theorem looked_authority (s : Host) (looked : Bool) {mono later : Clock} (after : mono ≤ later) :
    ((s.looked looked mono).getReadinessAuthority later).2 = (s.getReadinessAuthority later).2 := by
  unfold Host.looked
  split
  · rcases getReadinessAuthority_cases s mono with same | ⟨⟨authority,retireAt,known,stamped,late⟩,gone⟩
    · rw [same]
    · have overdue : ¬ later < retireAt := not_lt.mpr (late.trans after)
      rw [gone]
      simp only [Host.getReadinessAuthority,known,stamped,overdue,if_false]
  · rfl

theorem setState_authority (s : Host) (state : ReadinessState) (later : Clock) :
    ((s.setState state).getReadinessAuthority later).2 = (s.getReadinessAuthority later).2 := by
  simp only [Host.getReadinessAuthority,Host.setState]
  repeat' split
  all_goals rfl

theorem looked_frame (s : Host) (looked : Bool) (mono : Clock) :
    (s.looked looked mono).connection = s.connection ∧
      (s.looked looked mono).managedDescriptors = s.managedDescriptors ∧
      (s.looked looked mono).registered = s.registered ∧ (s.looked looked mono).issued = s.issued := by
  unfold Host.looked
  split
  · rcases getReadinessAuthority_cases s mono with same | ⟨_,gone⟩
    · rw [same]
      exact ⟨rfl,rfl,rfl,rfl⟩
    · rw [gone]
      exact ⟨rfl,rfl,rfl,rfl⟩
  · exact ⟨rfl,rfl,rfl,rfl⟩

theorem acceptReadiness_undisturbed (fits : entry.host.Fits)
    (rejected : (entry.acceptReadiness cfg socket message clocks).2 = false) :
    Undisturbed clocks.mono entry (entry.acceptReadiness cfg socket message clocks).1 := by
  unfold Entry.acceptReadiness at rejected ⊢
  cases decided : entry.host.verdict socket message clocks.receivedAt clocks.mono with
  | ignored => exact .refl _ entry
  | failed state failure looked =>
    obtain ⟨connection,descriptors,registered,issued⟩ := looked_frame entry.host looked clocks.mono
    have known := (stateOf_some (verdict_failed decided)).2.1
    refine ⟨connection,descriptors,registered,issued,⟨true,?_⟩,fun later after => ?_,⟨_,_,_,rfl⟩⟩
    · rw [known]
      simp [Host.setState,ReadinessState.recordReadinessError]
    · exact (setState_authority ..).trans (looked_authority entry.host looked after)
  | passed state msg =>
    -- A frame that passed has room for its binding, so it is not rejected afterwards.
    have accepted := (@commitReadiness_fits cfg _ fits _ _ _ _ (verdict_passed decided)).1
    rw [decided] at rejected
    rw [accepted] at rejected
    cases rejected

/-- A frame that is rejected leaves every host and every invoke as it was, but for the diagnostics of the
connection it came by. -/
theorem rejected_frame_changes_nothing (reached : Reached cfg registry)
    (hostId : Option Units) (socket : Nat) (message : Message) (clocks : Clocks)
    (rejected : (registry.acceptReadiness cfg hostId socket message clocks).2 = false) :
    (registry.acceptReadiness cfg hostId socket message clocks).1.invokes = registry.invokes ∧
    (∀ other, some other ≠ hostId →
      (registry.acceptReadiness cfg hostId socket message clocks).1.hosts other = registry.hosts other) ∧
    ∀ own, Undisturbed clocks.mono (registry.hosts own)
      ((registry.acceptReadiness cfg hostId socket message clocks).1.hosts own) := by
  cases hostId with
  | none => exact ⟨rfl,fun _ _ => rfl,fun own => .refl _ _⟩
  | some hostId =>
    have undisturbed := acceptReadiness_undisturbed (reached.fits hostId) rejected
    refine ⟨rfl,fun other different => ?_,fun own => ?_⟩
    · have apart : other ≠ hostId := fun same => different (congrArg some same)
      simp only [Registry.acceptReadiness,Function.update_of_ne apart]
    · by_cases same : own = hostId
      · subst same
        simp only [Registry.acceptReadiness,Function.update_self]
        exact undisturbed
      · simp only [Registry.acceptReadiness,Function.update_of_ne same]
        exact .refl _ _

def quiet : Expiry := ⟨none,none,none,none,none,false,false⟩

def newView : View :=
  ⟨quiet,quiet,⟨true,.error,.unknown,.unknown,.unknown⟩,none,none,.empty,true,false,none,none⟩

def Registry.after (registry : Registry) (call : Call) : Registry :=
  ⟨Function.update registry.hosts [0x68] ⟨(step sampleConfig (registry.hosts [0x68]).host call).1,newView⟩,
    registry.invokes⟩

/-- The host has registered, and a frame of the second generation of its workspace was accepted. -/
def heardRegistry : Registry :=
  (Registry.after (.after ⟨fun _ => ⟨Host.empty,newView⟩,HostInvoke.Registry.empty⟩ (sampleCall (.register .readiness)))
    (frameOf 0 (hostFrame generationTwo stampOne)))

theorem heardRegistry_reached : Reached sampleConfig heardRegistry :=
  .event (.event (.start (fun _ => newView) _) _ _ _ _) _ _ _ _

def behindFrame : Frame :=
  {hostFrame generationTwo stampOne with revision := generationTwo,workspace := some (numberedId 0,generationOne)}

theorem behindFrame_rejected :
    (heardRegistry.acceptReadiness sampleConfig (some [0x68]) 0 (.frame behindFrame) ⟨some stampOne,0,0⟩).2 = false := by
  rfl

theorem rejected_frame_changes_nothing_behind :
    (heardRegistry.acceptReadiness sampleConfig (some [0x68]) 0 (.frame behindFrame) ⟨some stampOne,0,0⟩).1.invokes =
      heardRegistry.invokes ∧ ∀ own, Undisturbed 0 (heardRegistry.hosts own)
      ((heardRegistry.acceptReadiness sampleConfig (some [0x68]) 0 (.frame behindFrame)
        ⟨some stampOne,0,0⟩).1.hosts own) :=
  have unchanged := rejected_frame_changes_nothing heardRegistry_reached (some [0x68]) 0 (.frame behindFrame)
    ⟨some stampOne,0,0⟩ behindFrame_rejected
  ⟨unchanged.1,unchanged.2.2⟩

end GjcRemote.HostReadiness
