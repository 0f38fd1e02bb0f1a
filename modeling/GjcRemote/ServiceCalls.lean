import GjcRemote.PostOrder

/-! The ledger of native handles of one service store operation, from `class Calls` of
`native-control/src/service-store.js`: what each handle depends on, the locks that are held, and
the order in which handles are closed. The native boundary is what `addon.cc` does with a handle
of the wrong kind or one that it closed: it throws `SERVICE_INVALID` with no write. Left out are
the counting of writes and the handle owner, which no decision of the ledger reads. -/
namespace GjcRemote.ServiceCalls

open PostOrder

inductive Resource
  | root
  | directory
  | lock
  | artifactReader
  | artifactWriter
  | linuxScope
deriving DecidableEq,Repr

inductive HandleState
  | opened
  | closed
  | attemptedUnconfirmed
deriving DecidableEq,Repr

inductive Code
  | ioFailed
  | pending
  | invalid
  | accessDenied
  | manualCleanup
  | stale
  | other (code : String)

/-- What a call throws. -/
structure Thrown where
  code : Code
  ambiguous : Bool

/-- What the native side throws: `writes` is missing where it is no count. -/
structure NativeError where
  code : Option Code
  writes : Option Nat
  ambiguous : Bool

def NativeError.translated (error : NativeError) : Thrown :=
  ⟨error.code.getD .ioFailed,error.ambiguous || error.writes.isNone⟩

/-- The native side says that the call did nothing that could last. -/
def NativeError.effectless (error : NativeError) : Bool :=
  error.writes == some 0 && !error.translated.ambiguous

def NativeError.rejected (error : NativeError) : Bool :=
  error.effectless && match error.translated.code with
    | .invalid => true
    | _ => false

def NativeError.invalid : NativeError := ⟨some .invalid,some 0,false⟩

structure Entry where
  handle : Nat
  resource : Resource
  dependencies : List Nat
  dependents : List Nat
  parent : Option Nat
  state : HandleState
  failure : Option Thrown

/-- One attempt to close a handle: what depended on it then and was not closed, and whether the
native side rejected the call. -/
structure Attempt where
  handle : Nat
  unresolved : List Nat
  rejected : Bool

/-- The attempts are a record beside the ledger: no step reads them. -/
structure Calls where
  entries : List Entry
  activeLocks : List Nat
  settling : Bool
  attempts : List Attempt

def Calls.new : Calls := ⟨[],[],false,[]⟩

section

variable (s : Calls) (handle : Nat)

def Calls.get : Option Entry := s.entries.find? fun e => e.handle == handle

def Calls.modify (f : Entry → Entry) : Calls :=
  {s with entries := s.entries.map fun e => if e.handle = handle then f e else e}

def addTo (set : List Nat) (x : Nat) : List Nat := if x ∈ set then set else set ++ [x]

def deleteFrom (set : List Nat) (x : Nat) : List Nat := set.filter (· ≠ x)

def Calls.addDependency (entry dependency : Nat) : Calls :=
  (s.modify entry fun e => {e with dependencies := addTo e.dependencies dependency}).modify dependency
    fun e => {e with dependents := addTo e.dependents entry}

def Calls.removeDependency (entry dependency : Nat) : Calls :=
  (s.modify entry fun e => {e with dependencies := deleteFrom e.dependencies dependency}).modify dependency
    fun e => {e with dependents := deleteFrom e.dependents entry}

def Calls.setState (state : HandleState) : Calls :=
  s.modify handle fun e => {e with state := state}

def Calls.setFailure (failure : Thrown) : Calls :=
  s.modify handle fun e => {e with failure := some failure}

/-- The entry leaves the dependents of all that it depends on. -/
def Calls.confirmClosed (entry : Entry) : Calls :=
  let closed := s.setState entry.handle .closed
  {closed with
    entries := closed.entries.map fun e =>
      if e.handle ∈ entry.dependencies then {e with dependents := deleteFrom e.dependents entry.handle} else e
    activeLocks := if entry.resource = .lock then s.activeLocks.dropLast else s.activeLocks}

def Calls.unresolved : List Nat :=
  (s.entries.filter fun e => handle ∈ e.dependencies ∧ e.state ≠ .closed).map Entry.handle

def Calls.log (rejected : Bool) : Calls :=
  {s with attempts := s.attempts ++ [⟨handle,s.unresolved handle,rejected⟩]}

/-- What the native side answers: it takes no call that it must refuse. -/
def answer (refuses : Bool) (native : Option NativeError) : Option NativeError :=
  if refuses then some .invalid else native

def Entry.opens (e : Entry) : Bool :=
  e.state != .closed && (e.resource == .root || e.resource == .directory || e.resource == .lock)

/-- Only a root, a directory or a lock is an argument of a call that opens a handle, but for the
lock argument where an existing directory is opened to be read: it is any open handle of the store. -/
def Calls.admits (resource : Resource) (readExisting : Bool) : List Nat → Bool
  | [] => true
  | first :: rest => (s.get first).all Entry.opens && rest.all fun x => (s.get x).all fun e =>
      e.opens || (resource == .directory && readExisting && e.state != .closed && e.resource != .linuxScope)

def Entry.publishesTo (source destination : Entry) : Bool :=
  source.state != .closed && destination.state != .closed && source.resource == .directory &&
    (destination.resource == .root || destination.resource == .directory)

/-- Locks are a native stack: what is acquired under a lock depends on it too. -/
def Calls.newEntry (resource : Resource) (arguments : List Nat) (handle : Nat) : Entry where
  handle := handle
  resource := resource
  dependencies := ((arguments.filterMap s.get).map Entry.handle ++ s.activeLocks.getLast?.toList).dedup
  dependents := []
  parent := if resource = .directory then arguments.head?.bind fun x => (s.get x).map Entry.handle else none
  state := .opened
  failure := none

/-- A call that opens a handle. The arguments are the handles among its arguments, of which the
first of a directory is its parent; the native side returns a handle or none. -/
def Calls.acquire (resource : Resource) (readExisting : Bool) (arguments : List Nat) (made : Option Nat)
    (native : Option NativeError) : Calls × Option Thrown :=
  if s.settling then (s,some ⟨.pending,false⟩) else
  match answer (!s.admits resource readExisting arguments) native with
  | some error => (s,some error.translated)
  | none =>
    made.elim (s,none) fun handle =>
      if (s.get handle).isSome then (s,none) else
      let entry := s.newEntry resource arguments handle
      let added := s.entries.map fun e =>
        if e.handle ∈ entry.dependencies then {e with dependents := addTo e.dependents handle} else e
      ({s with
        entries := added ++ [entry]
        activeLocks := if resource = .lock then s.activeLocks ++ [handle] else s.activeLocks},none)

def Calls.confirmPublication (source destination : Nat) : Calls × Option Thrown :=
  match s.get source,s.get destination with
  | some entry,some parent =>
    if entry.parent = some parent.handle then (s,none) else
    let left := entry.parent.elim s (s.removeDependency source)
    ((left.addDependency source destination).modify source fun e => {e with parent := some destination},none)
  | _,_ => (s,some ⟨.manualCleanup,true⟩)

/-- A publication of a directory, with the confirmation where its receipt is valid. -/
def Calls.publish (source destination : Nat) (native : Option NativeError) (confirmed : Bool) :
    Calls × Option Thrown :=
  if s.settling then (s,some ⟨.pending,false⟩) else
  match s.get source,s.get destination with
  | some publishing,some parent =>
    let addedDestination := destination ∉ publishing.dependencies
    let fenced := if addedDestination then s.addDependency source destination else s
    match answer (!publishing.publishesTo parent) native with
    | some error =>
      (if addedDestination ∧ error.effectless then fenced.removeDependency source destination else fenced,
        some error.translated)
    | none => if confirmed then fenced.confirmPublication source destination else (fenced,some ⟨.manualCleanup,true⟩)
  | _,_ =>
    match native with
    | some error => (s,some error.translated)
    | none => if confirmed then s.confirmPublication source destination else (s,some ⟨.manualCleanup,true⟩)

/-- The call publishes the one directory into the other, or may have done so. -/
def Calls.mayPublish (source destination : Nat) (native : Option NativeError) : Prop :=
  s.settling = false ∧ ∃ publishing parent, s.get source = some publishing ∧ s.get destination = some parent ∧
    ∀ error, answer (!publishing.publishesTo parent) native = some error → error.effectless = false

/-- The end of an artifact write, which closes the writer. -/
def Calls.finish (writer : Nat) (native : Option NativeError) : Calls × Option Thrown :=
  if s.settling then (s,some ⟨.pending,false⟩) else
  match s.get writer with
  | none => (s,native.map NativeError.translated)
  | some finishing =>
    if finishing.state ≠ .opened then (s,some ⟨.stale,false⟩) else
    let writes := finishing.resource = .artifactWriter
    let outcome := answer (!writes) native
    -- a handle of another kind is refused before anything is closed
    let logged := if writes then s.log writer (outcome.any NativeError.rejected) else s
    let marked := logged.setState writer .attemptedUnconfirmed
    match outcome with
    | none => (marked.confirmClosed finishing,none)
    | some error =>
      let failed := marked.setFailure writer error.translated
      (if error.effectless = false then failed
        else match error.translated.code with
          | .invalid => failed.setState writer .opened
          | .stale => failed.confirmClosed finishing
          | _ => failed,
        some error.translated)

def Calls.close (native : Option NativeError) : Calls × Option Thrown :=
  match s.get handle with
  | none => (s,some ⟨.invalid,false⟩)
  | some closing =>
    match closing.state with
    | .closed => (s,none)
    | .attemptedUnconfirmed => (s,closing.failure)
    | .opened =>
      if closing.dependents ≠ [] then (s,some ⟨.pending,false⟩) else
      let logged := s.log handle (native.any NativeError.rejected)
      let marked := logged.setState handle .attemptedUnconfirmed
      match native with
      | none => (marked.confirmClosed closing,none)
      | some error => (marked.setFailure handle error.translated,some error.translated)

end

inductive CleanupState
  | blockedUnattempted
  | attemptedUnconfirmed

inductive CleanupCode
  | ioFailed
  | pending
  | invalid
  | accessDenied
  | manualCleanup
  | unknown

def cleanupEnum : Option Code → CleanupCode
  | some .ioFailed => .ioFailed
  | some .pending => .pending
  | some .invalid => .invalid
  | some .accessDenied => .accessDenied
  | some .manualCleanup => .manualCleanup
  | _ => .unknown

structure Summary where
  resource : Resource
  code : CleanupCode
  state : CleanupState

structure Report where
  total : Nat
  closed : Nat
  blockedUnattempted : Nat
  attemptedUnconfirmed : Nat
  failures : List Summary
  omittedFailures : Nat

/-- The counts must agree with one another and with the failures, or the projection throws. -/
def projectServiceCleanupInternal (report : Report) : Option Report :=
  if report.total ≠ report.closed + report.blockedUnattempted + report.attemptedUnconfirmed ∨
      report.failures.length + report.omittedFailures ≠ report.blockedUnattempted + report.attemptedUnconfirmed
  then none
  else
    let summaries := report.failures.take 8
    some {report with
      failures := summaries
      omittedFailures := report.blockedUnattempted + report.attemptedUnconfirmed - summaries.length}

def Entry.summary (e : Entry) : Summary :=
  ⟨e.resource,cleanupEnum (if e.state = .opened then some .pending else e.failure.map Thrown.code),
    if e.state = .opened then .blockedUnattempted else .attemptedUnconfirmed⟩

def Calls.report (s : Calls) : Option Report :=
  let unresolved := s.entries.filter fun e => e.state ≠ .closed
  let attemptedUnconfirmed := (unresolved.filter fun e => e.state = .attemptedUnconfirmed).length
  projectServiceCleanupInternal {
    total := s.entries.length
    closed := s.entries.length - unresolved.length
    blockedUnattempted := unresolved.length - attemptedUnconfirmed
    attemptedUnconfirmed := attemptedUnconfirmed
    failures := unresolved.map Entry.summary
    omittedFailures := 0}

/-- The dependents of a selected handle that are selected too. A handle may be missing. -/
def Calls.selectedDependents (s : Calls) (handles : List (Option Nat)) (current : Option Nat) : List (Option Nat) :=
  (((current.bind s.get).elim [] Entry.dependents).map some).filter (· ∈ handles)

def Calls.closeOrder (s : Calls) (handles : List (Option Nat)) : List (Option Nat) :=
  let next := s.selectedDependents handles
  (Walk.empty.visitAll next (enough next handles.dedup) handles.reverse).ordered

def Calls.closeEach (s : Calls) (native : Nat → Option NativeError) : List (Option Nat) → Calls × Option Thrown
  | [] => (s,none)
  | none :: rest => s.closeEach native rest
  | some handle :: rest =>
    let (closed,failure) := s.close handle (native handle)
    let (last,later) := closed.closeEach native rest
    (last,failure <|> later)

/-- What the native side answers is a function of the handle: each is closed once in a pass. -/
def Calls.closeHandles (s : Calls) (handles : List (Option Nat)) (native : Nat → Option NativeError) :
    Calls × Option Thrown :=
  s.closeEach native (s.closeOrder handles)

def Calls.closeAll (s : Calls) (borrowedDependencies : List Nat) (native : Nat → Option NativeError) :
    Calls × Option Thrown :=
  let settling := {s with settling := true}
  settling.closeHandles
    ((s.entries.filter fun e => e.handle ∉ borrowedDependencies).map fun e => some e.handle) native

inductive Op
  | acquire (resource : Resource) (readExisting : Bool) (arguments : List Nat) (made : Option Nat)
      (native : Option NativeError)
  | publish (source destination : Nat) (native : Option NativeError) (confirmed : Bool)
  | finish (writer : Nat) (native : Option NativeError)
  | close (handle : Nat) (native : Option NativeError)
  /-- A call that the ledger does not follow. -/
  | other (native : Option NativeError)
  | closeHandles (handles : List (Option Nat)) (native : Nat → Option NativeError)
  | closeAll (borrowedDependencies : List Nat) (native : Nat → Option NativeError)

def step (s : Calls) : Op → Calls × Option Thrown
  | .acquire resource readExisting arguments made native => s.acquire resource readExisting arguments made native
  | .publish source destination native confirmed => s.publish source destination native confirmed
  | .finish writer native => s.finish writer native
  | .close handle native => s.close handle native
  | .other native => (s,if s.settling then some ⟨.pending,false⟩ else native.map NativeError.translated)
  | .closeHandles handles native => s.closeHandles handles native
  | .closeAll borrowedDependencies native => s.closeAll borrowedDependencies native

def run (s : Calls) (ops : List Op) : Calls := ops.foldl (fun s op => (step s op).1) s

end GjcRemote.ServiceCalls
