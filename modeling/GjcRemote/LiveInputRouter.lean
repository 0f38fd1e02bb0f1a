import GjcRemote.WorkspaceLeaseRegistry

/-! The live-input router of an SDK session, from `daemon/src/sdk-live-input-router.js`.
Scope records and cohorts are objects, numbered in the order of their creation. Callbacks
do not call the router back. Beside the fields of the source the state keeps books: the
events routed so far and what became of each, what each call of `deliver` was given and
found, the waiters and what they were told. Timers of members and the raw execution evidence of `primaryResult` are left out. -/
namespace GjcRemote.LiveInput

open Utf16 WorkspaceLease

def MAX_BUFFERED_EVENTS : Nat := 128
def MAX_BUFFERED_BYTES : Nat := 256 * 1024
def MAX_SCOPES : Nat := 512

structure Scope where
  attemptId : Js
  generation : Js
  lineage : Js

structure ScopeKey where
  attemptId : Units
  generation : Int
  lineage : Units
  deriving DecidableEq, Inhabited

def scopeKey : Option Scope → Option ScopeKey
  | some ⟨.string attemptId,generation,.string lineage⟩ =>
    match safeInteger generation with
    | some generation =>
      if attemptId = [] ∨ lineage = [] then none else some ⟨attemptId,generation,lineage⟩
    | none => none
  | _ => none

inductive EventType where
  | agentStart | turnStart | agentEnd | agentFailed | other
  deriving DecidableEq, Repr

def EventType.starts : EventType → Bool
  | .agentStart | .turnStart => true
  | _ => false

structure Hooks (E O F : Type) where
  type : E → EventType
  scope : E → Option Scope
  /-- The event is a maintenance checkpoint after which the run continues. -/
  continues : E → Bool
  classifyTerminal : E → Option F → O
  /-- `sanitizeFailure(event.error)`. -/
  sanitizeFailure : E → F
  /-- The event `{ type: "agent_failed", error }` that is quarantined. -/
  failed : F → E
  /-- The event read back from its JSON text, and the bytes of the text. -/
  snapshot : E → Option (E × Nat)

/-- `isTerminalAgentEnd` of the session. -/
def Hooks.isTerminal {E O F : Type} (hooks : Hooks E O F) (event : E) : Bool :=
  hooks.type event = .agentEnd && !hooks.continues event

inductive Fault where
  | scopesExhausted | bufferExhausted | unbufferable | conflictingScope | unscopedTerminal
  | multipleFinalScopes | duplicateTerminal | missingExecutionScope | missingTerminalScope
  | duplicateOwner | noOriginatingRun | terminalMismatch | unownedSuccessors
  /-- A subscription of the session does not start or end as it should. -/
  | subscription (detail : String)
  /-- The source throws a TypeError, or the caller has no such object. -/
  | type
  deriving DecidableEq, Repr

structure ScopeRecord (O F : Type) where
  key : ScopeKey
  cohort : Option Nat
  boundary : Bool
  failure : Option F
  terminal : Option O
  waiters : List Nat

def ScopeRecord.fresh {O F : Type} (key : ScopeKey) : ScopeRecord O F :=
  ⟨key,none,false,none,none,[]⟩

/-- `terminal` is what the promise of that name is resolved with. -/
structure Cohort (O F : Type) where
  owner : Option Nat
  ended : Bool
  finalKey : Option ScopeKey
  outcome : Option O
  terminal : Option O
  unscopedFailure : Option F

def Cohort.fresh {O F : Type} (owner : Option Nat) : Cohort O F :=
  ⟨owner,false,none,none,none,none⟩

/-- What waits in the buffer: an event with the number of its arrival, or a gate with the
only candidate when it was emitted. -/
inductive Payload (E : Type) where
  | event (arrival : Nat) (event : E) (record target : Option Nat)
  | gate (id : Nat) (size : Option Nat) (cohort : Option Nat)

structure Item (E : Type) where
  payload : Payload E
  size : Nat

inductive Rule where
  /-- The router is closed or has no primary run. -/
  | inactive
  /-- An unscoped notice while several runs are live. -/
  | overlapping
  /-- A diagnostic of a scope without an owner: its failure stays on the record. -/
  | quarantined
  | closing
  deriving DecidableEq, Repr

inductive Fate (E : Type) where
  | delivered (cohort : Nat) (record : Option Nat) (event : E)
  | dropped (rule : Rule)
  /-- The router failed on it, or on one before it in the same flush. -/
  | failed

/-- A call of `deliver`: the event, and the record and the cohort as it finds them. -/
structure Handing (E O F : Type) where
  event : E
  record : Option (ScopeRecord O F)
  cohort : Cohort O F

structure Router (E O F : Type) where
  scopes : OrderedMap ScopeKey Nat
  cohorts : List Nat
  pending : List Nat
  buffer : List (Item E)
  bufferBytes : Nat
  currentScope : Option Nat
  primary : Option Nat
  references : Int
  closed : Bool
  sawPrimaryStart : Bool
  records : Nat → ScopeRecord O F
  nextRecord : Nat
  states : Nat → Cohort O F
  nextCohort : Nat
  arrived : List E
  fates : List (Nat × Fate E)
  handings : List (Handing E O F)
  /-- The scope record each caller of `finalTerminal` waits for. -/
  awaited : List Nat
  resolved : List (Nat × O)
  /-- Each gate presented with the owner it was given. -/
  presented : List (Nat × Option Nat)

variable {E O F : Type}

namespace Router

def new : Router E O F :=
  ⟨.empty,[],[],[],0,none,none,0,false,false,fun _ => .fresh default,0,fun _ => .fresh none,0,[],[],[],[],[],[]⟩

section

variable (p : Router E O F)

def setRecord (r : Nat) (record : ScopeRecord O F) : Router E O F :=
  {p with records := fun s => if s = r then record else p.records s}

def setState (c : Nat) (state : Cohort O F) : Router E O F :=
  {p with states := fun d => if d = c then state else p.states d}

def log (arrival : Nat) (fate : Fate E) : Router E O F :=
  {p with fates := p.fates ++ [(arrival,fate)]}

def handing (event : E) (record : Option Nat) (c : Nat) : Handing E O F :=
  ⟨event,record.map p.records,p.states c⟩

def meet (event : E) (record : Option Nat) (c : Nat) : Router E O F :=
  {p with handings := p.handings ++ [p.handing event record c]}

def createCohort (owner : Option Nat) : Router E O F :=
  {p with
    states := fun d => if d = p.nextCohort then .fresh owner else p.states d
    cohorts := p.cohorts ++ [p.nextCohort]
    nextCohort := p.nextCohort + 1}

def candidates : List Nat := p.cohorts.filter fun c => !(p.states c).ended

def record (scope : Option Scope) : Except Fault (Router E O F × Option Nat) :=
  match scopeKey scope with
  | none => .ok (p,none)
  | some key =>
    match p.scopes.get key with
    | some r => .ok (p,some r)
    | none =>
      if MAX_SCOPES ≤ p.scopes.size then .error .scopesExhausted
      else .ok ({p with
        scopes := p.scopes.set key p.nextRecord
        records := fun s => if s = p.nextRecord then .fresh key else p.records s
        nextRecord := p.nextRecord + 1},some p.nextRecord)

def setCohort (r c : Nat) : Router E O F :=
  p.setRecord r {p.records r with cohort := some c}

def setBoundary (r : Nat) : Router E O F :=
  p.setRecord r {p.records r with boundary := true}

def bind (r c : Nat) : Except Fault (Router E O F) :=
  if (p.records r).cohort = none ∨ (p.records r).cohort = some c then .ok (p.setCohort r c)
  else .error .conflictingScope

end

/-- The cohort of the last boundary up to the record, in the order of the scopes. -/
def cohortUpTo (p : Router E O F) (target : Nat) : List Nat → Option Nat → Option Nat
  | [],_ => none
  | r :: rest,cohort =>
    let cohort := if (p.records r).boundary then (p.records r).cohort else cohort
    if r = target then cohort else p.cohortUpTo target rest cohort

variable (p : Router E O F)

def cohortBefore (target : Nat) : Option Nat :=
  p.cohortUpTo target (p.scopes.entries.map Prod.snd) none

def ownedCohort (target : Option Nat) : Option Nat :=
  (match target with
    | some t => (p.records t).cohort
    | none => p.primary).filter fun c => (p.states c).owner.isSome

section

variable (hooks : Hooks E O F)

def measure : Payload E → Option (Item E)
  | .event arrival event record target =>
    (hooks.snapshot event).map fun s => ⟨.event arrival s.1 record target,s.2⟩
  | .gate id size cohort => size.map fun bytes => ⟨.gate id size cohort,bytes⟩

variable (p : Router E O F)

def bufferEvent (payload : Payload E) :
    Except Fault (Router E O F) :=
  match measure hooks payload with
  | none => .error .unbufferable
  | some item =>
    if MAX_BUFFERED_EVENTS ≤ p.buffer.length ∨ MAX_BUFFERED_BYTES < p.bufferBytes + item.size then
      .error .bufferExhausted
    else .ok {p with buffer := p.buffer ++ [item],bufferBytes := p.bufferBytes + item.size}

/-- `bufferEvent` for a routed event; where it throws the event goes down with the router. -/
def hold (arrival : Nat) (event : E)
    (record target : Option Nat) : Router E O F × Option Fault :=
  match bufferEvent hooks p (.event arrival event record target) with
  | .ok q => (q,none)
  | .error fault => (p.log arrival .failed,some fault)

/-- The end of a run. The promise keeps the first outcome it is resolved with. -/
def endCohort (c : Nat) (finalKey : Option ScopeKey) (outcome : O) :
    Router E O F :=
  p.setState c {p.states c with
    ended := true
    finalKey := finalKey
    outcome := some outcome
    terminal := (p.states c).terminal.or (some outcome)}

/-- The terminal of a scope, told to those that wait for it. -/
def settleRecord (r : Nat) (outcome : O) : Router E O F :=
  {p.setRecord r {p.records r with terminal := some outcome,waiters := []} with
    resolved := p.resolved ++ (p.records r).waiters.map fun w => (w,outcome)}

def deliver (event : E) (record : Option Nat) (c : Nat) :
    Except Fault (Router E O F) :=
  if hooks.type event = .agentFailed then
    .ok (match record with
      | some r => p.setRecord r {p.records r with failure := some (hooks.sanitizeFailure event)}
      | none => p.setState c {p.states c with unscopedFailure := some (hooks.sanitizeFailure event)})
  else if hooks.isTerminal event then
    if (p.states c).ended ∧ (p.states c).finalKey ≠ record.map fun r => (p.records r).key then
      .error .multipleFinalScopes
    else
      match record with
      | some r =>
        if (p.records r).terminal.isSome then .error .duplicateTerminal
        else
          let outcome := hooks.classifyTerminal event (p.records r).failure
          .ok ((p.settleRecord r outcome).endCohort c (some (p.records r).key) outcome)
      | none =>
        .ok (p.endCohort c none (hooks.classifyTerminal event (p.states c).unscopedFailure))
  else .ok p

/-- `deliver`, with the call and its result in the books. -/
def hand (arrival : Nat) (event : E) (record : Option Nat)
    (c : Nat) : Router E O F × Option Fault :=
  let p := p.meet event record c
  match p.deliver hooks event record c with
  | .ok q => (q.log arrival (.delivered c record event),none)
  | .error fault => (p.log arrival .failed,some fault)

def present (id : Nat) (owner : Option Nat) : Router E O F :=
  {p with presented := p.presented ++ [(id,owner)]}

/-- One round of the loop in `flush`. -/
def flushItem (item : Item E) :
    Router E O F × Option Fault :=
  match item.payload with
  | .event arrival event record target =>
    match p.ownedCohort target with
    | some c => p.hand hooks arrival event record c
    | none => p.hold hooks arrival event record target
  | .gate id size cohort =>
    if cohort.any fun c => (p.states c).ended then (p.present id none,none)
    else
      match cohort.bind fun c => (p.states c).owner with
      | some owner => (p.present id (some owner),none)
      | none =>
        match bufferEvent hooks p (.gate id size cohort) with
        | .ok q => (q,none)
        | .error fault => (p,some fault)

end

def arrivals : List (Item E) → List Nat
  | [] => []
  | ⟨.event arrival _ _ _,_⟩ :: rest => arrival :: arrivals rest
  | ⟨.gate _ _ _,_⟩ :: rest => arrivals rest

def giveUp (items : List (Item E)) (fate : Fate E) : Router E O F :=
  {p with fates := p.fates ++ (arrivals items).map fun n => (n,fate)}

/-- The loop of `flush`. What is still in line when it throws is gone. -/
def flushItems (hooks : Hooks E O F) (p : Router E O F) : List (Item E) →
    Router E O F × Option Fault
  | [] => (p,none)
  | item :: rest =>
    match p.flushItem hooks item with
    | (q,none) => q.flushItems hooks rest
    | (q,some fault) => (q.giveUp rest .failed,some fault)

def emptied : Router E O F := {p with buffer := [],bufferBytes := 0}

variable (hooks : Hooks E O F) (p : Router E O F)

def flush : Router E O F × Option Fault :=
  if p.closed then (p,none) else p.emptied.flushItems hooks p.buffer

def flushed (value : Option Nat) :
    Router E O F × Except Fault (Option Nat) :=
  match p.flush hooks with
  | (q,none) => (q,.ok value)
  | (q,some fault) => (q,.error fault)

/-- `refusal` is the error of the first subscription that fails. -/
def retain (refusal : Option String) : Except Fault (Router E O F) :=
  match refusal with
  | some detail =>
    if p.references = 0 then .error (.subscription detail)
    else .ok {p with references := p.references + 1}
  | none => .ok {p with references := p.references + 1}

/-- `refusal` is the first error of the unsubscriptions. -/
def release (refusal : Option String) :
    Router E O F × Except Fault (Option Nat) :=
  let p := {p with references := p.references - 1}
  if p.references ≠ 0 ∨ p.closed then (p,.ok none)
  else if p.buffer ≠ [] then (p,.error .unownedSuccessors)
  else
    match refusal with
    | some detail => (p,.error (.subscription detail))
    | none =>
      ({p with
        scopes := .empty
        cohorts := []
        buffer := []
        bufferBytes := 0
        primary := none
        currentScope := none
        sawPrimaryStart := false},.ok none)

def openPrimary (owner : Nat) (refusal : Option String) :
    Router E O F × Except Fault (Option Nat) :=
  match p.retain refusal with
  | .error fault => (p,.error fault)
  | .ok p =>
    ({p.createCohort (some owner) with primary := some p.nextCohort},.ok (some p.nextCohort))

def expectExecution (token : Nat) (refusal : Option String) :
    Router E O F × Except Fault (Option Nat) :=
  match p.retain refusal with
  | .error fault => (p,.error fault)
  | .ok p => ({p with pending := if token ∈ p.pending then p.pending else p.pending ++ [token]},.ok none)

def forgetExecution (token : Nat) :
    Router E O F × Except Fault (Option Nat) :=
  {p with pending := p.pending.filter (· ≠ token)}.flushed hooks none

/-- The end of `bindExecution`, once it has its cohort. -/
def bindOwned (token r c : Nat) :
    Router E O F × Except Fault (Option Nat) :=
  match p.bind r c with
  | .error fault => (p,.error fault)
  | .ok p => {p with pending := p.pending.filter (· ≠ token)}.flushed hooks (some c)

def setOwner (c owner : Nat) : Router E O F :=
  p.setState c {p.states c with owner := some owner}

def bindExecution (token : Nat) (scope : Option Scope)
    (promoted : Bool) (owner : Nat) : Router E O F × Except Fault (Option Nat) :=
  match p.record scope with
  | .error fault => (p,.error fault)
  | .ok (p,none) => (p,.error .missingExecutionScope)
  | .ok (p,some r) =>
    if promoted then
      if (p.records r).boundary then
        match (p.records r).cohort with
        | none => (p,.error .type)
        | some c =>
          if (p.states c).owner.isSome then (p,.error .duplicateOwner)
          else ((p.setOwner c owner).setBoundary r).bindOwned hooks token r c
      else
        let c := p.nextCohort
        (((p.createCohort none).setOwner c owner).setBoundary r).bindOwned hooks token r c
    else
      match (p.records r).cohort.or (p.cohortBefore r) with
      | none => (p,.error .noOriginatingRun)
      | some c => p.bindOwned hooks token r c

def await (r : Nat) : Router E O F :=
  let waiter := p.awaited.length
  let p := {p with awaited := p.awaited ++ [r]}
  match (p.records r).terminal with
  | some outcome => {p with resolved := p.resolved ++ [(waiter,outcome)]}
  | none => p.setRecord r {p.records r with waiters := (p.records r).waiters ++ [waiter]}

def finalTerminal (c : Nat) (scope : Option Scope) :
    Router E O F × Except Fault (Option Nat) :=
  if p.nextCohort ≤ c then (p,.error .type)
  else
    match p.record scope with
    | .error fault => (p,.error fault)
    | .ok (p,none) => (p,.error .missingTerminalScope)
    | .ok (p,some r) =>
      if (p.states c).ended ∧ (p.states c).finalKey ≠ some (p.records r).key then
        (p,.error .terminalMismatch)
      else
        match p.bind r c with
        | .error fault => (p,.error fault)
        | .ok p =>
          match p.flush hooks with
          | (q,some fault) => (q,.error fault)
          | (q,none) => (q.await r,.ok (some q.awaited.length))

/-- What a public start event binds. The scope is new where nothing is bound to it yet, so
`bind` does not throw. -/
def authorize (type : EventType) (record : Option Nat) : Router E O F :=
  match record with
  | none => p
  | some r =>
    let unbound := (p.records r).cohort = none
    match type with
    | .agentStart =>
      if !p.sawPrimaryStart then
        let p := {p with sawPrimaryStart := true}.setBoundary r
        match p.primary with
        | some primary => if unbound then p.setCohort r primary else p
        | none => p
      else if unbound then ((p.createCohort none).setBoundary r).setCohort r p.nextCohort
      else p
    | .turnStart =>
      match p.cohortBefore r with
      | some c => if unbound then p.setCohort r c else p
      | none => p
    | _ => p

def setCurrentScope (type : EventType) (record : Option Nat) : Router E O F :=
  if type.starts then {p with currentScope := record} else p

/-- The end of `route`, once the event is authorized. -/
def forward (arrival : Nat) (event : E)
    (record : Option Nat) : Router E O F × Except Fault (Option Nat) :=
  let target := record.or p.currentScope
  match p.ownedCohort target with
  | some c =>
    match p.hand hooks arrival event record c with
    | (q,some fault) => (q,.error fault)
    | (q,none) => q.flushed hooks none
  | none =>
    let held := fun event =>
      match p.hold hooks arrival event record target with
      | (q,some fault) => (q,.error fault)
      | (q,none) => (q,.ok none)
    if hooks.type event = .agentFailed then
      let failure := hooks.sanitizeFailure event
      match record with
      | some r =>
        ((p.setRecord r {p.records r with failure := some failure}).log arrival
          (.dropped .quarantined),.ok none)
      | none => held (hooks.failed failure)
    else held event

def route (event : E) :
    Router E O F × Except Fault (Option Nat) :=
  let arrival := p.arrived.length
  let p := {p with arrived := p.arrived ++ [event]}
  if p.closed || p.primary.isNone then (p.log arrival (.dropped .inactive),.ok none)
  else
    match p.record (hooks.scope event) with
    | .error fault => (p.log arrival .failed,.error fault)
    | .ok (p,record) =>
      if record.isNone && hooks.isTerminal event && (1 < p.references || 1 < p.cohorts.length) then
        (p.log arrival .failed,.error .unscopedTerminal)
      else if record.isNone && 1 < p.candidates.length then
        (p.log arrival (.dropped .overlapping),.ok none)
      else
        ((p.authorize (hooks.type event) record).setCurrentScope (hooks.type event) record).forward
          hooks arrival event record

def gateBuffered (id : Nat) : Bool :=
  p.buffer.any fun item =>
    match item.payload with
    | .gate other _ _ => other = id
    | .event _ _ _ _ => false

/-- `size` are the bytes of the gate's JSON text, if it has one. -/
def gate (id : Nat) (size : Option Nat) :
    Router E O F × Except Fault (Option Nat) :=
  let candidates := p.candidates
  let held := fun cohort =>
    match bufferEvent hooks p (.gate id size cohort) with
    | .error fault => (p,.error fault)
    | .ok p => p.flushed hooks none
  if p.gateBuffered id then (p,.ok none)
  else if p.closed || p.primary.isNone || (candidates = [] && p.pending = []) then
    (p.present id none,.ok none)
  else
    match candidates with
    | [c] =>
      match (p.states c).owner with
      | some owner => (p.present id (some owner),.ok none)
      | none => held (some c)
    | _ => held none

def close : Router E O F :=
  {p.giveUp p.buffer (.dropped .closing) with
    closed := true
    buffer := []
    bufferBytes := 0
    records := fun r =>
      if r ∈ p.scopes.entries.map Prod.snd then {p.records r with waiters := []} else p.records r
    scopes := .empty
    pending := []
    cohorts := []
    primary := none
    currentScope := none}

end Router

inductive Op (E : Type) where
  | openPrimary (owner : Nat) (refusal : Option String)
  | expectExecution (token : Nat) (refusal : Option String)
  | forgetExecution (token : Nat)
  | bindExecution (token : Nat) (scope : Option Scope) (promoted : Bool) (owner : Nat)
  | finalTerminal (cohort : Nat) (scope : Option Scope)
  | route (event : E)
  | gate (id : Nat) (size : Option Nat)
  | release (refusal : Option String)
  | close

def step (hooks : Hooks E O F) (p : Router E O F) : Op E →
    Router E O F × Except Fault (Option Nat)
  | .openPrimary owner refusal => p.openPrimary owner refusal
  | .expectExecution token refusal => p.expectExecution token refusal
  | .forgetExecution token => p.forgetExecution hooks token
  | .bindExecution token scope promoted owner => p.bindExecution hooks token scope promoted owner
  | .finalTerminal cohort scope => p.finalTerminal hooks cohort scope
  | .route event => p.route hooks event
  | .gate id size => p.gate hooks id size
  | .release refusal => p.release refusal
  | .close => (p.close,.ok none)

def Router.run (hooks : Hooks E O F) (ops : List (Op E)) : Router E O F :=
  Runs.run (step hooks) .new ops

end GjcRemote.LiveInput
