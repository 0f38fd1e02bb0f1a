import GjcRemote.OrderedMap
import GjcRemote.Runs
import Mathlib.Data.List.Dedup

/-! The pool of embedded SDK sessions, from `daemon/src/session-pool.js`. Every await of
the source ends one step: an event starts a call, settles a promise of the factory or of
a dispose, fires a timer, or resumes one suspended function, in any order. Sessions are
numbered by the factory call they come from, retirements by their generation. -/
namespace GjcRemote.SessionPool

/-- What a factory call has come to: its promise, then the session it resolved with. -/
inductive Existence where
  | pending | rejected | live | disposed
  deriving DecidableEq, Repr

structure Creation (W : Type) where
  workDir : W
  state : Existence

/-- The results of `#settleBounded`. -/
inductive Status where
  | fulfilled | rejected | timedOut
  deriving DecidableEq, Repr

inductive RetirementState where
  | pending | retired | failed
  deriving DecidableEq, Repr

/-- `settled` is the dispose promise itself; `state` follows when the pool's own
handler has run. -/
structure Retirement (W I : Type) where
  session : Nat
  workDir : W
  managedIdentity : Option I
  state : RetirementState
  settled : Option Bool
  bounded : Option Status

/-- An entry whose session is none is still being created. The token stands for the
identity of the object. -/
structure Entry (I : Type) where
  token : Nat
  managedIdentity : Option I
  session : Option Nat

/-- Where an operation of `ensureSession` is suspended. -/
inductive Phase where
  /-- Awaits the creation of an entry it found without a session. -/
  | awaitingPrior (token : Nat)
  /-- Awaits the bounded disposal of the session it replaces. -/
  | replacing (retirement : Nat)
  /-- Holds the directory; the factory is called in the next microtask. -/
  | queued
  | creating (session : Nat)
  /-- The factory has resolved in time; the session is on its way to the entry. -/
  | created (session : Nat)
  /-- The pool closed meanwhile: awaits the disposal of the created session. -/
  | closing (retirement : Nat)
  /-- Rejects without pending cleanup. -/
  | failing
  | settled (session : Nat)
  | denied
  /-- The creation timed out and its cleanup awaits the factory. -/
  | late (session : Nat)
  | lateDisposal (retirement : Nat)
  /-- The replacement timed out and its cleanup awaits the disposal. -/
  | releasing (retirement : Nat)
  /-- The pending cleanup has settled. -/
  | cleaned (rejected : Bool)
  deriving DecidableEq, Repr

structure Transition (I : Type) where
  token : Nat
  managedIdentity : Option I
  cleanupPending : Bool
  phase : Phase

/-- Where an operation of `retireManagedReceipt` is suspended. -/
inductive ReceiptRetirement (W : Type) where
  | awaitingTransition (workDir : W) (token : Nat)
  | awaitingCreation (workDir : W) (token : Nat)
  /-- The creation it awaited timed out: its own cleanup follows that one. -/
  | awaitingCleanup (workDir : W) (token : Nat)
  | waiting (retirement : Nat)
  | releasing (retirement : Nat)
  | failed

/-- `rejectedCleanups` remembers the operations whose pending cleanup rejected. -/
structure Pool (W I : Type) where
  maxSessions : Nat
  closed : Bool
  sessions : OrderedMap W (Entry I)
  sessionTransitions : OrderedMap W (Transition I)
  retirements : OrderedMap W Nat
  receiptRetirements : OrderedMap I (ReceiptRetirement W)
  creationHolds : OrderedMap W Nat
  creations : OrderedMap Nat (Creation W)
  disposals : OrderedMap Nat (Retirement W I)
  rejectedCleanups : List Nat
  nextToken : Nat
  nextCreation : Nat
  nextRetirementGeneration : Nat

inductive PoolError where
  | shutDown
  | workDirUnresolved
  | leaseConflict
  | sessionLimit
  | retirementPending
  | retirementFailed
  deriving DecidableEq, Repr

inductive Answer where
  | refused (error : PoolError)
  | joined
  | accepted
  | factoryStarted
  /-- Nothing of the kind is under way. -/
  | ignored
  deriving DecidableEq, Repr

variable {W I : Type} [DecidableEq W] [DecidableEq I]

namespace Pool

def new (maxSessions : Nat) : Pool W I :=
  ⟨maxSessions,false,.empty,.empty,.empty,.empty,.empty,.empty,.empty,[],0,0,0⟩

section

variable (p : Pool W I) (session : Nat)

def existence : Option Existence :=
  (p.creations.get session).map Creation.state

variable (retirement : Nat)

def boundedOf : Option Status :=
  (p.disposals.get retirement).bind Retirement.bounded

def stateOf : Option RetirementState :=
  (p.disposals.get retirement).map Retirement.state

/-- `#retirementError`. -/
def retirementError : PoolError :=
  if p.stateOf retirement = some .failed then .retirementFailed else .retirementPending

def identitiesDiffer : Option I → Option I → Bool
  | some existing,some managedIdentity => existing ≠ managedIdentity
  | _,_ => false

/-- `this.sessions.delete(workDir)` where the entry holds the session. -/
def forget (workDir : W) : OrderedMap W (Entry I) :=
  if (p.sessions.get workDir).bind Entry.session = some session then p.sessions.delete workDir
  else p.sessions

/-- The new retirement of `#retire`. -/
def startRetirement (workDir : W) (managedIdentity : Option I) :
    Pool W I :=
  {p with
    disposals := p.disposals.set p.nextRetirementGeneration ⟨session,workDir,managedIdentity,.pending,none,none⟩
    retirements := p.retirements.set workDir p.nextRetirementGeneration
    sessions := p.forget session workDir
    nextRetirementGeneration := p.nextRetirementGeneration + 1}

def retire (workDir : W) (managedIdentity : Option I) :
    Pool W I × Except PoolError Nat :=
  match p.retirements.get workDir with
  | some existing =>
    if (p.disposals.get existing).map Retirement.session ≠ some session then
      (p,.error .retirementFailed)
    else if identitiesDiffer ((p.disposals.get existing).bind Retirement.managedIdentity)
        managedIdentity then (p,.error .retirementFailed)
    else (p,.ok existing)
  | none =>
    (p.startRetirement session workDir managedIdentity,.ok p.nextRetirementGeneration)

def admittedWorkspaces : Nat :=
  (p.sessions.keys ++ p.retirements.keys ++ p.creationHolds.keys).dedup.length

/-- What `getAdmissionSnapshot` returns. -/
structure AdmissionSnapshot where
  activeSessions : Nat
  pendingSessions : Nat
  admittedWorkspaces : Nat
  maxSessions : Nat

/-- `sessionClosed` is what the sessions say about themselves. -/
def getAdmissionSnapshot (sessionClosed : Nat → Bool) : AdmissionSnapshot where
  activeSessions := p.sessions.entries.countP fun e => e.2.session.any fun s => !sessionClosed s
  pendingSessions :=
    (p.creationHolds.keys ++ (p.sessions.entries.filter fun e => e.2.session.isNone).map Prod.fst).dedup.length
  admittedWorkspaces := p.admittedWorkspaces
  maxSessions := p.maxSessions

variable (workDir : W)

def addEntry (managedIdentity : Option I) : Pool W I :=
  {p with sessions := p.sessions.set workDir ⟨p.nextToken,managedIdentity,none⟩}

variable (token : Nat)

/-- The first part of `#createSessionBounded`. -/
def hold : Pool W I :=
  {p with creationHolds := p.creationHolds.set workDir token}

def releaseHold : Pool W I :=
  if p.creationHolds.get workDir = some token then
    {p with creationHolds := p.creationHolds.delete workDir}
  else p

/-- `#ensureCanonicalSession` up to its first await. `sessionClosed` is what the session
of the entry says about itself. -/
def ensureCanonicalSession (managedIdentity : Option I)
    (sessionClosed : Bool) : Pool W I × Phase :=
  match p.sessions.get workDir with
  | none =>
    if p.maxSessions ≤ p.admittedWorkspaces then (p,.denied)
    else ((p.addEntry workDir managedIdentity).hold workDir p.nextToken,.queued)
  | some existing =>
    match existing.session with
    | none =>
      if existing.managedIdentity = managedIdentity then (p,.awaitingPrior existing.token)
      else (p.addEntry workDir managedIdentity,.awaitingPrior existing.token)
    | some session =>
      if existing.managedIdentity = managedIdentity ∧ !sessionClosed then (p,.settled session)
      else
        match p.retire session workDir existing.managedIdentity with
        | (p,.error _) => (p.addEntry workDir managedIdentity,.failing)
        | (p,.ok retirement) => (p.addEntry workDir managedIdentity,.replacing retirement)

def setTransition (transition : Transition I) : Pool W I :=
  {p with sessionTransitions := p.sessionTransitions.set workDir transition}

/-- `workDir` is the canonical directory, or none where the host does not resolve it. -/
def ensureSession (workDir : Option W) (managedIdentity : Option I)
    (sessionClosed : Bool) : Pool W I × Answer :=
  if p.closed then (p,.refused .shutDown)
  else
    match managedIdentity.bind p.receiptRetirements.get with
    | some .failed => (p,.refused .retirementFailed)
    | some _ => (p,.refused .retirementPending)
    | none =>
      match workDir with
      | none => (p,.refused .workDirUnresolved)
      | some workDir =>
        match p.retirements.get workDir with
        | some retirement => (p,.refused (p.retirementError retirement))
        | none =>
          match p.sessionTransitions.get workDir with
          | some active =>
            if active.cleanupPending then (p,.refused .leaseConflict)
            else if active.managedIdentity = managedIdentity then (p,.joined)
            else (p,.refused .leaseConflict)
          | none =>
            let (q,phase) := p.ensureCanonicalSession workDir managedIdentity sessionClosed
            ({q.setTransition workDir ⟨p.nextToken,managedIdentity,false,phase⟩ with
              nextToken := p.nextToken + 1},
              if phase = .denied then .refused .sessionLimit else .accepted)

def setPhase (transition : Transition I) (phase : Phase) : Pool W I :=
  p.setTransition workDir {transition with phase := phase}

def clearTransition : Pool W I :=
  {p with sessionTransitions := p.sessionTransitions.delete workDir}

/-- The catch of `#ensureCanonicalSession`: its own entry leaves the map. No prior
session is restored, since none is awaited. -/
def dropEntry : Pool W I :=
  if (p.sessions.get workDir).map Entry.token = some token then
    {p with sessions := p.sessions.delete workDir}
  else p

/-- `entry.session = session` on the object of the operation. -/
def setSession (token session : Nat) : Pool W I :=
  match p.sessions.get workDir with
  | some entry =>
    if entry.token = token then
      {p with sessions := p.sessions.set workDir {entry with session := some session}}
    else p
  | none => p

/-- A receipt retirement awaits this creation; its reaction was registered before the
transition's own and runs first. -/
def creationAwaited : Bool :=
  p.receiptRetirements.entries.any fun e =>
    match e.2 with
    | .awaitingCreation w t => w = workDir ∧ t = token
    | _ => false

/-- How the awaited settlement of a retirement ends the pending cleanup on it. -/
def cleanupOf (reports : Bool) : Option Bool :=
  match p.stateOf retirement with
  | some .retired => some false
  | some .failed => some reports
  | _ => none

/-- How the cleanup of a late session ends, once it does. -/
def lateCleanupOf (managed : Bool) : Option Bool :=
  match p.boundedOf retirement with
  | none => none
  | some .fulfilled => some false
  | some .rejected => some managed
  | some .timedOut => p.cleanupOf retirement managed

/-- The next continuation of the operation on a directory. -/
def resume : Pool W I × Answer :=
  match p.sessionTransitions.get workDir with
  | none => (p,.ignored)
  | some t =>
    match t.phase with
    | .awaitingPrior _ => (p,.ignored)
    | .queued => (p,.ignored)
    | .replacing retirement =>
      match p.boundedOf retirement with
      | none => (p,.ignored)
      | some .fulfilled => ((p.hold workDir t.token).setPhase workDir t .queued,.accepted)
      | some .rejected => (p.setPhase workDir t .failing,.accepted)
      | some .timedOut => (p.setPhase workDir t (.releasing retirement),.accepted)
    | .creating session =>
      match p.existence session with
      | some .live =>
        ((p.releaseHold workDir t.token).setPhase workDir t (.created session),.accepted)
      | some .rejected => ((p.releaseHold workDir t.token).setPhase workDir t .failing,.accepted)
      | _ => (p,.ignored)
    | .created session =>
      if p.closed then
        match p.retire session workDir t.managedIdentity with
        | (q,.ok retirement) => (q.setPhase workDir t (.closing retirement),.accepted)
        | (q,.error _) => (q.setPhase workDir t .failing,.accepted)
      else
        ((p.setSession workDir t.token session).setPhase workDir t (.settled session),.accepted)
    | .closing retirement =>
      if (p.boundedOf retirement).isSome then (p.setPhase workDir t .failing,.accepted)
      else (p,.ignored)
    | .failing =>
      if p.creationAwaited workDir t.token then (p,.ignored)
      else ((p.dropEntry workDir t.token).clearTransition workDir,.accepted)
    | .settled _ =>
      if p.creationAwaited workDir t.token then (p,.ignored)
      else (p.clearTransition workDir,.accepted)
    | .denied => (p.clearTransition workDir,.accepted)
    | .late session =>
      match p.existence session with
      | some .live =>
        match p.retire session workDir t.managedIdentity with
        | (q,.ok retirement) => (q.setPhase workDir t (.lateDisposal retirement),.accepted)
        | (q,.error _) =>
          ((q.releaseHold workDir t.token).setPhase workDir t (.cleaned true),.accepted)
      | some .rejected =>
        ((p.releaseHold workDir t.token).setPhase workDir t (.cleaned false),.accepted)
      | _ => (p,.ignored)
    | .lateDisposal retirement =>
      match p.lateCleanupOf retirement t.managedIdentity.isSome with
      | some rejected =>
        ((p.releaseHold workDir t.token).setPhase workDir t (.cleaned rejected),.accepted)
      | none => (p,.ignored)
    | .releasing retirement =>
      match p.cleanupOf retirement true with
      | some rejected => (p.setPhase workDir t (.cleaned rejected),.accepted)
      | none => (p,.ignored)
    | .cleaned rejected =>
      if !t.cleanupPending || p.creationAwaited workDir t.token then (p,.ignored)
      else
        ({p.clearTransition workDir with
          rejectedCleanups :=
            if rejected then t.token :: p.rejectedCleanups else p.rejectedCleanups},.accepted)

def hasPendingCleanup : Phase → Bool
  | .late _ | .lateDisposal _ | .releasing _ | .cleaned _ => true
  | _ => false

/-- The operation rejects with pending cleanup: its entry goes, its transition stays. -/
def unwind : Pool W I × Answer :=
  match p.sessionTransitions.get workDir with
  | none => (p,.ignored)
  | some t =>
    if hasPendingCleanup t.phase && !t.cleanupPending then
      ((p.dropEntry workDir t.token).setTransition workDir {t with cleanupPending := true},.accepted)
    else (p,.ignored)

def addCreation : Pool W I :=
  {p with
    creations := p.creations.set p.nextCreation ⟨workDir,.pending⟩
    nextCreation := p.nextCreation + 1}

/-- `this.sessionFactory(workDir)`, in the microtask after the hold. -/
def startFactory : Pool W I × Answer :=
  match p.sessionTransitions.get workDir with
  | none => (p,.ignored)
  | some t =>
    if t.phase = .queued then
      ((p.addCreation workDir).setPhase workDir t (.creating p.nextCreation),.factoryStarted)
    else (p,.ignored)

def setCreation (creation : Creation W) : Pool W I :=
  {p with creations := p.creations.set session creation}

def factorySettles (state : Existence) : Pool W I × Answer :=
  match p.creations.get session with
  | some creation =>
    if creation.state = .pending then
      (p.setCreation session {creation with state := state},.accepted)
    else (p,.ignored)
  | none => (p,.ignored)

def creationTimesOut : Pool W I × Answer :=
  match p.sessionTransitions.get workDir with
  | none => (p,.ignored)
  | some t =>
    match t.phase with
    | .creating session => (p.setPhase workDir t (.late session),.accepted)
    | _ => (p,.ignored)

def setDisposal (disposal : Retirement W I) : Pool W I :=
  {p with disposals := p.disposals.set retirement disposal}

def disposed : Pool W I :=
  match p.creations.get session with
  | some creation => p.setCreation session {creation with state := .disposed}
  | none => p

def disposeSettles (fulfilled : Bool) : Pool W I × Answer :=
  match p.disposals.get retirement with
  | some disposal =>
    if disposal.settled.isNone then
      let q := p.setDisposal retirement {disposal with settled := some fulfilled}
      (if fulfilled then q.disposed disposal.session else q,.accepted)
    else (p,.ignored)
  | none => (p,.ignored)

def leaveRetirements (workDir : W) : Pool W I :=
  if p.retirements.get workDir = some retirement then
    {p with retirements := p.retirements.delete workDir}
  else p

/-- The handler of `retirement.settlement`. -/
def settlementRuns : Pool W I × Answer :=
  match p.disposals.get retirement with
  | some disposal =>
    match disposal.state,disposal.settled with
    | .pending,some true =>
      let q := p.setDisposal retirement {disposal with state := .retired}
      (q.leaveRetirements retirement disposal.workDir,.accepted)
    | .pending,some false => (p.setDisposal retirement {disposal with state := .failed},.accepted)
    | _,_ => (p,.ignored)
  | none => (p,.ignored)

/-- The race of `#settleBounded` is won by the settlement, whose handler ran before. -/
def boundedSettles : Pool W I × Answer :=
  match p.disposals.get retirement with
  | some disposal =>
    match disposal.bounded,disposal.state with
    | none,.retired =>
      (p.setDisposal retirement {disposal with bounded := some .fulfilled},.accepted)
    | none,.failed =>
      (p.setDisposal retirement {disposal with bounded := some .rejected},.accepted)
    | _,_ => (p,.ignored)
  | none => (p,.ignored)

def boundedTimesOut : Pool W I × Answer :=
  match p.disposals.get retirement with
  | some disposal =>
    if disposal.bounded.isNone then
      (p.setDisposal retirement {disposal with bounded := some .timedOut},.accepted)
    else (p,.ignored)
  | none => (p,.ignored)

/-- The sessions that are neither busy nor recently used go; an error stays with each. -/
def reapIdle (idle : W → Bool) : Pool W I :=
  p.sessions.entries.foldl
    (fun p e =>
      match e.2.session with
      | some session => if idle e.1 then (p.retire session e.1 e.2.managedIdentity).1 else p
      | none => p) p

def retireSession : Pool W I × Answer :=
  if p.retirements.entries.any fun e =>
      (p.disposals.get e.2).map Retirement.session = some session then (p,.joined)
  else
    match p.sessions.entries.find? fun e => e.2.session = some session with
    | some (workDir,entry) =>
      match p.retire session workDir entry.managedIdentity with
      | (q,.ok _) => (q,.accepted)
      | (q,.error error) => (q,.refused error)
    | none =>
      if p.disposals.entries.any fun e => e.2.session = session && e.2.state = .retired then
        (p,.accepted)
      else (p,.refused .retirementFailed)

variable (identity : I)

def setReceipt (receipt : ReceiptRetirement W) : Pool W I :=
  {p with receiptRetirements := p.receiptRetirements.set identity receipt}

def endReceipt : Pool W I :=
  {p with receiptRetirements := p.receiptRetirements.delete identity}

/-- `#retire` on behalf of a receipt. -/
def retireForReceipt (session : Nat) (workDir : W) : Pool W I :=
  match p.retire session workDir (some identity) with
  | (q,.ok retirement) => q.setReceipt identity (.waiting retirement)
  | (q,.error _) => q.setReceipt identity .failed

/-- The second part of `#retireManagedReceipt`: the retirement, else the entry, of the
identity. -/
def retireMatch : Pool W I :=
  match p.retirements.entries.find? fun e =>
      (p.disposals.get e.2).bind Retirement.managedIdentity = some identity with
  | some (_,retirement) => p.setReceipt identity (.waiting retirement)
  | none =>
    match p.sessions.entries.find? fun e => e.2.managedIdentity = some identity with
    | none => p.endReceipt identity
    | some (workDir,entry) =>
      match entry.session with
      | some session => p.retireForReceipt identity session workDir
      | none => p.setReceipt identity (.awaitingCreation workDir entry.token)

def retireManagedReceipt : Pool W I × Answer :=
  if p.closed then (p,.ignored)
  else
    match p.receiptRetirements.get identity with
    | some .failed => (p,.refused .retirementFailed)
    | some _ => (p,.joined)
    | none =>
      match p.sessionTransitions.entries.find? fun e => e.2.managedIdentity = some identity with
      | some (workDir,t) => (p.setReceipt identity (.awaitingTransition workDir t.token),.accepted)
      | none => (p.retireMatch identity,.accepted)

/-- The operation with this token has left its directory. -/
def transitionOver : Bool :=
  (p.sessionTransitions.get workDir).map Transition.token ≠ some token

def resumeReceipt : Pool W I × Answer :=
  match p.receiptRetirements.get identity with
  | none => (p,.ignored)
  | some .failed => (p,.ignored)
  | some (.awaitingTransition workDir token) =>
    if !p.transitionOver workDir token then (p,.ignored)
    else if token ∈ p.rejectedCleanups then (p.setReceipt identity .failed,.accepted)
    else (p.retireMatch identity,.accepted)
  | some (.awaitingCreation workDir token) =>
    match p.sessionTransitions.get workDir with
    | none => (p,.ignored)
    | some t =>
      if t.token ≠ token then (p,.ignored)
      else
        match t.phase with
        | .settled session => (p.retireForReceipt identity session workDir,.accepted)
        | .failing => (p.setReceipt identity .failed,.accepted)
        | phase =>
          if hasPendingCleanup phase then
            (p.setReceipt identity (.awaitingCleanup workDir token),.accepted)
          else (p,.ignored)
  | some (.awaitingCleanup workDir token) =>
    if !p.transitionOver workDir token then (p,.ignored)
    else if token ∈ p.rejectedCleanups then (p.setReceipt identity .failed,.accepted)
    else (p.endReceipt identity,.accepted)
  | some (.waiting retirement) =>
    match p.boundedOf retirement with
    | none => (p,.ignored)
    | some .fulfilled => (p.endReceipt identity,.accepted)
    | some .rejected => (p.setReceipt identity .failed,.accepted)
    | some .timedOut => (p.setReceipt identity (.releasing retirement),.accepted)
  | some (.releasing retirement) =>
    match p.cleanupOf retirement true with
    | some true => (p.setReceipt identity .failed,.accepted)
    | some false => (p.endReceipt identity,.accepted)
    | none => (p,.ignored)

end

/-- Retires the session of every entry, up to the first one that throws. -/
def retireAll (p : Pool W I) : List (W × Entry I) → Pool W I × Except PoolError Unit
  | [] => (p,.ok ())
  | (workDir,entry) :: rest =>
    match entry.session with
    | none => p.retireAll rest
    | some session =>
      match p.retire session workDir entry.managedIdentity with
      | (q,.ok _) => q.retireAll rest
      | (q,.error error) => (q,.error error)

def shutdown (p : Pool W I) : Pool W I × Answer :=
  if p.closed then (p,.ignored)
  else
    match {p with closed := true}.retireAll p.sessions.entries with
    | (q,.ok _) => ({q with sessions := .empty},.accepted)
    | (q,.error error) => (q,.refused error)

end Pool

inductive Event (W I : Type) where
  | ensureSession (workDir : Option W) (managedIdentity : Option I) (sessionClosed : Bool)
  | resume (workDir : W)
  | unwind (workDir : W)
  | startFactory (workDir : W)
  | factoryResolves (session : Nat)
  | factoryRejects (session : Nat)
  | creationTimesOut (workDir : W)
  | disposeFulfils (retirement : Nat)
  | disposeRejects (retirement : Nat)
  | settlementRuns (retirement : Nat)
  | boundedSettles (retirement : Nat)
  | boundedTimesOut (retirement : Nat)
  | reapIdle (idle : W → Bool)
  | retireSession (session : Nat)
  | retireManagedReceipt (identity : I)
  | resumeReceipt (identity : I)
  | shutdown

def step (p : Pool W I) : Event W I → Pool W I × Answer
  | .ensureSession workDir managedIdentity sessionClosed =>
    p.ensureSession workDir managedIdentity sessionClosed
  | .resume workDir => p.resume workDir
  | .unwind workDir => p.unwind workDir
  | .startFactory workDir => p.startFactory workDir
  | .factoryResolves session => p.factorySettles session .live
  | .factoryRejects session => p.factorySettles session .rejected
  | .creationTimesOut workDir => p.creationTimesOut workDir
  | .disposeFulfils retirement => p.disposeSettles retirement true
  | .disposeRejects retirement => p.disposeSettles retirement false
  | .settlementRuns retirement => p.settlementRuns retirement
  | .boundedSettles retirement => p.boundedSettles retirement
  | .boundedTimesOut retirement => p.boundedTimesOut retirement
  | .reapIdle idle => (p.reapIdle idle,.accepted)
  | .retireSession session => p.retireSession session
  | .retireManagedReceipt identity => p.retireManagedReceipt identity
  | .resumeReceipt identity => p.resumeReceipt identity
  | .shutdown => p.shutdown

end GjcRemote.SessionPool
