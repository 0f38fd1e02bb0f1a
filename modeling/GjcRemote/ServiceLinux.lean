import GjcRemote.CrashTrace
import GjcRemote.Envelope
import Mathlib.Logic.Function.Basic

/-! The stop of a service by the Linux driver, from `native-control/src/service-linux.js`, over a
world that answers its calls. What the world answers has the shape that the native layer gives it.
A probe and the check of the identity receipts read every object of the service; here they are
answers of the world. Left out are the counts of writes, and the operation that a failure names. -/
namespace GjcRemote.ServiceLinux

open Utf16 StrictJson Record Envelope
open CrashTrace CrashTrace.Program

inductive Code where
  | invalid | pending | stale | manualCleanup | ioFailed | treeSurvivor
  deriving DecidableEq

inductive Reason where
  | recreatedResource | resourceDrift | treeNotQuiescent | maskDrift | activationDrift | inboundActivator
  | falseCondition
  deriving DecidableEq

/-- What the driver throws; a record without canonical bytes is refused below it. -/
inductive Failure where
  | service (code : Code) (ambiguous : Bool) (reason : Option Reason)
  | raised (error : JsError)

structure Process where
  pid : Int
  parentPid : Int
  startTime : Units
  executable : Units
  owner : Units
  state : Units
  depth : Int
  deriving DecidableEq

structure Identity where
  device : Units
  inode : Units
  deriving DecidableEq

structure Cgroup where
  identity : Identity
  processes : List Process
  treeFingerprint : Units
  processCount : Int
  deriving DecidableEq

structure Tree where
  processes : List Process
  treeFingerprint : Units
  processCount : Int

def isSafe (n : Int) : Bool := isSafeInteger (.int n)

def Process.valid (process : Process) : Bool :=
  isSafe process.pid && 1 ≤ process.pid && isSafe process.parentPid && 0 ≤ process.parentPid &&
    process.startTime ≠ [] && process.executable ≠ [] && process.owner ≠ [] && process.state ≠ [] &&
    isSafe process.depth && 0 ≤ process.depth && process.depth ≤ 64

def validProcesses (processes : List Process) : Bool :=
  processes.all Process.valid && decide (processes.map Process.pid).Nodup

def Process.record (process : Process) : Value :=
  .object [(ofString "pid",.number (.int process.pid)),(ofString "parentPid",.number (.int process.parentPid)),
    (ofString "startTime",.string process.startTime),(ofString "executable",.string process.executable),
    (ofString "owner",.string process.owner),(ofString "state",.string process.state),
    (ofString "depth",.number (.int process.depth))]

/-- `members.sort((left, right) => left.pid - right.pid)`. -/
def byPid (processes : List Process) : List Process :=
  processes.insertionSort fun left right => left.pid ≤ right.pid

def membersRecord (kind : String) (processes : List Process) : Value :=
  .object [(ofString "kind",.string (ofString kind)),
    (ofString "members",.array ((byPid processes).map Process.record))]

/-- `/^(?:0|[1-9][0-9]*)$/`, of 64 bits. -/
def canonicalUint64 (text : Units) : Bool :=
  !text.isEmpty && text.all (fun u => 0x30 ≤ u && u ≤ 0x39) && (text == [0x30] || text.head? != some 0x30) &&
    text.foldl (fun value u => value * 10 + (u.toNat - 0x30)) 0 ≤ 0xffffffffffffffff

def Identity.valid (identity : Identity) : Bool :=
  canonicalUint64 identity.device && canonicalUint64 identity.inode

section Digest

variable (sha256 : List UInt8 → Units)

/-- `canonicalJsonHash` of the members under a kind. -/
def membersFingerprint (kind : String) (processes : List Process) : Except Failure (Option Units) :=
  match canonicalJsonHash sha256 (membersRecord kind processes) with
  | .ok digest => .ok (some digest)
  | .error error => .error (.raised error)

def cgroupMemberFingerprint (cgroup : Cgroup) : Except Failure (Option Units) :=
  if cgroup.processCount = cgroup.processes.length && cgroup.identity.valid && isHex64 cgroup.treeFingerprint &&
      validProcesses cgroup.processes then
    membersFingerprint sha256 "linux-cgroup-members/v2" cgroup.processes
  else .ok none

def processFactsFingerprint (processes : List Process) : Except Failure (Option Units) :=
  if validProcesses processes then membersFingerprint sha256 "linux-process-members/v2" processes
  else .ok none

end Digest

inductive Phase where
  | prepared | sequenceReserved | releasePublished | transitionMarkerIntent | stopping | quiescent
  | resourcePublished | trialStartIntent | trialStartObserved | starting | startupObserved
  | activationObserved | tombstoned | resourceRemoved | referencesReleased | committed | manualCleanup
  deriving DecidableEq

/-- `SERVICE_TRANSACTION_PHASES`. -/
def Phase.all : List Phase :=
  [.prepared,.sequenceReserved,.releasePublished,.transitionMarkerIntent,.stopping,.quiescent,
    .resourcePublished,.trialStartIntent,.trialStartObserved,.starting,.startupObserved,
    .activationObserved,.tombstoned,.resourceRemoved,.referencesReleased,.committed,.manualCleanup]

inductive Substep where
  | none | intent | action | observed
  deriving DecidableEq

/-- `{ intent: 0, action: 1, observed: 2 }`. -/
def Substep.order : Substep → Option Nat
  | .none => .none
  | .intent => some 0
  | .action => some 1
  | .observed => some 2

/-- A record of the transaction, by what changes from one to the next. -/
structure Entry where
  phase : Phase
  substep : Substep
  deriving DecidableEq

def LATE_STOP_PHASES : List Phase :=
  [.resourcePublished,.trialStartObserved,.starting,.startupObserved,.activationObserved]

def STOPPABLE_HEADS : List Entry :=
  [⟨.transitionMarkerIntent,.observed⟩,⟨.resourcePublished,.observed⟩,⟨.trialStartObserved,.observed⟩,
    ⟨.starting,.intent⟩,⟨.startupObserved,.observed⟩,⟨.activationObserved,.observed⟩,⟨.stopping,.action⟩,
    ⟨.stopping,.observed⟩]

def isLateStop (previous next : Entry) : Bool :=
  next = ⟨.stopping,.intent⟩ && previous.phase ∈ LATE_STOP_PHASES &&
    (previous.substep = .observed || previous = ⟨.starting,.intent⟩)

/-- `assertJournalTransition`. -/
def follows (previous next : Entry) : Bool :=
  (Phase.all.idxOf previous.phase ≤ Phase.all.idxOf next.phase || isLateStop previous next) &&
    (previous.phase ≠ next.phase ||
      if next.phase = .prepared then next.substep = .none
      else
        match previous.substep.order,next.substep.order with
        | some before,some after => (previous.substep = .observed && next.substep = .intent) || before ≤ after
        | _,_ => false)

/-- What `systemctl show` says of the unit, as far as the stop reads it. -/
structure Manager where
  activeState : String
  /-- `parseShowPid`. -/
  mainPid : Option Nat
  /-- An invocation id that has its form. -/
  invocationId : Option Units

structure Probe where
  hasPhase : Bool
  driftReasons : List Reason
  resourceFingerprint : Units
  manager : Manager

structure Killed where
  empty : Bool
  forced : Bool
  terminated : Int

structure World (ω : Type) where
  showUnit : ω → Except Failure Manager × ω
  readCgroup : ω → Except Failure (Option Cgroup) × ω
  readProcessFacts : Nat → ω → Except Failure (Option Process) × ω
  enumerateTree : Process → ω → Except Failure Tree × ω
  stop : ω → Except Failure Nat × ω
  terminate : Identity → Units → ω → Except Failure Killed × ω
  probe : ω → Except Failure Probe × ω
  receipts : ω → Except Failure Unit × ω
  append : Entry → ω → Except Failure Unit × ω
  now : ω → Int × ω
  sleep : ω → ω

/-- What happened. A call that acts is there when it is issued, a read when it is answered. -/
inductive Event where
  | shown (manager : Manager)
  | members (cgroup : Option Cgroup)
  | facts (process : Option Process)
  | tree (tree : Tree)
  | stop
  | terminate (identity : Identity) (treeFingerprint : Units)
  | probed (probe : Probe)
  | received
  | appended (entry : Entry)
  | started (start deadline : Int)
  | time (now : Int)
  | slept

/-- `other` stands for those of the other methods. -/
inductive Discriminator where
  | stopAndQuiesce | terminateCgroup | other
  deriving DecidableEq

/-- The resources that the transaction declares. -/
structure Transition where
  platformResourceFingerprint : Option Units
  expectedBeforeResourceFingerprint : Option Units
  expectedAfterResourceFingerprint : Option Units

/-- The configuration of the driver, and the transition of its transaction. -/
structure Config where
  runtimePath : Units
  expectedOwner : Units
  transition : Transition

/-- The driver in its world, and what happened to it, the latest first. An action record has the
discriminator that this driver gave it. -/
structure Driver (ω : Type) where
  world : ω
  journal : List Entry
  pending : Bool
  discriminators : Nat → Option Discriminator
  hasReceipts : Bool
  trace : List Event

variable {ω : Type}

def Driver.note (s : Driver ω) (event : Event) : Driver ω := {s with trace := event :: s.trace}

def Driver.discriminator (s : Driver ω) : Option Discriminator := s.discriminators (s.journal.length - 1)

abbrev Action (ω : Type) := Program (Driver ω) Failure

def refuse {α : Type} (code : Code) (reason : Option Reason) (ambiguous : Bool) : Action ω α :=
  fail (.service code ambiguous reason)

def require (ok : Bool) (code : Code) (reason : Option Reason) (ambiguous : Bool) : Action ω Unit :=
  if ok then pure () else refuse code reason ambiguous

def read {α : Type} (answer : ω → Except Failure α × ω) (event : α → Event) : Action ω α :=
  perform fun s =>
    match answer s.world with
    | (.ok a,world) => ({s with world := world}.note (event a),.ok a)
    | (.error error,world) => ({s with world := world},.error error)

def act {α : Type} (event : Event) (answer : ω → Except Failure α × ω) : Action ω α :=
  perform fun s => ({s with world := (answer s.world).2}.note event,(answer s.world).1)

variable (w : World ω)

def showUnit : Action ω Manager := read w.showUnit .shown

def readCgroup : Action ω (Option Cgroup) := read w.readCgroup .members

def nowMs : Action ω Int :=
  perform fun s => ({s with world := (w.now s.world).2}.note (.time (w.now s.world).1),.ok (w.now s.world).1)

def sleepMs : Action ω Unit := perform fun s => ({s with world := w.sleep s.world}.note .slept,.ok ())

def startWait (deadline : Int) : Action ω Int :=
  perform fun s =>
    ({s with world := (w.now s.world).2}.note (.started (w.now s.world).1 deadline),.ok (w.now s.world).1)

def latest : Action ω Entry :=
  inspect fun s =>
    match s.journal.getLast? with
    | some entry => .ok entry
    | none => .error (.service .pending false none)

/-- `session.appendJournal(record)`. -/
def appendRecord (entry : Entry) : Action ω Unit :=
  perform fun s =>
    match w.append entry s.world with
    | (.ok (),world) => ({s with world := world,journal := s.journal ++ [entry]}.note (.appended entry),.ok ())
    | (.error error,world) => ({s with world := world},.error error)

/-- No append of a stop finds a pending record, for the check of the head refuses one. -/
def journalAppend (phase : Phase) (substep : Substep) : Action ω Unit := do
  let previous ← latest
  require (follows previous ⟨phase,substep⟩) .pending none false
  appendRecord w ⟨phase,substep⟩

def setDiscriminator (discriminator : Discriminator) : Action ω Unit :=
  perform fun s =>
    ({s with discriminators := Function.update s.discriminators (s.journal.length - 1) (some discriminator)},.ok ())

def isAction (phase : Phase) (entry : Entry) : Bool := entry = ⟨phase,.action⟩

def enterIntent (phase : Phase) : Action ω Unit := do
  let head ← latest
  if head = ⟨phase,.intent⟩ ∨ head = ⟨phase,.action⟩ then pure () else journalAppend w phase .intent

def enterAction (phase : Phase) (discriminator : Discriminator) : Action ω Unit := do
  let head ← latest
  if head.substep = .intent then do
    journalAppend w phase .action
    setDiscriminator discriminator
  else pure ()

/-- The mutation, its post-state and the observed record. -/
def performAction {α : Type} (phase : Phase) (mutate : Action ω α) (observe : Action ω Bool) :
    Action ω (Option α) := do
  let result ← mutate
  let observed ← observe
  require observed .manualCleanup (some .resourceDrift) true
  journalAppend w phase .observed
  return some result

def foundDone (replaying : Bool) (observe : Action ω Bool) : Action ω Bool :=
  if replaying then observe else pure false

/-- What the mutation gave, or none where it was done before. The receipts of an action have no
part in the termination of a control group. -/
def actionMutation {α : Type} (phase : Phase) (mutate : Action ω α) (observe : Action ω Bool)
    (discriminator : Discriminator) : Action ω (Option α) := do
  let head ← latest
  let current ← inspect fun s => .ok s.discriminator
  let replaying := isAction phase head
  require (!replaying || current = some discriminator) .pending none false
  enterIntent w phase
  enterAction w phase discriminator
  let done ← foundDone replaying observe
  if done then do
    journalAppend w phase .observed
    return none
  else performAction w phase mutate observe

def STOP_DEADLINE_MS : Int := 35000

structure Input where
  deadlineMs : Option Int
  expectedResourceFingerprint : Option Units

def Input.valid (input : Input) : Bool :=
  let deadline := input.deadlineMs.getD STOP_DEADLINE_MS
  isSafe deadline && 1 ≤ deadline && deadline ≤ STOP_DEADLINE_MS && input.expectedResourceFingerprint.all isHex64

/-- The discriminator of an action record that this driver wrote for a stop. -/
def stopDiscriminator : Option Discriminator → Except Failure Discriminator
  | none => .error (.service .manualCleanup true (some .recreatedResource))
  | some .other => .error (.service .pending false none)
  | some discriminator => .ok discriminator

/-- `assertHead` for the heads of a stop: the discriminator of a head that is an action record. -/
def assertHead : Action ω (Option Discriminator) :=
  inspect fun s =>
    match s.journal.getLast? with
    | none => .error (.service .pending false none)
    | some head =>
      if s.pending || head ∉ STOPPABLE_HEADS then .error (.service .pending false none)
      else if head.substep = .action then (stopDiscriminator s.discriminator).map some
      else .ok none

def requireLiveIdentityReceipts : Action ω Unit :=
  inspect fun s =>
    if s.hasReceipts then .ok () else .error (.service .manualCleanup true (some .recreatedResource))

/-- `transactionResourcePredicate` of a stop. -/
def Transition.isStopped (transition : Transition) (observed : Units) (callerExpected : Option Units) : Bool :=
  [transition.platformResourceFingerprint,transition.expectedBeforeResourceFingerprint,
      transition.expectedAfterResourceFingerprint].all (fun declared => declared.all isHex64) &&
    callerExpected.all (fun expected => expected == observed) &&
    transition.platformResourceFingerprint == some observed

structure Epoch where
  mainPid : Nat
  executable : Units
  owner : Units
  treeProcesses : List Process

variable (cfg : Config) (sha256 : List UInt8 → Units)

def lineageMatches (epoch : Epoch) : Bool :=
  epoch.executable == cfg.runtimePath && epoch.owner == cfg.expectedOwner

def Manager.livePid (manager : Manager) : Option Nat :=
  if manager.invocationId.isSome && manager.activeState == "active" then
    manager.mainPid.filter fun pid => pid ≠ 0
  else none

def readTree (mainPid : Nat) (facts : Process) : Action ω Epoch := do
  require (facts.pid = mainPid) .invalid none true
  let tree ← read (w.enumerateTree facts) .tree
  require (tree.processCount = tree.processes.length && tree.processes.head?.map Process.pid == some (mainPid : Int) &&
    isHex64 tree.treeFingerprint) .invalid none true
  let digest ← lift (processFactsFingerprint sha256 tree.processes)
  require digest.isSome .invalid none true
  return ⟨mainPid,facts.executable,facts.owner,tree.processes⟩

def readEpoch (mainPid : Nat) : Action ω (Option Epoch) := do
  match ← read (w.readProcessFacts mainPid) .facts with
  | none => return none
  | some facts =>
    let epoch ← readTree w sha256 mainPid facts
    return some epoch

def liveEpoch : Action ω (Option Epoch) := do
  let manager ← showUnit w
  match manager.livePid with
  | none => return none
  | some mainPid => readEpoch w sha256 mainPid

structure Admitted where
  deadline : Int
  pendingAction : Option Discriminator

def enterStop : Option Discriminator → Action ω Unit
  | some _ => pure ()
  | none => journalAppend w .stopping .intent

/-- The call up to its intent record. The only action records among its heads are those of a stop. -/
def admitStop (input : Input) : Action ω Admitted := do
  require input.valid .invalid none false
  let pendingAction ← assertHead
  requireLiveIdentityReceipts
  enterStop w pendingAction
  return ⟨input.deadlineMs.getD STOP_DEADLINE_MS,pendingAction⟩

/-- The resource is the one that the transaction declares. -/
def inspectResource (input : Input) : Action ω Probe := do
  let before ← read w.probe .probed
  read w.receipts fun _ => .received
  require before.hasPhase .manualCleanup (some (before.driftReasons.head?.getD .resourceDrift)) true
  require (cfg.transition.isStopped before.resourceFingerprint input.expectedResourceFingerprint)
    .manualCleanup (some .resourceDrift) true
  return before

def requireMembers (code : Code) (cgroup : Cgroup) : Action ω Unit := do
  let digest ← lift (cgroupMemberFingerprint sha256 cgroup)
  require digest.isSome code (some .treeNotQuiescent) true

/-- A head that is an action record: the stop may have been issued, and no other follows. -/
def checkPendingStop (before : Probe) (live : Option Epoch) : Action ω (Option Cgroup) := do
  let cgroup ← readCgroup w
  cgroup.forM (requireMembers sha256 .pending)
  require (live.isNone && before.manager.activeState ≠ "active" && !before.manager.mainPid.any (fun pid => 0 < pid) &&
    !cgroup.any (fun cgroup => 0 < cgroup.processCount)) .pending (some .treeNotQuiescent) true
  return cgroup

/-- The control group of the live process holds the tree of the process. -/
def checkLineage (live : Epoch) : Action ω Cgroup := do
  require (lineageMatches cfg live) .manualCleanup (some .resourceDrift) true
  match ← readCgroup w with
  | none => refuse .manualCleanup (some .resourceDrift) true
  | some cgroup =>
    let digest ← lift (cgroupMemberFingerprint sha256 cgroup)
    require (digest.isSome && cgroup.processes.any fun process => process.pid = live.mainPid)
      .manualCleanup (some .resourceDrift) true
    let tree ← lift (processFactsFingerprint sha256 live.treeProcesses)
    let members ← lift (processFactsFingerprint sha256 cgroup.processes)
    require (tree == members) .manualCleanup (some .resourceDrift) true
    return cgroup

structure Stopped where
  forced : Bool
  terminated : Int
  deriving DecidableEq

def isStopped (manager : Manager) : Bool := manager.activeState == "inactive" || manager.activeState == "failed"

def isEmpty (cgroup : Option Cgroup) : Bool := cgroup.all fun cgroup => cgroup.processCount = 0

/-- The control group, when it is there, has the members that it had. -/
def requireSame (before cgroup : Cgroup) : Action ω Unit := do
  let now ← lift (cgroupMemberFingerprint sha256 cgroup)
  let then' ← lift (cgroupMemberFingerprint sha256 before)
  require (now == then') .manualCleanup (some .treeNotQuiescent) true

def checkMembers (before : Cgroup) (cgroup : Option Cgroup) : Action ω Unit :=
  cgroup.forM fun cgroup => do
    requireMembers sha256 .manualCleanup cgroup
    if 0 < cgroup.processCount then requireSame sha256 before cgroup else pure ()

/-- After a termination nothing is left; a group of no form that says so counts. -/
def observeKilled : Action ω Bool := do
  let after ← readCgroup w
  return isEmpty after

def checkKilled (exact' : Cgroup) (killed : Killed) : Action ω Stopped := do
  require (killed.empty && killed.forced && isSafe killed.terminated && 0 ≤ killed.terminated &&
    killed.terminated ≤ exact'.processCount) .manualCleanup (some .treeNotQuiescent) true
  return ⟨true,killed.terminated⟩

/-- The termination of the control group, an action of its own. -/
def force (exact' : Cgroup) : Action ω Stopped := do
  read w.receipts fun _ => .received
  journalAppend w .stopping .observed
  let killed ← actionMutation w .stopping
    (act (.terminate exact'.identity exact'.treeFingerprint) (w.terminate exact'.identity exact'.treeFingerprint))
    (observeKilled w) .terminateCgroup
  checkKilled exact' (killed.getD ⟨true,true,0⟩)

def expire (before : Cgroup) : Action ω Stopped := do
  match ← readCgroup w with
  | none => return ⟨false,0⟩
  | some exact' =>
    requireMembers sha256 .manualCleanup exact'
    if exact'.processCount = 0 then return ⟨false,0⟩
    else do
      requireSame sha256 before exact'
      force w exact'

/-- The wait for the end of the tree, for a number of turns; none when they do not do. -/
def poll (before : Cgroup) (start deadline : Int) : Nat → Action ω (Option Stopped)
  | 0 => return none
  | turns + 1 => do
    let manager ← showUnit w
    let cgroup ← readCgroup w
    checkMembers sha256 before cgroup
    if isStopped manager && isEmpty cgroup then return some ⟨false,0⟩
    else do
      let now ← nowMs w
      if deadline ≤ now - start then do
        let stopped ← expire w sha256 before
        return some stopped
      else do
        sleepMs w
        poll before start deadline turns

/-- `systemctl stop`, and the wait. -/
def stopTree (before : Cgroup) (deadline : Int) (turns : Nat) : Action ω (Option Stopped) := do
  let code ← act .stop w.stop
  require (code = 0) .ioFailed none true
  let start ← startWait w deadline
  poll w sha256 before start deadline turns

def observeEmpty : Action ω Bool := do
  match ← readCgroup w with
  | none => return true
  | some after =>
    let digest ← lift (cgroupMemberFingerprint sha256 after)
    return digest.isSome && decide (after.processCount = 0)

/-- After a crash in the termination, whose call is not issued again. -/
def resumeTermination : Action ω Stopped := do
  let killed ← actionMutation w .stopping (pure ()) (observeEmpty w sha256) .terminateCgroup
  return ⟨killed.isNone,0⟩

inductive Start where
  /-- No process is left. -/
  | ended
  /-- A termination was begun. -/
  | terminating
  /-- The tree of the control group is to be stopped. -/
  | bound (before : Cgroup) (deadline : Int)
  deriving DecidableEq

def startPending (before : Probe) (live : Option Epoch) (discriminator : Discriminator) : Action ω Start := do
  let _ ← checkPendingStop w sha256 before live
  return if discriminator = .terminateCgroup then .terminating else .ended

def startLive (live : Option Epoch) (deadline : Int) : Action ω Start :=
  match live with
  | none => return .ended
  | some live => do
    let before ← checkLineage w cfg sha256 live
    enterAction w .stopping .stopAndQuiesce
    return .bound before deadline

/-- The call up to the action record of `systemctl stop`. -/
def startStop (input : Input) : Action ω Start := do
  let admitted ← admitStop w input
  let before ← inspectResource w cfg input
  let live ← liveEpoch w sha256
  match admitted.pendingAction with
  | some discriminator => startPending w sha256 before live discriminator
  | none => startLive w cfg sha256 live admitted.deadline

def endTree (turns : Nat) : Start → Action ω (Option Stopped)
  | .ended => return some ⟨false,0⟩
  | .terminating => do
    let stopped ← resumeTermination w sha256
    return some stopped
  | .bound before deadline => stopTree w sha256 before deadline turns

/-- The last reads, and the records of a quiescent service. -/
def confirm : Action ω Unit := do
  let manager ← showUnit w
  let cgroup ← readCgroup w
  cgroup.forM (requireMembers sha256 .treeSurvivor)
  require (isStopped manager && isEmpty cgroup) .treeSurvivor (some .treeNotQuiescent) true
  journalAppend w .stopping .observed
  journalAppend w .quiescent .intent
  journalAppend w .quiescent .observed

def finishStop (stopped : Option Stopped) : Action ω (Option Stopped) :=
  match stopped with
  | none => return none
  | some stopped => do
    confirm w sha256
    return some stopped

def stopAndQuiesce (input : Input) (turns : Nat) : Action ω (Option Stopped) := do
  let start ← startStop w cfg sha256 input
  let stopped ← endTree w sha256 turns start
  finishStop w sha256 stopped

end GjcRemote.ServiceLinux
