import GjcRemote.Callbacks
import GjcRemote.SessionPool

/-! The holds of `daemon/src/session-pool.js`: callbacks passed along with a retirement,
to be called once the session is disposed of. A hold waits in the set of the retirement,
or in that of a receipt retirement that has not found its session yet. -/
namespace GjcRemote.SessionPool

open Callbacks

/-- The objects that own a `holds` and a `releasedHolds` set. The literal is the object that
`retireSession` makes for a session that is already retired. -/
inductive Holder (I : Type) where
  | retirement (generation : Nat)
  | receipt (identity : I)
  | literal
  deriving DecidableEq

inductive Owner (I : Type) where
  | session (session : Nat)
  | receipt (identity : I)
  deriving DecidableEq

/-- `merged` is the `retirement` field of the receipt retirements. `passed` remembers the
holds that the pool has taken, `missed` whether a session of the receipt has been disposed
of since its retirement began. -/
structure HeldPool (W I H : Type) where
  pool : Pool W I
  ledger : Ledger (Holder I) H
  merged : I → Option Nat
  passed : List (H × Owner I)
  missed : I → Bool

/-- An event of the pool with the holds that the call passes, if it takes any. -/
structure Call (W I H : Type) where
  event : Event W I
  holds : List H

variable {W I H : Type}

namespace HeldPool

def new (maxSessions : Nat) : HeldPool W I H := ⟨.new maxSessions,.new,fun _ => none,[],fun _ => false⟩

variable [DecidableEq I] [DecidableEq H]

/-- `retirement.state === "retired"`. -/
def due (p : Pool W I) (retirement : Nat) : Bool := p.stateOf retirement = some .retired

/-- The receipt of the session that a dispose under way is for. -/
def disposing (p : Pool W I) (retirement : Nat) : Option I :=
  match p.disposals.get retirement with
  | some disposal => if disposal.settled.isNone then disposal.managedIdentity else none
  | none => none

section

variable (s : HeldPool W I H)

def addRetirementHolds (retirement : Nat) (holds : List H) : HeldPool W I H :=
  {s with ledger := s.ledger.depositAll (.retirement retirement) (due s.pool retirement) holds}

def releaseRetirementHolds (holder : Holder I) : HeldPool W I H :=
  {s with ledger := s.ledger.release holder}

/-- A receipt retirement hands its holds to the retirement of its session. -/
def transferRetirementHolds (identity : I) (retirement : Nat) :
    HeldPool W I H :=
  {s with
    ledger := s.ledger.transfer (.receipt identity) (.retirement retirement) (due s.pool retirement)}

def pass (owner : Owner I) (holds : List H) : HeldPool W I H :=
  {s with passed := s.passed ++ holds.map fun hold => (hold,owner)}

def merge (identity : I) (retirement : Nat) : HeldPool W I H :=
  {s.transferRetirementHolds identity retirement with
    merged := fun i => if i = identity then some retirement else s.merged i}

/-- What `#retireManagedReceipt` does once it has looked for its session: the pool knows
what it found. A receipt without a session has nothing to wait for. -/
def follow (identity : I) : HeldPool W I H :=
  match s.pool.receiptRetirements.get identity with
  | some (.waiting retirement) => s.merge identity retirement
  | none => s.releaseRetirementHolds (.receipt identity)
  | _ => s

def disposeFulfils (retirement : Nat) : HeldPool W I H :=
  let p := s.pool
  let s := {s with pool := (p.disposeSettles retirement true).1}
  match disposing p retirement with
  | some identity => {s with missed := fun i => if i = identity then true else s.missed i}
  | none => s

end

variable [DecidableEq W] (s : HeldPool W I H)

def retireSession (session : Nat) (holds : List H) : HeldPool W I H :=
  let p := s.pool
  let s := {s with pool := (p.retireSession session).1}
  match p.retirements.entries.find? fun e =>
      (p.disposals.get e.2).map Retirement.session = some session with
  | some (_,retirement) => (s.addRetirementHolds retirement holds).pass (.session session) holds
  | none =>
    match p.sessions.entries.find? fun e => e.2.session = some session with
    | some (workDir,entry) =>
      match (p.retire session workDir entry.managedIdentity).2 with
      | .ok retirement => (s.addRetirementHolds retirement holds).pass (.session session) holds
      | .error _ => s
    | none =>
      if p.disposals.entries.any fun e => e.2.session = session && e.2.state = .retired then
        {s with ledger := (s.ledger.renew .literal).depositAll .literal true holds}.pass
          (.session session) holds
      else s

def retireManagedReceipt (identity : I) (holds : List H) : HeldPool W I H :=
  let p := s.pool
  if p.closed then s
  else
    let s := {s.pass (.receipt identity) holds with pool := (p.retireManagedReceipt identity).1}
    match p.receiptRetirements.get identity with
    | some _ =>
      let s := {s with ledger := s.ledger.depositAll (.receipt identity) false holds}
      match s.merged identity with
      | some retirement => s.transferRetirementHolds identity retirement
      | none => s
    | none =>
      {s with
        ledger := (s.ledger.renew (.receipt identity)).depositAll (.receipt identity) false holds
        merged := fun i => if i = identity then none else s.merged i
        missed := fun i => if i = identity then false else s.missed i}.follow identity

/-- Only a receipt that was still looking for its session follows what it found. -/
def resumeReceipt (identity : I) : HeldPool W I H :=
  let p := s.pool
  let s := {s with pool := (p.resumeReceipt identity).1}
  match p.receiptRetirements.get identity with
  | some (.awaitingTransition _ _) | some (.awaitingCreation _ _) => s.follow identity
  | _ => s

def settlementRuns (retirement : Nat) : HeldPool W I H :=
  let p := s.pool
  let s := {s with pool := (p.settlementRuns retirement).1}
  if p.stateOf retirement = some .pending ∧ s.pool.stateOf retirement = some .retired then
    s.releaseRetirementHolds (.retirement retirement)
  else s

def call (c : Call W I H) : HeldPool W I H :=
  match c.event with
  | .retireSession session => s.retireSession session c.holds
  | .retireManagedReceipt identity => s.retireManagedReceipt identity c.holds
  | .resumeReceipt identity => s.resumeReceipt identity
  | .disposeFulfils retirement => s.disposeFulfils retirement
  | .settlementRuns retirement => s.settlementRuns retirement
  | event => {s with pool := (step s.pool event).1}

end HeldPool

def heldStep [DecidableEq W] [DecidableEq I] [DecidableEq H] (s : HeldPool W I H)
    (c : Call W I H) : HeldPool W I H × Answer :=
  (s.call c,(step s.pool c.event).2)

end GjcRemote.SessionPool
