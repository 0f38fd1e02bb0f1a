import GjcRemote.SessionPoolExclusive
import Mathlib.Logic.Relation

/-! What the steps of the pool are made of, and what its records then tell: whose session
an operation or a retirement concerns, and why an operation failed. -/
namespace GjcRemote.SessionPool

open OrderedMap
variable {W I : Type}

/-- No session came of an operation on the directory: the factory or a dispose rejected. -/
def Refused (p : Pool W I) (workDir : W) : Prop :=
  DisposeRejected p workDir ∨
    ∃ session, p.creations.get session = some ⟨workDir,.rejected⟩

def Resolved (p : Pool W I) (session : Nat) : Prop :=
  p.existence session = some .live ∨ p.existence session = some .disposed

def Phase.received : Phase → Option Nat
  | .created session | .settled session => some session
  | _ => none

def Phase.disposing : Phase → Option Nat
  | .replacing retirement | .lateDisposal retirement | .releasing retirement => some retirement
  | _ => none

def ReceiptRetirement.awaits : ReceiptRetirement W → Option (W × Nat)
  | .awaitingTransition workDir token | .awaitingCreation workDir token
  | .awaitingCleanup workDir token => some (workDir,token)
  | _ => none

def ReceiptRetirement.merged : ReceiptRetirement W → Option Nat
  | .waiting retirement | .releasing retirement => some retirement
  | _ => none

namespace Pool

def Keeps (p q : Pool W I) : Prop :=
  ∀ retirement disposal, p.disposals.get retirement = some disposal →
    ∃ disposal', q.disposals.get retirement = some disposal' ∧
      disposal'.session = disposal.session ∧ disposal'.workDir = disposal.workDir ∧
      disposal'.managedIdentity = disposal.managedIdentity ∧
      ∀ b, disposal.settled = some b → disposal'.settled = some b

variable {p : Pool W I}

theorem Keeps.of_eq (same : q.disposals = p.disposals) : p.Keeps q :=
  fun _ disposal found => ⟨disposal,by rw [same]; exact found,rfl,rfl,rfl,fun _ => id⟩

theorem Keeps.setDisposal {p : Pool W I} {retirement : Nat} {old : Retirement W I}
    (found : p.disposals.get retirement = some old) {new : Retirement W I}
    (session : new.session = old.session) (workDir : new.workDir = old.workDir)
    (identity : new.managedIdentity = old.managedIdentity)
    (settled : ∀ b, old.settled = some b → new.settled = some b) :
    p.Keeps (p.setDisposal retirement new) := by
  intro r x found'
  by_cases same : r = retirement
  · rw [same,found] at found'
    cases found'
    rw [same]
    exact ⟨new,get_set_self _ _ _,session,workDir,identity,settled⟩
  · exact ⟨x,(get_set_ne _ _ same).trans found',rfl,rfl,rfl,fun _ => id⟩

theorem Keeps.rejected (keeps : p.Keeps q)
    (rejected : DisposeRejected p workDir) : DisposeRejected q workDir := by
  obtain ⟨r,x,found,here,settled⟩ := rejected
  obtain ⟨x',found',_,same,_,still⟩ := keeps r x found
  exact ⟨r,x',found',same.trans here,still false settled⟩

theorem Keeps.named (keeps : p.Keeps q)
    (named : ∃ x, p.disposals.get retirement = some x ∧ x.managedIdentity = identity) :
    ∃ x, q.disposals.get retirement = some x ∧ x.managedIdentity = identity := by
  obtain ⟨x,found,same⟩ := named
  obtain ⟨x',found',_,_,kept,_⟩ := keeps retirement x found
  exact ⟨x',found',kept.trans same⟩

theorem Keeps.located (keeps : p.Keeps q)
    (located : ∃ x, p.disposals.get retirement = some x ∧ x.workDir = workDir) :
    ∃ x, q.disposals.get retirement = some x ∧ x.workDir = workDir := by
  obtain ⟨x,found,same⟩ := located
  obtain ⟨x',found',_,kept,_⟩ := keeps retirement x found
  exact ⟨x',found',kept.trans same⟩

variable [DecidableEq W] [DecidableEq I]

structure Admissible (p : Pool W I) (workDir : W) (phase : Phase) : Prop where
  settled : ∀ session, phase = .settled session → p.retirements.get workDir = none
  disposing : ∀ retirement, phase.disposing = some retirement →
    ∃ disposal, p.disposals.get retirement = some disposal ∧ disposal.workDir = workDir
  failing : phase = .failing → Refused p workDir
  cleaned : phase = .cleaned true → DisposeRejected p workDir
  received : ∀ session, phase.received = some session → Resolved p session
  unclosed : ∀ retirement, phase ≠ .closing retirement

inductive Change (p : Pool W I) : Pool W I → Prop where
  | enter (workDir : W) (t : Transition I) (idle : p.sessionTransitions.get workDir = none)
      (fresh : t.token = p.nextToken)
      (named : ∀ e, p.sessions.get workDir = some e → e.managedIdentity = t.managedIdentity)
      (admissible : p.Admissible workDir t.phase) :
      Change p {p.setTransition workDir t with nextToken := p.nextToken + 1}
  | move (workDir : W) (t : Transition I) (phase : Phase)
      (operation : p.sessionTransitions.get workDir = some t)
      (admissible : p.Admissible workDir phase) (undenied : phase ≠ .denied) :
      Change p (p.setPhase workDir t phase)
  | pend (workDir : W) (t : Transition I) (operation : p.sessionTransitions.get workDir = some t) :
      Change p (p.setTransition workDir {t with cleanupPending := true})
  | clear (workDir : W) (t : Transition I) (rejected : Bool)
      (operation : p.sessionTransitions.get workDir = some t)
      (cleaned : rejected = true → t.phase = .cleaned true)
      (unawaited : ∀ identity,p.receiptRetirements.get identity ≠ some (.awaitingCreation workDir t.token)) :
      Change p {p.clearTransition workDir with
        rejectedCleanups :=
          if rejected then t.token :: p.rejectedCleanups else p.rejectedCleanups}
  | enlist (workDir : W) (e : Entry I)
      (named : ∀ t, p.sessionTransitions.get workDir = some t → e.managedIdentity = t.managedIdentity)
      (resolved : ∀ session, e.session = some session → Resolved p session) :
      Change p {p with sessions := p.sessions.set workDir e}
  | unlist (workDir : W) : Change p {p with sessions := p.sessions.delete workDir}
  | holds (creationHolds : OrderedMap W Nat) : Change p {p with creationHolds := creationHolds}
  | creations (creations : OrderedMap Nat (Creation W)) (nextCreation : Nat)
      (kept : ∀ session workDir, p.creations.get session = some ⟨workDir,.rejected⟩ →
        creations.get session = some ⟨workDir,.rejected⟩)
      (resolved : ∀ session, Resolved p session →
        Resolved {p with creations := creations,nextCreation := nextCreation} session) :
      Change p {p with creations := creations,nextCreation := nextCreation}
  | retire (session : Nat) (workDir : W) (managedIdentity : Option I)
      (fresh : p.disposals.get p.nextRetirementGeneration = none)
      (unused : ∀ w, p.retirements.get w ≠ some p.nextRetirementGeneration)
      (named : ∀ t c, p.sessionTransitions.get workDir = some t → t.phase = .settled c →
        managedIdentity = t.managedIdentity ∧ session = c)
      (resolved : Resolved p session) :
      Change p {p with
        disposals := p.disposals.set p.nextRetirementGeneration
          ⟨session,workDir,managedIdentity,.pending,none,none⟩
        retirements := p.retirements.set workDir p.nextRetirementGeneration
        nextRetirementGeneration := p.nextRetirementGeneration + 1}
  | disposal (retirement : Nat) (old new : Retirement W I)
      (found : p.disposals.get retirement = some old) (session : new.session = old.session)
      (workDir : new.workDir = old.workDir) (identity : new.managedIdentity = old.managedIdentity)
      (state : new.state = old.state)
      (settled : ∀ b, old.settled = some b → new.settled = some b)
      (rejected : new.bounded = some .rejected → new.settled = some false) :
      Change p (p.setDisposal retirement new)

def Changes : Pool W I → Pool W I → Prop := Relation.ReflTransGen Change

theorem Change.keeps (change : p.Change q) : p.Keeps q := by
  cases change with
  | retire session workDir managedIdentity fresh =>
    intro r x found
    refine ⟨x,?_,rfl,rfl,rfl,fun _ => id⟩
    have ne : r ≠ p.nextRetirementGeneration := by
      rintro rfl
      rw [fresh] at found
      cases found
    exact (get_set_ne _ _ ne).trans found
  | disposal retirement old new found session workDir identity _ settled =>
    exact .setDisposal found session workDir identity settled
  | _ => exact .of_eq rfl

/-- The retirements that a change finds keep their state. -/
theorem Change.state (change : p.Change q) (found : p.disposals.get r = some x) :
    ∃ y, q.disposals.get r = some y ∧ y.state = x.state ∧ y.session = x.session ∧
      y.managedIdentity = x.managedIdentity := by
  cases change with
  | disposal retirement old new found' session _ identity state =>
    by_cases here : r = retirement
    · rw [here,found'] at found
      cases found
      rw [here]
      exact ⟨new,get_set_self _ _ _,state,session,identity⟩
    · exact ⟨x,(get_set_ne _ _ here).trans found,rfl,rfl,rfl⟩
  | retire session workDir identity fresh =>
    have ne : r ≠ p.nextRetirementGeneration := by
      rintro rfl
      rw [fresh] at found
      cases found
    exact ⟨x,(get_set_ne _ _ ne).trans found,rfl,rfl,rfl⟩
  | _ => exact ⟨x,found,rfl,rfl,rfl⟩

theorem Changes.state (changes : p.Changes q) (found : p.disposals.get r = some x) :
    ∃ y, q.disposals.get r = some y ∧ y.state = x.state ∧ y.session = x.session ∧
      y.managedIdentity = x.managedIdentity := by
  induction changes with
  | refl => exact ⟨x,found,rfl,rfl,rfl⟩
  | tail _ change ih =>
    obtain ⟨y,there,state,session,identity⟩ := ih
    obtain ⟨z,found',state',session',identity'⟩ := change.state there
    exact ⟨z,found',state'.trans state,session'.trans session,identity'.trans identity⟩

theorem Changes.receipts (changes : p.Changes q) :
    q.receiptRetirements = p.receiptRetirements := by
  induction changes with
  | refl => rfl
  | tail _ change ih =>
    rw [← ih]
    cases change <;> rfl

theorem Change.refused {p q : Pool W I} (change : p.Change q) {workDir : W}
    (refused : Refused p workDir) : Refused q workDir := by
  rcases refused with disposed | ⟨session,rejected⟩
  · exact .inl (change.keeps.rejected disposed)
  · refine .inr ⟨session,?_⟩
    cases change with
    | creations _ _ kept => exact kept session workDir rejected
    | _ => exact rejected

/-- What the records of the pool tell of identities and of refusals. -/
structure Attributed (p : Pool W I) : Prop where
  entries : ∀ w e t, p.sessions.get w = some e → p.sessionTransitions.get w = some t →
    e.managedIdentity = t.managedIdentity
  settled : ∀ w t s r x, p.sessionTransitions.get w = some t → t.phase = .settled s →
    p.retirements.get w = some r → p.disposals.get r = some x →
    x.managedIdentity = t.managedIdentity ∧ x.session = s
  bounded : ∀ r x, p.disposals.get r = some x → x.bounded = some .rejected →
    x.settled = some false
  disposing : ∀ w t r, p.sessionTransitions.get w = some t → t.phase.disposing = some r →
    ∃ x, p.disposals.get r = some x ∧ x.workDir = w
  failing : ∀ w t, p.sessionTransitions.get w = some t → t.phase = .failing → Refused p w
  cleaned : ∀ w t, p.sessionTransitions.get w = some t → t.phase = .cleaned true →
    DisposeRejected p w
  tokens : ∀ w t, p.sessionTransitions.get w = some t → t.token < p.nextToken
  distinct : ∀ w t w' t', p.sessionTransitions.get w = some t →
    p.sessionTransitions.get w' = some t' → t.token = t'.token → w = w'
  ended : ∀ token ∈ p.rejectedCleanups, token < p.nextToken ∧
    ∀ w t, p.sessionTransitions.get w = some t → t.token ≠ token
  merged : ∀ i phase r, p.receiptRetirements.get i = some phase → phase.merged = some r →
    ∃ x, p.disposals.get r = some x ∧ x.managedIdentity = some i
  awaiting : ∀ i phase w token, p.receiptRetirements.get i = some phase →
    phase.awaits = some (w,token) → token < p.nextToken ∧
      (∀ w' t, p.sessionTransitions.get w' = some t → t.token = token → w' = w ∧ t.managedIdentity = some i) ∧
      (token ∈ p.rejectedCleanups → DisposeRejected p w)
  creating : ∀ i w token, p.receiptRetirements.get i = some (.awaitingCreation w token) →
    ∃ t, p.sessionTransitions.get w = some t ∧ t.token = token ∧ t.phase ≠ .denied
  stored : ∀ w e s, p.sessions.get w = some e → e.session = some s → Resolved p s
  received : ∀ w t s, p.sessionTransitions.get w = some t → t.phase.received = some s →
    Resolved p s
  owned : ∀ r x, p.disposals.get r = some x → Resolved p x.session
  unclosed : ∀ w t r, p.sessionTransitions.get w = some t → t.phase ≠ .closing r

theorem attributed_new (maxSessions : Nat) : (new maxSessions : Pool W I).Attributed := by
  constructor <;> simp [new]

/-- The operation of a directory starts or moves on. -/
theorem Attributed.operate (told : p.Attributed) (later : p.nextToken ≤ next)
    (named : ∀ e, p.sessions.get w = some e → e.managedIdentity = t.managedIdentity)
    (settled : ∀ s r x, t.phase = .settled s → p.retirements.get w = some r →
      p.disposals.get r = some x → x.managedIdentity = t.managedIdentity ∧ x.session = s)
    (disposing : ∀ r, t.phase.disposing = some r →
      ∃ x, p.disposals.get r = some x ∧ x.workDir = w) (failing : t.phase = .failing → Refused p w)
    (cleaned : t.phase = .cleaned true → DisposeRejected p w)
    (received : ∀ s, t.phase.received = some s → Resolved p s) (unclosed : ∀ r, t.phase ≠ .closing r)
    (token : p.sessionTransitions.get w = none ∧ t.token = p.nextToken ∧ p.nextToken < next ∨
      ∃ old, p.sessionTransitions.get w = some old ∧ t.token = old.token ∧
        t.managedIdentity = old.managedIdentity ∧ (t.phase = .denied → old.phase = .denied)) :
    Attributed {p with
      sessionTransitions := p.sessionTransitions.set w t
      nextToken := next} := by
  have operations : ∀ w' t', (p.sessionTransitions.set w t).get w' = some t' →
      w' = w ∧ t' = t ∨ w' ≠ w ∧ p.sessionTransitions.get w' = some t' := by
    intro w' t' found
    rw [get_set] at found
    split at found
    · rename_i here
      exact .inl ⟨here,(Option.some.inj found).symm⟩
    · rename_i elsewhere
      exact .inr ⟨elsewhere,found⟩
  -- a token that an old operation carries elsewhere is not this one's
  have apart : ∀ w' t', w' ≠ w → p.sessionTransitions.get w' = some t' → t'.token ≠ t.token := by
    intro w' t' ne found same
    rcases token with ⟨_,fresh,_⟩ | ⟨old,here,kept,_⟩
    · exact absurd (told.tokens w' t' found) (by omega)
    · exact ne (told.distinct w' t' w old found here (same.trans kept))
  have below : t.token < next := by
    rcases token with ⟨_,fresh,_⟩ | ⟨old,here,kept,_⟩
    · omega
    · have := told.tokens w old here
      omega
  constructor
  · intro w' e t' listed found
    rcases operations w' t' found with ⟨rfl,rfl⟩ | ⟨_,old⟩
    · exact named e listed
    · exact told.entries w' e t' listed old
  · intro w' t' s r x found phase retiring disposal
    rcases operations w' t' found with ⟨rfl,rfl⟩ | ⟨_,old⟩
    · exact settled s r x phase retiring disposal
    · exact told.settled w' t' s r x old phase retiring disposal
  · exact told.bounded
  · intro w' t' r found phase
    rcases operations w' t' found with ⟨rfl,rfl⟩ | ⟨_,old⟩
    · exact disposing r phase
    · exact told.disposing w' t' r old phase
  · intro w' t' found phase
    rcases operations w' t' found with ⟨rfl,rfl⟩ | ⟨_,old⟩
    · exact failing phase
    · exact told.failing w' t' old phase
  · intro w' t' found phase
    rcases operations w' t' found with ⟨rfl,rfl⟩ | ⟨_,old⟩
    · exact cleaned phase
    · exact told.cleaned w' t' old phase
  · intro w' t' found
    rcases operations w' t' found with ⟨rfl,rfl⟩ | ⟨_,old⟩
    · exact below
    · exact Nat.lt_of_lt_of_le (told.tokens w' t' old) later
  · intro w₁ t₁ w₂ t₂ first second same
    rcases operations w₁ t₁ first with ⟨rfl,rfl⟩ | ⟨ne,old⟩ <;>
      rcases operations w₂ t₂ second with ⟨rfl,rfl⟩ | ⟨ne',old'⟩
    · rfl
    · exact absurd same.symm (apart w₂ t₂ ne' old')
    · exact absurd same (apart w₁ t₁ ne old)
    · exact told.distinct w₁ t₁ w₂ t₂ old old' same
  · intro tok member
    obtain ⟨small,absent⟩ := told.ended tok member
    refine ⟨Nat.lt_of_lt_of_le small later,fun w' t' found => ?_⟩
    rcases operations w' t' found with ⟨rfl,rfl⟩ | ⟨_,old⟩
    · rcases token with ⟨_,fresh,_⟩ | ⟨old,here,kept,_⟩
      · omega
      · rw [kept]
        exact absent w' old here
    · exact absent w' t' old
  · exact told.merged
  · intro i phase w' tok found waits
    obtain ⟨small,here,rejected⟩ := told.awaiting i phase w' tok found waits
    refine ⟨Nat.lt_of_lt_of_le small later,fun w₁ t₁ found₁ same => ?_,rejected⟩
    rcases operations w₁ t₁ found₁ with ⟨rfl,rfl⟩ | ⟨_,old⟩
    · rcases token with ⟨_,fresh,_⟩ | ⟨old,present,kept,identity,_⟩
      · omega
      · rw [identity]
        exact here w₁ old present (kept.symm.trans same)
    · exact here w₁ t₁ old same
  · intro i w' tok found
    obtain ⟨t',present,same,undenied⟩ := told.creating i w' tok found
    by_cases here : w' = w
    · rw [here] at present ⊢
      rcases token with ⟨idle,_⟩ | ⟨old,present',kept,_,denied⟩
      · rw [idle] at present
        cases present
      · rw [present] at present'
        cases present'
        exact ⟨t,get_set_self _ _ _,kept.trans same,fun again => undenied (denied again)⟩
    · exact ⟨t',(get_set_ne _ _ here).trans present,same,undenied⟩
  · exact told.stored
  · intro w' t' s found phase
    rcases operations w' t' found with ⟨rfl,rfl⟩ | ⟨_,old⟩
    · exact received s phase
    · exact told.received w' t' s old phase
  · exact told.owned
  · intro w' t' r found
    rcases operations w' t' found with ⟨rfl,rfl⟩ | ⟨_,old⟩
    · exact unclosed r
    · exact told.unclosed w' t' r old

/-- An operation ends. -/
theorem Attributed.clear (told : p.Attributed) (operation : p.sessionTransitions.get w = some t)
    (cleaned : rejected = true → t.phase = .cleaned true) (unawaited : ∀ identity,
      p.receiptRetirements.get identity ≠ some (.awaitingCreation w t.token)) :
    Attributed {p.clearTransition w with
      rejectedCleanups :=
        if rejected then t.token :: p.rejectedCleanups else p.rejectedCleanups} := by
  have operations : ∀ w' t', (p.sessionTransitions.delete w).get w' = some t' →
      w' ≠ w ∧ p.sessionTransitions.get w' = some t' := by
    intro w' t' found
    rw [get_delete] at found
    split at found
    · cases found
    · rename_i elsewhere
      exact ⟨elsewhere,found⟩
  refine ⟨fun w' e t' listed found => told.entries w' e t' listed (operations w' t' found).2,
    fun w' t' s r x found => told.settled w' t' s r x (operations w' t' found).2,told.bounded,
    fun w' t' r found => told.disposing w' t' r (operations w' t' found).2,
    fun w' t' found => told.failing w' t' (operations w' t' found).2,
    fun w' t' found => told.cleaned w' t' (operations w' t' found).2,
    fun w' t' found => told.tokens w' t' (operations w' t' found).2,
    fun w₁ t₁ w₂ t₂ first second =>
      told.distinct w₁ t₁ w₂ t₂ (operations w₁ t₁ first).2 (operations w₂ t₂ second).2,
    ?_,told.merged,?_,?_,told.stored,
    fun w' t' s found => told.received w' t' s (operations w' t' found).2,told.owned,
    fun w' t' r found => told.unclosed w' t' r (operations w' t' found).2⟩
  · intro tok member
    have known : tok = t.token ∨ tok ∈ p.rejectedCleanups := by
      cases rejected with
      | true => exact List.mem_cons.mp member
      | false => exact .inr member
    rcases known with rfl | old
    · refine ⟨told.tokens w t operation,fun w' t' found same => ?_⟩
      obtain ⟨ne,old⟩ := operations w' t' found
      exact ne (told.distinct w' t' w t old operation same)
    · obtain ⟨small,absent⟩ := told.ended tok old
      exact ⟨small,fun w' t' found => absent w' t' (operations w' t' found).2⟩
  · intro i phase w' tok found waits
    obtain ⟨small,here,blamed⟩ := told.awaiting i phase w' tok found waits
    refine ⟨small,fun w₁ t₁ found₁ => here w₁ t₁ (operations w₁ t₁ found₁).2,fun member => ?_⟩
    cases rejected with
    | true =>
      rcases List.mem_cons.mp member with rfl | old
      · obtain ⟨rfl,_⟩ := here w t operation rfl
        exact told.cleaned w t operation (cleaned rfl)
      · exact blamed old
    | false => exact blamed member
  · intro i w' tok found
    obtain ⟨t',present,same,undenied⟩ := told.creating i w' tok found
    have elsewhere : w' ≠ w := by
      rintro rfl
      rw [operation] at present
      cases present
      exact unawaited i (by rw [same]; exact found)
    exact ⟨t',(get_delete_ne _ elsewhere).trans present,same,undenied⟩

/-- A retirement starts. -/
theorem Attributed.retire (told : p.Attributed) (fresh : p.disposals.get p.nextRetirementGeneration = none)
    (unused : ∀ w, p.retirements.get w ≠ some p.nextRetirementGeneration)
    (named : ∀ t c, p.sessionTransitions.get w = some t → t.phase = .settled c →
      identity = t.managedIdentity ∧ session = c) (resolved : Resolved p session) :
    Attributed {p with
      disposals := p.disposals.set p.nextRetirementGeneration ⟨session,w,identity,.pending,none,none⟩
      retirements := p.retirements.set w p.nextRetirementGeneration
      nextRetirementGeneration := p.nextRetirementGeneration + 1} := by
  have change : p.Change _ := .retire session w identity fresh unused named resolved
  have keeps := change.keeps
  refine ⟨told.entries,?_,?_,fun w' t r found phase => keeps.located (told.disposing w' t r found phase),
    fun w' t found phase => change.refused (told.failing w' t found phase),
    fun w' t found phase => keeps.rejected (told.cleaned w' t found phase),told.tokens,
    told.distinct,told.ended,
    fun i phase r found merged => keeps.named (told.merged i phase r found merged),
    fun i phase w' tok found waits => ?_,told.creating,told.stored,told.received,?_,
    told.unclosed⟩
  · intro w' t s r x found phase retiring disposal
    rw [get_set] at retiring disposal
    split at retiring
    · rename_i here
      cases retiring
      rw [if_pos rfl] at disposal
      cases disposal
      rw [here] at found
      exact named t s found phase
    · split at disposal
      · rename_i same
        rw [same] at retiring
        exact absurd retiring (unused w')
      · exact told.settled w' t s r x found phase retiring disposal
  · intro r x disposal rejected
    rw [get_set] at disposal
    split at disposal
    · cases disposal
      cases rejected
    · exact told.bounded r x disposal rejected
  · obtain ⟨small,here,blamed⟩ := told.awaiting i phase w' tok found waits
    exact ⟨small,here,fun member => keeps.rejected (blamed member)⟩
  · intro r x disposal
    rw [get_set] at disposal
    split at disposal
    · cases disposal
      exact resolved
    · exact told.owned r x disposal

/-- A retirement moves on. -/
theorem Attributed.setDisposal {p : Pool W I} (told : p.Attributed) {retirement : Nat}
    {old new : Retirement W I} (found : p.disposals.get retirement = some old)
    (session : new.session = old.session) (workDir : new.workDir = old.workDir)
    (identity : new.managedIdentity = old.managedIdentity)
    (settled : ∀ b, old.settled = some b → new.settled = some b)
    (rejected : new.bounded = some .rejected → new.settled = some false) :
    (p.setDisposal retirement new).Attributed := by
  have keeps := Keeps.setDisposal found session workDir identity settled
  have refused : ∀ {w}, Refused p w → Refused (p.setDisposal retirement new) w := by
    rintro w (disposed | failed)
    · exact .inl (keeps.rejected disposed)
    · exact .inr failed
  have back : ∀ r x, (p.disposals.set retirement new).get r = some x →
      r = retirement ∧ x = new ∨ p.disposals.get r = some x := by
    intro r x disposal
    rw [get_set] at disposal
    split at disposal
    · rename_i here
      exact .inl ⟨here,(Option.some.inj disposal).symm⟩
    · exact .inr disposal
  refine ⟨told.entries,?_,?_,fun w t r found phase => keeps.located (told.disposing w t r found phase),
    fun w t found phase => refused (told.failing w t found phase),
    fun w t found phase => keeps.rejected (told.cleaned w t found phase),told.tokens,
    told.distinct,told.ended,
    fun i phase r found merged => keeps.named (told.merged i phase r found merged),
    fun i phase w tok found waits => ?_,told.creating,told.stored,told.received,?_,
    told.unclosed⟩
  · intro w t s r x found' phase retiring disposal
    rcases back r x disposal with ⟨rfl,rfl⟩ | before
    · rw [identity,session]
      exact told.settled w t s r old found' phase retiring found
    · exact told.settled w t s r x found' phase retiring before
  · intro r x disposal bounded
    rcases back r x disposal with ⟨rfl,rfl⟩ | before
    · exact rejected bounded
    · exact told.bounded r x before bounded
  · obtain ⟨small,here,blamed⟩ := told.awaiting i phase w tok found waits
    exact ⟨small,here,fun member => keeps.rejected (blamed member)⟩
  · intro r x disposal
    rcases back r x disposal with ⟨rfl,rfl⟩ | before
    · rw [session]
      exact told.owned r old found
    · exact told.owned r x before

theorem Attributed.change (told : p.Attributed) (change : p.Change q) :
    q.Attributed := by
  have refused := @Change.refused _ _ _ _ p q change
  cases change with
  | holds _ =>
    exact ⟨told.entries,told.settled,told.bounded,told.disposing,told.failing,told.cleaned,
      told.tokens,told.distinct,told.ended,told.merged,told.awaiting,told.creating,told.stored,
      told.received,told.owned,told.unclosed⟩
  | creations creations nextCreation _ resolved =>
    exact ⟨told.entries,told.settled,told.bounded,told.disposing,
      fun w t found phase => refused (told.failing w t found phase),told.cleaned,
      told.tokens,told.distinct,told.ended,told.merged,told.awaiting,told.creating,
      fun w e s listed live => resolved s (told.stored w e s listed live),
      fun w t s found phase => resolved s (told.received w t s found phase),
      fun r x found => resolved _ (told.owned r x found),told.unclosed⟩
  | enter w t idle fresh named admissible =>
    apply told.operate (Nat.le_succ _) named
    · intro s r x phase retiring
      rw [admissible.settled s phase] at retiring
      cases retiring
    · exact admissible.disposing
    · exact admissible.failing
    · exact admissible.cleaned
    · exact admissible.received
    · exact admissible.unclosed
    · exact .inl ⟨idle,fresh,Nat.lt_succ_self _⟩
  | move w t phase operation admissible undenied =>
    apply told.operate (t := {t with phase := phase}) (Nat.le_refl _)
      fun e listed => told.entries w e t listed operation
    · intro s r x phase retiring
      rw [admissible.settled s phase] at retiring
      cases retiring
    · exact admissible.disposing
    · exact admissible.failing
    · exact admissible.cleaned
    · exact admissible.received
    · exact admissible.unclosed
    · exact .inr ⟨t,operation,rfl,rfl,fun denied => absurd denied undenied⟩
  | pend w t operation =>
    apply told.operate (t := {t with cleanupPending := true}) (Nat.le_refl _)
      fun e listed => told.entries w e t listed operation
    · exact fun s r x => told.settled w t s r x operation
    · exact fun r => told.disposing w t r operation
    · exact told.failing w t operation
    · exact told.cleaned w t operation
    · exact fun s => told.received w t s operation
    · exact fun r => told.unclosed w t r operation
    · exact .inr ⟨t,operation,rfl,rfl,id⟩
  | clear w t rejected operation cleaned unawaited => exact told.clear operation cleaned unawaited
  | enlist w e named resolved =>
    have listing : ∀ w' e', (p.sessions.set w e).get w' = some e' →
        w' = w ∧ e' = e ∨ p.sessions.get w' = some e' := by
      intro w' e' listed
      rw [get_set] at listed
      split at listed
      · rename_i here
        exact .inl ⟨here,(Option.some.inj listed).symm⟩
      · exact .inr listed
    refine ⟨fun w' e' t listed found => ?_,told.settled,told.bounded,told.disposing,told.failing,
      told.cleaned,told.tokens,told.distinct,told.ended,told.merged,told.awaiting,told.creating,
      fun w' e' s listed live => ?_,told.received,told.owned,told.unclosed⟩
    · rcases listing w' e' listed with ⟨rfl,rfl⟩ | before
      · exact named t found
      · exact told.entries w' e' t before found
    · rcases listing w' e' listed with ⟨rfl,rfl⟩ | before
      · exact resolved s live
      · exact told.stored w' e' s before live
  | unlist w =>
    have listing : ∀ w' e', (p.sessions.delete w).get w' = some e' →
        p.sessions.get w' = some e' := by
      intro w' e' listed
      rw [get_delete] at listed
      split at listed
      · cases listed
      · exact listed
    exact ⟨fun w' e' t listed => told.entries w' e' t (listing w' e' listed),told.settled,
      told.bounded,told.disposing,told.failing,told.cleaned,told.tokens,told.distinct,told.ended,
      told.merged,told.awaiting,told.creating,
      fun w' e' s listed => told.stored w' e' s (listing w' e' listed),told.received,told.owned,
      told.unclosed⟩
  | retire session w identity fresh unused named resolved =>
    exact told.retire fresh unused named resolved
  | disposal retirement old new found session workDir identity _ settled rejected =>
    exact told.setDisposal found session workDir identity settled rejected

theorem Attributed.changes (told : p.Attributed) (changes : p.Changes q) :
    q.Attributed := by
  induction changes with
  | refl => exact told
  | tail _ change ih => exact ih.change change

end Pool

end GjcRemote.SessionPool
