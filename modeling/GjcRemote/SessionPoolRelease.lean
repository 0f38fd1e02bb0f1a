import GjcRemote.SessionPoolHolds
import GjcRemote.SessionPoolReceipts

/-! Where each hold waits, why it is called when it is, and that it is not lost. -/
namespace GjcRemote.SessionPool

open Callbacks List OrderedMap Pool

variable {W I H : Type}

/-- The retirement disposes of the session that the hold was passed along with. -/
def Owns (x : Retirement W I) : Owner I → Prop
  | .session session => x.session = session
  | .receipt identity => x.managedIdentity = some identity

theorem Owns.same {x y : Retirement W I} (owns : Owns x owner)
    (session : y.session = x.session) (identity : y.managedIdentity = x.managedIdentity) :
    Owns y owner := by
  cases owner with
  | session s => exact session.trans owns
  | receipt i => exact identity.trans owns

structure Absent (p : Pool W I) (identity : I) [DecidableEq W] : Prop where
  entries : ∀ w e, p.sessions.get w = some e → e.managedIdentity ≠ some identity
  retirements : ∀ r x, p.disposals.get r = some x → x.managedIdentity = some identity →
    x.settled = some true
  operations : ∀ w t session state, p.sessionTransitions.get w = some t →
    t.managedIdentity = some identity → t.phase.session = some session →
    p.existence session = some state → state.remains = false

namespace HeldPool

variable [DecidableEq I]

/-- Where the holds are. A receipt whose retirement is just being made may be exempt from
being recorded. -/
structure Kept (s : HeldPool W I H) (exempt : Option I) : Prop where
  retirements : ∀ r hold, s.ledger.Waits (.retirement r) hold →
    ∃ x owner, s.pool.disposals.get r = some x ∧ x.state ≠ .retired ∧
      (hold,owner) ∈ s.passed ∧ Owns x owner
  receipts : ∀ i hold, s.ledger.Waits (.receipt i) hold →
    (hold,.receipt i) ∈ s.passed ∧ s.merged i = none ∧
      (some i ≠ exempt → (s.pool.receiptRetirements.get i).isSome)
  literal : ∀ hold, ¬s.ledger.Waits .literal hold
  merged : ∀ i r, s.merged i = some r →
    ∃ x, s.pool.disposals.get r = some x ∧ x.managedIdentity = some i
  waiting : ∀ i phase r, s.pool.receiptRetirements.get i = some phase → phase.merged = some r →
    s.merged i = some r
  seeking : ∀ i phase w token, s.pool.receiptRetirements.get i = some phase →
    phase.awaits = some (w,token) → s.merged i = none
  called : ∀ hold ∈ s.ledger.calls, ∃ owner, (hold,owner) ∈ s.passed

theorem kept_new (maxSessions : Nat) : (new maxSessions : HeldPool W I H).Kept none := by
  constructor <;> simp [new,Ledger.new,Ledger.Waits,Pool.new]

variable [DecidableEq H]

theorem pool_follow (s : HeldPool W I H) (identity : I) : (s.follow identity).pool = s.pool := by
  unfold follow
  split <;> rfl

variable [DecidableEq W]

/-- Why a hold may be called: the session it was passed along with has been disposed of, or
its receipt has none. -/
def Released (s : HeldPool W I H) (hold : H) : Prop :=
  ∃ owner, (hold,owner) ∈ s.passed ∧
    ((∃ r x, s.pool.disposals.get r = some x ∧ Owns x owner ∧ x.settled = some true) ∨
      ∃ identity, owner = .receipt identity ∧ Absent s.pool identity)

/-- A receipt retirement ends after the cleanup of a creation it awaited, holds and all. -/
def Drops (s : HeldPool W I H) (c : Call W I H) : Prop :=
  ∃ identity workDir token hold, c.event = .resumeReceipt identity ∧
    s.pool.receiptRetirements.get identity = some (.awaitingCleanup workDir token) ∧
    s.pool.transitionOver workDir token = true ∧ token ∉ s.pool.rejectedCleanups ∧
    s.ledger.Waits (.receipt identity) hold

/-- A receipt retirement finds neither an entry nor a retirement of its identity, while a
creation for it that has timed out is still under way in another directory. -/
def Overlooks (s : HeldPool W I H) (c : Call W I H) : Prop :=
  ∃ identity workDir token w t session state, c.event = .resumeReceipt identity ∧
    s.pool.receiptRetirements.get identity = some (.awaitingTransition workDir token) ∧
    (∀ w e, s.pool.sessions.get w = some e → e.managedIdentity ≠ some identity) ∧
    (∀ w r x, s.pool.retirements.get w = some r → s.pool.disposals.get r = some x →
      x.managedIdentity ≠ some identity) ∧
    s.pool.sessionTransitions.get w = some t ∧ t.managedIdentity = some identity ∧
    t.phase = .late session ∧ s.pool.existence session = some state ∧ state.remains = true ∧
    ∃ hold, s.ledger.Waits (.receipt identity) hold

/-- A receipt retirement that fails, or has failed, has holds, and a session of the receipt
is disposed of, or has been since that retirement began. -/
def Strands (s : HeldPool W I H) (c : Call W I H) : Prop :=
  ∃ identity,
    (∃ r hold, c.event = .disposeFulfils r ∧ disposing s.pool r = some identity ∧
      s.pool.receiptRetirements.get identity = some .failed ∧ s.ledger.Waits (.receipt identity) hold) ∨
    (∃ hold, c.event = .resumeReceipt identity ∧ s.pool.Refuses identity ∧
      s.missed identity = true ∧ s.ledger.Waits (.receipt identity) hold) ∨
    c.event = .retireManagedReceipt identity ∧ s.missed identity = true ∧
      s.pool.receiptRetirements.get identity = some .failed ∧ c.holds ≠ []

omit [DecidableEq H] [DecidableEq W] in
theorem disposeFulfils_cases (s : HeldPool W I H) (r : Nat) :
    ∃ missed, s.disposeFulfils r = {s with
      pool := (s.pool.disposeSettles r true).1
      missed := missed} ∧
      ∀ i, missed i = true → s.missed i = true ∨ disposing s.pool r = some i := by
  unfold disposeFulfils
  dsimp only
  split
  · rename_i identity found
    refine ⟨_,rfl,fun i missed => ?_⟩
    split at missed
    · rename_i here
      exact .inr (here ▸ found)
    · exact .inl missed
  · exact ⟨_,rfl,fun _ => .inl⟩

/-- The pool goes its way as if there were no holds. -/
theorem pool_call (s : HeldPool W I H) (c : Call W I H) :
    (s.call c).pool = (step s.pool c.event).1 := by
  obtain ⟨event,holds⟩ := c
  cases event with
  | retireSession session =>
    change (s.retireSession session holds).pool = (s.pool.retireSession session).1
    unfold retireSession
    dsimp only
    split
    · rfl
    · split
      · split <;> rfl
      · split <;> rfl
  | retireManagedReceipt identity =>
    change (s.retireManagedReceipt identity holds).pool = (s.pool.retireManagedReceipt identity).1
    unfold retireManagedReceipt
    dsimp only
    split
    · rename_i closed
      exact (receipts_retireManagedReceipt (.inl closed)).symm
    · split
      · split <;> rfl
      · exact pool_follow _ _
  | resumeReceipt identity =>
    change (s.resumeReceipt identity).pool = (s.pool.resumeReceipt identity).1
    unfold resumeReceipt
    dsimp only
    split
    · exact pool_follow _ _
    · exact pool_follow _ _
    · rfl
  | disposeFulfils r =>
    obtain ⟨_,result,_⟩ := s.disposeFulfils_cases r
    change (s.disposeFulfils r).pool = _
    rw [result]
    rfl
  | settlementRuns r =>
    change (s.settlementRuns r).pool = (s.pool.settlementRuns r).1
    unfold settlementRuns
    dsimp only
    split <;> rfl
  | _ => rfl

variable {s : HeldPool W I H} {exempt : Option I}

omit [DecidableEq H] in
theorem Kept.changes (kept : s.Kept exempt)
    (changes : s.pool.Changes q) : ({s with pool := q} : HeldPool W I H).Kept exempt where
  retirements r hold waits := by
    obtain ⟨x,owner,found,state,passed,owns⟩ := kept.retirements r hold waits
    obtain ⟨y,found',same,session,identity⟩ := changes.state found
    exact ⟨y,owner,found',by rw [same]; exact state,passed,owns.same session identity⟩
  receipts i hold waits := by
    obtain ⟨passed,unmerged,present⟩ := kept.receipts i hold waits
    refine ⟨passed,unmerged,fun other => ?_⟩
    rw [changes.receipts]
    exact present other
  literal := kept.literal
  merged i r merged := by
    obtain ⟨x,found,named⟩ := kept.merged i r merged
    obtain ⟨y,found',_,_,identity⟩ := changes.state found
    exact ⟨y,found',identity.trans named⟩
  waiting i phase r found := by
    rw [changes.receipts] at found
    exact kept.waiting i phase r found
  seeking i phase w token found := by
    rw [changes.receipts] at found
    exact kept.seeking i phase w token found
  called := kept.called

variable {identity : I}

omit [DecidableEq W] in
/-- A receipt is given its retirement, and the holds with it. -/
theorem Kept.merge (kept : s.Kept (some identity))
    (named : ∃ x, s.pool.disposals.get r = some x ∧ x.managedIdentity = some identity) :
    (({s with pool := s.pool.setReceipt identity (.waiting r)} : HeldPool W I H).merge
      identity r).Kept none := by
  obtain ⟨x,found,same⟩ := named
  have left : ∀ k hold, ((s.ledger.depositAll (.retirement r) (due s.pool r)
      (s.ledger.places (.receipt identity)).waiting).clear (.receipt identity)).Waits k hold →
      k ≠ .receipt identity ∧ (s.ledger.Waits k hold ∨ k = .retirement r ∧ due s.pool r = false ∧
        s.ledger.Waits (.receipt identity) hold) := by
    intro k hold waits
    obtain ⟨ne,before⟩ := Ledger.waits_clear.mp waits
    exact ⟨ne,Ledger.waits_depositAll before⟩
  have receipts : ∀ i, i ≠ identity →
      (s.pool.receiptRetirements.set identity (.waiting r)).get i = s.pool.receiptRetirements.get i :=
    fun i ne => get_set_ne _ _ ne
  constructor
  · intro r' hold waits
    rcases (left _ hold waits).2 with before | ⟨here,early,before⟩
    · exact kept.retirements r' hold before
    · cases here
      refine ⟨x,.receipt identity,found,?_,(kept.receipts identity hold before).1,same⟩
      simpa [due,stateOf,found] using early
  · intro i hold waits
    obtain ⟨apart,before | ⟨⟨⟩,_⟩⟩ := left _ hold waits
    have ne : i ≠ identity := by
      rintro rfl
      exact apart rfl
    obtain ⟨passed,unmerged,present⟩ := kept.receipts i hold before
    refine ⟨passed,(if_neg ne).trans unmerged,fun _ => ?_⟩
    change ((s.pool.receiptRetirements.set identity (.waiting r)).get i).isSome
    rw [receipts i ne]
    exact present (fun same => ne (Option.some.inj same))
  · intro hold waits
    rcases (left _ hold waits).2 with before | ⟨⟨⟩,_⟩
    exact kept.literal hold before
  · intro i r' merged
    change (if i = identity then some r else s.merged i) = some r' at merged
    split at merged
    · rename_i here
      cases merged
      exact ⟨x,found,by rw [here]; exact same⟩
    · exact kept.merged i r' merged
  · intro i phase r' present merged
    change (s.pool.receiptRetirements.set identity (.waiting r)).get i = some phase at present
    change (if i = identity then some r else s.merged i) = some r'
    rw [get_set] at present
    split at present
    · rename_i here
      cases present
      rw [if_pos here]
      exact merged
    · rename_i ne
      rw [if_neg ne]
      exact kept.waiting i phase r' present merged
  · intro i phase w token present waits
    change (s.pool.receiptRetirements.set identity (.waiting r)).get i = some phase at present
    change (if i = identity then some r else s.merged i) = none
    rw [get_set] at present
    split at present
    · cases present
      cases waits
    · rename_i ne
      rw [if_neg ne]
      exact kept.seeking i phase w token present waits
  · intro hold called
    obtain ⟨fresh,calls,made⟩ := s.ledger.calls_depositAll (.retirement r) (due s.pool r)
      (s.ledger.places (.receipt identity)).waiting
    have called : hold ∈ (s.ledger.depositAll (.retirement r) (due s.pool r)
      (s.ledger.places (.receipt identity)).waiting).calls := called
    rw [calls] at called
    rcases mem_append.mp called with old | new
    · exact kept.called hold old
    · exact ⟨_,(kept.receipts identity hold (made hold new).2).1⟩

/-- The calls that a step adds are all justified where it ends. -/
def Justified (s t : HeldPool W I H) : Prop :=
  ∃ fresh, t.ledger.calls = s.ledger.calls ++ fresh ∧ ∀ hold ∈ fresh, t.Released hold

omit [DecidableEq I] [DecidableEq H] in
theorem Justified.of_eq (same : t.ledger.calls = s.ledger.calls) :
    s.Justified t :=
  ⟨[],by rw [same,append_nil],by simp⟩

omit [DecidableEq I] in
/-- A retirement that is due has disposed of its session. -/
theorem settled_of_due {p : Pool W I} (guarded : p.Guarded) {r : Nat} {x : Retirement W I}
    (found : p.disposals.get r = some x) (due' : due p r = true) : x.settled = some true := by
  have ok := (guarded.directories x.workDir).disposals r x (disposal_eq_some.mpr ⟨found,rfl⟩)
  apply ok.retired
  simpa [due,stateOf,found] using due'

theorem Kept.merge_justified (kept : s.Kept (some identity)) (guarded : s.pool.Guarded)
    (named : ∃ x, s.pool.disposals.get r = some x ∧ x.managedIdentity = some identity) :
    s.Justified (({s with pool := s.pool.setReceipt identity (.waiting r)} :
      HeldPool W I H).merge identity r) := by
  obtain ⟨x,found,same⟩ := named
  obtain ⟨fresh,calls,made⟩ := s.ledger.calls_depositAll (.retirement r) (due s.pool r)
    (s.ledger.places (.receipt identity)).waiting
  refine ⟨fresh,calls,fun hold new => ?_⟩
  obtain ⟨due',waits⟩ := made hold new
  exact ⟨_,(kept.receipts identity hold waits).1,.inl ⟨r,x,found,same,settled_of_due guarded found due'⟩⟩

omit [DecidableEq H] [DecidableEq W] in
theorem Kept.exempted (kept : s.Kept exempt) (exempted : exempt = none ∨ exempt = some identity) :
    s.Kept (some identity) := by
  refine ⟨kept.retirements,fun i hold waits => ?_,kept.literal,kept.merged,kept.waiting,kept.seeking,kept.called⟩
  obtain ⟨passed,free,present⟩ := kept.receipts i hold waits
  refine ⟨passed,free,fun other => present ?_⟩
  rcases exempted with rfl | rfl
  · rintro ⟨⟩
  · exact other

omit [DecidableEq H] [DecidableEq W] in
/-- A receipt is recorded as still looking for its session, or as having failed. -/
theorem Kept.record (kept : s.Kept exempt)
    (exempted : exempt = none ∨ exempt = some identity)
    (unmerged : receipt.awaits ≠ none → s.merged identity = none)
    (known : ∀ r, receipt.merged = some r → s.merged identity = some r) :
    ({s with pool := s.pool.setReceipt identity receipt} : HeldPool W I H).Kept none := by
  have receipts : ∀ i phase, (s.pool.receiptRetirements.set identity receipt).get i = some phase →
      i = identity ∧ phase = receipt ∨ s.pool.receiptRetirements.get i = some phase := by
    intro i phase found
    rw [get_set] at found
    split at found
    · rename_i here
      exact .inl ⟨here,(Option.some.inj found).symm⟩
    · exact .inr found
  refine ⟨kept.retirements,fun i hold waits => ?_,kept.literal,kept.merged,
    fun i phase r found merged => ?_,fun i phase w token found waits => ?_,kept.called⟩
  · obtain ⟨passed,free,present⟩ := (kept.exempted exempted).receipts i hold waits
    refine ⟨passed,free,fun _ => ?_⟩
    change ((s.pool.receiptRetirements.set identity receipt).get i).isSome
    rw [get_set]
    split
    · rfl
    · next ne => exact present fun same => ne (Option.some.inj same)
  · rcases receipts i phase found with ⟨rfl,rfl⟩ | old
    · exact known r merged
    · exact kept.waiting i phase r old merged
  · rcases receipts i phase found with ⟨rfl,rfl⟩ | old
    · exact unmerged (by rw [waits]; rintro ⟨⟩)
    · exact kept.seeking i phase w token old waits

omit [DecidableEq H] [DecidableEq W] in
/-- A receipt that no longer holds anything is forgotten. -/
theorem Kept.forget (kept : s.Kept exempt)
    (exempted : exempt = none ∨ exempt = some identity)
    (empty : ∀ hold, ¬s.ledger.Waits (.receipt identity) hold) :
    ({s with pool := s.pool.endReceipt identity} : HeldPool W I H).Kept none := by
  have receipts : ∀ i phase, (s.pool.receiptRetirements.delete identity).get i = some phase →
      s.pool.receiptRetirements.get i = some phase := by
    intro i phase found
    rw [get_delete] at found
    split at found
    · cases found
    · exact found
  refine ⟨kept.retirements,fun i hold waits => ?_,kept.literal,kept.merged,
    fun i phase r found => kept.waiting i phase r (receipts i phase found),
    fun i phase w token found => kept.seeking i phase w token (receipts i phase found),kept.called⟩
  obtain ⟨passed,free,present⟩ := (kept.exempted exempted).receipts i hold waits
  have ne : i ≠ identity := by
    rintro rfl
    exact empty hold waits
  refine ⟨passed,free,fun _ => ?_⟩
  change ((s.pool.receiptRetirements.delete identity).get i).isSome
  rw [get_delete_ne _ ne]
  exact present fun same => ne (Option.some.inj same)

omit [DecidableEq W] in
/-- All that waits with a holder is called. -/
theorem Kept.release (kept : s.Kept exempt)
    (holder : Holder I) : (s.releaseRetirementHolds holder).Kept exempt ∧
      ∀ hold, ¬(s.releaseRetirementHolds holder).ledger.Waits holder hold := by
  have left : ∀ k hold, (s.ledger.release holder).Waits k hold →
      k ≠ holder ∧ s.ledger.Waits k hold := by
    intro k hold waits
    obtain ⟨ne,before⟩ := Ledger.waits_clear.mp waits
    rcases Ledger.waits_depositAll before with there | ⟨_,⟨⟩,_⟩
    exact ⟨ne,there⟩
  refine ⟨⟨fun r hold waits => kept.retirements r hold (left _ hold waits).2,
    fun i hold waits => kept.receipts i hold (left _ hold waits).2,
    fun hold waits => kept.literal hold (left _ hold waits).2,kept.merged,kept.waiting,
    kept.seeking,fun hold called => ?_⟩,fun hold waits => (left _ hold waits).1 rfl⟩
  obtain ⟨fresh,calls,made⟩ := s.ledger.calls_depositAll holder true (s.ledger.places holder).waiting
  have called : hold ∈ (s.ledger.depositAll holder true (s.ledger.places holder).waiting).calls :=
    called
  rw [calls] at called
  rcases mem_append.mp called with old | new
  · exact kept.called hold old
  · have waits : s.ledger.Waits holder hold := (made hold new).2
    cases holder with
    | retirement r =>
      obtain ⟨_,owner,_,_,passed,_⟩ := kept.retirements r hold waits
      exact ⟨owner,passed⟩
    | receipt i => exact ⟨_,(kept.receipts i hold waits).1⟩
    | literal => exact absurd waits (kept.literal hold)

omit [DecidableEq W] in
theorem release_calls (s : HeldPool W I H) (holder : Holder I) :
    ∃ fresh, (s.releaseRetirementHolds holder).ledger.calls = s.ledger.calls ++ fresh ∧
      ∀ hold ∈ fresh, s.ledger.Waits holder hold := by
  obtain ⟨fresh,calls,made⟩ := s.ledger.calls_depositAll holder true (s.ledger.places holder).waiting
  exact ⟨fresh,calls,fun hold new => (made hold new).2⟩

omit [DecidableEq W] in
theorem follow_merges (found : s.pool.receiptRetirements.get identity = some (.waiting r)) :
    s.follow identity = s.merge identity r := by
  unfold follow
  rw [found]

omit [DecidableEq W] in
theorem follow_releases (gone : s.pool.receiptRetirements.get identity = none) :
    s.follow identity = s.releaseRetirementHolds (.receipt identity) := by
  unfold follow
  rw [gone]

omit [DecidableEq W] in
/-- A receipt that still waits, or has failed, keeps its holds. -/
theorem follow_stays (found : s.pool.receiptRetirements.get identity = some phase)
    (stays : phase.merged = none) : s.follow identity = s := by
  unfold follow
  rw [found]
  cases phase <;> first | rfl | cases stays

/-- What a receipt retirement has found is followed. -/
theorem Kept.matched (kept : s.Kept exempt)
    (exempted : exempt = none ∨ exempt = some identity) (unmerged : s.merged identity = none)
    (found : s.pool.Matches identity q)
    (absent : (∀ w e, s.pool.sessions.get w = some e → e.managedIdentity ≠ some identity) →
      (∀ w r x, s.pool.retirements.get w = some r → s.pool.disposals.get r = some x →
        x.managedIdentity ≠ some identity) →
      (∃ hold, s.ledger.Waits (.receipt identity) hold) → Absent s.pool identity) :
    (({s with pool := q} : HeldPool W I H).follow identity).Kept none ∧
      s.Justified (({s with pool := q} : HeldPool W I H).follow identity) := by
  cases found with
  | merged q r retires =>
    rw [follow_merges (by exact get_set_self _ _ _)]
    have moved := (kept.exempted exempted).changes retires.changes
    exact ⟨moved.merge retires.named,moved.merge_justified retires.guarded retires.named⟩
  | creating workDir t operation named undenied =>
    rw [follow_stays (by exact get_set_self _ _ _) rfl]
    exact ⟨kept.record exempted (fun _ => unmerged) (by rintro r ⟨⟩),.of_eq rfl⟩
  | absent entries retirements =>
    rw [follow_releases (by exact get_delete_self _ _)]
    obtain ⟨released,empty⟩ := kept.release (.receipt identity)
    refine ⟨released.forget exempted empty,?_⟩
    obtain ⟨fresh,calls,made⟩ := s.release_calls (.receipt identity)
    refine ⟨fresh,calls,fun hold new => ?_⟩
    have waits := made hold new
    obtain ⟨e,r,o⟩ := absent entries retirements ⟨hold,waits⟩
    exact ⟨_,(kept.receipts identity hold waits).1,.inr ⟨identity,rfl,e,r,o⟩⟩

omit [DecidableEq H] [DecidableEq W] in
theorem Kept.pass (kept : s.Kept exempt)
    (owner : Owner I) (holds : List H) : (s.pass owner holds).Kept exempt where
  retirements r hold waits := by
    obtain ⟨x,owner',found,state,passed,owns⟩ := kept.retirements r hold waits
    exact ⟨x,owner',found,state,mem_append_left _ passed,owns⟩
  receipts i hold waits := by
    obtain ⟨passed,free,present⟩ := kept.receipts i hold waits
    exact ⟨mem_append_left _ passed,free,present⟩
  literal := kept.literal
  merged := kept.merged
  waiting := kept.waiting
  seeking := kept.seeking
  called hold called := by
    obtain ⟨owner',passed⟩ := kept.called hold called
    exact ⟨owner',mem_append_left _ passed⟩

omit [DecidableEq I] [DecidableEq H] [DecidableEq W] in
theorem passed_pass (s : HeldPool W I H) (owner : Owner I) {holds : List H} {hold : H}
    (given : hold ∈ holds) : (hold,owner) ∈ (s.pass owner holds).passed :=
  mem_append_right _ (mem_map.mpr ⟨hold,given,rfl⟩)

omit [DecidableEq W] in
/-- Holds are left with a retirement that has not disposed of its session. -/
theorem Kept.leave (kept : s.Kept exempt) {r : Nat}
    {x : Retirement W I} (found : s.pool.disposals.get r = some x) (state : x.state ≠ .retired)
    (owner : Owner I) (owns : Owns x owner) (holds : List H) :
    ((s.addRetirementHolds r holds).pass owner holds).Kept exempt ∧
      ((s.addRetirementHolds r holds).pass owner holds).ledger.calls = s.ledger.calls := by
  have early : due s.pool r = false := by simpa [due,stateOf,found] using state
  have calls : (s.addRetirementHolds r holds).ledger.calls = s.ledger.calls := by
    unfold addRetirementHolds
    rw [early]
    exact (s.ledger.depositAll_early (.retirement r) holds).1
  have kept' := kept.pass owner holds
  have left : ∀ k hold, (s.addRetirementHolds r holds).ledger.Waits k hold →
      s.ledger.Waits k hold ∨ k = .retirement r ∧ hold ∈ holds := by
    intro k hold waits
    rcases Ledger.waits_depositAll waits with before | ⟨here,_,given⟩
    · exact .inl before
    · exact .inr ⟨here,given⟩
  refine ⟨⟨fun r' hold waits => ?_,fun i hold waits => ?_,fun hold waits => ?_,kept'.merged,
    kept'.waiting,kept'.seeking,fun hold called => ?_⟩,calls⟩
  · rcases left _ hold waits with before | ⟨here,given⟩
    · exact kept'.retirements r' hold before
    · cases here
      exact ⟨x,owner,found,state,passed_pass s owner given,owns⟩
  · rcases left _ hold waits with before | ⟨⟨⟩,_⟩
    exact kept'.receipts i hold before
  · rcases left _ hold waits with before | ⟨⟨⟩,_⟩
    exact kept'.literal hold before
  · have called : hold ∈ (s.addRetirementHolds r holds).ledger.calls := called
    rw [calls] at called
    exact kept'.called hold called

/-- A stored session that no retirement is for starts one. -/
theorem retireSession_starts {p : Pool W I} (guarded : p.Guarded)
    (unretired : p.retirements.entries.find? (fun e =>
      decide ((p.disposals.get e.2).map Retirement.session = some session)) = none)
    (located : p.sessions.entries.find? (fun e => decide (e.2.session = some session)) = some (workDir,e)) :
    p.retire session workDir e.managedIdentity =
        (p.startRetirement session workDir e.managedIdentity,.ok p.nextRetirementGeneration) ∧
      (p.retireSession session).1 = p.startRetirement session workDir e.managedIdentity := by
  have listed := get_eq_some.mpr (mem_of_find?_eq_some located)
  have live : e.session = some session := by simpa using find?_some located
  have clear : p.retirements.get workDir = none :=
    ((guarded.directories workDir).stored e session listed live).1
  have retired : p.retire session workDir e.managedIdentity =
      (p.startRetirement session workDir e.managedIdentity,.ok p.nextRetirementGeneration) := by
    unfold retire
    rw [clear]
  refine ⟨retired,?_⟩
  unfold Pool.retireSession
  rw [if_neg]
  · rw [located]
    dsimp only
    rw [retired]
  · rw [Bool.not_eq_true,any_eq_false]
    intro e' member
    simpa using find?_eq_none.mp unretired e' member

/-- The holds of a session that has been disposed of are called at once. -/
theorem Kept.call_at_once (kept : s.Kept none) (owner : Owner I) (holds : List H)
    (found : s.pool.disposals.get r = some x) (owns : Owns x owner) (settled : x.settled = some true) :
    ({s with ledger := (s.ledger.renew .literal).depositAll .literal true holds}.pass owner holds).Kept none ∧
      s.Justified ({s with ledger := (s.ledger.renew .literal).depositAll .literal true holds}.pass owner holds) := by
  obtain ⟨fresh,calls,made⟩ := (s.ledger.renew .literal).calls_depositAll .literal true holds
  have kept' := kept.pass owner holds
  have left : ∀ k hold, ((s.ledger.renew .literal).depositAll .literal true holds).Waits k hold →
      s.ledger.Waits k hold := by
    intro k hold waits
    rcases Ledger.waits_depositAll waits with before | ⟨_,⟨⟩,_⟩
    exact (Ledger.waits_renew.mp before).2
  refine ⟨⟨fun r' hold waits => kept'.retirements r' hold (left _ hold waits),
    fun i hold waits => kept'.receipts i hold (left _ hold waits),
    fun hold waits => kept'.literal hold (left _ hold waits),kept'.merged,kept'.waiting,
    kept'.seeking,fun hold called => ?_⟩,fresh,calls,fun hold new => ?_⟩
  · have called : hold ∈ ((s.ledger.renew .literal).depositAll .literal true holds).calls := called
    rw [calls] at called
    rcases mem_append.mp called with old | new
    · exact kept'.called hold old
    · exact ⟨_,passed_pass s _ (made hold new).2⟩
  · exact ⟨_,passed_pass s _ (made hold new).2,.inl ⟨r,x,found,owns,settled⟩⟩

theorem Kept.retireSession (kept : s.Kept none) (guarded : s.pool.Guarded)
    (told : s.pool.Attributed) (session : Nat) (holds : List H) :
    (s.retireSession session holds).Kept none ∧ s.Justified (s.retireSession session holds) := by
  have changes := guarded.changes_retireSession told session
  have moved := kept.changes changes
  unfold HeldPool.retireSession
  dsimp only
  split
  · rename_i w r located
    have present := get_eq_some.mpr (mem_of_find?_eq_some located)
    have named : (s.pool.disposals.get r).map Retirement.session = some session := by
      simpa using find?_some located
    obtain ⟨x,found,own⟩ := Option.map_eq_some_iff.mp named
    obtain ⟨x',found',state⟩ := (guarded.directories w).retiring r present
    have same := (disposal_eq_some.mp found').1
    rw [found] at same
    cases same
    obtain ⟨y,later,same,session',_⟩ := changes.state found
    obtain ⟨result,calls⟩ := moved.leave later (by rw [same]; exact state)
      (.session session) (session'.trans own) holds
    exact ⟨result,.of_eq calls⟩
  rename_i unretired
  split
  · rename_i workDir e located
    obtain ⟨retired,joined⟩ := retireSession_starts guarded unretired located
    rw [retired]
    rw [joined] at moved ⊢
    obtain ⟨result,calls⟩ := moved.leave (get_set_self _ _ _) (by rintro ⟨⟩) (.session session) rfl holds
    exact ⟨result,.of_eq calls⟩
  · split
    · rename_i known
      obtain ⟨⟨r,x⟩,member,gone⟩ := any_eq_true.mp known
      have found := get_eq_some.mpr member
      have own : x.session = session ∧ x.state = .retired := by simpa using gone
      obtain ⟨y,later,state,session',_⟩ := changes.state found
      have directories := (guarded_rule.retireSession guarded session).directories y.workDir
      have settled := (directories.disposals r y (disposal_eq_some.mpr ⟨later,rfl⟩)).retired (state.trans own.2)
      exact moved.call_at_once (.session session) holds later (session'.trans own.1) settled
    · exact ⟨moved,.of_eq rfl⟩

omit [DecidableEq I] in
/-- The handler of a dispose moves its retirement on, and nothing else of interest. -/
theorem settlementRuns_moves (p : Pool W I) (r : Nat) :
    (p.settlementRuns r).1 = p ∨ ∃ x state q, p.disposals.get r = some x ∧ x.state = .pending ∧
        (state = .retired ∧ x.settled = some true ∨ state = .failed ∧ x.settled = some false) ∧
        (p.settlementRuns r).1 = q ∧ q.disposals = p.disposals.set r {x with state := state} ∧
        q.receiptRetirements = p.receiptRetirements := by
  unfold Pool.settlementRuns
  split
  · rename_i x found
    split
    · rename_i pending settled
      refine .inr ⟨x,.retired,_,found,pending,.inl ⟨rfl,settled⟩,rfl,?_,?_⟩
      · exact disposals_leaveRetirements _ _ _
      · dsimp only
        unfold leaveRetirements
        split <;> rfl
    · rename_i pending settled
      exact .inr ⟨x,.failed,_,found,pending,.inr ⟨rfl,settled⟩,rfl,rfl,rfl⟩
    · exact .inl rfl
  · exact .inl rfl

theorem Kept.settlementRuns (kept : s.Kept none) (retirement : Nat) :
    (s.settlementRuns retirement).Kept none ∧ s.Justified (s.settlementRuns retirement) := by
  unfold HeldPool.settlementRuns
  dsimp only
  rcases settlementRuns_moves s.pool retirement with same |
    ⟨x,state,q,found,pending,how,result,disposals,receipts⟩
  · rw [same]
    split
    · rename_i both
      rw [both.1] at both
      cases both.2
    · exact ⟨kept,.of_eq rfl⟩
  rw [result]
  have before : s.pool.stateOf retirement = some .pending := by simp [stateOf,found,pending]
  have after : q.stateOf retirement = some state := by simp [stateOf,disposals]
  have forward : ∀ r y, s.pool.disposals.get r = some y →
      ∃ z, q.disposals.get r = some z ∧ z.session = y.session ∧
        z.managedIdentity = y.managedIdentity ∧ (r ≠ retirement → z.state = y.state) := by
    intro r y there
    rw [disposals,get_set]
    split
    · rename_i here
      rw [here,found] at there
      cases there
      exact ⟨_,rfl,rfl,rfl,fun ne => absurd here ne⟩
    · exact ⟨y,there,rfl,rfl,fun _ => rfl⟩
  -- the pool moves on under holders that do not hold for a retired session
  have follow : ∀ t : HeldPool W I H, t.pool = s.pool → t.Kept none →
      (state = .retired → ∀ hold, ¬t.ledger.Waits (.retirement retirement) hold) →
      ({t with pool := q} : HeldPool W I H).Kept none := by
    intro t same kept empty
    refine ⟨fun r hold waits => ?_,fun i hold waits => ?_,kept.literal,fun i r merged => ?_,
      fun i phase r present => ?_,fun i phase w token present => ?_,kept.called⟩
    · obtain ⟨y,owner,there,unretired,passed,owns⟩ := kept.retirements r hold waits
      rw [same] at there
      obtain ⟨z,later,session,identity,kept_state⟩ := forward r y there
      refine ⟨z,owner,later,?_,passed,owns.same session identity⟩
      by_cases here : r = retirement
      · rcases how with ⟨retired,_⟩ | ⟨failed,_⟩
        · rw [here] at waits
          exact absurd waits (empty retired hold)
        · rw [here,disposals,get_set_self] at later
          cases later
          rw [failed]
          rintro ⟨⟩
      · rw [kept_state here]
        exact unretired
    · obtain ⟨passed,free,present⟩ := kept.receipts i hold waits
      rw [same] at present
      exact ⟨passed,free,fun other => by rw [receipts]; exact present other⟩
    · obtain ⟨y,there,named⟩ := kept.merged i r merged
      rw [same] at there
      obtain ⟨z,later,_,identity,_⟩ := forward r y there
      exact ⟨z,later,identity.trans named⟩
    · rw [receipts,← same] at present
      exact kept.waiting i phase r present
    · rw [receipts,← same] at present
      exact kept.seeking i phase w token present
  rcases how with ⟨rfl,settled⟩ | ⟨rfl,_⟩
  · rw [if_pos ⟨before,after⟩]
    obtain ⟨released,empty⟩ := kept.release (.retirement retirement)
    refine ⟨follow (s.releaseRetirementHolds (.retirement retirement)) rfl released fun _ => empty,?_⟩
    obtain ⟨fresh,calls,made⟩ := s.release_calls (.retirement retirement)
    refine ⟨fresh,calls,fun hold new => ?_⟩
    obtain ⟨y,owner,there,_,passed,owns⟩ := kept.retirements retirement hold (made hold new)
    rw [found] at there
    cases there
    refine ⟨owner,passed,.inl ⟨retirement,{x with state := .retired},?_,owns.same rfl rfl,settled⟩⟩
    change q.disposals.get retirement = _
    rw [disposals,get_set_self]
  · rw [if_neg]
    · exact ⟨follow s rfl kept (by rintro ⟨⟩),.of_eq rfl⟩
    · rintro ⟨_,retired⟩
      rw [after] at retired
      cases retired

/-- At the end of a search without a match no session of the receipt is left. -/
theorem absent_of_unmatched {p : Pool W I} (guarded : p.Guarded) (told : p.Attributed)
    (running : p.closed = false)
    (entries : ∀ w e, p.sessions.get w = some e → e.managedIdentity ≠ some identity)
    (retirements : ∀ w r x, p.retirements.get w = some r → p.disposals.get r = some x →
      x.managedIdentity ≠ some identity) (late : ∀ w t session state, p.sessionTransitions.get w = some t →
      t.managedIdentity = some identity → t.phase = .late session →
      p.existence session = some state → state.remains = false) : Absent p identity where
  entries := entries
  retirements r x found named := by
    have ok := (guarded.directories x.workDir).disposals r x (disposal_eq_some.mpr ⟨found,rfl⟩)
    by_cases state : x.state = .retired
    · exact ok.retired state
    · exact absurd named (retirements x.workDir r x (ok.present state) found)
  operations w t session state operation named holds made := by
    by_cases stores : t.phase.storing
    · obtain ⟨e,listed,_⟩ :=
        ((guarded.directories w).phases t operation).owns stores running
      have same := told.entries w e t listed operation
      exact absurd (same.trans named) (entries w e listed)
    · have phase : t.phase = .late session := by
        cases phase : t.phase <;> simp_all [Phase.session,Phase.storing]
      exact late w t session state operation named phase made

/-- A receipt that was looking for its session follows what it found; the others do not
move any holds. -/
theorem resumeReceipt_cases (s : HeldPool W I H) (identity : I) :
    (∃ phase, s.pool.receiptRetirements.get identity = some phase ∧ phase.merged = none ∧
      s.resumeReceipt identity =
        ({s with pool := (s.pool.resumeReceipt identity).1} : HeldPool W I H).follow identity) ∨
    s.resumeReceipt identity = {s with pool := (s.pool.resumeReceipt identity).1} ∧
      ∀ w token,s.pool.receiptRetirements.get identity ≠ some (.awaitingTransition w token) ∧
        s.pool.receiptRetirements.get identity ≠ some (.awaitingCreation w token) := by
  unfold HeldPool.resumeReceipt
  dsimp only
  split
  · rename_i w token found
    exact .inl ⟨_,found,rfl,rfl⟩
  · rename_i w token found
    exact .inl ⟨_,found,rfl,rfl⟩
  · rename_i transition creation
    exact .inr ⟨rfl,fun w token => ⟨transition w token,creation w token⟩⟩

theorem resumeReceipt_plain (found : s.pool.receiptRetirements.get identity = some phase)
    (transition : ∀ w token, phase ≠ .awaitingTransition w token)
    (creation : ∀ w token, phase ≠ .awaitingCreation w token) :
    s.resumeReceipt identity = {s with pool := (s.pool.resumeReceipt identity).1} := by
  unfold HeldPool.resumeReceipt
  dsimp only
  rw [found]
  cases phase with
  | awaitingTransition w token => exact absurd rfl (transition w token)
  | awaitingCreation w token => exact absurd rfl (creation w token)
  | _ => rfl

theorem Kept.resumeReceipt (kept : s.Kept none) (guarded : s.pool.Guarded)
    (told : s.pool.Attributed) (running : s.pool.closed = false)
    (holding : ¬s.Drops ⟨.resumeReceipt identity,holds⟩)
    (seeing : ¬s.Overlooks ⟨.resumeReceipt identity,holds⟩) :
    (s.resumeReceipt identity).Kept none ∧ s.Justified (s.resumeReceipt identity) := by
  have resumes := guarded.resumeReceipt_resumes told identity
  -- a receipt that stays, or fails, keeps its holds
  have stays : ∀ q phase, (s.pool.resumeReceipt identity).1 = q →
      q.receiptRetirements.get identity = some phase → phase.merged = none →
      s.resumeReceipt identity = {s with pool := q} := by
    intro q phase result found plain
    rcases s.resumeReceipt_cases identity with ⟨_,_,_,followed⟩ | ⟨same,_⟩
    · rw [followed,result]
      exact follow_stays found plain
    · rw [same,result]
  generalize result : (s.pool.resumeReceipt identity).1 = q at resumes
  cases resumes with
  | idle =>
    rcases s.resumeReceipt_cases identity with ⟨phase,found,plain,followed⟩ | ⟨same,_⟩
    · rw [followed,result]
      rw [follow_stays found plain]
      exact ⟨kept,.of_eq rfl⟩
    · rw [same,result]
      exact ⟨kept,.of_eq rfl⟩
  | matched workDir token _ waiting over' found =>
    have unmerged := kept.seeking identity _ workDir token waiting rfl
    rcases s.resumeReceipt_cases identity with ⟨_,_,_,followed⟩ | ⟨_,other⟩
    · rw [followed,result]
      refine kept.matched (.inl rfl) unmerged found fun entries retirements holding => ?_
      refine absent_of_unmatched guarded told running entries retirements ?_
      intro w t session state operation named late made
      by_contra remains
      exact seeing ⟨identity,workDir,token,w,t,session,state,rfl,waiting,entries,retirements,
        operation,named,late,made,by simpa using remains,holding⟩
    · exact absurd waiting (other workDir token).1
  | refused =>
    rw [stays _ .failed result (get_set_self _ _ _) rfl]
    exact ⟨kept.record (.inl rfl) (by intro again; cases again rfl) (by rintro r ⟨⟩),.of_eq rfl⟩
  | created workDir token q' r waiting retires =>
    rcases s.resumeReceipt_cases identity with ⟨_,_,_,followed⟩ | ⟨_,other⟩
    · rw [followed,result,follow_merges (by exact get_set_self _ _ _)]
      have exempt : s.Kept (some identity) := kept.exempted (.inl rfl)
      have moved := exempt.changes retires.changes
      exact ⟨moved.merge retires.named,moved.merge_justified retires.guarded retires.named⟩
    · exact absurd waiting (other workDir token).2
  | late workDir token waiting =>
    have unmerged := kept.seeking identity _ workDir token waiting rfl
    rw [stays _ (.awaitingCleanup workDir token) result (get_set_self _ _ _) rfl]
    exact ⟨kept.record (.inl rfl) (fun _ => unmerged) (by rintro r ⟨⟩),.of_eq rfl⟩
  | dropped workDir token waiting over' cleaned =>
    rw [resumeReceipt_plain waiting (by rintro w t ⟨⟩) (by rintro w t ⟨⟩),result]
    refine ⟨kept.forget (.inl rfl) fun hold waits => ?_,.of_eq rfl⟩
    exact holding ⟨identity,workDir,token,hold,rfl,waiting,over',cleaned,waits⟩
  | ended phase r waiting merged =>
    rw [resumeReceipt_plain waiting (by rintro w t rfl; cases merged) (by rintro w t rfl; cases merged),result]
    refine ⟨kept.forget (.inl rfl) fun hold waits => ?_,.of_eq rfl⟩
    have unmerged := (kept.receipts identity hold waits).2.1
    rw [kept.waiting identity phase r waiting merged] at unmerged
    cases unmerged
  | failed phase r waiting merged =>
    rw [stays _ .failed result (get_set_self _ _ _) rfl]
    exact ⟨kept.record (.inl rfl) (by intro again; cases again rfl) (by rintro r ⟨⟩),.of_eq rfl⟩
  | releasing phase r waiting merged =>
    rw [resumeReceipt_plain waiting (by rintro w t rfl; cases merged) (by rintro w t rfl; cases merged),result]
    refine ⟨kept.record (.inl rfl) (by intro again; cases again rfl) ?_,.of_eq rfl⟩
    rintro r' ⟨⟩
    exact kept.waiting identity phase r waiting merged

omit [DecidableEq W] in
/-- Holds are given to a receipt, recorded or about to be. -/
theorem Kept.entrust (kept : s.Kept exempt) {identity : I}
    (unmerged : s.merged identity = none)
    (present : some identity ≠ exempt → (s.pool.receiptRetirements.get identity).isSome)
    (holds : List H) (ledger : Ledger (Holder I) H) (calls : ledger.calls = s.ledger.calls)
    (left : ∀ k hold, ledger.Waits k hold → s.ledger.Waits k hold) :
    ({s.pass (.receipt identity) holds with
      ledger := ledger.depositAll (.receipt identity) false holds} : HeldPool W I H).Kept exempt := by
  have kept' := kept.pass (.receipt identity) holds
  have before : ∀ k hold, (ledger.depositAll (.receipt identity) false holds).Waits k hold →
      s.ledger.Waits k hold ∨ k = .receipt identity ∧ hold ∈ holds := by
    intro k hold waits
    rcases Ledger.waits_depositAll waits with before | ⟨here,_,given⟩
    · exact .inl (left k hold before)
    · exact .inr ⟨here,given⟩
  refine ⟨fun r hold waits => ?_,fun i hold waits => ?_,fun hold waits => ?_,kept'.merged,
    kept'.waiting,kept'.seeking,fun hold called => ?_⟩
  · rcases before _ hold waits with old | ⟨⟨⟩,_⟩
    exact kept'.retirements r hold old
  · rcases before _ hold waits with old | ⟨here,given⟩
    · exact kept'.receipts i hold old
    · cases here
      exact ⟨passed_pass s _ given,unmerged,present⟩
  · rcases before _ hold waits with old | ⟨⟨⟩,_⟩
    exact kept'.literal hold old
  · rw [(ledger.depositAll_early (.receipt identity) holds).1,calls] at called
    exact kept'.called hold called

/-- Holds passed for a receipt that has its retirement go there at once. -/
theorem Kept.hand_over (kept : s.Kept none) (guarded : s.pool.Guarded)
    (merged : s.merged identity = some r) (holds : List H) :
    (({s.pass (.receipt identity) holds with
        ledger := s.ledger.depositAll (.receipt identity) false holds} :
          HeldPool W I H).transferRetirementHolds identity r).Kept none ∧
      s.Justified (({s.pass (.receipt identity) holds with
        ledger := s.ledger.depositAll (.receipt identity) false holds} :
          HeldPool W I H).transferRetirementHolds identity r) := by
  obtain ⟨x,found,named⟩ := kept.merged identity r merged
  have kept' := kept.pass (.receipt identity) holds
  obtain ⟨quiet,early,_⟩ := s.ledger.depositAll_early (.receipt identity) holds
  have given : ∀ hold, (s.ledger.depositAll (.receipt identity) false holds).Waits
      (.receipt identity) hold → hold ∈ holds := by
    intro hold waits
    rcases (early _ hold).mp waits with before | ⟨_,inside,_⟩
    · have unmerged := (kept.receipts identity hold before).2.1
      rw [merged] at unmerged
      cases unmerged
    · exact inside
  obtain ⟨fresh,calls,made⟩ :=
    (s.ledger.depositAll (.receipt identity) false holds).calls_depositAll (.retirement r)
      (due s.pool r) ((s.ledger.depositAll (.receipt identity) false holds).places (.receipt identity)).waiting
  rw [quiet] at calls
  have left : ∀ k hold, ((s.ledger.depositAll (.receipt identity) false holds).transfer
      (.receipt identity) (.retirement r) (due s.pool r)).Waits k hold →
      s.ledger.Waits k hold ∨ k = .retirement r ∧ due s.pool r = false ∧ hold ∈ holds := by
    intro k hold waits
    obtain ⟨ne,there⟩ := Ledger.waits_clear.mp waits
    rcases Ledger.waits_depositAll there with before | ⟨here,late,inside⟩
    · rcases (early k hold).mp before with old | ⟨same,_⟩
      · exact .inl old
      · exact absurd same ne
    · exact .inr ⟨here,late,given hold inside⟩
  refine ⟨⟨fun r' hold waits => ?_,fun i hold waits => ?_,fun hold waits => ?_,kept'.merged,
    kept'.waiting,kept'.seeking,fun hold called => ?_⟩,fresh,calls,fun hold new => ?_⟩
  · rcases left _ hold waits with old | ⟨here,late,inside⟩
    · exact kept'.retirements r' hold old
    · cases here
      refine ⟨x,.receipt identity,found,?_,passed_pass s _ inside,named⟩
      simpa [due,stateOf,found] using late
  · rcases left _ hold waits with old | ⟨⟨⟩,_⟩
    exact kept'.receipts i hold old
  · rcases left _ hold waits with old | ⟨⟨⟩,_⟩
    exact kept'.literal hold old
  · have called : hold ∈ s.ledger.calls ++ fresh := by
      rw [← calls]
      exact called
    rcases mem_append.mp called with old | new
    · exact kept'.called hold old
    · exact ⟨_,passed_pass s _ (given hold (made hold new).2)⟩
  · obtain ⟨due',inside⟩ := made hold new
    exact ⟨_,passed_pass s _ (given hold inside),.inl ⟨r,x,found,named,settled_of_due guarded found due'⟩⟩

theorem Kept.retireManagedReceipt (kept : s.Kept none)
    (guarded : s.pool.Guarded) (told : s.pool.Attributed) (running : s.pool.closed = false)
    (identity : I) (holds : List H) : (s.retireManagedReceipt identity holds).Kept none ∧
      s.Justified (s.retireManagedReceipt identity holds) := by
  unfold HeldPool.retireManagedReceipt
  dsimp only
  rw [running,if_neg (by decide)]
  split
  · rename_i phase present
    rw [receipts_retireManagedReceipt (.inr (by rw [present]; rfl))]
    split
    · rename_i r merged
      exact kept.hand_over guarded merged holds
    · rename_i unmerged
      refine ⟨kept.entrust unmerged (fun _ => by rw [present]; rfl) holds s.ledger rfl fun _ _ => id,.of_eq ?_⟩
      exact (s.ledger.depositAll_early _ _).1
  · rename_i absent
    let t : HeldPool W I H := {s with
      merged := fun i => if i = identity then none else s.merged i
      missed := fun i => if i = identity then false else s.missed i}
    have renewed : t.Kept (some identity) := by
      refine ⟨kept.retirements,fun i hold waits => ?_,kept.literal,fun i r merged => ?_,
        fun i phase r found merged => ?_,fun i phase w token found waits => ?_,kept.called⟩
      · obtain ⟨passed,unmerged,present⟩ := kept.receipts i hold waits
        refine ⟨passed,?_,fun _ => present (by rintro ⟨⟩)⟩
        change (if i = identity then none else s.merged i) = none
        rw [unmerged]
        split <;> rfl
      · change (if i = identity then none else s.merged i) = some r at merged
        split at merged
        · cases merged
        · exact kept.merged i r merged
      · have ne : i ≠ identity := by
          rintro rfl
          rw [absent] at found
          cases found
        exact (if_neg ne).trans (kept.waiting i phase r found merged)
      · change (if i = identity then none else s.merged i) = none
        rw [kept.seeking i phase w token found waits]
        split <;> rfl
    have unmerged : t.merged identity = none := if_pos rfl
    have entrusted := renewed.entrust unmerged (fun other => absurd rfl other) holds
      (s.ledger.renew (.receipt identity)) rfl
      (fun k hold waits => (Ledger.waits_renew.mp waits).2)
    have calls : ((s.ledger.renew (.receipt identity)).depositAll (.receipt identity) false
        holds).calls = s.ledger.calls :=
      ((s.ledger.renew (.receipt identity)).depositAll_early (.receipt identity) holds).1
    have starts := guarded.retireManagedReceipt_starts told running absent
    generalize (s.pool.retireManagedReceipt identity).1 = q at starts
    cases starts with
    | waiting workDir t operation named =>
      rw [follow_stays (by exact get_set_self _ _ _) rfl]
      exact ⟨entrusted.record (.inr rfl) (fun _ => unmerged) (by rintro r ⟨⟩),.of_eq calls⟩
    | matched _ free found =>
      obtain ⟨result,fresh,added,released⟩ := entrusted.matched (.inr rfl) unmerged found
        fun entries retirements _ => absent_of_unmatched guarded told running entries retirements
          fun w t' session state operation named _ _ => absurd named (free w t' operation)
      exact ⟨result,fresh,added.trans (by rw [calls]),released⟩

theorem Kept.call (kept : s.Kept none) (guarded : s.pool.Guarded)
    (told : s.pool.Attributed) (running : s.pool.closed = false)
    (open' : c.event ≠ .shutdown) (holding : ¬s.Drops c) (seeing : ¬s.Overlooks c) :
    (s.call c).Kept none ∧ s.Justified (s.call c) := by
  obtain ⟨event,holds⟩ := c
  have ordinary : Ordinary event →
      ({s with pool := (step s.pool event).1} : HeldPool W I H).Kept none ∧
        s.Justified {s with pool := (step s.pool event).1} :=
    fun plain => ⟨kept.changes (guarded.changes_step told running plain),.of_eq rfl⟩
  cases event with
  | retireSession session => exact kept.retireSession guarded told session holds
  | retireManagedReceipt identity =>
    exact kept.retireManagedReceipt guarded told running identity holds
  | resumeReceipt identity => exact kept.resumeReceipt guarded told running holding seeing
  | disposeFulfils r =>
    obtain ⟨missed,result,_⟩ := s.disposeFulfils_cases r
    obtain ⟨⟨retirements,receipts,literal,merged,waiting,seeking,called⟩,_⟩ :=
      ordinary (by trivial : Ordinary (.disposeFulfils r))
    change (s.disposeFulfils r).Kept none ∧ s.Justified (s.disposeFulfils r)
    rw [result]
    exact ⟨⟨retirements,receipts,literal,merged,waiting,seeking,called⟩,.of_eq rfl⟩
  | settlementRuns r => exact kept.settlementRuns r
  | shutdown => exact absurd rfl open'
  | _ => exact ordinary trivial

end HeldPool

end GjcRemote.SessionPool
