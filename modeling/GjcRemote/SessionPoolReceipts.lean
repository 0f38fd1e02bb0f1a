import GjcRemote.SessionPoolAttributed

/-! What the steps of a receipt retirement come to, and that they too keep what the pool's
records tell. -/
namespace GjcRemote.SessionPool.Pool

open OrderedMap List
variable {W I : Type} [DecidableEq W] [DecidableEq I]

variable {p : Pool W I}

section

variable (told : p.Attributed)
include told

/-- What is told of an operation that a receipt starts to wait for. -/
theorem Attributed.present (operation : p.sessionTransitions.get workDir = some t)
    (named : t.managedIdentity = some identity) :
    t.token < p.nextToken ∧ (∀ w t', p.sessionTransitions.get w = some t' → t'.token = t.token →
        w = workDir ∧ t'.managedIdentity = some identity) ∧
      (t.token ∈ p.rejectedCleanups → DisposeRejected p workDir) := by
  refine ⟨told.tokens workDir t operation,fun w t' operation' same => ?_,fun member => ?_⟩
  · obtain rfl := told.distinct w t' workDir t operation' operation same
    rw [operation] at operation'
    cases operation'
    exact ⟨rfl,named⟩
  · exact absurd rfl ((told.ended t.token member).2 workDir t operation)

theorem Attributed.setReceipt (merged : ∀ r, receipt.merged = some r →
      ∃ x, p.disposals.get r = some x ∧ x.managedIdentity = some identity)
    (awaiting : ∀ w token, receipt.awaits = some (w,token) → token < p.nextToken ∧
      (∀ w' t, p.sessionTransitions.get w' = some t → t.token = token →
        w' = w ∧ t.managedIdentity = some identity) ∧ (token ∈ p.rejectedCleanups → DisposeRejected p w))
    (creating : ∀ w token, receipt = .awaitingCreation w token →
      ∃ t, p.sessionTransitions.get w = some t ∧ t.token = token ∧ t.phase ≠ .denied) :
    (p.setReceipt identity receipt).Attributed := by
  have receipts : ∀ i phase, (p.receiptRetirements.set identity receipt).get i = some phase →
      i = identity ∧ phase = receipt ∨ p.receiptRetirements.get i = some phase := by
    intro i phase found
    rw [get_set] at found
    split at found
    · rename_i here
      exact .inl ⟨here,(Option.some.inj found).symm⟩
    · exact .inr found
  refine ⟨told.entries,told.settled,told.bounded,told.disposing,told.failing,told.cleaned,
    told.tokens,told.distinct,told.ended,fun i phase r found => ?_,fun i phase w token found => ?_,
    fun i w token found => ?_,told.stored,told.received,told.owned,told.unclosed⟩
  · rcases receipts i phase found with ⟨rfl,rfl⟩ | old
    · exact merged r
    · exact told.merged i phase r old
  · rcases receipts i phase found with ⟨rfl,rfl⟩ | old
    · exact awaiting w token
    · exact told.awaiting i phase w token old
  · rcases receipts i _ found with ⟨rfl,rfl⟩ | old
    · exact creating w token rfl
    · exact told.creating i w token old

theorem Attributed.endReceipt (identity : I) :
    (p.endReceipt identity).Attributed := by
  have receipts : ∀ i phase, (p.receiptRetirements.delete identity).get i = some phase →
      p.receiptRetirements.get i = some phase := by
    intro i phase found
    rw [get_delete] at found
    split at found
    · cases found
    · exact found
  exact ⟨told.entries,told.settled,told.bounded,told.disposing,told.failing,told.cleaned,
    told.tokens,told.distinct,told.ended,
    fun i phase r found => told.merged i phase r (receipts i phase found),
    fun i phase w token found => told.awaiting i phase w token (receipts i phase found),
    fun i w token found => told.creating i w token (receipts i _ found),told.stored,told.received,
    told.owned,told.unclosed⟩

theorem Attributed.failReceipt (identity : I) :
    (p.setReceipt identity .failed).Attributed :=
  told.setReceipt (by rintro r ⟨⟩) (by rintro w token ⟨⟩) (by rintro w token ⟨⟩)

theorem Attributed.mergeReceipt (merged : receipt.merged = some retirement)
    (named : ∃ x, p.disposals.get retirement = some x ∧ x.managedIdentity = some identity) :
    (p.setReceipt identity receipt).Attributed := by
  refine told.setReceipt ?_ ?_ ?_
  · intro r same
    rw [merged] at same
    cases same
    exact named
  · intro w token waits
    cases receipt <;> simp [ReceiptRetirement.merged,ReceiptRetirement.awaits] at merged waits
  · rintro w token rfl
    cases merged

end

/-- The session of an entry, or of a settled operation, is retired for its receipt. -/
structure Retires (p q : Pool W I) (identity : I) (retirement : Nat) : Prop where
  changes : p.Changes q
  guarded : q.Guarded
  named : ∃ x, q.disposals.get retirement = some x ∧ x.managedIdentity = some identity
  receipts : q.receiptRetirements = p.receiptRetirements

theorem Guarded.retires_entry (guarded : p.Guarded) (told : p.Attributed)
    (found : p.sessions.get workDir = some e) (live : e.session = some session)
    (named : e.managedIdentity = some identity) :
    ∃ q r, p.retireForReceipt identity session workDir = q.setReceipt identity (.waiting r) ∧
      p.Retires q identity r := by
  have changes := guarded.changes_retire_entry told found live
  have kept := guarded.retire_entry found live e.managedIdentity
  rw [named] at changes kept
  have clear : p.retirements.get workDir = none :=
    ((guarded.directories workDir).stored e session found live).1
  have retired : p.retire session workDir (some identity) =
      (p.startRetirement session workDir (some identity),.ok p.nextRetirementGeneration) := by
    unfold Pool.retire
    rw [clear]
  rw [retired] at changes kept
  refine ⟨_,_,by unfold Pool.retireForReceipt; rw [retired],changes,kept,?_,rfl⟩
  exact ⟨_,get_set_self _ _ _,rfl⟩

theorem Guarded.retires_settled (guarded : p.Guarded) (told : p.Attributed)
    (operation : p.sessionTransitions.get workDir = some t) (settled : t.phase = .settled session)
    (named : t.managedIdentity = some identity) :
    ∃ q r, p.retireForReceipt identity session workDir = q.setReceipt identity (.waiting r) ∧
      p.Retires q identity r := by
  have kept := guarded_rule.settled p workDir t session guarded operation settled (some identity)
  cases present : p.retirements.get workDir with
  | some existing =>
    obtain ⟨x,located,_⟩ := (guarded.directories workDir).retiring existing present
    have found := (disposal_eq_some.mp located).1
    obtain ⟨same,own⟩ := told.settled workDir t session existing x operation settled present found
    rw [named] at same
    have retired : p.retire session workDir (some identity) = (p,.ok existing) := by
      simp [Pool.retire,present,found,own,same,identitiesDiffer]
    exact ⟨p,existing,by unfold Pool.retireForReceipt; rw [retired],.refl p,guarded,⟨x,found,same⟩,rfl⟩
  | none =>
    have retired : p.retire session workDir (some identity) =
        (p.startRetirement session workDir (some identity),.ok p.nextRetirementGeneration) := by
      unfold Pool.retire
      rw [present]
    have started : p.Changes (p.startRetirement session workDir (some identity)) := by
      apply guarded.changes_startRetirement
      · intro t' c operation' settled'
        rw [operation] at operation'
        cases operation'
        rw [settled] at settled'
        cases settled'
        exact ⟨named.symm,rfl⟩
      · exact told.received workDir t session operation (by rw [settled]; rfl)
    rw [retired] at kept
    exact ⟨_,_,by unfold Pool.retireForReceipt; rw [retired],started,kept,⟨_,get_set_self _ _ _,rfl⟩,rfl⟩

inductive Matches (p : Pool W I) (identity : I) : Pool W I → Prop where
  | merged (q : Pool W I) (retirement : Nat) (retires : p.Retires q identity retirement) :
      Matches p identity (q.setReceipt identity (.waiting retirement))
  | creating (workDir : W) (t : Transition I) (operation : p.sessionTransitions.get workDir = some t)
      (named : t.managedIdentity = some identity) (undenied : t.phase ≠ .denied) :
      Matches p identity (p.setReceipt identity (.awaitingCreation workDir t.token))
  | absent (entries : ∀ w e, p.sessions.get w = some e → e.managedIdentity ≠ some identity)
      (retirements : ∀ w r x, p.retirements.get w = some r → p.disposals.get r = some x →
        x.managedIdentity ≠ some identity) :
      Matches p identity (p.endReceipt identity)

theorem Guarded.retireMatch_matches (guarded : p.Guarded) (told : p.Attributed) (identity : I) :
    p.Matches identity (p.retireMatch identity) := by
  unfold Pool.retireMatch
  split
  · rename_i w r located
    have named : (p.disposals.get r).bind Retirement.managedIdentity = some identity := by
      simpa using find?_some located
    obtain ⟨x,found,same⟩ := Option.bind_eq_some_iff.mp named
    exact .merged p r ⟨.refl p,guarded,⟨x,found,same⟩,rfl⟩
  rename_i unretired
  split
  · rename_i unlisted
    refine .absent ?_ ?_
    · intro w e listed named
      have := find?_eq_none.mp unlisted _ (get_eq_some.mp listed)
      simp [named] at this
    · intro w r x present found named
      have := find?_eq_none.mp unretired _ (get_eq_some.mp present)
      simp [found,named] at this
  · rename_i workDir e located
    have listed := get_eq_some.mpr (mem_of_find?_eq_some located)
    have named : e.managedIdentity = some identity := by simpa using find?_some located
    split
    · rename_i session live
      obtain ⟨q,r,retired,retires⟩ := guarded.retires_entry told listed live named
      rw [retired]
      exact .merged q r retires
    · rename_i pending
      obtain ⟨t,operation,same,_,unfinished⟩ :=
        (guarded.directories workDir).creating e listed pending
      rw [← same]
      refine .creating workDir t operation ?_ ?_
      · rw [← told.entries workDir e t listed operation]
        exact named
      · intro denied
        rw [denied] at unfinished
        cases unfinished

variable {q : Pool W I}

theorem Attributed.matches (told : p.Attributed) (found : p.Matches identity q) :
    q.Attributed := by
  cases found with
  | merged q r retires => exact (told.changes retires.changes).mergeReceipt rfl retires.named
  | creating workDir t operation named undenied =>
    refine told.setReceipt (by rintro r ⟨⟩) ?_ ?_
    · rintro w token ⟨⟩
      exact told.present operation named
    · rintro w token ⟨⟩
      exact ⟨t,operation,rfl,undenied⟩
  | absent => exact told.endReceipt identity

/-- What a receipt retirement waits for has rejected. -/
def Refuses (p : Pool W I) (identity : I) : Prop :=
  (∃ workDir token,
    (p.receiptRetirements.get identity = some (.awaitingTransition workDir token) ∨
      p.receiptRetirements.get identity = some (.awaitingCleanup workDir token)) ∧
    p.transitionOver workDir token = true ∧ token ∈ p.rejectedCleanups) ∨
  ∃ workDir t, p.receiptRetirements.get identity = some (.awaitingCreation workDir t.token) ∧
    p.sessionTransitions.get workDir = some t ∧ t.phase = .failing

inductive Resumes (p : Pool W I) (identity : I) : Pool W I → Prop where
  | idle : Resumes p identity p
  | matched (workDir : W) (token : Nat) (q : Pool W I)
      (waiting : p.receiptRetirements.get identity = some (.awaitingTransition workDir token))
      (over' : p.transitionOver workDir token = true) (found : p.Matches identity q) :
      Resumes p identity q
  | refused (phase : ReceiptRetirement W) (workDir : W) (token : Nat)
      (waiting : p.receiptRetirements.get identity = some phase)
      (awaits : phase.awaits = some (workDir,token)) (blamed : Refused p workDir)
      (refuses : p.Refuses identity) : Resumes p identity (p.setReceipt identity .failed)
  | created (workDir : W) (token : Nat) (q : Pool W I) (retirement : Nat)
      (waiting : p.receiptRetirements.get identity = some (.awaitingCreation workDir token))
      (retires : p.Retires q identity retirement) :
      Resumes p identity (q.setReceipt identity (.waiting retirement))
  | late (workDir : W) (token : Nat)
      (waiting : p.receiptRetirements.get identity = some (.awaitingCreation workDir token)) :
      Resumes p identity (p.setReceipt identity (.awaitingCleanup workDir token))
  | dropped (workDir : W) (token : Nat)
      (waiting : p.receiptRetirements.get identity = some (.awaitingCleanup workDir token))
      (over' : p.transitionOver workDir token = true) (cleaned : token ∉ p.rejectedCleanups) :
      Resumes p identity (p.endReceipt identity)
  | ended (phase : ReceiptRetirement W) (retirement : Nat)
      (waiting : p.receiptRetirements.get identity = some phase)
      (merged : phase.merged = some retirement) : Resumes p identity (p.endReceipt identity)
  | failed (phase : ReceiptRetirement W) (retirement : Nat)
      (waiting : p.receiptRetirements.get identity = some phase)
      (merged : phase.merged = some retirement) :
      Resumes p identity (p.setReceipt identity .failed)
  | releasing (phase : ReceiptRetirement W) (retirement : Nat)
      (waiting : p.receiptRetirements.get identity = some phase)
      (merged : phase.merged = some retirement) :
      Resumes p identity (p.setReceipt identity (.releasing retirement))

theorem Guarded.resumeReceipt_resumes (guarded : p.Guarded) (told : p.Attributed) (identity : I) :
    p.Resumes identity (p.resumeReceipt identity).1 := by
  unfold Pool.resumeReceipt
  split
  · exact .idle
  · exact .idle
  · rename_i w token waiting
    split
    · exact .idle
    rename_i over'
    have over' : p.transitionOver w token = true := by simpa using over'
    split
    · rename_i rejected
      have blamed := (told.awaiting identity _ w token waiting rfl).2.2 rejected
      exact .refused _ w token waiting rfl (.inl blamed) (.inl ⟨w,token,.inl waiting,over',rejected⟩)
    · exact .matched w token _ waiting over' (guarded.retireMatch_matches told identity)
  · rename_i w token waiting
    split
    · exact .idle
    rename_i t operation
    split
    · exact .idle
    rename_i same
    have same : t.token = token := not_not.mp same
    have named := ((told.awaiting identity _ w token waiting rfl).2.1 w t operation same).2
    split
    · rename_i session settled
      obtain ⟨q,r,retired,retires⟩ := guarded.retires_settled told operation settled named
      rw [retired]
      exact .created w token q r waiting retires
    · rename_i failing
      subst same
      exact .refused _ w _ waiting rfl (told.failing w t operation failing)
        (.inr ⟨w,t,waiting,operation,failing⟩)
    · split
      · exact .late w token waiting
      · exact .idle
  · rename_i w token waiting
    split
    · exact .idle
    rename_i over'
    have over' : p.transitionOver w token = true := by simpa using over'
    split
    · rename_i rejected
      have blamed := (told.awaiting identity _ w token waiting rfl).2.2 rejected
      exact .refused _ w token waiting rfl (.inl blamed) (.inl ⟨w,token,.inr waiting,over',rejected⟩)
    · rename_i cleaned
      exact .dropped w token waiting over' cleaned
  · rename_i r waiting
    split
    · exact .idle
    · exact .ended _ r waiting rfl
    · exact .failed _ r waiting rfl
    · exact .releasing _ r waiting rfl
  · rename_i r waiting
    split
    · exact .failed _ r waiting rfl
    · exact .ended _ r waiting rfl
    · exact .idle

theorem Attributed.resumes (told : p.Attributed) (resumes : p.Resumes identity q) : q.Attributed := by
  cases resumes with
  | idle => exact told
  | matched workDir token q waiting over' found => exact told.matches found
  | refused => exact told.failReceipt identity
  | created workDir token q r waiting retires =>
    exact (told.changes retires.changes).mergeReceipt rfl retires.named
  | late workDir token waiting =>
    refine told.setReceipt (by rintro r ⟨⟩) ?_ (by rintro w token ⟨⟩)
    rintro w token' ⟨⟩
    exact told.awaiting identity _ workDir token waiting rfl
  | dropped => exact told.endReceipt identity
  | ended => exact told.endReceipt identity
  | failed => exact told.failReceipt identity
  | releasing phase r waiting merged =>
    exact told.mergeReceipt rfl (told.merged identity phase r waiting merged)

inductive Starts (p : Pool W I) (identity : I) : Pool W I → Prop where
  | waiting (workDir : W) (t : Transition I) (operation : p.sessionTransitions.get workDir = some t)
      (named : t.managedIdentity = some identity) :
      Starts p identity (p.setReceipt identity (.awaitingTransition workDir t.token))
  | matched (q : Pool W I)
      (free : ∀ w t, p.sessionTransitions.get w = some t → t.managedIdentity ≠ some identity)
      (found : p.Matches identity q) : Starts p identity q

theorem Guarded.retireManagedReceipt_starts (guarded : p.Guarded)
    (told : p.Attributed) (running : p.closed = false) (absent : p.receiptRetirements.get identity = none) :
    p.Starts identity (p.retireManagedReceipt identity).1 := by
  unfold Pool.retireManagedReceipt
  rw [running,absent]
  dsimp only
  rw [if_neg (by decide)]
  split
  · rename_i workDir t located
    have operation := get_eq_some.mpr (mem_of_find?_eq_some located)
    exact .waiting workDir t operation (by simpa using find?_some located)
  · rename_i free
    refine .matched _ ?_ (guarded.retireMatch_matches told identity)
    intro w t operation named
    have := find?_eq_none.mp free _ (get_eq_some.mp operation)
    simp [named] at this

theorem Attributed.starts (told : p.Attributed) (starts : p.Starts identity q) : q.Attributed := by
  cases starts with
  | waiting workDir t operation named =>
    refine told.setReceipt (by rintro r ⟨⟩) ?_ (by rintro w token ⟨⟩)
    rintro w token ⟨⟩
    exact told.present operation named
  | matched q free found => exact told.matches found

theorem receipts_retireManagedReceipt (present : p.closed = true ∨ (p.receiptRetirements.get identity).isSome) :
    (p.retireManagedReceipt identity).1 = p := by
  unfold retireManagedReceipt
  split
  · rfl
  rename_i running
  obtain ⟨phase,found⟩ := Option.isSome_iff_exists.mp (present.resolve_left running)
  rw [found]
  cases phase <;> rfl

/-- Other receipts are left alone. -/
theorem Matches.others (found : p.Matches identity q) (ne : i ≠ identity) :
    q.receiptRetirements.get i = p.receiptRetirements.get i := by
  cases found with
  | merged q r retires =>
    rw [← retires.receipts]
    exact get_set_ne _ _ ne
  | creating => exact get_set_ne _ _ ne
  | absent => exact get_delete_ne _ ne

theorem Matches.unfailed (found : p.Matches identity q) :
    q.receiptRetirements.get identity ≠ some .failed := by
  intro failed
  cases found with
  | merged | creating =>
    have kept := (get_set_self _ _ _).symm.trans failed
    cases kept
  | absent =>
    have gone := (get_delete_self _ _).symm.trans failed
    cases gone

theorem Starts.others (starts : p.Starts identity q) (ne : i ≠ identity) :
    q.receiptRetirements.get i = p.receiptRetirements.get i := by
  cases starts with
  | waiting => exact get_set_ne _ _ ne
  | matched _ _ found => exact found.others ne

theorem Resumes.others (resumes : p.Resumes identity q) (ne : i ≠ identity) :
    q.receiptRetirements.get i = p.receiptRetirements.get i := by
  cases resumes with
  | idle => rfl
  | matched _ _ _ _ _ found => exact found.others ne
  | refused | late | failed | releasing => exact get_set_ne _ _ ne
  | created _ _ q r _ retires =>
    rw [← retires.receipts]
    exact get_set_ne _ _ ne
  | dropped | ended => exact get_delete_ne _ ne

omit [DecidableEq I] in
theorem receipts_settlementRuns (p : Pool W I) (retirement : Nat) :
    (p.settlementRuns retirement).1.receiptRetirements = p.receiptRetirements := by
  unfold settlementRuns
  split
  · split
    · dsimp only
      unfold leaveRetirements
      split <;> rfl
    · rfl
    · rfl
  · rfl

/-- The events that neither end the pool nor concern a receipt or the handler of a dispose. -/
def Ordinary : Event W I → Prop
  | .shutdown | .retireManagedReceipt _ | .resumeReceipt _ | .settlementRuns _ => False
  | _ => True

theorem Guarded.changes_step (guarded : p.Guarded) (told : p.Attributed)
    (running : p.closed = false) (ordinary : Ordinary event) :
    p.Changes (SessionPool.step p event).1 := by
  cases event with
  | ensureSession w identity closed => exact guarded.changes_ensureSession told w identity closed
  | resume w => exact guarded.changes_resume told running w
  | unwind w => exact changes_unwind p w
  | startFactory w => exact guarded.changes_startFactory w
  | factoryResolves s => exact changes_factorySettles p s .live
  | factoryRejects s => exact changes_factorySettles p s .rejected
  | creationTimesOut w => exact changes_creationTimesOut p w
  | disposeFulfils r => exact told.changes_disposeSettles r true
  | disposeRejects r => exact told.changes_disposeSettles r false
  | boundedSettles r => exact guarded.changes_boundedSettles r
  | boundedTimesOut r => exact changes_boundedTimesOut p r
  | reapIdle idle => exact guarded.changes_reapIdle told idle
  | retireSession s => exact guarded.changes_retireSession told s
  | settlementRuns _ => exact ordinary.elim
  | retireManagedReceipt _ => exact ordinary.elim
  | resumeReceipt _ => exact ordinary.elim
  | shutdown => exact ordinary.elim

theorem Changes.closed (changes : p.Changes q) : q.closed = p.closed := by
  induction changes with
  | refl => rfl
  | tail _ change ih =>
    rw [← ih]
    cases change <;> rfl

theorem Matches.closed (found : p.Matches identity q) :
    q.closed = p.closed := by
  cases found with
  | merged q r retires => exact retires.changes.closed
  | creating => rfl
  | absent => rfl

theorem Resumes.closed (resumes : p.Resumes identity q) :
    q.closed = p.closed := by
  cases resumes with
  | matched _ _ _ _ _ found => exact found.closed
  | created _ _ q r _ retires => exact retires.changes.closed
  | _ => rfl

theorem Starts.closed (starts : p.Starts identity q) :
    q.closed = p.closed := by
  cases starts with
  | waiting => rfl
  | matched _ _ found => exact found.closed

/-- Only the shutdown closes the pool. -/
theorem running_step (guarded : p.Guarded) (told : p.Attributed)
    (running : p.closed = false) (open' : event ≠ .shutdown) :
    (SessionPool.step p event).1.closed = false := by
  by_cases ordinary : Ordinary event
  · exact (guarded.changes_step told running ordinary).closed.trans running
  cases event with
  | settlementRuns r =>
    refine Eq.trans ?_ running
    change (p.settlementRuns r).1.closed = p.closed
    unfold settlementRuns
    split
    · split
      · dsimp only
        unfold leaveRetirements
        split <;> rfl
      · rfl
      · rfl
    · rfl
  | resumeReceipt identity =>
    exact (guarded.resumeReceipt_resumes told identity).closed.trans running
  | retireManagedReceipt identity =>
    cases absent : p.receiptRetirements.get identity with
    | none => exact (guarded.retireManagedReceipt_starts told running absent).closed.trans running
    | some phase =>
      change (p.retireManagedReceipt identity).1.closed = false
      rw [receipts_retireManagedReceipt (.inr (by rw [absent]; rfl))]
      exact running
  | shutdown => exact absurd rfl open'
  | _ => exact absurd trivial ordinary

theorem Attributed.step (told : p.Attributed) (guarded : p.Guarded)
    (running : p.closed = false) (open' : event ≠ .shutdown) :
    (SessionPool.step p event).1.Attributed := by
  by_cases ordinary : Ordinary event
  · exact told.changes (guarded.changes_step told running ordinary)
  cases event with
  | settlementRuns r => exact told.settlementRuns r
  | resumeReceipt identity => exact told.resumes (guarded.resumeReceipt_resumes told identity)
  | retireManagedReceipt identity =>
    cases absent : p.receiptRetirements.get identity with
    | none => exact told.starts (guarded.retireManagedReceipt_starts told running absent)
    | some phase =>
      change (p.retireManagedReceipt identity).1.Attributed
      rw [receipts_retireManagedReceipt (.inr (by rw [absent]; rfl))]
      exact told
  | shutdown => exact absurd rfl open'
  | _ => exact absurd trivial ordinary

structure Running (p : Pool W I) : Prop where
  guarded : p.Guarded
  told : p.Attributed
  running : p.closed = false

theorem running_new (maxSessions : Nat) : (new maxSessions : Pool W I).Running :=
  ⟨guarded_new maxSessions,attributed_new maxSessions,rfl⟩

theorem Running.step (runs : p.Running)
    (open' : event ≠ .shutdown) : (SessionPool.step p event).1.Running :=
  ⟨runs.guarded.step event,runs.told.step runs.guarded runs.running open',
    running_step runs.guarded runs.told runs.running open'⟩

end GjcRemote.SessionPool.Pool
