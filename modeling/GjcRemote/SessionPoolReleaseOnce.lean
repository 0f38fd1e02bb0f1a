import GjcRemote.SessionPoolRelease

/-! Over a whole run, each hold is called only once its session has been disposed of, at
most once, and is not lost. -/
namespace GjcRemote.SessionPool

open Callbacks List OrderedMap
open Pool hiding hold maxSessions new resumeReceipt retireManagedReceipt retireSession settlementRuns shutdown

variable {W I H : Type} [DecidableEq I] [DecidableEq H]

namespace HeldPool

structure Carries (s t : HeldPool W I H) (hold : H) : Prop where
  once : t.ledger.Once hold
  seen : s.ledger.Seen hold → t.ledger.Seen hold
  passed : ∀ owner, (hold,owner) ∈ t.passed → (hold,owner) ∈ s.passed ∨ t.ledger.Seen hold

variable {s : HeldPool W I H}

omit [DecidableEq I] in
theorem Carries.trans (first : s.Carries t hold)
    (second : t.Carries u hold) : s.Carries u hold where
  once := second.once
  seen := second.seen ∘ first.seen
  passed owner passed := by
    rcases second.passed owner passed with before | seen
    · exact (first.passed owner before).imp_right second.seen
    · exact .inr seen

omit [DecidableEq I] in
/-- Steps that leave the holds alone. -/
theorem Carries.same (once : s.ledger.Once hold)
    (ledger : t.ledger = s.ledger) (passed : t.passed = s.passed) : s.Carries t hold where
  once := by rw [ledger]; exact once
  seen seen := by rw [ledger]; exact seen
  passed owner given := .inl (by rw [passed] at given; exact given)

theorem Carries.follow (once : s.ledger.Once hold) (identity : I) :
    s.Carries (s.follow identity) hold := by
  have apart : ∀ r, Holder.receipt identity ≠ .retirement r := by rintro r ⟨⟩
  unfold HeldPool.follow
  split
  · rename_i r _
    exact ⟨once.transfer (apart r) _,fun seen => seen.transfer once (apart r) _,fun owner passed => .inl passed⟩
  · exact ⟨once.release _,fun seen => seen.release once _,fun owner passed => .inl passed⟩
  · exact .same once rfl rfl

/-- Holds are deposited with a holder, which may have been renewed before. -/
theorem Carries.deposit {ledger : Ledger (Holder I) H} (once : ledger.Once hold)
    (kept : s.ledger.Seen hold → ledger.Seen hold) (fresh : hold ∈ holds → ¬ledger.Seen hold) {due : Bool}
    (result : t.ledger = ledger.depositAll holder due holds)
    (passed : t.passed = (s.pass owner holds).passed) : s.Carries t hold where
  once := by rw [result]; exact once.given fresh holder due
  seen seen := by rw [result]; exact (kept seen).depositAll holder due holds
  passed owner' given := by
    rw [passed] at given
    rcases mem_append.mp given with before | new
    · exact .inl before
    · obtain ⟨hold',inside,same⟩ := mem_map.mp new
      cases same
      rw [result]
      exact .inr (once.deposited holder due inside)

variable [DecidableEq W]

omit [DecidableEq H] [DecidableEq W] in
theorem Kept.passed (kept : s.Kept exempt)
    (seen : s.ledger.Seen hold) : ∃ owner, (hold,owner) ∈ s.passed := by
  rcases seen with called | ⟨holder,waits⟩
  · exact kept.called hold called
  · cases holder with
    | retirement r =>
      obtain ⟨_,owner,_,_,passed,_⟩ := kept.retirements r hold waits
      exact ⟨owner,passed⟩
    | receipt i => exact ⟨_,(kept.receipts i hold waits).1⟩
    | literal => exact absurd waits (kept.literal hold)

variable {c : Call W I H}

theorem Kept.carries (kept : s.Kept none) (once : s.ledger.Once hold)
    (fresh : hold ∈ c.holds → ∀ owner, (hold,owner) ∉ s.passed) : s.Carries (s.call c) hold := by
  obtain ⟨event,holds⟩ := c
  have unseen : hold ∈ holds → ¬s.ledger.Seen hold := by
    intro given seen
    obtain ⟨owner,passed⟩ := kept.passed seen
    exact fresh given owner passed
  cases event with
  | retireSession session =>
    change s.Carries (s.retireSession session holds) hold
    unfold HeldPool.retireSession
    dsimp only
    split
    · exact .deposit once id unseen rfl rfl
    · split
      · split
        · exact .deposit once id unseen rfl rfl
        · exact .same once rfl rfl
      · split
        · refine .deposit (once.renew .literal) (fun seen => seen.renew (kept.literal hold)) ?_ rfl rfl
          intro given seen
          apply unseen given
          rcases seen with called | ⟨other,waits⟩
          · exact .inl called
          · exact .inr ⟨other,(Ledger.waits_renew.mp waits).2⟩
        · exact .same once rfl rfl
  | retireManagedReceipt identity =>
    change s.Carries (s.retireManagedReceipt identity holds) hold
    unfold HeldPool.retireManagedReceipt
    dsimp only
    split
    · exact .same once rfl rfl
    split
    · have deposited : s.Carries ({s.pass (.receipt identity) holds with
          pool := (s.pool.retireManagedReceipt identity).1
          ledger := s.ledger.depositAll (.receipt identity) false holds} : HeldPool W I H) hold :=
        .deposit once id unseen rfl rfl
      split
      · rename_i r _
        have apart : Holder.receipt identity ≠ .retirement r := by rintro ⟨⟩
        exact deposited.trans ⟨deposited.once.transfer apart _,
          fun seen => seen.transfer deposited.once apart _,fun _ passed => .inl passed⟩
      · exact deposited
    · rename_i absent
      have empty : ¬s.ledger.Waits (.receipt identity) hold := by
        intro waits
        have present := (kept.receipts identity hold waits).2.2 (by rintro ⟨⟩)
        rw [absent] at present
        cases present
      have deposited : s.Carries ({s.pass (.receipt identity) holds with
          pool := (s.pool.retireManagedReceipt identity).1
          ledger := (s.ledger.renew (.receipt identity)).depositAll (.receipt identity) false holds
          merged := fun i => if i = identity then none else s.merged i
          missed := fun i => if i = identity then false else s.missed i} : HeldPool W I H) hold := by
        refine .deposit (once.renew _) (fun seen => seen.renew empty) ?_ rfl rfl
        intro given seen
        apply unseen given
        rcases seen with called | ⟨other,waits⟩
        · exact .inl called
        · exact .inr ⟨other,(Ledger.waits_renew.mp waits).2⟩
      exact deposited.trans (.follow deposited.once identity)
  | resumeReceipt identity =>
    rcases s.resumeReceipt_cases identity with ⟨_,_,_,followed⟩ | ⟨same,_⟩
    · change s.Carries (s.resumeReceipt identity) hold
      rw [followed]
      have moved : s.Carries {s with pool := (s.pool.resumeReceipt identity).1} hold :=
        .same once rfl rfl
      exact moved.trans (.follow moved.once identity)
    · change s.Carries (s.resumeReceipt identity) hold
      rw [same]
      exact .same once rfl rfl
  | disposeFulfils r =>
    obtain ⟨_,result,_⟩ := s.disposeFulfils_cases r
    change s.Carries (s.disposeFulfils r) hold
    rw [result]
    exact .same once rfl rfl
  | settlementRuns r =>
    change s.Carries (s.settlementRuns r) hold
    unfold HeldPool.settlementRuns
    dsimp only
    split
    · exact ⟨once.release _,fun seen => seen.release once _,fun _ passed => .inl passed⟩
    · exact .same once rfl rfl
  | _ => exact .same once rfl rfl

/-- The operation that a receipt waits for is still recorded. -/
def UnderWay (p : Pool W I) (phase : ReceiptRetirement W) : Prop :=
  ∃ w t, p.sessionTransitions.get w = some t ∧ phase.awaits = some (w,t.token)

/-- A hold that has not been called waits for a dispose that has not fulfilled, or whose
handler calls it; or it waits with its receipt, whose retirement goes on, or has failed and
no session of the receipt has been disposed of since it began. -/
def Waiting (s : HeldPool W I H) (hold : H) : Prop :=
  (∃ r x owner, s.ledger.Waits (.retirement r) hold ∧ s.pool.disposals.get r = some x ∧
    (hold,owner) ∈ s.passed ∧ Owns x owner ∧ x.state ≠ .retired ∧
    (x.settled = some true → hold ∈ (s.call ⟨.settlementRuns r,[]⟩).ledger.calls)) ∨
  ∃ i phase, s.ledger.Waits (.receipt i) hold ∧ (hold,.receipt i) ∈ s.passed ∧
    s.pool.receiptRetirements.get i = some phase ∧ phase.merged = none ∧
    (phase = .failed ∧ s.missed i = false ∨ UnderWay s.pool phase ∨ (step s.pool (.resumeReceipt i)).2 = .accepted)

/-- The handler of a fulfilled dispose calls what waits for it. -/
theorem settlementRuns_calls (guarded : s.pool.Guarded)
    (once : s.ledger.Once hold) (waits : s.ledger.Waits (.retirement r) hold)
    (found : s.pool.disposals.get r = some x) (state : x.state ≠ .retired) (settled : x.settled = some true) :
    hold ∈ (s.call ⟨.settlementRuns r,[]⟩).ledger.calls := by
  have ok := (guarded.directories x.workDir).disposals r x (disposal_eq_some.mpr ⟨found,rfl⟩)
  have pending : x.state = .pending := by
    cases kind : x.state with
    | pending => rfl
    | retired => exact absurd kind state
    | failed =>
      have := ok.failed kind
      rw [settled] at this
      cases this
  have before : s.pool.stateOf r = some .pending := by simp [stateOf,found,pending]
  have after : (s.pool.settlementRuns r).1.stateOf r = some .retired := by
    unfold Pool.settlementRuns
    rw [found]
    dsimp only
    rw [pending,settled]
    simp [stateOf,disposals_leaveRetirements,setDisposal]
  change hold ∈ (s.settlementRuns r).ledger.calls
  unfold HeldPool.settlementRuns
  rw [if_pos ⟨before,after⟩]
  have uncalled : hold ∉ s.ledger.calls := fun called => once.apart called _ waits
  obtain ⟨fresh,calls,_,made,_⟩ :=
    s.ledger.depositAll_due (.retirement r) (s.ledger.places (.retirement r)).waiting
  change hold ∈ (s.ledger.depositAll (.retirement r) true _).calls
  rw [calls]
  exact mem_append_right _ ((made hold).mpr ⟨waits,fun old => uncalled (once.released _ old)⟩)

/-- No hold is left with a failed retirement that has missed a dispose. -/
def Unmissed (s : HeldPool W I H) : Prop :=
  ∀ i hold, s.ledger.Waits (.receipt i) hold →
    s.pool.receiptRetirements.get i = some .failed → s.missed i = false

theorem Kept.waiting_of_uncalled (kept : s.Kept none)
    (guarded : s.pool.Guarded) (told : s.pool.Attributed) (once : s.ledger.Once hold)
    (unmissed : s.Unmissed) (seen : s.ledger.Seen hold) : hold ∈ s.ledger.calls ∨ s.Waiting hold := by
  rcases seen with called | ⟨holder,waits⟩
  · exact .inl called
  refine .inr ?_
  cases holder with
  | literal => exact absurd waits (kept.literal hold)
  | retirement r =>
    obtain ⟨x,owner,found,state,passed,owns⟩ := kept.retirements r hold waits
    exact .inl ⟨r,x,owner,waits,found,passed,owns,state,settlementRuns_calls guarded once waits found state⟩
  | receipt i =>
    obtain ⟨passed,unmerged,present⟩ := kept.receipts i hold waits
    obtain ⟨phase,found⟩ := Option.isSome_iff_exists.mp (present (by rintro ⟨⟩))
    have plain : phase.merged = none := by
      cases merged : phase.merged with
      | none => rfl
      | some r =>
        rw [kept.waiting i phase r found merged] at unmerged
        cases unmerged
    refine .inr ⟨i,phase,waits,passed,found,plain,?_⟩
    -- an operation that has left its directory lets the receipt go on
    have goes : ∀ w token, phase.awaits = some (w,token) →
        UnderWay s.pool phase ∨ s.pool.transitionOver w token = true := by
      intro w token awaits
      cases operation : s.pool.sessionTransitions.get w with
      | none => exact .inr (by simp [transitionOver,operation])
      | some t =>
        by_cases same : t.token = token
        · exact .inl ⟨w,t,operation,by rw [same]; exact awaits⟩
        · exact .inr (by simp [transitionOver,operation,same])
    cases phase with
    | failed => exact .inl ⟨rfl,unmissed i hold waits found⟩
    | waiting r => cases plain
    | releasing r => cases plain
    | awaitingTransition w token =>
      refine .inr ((goes w token rfl).imp_right fun over' => ?_)
      change (s.pool.resumeReceipt i).2 = .accepted
      unfold Pool.resumeReceipt
      rw [found]
      dsimp only
      rw [over',if_neg (by decide)]
      split <;> rfl
    | awaitingCreation w token =>
      obtain ⟨t,operation,same,_⟩ := told.creating i w token found
      exact .inr (.inl ⟨w,t,operation,by rw [same]; rfl⟩)
    | awaitingCleanup w token =>
      refine .inr ((goes w token rfl).imp_right fun over' => ?_)
      change (s.pool.resumeReceipt i).2 = .accepted
      unfold Pool.resumeReceipt
      rw [found]
      dsimp only
      rw [over',if_neg (by decide)]
      split <;> rfl

/-- A receipt retirement fails where the dispose it follows has rejected, or where what it
waits for has. -/
theorem fails_cases {p : Pool W I} (runs : p.Running) (open' : event ≠ .shutdown)
    (failed : (step p event).1.receiptRetirements.get i = some .failed) :
    p.receiptRetirements.get i = some .failed ∨
      event = .resumeReceipt i ∧ ∃ phase, p.receiptRetirements.get i = some phase ∧
        ((∃ r, phase.merged = some r) ∨
          p.Refuses i ∧ ∃ w token, phase.awaits = some (w,token) ∧ Refused p w) := by
  obtain ⟨guarded,told,running⟩ := runs
  have stays : (step p event).1.receiptRetirements.get i = p.receiptRetirements.get i →
      p.receiptRetirements.get i = some .failed := fun same => same.symm.trans failed
  by_cases ordinary : Ordinary event
  · exact .inl (stays (by rw [(guarded.changes_step told running ordinary).receipts]))
  cases event with
  | settlementRuns r => exact .inl (stays (by rw [← receipts_settlementRuns p r]; rfl))
  | retireManagedReceipt j =>
    change (p.retireManagedReceipt j).1.receiptRetirements.get i = _ at failed
    cases present : p.receiptRetirements.get j with
    | some other =>
      rw [receipts_retireManagedReceipt (.inr (by rw [present]; rfl))] at failed
      exact .inl failed
    | none =>
      have starts := guarded.retireManagedReceipt_starts told running present
      by_cases here : i = j
      · subst here
        generalize (p.retireManagedReceipt i).1 = q at starts failed
        cases starts with
        | waiting =>
          have kept := (get_set_self _ _ _).symm.trans failed
          cases kept
        | matched _ _ found => exact absurd failed found.unfailed
      · exact .inl ((starts.others here).symm.trans failed)
  | resumeReceipt j =>
    have resumes := guarded.resumeReceipt_resumes told j
    by_cases here : i = j
    · subst here
      change (p.resumeReceipt i).1.receiptRetirements.get i = some .failed at failed
      generalize (p.resumeReceipt i).1 = q at resumes failed
      cases resumes with
      | idle => exact .inl failed
      | matched _ _ _ _ _ found => exact absurd failed found.unfailed
      | refused phase w token waiting awaits blamed refuses =>
        exact .inr ⟨rfl,phase,waiting,.inr ⟨refuses,w,token,awaits,blamed⟩⟩
      | failed phase r waiting merged => exact .inr ⟨rfl,phase,waiting,.inl ⟨r,merged⟩⟩
      | created | late | releasing =>
        have kept := (get_set_self _ _ _).symm.trans failed
        cases kept
      | dropped | ended =>
        have gone := (get_delete_self _ _).symm.trans failed
        cases gone
    · exact .inl ((resumes.others here).symm.trans failed)
  | shutdown => exact absurd rfl open'
  | _ => exact absurd trivial ordinary

/-- A receipt retirement that still looks for its session fails only if no session came of
the operation it waits for. -/
theorem fails_refused {p : Pool W I} (runs : p.Running) (open' : event ≠ .shutdown)
    (found : p.receiptRetirements.get i = some phase) (awaits : phase.awaits = some (w,token))
    (failed : (step p event).1.receiptRetirements.get i = some .failed) : Refused p w := by
  rcases fails_cases runs open' failed with before | ⟨_,phase',found',why⟩
  · rw [found] at before
    cases before
    cases awaits
  rw [found] at found'
  cases found'
  rcases why with ⟨r,merged⟩ | ⟨_,w',token',awaits',blamed⟩
  · cases phase <;> simp [ReceiptRetirement.awaits,ReceiptRetirement.merged] at awaits merged
  · rw [awaits] at awaits'
    cases awaits'
    exact blamed

structure Sound (s : HeldPool W I H) : Prop where
  runs : s.pool.Running
  kept : s.Kept none
  unmissed : s.Unmissed

omit [DecidableEq H] in
theorem sound_new (maxSessions : Nat) : (new maxSessions : HeldPool W I H).Sound :=
  ⟨running_new maxSessions,kept_new maxSessions,fun _ _ _ _ => rfl⟩

theorem running_call (runs : s.pool.Running) (open' : c.event ≠ .shutdown) : (s.call c).pool.Running := by
  rw [pool_call]
  exact runs.step open'

omit [DecidableEq W] in
theorem passed_follow (s : HeldPool W I H) (identity : I) :
    (s.follow identity).passed = s.passed := by
  unfold follow
  split <;> rfl

/-- Only the holds of the call are newly passed. -/
theorem passed_call (passed : (hold,owner) ∈ (s.call c).passed) :
    (hold,owner) ∈ s.passed ∨ hold ∈ c.holds := by
  obtain ⟨event,holds⟩ := c
  have given : ∀ owner', (hold,owner) ∈ (s.pass owner' holds).passed →
      (hold,owner) ∈ s.passed ∨ hold ∈ holds := by
    intro owner' passed
    rcases mem_append.mp passed with before | new
    · exact .inl before
    · obtain ⟨hold',inside,same⟩ := mem_map.mp new
      cases same
      exact .inr inside
  cases event with
  | retireSession session =>
    change (hold,owner) ∈ (s.retireSession session holds).passed at passed
    unfold HeldPool.retireSession at passed
    dsimp only at passed
    split at passed
    · exact given _ passed
    · split at passed
      · split at passed
        · exact given _ passed
        · exact .inl passed
      · split at passed
        · exact given _ passed
        · exact .inl passed
  | retireManagedReceipt identity =>
    change (hold,owner) ∈ (s.retireManagedReceipt identity holds).passed at passed
    unfold HeldPool.retireManagedReceipt at passed
    dsimp only at passed
    split at passed
    · exact .inl passed
    split at passed
    · split at passed <;> exact given _ passed
    · rw [passed_follow] at passed
      exact given _ passed
  | resumeReceipt identity =>
    change (hold,owner) ∈ (s.resumeReceipt identity).passed at passed
    rcases s.resumeReceipt_cases identity with ⟨_,_,_,followed⟩ | ⟨same,_⟩
    · rw [followed,passed_follow] at passed
      exact .inl passed
    · rw [same] at passed
      exact .inl passed
  | disposeFulfils r =>
    obtain ⟨_,result,_⟩ := s.disposeFulfils_cases r
    change (hold,owner) ∈ (s.disposeFulfils r).passed at passed
    rw [result] at passed
    exact .inl passed
  | settlementRuns r =>
    change (hold,owner) ∈ (s.settlementRuns r).passed at passed
    unfold HeldPool.settlementRuns at passed
    dsimp only at passed
    split at passed <;> exact .inl passed
  | _ => exact .inl passed

omit [DecidableEq W] in
theorem waits_follow (waits : (s.follow j).ledger.Waits (.receipt i) hold) :
    s.ledger.Waits (.receipt i) hold := by
  unfold follow at waits
  split at waits
  · rcases Ledger.waits_depositAll (Ledger.waits_clear.mp waits).2 with before | ⟨⟨⟩,_⟩
    exact before
  · rcases Ledger.waits_depositAll (Ledger.waits_clear.mp waits).2 with before | ⟨_,⟨⟩,_⟩
    exact before
  · exact waits

/-- Only the holds of its own retirement come to wait with a receipt. -/
theorem waits_call (waits : (s.call c).ledger.Waits (.receipt i) hold) :
    s.ledger.Waits (.receipt i) hold ∨ c.event = .retireManagedReceipt i ∧ hold ∈ c.holds := by
  obtain ⟨event,holds⟩ := c
  have elsewhere : ∀ (l : Ledger (Holder I) H) k due, k ≠ .receipt i →
      (l.depositAll k due holds).Waits (.receipt i) hold → l.Waits (.receipt i) hold := by
    intro l k due apart waits
    rcases Ledger.waits_depositAll waits with before | ⟨here,_⟩
    · exact before
    · exact absurd here.symm apart
  have given : ∀ (l : Ledger (Holder I) H) j, (l.depositAll (.receipt j) false holds).Waits (.receipt i) hold →
      l.Waits (.receipt i) hold ∨ (.retireManagedReceipt j : Event W I) = .retireManagedReceipt i ∧ hold ∈ holds := by
    intro l j waits
    rcases Ledger.waits_depositAll waits with before | ⟨here,_,inside⟩
    · exact .inl before
    · cases here
      exact .inr ⟨rfl,inside⟩
  cases event with
  | retireSession session =>
    change (s.retireSession session holds).ledger.Waits (.receipt i) hold at waits
    unfold HeldPool.retireSession at waits
    dsimp only at waits
    split at waits
    · exact .inl (elsewhere _ _ _ (by rintro ⟨⟩) waits)
    · split at waits
      · split at waits
        · exact .inl (elsewhere _ _ _ (by rintro ⟨⟩) waits)
        · exact .inl waits
      · split at waits
        · exact .inl (Ledger.waits_renew.mp (elsewhere _ _ _ (by rintro ⟨⟩) waits)).2
        · exact .inl waits
  | retireManagedReceipt j =>
    change (s.retireManagedReceipt j holds).ledger.Waits (.receipt i) hold at waits
    unfold HeldPool.retireManagedReceipt at waits
    dsimp only at waits
    split at waits
    · exact .inl waits
    split at waits
    · split at waits
      · rcases Ledger.waits_depositAll (Ledger.waits_clear.mp waits).2 with before | ⟨⟨⟩,_⟩
        exact given _ j before
      · exact given _ j waits
    · exact (given _ j (waits_follow waits)).imp_left fun before => (Ledger.waits_renew.mp before).2
  | resumeReceipt j =>
    change (s.resumeReceipt j).ledger.Waits (.receipt i) hold at waits
    rcases s.resumeReceipt_cases j with ⟨_,_,_,followed⟩ | ⟨same,_⟩
    · rw [followed] at waits
      have before := waits_follow waits
      exact .inl before
    · rw [same] at waits
      exact .inl waits
  | disposeFulfils r =>
    obtain ⟨_,result,_⟩ := s.disposeFulfils_cases r
    change (s.disposeFulfils r).ledger.Waits (.receipt i) hold at waits
    rw [result] at waits
    exact .inl waits
  | settlementRuns r =>
    change (s.settlementRuns r).ledger.Waits (.receipt i) hold at waits
    unfold HeldPool.settlementRuns at waits
    dsimp only at waits
    split at waits
    · rcases Ledger.waits_depositAll (Ledger.waits_clear.mp waits).2 with before | ⟨_,⟨⟩,_⟩
      exact .inl before
    · exact .inl waits
  | _ => exact .inl waits

omit [DecidableEq W] in
theorem missed_follow (s : HeldPool W I H) (identity : I) : (s.follow identity).missed = s.missed := by
  unfold follow
  split <;> rfl

/-- Only a dispose of a session of the receipt lets its retirement miss one. -/
theorem missed_call (missed : (s.call c).missed i = true) : s.missed i = true ∨
    ∃ r, c.event = .disposeFulfils r ∧ disposing s.pool r = some i := by
  obtain ⟨event,holds⟩ := c
  cases event with
  | disposeFulfils r =>
    obtain ⟨_,result,made⟩ := s.disposeFulfils_cases r
    change (s.disposeFulfils r).missed i = true at missed
    rw [result] at missed
    exact (made i missed).imp_right fun disposes => ⟨r,rfl,disposes⟩
  | retireSession session =>
    have same : (s.retireSession session holds).missed = s.missed := by
      unfold HeldPool.retireSession
      dsimp only
      split
      · rfl
      · split <;> split <;> rfl
    exact .inl (same ▸ missed)
  | retireManagedReceipt j =>
    change (s.retireManagedReceipt j holds).missed i = true at missed
    unfold HeldPool.retireManagedReceipt at missed
    dsimp only at missed
    split at missed
    · exact .inl missed
    split at missed
    · split at missed <;> exact .inl missed
    · rw [missed_follow] at missed
      dsimp only at missed
      split at missed
      · cases missed
      · exact .inl missed
  | resumeReceipt j =>
    have same : (s.resumeReceipt j).missed = s.missed := by
      rcases s.resumeReceipt_cases j with ⟨_,_,_,followed⟩ | ⟨same,_⟩
      · rw [followed]
        exact missed_follow _ _
      · rw [same]
    exact .inl (same ▸ missed)
  | settlementRuns r =>
    have same : (s.settlementRuns r).missed = s.missed := by
      unfold HeldPool.settlementRuns
      dsimp only
      split <;> rfl
    exact .inl (same ▸ missed)
  | _ => exact .inl missed

theorem Sound.unmissed_call (sound : s.Sound) (open' : c.event ≠ .shutdown)
    (unstranded : ¬s.Strands c) : (s.call c).Unmissed := by
  intro i hold waits failed
  rw [pool_call] at failed
  by_contra missed
  have missed := missed_call (Bool.not_eq_false _ ▸ missed)
  rcases fails_cases sound.runs open' failed with old | ⟨event,phase,found,why⟩
  · rcases waits_call waits with before | ⟨event,given⟩
    · rcases missed with earlier | ⟨r,event,now⟩
      · have unmissed := sound.unmissed i hold before old
        rw [earlier] at unmissed
        cases unmissed
      · exact unstranded ⟨i,.inl ⟨r,hold,event,now,old,before⟩⟩
    · rcases missed with earlier | ⟨r,other,_⟩
      · exact unstranded ⟨i,.inr (.inr ⟨event,earlier,old,ne_nil_of_mem given⟩)⟩
      · rw [event] at other
        cases other
  · rcases waits_call waits with before | ⟨other,_⟩
    · rcases why with ⟨r,merged⟩ | ⟨refuses,_⟩
      · -- a receipt that follows a dispose has handed its holds over
        have unmerged := (sound.kept.receipts i hold before).2.1
        rw [sound.kept.waiting i phase r found merged] at unmerged
        cases unmerged
      · rcases missed with earlier | ⟨r,other,_⟩
        · exact unstranded ⟨i,.inr (.inl ⟨hold,event,refuses,earlier,before⟩)⟩
        · rw [event] at other
          cases other
    · rw [event] at other
      cases other

theorem Sound.call (sound : s.Sound)
    (open' : c.event ≠ .shutdown) (holding : ¬s.Drops c) (seeing : ¬s.Overlooks c)
    (unstranded : ¬s.Strands c) : (s.call c).Sound ∧ s.Justified (s.call c) := by
  obtain ⟨guarded,told,running⟩ := sound.runs
  obtain ⟨kept,justified⟩ := sound.kept.call guarded told running open' holding seeing
  exact ⟨⟨running_call sound.runs open',kept,sound.unmissed_call open' unstranded⟩,justified⟩

/-- The steps of a run that let holds go astray do not happen. -/
def Regular (s : HeldPool W I H) (calls : List (Call W I H)) : Prop :=
  (∀ c ∈ calls, c.event ≠ .shutdown) ∧
    ∀ visit ∈ Runs.visits heldStep s calls,
      ¬visit.1.Drops visit.2 ∧ ¬visit.1.Overlooks visit.2 ∧ ¬visit.1.Strands visit.2

theorem Regular.head (regular : s.Regular (c :: rest)) : c.event ≠ .shutdown ∧
    (¬s.Drops c ∧ ¬s.Overlooks c ∧ ¬s.Strands c) ∧ (s.call c).Regular rest :=
  ⟨regular.1 c mem_cons_self,regular.2 (s,c) mem_cons_self,
    fun c' member => regular.1 c' (mem_cons_of_mem _ member),
    fun visit member => regular.2 visit (mem_cons_of_mem _ member)⟩

theorem Sound.run (sound : s.Sound) (regular : s.Regular calls) :
    (Runs.run heldStep s calls).Sound ∧ ∀ visit ∈ Runs.visits heldStep s calls, visit.1.Sound ∧
        visit.1.Justified (visit.1.call visit.2) := by
  induction calls generalizing s with
  | nil => exact ⟨sound,by simp [Runs.visits]⟩
  | cons c rest ih =>
    obtain ⟨open',⟨holding,seeing,unstranded⟩,later⟩ := regular.head
    obtain ⟨next,justified⟩ := sound.call open' holding seeing unstranded
    obtain ⟨final,each⟩ := ih next later
    refine ⟨final,fun visit member => ?_⟩
    rcases mem_cons.mp member with rfl | after
    · exact ⟨sound,justified⟩
    · exact each visit after

/-- A hold that is passed in one call of the run is neither doubled nor lost. -/
theorem Sound.run_once (sound : s.Sound) (once : s.ledger.Once hold)
    (seen : ∀ owner, (hold,owner) ∈ s.passed → s.ledger.Seen hold)
    (regular : s.Regular calls) (rare : calls.countP (fun c => hold ∈ c.holds) ≤ 1)
    (over' : ∀ owner, (hold,owner) ∈ s.passed → calls.countP (fun c => hold ∈ c.holds) = 0) :
    (Runs.run heldStep s calls).ledger.Once hold ∧ ∀ owner, (hold,owner) ∈ (Runs.run heldStep s calls).passed →
        (Runs.run heldStep s calls).ledger.Seen hold := by
  induction calls generalizing s with
  | nil => exact ⟨once,seen⟩
  | cons c rest ih =>
    obtain ⟨open',⟨holding,seeing,unstranded⟩,later⟩ := regular.head
    rw [countP_cons] at rare over'
    have fresh : hold ∈ c.holds → ∀ owner, (hold,owner) ∉ s.passed := by
      intro given owner passed
      have := over' owner passed
      simp [given] at this
    have carries := sound.kept.carries once fresh
    refine ih (sound.call open' holding seeing unstranded).1 carries.once ?_ later (by omega) ?_
    · intro owner passed
      rcases carries.passed owner passed with before | new
      · exact carries.seen (seen owner before)
      · exact new
    · intro owner passed
      rcases passed_call passed with before | given
      · have := over' owner before
        omega
      · rw [if_pos (by simpa using given)] at rare
        omega

end HeldPool

variable [DecidableEq W]

namespace HeldPool

omit [DecidableEq H] in
theorem Drops.resumes {s : HeldPool W I H} {c : Call W I H} (drops : s.Drops c) :
    ∃ i, c.event = .resumeReceipt i := by
  obtain ⟨i,_,_,_,event,_⟩ := drops
  exact ⟨i,event⟩

omit [DecidableEq H] in
theorem Overlooks.resumes {s : HeldPool W I H} {c : Call W I H} (overlooks : s.Overlooks c) :
    ∃ i, c.event = .resumeReceipt i := by
  obtain ⟨i,_,_,_,_,_,_,event,_⟩ := overlooks
  exact ⟨i,event⟩

end HeldPool

/-- The session is retired with a hold, and its dispose fulfils. -/
def retiredRun : List (Call Nat Nat Nat) :=
  [⟨.ensureSession (some 0) (some 5) false,[]⟩,⟨.startFactory 0,[]⟩,⟨.factoryResolves 0,[]⟩,
    ⟨.resume 0,[]⟩,⟨.resume 0,[]⟩,⟨.resume 0,[]⟩,⟨.retireSession 0,[7]⟩,⟨.disposeFulfils 0,[]⟩,
    ⟨.settlementRuns 0,[]⟩]

namespace HeldPool

structure Lost (s : HeldPool W I H) (identity : I) (hold : H) : Prop where
  uncalled : hold ∉ s.ledger.calls
  elsewhere : ∀ k, s.ledger.Waits k hold → k = .receipt identity
  stale : s.pool.receiptRetirements.get identity = none ∨ ¬s.ledger.Waits (.receipt identity) hold

omit [DecidableEq W] in
theorem follow_others (s : HeldPool W I H) (identity : I)
    (free : ¬s.ledger.Waits (.receipt identity) hold) :
    (hold ∈ (s.follow identity).ledger.calls → hold ∈ s.ledger.calls) ∧
      ∀ k, (s.follow identity).ledger.Waits k hold → s.ledger.Waits k hold := by
  unfold follow
  split
  · exact Ledger.move_others free _ _
  · exact Ledger.move_others free _ _
  · exact ⟨id,fun _ => id⟩

section

variable {s : HeldPool W I H} {identity : I} {hold : H} (lost : s.Lost identity hold)

include lost

omit [DecidableEq W] [DecidableEq H] in
/-- The ledger changes for others only, and so does the receipt's record. -/
theorem Lost.frame {t : HeldPool W I H} (calls : hold ∈ t.ledger.calls → hold ∈ s.ledger.calls)
    (waits : ∀ k, t.ledger.Waits k hold → s.ledger.Waits k hold)
    (receipts : t.pool.receiptRetirements.get identity = s.pool.receiptRetirements.get identity ∨
      ¬t.ledger.Waits (.receipt identity) hold) : t.Lost identity hold := by
  refine ⟨lost.uncalled ∘ calls,fun k here => lost.elsewhere k (waits k here),?_⟩
  rcases receipts with same | free
  · rw [same]
    exact lost.stale.imp_right fun free here => free (waits _ here)
  · exact .inr free

omit [DecidableEq W] [DecidableEq H] in
theorem Lost.unheld (r : Nat) : ¬s.ledger.Waits (.retirement r) hold := by
  intro waits
  cases lost.elsewhere _ waits

omit [DecidableEq W] [DecidableEq H] in
theorem Lost.unlisted (present : (s.pool.receiptRetirements.get i).isSome) :
    ¬s.ledger.Waits (.receipt i) hold := by
  intro waits
  cases lost.elsewhere _ waits
  rcases lost.stale with gone | free
  · rw [gone] at present
    cases present
  · exact free waits

theorem Lost.retireSession (ungiven : hold ∉ holds)
    (receipts : (s.retireSession session holds).pool.receiptRetirements.get identity =
      s.pool.receiptRetirements.get identity) : (s.retireSession session holds).Lost identity hold := by
  have given : ∀ (l : Ledger (Holder I) H) k due,
      (hold ∈ l.calls → hold ∈ s.ledger.calls) → (∀ k, l.Waits k hold → s.ledger.Waits k hold) →
      (hold ∈ (l.depositAll k due holds).calls → hold ∈ s.ledger.calls) ∧
        ∀ other, (l.depositAll k due holds).Waits other hold → s.ledger.Waits other hold := by
    intro l k due calls waits
    obtain ⟨calls',waits'⟩ := l.deposit_others k due ungiven
    exact ⟨calls ∘ calls',fun other again => waits _ (waits' other again)⟩
  have moved : (hold ∈ (s.retireSession session holds).ledger.calls → hold ∈ s.ledger.calls) ∧
      ∀ k, (s.retireSession session holds).ledger.Waits k hold → s.ledger.Waits k hold := by
    unfold HeldPool.retireSession
    dsimp only
    split
    · exact given s.ledger _ _ id fun _ => id
    · split
      · split
        · exact given s.ledger _ _ id fun _ => id
        · exact ⟨id,fun _ => id⟩
      · split
        · exact given _ _ _ id fun _ waits => (Ledger.waits_renew.mp waits).2
        · exact ⟨id,fun _ => id⟩
  exact lost.frame moved.1 moved.2 (.inl receipts)

theorem Lost.retireManagedReceipt (runs : s.pool.Running) (ungiven : hold ∉ holds) (j : I) :
    (s.retireManagedReceipt j holds).Lost identity hold := by
  obtain ⟨guarded,told,running⟩ := runs
  unfold HeldPool.retireManagedReceipt
  dsimp only
  rw [running,if_neg (by decide)]
  split
  · rename_i phase present
    have isSome : (s.pool.receiptRetirements.get j).isSome := by rw [present]; rfl
    rw [receipts_retireManagedReceipt (.inr isSome)]
    obtain ⟨calls,waits⟩ := s.ledger.deposit_others (.receipt j) false ungiven
    have free : ¬(s.ledger.depositAll (.receipt j) false holds).Waits (.receipt j) hold :=
      fun again => lost.unlisted isSome (waits _ again)
    split
    · obtain ⟨calls',waits'⟩ := Ledger.move_others free (.retirement _) _
      exact lost.frame (calls ∘ calls') (fun k again => waits k (waits' k again)) (.inl rfl)
    · exact lost.frame calls waits (.inl rfl)
  · rename_i absent
    obtain ⟨calls,waits⟩ := (s.ledger.renew (.receipt j)).deposit_others (.receipt j) false ungiven
    have renewed : ∀ k, (s.ledger.renew (.receipt j)).Waits k hold → k ≠ .receipt j ∧ s.ledger.Waits k hold :=
      fun _ => Ledger.waits_renew.mp
    have free : ¬((s.ledger.renew (.receipt j)).depositAll (.receipt j) false holds).Waits
        (.receipt j) hold := fun again => (renewed _ (waits _ again)).1 rfl
    obtain ⟨calls',waits'⟩ := follow_others {s.pass (.receipt j) holds with
      pool := (s.pool.retireManagedReceipt j).1
      ledger := (s.ledger.renew (.receipt j)).depositAll (.receipt j) false holds
      merged := fun i => if i = j then none else s.merged i
      missed := fun i => if i = j then false else s.missed i} j free
    refine lost.frame (calls ∘ calls') (fun k again => (renewed k (waits k (waits' k again))).2) ?_
    by_cases here : identity = j
    · rw [here]
      exact .inr fun again => free (waits' _ again)
    · rw [pool_follow]
      exact .inl ((guarded.retireManagedReceipt_starts told running absent).others here)

theorem Lost.resumeReceipt (runs : s.pool.Running) (j : I) : (s.resumeReceipt j).Lost identity hold := by
  have receipts : ∀ t : HeldPool W I H, t.pool = (s.pool.resumeReceipt j).1 →
      (∀ k, t.ledger.Waits k hold → s.ledger.Waits k hold) →
      (t.pool.receiptRetirements.get identity = s.pool.receiptRetirements.get identity ∨
        ¬t.ledger.Waits (.receipt identity) hold) := by
    intro t pool waits
    rw [pool]
    by_cases here : identity = j
    · rcases lost.stale with gone | free
      · left
        rw [here] at gone ⊢
        unfold Pool.resumeReceipt
        rw [gone]
        exact gone
      · exact .inr fun again => free (waits _ again)
    · exact .inl ((runs.guarded.resumeReceipt_resumes runs.told j).others here)
  rcases s.resumeReceipt_cases j with ⟨phase,found,_,followed⟩ | ⟨plain,_⟩
  · rw [followed]
    obtain ⟨calls,waits⟩ := follow_others {s with pool := (s.pool.resumeReceipt j).1} j
      (lost.unlisted (by rw [found]; rfl))
    exact lost.frame calls waits (receipts _ (pool_follow _ _) waits)
  · rw [plain]
    exact lost.frame id (fun _ => id) (receipts _ rfl fun _ => id)

theorem Lost.settlementRuns (r : Nat) : (s.settlementRuns r).Lost identity hold := by
  have receipts := receipts_settlementRuns s.pool r
  unfold HeldPool.settlementRuns
  dsimp only
  obtain ⟨calls,waits⟩ := Ledger.move_others (lost.unheld r) (.retirement r) true
  split
  · exact lost.frame calls waits (.inl (by rw [← receipts]; rfl))
  · exact lost.frame id (fun _ => id) (.inl (by rw [← receipts]))

/-- Nothing brings it back. -/
theorem Lost.call (runs : s.pool.Running) (open' : c.event ≠ .shutdown)
    (ungiven : hold ∉ c.holds) : (s.call c).Lost identity hold := by
  have same : Ordinary c.event → (s.call c).pool.receiptRetirements.get identity =
      s.pool.receiptRetirements.get identity := by
    intro ordinary
    rw [pool_call,(runs.guarded.changes_step runs.told runs.running ordinary).receipts]
  obtain ⟨event,holds⟩ := c
  cases event with
  | retireSession session => exact lost.retireSession ungiven (same trivial)
  | retireManagedReceipt j => exact lost.retireManagedReceipt runs ungiven j
  | resumeReceipt j => exact lost.resumeReceipt runs j
  | disposeFulfils r =>
    have receipts := same trivial
    obtain ⟨_,result,_⟩ := s.disposeFulfils_cases r
    change (s.disposeFulfils r).pool.receiptRetirements.get identity = _ at receipts
    change (s.disposeFulfils r).Lost identity hold
    rw [result] at receipts ⊢
    exact lost.frame id (fun _ => id) (.inl receipts)
  | settlementRuns r => exact lost.settlementRuns r
  | shutdown => exact absurd rfl open'
  | _ => exact lost.frame id (fun _ => id) (.inl (same trivial))

end

theorem Lost.run {s : HeldPool W I H} (lost : s.Lost identity hold) (runs : s.pool.Running)
    (plain : ∀ c ∈ calls, c.event ≠ .shutdown ∧ hold ∉ c.holds) :
    hold ∉ (Runs.run heldStep s calls).ledger.calls := by
  induction calls generalizing s with
  | nil => exact lost.uncalled
  | cons c rest ih =>
    obtain ⟨open',ungiven⟩ := plain c mem_cons_self
    exact ih (lost.call runs open' ungiven) (running_call runs open')
      fun c' member => plain c' (mem_cons_of_mem _ member)

theorem running_run {s : HeldPool W I H} (runs : s.pool.Running)
    (open' : ∀ c ∈ calls, c.event ≠ .shutdown) : (Runs.run heldStep s calls).pool.Running := by
  induction calls generalizing s with
  | nil => exact runs
  | cons c rest ih =>
    exact ih (running_call runs (open' c mem_cons_self)) fun c' member => open' c' (mem_cons_of_mem _ member)

end HeldPool

/-- One receipt is created in two directories. Its retirement first waits for the creation
that fails, then for the one that times out, whose session is disposed of late. -/
def droppedRun : List (Call Nat Nat Nat) :=
  [⟨.ensureSession (some 0) (some 5) false,[]⟩,⟨.startFactory 0,[]⟩,
    ⟨.ensureSession (some 1) (some 5) false,[]⟩,⟨.startFactory 1,[]⟩,
    ⟨.retireManagedReceipt 5,[7]⟩,⟨.factoryRejects 0,[]⟩,⟨.resume 0,[]⟩,⟨.resume 0,[]⟩,
    ⟨.resumeReceipt 5,[]⟩,⟨.creationTimesOut 1,[]⟩,⟨.resumeReceipt 5,[]⟩,⟨.unwind 1,[]⟩,
    ⟨.factoryResolves 1,[]⟩,⟨.resume 1,[]⟩,⟨.disposeFulfils 0,[]⟩,⟨.settlementRuns 0,[]⟩,
    ⟨.boundedSettles 0,[]⟩,⟨.resume 1,[]⟩,⟨.resume 1,[]⟩,⟨.resumeReceipt 5,[]⟩]

end GjcRemote.SessionPool
