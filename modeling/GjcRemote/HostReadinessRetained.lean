import GjcRemote.HostReadinessOrder

/-! What a host keeps of the frames of earlier connections for as long as their marks are
retained, and the order of all frames that it accepts. -/
namespace GjcRemote.HostReadiness

open Option Runs
open ReceiptBinding (Generation Hex64 OpaqueId ReceiptAuthority Proof)

variable {cfg : Config}

def AtLeast (f : Frame) (highWater : OrderedMap OpaqueId Generation) : Prop :=
  ∀ w, f.workspace = some w → ∃ mark, highWater.get w.1 = some mark ∧ w.2.value ≤ mark.value

structure Behind (f : Frame) (marks : Previous) (highWater : OrderedMap OpaqueId Generation) : Prop where
  socketGeneration : f.socketGeneration.value ≤ marks.socketGeneration.value
  observedAt : f.observedAt.value ≤ marks.observedAt.value
  workspace : AtLeast f highWater

/-- The host keeps marks of a frame that socket `n` brought. -/
structure Kept (n : Nat) (f : Frame) (s : Host) : Prop where
  authority : ∃ authority, s.authority = some authority ∧ Behind f authority.marks authority.highWater
  connection : ∀ state, s.readiness = some state → ∀ marks, state.marks = some marks →
    Behind f marks state.workspaceGenerationHighWater ∧
      (state.socket ≠ n → f.socketGeneration.value < marks.socketGeneration.value)

instance (s : Host) (mono : Clock) : Decidable (overdue s mono) :=
  match known : s.authority.bind Authority.offlineRetireAt with
  | none => isFalse fun ⟨_,_,there,at',_⟩ => by rw [there,bind_some,at'] at known; cases known
  | some retireAt => decidable_of_iff (retireAt ≤ mono) (by
      obtain ⟨authority,there,at'⟩ := bind_eq_some_iff.mp known
      simp [overdue,there,at'])

def Retained (s : Host) (call : Call) : Prop := call.event ≠ .close ∧ ¬ overdue s call.mono

/-- The frame is one of the host, not the receipt of a binding. -/
def OfHost (s : Host) (socket : Nat) (msg : Frame) : Prop :=
  ∀ state, s.stateOf socket = some state → state.bindingEnabled = true → msg.bindingId = none

theorem get_raised (fence : OrderedMap OpaqueId Generation) (msg : Frame) (workspaceId : OpaqueId) :
    (raised fence msg).get workspaceId = match msg.workspace with
      | none => fence.get workspaceId
      | some w => if workspaceId = w.1 then some w.2 else fence.get workspaceId := by
  rw [raised]
  cases msg.workspace with
  | none => rfl
  | some w => exact OrderedMap.get_set ..

variable {f : Frame}

theorem raised_atLeast (atLeast : AtLeast f fence)
    (current : msg.workspace.any (fun w => belowMark w.2 (fence.get w.1)) = false) :
    AtLeast f (raised fence msg) := by
  intro w own
  obtain ⟨mark,known,below⟩ := atLeast w own
  rw [get_raised]
  cases named : msg.workspace with
  | none => exact ⟨mark,known,below⟩
  | some w' =>
    by_cases same : w.1 = w'.1
    · rw [named,any_some,← same,known,belowMark,any_some,decide_eq_false_iff_not,Nat.not_lt] at current
      exact ⟨w'.2,if_pos same,below.trans current⟩
    · exact ⟨mark,(if_neg same).trans known,below⟩

theorem raised_self (fence : OrderedMap OpaqueId Generation) (f : Frame) : AtLeast f (raised fence f) := by
  intro w own
  rw [get_raised,own]
  exact ⟨w.2,if_pos rfl,Nat.le_refl _⟩

/-- What a commit retains is what the connection has. -/
theorem highWater_raised (marks : Previous) (bindingId : Option OpaqueId) (msg : Frame)
    (fence : OrderedMap OpaqueId Generation) (retireAt : Option Clock) (timer : Bool) (workspaceId : OpaqueId) :
    (Authority.highWater ⟨marks,bindingId,msg.workspace,raised fence msg,retireAt,timer⟩).get workspaceId =
      (raised fence msg).get workspaceId := by
  simp only [Authority.highWater]
  cases named : msg.workspace with
  | none => rfl
  | some w =>
    have own : (raised fence msg).get w.1 = some w.2 := by rw [get_raised,named]; exact if_pos rfl
    simp only [own,later,Nat.le_refl,if_true]
    rw [OrderedMap.get_set]
    split
    · next same => rw [same,own]
    · rfl

variable {s : Host}

theorem current_of_passes (passes : Passes s state msg receivedAt mono) :
    msg.workspace.any (fun w => belowMark w.2 ((fenceFor state (authorityFor s state mono)).get w.1)) =
      false := by
  have current := passes.current
  rw [replaysWorkspace] at current
  cases named : msg.workspace with
  | none => rfl
  | some w =>
    rw [named] at current
    simp only [any_some,Bool.or_eq_false_iff] at current ⊢
    exact current.1.2

/-- What a frame is checked against, when the host keeps marks of an earlier one. -/
theorem Kept.passes (kept : Kept n f s) (retained : Retained s call) (known : s.readiness = some state)
    (passes : Passes s state msg call.now call.mono) :
    AtLeast f (fenceFor state (authorityFor s state call.mono)) ∧
      f.socketGeneration.value ≤ msg.socketGeneration.value ∧
      (state.socket ≠ n → f.socketGeneration.value < msg.socketGeneration.value) ∧
      f.observedAt.value ≤ msg.observedAt.value := by
  cases marked : state.marks with
  | none =>
    obtain ⟨authority,there,behind⟩ := kept.authority
    have looked : authorityFor s state call.mono = some authority := by
      rw [authorityFor,marked]
      rcases getReadinessAuthority_cases s call.mono with same | ⟨expired,_⟩
      · rw [same]
        exact there
      · exact absurd expired retained.2
    have ahead := passes.ahead
    simp only [looked,any_some,replaysAuthority,Bool.or_eq_false_iff,decide_eq_false_iff_not,
      Nat.not_le,Nat.not_lt] at ahead
    have above := behind.socketGeneration
    have ordered := behind.observedAt
    refine ⟨?_,by omega,fun _ => by omega,by omega⟩
    rw [looked]
    exact behind.workspace
  | some marks =>
    obtain ⟨behind,apart⟩ := kept.connection state known marks marked
    have looked : authorityFor s state call.mono = none := by
      rw [authorityFor,marked]
      rfl
    have context := passes.context
    simp only [marked,isReadinessContextValid,map_some,all_some,Bool.and_eq_true,beq_iff_eq,
      Bool.not_eq_true',decide_eq_false_iff_not,Nat.not_lt] at context
    obtain ⟨⟨generation,_,ordered⟩,_⟩ := context
    rw [generation,looked]
    exact ⟨behind.workspace,behind.socketGeneration,apart,behind.observedAt.trans ordered⟩

/-- The marks that a commit leaves. -/
theorem commit_kept {call : Call}
    (atLeast : AtLeast f (raised (fenceFor state (authorityFor s state call.mono)) msg))
    (generation : f.socketGeneration.value ≤ msg.socketGeneration.value)
    (observed : f.observedAt.value ≤ msg.observedAt.value)
    (apart : state.socket ≠ n → f.socketGeneration.value < msg.socketGeneration.value)
    (passes : Passes s state msg call.now call.mono)
    (commit : Commits (s.getReadinessAuthority call.mono).1 state msg
      (fenceFor state (authorityFor s state call.mono)) result next) :
    Behind f msg.marks next.workspaceGenerationHighWater ∧ next.marks = some msg.marks ∧
      (next.socket ≠ n → f.socketGeneration.value < msg.socketGeneration.value) ∧
      (result.2 → ∃ authority, result.1.authority = some authority ∧
        Behind f authority.marks authority.highWater) := by
  have after := marksAfter_context passes.context
  refine ⟨⟨generation,observed,commit.highWater ▸ atLeast⟩,commit.marks.trans (congrArg some after),
    fun other => apart (commit.same.socket ▸ other),fun done => ?_⟩
  obtain ⟨bindingId,kept⟩ := commit.authority done
  refine ⟨_,kept,?_,?_,?_⟩
  · rw [after]
    exact generation
  · exact observed
  · intro w own
    obtain ⟨mark,known,below⟩ := atLeast w own
    exact ⟨mark,(highWater_raised ..).trans known,below⟩

theorem Retains.behind (retains : Retains s mono s') (within : ¬ overdue s mono)
    (authority : ∃ authority, s.authority = some authority ∧ Behind f authority.marks authority.highWater) :
    ∃ authority, s'.authority = some authority ∧ Behind f authority.marks authority.highWater := by
  obtain ⟨authority,known,behind⟩ := authority
  cases retains with
  | same kept => exact ⟨authority,kept.trans known,behind⟩
  | stamped authority' known' retireAt timer kept =>
    cases known.symm.trans known'
    exact ⟨_,kept,behind⟩
  | retired expired => exact absurd expired within

theorem KeepsReadiness.kept (keeps : KeepsReadiness s s')
    (kept : Kept n f s) : ∀ state, s'.readiness = some state → ∀ marks, state.marks = some marks →
      Behind f marks state.workspaceGenerationHighWater ∧
        (state.socket ≠ n → f.socketGeneration.value < marks.socketGeneration.value) := by
  intro next there marks marked
  obtain ⟨state,known,keeps⟩ := keeps next there
  rw [keeps.socket,keeps.highWater]
  exact kept.connection state known marks (keeps.marks.symm.trans marked)

theorem step_kept (kept : Kept n f s) (retained : Retained s call) :
    Kept n f (step cfg s call).1 := by
  have moves := @step_moves cfg s call
  generalize step cfg s call = result at moves ⊢
  cases moves with
  | keeps s' answer readiness authority registered unaccepted =>
    exact ⟨authority.behind retained.2 kept.authority,readiness.kept kept⟩
  | opens s' fresh authority registered =>
    refine ⟨authority.behind retained.2 kept.authority,fun next there marks marked => ?_⟩
    rw [(fresh next there).2.1] at marked
    cases marked
  | closes s' event gone registered => exact absurd event retained.1
  | receives state next msg socket answer event known enabled named context socket' enabled' marks highWater
      generation previous =>
    refine ⟨kept.authority,fun next' there marks' marked => ?_⟩
    cases there
    rw [socket',highWater]
    exact kept.connection state (stateOf_some known).2.1 marks' (marks ▸ marked)
  | commits state next msg socket result s' event known passes commit unnamed authority registered left =>
    obtain ⟨atLeast,generation,apart,observed⟩ :=
      kept.passes retained (stateOf_some known).2.1 passes
    obtain ⟨behind,marked,apart',stored⟩ := commit_kept (raised_atLeast atLeast (current_of_passes passes))
      generation observed apart passes commit
    refine ⟨?_,fun next' there marks' marked' => ?_⟩
    · rw [authority]
      cases done : result.2 with
      | true => exact stored done
      | false =>
        rw [commit.exhausted done]
        exact (looked_retains s call.mono).1.behind retained.2 kept.authority
    · obtain ⟨socket',_,marks'',highWater,_⟩ := left next' there
      cases (marks''.trans marked).symm.trans marked'
      rw [socket',highWater]
      exact ⟨behind,apart'⟩

/-- An accepted frame of the host leaves its marks. -/
theorem accepts_kept (accepts : Accepts cfg s call socket f) (ofHost : OfHost s socket f) :
    Kept socket f (step cfg s call).1 := by
  obtain ⟨event,answer⟩ := accepts
  have moves := @step_moves cfg s call
  generalize step cfg s call = result at moves answer ⊢
  cases moves with
  | keeps s' answer' readiness authority registered unaccepted => exact absurd answer unaccepted
  | opens => cases answer
  | closes => cases answer
  | receives state next msg socket' answer' event' known enabled named =>
    cases event.symm.trans event'
    rw [ofHost state known enabled] at named
    cases named
  | commits state next msg socket' result s' event' known passes commit unnamed authority registered left =>
    cases event.symm.trans event'
    have done : result.2 := by
      by_contra failed
      rw [if_neg failed] at answer
      cases answer
    have here := (stateOf_some known).2.2
    obtain ⟨behind,marked,apart,stored⟩ := commit_kept (raised_self _ f) (Nat.le_refl _) (Nat.le_refl _)
      (fun other => absurd here other) passes commit
    refine ⟨authority ▸ stored done,fun next' there marks' marked' => ?_⟩
    obtain ⟨socket'',_,marks'',highWater,_⟩ := left next' there
    cases (marks''.trans marked).symm.trans marked'
    rw [socket'',highWater]
    exact ⟨behind,apart⟩

/-- A frame of the host that is accepted where marks of an earlier one are kept. -/
theorem Kept.accepts (kept : Kept n f s)
    (retained : Retained s call) (accepts : Accepts cfg s call socket g) (ofHost : OfHost s socket g) :
    (socket ≠ n → f.socketGeneration.value < g.socketGeneration.value) ∧
      f.observedAt.value ≤ g.observedAt.value ∧
      ∀ w, f.workspace = some w → ∀ w', g.workspace = some w' → w'.1 = w.1 → w.2.value ≤ w'.2.value := by
  obtain ⟨event,answer⟩ := accepts
  have moves := @step_moves cfg s call
  generalize step cfg s call = result at moves answer
  cases moves with
  | keeps s' answer' readiness authority registered unaccepted => exact absurd answer unaccepted
  | opens => cases answer
  | closes => cases answer
  | receives state next msg socket' answer' event' known enabled named =>
    cases event.symm.trans event'
    rw [ofHost state known enabled] at named
    cases named
  | commits state next msg socket' result s' event' known passes =>
    cases event.symm.trans event'
    obtain ⟨_,there,here⟩ := stateOf_some known
    obtain ⟨atLeast,_,apart,observed⟩ := kept.passes retained there passes
    refine ⟨fun other => apart (here ▸ other),observed,fun w own w' own' same => ?_⟩
    obtain ⟨mark,marked,below⟩ := atLeast w own
    have current := current_of_passes passes
    rw [own',any_some,same,marked,belowMark,any_some,decide_eq_false_iff_not,Nat.not_lt] at current
    exact below.trans current

abbrev after (cfg : Config) (s : Host) (calls : List Call) : Host := run (step cfg) s calls

abbrev visits (cfg : Config) (s : Host) (calls : List Call) : List (Host × Call) :=
  Runs.visits (step cfg) s calls

structure InOrder (s s' : Host) (within : Prop) (m : Nat) (f : Frame) (n : Nat) (g : Frame) : Prop where
  connection : n = m → g.socketGeneration = f.socketGeneration ∧ f.revision.value < g.revision.value ∧
    f.observedAt.value ≤ g.observedAt.value
  reconnect : within → OfHost s m f → OfHost s' n g → n ≠ m →
    f.socketGeneration.value < g.socketGeneration.value
  observedAt : within → OfHost s m f → OfHost s' n g → f.observedAt.value ≤ g.observedAt.value
  workspace : within → OfHost s m f → OfHost s' n g → ∀ w, f.workspace = some w →
    ∀ w', g.workspace = some w' → w'.1 = w.1 → w.2.value ≤ w'.2.value

theorem step_registered (s : Host) (call : Call) : s.registered ≤ (step cfg s call).1.registered := by
  have moves := @step_moves cfg s call
  generalize step cfg s call = result at moves ⊢
  cases moves with
  | keeps s' answer readiness authority registered => exact registered.ge
  | opens s' fresh authority registered => exact (Nat.le_succ _).trans registered.ge
  | closes s' event gone registered => exact registered.ge
  | receives => exact Nat.le_refl _
  | commits state next msg socket result s' event known passes commit unnamed authority registered =>
    exact registered.ge

theorem run_kept (kept : Kept n f s)
    (retained : ∀ visit ∈ visits cfg s calls, Retained visit.1 visit.2) : Kept n f (after cfg s calls) := by
  induction calls generalizing s with
  | nil => exact kept
  | cons call rest ih =>
    rw [visits,Runs.visits,List.forall_mem_cons] at retained
    exact ih (step_kept kept retained.1) retained.2

/-- Any two frames that a host accepts are in order: all frames of one connection, and the
frames of the host across reconnects while the marks of the first are retained. -/
theorem accepted_frames_ordered (cfg : Config) (before between : List Call) (first second : Call)
    (m n : Nat) (f g : Frame) (accepted : Accepts cfg (after cfg .empty before) first m f)
    (accepted' : Accepts cfg (after cfg .empty (before ++ first :: between)) second n g) :
    InOrder (after cfg .empty before) (after cfg .empty (before ++ first :: between))
      (∀ visit ∈ visits cfg (step cfg (after cfg .empty before) first).1 (between ++ [second]),
        Retained visit.1 visit.2) m f n g := by
  have start : Numbered .empty := fun state known => nomatch known
  have numbered : Numbered (after cfg .empty before) :=
    run_invariant (fun s call (numbered : Numbered s) => @step_numbered cfg s numbered call) start before
  have split : after cfg .empty (before ++ first :: between) =
      after cfg (step cfg (after cfg .empty before) first).1 between := run_append ..
  rw [split] at accepted' ⊢
  generalize after cfg .empty before = s at *
  have later : (∀ visit ∈ visits cfg (step cfg s first).1 (between ++ [second]), Retained visit.1 visit.2) →
      OfHost s m f → Kept m f (after cfg (step cfg s first).1 between) ∧
        Retained (after cfg (step cfg s first).1 between) second := by
    intro within ofHost
    rw [visits,Runs.visits_append,List.forall_mem_append] at within
    exact ⟨run_kept (accepts_kept accepted ofHost) within.1,within.2 _ List.mem_cons_self⟩
  constructor
  case connection =>
    rintro rfl
    obtain ⟨state,known,_,_,heard⟩ := accepts_moves accepted
    obtain ⟨_,there,here⟩ := stateOf_some known
    have remembers : Remembers n f (after cfg (step cfg s first).1 between) := by
      refine run_invariant
        (fun s call (remembers : Remembers n f s) => step_remembers remembers call) ⟨?_,?_⟩ between
      · exact (here ▸ numbered state there).trans_le (step_registered s first)
      · exact fun next there' _ => heard next there'
    obtain ⟨state',known',receipt,host,_⟩ := accepts_moves accepted'
    obtain ⟨_,there',here'⟩ := stateOf_some known'
    have heard' := remembers.heard state' there' here'
    cases enabled : state'.bindingEnabled with
    | true => exact heard'.receipt enabled (receipt enabled)
    | false => exact heard'.host enabled (host enabled)
  case reconnect =>
    intro within ofHost ofHost' other
    obtain ⟨kept,retained⟩ := later within ofHost
    exact (kept.accepts retained accepted' ofHost').1 other
  case observedAt =>
    intro within ofHost ofHost'
    obtain ⟨kept,retained⟩ := later within ofHost
    exact (kept.accepts retained accepted' ofHost').2.1
  case workspace =>
    intro within ofHost ofHost'
    obtain ⟨kept,retained⟩ := later within ofHost
    exact (kept.accepts retained accepted' ofHost').2.2

def hostFrame (generation : Generation) (stamp : Timestamp) : Frame :=
  ⟨generation,generationOne,stamp,none,some (numberedId 0,generation),none,.allFirst,none,none,none⟩

def frameOf (socket : Nat) (msg : Frame) : Call := sampleCall (.readiness socket (.frame msg))

/-- Within the window, across a reconnect. -/
theorem accepted_frames_ordered_reconnect :
    let f := hostFrame generationOne stampOne
    let g := hostFrame generationTwo stampTwo
    let reconnect := [sampleCall (.disconnect 0),sampleCall (.register .readiness)]
    let s := after sampleConfig .empty [sampleCall (.register .readiness)]
    let s' := after sampleConfig .empty ([sampleCall (.register .readiness)] ++ frameOf 0 f :: reconnect)
    Accepts sampleConfig s (frameOf 0 f) 0 f ∧ Accepts sampleConfig s' (frameOf 1 g) 1 g ∧
      f.socketGeneration.value < g.socketGeneration.value := by
  intro f g reconnect s s'
  have accepted : Accepts sampleConfig s (frameOf 0 f) 0 f := ⟨rfl,by decide⟩
  have accepted' : Accepts sampleConfig s' (frameOf 1 g) 1 g := ⟨rfl,by decide +kernel⟩
  have ordered := accepted_frames_ordered sampleConfig [sampleCall (.register .readiness)] reconnect
    (frameOf 0 f) (frameOf 1 g) 0 1 f g accepted accepted'
  refine ⟨accepted,accepted',ordered.reconnect ?_ (fun _ _ _ => rfl) ?_ (by decide)⟩
  · rintro visit (_ | ⟨_,_ | ⟨_,_ | ⟨_,⟨⟩⟩⟩⟩)
    · exact ⟨nofun,by decide +kernel⟩
    · exact ⟨nofun,by decide +kernel⟩
    · exact ⟨nofun,by decide +kernel⟩
  · exact fun _ _ _ => rfl

/-- The first answer to a binding: its inventory is not there yet. -/
def pendingFrame (bindingId : OpaqueId) (generation : Generation) (stamp : Timestamp) : Frame :=
  ⟨generation,generationOne,stamp,some INVENTORY_RECEIPT_TTL_MS,some (numberedId 0,generationOne),
    some bindingId,⟨true,.ready,.configured,.ready,.unknown⟩,some (.inventoryPending,stamp),none,none⟩

/-- A binding of the second connection may be answered with a lower generation and an earlier
observation than a binding of the first. -/
theorem receipt_restarts_generation :
    let f := pendingFrame (numberedId 0) generationTwo stampTwo
    let g := pendingFrame (numberedId 1) generationOne stampOne
    let opened := [sampleCall (.setManagedRoutes [sampleDescriptor 0]),sampleCall (.register .receipts)]
    let reconnect := [sampleCall (.disconnect 0),sampleCall (.register .receipts)]
    let s := after sampleConfig .empty opened
    let s' := after sampleConfig .empty (opened ++ frameOf 0 f :: reconnect)
    Accepts sampleConfig s (frameOf 0 f) 0 f ∧ Accepts sampleConfig s' (frameOf 1 g) 1 g ∧
      (∀ visit ∈ visits sampleConfig (step sampleConfig s (frameOf 0 f)).1 (reconnect ++ [frameOf 1 g]),
        Retained visit.1 visit.2) ∧
      ¬ f.socketGeneration.value < g.socketGeneration.value ∧
      ¬ f.observedAt.value ≤ g.observedAt.value := by
  intro f g opened reconnect s s'
  refine ⟨⟨rfl,by decide⟩,⟨rfl,by decide⟩,?_,by decide,by decide⟩
  rintro visit (_ | ⟨_,_ | ⟨_,_ | ⟨_,⟨⟩⟩⟩⟩)
  · exact ⟨nofun,by decide +kernel⟩
  · exact ⟨nofun,by decide +kernel⟩
  · exact ⟨nofun,by decide +kernel⟩

end GjcRemote.HostReadiness
