import GjcRemote.ServiceCallsClose

/-! What holds of the ledger of handles after any sequence of calls, and what a pass that closes
handles leaves. -/
namespace GjcRemote.ServiceCalls

open PostOrder List

variable {s s' : Calls}

theorem Opens.fences (opens : Opens s s' entry) (edge : s'.Fences x y) :
    s.Fences x y ∨ (x ∈ entry.dependencies ∧ y = entry.handle) := by
  obtain ⟨e,member,own,depends⟩ := edge
  rw [opens.entries,mem_append] at member
  rcases member with old | new
  · obtain ⟨d,there,rfl⟩ := mem_map.mp old
    exact .inl ⟨d,there,by simpa using own,by simpa using depends⟩
  · rw [mem_singleton.mp new] at own depends
    exact .inr ⟨depends,own.symm⟩

/-- Nothing depends on a handle that is not in the ledger. -/
theorem Ledger.leads_nowhere (ledger : Ledger s) (fresh : x ∉ s.handles)
    (path : Relation.ReflTransGen s.Fences x y) : y = x := by
  induction path using Relation.ReflTransGen.head_induction_on with
  | refl => rfl
  | head edge _ _ =>
    obtain ⟨e,member,-,depends⟩ := edge
    exact absurd (ledger.tracked e member _ depends) fresh

theorem Opens.acyclic (opens : Opens s s' entry) (ledger : Ledger s) (acyclic : Acyclic s.Fences) :
    Acyclic s'.Fences := by
  refine acyclic.edges (fun x y edge => opens.fences edge) fun x depends path => ?_
  have same := ledger.leads_nowhere opens.fresh path
  exact opens.fresh (same ▸ opens.known x depends)

/-- No directory is published into one that depends on it. -/
def Op.Forward (s : Calls) : Op → Prop
  | .publish source destination native _ =>
    s.mayPublish source destination native → ¬ Relation.ReflTransGen s.Fences source destination
  | _ => True

def Forward (s : Calls) : List Op → Prop
  | [] => True
  | op :: rest => op.Forward s ∧ Forward (step s op).1 rest

def Op.Typed (s : Calls) : Op → Prop
  | .acquire resource readExisting arguments _ _ => s.Typed resource readExisting arguments
  | _ => True

def Typed (s : Calls) : List Op → Prop
  | [] => True
  | op :: rest => op.Typed s ∧ Typed (step s op).1 rest

theorem settle_sound (sound : Sound s) : Sound {s with settling := true} :=
  ⟨sound.ledger.relabel (g := id) ⟨fun _ => rfl,fun _ => rfl,fun _ => rfl,fun _ => rfl,fun _ _ => Iff.rfl⟩
    (map_id _).symm rfl,
    ⟨sound.attempts.spent,sound.attempts.made,sound.attempts.once⟩⟩

theorem step_sound (sound : Sound s) (op : Op) : Sound (step s op).1 := by
  cases op with
  | acquire resource readExisting arguments made native =>
    rcases acquire_cases sound.ledger resource readExisting arguments made native with same | ⟨entry,opens,-⟩
    · simpa only [step,same] using sound
    · exact sound.opens opens
  | publish source destination native confirmed => exact sound.publish source destination native confirmed
  | finish writer native => exact sound.finish writer native
  | close handle native => exact sound.close handle native
  | other native => exact sound
  | closeHandles handles native => exact (closeEach_closes native _ sound).sound
  | closeAll borrowed native => exact (closeEach_closes native _ (settle_sound sound)).sound

theorem run_sound (ops : List Op) : ∀ {s : Calls}, Sound s → Sound (run s ops) := by
  induction ops with
  | nil => exact fun sound => sound
  | cons op rest ih => exact fun sound => ih (step_sound sound op)

/-- In every run of calls the active locks nest: each depends on every one that was acquired before it, directly
or through others. -/
theorem locks_nested (ops : List Op) :
    (run .new ops).activeLocks.Pairwise (Relation.TransGen (run .new ops).Fences) :=
  ((run_sound ops new_sound).ledger.stacked.imp fun _ _ => .single).pairwise

theorem step_quiet (quiet : Quiet s) (sound : Sound s) (typed : op.Typed s) : Quiet (step s op).1 := by
  cases op with
  | acquire resource readExisting arguments made native =>
    rcases acquire_cases sound.ledger resource readExisting arguments made native with same | ⟨entry,opens,kinds⟩
    · simpa only [step,same] using quiet
    · exact quiet.opens sound opens (kinds typed)
  | publish source destination native confirmed =>
    rcases publish_cases sound.ledger source destination native confirmed with same | ⟨publishes,-⟩
    · simpa only [step,same] using quiet
    · exact quiet.publishes sound publishes
  | finish writer native => exact quiet.finish sound writer native
  | close handle native => exact quiet.close sound handle native
  | other native => exact quiet
  | closeHandles handles native => exact .closeEach native _ sound quiet
  | closeAll borrowed native => exact .closeEach native _ (settle_sound sound) ⟨quiet.writers,quiet.free⟩

theorem run_quiet (ops : List Op) : ∀ {s : Calls}, Quiet s → Sound s → Typed s ops → Quiet (run s ops) := by
  induction ops with
  | nil => exact fun quiet _ _ => quiet
  | cons op rest ih =>
    exact fun quiet sound typed => ih (step_quiet quiet sound typed.1) (step_sound sound op) typed.2

theorem step_acyclic (sound : Sound s) (acyclic : Acyclic s.Fences) (forward : op.Forward s) :
    Acyclic (step s op).1.Fences := by
  cases op with
  | acquire resource readExisting arguments made native =>
    rcases acquire_cases sound.ledger resource readExisting arguments made native with same | ⟨entry,opens,-⟩
    · simpa only [step,same] using acyclic
    · exact opens.acyclic sound.ledger acyclic
  | publish source destination native confirmed =>
    rcases publish_cases sound.ledger source destination native confirmed with same | ⟨publishes,may⟩
    · simpa only [step,same] using acyclic
    · exact acyclic.edges publishes.fences fun x same path => forward may (same ▸ path)
  | finish writer native =>
    rcases finish_cases sound.ledger writer native with same | ⟨entry,g,-,-,attempts,-⟩
    · simpa only [step,same] using acyclic
    · simpa only [step,attempts.fences] using acyclic
  | close handle native =>
    have closes := (close_closes sound handle native).1
    simpa only [step,closes.fences] using acyclic
  | other native => exact acyclic
  | closeHandles handles native =>
    have closes := closeEach_closes native (s.closeOrder handles) sound
    have same : (step s (.closeHandles handles native)).1.Fences = s.Fences := closes.fences
    exact same ▸ acyclic
  | closeAll borrowed native =>
    have closes := closeEach_closes native (Calls.closeOrder {s with settling := true}
      ((s.entries.filter fun e => e.handle ∉ borrowed).map fun e => some e.handle)) (settle_sound sound)
    have same : (step s (.closeAll borrowed native)).1.Fences = s.Fences := closes.fences
    exact same ▸ acyclic

theorem run_acyclic (ops : List Op) :
    ∀ {s : Calls}, Sound s → Acyclic s.Fences → Forward s ops → Acyclic (run s ops).Fences := by
  induction ops with
  | nil => exact fun _ acyclic _ => acyclic
  | cons op rest ih =>
    exact fun sound acyclic forward => ih (step_sound sound op) (step_acyclic sound acyclic forward.1) forward.2

theorem new_acyclic : Acyclic Calls.new.Fences := by
  intro x cycle
  obtain ⟨y,⟨e,member,-⟩,-⟩ := Relation.TransGen.head'_iff.mp cycle
  cases member

structure Report.Counts (report : Report) (s : Calls) : Prop where
  total : report.total = s.entries.length
  closed : report.closed = (s.entries.filter fun e => e.state = .closed).length
  blockedUnattempted : report.blockedUnattempted = (s.entries.filter fun e => e.state = .opened).length
  attemptedUnconfirmed :
    report.attemptedUnconfirmed = (s.entries.filter fun e => e.state = .attemptedUnconfirmed).length
  once : report.closed + report.blockedUnattempted + report.attemptedUnconfirmed = report.total
  failures : report.failures = ((s.entries.filter fun e => e.state ≠ .closed).map Entry.summary).take 8
  omittedFailures :
    report.failures.length + report.omittedFailures = report.blockedUnattempted + report.attemptedUnconfirmed

/-- Each state has its part of the entries. -/
theorem filter_states (entries : List Entry) :
    (entries.filter fun e => e.state = .closed).length + (entries.filter fun e => e.state ≠ .closed).length =
      entries.length ∧ (entries.filter fun e => e.state = .opened).length +
      (entries.filter fun e => e.state = .attemptedUnconfirmed).length =
        (entries.filter fun e => e.state ≠ .closed).length := by
  induction entries with
  | nil => exact ⟨rfl,rfl⟩
  | cons e rest ih =>
    obtain ⟨all,left⟩ := ih
    cases state : e.state <;> simp [state] at all left ⊢ <;> omega

theorem report_counts (s : Calls) : ∃ report, s.report = some report ∧ report.Counts s := by
  obtain ⟨all,left⟩ := filter_states s.entries
  have attempted : ((s.entries.filter fun e => e.state ≠ .closed).filter fun e => e.state = .attemptedUnconfirmed) =
      s.entries.filter fun e => e.state = .attemptedUnconfirmed := by
    rw [filter_filter]
    apply filter_congr
    intro e _
    cases state : e.state <;> simp
  unfold Calls.report projectServiceCleanupInternal
  simp only [attempted,length_map,length_take]
  rw [if_neg (by omega)]
  refine ⟨_,rfl,rfl,?_,?_,rfl,?_,rfl,?_⟩
  · simp only
    omega
  · simp only
    omega
  · simp only
    omega
  · simp only [length_take,length_map]
    omega

/-- After a pass a selected handle was attempted, or one that is not closed depends on it. -/
def Calls.Resolved (s : Calls) (selected : Entry → Prop) : Prop :=
  ∀ e ∈ s.entries, selected e → e.state ≠ .opened ∨ s.unresolved e.handle ≠ []

/-- Each handle is closed once, and in one pass all that nothing waits for. They are closed in the
order of what depends on them as long as no directory is opened with a writer as its lock, and no
cycle of dependencies arises as long as no directory is published into one that depends on it. -/
theorem handles_settled (ops : List Op) :
    let s := run .new ops
    (Typed .new ops → ∀ a ∈ s.attempts, a.unresolved = []) ∧
    s.attempts.Pairwise (fun a b => a.handle = b.handle → a.rejected = true) ∧
    (∀ e ∈ s.entries, e.state ≠ .opened → ∃ a ∈ s.attempts, a.handle = e.handle) ∧
    s.activeLocks = s.openLocks ∧
    (∃ report, s.report = some report ∧ report.Counts s) ∧
    (∀ handles native, (s.closeHandles handles native).1.Resolved fun e => some e.handle ∈ handles) ∧
    (∀ borrowed native, (s.closeAll borrowed native).1.Resolved fun e => e.handle ∉ borrowed) ∧
    (Forward .new ops → Acyclic s.Fences) := by
  intro s
  have sound : Sound s := run_sound ops new_sound
  refine ⟨fun typed => (run_quiet ops new_quiet new_sound typed).free,sound.attempts.once,sound.attempts.made,
    sound.ledger.locks,report_counts s,fun handles native e member selected =>
      closeHandles_passes sound handles native member selected,?_,run_acyclic ops new_sound new_acyclic⟩
  intro borrowed native e member own
  have settling := settle_sound sound
  refine closeHandles_passes settling _ native member ?_
  -- the entries are those from before
  have closes := closeEach_closes native (Calls.closeOrder {s with settling := true}
    ((s.entries.filter fun e => e.handle ∉ borrowed).map fun e => some e.handle)) settling
  have known : e.handle ∈ s.handles := by
    have same : (s.closeAll borrowed native).1.handles = s.handles := closes.handles
    rw [← same]
    exact mem_map_of_mem member
  obtain ⟨d,there,same⟩ := mem_map.mp known
  refine mem_map.mpr ⟨d,mem_filter.mpr ⟨there,?_⟩,congrArg some same⟩
  rw [same]
  exact decide_eq_true own

/-- An artifact is written into a directory, which is published, and all is closed but the
releases root. -/
def published : List Op := [.acquire .root false [] (some 0) none,.acquire .root false [] (some 1) none,
  .acquire .lock false [0] (some 2) none,
  .acquire .directory false [0,2] (some 3) none,
  .acquire .artifactWriter false [3,2] (some 4) none,
  .finish 4 none,
  .publish 3 1 none true,
  .closeAll [1] fun _ => none]

theorem published_settled : Acyclic (run .new published).Fences ∧
    (run .new published).attempts.map Attempt.handle = [4,3,2,0] ∧
    ∀ a ∈ (run .new published).attempts, a.unresolved = [] := by
  refine ⟨(handles_settled published).2.2.2.2.2.2.2 ?_,by decide,(handles_settled published).1 ?_⟩
  · -- only the writer depends on the directory, and nothing on the writer
    have directory : ∀ e ∈ (run .new (published.take 6)).entries, 3 ∈ e.dependencies → e.handle = 4 := by decide
    have writer : ∀ e ∈ (run .new (published.take 6)).entries, 4 ∉ e.dependencies := by decide
    refine ⟨trivial,trivial,trivial,trivial,trivial,trivial,fun _ path => ?_,trivial,trivial⟩
    rcases Relation.ReflTransGen.cases_head path with same | ⟨_,⟨e,member,rfl,depends⟩,onward⟩
    · cases same
    · rw [directory e member depends] at onward
      rcases Relation.ReflTransGen.cases_head onward with same | ⟨_,⟨d,there,_,further⟩,-⟩
      · cases same
      · exact writer d there further
  · refine ⟨?_,?_,?_,?_,?_,trivial,trivial,trivial,trivial⟩
    all_goals rintro _ ⟨⟩

/-- The first publication fails after it moved the directory, and the receipt of the second is
valid: each directory depends on the other. -/
def crossed : List Op := [.acquire .root false [] (some 0) none,.acquire .root false [] (some 1) none,
  .acquire .lock false [0] (some 2) none,
  .acquire .directory false [0,2] (some 3) none,
  .acquire .directory false [3,2] (some 4) none,
  .publish 4 1 (some ⟨some .manualCleanup,some 1,true⟩) false,
  .publish 3 4 none true]

/-- A directory is opened to be read with the writer as its lock argument; the writer is finished. -/
def mislocked : List Op := [.acquire .root false [] (some 0) none,.acquire .lock false [0] (some 1) none,
  .acquire .directory false [0,1] (some 2) none,
  .acquire .artifactWriter false [2,1] (some 3) none,
  .acquire .directory true [0,3] (some 4) none,
  .finish 3 none]

theorem crossed_cycle : (¬ ∀ ops, Acyclic (run .new ops).Fences) ∧
    ¬ ∀ ops, ∀ a ∈ (run .new ops).attempts, a.unresolved = [] := by
  constructor
  · intro acyclic
    have up : (run .new crossed).Fences 3 4 := by
      obtain ⟨member,own⟩ := get_some (s := run .new crossed) (x := 4) rfl
      exact ⟨_,member,own,by decide⟩
    have down : (run .new crossed).Fences 4 3 := by
      obtain ⟨member,own⟩ := get_some (s := run .new crossed) (x := 3) rfl
      exact ⟨_,member,own,by decide⟩
    exact acyclic crossed 3 (.tail (.single up) down)
  · intro free
    have attempt : (run .new mislocked).attempts = [⟨3,[4],false⟩] := rfl
    have none := free mislocked ⟨3,[4],false⟩ (by rw [attempt]; exact mem_cons_self)
    cases none

end GjcRemote.ServiceCalls
