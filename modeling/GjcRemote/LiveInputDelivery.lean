import GjcRemote.LiveInputOrder

/-! What the router does with the events of a whole run. -/
namespace GjcRemote.LiveInput

open List Router Runs
variable {E O F : Type}

def routed : List (Op E) → List E
  | [] => []
  | .route event :: rest => event :: routed rest
  | _ :: rest => routed rest

namespace Router

theorem sound_new (hooks : Hooks E O F) : (new : Router E O F).Sound hooks [] where
  fresh _ _ := rfl
  unborn _ _ := rfl
  scopes _ _ found := by cases found
  bound _ _ bound := by cases bound
  currentScope _ here := by cases here
  primary _ here := by cases here
  closed _ := rfl
  items _ _ _ _ _ member := by cases member
  tied _ _ _ _ _ member := by cases member
  delivered _ _ _ _ member := by cases member
  told _ _ _ _ member := by cases member
  counted := Perm.refl _
  sorted := List.Pairwise.nil
  ordered _ := ⟨[],[],rfl,Nat.zero_le 1,nofun,List.Pairwise.nil,nofun⟩

theorem step_stepped (sound : p.Sound hooks [])
    (quiet : p.Quiet) (keeps : p.resets op = false) :
    Stepped hooks p (step hooks p op) := by
  cases op with
  | openPrimary owner refusal => exact openPrimary_stepped sound quiet owner refusal
  | expectExecution token refusal => exact expectExecution_stepped sound quiet token refusal
  | forgetExecution token => exact forgetExecution_stepped sound token
  | bindExecution token scope promoted owner =>
    exact bindExecution_stepped sound quiet token scope promoted owner
  | finalTerminal c scope => exact finalTerminal_stepped sound quiet c scope
  | route event => exact route_stepped sound quiet event
  | gate name size => exact gate_stepped sound quiet name size
  | release refusal => exact release_stepped sound quiet keeps
  | close => cases keeps

theorem step_kept (sound : p.Sound hooks [])
    (quiet : p.Quiet) (op : Op E) : Kept hooks p (step hooks p op) := by
  cases keeps : p.resets op with
  | false => exact (step_stepped sound quiet keeps).kept
  | true =>
    cases op with
    | release refusal => exact release_kept sound quiet refusal
    | close => exact close_kept sound
    | _ => cases keeps

theorem arrived_openPrimary (p : Router E O F) (owner : Nat) (refusal : Option String) :
    (p.openPrimary owner refusal).1.arrived = p.arrived := by
  unfold openPrimary
  split
  · rfl
  · rename_i q retained
    exact (Same.retain retained).arrived

theorem arrived_expectExecution (p : Router E O F) (token : Nat) (refusal : Option String) :
    (p.expectExecution token refusal).1.arrived = p.arrived := by
  unfold expectExecution
  split
  · rfl
  · rename_i q retained
    exact (Same.retain retained).arrived

theorem arrived_release (p : Router E O F) (refusal : Option String) :
    (p.release refusal).1.arrived = p.arrived := by
  unfold release
  dsimp only
  split
  · rfl
  split
  · rfl
  split <;> rfl

theorem step_arrived (hooks : Hooks E O F) (p : Router E O F) (op : Op E) :
    (step hooks p op).1.arrived = p.arrived ++ routed [op] := by
  cases op with
  | route event => exact arrived_route hooks p event
  | openPrimary owner refusal =>
    exact (arrived_openPrimary p owner refusal).trans (append_nil _).symm
  | expectExecution token refusal =>
    exact (arrived_expectExecution p token refusal).trans (append_nil _).symm
  | forgetExecution token => exact (arrived_flushed hooks _ _).trans (append_nil _).symm
  | bindExecution token scope promoted owner =>
    exact (arrived_bindExecution hooks p token scope promoted owner).trans (append_nil _).symm
  | finalTerminal c scope =>
    exact (arrived_finalTerminal hooks p c scope).trans (append_nil _).symm
  | gate name size => exact (arrived_gate hooks p name size).trans (append_nil _).symm
  | release refusal => exact (arrived_release p refusal).trans (append_nil _).symm
  | close => exact (append_nil _).symm

end Router

theorem routed_cons (op : Op E) (rest : List (Op E)) : routed (op :: rest) = routed [op] ++ routed rest := by
  cases op <;> rfl

variable (hooks : Hooks E O F)

theorem arrived_run (ops : List (Op E)) (p : Router E O F) :
    (run (step hooks) p ops).arrived = p.arrived ++ routed ops := by
  induction ops generalizing p with
  | nil => exact (append_nil _).symm
  | cons op rest ih =>
    rw [Runs.run,ih,step_arrived,append_assoc,← routed_cons]

/-- Every state that calls lead to has right books and a quiet buffer. -/
theorem run_sound (sound : p.Sound hooks [] ∧ p.Quiet) (ops : List (Op E)) :
    (run (step hooks) p ops).Sound hooks [] ∧ (run (step hooks) p ops).Quiet :=
  @run_invariant _ _ _ (step hooks) (fun p => p.Sound hooks [] ∧ p.Quiet) (fun _ op sound =>
    have kept := step_kept sound.1 sound.2 op
    ⟨kept.sound,kept.quiet⟩) p sound ops

theorem sound_run (ops : List (Op E)) :
    (run hooks ops).Sound hooks [] ∧ (run hooks ops).Quiet :=
  run_sound hooks ⟨sound_new hooks,by rintro n e record target size ⟨⟩⟩ ops

/-- Bindings survive every call. -/
theorem bindings_run (sound : p.Sound hooks [] ∧ p.Quiet)
    (ops : List (Op E)) (bound : (p.records r).cohort = some c) :
    ((run (step hooks) p ops).records r).cohort = some c := by
  induction ops generalizing p with
  | nil => exact bound
  | cons op rest ih =>
    have kept := step_kept sound.1 sound.2 op
    exact ih ⟨kept.sound,kept.quiet⟩ (kept.bindings r c bound)

/-- A scope keeps its record until the last reference goes or the router closes. -/
theorem scopes_run (sound : p.Sound hooks [] ∧ p.Quiet)
    (ops : List (Op E)) (found : p.scopes.get key = some r) :
    (run (step hooks) p ops).scopes.get key = some r ∨
      ∃ visit ∈ visits (step hooks) p ops, visit.1.resets visit.2 := by
  induction ops generalizing p with
  | nil => exact .inl found
  | cons op rest ih =>
    cases keeps : p.resets op with
    | true => exact .inr ⟨(p,op),mem_cons_self,keeps⟩
    | false =>
      have stepped := step_stepped sound.1 sound.2 keeps
      rcases ih ⟨stepped.sound,stepped.quiet⟩ (stepped.follows.scopes key r found) with
        still | ⟨visit,member,resets⟩
      · exact .inl still
      · exact .inr ⟨visit,mem_cons_of_mem _ member,resets⟩

/-- In every run: bindings never change, and a scope keeps its record as long as the router
holds its scopes; what is delivered is a routed event, itself or as the buffer carried it, and
an event of a scope is delivered only to the run the scope is bound to; every routed event is in the books or in the buffer, once; one that went down with the
router did so in a call that threw; and the events of a scope are delivered in the order of
their arrival, but for the start event that bound it, which comes first. -/
theorem live_input_routing (hooks : Hooks E O F) (before after : List (Op E)) :
    let p := run hooks before
    let q := run hooks (before ++ after)
    let events := routed (before ++ after)
    (∀ r c, (p.records r).cohort = some c → (q.records r).cohort = some c) ∧
    (∀ key r, p.scopes.get key = some r → q.scopes.get key = some r ∨
      ∃ visit ∈ visits (step hooks) p after, visit.1.resets visit.2) ∧
    (∀ n c record e, (n,.delivered c record e) ∈ q.fates → (∃ event, events[n]? = some event ∧
        scopeKey (hooks.scope event) = (record.map fun r => (q.records r).key) ∧
        Carried hooks event e) ∧
      ∀ r, record = some r → (q.records r).cohort = some c) ∧
    (q.fates.map Prod.fst ++ arrivals q.buffer).Perm (List.range events.length) ∧
    (∀ op n, (n,.failed) ∈ (step hooks q op).1.fates →
      (n,.failed) ∈ q.fates ∨ ∃ fault, (step hooks q op).2 = .error fault) ∧
    ∀ r, ∃ start rest, deliveries r q.fates = start ++ rest ∧ start.length ≤ 1 ∧
      (∀ n ∈ start, ∃ event, events[n]? = some event ∧ (hooks.type event).starts) ∧
      rest.Pairwise (· < ·) := by
  intro p q events
  have sound := sound_run hooks before
  obtain ⟨sound',quiet⟩ := sound_run hooks (before ++ after)
  have reached : q = run (step hooks) p after := run_append _ _ _ _
  have books : q.arrived = events := arrived_run hooks (before ++ after) .new
  refine ⟨fun r c bound => ?_,fun key r found => ?_,fun n c record e member => ⟨?_,?_⟩,?_,
    fun op n member => ?_,fun r => ?_⟩
  · rw [reached]
    exact bindings_run hooks sound after bound
  · rw [reached]
    exact scopes_run hooks sound after found
  · rw [← books]
    exact sound'.told n c record e member
  · rintro r rfl
    exact (sound'.delivered n c r e member).1
  · have counted := sound'.counted
    rw [append_nil] at counted
    rw [← books]
    exact counted
  · cases answer : (step hooks q op).2 with
    | error fault => exact .inr ⟨fault,rfl⟩
    | ok v => exact .inl ((step_kept sound' quiet op).honest v answer n member)
  · obtain ⟨start,rest,split,short,starts,increasing,_⟩ := sound'.ordered r
    refine ⟨start,rest,split,short,fun n member => ?_,increasing⟩
    rw [← books]
    exact starts n member

def oneScope : Hooks EventType Unit Unit where
  type := id
  scope _ := some ⟨.string [97],.number (.int 0),.string [97]⟩
  continues _ := false
  classifyTerminal _ _ := ()
  sanitizeFailure _ := ()
  failed _ := .agentFailed
  snapshot event := some (event,2)

/-- The start event overtakes a message of its scope that arrived before it. -/
theorem start_overtakes :
    ¬∀ (hooks : Hooks EventType Unit Unit) (ops : List (Op EventType)) (r : Nat),
      (deliveries r (run hooks ops).fates).Pairwise (· < ·) := by
  intro ordered
  have inOrder := ordered oneScope [.openPrimary 0 none,.route .other,.route .agentStart] 0
  exact absurd (rel_of_pairwise_cons inOrder mem_cons_self) (by decide)

end GjcRemote.LiveInput
