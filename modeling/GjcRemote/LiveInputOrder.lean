import GjcRemote.LiveInputSound

/-! Every call keeps the books of the router right: what is routed is accounted for once,
goes only to the run its scope is bound to, and in the order of arrival behind the start
that bound the scope. -/
namespace GjcRemote.LiveInput

open List Option Router
variable {E O F : Type}

namespace Router

variable {p q : Router E O F}

theorem ownedCohort_congr (bindings : ∀ r, (q.records r).cohort = (p.records r).cohort)
    (owners : ∀ c, (q.states c).owner = (p.states c).owner) (primary : q.primary = p.primary)
    (target : Option Nat) : q.ownedCohort target = p.ownedCohort target := by
  unfold ownedCohort
  simp only [bindings,primary,owners]

theorem Quiet.congr (quiet : p.Quiet) (bindings : ∀ r, (q.records r).cohort = (p.records r).cohort)
    (owners : ∀ c, (q.states c).owner = (p.states c).owner) (primary : q.primary = p.primary)
    (buffer : q.buffer = p.buffer) : q.Quiet := by
  intro n e record target size
  rw [buffer,ownedCohort_congr bindings owners primary]
  exact quiet n e record target size

structure Recorded (hooks : Hooks E O F) (scope : Option Scope) (p : Router E O F)
    (line : List (Item E)) (q : Router E O F) (record : Option Nat) : Prop where
  sound : q.Sound hooks line
  bindings : ∀ r, (q.records r).cohort = (p.records r).cohort
  states : q.states = p.states
  follows : p.Follows q
  buffer : q.buffer = p.buffer
  primary : q.primary = p.primary
  currentScope : q.currentScope = p.currentScope
  closed : q.closed = p.closed
  nextCohort : q.nextCohort = p.nextCohort
  arrived : q.arrived = p.arrived
  fates : q.fates = p.fates
  live : ∀ r, record = some r → q.Live r
  key : scopeKey scope = record.map fun r => (q.records r).key

theorem Recorded.quiet {record : Option Nat} (recorded : Recorded hooks scope p line q record)
    (quiet : p.Quiet) : q.Quiet :=
  quiet.congr recorded.bindings (fun c => by rw [recorded.states]) recorded.primary recorded.buffer

theorem Sound.record {record : Option Nat} (sound : p.Sound hooks line)
    (made : p.record scope = .ok (q,record)) : Recorded hooks scope p line q record := by
  unfold Router.record at made
  split at made
  · cases made
    rename_i unscoped
    exact ⟨sound,fun _ => rfl,rfl,.refl p,rfl,rfl,rfl,rfl,rfl,rfl,rfl,by rintro r ⟨⟩,unscoped⟩
  rename_i key keyed
  split at made
  · rename_i r found
    cases made
    refine ⟨sound,fun _ => rfl,rfl,.refl p,rfl,rfl,rfl,rfl,rfl,rfl,rfl,?_,?_⟩
    · rintro s ⟨⟩
      exact ⟨key,found⟩
    · rw [keyed,map_some,(sound.scopes key r found).2]
  · rename_i absent
    split at made
    · cases made
    cases made
    have bindings : ∀ r, (if r = p.nextRecord then ScopeRecord.fresh key else p.records r :
        ScopeRecord O F).cohort = (p.records r).cohort := by
      intro r
      split
      · rename_i here
        rw [here,sound.fresh _ (Nat.le_refl _)]
        rfl
      · rfl
    have known : ∀ r, r < p.nextRecord →
        (if r = p.nextRecord then ScopeRecord.fresh key else p.records r) = p.records r := by
      intro r below
      rw [if_neg (Nat.ne_of_lt below)]
    have scopes : ∀ k r, p.scopes.get k = some r → (p.scopes.set key p.nextRecord).get k = some r := by
      intro k r found
      rw [OrderedMap.get_set,if_neg]
      · exact found
      · rintro rfl
        rw [absent] at found
        cases found
    have follows : p.Follows {p with
        scopes := p.scopes.set key p.nextRecord
        records := fun s => if s = p.nextRecord then .fresh key else p.records s
        nextRecord := p.nextRecord + 1} :=
      ⟨fun r c here => (bindings r).trans here,scopes⟩
    have tied : ∀ n e record, (∀ r, record = some r → r < p.nextRecord) → p.Tied hooks n e record →
        Tied hooks {p with
          records := fun s => if s = p.nextRecord then .fresh key else p.records s
          nextRecord := p.nextRecord + 1} n e record := by
      rintro n e record below ⟨event,arrived,same,carried⟩
      refine ⟨event,arrived,?_,carried⟩
      cases record with
      | none => exact same
      | some r =>
        rw [same]
        exact congrArg (some ∘ ScopeRecord.key) (known r (below r rfl)).symm
    refine ⟨⟨?_,sound.unborn,?_,?_,?_,sound.primary,sound.closed,?_,?_,?_,?_,sound.counted,
      sound.sorted,sound.ordered⟩,bindings,rfl,follows,rfl,rfl,rfl,rfl,rfl,rfl,rfl,?_,?_⟩
    · intro r beyond
      exact (bindings r).trans (sound.fresh r (Nat.le_of_succ_le beyond))
    · intro k r found
      rw [OrderedMap.get_set] at found
      split at found
      · rename_i here
        cases found
        rw [here]
        exact ⟨Nat.lt_succ_self _,by dsimp only; rw [if_pos rfl]; rfl⟩
      · obtain ⟨below,same⟩ := sound.scopes k r found
        exact ⟨Nat.lt_succ_of_lt below,by dsimp only; rw [known r below]; exact same⟩
    · intro r c here
      exact sound.bound r c ((bindings r).symm.trans here)
    · intro r here
      obtain ⟨k,found⟩ := sound.currentScope r here
      exact ⟨k,scopes k r found⟩
    · intro n e record target size member
      obtain ⟨aimed,live,active⟩ := sound.items n e record target size member
      refine ⟨aimed,fun t here => ?_,active⟩
      obtain ⟨k,found⟩ := live t here
      exact ⟨k,scopes k t found⟩
    · intro n e record target size member
      obtain ⟨aimed,live,_⟩ := sound.items n e record target size member
      refine tied n e record (fun r here => ?_) (sound.tied n e record target size member)
      obtain ⟨k,found⟩ := live r (aimed r here)
      exact (sound.scopes k r found).1
    · intro n c r e member
      obtain ⟨cohort,owner,below⟩ := sound.delivered n c r e member
      exact ⟨(bindings r).trans cohort,owner,Nat.lt_succ_of_lt below⟩
    · intro n c record e member
      refine tied n e record (fun r here => ?_) (sound.told n c record e member)
      rw [here] at member
      exact (sound.delivered n c r e member).2.2
    · rintro r ⟨⟩
      exact ⟨key,OrderedMap.get_set_self _ _ _⟩
    · rw [keyed,map_some]
      dsimp only
      rw [if_pos rfl]
      rfl

variable {hooks : Hooks E O F} {line : List (Item E)} {c : Nat}

/-- A scope that was not bound, or bound so already, is bound to a cohort. -/
theorem Sound.setCohort (sound : p.Sound hooks line) (live : p.Live r) (known : c < p.nextCohort)
    (free : (p.records r).cohort = none ∨ (p.records r).cohort = some c) :
    (p.setCohort r c).Sound hooks line := by
  obtain ⟨key,found⟩ := live
  have below := (sound.scopes key r found).1
  have cohorts : ∀ s, ((p.setCohort r c).records s).cohort =
      if s = r then some c else (p.records s).cohort := by
    intro s
    change (if s = r then _ else p.records s).cohort = _
    split <;> rfl
  have keys : ∀ s, ((p.setCohort r c).records s).key = (p.records s).key := by
    intro s
    change (if s = r then _ else p.records s).key = _
    split
    · rename_i here
      rw [here]
    · rfl
  have stays : ∀ s d, (p.records s).cohort = some d → ((p.setCohort r c).records s).cohort = some d := by
    intro s d here
    rw [cohorts]
    split
    · rename_i same
      rw [same] at here
      rcases free with free | free
      · rw [free] at here
        cases here
      · exact free.symm.trans here
    · exact here
  have tied : ∀ n e record, p.Tied hooks n e record → (p.setCohort r c).Tied hooks n e record := by
    rintro n e record ⟨event,arrived,same,carried⟩
    exact ⟨event,arrived,by simp only [keys]; exact same,carried⟩
  refine ⟨?_,sound.unborn,?_,?_,sound.currentScope,sound.primary,sound.closed,sound.items,?_,?_,?_,
    sound.counted,sound.sorted,sound.ordered⟩
  · intro s beyond
    rw [cohorts,if_neg]
    · exact sound.fresh s beyond
    · rintro rfl
      exact absurd below (Nat.not_lt.mpr beyond)
  · intro k s here
    obtain ⟨below,same⟩ := sound.scopes k s here
    exact ⟨below,(keys s).trans same⟩
  · intro s d here
    rw [cohorts] at here
    split at here
    · cases here
      exact known
    · exact sound.bound s d here
  · intro n e record target size member
    exact tied n e record (sound.tied n e record target size member)
  · intro n d s e member
    obtain ⟨cohort,owner,below⟩ := sound.delivered n d s e member
    exact ⟨stays s d cohort,owner,below⟩
  · intro n d record e member
    exact tied n e record (sound.told n d record e member)

theorem Follows.setCohort (free : (p.records r).cohort = none ∨ (p.records r).cohort = some c) :
    p.Follows (p.setCohort r c) := by
  refine ⟨fun s d here => ?_,fun _ _ => id⟩
  change (if s = r then _ else p.records s).cohort = _
  split
  · rename_i same
    rw [same] at here
    rcases free with free | free
    · rw [free] at here
      cases here
    · exact free.symm.trans here
  · exact here

theorem Sound.createCohort (sound : p.Sound hooks line) (owner : Option Nat) :
    (p.createCohort owner).Sound hooks line := by
  have owners : ∀ c, c < p.nextCohort → (p.createCohort owner).states c = p.states c := by
    intro c below
    exact if_neg (Nat.ne_of_lt below)
  refine ⟨sound.fresh,?_,sound.scopes,?_,sound.currentScope,?_,sound.closed,sound.items,
    sound.tied,?_,sound.told,sound.counted,sound.sorted,sound.ordered⟩
  · intro c beyond
    have here : (p.createCohort owner).states c = p.states c :=
      if_neg (Nat.ne_of_gt (Nat.lt_of_succ_le beyond))
    rw [here]
    exact sound.unborn c (Nat.le_of_succ_le beyond)
  · intro r c here
    exact Nat.lt_succ_of_lt (sound.bound r c here)
  · intro c here
    obtain ⟨below,owned⟩ := sound.primary c here
    exact ⟨Nat.lt_succ_of_lt below,by rw [owners c below]; exact owned⟩
  · intro n c r e member
    obtain ⟨cohort,owned,rest⟩ := sound.delivered n c r e member
    exact ⟨cohort,by rw [owners c (sound.bound r c cohort)]; exact owned,rest⟩

/-- A cohort without an owner is given one. -/
theorem Sound.setOwner (sound : p.Sound hooks line) (known : c < p.nextCohort) (owner : Nat) :
    (p.setOwner c owner).Sound hooks line := by
  have owned : ∀ d, (p.states d).owner.isSome → ((p.setOwner c owner).states d).owner.isSome := by
    intro d here
    change (if d = c then _ else p.states d).owner.isSome
    split
    · rfl
    · exact here
  refine ⟨sound.fresh,?_,sound.scopes,sound.bound,sound.currentScope,?_,sound.closed,sound.items,
    sound.tied,?_,sound.told,sound.counted,sound.sorted,sound.ordered⟩
  · intro d beyond
    change (if d = c then _ else p.states d).owner = none
    rw [if_neg]
    · exact sound.unborn d beyond
    · rintro rfl
      exact absurd known (Nat.not_lt.mpr beyond)
  · intro d here
    exact ⟨(sound.primary d here).1,owned d (sound.primary d here).2⟩
  · intro n d r e member
    obtain ⟨cohort,here,rest⟩ := sound.delivered n d r e member
    exact ⟨cohort,owned d here,rest⟩

/-- A call that returns or throws leaves sound books and nothing in the buffer that has an
owner; only a call that throws adds events that went down with the router. -/
structure Stepped (hooks : Hooks E O F) (p : Router E O F)
    (result : Router E O F × Except Fault (Option Nat)) : Prop where
  sound : result.1.Sound hooks []
  quiet : result.1.Quiet
  follows : p.Follows result.1
  honest : ∀ v, result.2 = .ok v → ∀ n, (n,.failed) ∈ result.1.fates → (n,.failed) ∈ p.fates

theorem Stepped.after (stepped : Stepped hooks q result)
    (follows : p.Follows q) (fates : ∀ n, (n,.failed) ∈ q.fates → (n,.failed) ∈ p.fates) :
    Stepped hooks p result :=
  ⟨stepped.sound,stepped.quiet,follows.trans stepped.follows,
    fun v fine n member => fates n (stepped.honest v fine n member)⟩

section

variable (sound : p.Sound hooks [])
include sound

/-- A call that changes neither wiring nor books. -/
theorem Stepped.same (quiet : p.Quiet) (same : p.Same q) (answer : Except Fault (Option Nat)) :
    Stepped hooks p (q,answer) :=
  ⟨same.sound sound,same.quiet quiet,same.follows,fun _ _ _ member => by
    rw [same.fates] at member
    exact member⟩

/-- The whole buffer is in line. -/
theorem Sound.emptied :
    p.emptied.Sound hooks p.buffer := by
  refine sound.relined 0 (fun _ => rfl) ?_ (fun r => ?_) ?_
  · rw [nil_append,append_nil]
  · rw [nil_append,append_nil]
  · intro n e record target size member
    exact ⟨e,size,by rw [append_nil]; exact member,id⟩

theorem Sound.flush (flushed : p.flush hooks = (q,fault)) :
    q.Sound hooks [] ∧ q.Quiet ∧ p.Follows q ∧
      (fault = none → ∀ n, (n,.failed) ∈ q.fates → (n,.failed) ∈ p.fates) := by
  unfold Router.flush at flushed
  split at flushed
  · rename_i shut
    cases flushed
    refine ⟨sound,fun n e record target size member => ?_,.refl p,fun _ _ => id⟩
    rw [sound.closed shut] at member
    cases member
  · rename_i running
    have rounded := flushItems_rounded sound.emptied (by intro n e record target size member; cases member)
      (Bool.eq_false_iff.mpr running)
    rw [flushed] at rounded
    exact ⟨rounded.sound,rounded.quiet,⟨rounded.follows.bindings,rounded.follows.scopes⟩,rounded.honest⟩

theorem flushed_stepped (value : Option Nat) :
    Stepped hooks p (p.flushed hooks value) := by
  unfold flushed
  split
  · rename_i q flushed
    obtain ⟨sound,quiet,follows,honest⟩ := sound.flush flushed
    exact ⟨sound,quiet,follows,fun _ _ => honest rfl⟩
  · rename_i q fault flushed
    obtain ⟨sound,quiet,follows,_⟩ := sound.flush flushed
    exact ⟨sound,quiet,follows,by rintro v ⟨⟩⟩

/-- A scope is bound where it may be, and the flush that follows makes the buffer quiet. -/
theorem bindOwned_stepped (live : p.Live r) (known : c < p.nextCohort) (token : Nat)
    (quiet : (p.records r).cohort ≠ none → (p.records r).cohort ≠ some c → p.Quiet) :
    Stepped hooks p (p.bindOwned hooks token r c) := by
  unfold bindOwned bind
  by_cases free : (p.records r).cohort = none ∨ (p.records r).cohort = some c
  · rw [if_pos free]
    have bound := sound.setCohort live known free
    have same : (p.setCohort r c).Same
        {p.setCohort r c with pending := (p.setCohort r c).pending.filter (· ≠ token)} :=
      ⟨fun _ => rfl,fun _ => rfl,fun _ => rfl,rfl,rfl,rfl,rfl,rfl,rfl,rfl,rfl,rfl⟩
    exact (flushed_stepped (same.sound bound) _).after
      ((Follows.setCohort free).trans same.follows) (fun _ => id)
  · rw [if_neg free]
    obtain ⟨bound,other⟩ := not_or.mp free
    exact .same sound (quiet bound other) (.refl p) _

end

/-- Nothing in the buffer leads to a cohort that is new, or to a new primary. -/
theorem Sound.quiet_older (sound : p.Sound hooks line) (quiet : p.Quiet)
    (bindings : ∀ r, (q.records r).cohort = (p.records r).cohort)
    (states : ∀ c, c < p.nextCohort → q.states c = p.states c) (buffer : q.buffer = p.buffer) :
    q.Quiet := by
  intro n e record target size member
  rw [buffer] at member
  have unowned := quiet n e record target size member
  obtain ⟨_,_,active⟩ := sound.items n e record target size (mem_append_left _ member)
  unfold ownedCohort at unowned ⊢
  cases target with
  | none =>
    obtain ⟨c,here⟩ := isSome_iff_exists.mp (active rfl)
    rw [here,filter_some,(sound.primary c here).2] at unowned
    cases unowned
  | some t =>
    dsimp only at unowned ⊢
    rw [bindings]
    cases aimed : (p.records t).cohort with
    | none => rfl
    | some c =>
      rw [aimed] at unowned
      rw [filter_some] at unowned ⊢
      rw [states c (sound.bound t c aimed)]
      exact unowned

theorem setBoundary_same (p : Router E O F) (r : Nat) : p.Same (p.setBoundary r) :=
  .setRecord p r rfl rfl

/-- The cohort before a record is one that a record is bound to. -/
theorem cohortUpTo_bound (p : Router E O F) (target : Nat) (line : List Nat) (cohort : Option Nat)
    (found : p.cohortUpTo target line cohort = some c) :
    cohort = some c ∨ ∃ r ∈ line, (p.records r).cohort = some c := by
  induction line generalizing cohort with
  | nil => cases found
  | cons r rest ih =>
    rw [cohortUpTo] at found
    have here : (if (p.records r).boundary then (p.records r).cohort else cohort) = some c →
        cohort = some c ∨ ∃ s ∈ r :: rest, (p.records s).cohort = some c := by
      intro chosen
      split at chosen
      · exact .inr ⟨r,mem_cons_self,chosen⟩
      · exact .inl chosen
    split at found
    · exact here found
    · rcases ih _ found with chosen | ⟨s,member,bound⟩
      · exact here chosen
      · exact .inr ⟨s,mem_cons_of_mem _ member,bound⟩

theorem cohortBefore_bound (found : p.cohortBefore target = some c) :
    ∃ r ∈ p.scopes.entries.map Prod.snd, (p.records r).cohort = some c := by
  rcases cohortUpTo_bound p target _ none found with ⟨⟨⟩⟩ | bound
  exact bound

theorem bindExecution_stepped (sound : p.Sound hooks [])
    (quiet : p.Quiet) (token : Nat) (scope : Option Scope) (promoted : Bool) (owner : Nat) :
    Stepped hooks p (p.bindExecution hooks token scope promoted owner) := by
  unfold bindExecution
  split
  · exact .same sound quiet (.refl p) _
  · rename_i q made
    have recorded := sound.record made
    exact ⟨recorded.sound,recorded.quiet quiet,recorded.follows,by rintro v ⟨⟩⟩
  rename_i q r made
  have recorded := sound.record made
  have live := recorded.live r rfl
  have quiet' := recorded.quiet quiet
  have stays : ∀ fault, Stepped hooks p (q,.error fault) := fun fault =>
    ⟨recorded.sound,quiet',recorded.follows,by rintro v ⟨⟩⟩
  have after : ∀ {result}, Stepped hooks q result → Stepped hooks p result := fun stepped =>
    stepped.after recorded.follows (fun n member => by rw [← recorded.fates]; exact member)
  split
  · split
    · split
      · exact stays _
      · rename_i c bound
        split
        · exact stays _
        · have known := recorded.sound.bound r c bound
          have owned := recorded.sound.setOwner known owner
          have same := setBoundary_same (q.setOwner c owner) r
          apply after
          refine (bindOwned_stepped (same.sound owned) live known token ?_).after
            ((⟨fun _ _ => id,fun _ _ => id⟩ : q.Follows (q.setOwner c owner)).trans same.follows)
            (fun _ => id)
          intro _ other
          exact absurd ((same.bindings r).trans bound) other
    · -- the new cohort is the owner's only claim to events so far
      have created := recorded.sound.createCohort none
      have known : q.nextCohort < (q.createCohort none).nextCohort := Nat.lt_succ_self _
      have owned := created.setOwner known owner
      have same := setBoundary_same ((q.createCohort none).setOwner q.nextCohort owner) r
      apply after
      refine (bindOwned_stepped (same.sound owned) live known token ?_).after
        ((⟨fun _ _ => id,fun _ _ => id⟩ :
          q.Follows ((q.createCohort none).setOwner q.nextCohort owner)).trans same.follows)
        (fun _ => id)
      intro _ _
      refine same.quiet (recorded.sound.quiet_older quiet' (fun _ => rfl) (fun c below => ?_) rfl)
      change (if c = q.nextCohort then _ else if c = q.nextCohort then _ else q.states c) = _
      rw [if_neg (Nat.ne_of_lt below),if_neg (Nat.ne_of_lt below)]
  · split
    · exact stays _
    · rename_i c found
      have known : c < q.nextCohort := by
        cases bound : (q.records r).cohort with
        | some d =>
          rw [bound] at found
          cases found
          exact recorded.sound.bound r c bound
        | none =>
          rw [bound] at found
          obtain ⟨s,_,bound'⟩ := cohortBefore_bound found
          exact recorded.sound.bound s c bound'
      exact after (bindOwned_stepped recorded.sound live known token (fun _ _ => quiet'))

theorem Same.retain (retained : p.retain refusal = .ok q) : p.Same q := by
  unfold Router.retain at retained
  split at retained
  · split at retained
    · cases retained
    · cases retained
      exact ⟨fun _ => rfl,fun _ => rfl,fun _ => rfl,rfl,rfl,rfl,rfl,rfl,rfl,rfl,rfl,rfl⟩
  · cases retained
    exact ⟨fun _ => rfl,fun _ => rfl,fun _ => rfl,rfl,rfl,rfl,rfl,rfl,rfl,rfl,rfl,rfl⟩

theorem openPrimary_stepped (sound : p.Sound hooks [])
    (quiet : p.Quiet) (owner : Nat) (refusal : Option String) :
    Stepped hooks p (p.openPrimary owner refusal) := by
  unfold openPrimary
  split
  · exact .same sound quiet (.refl p) _
  rename_i q retained
  have same := Same.retain retained
  have sound' := same.sound sound
  have created := sound'.createCohort (some owner)
  have older : ∀ c, c < q.nextCohort → (q.createCohort (some owner)).states c = q.states c :=
    fun c below => if_neg (Nat.ne_of_lt below)
  refine ⟨⟨created.fresh,created.unborn,created.scopes,created.bound,created.currentScope,?_,
    created.closed,?_,created.tied,created.delivered,created.told,created.counted,created.sorted,
    created.ordered⟩,
    sound'.quiet_older (same.quiet quiet) (fun _ => rfl) older rfl,
    ⟨same.follows.bindings,same.follows.scopes⟩,?_⟩
  · rintro c ⟨⟩
    refine ⟨Nat.lt_succ_self _,?_⟩
    change (if q.nextCohort = q.nextCohort then _ else q.states _).owner.isSome
    rw [if_pos rfl]
    rfl
  · intro n e record target size member
    obtain ⟨aimed,live,_⟩ := created.items n e record target size member
    exact ⟨aimed,live,fun _ => rfl⟩
  · intro v _ n member
    rw [← same.fates]
    exact member

theorem expectExecution_stepped (sound : p.Sound hooks [])
    (quiet : p.Quiet) (token : Nat) (refusal : Option String) :
    Stepped hooks p (p.expectExecution token refusal) := by
  unfold expectExecution
  split
  · exact .same sound quiet (.refl p) _
  · rename_i q retained
    refine .same sound quiet ((Same.retain retained).trans ?_) _
    exact ⟨fun _ => rfl,fun _ => rfl,fun _ => rfl,rfl,rfl,rfl,rfl,rfl,rfl,rfl,rfl,rfl⟩

theorem forgetExecution_stepped (sound : p.Sound hooks []) (token : Nat) :
    Stepped hooks p (p.forgetExecution hooks token) := by
  have same : p.Same {p with pending := p.pending.filter (· ≠ token)} :=
    ⟨fun _ => rfl,fun _ => rfl,fun _ => rfl,rfl,rfl,rfl,rfl,rfl,rfl,rfl,rfl,rfl⟩
  exact (flushed_stepped (same.sound sound) none).after same.follows (fun _ => id)

theorem Same.await (p : Router E O F) (r : Nat) : p.Same (p.await r) := by
  have asked : p.Same {p with awaited := p.awaited ++ [r]} :=
    ⟨fun _ => rfl,fun _ => rfl,fun _ => rfl,rfl,rfl,rfl,rfl,rfl,rfl,rfl,rfl,rfl⟩
  unfold Router.await
  dsimp only
  split
  · exact asked.trans ⟨fun _ => rfl,fun _ => rfl,fun _ => rfl,rfl,rfl,rfl,rfl,rfl,rfl,rfl,rfl,rfl⟩
  · exact asked.trans (.setRecord _ r rfl rfl)

theorem finalTerminal_stepped (sound : p.Sound hooks []) (quiet : p.Quiet) (c : Nat) (scope : Option Scope) :
    Stepped hooks p (p.finalTerminal hooks c scope) := by
  unfold finalTerminal
  split
  · exact .same sound quiet (.refl p) _
  rename_i known
  split
  · exact .same sound quiet (.refl p) _
  · rename_i q made
    have recorded := sound.record made
    exact ⟨recorded.sound,recorded.quiet quiet,recorded.follows,by rintro v ⟨⟩⟩
  rename_i q r made
  have recorded := sound.record made
  have stays : ∀ fault, Stepped hooks p (q,.error fault) := fun fault =>
    ⟨recorded.sound,recorded.quiet quiet,recorded.follows,by rintro v ⟨⟩⟩
  split
  · exact stays _
  split
  · exact stays _
  rename_i bound bind
  unfold Router.bind at bind
  split at bind
  · rename_i free
    cases bind
    have below : c < q.nextCohort := by
      rw [recorded.nextCohort]
      exact Nat.lt_of_not_le known
    have bound := recorded.sound.setCohort (recorded.live r rfl) below free
    have follows := recorded.follows.trans (Follows.setCohort free)
    split
    · rename_i s fault flushed
      obtain ⟨sound,quiet,later,_⟩ := bound.flush flushed
      exact ⟨sound,quiet,follows.trans later,by rintro v ⟨⟩⟩
    · rename_i s flushed
      obtain ⟨sound,quiet,later,honest⟩ := bound.flush flushed
      apply (Stepped.same sound quiet (.await s r) _).after (follows.trans later)
      intro n member
      rw [← recorded.fates]
      exact honest rfl n member
  · cases bind

theorem Sound.gateJoins (sound : p.Sound hooks []) (running : p.closed = false)
    (buffered : bufferEvent hooks p (.gate name size cohort) = .ok q) : q.Sound hooks [] := by
  obtain ⟨item,bytes,measured,rfl⟩ := bufferEvent_ok buffered
  obtain ⟨bytes',rfl⟩ := measure_gate measured
  refine sound.relined bytes (fun shut => ?_) ?_ (fun r => ?_) ?_
  · rw [running] at shut
    cases shut
  · rw [append_nil,append_nil,arrivals_append]
    exact append_nil _
  · rw [append_nil,append_nil,queued_append]
    exact append_nil _
  · intro n e record target size' member
    rw [append_nil] at member ⊢
    rcases mem_append.mp member with old | new
    · exact ⟨e,size',old,id⟩
    · cases mem_singleton.mp new

/-- What presenting a gate comes to. -/
theorem gate_cases (hooks : Hooks E O F) (p : Router E O F) (name : Nat) (size : Option Nat)
    {P : Router E O F × Except Fault (Option Nat) → Prop} (repeated : P (p,.ok none))
    (refused : ∀ fault, P (p,.error fault)) (presented : ∀ owner, P (p.present name owner,.ok none))
    (held : p.closed = false → ∀ cohort q,
      bufferEvent hooks p (.gate name size cohort) = .ok q → P (q.flushed hooks none)) :
    P (p.gate hooks name size) := by
  unfold gate
  dsimp only
  split
  · exact repeated
  split
  · exact presented none
  rename_i open'
  have running : p.closed = false := by
    cases shut : p.closed with
    | false => rfl
    | true =>
      rw [shut] at open'
      exact absurd rfl open'
  split
  · split
    · exact presented _
    · split
      · exact refused _
      · rename_i buffered
        exact held running _ _ buffered
  · split
    · exact refused _
    · rename_i buffered
      exact held running _ _ buffered

theorem gate_stepped (sound : p.Sound hooks []) (quiet : p.Quiet) (name : Nat) (size : Option Nat) :
    Stepped hooks p (p.gate hooks name size) := by
  apply gate_cases
  · exact .same sound quiet (.refl p) _
  · exact fun fault => .same sound quiet (.refl p) _
  · intro owner
    have same : p.Same (p.present name owner) :=
      ⟨fun _ => rfl,fun _ => rfl,fun _ => rfl,rfl,rfl,rfl,rfl,rfl,rfl,rfl,rfl,rfl⟩
    exact .same sound quiet same _
  · intro running cohort q buffered
    have joined := sound.gateJoins running buffered
    obtain ⟨item,bytes,_,rfl⟩ := bufferEvent_ok buffered
    exact (flushed_stepped joined none).after ⟨fun _ _ => id,fun _ _ => id⟩ (fun _ => id)

/-- The map of the scopes is emptied, with everything that leads to them. -/
theorem Sound.cleared (sound : p.Sound hooks [])
    (empty : p.buffer = []) (bindings : ∀ r, (q.records r).cohort = (p.records r).cohort)
    (keys : ∀ r, (q.records r).key = (p.records r).key) (states : q.states = p.states)
    (scopes : q.scopes = .empty) (buffer : q.buffer = []) (currentScope : q.currentScope = none)
    (primary : q.primary = none) (nextRecord : q.nextRecord = p.nextRecord)
    (nextCohort : q.nextCohort = p.nextCohort) (arrived : q.arrived = p.arrived)
    (fates : q.fates = p.fates) : q.Sound hooks [] where
  fresh r := by
    rw [nextRecord,bindings]
    exact sound.fresh r
  unborn c := by
    rw [nextCohort,states]
    exact sound.unborn c
  scopes key r found := by
    rw [scopes] at found
    cases found
  bound r c := by
    rw [bindings,nextCohort]
    exact sound.bound r c
  currentScope r here := by
    rw [currentScope] at here
    cases here
  primary c here := by
    rw [primary] at here
    cases here
  closed _ := buffer
  items n e record target size member := by
    rw [buffer] at member
    cases member
  tied n e record target size member := by
    rw [buffer] at member
    cases member
  delivered n c r e := by
    rw [fates,bindings,states,nextRecord]
    exact sound.delivered n c r e
  told n c record e := by
    rw [fates]
    intro member
    obtain ⟨event,here,same,carried⟩ := sound.told n c record e member
    exact ⟨event,by rw [arrived]; exact here,by simp only [keys]; exact same,carried⟩
  counted := by
    have counted := sound.counted
    rw [empty] at counted
    rw [fates,buffer,arrived]
    exact counted
  sorted := by
    rw [buffer]
    exact Pairwise.nil
  ordered r := by
    have ordered := sound.ordered r
    rw [empty,Ordered] at ordered
    rw [buffer,Ordered,fates,arrived]
    exact ordered

/-- What a call that may empty the map of the scopes leaves behind. -/
structure Kept (hooks : Hooks E O F) (p : Router E O F)
    (result : Router E O F × Except Fault (Option Nat)) : Prop where
  sound : result.1.Sound hooks []
  quiet : result.1.Quiet
  bindings : ∀ r c, (p.records r).cohort = some c → (result.1.records r).cohort = some c
  honest : ∀ v, result.2 = .ok v → ∀ n, (n,.failed) ∈ result.1.fates → (n,.failed) ∈ p.fates

theorem Stepped.kept (stepped : Stepped hooks p result) :
    Kept hooks p result :=
  ⟨stepped.sound,stepped.quiet,stepped.follows.bindings,stepped.honest⟩

/-- The call lets go of the last reference, or closes the router. -/
def resets (p : Router E O F) : Op E → Bool
  | .release none => p.references = 1 && !p.closed && p.buffer.isEmpty
  | .close => true
  | _ => false

theorem release_stepped (sound : p.Sound hooks [])
    (quiet : p.Quiet) (keeps : p.resets (.release refusal : Op E) = false) :
    Stepped hooks p (p.release refusal) := by
  have same : p.Same {p with references := p.references - 1} :=
    ⟨fun _ => rfl,fun _ => rfl,fun _ => rfl,rfl,rfl,rfl,rfl,rfl,rfl,rfl,rfl,rfl⟩
  unfold release
  dsimp only
  split
  · exact .same sound quiet same _
  rename_i last
  split
  · exact .same sound quiet same _
  rename_i nothing
  split
  · exact .same sound quiet same _
  · obtain ⟨zero,running⟩ := not_or.mp last
    have one : p.references = 1 := by
      omega
    unfold resets at keeps
    rw [one,Bool.eq_false_iff.mpr running,not_not.mp nothing] at keeps
    cases keeps

theorem release_kept (sound : p.Sound hooks []) (quiet : p.Quiet) (refusal : Option String) :
    Kept hooks p (p.release refusal) := by
  cases keeps : p.resets (.release refusal : Op E) with
  | false => exact (release_stepped sound quiet keeps).kept
  | true =>
    unfold resets at keeps
    split at keeps
    · rename_i same
      cases same
      simp only [Bool.and_eq_true,decide_eq_true_eq,Bool.not_eq_true',List.isEmpty_iff] at keeps
      obtain ⟨⟨one,running⟩,empty⟩ := keeps
      unfold release
      rw [if_neg (by rintro (other | shut); exact other (by rw [one]; rfl); rw [running] at shut; cases shut),
        if_neg (not_not.mpr empty)]
      refine ⟨sound.cleared empty (fun _ => rfl) (fun _ => rfl) rfl rfl rfl rfl rfl rfl rfl rfl rfl,?_,
        fun _ _ => id,fun _ _ _ => id⟩
      intro n e record target size member
      cases member
    · rename_i other
      cases other
    · cases keeps

theorem close_kept (sound : p.Sound hooks []) :
    Kept hooks p (p.close,.ok none) := by
  have dropped : (p.emptied.giveUp p.buffer (.dropped .closing)).Sound hooks [] :=
    sound.emptied.giveUp (by rintro _ _ _ ⟨⟩)
  have bindings : ∀ r, (p.close.records r).cohort = (p.records r).cohort := by
    intro r
    change (if _ then _ else _ : ScopeRecord O F).cohort = _
    split <;> rfl
  refine ⟨dropped.cleared rfl bindings (fun r => ?_) rfl rfl rfl rfl rfl rfl rfl rfl rfl,?_,
    fun r c here => (bindings r).trans here,?_⟩
  · change (if _ then _ else _ : ScopeRecord O F).key = _
    split <;> rfl
  · intro n e record target size member
    cases member
  · intro _ _ n member
    rcases mem_append.mp member with old | new
    · exact old
    · obtain ⟨m,_,same⟩ := mem_map.mp new
      cases same

theorem getElem_arrived {n : Nat} (here : p.arrived[n]? = some e) (event : E) :
    (p.arrived ++ [event])[n]? = some e := by
  rw [List.getElem?_append_left (List.getElem?_eq_some_iff.mp here).1]
  exact here

/-- The numbers in the books are those of earlier events. -/
theorem Sound.earlier (sound : p.Sound hooks line)
    (booked : n ∈ p.fates.map Prod.fst ++ arrivals (p.buffer ++ line)) : n < p.arrived.length :=
  mem_range.mp (sound.counted.mem_iff.mp booked)

section

variable {record : Option Nat}

theorem Tied.arriving (tied : p.Tied hooks n e record) (event : E) :
    Tied hooks {p with arrived := p.arrived ++ [event]} n e record := by
  obtain ⟨event',arrived,same⟩ := tied
  exact ⟨event',getElem_arrived arrived event,same⟩

/-- A routed event is in flight. -/
theorem Sound.arriving (sound : p.Sound hooks []) (active : p.primary.isSome) {record : Option Nat}
    (live : ∀ r, record = some r → p.Live r)
    (same : scopeKey (hooks.scope event) = record.map fun r => (p.records r).key) :
    ({p with arrived := p.arrived ++ [event]} : Router E O F).Sound hooks
      [⟨.event p.arrived.length event record record,0⟩] where
  fresh := sound.fresh
  unborn := sound.unborn
  scopes := sound.scopes
  bound := sound.bound
  currentScope := sound.currentScope
  primary := sound.primary
  closed := sound.closed
  items n e record' target size member := by
    rcases mem_append.mp member with waiting | new
    · exact sound.items n e record' target size (mem_append_left _ waiting)
    · cases mem_singleton.mp new
      exact ⟨fun _ => id,live,fun _ => active⟩
  tied n e record' target size member := by
    rcases mem_append.mp member with waiting | new
    · exact (sound.tied n e record' target size (mem_append_left _ waiting)).arriving event
    · cases mem_singleton.mp new
      exact ⟨event,getElem?_concat_length,same,.same⟩
  delivered := sound.delivered
  told n c record' e member := (sound.told n c record' e member).arriving event
  counted := by
    have counted := sound.counted
    rw [append_nil] at counted
    rw [arrivals_append,length_append,length_singleton,range_succ,← append_assoc]
    exact counted.append_right _
  sorted := by
    have sorted := sound.sorted
    rw [append_nil] at sorted
    rw [arrivals_append]
    refine pairwise_append.mpr ⟨sorted,pairwise_singleton _ _,fun n member m new => ?_⟩
    rw [mem_singleton.mp new]
    exact sound.earlier (mem_append_right _ (by rw [append_nil]; exact member))
  ordered r := by
    obtain ⟨start,rest,split,short,starts,increasing,behind⟩ := sound.ordered r
    refine ⟨start,rest,split,short,fun n member => ?_,increasing,fun n member m waits => ?_⟩
    · obtain ⟨e,arrived,type⟩ := starts n member
      exact ⟨e,getElem_arrived arrived event,type⟩
    · rw [queued_append] at waits
      rcases mem_append.mp waits with early | new
      · apply behind n member m
        rw [append_nil]
        exact early
      · -- the event in flight is the last that arrived
        rw [mem_singleton.mp (mem_arrivals_of_queued new)]
        have inside : n ∈ deliveries r p.fates := by
          rw [split]
          exact mem_append_right _ member
        obtain ⟨c,e,entry⟩ := mem_deliveries inside
        exact sound.earlier (mem_append_left _ (mem_map.mpr ⟨_,entry,rfl⟩))

/-- The event in flight is found to lead to a run. -/
theorem Sound.aimed (sound : p.Sound hooks [⟨.event n event record target',0⟩]) (active : p.primary.isSome)
    (aimed : ∀ r, record = some r → target = some r) (live : ∀ t, target = some t → p.Live t) :
    p.Sound hooks [⟨.event n event record target,0⟩] where
  fresh := sound.fresh
  unborn := sound.unborn
  scopes := sound.scopes
  bound := sound.bound
  currentScope := sound.currentScope
  primary := sound.primary
  closed := sound.closed
  items m e record' target' size member := by
    rcases mem_append.mp member with waiting | new
    · exact sound.items m e record' target' size (mem_append_left _ waiting)
    · cases mem_singleton.mp new
      exact ⟨aimed,live,fun _ => active⟩
  tied m e record' target' size member := by
    rcases mem_append.mp member with waiting | new
    · exact sound.tied m e record' target' size (mem_append_left _ waiting)
    · cases mem_singleton.mp new
      exact sound.tied n event record _ 0 (mem_append_right _ mem_cons_self)
  delivered := sound.delivered
  told := sound.told
  counted := by
    have counted := sound.counted
    rw [arrivals_append] at counted ⊢
    exact counted
  sorted := by
    have sorted := sound.sorted
    rw [arrivals_append] at sorted ⊢
    exact sorted
  ordered r := by
    obtain ⟨start,rest,split,short,starts,increasing,behind⟩ := sound.ordered r
    refine ⟨start,rest,split,short,starts,increasing,fun m member k waits => behind m member k ?_⟩
    rw [queued_append] at waits ⊢
    exact waits

/-- A routed event is booked at once. -/
theorem Sound.ignored (sound : p.Sound hooks []) (event : E)
    (undelivered : ∀ c record e, fate ≠ .delivered c record e) :
    (({p with arrived := p.arrived ++ [event]} : Router E O F).log p.arrived.length fate).Sound
      hooks [] where
  fresh := sound.fresh
  unborn := sound.unborn
  scopes := sound.scopes
  bound := sound.bound
  currentScope := sound.currentScope
  primary := sound.primary
  closed := sound.closed
  items := sound.items
  tied n e record target size member := (sound.tied n e record target size member).arriving event
  delivered n c r e member := by
    rcases mem_append.mp member with old | new
    · exact sound.delivered n c r e old
    · cases mem_singleton.mp new
      exact absurd rfl (undelivered c (some r) e)
  told n c record e member := by
    rcases mem_append.mp member with old | new
    · exact (sound.told n c record e old).arriving event
    · cases mem_singleton.mp new
      exact absurd rfl (undelivered c record e)
  counted := by
    have counted := sound.counted
    change ((p.fates ++ [(p.arrived.length,fate)]).map Prod.fst ++ arrivals (p.buffer ++ [])).Perm
      (range (p.arrived ++ [event]).length)
    rw [map_append,append_assoc,length_append,length_singleton,range_succ]
    refine Perm.trans ?_ (counted.append_right _)
    rw [append_assoc]
    exact Perm.append_left _ perm_append_comm
  sorted := sound.sorted
  ordered r := by
    obtain ⟨start,rest,split,short,starts,increasing,behind⟩ := sound.ordered r
    refine ⟨start,rest,?_,short,fun n member => ?_,increasing,behind⟩
    · change deliveries r (p.fates ++ [(_,fate)]) = _
      rw [deliveries_append,split]
      cases fate with
      | delivered c record e => exact absurd rfl (undelivered c record e)
      | dropped rule => exact append_nil _
      | failed => exact append_nil _
    · obtain ⟨e,arrived,type⟩ := starts n member
      exact ⟨e,getElem_arrived arrived event,type⟩

/-- Nothing was delivered of a scope that is not bound. -/
theorem Sound.undelivered (sound : p.Sound hooks line) (unbound : (p.records r).cohort = none) :
    deliveries r p.fates = [] := by
  apply eq_nil_iff_forall_not_mem.mpr
  intro n member
  obtain ⟨c,e,entry⟩ := mem_deliveries member
  have bound := (sound.delivered n c r e entry).1
  rw [unbound] at bound
  cases bound

/-- The start has bound its scope to a run with an owner, before anything of the scope was
delivered. -/
def Opens (p : Router E O F) (type : EventType) (record : Option Nat) : Prop :=
  ∃ r, record = some r ∧ type.starts ∧ deliveries r p.fates = [] ∧ (p.ownedCohort (some r)).isSome

structure Authorized (hooks : Hooks E O F) (type : EventType) (record : Option Nat)
    (line : List (Item E)) (p q : Router E O F) : Prop where
  sound : q.Sound hooks line
  follows : p.Follows q
  keys : ∀ r, (q.records r).key = (p.records r).key
  scopes : q.scopes = p.scopes
  currentScope : q.currentScope = p.currentScope
  arrived : q.arrived = p.arrived
  fates : q.fates = p.fates
  closed : q.closed = p.closed
  primary : q.primary = p.primary
  ready : q.Quiet ∨ q.Opens type record

theorem Authorized.same (sound : p.Sound hooks line) (quiet : p.Quiet)
    (same : p.Same q) : Authorized hooks type record line p q :=
  ⟨same.sound sound,same.follows,same.keys,same.scopes,same.currentScope,same.arrived,same.fates,
    same.closed,same.primary,.inl (same.quiet quiet)⟩

theorem Authorized.bound (sound : p.Sound hooks line) (quiet : p.Quiet)
    (live : p.Live r) (known : c < p.nextCohort) (unbound : (p.records r).cohort = none)
    (starts : type.starts) : Authorized hooks type (some r) line p (p.setCohort r c) := by
  have cohorts : ∀ s, ((p.setCohort r c).records s).cohort =
      if s = r then some c else (p.records s).cohort := by
    intro s
    change (if s = r then _ else p.records s).cohort = _
    split <;> rfl
  refine ⟨sound.setCohort live known (.inl unbound),.setCohort (.inl unbound),fun s => ?_,rfl,rfl,rfl,
    rfl,rfl,rfl,?_⟩
  · change (if s = r then _ else p.records s).key = _
    split
    · rename_i here
      rw [here]
    · rfl
  · cases owner : (p.states c).owner with
    | some o =>
      refine .inr ⟨r,rfl,starts,sound.undelivered unbound,?_⟩
      unfold ownedCohort
      dsimp only
      rw [cohorts,if_pos rfl,filter_some]
      change (if (p.states c).owner.isSome then some c else none).isSome
      rw [owner]
      rfl
    | none =>
      left
      intro n e record target size member
      have unowned := quiet n e record target size member
      unfold ownedCohort at unowned ⊢
      cases target with
      | none => exact unowned
      | some t =>
        dsimp only at unowned ⊢
        rw [cohorts]
        split
        · change (if (p.states c).owner.isSome then some c else none) = none
          rw [owner]
          rfl
        · exact unowned

theorem Authorized.after (same : p.Same q)
    (authorized : Authorized hooks type record line q r) :
    Authorized hooks type record line p r where
  sound := authorized.sound
  follows := same.follows.trans authorized.follows
  keys s := (authorized.keys s).trans (same.keys s)
  scopes := authorized.scopes.trans same.scopes
  currentScope := authorized.currentScope.trans same.currentScope
  arrived := authorized.arrived.trans same.arrived
  fates := authorized.fates.trans same.fates
  closed := authorized.closed.trans same.closed
  primary := authorized.primary.trans same.primary
  ready := authorized.ready

theorem authorize_authorized
    (sound : p.Sound hooks line) (quiet : p.Quiet) (type : EventType) (record : Option Nat)
    (live : ∀ r, record = some r → p.Live r) :
    Authorized hooks type record line p (p.authorize type record) := by
  unfold authorize
  split
  · exact .same sound quiet (.refl p)
  rename_i r
  have live := live r rfl
  dsimp only
  split
  · split
    · have same : p.Same ({p with sawPrimaryStart := true}.setBoundary r) :=
        (⟨fun _ => rfl,fun _ => rfl,fun _ => rfl,rfl,rfl,rfl,rfl,rfl,rfl,rfl,rfl,rfl⟩ :
          p.Same {p with sawPrimaryStart := true}).trans (setBoundary_same _ r)
      split
      · rename_i primary here
        split
        · rename_i unbound
          exact (Authorized.bound (same.sound sound) (same.quiet quiet) (same.live live)
            (sound.primary primary here).1 ((same.bindings r).trans unbound) rfl).after same
        · exact .same sound quiet same
      · exact .same sound quiet same
    · split
      · rename_i unbound
        have born := (sound.createCohort none)
        have quiet' : (p.createCohort none).Quiet :=
          sound.quiet_older quiet (fun _ => rfl) (fun c below => if_neg (Nat.ne_of_lt below)) rfl
        have same := setBoundary_same (p.createCohort none) r
        have bound : Authorized hooks .agentStart (some r) line (p.createCohort none)
            (((p.createCohort none).setBoundary r).setCohort r p.nextCohort) :=
          (Authorized.bound (same.sound born) (same.quiet quiet') live (Nat.lt_succ_self _)
            ((same.bindings r).trans unbound) rfl).after same
        exact ⟨bound.sound,⟨bound.follows.bindings,bound.follows.scopes⟩,bound.keys,bound.scopes,
          bound.currentScope,bound.arrived,bound.fates,bound.closed,bound.primary,bound.ready⟩
      · exact .same sound quiet (.refl p)
  · split
    · rename_i c before
      split
      · rename_i unbound
        obtain ⟨s,_,bound⟩ := cohortBefore_bound before
        exact .bound sound quiet live (sound.bound s c bound) unbound rfl
      · exact .same sound quiet (.refl p)
    · exact .same sound quiet (.refl p)
  · exact .same sound quiet (.refl p)

theorem setCurrentScope_authorized (type' : EventType)
    (authorized : Authorized hooks type record line p q) (live : ∀ r, record = some r → q.Live r) :
    (q.setCurrentScope type' record).Sound hooks line ∧
      ((q.setCurrentScope type' record).Quiet ∨ (q.setCurrentScope type' record).Opens type record) := by
  unfold setCurrentScope
  split
  · have sound := authorized.sound
    exact ⟨⟨sound.fresh,sound.unborn,sound.scopes,sound.bound,live,sound.primary,sound.closed,
      sound.items,sound.tied,sound.delivered,sound.told,sound.counted,sound.sorted,
      sound.ordered⟩,authorized.ready⟩
  · exact ⟨authorized.sound,authorized.ready⟩

/-- The event in flight is authorized and finds the run it leads to. -/
theorem Sound.forwarding (sound : p.Sound hooks [⟨.event n event record record,0⟩])
    (quiet : p.Quiet) (active : p.primary.isSome) (live : ∀ r, record = some r → p.Live r) (type : EventType) :
    let q := (p.authorize type record).setCurrentScope type record
    q.Sound hooks [⟨.event n event record (record.or q.currentScope),0⟩] ∧
      (q.Quiet ∨ q.Opens type record) ∧ p.Follows q ∧ q.arrived = p.arrived ∧
      q.closed = p.closed ∧ q.fates = p.fates := by
  intro q
  have authorized := authorize_authorized sound quiet type record live
  have live' : ∀ r, record = some r → (p.authorize type record).Live r := by
    intro r here
    obtain ⟨key,found⟩ := live r here
    exact ⟨key,authorized.follows.scopes key r found⟩
  obtain ⟨sound',ready⟩ := setCurrentScope_authorized type authorized live'
  have unchanged : ∀ s : Router E O F, (s.setCurrentScope type record).arrived = s.arrived ∧
      (s.setCurrentScope type record).closed = s.closed ∧
      (s.setCurrentScope type record).records = s.records ∧
      (s.setCurrentScope type record).scopes = s.scopes ∧
      (s.setCurrentScope type record).fates = s.fates ∧
      (s.setCurrentScope type record).primary = s.primary := by
    intro s
    unfold setCurrentScope
    split <;> exact ⟨rfl,rfl,rfl,rfl,rfl,rfl⟩
  obtain ⟨arrived,closed,records,scopes,fates,primary⟩ :=
    unchanged (p.authorize type record)
  refine ⟨sound'.aimed ?_ ?_ ?_,ready,⟨fun r c bound => ?_,fun key r found => ?_⟩,
    arrived.trans authorized.arrived,closed.trans authorized.closed,fates.trans authorized.fates⟩
  · rw [primary,authorized.primary]
    exact active
  · rintro r rfl
    rfl
  · intro t target
    cases record with
    | none => exact sound'.currentScope t target
    | some r =>
      cases target
      obtain ⟨key,found⟩ := live' t rfl
      exact ⟨key,by rw [scopes]; exact found⟩
  · rw [records]
    exact authorized.follows.bindings r c bound
  · rw [scopes]
    exact authorized.follows.scopes key r found

/-- A start event is handed over as it is. -/
theorem hand_start (p : Router E O F)
    (starts : (hooks.type event).starts) (n : Nat) (record : Option Nat) (c : Nat) :
    p.hand hooks n event record c = ((p.meet event record c).log n (.delivered c record event),none) := by
  unfold hand deliver Hooks.isTerminal
  cases type : hooks.type event <;> rw [type] at starts <;> cases starts <;> rfl

/-- What is put by of an event that has no run to go to. -/
def Held (hooks : Hooks E O F) (event : E) (record : Option Nat) (event' : E) : Prop :=
  event' = event ∨ hooks.type event = .agentFailed ∧ record = none ∧
    event' = hooks.failed (hooks.sanitizeFailure event)

/-- What forwarding an event comes to. -/
theorem forward_cases (hooks : Hooks E O F) (p : Router E O F) (n : Nat) (event : E)
    (record : Option Nat) {P : Router E O F × Except Fault (Option Nat) → Prop}
    (thrown : ∀ c q fault, p.ownedCohort (record.or p.currentScope) = some c →
      p.hand hooks n event record c = (q,some fault) → P (q,.error fault))
    (handed : ∀ c q, p.ownedCohort (record.or p.currentScope) = some c →
      p.hand hooks n event record c = (q,none) → P (q.flushed hooks none))
    (refused : ∀ event' q fault, p.ownedCohort (record.or p.currentScope) = none →
      Held hooks event record event' → p.hold hooks n event' record (record.or p.currentScope) = (q,some fault) → P (q,.error fault))
    (held : ∀ event' q, p.ownedCohort (record.or p.currentScope) = none →
      Held hooks event record event' → p.hold hooks n event' record (record.or p.currentScope) = (q,none) → P (q,.ok none))
    (quarantined : ∀ r failure, p.ownedCohort (record.or p.currentScope) = none →
      P ((p.setRecord r {p.records r with failure := failure}).log n (.dropped .quarantined),.ok none)) :
    P (p.forward hooks n event record) := by
  unfold forward
  dsimp only
  split
  · rename_i c owned
    split
    · rename_i result
      exact thrown c _ _ owned result
    · rename_i result
      exact handed c _ owned result
  · rename_i unowned
    split
    · rename_i diagnostic
      split
      · exact quarantined _ _ unowned
      · split
        · rename_i result
          exact refused _ _ _ unowned (.inr ⟨diagnostic,rfl,rfl⟩) result
        · rename_i result
          exact held _ _ unowned (.inr ⟨diagnostic,rfl,rfl⟩) result
    · split
      · rename_i result
        exact refused _ _ _ unowned (.inl rfl) result
      · rename_i result
        exact held _ _ unowned (.inl rfl) result

theorem forward_stepped (sound : p.Sound hooks [⟨.event n event record (record.or p.currentScope),0⟩])
    (running : p.closed = false) (here : p.arrived[n]? = some event)
    (ready : p.Quiet ∨ p.Opens (hooks.type event) record) :
    Stepped hooks p (p.forward hooks n event record) := by
  have quiet_unowned : p.ownedCohort (record.or p.currentScope) = none → p.Quiet := by
    intro unowned
    rcases ready with quiet | ⟨r,rfl,_,_,owned⟩
    · exact quiet
    · rw [show (some r).or p.currentScope = some r from rfl] at unowned
      rw [unowned] at owned
      cases owned
  have tied : ∀ event', Held hooks event record event' → p.Tied hooks n event' record := by
    intro event' made
    obtain ⟨event'',arrived,key,carried⟩ :=
      sound.tied n event record _ 0 (mem_append_right _ mem_cons_self)
    rcases made with rfl | ⟨diagnostic,rfl,rfl⟩
    · exact ⟨event'',arrived,key,carried⟩
    · rw [here] at arrived
      cases arrived
      exact ⟨event,here,key,.sanitized diagnostic key⟩
  apply forward_cases
  · intro c q fault owned thrown
    rcases ready with quiet | ⟨r,rfl,starts,_,_⟩
    · have rounded := Rounded.hand sound quiet running owned
      rw [thrown] at rounded
      exact ⟨rounded.sound,rounded.quiet,rounded.follows,by rintro v ⟨⟩⟩
    · rw [hand_start p starts] at thrown
      cases thrown
  · intro c q owned handed
    rcases ready with quiet | ⟨r,rfl,starts,undelivered,_⟩
    · have rounded := Rounded.hand sound quiet running owned
      rw [handed] at rounded
      exact (flushed_stepped rounded.sound none).after rounded.follows (rounded.honest rfl)
    · rw [hand_start p starts] at handed
      cases handed
      have delivered := ((Same.meet p event (some r) c).sound sound).handed owned
        (fun s same => by cases same; exact .inr ⟨undelivered,event,here,starts⟩)
      refine (flushed_stepped delivered none).after ⟨fun _ _ => id,fun _ _ => id⟩ fun m member => ?_
      rcases mem_append.mp member with old | new
      · exact old
      · cases mem_singleton.mp new
  · intro event' q fault unowned made thrown
    have rounded := Rounded.hold sound (quiet_unowned unowned) running unowned (tied event' made)
    rw [thrown] at rounded
    exact ⟨rounded.sound,rounded.quiet,rounded.follows,by rintro v ⟨⟩⟩
  · intro event' q unowned made kept
    have rounded := Rounded.hold sound (quiet_unowned unowned) running unowned (tied event' made)
    rw [kept] at rounded
    exact ⟨rounded.sound,rounded.quiet,rounded.follows,fun _ _ => rounded.honest rfl⟩
  · intro r failure unowned
    have same : p.Same (p.setRecord r {p.records r with failure := failure}) :=
      .setRecord p r rfl rfl
    refine ⟨(same.sound sound).logged (by rintro _ _ _ ⟨⟩),same.quiet (quiet_unowned unowned),
      ⟨same.follows.bindings,same.follows.scopes⟩,fun _ _ m member => ?_⟩
    rcases mem_append.mp member with old | new
    · exact old
    · cases mem_singleton.mp new

end

/-- The record of a scope does not depend on what has arrived. -/
theorem record_arrived (p : Router E O F) (arrived : List E) (scope : Option Scope) :
    record {p with arrived := arrived} scope =
      (p.record scope).map fun found => ({found.1 with arrived := arrived},found.2) := by
  unfold record
  dsimp only
  split
  · rfl
  split
  · rfl
  split <;> rfl

theorem route_stepped (sound : p.Sound hooks []) (quiet : p.Quiet) (event : E) :
    Stepped hooks p (p.route hooks event) := by
  have dropped : ∀ {q : Router E O F} {rule : Rule}, q.fates = p.fates ++ [(p.arrived.length,.dropped rule)] →
      ∀ n, (n,.failed) ∈ q.fates → (n,.failed) ∈ p.fates := by
    intro q rule books n member
    rw [books] at member
    rcases mem_append.mp member with old | new
    · exact old
    · cases mem_singleton.mp new
  unfold route
  dsimp only
  split
  · exact ⟨sound.ignored event (by rintro _ _ _ ⟨⟩),quiet,⟨fun _ _ => id,fun _ _ => id⟩,fun _ _ => dropped rfl⟩
  rename_i running
  rw [Bool.or_eq_true,not_or,Bool.not_eq_true,Bool.not_eq_true,isNone_eq_false_iff] at running
  obtain ⟨running,active⟩ := running
  rw [record_arrived]
  cases made : p.record (hooks.scope event) with
  | error fault =>
    exact ⟨sound.ignored event (by rintro _ _ _ ⟨⟩),quiet,⟨fun _ _ => id,fun _ _ => id⟩,
      by rintro v ⟨⟩⟩
  | ok found =>
  obtain ⟨q,record⟩ := found
  have recorded := sound.record made
  have quiet' : q.Quiet := recorded.quiet quiet
  have active' : q.primary.isSome := by
    rw [recorded.primary]
    exact active
  have arriving := recorded.sound.arriving active' recorded.live recorded.key
  rw [recorded.arrived] at arriving
  dsimp only [Except.map]
  split
  · exact ⟨arriving.logged (by rintro _ _ _ ⟨⟩),quiet',⟨recorded.follows.bindings,
      recorded.follows.scopes⟩,by rintro v ⟨⟩⟩
  split
  · refine ⟨arriving.logged (by rintro _ _ _ ⟨⟩),quiet',⟨recorded.follows.bindings,recorded.follows.scopes⟩,?_⟩
    intro _ _
    apply dropped
    change q.fates ++ _ = _
    rw [recorded.fates]
  obtain ⟨sound',ready,follows,arrived,closed,fates⟩ :=
    arriving.forwarding quiet' active' recorded.live (hooks.type event)
  have here : (p.arrived ++ [event])[p.arrived.length]? = some event := getElem?_concat_length
  refine (forward_stepped sound' ?_ ?_ ready).after ?_ ?_
  · rw [closed]
    exact recorded.closed.trans running
  · rw [arrived]
    exact here
  · exact ⟨fun r c bound => follows.bindings r c (recorded.follows.bindings r c bound),
      fun key r found => follows.scopes key r (recorded.follows.scopes key r found)⟩
  · intro n member
    rw [fates] at member
    rw [← recorded.fates]
    exact member

variable (hooks : Hooks E O F)

@[simp] theorem arrived_hold (p : Router E O F) (n : Nat) (event : E)
    (record target : Option Nat) : (p.hold hooks n event record target).1.arrived = p.arrived := by
  unfold hold
  split
  · rename_i q buffered
    obtain ⟨_,_,_,rfl⟩ := bufferEvent_ok buffered
    rfl
  · rfl

@[simp] theorem arrived_hand (p : Router E O F) (n : Nat) (event : E)
    (record : Option Nat) (c : Nat) : (p.hand hooks n event record c).1.arrived = p.arrived := by
  unfold hand
  dsimp only
  split
  · rename_i q delivered
    exact (Same.deliver delivered).arrived
  · rfl

@[simp] theorem arrived_flushItem (p : Router E O F) (item : Item E) :
    (p.flushItem hooks item).1.arrived = p.arrived := by
  unfold flushItem
  split
  · split <;> simp
  · split
    · rfl
    split
    · rfl
    split
    · rename_i q buffered
      obtain ⟨_,_,_,rfl⟩ := bufferEvent_ok buffered
      rfl
    · rfl

@[simp] theorem arrived_flushItems (line : List (Item E))
    (p : Router E O F) : (p.flushItems hooks line).1.arrived = p.arrived := by
  induction line generalizing p with
  | nil => rfl
  | cons item rest ih =>
    have round := arrived_flushItem hooks p item
    unfold flushItems
    split
    · rename_i q kept
      rw [kept] at round
      exact (ih q).trans round
    · rename_i q fault thrown
      rw [thrown] at round
      exact round

@[simp] theorem arrived_flush (p : Router E O F) :
    (p.flush hooks).1.arrived = p.arrived := by
  unfold flush
  split
  · rfl
  · exact arrived_flushItems hooks p.buffer p.emptied

@[simp] theorem arrived_flushed (p : Router E O F) (value : Option Nat) :
    (p.flushed hooks value).1.arrived = p.arrived := by
  have flushed := arrived_flush hooks p
  unfold Router.flushed
  split <;> rename_i result <;> rw [result] at flushed <;> exact flushed

theorem arrived_record {record : Option Nat}
    (made : p.record scope = .ok (q,record)) : q.arrived = p.arrived := by
  unfold Router.record at made
  split at made
  · cases made
    rfl
  split at made
  · cases made
    rfl
  split at made
  · cases made
  · cases made
    rfl

@[simp] theorem arrived_bindOwned (p : Router E O F) (token r c : Nat) :
    (p.bindOwned hooks token r c).1.arrived = p.arrived := by
  unfold bindOwned bind
  by_cases free : (p.records r).cohort = none ∨ (p.records r).cohort = some c
  · rw [if_pos free]
    exact arrived_flushed hooks _ _
  · rw [if_neg free]

theorem arrived_bindExecution (p : Router E O F) (token : Nat)
    (scope : Option Scope) (promoted : Bool) (owner : Nat) :
    (p.bindExecution hooks token scope promoted owner).1.arrived = p.arrived := by
  unfold bindExecution
  split
  · rfl
  · rename_i made
    exact arrived_record made
  rename_i q r made
  rw [← arrived_record made]
  split
  · split
    · split
      · rfl
      split
      · rfl
      · exact arrived_bindOwned hooks _ _ _ _
    · exact arrived_bindOwned hooks _ _ _ _
  · split
    · rfl
    · exact arrived_bindOwned hooks _ _ _ _

theorem arrived_finalTerminal (p : Router E O F) (c : Nat)
    (scope : Option Scope) : (p.finalTerminal hooks c scope).1.arrived = p.arrived := by
  unfold finalTerminal
  split
  · rfl
  split
  · rfl
  · rename_i made
    exact arrived_record made
  rename_i q r made
  rw [← arrived_record made]
  split
  · rfl
  unfold bind
  by_cases free : (q.records r).cohort = none ∨ (q.records r).cohort = some c
  · rw [if_pos free]
    have flushed := arrived_flush hooks (q.setCohort r c)
    dsimp only
    split <;> rename_i result <;> rw [result] at flushed
    · exact flushed
    · exact (Same.await _ r).arrived.trans flushed
  · rw [if_neg free]

theorem arrived_gate (p : Router E O F) (name : Nat) (size : Option Nat) :
    (p.gate hooks name size).1.arrived = p.arrived := by
  apply gate_cases (P := fun result => result.1.arrived = p.arrived)
  · rfl
  · exact fun _ => rfl
  · exact fun _ => rfl
  · intro _ cohort q buffered
    obtain ⟨_,_,_,rfl⟩ := bufferEvent_ok buffered
    exact arrived_flushed hooks _ _

theorem arrived_authorize (p : Router E O F) (type : EventType) (record : Option Nat) :
    (p.authorize type record).arrived = p.arrived := by
  unfold authorize
  split
  · rfl
  dsimp only
  split
  · split
    · split
      · split <;> rfl
      · rfl
    · split <;> rfl
  · split
    · split <;> rfl
    · rfl
  · rfl

theorem arrived_forward (p : Router E O F) (n : Nat) (event : E)
    (record : Option Nat) : (p.forward hooks n event record).1.arrived = p.arrived := by
  have handed := fun c => arrived_hand hooks p n event record c
  have kept := fun event' => arrived_hold hooks p n event' record (record.or p.currentScope)
  apply forward_cases (P := fun result => result.1.arrived = p.arrived)
  · intro c q fault _ thrown
    simpa [thrown] using handed c
  · intro c q _ delivered
    exact (arrived_flushed hooks _ none).trans (by simpa [delivered] using handed c)
  · intro event' q fault _ _ thrown
    simpa [thrown] using kept event'
  · intro event' q _ _ held
    simpa [held] using kept event'
  · exact fun _ _ _ => rfl

theorem arrived_route (p : Router E O F) (event : E) :
    (p.route hooks event).1.arrived = p.arrived ++ [event] := by
  unfold route
  dsimp only
  split
  · rfl
  split
  · rfl
  rename_i q record made
  have recorded : q.arrived = p.arrived ++ [event] := arrived_record made
  split
  · exact recorded
  split
  · exact recorded
  · rw [arrived_forward,← recorded]
    unfold setCurrentScope
    split <;> exact arrived_authorize _ _ _

end Router

end GjcRemote.LiveInput
