import GjcRemote.ServiceCallsSound

/-! Each call keeps the ledger of handles and the record of attempts to close them, in any order
of calls. -/
namespace GjcRemote.ServiceCalls

open PostOrder List Calls

variable {s s' : Calls}

/-- Who was attempted and not rejected is not open again. -/
structure Once (s : Calls) : Prop where
  spent : ∀ a ∈ s.attempts, a.rejected = false → ∃ e ∈ s.entries, e.handle = a.handle ∧ e.state ≠ .opened
  made : ∀ e ∈ s.entries, e.state ≠ .opened → ∃ a ∈ s.attempts, a.handle = e.handle
  once : s.attempts.Pairwise fun a b => a.handle = b.handle → a.rejected = true

structure Sound (s : Calls) : Prop where
  ledger : Ledger s
  attempts : Once s

theorem new_sound : Sound Calls.new where
  ledger := new_ledger
  attempts := {
    spent := fun _ none => absurd none not_mem_nil
    made := fun _ none => absurd none not_mem_nil
    once := .nil}

/-- The states of all entries stay, and new ones are open. -/
theorem Once.keep (once : Once s) (attempts : s'.attempts = s.attempts)
    (kept : ∀ e ∈ s.entries, ∃ e' ∈ s'.entries, e'.handle = e.handle ∧ e'.state = e.state)
    (known : ∀ e' ∈ s'.entries, e'.state ≠ .opened → ∃ e ∈ s.entries, e.handle = e'.handle ∧ e.state = e'.state) :
    Once s' := by
  refine ⟨?_,?_,by rw [attempts]; exact once.once⟩
  · intro a member rejected
    rw [attempts] at member
    obtain ⟨e,there,own,spent⟩ := once.spent a member rejected
    obtain ⟨e',here,same,state⟩ := kept e there
    exact ⟨e',here,same.trans own,state ▸ spent⟩
  · intro e' member spent
    obtain ⟨e,there,own,state⟩ := known e' member spent
    obtain ⟨a,made,same⟩ := once.made e there (state ▸ spent)
    rw [attempts]
    exact ⟨a,made,same.trans own⟩

variable {g : Entry → Entry}

theorem Once.map (once : Once s) (attempts : s'.attempts = s.attempts)
    (eq : s'.entries = s.entries.map g) (handle : ∀ e, (g e).handle = e.handle)
    (state : ∀ e ∈ s.entries, (g e).state = e.state) : Once s' := by
  refine once.keep attempts ?_ ?_
  · intro e member
    exact ⟨g e,by rw [eq]; exact mem_map_of_mem member,handle e,state e member⟩
  · intro e' member _
    rw [eq] at member
    obtain ⟨e,there,rfl⟩ := mem_map.mp member
    exact ⟨e,there,(handle e).symm,(state e there).symm⟩

/-- An open handle is attempted. -/
theorem Once.attempt (once : Once s) (ledger : Ledger s) (here : entry ∈ s.entries)
    (opened : entry.state = .opened)
    (attempts : s'.attempts = s.attempts ++ [⟨entry.handle,s.unresolved entry.handle,rejected⟩])
    (eq : s'.entries = s.entries.map g) (handle : ∀ e, (g e).handle = e.handle)
    (others : ∀ e ∈ s.entries, e.handle ≠ entry.handle → (g e).state = e.state)
    (spent : rejected = false → (g entry).state ≠ .opened) : Once s' := by
  have fresh : ∀ a ∈ s.attempts, a.handle = entry.handle → a.rejected := by
    intro a member own
    by_contra not
    obtain ⟨e,there,same,state⟩ := once.spent a member (Bool.eq_false_iff.mpr not)
    rw [entry_unique ledger.distinct there here (same.trans own)] at state
    exact state opened
  refine ⟨?_,?_,?_⟩
  · intro a member unrejected
    rw [attempts,mem_append] at member
    rcases member with old | new
    · obtain ⟨e,there,own,state⟩ := once.spent a old unrejected
      have other : e.handle ≠ entry.handle := by
        intro same
        rw [entry_unique ledger.distinct there here same] at state
        exact state opened
      refine ⟨g e,by rw [eq]; exact mem_map_of_mem there,(handle e).trans own,?_⟩
      rw [others e there other]
      exact state
    · rw [mem_singleton.mp new] at unrejected ⊢
      exact ⟨g entry,by rw [eq]; exact mem_map_of_mem here,handle entry,spent unrejected⟩
  · intro e' member state
    rw [eq] at member
    obtain ⟨e,there,rfl⟩ := mem_map.mp member
    rw [attempts]
    by_cases own : e.handle = entry.handle
    · exact ⟨_,mem_append_right _ mem_cons_self,((handle e).trans own).symm⟩
    · rw [others e there own] at state
      obtain ⟨a,made,same⟩ := once.made e there state
      exact ⟨a,mem_append_left _ made,same.trans (handle e).symm⟩
  · rw [attempts,pairwise_append]
    refine ⟨once.once,pairwise_singleton ..,?_⟩
    intro a member b single same
    rw [mem_singleton.mp single] at same
    exact fresh a member same

theorem mem_known {arguments : List Nat} (member : e ∈ arguments.filterMap s.get) : e ∈ s.entries := by
  obtain ⟨x,-,found⟩ := mem_filterMap.mp member
  exact (get_some found).1

theorem answer_accepts (accepted : answer refuses native = none) :
    refuses = false := by
  cases refuses with
  | false => rfl
  | true => cases accepted

structure Opens (s s' : Calls) (entry : Entry) : Prop where
  fresh : entry.handle ∉ s.handles
  alone : entry.dependents = []
  opened : entry.state = .opened
  known : ∀ x ∈ entry.dependencies, x ∈ s.handles
  under : ∀ x ∈ s.activeLocks.getLast?, x ∈ entry.dependencies
  entries : s'.entries = s.entries.map (awaited entry) ++ [entry]
  locks : s'.activeLocks = if entry.resource = .lock then s.activeLocks ++ [entry.handle] else s.activeLocks
  attempts : s'.attempts = s.attempts

/-- No writer is passed as the lock argument where an existing directory is opened to be read. -/
def Calls.Typed (s : Calls) (resource : Resource) (readExisting : Bool) (arguments : List Nat) : Prop :=
  resource = .directory → readExisting = true → ∀ x ∈ arguments, ∀ e, s.get x = some e →
    e.resource ≠ .artifactWriter

/-- An argument that the native side takes is no writer. -/
theorem admits_kinds (admitted : s.admits resource readExisting arguments)
    (typed : s.Typed resource readExisting arguments) (member : x ∈ arguments) (found : s.get x = some e) :
    e.resource ≠ .artifactWriter := by
  have opens : e.opens → e.resource ≠ .artifactWriter := by
    intro opens writer
    simp [Entry.opens,writer] at opens
  cases arguments with
  | nil => cases member
  | cons first rest =>
    simp only [admits,Bool.and_eq_true,all_eq_true] at admitted
    obtain ⟨parent,others⟩ := admitted
    rcases mem_cons.mp member with rfl | later
    · rw [found] at parent
      exact opens parent
    · have admits := others x later
      simp only [found,Option.all_some,Bool.or_eq_true,Bool.and_eq_true,beq_iff_eq] at admits
      rcases admits with plain | ⟨⟨⟨directory,reads⟩,-⟩,-⟩
      · exact opens plain
      · exact typed directory reads x member e found

theorem acquire_cases (ledger : Ledger s) (resource : Resource) (readExisting : Bool) (arguments : List Nat)
    (made : Option Nat) (native : Option NativeError) :
    (s.acquire resource readExisting arguments made native).1 = s ∨
      ∃ entry, Opens s (s.acquire resource readExisting arguments made native).1 entry ∧
        (s.Typed resource readExisting arguments →
          ∀ e ∈ s.entries, e.handle ∈ entry.dependencies → e.resource ≠ .artifactWriter) := by
  unfold acquire
  split
  · exact .inl rfl
  simp only
  cases accepted : answer (!s.admits resource readExisting arguments) native with
  | some error => exact .inl rfl
  | none =>
    cases made with
    | none => exact .inl rfl
    | some handle =>
      simp only [Option.elim_some]
      cases found : s.get handle with
      | some e => exact .inl rfl
      | none =>
        have admitted : s.admits resource readExisting arguments := by
          simpa only [Bool.not_eq_false'] using answer_accepts accepted
        have lock : ∀ x ∈ s.activeLocks.getLast?, ∃ e ∈ s.entries, e.handle = x ∧ e.resource = .lock := by
          intro x last
          have held := List.mem_of_mem_getLast? last
          rw [ledger.locks] at held
          obtain ⟨e,member,own,kind,-⟩ := mem_openLocks.mp held
          exact ⟨e,member,own,kind⟩
        refine .inr ⟨s.newEntry resource arguments handle,⟨get_none found,rfl,rfl,?_,?_,rfl,rfl,rfl⟩,?_⟩
        · intro x member
          rcases mem_append.mp (mem_dedup.mp member) with argument | last
          · obtain ⟨e,there,rfl⟩ := mem_map.mp argument
            exact mem_map_of_mem (mem_known there)
          · obtain ⟨e,there,rfl,-⟩ := lock x (Option.mem_toList.mp last)
            exact mem_map_of_mem there
        · intro x last
          exact mem_dedup.mpr (mem_append_right _ (Option.mem_toList.mpr last))
        · intro typed e there depends
          rcases mem_append.mp (mem_dedup.mp depends) with argument | last
          · obtain ⟨d,given,same⟩ := mem_map.mp argument
            have one : d = e := entry_unique ledger.distinct (mem_known given) there same
            obtain ⟨x,passed,got⟩ := mem_filterMap.mp given
            exact one ▸ admits_kinds admitted typed passed got
          · obtain ⟨d,held,same,kind⟩ := lock _ (Option.mem_toList.mp last)
            have one : d = e := entry_unique ledger.distinct held there same
            rw [← one,kind]
            decide

theorem Sound.opens (sound : Sound s) (opens : Opens s s' entry) : Sound s' := by
  have unclosed : entry.state ≠ .closed := by rw [opens.opened]; decide
  refine ⟨sound.ledger.extend opens.fresh opens.alone unclosed opens.known opens.under opens.entries
    opens.locks,sound.attempts.keep opens.attempts ?_ ?_⟩
  · intro e member
    refine ⟨awaited entry e,?_,awaited_handle ..,awaited_state ..⟩
    rw [opens.entries]
    exact mem_append_left _ (mem_map_of_mem member)
  · intro e' member spent
    rw [opens.entries,mem_append] at member
    rcases member with old | new
    · obtain ⟨e,there,rfl⟩ := mem_map.mp old
      exact ⟨e,there,(awaited_handle ..).symm,(awaited_state ..).symm⟩
    · rw [mem_singleton.mp new] at spent
      exact absurd opens.opened spent

variable (handle : Nat)

/-- What an entry becomes when the state of one is set. -/
def stated (state : HandleState) (e : Entry) : Entry :=
  if e.handle = handle then {e with state := state} else e

variable (failure : Thrown)

def failing (e : Entry) : Entry :=
  if e.handle = handle then {e with failure := some failure} else e

theorem setState_entries (s : Calls) (handle : Nat) (state : HandleState) :
    (s.setState handle state).entries = s.entries.map (stated handle state) := rfl

theorem setFailure_entries (s : Calls) (handle : Nat) (failure : Thrown) :
    (s.setFailure handle failure).entries = s.entries.map (failing handle failure) := rfl

@[simp] theorem stated_handle (state : HandleState) (e : Entry) :
    (stated handle state e).handle = e.handle := by
  unfold stated
  split <;> rfl

@[simp] theorem stated_resource (state : HandleState) (e : Entry) :
    (stated handle state e).resource = e.resource := by
  unfold stated
  split <;> rfl

@[simp] theorem stated_dependencies (state : HandleState) (e : Entry) :
    (stated handle state e).dependencies = e.dependencies := by
  unfold stated
  split <;> rfl

@[simp] theorem failing_handle (e : Entry) :
    (failing handle failure e).handle = e.handle := by
  unfold failing
  split <;> rfl

@[simp] theorem failing_resource (e : Entry) :
    (failing handle failure e).resource = e.resource := by
  unfold failing
  split <;> rfl

@[simp] theorem failing_dependencies (e : Entry) :
    (failing handle failure e).dependencies = e.dependencies := by
  unfold failing
  split <;> rfl

@[simp] theorem failing_state (e : Entry) :
    (failing handle failure e).state = e.state := by
  unfold failing
  split <;> rfl

theorem Ledger.log (ledger : Ledger s) (handle : Nat) (rejected : Bool) : Ledger (s.log handle rejected) := by
  refine ledger.relabel (g := id) ⟨?_,?_,?_,?_,?_⟩ (map_id _).symm rfl
  all_goals intros; rfl

theorem Ledger.setState (ledger : Ledger s) (here : entry ∈ s.entries)
    (unclosed : entry.state ≠ .closed) (other : state ≠ .closed) :
    Ledger (s.setState entry.handle state) := by
  refine ledger.relabel ⟨stated_handle _ _,stated_resource _ _,stated_dependencies _ _,?_,?_⟩ (setState_entries ..) rfl
  · intro e
    unfold stated
    split <;> rfl
  · intro e member
    by_cases own : e.handle = entry.handle
    · rw [entry_unique ledger.distinct member here own]
      simp [stated,unclosed,other]
    · simp [stated,own]

theorem Ledger.setFailure (ledger : Ledger s) (handle : Nat) (failure : Thrown) :
    Ledger (s.setFailure handle failure) := by
  refine ledger.relabel ⟨failing_handle _ _,failing_resource _ _,failing_dependencies _ _,?_,?_⟩
    (setFailure_entries ..) rfl
  · intro e
    unfold failing
    split <;> rfl
  · intro e _
    rw [failing_state]

structure Attempts (s s' : Calls) (entry : Entry) (g : Entry → Entry) : Prop where
  ledger : Ledger s'
  entries : s'.entries = s.entries.map g
  handle : ∀ e, (g e).handle = e.handle
  resource : ∀ e, (g e).resource = e.resource
  dependencies : ∀ e, (g e).dependencies = e.dependencies
  others : ∀ e ∈ s.entries, e.handle ≠ entry.handle → (g e).state = e.state

variable {entry : Entry}

theorem Attempts.mark (ledger : Ledger s') (same : s'.entries = s.entries) (here : entry ∈ s.entries)
    (opened : entry.state = .opened) :
    Attempts s (s'.setState entry.handle .attemptedUnconfirmed) entry (stated entry.handle .attemptedUnconfirmed) := by
  have member : entry ∈ s'.entries := same ▸ here
  refine ⟨ledger.setState member (by rw [opened]; decide) (by decide),?_,stated_handle _ _,stated_resource _ _,
    stated_dependencies _ _,?_⟩
  · rw [setState_entries,same]
  · intro e _ other
    simp [stated,other]

section

variable (attempts : Attempts s s' entry g)
include attempts

theorem Attempts.fail (failure : Thrown) :
    Attempts s (s'.setFailure entry.handle failure) entry (failing entry.handle failure ∘ g) := by
  refine ⟨attempts.ledger.setFailure ..,?_,?_,?_,?_,?_⟩
  · rw [setFailure_entries,attempts.entries,map_map]
  · intro e
    simp [attempts.handle]
  · intro e
    simp [attempts.resource]
  · intro e
    simp [attempts.dependencies]
  · intro e member other
    simp [attempts.others e member other]

/-- The attempted handle is closed: nothing depends on it if it is a lock. -/
theorem Attempts.confirm (here : entry ∈ s.entries) (unclosed : (g entry).state ≠ .closed)
    (alone : entry.resource = .lock → (g entry).dependents = []) :
    Attempts s (s'.confirmClosed entry) entry (settled entry ∘ g) := by
  have member : g entry ∈ s'.entries := by
    rw [attempts.entries]
    exact mem_map_of_mem here
  refine ⟨attempts.ledger.confirmClosed member (attempts.handle entry).symm (attempts.dependencies entry).symm
    (attempts.resource entry).symm unclosed (fun lock => alone ((attempts.resource entry).symm.trans lock)),
    ?_,?_,?_,?_,?_⟩
  · rw [confirmClosed_entries,attempts.entries,map_map]
  · intro e
    simp [settled,attempts.handle]
  · intro e
    simp [settled,attempts.resource]
  · intro e
    simp [settled,attempts.dependencies]
  · intro e member other
    simp [settled,attempts.handle,other,attempts.others e member other]

/-- A refused call leaves the handle open again. -/
theorem Attempts.reopen (here : entry ∈ s.entries) (unclosed : (g entry).state ≠ .closed) :
    Attempts s (s'.setState entry.handle .opened) entry (stated entry.handle .opened ∘ g) := by
  have member : g entry ∈ s'.entries := by
    rw [attempts.entries]
    exact mem_map_of_mem here
  have same := attempts.handle entry
  refine ⟨?_,?_,?_,?_,?_,?_⟩
  · rw [← same]
    exact attempts.ledger.setState member unclosed (by decide)
  · rw [setState_entries,attempts.entries,map_map]
  · intro e
    simp [attempts.handle]
  · intro e
    simp [attempts.resource]
  · intro e
    simp [attempts.dependencies]
  · intro e found other
    have apart : (g e).handle ≠ entry.handle := by rw [attempts.handle]; exact other
    simp [stated,apart,attempts.others e found other]

theorem Attempts.fences : s'.Fences = s.Fences := by
  funext x y
  simp [Fences,attempts.entries,attempts.handle,attempts.dependencies]

/-- Nothing comes to wait for a handle. -/
theorem Attempts.unresolved (distinct : s.handles.Nodup) (here : entry ∈ s.entries) (opened : entry.state = .opened)
    (waiting : y ∈ s'.unresolved x) : y ∈ s.unresolved x := by
  obtain ⟨_,member,own,depends,state⟩ := mem_unresolved.mp waiting
  rw [attempts.entries] at member
  obtain ⟨e,there,rfl⟩ := mem_map.mp member
  rw [attempts.handle] at own
  rw [attempts.dependencies] at depends
  refine mem_unresolved.mpr ⟨e,there,own,depends,?_⟩
  by_cases same : e.handle = entry.handle
  · rw [entry_unique distinct there here same,opened]
    decide
  · exact attempts.others e there same ▸ state

end

theorem Attempts.once (attempts : Attempts s s' entry g) (sound : Sound s) (here : entry ∈ s.entries)
    (opened : entry.state = .opened)
    (logged : s'.attempts = s.attempts ++ [⟨entry.handle,s.unresolved entry.handle,rejected⟩])
    (spent : rejected = false → (g entry).state ≠ .opened) : Sound s' :=
  ⟨attempts.ledger,sound.attempts.attempt sound.ledger here opened logged attempts.entries attempts.handle
    attempts.others spent⟩

/-- What a close does: nothing, or an attempt on an open handle without dependents. -/
theorem close_cases (ledger : Ledger s) (handle : Nat) (native : Option NativeError) :
    (∃ thrown, s.close handle native = (s,thrown) ∧
      ∀ e ∈ s.entries, e.handle = handle → e.state ≠ .opened ∨ e.dependents ≠ []) ∨
    ∃ entry g, entry ∈ s.entries ∧ entry.handle = handle ∧ entry.state = .opened ∧ entry.dependents = [] ∧
      Attempts s (s.close handle native).1 entry g ∧ (g entry).state ≠ .opened ∧
      (s.close handle native).1.attempts =
        s.attempts ++ [⟨handle,s.unresolved handle,native.any NativeError.rejected⟩] := by
  unfold close
  cases found : s.get handle with
  | none =>
    refine .inl ⟨_,rfl,fun e member own => ?_⟩
    exact absurd (own ▸ mem_map_of_mem member) (get_none found)
  | some closing =>
    obtain ⟨here,rfl⟩ := get_some found
    have only : ∀ e ∈ s.entries, e.handle = closing.handle → e = closing := fun e member own =>
      entry_unique ledger.distinct member here own
    simp only
    cases state : closing.state with
    | closed => exact .inl ⟨_,rfl,fun e member own => .inl (by rw [only e member own,state]; decide)⟩
    | attemptedUnconfirmed => exact .inl ⟨_,rfl,fun e member own => .inl (by rw [only e member own,state]; decide)⟩
    | opened =>
      simp only
      split
      · next waiting => exact .inl ⟨_,rfl,fun e member own => .inr (by rw [only e member own]; exact waiting)⟩
      · next free =>
        have alone : closing.dependents = [] := not_not.mp free
        have marked := Attempts.mark (s := s) (ledger.log closing.handle (native.any NativeError.rejected)) rfl here state
        have spent : (stated closing.handle .attemptedUnconfirmed closing).state = .attemptedUnconfirmed := by
          simp [stated]
        cases native with
        | none =>
          refine .inr ⟨closing,_,here,rfl,state,alone,marked.confirm here ?_ ?_,?_,rfl⟩
          · rw [spent]
            decide
          · simpa [stated] using fun _ => alone
          · simp [settled,stated]
        | some error =>
          refine .inr ⟨closing,_,here,rfl,state,alone,marked.fail error.translated,?_,rfl⟩
          simp [stated]

theorem Sound.close (sound : Sound s) (handle : Nat) (native : Option NativeError) :
    Sound (s.close handle native).1 := by
  rcases close_cases sound.ledger handle native with ⟨thrown,same,-⟩ | ⟨entry,g,here,own,opened,alone,attempts,spent,logged⟩
  · rw [same]
    exact sound
  · subst own
    exact attempts.once sound here opened logged fun _ => spent

/-- What the end of a write does: nothing, an attempt to close the writer, or a refusal. -/
theorem finish_cases (ledger : Ledger s) (writer : Nat) (native : Option NativeError) :
    (s.finish writer native).1 = s ∨
    ∃ entry g, entry ∈ s.entries ∧ entry.state = .opened ∧ Attempts s (s.finish writer native).1 entry g ∧
      (((s.finish writer native).1.attempts = s.attempts ∧ (g entry).state = .opened) ∨
        (entry.resource = .artifactWriter ∧ ∃ rejected,
          (s.finish writer native).1.attempts = s.attempts ++ [⟨entry.handle,s.unresolved entry.handle,rejected⟩] ∧
          (rejected = false → (g entry).state ≠ .opened))) := by
  unfold finish
  split
  · exact .inl rfl
  cases found : s.get writer with
  | none => exact .inl rfl
  | some finishing =>
    obtain ⟨here,rfl⟩ := get_some found
    simp only
    split
    · exact .inl rfl
    next open' =>
    have opened : finishing.state = .opened := not_not.mp open'
    have marks : (stated finishing.handle .attemptedUnconfirmed finishing).state = .attemptedUnconfirmed := by
      simp [stated]
    have unclosed : (stated finishing.handle .attemptedUnconfirmed finishing).state ≠ .closed := by
      rw [marks]
      decide
    by_cases kind : finishing.resource = .artifactWriter
    · have free : finishing.resource = .lock → finishing.dependents = [] := by
        rw [kind]
        rintro ⟨⟩
      simp only [kind,decide_true,Bool.not_true,answer,Bool.false_eq_true,if_false,if_true]
      have marked := Attempts.mark (s := s) (ledger.log finishing.handle (native.any NativeError.rejected)) rfl here opened
      cases native with
      | none =>
        refine .inr ⟨finishing,_,here,opened,marked.confirm here unclosed ?_,.inr ⟨kind,_,rfl,?_⟩⟩
        · simpa [stated] using free
        · simp [settled]
      | some error =>
        have failed := marked.fail error.translated
        by_cases effectless : error.effectless = false
        · simp only [effectless,if_true]
          refine .inr ⟨finishing,_,here,opened,failed,.inr ⟨kind,_,rfl,?_⟩⟩
          simp [marks]
        simp only [effectless]
        have quiet : error.effectless := by simpa using effectless
        cases code : error.translated.code with
        | invalid =>
          refine .inr ⟨finishing,_,here,opened,failed.reopen here ?_,.inr ⟨kind,_,rfl,?_⟩⟩
          · simp [marks]
          · simp [NativeError.rejected,quiet,code]
        | stale =>
          refine .inr ⟨finishing,_,here,opened,failed.confirm here ?_ ?_,.inr ⟨kind,_,rfl,?_⟩⟩
          · simp [marks]
          · simpa [failing,stated] using free
          · simp [settled]
        | _ =>
          refine .inr ⟨finishing,_,here,opened,failed,.inr ⟨kind,_,rfl,?_⟩⟩
          simp [marks]
    · simp only [kind,decide_false,Bool.not_false,answer,if_true,if_false]
      have failed := (Attempts.mark ledger rfl here opened).fail NativeError.invalid.translated
      refine .inr ⟨finishing,_,here,opened,failed.reopen here ?_,.inl ⟨rfl,?_⟩⟩
      · simp [marks]
      · simp [stated]

theorem Sound.finish (sound : Sound s) (writer : Nat) (native : Option NativeError) :
    Sound (s.finish writer native).1 := by
  rcases finish_cases sound.ledger writer native with
    same | ⟨entry,g,here,opened,attempts,⟨none,state⟩ | ⟨-,rejected,logged,spent⟩⟩
  · rw [same]
    exact sound
  · refine ⟨attempts.ledger,sound.attempts.map none attempts.entries attempts.handle fun e member => ?_⟩
    by_cases own : e.handle = entry.handle
    · rw [entry_unique sound.ledger.distinct member here own,state,opened]
    · exact attempts.others e member own
  · exact attempts.once sound here opened logged spent

theorem setParent_ledger (ledger : Ledger s) (source : Nat) (parent : Option Nat) :
    Ledger (s.modify source fun e => {e with parent := parent}) := by
  refine ledger.relabel ⟨?_,?_,?_,?_,?_⟩ rfl rfl
  all_goals
    intro e
    split <;> simp

/-- The source is open to be held by the destination. -/
structure Ready (s : Calls) (source destination : Nat) : Prop where
  source : ∀ e ∈ s.entries, e.handle = source → e.state ≠ .closed ∧ e.resource ≠ .lock
  destination : ∀ e ∈ s.entries, e.handle = destination → e.resource ≠ .artifactWriter

/-- What a publication does: at most one handle comes to depend on another. -/
structure Publishes (s s' : Calls) (source destination : Nat) : Prop where
  ledger : Ledger s'
  ready : Ready s' source destination
  attempts : s'.attempts = s.attempts
  entries : ∃ g : Entry → Entry, s'.entries = s.entries.map g ∧ (∀ e, (g e).handle = e.handle) ∧
    (∀ e, (g e).state = e.state) ∧ ∀ e, (g e).resource = e.resource
  fences : ∀ x y, s'.Fences x y → s.Fences x y ∨ (x = destination ∧ y = source)

variable {source destination : Nat}

theorem Ready.map (ready : Ready s source destination) (eq : s'.entries = s.entries.map g)
    (handle : ∀ e, (g e).handle = e.handle) (state : ∀ e, (g e).state = e.state)
    (resource : ∀ e, (g e).resource = e.resource) : Ready s' source destination := by
  constructor
  · intro _ member own
    rw [eq] at member
    obtain ⟨e,there,rfl⟩ := mem_map.mp member
    rw [state,resource]
    exact ready.source e there ((handle e).symm.trans own)
  · intro _ member own
    rw [eq] at member
    obtain ⟨e,there,rfl⟩ := mem_map.mp member
    rw [resource]
    exact ready.destination e there ((handle e).symm.trans own)

theorem Publishes.refl (ledger : Ledger s) (ready : Ready s source destination) : Publishes s s source destination where
  ledger := ledger
  ready := ready
  attempts := rfl
  entries := ⟨id,(map_id _).symm,fun _ => rfl,fun _ => rfl,fun _ => rfl⟩
  fences _ _ edge := .inl edge

variable {s'' : Calls}

theorem Publishes.trans (first : Publishes s s' source destination) (second : Publishes s' s'' source destination) :
    Publishes s s'' source destination := by
  refine ⟨second.ledger,second.ready,second.attempts.trans first.attempts,?_,?_⟩
  · obtain ⟨g,eq,handle,state,resource⟩ := first.entries
    obtain ⟨g',eq',handle',state',resource'⟩ := second.entries
    refine ⟨g' ∘ g,?_,fun e => (handle' _).trans (handle e),fun e => (state' _).trans (state e),
      fun e => (resource' _).trans (resource e)⟩
    rw [eq',eq,map_map]
  · intro x y edge
    rcases second.fences x y edge with old | new
    · exact first.fences x y old
    · exact .inr new

theorem publishes_add (ledger : Ledger s) (ready : Ready s source destination) (here : source ∈ s.handles)
    (there : destination ∈ s.handles) : Publishes s (s.addDependency source destination) source destination := by
  obtain ⟨entry,found,rfl⟩ := mem_map.mp here
  obtain ⟨dependency,held,rfl⟩ := mem_map.mp there
  have eq := addDependency_entries s entry.handle dependency.handle
  exact ⟨ledger.addDependency found held (ready.source entry found rfl).1,
    ready.map eq (fun _ => rfl) (fun _ => rfl) (fun _ => rfl),rfl,⟨_,eq,fun _ => rfl,fun _ => rfl,fun _ => rfl⟩,
    fun _ _ edge => fences_addDependency edge⟩

theorem publishes_remove (ledger : Ledger s) (ready : Ready s source destination) (here : source ∈ s.handles)
    (before : Nat) : Publishes s (s.removeDependency source before) source destination := by
  obtain ⟨entry,found,rfl⟩ := mem_map.mp here
  have eq := removeDependency_entries s entry.handle before
  exact ⟨ledger.removeDependency found before (ready.source entry found rfl).2,
    ready.map eq (fun _ => rfl) (fun _ => rfl) (fun _ => rfl),rfl,⟨_,eq,fun _ => rfl,fun _ => rfl,fun _ => rfl⟩,
    fun _ _ edge => .inl (fences_removeDependency edge)⟩

theorem publishes_parent (ledger : Ledger s) (ready : Ready s source destination) (parent : Option Nat) :
    Publishes s (s.modify source fun e => {e with parent := parent}) source destination := by
  let g : Entry → Entry := fun e => if e.handle = source then {e with parent := parent} else e
  have kept : ∀ e, (g e).handle = e.handle ∧ (g e).state = e.state ∧ (g e).resource = e.resource ∧
      (g e).dependencies = e.dependencies := by
    intro e
    simp only [g]
    split <;> simp
  have eq : (s.modify source fun e => {e with parent := parent}).entries = s.entries.map g := rfl
  refine ⟨setParent_ledger ledger source parent,
    ready.map eq (fun e => (kept e).1) (fun e => (kept e).2.1) (fun e => (kept e).2.2.1),rfl,
    ⟨g,eq,fun e => (kept e).1,fun e => (kept e).2.1,fun e => (kept e).2.2.1⟩,?_⟩
  rintro x y ⟨_,member,own,depends⟩
  obtain ⟨e,there,rfl⟩ := mem_map.mp member
  rw [(kept e).1] at own
  rw [(kept e).2.2.2] at depends
  exact .inl ⟨e,there,own,depends⟩

theorem Publishes.handles (publishes : Publishes s s' source destination) : s'.handles = s.handles := by
  obtain ⟨g,eq,handle,-⟩ := publishes.entries
  exact handles_map g handle eq

theorem publishes_confirm (ledger : Ledger s) (ready : Ready s source destination) :
    Publishes s (s.confirmPublication source destination).1 source destination := by
  unfold confirmPublication
  cases found : s.get source with
  | none => exact .refl ledger ready
  | some entry =>
    cases held : s.get destination with
    | none => exact .refl ledger ready
    | some parent =>
      obtain ⟨here,rfl⟩ := get_some found
      obtain ⟨there,rfl⟩ := get_some held
      have member : entry.handle ∈ s.handles := mem_map_of_mem here
      have target : parent.handle ∈ s.handles := mem_map_of_mem there
      have attach : ∀ {left : Calls}, Publishes s left entry.handle parent.handle → Publishes s
          ((left.addDependency entry.handle parent.handle).modify entry.handle fun e =>
            {e with parent := some parent.handle}) entry.handle parent.handle := by
        intro left moved
        have added := publishes_add moved.ledger moved.ready (moved.handles ▸ member) (moved.handles ▸ target)
        exact (moved.trans added).trans (publishes_parent added.ledger added.ready _)
      simp only
      split
      · exact .refl ledger ready
      · cases before : entry.parent with
        | none => exact attach (.refl ledger ready)
        | some old => exact attach (publishes_remove ledger ready member old)

theorem publish_cases (ledger : Ledger s) (source destination : Nat) (native : Option NativeError) (confirmed : Bool) :
    (s.publish source destination native confirmed).1 = s ∨
      (Publishes s (s.publish source destination native confirmed).1 source destination ∧
        s.mayPublish source destination native) := by
  unfold publish
  split
  · exact .inl rfl
  next settling =>
  have going : s.settling = false := Bool.eq_false_iff.mpr settling
  cases found : s.get source with
  | none =>
    left
    cases native with
    | some error => rfl
    | none => cases confirmed <;> simp [confirmPublication,found]
  | some publishing =>
    cases held : s.get destination with
    | none =>
      left
      cases native with
      | some error => rfl
      | none => cases confirmed <;> simp [confirmPublication,found,held]
    | some parent =>
      obtain ⟨here,rfl⟩ := get_some found
      obtain ⟨there,rfl⟩ := get_some held
      have member : publishing.handle ∈ s.handles := mem_map_of_mem here
      have target : parent.handle ∈ s.handles := mem_map_of_mem there
      have fenced : publishing.publishesTo parent → Publishes s (if parent.handle ∉ publishing.dependencies then
          s.addDependency publishing.handle parent.handle else s) publishing.handle parent.handle := by
        intro accepts
        simp only [Entry.publishesTo,Bool.and_eq_true,Bool.or_eq_true,bne_iff_ne,beq_iff_eq] at accepts
        obtain ⟨⟨⟨unclosed,-⟩,directory⟩,kind⟩ := accepts
        have ready : Ready s publishing.handle parent.handle := by
          constructor
          · intro e old own
            rw [entry_unique ledger.distinct old here own,directory]
            exact ⟨unclosed,by decide⟩
          · intro e old own
            rw [entry_unique ledger.distinct old there own]
            rcases kind with root | directory'
            · rw [root]
              decide
            · rw [directory']
              decide
        split
        · exact publishes_add ledger ready member target
        · exact .refl ledger ready
      simp only
      cases outcome : answer (!publishing.publishesTo parent) native with
      | some error =>
        simp only
        by_cases effectless : error.effectless
        · left
          split
          · next both =>
            rw [if_pos both.1]
            exact removeDependency_addDependency ledger here both.1
          · next neither =>
            rw [if_neg fun fresh => neither ⟨fresh,effectless⟩]
        · have accepts : publishing.publishesTo parent := by
            by_contra refuses
            simp only [Bool.eq_false_iff.mpr refuses,Bool.not_false,answer,if_true,Option.some.injEq] at outcome
            exact effectless (outcome ▸ rfl)
          right
          rw [if_neg fun both => effectless both.2]
          refine ⟨fenced accepts,going,publishing,parent,found,held,fun error' same => ?_⟩
          rw [outcome] at same
          cases same
          exact Bool.eq_false_iff.mpr effectless
      | none =>
        have accepts : publishing.publishesTo parent := by simpa using answer_accepts outcome
        have may : s.mayPublish publishing.handle parent.handle native :=
          ⟨going,publishing,parent,found,held,fun error same => by rw [outcome] at same; cases same⟩
        right
        have first := fenced accepts
        cases confirmed with
        | false => exact ⟨first,may⟩
        | true => exact ⟨first.trans (publishes_confirm first.ledger first.ready),may⟩

theorem Sound.publish (sound : Sound s) (source destination : Nat) (native : Option NativeError) (confirmed : Bool) :
    Sound (s.publish source destination native confirmed).1 := by
  rcases publish_cases sound.ledger source destination native confirmed with same | ⟨publishes,-⟩
  · rw [same]
    exact sound
  · obtain ⟨g,eq,handle,state,-⟩ := publishes.entries
    exact ⟨publishes.ledger,sound.attempts.map publishes.attempts eq handle fun e _ => state e⟩

/-- Nothing that is not closed depends on a writer, and nobody was attempted while what depended
on it was not closed. -/
structure Quiet (s : Calls) : Prop where
  writers : ∀ e ∈ s.entries, e.resource = .artifactWriter → s.unresolved e.handle = []
  free : ∀ a ∈ s.attempts, a.unresolved = []

theorem new_quiet : Quiet Calls.new := ⟨by rintro e ⟨⟩,by rintro a ⟨⟩⟩

theorem Quiet.map (quiet : Quiet s) (eq : s'.entries = s.entries.map g)
    (handle : ∀ e, (g e).handle = e.handle) (resource : ∀ e, (g e).resource = e.resource)
    (unresolved : ∀ e ∈ s.entries, e.resource = .artifactWriter →
      ∀ y ∈ s'.unresolved e.handle, y ∈ s.unresolved e.handle)
    (free : ∀ a ∈ s'.attempts, a.unresolved = []) : Quiet s' := by
  refine ⟨fun e' member writer => ?_,free⟩
  rw [eq] at member
  obtain ⟨e,there,rfl⟩ := mem_map.mp member
  rw [resource] at writer
  rw [handle]
  apply eq_nil_iff_forall_not_mem.mpr
  intro y waiting
  have before := unresolved e there writer y waiting
  rw [quiet.writers e there writer] at before
  cases before

theorem Quiet.opens (quiet : Quiet s) (sound : Sound s) (opens : Opens s s' entry)
    (kinds : ∀ e ∈ s.entries, e.handle ∈ entry.dependencies → e.resource ≠ .artifactWriter) : Quiet s' := by
  refine ⟨fun e' member writer => ?_,by rw [opens.attempts]; exact quiet.free⟩
  apply eq_nil_iff_forall_not_mem.mpr
  intro y waiting
  obtain ⟨d',found,_,depends,state⟩ := mem_unresolved.mp waiting
  rw [opens.entries,mem_append] at member found
  rcases member with old | new
  · obtain ⟨e,there,rfl⟩ := mem_map.mp old
    rw [awaited_resource] at writer
    rw [awaited_handle] at depends
    rcases found with was | new
    · obtain ⟨d,here,rfl⟩ := mem_map.mp was
      rw [awaited_dependencies] at depends
      rw [awaited_state] at state
      have before := mem_unresolved.mpr ⟨d,here,rfl,depends,state⟩
      rw [quiet.writers e there writer] at before
      cases before
    · rw [mem_singleton.mp new] at depends
      exact kinds e there depends writer
  · rw [mem_singleton.mp new] at depends
    rcases found with was | new
    · obtain ⟨d,here,rfl⟩ := mem_map.mp was
      rw [awaited_dependencies] at depends
      exact opens.fresh (sound.ledger.tracked d here _ depends)
    · rw [mem_singleton.mp new] at depends
      exact opens.fresh (opens.known _ depends)

theorem Quiet.publishes (quiet : Quiet s) (sound : Sound s) (publishes : Publishes s s' source destination) :
    Quiet s' := by
  obtain ⟨g,eq,handle,state,resource⟩ := publishes.entries
  refine quiet.map eq handle resource (fun e there writer y waiting => ?_) (publishes.attempts ▸ quiet.free)
  obtain ⟨_,member,own,depends,unclosed⟩ := mem_unresolved.mp waiting
  rcases publishes.fences e.handle y ⟨_,member,own,depends⟩ with ⟨d,here,same,before⟩ | ⟨target,-⟩
  · refine mem_unresolved.mpr ⟨d,here,same,before,?_⟩
    rw [eq] at member
    obtain ⟨d',was,rfl⟩ := mem_map.mp member
    rw [state] at unclosed
    rw [handle] at own
    rwa [entry_unique sound.ledger.distinct here was (same.trans own.symm)]
  · have kept : g e ∈ s'.entries := by
      rw [eq]
      exact mem_map_of_mem there
    exact absurd ((resource e).trans writer) (publishes.ready.destination _ kept ((handle e).trans target))

theorem Quiet.attempts (quiet : Quiet s) (sound : Sound s) (attempts : Attempts s s' entry g)
    (here : entry ∈ s.entries) (opened : entry.state = .opened) (free : ∀ a ∈ s'.attempts, a.unresolved = []) :
    Quiet s' :=
  quiet.map attempts.entries attempts.handle attempts.resource
    (fun _ _ _ _ waiting => attempts.unresolved sound.ledger.distinct here opened waiting) free

/-- An attempt at a handle that nothing waits for. -/
theorem Quiet.logged (quiet : Quiet s) (alone : s.unresolved handle = [])
    (logged : s'.attempts = s.attempts ++ [⟨handle,s.unresolved handle,rejected⟩]) :
    ∀ a ∈ s'.attempts, a.unresolved = [] := by
  intro a member
  rw [logged,mem_append] at member
  rcases member with old | new
  · exact quiet.free a old
  · rw [mem_singleton.mp new]
    exact alone

theorem Quiet.close (quiet : Quiet s) (sound : Sound s) (handle : Nat) (native : Option NativeError) :
    Quiet (s.close handle native).1 := by
  rcases close_cases sound.ledger handle native with ⟨thrown,same,-⟩ | ⟨entry,g,here,rfl,opened,alone,attempts,-,logged⟩
  · rw [same]
    exact quiet
  · exact quiet.attempts sound attempts here opened
      (quiet.logged _ (sound.ledger.unresolved_empty here alone) logged)

theorem Quiet.finish (quiet : Quiet s) (sound : Sound s) (writer : Nat) (native : Option NativeError) :
    Quiet (s.finish writer native).1 := by
  rcases finish_cases sound.ledger writer native with
    same | ⟨entry,g,here,opened,attempts,⟨none,-⟩ | ⟨kind,rejected,logged,-⟩⟩
  · rw [same]
    exact quiet
  · exact quiet.attempts sound attempts here opened (none ▸ quiet.free)
  · exact quiet.attempts sound attempts here opened (quiet.logged _ (quiet.writers entry here kind) logged)

end GjcRemote.ServiceCalls
