import GjcRemote.ServiceCallsRun

/-! Many handles closed in one pass, the report of what is left, and what holds of the ledger
after any sequence of calls. -/
namespace GjcRemote.ServiceCalls

open PostOrder

variable {s s' : Calls}

structure Closes (s s' : Calls) : Prop where
  sound : Sound s'
  settling : s'.settling = s.settling
  fences : s'.Fences = s.Fences
  handles : s'.handles = s.handles
  unresolved : ∀ x y, y ∈ s'.unresolved x → y ∈ s.unresolved x
  spent : ∀ e' ∈ s'.entries, e'.state = .opened → ∃ e ∈ s.entries, e.handle = e'.handle ∧ e.state = .opened

theorem Closes.refl (sound : Sound s) : Closes s s where
  sound := sound
  settling := rfl
  fences := rfl
  handles := rfl
  unresolved _ _ found := found
  spent e member opened := ⟨e,member,rfl,opened⟩

theorem Closes.trans (first : Closes s s') (second : Closes s' s'') : Closes s s'' where
  sound := second.sound
  settling := second.settling.trans first.settling
  fences := second.fences.trans first.fences
  handles := second.handles.trans first.handles
  unresolved x y found := first.unresolved x y (second.unresolved x y found)
  spent e'' member opened := by
    obtain ⟨e',there,own,state⟩ := second.spent e'' member opened
    obtain ⟨e,here,same,open'⟩ := first.spent e' there state
    exact ⟨e,here,same.trans own,open'⟩

theorem close_settling (s : Calls) (handle : Nat) (native : Option NativeError) :
    (s.close handle native).1.settling = s.settling := by
  unfold Calls.close
  split
  · rfl
  · split
    · rfl
    · rfl
    · split
      · rfl
      · split <;> rfl

/-- One close: another handle keeps its state, and this one is open only where something waits. -/
theorem close_closes (sound : Sound s) (handle : Nat) (native : Option NativeError) :
    Closes s (s.close handle native).1 ∧
    (∀ x y, y ≠ handle → y ∈ s.unresolved x → y ∈ (s.close handle native).1.unresolved x) ∧
    ∀ e ∈ (s.close handle native).1.entries, e.handle = handle → e.state = .opened →
      ∃ y, y ∈ (s.close handle native).1.unresolved handle := by
  have settling := close_settling s handle native
  rcases close_cases sound.ledger handle native with ⟨thrown,same,waits⟩ | ⟨entry,g,here,own,opened,alone,attempts,spent,logged⟩
  · rw [same]
    refine ⟨.refl sound,fun _ _ _ found => found,?_⟩
    intro e member own state
    rcases waits e member own with closed | waiting
    · exact absurd state closed
    · obtain ⟨y,depends⟩ := List.exists_mem_of_ne_nil _ waiting
      exact ⟨y,own ▸ (sound.ledger.matched e member y).mp depends⟩
  · subst own
    have after := attempts.once sound here opened logged fun _ => spent
    have states : ∀ e ∈ s.entries, (g e).state = e.state ∨ e = entry := by
      intro e member
      by_cases own : e.handle = entry.handle
      · exact .inr (entry_unique sound.ledger.distinct member here own)
      · exact .inl (attempts.others e member own)
    refine ⟨⟨after,settling,attempts.fences,handles_map g attempts.handle attempts.entries,
      fun x y found => attempts.unresolved sound.ledger.distinct here opened found,?_⟩,?_,?_⟩
    · intro _ member state
      rw [attempts.entries] at member
      obtain ⟨e,there,rfl⟩ := List.mem_map.mp member
      rcases states e there with same | rfl
      · exact ⟨e,there,(attempts.handle e).symm,same.symm.trans state⟩
      · exact absurd state spent
    · intro x y other found
      obtain ⟨e,member,own,depends,state⟩ := mem_unresolved.mp found
      refine mem_unresolved.mpr ⟨g e,?_,(attempts.handle e).trans own,?_,?_⟩
      · rw [attempts.entries]
        exact List.mem_map_of_mem member
      · rw [attempts.dependencies]
        exact depends
      · rw [attempts.others e member (own ▸ other)]
        exact state
    · intro _ member own state
      rw [attempts.entries] at member
      obtain ⟨e,there,rfl⟩ := List.mem_map.mp member
      rw [attempts.handle] at own
      rw [entry_unique sound.ledger.distinct there here own] at state
      exact absurd state spent

theorem closeEach_closes (native : Nat → Option NativeError) (order : List (Option Nat)) :
    ∀ {s : Calls}, Sound s → Closes s (s.closeEach native order).1 := by
  induction order with
  | nil => exact fun sound => .refl sound
  | cons first rest ih =>
    intro s sound
    cases first with
    | none => exact ih sound
    | some handle =>
      have closed := (close_closes sound handle (native handle)).1
      exact closed.trans (ih closed.sound)

theorem Quiet.closeEach (native : Nat → Option NativeError) (order : List (Option Nat)) :
    ∀ {s : Calls}, Sound s → Quiet s → Quiet (s.closeEach native order).1 := by
  induction order with
  | nil => exact fun _ quiet => quiet
  | cons first rest ih =>
    intro s sound quiet
    cases first with
    | none => exact ih sound quiet
    | some handle => exact ih (sound.close handle (native handle)) (quiet.close sound handle (native handle))

/-- What another handle waits for, and itself waits for what stays open, is not closed. -/
theorem close_blocked (sound : Sound s) (handle : Nat) (native : Option NativeError)
    (open' : ∃ e ∈ (s.close handle native).1.entries, e.handle = x ∧ e.state = .opened)
    (waits : y ∈ s.unresolved z) (path : Relation.ReflTransGen (fun a b => b ∈ s.unresolved a) y x) :
    y ∈ (s.close handle native).1.unresolved z := by
  obtain ⟨closes,stays,-⟩ := close_closes sound handle native
  by_cases other : y = handle
  · subst other
    rcases Relation.ReflTransGen.cases_head path with rfl | ⟨w,next,-⟩
    · -- it is the one that stays open
      obtain ⟨d,member,own,depends,-⟩ := mem_unresolved.mp waits
      have edge : (s.close y native).1.Fences z y := closes.fences ▸ ⟨d,member,own,depends⟩
      obtain ⟨d',there,same,known⟩ := edge
      obtain ⟨e,here,named,opened⟩ := open'
      refine mem_unresolved.mpr ⟨d',there,same,known,?_⟩
      rw [entry_unique closes.sound.ledger.distinct there here (same.trans named.symm),opened]
      decide
    · rcases close_cases sound.ledger y native with ⟨thrown,same,-⟩ | ⟨entry,g,here,rfl,-,alone,-⟩
      · rw [same]
        exact waits
      · rw [sound.ledger.unresolved_empty here alone] at next
        cases next
  · exact stays z y other waits

theorem closeEach_blocked (native : Nat → Option NativeError) (order : List (Option Nat)) :
    ∀ {s : Calls}, Sound s → (∃ e ∈ (s.closeEach native order).1.entries, e.handle = x ∧ e.state = .opened) →
      ∀ {y z}, y ∈ s.unresolved z → Relation.ReflTransGen (fun a b => b ∈ s.unresolved a) y x →
        y ∈ (s.closeEach native order).1.unresolved z := by
  induction order with
  | nil => exact fun _ _ _ _ waits _ => waits
  | cons first rest ih =>
    intro s sound open' y z waits path
    cases first with
    | none => exact ih sound open' waits path
    | some handle =>
      have closed := (close_closes sound handle (native handle)).1
      have later : ∃ e ∈ (s.close handle (native handle)).1.entries, e.handle = x ∧ e.state = .opened := by
        obtain ⟨e',member,own,opened⟩ := open'
        obtain ⟨e,there,same,state⟩ := (closeEach_closes native rest closed.sound).spent e' member opened
        exact ⟨e,there,same.trans own,state⟩
      refine ih closed.sound open' (close_blocked sound handle (native handle) later waits path) ?_
      clear waits
      induction path using Relation.ReflTransGen.head_induction_on with
      | refl => exact .refl
      | head edge path kept => exact .head (close_blocked sound handle (native handle) later edge path) kept

/-- What has had its turn, or does not get one, is waited for as before. -/
theorem closeEach_stays (native : Nat → Option NativeError) (order : List (Option Nat)) :
    ∀ {s : Calls}, Sound s → y ∈ s.unresolved x → some y ∉ order →
      y ∈ (s.closeEach native order).1.unresolved x := by
  induction order with
  | nil => exact fun _ waits _ => waits
  | cons first rest ih =>
    intro s sound waits away
    have later : some y ∉ rest := fun found => away (List.mem_cons_of_mem _ found)
    cases first with
    | none => exact ih sound waits later
    | some handle =>
      obtain ⟨closes,stays,-⟩ := close_closes sound handle (native handle)
      have other : y ≠ handle := fun same => away (same ▸ List.mem_cons_self)
      exact ih closes.sound (stays x y other waits) later

theorem closeEach_append (native : Nat → Option NativeError) (before after : List (Option Nat)) :
    ∀ s : Calls, (s.closeEach native (before ++ after)).1 =
      ((s.closeEach native before).1.closeEach native after).1 := by
  induction before with
  | nil => exact fun _ => rfl
  | cons first rest ih =>
    intro s
    cases first with
    | none => exact ih s
    | some handle => exact ih _

/-- Handles are closed after all that waits for them and does not depend on them: one that is
still open waits for one that is not closed. -/
theorem closeEach_passes (native : Nat → Option NativeError) {handles order : List (Option Nat)} (sound : Sound s)
    (sorted : Ordered next order) (distinct : order.Nodup) (inside : ∀ x ∈ order, x ∈ handles)
    (known : ∀ x y, y ∈ s.unresolved x → some y ∈ handles → some y ∈ next (some x))
    (edges : ∀ x y, y ∈ next x → ∃ a b, x = some a ∧ y = some b ∧ b ∈ s.unresolved a)
    (listed : some e.handle ∈ order) (member : e ∈ (s.closeEach native order).1.entries)
    (opened : e.state = .opened) : (s.closeEach native order).1.unresolved e.handle ≠ [] := by
  obtain ⟨before,after,split⟩ := List.append_of_mem listed
  have first := closeEach_closes native before sound
  obtain ⟨closes,-,waits⟩ := close_closes first.sound e.handle (native e.handle)
  have result : (s.closeEach native order).1 =
      (((s.closeEach native before).1.close e.handle (native e.handle)).1.closeEach native after).1 := by
    rw [split,closeEach_append]
    rfl
  have open' : ∃ e' ∈ (s.closeEach native order).1.entries, e'.handle = e.handle ∧ e'.state = .opened :=
    ⟨e,member,rfl,opened⟩
  -- it was open after its own turn, and so waited for another
  obtain ⟨d,there,own,state⟩ := (closeEach_closes native after closes.sound).spent e (result ▸ member) opened
  obtain ⟨y,waiting⟩ := waits d there own state
  have initial : y ∈ s.unresolved e.handle := first.unresolved _ _ (closes.unresolved _ _ waiting)
  suffices found : y ∈ (s.closeEach native order).1.unresolved e.handle by
    intro none
    rw [none] at found
    cases found
  by_cases ahead : some y ∈ after
  · have selected : some y ∈ handles := inside _ (by simp [split,ahead])
    rcases sorted before (some e.handle) after split _ (known _ _ initial selected) with earlier | back
    · rw [split] at distinct
      exact absurd (List.mem_cons_of_mem _ ahead) fun later =>
        (List.nodup_append.mp distinct).2.2 _ earlier _ later rfl
    · -- it waits itself for the one that is still open
      refine closeEach_blocked native order sound open' initial ?_
      have lifted : ∀ {x : Option Nat}, Relation.ReflTransGen (fun a b => b ∈ next a) x (some e.handle) →
          ∀ a, x = some a → Relation.ReflTransGen (fun a b => b ∈ s.unresolved a) a e.handle := by
        intro x path
        induction path using Relation.ReflTransGen.head_induction_on with
        | refl =>
          rintro a ⟨⟩
          exact .refl
        | head edge _ ih =>
          rintro a rfl
          obtain ⟨a',b,same,rfl,waits⟩ := edges _ _ edge
          cases same
          exact .head waits (ih b rfl)
      exact lifted back y rfl
  · rw [result]
    exact closeEach_stays native after closes.sound waiting ahead

theorem mem_selectedDependents (member : y ∈ s.selectedDependents handles x) :
    y ∈ handles ∧ ∃ a b e, x = some a ∧ y = some b ∧ s.get a = some e ∧ b ∈ e.dependents := by
  obtain ⟨found,selected⟩ := List.mem_filter.mp member
  obtain ⟨b,depends,rfl⟩ := List.mem_map.mp found
  cases x with
  | none => cases depends
  | some a =>
    simp only [Option.bind_some] at depends
    cases there : s.get a with
    | none =>
      rw [there] at depends
      cases depends
    | some e =>
      rw [there] at depends
      exact ⟨of_decide_eq_true selected,a,b,e,rfl,rfl,there,depends⟩

/-- The edges of the walk lead to what waits. -/
theorem selectedDependents_unresolved (sound : Sound s) (member : y ∈ s.selectedDependents handles x) :
    ∃ a b, x = some a ∧ y = some b ∧ b ∈ s.unresolved a := by
  obtain ⟨-,a,b,e,rfl,rfl,found,depends⟩ := mem_selectedDependents member
  obtain ⟨here,rfl⟩ := get_some found
  exact ⟨e.handle,b,rfl,rfl,(sound.ledger.matched e here b).mp depends⟩

/-- After one pass a selected handle is open only where one that is not closed depends on it. -/
theorem closeHandles_passes (sound : Sound s) (handles : List (Option Nat))
    (native : Nat → Option NativeError) (member : e ∈ (s.closeHandles handles native).1.entries)
    (selected : some e.handle ∈ handles) :
    e.state ≠ .opened ∨ (s.closeHandles handles native).1.unresolved e.handle ≠ [] := by
  have closed : ∀ x ∈ handles.dedup, ∀ y ∈ s.selectedDependents handles x, y ∈ handles.dedup := by
    intro x _ y found
    exact List.mem_dedup.mpr (mem_selectedDependents found).1
  have done := visitAll_empty (List.nodup_dedup handles) closed
    handles.reverse fun x found => List.mem_dedup.mpr (List.mem_reverse.mp found)
  have known : ∀ x y, y ∈ s.unresolved x → some y ∈ handles → some y ∈ s.selectedDependents handles (some x) := by
    intro x y waiting chosen
    obtain ⟨d,there,rfl,depends,-⟩ := mem_unresolved.mp waiting
    obtain ⟨e,here,rfl⟩ := List.mem_map.mp (sound.ledger.tracked d there x depends)
    have found := get_of_mem sound.ledger.distinct here
    have dependent := (sound.ledger.matched e here _).mpr waiting
    simpa [Calls.selectedDependents,found,chosen] using dependent
  have listed : some e.handle ∈ s.closeOrder handles := done.listed _ (List.mem_reverse.mpr selected)
  refine Decidable.or_iff_not_imp_left.mpr fun opened => ?_
  exact closeEach_passes native sound done.sorted done.distinct (fun x found => List.mem_dedup.mp (done.inside x found))
    known (fun _ _ found => selectedDependents_unresolved sound found) listed member (not_not.mp opened)

end GjcRemote.ServiceCalls
