import GjcRemote.TrialBoundaryIdentity

/-! Runs of publications over a growing journal: the boundaries of a trial are one lawful
chain as long as no first observation falls behind its initial cursor. -/
namespace GjcRemote.TrialBoundary

open Utf16 StrictJson Record Envelope
open List hiding get
open ServiceEnvelope ServiceJournal

section Store

variable {sha256 : List UInt8 → Units} {cfg : Config}

/-- An entry of the journal is of the transaction that a boundary names. -/
structure Describes (entry boundary : Value) : Prop where
  names : agree entry boundary ["transactionId","transactionNonce"] = true
  transition : agree (get entry "transition") boundary ["transitionFingerprint"] = true

def Bound (journal : List Value) (boundary : Value) : Prop := ∃ entry ∈ journal, Describes entry boundary

structure BoundTo (sha256 : List UInt8 → Units) (cfg : Config) (boundary : Value) (journal : List Value)
    (binding : Binding) : Prop where
  serviceKey : get boundary "serviceKey" = .string cfg.serviceKey
  version : (versions boundary journal).getLast? = some binding.transaction
  latest : journal.getLast? = some binding.latest
  transition : agree (get binding.transaction "transition") boundary ["transitionFingerprint"] = true
  identity : ∃ digest, identityOf sha256 binding.transaction = .ok digest ∧
    identityOf sha256 binding.latest = .ok digest

variable {journal : List Value} {binding : Binding}

theorem bound_of_binding
    (bound : validateTrialBoundaryBinding sha256 cfg boundary journal records operation = .ok binding) :
    BoundTo sha256 cfg boundary journal binding := by
  simp only [validateTrialBoundaryBinding,checks_ok] at bound
  obtain ⟨-,serviceKey,bound⟩ := bound
  cases version : (versions boundary journal).getLast? with
  | none => rw [version] at bound; cases bound
  | some transaction =>
    cases latest : journal.getLast? with
    | none => rw [version,latest] at bound; cases bound
    | some last =>
      rw [version,latest] at bound
      simp only [except_unit_bind_ok,except_bind_ok (α := Units),except_bind_ok (α := Option Value × Bool),
        check_ok,beq_iff_eq,pure,Except.pure,Except.ok.injEq] at bound
      obtain ⟨members,digest,own,digest',other,equal,found,-,-,rfl⟩ := bound
      simp only [isBoundTo,Bool.and_eq_true] at members
      refine ⟨same_string (strictEqual_same serviceKey),version,latest,members.1.1.1.2,digest,own,?_⟩
      rw [equal]
      exact other

theorem BoundTo.describes (bound : BoundTo sha256 cfg boundary journal binding) :
    binding.transaction ∈ journal ∧ Describes binding.transaction boundary := by
  have member := mem_of_getLast? bound.version
  rw [versions,mem_filter] at member
  exact ⟨member.1,member.2,bound.transition⟩

variable {value : Value}

theorem transition_keys (valid : validateServiceTransaction sha256 value = .ok ()) :
    hasOwn value "transition" ∧ hasOwn (get value "transition") "transitionFingerprint" := by
  have members := members_of_valid valid
  simp only [validateServiceTransaction,except_unit_bind_ok] at valid
  obtain ⟨-,-,-,-,-,transition,-⟩ := valid
  simp only [validateServiceTransitionProof,checks_ok,Bool.and_eq_true] at transition
  exact ⟨hasOwn_of_exact members.keys (by decide),hasOwn_of_exact transition.1.1.1.1 (by decide)⟩

/-- Boundaries of one transaction name it alike. -/
theorem describes_alike
    (valid : Valid sha256 cfg entry bytes) (valid' : Valid sha256 cfg entry' bytes') (alike : Alike entry entry')
    (describes : Describes entry boundary) (describes' : Describes entry' boundary')
    (facts : Facts sha256 boundary) :
    ∀ key ∈ ["transactionId","transactionNonce","transitionFingerprint"],
      get boundary' key = get boundary key := by
  have names (key : String) (listed : key ∈ ["transactionId","transactionNonce"]) :
      Same (get boundary' key) (get boundary key) := by
    have shared : key ∈ ServiceJournal.identityKeys := by
      revert key
      decide
    have left := strictEqual_same (all_eq_true.mp describes.names key listed)
    have right := strictEqual_same (all_eq_true.mp describes'.names key listed)
    exact right.symm.trans ((alike key shared).symm.trans left)
  obtain ⟨inside,inner⟩ := transition_keys valid.transaction
  have transitions := alike "transition" (by decide)
  have fingerprints := get_same (distinct_get valid.clean.distinct _) (distinct_get valid'.clean.distinct _)
    transitions inner
  have left := strictEqual_same (all_eq_true.mp describes.transition _ mem_cons_self)
  have right := strictEqual_same (all_eq_true.mp describes'.transition _ mem_cons_self)
  have transition := right.symm.trans (fingerprints.symm.trans left)
  simp only [forall_mem_cons,not_mem_nil,false_implies,implies_true,and_true]
  refine ⟨?_,?_,?_⟩
  · obtain ⟨text,own⟩ := isSafeId_string facts.transactionId
    have same := names "transactionId" (by decide)
    rw [own] at same ⊢
    exact same_string same
  · obtain ⟨text,own⟩ := isNonce_string facts.transactionNonce
    have same := names "transactionNonce" (by decide)
    rw [own] at same ⊢
    exact same_string same
  · obtain ⟨text,own,-⟩ := isHex_iff.mp facts.transition
    rw [own] at transition ⊢
    exact same_string transition

theorem rises_to_last (rises : journal.Pairwise Rises)
    (member : entry ∈ journal) (ends : journal.getLast? = some last) : entry = last ∨ Rises entry last := by
  obtain ⟨init,rfl⟩ := getLast?_eq_some_iff.mp ends
  rcases mem_append.mp member with early | late
  · exact .inr ((pairwise_append.mp rises).2.2 entry early last mem_cons_self)
  · exact .inl (mem_singleton.mp late)

/-- The first entry of a transaction is no later than another one of it. -/
theorem rises_from_first (rises : journal.Pairwise Rises)
    (found : journal.find? named = some first) (member : entry ∈ journal)
    (also : named entry) : first = entry ∨ Rises first entry := by
  obtain ⟨-,before,after,rfl,others⟩ := find?_eq_some_iff_append.mp found
  rcases mem_append.mp member with early | late
  · have not := others entry early
    rw [also] at not
    cases not
  · rcases mem_cons.mp late with rfl | later
    · exact .inl rfl
    · exact .inr (rel_of_pairwise_cons (pairwise_append.mp rises).2.1 later)

variable {previous : Value}

/-- A new attempt is of the transaction that the boundary before it described, however the
journal grew between them. -/
theorem continues_alike (accepted : Accepted sha256 cfg journal) (injective : InjectiveOnCanonical sha256)
    (bound : BoundTo sha256 cfg value journal binding) (member : entry ∈ journal)
    (describes : Describes entry previous)
    (continues : continuesTransaction sha256 previous binding journal = .ok true) :
    Alike entry binding.transaction := by
  have rises := accepted_rises accepted injective
  have distinct (other : Value) (member : other ∈ journal) : DistinctKeys other := by
    obtain ⟨_,valid⟩ := accepted.valid other member
    exact valid.clean.distinct
  simp only [continuesTransaction,except_bind_ok (α := Units),pure,Except.pure,Except.ok.injEq,
    beq_iff_eq] at continues
  obtain ⟨digest,own,digest',old,equal⟩ := continues
  subst equal
  obtain ⟨digest',own',last⟩ := bound.identity
  obtain rfl := Except.ok.inj (own'.symm.trans own)
  cases found : journal.find? fun entry => agree entry previous ["transactionId","transactionNonce"] with
  | none =>
    have missed := find?_eq_none.mp found entry member
    exact absurd describes.names missed
  | some first =>
    rw [found,Option.getD_some] at old
    have inside := mem_of_find?_eq_some found
    have now := bound.describes.1
    have ends := mem_of_getLast? bound.latest
    have firstLast := alike_of_identity injective (distinct _ inside) (distinct _ ends) old last
    have firstNow := alike_of_identity injective (distinct _ inside) (distinct _ now) old own
    rcases rises_from_first rises found member describes.names with rfl | early
    · exact firstNow
    · rcases rises_to_last rises member bound.latest with rfl | late
      · exact firstLast.symm.trans firstNow
      · exact (early.between late firstLast).symm.trans firstNow

structure Published (sha256 : List UInt8 → Units) (cfg : Config) (trial : Trial) (raw : Value)
    (expected : Option Receipt) (value : Value) (bytes : File) : Prop where
  given : Facts sha256 raw
  clean : Clean value bytes
  same : Same raw value
  valid : validateServiceTrialBoundary sha256 value = .ok ()
  current : trial.boundary = expected.map Receipt.bytes
  accepted : ∃ binding, BoundTo sha256 cfg value trial.journal binding ∧
    (expected = none → startsTrial value binding.latest = true) ∧
    ∀ receipt, expected = some receipt →
      checkSuccessor sha256 receipt.value value binding trial.journal = .ok ()

theorem published_of_ok {v : JsValue}
    (published : publishTrialBoundary sha256 cfg trial v.value expected records = .ok written) :
    Published sha256 cfg trial v.value expected written.1 written.2 := by
  simp only [publishTrialBoundary,except_unit_bind_ok,except_bind_ok (α := Value),
    except_bind_ok (α := Binding),except_bind_ok (α := File),orThrow_ok,snapshot_ok,check_ok,beq_iff_eq,
    pure,Except.pure,Except.ok.injEq] at published
  obtain ⟨-,raw,value,⟨cloned,valid⟩,binding,bound,-,accepted,bytes,recorded,current,rfl⟩ := published
  obtain ⟨normal,bytes',-,clean⟩ := cloneJson_clean cloned
  obtain ⟨frozen,cloned',-,encoded⟩ := recordBytes_ok recorded
  obtain rfl := Except.ok.inj (cloned'.symm.trans clean.cloned)
  obtain rfl := Except.ok.inj (encoded.symm.trans clean.encoded)
  refine ⟨facts_of_valid raw,clean,?_,valid,current,binding,bound_of_binding bound,?_,?_⟩
  · rw [normal]
    exact same_normalize v.distinct
  · rintro rfl
    exact check_ok.mp accepted
  · rintro receipt rfl
    exact accepted

/-- The check of a successor, with the transaction of a new attempt. -/
theorem successor_of_check (checked : checkSuccessor sha256 previous value binding journal = .ok ()) :
    validateServiceTrialBoundarySuccessor sha256 previous value = .ok () ∧
      (attemptOf previous < attemptOf value →
        continuesTransaction sha256 previous binding journal = .ok true) := by
  simp only [checkSuccessor,except_unit_bind_ok,orThrow_ok] at checked
  obtain ⟨-,valid,rest⟩ := checked
  refine ⟨valid,fun grew => ?_⟩
  rw [attemptOf,attemptOf] at grew
  rw [if_pos grew] at rest
  simp only [except_unit_bind_ok,except_bind_ok (α := Bool),check_ok] at rest
  obtain ⟨-,same,continues,rfl⟩ := rest
  exact continues

/-- The condition on one publication that the store takes: its first observation does not fall
behind the initial cursor. -/
def Event.keeps : Event → Prop
  | .publish value (some receipt) _ => Keeps receipt.value value.value
  | _ => True

theorem keeps_same (facts : Facts sha256 raw) (distinct : DistinctKeys raw)
    (distinct' : DistinctKeys value) (same : Same raw value) (keeps : Keeps previous raw) :
    Keeps previous value := by
  intro captured observed attempt
  have member (key : String) (listed : key ∈ TRIAL_BOUNDARY_KEYS) : Same (get raw key) (get value key) :=
    get_same distinct distinct' same (hasOwn_of_exact facts.keys listed)
  have phase := member "phase" (by decide)
  rw [isObserved,isText_iff] at observed
  rw [observed] at phase
  have observed' : isObserved raw := by rw [isObserved,same_string phase,isText_iff]
  have attempt' : attemptOf raw = attemptOf previous := by
    rw [← attempt,attemptOf,attemptOf]
    exact numberOf_same (member "attempt" (by decide))
  have child := facts.observed (not_both observed')
  intro index bound
  have before := offsetOf_same (cursorSet_of_valid facts.initial) (distinct_get distinct _)
    (distinct_get distinct' _) (member "initialCursor" (by decide)) bound
  have after := offsetOf_same (cursorSet_of_valid child) (distinct_get distinct _) (distinct_get distinct' _)
    (member "childCursor" (by decide)) bound
  rw [← before,← after]
  exact keeps captured observed' attempt' index bound

structure Sound (sha256 : List UInt8 → Units) (cfg : Config) (trial : Trial) : Prop where
  accepted : Accepted sha256 cfg trial.journal
  lawful : Lawful trial.chain
  record : ∀ bytes, trial.boundary = some bytes → ∃ value, trial.chain.getLast? = some value ∧
    Clean value bytes ∧ Facts sha256 value ∧ get value "serviceKey" = .string cfg.serviceKey ∧
    Bound trial.journal value

theorem Lawful.single (facts : Facts sha256 value) (revision : isNumber 1 (get value "revision"))
    (attempt : isNumber 1 (get value "attempt")) (captured : isCaptured value)
    (previous : isNull (get value "previousBoundaryFingerprint")) : Lawful [value] where
  starts := by
    rintro _ _ ⟨⟩
    refine ⟨?_,captured,isNull_iff.mp previous⟩
    rw [attemptOf,numberOf,safeInteger_isNumber (by decide) attempt]
    rfl
  numbered := by
    intro i boundary located
    obtain ⟨bound,rfl⟩ := List.getElem?_eq_some_iff.mp located
    rw [length_singleton] at bound
    obtain rfl : i = 0 := by omega
    rw [getElem_singleton,numberOf,safeInteger_isNumber (by decide) revision]
    rfl
  next := by
    intro before _ _ after whole
    have length := congrArg length whole
    simp at length
    omega
  window := by simpa using facts.window
  fromInitial := by
    intro boundary member
    rw [mem_singleton.mp member,facts.cursor_captured captured]
    exact fun _ _ => Int.le_refl _
  pairs := pairwise_singleton ..

theorem Lawful.append (lawful : Lawful chain)
    (last : chain.getLast? = some previous) (next : Next previous value) (before : Before previous value)
    (window : numberOf (get value "startTickMs") ≤ numberOf (get value "lastTickMs") ∧
      numberOf (get value "lastTickMs") ≤ numberOf (get value "deadlineTickMs"))
    (fromInitial : Reaches (get value "initialCursor") (cursorOf value)) : Lawful (chain ++ [value]) where
  starts := by
    intro first rest whole
    cases chain with
    | nil => cases last
    | cons head tail =>
      cases whole
      exact lawful.starts _ _ rfl
  numbered := by
    intro i boundary located
    by_cases new : i = chain.length
    · subst new
      rw [getElem?_concat_length] at located
      cases located
      have nonempty : chain ≠ [] := fun none' => by rw [none'] at last; cases last
      have positive := length_pos_iff.mpr nonempty
      have old := lawful.numbered (chain.length - 1) previous (by rw [← getLast?_eq_getElem?]; exact last)
      rw [next.revision,old]
      omega
    · obtain ⟨bound,-⟩ := List.getElem?_eq_some_iff.mp located
      rw [length_append,length_singleton] at bound
      rw [getElem?_append_left (by omega)] at located
      exact lawful.numbered i boundary located
  next := by
    intro front a b after whole
    rcases eq_nil_or_concat after with none' | ⟨init,final,rfl⟩
    · subst none'
      have split : chain ++ [value] = (front ++ [a]) ++ [b] := by rw [whole]; simp
      obtain ⟨same,single⟩ := append_inj' split rfl
      cases single
      rw [same,getLast?_concat] at last
      cases last
      exact next
    · have split : chain ++ [value] = (front ++ a :: b :: init) ++ [final] := by rw [whole]; simp
      obtain ⟨same,-⟩ := append_inj' split rfl
      exact lawful.next front a b init same
  window := by
    intro boundary member
    rcases mem_append.mp member with old | new
    · exact lawful.window boundary old
    · rw [mem_singleton.mp new]
      exact window
  fromInitial := by
    intro boundary member
    rcases mem_append.mp member with old | new
    · exact lawful.fromInitial boundary old
    · rw [mem_singleton.mp new]
      exact fromInitial
  pairs := by
    refine pairwise_append.mpr ⟨lawful.pairs,pairwise_singleton ..,?_⟩
    intro boundary member other new
    rw [mem_singleton.mp new]
    obtain ⟨init,rfl⟩ := getLast?_eq_some_iff.mp last
    rcases mem_append.mp member with early | late
    · exact ((pairwise_append.mp lawful.pairs).2.2 boundary early previous mem_cons_self).trans before
    · rw [mem_singleton.mp late]
      exact before

/-- What an accepted successor keeps of the boundary it replaces. -/
theorem before_of_published (injective : InjectiveOnCanonical sha256)
    (accepted : Accepted sha256 cfg journal) (facts : Facts sha256 previous)
    (facts' : Facts sha256 value) (distinct : DistinctKeys previous) (distinct' : DistinctKeys value)
    (serviceKey : get previous "serviceKey" = .string cfg.serviceKey) (bound : Bound journal previous)
    (bound' : BoundTo sha256 cfg value journal binding)
    (checked : checkSuccessor sha256 previous value binding journal = .ok ()) (keeps : Keeps previous value) :
    Next previous value ∧ Before previous value := by
  obtain ⟨valid,continues⟩ := successor_of_check checked
  have succeeds := succeeds_of_valid injective distinct distinct' valid
  have next := next_of_succeeds facts succeeds
  have serviceKeys : get value "serviceKey" = get previous "serviceKey" := by
    rw [serviceKey,bound'.serviceKey]
  refine ⟨next,?_,?_,?_⟩
  · rw [boundaryKeys,forall_mem_cons]
    refine ⟨serviceKeys,?_⟩
    rcases next.attempt with same | ⟨grew,-⟩
    · -- in one attempt the members are compared themselves
      obtain ⟨-,members⟩ := sameAttempt_of_succeeds facts facts' distinct distinct' succeeds keeps same
      have member (key : String) (listed : key ∈ immutableKeys) : Same (get value key) (get previous key) :=
        strictEqual_same (all_eq_true.mp members key listed)
      simp only [forall_mem_cons,not_mem_nil,false_implies,implies_true,and_true]
      refine ⟨?_,?_,?_⟩
      · obtain ⟨text,own⟩ := isSafeId_string facts.transactionId
        have same := member "transactionId" (by decide)
        rw [own] at same ⊢
        exact same_string same
      · obtain ⟨text,own⟩ := isNonce_string facts.transactionNonce
        have same := member "transactionNonce" (by decide)
        rw [own] at same ⊢
        exact same_string same
      · obtain ⟨text,own,-⟩ := isHex_iff.mp facts.transition
        have same := member "transitionFingerprint" (by decide)
        rw [own] at same ⊢
        exact same_string same
    · obtain ⟨entry,member,describes⟩ := bound
      have alike := continues_alike accepted injective bound' member describes (continues (by omega))
      obtain ⟨now,describes'⟩ := bound'.describes
      obtain ⟨_,validE⟩ := accepted.valid entry member
      obtain ⟨_,validT⟩ := accepted.valid _ now
      exact describes_alike validE validT alike describes describes' facts
  · rcases next.attempt with same | ⟨grew,-⟩ <;> omega
  · intro equal
    exact (sameAttempt_of_succeeds facts facts' distinct distinct' succeeds keeps equal.symm).1

/-- A boundary goes on from its initial cursor. -/
theorem reaches_cursor (facts : Facts sha256 value)
    (distinct : DistinctKeys previous) (distinct' : DistinctKeys value)
    (reaches : Reaches (get previous "initialCursor") (cursorOf previous)) (next : Next previous value)
    (before : Before previous value) : Reaches (get value "initialCursor") (cursorOf value) := by
  rcases next.attempt with same | ⟨-,captured⟩
  · have attempt := before.same same.symm
    have initial := reaches_of_same (cursorSet_of_valid facts.initial) (distinct_get distinct' _)
      (distinct_get distinct _) attempt.cursor.symm
    exact initial.trans (reaches.trans attempt.offsets)
  · rw [facts.cursor_captured captured]
    exact fun _ _ => Int.le_refl _

theorem sound_new : Sound sha256 cfg Trial.new where
  accepted := ⟨by simp [Trial.new],by simp [Trial.new,Linked]⟩
  lawful := ⟨by simp [Trial.new],by simp [Trial.new],by simp [Trial.new],by simp [Trial.new],
    by simp [Trial.new],by simp [Trial.new]⟩
  record := by simp [Trial.new]

theorem append_accepted (accepted : Accepted sha256 cfg trial.journal) {v : JsValue}
    (appended : append sha256 cfg trial v.value = .ok value) :
    Accepted sha256 cfg (trial.journal ++ [value]) := by
  simp only [append,except_bind_ok (α := Value),except_unit_bind_ok,pure,Except.pure,
    Except.ok.injEq] at appended
  obtain ⟨value,validated,link,rfl⟩ := appended
  refine ⟨fun other member => ?_,accepted.linked.append (link_any link)⟩
  rcases mem_append.mp member with old | new
  · exact accepted.valid other old
  · rw [mem_singleton.mp new]
    exact validateTransaction_valid validated

theorem step_sound (injective : InjectiveOnCanonical sha256) (sound : Sound sha256 cfg trial)
    (keeps : (step sha256 cfg trial event).2 = .ok () → event.keeps) :
    Sound sha256 cfg (step sha256 cfg trial event).1 := by
  cases event with
  | append v =>
    simp only [step]
    cases appended : append sha256 cfg trial v.value with
    | error => exact sound
    | ok value =>
      refine ⟨append_accepted sound.accepted appended,sound.lawful,fun bytes there => ?_⟩
      obtain ⟨boundary,last,clean,facts,serviceKey,entry,member,describes⟩ := sound.record bytes there
      exact ⟨boundary,last,clean,facts,serviceKey,entry,mem_append_left _ member,describes⟩
  | remove =>
    refine ⟨sound.accepted,sound.lawful,fun bytes there => ?_⟩
    cases there
  | publish v expected records =>
    simp only [step]
    cases ok : publishTrialBoundary sha256 cfg trial v.value expected records with
    | error => exact sound
    | ok written =>
      have published := published_of_ok ok
      obtain ⟨binding,bound,starts,checked⟩ := published.accepted
      have facts := facts_of_valid published.valid
      have describes := bound.describes
      cases expected with
      | none =>
        have starts := starts rfl
        simp only [startsTrial,Bool.and_eq_true] at starts
        obtain ⟨⟨⟨⟨revision,attempt⟩,previous⟩,captured⟩,-⟩ := starts
        refine ⟨sound.accepted,Lawful.single facts revision attempt captured previous,fun bytes there => ?_⟩
        cases there
        exact ⟨written.1,rfl,published.clean,facts,bound.serviceKey,_,describes⟩
      | some receipt =>
        obtain ⟨previous,last,clean,facts',serviceKey,names⟩ := sound.record receipt.bytes published.current
        obtain rfl := Except.ok.inj (clean.parsed.symm.trans receipt.parsed)
        have keeps := keeps_same published.given v.distinct published.clean.distinct published.same
          (keeps (by simp only [step,ok]))
        obtain ⟨next,before⟩ := before_of_published injective sound.accepted facts' facts
          clean.distinct published.clean.distinct serviceKey names bound (checked receipt rfl) keeps
        have fromInitial : Reaches (get written.1 "initialCursor") (cursorOf written.1) :=
          reaches_cursor facts clean.distinct published.clean.distinct
            (sound.lawful.fromInitial _ (mem_of_getLast? last)) next before
        refine ⟨sound.accepted,sound.lawful.append last next before facts.window fromInitial,fun bytes there => ?_⟩
        cases there
        exact ⟨written.1,getLast?_concat,published.clean,facts,bound.serviceKey,_,describes⟩

theorem step_append {trial : Trial} {value : Value} {bytes : File} (valid : Valid sha256 cfg value bytes)
    (link : assertJournalLink sha256 trial.journal.getLast? value "append_service_journal" = .ok ()) :
    step sha256 cfg trial (.append ⟨value,valid.clean.distinct⟩) =
      ({trial with journal := trial.journal ++ [value]},.ok ()) := by
  have appended : append sha256 cfg trial value = .ok value := by
    simp only [append,valid.accepted,bind,Except.bind,link]
    rfl
  simp only [step,appended]

/-- The entries that the store of the journal takes between two of its states are entries that
a trial takes one by one. -/
theorem journal_grows (accepted : Accepted sha256 cfg (entries ++ rest)) :
    ∃ values : List JsValue, ∀ trial : Trial, trial.journal = entries →
      (Runs.run (step sha256 cfg) trial (values.map .append)).journal = entries ++ rest := by
  induction rest generalizing entries with
  | nil => exact ⟨[],fun trial same => by rw [append_nil]; exact same⟩
  | cons value rest ih =>
    have split : entries ++ value :: rest = (entries ++ [value]) ++ rest := by simp
    obtain ⟨_,valid⟩ := accepted.valid value (by simp)
    have link := accepted.linked entries value rest rfl "append_service_journal"
    rw [split] at accepted ⊢
    obtain ⟨values,grows⟩ := ih accepted
    refine ⟨⟨value,valid.clean.distinct⟩ :: values,fun trial same => ?_⟩
    apply grows
    subst same
    rw [step_append valid link]

/-- Whatever happens to the store, crashes included, a reader finds the entries that a trial took in order. -/
theorem journal_refines (events : List ServiceJournal.Event) :
    ∃ values : List JsValue,
      let store := Runs.run (ServiceJournal.step sha256 cfg) Store.new events
      store.files.size ≤ directoryEntries → ∃ journal, readJournal sha256 cfg store = .ok journal ∧
        (Runs.run (step sha256 cfg) Trial.new (values.map .append)).journal = journal.entries := by
  obtain ⟨entries,headed,held,-⟩ := run_held (held_new : Held sha256 cfg Store.new [] 0) events
  have accepted : Accepted _ _ ([] ++ entries) := held.accepted
  obtain ⟨values,grows⟩ := journal_grows accepted
  refine ⟨values,fun room => ?_⟩
  obtain ⟨head,read,-⟩ := readJournal_held held room
  exact ⟨_,read,grows .new rfl⟩

theorem run_sound (injective : InjectiveOnCanonical sha256) (sound : Sound sha256 cfg trial)
    (keeps : ∀ visit ∈ Runs.visits (step sha256 cfg) trial events,
      (step sha256 cfg visit.1 visit.2).2 = .ok () → visit.2.keeps) :
    Sound sha256 cfg (Runs.run (step sha256 cfg) trial events) := by
  induction events generalizing trial with
  | nil => exact sound
  | cons event rest ih =>
    have first := step_sound injective sound (keeps _ mem_cons_self)
    exact ih first fun visit member => keeps visit (mem_cons_of_mem _ member)

/-- In every run whose first observations do not fall behind their initial cursors, the
boundaries of a trial never lose their start or move backward. -/
theorem trial_boundary_chain (injective : InjectiveOnCanonical sha256) (events : List Event)
    (keeps : ∀ visit ∈ Runs.visits (step sha256 cfg) Trial.new events,
      (step sha256 cfg visit.1 visit.2).2 = .ok () → visit.2.keeps) :
    Lawful (Runs.run (step sha256 cfg) Trial.new events).chain :=
  (run_sound injective sound_new keeps).lawful

end Store

section Install

set_option maxRecDepth 100000

variable {value : Value} {sha256 : List UInt8 → Units}

def logFamily (name : String) (files : List Value) (next : Int) (absence : Value) : Value :=
  .object [(ascii "absenceFingerprint",absence),(ascii "baseName",asciiText ("gjc-remote-bot-" ++ name)),
    (ascii "directoryIdentityFingerprint",repeated 9),(ascii "family",asciiText name),
    (ascii "files",.array files),(ascii "nextLogicalOffset",integer next),
    (ascii "partialLineBytes",integer 0)]

def logFile : Value :=
  .object [(ascii "identityFingerprint",repeated 13),(ascii "logicalStartOffset",integer 0),
    (ascii "observedLength",integer 1),(ascii "prefixSha256",repeated 14)]

def cursorWith (child : Value) (own : Nat) : Value :=
  .object [(ascii "bootFingerprint",repeated 10),(ascii "configFingerprint",repeated 11),
    (ascii "cursorFingerprint",hexText own),
    (ascii "families",.array [logFamily "wrapper" [] 0 (repeated 12),child]),
    (ascii "schemaVersion",integer 1),(ascii "serviceKey",asciiText "bot")]

def initialCursor : Value := cursorWith (logFamily "child" [logFile] 1 .null)
  0x95a383634d04f19de60f02194e7fb023b242474f75edbc13a13fe88c78b0de86

def emptyCursor : Value := cursorWith (logFamily "child" [] 0 (repeated 12))
  0xd3c61ca125c0c02b0281b08f4dbdc10d4a569e9aaa09e35feb7cdea2577f7926

def trialBoundary (phase : String) (revision : Int) (previous wrapper child cursor : Value) (own : Nat) :
    Value :=
  .object [(ascii "applicationManifestFingerprint",repeated 1),(ascii "attempt",integer 1),
    (ascii "bootFingerprint",repeated 10),(ascii "boundaryFingerprint",hexText own),
    (ascii "childCursor",cursor),(ascii "childEpochFingerprint",child),
    (ascii "configSourceIdentityFingerprint",repeated 15),(ascii "deadlineTickMs",integer 60000),
    (ascii "effectiveConfigFingerprint",repeated 11),(ascii "initialCursor",initialCursor),
    (ascii "kind",asciiText "windows-service-trial-boundary"),(ascii "lastTickMs",integer 0),
    (ascii "phase",asciiText phase),(ascii "previousBoundaryFingerprint",previous),
    (ascii "resourceFingerprint",repeated 6),(ascii "revision",integer revision),
    (ascii "schemaVersion",integer 1),(ascii "serviceKey",asciiText "bot"),
    (ascii "startTickMs",integer 0),(ascii "transactionId",asciiText "install-1"),
    (ascii "transactionNonce",asciiText "00000000000000000000000000000000"),
    (ascii "transitionFingerprint",hexText 0x4c108ad9a87095f66e91d2f2ebe4a34ba18b16901e7a059d67ebb9f9d1e57856),
    (ascii "wrapperEpochFingerprint",wrapper)]

def capturedOf : Value := trialBoundary "captured" 1 .null .null .null .null
  0x9716c34dff4506473cdd3d6113d17dd5cb762452b15b15efff36f8acf0c31b1d

def observedOf : Value := trialBoundary "observed" 2 (hexText 0x9716c34dff4506473cdd3d6113d17dd5cb762452b15b15efff36f8acf0c31b1d) (repeated 3)
  (repeated 4) emptyCursor 0xbd54a5ab52bb7a438bd767652c703595a5d677ad34e72a559a504dab8e54d4a3

/-- The boundaries of the trial of the install and their cursors. -/
def boundaryRecords : List (Value × String × Nat) :=
  [(initialCursor,"cursorFingerprint",0x95a383634d04f19de60f02194e7fb023b242474f75edbc13a13fe88c78b0de86),
    (emptyCursor,"cursorFingerprint",0xd3c61ca125c0c02b0281b08f4dbdc10d4a569e9aaa09e35feb7cdea2577f7926),
    (capturedOf,"boundaryFingerprint",0x9716c34dff4506473cdd3d6113d17dd5cb762452b15b15efff36f8acf0c31b1d),
    (observedOf,"boundaryFingerprint",0xbd54a5ab52bb7a438bd767652c703595a5d677ad34e72a559a504dab8e54d4a3)]

def trialRecords : List (Value × String × Nat) := installRecords ++ boundaryRecords

def trialDigest : List UInt8 → Units := sealing trialRecords

theorem trialDigest_injective : InjectiveOnCanonical trialDigest := sealing_injective (by decide)

def trialSealing : Sealing where
  records := trialRecords
  seals := (@Sample.sound ⟨trialRecords,[]⟩ ["phase","disposition","transactionFingerprint"]
    (by decide +kernel) (by decide +kernel)).seals

theorem trialInstalls : Installs trialRecords := ⟨trialSealing.seals,subset_append_left ..⟩

theorem boundary_asserted (i : Nat) (located : boundaryRecords[i]? = some r) (error : JsError) :
    assertFingerprint trialDigest r.1 r.2.1 error = .ok () :=
  trialSealing.seals.asserted (mem_append_right _ (mem_of_getElem? located)) error

def boundaryValues : {values : List Value // ∀ value ∈ values, Clean value (utf8 (render value))} where
  val := [capturedOf,observedOf]
  property := clean_of_all (by decide +kernel)

theorem boundary_clean (listed : value ∈ [capturedOf,observedOf]) : Clean value (utf8 (render value)) :=
  boundaryValues.property value listed

theorem get_boundary (phase : String) (revision : Int) (previous wrapper child cursor : Value) (own : Nat) :
    get (trialBoundary phase revision previous wrapper child cursor own) "initialCursor" = initialCursor ∧
      get (trialBoundary phase revision previous wrapper child cursor own) "childCursor" = cursor := by
  rw [get_byCode]
  exact ⟨rfl,rfl⟩

theorem captured_cursor : get capturedOf "initialCursor" = initialCursor := (get_boundary ..).1

theorem observed_cursors : get observedOf "initialCursor" = initialCursor ∧
    get observedOf "childCursor" = emptyCursor := get_boundary ..

theorem cursors_evaluated : (validateServiceCursorSet trialDigest initialCursor).isOk = true ∧
    (validateServiceCursorSet trialDigest emptyCursor).isOk = true := by
  simp only [validateServiceCursorSet,boundary_asserted 0 rfl,boundary_asserted 1 rfl]
  simp only [validateServiceKey,hasExactKeys,itemAt,byCode]
  decide +kernel

def trialBoundaries : {boundaries : List Value //
    ∀ boundary ∈ boundaries, validateServiceTrialBoundary trialDigest boundary = .ok ()} where
  val := [capturedOf,observedOf]
  property := by
    have evaluated : (validateServiceTrialBoundary trialDigest capturedOf).isOk = true ∧
        (validateServiceTrialBoundary trialDigest observedOf).isOk = true := by
      obtain ⟨initial,empty⟩ := cursors_evaluated
      simp only [validateServiceTrialBoundary,captured_cursor,observed_cursors,isOk_unit initial,isOk_unit empty,
        boundary_asserted 2 rfl,boundary_asserted 3 rfl]
      simp only [validateServiceKey,isBoundCursor,relate,hasExactKeys,every,isOneOf,byCode]
      decide +kernel
    intro boundary listed
    simp only [mem_cons,not_mem_nil,or_false] at listed
    rcases listed with rfl | rfl
    · exact isOk_unit evaluated.1
    · exact isOk_unit evaluated.2

theorem captured_valid : validateServiceTrialBoundary trialDigest capturedOf = .ok () :=
  trialBoundaries.property _ mem_cons_self

theorem observed_valid : validateServiceTrialBoundary trialDigest observedOf = .ok () :=
  trialBoundaries.property _ (mem_cons_of_mem _ mem_cons_self)

/-- Nothing of the cursors is compared with a boundary that observed nothing. -/
theorem successor_of_captured {previous next : Value}
    (valid : validateServiceTrialBoundary sha256 previous = .ok ())
    (valid' : validateServiceTrialBoundary sha256 next = .ok ())
    (same : strictEqual (get next "attempt") (get previous "attempt"))
    (chained : (strictEqual (get next "previousBoundaryFingerprint") (get previous "boundaryFingerprint") &&
      !isNumber maxSafeInteger (get previous "revision") &&
      isNext (get next "revision") (get previous "revision") &&
      decide (numberOf (get previous "lastTickMs") ≤ numberOf (get next "lastTickMs"))))
    (members : agree next previous immutableKeys)
    (before : canonicalJsonHash sha256 (get previous "initialCursor") = .ok digest)
    (after : canonicalJsonHash sha256 (get next "initialCursor") = .ok digest)
    (captured : isText "observed" (get previous "phase") = false) :
    validateServiceTrialBoundarySuccessor sha256 previous next = .ok () := by
  simp only [validateServiceTrialBoundarySuccessor,valid,valid',same,Bool.not_true,Bool.false_or,chained,
    members,before,after,captured,Bool.not_false,Bool.true_or,Bool.and_true,beq_self_eq_true,check,if_true,
    bind,Except.bind]

theorem initial_encoded : (canonicalJsonBytes initialCursor STRICT_JSON_LIMITS).isOk = true := by
  decide +kernel

/-- The observation is taken for a successor. -/
theorem observed_succeeds : validateServiceTrialBoundarySuccessor trialDigest capturedOf observedOf = .ok () := by
  apply successor_of_captured captured_valid observed_valid
  · rw [get_byCode]
    rfl
  · simp only [byCode]
    decide +kernel
  · simp only [agree,byCode]
    decide +kernel
  · rw [captured_cursor]
    exact hash_spelled _ initial_encoded
  · rw [observed_cursors.1]
    exact hash_spelled _ initial_encoded
  · rw [get_byCode,isText_byCode]
    decide +kernel

def principal (value : String) : Value := .object [(ascii "kind",asciiText "sid"),(ascii "value",asciiText value)]

def trialRoles : Value :=
  .object [(ascii "bot",principal "S-1-5-21-1"),(ascii "daemon",principal "S-1-5-21-2"),
    (ascii "management",principal "S-1-5-21-3"),(ascii "recovery",principal "S-1-5-21-4"),
    (ascii "system",principal "S-1-5-18")]

/-- The compared members of the resource record. -/
def trialResource : Value :=
  .object [(ascii "applicationManifestFingerprint",repeated 1),(ascii "configurationFingerprint",repeated 11),
    (ascii "operation",asciiText "install"),(ascii "platformResourceFingerprint",repeated 5),
    (ascii "resourceProof",repeated 8),(ascii "rolesFingerprint",repeated 13),(ascii "serviceGeneration",integer 1),
    (ascii "serviceKey",asciiText "bot"),(ascii "shawlManifestFingerprint",repeated 2),
    (ascii "transactionId",asciiText "install-1"),
    (ascii "transactionNonce",asciiText "00000000000000000000000000000000")]

def trialManifest : Value :=
  .object [(ascii "applicationManifestFingerprint",repeated 1),(ascii "architecture",asciiText "x64"),
    (ascii "component",asciiText "bot"),(ascii "configurationFingerprint",repeated 11),
    (ascii "manifestFingerprint",repeated 7),(ascii "platform",asciiText "win32"),(ascii "resourceProof",repeated 8),
    (ascii "roles",trialRoles),(ascii "rolesFingerprint",repeated 13),(ascii "serviceGeneration",integer 1),
    (ascii "serviceKey",asciiText "bot"),(ascii "shawlManifestFingerprint",repeated 2)]

def trialStore : Records :=
  ⟨.ok (),.ok (),.ok (some trialResource),.ok (some trialManifest),none,repeated 13,trialRoles,[]⟩

theorem binding_ok (windows : (cfg.platform == ofString "win32"))
    (serviceKey : strictEqual (get boundary "serviceKey") (.string cfg.serviceKey))
    (version : (versions boundary entries).getLast? = some transaction) (last : entries.getLast? = some latest)
    (bound : isBoundTo boundary transaction)
    (own : transactionIdentity sha256 transaction = .ok digest) (other : transactionIdentity sha256 latest = .ok digest)
    (resource : boundResource sha256 transaction records operation = .ok found)
    (checked : checkBoundResource cfg boundary transaction latest found records operation = .ok ()) :
    validateTrialBoundaryBinding sha256 cfg boundary entries records operation =
      .ok ⟨transaction,latest,found.1⟩ := by
  simp only [validateTrialBoundaryBinding,windows,serviceKey,version,last,bound,identityOf,own,other,resource,
    checked,check,if_true,bind,Except.bind,Except.mapError,beq_self_eq_true,pure,Except.pure]

theorem publish_ok (clean : Clean value bytes)
    (valid : validateServiceTrialBoundary sha256 value = .ok ()) (writable : records.writable = .ok ())
    (authorised : records.authorised = .ok ())
    (bound : validateTrialBoundaryBinding sha256 cfg value trial.journal records "publish_trial_boundary" = .ok binding)
    (checked : checkExpected sha256 expected value binding trial.journal = .ok ())
    (current : trial.boundary = expected.map Receipt.bytes) :
    publishTrialBoundary sha256 cfg trial value expected records = .ok (value,bytes) := by
  simp only [publishTrialBoundary,snapshot,recordBytes,orThrow,clean.cloned,valid,writable,authorised,bound,
    checked,current,clean.encoded,check,if_true,bind,Except.bind,Except.mapError,pure,Except.pure,
    beq_self_eq_true]

theorem bound_evaluated : ([(capturedOf,publishedOf),(observedOf,startedOf)].all fun pair =>
    isBoundTo pair.1 pair.2 && strictEqual (get pair.1 "serviceKey") (.string trialScope.serviceKey) &&
      (checkBoundResource trialScope pair.1 pair.2 pair.2 (some trialResource,false) trialStore
        "publish_trial_boundary").isOk) = true := by
  simp only [isBoundTo,checkBoundResource,checkResource,scope,scopeRoles,agree,relate,byCode]
  decide +kernel

theorem named_all (boundary : Value) (listed : boundary ∈ [capturedOf,observedOf]) (phase : String)
    (previous : Value) (own : Nat) :
    agree (trialTransaction phase previous own) boundary ["transactionId","transactionNonce"] := by
  simp only [mem_cons,not_mem_nil,or_false] at listed
  simp only [agree,byCode]
  rcases listed with rfl | rfl
  · rfl
  · rfl

theorem resource_found (phase : String) (previous : Value) (own : Nat) (operation : String) :
    boundResource trialDigest (trialTransaction phase previous own) trialStore operation =
      .ok (some trialResource,false) := by
  have named : agree trialResource (trialTransaction phase previous own) ["transactionId","transactionNonce"] := by
    simp only [agree,byCode]
    rfl
  simp [boundResource,trialStore,named,bind,Except.bind,pure,Except.pure]

def capturedReceipt : Receipt := ⟨capturedOf,utf8 (render capturedOf),(boundary_clean (by simp)).parsed⟩

theorem binding_at (boundary : Value) {phase : String} {previous : Value} {own : Nat}
    (listed : (boundary,trialTransaction phase previous own) ∈ [(capturedOf,publishedOf),(observedOf,startedOf)])
    {entries : List Value} (all : ∀ entry ∈ entries, ∃ phase previous own, entry = trialTransaction phase previous own)
    (last : entries.getLast? = some (trialTransaction phase previous own)) :
    validateTrialBoundaryBinding trialDigest trialScope boundary entries trialStore "publish_trial_boundary" =
      .ok ⟨trialTransaction phase previous own,trialTransaction phase previous own,some trialResource⟩ := by
  have evaluated := all_eq_true.mp bound_evaluated _ listed
  simp only [Bool.and_eq_true] at evaluated
  obtain ⟨digest,identity⟩ := trial_identity trialDigest
  have platform : (trialScope.platform == ofString "win32") = true := by
    rfl
  have either : boundary ∈ [capturedOf,observedOf] := by
    simp only [mem_cons,not_mem_nil,or_false,Prod.mk.injEq] at listed ⊢
    exact listed.imp And.left And.left
  have every : versions boundary entries = entries := by
    rw [versions,filter_eq_self]
    intro entry member
    obtain ⟨phase,previous,own,rfl⟩ := all entry member
    exact named_all boundary either phase previous own
  exact binding_ok platform evaluated.1.2 (by rw [every,last]) last evaluated.1.1 (identity ..)
    (identity ..) (resource_found ..) (isOk_unit evaluated.2)

def started : JsValue := ⟨startedOf,(trial_clean (by simp)).distinct⟩

def captured : JsValue := ⟨capturedOf,(boundary_clean (by simp)).distinct⟩

def observed : JsValue := ⟨observedOf,(boundary_clean (by simp)).distinct⟩

def captureEvents : List Event :=
  [.append prepared,.append published,
    .publish captured none trialStore]

def observeEvents : List Event :=
  [.append started,
    .publish observed (some capturedReceipt) trialStore]

theorem step_publish {sha256 : List UInt8 → Units} {cfg : Config} {trial : Trial} {v : JsValue} {bytes : File}
    {expected : Option Receipt} {records : Records}
    (ok : publishTrialBoundary sha256 cfg trial v.value expected records = .ok (v.value,bytes)) :
    step sha256 cfg trial (.publish v expected records) =
      (⟨trial.journal,some bytes,if expected.isSome then trial.chain ++ [v.value] else [v.value]⟩,.ok ()) := by
  simp only [step,ok]

/-- The run of a trial whose events all have a known outcome. -/
theorem run_next (stepped : step trialDigest trialScope trial event = (trial',.ok ())) :
    Runs.run (step trialDigest trialScope) trial (event :: rest) =
      Runs.run (step trialDigest trialScope) trial' rest := by
  rw [Runs.run,stepped]

theorem captured_published : publishTrialBoundary trialDigest trialScope ⟨[preparedOf,publishedOf],none,[]⟩
    capturedOf none trialStore = .ok (capturedOf,utf8 (render capturedOf)) := by
  have all : ∀ entry ∈ [preparedOf,publishedOf], ∃ phase previous own, entry = trialTransaction phase previous own := by
    intro entry member
    simp only [mem_cons,not_mem_nil,or_false] at member
    rcases member with rfl | rfl
    · exact ⟨_,_,_,rfl⟩
    · exact ⟨_,_,_,rfl⟩
  have bound := @binding_at capturedOf _ _ _ (mem_cons_self : (capturedOf,publishedOf) ∈ _) _ all rfl
  refine publish_ok (boundary_clean (by simp)) captured_valid rfl rfl bound ?_ rfl
  simp only [checkExpected,check_ok,startsTrial,byCode]
  decide +kernel

theorem trial_captured : Runs.run (step trialDigest trialScope) Trial.new captureEvents =
    ⟨[preparedOf,publishedOf],some (utf8 (render capturedOf)),[capturedOf]⟩ := by
  have first := @step_append trialDigest trialScope Trial.new _ _
    (trial_valid trialInstalls (by simp [trialTransactions]) (by simp [preparedOf]) : Valid _ _ preparedOf _) (by rfl)
  have second := @step_append trialDigest trialScope ⟨[preparedOf],none,[]⟩ _ _
    (trial_valid trialInstalls (by simp [trialTransactions]) (by simp [publishedOf]) : Valid _ _ publishedOf _)
    (link_next trialDigest rfl "append_service_journal")
  have third := @step_publish _ _ _ captured _ _ _ captured_published
  exact (run_next first).trans ((run_next second).trans (run_next third))

theorem checkSuccessor_observed (valid : validateServiceTrialBoundary sha256 previous = .ok ())
    (succeeds : validateServiceTrialBoundarySuccessor sha256 previous value = .ok ())
    (attempt : ¬ numberOf (get previous "attempt") < numberOf (get value "attempt"))
    (observed : isText "captured" (get value "phase") = false)
    (started : isText "trial-start-observed" (get binding.latest "phase")) :
    checkSuccessor sha256 previous value binding entries = .ok () := by
  simp only [checkSuccessor,valid,succeeds,Except.mapError,orThrow,bind,Except.bind,if_neg attempt,observed,
    if_neg Bool.false_ne_true,check_ok,isOneOf,any_cons,started,Bool.true_or]

theorem observed_published : publishTrialBoundary trialDigest trialScope
    ⟨[preparedOf,publishedOf,startedOf],some (utf8 (render capturedOf)),[capturedOf]⟩
    observedOf (some capturedReceipt) trialStore = .ok (observedOf,utf8 (render observedOf)) := by
  have all : ∀ entry ∈ [preparedOf,publishedOf,startedOf],
      ∃ phase previous own, entry = trialTransaction phase previous own := by
    intro entry member
    simp only [mem_cons,not_mem_nil,or_false] at member
    rcases member with rfl | rfl | rfl
    · exact ⟨_,_,_,rfl⟩
    · exact ⟨_,_,_,rfl⟩
    · exact ⟨_,_,_,rfl⟩
  have bound := @binding_at observedOf _ _ _
    (mem_cons_of_mem _ mem_cons_self : (observedOf,startedOf) ∈ _) _ all rfl
  refine publish_ok (boundary_clean (by simp)) observed_valid rfl rfl bound ?_ rfl
  have compared : (decide (numberOf (get capturedOf "attempt") < numberOf (get observedOf "attempt")) ||
      isText "captured" (get observedOf "phase") || !isText "trial-start-observed" (get startedOf "phase")) = false := by
    simp only [byCode]
    decide +kernel
  simp only [Bool.or_eq_false_iff,decide_eq_false_iff_not,Bool.not_eq_false'] at compared
  exact checkSuccessor_observed captured_valid observed_succeeds compared.1.1 compared.1.2 compared.2

theorem trial_observed : Runs.run (step trialDigest trialScope) Trial.new (captureEvents ++ observeEvents) =
    ⟨[preparedOf,publishedOf,startedOf],some (utf8 (render observedOf)),[capturedOf,observedOf]⟩ := by
  have first := @step_append trialDigest trialScope
    ⟨[preparedOf,publishedOf],some (utf8 (render capturedOf)),[capturedOf]⟩ _ _
    (trial_valid trialInstalls (by simp [trialTransactions]) (by simp [startedOf]) : Valid _ _ startedOf _)
    (link_next trialDigest rfl "append_service_journal")
  have second := @step_publish _ _ _ observed _ _ _ observed_published
  rw [Runs.run_append,trial_captured]
  exact (run_next first).trans (run_next second)

theorem family_offsets : offsetOf initialCursor 1 = 1 ∧ offsetOf emptyCursor 1 = 0 := by
  simp only [offsetOf,familyAt,get_byCode]
  decide +kernel

/-- The accepted chain is behind where it started. -/
theorem trial_boundary_backward : InjectiveOnCanonical trialDigest ∧
    ¬ Lawful (Runs.run (step trialDigest trialScope) Trial.new (captureEvents ++ observeEvents)).chain := by
  refine ⟨trialDigest_injective,fun lawful => ?_⟩
  rw [trial_observed] at lawful
  have reaches := lawful.fromInitial observedOf (by simp) 1 (by omega)
  obtain ⟨initial,child⟩ := observed_cursors
  have present : isNullish emptyCursor = false := rfl
  rw [cursorOf,child,present,if_neg Bool.false_ne_true,initial,family_offsets.1,family_offsets.2] at reaches
  omega

theorem trial_boundary_chain_captured :
    Lawful (Runs.run (step trialDigest trialScope) Trial.new captureEvents).chain ∧
      (Runs.run (step trialDigest trialScope) Trial.new captureEvents).chain = [capturedOf] := by
  have keeps : ∀ event ∈ captureEvents, event.keeps := by simp [captureEvents,Event.keeps]
  exact ⟨trial_boundary_chain trialDigest_injective captureEvents fun visit member _ =>
    keeps _ (Runs.visited_mem visit member),congrArg Trial.chain trial_captured⟩

end Install

end GjcRemote.TrialBoundary
