import GjcRemote.ServiceJournalChain
import GjcRemote.TrialBoundary

/-! What a chain of trial boundaries has to keep, and what one accepted successor keeps of
it. -/
namespace GjcRemote.TrialBoundary

open Utf16 StrictJson Record Envelope
open Bool hiding and_true
open ServiceEnvelope ServiceJournal

theorem numberOf_same (same : Same v w) : numberOf v = numberOf w := by
  rw [numberOf,numberOf,safeInteger_same same]

variable {previous : Value}

theorem isNext_number (is : isNext next previous) :
    numberOf next = numberOf previous + 1 := by
  rw [isNext] at is
  rw [numberOf,numberOf]
  split at is
  · next n p later earlier =>
    rw [later,earlier]
    exact of_decide_eq_true is
  · cases is

def attemptOf (boundary : Value) : Int := numberOf (get boundary "attempt")

def isCaptured (boundary : Value) : Bool := isText "captured" (get boundary "phase")

def isObserved (boundary : Value) : Bool := isText "observed" (get boundary "phase")

/-- `boundary.childCursor ?? boundary.initialCursor`. -/
def cursorOf (boundary : Value) : Value :=
  if isNullish (get boundary "childCursor") then get boundary "initialCursor"
  else get boundary "childCursor"

def offsetOf (cursor : Value) (index : Nat) : Int := numberOf (get (familyAt cursor index) "nextLogicalOffset")

def Reaches (cursor later : Value) : Prop := ∀ index < 2, offsetOf cursor index ≤ offsetOf later index

def boundaryKeys : List String := ["serviceKey","transactionId","transactionNonce","transitionFingerprint"]

structure SameAttempt (earlier later : Value) : Prop where
  members : ∀ key ∈ immutableKeys, Same (get earlier key) (get later key)
  cursor : Same (get earlier "initialCursor") (get later "initialCursor")
  observed : isObserved earlier = true → isObserved later = true ∧
    get later "wrapperEpochFingerprint" = get earlier "wrapperEpochFingerprint"
  tick : numberOf (get earlier "lastTickMs") ≤ numberOf (get later "lastTickMs")
  offsets : Reaches (cursorOf earlier) (cursorOf later)

structure Before (earlier later : Value) : Prop where
  identity : ∀ key ∈ boundaryKeys, get later key = get earlier key
  attempt : attemptOf earlier ≤ attemptOf later
  same : attemptOf earlier = attemptOf later → SameAttempt earlier later

structure Next (previous next : Value) : Prop where
  revision : numberOf (get next "revision") = numberOf (get previous "revision") + 1
  names : get next "previousBoundaryFingerprint" = get previous "boundaryFingerprint"
  attempt : attemptOf next = attemptOf previous ∨
    (attemptOf next = attemptOf previous + 1 ∧ isCaptured next = true)
  boot : attemptOf next ≠ attemptOf previous → get next "bootFingerprint" = get previous "bootFingerprint" →
    numberOf (get previous "lastTickMs") ≤ numberOf (get next "startTickMs")

structure Lawful (chain : List Value) : Prop where
  starts : ∀ first rest, chain = first :: rest → attemptOf first = 1 ∧ isCaptured first = true ∧
    get first "previousBoundaryFingerprint" = .null
  numbered : ∀ (i : Nat) boundary, chain[i]? = some boundary → numberOf (get boundary "revision") = i + 1
  next : ∀ before previous next after, chain = before ++ previous :: next :: after → Next previous next
  window : ∀ boundary ∈ chain,
    numberOf (get boundary "startTickMs") ≤ numberOf (get boundary "lastTickMs") ∧
      numberOf (get boundary "lastTickMs") ≤ numberOf (get boundary "deadlineTickMs")
  fromInitial : ∀ boundary ∈ chain, Reaches (get boundary "initialCursor") (cursorOf boundary)
  pairs : chain.Pairwise Before

variable {c : Value}

theorem Reaches.trans (left : Reaches a b) (right : Reaches b c) : Reaches a c :=
  fun index bound => (left index bound).trans (right index bound)

theorem SameAttempt.trans (left : SameAttempt a b) (right : SameAttempt b c) :
    SameAttempt a c where
  members := fun key listed => (left.members key listed).trans (right.members key listed)
  cursor := left.cursor.trans right.cursor
  observed := by
    intro observed
    obtain ⟨middle,wrapper⟩ := left.observed observed
    obtain ⟨last,wrapper'⟩ := right.observed middle
    exact ⟨last,wrapper'.trans wrapper⟩
  tick := left.tick.trans right.tick
  offsets := left.offsets.trans right.offsets

theorem Before.trans (left : Before a b) (right : Before b c) : Before a c where
  identity := fun key listed => (right.identity key listed).trans (left.identity key listed)
  attempt := left.attempt.trans right.attempt
  same := by
    intro equal
    have first := left.attempt
    have second := right.attempt
    exact (left.same (by omega)).trans (right.same (by omega))

section Digest

variable {sha256 : List UInt8 → Units}

structure Facts (sha256 : List UInt8 → Units) (boundary : Value) : Prop where
  keys : hasExactKeys boundary TRIAL_BOUNDARY_KEYS = true
  transactionId : isSafeId (get boundary "transactionId") = true
  transactionNonce : isNonce (get boundary "transactionNonce") = true
  transition : isHex (get boundary "transitionFingerprint") = true
  phase : isCaptured boundary = true ∨ isObserved boundary = true
  boot : isHex (get boundary "bootFingerprint") = true
  own : isHex (get boundary "boundaryFingerprint") = true
  window : numberOf (get boundary "startTickMs") ≤ numberOf (get boundary "lastTickMs") ∧
    numberOf (get boundary "lastTickMs") ≤ numberOf (get boundary "deadlineTickMs")
  initial : validateServiceCursorSet sha256 (get boundary "initialCursor") = .ok ()
  hexWrapper : isCaptured boundary = false → isHex (get boundary "wrapperEpochFingerprint") = true
  captured : isCaptured boundary = true → get boundary "childCursor" = .null
  observed : isCaptured boundary = false →
    validateServiceCursorSet sha256 (get boundary "childCursor") = .ok ()

variable {boundary : Value}

theorem facts_of_valid (valid : validateServiceTrialBoundary sha256 boundary = .ok ()) :
    Facts sha256 boundary := by
  simp only [validateServiceTrialBoundary,checks_ok,and_eq_true,every,List.all_cons,List.all_nil,
    decide_eq_true_eq,except_bind_ok (α := Int)] at valid
  obtain ⟨members,-,deadline,-,⟨⟨-,early⟩,late⟩,initial,-,rest⟩ := valid
  obtain ⟨⟨⟨⟨⟨⟨⟨⟨⟨⟨⟨⟨⟨⟨⟨⟨keys,-⟩,-⟩,id⟩,nonce⟩,transition⟩,-⟩,-⟩,-⟩,phase⟩,-⟩,boot,-,-,-,-,own,-⟩,
    -⟩,-⟩,-⟩,-⟩,-⟩ := members
  simp only [isOneOf,List.any_cons,List.any_nil,Bool.or_false,or_eq_true] at phase
  refine ⟨keys,id,nonce,transition,phase,boot,own,⟨early,late⟩,initial,?_,?_,?_⟩
  · intro observed
    rw [isCaptured] at observed
    rw [observed,if_neg Bool.false_ne_true] at rest
    simp only [checks_ok,and_eq_true] at rest
    exact rest.1.1.1.1
  · intro captured
    rw [isCaptured] at captured
    rw [if_pos captured] at rest
    simp only [checks_ok,and_eq_true] at rest
    exact isNull_iff.mp rest.1.2
  · intro observed
    rw [isCaptured] at observed
    rw [observed,if_neg Bool.false_ne_true] at rest
    simp only [except_unit_bind_ok] at rest
    exact rest.2.1

theorem isSafeId_string (safe : isSafeId value) : ∃ text, value = .string text := by
  cases value with
  | string text => exact ⟨text,rfl⟩
  | _ => exact absurd safe Bool.false_ne_true

theorem isNonce_string (nonce : isNonce value) : ∃ text, value = .string text := by
  cases value with
  | string text => exact ⟨text,rfl⟩
  | _ => exact absurd nonce Bool.false_ne_true

theorem exact_object (exact' : hasExactKeys value keys) :
    isNullish value = false := by
  cases value with
  | object => rfl
  | _ => exact absurd exact' Bool.false_ne_true

theorem validateFamilies_exact (valid : validateFamilies serviceKey families totalBytes = .ok ()) :
    ∀ family ∈ families, hasExactKeys family FAMILY_CURSOR_KEYS := by
  induction families generalizing totalBytes with
  | nil => simp
  | cons family rest ih =>
    simp only [validateFamilies,except_unit_bind_ok,except_bind_ok (α := Int)] at valid
    obtain ⟨own,-,totalBytes,-,later⟩ := valid
    simp only [validateServiceFamilyCursor,checks_ok,and_eq_true] at own
    obtain ⟨⟨⟨⟨⟨⟨⟨⟨⟨⟨keys,-⟩,-⟩,-⟩,-⟩,-⟩,-⟩,-⟩,-⟩,-⟩,-⟩ := own
    exact List.forall_mem_cons.mpr ⟨keys,ih later⟩

structure CursorSet (cursorSet : Value) : Prop where
  keys : hasExactKeys cursorSet CURSOR_SET_KEYS = true
  families : ∃ first second, get cursorSet "families" = .array [first,second] ∧
    hasExactKeys first FAMILY_CURSOR_KEYS = true ∧ hasExactKeys second FAMILY_CURSOR_KEYS = true

theorem cursorSet_of_valid (valid : validateServiceCursorSet sha256 cursorSet = .ok ()) :
    CursorSet cursorSet := by
  simp only [validateServiceCursorSet,checks_ok,and_eq_true,beq_iff_eq] at valid
  obtain ⟨⟨⟨⟨⟨⟨⟨keys,-⟩,-⟩,-⟩,array⟩,two⟩,-⟩,-,-,families,-⟩ := valid
  refine ⟨keys,?_⟩
  have exact' := validateFamilies_exact families
  cases value : get cursorSet "families" with
  | array items =>
    rw [value] at two exact'
    obtain ⟨first,second,rfl⟩ := List.length_eq_two.mp two
    exact ⟨first,second,rfl,exact' first (by simp [itemsOf]),exact' second (by simp [itemsOf])⟩
  | _ =>
    rw [value] at array
    exact absurd array Bool.false_ne_true

theorem itemAt_same (same : Same v w) (index : Nat) (bound : index < (itemsOf v).length) :
    Same (itemAt v index) (itemAt w index) := by
  cases same with
  | @array xs ys length items =>
    have left : xs[index]? = some xs[index] := List.getElem?_eq_getElem bound
    have right := List.getElem?_eq_getElem (l := ys) (length ▸ bound : index < ys.length)
    have members := items index _ _ left right
    rwa [itemAt,itemAt,itemsOf,itemsOf,left,right]
  | _ => exact absurd bound (Nat.not_lt_zero _)

theorem distinct_itemAt (distinct : DistinctKeys v) (index : Nat) : DistinctKeys (itemAt v index) := by
  cases v with
  | array items =>
    rw [DistinctKeys,distinctItems_iff] at distinct
    rw [itemAt,itemsOf]
    cases there : items[index]? with
    | none => exact trivial
    | some item => exact distinct item (List.mem_of_getElem? there)
  | _ => exact trivial

/-- Cursors that are spelled alike have the same offsets. -/
theorem offsetOf_same (valid : CursorSet c) (distinct : DistinctKeys c)
    (distinct' : DistinctKeys c') (same : Same c c') (bound : index < 2) :
    offsetOf c index = offsetOf c' index := by
  obtain ⟨first,second,families,exact',exact''⟩ := valid.families
  have listed := get_same distinct distinct' same
    (hasOwn_of_exact valid.keys (by decide : "families" ∈ CURSOR_SET_KEYS))
  have inside : index < (itemsOf (get c "families")).length := by rw [families]; exact bound
  have family := itemAt_same listed index inside
  have keys : hasExactKeys (familyAt c index) FAMILY_CURSOR_KEYS := by
    rw [familyAt,families]
    obtain rfl | rfl : index = 0 ∨ index = 1 := by omega
    · exact exact'
    · exact exact''
  exact numberOf_same (get_same (distinct_itemAt (distinct_get distinct _) index)
    (distinct_itemAt (distinct_get distinct' _) index) family (hasOwn_of_exact keys (by decide)))

theorem Facts.cursor_captured (facts : Facts sha256 boundary) (captured : isCaptured boundary) :
    cursorOf boundary = get boundary "initialCursor" := by
  rw [cursorOf,facts.captured captured]
  rfl

theorem Facts.cursor_observed (facts : Facts sha256 boundary) (observed : isCaptured boundary = false) :
    cursorOf boundary = get boundary "childCursor" := by
  rw [cursorOf,exact_object (cursorSet_of_valid (facts.observed observed)).keys]
  rfl

theorem not_both (observed : isObserved boundary) : isCaptured boundary = false := by
  rw [isObserved,isText_iff] at observed
  rw [isCaptured,observed]
  decide

theorem same_initial (injective : InjectiveOnCanonical sha256) (distinctV : DistinctKeys v)
    (distinctW : DistinctKeys w) (left : canonicalJsonHash sha256 v = .ok digest)
    (right : canonicalJsonHash sha256 w = .ok digest) : Same v w := by
  simp only [canonicalJsonHash,except_bind_ok] at left right
  obtain ⟨bytes,encoded,hashed⟩ := left
  obtain ⟨bytes',encoded',hashed'⟩ := right
  obtain rfl := injective _ _ _ _ encoded encoded' ((Except.ok.inj hashed).trans (Except.ok.inj hashed').symm)
  exact same_of_same_bytes ⟨_,distinctV⟩ ⟨_,distinctW⟩ encoded encoded'

/-- What the check of a successor leaves, in an attempt and between two. -/
structure Succeeds (previous next : Value) : Prop where
  revision : isNext (get next "revision") (get previous "revision") = true
  names : strictEqual (get next "previousBoundaryFingerprint") (get previous "boundaryFingerprint") = true
  cases : (attemptOf next = attemptOf previous ∧
      numberOf (get previous "lastTickMs") ≤ numberOf (get next "lastTickMs") ∧
      agree next previous immutableKeys = true ∧ Same (get previous "initialCursor") (get next "initialCursor") ∧
      (isObserved previous = true → isObserved next = true ∧
        agree next previous ["wrapperEpochFingerprint"] = true ∧
        Reaches (get previous "childCursor") (get next "childCursor"))) ∨
    (attemptOf next = attemptOf previous + 1 ∧ isCaptured next = true ∧
      (agree next previous ["bootFingerprint"] = true →
        numberOf (get previous "lastTickMs") ≤ numberOf (get next "startTickMs")))

theorem succeeds_of_valid (injective : InjectiveOnCanonical sha256)
    (distinctP : DistinctKeys previous) (distinctN : DistinctKeys next)
    (valid : validateServiceTrialBoundarySuccessor sha256 previous next = .ok ()) :
    Succeeds previous next := by
  simp only [validateServiceTrialBoundarySuccessor,checks_ok,and_eq_true,or_eq_true,not_eq_true',
    decide_eq_true_eq] at valid
  obtain ⟨-,-,⟨⟨⟨names,-⟩,revision⟩,tick⟩,rest⟩ := valid
  refine ⟨revision,names,?_⟩
  cases same : strictEqual (get next "attempt") (get previous "attempt") with
  | true =>
    rw [same] at tick rest
    simp only [if_true,except_unit_bind_ok,except_bind_ok (α := Units),check_ok,and_eq_true,
      or_eq_true,not_eq_true',beq_iff_eq,List.all_cons,List.all_nil,and_true,progresses,
      decide_eq_true_eq] at rest
    obtain ⟨members,digest,after,digest',before,⟨equal,phase⟩,wrapper,offsets⟩ := rest
    subst equal
    refine .inl ⟨numberOf_same (strictEqual_same same),tick.resolve_left (by decide),members,
      same_initial injective (distinct_get distinctP _) (distinct_get distinctN _) before after,
      fun observed => ?_⟩
    rw [isObserved] at observed
    rw [observed] at phase wrapper offsets
    obtain ⟨⟨-,first⟩,⟨-,second⟩⟩ := offsets.resolve_left (by decide)
    refine ⟨phase.resolve_left (by decide),wrapper.resolve_left (by decide),fun index bound => ?_⟩
    obtain rfl | rfl : index = 0 ∨ index = 1 := by omega
    · exact first
    · exact second
  | false =>
    rw [same] at rest
    simp only [false_eq_true,if_false,check_ok,and_eq_true,or_eq_true,not_eq_true',decide_eq_true_eq] at rest
    obtain ⟨⟨⟨-,attempt⟩,captured⟩,boot⟩ := rest
    refine .inr ⟨isNext_number attempt,captured,fun sameBoot => ?_⟩
    rw [sameBoot] at boot
    exact (boot.resolve_left (by decide)).1

/-- The first observation of an attempt does not fall behind its initial cursor. -/
def Keeps (previous next : Value) : Prop :=
  isCaptured previous = true → isObserved next = true → attemptOf next = attemptOf previous →
    Reaches (get next "initialCursor") (get next "childCursor")

theorem next_of_succeeds (facts : Facts sha256 previous)
    (succeeds : Succeeds previous next) : Next previous next where
  revision := isNext_number succeeds.revision
  names := by
    obtain ⟨text,own,-⟩ := isHex_iff.mp facts.own
    have names := strictEqual_same succeeds.names
    rw [own] at names ⊢
    exact same_string names
  attempt := by
    rcases succeeds.cases with ⟨same,-⟩ | ⟨next,captured,-⟩
    · exact .inl same
    · exact .inr ⟨next,captured⟩
  boot := by
    intro other same
    rcases succeeds.cases with ⟨equal,-⟩ | ⟨-,-,tick⟩
    · exact absurd equal other
    · refine tick ?_
      rw [agree,List.all_cons,List.all_nil,Bool.and_true,same]
      exact isHex_self facts.boot

theorem reaches_of_same (valid : CursorSet c) (distinct : DistinctKeys c)
    (distinct' : DistinctKeys c') (same : Same c c') : Reaches c c' :=
  fun _ bound => (offsetOf_same valid distinct distinct' same bound).le

/-- Within an attempt. -/
theorem sameAttempt_of_succeeds (facts : Facts sha256 previous)
    (facts' : Facts sha256 next) (distinct : DistinctKeys previous) (distinct' : DistinctKeys next)
    (succeeds : Succeeds previous next) (keeps : Keeps previous next)
    (equal : attemptOf next = attemptOf previous) :
    SameAttempt previous next ∧ agree next previous immutableKeys := by
  rcases succeeds.cases with ⟨-,tick,members,cursor,observed⟩ | ⟨other,-⟩
  · have initial := reaches_of_same (cursorSet_of_valid facts.initial) (distinct_get distinct _)
      (distinct_get distinct' _) cursor
    refine ⟨⟨fun key listed => ?_,cursor,fun was => ?_,tick,?_⟩,members⟩
    · exact (strictEqual_same (List.all_eq_true.mp members key listed)).symm
    · obtain ⟨still,wrapper,-⟩ := observed was
      refine ⟨still,?_⟩
      have hex : isHex (get previous "wrapperEpochFingerprint") := facts.hexWrapper (not_both was)
      obtain ⟨text,own,-⟩ := isHex_iff.mp hex
      have same := strictEqual_same (List.all_eq_true.mp wrapper _ List.mem_cons_self)
      rw [own] at same ⊢
      exact same_string same
    · cases captured : isCaptured previous with
      | false =>
        have was := facts.phase.resolve_left (by rw [captured]; decide)
        obtain ⟨still,-,offsets⟩ := observed was
        rw [facts.cursor_observed captured,facts'.cursor_observed (not_both still)]
        exact offsets
      | true =>
        rw [facts.cursor_captured captured]
        cases captured' : isCaptured next with
        | true =>
          rw [facts'.cursor_captured captured']
          exact initial
        | false =>
          have now := facts'.phase.resolve_left (by rw [captured']; decide)
          rw [facts'.cursor_observed captured']
          exact initial.trans (keeps captured now equal)
  · omega

end Digest

end GjcRemote.TrialBoundary
