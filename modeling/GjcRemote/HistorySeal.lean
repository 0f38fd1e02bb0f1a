import GjcRemote.SuccessorRecords
import GjcRemote.SuccessorHeadChain

/-! What a history seal proves: the markers from a marker down to the seal. -/
namespace GjcRemote.SuccessorEnvelope

open Utf16 StrictJson Record Envelope
open List hiding get

structure Succeeds (later earlier : Value) : Prop where
  sequence : isNext (get later "sequence") (get earlier "sequence") = true
  fence : isNext (get later "fenceGeneration") (get earlier "fenceGeneration") = true
  named : get later "previousMarkerFingerprint" = get earlier "markerFingerprint"

/-- Predecessors the check goes through: every one valid, no fingerprint twice. -/
structure Clean (sha256 : List UInt8 → Units) (anchorFingerprint : Value)
    (predecessors : List Value) : Prop where
  valid : ∀ predecessor ∈ predecessors,
    validateManagedHistoryMarker sha256 predecessor anchorFingerprint undefined = .ok ()
  apart : (predecessors.map fun m => get m "markerFingerprint").Nodup

structure History (sha256 : List UInt8 → Units) (anchorFingerprint marker sealMarker : Value)
    (chain : List Value) : Prop where
  top : chain.head? = some marker
  valid : ∀ m ∈ chain, validateManagedHistoryMarker sha256 m anchorFingerprint undefined = .ok ()
  linked : chain.IsChain Succeeds
  counted : safeInteger (get marker "sequence") = some (chain.length : Int)
  bottom : ∃ last, chain.getLast? = some last ∧
    get last "markerFingerprint" = get sealMarker "markerFingerprint" ∧
    safeInteger (get last "fenceGeneration") = safeInteger (get sealMarker "fenceGeneration") ∧
    (1 < chain.length → last = sealMarker)

/-- The markers the check looks up: all but the marker and the seal. -/
def between (chain : List Value) : List Value := chain.tail.dropLast

variable {sha256 : List UInt8 → Units}

theorem expects_undefined (value : Value) : expects undefined value := rfl

structure Marked (sha256 : List UInt8 → Units) (record expectedSequence : Value) : Prop where
  body : Sealed sha256 managedHistoryMarkerKeys "markerFingerprint" record
  fence : ∃ f, safeInteger (get record "fenceGeneration") = some f ∧ 1 ≤ f
  sequence : ∃ n, safeInteger (get record "sequence") = some n ∧ 1 ≤ n
  expected : expects expectedSequence (get record "sequence") = true

theorem marked (validated : validateManagedHistoryMarker sha256 record anchorFingerprint expectedSequence =
      .ok ()) : Marked sha256 record expectedSequence := by
  have body := marker_sealed validated
  simp only [validateManagedHistoryMarker,checks_ok,assertKeys,Bool.and_eq_true] at validated
  obtain ⟨_,⟨⟨⟨⟨_,_⟩,sequence⟩,fence⟩,_⟩,_,expected,_⟩ := validated
  exact ⟨body,isGeneration_iff.mp fence,isGeneration_iff.mp sequence,expected⟩

/-- An expected sequence asks for more. -/
theorem valid_unexpected
    (validated : validateManagedHistoryMarker sha256 record anchorFingerprint expectedSequence =
      .ok ()) : validateManagedHistoryMarker sha256 record anchorFingerprint undefined = .ok () := by
  simp only [validateManagedHistoryMarker,checks_ok] at validated ⊢
  obtain ⟨keys,shape,anchor,_,hashed⟩ := validated
  exact ⟨keys,shape,anchor,expects_undefined _,hashed⟩

/-- A marker named by the fingerprint of a valid one is named by it literally. -/
theorem relate_previous (known : Marked sha256 record expectedSequence)
    (related : relate cursor record [("previousMarkerFingerprint","markerFingerprint")]) :
    get cursor "previousMarkerFingerprint" = get record "markerFingerprint" :=
  known.body.named (relate_same related (by simp))

theorem related_previous (known : Marked sha256 record expectedSequence)
    (named : get cursor "previousMarkerFingerprint" = get record "markerFingerprint") :
    relate cursor record [("previousMarkerFingerprint","markerFingerprint")] := by
  obtain ⟨digest,_,text⟩ := known.body.own
  simp [relate,named,text,strictEqual]

theorem Clean.unique (clean : Clean sha256 anchorFingerprint predecessors)
    (memberOne : one ∈ predecessors) (memberOther : other ∈ predecessors)
    (same : get one "markerFingerprint" = get other "markerFingerprint") : one = other :=
  inj_on_of_nodup_map clean.apart memberOne memberOther same

theorem agree_fingerprint (left : Marked sha256 one expected) (right : Marked sha256 other expected') :
    agree one other ["markerFingerprint"] ↔ get one "markerFingerprint" = get other "markerFingerprint" := by
  obtain ⟨digest,_,text⟩ := left.body.own
  obtain ⟨digest',_,text'⟩ := right.body.own
  simp [agree,text,text',strictEqual]

theorem indexPredecessors_ok (before : ∀ m ∈ seen,
      validateManagedHistoryMarker sha256 m anchorFingerprint undefined = .ok ()) :
    indexPredecessors sha256 anchorFingerprint seen predecessors = .ok () ↔
      Clean sha256 anchorFingerprint predecessors ∧ ∀ m ∈ seen, ∀ p ∈ predecessors,
        get m "markerFingerprint" ≠ get p "markerFingerprint" := by
  induction predecessors generalizing seen with
  | nil => exact ⟨fun _ => ⟨⟨by simp,nodup_nil⟩,by simp⟩,fun _ => rfl⟩
  | cons p rest ih =>
    simp only [indexPredecessors,checks_ok]
    constructor
    · rintro ⟨valid,fresh,later⟩
      obtain ⟨clean,apart⟩ := (ih (forall_mem_cons.mpr ⟨valid,before⟩)).mp later
      have unseen : ∀ m ∈ seen, get m "markerFingerprint" ≠ get p "markerFingerprint" := by
        intro m member same
        have agreed := (agree_fingerprint (marked (before m member)) (marked valid)).mpr same
        simp only [Bool.not_eq_true',any_eq_false] at fresh
        exact fresh m member agreed
      refine ⟨⟨forall_mem_cons.mpr ⟨valid,clean.valid⟩,?_⟩,fun m member => ?_⟩
      · refine nodup_cons.mpr ⟨fun listed => ?_,clean.apart⟩
        obtain ⟨q,there,same⟩ := mem_map.mp listed
        exact apart p mem_cons_self q there same.symm
      · exact forall_mem_cons.mpr ⟨unseen m member,apart m (mem_cons_of_mem _ member)⟩
    · rintro ⟨⟨valid,apart⟩,unseen⟩
      obtain ⟨validP,validRest⟩ := forall_mem_cons.mp valid
      obtain ⟨apartP,apartRest⟩ := nodup_cons.mp apart
      refine ⟨validP,?_,(ih (forall_mem_cons.mpr ⟨validP,before⟩)).mpr ⟨⟨validRest,apartRest⟩,?_⟩⟩
      · simp only [Bool.not_eq_true',any_eq_false]
        intro m member agreed
        exact unseen m member p mem_cons_self
          ((agree_fingerprint (marked (before m member)) (marked validP)).mp agreed)
      · exact forall_mem_cons.mpr ⟨fun q there same => apartP (mem_map.mpr ⟨q,there,same.symm⟩),
          fun m member => (forall_mem_cons.mp (unseen m member)).2⟩

/-- A number is one integer only. -/
theorem isNumber_iff (safe : isSafeInteger (.int n)) (value : Value) :
    isNumber n value ↔ safeInteger value = some n := by
  refine ⟨safeInteger_isNumber safe,fun known => ?_⟩
  cases value with
  | number m =>
    rw [safeInteger_number] at known
    cases read : readNumber m with
    | int k =>
      simp only [read,Option.ite_none_right_eq_some,Option.some.injEq] at known
      simp [isNumber,read,known.2]
    | negativeZero => simp [read] at known
    | other => simp [read] at known
  | _ => simp [safeInteger] at known

theorem isSafe_of_known (known : safeInteger value = some n) :
    isSafeInteger (.int n) := by
  cases value with
  | number m =>
    rw [safeInteger_number] at known
    cases read : readNumber m with
    | int k =>
      simp only [read,Option.ite_none_right_eq_some,Option.some.injEq] at known
      exact known.2 ▸ known.1
    | negativeZero => simp [read] at known
    | other => simp [read] at known
  | _ => simp [safeInteger] at known

theorem isSafe_below {n : Nat} (safe : isSafeInteger (.int (n + 2))) :
    isSafeInteger (.int (n + 1)) := by
  simp only [StrictJson.isSafeInteger] at safe ⊢
  grind [maxSafeInteger]

section Descent

variable {anchorFingerprint sealMarker : Value} {predecessors : List Value}

/-- The checks of one turn say that the marker found is the one before the cursor. -/
theorem turn_ok {n : Nat} (known : Marked sha256 earlier expected)
    (counted : safeInteger (get cursor "sequence") = some ((n : Int) + 2)) :
    (isNumber (n + 1) (get earlier "sequence") &&
      relate cursor earlier [("previousMarkerFingerprint","markerFingerprint")] &&
      isNext (get cursor "fenceGeneration") (get earlier "fenceGeneration")) ↔ Succeeds cursor earlier := by
  have safe := isSafe_below (isSafe_of_known counted)
  rw [Bool.and_eq_true,Bool.and_eq_true,isNumber_iff safe]
  constructor
  · rintro ⟨⟨sequence,related⟩,fence⟩
    exact ⟨isNext_iff.mpr ⟨_,sequence,by rw [counted,add_assoc]; rfl⟩,fence,relate_previous known related⟩
  · rintro ⟨sequence,fence,named⟩
    obtain ⟨p,before,after⟩ := isNext_iff.mp sequence
    rw [counted,Option.some.injEq] at after
    refine ⟨⟨?_,related_previous known named⟩,fence⟩
    rw [before,Option.some.injEq]
    omega

/-- One turn of the descent. -/
theorem descend_turn (clean : Clean sha256 anchorFingerprint predecessors)
    (validSeal : Marked sha256 sealMarker undefined) {n : Nat}
    (counted : safeInteger (get cursor "sequence") = some ((n : Int) + 2)) :
    descend sealMarker predecessors (n + 1) cursor = .ok () ↔ ∃ earlier,
      (if n = 0 then earlier = sealMarker else earlier ∈ predecessors) ∧
      Succeeds cursor earlier ∧ descend sealMarker predecessors n earlier = .ok () := by
  rw [descend]
  by_cases bottom : n = 0
  · simp only [bottom,if_true,checks_ok,exists_eq_left]
    subst bottom
    rw [turn_ok validSeal counted]
  · simp only [if_neg bottom]
    cases found : predecessors.find? fun predecessor =>
        relate cursor predecessor [("previousMarkerFingerprint","markerFingerprint")] with
    | none =>
      simp only [reduceCtorEq,false_iff]
      rintro ⟨earlier,listed,succeeds,_⟩
      have known := marked (clean.valid earlier listed)
      exact find?_eq_none.mp found earlier listed (related_previous known succeeds.named)
    | some p =>
      have listed := mem_of_find?_eq_some found
      have known := marked (clean.valid p listed)
      simp only [checks_ok,turn_ok known counted]
      constructor
      · rintro ⟨succeeds,later⟩
        exact ⟨p,listed,succeeds,later⟩
      · rintro ⟨earlier,listed',succeeds,later⟩
        have related := find?_some found
        have named := relate_previous known related
        have same := clean.unique listed listed' (named.symm.trans succeeds.named)
        exact same ▸ ⟨succeeds,later⟩

/-- The descent goes through whenever the predecessors hold the markers down to the seal. -/
theorem descend_ok (clean : Clean sha256 anchorFingerprint predecessors)
    (validSeal : Marked sha256 sealMarker undefined) {n : Nat}
    (counted : safeInteger (get cursor "sequence") = some ((n : Int) + 1)) :
    descend sealMarker predecessors n cursor = .ok () ↔ ∃ below : List Value, below.length = n ∧
      (cursor :: below).IsChain Succeeds ∧ (0 < n → below.getLast? = some sealMarker) ∧
      below.dropLast ⊆ predecessors := by
  induction n generalizing cursor with
  | zero =>
    refine ⟨fun _ => ⟨[],rfl,.singleton _,by simp,by simp⟩,fun _ => rfl⟩
  | succ n ih =>
    have counted' : safeInteger (get cursor "sequence") = some ((n : Int) + 2) := by
      rw [counted]
      rfl
    have next {earlier : Value} (succeeds : Succeeds cursor earlier) :
        safeInteger (get earlier "sequence") = some ((n : Int) + 1) := by
      obtain ⟨p,before,after⟩ := isNext_iff.mp succeeds.sequence
      rw [counted',Option.some.injEq] at after
      rw [before,Option.some.injEq]
      omega
    rw [descend_turn clean validSeal counted']
    constructor
    · rintro ⟨earlier,where',succeeds,onward⟩
      obtain ⟨rest,length,linked,bottom,listed⟩ := (ih (next succeeds)).mp onward
      refine ⟨earlier :: rest,by simp [length],.cons_cons succeeds linked,fun _ => ?_,?_⟩
      · cases rest with
        | nil =>
          rw [if_pos (by simpa using length.symm)] at where'
          simp [where']
        | cons m rest => rw [getLast?_cons_cons,bottom (by simp [← length])]
      · cases rest with
        | nil => simp
        | cons m rest =>
          rw [if_neg (by simp [← length])] at where'
          exact cons_subset.mpr ⟨where',listed⟩
    · rintro ⟨below,length,linked,bottom,listed⟩
      cases below with
      | nil => simp at length
      | cons earlier rest =>
        obtain ⟨succeeds,linked⟩ := isChain_cons_cons.mp linked
        have length : rest.length = n := by simpa using length
        refine ⟨earlier,?_,succeeds,(ih (next succeeds)).mpr ⟨rest,length,linked,?_,?_⟩⟩
        · split
          · next none =>
            rw [length_eq_zero_iff.mp (length.trans none)] at bottom
            simpa using bottom
          · next some =>
            cases rest with
            | nil => exact absurd length.symm some
            | cons m rest => exact listed (by simp)
        · intro more
          cases rest with
          | nil => simp [← length] at more
          | cons m rest => simpa using bottom
        · cases rest with
          | nil => simp
          | cons m rest =>
            exact (cons_subset.mp listed).2

end Descent

/-- The fence rises by one with each marker. -/
theorem fence_rises {chain : List Value} (linked : chain.IsChain Succeeds)
    (first : chain.head? = some top) (ended : chain.getLast? = some last)
    (known : safeInteger (get last "fenceGeneration") = some low) :
    safeInteger (get top "fenceGeneration") = some (low + chain.length - 1) := by
  induction chain generalizing top with
  | nil => simp at first
  | cons m rest ih =>
    obtain rfl : m = top := by simpa using first
    cases rest with
    | nil =>
      obtain rfl : m = last := by simpa using ended
      simpa using known
    | cons below rest =>
      obtain ⟨succeeds,onward⟩ := isChain_cons_cons.mp linked
      obtain ⟨p,before,after⟩ := isNext_iff.mp succeeds.fence
      rw [ih onward rfl (by simpa using ended),Option.some.injEq] at before
      rw [after,Option.some.injEq,← before,length_cons (a := m)]
      omega

structure Proven (sha256 : List UInt8 → Units) (marker sealMarker anchorFingerprint predecessors : Value)
    (chain : List Value) : Prop where
  history : History sha256 anchorFingerprint marker sealMarker chain
  sealed : validateManagedHistoryMarker sha256 sealMarker anchorFingerprint (.number (.int 1)) = .ok ()
  fence : ∃ top low, safeInteger (get marker "fenceGeneration") = some top ∧
    safeInteger (get sealMarker "fenceGeneration") = some low ∧ top = low + chain.length - 1
  listed : chain.length = 1 ∨ ∃ items, predecessorsOr predecessors = .array items ∧
    Clean sha256 anchorFingerprint items ∧ between chain ⊆ items
  others : ∀ items : List Value, Clean sha256 anchorFingerprint items → between chain ⊆ items →
    validateManagedHistoryMarkerSeal sha256 marker sealMarker anchorFingerprint (.array items) = .ok ()

theorem seal_proves (accepted : validateManagedHistoryMarkerSeal sha256 marker sealMarker anchorFingerprint
      predecessors = .ok ()) :
    ∃ chain, Proven sha256 marker sealMarker anchorFingerprint predecessors chain := by
  simp only [validateManagedHistoryMarkerSeal,checks_ok] at accepted
  obtain ⟨present,valid,validSeal,accepted⟩ := accepted
  obtain ⟨low,knownLow,_⟩ := (marked validSeal).fence
  obtain ⟨count,counted,positive⟩ := (marked valid).sequence
  by_cases first : isNumber 1 (get marker "sequence")
  · rw [if_pos first,check_ok] at accepted
    have one := safeInteger_isNumber rfl first
    have named := (marked validSeal).body.named (agree_same accepted (by simp))
    have fences := safeInteger_same (agree_same accepted (show "fenceGeneration" ∈ _ by simp))
    refine ⟨[marker],⟨rfl,by simpa using valid,.singleton _,one,marker,rfl,named,fences,by simp⟩,validSeal,
      ⟨low,low,fences.trans knownLow,knownLow,by simp⟩,.inl rfl,fun items _ _ => ?_⟩
    simp only [validateManagedHistoryMarkerSeal,checks_ok,if_pos first]
    exact ⟨present,valid,validSeal,accepted⟩
  · rw [if_neg first] at accepted
    cases given : predecessorsOr predecessors with
    | array items =>
      simp only [given,except_unit_bind_ok] at accepted
      obtain ⟨indexed,descended⟩ := accepted
      obtain ⟨clean,_⟩ := (indexPredecessors_ok (by simp)).mp indexed
      have sealKnown := marked (valid_unexpected validSeal)
      obtain ⟨n,rfl⟩ : ∃ n : Nat, count = (n : Int) + 1 := ⟨(count - 1).toNat,by omega⟩
      have turns : ((safeInteger (get marker "sequence")).getD 1).toNat - 1 = n := by
        rw [counted,Option.getD_some]
        omega
      have more : 0 < n := by
        refine Nat.pos_of_ne_zero fun zero => first ?_
        rw [isNumber_iff rfl,counted,zero]
        rfl
      rw [turns] at descended
      obtain ⟨below,length,linked,bottom,listed⟩ := (descend_ok clean sealKnown counted).mp descended
      have ended : (marker :: below).getLast? = some sealMarker := by
        cases below with
        | nil => simp [← length] at more
        | cons m rest => simpa using bottom more
      have whole : ∀ m ∈ marker :: below,
          validateManagedHistoryMarker sha256 m anchorFingerprint undefined = .ok () := by
        refine forall_mem_cons.mpr ⟨valid,fun m member => ?_⟩
        have split := dropLast_append_getLast? _ (bottom more)
        rw [← split,mem_append,mem_singleton] at member
        rcases member with inside | rfl
        · exact clean.valid m (listed inside)
        · exact valid_unexpected validSeal
      have height : (marker :: below).length = n + 1 := by simp [length]
      refine ⟨marker :: below,⟨rfl,whole,linked,by rw [counted,height]; rfl,sealMarker,ended,rfl,rfl,
        fun _ => rfl⟩,validSeal,⟨_,low,fence_rises linked rfl ended knownLow,knownLow,rfl⟩,
        .inr ⟨items,given,clean,listed⟩,fun others cleanOthers inside => ?_⟩
      simp only [validateManagedHistoryMarkerSeal,checks_ok,if_neg first,turns,predecessorsOr]
      refine ⟨present,valid,validSeal,(indexPredecessors_ok (by simp)).mpr ⟨cleanOthers,by simp⟩,?_⟩
      exact (descend_ok cleanOthers sealKnown counted).mpr ⟨below,length,linked,bottom,inside⟩
    | _ => simp [given,throw,throwThe,MonadExceptOf.throw] at accepted

/-- Chains whose tops have one fingerprint are the same chain. -/
theorem same_chain (injective : InjectiveOnCanonical sha256) (length : left.length = right.length)
    (validL : ∀ m ∈ a :: left, validateManagedHistoryMarker sha256 m anchor undefined = .ok ())
    (validR : ∀ m ∈ b :: right, validateManagedHistoryMarker sha256 m anchor' undefined = .ok ())
    (linkedL : (a :: left).IsChain Succeeds) (linkedR : (b :: right).IsChain Succeeds)
    (equal : get a "markerFingerprint" = get b "markerFingerprint") :
    Forall₂ Same (a :: left) (b :: right) := by
  induction left generalizing a b right with
  | nil =>
    obtain rfl := length_eq_zero_iff.mp length.symm
    have bodyA := (marked (validL a mem_cons_self)).body
    have bodyB := (marked (validR b mem_cons_self)).body
    exact .cons (bodyA.same_record injective managedHistoryMarkerKeys_nodup bodyB equal) .nil
  | cons a' left ih =>
    cases right with
    | nil => simp at length
    | cons b' right =>
      have bodyA := (marked (validL a mem_cons_self)).body
      have bodyB := (marked (validR b mem_cons_self)).body
      obtain ⟨succeedsA,linkedL⟩ := isChain_cons_cons.mp linkedL
      obtain ⟨succeedsB,linkedR⟩ := isChain_cons_cons.mp linkedR
      have validL := (forall_mem_cons.mp validL).2
      have validR := (forall_mem_cons.mp validR).2
      have previous := bodyA.same injective managedHistoryMarkerKeys_nodup bodyB equal
        (show "previousMarkerFingerprint" ∈ managedHistoryMarkerKeys by simp [managedHistoryMarkerKeys])
      rw [succeedsA.named,succeedsB.named] at previous
      have named := (marked (validR b' mem_cons_self)).body.named previous
      refine .cons (bodyA.same_record injective managedHistoryMarkerKeys_nodup bodyB equal) ?_
      exact ih (by simpa using length) validL validR linkedL linkedR named

theorem forall₂_getLast {α β : Type} {R : α → β → Prop} {left : List α} {right : List β}
    (related : Forall₂ R left right) {a : α} {b : β} (endL : left.getLast? = some a)
    (endR : right.getLast? = some b) : R a b := by
  induction related with
  | nil => simp at endL
  | cons here later ih =>
    cases later with
    | nil =>
      simp only [getLast?_singleton,Option.some.injEq] at endL endR
      exact endL ▸ endR ▸ here
    | cons => exact ih (by simpa using endL) (by simpa using endR)

/-- The fingerprints of one valid marker, read twice, are one text. -/
theorem same_fingerprint (validV : validateManagedHistoryMarker sha256 v anchor undefined = .ok ())
    (validW : validateManagedHistoryMarker sha256 w anchor' undefined = .ok ()) (same : Same v w) :
    get v "markerFingerprint" = get w "markerFingerprint" := by
  have bodyV := (marked validV).body
  have bodyW := (marked validW).body
  have listed : "markerFingerprint" ∈ managedHistoryMarkerKeys := by simp [managedHistoryMarkerKeys]
  exact bodyW.named (get_same (distinctKeys_of_members bodyV.exact managedHistoryMarkerKeys_nodup bodyV.members)
    (distinctKeys_of_members bodyW.exact managedHistoryMarkerKeys_nodup bodyW.members) same
    (hasOwn_of_exact bodyV.exact listed))

theorem one_history (injective : InjectiveOnCanonical sha256) (same : Same marker marker')
    (validL : validateManagedHistoryMarker sha256 sealMarker anchor (.number (.int 1)) = .ok ())
    (validR : validateManagedHistoryMarker sha256 sealMarker' anchor' (.number (.int 1)) = .ok ())
    (left : History sha256 anchor marker sealMarker chain)
    (right : History sha256 anchor' marker' sealMarker' chain') :
    Forall₂ Same chain chain' ∧ Same sealMarker sealMarker' := by
  have chains : Forall₂ Same chain chain' := by
    obtain ⟨below,rfl⟩ := head?_eq_some_iff.mp left.top
    obtain ⟨below',rfl⟩ := head?_eq_some_iff.mp right.top
    have equal := same_fingerprint (left.valid marker mem_cons_self) (right.valid marker' mem_cons_self) same
    have bodyL := (marked (left.valid marker mem_cons_self)).body
    have bodyR := (marked (right.valid marker' mem_cons_self)).body
    have counts := safeInteger_same (bodyL.same injective managedHistoryMarkerKeys_nodup bodyR equal
      (show "sequence" ∈ managedHistoryMarkerKeys by simp [managedHistoryMarkerKeys]))
    rw [left.counted,right.counted,Option.some.injEq] at counts
    exact same_chain injective (by simpa using counts) left.valid right.valid left.linked right.linked equal
  obtain ⟨last,ended,named,_⟩ := left.bottom
  obtain ⟨last',ended',named',_⟩ := right.bottom
  have memberL := mem_of_getLast? ended
  have memberR := mem_of_getLast? ended'
  have ends := same_fingerprint (left.valid last memberL) (right.valid last' memberR)
    (forall₂_getLast chains ended ended')
  refine ⟨chains,?_⟩
  exact (marked validL).body.same_record injective managedHistoryMarkerKeys_nodup (marked validR).body
    (named.symm.trans (ends.trans named'))

/-- The loop of the check turn by turn; none while it has not ended. -/
def descentLoop (sealMarker : Value) (predecessors : List Value) :
    Nat → Int → Value → Option (Except JsError Unit)
  | 0,_,_ => none
  | turns + 1,sequence,cursor =>
    if sequence < 1 then some (.ok ())
    else
      let named := fun predecessor =>
        relate cursor predecessor [("previousMarkerFingerprint","markerFingerprint")]
      match if sequence = 1 then some sealMarker else predecessors.find? named with
      | some predecessor =>
        if isNumber sequence (get predecessor "sequence") && named predecessor &&
            isNext (get cursor "fenceGeneration") (get predecessor "fenceGeneration") then
          descentLoop sealMarker predecessors turns (sequence - 1) predecessor
        else some (.error (fail "managed history marker predecessor chain"))
      | none => some (.error (fail "managed history marker predecessor chain"))

theorem isNumber_one (is : isNumber n value) (is' : isNumber k value) : n = k := by
  cases value with
  | number m =>
    simp only [isNumber,beq_iff_eq] at is is'
    exact Number.int.inj (is.symm.trans is')
  | _ => simp [isNumber] at is

/-- Every turn but the last two uses up a predecessor. -/
theorem descentLoop_ends (sealMarker : Value) (predecessors : List Value)
    (apart : used.Nodup) (inside : used ⊆ predecessors) {cursor : Value}
    (above : ∀ m ∈ used, ∃ k : Nat, n < k ∧ isNumber k (get m "sequence")) :
    descentLoop sealMarker predecessors (predecessors.length - used.length + 2) n cursor =
      some (descend sealMarker predecessors n cursor) := by
  induction n generalizing used cursor with
  | zero => rw [descentLoop,if_pos (by decide),descend]
  | succ n ih =>
    have first : (((n + 1 : Nat) : Int) = 1) = (n = 0) := by
      rw [eq_iff_iff]
      omega
    rw [descentLoop,if_neg (by omega),descend]
    simp only [first]
    cases found : (if n = 0 then some sealMarker else predecessors.find? fun predecessor =>
        relate cursor predecessor [("previousMarkerFingerprint","markerFingerprint")]) with
    | none => rfl
    | some p =>
      simp only [Nat.cast_add,Nat.cast_one,add_sub_cancel_right]
      cases passes : (isNumber (n + 1) (get p "sequence") &&
          relate cursor p [("previousMarkerFingerprint","markerFingerprint")] &&
          isNext (get cursor "fenceGeneration") (get p "fenceGeneration")) with
      | false => rfl
      | true =>
        show descentLoop sealMarker predecessors (predecessors.length - used.length + 1) n p =
          some (descend sealMarker predecessors n p)
        by_cases bottom : n = 0
        · subst bottom
          rw [descentLoop,if_pos (by decide),descend]
        rw [if_neg bottom] at found
        have listed := mem_of_find?_eq_some found
        have here : isNumber ((n + 1 : Nat) : Int) (get p "sequence") := by
          rw [Bool.and_eq_true,Bool.and_eq_true] at passes
          exact_mod_cast passes.1.1
        have fresh : p ∉ used := by
          intro member
          obtain ⟨k,larger,there⟩ := above p member
          have same := isNumber_one here there
          omega
        have apart' : (p :: used).Nodup := nodup_cons.mpr ⟨fresh,apart⟩
        have inside' : p :: used ⊆ predecessors := cons_subset.mpr ⟨listed,inside⟩
        have room := (subperm_of_subset apart' inside').length_le
        have onward := @ih (p :: used) apart' inside' p (forall_mem_cons.mpr
          ⟨⟨n + 1,by omega,here⟩,fun m member => by
            obtain ⟨k,larger,there⟩ := above m member
            exact ⟨k,by omega,there⟩⟩)
        rw [length_cons] at onward room
        have turns : predecessors.length - used.length + 1 = predecessors.length - (used.length + 1) + 2 := by
          omega
        rw [turns]
        exact onward

/-- An accepted seal proves the whole history: the chain of markers from the marker to the seal, with
fences that rise by one, whatever else the predecessors hold. A marker has one such chain and one seal,
and the check ends on every input, after at most two turns more than there are predecessors. -/
theorem managed_history_sealed (marker sealMarker anchorFingerprint predecessors : Value) :
    (validateManagedHistoryMarkerSeal sha256 marker sealMarker anchorFingerprint predecessors = .ok () →
      ∃ chain, Proven sha256 marker sealMarker anchorFingerprint predecessors chain) ∧
    (InjectiveOnCanonical sha256 → ∀ (marker' sealMarker' anchor' predecessors' : Value),
      validateManagedHistoryMarkerSeal sha256 marker sealMarker anchorFingerprint predecessors = .ok () →
      validateManagedHistoryMarkerSeal sha256 marker' sealMarker' anchor' predecessors' = .ok () →
      Same marker marker' → ∀ chain chain' : List Value,
        History sha256 anchorFingerprint marker sealMarker chain →
        History sha256 anchor' marker' sealMarker' chain' →
        Forall₂ Same chain chain' ∧ Same sealMarker sealMarker') ∧
    ∀ (items : List Value) (sequence : Nat) (cursor : Value), ∃ turns ≤ items.length + 2,
      descentLoop sealMarker items turns sequence cursor = some (descend sealMarker items sequence cursor) := by
  refine ⟨seal_proves,?_,?_⟩
  · intro injective marker' sealMarker' anchor' predecessors' accepted accepted' same chain chain' left right
    obtain ⟨_,proven⟩ := seal_proves accepted
    obtain ⟨_,proven'⟩ := seal_proves accepted'
    exact one_history injective same proven.sealed proven'.sealed left right
  · intro items sequence cursor
    exact ⟨items.length + 2,le_rfl,descentLoop_ends sealMarker items nodup_nil (by simp) (by simp)⟩

section Sample

set_option maxRecDepth 100000

def historyMarker (sequence fence : Int) (previous : Value) (own : Nat) : Value :=
  .object [(ascii "anchorFingerprint",repeated 10),(ascii "fenceGeneration",integer fence),
    (ascii "kind",asciiText "managed-history-marker"),(ascii "markerFingerprint",hexText own),
    (ascii "previousMarkerFingerprint",previous),(ascii "sequence",integer sequence),(ascii "version",integer 1)]

def genesisMarker : Value := historyMarker 1 1 .null
  0x9f998ff1dd1976cf53dd11f68227eb7d2dd3ecf98b6b6a67794e4396adbe2165

def secondMarker : Value := historyMarker 2 2
  (hexText 0x9f998ff1dd1976cf53dd11f68227eb7d2dd3ecf98b6b6a67794e4396adbe2165)
  0xc9701cc66dcb716194911b7bd4119b878117b9a5efca11034f778236d3245de9

def thirdMarker : Value := historyMarker 3 3
  (hexText 0xc9701cc66dcb716194911b7bd4119b878117b9a5efca11034f778236d3245de9)
  0xafc3d92b3b2fdaa495d36e03954d1c55e31b11ffc46fb9c1ef2fa747652a6255

/-- A marker of no chain. -/
def strayMarker : Value := historyMarker 2 5 (repeated 11)
  0x87e69b847659ec9d547065f7dbbe6733b75746ad52c9b12bc7007930b616e458

def historyRecords : List (Value × String × Nat) :=
  [(genesisMarker,"markerFingerprint",0x9f998ff1dd1976cf53dd11f68227eb7d2dd3ecf98b6b6a67794e4396adbe2165),
    (secondMarker,"markerFingerprint",0xc9701cc66dcb716194911b7bd4119b878117b9a5efca11034f778236d3245de9),
    (thirdMarker,"markerFingerprint",0xafc3d92b3b2fdaa495d36e03954d1c55e31b11ffc46fb9c1ef2fa747652a6255),
    (strayMarker,"markerFingerprint",0x87e69b847659ec9d547065f7dbbe6733b75746ad52c9b12bc7007930b616e458)]

def historyDigest : List UInt8 → Units := sealing historyRecords

theorem historyDigest_injective : InjectiveOnCanonical historyDigest := sealing_injective (by decide)

theorem historyRecords_sealed : areSealed ["previousMarkerFingerprint"] historyRecords = true := by
  simp only [areSealed,textCodes,without_byCode,byCode]
  decide +kernel

theorem history_hashed (i : Nat) (located : historyRecords[i]? = some r) : assertHash historyDigest r.1 r.2.1 = .ok () :=
  sealing_hashed historyRecords_sealed (List.mem_of_getElem? located)

theorem history_valid : ∀ m ∈ [genesisMarker,secondMarker,thirdMarker,strayMarker],
    validateManagedHistoryMarker historyDigest m (repeated 10) undefined = .ok () := by
  have evaluated : (validateManagedHistoryMarker historyDigest genesisMarker (repeated 10) undefined).isOk ∧
      (validateManagedHistoryMarker historyDigest secondMarker (repeated 10) undefined).isOk ∧
      (validateManagedHistoryMarker historyDigest thirdMarker (repeated 10) undefined).isOk ∧
      (validateManagedHistoryMarker historyDigest strayMarker (repeated 10) undefined).isOk := by
    simp only [validateManagedHistoryMarker,history_hashed 0 rfl,history_hashed 1 rfl,history_hashed 2 rfl,
      history_hashed 3 rfl]
    simp only [assertKeys,hasExactKeys,expects,byCode]
    decide +kernel
  obtain ⟨genesis,second,third,stray⟩ := evaluated
  simp only [forall_mem_cons,not_mem_nil,false_imp_iff,implies_true,and_true]
  exact ⟨isOk_unit genesis,isOk_unit second,isOk_unit third,isOk_unit stray⟩

theorem history_chain : History historyDigest (repeated 10) thirdMarker genesisMarker
    [thirdMarker,secondMarker,genesisMarker] where
  top := rfl
  valid := by
    intro m member
    refine history_valid m ?_
    simp only [mem_cons,not_mem_nil,or_false] at member ⊢
    tauto
  linked := by
    refine .cons_cons ⟨?_,?_,?_⟩ (.cons_cons ⟨?_,?_,?_⟩ (.singleton _))
    all_goals rw [get_byCode]
    all_goals rfl
  counted := by
    rw [get_byCode]
    rfl
  bottom := ⟨genesisMarker,rfl,rfl,rfl,fun _ => rfl⟩

theorem history_accepted : (validateManagedHistoryMarkerSeal historyDigest thirdMarker genesisMarker (repeated 10)
      (.array [secondMarker])).isOk ∧
    (validateManagedHistoryMarkerSeal historyDigest thirdMarker genesisMarker (repeated 10)
      (.array [strayMarker,secondMarker])).isOk ∧
    !(validateManagedHistoryMarkerSeal historyDigest thirdMarker genesisMarker (repeated 10) undefined).isOk := by
  have valid := history_valid
  simp only [forall_mem_cons,not_mem_nil,false_imp_iff,implies_true,and_true] at valid
  obtain ⟨-,second,third,stray⟩ := valid
  have bottom : validateManagedHistoryMarker historyDigest genesisMarker (repeated 10) (.number (.int 1)) = .ok () := by
    apply isOk_unit
    simp only [validateManagedHistoryMarker,history_hashed 0 rfl]
    simp only [assertKeys,hasExactKeys,expects,byCode]
    decide +kernel
  simp only [validateManagedHistoryMarkerSeal,indexPredecessors,predecessorsOr,second,third,stray,bottom]
  decide +kernel

/-- Three markers, accepted with a stray predecessor and without, and not without the second one. -/
theorem managed_history_sealed_three : InjectiveOnCanonical historyDigest ∧
    (∃ chain, Proven historyDigest thirdMarker genesisMarker (repeated 10) (.array [strayMarker,secondMarker]) chain ∧
      Forall₂ Same chain [thirdMarker,secondMarker,genesisMarker]) ∧
    validateManagedHistoryMarkerSeal historyDigest thirdMarker genesisMarker (repeated 10) undefined ≠ .ok () := by
  obtain ⟨accepted,strayed,refused⟩ := history_accepted
  obtain ⟨proves,unique,-⟩ := @managed_history_sealed historyDigest thirdMarker genesisMarker (repeated 10)
    (.array [strayMarker,secondMarker])
  obtain ⟨chain,proven⟩ := proves (isOk_unit strayed)
  have body := (marked (history_valid thirdMarker (by simp))).body
  have top := body.same_record historyDigest_injective managedHistoryMarkerKeys_nodup body rfl
  have same := (unique historyDigest_injective _ _ _ _ (isOk_unit strayed) (isOk_unit accepted) top _ _
    proven.history history_chain).1
  refine ⟨historyDigest_injective,⟨chain,proven,same⟩,fun ok => ?_⟩
  rw [ok] at refused
  exact absurd refused (by decide)

end Sample

end GjcRemote.SuccessorEnvelope
