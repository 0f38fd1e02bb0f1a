import GjcRemote.GenesisEnvelope
import GjcRemote.PlainRecords

/-! The token history of `shared/managed-authority-proof.js`: attestations and floors,
generation by generation, and what a history that is accepted says. -/
namespace GjcRemote.TokenHistory

open Utf16 StrictJson Record Envelope
open GenesisEnvelope

set_option maxRecDepth 100000

structure Snapshot where
  attestationHistoryBytes : List UInt8
  tokenFloorHistoryBytes : List UInt8

def parseAuthorityBytes (bytes : List UInt8) : Except JsError Value :=
  parseCanonicalJsonBytes bytes STRICT_JSON_LIMITS

def arrayItems : Value → Option (List Value)
  | .array items => some items
  | _ => none

/-- `value === base + offset` for a validated base. -/
def isOffset (value base : Value) (offset : Nat) : Bool :=
  match safeInteger value,safeInteger base with
  | some n,some b => n = b + offset
  | _,_ => false

/-- `items[value - base]`. -/
def itemAt (items : List Value) (value base : Value) : Value :=
  match safeInteger value,safeInteger base with
  | some n,some b => if b ≤ n then (items[(n - b).toNat]?).getD undefined else undefined
  | _,_ => undefined

section Digest

variable (sha256 : List UInt8 → Units)

def validateCommittedLineage (attestation floor anchorFingerprint : Value) : Except JsError Unit := do
  validateTokenConfigAttestation sha256 attestation
  validateTokenFloor sha256 floor
  check (isText "committed" (get floor "floorPhase") &&
      strictEqual (get attestation "anchorFingerprint") anchorFingerprint &&
      strictEqual (get floor "anchorFingerprint") anchorFingerprint &&
      agree attestation floor ["fenceGeneration"] &&
      relate floor attestation [("highestReservedGeneration","tokenConfigGeneration"),
        ("highestCommittedGeneration","tokenConfigGeneration"),("lastReservationTxId","txId"),
        ("lastCommittedTxId","txId"),("lastAttestationFingerprint","attestationFingerprint")])
    (typeError "committed token lineage")

def follows (attestation floor previous previousFloor : Value) : Bool :=
  let sameHostSet := agree attestation previous ["tokenConfigHostSetFingerprint"]
  relate attestation previous [("previousAttestationFingerprint","attestationFingerprint")] &&
    isNext (get floor "highestCommittedGeneration") (get previousFloor "highestCommittedGeneration") &&
    (isText "same-key" (get attestation "rotationKind") == sameHostSet) &&
    (isText "host-set-change" (get attestation "rotationKind") == !sameHostSet)

def validateEntries (anchorFingerprint firstGeneration : Value) :
    Nat → Value → Value → List (Value × Value) → Except JsError Unit
  | _,_,_,[] => .ok ()
  | index,previous,previousFloor,(attestation,floor) :: rest => do
    validateCommittedLineage sha256 attestation floor anchorFingerprint
    check (strictEqual (get attestation "anchorFingerprint") anchorFingerprint &&
        strictEqual (get floor "anchorFingerprint") anchorFingerprint &&
        isNumber 1 (get floor "genesisGeneration") &&
        isOffset (get attestation "tokenConfigGeneration") firstGeneration index &&
        relate floor attestation [("highestCommittedGeneration","tokenConfigGeneration"),
          ("highestReservedGeneration","tokenConfigGeneration")] &&
        (index != 0 || (isNumber 1 (get attestation "tokenConfigGeneration") &&
          isText "genesis" (get attestation "rotationKind") &&
          isNumber 1 (get attestation "fenceGeneration") &&
          isNull (get attestation "previousAttestationFingerprint"))) &&
        (index == 0 || follows attestation floor previous previousFloor))
      (typeError "token history lineage")
    validateEntries anchorFingerprint firstGeneration (index + 1) attestation floor rest

/-- The attestations and floors of an accepted history. -/
def validateTokenHistory (snapshot : Snapshot) (anchorFingerprint historicalAttestation historicalFloor
    currentAttestation currentFloor : Value) : Except JsError (List Value × List Value) := do
  let parsedAttestations ← parseAuthorityBytes snapshot.attestationHistoryBytes
  let parsedFloors ← parseAuthorityBytes snapshot.tokenFloorHistoryBytes
  match arrayItems parsedAttestations,arrayItems parsedFloors with
  | some attestations,some floors =>
    check (attestations.length != 0 && attestations.length == floors.length) (typeError "token history schema")
    let firstGeneration := get (attestations.headD .null) "tokenConfigGeneration"
    validateEntries sha256 anchorFingerprint firstGeneration 0 .null .null (attestations.zip floors)
    let generation := get historicalAttestation "tokenConfigGeneration"
    check ((isNull historicalAttestation ||
          (agree (itemAt attestations generation firstGeneration) historicalAttestation
            ["attestationFingerprint"] &&
          agree (itemAt floors generation firstGeneration) historicalFloor ["floorFingerprint"])) &&
        agree (attestations.getLastD .null) currentAttestation ["attestationFingerprint"] &&
        agree (floors.getLastD .null) currentFloor ["floorFingerprint"])
      (typeError "token history snapshot binding")
    return (attestations,floors)
  | _,_ => throw (typeError "token history schema")

end Digest

variable {sha256 : List UInt8 → Units}

theorem attestationKeys_nodup : (attestationKeys.map ofString).Nodup := names_nodup (by decide)

variable {attestation : Value}

section

variable (validated : validateTokenConfigAttestation sha256 attestation = .ok ())
include validated

theorem attestation_sealed :
    Sealed sha256 attestationKeys "attestationFingerprint" attestation := by
  simp only [validateTokenConfigAttestation,checks_ok,Bool.and_eq_true,GenesisEnvelope.assertFence] at validated
  obtain ⟨⟨⟨⟨⟨⟨⟨⟨⟨⟨⟨⟨⟨⟨exact',version⟩,kind⟩,anchor⟩,generation⟩,hostSet⟩,grammar⟩,source⟩,
    producer⟩,_⟩,rotation⟩,previous⟩,tx⟩,own⟩,fence,_,_,_,hash⟩ := validated
  have scalars : ∀ key ∈ attestationKeys, isScalar (get attestation key) := by
    simp only [attestationKeys,List.forall_mem_cons,List.not_mem_nil,false_imp_iff,implies_true,and_true]
    exact ⟨isNumber_scalar version,isText_scalar kind,isHex_scalar anchor,isGeneration_scalar fence,
      isGeneration_scalar generation,isHex_scalar hostSet,isNumber_scalar grammar,
      isText_scalar source,isOpaqueIdentity_scalar producer,isOneOf_scalar rotation,
      isNullableHex_scalar previous,isOpaqueIdentity_scalar tx,isHex_scalar own⟩
  exact ⟨exact',fun key listed => isScalar_distinct (scalars key listed),assertFingerprint_ok hash⟩

theorem attestation_fence :
    ∃ fence, safeInteger (get attestation "fenceGeneration") = some fence := by
  simp only [validateTokenConfigAttestation,checks_ok,GenesisEnvelope.assertFence] at validated
  obtain ⟨fence,known,_⟩ := isGeneration_iff.mp validated.2.1
  exact ⟨fence,known⟩

theorem attestation_hostSet :
    isHex (get attestation "tokenConfigHostSetFingerprint") := by
  simp only [validateTokenConfigAttestation,checks_ok,Bool.and_eq_true] at validated
  tauto

end

structure Committed (anchor attestation floor : Value) : Prop where
  phase : get floor "floorPhase" = .string (ofString "committed")
  anchor : Same (get attestation "anchorFingerprint") anchor ∧ Same (get floor "anchorFingerprint") anchor
  fence : Same (get attestation "fenceGeneration") (get floor "fenceGeneration")
  generation : Same (get floor "highestReservedGeneration") (get attestation "tokenConfigGeneration") ∧
    Same (get floor "highestCommittedGeneration") (get attestation "tokenConfigGeneration")
  transaction : Same (get floor "lastReservationTxId") (get attestation "txId") ∧
    Same (get floor "lastCommittedTxId") (get attestation "txId")
  attestation : Same (get floor "lastAttestationFingerprint") (get attestation "attestationFingerprint")

theorem validateCommittedLineage_ok
    (validated : validateCommittedLineage sha256 attestation floor anchor = .ok ()) :
    validateTokenConfigAttestation sha256 attestation = .ok () ∧ Committed anchor attestation floor := by
  simp only [validateCommittedLineage,checks_ok,Bool.and_eq_true] at validated
  obtain ⟨valid,_,⟨⟨⟨phase,anchor⟩,floorAnchor⟩,fence⟩,related⟩ := validated
  refine ⟨valid,isText_iff.mp phase,⟨strictEqual_same anchor,strictEqual_same floorAnchor⟩,
    agree_same fence (List.mem_singleton.mpr rfl),⟨?_,?_⟩,⟨?_,?_⟩,?_⟩
  all_goals exact relate_same related (by simp)

structure Entries (sha256 : List UInt8 → Units) (anchor first : Value) (index : Nat)
    (previous previousFloor : Value) (entries : List (Value × Value)) : Prop where
  each : ∀ i a f, entries[i]? = some (a,f) →
    validateCommittedLineage sha256 a f anchor = .ok () ∧
      isOffset (get a "tokenConfigGeneration") first (index + i) = true
  genesis : index = 0 → ∀ a f, entries[0]? = some (a,f) →
    isNumber 1 (get a "tokenConfigGeneration") = true ∧ isText "genesis" (get a "rotationKind") = true
  entering : index ≠ 0 → ∀ a f, entries[0]? = some (a,f) → follows a f previous previousFloor = true
  next : ∀ i a f b g, entries[i]? = some (a,f) → entries[i + 1]? = some (b,g) → follows b g a f = true

theorem validateEntries_ok
    (validated : validateEntries sha256 anchor first index previous previousFloor entries = .ok ()) :
    Entries sha256 anchor first index previous previousFloor entries := by
  induction entries generalizing index previous previousFloor with
  | nil => constructor <;> simp
  | cons entry rest ih =>
    simp only [validateEntries,checks_ok,Bool.and_eq_true] at validated
    obtain ⟨committed,⟨⟨⟨⟨_,offset⟩,_⟩,genesis⟩,entering⟩,later⟩ := validated
    have tail := ih later
    constructor
    case each =>
      intro i a f located
      cases i with
      | zero =>
        cases located
        exact ⟨committed,offset⟩
      | succ i =>
        have := tail.each i a f located
        rwa [Nat.add_right_comm] at this
    case genesis =>
      rintro rfl a f located
      cases located
      simp only [bne_self_eq_false,Bool.false_or,Bool.and_eq_true] at genesis
      exact genesis.1.1
    case entering =>
      intro inside a f located
      cases located
      simpa [inside] using entering
    case next =>
      intro i a f b g here there
      cases i with
      | zero =>
        cases here
        exact tail.entering (Nat.succ_ne_zero index) b g there
      | succ i => exact tail.next i a f b g here there

structure Accepted (sha256 : List UInt8 → Units) (anchor current : Value)
    (attestations floors : List Value) : Prop where
  nonempty : attestations ≠ []
  lengths : attestations.length = floors.length
  entries : Entries sha256 anchor (get (attestations.headD .null) "tokenConfigGeneration") 0 .null
    .null (attestations.zip floors)
  current : agree (attestations.getLastD .null) current ["attestationFingerprint"] = true

theorem validateTokenHistory_ok
    (validated : validateTokenHistory sha256 snapshot anchor historical historicalFloor current
      currentFloor = .ok (attestations,floors)) :
    Accepted sha256 anchor current attestations floors := by
  simp only [validateTokenHistory,except_bind_ok] at validated
  obtain ⟨parsed,_,parsedFloors,_,validated⟩ := validated
  cases first : arrayItems parsed with
  | none => simp [first,throw,throwThe,MonadExceptOf.throw] at validated
  | some items =>
    cases second : arrayItems parsedFloors with
    | none => simp [first,second,throw,throwThe,MonadExceptOf.throw] at validated
    | some floorItems =>
      simp only [first,second,checks_ok,Bool.and_eq_true,bne_iff_ne,ne_eq,List.length_eq_zero_iff,
        beq_iff_eq] at validated
      obtain ⟨⟨nonempty,lengths⟩,entries,⟨⟨_,last⟩,_⟩,result⟩ := validated
      cases result
      exact ⟨nonempty,lengths,validateEntries_ok entries,last⟩

section Accepted

variable {anchor current : Value} {attestations floors : List Value}

variable {i : Nat} {a : Value}

section

variable (accepted : Accepted sha256 anchor current attestations floors)
include accepted

theorem Accepted.zipped (located : attestations[i]? = some a) :
    ∃ f, floors[i]? = some f ∧ (attestations.zip floors)[i]? = some (a,f) := by
  obtain ⟨bound,_⟩ := List.getElem?_eq_some_iff.mp located
  rw [accepted.lengths] at bound
  have there : floors[i]? = some floors[i] := List.getElem?_eq_getElem bound
  exact ⟨_,there,List.getElem?_zip_eq_some.mpr ⟨located,there⟩⟩

theorem Accepted.committed (located : attestations[i]? = some a) (floor : floors[i]? = some f) :
    validateTokenConfigAttestation sha256 a = .ok () ∧ Committed anchor a f :=
  validateCommittedLineage_ok (accepted.entries.each i a f (List.getElem?_zip_eq_some.mpr ⟨located,floor⟩)).1

theorem Accepted.valid (located : attestations[i]? = some a) :
    validateTokenConfigAttestation sha256 a = .ok () := by
  obtain ⟨f,floor,_⟩ := accepted.zipped located
  exact (accepted.committed located floor).1

/-- The first entry is the Genesis rotation. -/
theorem Accepted.genesis :
    ∃ a, attestations[0]? = some a ∧ get a "rotationKind" = .string (ofString "genesis") ∧
      safeInteger (get (attestations.headD .null) "tokenConfigGeneration") = some 1 := by
  obtain ⟨a,rest,rfl⟩ := List.exists_cons_of_ne_nil accepted.nonempty
  obtain ⟨f,_,entry⟩ := accepted.zipped (i := 0) rfl
  obtain ⟨one,kind⟩ := accepted.entries.genesis rfl a f entry
  exact ⟨a,rfl,isText_iff.mp kind,safeInteger_isNumber rfl one⟩

theorem Accepted.generation (located : attestations[i]? = some a) :
    safeInteger (get a "tokenConfigGeneration") = some ((i : Int) + 1) := by
  obtain ⟨f,_,entry⟩ := accepted.zipped located
  obtain ⟨_,_,_,first⟩ := accepted.genesis
  have offset := (accepted.entries.each i a f entry).2
  unfold isOffset at offset
  cases known : safeInteger (get a "tokenConfigGeneration") with
  | none => simp [known] at offset
  | some n =>
    simp only [known,first,decide_eq_true_eq] at offset
    congr 1
    omega

theorem Accepted.follows (here : attestations[i]? = some a) (there : attestations[i + 1]? = some b) :
    ∃ f g, TokenHistory.follows b g a f := by
  obtain ⟨f,_,entry⟩ := accepted.zipped here
  obtain ⟨g,_,next⟩ := accepted.zipped there
  exact ⟨f,g,accepted.entries.next i a f b g entry next⟩

/-- Each attestation names the one before it. -/
theorem Accepted.linked (here : attestations[i]? = some a) (there : attestations[i + 1]? = some b) :
    get b "previousAttestationFingerprint" = get a "attestationFingerprint" := by
  obtain ⟨f,g,related⟩ := accepted.follows here there
  simp only [TokenHistory.follows,Bool.and_eq_true] at related
  obtain ⟨digest,_,own⟩ := (attestation_sealed (accepted.valid here)).own
  have same := relate_same related.1.1.1 (List.mem_singleton.mpr rfl)
  rw [own] at same ⊢
  exact same_string same

theorem Accepted.rotation (here : attestations[i]? = some a) (there : attestations[i + 1]? = some b) :
    get b "rotationKind" = .string (ofString "same-key") ↔
      get b "tokenConfigHostSetFingerprint" = get a "tokenConfigHostSetFingerprint" := by
  obtain ⟨f,g,related⟩ := accepted.follows here there
  simp only [TokenHistory.follows,Bool.and_eq_true,beq_iff_eq] at related
  obtain ⟨host,hostText,_⟩ := isHex_iff.mp (attestation_hostSet (accepted.valid here))
  obtain ⟨own,ownText,_⟩ := isHex_iff.mp (attestation_hostSet (accepted.valid there))
  rw [← isText_iff,related.1.2]
  simp [agree,hostText,ownText,strictEqual]

theorem Accepted.last :
    ∃ a, attestations[attestations.length - 1]? = some a ∧
      Same (get a "attestationFingerprint") (get current "attestationFingerprint") := by
  have ended := accepted.current
  rw [List.getLastD_eq_getLast?,List.getLast?_eq_getElem?] at ended
  have bound : attestations.length - 1 < attestations.length :=
    Nat.sub_lt (List.length_pos_iff.mpr accepted.nonempty) Nat.one_pos
  rw [List.getElem?_eq_getElem bound] at ended ⊢
  exact ⟨_,rfl,agree_same ended (List.mem_singleton.mpr rfl)⟩

theorem Accepted.fence (located : attestations[i]? = some a) (floor : floors[i]? = some f) :
    ∃ fence, safeInteger (get a "fenceGeneration") = some fence ∧
      safeInteger (get f "fenceGeneration") = some fence := by
  obtain ⟨valid,committed⟩ := accepted.committed located floor
  obtain ⟨fence,known⟩ := attestation_fence valid
  exact ⟨fence,known,(safeInteger_same committed.fence) ▸ known⟩

end

end Accepted

/-- Equal fingerprints at one place make everything up to it equal. -/
theorem same_below (injective : InjectiveOnCanonical sha256)
    (first : Accepted sha256 anchor current left floors)
    (second : Accepted sha256 anchor' current' right floors') {i : Nat}
    (here : left[i]? = some a) (there : right[i]? = some b)
    (equal : get a "attestationFingerprint" = get b "attestationFingerprint") (below : j ≤ i)
    (hereJ : left[j]? = some c) (thereJ : right[j]? = some d) : Same c d := by
  induction i generalizing a b with
  | zero =>
    obtain rfl := Nat.le_zero.mp below
    cases here.symm.trans hereJ
    cases there.symm.trans thereJ
    exact (attestation_sealed (first.valid here)).same_record injective attestationKeys_nodup
      (attestation_sealed (second.valid there)) equal
  | succ i ih =>
    have sealedA := attestation_sealed (first.valid here)
    have sealedB := attestation_sealed (second.valid there)
    by_cases top : j = i + 1
    · subst top
      cases here.symm.trans hereJ
      cases there.symm.trans thereJ
      exact sealedA.same_record injective attestationKeys_nodup sealedB equal
    obtain ⟨boundA,_⟩ := List.getElem?_eq_some_iff.mp here
    obtain ⟨boundB,_⟩ := List.getElem?_eq_some_iff.mp there
    have beforeA : left[i]? = some left[i] := List.getElem?_eq_getElem (Nat.lt_of_succ_lt boundA)
    have beforeB : right[i]? = some right[i] := List.getElem?_eq_getElem (Nat.lt_of_succ_lt boundB)
    refine ih beforeA beforeB ?_ (by omega)
    have previous := sealedA.same injective attestationKeys_nodup sealedB equal
      (show "previousAttestationFingerprint" ∈ attestationKeys by simp [attestationKeys])
    rw [first.linked beforeA here,second.linked beforeB there] at previous
    obtain ⟨digest,_,own⟩ := (attestation_sealed (second.valid beforeB)).own
    rw [own] at previous ⊢
    exact same_string previous

/-- Two accepted histories with one current attestation. -/
theorem unforkable (injective : InjectiveOnCanonical sha256)
    (first : Accepted sha256 anchor current left floors)
    (second : Accepted sha256 anchor' current right floors') :
    left.length = right.length ∧
      ∀ (i : Nat) (a b : Value), left[i]? = some a → right[i]? = some b → Same a b := by
  obtain ⟨a,lastA,sameA⟩ := first.last
  obtain ⟨b,lastB,sameB⟩ := second.last
  have sealedA := attestation_sealed (first.valid lastA)
  have sealedB := attestation_sealed (second.valid lastB)
  have equal : get a "attestationFingerprint" = get b "attestationFingerprint" := by
    obtain ⟨digest,_,own⟩ := sealedB.own
    have same := sameA.trans sameB.symm
    rw [own] at same ⊢
    exact same_string same
  have generations := safeInteger_same (sealedA.same injective attestationKeys_nodup sealedB equal
    (show "tokenConfigGeneration" ∈ attestationKeys by simp [attestationKeys]))
  rw [first.generation lastA,second.generation lastB,Option.some.injEq] at generations
  have nonemptyA := List.length_pos_iff.mpr first.nonempty
  have nonemptyB := List.length_pos_iff.mpr second.nonempty
  have lengths : left.length = right.length := by omega
  refine ⟨lengths,fun i c d here there => ?_⟩
  obtain ⟨bound,_⟩ := List.getElem?_eq_some_iff.mp here
  exact same_below injective first second lastA (lengths ▸ lastB) equal (by omega) here there

def fencesOrdered (earlier later : Value) : Bool :=
  !lessThan (get later "fenceGeneration") (get earlier "fenceGeneration")

/-- No floor has a fence below the floor before it: the guard of the floor transitions. -/
def FloorsKeepFence (floors : List Value) : Prop :=
  ∀ (i : Nat) (f g : Value), floors[i]? = some f → floors[i + 1]? = some g → fencesOrdered f g = true

structure TokenLaw (sha256 : List UInt8 → Units) (anchor current : Value)
    (attestations floors : List Value) : Prop where
  lengths : attestations.length = floors.length
  generations : ∀ (i : Nat) (a : Value), attestations[i]? = some a →
    safeInteger (get a "tokenConfigGeneration") = some ((i : Int) + 1)
  genesis : ∃ a, attestations[0]? = some a ∧ get a "rotationKind" = .string (ofString "genesis")
  linked : ∀ (i : Nat) (a b : Value), attestations[i]? = some a → attestations[i + 1]? = some b →
    get b "previousAttestationFingerprint" = get a "attestationFingerprint"
  committed : ∀ (i : Nat) (a f : Value), attestations[i]? = some a → floors[i]? = some f → Committed anchor a f
  rotation : ∀ (i : Nat) (a b : Value), attestations[i]? = some a → attestations[i + 1]? = some b →
    (get b "rotationKind" = .string (ofString "same-key") ↔
      get b "tokenConfigHostSetFingerprint" = get a "tokenConfigHostSetFingerprint")
  fences : ∀ (i j : Nat) (a b : Value), i ≤ j → attestations[i]? = some a → attestations[j]? = some b →
    fencesOrdered a b = true
  unforkable : ∀ other anchor' historical historicalFloor currentFloor others floors',
    validateTokenHistory sha256 other anchor' historical historicalFloor current currentFloor =
      .ok (others,floors') →
    attestations.length = others.length ∧
      ∀ (i : Nat) (a b : Value), attestations[i]? = some a → others[i]? = some b → Same a b

theorem fencesOrdered_iff (first : safeInteger (get earlier "fenceGeneration") = some x)
    (second : safeInteger (get later "fenceGeneration") = some y) :
    fencesOrdered earlier later ↔ x ≤ y := by
  simp [fencesOrdered,lessThan,first,second]

/-- Ordered neighbours make an ordered history. -/
theorem Accepted.fences {anchor current : Value}
    (accepted : Accepted sha256 anchor current attestations floors) (keep : FloorsKeepFence floors)
    {i j : Nat} (order : i ≤ j) (here : attestations[i]? = some a)
    (there : attestations[j]? = some b) : fencesOrdered a b := by
  induction j,order using Nat.le_induction generalizing b with
  | base =>
    cases here.symm.trans there
    obtain ⟨f,floor,_⟩ := accepted.zipped here
    obtain ⟨fence,known,_⟩ := accepted.fence here floor
    exact (fencesOrdered_iff known known).mpr (Int.le_refl _)
  | succ j order ih =>
    obtain ⟨bound,_⟩ := List.getElem?_eq_some_iff.mp there
    have before : attestations[j]? = some attestations[j] :=
      List.getElem?_eq_getElem (Nat.lt_of_succ_lt bound)
    obtain ⟨f,floorF,_⟩ := accepted.zipped before
    obtain ⟨g,floorG,_⟩ := accepted.zipped there
    obtain ⟨f₀,floor₀,_⟩ := accepted.zipped here
    obtain ⟨x,startA,_⟩ := accepted.fence here floor₀
    obtain ⟨y,beforeA,beforeF⟩ := accepted.fence before floorF
    obtain ⟨z,thereA,thereG⟩ := accepted.fence there floorG
    have step := (fencesOrdered_iff beforeF thereG).mp (keep j f g floorF floorG)
    have below := (fencesOrdered_iff startA beforeA).mp (ih before)
    exact (fencesOrdered_iff startA thereA).mpr (below.trans step)

/-- An accepted token history obeys the law exactly when its floors keep their fence. -/
theorem token_history_law (injective : InjectiveOnCanonical sha256) {snapshot : Snapshot}
    {anchor historical historicalFloor current currentFloor : Value} {attestations floors : List Value}
    (validated : validateTokenHistory sha256 snapshot anchor historical historicalFloor current
      currentFloor = .ok (attestations,floors)) :
    TokenLaw sha256 anchor current attestations floors ↔ FloorsKeepFence floors := by
  have accepted := validateTokenHistory_ok validated
  constructor
  · intro law i f g floorF floorG
    obtain ⟨bound,_⟩ := List.getElem?_eq_some_iff.mp floorG
    rw [← accepted.lengths] at bound
    have here : attestations[i]? = some attestations[i] :=
      List.getElem?_eq_getElem (Nat.lt_of_succ_lt bound)
    have there : attestations[i + 1]? = some attestations[i + 1] := List.getElem?_eq_getElem bound
    obtain ⟨x,hereA,hereF⟩ := accepted.fence here floorF
    obtain ⟨y,thereA,thereG⟩ := accepted.fence there floorG
    rw [fencesOrdered_iff hereF thereG,← fencesOrdered_iff hereA thereA]
    exact law.fences i (i + 1) _ _ (Nat.le_succ i) here there
  · intro keep
    constructor
    case lengths => exact accepted.lengths
    case generations => exact fun _ _ located => accepted.generation located
    case genesis =>
      obtain ⟨a,first,kind,_⟩ := accepted.genesis
      exact ⟨a,first,kind⟩
    case linked => exact fun _ _ _ here there => accepted.linked here there
    case committed => exact fun _ _ _ here floor => (accepted.committed here floor).2
    case rotation => exact fun _ _ _ here there => accepted.rotation here there
    case fences => exact fun _ _ _ _ order here there => accepted.fences keep order here there
    case unforkable =>
      exact fun _ _ _ _ _ _ _ other => unforkable injective accepted (validateTokenHistory_ok other)

def attestationOf (generation fence : Int) (hostSet : Nat) (rotation txId : String) (previous : Value)
    (fingerprint : Nat) : Value :=
  .object [(ascii "anchorFingerprint",repeated 10),(ascii "attestationFingerprint",hexText fingerprint),
    (ascii "fenceGeneration",integer fence),(ascii "kind",asciiText "token-config-attestation"),
    (ascii "managedGrammarVersion",integer 1),(ascii "previousAttestationFingerprint",previous),
    (ascii "producerPrincipal",asciiText "management/owner"),(ascii "rotationKind",asciiText rotation),
    (ascii "sourceKind",asciiText "protected-stdin"),
    (ascii "tokenConfigGeneration",integer generation),
    (ascii "tokenConfigHostSetFingerprint",repeated hostSet),(ascii "txId",asciiText txId),
    (ascii "version",integer 1)]

def floorOf (generation fence : Int) (txId : String) (attestation : Value) (fingerprint : Nat) : Value :=
  .object [(ascii "anchorFingerprint",repeated 10),(ascii "attestedProofFingerprint",repeated 11),
    (ascii "fenceGeneration",integer fence),(ascii "floorFingerprint",hexText fingerprint),
    (ascii "floorPhase",asciiText "committed"),(ascii "genesisGeneration",integer 1),
    (ascii "highestCommittedGeneration",integer generation),
    (ascii "highestReservedGeneration",integer generation),(ascii "kind",asciiText "token-generation-floor"),
    (ascii "lastAttestationFingerprint",attestation),(ascii "lastCommittedTxId",asciiText txId),
    (ascii "lastReservationTxId",asciiText txId),(ascii "version",integer 1)]

def genesisAttestation : Value := attestationOf 1 1 12 "genesis" "tx1"
  .null
  0xa6dc51a0b17585195c299d7bbfc0d7d255ccfc687a5a562f5a2db212d09dddea

def genesisFloor : Value := floorOf 1 1 "tx1" (get genesisAttestation "attestationFingerprint")
  0x349cc769f2122df34f5d166f8fa07362da65a61e5e9e10a71d4de6d981a7960e

def sameKeyAttestation : Value := attestationOf 2 5 12 "same-key" "tx2"
  (get genesisAttestation "attestationFingerprint")
  0x6a10517ed6f8a73ec1d11af9cbbca1fe62fba1b49c87581f0e1d09180e6c3f90

def sameKeyFloor : Value := floorOf 2 5 "tx2" (get sameKeyAttestation "attestationFingerprint")
  0x47772a2c90cf6baef61646a2c412ce78af5ece6d61d8c075d1098ded74b1f142

def hostSetAttestation : Value := attestationOf 3 2 13 "host-set-change" "tx3"
  (get sameKeyAttestation "attestationFingerprint")
  0xa78b304b4cc507267f54c1d6cd354735ee7add366a6018a3ad46fd04f3c36ee0

def hostSetFloor : Value := floorOf 3 2 "tx3" (get hostSetAttestation "attestationFingerprint")
  0xc60c4c0d4c47f3c64e4c22165b52be92442864133eff8fde4c32b087994c27ff

def historyRecords : List (Value × String × Nat) :=
  [(genesisAttestation,"attestationFingerprint",
      0xa6dc51a0b17585195c299d7bbfc0d7d255ccfc687a5a562f5a2db212d09dddea),
    (genesisFloor,"floorFingerprint",0x349cc769f2122df34f5d166f8fa07362da65a61e5e9e10a71d4de6d981a7960e),
    (sameKeyAttestation,"attestationFingerprint",
      0x6a10517ed6f8a73ec1d11af9cbbca1fe62fba1b49c87581f0e1d09180e6c3f90),
    (sameKeyFloor,"floorFingerprint",0x47772a2c90cf6baef61646a2c412ce78af5ece6d61d8c075d1098ded74b1f142),
    (hostSetAttestation,"attestationFingerprint",
      0xa78b304b4cc507267f54c1d6cd354735ee7add366a6018a3ad46fd04f3c36ee0),
    (hostSetFloor,"floorFingerprint",0xc60c4c0d4c47f3c64e4c22165b52be92442864133eff8fde4c32b087994c27ff)]

def historyDigest : List UInt8 → Units := sealing historyRecords

theorem historyDigest_injective : InjectiveOnCanonical historyDigest :=
  sealing_injective (by decide)

theorem historyRecords_sealed : areSealed ["kind","txId","lastCommittedTxId"] historyRecords = true := by
  simp only [areSealed,textCodes,without_byCode,byCode]
  decide +kernel

theorem history_asserted (i : Nat) (located : historyRecords[i]? = some r) (error : JsError) :
    assertFingerprint historyDigest r.1 r.2.1 error = .ok () :=
  sealing_asserted historyRecords_sealed (List.mem_of_getElem? located) error

def historyAttestations : List Value := [genesisAttestation,sameKeyAttestation,hostSetAttestation]

def historyFloors : List Value := [genesisFloor,sameKeyFloor,hostSetFloor]

def historySnapshot : Snapshot := ⟨spelled (.array historyAttestations),spelled (.array historyFloors)⟩

theorem historyAttestations_normal : normalizeItems historyAttestations = historyAttestations := rfl

theorem historyFloors_normal : normalizeItems historyFloors = historyFloors := rfl

theorem parse_small (small : isSmall (.array items)) :
    parseAuthorityBytes (spelled (.array items)) = .ok (.array items) := by
  rw [isSmall_spelling small,parseAuthorityBytes,(isSmall_spelled small).2.2.2]

/-- The entries pass, up to the ends that the history is asked for. -/
theorem history_evaluated :
    ((validateEntries historyDigest (repeated 10) (get genesisAttestation "tokenConfigGeneration") 0
        .null .null (historyAttestations.zip historyFloors)).isOk &&
      (agree (historyAttestations.getLastD .null) hostSetAttestation ["attestationFingerprint"] &&
        agree (historyFloors.getLastD .null) hostSetFloor ["floorFingerprint"]) &&
      !fencesOrdered sameKeyAttestation hostSetAttestation) = true := by
  simp only [historyAttestations,historyFloors,List.zip_cons_cons,List.zip_nil_left,validateEntries,
    validateCommittedLineage,validateTokenConfigAttestation,validateTokenFloor,
    history_asserted 0 rfl,history_asserted 1 rfl,history_asserted 2 rfl,history_asserted 3 rfl,
    history_asserted 4 rfl,history_asserted 5 rfl]
  simp only [follows,fencesOrdered,hasExactKeys,assertFence,relate,agree,isOneOf,byCode]
  decide +kernel

theorem history_small : (isSmall (.array historyAttestations) && isSmall (.array historyFloors)) = true := by
  decide +kernel

theorem history_accepted :
    validateTokenHistory historyDigest historySnapshot (repeated 10) .null .null hostSetAttestation
      hostSetFloor = .ok (normalizeItems historyAttestations,normalizeItems historyFloors) := by
  have evaluated := history_evaluated
  have small := history_small
  simp only [Bool.and_eq_true] at evaluated small
  obtain ⟨⟨entries,ends⟩,_⟩ := evaluated
  rw [validateTokenHistory,historySnapshot,parse_small small.1,parse_small small.2,except_bind_ok]
  refine ⟨_,rfl,?_⟩
  rw [except_bind_ok]
  refine ⟨_,rfl,?_⟩
  simp only [arrayItems,historyAttestations_normal,historyFloors_normal]
  rw [except_unit_bind_ok,except_unit_bind_ok,except_unit_bind_ok]
  exact ⟨check_ok.mpr rfl,isOk_unit entries,check_ok.mpr (by simpa [isNull] using ends),rfl⟩

/-- An accepted history whose third fence is below its second. -/
theorem history_falls : InjectiveOnCanonical historyDigest ∧
    validateTokenHistory historyDigest historySnapshot (repeated 10) .null .null hostSetAttestation
      hostSetFloor = .ok (normalizeItems historyAttestations,normalizeItems historyFloors) ∧
    ¬ TokenLaw historyDigest (repeated 10) hostSetAttestation (normalizeItems historyAttestations)
      (normalizeItems historyFloors) := by
  refine ⟨historyDigest_injective,history_accepted,fun law => ?_⟩
  rw [historyAttestations_normal,historyFloors_normal] at law
  have evaluated := history_evaluated
  simp only [Bool.and_eq_true,Bool.not_eq_true'] at evaluated
  exact absurd (law.fences 1 2 _ _ (Nat.le_succ 1) rfl rfl) (by simp [evaluated.2])

theorem history_law : TokenLaw historyDigest (repeated 10) hostSetAttestation
      (normalizeItems historyAttestations) (normalizeItems historyFloors) ↔
    FloorsKeepFence (normalizeItems historyFloors) :=
  token_history_law historyDigest_injective history_accepted

end GjcRemote.TokenHistory
