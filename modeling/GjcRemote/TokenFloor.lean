import GjcRemote.GenesisEnvelope
import GjcRemote.Evaluation
import GjcRemote.Runs

/-! The transitions of the token generation floor in `shared/genesis-envelope.js`: a
generation is reserved, attested and committed, each step sealed anew. -/
namespace GjcRemote.GenesisEnvelope

open Utf16 StrictJson Record Envelope

/-- `{ ...record, [key]: value }`. -/
def assign (record : Value) (key : String) (value : Value) : Value :=
  match record with
  | .object entries =>
    if entries.any fun e => e.1 = ofString key then
      .object (entries.map fun e => if e.1 = ofString key then (e.1,value) else e)
    else .object (entries ++ [(ofString key,value)])
  | _ => .object [(ofString key,value)]

/-- `{ ...record, a: x, b: y }`. -/
def assignAll (record : Value) (members : List (String × Value)) : Value :=
  members.foldl (fun record m => assign record m.1 m.2) record

def text (value : String) : Value := .string (ofString value)

section Digest

variable (sha256 : List UInt8 → Units)

/-- `record[field] = hash(record, field)`. -/
def sealAs (record : Value) (field : String) : Except JsError Value := do
  let own ← fingerprint sha256 record field
  return assign record field (.string own)

/-- The floor with other members and a fingerprint of its own. -/
def advanceFloor (floor : Value) (members : List (String × Value)) : Except JsError Value := do
  let next ← sealAs sha256 (assignAll floor (members ++ [("floorFingerprint",.null)])) "floorFingerprint"
  validateTokenFloor sha256 next
  return next

def reserveTokenGeneration (floor generation txId fenceGeneration : Value) : Except JsError Value := do
  validateTokenFloor sha256 floor
  check (isOneOf ["reserved","committed"] (get floor "floorPhase")) (fail "token floor reservation phase")
  check (isNext generation (get floor "highestReservedGeneration") && isOpaqueIdentity txId &&
      isGeneration fenceGeneration && !lessThan fenceGeneration (get floor "fenceGeneration"))
    (fail "token floor reservation CAS mismatch")
  advanceFloor sha256 floor [("fenceGeneration",fenceGeneration),
    ("highestReservedGeneration",generation),("lastReservationTxId",txId),
    ("floorPhase",text "reserved"),("attestedProofFingerprint",.null)]

def validateTokenFloorReservation (reservation : Value) : Except JsError Unit := do
  validateTokenFloor sha256 reservation
  check (isText "reserved" (get reservation "floorPhase") &&
      isNext (get reservation "highestReservedGeneration") (get reservation "highestCommittedGeneration") &&
      !isNull (get reservation "lastReservationTxId") &&
      isNull (get reservation "lastCommittedTxId") == isNull (get reservation "lastAttestationFingerprint"))
    (fail "token floor reservation")

def buildAttestedTokenFloorProof (reservation attestation : Value) : Except JsError Value := do
  validateTokenFloorReservation sha256 reservation
  validateTokenConfigAttestation sha256 attestation
  check (relate reservation attestation [("lastReservationTxId","txId"),
      ("highestReservedGeneration","tokenConfigGeneration")]) (fail "attested token floor binding")
  check (agree reservation attestation ["fenceGeneration"]) (fail "attested token floor fence relation")
  sealAs sha256 (.object [(ofString "version",.number (.int 1)),
    (ofString "kind",text "attested-token-floor-proof"),
    (ofString "genesisTxId",get attestation "txId"),
    (ofString "fenceGeneration",get attestation "fenceGeneration"),
    (ofString "generation",get attestation "tokenConfigGeneration"),
    (ofString "reservationFingerprint",get reservation "floorFingerprint"),
    (ofString "attestationFingerprint",get attestation "attestationFingerprint"),
    (ofString "attestedProofFingerprint",.null)]) "attestedProofFingerprint"

def attestTokenFloor (reservation proof : Value) : Except JsError Value := do
  validateTokenFloorReservation sha256 reservation
  check (isText "reserved" (get reservation "floorPhase") &&
      isHex (get proof "attestedProofFingerprint")) (fail "token floor attest CAS mismatch")
  advanceFloor sha256 reservation [("floorPhase",text "attested"),
    ("attestedProofFingerprint",get proof "attestedProofFingerprint")]

def commitTokenFloor (floor generation txId attestationFingerprint fenceGeneration : Value) :
    Except JsError Value := do
  validateTokenFloor sha256 floor
  check (isText "attested" (get floor "floorPhase") && isSafe generation &&
      strictEqual generation (get floor "highestReservedGeneration") &&
      isNext generation (get floor "highestCommittedGeneration") &&
      strictEqual (get floor "lastReservationTxId") txId && isOpaqueIdentity txId &&
      isHex attestationFingerprint && isGeneration fenceGeneration &&
      !lessThan fenceGeneration (get floor "fenceGeneration"))
    (fail "token floor commit CAS mismatch")
  advanceFloor sha256 floor [("fenceGeneration",fenceGeneration),
    ("highestCommittedGeneration",generation),("lastCommittedTxId",txId),
    ("lastAttestationFingerprint",attestationFingerprint),("floorPhase",text "committed")]

end Digest

theorem find_replaced (entries : List (Units × Value)) (key name : Units) (value : Value) :
    (entries.map fun e => if e.1 = key then (e.1,value) else e).find? (fun e => decide (e.1 = name)) =
      if name = key then (entries.find? fun e => decide (e.1 = name)).map fun e => (e.1,value)
      else entries.find? fun e => decide (e.1 = name) := by
  induction entries with
  | nil => simp
  | cons e rest ih =>
    rw [List.map_cons,List.find?_cons,List.find?_cons,ih]
    by_cases named : e.1 = name
    · by_cases keyed : e.1 = key
      · simp [← named,keyed]
      · have apart : name ≠ key := fun same => keyed (named.trans same)
        simp [named,apart]
    · by_cases keyed : e.1 = key
      · have apart : key ≠ name := fun same => named (keyed.trans same)
        simp [keyed,apart]
      · simp [named,keyed]

theorem get_assign (record : Value) (key : String) (value : Value) (name : String) :
    get (assign record key value) name = if name = key then value else get record name := by
  have texts : ofString name = ofString key ↔ name = key := ⟨ofString_inj,congrArg ofString⟩
  have texts' : ofString key = ofString name ↔ name = key := eq_comm.trans texts
  cases record with
  | object entries =>
    by_cases own : (entries.any fun e => e.1 = ofString key)
    · rw [assign,if_pos own,Record.get,find_replaced]
      simp only [texts]
      by_cases same : name = key
      · obtain ⟨e,member,named⟩ := List.any_eq_true.mp own
        obtain ⟨found,located⟩ : ∃ found, entries.find? (fun e => decide (e.1 = ofString key)) = some found :=
          Option.isSome_iff_exists.mp (List.find?_isSome.mpr ⟨e,member,named⟩)
        simp [same,located]
      · simp [same,Record.get]
    · have missed : entries.find? (fun e => decide (e.1 = ofString key)) = none := by
        rw [List.find?_eq_none]
        exact fun e member named => own (List.any_eq_true.mpr ⟨e,member,named⟩)
      rw [assign,if_neg own]
      by_cases same : name = key
      · simp [Record.get,List.find?_append,same,missed]
      · simp [Record.get,List.find?_append,same,texts']
  | _ => by_cases same : name = key <;> simp [assign,Record.get,same,undefined,texts']

theorem hasOwn_assign (record : Value) (key : String) (value : Value) (name : String) :
    hasOwn (assign record key value) name = (decide (name = key) || hasOwn record name) := by
  have texts' : ofString key = ofString name ↔ name = key :=
    ⟨fun same => (ofString_inj same).symm,fun same => congrArg ofString same.symm⟩
  cases record with
  | object entries =>
    by_cases own : (entries.any fun e => e.1 = ofString key)
    · rw [assign,if_pos own,hasOwn,hasOwn,List.any_map]
      have kept : ((fun e : Units × Value => decide (e.1 = ofString name)) ∘
          fun e => if e.1 = ofString key then (e.1,value) else e) = fun e => decide (e.1 = ofString name) := by
        funext e
        simp only [Function.comp]
        split <;> rfl
      rw [kept]
      by_cases same : name = key
      · simp only [same,own,decide_true,Bool.or_self]
      · simp only [same,decide_false,Bool.false_or]
    · rw [assign,if_neg own,hasOwn,hasOwn,List.any_append,Bool.or_comm]
      simp [texts']
  | _ => simp [assign,hasOwn,texts']

variable {key : String}

theorem hasExactKeys_assign (value : Value) (exact : hasExactKeys record keys) (listed : key ∈ keys) :
    hasExactKeys (assign record key value) keys := by
  cases record with
  | object entries =>
    have own : (entries.any fun e => e.1 = ofString key) := hasOwn_of_exact exact listed
    have others (name : String) := hasOwn_assign (.object entries) key value name
    rw [hasExactKeys,Bool.and_eq_true,List.all_eq_true,decide_eq_true_eq] at exact
    rw [assign,if_pos own] at others ⊢
    rw [hasExactKeys,Bool.and_eq_true,List.all_eq_true,decide_eq_true_eq,List.length_map]
    refine ⟨exact.1,fun name there => ?_⟩
    rw [others,exact.2 name there,Bool.or_true]
  | _ => simp [hasExactKeys] at exact

theorem without_assigned (value : Value) (field : String) (own : hasOwn (.object entries) key) :
    without (assign (.object entries) key value) field =
      .object ((entries.filter fun e => e.1 ≠ ofString field).map
        fun e => if e.1 = ofString key then (e.1,value) else e) := by
  have kept : ((fun e : Units × Value => decide (e.1 ≠ ofString field)) ∘
      fun e => if e.1 = ofString key then (e.1,value) else e) =
        fun e => decide (e.1 ≠ ofString field) := by
    funext e
    simp only [Function.comp]
    split <;> rfl
  rw [hasOwn] at own
  rw [assign,if_pos own,without,List.filter_map,kept]

theorem without_assign (value : Value) (own : hasOwn record key) :
    without (assign record key value) key = without record key := by
  cases record with
  | object entries =>
    rw [without_assigned value key own,without]
    congr 1
    refine (List.map_congr_left fun e member => ?_).trans (List.map_id _)
    rw [if_neg (of_decide_eq_true (List.mem_filter.mp member).2)]
    rfl
  | _ => simp [hasOwn] at own

/-- A record that has canonical bytes besides one member. -/
def Spells (record : Value) (field : String) : Prop :=
  ∃ bytes, canonicalJsonBytes (without record field) STRICT_JSON_LIMITS = .ok bytes

def FitsMember (value : Value) : Prop := Accepted STRICT_JSON_LIMITS.maxDepth value 1 ∧ size value = 1

theorem size_pos (value : Value) : 1 ≤ size value := by
  cases value <;> simp [size]

variable {value : Value}

theorem sizeEntries_replaced {key : Units} (single : size value = 1) :
    sizeEntries (entries.map fun e => if e.1 = key then (e.1,value) else e) ≤ sizeEntries entries := by
  induction entries with
  | nil => exact Nat.le_refl _
  | cons e rest ih =>
    have head : size (if e.1 = key then (e.1,value) else e).2 ≤ size e.2 := by
      split
      · exact single.trans_le (size_pos _)
      · exact Nat.le_refl _
    exact Nat.add_le_add head ih

variable {field : String}

theorem spells_assign (spells : Spells record field) (own : hasOwn record key) (fits : FitsMember value) :
    Spells (assign record key value) field := by
  cases record with
  | object entries =>
    obtain ⟨bytes,encoded⟩ := spells
    obtain ⟨accepted,bound,_⟩ := (canonicalJsonBytes_iff _ _ _).mp encoded
    refine ⟨_,(canonicalJsonBytes_iff _ _ _).mpr ⟨?_,?_,rfl⟩⟩
    all_goals rw [without_assigned value field own]
    · rw [without,Accepted,acceptedEntries_iff] at accepted
      rw [Accepted,acceptedEntries_iff]
      refine ⟨accepted.1,fun e member => ?_⟩
      obtain ⟨e',there,rfl⟩ := List.mem_map.mp member
      split
      · exact ⟨(accepted.2 e' there).1,fits.1⟩
      · exact accepted.2 e' there
    · refine Nat.le_trans ?_ bound
      exact Nat.succ_le_succ (sizeEntries_replaced fits.2)
  | _ => simp [hasOwn] at own

theorem fits_null : FitsMember .null := ⟨Nat.le_add_left 1 63,rfl⟩

theorem fits_safe (safe : isSafe value) : FitsMember value := by
  cases value with
  | number n =>
    refine ⟨⟨Nat.le_add_left 1 63,?_⟩,rfl⟩
    cases n with
    | int n =>
      rw [isSafe,safeInteger] at safe
      split at safe
      · next h => exact h
      · cases safe
    | negativeZero => rfl
    | other => simp [isSafe,safeInteger] at safe
  | _ => simp [isSafe,safeInteger] at safe

theorem fits_identity (identity : isOpaqueIdentity value) : FitsMember value := by
  cases value with
  | string units =>
    refine ⟨⟨Nat.le_add_left 1 63,?_⟩,rfl⟩
    rw [isOpaqueIdentity,Bool.and_eq_true] at identity
    have strict := isOk_unit identity.2
    rw [assertStrictText] at strict
    split at strict
    · cases strict
    · exact strictUnits_of_checkText strict
  | _ => simp [isOpaqueIdentity] at identity

theorem strictUnits_of_hex (digits : units.all (fun u => (0x30 ≤ u && u ≤ 0x39) || (0x61 ≤ u && u ≤ 0x66))) :
    StrictUnits units := by
  induction units with
  | nil => exact .nil
  | cons u rest ih =>
    rw [List.all_cons,Bool.and_eq_true] at digits
    have digit := digits.1
    have plain : forbiddenControl u = false ∧ isHigh u = false ∧ isLow u = false := by
      simp [forbiddenControl,isHigh,isLow,UInt16.le_iff_toNat_le,← UInt16.toNat_inj] at digit ⊢
      omega
    exact .plain plain.1 plain.2.1 plain.2.2 (ih digits.2)

theorem fits_hex (digest : isHex value) : FitsMember value := by
  obtain ⟨units,rfl,hex⟩ := isHex_iff.mp digest
  rw [StrictJson.isHex64,Bool.and_eq_true] at hex
  exact ⟨⟨Nat.le_add_left 1 63,strictUnits_of_hex hex.2⟩,rfl⟩

def counter (floor : Value) (key : String) : Int := (safeInteger (get floor key)).getD 0

def counters : List String :=
  ["genesisGeneration","highestReservedGeneration","highestCommittedGeneration","fenceGeneration"]

def genesisOf (floor : Value) : Int := counter floor "genesisGeneration"

def reservedOf (floor : Value) : Int := counter floor "highestReservedGeneration"

def committedOf (floor : Value) : Int := counter floor "highestCommittedGeneration"

def fenceOf (floor : Value) : Int := counter floor "fenceGeneration"

inductive Phase (floor : Value) : Prop where
  | reserved : get floor "floorPhase" = text "reserved" → get floor "attestedProofFingerprint" = .null →
      Phase floor
  | attested : get floor "floorPhase" = text "attested" → isHex (get floor "attestedProofFingerprint") = true →
      reservedOf floor = committedOf floor + 1 → Phase floor
  | committed : get floor "floorPhase" = text "committed" → isHex (get floor "attestedProofFingerprint") = true →
      reservedOf floor = committedOf floor → Phase floor

/-- A floor that passes every check but the one of its fingerprint. -/
structure ValidFloor (floor : Value) : Prop where
  exact : hasExactKeys floor tokenFloorKeys = true
  version : isNumber 1 (get floor "version") = true
  kind : isText "token-generation-floor" (get floor "kind") = true
  anchor : isHex (get floor "anchorFingerprint") = true
  counted : ∀ key ∈ counters, safeInteger (get floor key) = some (counter floor key)
  positive : 1 ≤ genesisOf floor ∧ 1 ≤ fenceOf floor
  begun : genesisOf floor ≤ committedOf floor + 1
  ordered : committedOf floor ≤ reservedOf floor
  reservation : isNullableOpaque (get floor "lastReservationTxId") = true
  reserves : get floor "lastReservationTxId" = .null ↔ reservedOf floor < genesisOf floor
  transaction : isNullableOpaque (get floor "lastCommittedTxId") = true
  attestation : isNullableHex (get floor "lastAttestationFingerprint") = true
  commits : (get floor "lastCommittedTxId" = .null ∨ get floor "lastAttestationFingerprint" = .null) ↔
    committedOf floor < genesisOf floor
  phase : Phase floor
  own : isHex (get floor "floorFingerprint") = true

theorem isSafe_iff : isSafe value ↔ ∃ n, safeInteger value = some n := by
  rw [isSafe,Option.isSome_iff_exists]

theorem isNull_of_hex (hex : isHex value) : isNull value = false := by
  cases value <;> simp_all [isHex,isNull]

/-- The checks of the counters, on the integers they hold. -/
theorem countersChecked (counted : ∀ key ∈ counters, safeInteger (get floor key) = some (counter floor key)) :
    safeInteger (get floor "genesisGeneration") = some (genesisOf floor) ∧
      safeInteger (get floor "highestReservedGeneration") = some (reservedOf floor) ∧
      safeInteger (get floor "highestCommittedGeneration") = some (committedOf floor) ∧
      safeInteger (get floor "fenceGeneration") = some (fenceOf floor) := by
  simp only [counters,List.forall_mem_cons,List.not_mem_nil,false_imp_iff,implies_true,and_true] at counted
  exact counted

theorem safeInteger_some (known : safeInteger v = some n) :
    ∃ m, v = .number m ∧ readNumber m = .int n ∧ isSafeInteger m := by
  cases v with
  | number m =>
    refine ⟨m,rfl,?_⟩
    cases m with
    | int k =>
      rw [safeInteger] at known
      split at known
      · next safe =>
        cases known
        exact ⟨rfl,safe⟩
      · cases known
    | negativeZero =>
      cases known
      exact ⟨rfl,rfl⟩
    | other => simp [safeInteger] at known
  | _ => simp [safeInteger] at known

theorem strictEqual_int (left : safeInteger v = some m)
    (right : safeInteger w = some n) : strictEqual v w ↔ m = n := by
  obtain ⟨a,rfl,readA,safe⟩ := safeInteger_some left
  obtain ⟨b,rfl,readB,_⟩ := safeInteger_some right
  simp [strictEqual,readA,readB,safe]

theorem validateTokenFloor_iff :
    validateTokenFloor sha256 floor = .ok () ↔ ValidFloor floor ∧
      assertFingerprint sha256 floor "floorFingerprint" (fail "token floor fingerprint") = .ok () := by
  simp only [validateTokenFloor,checks_ok,Bool.and_eq_true,assertFence]
  constructor
  · rintro ⟨⟨⟨⟨⟨⟨⟨⟨⟨⟨⟨⟨⟨⟨⟨⟨exact',version⟩,kind⟩,anchor⟩,genesis⟩,reserved⟩,committed⟩,above⟩,above'⟩,
      ordered⟩,reservation⟩,transaction⟩,attestation⟩,known⟩,proof⟩,own⟩,fence,⟨reserves,commits⟩,
      reservedPhase,attestedPhase,committedPhase,hash⟩
    obtain ⟨g,knownG,positive⟩ := isGeneration_iff.mp genesis
    obtain ⟨f,knownF,fenced⟩ := isGeneration_iff.mp fence
    obtain ⟨r,knownR⟩ := isSafe_iff.mp reserved
    obtain ⟨c,knownC⟩ := isSafe_iff.mp committed
    have counted : ∀ key ∈ counters, safeInteger (get floor key) = some (counter floor key) := by
      simp [counters,counter,knownG,knownF,knownR,knownC]
    have valueG : genesisOf floor = g := by simp [genesisOf,counter,knownG]
    have valueF : fenceOf floor = f := by simp [fenceOf,counter,knownF]
    have valueR : reservedOf floor = r := by simp [reservedOf,counter,knownR]
    have valueC : committedOf floor = c := by simp [committedOf,counter,knownC]
    simp only [knownG,knownR,knownC,lessThan,Bool.not_eq_true',decide_eq_false_iff_not,
      beq_iff_eq] at above above' ordered reserves commits
    refine ⟨⟨exact',version,kind,anchor,counted,by omega,by omega,by omega,reservation,?_,transaction,
      attestation,?_,?_,own⟩,hash⟩
    · rw [← isNull_iff,← reserves,decide_eq_true_eq,valueR,valueG]
    · rw [← isNull_iff,← isNull_iff,← Bool.or_eq_true,← commits,decide_eq_true_eq,valueC,valueG]
    · have given (there : isNull (get floor "attestedProofFingerprint") = false) :
          isHex (get floor "attestedProofFingerprint") := by
        rw [isNullableHex,there] at proof
        exact proof
      simp only [isOneOf,List.any_cons,List.any_nil,Bool.or_false,Bool.or_eq_true] at known
      rcases known with is | is | is
      · rw [is] at reservedPhase
        exact .reserved (isText_iff.mp is) (isNull_iff.mp reservedPhase)
      · rw [is] at attestedPhase
        simp only [Bool.not_true,Bool.false_or,Bool.and_eq_true,Bool.not_eq_true'] at attestedPhase
        obtain ⟨p,before,after⟩ := isNext_iff.mp attestedPhase.2
        exact .attested (isText_iff.mp is) (given attestedPhase.1) (by grind)
      · rw [is] at committedPhase
        simp only [Bool.not_true,Bool.false_or,Bool.and_eq_true,Bool.not_eq_true'] at committedPhase
        exact .committed (isText_iff.mp is) (given committedPhase.1)
          (by rw [valueR,valueC]; exact (strictEqual_int knownR knownC).mp committedPhase.2)
  · rintro ⟨valid,hash⟩
    obtain ⟨knownG,knownR,knownC,knownF⟩ := countersChecked valid.counted
    have begun := valid.begun
    have ordered := valid.ordered
    have phase : isOneOf ["reserved","attested","committed"] (get floor "floorPhase") ∧
        isNullableHex (get floor "attestedProofFingerprint") := by
      cases valid.phase with
      | reserved is proof => simp [is,proof,isOneOf,isText,text,isNullableHex,isNull]
      | attested is proof => simp [is,proof,isOneOf,isText,text,isNullableHex]
      | committed is proof => simp [is,proof,isOneOf,isText,text,isNullableHex]
    refine ⟨⟨⟨⟨⟨⟨⟨⟨⟨⟨⟨⟨⟨⟨⟨⟨valid.exact,valid.version⟩,valid.kind⟩,valid.anchor⟩,
      isGeneration_iff.mpr ⟨_,knownG,valid.positive.1⟩⟩,isSafe_iff.mpr ⟨_,knownR⟩⟩,isSafe_iff.mpr ⟨_,knownC⟩⟩,?_⟩,
      ?_⟩,?_⟩,valid.reservation⟩,valid.transaction⟩,valid.attestation⟩,phase.1⟩,phase.2⟩,valid.own⟩,
      isGeneration_iff.mpr ⟨_,knownF,valid.positive.2⟩,⟨?_,?_⟩,?_,?_,?_,hash⟩
    · simp only [knownR,knownG,Bool.not_eq_true',decide_eq_false_iff_not]
      omega
    · simp only [knownC,knownG,Bool.not_eq_true',decide_eq_false_iff_not]
      omega
    · simp only [lessThan,knownR,knownC,Bool.not_eq_true',decide_eq_false_iff_not]
      omega
    · rw [beq_iff_eq,Bool.eq_iff_iff,isNull_iff,valid.reserves,lessThan,knownR,knownG,decide_eq_true_eq]
    · rw [beq_iff_eq,Bool.eq_iff_iff,Bool.or_eq_true,isNull_iff,isNull_iff,valid.commits,lessThan,knownC,
        knownG,decide_eq_true_eq]
    · cases valid.phase with
      | reserved is proof => simp [proof,isNull]
      | attested is proof => rw [is]; rfl
      | committed is proof => rw [is]; rfl
    · cases valid.phase with
      | reserved is proof => rw [is]; rfl
      | attested is proof next =>
        rw [is,Bool.or_eq_true,Bool.and_eq_true,isNull_of_hex proof]
        exact .inr ⟨rfl,isNext_iff.mpr ⟨_,knownC,next ▸ knownR⟩⟩
      | committed is proof => rw [is]; rfl
    · cases valid.phase with
      | reserved is proof => rw [is]; rfl
      | attested is proof => rw [is]; rfl
      | committed is proof same =>
        rw [is,Bool.or_eq_true,Bool.and_eq_true,isNull_of_hex proof]
        exact .inr ⟨rfl,(strictEqual_int knownR knownC).mpr same⟩

variable {sha256 : List UInt8 → Units}

theorem sealAs_ok : sealAs sha256 record field = .ok next ↔
    ∃ own, fingerprint sha256 record field = .ok own ∧ next = assign record field (.string own) := by
  simp only [sealAs,except_bind_ok,pure,Except.pure,Except.ok.injEq]
  exact ⟨fun ⟨own,computed,same⟩ => ⟨own,computed,same.symm⟩,
    fun ⟨own,computed,same⟩ => ⟨own,computed,same.symm⟩⟩

theorem sealed_asserts (computed : fingerprint sha256 record field = .ok own) (present : hasOwn record field)
    (error : JsError) :
    assertFingerprint sha256 (assign record field (.string own)) field error = .ok () := by
  rw [assertFingerprint,fingerprint,without_assign _ present,except_bind_ok]
  refine ⟨own,computed,check_ok.mpr ?_⟩
  rw [get_assign,if_pos rfl]
  exact beq_self_eq_true own

theorem hasExactKeys_assignAll (exact : hasExactKeys record keys) (listed : ∀ m ∈ members, m.1 ∈ keys) :
    hasExactKeys (assignAll record members) keys := by
  induction members generalizing record with
  | nil => exact exact
  | cons m rest ih =>
    rw [List.forall_mem_cons] at listed
    exact ih (hasExactKeys_assign m.2 exact listed.1) listed.2

theorem spells_assignAll (spells : Spells record field)
    (exact : hasExactKeys record keys) (listed : ∀ m ∈ members, m.1 ∈ keys)
    (fits : ∀ m ∈ members, FitsMember m.2) : Spells (assignAll record members) field := by
  induction members generalizing record with
  | nil => exact spells
  | cons m rest ih =>
    rw [List.forall_mem_cons] at listed fits
    exact ih (spells_assign spells (hasOwn_of_exact exact listed.1) fits.1)
      (hasExactKeys_assign m.2 exact listed.1) listed.2 fits.2

/-- An advanced floor is valid whenever its members are. -/
theorem advanceFloor_ok (valid : ValidFloor floor) (listed : ∀ m ∈ members, m.1 ∈ tokenFloorKeys) :
    advanceFloor sha256 floor members = .ok next ↔ ∃ own,
      fingerprint sha256 (assignAll floor (members ++ [("floorFingerprint",.null)])) "floorFingerprint" =
        .ok own ∧ next = assign (assignAll floor (members ++ [("floorFingerprint",.null)])) "floorFingerprint"
        (.string own) ∧ ValidFloor next := by
  have listed' : ∀ m ∈ members ++ [("floorFingerprint",Value.null)], m.1 ∈ tokenFloorKeys := by
    simp only [List.forall_mem_append,List.forall_mem_singleton]
    exact ⟨listed,by decide⟩
  have own' := hasOwn_of_exact (hasExactKeys_assignAll valid.exact listed')
    (by decide : "floorFingerprint" ∈ tokenFloorKeys)
  simp only [advanceFloor,except_bind_ok,sealAs_ok,pure,Except.pure,Except.ok.injEq]
  constructor
  · rintro ⟨_,⟨own,computed,rfl⟩,_,validated,rfl⟩
    exact ⟨own,computed,rfl,(validateTokenFloor_iff.mp validated).1⟩
  · rintro ⟨own,computed,rfl,validNext⟩
    exact ⟨_,⟨own,computed,rfl⟩,(),validateTokenFloor_iff.mpr ⟨validNext,sealed_asserts computed own' _⟩,rfl⟩

/-- The members a call sets and the others. -/
theorem get_advanced {floor next : Value} {members : List (String × Value)}
    (advanced : advanceFloor sha256 floor members = .ok next) {name : String}
    (other : name ≠ "floorFingerprint") : get next name = get (assignAll floor members) name := by
  simp only [advanceFloor,except_bind_ok,sealAs_ok,pure,Except.pure,Except.ok.injEq] at advanced
  obtain ⟨_,⟨own,_,rfl⟩,_,_,rfl⟩ := advanced
  rw [get_assign,if_neg other,assignAll,List.foldl_append,List.foldl_cons,List.foldl_nil,get_assign,
    if_neg other]
  rfl

end GjcRemote.GenesisEnvelope
