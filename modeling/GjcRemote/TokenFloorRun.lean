import GjcRemote.TokenFloor

/-! Runs of the token floor from Genesis: what every call keeps, and when a floor can still
commit a new generation. -/
namespace GjcRemote.GenesisEnvelope

open Utf16 StrictJson Record Envelope

variable {sha256 : List UInt8 → Units}

inductive Call where
  | reserve (generation txId fenceGeneration : Value)
  | attest (proof : Value)
  | commit (generation txId attestationFingerprint fenceGeneration : Value)

def Call.apply (sha256 : List UInt8 → Units) (floor : Value) : Call → Except JsError Value
  | .reserve generation txId fence => reserveTokenGeneration sha256 floor generation txId fence
  | .attest proof => attestTokenFloor sha256 floor proof
  | .commit generation txId attestation fence =>
    commitTokenFloor sha256 floor generation txId attestation fence

structure Reserves (floor generation next : Value) : Prop where
  phase : get floor "floorPhase" ≠ text "attested"
  generation : safeInteger generation = some (reservedOf floor + 1)
  reserved : reservedOf next = reservedOf floor + 1
  committed : committedOf next = committedOf floor
  fence : fenceOf floor ≤ fenceOf next
  after : get next "floorPhase" = text "reserved"
  transaction : get next "lastCommittedTxId" = get floor "lastCommittedTxId"
  attestation : get next "lastAttestationFingerprint" = get floor "lastAttestationFingerprint"

structure Attests (floor proof next : Value) : Prop where
  phase : get floor "floorPhase" = text "reserved"
  one : reservedOf floor = committedOf floor + 1
  reserved : reservedOf next = reservedOf floor
  committed : committedOf next = committedOf floor
  fence : fenceOf next = fenceOf floor
  after : get next "floorPhase" = text "attested"
  proof : get next "attestedProofFingerprint" = get proof "attestedProofFingerprint"
  transaction : get next "lastCommittedTxId" = get floor "lastCommittedTxId"
  attestation : get next "lastAttestationFingerprint" = get floor "lastAttestationFingerprint"

structure Commits (floor generation txId attestation next : Value) : Prop where
  phase : get floor "floorPhase" = text "attested"
  generation : safeInteger generation = some (reservedOf floor)
  one : reservedOf floor = committedOf floor + 1
  reserved : reservedOf next = reservedOf floor
  committed : committedOf next = reservedOf floor
  fence : fenceOf floor ≤ fenceOf next
  after : get next "floorPhase" = text "committed"
  proof : get next "attestedProofFingerprint" = get floor "attestedProofFingerprint"
  identity : isOpaqueIdentity txId = true
  digest : isHex attestation = true
  transaction : get next "lastCommittedTxId" = txId
  attestation : get next "lastAttestationFingerprint" = attestation

theorem text_ne (apart : first ≠ second) : text first ≠ text second :=
  fun same => apart (ofString_inj (Value.string.inj same))

theorem advanced_valid (advanced : advanceFloor sha256 floor members = .ok next) :
    validateTokenFloor sha256 next = .ok () := by
  simp only [advanceFloor,except_bind_ok,pure,Except.pure,Except.ok.injEq] at advanced
  obtain ⟨_,_,_,validated,rfl⟩ := advanced
  exact validated

theorem fence_kept (valid : ValidFloor floor) (fenced : isGeneration fence)
    (kept : (!lessThan fence (get floor "fenceGeneration"))) :
    ∃ f, safeInteger fence = some f ∧ fenceOf floor ≤ f ∧ 1 ≤ f := by
  obtain ⟨f,known,positive⟩ := isGeneration_iff.mp fenced
  rw [lessThan,known,(countersChecked valid.counted).2.2.2,Bool.not_eq_true',decide_eq_false_iff_not] at kept
  exact ⟨f,known,Int.not_lt.mp kept,positive⟩

theorem reserveTokenGeneration_ok
    (done : reserveTokenGeneration sha256 floor generation txId fence = .ok next) :
    validateTokenFloor sha256 floor = .ok () ∧ validateTokenFloor sha256 next = .ok () ∧
      Reserves floor generation next := by
  simp only [reserveTokenGeneration,checks_ok,Bool.and_eq_true] at done
  obtain ⟨validated,phase,⟨⟨⟨isNext',_⟩,fenced⟩,kept⟩,advanced⟩ := done
  have valid := (validateTokenFloor_iff.mp validated).1
  have members {name : String} := @get_advanced sha256 floor next _ advanced name
  simp only [assignAll,List.foldl_cons,List.foldl_nil,get_assign] at members
  obtain ⟨p,before,after⟩ := isNext_iff.mp isNext'
  cases (countersChecked valid.counted).2.1.symm.trans before
  obtain ⟨f,known,above,_⟩ := fence_kept valid fenced kept
  refine ⟨validated,advanced_valid advanced,?_⟩
  constructor
  case phase =>
    intro attested
    rw [attested] at phase
    exact absurd phase (by decide)
  case generation => exact after
  case reserved => simp [reservedOf,counter,members,after]
  case committed => simp [committedOf,counter,members]
  case fence => simpa [fenceOf,counter,members,known] using above
  case after => simp [members]
  case transaction => simp [members]
  case attestation => simp [members]

theorem validateTokenFloorReservation_ok (done : validateTokenFloorReservation sha256 reservation = .ok ()) :
    validateTokenFloor sha256 reservation = .ok () ∧ get reservation "floorPhase" = text "reserved" ∧
      reservedOf reservation = committedOf reservation + 1 ∧ (get reservation "lastCommittedTxId" = .null ↔
        get reservation "lastAttestationFingerprint" = .null) := by
  simp only [validateTokenFloorReservation,checks_ok,Bool.and_eq_true,beq_iff_eq] at done
  obtain ⟨validated,⟨⟨phase,one⟩,_⟩,both⟩ := done
  have valid := (validateTokenFloor_iff.mp validated).1
  obtain ⟨_,knownR,knownC,_⟩ := countersChecked valid.counted
  obtain ⟨p,before,after⟩ := isNext_iff.mp one
  cases knownC.symm.trans before
  rw [Bool.eq_iff_iff,isNull_iff,isNull_iff] at both
  exact ⟨validated,isText_iff.mp phase,Option.some.inj (knownR.symm.trans after),both⟩

theorem attestTokenFloor_ok (done : attestTokenFloor sha256 floor proof = .ok next) :
    validateTokenFloorReservation sha256 floor = .ok () ∧ validateTokenFloor sha256 next = .ok () ∧
      Attests floor proof next := by
  simp only [attestTokenFloor,checks_ok,Bool.and_eq_true] at done
  obtain ⟨reservation,⟨phase,_⟩,advanced⟩ := done
  obtain ⟨validated,_,one,_⟩ := validateTokenFloorReservation_ok reservation
  have members {name : String} := @get_advanced sha256 floor next _ advanced name
  simp only [assignAll,List.foldl_cons,List.foldl_nil,get_assign] at members
  refine ⟨reservation,advanced_valid advanced,?_⟩
  constructor
  case phase => exact isText_iff.mp phase
  case one => exact one
  case reserved => simp [reservedOf,counter,members]
  case committed => simp [committedOf,counter,members]
  case fence => simp [fenceOf,counter,members]
  case after => simp [members]
  case proof => simp [members]
  case transaction => simp [members]
  case attestation => simp [members]

theorem commitTokenFloor_ok
    (done : commitTokenFloor sha256 floor generation txId attestation fence = .ok next) :
    validateTokenFloor sha256 floor = .ok () ∧ validateTokenFloor sha256 next = .ok () ∧
      Commits floor generation txId attestation next := by
  simp only [commitTokenFloor,checks_ok,Bool.and_eq_true] at done
  obtain ⟨validated,⟨⟨⟨⟨⟨⟨⟨⟨phase,_⟩,_⟩,isNext'⟩,_⟩,identity⟩,digest⟩,fenced⟩,kept⟩,advanced⟩ := done
  have valid := (validateTokenFloor_iff.mp validated).1
  have members {name : String} := @get_advanced sha256 floor next _ advanced name
  simp only [assignAll,List.foldl_cons,List.foldl_nil,get_assign] at members
  obtain ⟨p,before,after⟩ := isNext_iff.mp isNext'
  cases (countersChecked valid.counted).2.2.1.symm.trans before
  obtain ⟨f,known,above,_⟩ := fence_kept valid fenced kept
  have attested := isText_iff.mp phase
  have one : reservedOf floor = committedOf floor + 1 := by
    cases valid.phase with
    | reserved is => exact absurd (attested.symm.trans is) (text_ne (by decide))
    | attested _ _ one => exact one
    | committed is => exact absurd (attested.symm.trans is) (text_ne (by decide))
  refine ⟨validated,advanced_valid advanced,?_⟩
  constructor
  case phase => exact attested
  case generation => rw [after,one]
  case one => exact one
  case reserved => simp [reservedOf,counter,members]
  case committed => simp [committedOf,counter,members,after,one]
  case fence => simpa [fenceOf,counter,members,known] using above
  case after => simp [members]
  case proof => simp [members]
  case identity => exact identity
  case digest => exact digest
  case transaction => simp [members]
  case attestation => simp [members]

structure Standing where
  floor : Value
  proof : Value

def Call.proof (kept : Value) : Call → Value
  | .attest proof => proof
  | _ => kept

def step (sha256 : List UInt8 → Units) (s : Standing) (call : Call) : Standing × Bool :=
  match call.apply sha256 s.floor with
  | .ok next => (⟨next,call.proof s.proof⟩,true)
  | .error _ => (s,false)

def accepts (sha256 : List UInt8 → Units) (s : Standing) (call : Call) : Bool := (step sha256 s call).2

def Call.generation : Call → Option Int
  | .reserve generation .. | .commit generation .. => safeInteger generation
  | .attest _ => none

def Call.isReservation : Call → Bool
  | .reserve .. => true
  | _ => false

def Call.isCommit : Call → Bool
  | .commit .. => true
  | _ => false

def reservesAt (sha256 : List UInt8 → Units) (g : Int) (s : Standing) (call : Call) : Bool :=
  accepts sha256 s call && call.isReservation && call.generation == some g

def commitsAt (sha256 : List UInt8 → Units) (g : Int) (s : Standing) (call : Call) : Bool :=
  accepts sha256 s call && call.isCommit && call.generation == some g

abbrev after (sha256 : List UInt8 → Units) (start : Standing) (calls : List Call) : Standing :=
  Runs.run (step sha256) start calls

abbrev made (sha256 : List UInt8 → Units) (start : Standing) (calls : List Call) :
    List (Standing × Call) :=
  Runs.visits (step sha256) start calls

inductive Moves (sha256 : List UInt8 → Units) (s : Standing) (next : Value) : Call → Prop where
  | reserve {generation txId fence : Value} (does : Reserves s.floor generation next) :
      Moves sha256 s next (.reserve generation txId fence)
  | attest {proof : Value} (reservation : validateTokenFloorReservation sha256 s.floor = .ok ())
      (does : Attests s.floor proof next) : Moves sha256 s next (.attest proof)
  | commit {generation txId attestation fence : Value}
      (does : Commits s.floor generation txId attestation next) :
      Moves sha256 s next (.commit generation txId attestation fence)

/-- A call is refused, or makes one of the moves. -/
theorem step_cases (s : Standing) (call : Call) :
    step sha256 s call = (s,false) ∨ ∃ next, step sha256 s call = (⟨next,call.proof s.proof⟩,true) ∧
      validateTokenFloor sha256 s.floor = .ok () ∧ validateTokenFloor sha256 next = .ok () ∧
        Moves sha256 s next call := by
  unfold step
  cases done : call.apply sha256 s.floor with
  | error => exact .inl rfl
  | ok next =>
    refine .inr ⟨next,rfl,?_⟩
    cases call with
    | reserve =>
      obtain ⟨validated,validated',does⟩ := reserveTokenGeneration_ok done
      exact ⟨validated,validated',.reserve does⟩
    | attest =>
      obtain ⟨reservation,validated',does⟩ := attestTokenFloor_ok done
      exact ⟨(validateTokenFloorReservation_ok reservation).1,validated',.attest reservation does⟩
    | commit =>
      obtain ⟨validated,validated',does⟩ := commitTokenFloor_ok done
      exact ⟨validated,validated',.commit does⟩

structure Below (s s' : Standing) : Prop where
  reserved : reservedOf s.floor ≤ reservedOf s'.floor
  committed : committedOf s.floor ≤ committedOf s'.floor
  fence : fenceOf s.floor ≤ fenceOf s'.floor

variable {s : Standing}

theorem Below.trans (first : Below s s') (second : Below s' s'') : Below s s'' :=
  ⟨first.reserved.trans second.reserved,first.committed.trans second.committed,first.fence.trans second.fence⟩

theorem step_below (s : Standing) (call : Call) : Below s (step sha256 s call).1 := by
  rcases @step_cases sha256 s call with same | ⟨next,moved,_,_,moves⟩
  · rw [same]
    exact ⟨Int.le_refl _,Int.le_refl _,Int.le_refl _⟩
  · rw [moved]
    cases moves with
    | reserve does =>
      have reserved := does.reserved
      exact ⟨by simp only; omega,does.committed.ge,does.fence⟩
    | attest _ does => exact ⟨does.reserved.ge,does.committed.ge,does.fence.ge⟩
    | commit does =>
      have one := does.one
      have committed := does.committed
      exact ⟨does.reserved.ge,by simp only; omega,does.fence⟩

theorem run_below (s : Standing) (calls : List Call) : Below s (after sha256 s calls) := by
  induction calls generalizing s with
  | nil => exact ⟨Int.le_refl _,Int.le_refl _,Int.le_refl _⟩
  | cons call rest ih => exact (step_below s call).trans (ih _)

theorem accepted_moves (accepted : accepts sha256 s call) :
    ∃ next, (step sha256 s call).1 = ⟨next,call.proof s.proof⟩ ∧ validateTokenFloor sha256 s.floor = .ok () ∧
      validateTokenFloor sha256 next = .ok () ∧ Moves sha256 s next call := by
  rcases @step_cases sha256 s call with same | ⟨next,moved,rest⟩
  · rw [accepts,same] at accepted
    cases accepted
  · exact ⟨next,by rw [moved],rest⟩

theorem reservesAt_does (event : reservesAt sha256 g s call) :
    g = reservedOf s.floor + 1 ∧ reservedOf (step sha256 s call).1.floor = g := by
  simp only [reservesAt,Bool.and_eq_true,beq_iff_eq] at event
  obtain ⟨⟨accepted,kind⟩,generation⟩ := event
  obtain ⟨next,moved,_,_,moves⟩ := accepted_moves accepted
  cases moves with
  | reserve does =>
    have known := generation.symm.trans does.generation
    cases known
    exact ⟨rfl,by rw [moved]; exact does.reserved⟩
  | attest => cases kind
  | commit => cases kind

theorem commitsAt_does (event : commitsAt sha256 g s call) :
    g = committedOf s.floor + 1 ∧ committedOf (step sha256 s call).1.floor = g ∧
      get s.floor "floorPhase" = text "attested" ∧ reservedOf s.floor = g := by
  simp only [commitsAt,Bool.and_eq_true,beq_iff_eq] at event
  obtain ⟨⟨accepted,kind⟩,generation⟩ := event
  obtain ⟨next,moved,_,_,moves⟩ := accepted_moves accepted
  cases moves with
  | reserve => cases kind
  | attest => cases kind
  | commit does =>
    have known := generation.symm.trans does.generation
    cases known
    exact ⟨does.one,by rw [moved]; exact does.committed,does.phase,rfl⟩

/-- A generation is reserved once: afterwards the floor is at or above it. -/
theorem reserved_once (g : Int) (start : Standing) (calls : List Call) :
    (made sha256 start calls).countP (fun visit => reservesAt sha256 g visit.1 visit.2) ≤ 1 := by
  refine @Runs.visits_once _ _ _ _ (reservesAt sha256 g) (fun s => g ≤ reservedOf s.floor) ?_ ?_ ?_ start calls
  · exact fun s call event => (reservesAt_does event).2.ge
  · exact fun s call settled => settled.trans (step_below s call).reserved
  · intro s call settled
    by_contra event
    have next := (reservesAt_does (Bool.eq_true_of_not_eq_false event)).1
    omega

theorem committed_once (g : Int) (start : Standing) (calls : List Call) :
    (made sha256 start calls).countP (fun visit => commitsAt sha256 g visit.1 visit.2) ≤ 1 := by
  refine @Runs.visits_once _ _ _ _ (commitsAt sha256 g) (fun s => g ≤ committedOf s.floor) ?_ ?_ ?_ start calls
  · exact fun s call event => (commitsAt_does event).2.1.ge
  · exact fun s call settled => settled.trans (step_below s call).committed
  · intro s call settled
    by_contra event
    have next := (commitsAt_does (Bool.eq_true_of_not_eq_false event)).1
    omega

structure IsGenesis (sha256 : List UInt8 → Units) (floor : Value) : Prop where
  validated : validateTokenFloor sha256 floor = .ok ()
  reserved : reservedOf floor = genesisOf floor - 1
  committed : committedOf floor = genesisOf floor - 1
  transaction : get floor "lastCommittedTxId" = .null
  attestation : get floor "lastAttestationFingerprint" = .null

/-- The callers' side: a generation is reserved when none is open, attested with the proof
built for its reservation, and committed with the attestation of that proof. The last safe
integer is no generation to commit. -/
def Careful (sha256 : List UInt8 → Units) (s : Standing) : Call → Prop
  | .reserve .. => reservedOf s.floor = committedOf s.floor
  | .attest proof => ∃ attestation, buildAttestedTokenFloorProof sha256 s.floor attestation = .ok proof
  | .commit generation _ attestationFingerprint _ =>
    (∀ g, safeInteger generation = some g → g < maxSafeInteger) ∧
      attestationFingerprint = get s.proof "attestationFingerprint"

structure Ready (sha256 : List UInt8 → Units) (start s : Standing) (calls : List Call) : Prop where
  validated : validateTokenFloor sha256 s.floor = .ok ()
  history : get s.floor "lastCommittedTxId" = .null ↔ get s.floor "lastAttestationFingerprint" = .null
  room : committedOf s.floor < maxSafeInteger
  one : reservedOf s.floor ≤ committedOf s.floor + 1
  attested : get s.floor "floorPhase" = text "attested" →
    ∃ visit ∈ made sha256 start calls, visit.2 = .attest s.proof ∧
      accepts sha256 visit.1 visit.2 = true ∧ Careful sha256 visit.1 visit.2 ∧
      reservedOf visit.1.floor = reservedOf s.floor ∧
      get s.floor "attestedProofFingerprint" = get s.proof "attestedProofFingerprint"

theorem safeInteger_le (known : safeInteger value = some n) :
    n ≤ maxSafeInteger := by
  obtain ⟨m,_,read,safe⟩ := safeInteger_some known
  cases m with
  | int k =>
    cases read
    simp only [StrictJson.isSafeInteger,Bool.and_eq_true,decide_eq_true_eq] at safe
    exact safe.2
  | negativeZero =>
    cases read
    decide
  | other => cases read

theorem IsGenesis.ready (genesis : IsGenesis sha256 start.floor) :
    Ready sha256 start start [] := by
  have valid := (validateTokenFloor_iff.mp genesis.validated).1
  have bound := safeInteger_le (countersChecked valid.counted).1
  have reserved := genesis.reserved
  have committed := genesis.committed
  constructor
  case validated => exact genesis.validated
  case history => simp only [genesis.transaction,genesis.attestation]
  case room => omega
  case one => omega
  case attested =>
    intro attested
    cases valid.phase with
    | reserved is => exact absurd (attested.symm.trans is) (text_ne (by decide))
    | attested _ _ one => omega
    | committed is => exact absurd (attested.symm.trans is) (text_ne (by decide))

/-- A careful call, made or refused, leaves the floor ready. -/
theorem Ready.call {call : Call} (ready : Ready sha256 start (after sha256 start calls) calls)
    (careful : accepts sha256 (after sha256 start calls) call →
      Careful sha256 (after sha256 start calls) call) :
    Ready sha256 start (after sha256 start (calls ++ [call])) (calls ++ [call]) := by
  have last : after sha256 start (calls ++ [call]) = (step sha256 (after sha256 start calls) call).1 :=
    Runs.run_append ..
  have visited : made sha256 start (calls ++ [call]) =
      made sha256 start calls ++ [(after sha256 start calls,call)] := Runs.visits_append ..
  rw [last]
  generalize after sha256 start calls = s at *
  rcases @step_cases sha256 s call with same | ⟨next,moved,validated,validated',moves⟩
  · rw [same]
    refine ⟨ready.validated,ready.history,ready.room,ready.one,fun attested => ?_⟩
    obtain ⟨visit,there,rest⟩ := ready.attested attested
    exact ⟨visit,by rw [visited]; exact List.mem_append_left _ there,rest⟩
  have accepted : accepts sha256 s call := by rw [accepts,moved]
  have guarded := careful accepted
  rw [moved]
  cases moves with
  | reserve does =>
    have reserved := does.reserved
    have committed := does.committed
    have room := ready.room
    have closed : reservedOf s.floor = committedOf s.floor := guarded
    constructor
    case validated => exact validated'
    case history => exact (does.transaction ▸ does.attestation ▸ ready.history)
    case room => exact does.committed.trans_lt room
    case one => simp only; omega
    case attested => exact fun attested => absurd (attested.symm.trans does.after) (text_ne (by decide))
  | @attest proof reservation does =>
    have one := does.one
    constructor
    case validated => exact validated'
    case history => exact (does.transaction ▸ does.attestation ▸ ready.history)
    case room => exact does.committed.trans_lt ready.room
    case one => rw [does.reserved,does.committed,one]
    case attested =>
      exact fun _ => ⟨(s,.attest proof),by rw [visited]; simp,rfl,accepted,guarded,does.reserved.symm,does.proof⟩
  | @commit generation txId attestation fence does =>
    have reserved := does.reserved
    have committed := does.committed
    constructor
    case validated => exact validated'
    case history =>
      have given : txId ≠ .null := fun null => absurd (null ▸ does.identity) (by decide)
      have given' : attestation ≠ .null := fun null => absurd (null ▸ does.digest) (by decide)
      rw [does.transaction,does.attestation]
      exact ⟨fun null => absurd null given,fun null => absurd null given'⟩
    case room => exact committed.trans_lt (guarded.1 _ does.generation)
    case one => simp only; omega
    case attested => exact fun attested => absurd (attested.symm.trans does.after) (text_ne (by decide))

def HexDigest (sha256 : List UInt8 → Units) : Prop := ∀ bytes, isHex64 (sha256 bytes) = true

theorem spells_of_validated (validated : validateTokenFloor sha256 floor = .ok ()) :
    Spells floor "floorFingerprint" := by
  have asserted := (validateTokenFloor_iff.mp validated).2
  simp only [assertFingerprint,fingerprint,canonicalJsonHash,except_bind_ok] at asserted
  obtain ⟨_,⟨bytes,encoded,_⟩,_⟩ := asserted
  exact ⟨bytes,encoded⟩

/-- An advanced floor whose members fit and are those of a valid floor. -/
theorem advanceFloor_accepts (hex : HexDigest sha256) (validated : validateTokenFloor sha256 floor = .ok ())
    (listed : ∀ m ∈ members, m.1 ∈ tokenFloorKeys) (fits : ∀ m ∈ members, FitsMember m.2)
    (valid' : ∀ next, hasExactKeys next tokenFloorKeys →
      (∀ name, name ≠ "floorFingerprint" → get next name = get (assignAll floor members) name) →
      isHex (get next "floorFingerprint") → ValidFloor next) :
    ∃ next, advanceFloor sha256 floor members = .ok next := by
  have valid := (validateTokenFloor_iff.mp validated).1
  have listed' : ∀ m ∈ members ++ [("floorFingerprint",Value.null)], m.1 ∈ tokenFloorKeys := by
    simp only [List.forall_mem_append,List.forall_mem_singleton]
    exact ⟨listed,by decide⟩
  obtain ⟨bytes,encoded⟩ := spells_assignAll (spells_of_validated validated) valid.exact listed'
    (by simp only [List.forall_mem_append,List.forall_mem_singleton]; exact ⟨fits,fits_null⟩)
  refine ⟨_,(advanceFloor_ok valid listed).mpr ⟨sha256 bytes,?_,rfl,valid' _ ?_ ?_ ?_⟩⟩
  · rw [fingerprint,canonicalJsonHash,encoded]
    rfl
  · exact hasExactKeys_assign _ (hasExactKeys_assignAll valid.exact listed') (by decide)
  · intro name other
    rw [get_assign,if_neg other,assignAll,List.foldl_append,List.foldl_cons,List.foldl_nil,get_assign,
      if_neg other]
    rfl
  · rw [get_assign,if_pos rfl]
    exact hex bytes

theorem safeInteger_number {n : Int} (low : 0 ≤ n) (bound : n ≤ maxSafeInteger) :
    safeInteger (.number (.int n)) = some n := by
  rw [safeInteger,if_pos]
  simp only [StrictJson.isSafeInteger,Bool.and_eq_true,decide_eq_true_eq]
  omega

/-- What a valid floor has in common with the one before. -/
theorem ValidFloor.advance (valid : ValidFloor floor)
    (exact : hasExactKeys next tokenFloorKeys) (own : isHex (get next "floorFingerprint"))
    (kept : ∀ name ∈ ["version","kind","anchorFingerprint","genesisGeneration"], get next name = get floor name)
    (knownR : safeInteger (get next "highestReservedGeneration") = some reserved)
    (knownC : safeInteger (get next "highestCommittedGeneration") = some committed)
    (knownF : safeInteger (get next "fenceGeneration") = some fence)
    (bounds : 1 ≤ fence ∧ committedOf floor ≤ committed ∧ committed ≤ reserved)
    (reservation : isOpaqueIdentity (get next "lastReservationTxId")) (begun : genesisOf floor ≤ reserved)
    (transaction : isNullableOpaque (get next "lastCommittedTxId"))
    (attestation : isNullableHex (get next "lastAttestationFingerprint"))
    (commits : (get next "lastCommittedTxId" = .null ∨ get next "lastAttestationFingerprint" = .null) ↔
      committed < genesisOf floor)
    (phase : reservedOf next = reserved → committedOf next = committed → Phase next) :
    ValidFloor next := by
  simp only [List.forall_mem_cons,List.not_mem_nil,false_imp_iff,implies_true,and_true] at kept
  obtain ⟨version,kind,anchor,genesis⟩ := kept
  have countR : reservedOf next = reserved := by simp [reservedOf,counter,knownR]
  have countC : committedOf next = committed := by simp [committedOf,counter,knownC]
  have countF : fenceOf next = fence := by simp [fenceOf,counter,knownF]
  have countG : genesisOf next = genesisOf floor := by rw [genesisOf,counter,genesis]; rfl
  have knownG := (countersChecked valid.counted).1
  have positive := valid.positive
  have first := valid.begun
  have identity : get next "lastReservationTxId" ≠ .null := fun null => by
    rw [null] at reservation
    cases reservation
  constructor
  case exact => exact exact
  case version => exact version ▸ valid.version
  case kind => exact kind ▸ valid.kind
  case anchor => exact anchor ▸ valid.anchor
  case counted => simp [counters,counter,genesis,knownG,knownR,knownC,knownF]
  case positive => omega
  case begun => omega
  case ordered => omega
  case reservation => rw [isNullableOpaque,reservation,Bool.or_true]
  case reserves =>
    exact ⟨fun null => absurd null identity,fun below => by omega⟩
  case transaction => exact transaction
  case attestation => exact attestation
  case commits => rw [countC,countG]; exact commits
  case phase => exact phase countR countC
  case own => exact own

/-- A floor that is not attested takes the reservation of the next generation. -/
theorem reserve_accepts (hex : HexDigest sha256) (validated : validateTokenFloor sha256 floor = .ok ())
    (unattested : get floor "floorPhase" ≠ text "attested") (room : reservedOf floor < maxSafeInteger) :
    ∃ next, reserveTokenGeneration sha256 floor (.number (.int (reservedOf floor + 1))) (text "tx")
      (get floor "fenceGeneration") = .ok next := by
  have valid := (validateTokenFloor_iff.mp validated).1
  obtain ⟨knownG,knownR,knownC,knownF⟩ := countersChecked valid.counted
  have positive := valid.positive
  have begun := valid.begun
  have ordered := valid.ordered
  have safe := @safeInteger_number (reservedOf floor + 1) (by omega) (by omega)
  have fenced := isGeneration_iff.mpr ⟨_,knownF,positive.2⟩
  have identity : isOpaqueIdentity (text "tx") := by decide
  obtain ⟨next,advanced⟩ : ∃ next, advanceFloor sha256 floor
      [("fenceGeneration",get floor "fenceGeneration"),
        ("highestReservedGeneration",.number (.int (reservedOf floor + 1))),
        ("lastReservationTxId",text "tx"),("floorPhase",text "reserved"),
        ("attestedProofFingerprint",.null)] = .ok next := by
    refine advanceFloor_accepts hex validated ?_ ?_ fun next exact members own => ?_
    · simp only [List.forall_mem_cons,List.not_mem_nil,false_imp_iff,implies_true,and_true]
      decide
    · simp only [List.forall_mem_cons,List.not_mem_nil,false_imp_iff,implies_true,and_true]
      exact ⟨fits_safe (isSafe_iff.mpr ⟨_,knownF⟩),fits_safe (isSafe_iff.mpr ⟨_,safe⟩),
        fits_identity identity,fits_identity (by decide),fits_null⟩
    · simp only [assignAll,List.foldl_cons,List.foldl_nil,get_assign] at members
      have knownR' : safeInteger (get next "highestReservedGeneration") = some (reservedOf floor + 1) := by
        simpa [members] using safe
      have knownC' : safeInteger (get next "highestCommittedGeneration") = some (committedOf floor) := by
        simpa [members] using knownC
      have knownF' : safeInteger (get next "fenceGeneration") = some (fenceOf floor) := by
        simpa [members] using knownF
      refine valid.advance exact own (by simp [members]) knownR' knownC' knownF' (by omega) ?_ (by omega)
        ?_ ?_ ?_ ?_
      · simpa [members] using identity
      · simpa [members] using valid.transaction
      · simpa [members] using valid.attestation
      · simpa [members] using valid.commits
      · exact fun _ _ => .reserved (by simp [members]) (by simp [members])
  refine ⟨next,?_⟩
  simp only [reserveTokenGeneration,checks_ok,Bool.and_eq_true]
  refine ⟨validated,?_,⟨⟨⟨isNext_iff.mpr ⟨_,knownR,safe⟩,identity⟩,fenced⟩,?_⟩,advanced⟩
  · cases valid.phase with
    | reserved is => rw [is]; decide
    | attested is => exact absurd is unattested
    | committed is => rw [is]; decide
  · simp [lessThan,knownF]

/-- The open reservation has a transaction. -/
theorem ValidFloor.reserving (valid : ValidFloor floor) (reserved : genesisOf floor ≤ reservedOf floor) :
    isOpaqueIdentity (get floor "lastReservationTxId") ∧ isNull (get floor "lastReservationTxId") = false := by
  have given : get floor "lastReservationTxId" ≠ .null := fun null => by
    have := valid.reserves.mp null
    omega
  have unset : isNull (get floor "lastReservationTxId") = false :=
    Bool.eq_false_iff.mpr fun null => given (isNull_iff.mp null)
  have reservation := valid.reservation
  rw [isNullableOpaque,unset,Bool.false_or] at reservation
  exact ⟨reservation,unset⟩

/-- A single open reservation takes an attestation. -/
theorem attest_accepts (hex : HexDigest sha256) (validated : validateTokenFloor sha256 floor = .ok ())
    (reserved : get floor "floorPhase" = text "reserved") (one : reservedOf floor = committedOf floor + 1)
    (history : get floor "lastCommittedTxId" = .null ↔ get floor "lastAttestationFingerprint" = .null)
    (digest : isHex (get proof "attestedProofFingerprint")) :
    ∃ next, attestTokenFloor sha256 floor proof = .ok next := by
  have valid := (validateTokenFloor_iff.mp validated).1
  obtain ⟨knownG,knownR,knownC,knownF⟩ := countersChecked valid.counted
  have positive := valid.positive
  have begun := valid.begun
  obtain ⟨identity,unset⟩ := valid.reserving (by omega)
  have isReserved : isText "reserved" (get floor "floorPhase") := by rw [reserved]; decide
  have reservation : validateTokenFloorReservation sha256 floor = .ok () := by
    simp only [validateTokenFloorReservation,checks_ok,Bool.and_eq_true,beq_iff_eq]
    refine ⟨validated,⟨⟨isReserved,isNext_iff.mpr ⟨_,knownC,one ▸ knownR⟩⟩,by rw [unset]; rfl⟩,?_⟩
    rw [Bool.eq_iff_iff,isNull_iff,isNull_iff]
    exact history
  obtain ⟨next,advanced⟩ : ∃ next, advanceFloor sha256 floor [("floorPhase",text "attested"),
      ("attestedProofFingerprint",get proof "attestedProofFingerprint")] = .ok next := by
    refine advanceFloor_accepts hex validated ?_ ?_ fun next exact members own => ?_
    · simp only [List.forall_mem_cons,List.not_mem_nil,false_imp_iff,implies_true,and_true]
      decide
    · simp only [List.forall_mem_cons,List.not_mem_nil,false_imp_iff,implies_true,and_true]
      exact ⟨fits_identity (by decide),fits_hex digest⟩
    · simp only [assignAll,List.foldl_cons,List.foldl_nil,get_assign] at members
      have knownR' : safeInteger (get next "highestReservedGeneration") = some (reservedOf floor) := by
        simpa [members] using knownR
      have knownC' : safeInteger (get next "highestCommittedGeneration") = some (committedOf floor) := by
        simpa [members] using knownC
      have knownF' : safeInteger (get next "fenceGeneration") = some (fenceOf floor) := by
        simpa [members] using knownF
      refine valid.advance exact own (by simp [members]) knownR' knownC' knownF' (by omega) ?_ (by omega)
        ?_ ?_ ?_ ?_
      · simpa [members] using identity
      · simpa [members] using valid.transaction
      · simpa [members] using valid.attestation
      · simpa [members] using valid.commits
      · intro countR countC
        exact .attested (by simp [members]) (by simpa [members] using digest) (by rw [countR,countC,one])
  refine ⟨next,?_⟩
  simp only [attestTokenFloor,checks_ok,Bool.and_eq_true]
  exact ⟨reservation,⟨isReserved,digest⟩,advanced⟩

/-- An attested floor takes the commit of the generation it reserved. -/
theorem commit_accepts (hex : HexDigest sha256) (validated : validateTokenFloor sha256 floor = .ok ())
    (attested : get floor "floorPhase" = text "attested") (digest : isHex attestation) :
    reservedOf floor = committedOf floor + 1 ∧
    ∃ next, commitTokenFloor sha256 floor (get floor "highestReservedGeneration")
      (get floor "lastReservationTxId") attestation (get floor "fenceGeneration") = .ok next := by
  have valid := (validateTokenFloor_iff.mp validated).1
  obtain ⟨knownG,knownR,knownC,knownF⟩ := countersChecked valid.counted
  have positive := valid.positive
  have begun := valid.begun
  obtain ⟨proof,one⟩ : isHex (get floor "attestedProofFingerprint") ∧
      reservedOf floor = committedOf floor + 1 := by
    cases valid.phase with
    | reserved is => exact absurd (attested.symm.trans is) (text_ne (by decide))
    | attested _ proof one => exact ⟨proof,one⟩
    | committed is => exact absurd (attested.symm.trans is) (text_ne (by decide))
  obtain ⟨identity,unset⟩ := valid.reserving (by omega)
  have fenced := isGeneration_iff.mpr ⟨_,knownF,positive.2⟩
  have safe := isSafe_iff.mpr ⟨_,knownR⟩
  have given : get floor "lastReservationTxId" ≠ .null := fun null => by
    rw [null] at unset
    cases unset
  have given' : attestation ≠ .null := fun null => by
    rw [null] at digest
    cases digest
  obtain ⟨next,advanced⟩ : ∃ next, advanceFloor sha256 floor
      [("fenceGeneration",get floor "fenceGeneration"),
        ("highestCommittedGeneration",get floor "highestReservedGeneration"),
        ("lastCommittedTxId",get floor "lastReservationTxId"),
        ("lastAttestationFingerprint",attestation),("floorPhase",text "committed")] = .ok next := by
    refine advanceFloor_accepts hex validated ?_ ?_ fun next exact members own => ?_
    · simp only [List.forall_mem_cons,List.not_mem_nil,false_imp_iff,implies_true,and_true]
      decide
    · simp only [List.forall_mem_cons,List.not_mem_nil,false_imp_iff,implies_true,and_true]
      exact ⟨fits_safe (isSafe_iff.mpr ⟨_,knownF⟩),fits_safe safe,fits_identity identity,fits_hex digest,
        fits_identity (by decide)⟩
    · simp only [assignAll,List.foldl_cons,List.foldl_nil,get_assign] at members
      have knownR' : safeInteger (get next "highestReservedGeneration") = some (reservedOf floor) := by
        simpa [members] using knownR
      have knownC' : safeInteger (get next "highestCommittedGeneration") = some (reservedOf floor) := by
        simpa [members] using knownR
      have knownF' : safeInteger (get next "fenceGeneration") = some (fenceOf floor) := by
        simpa [members] using knownF
      refine valid.advance exact own (by simp [members]) knownR' knownC' knownF' (by omega) ?_ (by omega)
        ?_ ?_ ?_ ?_
      · simpa [members] using identity
      · simp [members,isNullableOpaque,identity]
      · simp [members,isNullableHex,digest]
      · have txId : get next "lastCommittedTxId" = get floor "lastReservationTxId" := by simp [members]
        have recorded : get next "lastAttestationFingerprint" = attestation := by simp [members]
        rw [txId,recorded]
        exact ⟨fun null => (null.elim given given').elim,fun below => by omega⟩
      · intro countR countC
        exact .committed (by simp [members]) (by simpa [members] using proof) (by rw [countR,countC])
  refine ⟨one,next,?_⟩
  simp only [commitTokenFloor,checks_ok,Bool.and_eq_true]
  refine ⟨validated,⟨⟨⟨⟨⟨⟨⟨⟨by rw [attested]; decide,safe⟩,?_⟩,?_⟩,?_⟩,identity⟩,digest⟩,fenced⟩,?_⟩,advanced⟩
  · exact (strictEqual_int knownR knownR).mpr rfl
  · exact isNext_iff.mpr ⟨_,knownC,one ▸ knownR⟩
  · cases txId : get floor "lastReservationTxId" with
    | string units => simp [strictEqual]
    | _ => rw [txId] at identity; cases identity
  · simp [lessThan,knownF]

end GjcRemote.GenesisEnvelope
