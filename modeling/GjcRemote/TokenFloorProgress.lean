import GjcRemote.TokenFloorRun
import GjcRemote.TokenHistory

/-! When the token floor can still commit a new generation, the law of its runs, and a
second reservation that wedges it. -/
namespace GjcRemote.GenesisEnvelope

open Utf16 StrictJson Record Envelope
open TokenHistory (genesisAttestation)

set_option maxRecDepth 100000

variable {sha256 : List UInt8 → Units}

/-- Some sequence of accepted calls commits the generation after the last committed one. -/
def Progresses (sha256 : List UInt8 → Units) (s : Standing) : Prop :=
  ∃ calls, (∀ visit ∈ made sha256 s calls, accepts sha256 visit.1 visit.2 = true) ∧
    ∃ visit ∈ made sha256 s calls,commitsAt sha256 (committedOf s.floor + 1) visit.1 visit.2 = true

variable {s : Standing}

theorem step_ok (call : Call) (done : call.apply sha256 s.floor = .ok next) :
    step sha256 s call = (⟨next,call.proof s.proof⟩,true) := by
  rw [step,done]

theorem made_cons (moved : step sha256 s call = (s',accepted)) (rest : List Call) :
    made sha256 s (call :: rest) = (s,call) :: made sha256 s' rest := by
  rw [made,Runs.visits,moved]

theorem after_cons (moved : step sha256 s call = (s',accepted)) (rest : List Call) :
    after sha256 s (call :: rest) = after sha256 s' rest := by
  rw [after,Runs.run,moved]

theorem accepts_of (moved : step sha256 s call = (s',accepted)) : accepts sha256 s call = accepted := by
  rw [accepts,moved]

/-- One accepted call that commits nothing, and then progress. -/
theorem Progresses.cons (call : Call)
    (done : call.apply sha256 s.floor = .ok next) (same : committedOf next = committedOf s.floor)
    (later : Progresses sha256 ⟨next,call.proof s.proof⟩) : Progresses sha256 s := by
  obtain ⟨calls,accepted,visit,there,commits⟩ := later
  have moved := step_ok call done
  have visited := made_cons moved calls
  refine ⟨call :: calls,?_,visit,?_,same ▸ commits⟩
  · rw [visited,List.forall_mem_cons]
    exact ⟨accepts_of moved,accepted⟩
  · rw [visited]
    exact List.mem_cons_of_mem _ there

theorem attested_progresses (hex : HexDigest sha256) (validated : validateTokenFloor sha256 s.floor = .ok ())
    (attested : get s.floor "floorPhase" = text "attested") : Progresses sha256 s := by
  have digest : isHex (.string (sha256 [])) := hex []
  obtain ⟨one,next,done⟩ := commit_accepts hex validated attested digest
  have knownR := (countersChecked (validateTokenFloor_iff.mp validated).1.counted).2.1
  let call : Call := .commit (get s.floor "highestReservedGeneration") (get s.floor "lastReservationTxId")
    (.string (sha256 [])) (get s.floor "fenceGeneration")
  have accepted : accepts sha256 s call := accepts_of (step_ok call done)
  refine ⟨[call],?_,(s,call),List.mem_singleton_self _,?_⟩
  · intro visit member
    rw [List.mem_singleton.mp member]
    exact accepted
  · rw [commitsAt,accepted,← one]
    simp [call,Call.isCommit,Call.generation,knownR]

theorem reserved_progresses (hex : HexDigest sha256) (validated : validateTokenFloor sha256 s.floor = .ok ())
    (reserved : get s.floor "floorPhase" = text "reserved") (one : reservedOf s.floor = committedOf s.floor + 1)
    (history : get s.floor "lastCommittedTxId" = .null ↔ get s.floor "lastAttestationFingerprint" = .null) :
    Progresses sha256 s := by
  let proof : Value := .object [(ofString "attestedProofFingerprint",.string (sha256 []))]
  have digest : isHex (get proof "attestedProofFingerprint") := by
    exact hex []
  obtain ⟨next,done⟩ := attest_accepts hex validated reserved one history digest
  obtain ⟨_,validated',does⟩ := attestTokenFloor_ok done
  exact Progresses.cons (.attest proof) done does.committed (attested_progresses hex validated' does.after)

/-- A floor with at most one open reservation commits a new generation. -/
theorem progresses (hex : HexDigest sha256) (validated : validateTokenFloor sha256 s.floor = .ok ())
    (history : get s.floor "lastCommittedTxId" = .null ↔ get s.floor "lastAttestationFingerprint" = .null)
    (room : committedOf s.floor < maxSafeInteger) (one : reservedOf s.floor ≤ committedOf s.floor + 1) :
    Progresses sha256 s := by
  have valid := (validateTokenFloor_iff.mp validated).1
  have ordered := valid.ordered
  have opens (closed : reservedOf s.floor = committedOf s.floor)
      (unattested : get s.floor "floorPhase" ≠ text "attested") : Progresses sha256 s := by
    obtain ⟨next,done⟩ := reserve_accepts hex validated unattested (by omega)
    obtain ⟨_,validated',does⟩ := reserveTokenGeneration_ok done
    have reserved := does.reserved
    have committed := does.committed
    refine Progresses.cons (.reserve _ _ _) done committed (reserved_progresses hex validated' does.after ?_ ?_)
    · simp only
      omega
    · exact does.transaction ▸ does.attestation ▸ history
  cases valid.phase with
  | reserved is =>
    rcases Int.lt_or_eq_of_le ordered with below | closed
    · exact reserved_progresses hex validated is (by omega) history
    · exact opens closed.symm (fun attested => text_ne (by decide) (attested.symm.trans is))
  | attested is => exact attested_progresses hex validated is
  | committed is _ closed =>
    exact opens closed (fun attested => text_ne (by decide) (attested.symm.trans is))

structure FloorLaw (sha256 : List UInt8 → Units) (start : Standing) (calls : List Call) : Prop where
  valid : validateTokenFloor sha256 (after sha256 start calls).floor = .ok ()
  monotone : ∀ before rest, calls = before ++ rest →
    Below (after sha256 start before) (after sha256 start calls)
  reservedOnce : ∀ g,(made sha256 start calls).countP (fun visit => reservesAt sha256 g visit.1 visit.2) ≤ 1
  committedOnce : ∀ g,(made sha256 start calls).countP (fun visit => commitsAt sha256 g visit.1 visit.2) ≤ 1
  attestedFirst : ∀ before call rest g, calls = before ++ call :: rest →
    commitsAt sha256 g (after sha256 start before) call = true →
    ∃ earlier proof attestation, (earlier,.attest proof) ∈ made sha256 start before ∧
      accepts sha256 earlier (.attest proof) = true ∧ reservedOf earlier.floor = g ∧
      buildAttestedTokenFloorProof sha256 earlier.floor attestation = .ok proof ∧
      let committed := (step sha256 (after sha256 start before) call).1.floor
      get committed "attestedProofFingerprint" = get proof "attestedProofFingerprint" ∧
      get committed "lastAttestationFingerprint" = get attestation "attestationFingerprint"
  progress : Progresses sha256 (after sha256 start calls)

def CarefulRun (sha256 : List UInt8 → Units) (start : Standing) (calls : List Call) : Prop :=
  ∀ visit ∈ made sha256 start calls, accepts sha256 visit.1 visit.2 = true →
    Careful sha256 visit.1 visit.2

theorem CarefulRun.before {before rest : List Call}
    (careful : CarefulRun sha256 start (before ++ rest)) : CarefulRun sha256 start before := by
  intro visit member
  refine careful visit ?_
  rw [made,Runs.visits_append]
  exact List.mem_append_left _ member

theorem CarefulRun.here {before rest : List Call} (careful : CarefulRun sha256 start (before ++ call :: rest))
    (accepted : accepts sha256 (after sha256 start before) call) :
    Careful sha256 (after sha256 start before) call := by
  refine careful (after sha256 start before,call) ?_ accepted
  rw [made,Runs.visits_append]
  exact List.mem_append_right _ List.mem_cons_self

theorem CarefulRun.ready (genesis : IsGenesis sha256 start.floor) (careful : CarefulRun sha256 start calls) :
    Ready sha256 start (after sha256 start calls) calls := by
  induction calls using List.reverseRecOn with
  | nil => exact genesis.ready
  | append_singleton calls call ih => exact (ih careful.before).call careful.here

/-- What a built proof says of its attestation. -/
theorem buildAttestedTokenFloorProof_ok
    (built : buildAttestedTokenFloorProof sha256 reservation attestation = .ok proof) :
    get proof "attestationFingerprint" = get attestation "attestationFingerprint" := by
  simp only [buildAttestedTokenFloorProof,except_unit_bind_ok,sealAs_ok] at built
  obtain ⟨_,_,_,_,own,_,rfl⟩ := built
  rw [get_assign,if_neg (by decide)]
  simp [get_cons]

/-- Runs whose calls are careful obey the law. -/
theorem careful_floor_law (hex : HexDigest sha256) {start : Standing}
    (genesis : IsGenesis sha256 start.floor) {calls : List Call}
    (careful : CarefulRun sha256 start calls) : FloorLaw sha256 start calls := by
  have ready := careful.ready genesis
  constructor
  case valid => exact ready.validated
  case monotone =>
    rintro before rest rfl
    rw [show after sha256 start (before ++ rest) = after sha256 (after sha256 start before) rest from
      Runs.run_append ..]
    exact run_below _ rest
  case reservedOnce => exact fun g => reserved_once g start calls
  case committedOnce => exact fun g => committed_once g start calls
  case attestedFirst =>
    rintro before call rest g rfl commits
    have here := careful.before.ready genesis
    obtain ⟨_,_,attested,reserved⟩ := commitsAt_does commits
    obtain ⟨⟨earlier,call'⟩,there,rfl,accepted,⟨attestation,built⟩,same,proof⟩ := here.attested attested
    refine ⟨earlier,_,attestation,there,accepted,same.trans reserved,built,?_⟩
    simp only [commitsAt,Bool.and_eq_true] at commits
    have guarded := careful.here commits.1.1
    obtain ⟨next,moved,_,_,moves⟩ := accepted_moves commits.1.1
    rw [moved]
    cases moves with
    | reserve => cases commits.1.2
    | attest => cases commits.1.2
    | commit does =>
      exact ⟨does.proof.trans proof,
        does.attestation.trans (guarded.2.trans (buildAttestedTokenFloorProof_ok built))⟩
  case progress => exact progresses hex ready.validated ready.history ready.room ready.one

structure Wedged (s : Standing) : Prop where
  reserved : get s.floor "floorPhase" = text "reserved"
  open' : committedOf s.floor + 2 ≤ reservedOf s.floor

/-- No call closes the second of two open reservations. -/
theorem Wedged.step {s : Standing} (wedged : Wedged s) (call : Call) :
    Wedged (GenesisEnvelope.step sha256 s call).1 ∧ ∀ g, commitsAt sha256 g s call = false := by
  have gap := wedged.open'
  refine ⟨?_,fun g => ?_⟩
  · rcases @step_cases sha256 s call with same | ⟨next,moved,_,_,moves⟩
    · rw [same]
      exact wedged
    · rw [moved]
      cases moves with
      | reserve does =>
        have reserved := does.reserved
        have committed := does.committed
        exact ⟨does.after,by simp only; omega⟩
      | attest _ does =>
        have one := does.one
        omega
      | commit does => exact absurd (does.phase.symm.trans wedged.reserved) (text_ne (by decide))
  · refine Bool.eq_false_iff.mpr fun commits => ?_
    obtain ⟨_,_,attested,_⟩ := commitsAt_does commits
    exact text_ne (by decide) (attested.symm.trans wedged.reserved)

theorem Wedged.never {s : Standing} (wedged : Wedged s) (calls : List Call) :
    ∀ visit ∈ made sha256 s calls, ∀ g, commitsAt sha256 g visit.1 visit.2 = false := by
  intro visit member
  have stays : Wedged visit.1 := Runs.visits_invariant
    (fun s call (wedged : Wedged s) => (@Wedged.step sha256 s wedged call).1) wedged calls visit member
  exact (stays.step visit.2).2

def assignByCode (record : Value) (key : String) (value : Value) : Value :=
  match record with
  | .object entries =>
    if entries.any fun e => (codeOf e.1).beq (codeOf (unitsOf key)) then
      .object (entries.map fun e => if (codeOf e.1).beq (codeOf (unitsOf key)) then (e.1,value) else e)
    else .object (entries ++ [(unitsOf key,value)])
  | _ => .object [(unitsOf key,value)]

theorem assign_byCode : assign = assignByCode := by
  funext record key value
  cases record with
  | object entries => simp only [assign,assignByCode,codeOf_beq,unitsOf_eq,decide_eq_true_eq]
  | _ => simp only [assign,assignByCode,unitsOf_eq]

def sameScalar : Value → Value → Bool
  | .null,.null => true
  | .number m,.number n => m == n
  | .string s,.string t => (codeOf s).beq (codeOf t)
  | _,_ => false

def sameEntries : List (Units × Value) → List (Units × Value) → Bool
  | [],[] => true
  | e :: rest,e' :: rest' =>
    (codeOf e.1).beq (codeOf e'.1) && sameScalar e.2 e'.2 && sameEntries rest rest'
  | _,_ => false

def sameRecord : Value → Value → Bool
  | .object entries,.object entries' => sameEntries entries entries'
  | _,_ => false

theorem sameScalar_eq (same : sameScalar v w) : v = w := by
  unfold sameScalar at same
  split at same
  · rfl
  · rw [eq_of_beq same]
  · rw [codeOf_beq,decide_eq_true_eq] at same
    rw [same]
  · cases same

theorem sameEntries_eq (same : sameEntries entries entries') : entries = entries' := by
  induction entries generalizing entries' with
  | nil =>
    cases entries' with
    | nil => rfl
    | cons => cases same
  | cons e rest ih =>
    cases entries' with
    | nil => cases same
    | cons e' rest' =>
      rw [sameEntries,Bool.and_eq_true,Bool.and_eq_true,codeOf_beq,decide_eq_true_eq] at same
      rw [ih same.2,Prod.ext same.1.1 (sameScalar_eq same.1.2)]

theorem sameRecord_eq (same : sameRecord v w) : v = w := by
  unfold sameRecord at same
  split at same
  · rw [sameEntries_eq same]
  · cases same

/-- The digest that seals the records, and a digest of nothing elsewhere. -/
def sealingHex (records : List (Value × String × Nat)) (bytes : List UInt8) : Units :=
  if isHex64 (sealing records bytes) then sealing records bytes else hexUnits 64 0

theorem sealingHex_digest (records : List (Value × String × Nat)) : HexDigest (sealingHex records) := by
  intro bytes
  rw [sealingHex]
  split
  · next hex => exact hex
  · exact hexText_isHex 0

variable {field : String}

theorem sealingHex_fingerprint (sealed' : areSealed names records) (listed : (record,field,n) ∈ records) :
    fingerprint (sealingHex records) record field = .ok (hexUnits 64 n) ∧ get record field = hexText n := by
  obtain ⟨computed,own⟩ := sealing_fingerprint sealed' listed
  simp only [fingerprint,canonicalJsonHash,except_bind_ok] at computed ⊢
  obtain ⟨bytes,encoded,digest⟩ := computed
  have digest : sealing records bytes = hexUnits 64 n := Except.ok.inj digest
  have hex : isHex64 (sealing records bytes) := digest ▸ hexText_isHex n
  refine ⟨⟨bytes,encoded,?_⟩,own⟩
  rw [sealingHex,if_pos hex,digest]
  rfl

theorem sealingHex_asserted (sealed' : areSealed names records)
    (listed : (record,field,n) ∈ records) (error : JsError) :
    assertFingerprint (sealingHex records) record field error = .ok () := by
  obtain ⟨computed,own⟩ := sealingHex_fingerprint sealed' listed
  rw [assertFingerprint,computed,own,except_bind_ok]
  exact ⟨_,rfl,check_ok.mpr (beq_self_eq_true _)⟩

/-- A record sealed with the fingerprint it is listed with. -/
theorem sealAs_listed (sealed' : areSealed names records)
    (listed : (next,field,n) ∈ records) (own : hasOwn record field)
    (assigned : assign record field (hexText n) = next) :
    sealAs (sealingHex records) record field = .ok next := by
  have computed := (sealingHex_fingerprint sealed' listed).1
  rw [fingerprint,← assigned,without_assign _ own] at computed
  exact sealAs_ok.mpr ⟨_,computed,assigned.symm⟩

def sampleFloor (phase : String) (committed reserved : Int)
    (reservation transaction attestation proof : Value) (fingerprint : Nat) : Value :=
  .object [(ascii "anchorFingerprint",repeated 10),(ascii "attestedProofFingerprint",proof),
    (ascii "fenceGeneration",integer 1),(ascii "floorFingerprint",hexText fingerprint),
    (ascii "floorPhase",asciiText phase),(ascii "genesisGeneration",integer 1),
    (ascii "highestCommittedGeneration",integer committed),
    (ascii "highestReservedGeneration",integer reserved),(ascii "kind",asciiText "token-generation-floor"),
    (ascii "lastAttestationFingerprint",attestation),(ascii "lastCommittedTxId",transaction),
    (ascii "lastReservationTxId",reservation),(ascii "version",integer 1)]

def unreservedFloor : Value := sampleFloor "reserved" 0 0 .null .null .null .null
  0xea1b9744fa890953a40ef508f4883858d0c5524646221574802787bebf7d0537

def reservedFloor : Value := sampleFloor "reserved" 0 1 (asciiText "tx1") .null .null .null
  0x9c052b7e343c2a40b3bee803d89e65980ae2655cc3b27f2f709c835b441c55db

def sampleProof : Value :=
  .object [(ascii "version",integer 1),(ascii "kind",asciiText "attested-token-floor-proof"),
    (ascii "genesisTxId",asciiText "tx1"),(ascii "fenceGeneration",integer 1),
    (ascii "generation",integer 1),(ascii "reservationFingerprint",get reservedFloor "floorFingerprint"),
    (ascii "attestationFingerprint",get genesisAttestation "attestationFingerprint"),
    (ascii "attestedProofFingerprint",
      hexText 0x7d2cd85a01cee8db8a0b916461d057fbde512c0c02bd22827e80037b3c9b2127)]

def attestedFloor : Value := sampleFloor "attested" 0 1 (asciiText "tx1") .null .null
  (get sampleProof "attestedProofFingerprint")
  0x519cf04739e8f74e4b6b12acd2c314279f2d290e6d51803dd4b27475f60a249d

def committedFloor : Value := sampleFloor "committed" 1 1 (asciiText "tx1") (asciiText "tx1")
  (get genesisAttestation "attestationFingerprint") (get sampleProof "attestedProofFingerprint")
  0x410cf326b31f286a043c3a3c239e768ad6427a1dbcd44ef2e8993ac411f13be7

def twiceReservedFloor : Value := sampleFloor "reserved" 0 2 (asciiText "tx2") .null .null .null
  0x52e0a94a555909d7a4edb7405810c8de604b805e19c8a7ded637759096838acf

def sampleRecords : List (Value × String × Nat) :=
  [(genesisAttestation,"attestationFingerprint",
      0xa6dc51a0b17585195c299d7bbfc0d7d255ccfc687a5a562f5a2db212d09dddea),
    (unreservedFloor,"floorFingerprint",0xea1b9744fa890953a40ef508f4883858d0c5524646221574802787bebf7d0537),
    (reservedFloor,"floorFingerprint",0x9c052b7e343c2a40b3bee803d89e65980ae2655cc3b27f2f709c835b441c55db),
    (sampleProof,"attestedProofFingerprint",0x7d2cd85a01cee8db8a0b916461d057fbde512c0c02bd22827e80037b3c9b2127),
    (attestedFloor,"floorFingerprint",0x519cf04739e8f74e4b6b12acd2c314279f2d290e6d51803dd4b27475f60a249d),
    (committedFloor,"floorFingerprint",0x410cf326b31f286a043c3a3c239e768ad6427a1dbcd44ef2e8993ac411f13be7),
    (twiceReservedFloor,"floorFingerprint",0x52e0a94a555909d7a4edb7405810c8de604b805e19c8a7ded637759096838acf)]

def sampleDigest : List UInt8 → Units := sealingHex sampleRecords

theorem sampleRecords_sealed :
    areSealed ["kind","floorPhase","lastReservationTxId"] sampleRecords = true := by
  simp only [areSealed,textCodes,without_byCode,byCode]
  decide +kernel

theorem sampleDigest_hex : HexDigest sampleDigest := sealingHex_digest _

theorem sample_asserted (i : Nat) (located : sampleRecords[i]? = some r) (error : JsError) :
    assertFingerprint sampleDigest r.1 r.2.1 error = .ok () :=
  sealingHex_asserted sampleRecords_sealed (List.mem_of_getElem? located) error

theorem sample_seals (i : Nat) (located : sampleRecords[i]? = some (next,field,n))
    (assigned : (hasOwn record field && sameRecord (assign record field (hexText n)) next)) :
    sealAs sampleDigest record field = .ok next := by
  rw [Bool.and_eq_true] at assigned
  exact sealAs_listed sampleRecords_sealed (List.mem_of_getElem? located) assigned.1 (sameRecord_eq assigned.2)

def movesTo (floor next : Value) (members : List (String × Value)) (n : Nat) : Bool :=
  hasOwn (assignAll floor (members ++ [("floorFingerprint",.null)])) "floorFingerprint" &&
    sameRecord (assign (assignAll floor (members ++ [("floorFingerprint",.null)])) "floorFingerprint"
      (hexText n)) next

/-- The next floor of the sample, with the checks of its fingerprint made. -/
theorem sample_advances (i : Nat) (located : sampleRecords[i]? = some (next,"floorFingerprint",n))
    (assigned : movesTo floor next members n) (validated : validateTokenFloor sampleDigest next = .ok ()) :
    advanceFloor sampleDigest floor members = .ok next := by
  rw [advanceFloor,sample_seals i located assigned,except_bind_ok]
  exact ⟨next,rfl,by rw [validated]; rfl⟩

theorem sampleFloors_valid : [unreservedFloor,reservedFloor,attestedFloor,committedFloor,
    twiceReservedFloor].all (fun floor => (validateTokenFloor sampleDigest floor).isOk) = true := by
  simp only [List.all_cons,List.all_nil,validateTokenFloor,sample_asserted 1 rfl,sample_asserted 2 rfl,
    sample_asserted 4 rfl,sample_asserted 5 rfl,sample_asserted 6 rfl]
  simp only [hasExactKeys,assertFence,isOneOf,byCode]
  decide +kernel

def reserving (generation : Int) (txId : String) : List (String × Value) :=
  [("fenceGeneration",integer 1),("highestReservedGeneration",integer generation),
    ("lastReservationTxId",asciiText txId),("floorPhase",text "reserved"),
    ("attestedProofFingerprint",.null)]

theorem sample_moves :
    (movesTo unreservedFloor reservedFloor (reserving 1 "tx1")
        0x9c052b7e343c2a40b3bee803d89e65980ae2655cc3b27f2f709c835b441c55db &&
      movesTo reservedFloor twiceReservedFloor (reserving 2 "tx2")
        0x52e0a94a555909d7a4edb7405810c8de604b805e19c8a7ded637759096838acf &&
      movesTo reservedFloor attestedFloor [("floorPhase",text "attested"),
          ("attestedProofFingerprint",get sampleProof "attestedProofFingerprint")]
        0x519cf04739e8f74e4b6b12acd2c314279f2d290e6d51803dd4b27475f60a249d &&
      movesTo attestedFloor committedFloor [("fenceGeneration",integer 1),
          ("highestCommittedGeneration",integer 1),("lastCommittedTxId",asciiText "tx1"),
          ("lastAttestationFingerprint",get genesisAttestation "attestationFingerprint"),
          ("floorPhase",text "committed")]
        0x410cf326b31f286a043c3a3c239e768ad6427a1dbcd44ef2e8993ac411f13be7) = true := by
  simp only [movesTo,reserving,text,← unitsOf_eq,List.cons_append,List.nil_append,assignAll,List.foldl_cons,
    List.foldl_nil,assign_byCode,byCode]
  decide +kernel

theorem sample_valid (listed : floor ∈ [unreservedFloor,reservedFloor,attestedFloor,
    committedFloor,twiceReservedFloor]) : validateTokenFloor sampleDigest floor = .ok () :=
  isOk_unit (List.all_eq_true.mp sampleFloors_valid floor listed)

/-- What the calls of the sample check besides their floors. -/
theorem sample_checks :
    ((isOneOf ["reserved","committed"] (get unreservedFloor "floorPhase") &&
        isNext (integer 1) (get unreservedFloor "highestReservedGeneration") &&
        !lessThan (integer 1) (get unreservedFloor "fenceGeneration")) &&
      (isOneOf ["reserved","committed"] (get reservedFloor "floorPhase") &&
        isNext (integer 2) (get reservedFloor "highestReservedGeneration") &&
        !lessThan (integer 1) (get reservedFloor "fenceGeneration")) &&
      (isText "reserved" (get reservedFloor "floorPhase") &&
        isNext (get reservedFloor "highestReservedGeneration")
          (get reservedFloor "highestCommittedGeneration") &&
        !isNull (get reservedFloor "lastReservationTxId") && isNull (get reservedFloor "lastCommittedTxId") ==
          isNull (get reservedFloor "lastAttestationFingerprint")) &&
      isHex (get sampleProof "attestedProofFingerprint") &&
      (isText "attested" (get attestedFloor "floorPhase") &&
        strictEqual (integer 1) (get attestedFloor "highestReservedGeneration") &&
        isNext (integer 1) (get attestedFloor "highestCommittedGeneration") &&
        strictEqual (get attestedFloor "lastReservationTxId") (asciiText "tx1") &&
        isHex (get genesisAttestation "attestationFingerprint") &&
        !lessThan (integer 1) (get attestedFloor "fenceGeneration"))) = true := by
  simp only [isOneOf,byCode]
  decide +kernel

theorem sample_reserves :
    reserveTokenGeneration sampleDigest unreservedFloor (integer 1) (asciiText "tx1") (integer 1) =
        .ok reservedFloor ∧
      reserveTokenGeneration sampleDigest reservedFloor (integer 2) (asciiText "tx2") (integer 1) =
        .ok twiceReservedFloor := by
  have checks := sample_checks
  have moves := sample_moves
  simp only [Bool.and_eq_true] at checks moves
  obtain ⟨⟨⟨⟨⟨⟨phase,next⟩,fence⟩,⟨phase',next'⟩,fence'⟩,_⟩,_⟩,_⟩ := checks
  simp only [reserveTokenGeneration,checks_ok,Bool.and_eq_true]
  constructor
  · exact ⟨sample_valid (by simp),phase,⟨⟨⟨next,by decide⟩,by decide⟩,fence⟩,
      sample_advances 2 rfl moves.1.1.1 (sample_valid (by simp))⟩
  · exact ⟨sample_valid (by simp),phase',⟨⟨⟨next',by decide⟩,by decide⟩,fence'⟩,
      sample_advances 6 rfl moves.1.1.2 (sample_valid (by simp))⟩

theorem sample_reservation : validateTokenFloorReservation sampleDigest reservedFloor = .ok () := by
  have checks := sample_checks
  simp only [Bool.and_eq_true] at checks
  simp only [validateTokenFloorReservation,checks_ok,Bool.and_eq_true]
  exact ⟨sample_valid (by simp),checks.1.1.2⟩

theorem sample_attests : attestTokenFloor sampleDigest reservedFloor sampleProof = .ok attestedFloor := by
  have checks := sample_checks
  have moves := sample_moves
  simp only [Bool.and_eq_true] at checks moves
  simp only [attestTokenFloor,checks_ok,Bool.and_eq_true]
  exact ⟨sample_reservation,⟨checks.1.1.2.1.1.1,checks.1.2⟩,
    sample_advances 4 rfl moves.1.2 (sample_valid (by simp))⟩

theorem sample_commits : commitTokenFloor sampleDigest attestedFloor (integer 1) (asciiText "tx1")
    (get genesisAttestation "attestationFingerprint") (integer 1) = .ok committedFloor := by
  have checks := sample_checks
  have moves := sample_moves
  simp only [Bool.and_eq_true] at checks moves
  obtain ⟨_,⟨⟨⟨⟨phase,reserved⟩,next⟩,txId⟩,digest⟩,fence⟩ := checks
  simp only [commitTokenFloor,checks_ok,Bool.and_eq_true]
  exact ⟨sample_valid (by simp),⟨⟨⟨⟨⟨⟨⟨⟨phase,by decide⟩,reserved⟩,next⟩,txId⟩,by decide⟩,digest⟩,by decide⟩,
    fence⟩,sample_advances 5 rfl moves.2 (sample_valid (by simp))⟩

theorem sample_builds :
    buildAttestedTokenFloorProof sampleDigest reservedFloor genesisAttestation = .ok sampleProof := by
  have attestation : (validateTokenConfigAttestation sampleDigest genesisAttestation).isOk = true := by
    simp only [validateTokenConfigAttestation,sample_asserted 0 rfl]
    simp only [hasExactKeys,assertFence,isOneOf,byCode]
    decide +kernel
  simp only [buildAttestedTokenFloorProof,checks_ok]
  refine ⟨sample_reservation,isOk_unit attestation,?_,?_,sample_seals 3 rfl ?_⟩
  · simp only [relate,byCode]
    decide +kernel
  · simp only [agree,byCode]
    decide +kernel
  · simp only [text,← unitsOf_eq,assign_byCode,byCode]
    decide +kernel

def sampleStart : Standing := ⟨unreservedFloor,.null⟩

def reserveFirst : Call := .reserve (integer 1) (asciiText "tx1") (integer 1)

def reserveSecond : Call := .reserve (integer 2) (asciiText "tx2") (integer 1)

def commitFirst (attestationFingerprint : Value) : Call :=
  .commit (integer 1) (asciiText "tx1") attestationFingerprint (integer 1)

theorem sample_members :
    ((sameScalar (get unreservedFloor "lastCommittedTxId") .null &&
        sameScalar (get unreservedFloor "lastAttestationFingerprint") .null &&
        reservedOf unreservedFloor == genesisOf unreservedFloor - 1 &&
        committedOf unreservedFloor == genesisOf unreservedFloor - 1) &&
      (sameScalar (get attestedFloor "highestReservedGeneration") (integer 1) &&
        sameScalar (get attestedFloor "lastReservationTxId") (asciiText "tx1") &&
        sameScalar (get attestedFloor "fenceGeneration") (integer 1) &&
        isText "attested" (get attestedFloor "floorPhase")) &&
      (isText "reserved" (get twiceReservedFloor "floorPhase") &&
        decide (committedOf twiceReservedFloor + 2 ≤ reservedOf twiceReservedFloor)) && (isHex (repeated 13) &&
        !strictEqual (repeated 13) (get sampleProof "attestationFingerprint"))) = true := by
  simp only [reservedOf,committedOf,genesisOf,counter,byCode]
  decide +kernel

def sampleCalls : List Call :=
  [reserveFirst,.attest sampleProof,commitFirst (get genesisAttestation "attestationFingerprint")]

theorem sample_genesis : IsGenesis sampleDigest sampleStart.floor := by
  have members := sample_members
  simp only [Bool.and_eq_true] at members
  obtain ⟨⟨⟨⟨⟨⟨transaction,attestation⟩,reserved⟩,committed⟩,_⟩,_⟩,_⟩ := members
  constructor
  case validated => exact sample_valid (by simp [sampleStart])
  case reserved => exact eq_of_beq reserved
  case committed => exact eq_of_beq committed
  case transaction => exact sameScalar_eq transaction
  case attestation => exact sameScalar_eq attestation

theorem sample_steps : step sampleDigest sampleStart reserveFirst = (⟨reservedFloor,.null⟩,true) ∧
    step sampleDigest ⟨reservedFloor,.null⟩ reserveSecond = (⟨twiceReservedFloor,.null⟩,true) ∧
    step sampleDigest ⟨reservedFloor,.null⟩ (.attest sampleProof) = (⟨attestedFloor,sampleProof⟩,true) ∧
    step sampleDigest ⟨attestedFloor,sampleProof⟩
      (commitFirst (get genesisAttestation "attestationFingerprint")) = (⟨committedFloor,sampleProof⟩,true) :=
  ⟨step_ok reserveFirst sample_reserves.1,step_ok reserveSecond sample_reserves.2,
    step_ok (.attest sampleProof) sample_attests,step_ok (commitFirst _) sample_commits⟩

/-- Generation 1 reserved, attested and committed. -/
theorem careful_floor_law_commits : FloorLaw sampleDigest sampleStart sampleCalls ∧
    (after sampleDigest sampleStart sampleCalls).floor = committedFloor := by
  obtain ⟨first,_,attests,commits⟩ := sample_steps
  have visited : made sampleDigest sampleStart sampleCalls = [(sampleStart,reserveFirst),
      (⟨reservedFloor,.null⟩,.attest sampleProof),
      (⟨attestedFloor,sampleProof⟩,commitFirst (get genesisAttestation "attestationFingerprint"))] := by
    rw [sampleCalls,made_cons first,made_cons attests]
    rfl
  refine ⟨careful_floor_law sampleDigest_hex sample_genesis ?_,?_⟩
  · rw [CarefulRun,visited]
    simp only [List.forall_mem_cons,List.not_mem_nil,false_imp_iff,implies_true,and_true]
    refine ⟨fun _ => ?_,fun _ => ⟨_,sample_builds⟩,fun _ => ⟨fun g known => ?_,?_⟩⟩
    · exact sample_genesis.reserved.trans sample_genesis.committed.symm
    · have one : safeInteger (integer 1) = some 1 := rfl
      cases known.symm.trans one
      decide
    · exact (buildAttestedTokenFloorProof_ok sample_builds).symm
  · rw [sampleCalls,after_cons first,after_cons attests,after_cons commits]
    rfl

/-- Generation 2 reserved on top of generation 1 wedges the floor; and a commit is accepted
with the fingerprint of no attestation. -/
theorem careless_floor_wedges : HexDigest sampleDigest ∧ IsGenesis sampleDigest sampleStart.floor ∧
    (∀ visit ∈ made sampleDigest sampleStart [reserveFirst,reserveSecond],
      accepts sampleDigest visit.1 visit.2 = true) ∧ (∀ calls, ∀ visit ∈ made sampleDigest
        (after sampleDigest sampleStart [reserveFirst,reserveSecond]) calls,
      ∀ g, commitsAt sampleDigest g visit.1 visit.2 = false) ∧
    ¬ Progresses sampleDigest (after sampleDigest sampleStart [reserveFirst,reserveSecond]) ∧
    accepts sampleDigest (after sampleDigest sampleStart [reserveFirst,.attest sampleProof])
      (commitFirst (repeated 13)) = true ∧
    get (after sampleDigest sampleStart [reserveFirst,.attest sampleProof,commitFirst (repeated 13)]).floor
      "lastAttestationFingerprint" ≠ get sampleProof "attestationFingerprint" := by
  obtain ⟨first,second,attests,_⟩ := sample_steps
  have members := sample_members
  simp only [Bool.and_eq_true,Bool.not_eq_true',decide_eq_true_eq] at members
  obtain ⟨⟨⟨_,⟨⟨generation,txId⟩,fence⟩,attested⟩,reserved,open'⟩,digest,other⟩ := members
  have visited : made sampleDigest sampleStart [reserveFirst,reserveSecond] =
      [(sampleStart,reserveFirst),(⟨reservedFloor,.null⟩,reserveSecond)] := by
    rw [made_cons first]
    rfl
  have wedging : after sampleDigest sampleStart [reserveFirst,reserveSecond] =
      ⟨twiceReservedFloor,.null⟩ := by
    rw [after_cons first,after_cons second]
    rfl
  have wedged : Wedged ⟨twiceReservedFloor,.null⟩ := ⟨isText_iff.mp reserved,open'⟩
  obtain ⟨_,next,done⟩ := commit_accepts sampleDigest_hex (sample_valid (by simp))
    (isText_iff.mp attested) digest
  have commits : step sampleDigest ⟨attestedFloor,sampleProof⟩ (commitFirst (repeated 13)) =
      (⟨next,sampleProof⟩,true) := step_ok (commitFirst _) done
  have recorded := (commitTokenFloor_ok done).2.2.attestation
  have never := @Wedged.never sampleDigest _ wedged
  refine ⟨sampleDigest_hex,sample_genesis,?_,?_,?_,?_,?_⟩
  · rw [visited]
    simp only [List.forall_mem_cons,List.not_mem_nil,false_imp_iff,implies_true,and_true]
    exact ⟨accepts_of first,accepts_of second⟩
  · rw [wedging]
    exact never
  · rw [wedging]
    rintro ⟨calls,_,visit,there,commits⟩
    exact absurd commits (by rw [never calls visit there]; exact Bool.false_ne_true)
  · rw [after_cons first,after_cons attests]
    exact accepts_of commits
  · rw [after_cons first,after_cons attests,after_cons commits]
    intro same
    replace same := recorded.symm.trans same
    rw [← same] at other
    exact absurd other (by decide)

end GjcRemote.GenesisEnvelope
