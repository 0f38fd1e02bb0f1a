import GjcRemote.SuccessorBundle

/-! What the validators of the successor records promise: every record is sealed, and says of
its operation what the records it was checked against say. -/
namespace GjcRemote.SuccessorEnvelope

open Utf16 StrictJson Record Envelope
open GenesisEnvelope (validateAuthorityReservation validateAuthorityCommitSnapshot
  validateAuthorityEpoch authorityReservationKeys authorityCommitKeys authorityEpochKeys)

theorem SR_nodup : (SR.map ofString).Nodup := names_nodup (by decide)

theorem AH_nodup : (AH.map ofString).Nodup := names_nodup (by decide)

theorem CL_nodup : (CL.map ofString).Nodup := names_nodup (by decide)

theorem F2_nodup : (F2.map ofString).Nodup := names_nodup (by decide)

theorem SB_nodup : (SB.map ofString).Nodup := names_nodup (by decide)

theorem SF_nodup : (SF.map ofString).Nodup := names_nodup (by decide)

theorem L2_nodup : (L2.map ofString).Nodup := names_nodup (by decide)

theorem RP2_nodup : (RP2.map ofString).Nodup := names_nodup (by decide)

theorem AK2_nodup : (AK2.map ofString).Nodup := names_nodup (by decide)

theorem SRC_nodup : (SRC.map ofString).Nodup := names_nodup (by decide)

theorem authorityReservationKeys_nodup : (authorityReservationKeys.map ofString).Nodup := names_nodup (by decide)

theorem authorityCommitKeys_nodup : (authorityCommitKeys.map ofString).Nodup := names_nodup (by decide)

theorem authorityEpochKeys_nodup : (authorityEpochKeys.map ofString).Nodup := names_nodup (by decide)

theorem managedHistoryMarkerKeys_nodup : (managedHistoryMarkerKeys.map ofString).Nodup := names_nodup (by decide)

theorem assertHash_own (asserted : assertHash sha256 record field = .ok ()) :
    ∃ digest, fingerprint sha256 record field = .ok digest ∧ get record field = .string digest := by
  rw [assertHash,except_unit_bind_ok] at asserted
  exact assertFingerprint_ok asserted.2

/-- Exact keys, shaped members and an own fingerprint seal a record. -/
theorem sealed_of (rest : List String)
    (keyed : assertKeys record keys = .ok ()) (fence : assertFence record = .ok ())
    (shaped : fields record schema) (hashed : assertHash sha256 record own = .ok ())
    (others : ∀ key ∈ rest, DistinctKeys (get record key))
    (cover : keys ⊆ ["version","fenceGeneration",own] ++ schema.map Prod.fst ++ rest) :
    Sealed sha256 keys own record := by
  rw [assertKeys,check_ok,Bool.and_eq_true] at keyed
  rw [assertFence,check_ok] at fence
  refine ⟨keyed.1,fun key listed => ?_,assertHash_own hashed⟩
  rcases List.mem_append.mp (cover listed) with known | other
  · rcases List.mem_append.mp known with first | shape
    · simp only [List.mem_cons,List.not_mem_nil,or_false] at first
      rcases first with rfl | rfl | rfl
      · exact isScalar_distinct (isNumber_scalar keyed.2)
      · exact isScalar_distinct (isGeneration_scalar fence)
      · obtain ⟨digest,_,text⟩ := assertHash_own hashed
        rw [text]
        exact isScalar_distinct rfl
    · exact isScalar_distinct (fields_scalar shaped shape)
  · exact others key other

theorem sortedUnique_distinct (scalar : ∀ {value}, valid value → isScalar value)
    (sorted : sortedUnique valid value) : DistinctKeys value := by
  cases value with
  | array items =>
    rw [sortedUnique,Bool.and_eq_true] at sorted
    rw [DistinctKeys,distinctItems_iff]
    exact fun item member => isScalar_distinct (scalar (List.all_eq_true.mp sorted.1 item member))
  | _ => simp [sortedUnique] at sorted

theorem isNext_scalar (is : isNext next previous) :
    isScalar next := by
  obtain ⟨_,_,known⟩ := isNext_iff.mp is
  cases next <;> simp_all [safeInteger,isScalar]

structure RequestShape (record : Value) : Prop where
  version : isNumber 1 (get record "version") = true
  kind : isText "authority-successor-request" (get record "kind") = true
  operation : isOneOf operations (get record "operation") = true
  targetState : isOneOf targetStates (get record "targetState") = true
  readerMode : isOneOf readerModes (get record "readerMode") = true
  recovery : isNullableHex (get record "mappingRecoveryTxFingerprint") = true
  identities : every record ["txId","rootGenesisTxId","idempotencyKey"] isOpaqueIdentity = true
  hexes : every record ["anchorFingerprint","actorPrincipalFingerprint","previousReceiptFingerprint",
    "previousTargetFingerprint","previousWrapperFingerprint","previousAttestationFingerprint",
    "candidateAttestationFingerprint","previousSnapshotFingerprint","candidateSnapshotFingerprint",
    "candidateTargetFingerprint"] isHex = true
  counts : every record ["previousRevision","previousAuthorityEpoch","previousTokenConfigGeneration",
    "previousMappingGeneration","candidateMappingGeneration"] isNonNegative = true
  positives : every record ["candidateRevision","candidateAuthorityEpoch",
    "candidateTokenConfigGeneration"] isGeneration = true
  sequence : isGeneration (get record "sequence") = true
  fences : every record ["previousFenceGeneration","candidateFenceGeneration"] isGeneration = true
  readers : every record readerFields isOpaqueIdentity = true ∨ every record readerFields isNull = true

section

variable (validated : validateAuthoritySuccessorRequest sha256 record authority predecessor = .ok ())
include validated

/-- What is asked of a request once its fields have their shape. -/
theorem validateAuthoritySuccessorRequest_rest :
    every record ["previousFenceGeneration","candidateFenceGeneration"] isGeneration ∧
      (every record readerFields isOpaqueIdentity ∨ every record readerFields isNull) ∧
      assertHash sha256 record "requestFingerprint" = .ok () := by
  simp only [validateAuthoritySuccessorRequest,checks_ok,ite_eq_iff',Bool.and_eq_true] at validated
  obtain ⟨_,_,_,given,absent⟩ := validated
  have fenced := (em _).elim (fun p => (given p).2) absent
  refine ⟨fenced.1.1,?_⟩
  rcases em (isText "tokens-attest" (get record "operation")) with token | mapping
  · obtain ⟨_,bound,unbound⟩ := fenced.2.1 token
    exact (em _).elim (fun p => ⟨.inl (bound p).1,(bound p).2⟩) fun p => ⟨.inr (unbound p).1.1,(unbound p).2⟩
  · obtain ⟨_,bound,unbound⟩ := fenced.2.2 mapping
    exact (em _).elim (fun p => ⟨.inl (bound p).1,(bound p).2⟩) fun p => ⟨.inr (unbound p).1.1,(unbound p).2⟩

theorem validateAuthoritySuccessorRequest_shape :
    hasExactKeys record SR ∧ RequestShape record := by
  obtain ⟨fences,readers,_⟩ := validateAuthoritySuccessorRequest_rest validated
  simp only [validateAuthoritySuccessorRequest,checks_ok,assertKeys,validTargetState,
    Bool.and_eq_true] at validated
  obtain ⟨_,⟨exact',version⟩,⟨⟨⟨⟨⟨⟨⟨⟨⟨⟨⟨kind,sequence⟩,identities⟩,operation⟩,hexes⟩,counts⟩,positives⟩,_⟩,
    _⟩,recovery⟩,target,_⟩,mode⟩,_⟩ := validated
  exact ⟨exact',version,kind,operation,target,mode,recovery,identities,hexes,counts,positives,sequence,
    fences,readers⟩

theorem request_sealed :
    Sealed sha256 SR "requestFingerprint" record := by
  obtain ⟨exact',shape⟩ := validateAuthoritySuccessorRequest_shape validated
  have own := assertHash_own (validateAuthoritySuccessorRequest_rest validated).2.2
  refine ⟨exact',fun key listed => isScalar_distinct ?_,own⟩
  have cover : key ∈ ["txId","rootGenesisTxId","idempotencyKey"] ∨
      key ∈ ["anchorFingerprint","actorPrincipalFingerprint","previousReceiptFingerprint",
        "previousTargetFingerprint","previousWrapperFingerprint","previousAttestationFingerprint",
        "candidateAttestationFingerprint","previousSnapshotFingerprint","candidateSnapshotFingerprint",
        "candidateTargetFingerprint"] ∨
      key ∈ ["previousRevision","previousAuthorityEpoch","previousTokenConfigGeneration",
        "previousMappingGeneration","candidateMappingGeneration"] ∨
      key ∈ ["candidateRevision","candidateAuthorityEpoch","candidateTokenConfigGeneration"] ∨
      key ∈ ["previousFenceGeneration","candidateFenceGeneration"] ∨ key ∈ readerFields ∨
      key ∈ ["version","kind","operation","targetState","readerMode","mappingRecoveryTxFingerprint",
        "sequence","requestFingerprint"] := by
    revert key
    decide
  rcases cover with known | known | known | known | known | known | known
  · exact isOpaqueIdentity_scalar (every_mem shape.identities known)
  · exact isHex_scalar (every_mem shape.hexes known)
  · exact isNonNegative_scalar (every_mem shape.counts known)
  · exact isGeneration_scalar (every_mem shape.positives known)
  · exact isGeneration_scalar (every_mem shape.fences known)
  · exact shape.readers.elim (fun all => isOpaqueIdentity_scalar (every_mem all known))
      fun all => isNull_scalar (every_mem all known)
  · simp only [List.mem_cons,List.not_mem_nil,or_false] at known
    rcases known with rfl | rfl | rfl | rfl | rfl | rfl | rfl | rfl
    · exact isNumber_scalar shape.version
    · exact isText_scalar shape.kind
    · exact isOneOf_scalar shape.operation
    · exact isOneOf_scalar shape.targetState
    · exact isOneOf_scalar shape.readerMode
    · exact isNullableHex_scalar shape.recovery
    · exact isGeneration_scalar shape.sequence
    · obtain ⟨_,_,text⟩ := own
      rw [text]
      rfl

end

theorem close_sealed (validated : validateAuthorityCloseProof sha256 record request authority = .ok ()) :
    Sealed sha256 CL "closeFingerprint" record := by
  simp only [validateAuthorityCloseProof,checks_ok,Bool.and_eq_true] at validated
  obtain ⟨_,fence,keyed,⟨⟨⟨⟨shaped,barrier⟩,mappings⟩,routes⟩,_⟩,_,_,hashed⟩ := validated
  refine sealed_of ["barrierGeneration","affectedMappingIds","affectedRouteFingerprints"]
    keyed fence shaped hashed ?_ (by decide)
  simp only [List.forall_mem_cons,List.not_mem_nil,false_imp_iff,implies_true,and_true]
  exact ⟨isScalar_distinct (isNext_scalar barrier),sortedUnique_distinct isOpaqueIdentity_scalar mappings,
    sortedUnique_distinct isHex_scalar routes⟩

theorem fence_sealed
    (validated : validateAuthoritySuccessorFence sha256 record request commit authority = .ok ()) :
    Sealed sha256 F2 "fenceBindingFingerprint" record := by
  simp only [validateAuthoritySuccessorFence,checks_ok] at validated
  obtain ⟨_,keyed,fence,shaped,_,_,hashed⟩ := validated
  exact sealed_of [] keyed fence shaped hashed (by simp) (by decide)

theorem baseline_sealed
    (validated : validateAuthoritySuccessorBaseline sha256 record request close fence reservation
      commit authority = .ok ()) : Sealed sha256 SB "baselineFingerprint" record := by
  simp only [validateAuthoritySuccessorBaseline,checks_ok,Bool.and_eq_true] at validated
  obtain ⟨_,fenced,keyed,⟨⟨shaped,_⟩,version⟩,_,_,_,_,_,_,_,_,_,_,_,hashed⟩ := validated
  refine sealed_of ["readerVersion"] keyed fenced shaped hashed ?_ (by decide)
  simp only [List.forall_mem_cons,List.not_mem_nil,false_imp_iff,implies_true,and_true]
  rw [Bool.or_eq_true] at version
  exact isScalar_distinct (version.elim isNull_scalar isNumber_scalar)

theorem finality_sealed
    (validated : validateAuthoritySuccessorFinality sha256 record request baseline reservation commit
      authorityEpoch authority = .ok ()) : Sealed sha256 SF "finalityFingerprint" record := by
  simp only [validateAuthoritySuccessorFinality,checks_ok] at validated
  obtain ⟨_,keyed,fence,shaped,_,_,_,_,_,_,_,hashed⟩ := validated
  exact sealed_of [] keyed fence shaped hashed (by simp) (by decide)

theorem lease_sealed
    (validated : validateAuthoritySuccessorLease sha256 record request fence authority = .ok ()) :
    Sealed sha256 L2 "leaseBindingFingerprint" record := by
  simp only [validateAuthoritySuccessorLease,checks_ok] at validated
  obtain ⟨_,keyed,fenced,shaped,_,validated⟩ := validated
  rw [except_bind_ok] at validated
  obtain ⟨_,_,validated⟩ := validated
  simp only [except_unit_bind_ok] at validated
  obtain ⟨_,_,_,hashed⟩ := validated
  exact sealed_of [] keyed fenced shaped hashed (by simp) (by decide)

theorem projection_sealed
    (validated : validateAuthoritySuccessorReaderProjection sha256 record request finality lease
      authority = .ok ()) : Sealed sha256 RP2 "readerProjectionFingerprint" record := by
  simp only [validateAuthoritySuccessorReaderProjection,checks_ok] at validated
  obtain ⟨_,keyed,fence,shaped,_,_,_,hashed⟩ := validated
  exact sealed_of [] keyed fence shaped hashed (by simp) (by decide)

theorem ack_sealed
    (validated : validateAuthoritySuccessorAck sha256 record request finality projection authority =
      .ok ()) : Sealed sha256 AK2 "ackFingerprint" record := by
  simp only [validateAuthoritySuccessorAck,checks_ok] at validated
  obtain ⟨_,keyed,fence,shaped,_,_,_,hashed⟩ := validated
  exact sealed_of [] keyed fence shaped hashed (by simp) (by decide)

theorem receipt_sealed {ack : Value}
    (validated : validateAuthoritySuccessorReceipt sha256 record request finality lease projection ack
      authority = .ok ()) : Sealed sha256 SRC "receiptFingerprint" record := by
  simp only [validateAuthoritySuccessorReceipt,checks_ok] at validated
  obtain ⟨_,keyed,fence,shaped,_,_,_,_,hashed⟩ := validated
  exact sealed_of [] keyed fence shaped hashed (by simp) (by decide)

theorem head_sealed (validated : validateAuthoritySuccessorHead sha256 record request authority = .ok ()) :
    Sealed sha256 AH "headFingerprint" record := by
  simp only [validateAuthoritySuccessorHead,checks_ok,assertKeys,assertFence,Bool.and_eq_true] at validated
  obtain ⟨_,⟨exact',version⟩,fence,⟨⟨⟨⟨⟨⟨⟨⟨⟨kind,anchor⟩,sequence⟩,identities⟩,operation⟩,phase⟩,request⟩,
    evidence⟩,receipt⟩,route⟩,_,_,_,hashed⟩ := validated
  have own := assertHash_own hashed
  refine ⟨exact',fun key listed => isScalar_distinct ?_,own⟩
  have cover : key ∈ ["txId","rootGenesisTxId"] ∨
      key ∈ evidenceFields ++ ["previousHeadFingerprint"] ∨
      key ∈ ["version","fenceGeneration","kind","anchorFingerprint","sequence","operation","phase",
        "requestFingerprint","previousReceiptFingerprint","routeDisposition","headFingerprint"] := by
    revert key
    decide
  rcases cover with known | known | known
  · exact isOpaqueIdentity_scalar (every_mem identities known)
  · exact isNullableHex_scalar (every_mem evidence known)
  · simp only [List.mem_cons,List.not_mem_nil,or_false] at known
    rcases known with rfl | rfl | rfl | rfl | rfl | rfl | rfl | rfl | rfl | rfl | rfl
    · exact isNumber_scalar version
    · exact isGeneration_scalar fence
    · exact isText_scalar kind
    · exact isHex_scalar anchor
    · exact isGeneration_scalar sequence
    · exact isOneOf_scalar operation
    · exact isOneOf_scalar phase
    · exact isHex_scalar request
    · exact isHex_scalar receipt
    · exact isText_scalar route
    · obtain ⟨_,_,text⟩ := own
      rw [text]
      rfl

theorem reservation_sealed (validated : validateAuthorityReservation sha256 record request = .ok ()) :
    Sealed sha256 authorityReservationKeys "reservationFingerprint" record := by
  simp only [validateAuthorityReservation,checks_ok,GenesisEnvelope.assertFence,Bool.and_eq_true] at validated
  obtain ⟨⟨⟨⟨⟨⟨⟨⟨⟨⟨exact',version⟩,kind⟩,anchor⟩,txId⟩,epoch⟩,generation⟩,candidate⟩,previous⟩,own⟩,fence,
    _,_,hashed⟩ := validated
  refine ⟨exact',?_,assertFingerprint_ok hashed⟩
  simp only [authorityReservationKeys,List.forall_mem_cons,List.not_mem_nil,false_imp_iff,implies_true,and_true]
  exact ⟨isScalar_distinct (isNumber_scalar version),isScalar_distinct (isText_scalar kind),
    isScalar_distinct (isHex_scalar anchor),isScalar_distinct (isGeneration_scalar fence),
    isScalar_distinct (isOpaqueIdentity_scalar txId),isScalar_distinct (isGeneration_scalar epoch),
    isScalar_distinct (isGeneration_scalar generation),isScalar_distinct (isHex_scalar candidate),
    isScalar_distinct (isNullableHex_scalar previous),isScalar_distinct (isHex_scalar own)⟩

theorem commit_sealed (validated : validateAuthorityCommitSnapshot sha256 record reservation request = .ok ()) :
    Sealed sha256 authorityCommitKeys "authorityCommitSnapshotFingerprint" record := by
  simp only [validateAuthorityCommitSnapshot,checks_ok,GenesisEnvelope.assertFence,
    Bool.and_eq_true] at validated
  obtain ⟨⟨⟨⟨⟨⟨⟨⟨⟨⟨⟨exact',version⟩,kind⟩,anchor⟩,txId⟩,epoch⟩,generation⟩,candidate⟩,reserved⟩,previous⟩,
    own⟩,fence,_,validated⟩ := validated
  have hashed : assertFingerprint sha256 record "authorityCommitSnapshotFingerprint"
      (GenesisEnvelope.fail "authority commit fingerprint") = .ok () := by
    simp only [ite_eq_iff',except_unit_bind_ok] at validated
    exact (em _).elim (fun p => (validated.1 p).2.2) fun p => (validated.2 p).2.2.2
  refine ⟨exact',?_,assertFingerprint_ok hashed⟩
  simp only [authorityCommitKeys,List.forall_mem_cons,List.not_mem_nil,false_imp_iff,implies_true,and_true]
  exact ⟨isScalar_distinct (isNumber_scalar version),isScalar_distinct (isText_scalar kind),
    isScalar_distinct (isHex_scalar anchor),isScalar_distinct (isGeneration_scalar fence),
    isScalar_distinct (isOpaqueIdentity_scalar txId),isScalar_distinct (isGeneration_scalar epoch),
    isScalar_distinct (isGeneration_scalar generation),isScalar_distinct (isHex_scalar candidate),
    isScalar_distinct (isHex_scalar reserved),isScalar_distinct (isNullableHex_scalar previous),
    isScalar_distinct (isHex_scalar own)⟩

/-- Whichever of the optional relations of an epoch are checked, its hash is. -/
theorem validateAuthorityEpoch_hashed
    (validated : validateAuthorityEpoch sha256 record request reservation commit = .ok ()) :
    assertFingerprint sha256 record "authorityEpochFingerprint"
      (GenesisEnvelope.fail "authority epoch fingerprint") = .ok () := by
  simp only [validateAuthorityEpoch,except_unit_bind_ok,ite_eq_iff'] at validated
  obtain ⟨_,_,_,reserved,unreserved⟩ := validated
  rcases em ((!isNull reservation)) with p | p
  · obtain ⟨_,_,committed,uncommitted⟩ := reserved p
    exact (em _).elim (fun q => (committed q).2.2.2) fun q => (uncommitted q).2
  · obtain ⟨committed,uncommitted⟩ := unreserved p
    exact (em _).elim (fun q => (committed q).2.2.2) fun q => (uncommitted q).2

theorem epoch_sealed (validated : validateAuthorityEpoch sha256 record request reservation commit = .ok ()) :
    Sealed sha256 authorityEpochKeys "authorityEpochFingerprint" record := by
  have hashed := validateAuthorityEpoch_hashed validated
  simp only [validateAuthorityEpoch,checks_ok,GenesisEnvelope.assertFence,Bool.and_eq_true] at validated
  obtain ⟨⟨⟨⟨⟨⟨⟨⟨⟨exact',version⟩,kind⟩,anchor⟩,epoch⟩,reserved⟩,committed⟩,previous⟩,own⟩,fence,_⟩ :=
    validated
  refine ⟨exact',?_,assertFingerprint_ok hashed⟩
  simp only [authorityEpochKeys,List.forall_mem_cons,List.not_mem_nil,false_imp_iff,implies_true,and_true]
  exact ⟨isScalar_distinct (isNumber_scalar version),isScalar_distinct (isText_scalar kind),
    isScalar_distinct (isHex_scalar anchor),isScalar_distinct (isGeneration_scalar fence),
    isScalar_distinct (isGeneration_scalar epoch),
    isScalar_distinct (isOpaqueIdentity_scalar reserved),
    isScalar_distinct (isNullableOpaque_scalar committed),
    isScalar_distinct (isNullableHex_scalar previous),isScalar_distinct (isHex_scalar own)⟩

theorem marker_sealed
    (validated : validateManagedHistoryMarker sha256 record anchorFingerprint expectedSequence =
      .ok ()) : Sealed sha256 managedHistoryMarkerKeys "markerFingerprint" record := by
  simp only [validateManagedHistoryMarker,checks_ok,assertKeys,Bool.and_eq_true] at validated
  obtain ⟨⟨exact',version⟩,⟨⟨⟨⟨kind,anchor⟩,sequence⟩,fence⟩,previous⟩,_,_,hashed⟩ := validated
  have own := assertHash_own hashed
  refine ⟨exact',?_,own⟩
  have scalar : isScalar (get record "previousMarkerFingerprint") := by
    split at previous
    · exact isNull_scalar previous
    · exact isHex_scalar previous
  obtain ⟨_,_,text⟩ := own
  simp only [managedHistoryMarkerKeys,List.forall_mem_cons,List.not_mem_nil,false_imp_iff,implies_true,and_true]
  exact ⟨isScalar_distinct (isNumber_scalar version),isScalar_distinct (isText_scalar kind),
    isScalar_distinct (isHex_scalar anchor),isScalar_distinct (isGeneration_scalar sequence),
    isScalar_distinct (isGeneration_scalar fence),isScalar_distinct scalar,
    isScalar_distinct (text ▸ rfl)⟩

end GjcRemote.SuccessorEnvelope
