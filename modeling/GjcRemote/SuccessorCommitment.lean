import GjcRemote.SuccessorRecords
import GjcRemote.SuccessorHeadChain

/-! What the head of a successor operation commits its bundle to. A record is committed when
its fingerprint is recomputed and reaches the head through the records in between, or when
the records it was checked against leave it no choice. -/
namespace GjcRemote.SuccessorEnvelope

open Utf16 StrictJson Record Envelope
open Bool hiding and_assoc and_true or_false
open GenesisEnvelope (validateAuthorityReservation validateAuthorityCommitSnapshot
  validateAuthorityEpoch authorityReservationKeys authorityCommitKeys authorityEpochKeys epochRelation)

set_option maxRecDepth 100000

variable {sha256 : List UInt8 → Units}

/-- The record of a bundle under a name, null when it has none. -/
def recordOf (bundle : Value) (name : String) : Value := memberOr bundle .null name

/-- The evidence that is compared with its record in every phase. -/
def tiedFields : List (String × String) :=
  [("closeFingerprint","close"),("baselineFingerprint","baseline"),("finalityFingerprint","finality"),
    ("receiptFingerprint","receipt")]

/-- Every record of the bundle has passed its validator with the records it belongs to. -/
structure AcceptedBundle (sha256 : List UInt8 → Units) (authority bundle : Value) : Prop where
  request : validateAuthoritySuccessorRequest sha256 (get bundle "request") authority .null = .ok ()
  head : validateAuthoritySuccessorHead sha256 (get bundle "head") (get bundle "request") authority = .ok ()
  close : recordOf bundle "close" ≠ .null →
    validateAuthorityCloseProof sha256 (recordOf bundle "close") (get bundle "request") authority = .ok ()
  fence : recordOf bundle "fence" ≠ .null →
    validateAuthoritySuccessorFence sha256 (recordOf bundle "fence") (get bundle "request")
      (recordOf bundle "commit") authority = .ok ()
  baseline : recordOf bundle "baseline" ≠ .null →
    validateAuthoritySuccessorBaseline sha256 (recordOf bundle "baseline") (get bundle "request")
      (recordOf bundle "close") (recordOf bundle "fence") (recordOf bundle "reservation")
      (recordOf bundle "commit") authority = .ok ()
  finality : recordOf bundle "finality" ≠ .null →
    validateAuthoritySuccessorFinality sha256 (recordOf bundle "finality") (get bundle "request")
      (recordOf bundle "baseline") (recordOf bundle "reservation") (recordOf bundle "commit")
      (recordOf bundle "authorityEpoch") authority = .ok ()
  lease : recordOf bundle "lease" ≠ .null →
    validateAuthoritySuccessorLease sha256 (recordOf bundle "lease") (get bundle "request")
      (recordOf bundle "fence") authority = .ok () ∧ recordOf bundle "fence" ≠ .null
  projection : recordOf bundle "projection" ≠ .null →
    validateAuthoritySuccessorReaderProjection sha256 (recordOf bundle "projection")
      (get bundle "request") (recordOf bundle "finality") (recordOf bundle "lease") authority = .ok () ∧
      recordOf bundle "lease" ≠ .null ∧ recordOf bundle "finality" ≠ .null
  ack : recordOf bundle "ack" ≠ .null →
    validateAuthoritySuccessorAck sha256 (recordOf bundle "ack") (get bundle "request")
      (recordOf bundle "finality") (recordOf bundle "projection") authority = .ok () ∧
      recordOf bundle "projection" ≠ .null ∧ recordOf bundle "finality" ≠ .null
  receipt : recordOf bundle "receipt" ≠ .null →
    validateAuthoritySuccessorReceipt sha256 (recordOf bundle "receipt") (get bundle "request")
      (recordOf bundle "finality") (recordOf bundle "lease") (recordOf bundle "projection")
      (recordOf bundle "ack") authority = .ok ()
  committed : isReplaced (get bundle "head") = true →
    validateAuthorityReservation sha256 (recordOf bundle "reservation") (get bundle "request") = .ok () ∧
    validateAuthorityCommitSnapshot sha256 (recordOf bundle "commit") (recordOf bundle "reservation")
      (get bundle "request") = .ok ()
  epoch : recordOf bundle "finality" ≠ .null →
    validateAuthorityEpoch sha256 (recordOf bundle "authorityEpoch") (get bundle "request")
      (recordOf bundle "reservation") (recordOf bundle "commit") = .ok ()
  archive : assertEpochArchive sha256 (recordOf bundle "authorityEpoch")
    (recordOf bundle "authorityEpochArchive") (get bundle "request") (recordOf bundle "reservation")
    (recordOf bundle "commit")
    (!isNull (recordOf bundle "finality") || isReplaced (get bundle "head")) = .ok ()
  tied : ∀ pair ∈ tiedFields, strictEqual (get (get bundle "head") pair.1)
    (fingerprintOr (recordOf bundle pair.2) pair.1) = true
  marker : validateManagedHistoryMarker sha256 (recordOf bundle "historyMarker")
    (get (get bundle "head") "anchorFingerprint")
    (if isText "terminal" (get (get bundle "head") "phase") then get (get bundle "head") "sequence"
      else validateAuthoritySuccessorBundle.previousSequence (get bundle "head")) = .ok ()
  proof : isReplaced (get bundle "head") = true →
    isTruthy (recordOf bundle "publicationK") = true ∧
    isTruthy (recordOf bundle "publicationY") = true ∧
    relate (recordOf bundle "commit") (get bundle "head") [("authorityCommitSnapshotFingerprint",
      "authorityCommitSnapshotFingerprint")] = true ∧
    relate (recordOf bundle "publicationK") (get bundle "head")
      [("publication-kFingerprint","publicationKFingerprint")] = true ∧
    relate (recordOf bundle "publicationY") (get bundle "head")
      [("publication-yFingerprint","publicationYFingerprint")] = true
  terminal : isText "terminal" (get (get bundle "head") "phase") = true →
    relate (recordOf bundle "historyMarker") (get bundle "head")
      [("markerFingerprint","historyMarkerFingerprint")] = true

theorem not_isNull : (!isNull value) ↔ value ≠ .null := by
  rw [not_eq_true',← not_eq_true,isNull_iff]

variable {bundle : Value}

theorem validateAuthoritySuccessorBundle_ok
    (accepted : validateAuthoritySuccessorBundle sha256 bundle authority = .ok ()) :
    AcceptedBundle sha256 authority bundle := by
  simp only [validateAuthoritySuccessorBundle,checks_ok,whenever_ok,forM_ok,not_isNull] at accepted
  obtain ⟨request,head,close,fence,baseline,finality,lease,projection,ack,_,receipt,_,committed,epoch,
    archive,tied,_,marker,_,_,_,_,_,leased,projected,acked,_,_,proof,_,_,terminal⟩ := accepted
  simp only [or_eq_true,isNull_iff,not_isNull,List.all_cons,List.all_nil,Bool.and_true,
    and_eq_true,or_iff_not_imp_left] at leased projected acked
  simp only [or_eq_true,and_eq_true,not_eq_true',or_iff_not_imp_left,not_eq_false] at proof terminal
  refine ⟨request,head,close,fence,baseline,finality,fun there => ⟨lease there,leased there⟩,
    fun there => ⟨projection there,(projected there).2⟩,fun there => ⟨ack there,acked there⟩,receipt,
    fun there => (committed there).2,fun there => (epoch there).2,archive,tied,marker,fun there => ?_,
    fun there => ?_⟩
  · obtain ⟨⟨⟨⟨⟨_,commit⟩,k⟩,named⟩,y⟩,named'⟩ := proof there
    exact ⟨k,y,commit,named,named'⟩
  · obtain ⟨⟨_,related⟩,_⟩ := terminal there
    simp only [relate,List.all_cons,List.all_nil,Bool.and_true,and_eq_true] at related ⊢
    exact related.2.1

section

variable (validated : validateAuthoritySuccessorHead sha256 head request authority = .ok ())
include validated

theorem head_names_request (given : isTruthy request) :
    Same (get head "requestFingerprint") (get request "requestFingerprint") := by
  simp only [validateAuthoritySuccessorHead,checks_ok,given,Bool.not_true,Bool.false_or] at validated
  obtain ⟨_,_,_,_,_,_,related,_⟩ := validated
  exact relate_same related (by simp)

/-- The evidence a head has from replacement on. -/
theorem head_evidence (replaced : isReplaced head) :
    ∀ field ∈ evidenceFields.take 5, get head field ≠ .null := by
  intro field listed
  simp only [validateAuthoritySuccessorHead,checks_ok] at validated
  obtain ⟨_,_,_,_,required',_⟩ := validated
  have level : (required (phaseLevel head)).take 5 = evidenceFields.take 5 := by
    simp only [isReplaced,isOneOf,List.any_cons,List.any_nil,Bool.or_false,or_eq_true] at replaced
    rcases replaced with phase | phase | phase <;>
    · rw [phaseLevel,isText_iff.mp phase]
      decide
  have present := every_mem required' (List.mem_of_mem_take (level ▸ listed))
  exact not_isNull.mp present

end

theorem baseline_repeats
    (validated : validateAuthoritySuccessorBaseline sha256 record request close fence reservation
      commit authority = .ok ()) :
    (isTruthy fence → agree record fence ["fenceBindingFingerprint"]) ∧
    (isTruthy reservation → relate record reservation
      [("authorityReservationFingerprint","reservationFingerprint")]) := by
  simp only [validateAuthoritySuccessorBaseline,checks_ok] at validated
  obtain ⟨_,_,_,_,_,_,_,_,_,fenced,reserved,_⟩ := validated
  refine ⟨fun given => by simpa only [given,if_true] using fenced,fun given => ?_⟩
  simpa only [whenGiven,given,Bool.not_true,Bool.false_or] using reserved

theorem lease_repeats (given : isTruthy fence)
    (validated : validateAuthoritySuccessorLease sha256 record request fence authority = .ok ()) :
    isNumber 1 (get record "version") ∧ fields record leaseFields ∧ relate record request
        (("previousLeaseBindingFingerprint","previousReceiptFingerprint") :: requestReader) ∧
      agree record fence ["fenceBindingFingerprint"] := by
  simp only [validateAuthoritySuccessorLease,authoritySuccessorPreviousLeaseBindingFingerprint,assertKeys,
    checks_ok,and_eq_true] at validated
  obtain ⟨_,⟨_,version⟩,_,shaped,object,validated⟩ := validated
  rw [except_bind_ok] at validated
  obtain ⟨previous,found,validated⟩ := validated
  rw [except_unit_bind_ok] at found
  obtain rfl := Except.ok.inj found.2
  simp only [checks_ok,whenGiven,object,given,Bool.not_true,Bool.false_or,and_eq_true] at validated
  obtain ⟨first,⟨_,related⟩,fenced,_⟩ := validated
  refine ⟨version,shaped,?_,?_⟩
  · rw [relate,List.all_cons,and_eq_true]
    exact ⟨first,related⟩
  · simp only [agree,List.all_cons,and_eq_true] at fenced ⊢
    exact ⟨fenced.2.2.2.2.2.2.2.1,rfl⟩

theorem projection_repeats (bound : isTruthy request) (final : isTruthy finality) (leased : isTruthy lease)
    (validated : validateAuthoritySuccessorReaderProjection sha256 record request finality lease
      authority = .ok ()) :
    isNumber 1 (get record "version") ∧ fields record projectionFields ∧
      relate record request (requestReader ++ [("anchorFingerprint","anchorFingerprint"),
        ("readerNonce","readerNonce")]) ∧
      agree record finality projectionFinality ∧ agree record lease projectionLease := by
  simp only [validateAuthoritySuccessorReaderProjection,assertKeys,checks_ok,whenGiven,bound,final,leased,
    Bool.not_true,Bool.false_or,and_eq_true] at validated
  obtain ⟨_,⟨_,version⟩,_,shaped,⟨_,request'⟩,finality',lease',_⟩ := validated
  exact ⟨version,shaped,request',finality',lease'⟩

theorem ack_repeats (projected : isTruthy projection)
    (validated : validateAuthoritySuccessorAck sha256 record request finality projection authority = .ok ()) :
    isNumber 1 (get record "version") ∧ fields record ackFields ∧ agree record projection ackProjection := by
  simp only [validateAuthoritySuccessorAck,assertKeys,checks_ok,whenGiven,projected,Bool.not_true,Bool.false_or,
    and_eq_true] at validated
  obtain ⟨_,⟨_,version⟩,_,shaped,_,_,projection',_⟩ := validated
  exact ⟨version,shaped,projection'⟩

theorem epoch_repeats (bound : isTruthy request)
    (validated : validateAuthorityEpoch sha256 record request reservation commit = .ok ()) :
    isNumber 1 (get record "version") ∧ isText "authority-epoch" (get record "kind") ∧
      relate record request [("anchorFingerprint","anchorFingerprint"),
        ("fenceGeneration","candidateFenceGeneration"),("epoch","candidateAuthorityEpoch"),
        ("reservationTxId","txId"),("commitTxId","txId"),
        ("previousAuthorityCommitSnapshotFingerprint","previousReceiptFingerprint")] := by
  have given : isNull request = false := by cases request <;> simp_all [isTruthy,isNull]
  simp only [validateAuthorityEpoch,checks_ok,given,Bool.false_or,and_eq_true] at validated
  obtain ⟨⟨⟨⟨⟨⟨⟨⟨⟨_,version⟩,kind⟩,_⟩,_⟩,_⟩,_⟩,_⟩,_⟩,_,related,_⟩ := validated
  exact ⟨version,kind,related⟩

structure Behind (sha256 : List UInt8 → Units) (authority authority' left right : Value) : Prop where
  injective : InjectiveOnCanonical sha256
  first : AcceptedBundle sha256 authority left
  second : AcceptedBundle sha256 authority' right
  heads : get (get left "head") "headFingerprint" = get (get right "head") "headFingerprint"

def Alike (keys : List String) (v w : Value) : Prop := ∀ key ∈ keys, Same (get v key) (get w key)

variable {field : String}

theorem alike_of_same (distinct : (keys.map ofString).Nodup) (left : Sealed sha256 keys field v)
    (right : Sealed sha256 keys field w) (same : Same v w) : Alike keys v w := fun _ listed =>
  get_same (distinctKeys_of_members left.exact distinct left.members)
    (distinctKeys_of_members right.exact distinct right.members) same (hasOwn_of_exact left.exact listed)

theorem isOneOf_same (same : Same v w) (texts : List String) :
    isOneOf texts v = isOneOf texts w := by
  cases same <;> rfl

theorem fingerprintOr_sealed
    (sealed' : Sealed sha256 keys field record) : fingerprintOr record field = get record field := by
  obtain ⟨_,_,text⟩ := sealed'.own
  rw [fingerprintOr,text]
  rfl

theorem recordOf_given (given : isTruthy (get bundle name)) :
    recordOf bundle name = get bundle name := by
  rw [recordOf,memberOr]
  split
  · next absent => simp [absent,isTruthy] at given
  · rfl

theorem AcceptedBundle.tied_named (accepted : AcceptedBundle sha256 authority bundle)
    (pair : (field,name) ∈ tiedFields) (sealed' : Sealed sha256 keys field (recordOf bundle name)) :
    Same (get (get bundle "head") field) (get (recordOf bundle name) field) := by
  have equal := strictEqual_same (accepted.tied _ pair)
  rwa [fingerprintOr_sealed sealed'] at equal

theorem AcceptedBundle.baseline_there (accepted : AcceptedBundle sha256 authority bundle)
    (replaced : isReplaced (get bundle "head")) : recordOf bundle "baseline" ≠ .null := by
  intro absent
  have named := head_evidence accepted.head replaced "baselineFingerprint" (by decide)
  have equal := strictEqual_same (accepted.tied ("baselineFingerprint","baseline") (by simp [tiedFields]))
  rw [absent] at equal
  exact named (same_null equal)

section Pair

variable {authority authority' left right : Value}

section

variable (behind : Behind sha256 authority authority' left right)
include behind

theorem Behind.head :
    Alike AH (get left "head") (get right "head") := fun _ listed =>
  (head_sealed behind.first.head).same behind.injective AH_nodup
    (head_sealed behind.second.head) behind.heads listed

theorem Behind.request :
    Alike SR (get left "request") (get right "request") := fun _ listed =>
  (request_sealed behind.first.request).alike behind.injective SR_nodup (request_sealed behind.second.request)
    (head_names_request behind.first.head (request_sealed behind.first.request).truthy)
    (head_names_request behind.second.head (request_sealed behind.second.request).truthy)
    (behind.head _ (by decide)) listed

theorem Behind.replaced (replaced : isReplaced (get left "head")) : isReplaced (get right "head") := by
  rw [isReplaced] at replaced ⊢
  rwa [← isOneOf_same (behind.head "phase" (by decide))]

/-- The records that a head names itself in every phase. -/
theorem Behind.tied (distinct : (keys.map ofString).Nodup) (known : field ∈ AH)
    (pair : (field,name) ∈ tiedFields) (sealedL : Sealed sha256 keys field (recordOf left name))
    (sealedR : Sealed sha256 keys field (recordOf right name)) :
    Alike keys (recordOf left name) (recordOf right name) := fun _ listed =>
  sealedL.alike behind.injective distinct sealedR (behind.first.tied_named pair sealedL)
    (behind.second.tied_named pair sealedR) (behind.head field known) listed

theorem Behind.baseline
    (there : recordOf left "baseline" ≠ .null) (there' : recordOf right "baseline" ≠ .null) :
    Alike SB (recordOf left "baseline") (recordOf right "baseline") :=
  behind.tied SB_nodup (by decide) (by simp [tiedFields])
    (baseline_sealed (behind.first.baseline there)) (baseline_sealed (behind.second.baseline there'))

theorem Behind.finality
    (there : recordOf left "finality" ≠ .null) (there' : recordOf right "finality" ≠ .null) :
    Alike SF (recordOf left "finality") (recordOf right "finality") :=
  behind.tied SF_nodup (by decide) (by simp [tiedFields])
    (finality_sealed (behind.first.finality there)) (finality_sealed (behind.second.finality there'))

/-- A fence is named by the baseline. -/
theorem Behind.fence (replaced : isReplaced (get left "head")) (there : recordOf left "fence" ≠ .null)
    (there' : recordOf right "fence" ≠ .null) :
    Alike F2 (recordOf left "fence") (recordOf right "fence") := fun _ listed => by
  have sealedL := fence_sealed (behind.first.fence there)
  have sealedR := fence_sealed (behind.second.fence there')
  have baseL := behind.first.baseline_there replaced
  have baseR := behind.second.baseline_there (behind.replaced replaced)
  have namedL := (baseline_repeats (behind.first.baseline baseL)).1 sealedL.truthy
  have namedR := (baseline_repeats (behind.second.baseline baseR)).1 sealedR.truthy
  exact sealedL.alike behind.injective F2_nodup sealedR
    (agree_same namedL (List.mem_singleton_self _)) (agree_same namedR (List.mem_singleton_self _))
    (behind.baseline baseL baseR "fenceBindingFingerprint" (by decide)) listed

/-- So is the reservation. -/
theorem Behind.reservation (replaced : isReplaced (get left "head")) :
    Alike authorityReservationKeys (recordOf left "reservation") (recordOf right "reservation") :=
    fun _ listed => by
  have sealedL := reservation_sealed (behind.first.committed replaced).1
  have sealedR := reservation_sealed (behind.second.committed (behind.replaced replaced)).1
  have baseL := behind.first.baseline_there replaced
  have baseR := behind.second.baseline_there (behind.replaced replaced)
  have namedL := (baseline_repeats (behind.first.baseline baseL)).2 sealedL.truthy
  have namedR := (baseline_repeats (behind.second.baseline baseR)).2 sealedR.truthy
  exact sealedL.alike behind.injective authorityReservationKeys_nodup sealedR
    (relate_same namedL (List.mem_singleton_self _)) (relate_same namedR (List.mem_singleton_self _))
    (behind.baseline baseL baseR "authorityReservationFingerprint" (by decide)) listed

end

/-- The head names the commit from replacement on. -/
theorem Behind.commit (behind : Behind sha256 authority authority' left right)
    (replaced : isReplaced (get left "head") = true) :
    Alike authorityCommitKeys (recordOf left "commit") (recordOf right "commit") := fun _ listed =>
  have sealedL := commit_sealed (behind.first.committed replaced).2
  have sealedR := commit_sealed (behind.second.committed (behind.replaced replaced)).2
  have namedL := (behind.first.proof replaced).2.2.1
  have namedR := (behind.second.proof (behind.replaced replaced)).2.2.1
  sealedL.alike behind.injective authorityCommitKeys_nodup sealedR
    (relate_same namedL (List.mem_singleton_self _)).symm
    (relate_same namedR (List.mem_singleton_self _)).symm
    (behind.head "authorityCommitSnapshotFingerprint" (by decide)) listed

/-- The archived epoch, like every epoch checked against the request, is determined by it. -/
theorem Behind.epochs (behind : Behind sha256 authority authority' left right)
    {epoch epoch' reservation commit reservation' commit' : Value}
    (validL : validateAuthorityEpoch sha256 epoch (get left "request") reservation commit = .ok ())
    (validR : validateAuthorityEpoch sha256 epoch' (get right "request") reservation' commit' = .ok ()) :
    Same epoch epoch' := by
  obtain ⟨versionL,kindL,repeatsL⟩ := epoch_repeats (request_sealed behind.first.request).truthy validL
  obtain ⟨versionR,kindR,repeatsR⟩ := epoch_repeats (request_sealed behind.second.request).truthy validR
  refine Sealed.same_of_others authorityEpochKeys_nodup (epoch_sealed validL) (epoch_sealed validR)
    fun key listed ne => ?_
  have cover : key = "version" ∨ key = "kind" ∨ key ∈ ["anchorFingerprint","fenceGeneration","epoch",
      "reservationTxId","commitTxId","previousAuthorityCommitSnapshotFingerprint"] := by
    revert key
    decide
  rcases cover with rfl | rfl | repeated
  · exact Shape.fixed_same (rfl : (Shape.number 1).fixed) versionL versionR
  · exact Shape.fixed_same (rfl : (Shape.text "authority-epoch").fixed) kindL kindR
  · exact relate_alike repeatsL repeatsR behind.request (by decide) repeated

/-- The live epoch has the canonical bytes of the archived one. -/
theorem archived_same (injective : InjectiveOnCanonical sha256) (distinct : DistinctKeys epoch) (there : epoch ≠ .null)
    (asserted : assertEpochArchive sha256 epoch archive request reservation commit true = .ok ()) :
    validateAuthorityEpoch sha256 archive request reservation commit = .ok () ∧ Same archive epoch := by
  have live : isNull epoch = false := by rwa [← not_eq_true,isNull_iff]
  rw [assertEpochArchive,if_neg (by simp [live])] at asserted
  split at asserted
  · simp [check] at asserted
  · rw [except_unit_bind_ok] at asserted
    obtain ⟨valid,asserted⟩ := asserted
    simp only [canonicalJsonHash,except_bind_ok,check_ok,beq_iff_eq] at asserted
    obtain ⟨archived,⟨bytes,encoded,hashed⟩,found,⟨bytes',encoded',hashed'⟩,equal⟩ := asserted
    have collide : sha256 bytes = sha256 bytes' := by
      rw [Except.ok.inj hashed,Except.ok.inj hashed',equal]
    have sameBytes := injective _ _ _ _ encoded encoded' collide
    subst sameBytes
    have sealed' := epoch_sealed valid
    have plain := distinctKeys_of_members sealed'.exact authorityEpochKeys_nodup sealed'.members
    exact ⟨valid,same_of_same_bytes ⟨_,plain⟩ ⟨_,distinct⟩ encoded encoded'⟩

section

variable (behind : Behind sha256 authority authority' left right)
include behind

theorem Behind.epoch (plainL : DistinctKeys (recordOf left "authorityEpoch"))
    (plainR : DistinctKeys (recordOf right "authorityEpoch"))
    (replaced : isReplaced (get left "head")) (there : recordOf left "authorityEpoch" ≠ .null)
    (there' : recordOf right "authorityEpoch" ≠ .null) :
    Same (recordOf left "authorityEpoch") (recordOf right "authorityEpoch") := by
  have archiveL := behind.first.archive
  have archiveR := behind.second.archive
  rw [replaced,Bool.or_true] at archiveL
  rw [behind.replaced replaced,Bool.or_true] at archiveR
  obtain ⟨validL,sameL⟩ := archived_same behind.injective plainL there archiveL
  obtain ⟨validR,sameR⟩ := archived_same behind.injective plainR there' archiveR
  exact sameL.symm.trans ((behind.epochs validL validR).trans sameR)

/-- A lease repeats the request and the fence. -/
theorem Behind.lease (replaced : isReplaced (get left "head")) (there : recordOf left "lease" ≠ .null)
    (there' : recordOf right "lease" ≠ .null) :
    Same (recordOf left "lease") (recordOf right "lease") := by
  obtain ⟨validL,fenceL⟩ := behind.first.lease there
  obtain ⟨validR,fenceR⟩ := behind.second.lease there'
  have fences := behind.fence replaced fenceL fenceR
  obtain ⟨versionL,shapedL,requestL,namedL⟩ :=
    lease_repeats (fence_sealed (behind.first.fence fenceL)).truthy validL
  obtain ⟨versionR,shapedR,requestR,namedR⟩ :=
    lease_repeats (fence_sealed (behind.second.fence fenceR)).truthy validR
  refine Sealed.same_of_others L2_nodup (lease_sealed validL) (lease_sealed validR) fun key listed ne => ?_
  have cover : key = "version" ∨ key ∈ (leaseFields.filter fun e => e.2.fixed).map Prod.fst ∨
      key ∈ (("previousLeaseBindingFingerprint","previousReceiptFingerprint") ::
        requestReader).map Prod.fst ∨ key ∈ ["fenceBindingFingerprint"] := by
    revert key
    decide
  rcases cover with rfl | fixed | repeated | fenced
  · exact Shape.fixed_same (rfl : (Shape.number 1).fixed) versionL versionR
  · exact fields_same shapedL shapedR fixed
  · exact relate_alike requestL requestR behind.request (by decide) repeated
  · exact agree_alike namedL namedR fences (by decide) fenced

/-- A projection repeats the request, the finality and the lease. -/
theorem Behind.projection (replaced : isReplaced (get left "head")) (there : recordOf left "projection" ≠ .null)
    (there' : recordOf right "projection" ≠ .null) :
    Same (recordOf left "projection") (recordOf right "projection") := by
  obtain ⟨validL,leaseL,finalL⟩ := behind.first.projection there
  obtain ⟨validR,leaseR,finalR⟩ := behind.second.projection there'
  have finals := behind.finality finalL finalR
  have sealedL := lease_sealed (behind.first.lease leaseL).1
  have sealedR := lease_sealed (behind.second.lease leaseR).1
  have leases := alike_of_same L2_nodup sealedL sealedR (behind.lease replaced leaseL leaseR)
  obtain ⟨versionL,shapedL,requestL,finalityL,namedL⟩ :=
    projection_repeats (request_sealed behind.first.request).truthy
      (finality_sealed (behind.first.finality finalL)).truthy sealedL.truthy validL
  obtain ⟨versionR,shapedR,requestR,finalityR,namedR⟩ :=
    projection_repeats (request_sealed behind.second.request).truthy
      (finality_sealed (behind.second.finality finalR)).truthy sealedR.truthy validR
  refine Sealed.same_of_others RP2_nodup (projection_sealed validL)
    (projection_sealed validR) fun key listed ne => ?_
  have cover : key = "version" ∨ key ∈ (projectionFields.filter fun e => e.2.fixed).map Prod.fst ∨
      key ∈ (requestReader ++ [("anchorFingerprint","anchorFingerprint"),
        ("readerNonce","readerNonce")]).map Prod.fst ∨ key ∈ projectionFinality ∨
      key ∈ projectionLease := by
    revert key
    decide
  rcases cover with rfl | fixed | repeated | final | leased
  · exact Shape.fixed_same (rfl : (Shape.number 1).fixed) versionL versionR
  · exact fields_same shapedL shapedR fixed
  · exact relate_alike requestL requestR behind.request (by decide) repeated
  · exact agree_alike finalityL finalityR finals (by decide) final
  · exact agree_alike namedL namedR leases (by decide) leased

/-- An acknowledgement repeats the projection. -/
theorem Behind.ack (replaced : isReplaced (get left "head")) (there : recordOf left "ack" ≠ .null)
    (there' : recordOf right "ack" ≠ .null) :
    Same (recordOf left "ack") (recordOf right "ack") := by
  obtain ⟨validL,projectedL,_⟩ := behind.first.ack there
  obtain ⟨validR,projectedR,_⟩ := behind.second.ack there'
  have sealedL := projection_sealed (behind.first.projection projectedL).1
  have sealedR := projection_sealed (behind.second.projection projectedR).1
  have projections := alike_of_same RP2_nodup sealedL sealedR (behind.projection replaced projectedL projectedR)
  obtain ⟨versionL,shapedL,namedL⟩ := ack_repeats sealedL.truthy validL
  obtain ⟨versionR,shapedR,namedR⟩ := ack_repeats sealedR.truthy validR
  refine Sealed.same_of_others AK2_nodup (ack_sealed validL) (ack_sealed validR) fun key listed ne => ?_
  have cover : key = "version" ∨ key ∈ (ackFields.filter fun e => e.2.fixed).map Prod.fst ∨
      key ∈ ackProjection := by
    revert key
    decide
  rcases cover with rfl | fixed | repeated
  · exact Shape.fixed_same (rfl : (Shape.number 1).fixed) versionL versionR
  · exact fields_same shapedL shapedR fixed
  · exact agree_alike namedL namedR projections (by decide) repeated

/-- A terminal head names the history marker. -/
theorem Behind.marker (terminal : isText "terminal" (get (get left "head") "phase")) :
    Same (recordOf left "historyMarker") (recordOf right "historyMarker") := by
  have terminal' : isText "terminal" (get (get right "head") "phase") := by
    have phases := isOneOf_same (behind.head "phase" (by decide)) ["terminal"]
    simpa [isOneOf,terminal] using phases.symm
  have sealedL := marker_sealed behind.first.marker
  have sealedR := marker_sealed behind.second.marker
  have namedL := relate_same (behind.first.terminal terminal) (List.mem_singleton_self _)
  have namedR := relate_same (behind.second.terminal terminal') (List.mem_singleton_self _)
  refine same_of_members sealedL.exact sealedR.exact managedHistoryMarkerKeys_nodup fun key listed => ?_
  exact sealedL.alike behind.injective managedHistoryMarkerKeys_nodup sealedR namedL.symm namedR.symm
    (behind.head "historyMarkerFingerprint" (by decide)) listed

end

end Pair

def committedRecords (head : Value) : List String :=
  ["head","request","close","baseline","finality","receipt"] ++
    (if isReplaced head then
      ["fence","reservation","commit","authorityEpoch","lease","projection","ack"] else []) ++
    (if isText "terminal" (get head "phase") then ["historyMarker"] else [])

/-- The publications of a bundle, their fingerprints and the evidence of them in the head. -/
def publications : List (String × String × String) :=
  [("publicationK","publication-kFingerprint","publicationKFingerprint"),
    ("publicationY","publication-yFingerprint","publicationYFingerprint")]

/-- Evidence is there exactly with its record, and is the record's fingerprint computed anew. -/
structure Evidences (sha256 : List UInt8 → Units) (head : Value) (evidence : String) (record : Value)
    (own : String) : Prop where
  present : get head evidence ≠ .null ↔ record ≠ .null
  computed : record ≠ .null →
    ∃ digest, fingerprint sha256 record own = .ok digest ∧ get head evidence = .string digest

/-- What the head of a bundle says of its records. A publication is only named. -/
structure Evident (sha256 : List UInt8 → Units) (bundle : Value) : Prop where
  tied : ∀ pair ∈ tiedFields,Evidences sha256 (get bundle "head") pair.1 (recordOf bundle pair.2) pair.1
  commit : isReplaced (get bundle "head") = true →
    Evidences sha256 (get bundle "head") "authorityCommitSnapshotFingerprint"
      (recordOf bundle "commit") "authorityCommitSnapshotFingerprint"
  publications : isReplaced (get bundle "head") = true → ∀ p ∈ publications,
    recordOf bundle p.1 ≠ .null ∧ get (get bundle "head") p.2.2 ≠ .null ∧
      Same (get (recordOf bundle p.1) p.2.1) (get (get bundle "head") p.2.2)
  marker : isText "terminal" (get (get bundle "head") "phase") = true →
    Evidences sha256 (get bundle "head") "historyMarkerFingerprint" (recordOf bundle "historyMarker")
      "markerFingerprint"

structure OneBundle (left right : Value) : Prop where
  records : ∀ name ∈ committedRecords (get left "head"), recordOf left name ≠ .null →
    recordOf right name ≠ .null → Same (recordOf left name) (recordOf right name)
  publications : isReplaced (get left "head") = true → ∀ p ∈ publications,
    Same (get (recordOf left p.1) p.2.1) (get (recordOf right p.1) p.2.1)

theorem evident_of_sealed
    (sealed' : Sealed sha256 keys own record) (named : Same (get head evidence) (get record own)) :
    Evidences sha256 head evidence record own := by
  obtain ⟨digest,computed,text⟩ := sealed'.own
  rw [text] at named
  have found := same_string named
  refine ⟨⟨fun _ absent => ?_,fun _ => by simp [found]⟩,fun _ => ⟨digest,computed,found⟩⟩
  have object := sealed'.exact
  simp [absent,hasExactKeys] at object

theorem not_evident (named : get head evidence = .null) :
    Evidences sha256 head evidence .null own :=
  ⟨by simp [named],fun there => absurd rfl there⟩

theorem AcceptedBundle.evident (accepted : AcceptedBundle sha256 authority bundle) :
    Evident sha256 bundle := by
  have tied {field name : String} {keys : List String} (pair : (field,name) ∈ tiedFields)
      (sealed' : recordOf bundle name ≠ .null → Sealed sha256 keys field (recordOf bundle name)) :
      Evidences sha256 (get bundle "head") field (recordOf bundle name) field := by
    by_cases there : recordOf bundle name = .null
    · have equal := strictEqual_same (accepted.tied _ pair)
      rw [there] at equal ⊢
      exact not_evident (same_null equal)
    · exact evident_of_sealed (sealed' there) (accepted.tied_named pair (sealed' there))
  refine ⟨fun pair listed => ?_,fun replaced => ?_,fun replaced p listed => ?_,fun terminal => ?_⟩
  · simp only [tiedFields,List.mem_cons,List.not_mem_nil,or_false] at listed
    rcases listed with rfl | rfl | rfl | rfl
    · exact tied (by simp [tiedFields]) fun there => close_sealed (accepted.close there)
    · exact tied (by simp [tiedFields]) fun there => baseline_sealed (accepted.baseline there)
    · exact tied (by simp [tiedFields]) fun there => finality_sealed (accepted.finality there)
    · exact tied (by simp [tiedFields]) fun there => receipt_sealed (accepted.receipt there)
  · exact evident_of_sealed (commit_sealed (accepted.committed replaced).2)
      (relate_same (accepted.proof replaced).2.2.1 (List.mem_singleton_self _)).symm
  · obtain ⟨k,y,_,namedK,namedY⟩ := accepted.proof replaced
    have evidence := head_evidence accepted.head replaced
    simp only [publications,List.mem_cons,List.not_mem_nil,or_false] at listed
    rcases listed with rfl | rfl
    · exact ⟨fun absent => by simp [absent,isTruthy] at k,evidence _ (by decide),
        relate_same namedK (List.mem_singleton_self _)⟩
    · exact ⟨fun absent => by simp [absent,isTruthy] at y,evidence _ (by decide),
        relate_same namedY (List.mem_singleton_self _)⟩
  · exact evident_of_sealed (marker_sealed accepted.marker)
      (relate_same (accepted.terminal terminal) (List.mem_singleton_self _)).symm

theorem recordOf_distinct (distinct : DistinctKeys bundle) (name : String) :
    DistinctKeys (recordOf bundle name) := by
  rw [recordOf,memberOr]
  split
  · trivial
  · exact distinct_get distinct name

section

variable (behind : Behind sha256 authority authority' left right)
include behind

theorem Behind.heads_same :
    Same (recordOf left "head") (recordOf right "head") := by
  have sealedL := head_sealed behind.first.head
  have sealedR := head_sealed behind.second.head
  rw [recordOf_given sealedL.truthy,recordOf_given sealedR.truthy]
  exact same_of_members sealedL.exact sealedR.exact AH_nodup behind.head

theorem Behind.requests_same :
    Same (recordOf left "request") (recordOf right "request") := by
  have sealedL := request_sealed behind.first.request
  have sealedR := request_sealed behind.second.request
  rw [recordOf_given sealedL.truthy,recordOf_given sealedR.truthy]
  exact same_of_members sealedL.exact sealedR.exact SR_nodup behind.request

theorem Behind.tied_same (distinct : (keys.map ofString).Nodup) (known : field ∈ AH)
    (pair : (field,name) ∈ tiedFields) (sealedL : Sealed sha256 keys field (recordOf left name))
    (sealedR : Sealed sha256 keys field (recordOf right name)) :
    Same (recordOf left name) (recordOf right name) :=
  same_of_members sealedL.exact sealedR.exact distinct (behind.tied distinct known pair sealedL sealedR)

end

/-- Equal head fingerprints make the committed records equal, and every head is evidence of
the records in its bundle. -/
theorem head_commits_bundle (injective : InjectiveOnCanonical sha256) (left right : JsValue)
    {authority authority' : Value}
    (acceptedL : validateAuthoritySuccessorBundle sha256 left.value authority = .ok ())
    (acceptedR : validateAuthoritySuccessorBundle sha256 right.value authority' = .ok ())
    (heads : get (get left.value "head") "headFingerprint" = get (get right.value "head") "headFingerprint") :
    OneBundle left.value right.value ∧ Evident sha256 left.value ∧ Evident sha256 right.value := by
  have first := validateAuthoritySuccessorBundle_ok acceptedL
  have second := validateAuthoritySuccessorBundle_ok acceptedR
  have behind : Behind sha256 authority authority' left.value right.value :=
    ⟨injective,first,second,heads⟩
  refine ⟨⟨fun name listed there there' => ?_,fun replaced p listed => ?_⟩,first.evident,second.evident⟩
  · simp only [committedRecords,List.mem_append,List.mem_cons,List.not_mem_nil,or_false,
      List.mem_ite_nil_right] at listed
    rcases listed with ((rfl | rfl | rfl | rfl | rfl | rfl) | ⟨replaced,names⟩) | ⟨terminal,rfl⟩
    · exact behind.heads_same
    · exact behind.requests_same
    · exact behind.tied_same CL_nodup (by decide) (by simp [tiedFields])
        (close_sealed (first.close there)) (close_sealed (second.close there'))
    · exact behind.tied_same SB_nodup (by decide) (by simp [tiedFields])
        (baseline_sealed (first.baseline there)) (baseline_sealed (second.baseline there'))
    · exact behind.tied_same SF_nodup (by decide) (by simp [tiedFields])
        (finality_sealed (first.finality there)) (finality_sealed (second.finality there'))
    · exact behind.tied_same SRC_nodup (by decide) (by simp [tiedFields])
        (receipt_sealed (first.receipt there)) (receipt_sealed (second.receipt there'))
    · have replaced' := behind.replaced replaced
      rcases names with rfl | rfl | rfl | rfl | rfl | rfl | rfl
      · exact same_of_members (fence_sealed (first.fence there)).exact
          (fence_sealed (second.fence there')).exact F2_nodup (behind.fence replaced there there')
      · exact same_of_members (reservation_sealed (first.committed replaced).1).exact
          (reservation_sealed (second.committed replaced').1).exact authorityReservationKeys_nodup
          (behind.reservation replaced)
      · exact same_of_members (commit_sealed (first.committed replaced).2).exact
          (commit_sealed (second.committed replaced').2).exact authorityCommitKeys_nodup
          (behind.commit replaced)
      · exact behind.epoch (recordOf_distinct left.distinct _) (recordOf_distinct right.distinct _)
          replaced there there'
      · exact behind.lease replaced there there'
      · exact behind.projection replaced there there'
      · exact behind.ack replaced there there'
    · exact behind.marker terminal
  · have named := (first.evident.publications replaced p listed).2.2
    have named' := (second.evident.publications (behind.replaced replaced) p listed).2.2
    have evidence : ∀ p ∈ publications, p.2.2 ∈ AH := by decide
    exact named.trans ((behind.head _ (evidence p listed)).trans named'.symm)

def bundleRequest : Value :=
  .object [(ascii "actorPrincipalFingerprint",repeated 10),(ascii "anchorFingerprint",repeated 10),
    (ascii "candidateAttestationFingerprint",repeated 10),(ascii "candidateAuthorityEpoch",integer 2),
    (ascii "candidateFenceGeneration",integer 2),(ascii "candidateMappingGeneration",integer 1),
    (ascii "candidateRevision",integer 2),(ascii "candidateSnapshotFingerprint",repeated 10),
    (ascii "candidateTargetFingerprint",repeated 10),(ascii "candidateTokenConfigGeneration",integer 2),
    (ascii "idempotencyKey",asciiText "key"),(ascii "kind",asciiText "authority-successor-request"),
    (ascii "mappingRecoveryTxFingerprint",.null),(ascii "operation",asciiText "tokens-attest"),
    (ascii "previousAttestationFingerprint",repeated 10),(ascii "previousAuthorityEpoch",integer 1),
    (ascii "previousFenceGeneration",integer 1),(ascii "previousMappingGeneration",integer 1),
    (ascii "previousReceiptFingerprint",repeated 11),(ascii "previousRevision",integer 1),
    (ascii "previousSnapshotFingerprint",repeated 10),(ascii "previousTargetFingerprint",repeated 10),
    (ascii "previousTokenConfigGeneration",integer 1),(ascii "previousWrapperFingerprint",repeated 10),
    (ascii "readerInstanceId",asciiText "reader"),(ascii "readerMode",asciiText "bound-reader"),
    (ascii "readerNonce",asciiText "nonce"),(ascii "readerStartNonce",asciiText "start"),
    (ascii "requestFingerprint",hexText 0x78de9867f942758ce5a7ef9f9eb3440b54aed7380f506214e17e5d88791b616b),
    (ascii "rootGenesisTxId",asciiText "genesis"),(ascii "sequence",integer 2),
    (ascii "targetState",asciiText "managed"),(ascii "txId",asciiText "tx"),(ascii "version",integer 1)]

def bundleMarker : Value :=
  .object [(ascii "anchorFingerprint",repeated 10),(ascii "fenceGeneration",integer 1),
    (ascii "kind",asciiText "managed-history-marker"),
    (ascii "markerFingerprint",hexText 0x9f998ff1dd1976cf53dd11f68227eb7d2dd3ecf98b6b6a67794e4396adbe2165),
    (ascii "previousMarkerFingerprint",.null),(ascii "sequence",integer 1),(ascii "version",integer 1)]

def bundleClose : Value :=
  .object [(ascii "admissionDrained",.bool true),(ascii "admissionPhaseAfter",asciiText "closed-drained"),
    (ascii "admissionPhaseBefore",asciiText "closed"),(ascii "affectedMappingIds",.array []),
    (ascii "affectedRouteFingerprints",.array []),(ascii "affectedScope",asciiText "all"),
    (ascii "barrierGeneration",integer 1),
    (ascii "closeFingerprint",hexText 0x5303e8f44ed10b309bef804e89abbf348950712c94b243d0cee343f7c3a6f111),
    (ascii "fenceGeneration",integer 2),(ascii "kind",asciiText "authority-close-proof"),
    (ascii "outstandingRouteGrantCount",integer 0),(ascii "previousBarrierGeneration",integer 0),
    (ascii "previousReceiptFingerprint",repeated 11),(ascii "readerInstanceId",asciiText "reader"),
    (ascii "readerStartNonce",asciiText "start"),
    (ascii "requestFingerprint",get bundleRequest "requestFingerprint"),
    (ascii "retiredAckFingerprint",.null),(ascii "retiredGrantFingerprint",.null),
    (ascii "retiredProjectionFingerprint",.null),(ascii "rootGenesisTxId",asciiText "genesis"),
    (ascii "routeDisposition",asciiText "no-route"),(ascii "txId",asciiText "tx"),
    (ascii "version",integer 1)]

def bundleReservation : Value :=
  .object [(ascii "anchorFingerprint",repeated 10),
    (ascii "candidateFingerprint",get bundleRequest "requestFingerprint"),(ascii "epoch",integer 2),
    (ascii "fenceGeneration",integer 2),(ascii "generation",integer 2),
    (ascii "kind",asciiText "authority-reservation"),
    (ascii "previousAuthorityCommitSnapshotFingerprint",repeated 11),
    (ascii "reservationFingerprint",hexText 0xd9ebeb5879ff955234ee3e0de38893d9670d5bcba5963d2c726a9f826d9ceb92),
    (ascii "txId",asciiText "tx"),(ascii "version",integer 1)]

def bundleCommit : Value :=
  .object [(ascii "anchorFingerprint",repeated 10),
    (ascii "authorityCommitSnapshotFingerprint",hexText 0xb2c855432a2995d947e96a798a396797915d2d7e6589f193976625debc654482),
    (ascii "candidateFingerprint",get bundleRequest "requestFingerprint"),(ascii "epoch",integer 2),
    (ascii "fenceGeneration",integer 2),(ascii "generation",integer 2),
    (ascii "kind",asciiText "authority-commit-snapshot"),
    (ascii "previousAuthorityCommitSnapshotFingerprint",repeated 11),
    (ascii "reservationFingerprint",get bundleReservation "reservationFingerprint"),
    (ascii "txId",asciiText "tx"),(ascii "version",integer 1)]

def fenceOf (commit : Value) (fingerprint : Nat) : Value :=
  .object [(ascii "anchorFingerprint",repeated 10),(ascii "authorityCommitSnapshotFingerprint",commit),
    (ascii "fenceBindingFingerprint",hexText fingerprint),
    (ascii "fenceGeneration",integer 2),(ascii "kind",asciiText "authority-successor-fence"),
    (ascii "previousFenceBindingFingerprint",repeated 11),(ascii "readerInstanceId",asciiText "reader"),
    (ascii "readerStartNonce",asciiText "start"),(ascii "readerVersion",integer 2),
    (ascii "requestFingerprint",get bundleRequest "requestFingerprint"),
    (ascii "rootGenesisTxId",asciiText "genesis"),(ascii "txId",asciiText "tx"),
    (ascii "version",integer 1)]

def bundleFence : Value := fenceOf (get bundleCommit "authorityCommitSnapshotFingerprint")
  0xa9c01c65aa9746d6db04495bc9b103d68cfd293ee856946a5be7f208abd1eb00

def strayFence : Value := fenceOf (repeated 13)
  0xf3f4f932458d2ddb91608df1758337a059baadd6f9139afb3aa5f7c813f59fb4

def bundleBaseline : Value :=
  .object [(ascii "anchorFingerprint",repeated 10),(ascii "attestationFingerprint",repeated 10),
    (ascii "authorityCommitSnapshotFingerprint",get bundleCommit "authorityCommitSnapshotFingerprint"),
    (ascii "authorityEpoch",integer 2),
    (ascii "authorityReservationFingerprint",get bundleReservation "reservationFingerprint"),
    (ascii "baselineFingerprint",hexText 0x9e2771e1c1860fad4716a671dc5949e0c50e3ee3c52c1fada97ff77434322364),
    (ascii "candidateSnapshotFingerprint",repeated 10),(ascii "candidateTargetFingerprint",repeated 10),
    (ascii "closeFingerprint",get bundleClose "closeFingerprint"),
    (ascii "fenceBindingFingerprint",get bundleFence "fenceBindingFingerprint"),
    (ascii "fenceGeneration",integer 2),(ascii "kind",asciiText "authority-successor-baseline"),
    (ascii "leaseBindingFingerprint",.null),(ascii "mappingGeneration",integer 1),
    (ascii "operation",asciiText "tokens-attest"),(ascii "readerInstanceId",asciiText "reader"),
    (ascii "readerProjectionFingerprint",.null),(ascii "readerStartNonce",asciiText "start"),
    (ascii "readerVersion",integer 2),
    (ascii "requestFingerprint",get bundleRequest "requestFingerprint"),(ascii "revision",integer 2),
    (ascii "rootGenesisTxId",asciiText "genesis"),(ascii "targetState",asciiText "managed"),
    (ascii "tokenConfigGeneration",integer 2),(ascii "tokenConfigHostSetFingerprint",repeated 12),
    (ascii "txId",asciiText "tx"),(ascii "version",integer 1)]

/-- A head that names a commit and publications in every phase. -/
def bundleHead (phase : String) (baseline : Value) (fingerprint : Nat) : Value :=
  .object [(ascii "anchorFingerprint",repeated 10),
    (ascii "authorityCommitSnapshotFingerprint",get bundleCommit "authorityCommitSnapshotFingerprint"),
    (ascii "baselineFingerprint",baseline),(ascii "closeFingerprint",get bundleClose "closeFingerprint"),
    (ascii "fenceGeneration",integer 2),(ascii "finalityFingerprint",.null),
    (ascii "headFingerprint",hexText fingerprint),
    (ascii "historyMarkerFingerprint",.null),(ascii "kind",asciiText "authority-successor-head"),
    (ascii "operation",asciiText "tokens-attest"),(ascii "phase",asciiText phase),
    (ascii "previousHeadFingerprint",repeated 14),(ascii "previousReceiptFingerprint",repeated 11),
    (ascii "publicationKFingerprint",repeated 12),(ascii "publicationYFingerprint",repeated 12),
    (ascii "receiptFingerprint",.null),
    (ascii "requestFingerprint",get bundleRequest "requestFingerprint"),
    (ascii "rootGenesisTxId",asciiText "genesis"),(ascii "routeDisposition",asciiText "no-route"),
    (ascii "sequence",integer 2),(ascii "txId",asciiText "tx"),(ascii "version",integer 1)]

def closedHeadOf : Value := bundleHead "closed" .null
  0x731bb7e4ebf8d9df0eef6d5f78ec0e79c9f83cefb94d2ede986090b5bc3b355d

def replacedHeadOf : Value := bundleHead "replaced" (get bundleBaseline "baselineFingerprint")
  0xd3ef7f294eea650006e0a431167bc95cd9a7fa91845bf9a02e4b1a12a90b1d5d

/-- A publication with a note besides the fingerprint it claims. -/
def publicationOf (own note : String) : Value :=
  .object [(ofString "fenceGeneration",integer 2),(ofString "genesisTxId",asciiText "genesis"),
    (ofString "note",asciiText note),(ofString own,repeated 12)]

def replacedBundle (note : String) : Value :=
  .object [(ofString "baseline",bundleBaseline),(ofString "close",bundleClose),
    (ofString "commit",bundleCommit),(ofString "fence",bundleFence),(ofString "head",replacedHeadOf),
    (ofString "historyMarker",bundleMarker),(ofString "historyMarkerSeal",bundleMarker),
    (ofString "publicationK",publicationOf "publication-kFingerprint" note),
    (ofString "publicationY",publicationOf "publication-yFingerprint" note),
    (ofString "request",bundleRequest),(ofString "reservation",bundleReservation)]

/-- A bundle without a commit, so nothing is asked of its reservation and its epoch. -/
def closedBundle (fence : Value) (note : String) : Value :=
  .object [(ofString "authorityEpoch",asciiText note),(ofString "close",bundleClose),
    (ofString "fence",fence),(ofString "head",closedHeadOf),(ofString "historyMarker",bundleMarker),
    (ofString "historyMarkerSeal",bundleMarker),(ofString "request",bundleRequest),
    (ofString "reservation",.object [(ofString "fenceGeneration",integer 2),(ofString "note",asciiText note)])]

def bundleRecords : List (Value × String × Nat) :=
  [(bundleRequest,"requestFingerprint",0x78de9867f942758ce5a7ef9f9eb3440b54aed7380f506214e17e5d88791b616b),
    (bundleMarker,"markerFingerprint",0x9f998ff1dd1976cf53dd11f68227eb7d2dd3ecf98b6b6a67794e4396adbe2165),
    (bundleClose,"closeFingerprint",0x5303e8f44ed10b309bef804e89abbf348950712c94b243d0cee343f7c3a6f111),
    (bundleReservation,"reservationFingerprint",
      0xd9ebeb5879ff955234ee3e0de38893d9670d5bcba5963d2c726a9f826d9ceb92),
    (bundleCommit,"authorityCommitSnapshotFingerprint",
      0xb2c855432a2995d947e96a798a396797915d2d7e6589f193976625debc654482),
    (bundleFence,"fenceBindingFingerprint",0xa9c01c65aa9746d6db04495bc9b103d68cfd293ee856946a5be7f208abd1eb00),
    (strayFence,"fenceBindingFingerprint",0xf3f4f932458d2ddb91608df1758337a059baadd6f9139afb3aa5f7c813f59fb4),
    (bundleBaseline,"baselineFingerprint",0x9e2771e1c1860fad4716a671dc5949e0c50e3ee3c52c1fada97ff77434322364),
    (closedHeadOf,"headFingerprint",0x731bb7e4ebf8d9df0eef6d5f78ec0e79c9f83cefb94d2ede986090b5bc3b355d),
    (replacedHeadOf,"headFingerprint",0xd3ef7f294eea650006e0a431167bc95cd9a7fa91845bf9a02e4b1a12a90b1d5d)]

def bundleDigest : List UInt8 → Units := sealing bundleRecords

theorem bundleDigest_injective : InjectiveOnCanonical bundleDigest :=
  sealing_injective (by decide)

theorem bundleRecords_sealed :
    areSealed ["kind","phase","authorityCommitSnapshotFingerprint"] bundleRecords = true := by
  simp only [areSealed,textCodes,without_byCode,byCode]
  decide +kernel

/-- Each of the records passes the check of its fingerprint. -/
theorem bundle_asserted (i : Nat) (located : bundleRecords[i]? = some r)
    (error : JsError) : assertFingerprint bundleDigest r.1 r.2.1 error = .ok () :=
  sealing_asserted bundleRecords_sealed (List.mem_of_getElem? located) error

theorem bundle_hashed (i : Nat) (located : bundleRecords[i]? = some r) :
    assertHash bundleDigest r.1 r.2.1 = .ok () :=
  sealing_hashed bundleRecords_sealed (List.mem_of_getElem? located)

/-- Every record passes its validator with the records it stands with in the bundles. -/
theorem bundleRecords_evaluated :
    let authority := asciiText "genesis"
    ((validateAuthoritySuccessorRequest bundleDigest bundleRequest authority .null).isOk &&
      (validateAuthoritySuccessorHead bundleDigest closedHeadOf bundleRequest authority).isOk &&
      (validateAuthoritySuccessorHead bundleDigest replacedHeadOf bundleRequest authority).isOk &&
      (validateAuthorityCloseProof bundleDigest bundleClose bundleRequest authority).isOk &&
      (validateAuthoritySuccessorFence bundleDigest bundleFence bundleRequest .null authority).isOk &&
      (validateAuthoritySuccessorFence bundleDigest strayFence bundleRequest .null authority).isOk &&
      (validateAuthoritySuccessorFence bundleDigest bundleFence bundleRequest bundleCommit authority).isOk &&
      (validateAuthoritySuccessorBaseline bundleDigest bundleBaseline bundleRequest bundleClose
        bundleFence bundleReservation bundleCommit authority).isOk &&
      (validateAuthorityReservation bundleDigest bundleReservation bundleRequest).isOk &&
      (validateAuthorityCommitSnapshot bundleDigest bundleCommit bundleReservation bundleRequest).isOk &&
      (validateManagedHistoryMarker bundleDigest bundleMarker (repeated 10) undefined).isOk &&
      (validateManagedHistoryMarker bundleDigest bundleMarker (repeated 10) (integer 1)).isOk) =
      true := by
  simp only [validateAuthoritySuccessorRequest,validateAuthoritySuccessorHead,
    validateAuthorityCloseProof,validateAuthoritySuccessorFence,validateAuthoritySuccessorBaseline,
    validateAuthorityReservation,validateAuthorityCommitSnapshot,validateManagedHistoryMarker,
    bundle_hashed 0 rfl,bundle_hashed 1 rfl,bundle_hashed 2 rfl,bundle_asserted 3 rfl,
    bundle_asserted 4 rfl,bundle_hashed 5 rfl,bundle_hashed 6 rfl,bundle_hashed 7 rfl,
    bundle_hashed 8 rfl,bundle_hashed 9 rfl]
  simp only [assertGenesisRoot,rootGenesisTxId,assertKeys,hasExactKeys,assertFence,GenesisEnvelope.assertFence,
    fields,relate,agree,every,validTargetState,isOneOf,isNoReader,isBoundReader,reader,phaseLevel,expects,
    byCode]
  decide +kernel

theorem memberOr_cons (name key : String) (fallback : Value)
    (rest : List (Units × Value)) (given : isTruthy value) :
    memberOr (.object ((ofString name,value) :: rest)) fallback key =
      if name = key then value else memberOr (.object rest) fallback key := by
  unfold memberOr
  rw [get_cons]
  by_cases equal : name = key
  · simp only [if_pos equal]
    split
    · exact absurd given (by decide)
    · rfl
  · simp only [if_neg equal]

theorem memberOr_nil (fallback : Value) (key : String) : memberOr (.object []) fallback key = fallback :=
  rfl

theorem bundles_evaluated :
    let accepts (bundle : Value) : Bool :=
      (validateAuthoritySuccessorBundle bundleDigest bundle (asciiText "genesis")).isOk
    (accepts (closedBundle bundleFence "one") && accepts (closedBundle strayFence "two") &&
      accepts (replacedBundle "one") && accepts (replacedBundle "two")) = true := by
  have evaluated := bundleRecords_evaluated
  simp only [and_eq_true] at evaluated
  obtain ⟨⟨⟨⟨⟨⟨⟨⟨⟨⟨⟨request,closedHead⟩,replacedHead⟩,close⟩,fence⟩,stray⟩,fenced⟩,baseline⟩,reservation⟩,
    commit⟩,marker⟩,sealMarker⟩ := evaluated
  have requestThere : isTruthy bundleRequest = true := rfl
  have closeThere : isTruthy bundleClose = true := rfl
  have fenceThere : isTruthy bundleFence = true := rfl
  have strayThere : isTruthy strayFence = true := rfl
  have baselineThere : isTruthy bundleBaseline = true := rfl
  have commitThere : isTruthy bundleCommit = true := rfl
  have closedThere : isTruthy closedHeadOf = true := rfl
  have replacedThere : isTruthy replacedHeadOf = true := rfl
  have markerThere : isTruthy bundleMarker = true := rfl
  have reservationThere : isTruthy bundleReservation = true := rfl
  have publicationThere (own note : String) : isTruthy (publicationOf own note) = true := rfl
  have objectThere (e : Units × Value) (rest : List (Units × Value)) :
      isTruthy (.object (e :: rest)) = true := rfl
  have noteThere : isTruthy (asciiText "one") = true ∧ isTruthy (asciiText "two") = true := ⟨rfl,rfl⟩
  simp only [validateAuthoritySuccessorBundle,closedBundle,replacedBundle,get_cons,memberOr_cons,
    memberOr_nil,String.reduceEq,reduceIte,requestThere,closeThere,fenceThere,strayThere,
    baselineThere,commitThere,closedThere,replacedThere,markerThere,reservationThere,publicationThere,objectThere,
    noteThere.1,noteThere.2]
  simp only [isOk_unit request,isOk_unit closedHead,isOk_unit replacedHead,isOk_unit close,
    isOk_unit fence,isOk_unit stray,isOk_unit fenced,isOk_unit baseline,isOk_unit reservation,
    isOk_unit commit,validateManagedHistoryMarkerSeal,validateManagedHistoryMarker,
    bundle_hashed 1 rfl]
  simp only [assertKeys,hasExactKeys,assertFenceIs,fingerprintOr,isReplaced,relate,agree,isOneOf,isNoReader,
    isBoundReader,expects,rootGenesisTxId,validateAuthoritySuccessorBundle.previousSequence,byCode]
  decide +kernel

/-- Two texts that differ. -/
theorem not_same_text (differ : (isOpaqueIdentity w && !strictEqual v w)) : ¬ Same v w := by
  intro same
  rw [and_eq_true] at differ
  cases w with
  | string text => simp [same_string same,strictEqual] at differ
  | _ => simp [isOpaqueIdentity] at differ

def differAt (key : String) (v w : Value) : Bool :=
  isLoose v && isLoose w && hasOwn v key && isOpaqueIdentity (get w key) && !strictEqual (get v key) (get w key)

theorem not_same_record (differ : differAt key v w) :
    ¬ Same v w := by
  intro same
  simp only [differAt,and_eq_true,and_assoc] at differ
  obtain ⟨loose,loose',present,differ⟩ := differ
  exact not_same_text (and_eq_true_iff.mpr differ)
    (get_same (isLoose_encoded loose).1 (isLoose_encoded loose').1 same present)

/-- What the pairs of bundles share, and where they differ. -/
theorem bundles_compared :
    let first := closedBundle bundleFence "one"
    let second := closedBundle strayFence "two"
    (agree (get first "head") (get second "head") ["headFingerprint"] && isNull (recordOf first "commit") &&
      isHex (get (get first "head") "authorityCommitSnapshotFingerprint") &&
      agree (get (replacedBundle "one") "head") (get (replacedBundle "two") "head") ["headFingerprint"] &&
      differAt "fenceBindingFingerprint" (recordOf first "fence") (recordOf second "fence") &&
      differAt "note" (recordOf first "reservation") (recordOf second "reservation") &&
      (isOpaqueIdentity (recordOf second "authorityEpoch") &&
        !strictEqual (recordOf first "authorityEpoch") (recordOf second "authorityEpoch")) &&
      (publications.all fun p => differAt "note" (recordOf (replacedBundle "one") p.1)
        (recordOf (replacedBundle "two") p.1)) &&
      [bundleRequest,bundleMarker,bundleClose,bundleReservation,bundleCommit,bundleFence,bundleBaseline,
        replacedHeadOf].all isLoose) = true := by
  simp only [recordOf,agree,differAt,memberOr,byCode]
  decide +kernel

/-- Bundles behind one closed head with other fences, reservations and epochs, and a commit
that only the head has; bundles behind one replaced head with other publications. -/
theorem bundles_hide : InjectiveOnCanonical bundleDigest ∧
    (∀ bundle ∈ [closedBundle bundleFence "one",closedBundle strayFence "two",replacedBundle "one",
        replacedBundle "two"],
      validateAuthoritySuccessorBundle bundleDigest bundle (asciiText "genesis") = .ok ()) ∧
    agree (get (closedBundle bundleFence "one") "head") (get (closedBundle strayFence "two") "head")
      ["headFingerprint"] = true ∧ (∀ name ∈ ["fence","reservation","authorityEpoch"],
      ¬ Same (recordOf (closedBundle bundleFence "one") name) (recordOf (closedBundle strayFence "two") name)) ∧
    isNull (recordOf (closedBundle bundleFence "one") "commit") = true ∧
    isHex (get (get (closedBundle bundleFence "one") "head") "authorityCommitSnapshotFingerprint") = true ∧
    agree (get (replacedBundle "one") "head") (get (replacedBundle "two") "head") ["headFingerprint"] = true ∧
    (∀ name ∈ ["publicationK","publicationY"],
      ¬ Same (recordOf (replacedBundle "one") name) (recordOf (replacedBundle "two") name)) := by
  have evaluated := bundles_evaluated
  have compared := bundles_compared
  simp only [and_eq_true] at evaluated compared
  obtain ⟨⟨⟨first,second⟩,third⟩,fourth⟩ := evaluated
  obtain ⟨⟨⟨⟨⟨⟨⟨⟨heads,commit⟩,named⟩,replacedHeads⟩,fence⟩,reservation⟩,epoch⟩,notes⟩,_⟩ := compared
  rw [List.all_eq_true] at notes
  simp only [List.forall_mem_cons,List.not_mem_nil,false_imp_iff,implies_true,and_true]
  exact ⟨bundleDigest_injective,⟨isOk_unit first,isOk_unit second,isOk_unit third,isOk_unit fourth⟩,
    heads,⟨not_same_record fence,not_same_record reservation,
      not_same_text (and_eq_true_iff.mpr epoch)⟩,commit,named,replacedHeads,
    not_same_record (notes _ (List.mem_cons_self ..)),
    not_same_record (notes _ (List.mem_cons_of_mem _ (List.mem_cons_self ..)))⟩

theorem bundleRecords_distinct : ∀ record ∈ [bundleRequest,bundleMarker,bundleClose,bundleReservation,
    bundleCommit,bundleFence,bundleBaseline,replacedHeadOf], DistinctKeys record := by
  have compared := bundles_compared
  simp only [and_eq_true] at compared
  exact fun record listed => (isLoose_encoded (List.all_eq_true.mp compared.2 record listed)).1

theorem replacedBundle_distinct (note : String) : DistinctKeys (replacedBundle note) := by
  have records := bundleRecords_distinct
  simp only [List.forall_mem_cons] at records
  obtain ⟨request,marker,close,reservation,commit,fence,baseline,head,_⟩ := records
  have publication (own : String) (distinct : ["fenceGeneration","genesisTxId","note",own].Nodup) :
      DistinctKeys (publicationOf own note) :=
    ⟨names_nodup distinct,trivial,trivial,trivial,trivial,trivial⟩
  have keys : ["baseline","close","commit","fence","head","historyMarker","historyMarkerSeal",
      "publicationK","publicationY","request","reservation"].Nodup := by decide
  exact ⟨names_nodup keys,baseline,close,commit,fence,head,marker,marker,publication _ (by decide),
    publication _ (by decide),request,reservation,trivial⟩

theorem replacedBundle_committed : OneBundle (replacedBundle "one") (replacedBundle "two") ∧
    Evident bundleDigest (replacedBundle "one") ∧ Evident bundleDigest (replacedBundle "two") := by
  have evaluated := bundles_evaluated
  simp only [and_eq_true] at evaluated
  exact head_commits_bundle bundleDigest_injective ⟨_,replacedBundle_distinct "one"⟩
    ⟨_,replacedBundle_distinct "two"⟩ (isOk_unit evaluated.1.2) (isOk_unit evaluated.2) rfl

end GjcRemote.SuccessorEnvelope
