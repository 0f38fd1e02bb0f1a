import GjcRemote.BootRecoverySafety
import GjcRemote.Evaluation

/-! When a replay that the classifier calls safe passes the compare-and-swap of the publication. -/
namespace GjcRemote.Recovery

open Utf16 StrictJson Record Workspace Lifecycle Pointer List
open Option hiding get

def currentOf (snapshot : Snapshot) : Option Value :=
  if isNull snapshot.livePointer then none else some snapshot.livePointer

/-- The records of a replay that name a workspace and a host. -/
def identified (snapshot : Snapshot) : List Value :=
  snapshot.candidatePointer :: snapshot.transaction :: (currentOf snapshot).toList

/-- A replay that can succeed: no publication over what is live is refused as a conflict, and the records
belong to the workspace of the snapshot and to the host of the transaction. -/
structure Publishable (sha256 : List UInt8 → Units) (snapshot : Snapshot) (candidate : Value) : Prop where
  cas : assertCas candidate (currentOf snapshot) = .ok ()
  published : ∀ live, pointerOrNull sha256 live = .ok snapshot.livePointer → ∀ conflict : Refusal,
    (publishGeneration sha256 (fun _ => none) live candidate).2 = .error (.refusal conflict) →
      conflict.code ≠ "WORKSPACE_GENERATION_CAS_CONFLICT"
  workspace : ∀ record ∈ identified snapshot, strictEqual (get record "workspaceId") snapshot.workspaceId = true
  host : ∀ record ∈ identified snapshot,
    strictEqual (get record "hostId") (get snapshot.transaction "hostId") = true

/-- The records of a snapshot tell one story: the candidate and the transaction are of its workspace and of
one host, and so is what is live, whose generation comes before that of the candidate. -/
structure Consistent (snapshot : Snapshot) : Prop where
  transaction : strictEqual (get snapshot.transaction "workspaceId") snapshot.workspaceId = true
  candidate : strictEqual (get snapshot.candidatePointer "workspaceId") snapshot.workspaceId = true
  host : strictEqual (get snapshot.candidatePointer "hostId") (get snapshot.transaction "hostId") = true
  live : ∀ live ∈ currentOf snapshot, strictEqual (get live "workspaceId") snapshot.workspaceId = true ∧
    strictEqual (get live "hostId") (get snapshot.transaction "hostId") = true ∧
    strictEqual (get snapshot.candidatePointer "priorGeneration") (get live "activeGeneration") = true

/-- The candidate has the host, the workspace and the next generation of what is live, if anything is. -/
def succeeds (snapshot : Snapshot) : Bool :=
  (currentOf snapshot).all fun live =>
    strictEqual (get snapshot.candidatePointer "hostId") (get live "hostId") &&
      strictEqual (get snapshot.candidatePointer "workspaceId") (get live "workspaceId") &&
      strictEqual (get snapshot.candidatePointer "priorGeneration") (get live "activeGeneration")

section Digest

variable {sha256 : List UInt8 → Units}

theorem dispositionOf_chains
    (replay : dispositionOf snapshot = .safeReplay candidate) : candidateChainsOntoLive snapshot := by
  unfold dispositionOf at replay
  split_ifs at replay with _ _ _ _ _ _ _ chained
  simp only [Bool.and_eq_true] at chained
  exact chained.2

theorem validateUnlessNull_ok
    (validated : validateUnlessNull value validate = .ok ()) (present : isNull value = false) : validate = .ok () := by
  rwa [validateUnlessNull,present,if_neg (by decide)] at validated

/-- The records of a replay: the candidate names the fingerprint of what is live. -/
structure Replay (sha256 : List UInt8 → Units) (snapshot : Snapshot) : Prop where
  candidate : validateGenerationPointer sha256 snapshot.candidatePointer = .ok ()
  live : isNull snapshot.livePointer = false →
    validateGenerationPointer sha256 snapshot.livePointer = .ok ()
  chained : strictEqual (get snapshot.candidatePointer "priorPointerFingerprint") (pointerFp snapshot.livePointer) = true
  host : isOpaqueIdentity (get snapshot.transaction "hostId") = true

theorem classify_replay (replay : classifyGenerationRecovery sha256 snapshot = .ok (.safeReplay candidate)) :
    Replay sha256 snapshot ∧ candidate = snapshot.candidatePointer := by
  rw [classifyGenerationRecovery,except_unit_bind_ok] at replay
  obtain ⟨validated,decided⟩ := replay
  have decided : dispositionOf snapshot = .safeReplay candidate := Except.ok.inj decided
  have chains := dispositionOf_chains decided
  rw [candidateChainsOntoLive,Bool.and_eq_true,Bool.not_eq_true'] at chains
  simp only [validateRecoverySnapshot,except_unit_bind_ok] at validated
  obtain ⟨_,transaction,_,live,_,stored,_⟩ := validated
  obtain ⟨due,same⟩ := dispositionOf_safeReplay decided
  have schema := mapError_ok.mp (validateUnlessNull_ok transaction due.transaction)
  simp only [validateWorkspaceLifecycleTransaction,checks_ok,transactionSchema,Bool.and_eq_true,
    and_assoc] at schema
  obtain ⟨_,_,_,_,host,_⟩ := schema
  exact ⟨⟨refuseWith_ok.mp (validateUnlessNull_ok stored chains.1),
    fun present => refuseWith_ok.mp (validateUnlessNull_ok live present),chains.2,host⟩,same⟩

theorem prior_null_iff (valid : validateGenerationPointer sha256 pointer = .ok ()) :
    isNull (get pointer "priorGeneration") = isNull (get pointer "priorPointerFingerprint") := by
  simp only [validateGenerationPointer,checks_ok] at valid
  obtain ⟨_,_,_,_,_,_,_,_,_,_,_,_,_,_,relation,_⟩ := valid
  unfold assertPriorRelation at relation
  split at relation
  · next first =>
    simp only [checks_ok] at relation
    rw [first,relation.1]
  · next later =>
    simp only [checks_ok,Bool.not_eq_true'] at relation
    rw [relation.1]
    simpa using later

theorem pointerFp_null (valid : isNull pointer = false → validateGenerationPointer sha256 pointer = .ok ()) :
    isNull (pointerFp pointer) = isNull pointer := by
  unfold pointerFp
  cases present : isNull pointer with
  | true => rfl
  | false =>
    have validated := valid present
    simp only [validateGenerationPointer,checks_ok] at validated
    cases named : get pointer "pointerFingerprint" <;> simp_all [isHex,isNull]

theorem strictEqual_isNull (equal : strictEqual v w) : isNull v = isNull w := by
  cases v <;> cases w <;> simp_all [strictEqual,isNull]

/-- Of what the compare-and-swap compares, the fingerprint never differs. -/
theorem Replay.cas (replay : Replay sha256 snapshot) :
    assertCas snapshot.candidatePointer (currentOf snapshot) = .ok () ↔ succeeds snapshot := by
  have first : isNull (get snapshot.candidatePointer "priorGeneration") = isNull snapshot.livePointer := by
    rw [prior_null_iff replay.candidate,strictEqual_isNull replay.chained,pointerFp_null replay.live]
  unfold assertCas succeeds currentOf
  cases present : isNull snapshot.livePointer with
  | true => simp [first,present,check_ok]
  | false =>
    have chained := replay.chained
    rw [pointerFp,present,if_neg (by decide)] at chained
    simp only [first,present,Bool.false_eq_true,if_false,assertSuccession,checks_ok,all_some,
      Bool.and_eq_true,chained,and_true]

theorem check_error (refused : check ok error = .error raised) : raised = error := by
  cases ok with
  | true => cases refused
  | false => exact (Except.error.inj refused).symm

theorem bind_check_error
    (refused : (check ok error >>= fun _ => rest) = .error raised) : raised = error ∨ rest = .error raised := by
  cases ok with
  | true => exact .inr refused
  | false => exact .inl (Except.error.inj refused).symm

theorem assertCas_conflict (refused : assertCas candidate current = .error conflict) :
    conflict.code = "WORKSPACE_GENERATION_CAS_CONFLICT" := by
  unfold assertCas at refused
  split at refused
  · rw [check_error refused]
    rfl
  · cases current with
    | none =>
      cases refused
      rfl
    | some current =>
      rcases bind_check_error refused with rfl | refused
      · rfl
      · rcases bind_check_error refused with rfl | refused
        · rfl
        · rw [check_error refused]
          rfl

theorem generationPointerBytes_invalid (valid : validateGenerationPointer sha256 pointer = .ok ())
    (failed : generationPointerBytes sha256 pointer = .error refused) :
    refused.code = "WORKSPACE_GENERATION_INVALID" := by
  rw [generationPointerBytes,valid] at failed
  cases encoded : canonicalJsonBytes pointer RECORD_LIMITS with
  | ok bytes =>
    rw [encoded] at failed
    cases failed
  | error error =>
    rw [encoded] at failed
    exact congrArg Refusal.code (Except.error.inj failed).symm

theorem readLive_current (slot : pointerOrNull sha256 live = .ok snapshot.livePointer) :
    readLiveGeneration sha256 (fun _ => none) live = .ok (currentOf snapshot) := by
  cases live with
  | none =>
    have null : Value.null = snapshot.livePointer := Except.ok.inj slot
    rw [currentOf,← null]
    rfl
  | some bytes =>
    have parsed := refuseWith_ok.mp slot
    have valid := (parseGenerationPointer_ok sha256 parsed).1
    have present : isNull snapshot.livePointer = false := by
      cases null : isNull snapshot.livePointer with
      | false => rfl
      | true =>
        have exact' := (validateGenerationPointer_valid sha256 valid).exact
        rw [isNull_iff] at null
        rw [null] at exact'
        cases exact'
    rw [currentOf,present,readLiveGeneration,parsed]
    rfl

/-- The publication refuses a conflict exactly where the compare-and-swap fails. -/
theorem conflict_iff (replay : Replay sha256 snapshot)
    (slot : pointerOrNull sha256 live = .ok snapshot.livePointer) :
    (∃ conflict, (publishGeneration sha256 (fun _ => none) live snapshot.candidatePointer).2 =
        .error (.refusal conflict) ∧ conflict.code = "WORKSPACE_GENERATION_CAS_CONFLICT") ↔
      succeeds snapshot = false := by
  have prepared : prepareGeneration sha256 (fun _ => none) live snapshot.candidatePointer =
      (refuseWith (assertCas snapshot.candidatePointer (currentOf snapshot)) >>= fun _ =>
        refuseWith (generationPointerBytes sha256 snapshot.candidatePointer)) := by
    rw [prepareGeneration,replay.candidate,readLive_current slot]
    rfl
  rw [publishGeneration,prepared]
  cases cas : assertCas snapshot.candidatePointer (currentOf snapshot) with
  | error conflict =>
    have unlike : succeeds snapshot = false := by
      cases same : succeeds snapshot with
      | false => rfl
      | true =>
        rw [replay.cas.mpr same] at cas
        cases cas
    exact iff_of_true ⟨conflict,rfl,assertCas_conflict cas⟩ unlike
  | ok _ =>
    rw [replay.cas.mp cas]
    refine iff_of_false ?_ (by decide)
    rintro ⟨conflict,refused,code⟩
    cases encoded : generationPointerBytes sha256 snapshot.candidatePointer with
    | error failure =>
      rw [encoded] at refused
      have same : failure = conflict := Thrown.refusal.inj (Except.error.inj refused)
      rw [← same,generationPointerBytes_invalid replay.candidate encoded] at code
      revert code
      decide
    | ok bytes =>
      rw [encoded] at refused
      cases refused

theorem strictEqual_common (left : strictEqual v common) (right : strictEqual w common) : strictEqual v w := by
  cases v <;> cases w <;> cases common <;> simp_all [strictEqual]

theorem succeeds_of_consistent (consistent : Consistent snapshot) : succeeds snapshot := by
  unfold succeeds
  cases current : currentOf snapshot with
  | none => rfl
  | some live =>
    obtain ⟨workspace,host,generation⟩ := consistent.live live (by simp [current])
    simp only [all_some,Bool.and_eq_true]
    exact ⟨⟨strictEqual_common consistent.host host,strictEqual_common consistent.candidate workspace⟩,generation⟩

theorem generation_of_succeeds (succeeding : succeeds snapshot) :
    ∀ live ∈ currentOf snapshot,
      strictEqual (get snapshot.candidatePointer "priorGeneration") (get live "activeGeneration") := by
  intro live current
  rw [succeeds,mem_def.mp current,all_some,Bool.and_eq_true] at succeeding
  exact succeeding.2

/-- A replay that is called safe can succeed exactly where the records of the snapshot are consistent. -/
theorem safeReplay_publishable_iff
    (replay : classifyGenerationRecovery sha256 snapshot = .ok (.safeReplay candidate)) :
    Publishable sha256 snapshot candidate ↔ Consistent snapshot := by
  obtain ⟨due,rfl⟩ := classify_replay replay
  constructor
  · intro publishable
    have succeeding := due.cas.mp publishable.cas
    have each (live : Value) (current : live ∈ currentOf snapshot) : live ∈ identified snapshot := by
      simp [identified,mem_def.mp current]
    exact ⟨publishable.workspace _ (by simp [identified]),publishable.workspace _ (by simp [identified]),
      publishable.host _ (by simp [identified]),fun live current =>
        ⟨publishable.workspace live (each live current),publishable.host live (each live current),
          generation_of_succeeds succeeding live current⟩⟩
  · intro consistent
    have succeeding := succeeds_of_consistent consistent
    refine ⟨due.cas.mpr succeeding,fun live slot conflict refused code => ?_,fun record there => ?_,
      fun record there => ?_⟩
    · have failing := (conflict_iff due slot).mp ⟨conflict,refused,code⟩
      rw [succeeding] at failing
      cases failing
    · simp only [identified,mem_cons,mem_toList] at there
      rcases there with rfl | rfl | current
      · exact consistent.candidate
      · exact consistent.transaction
      · exact (consistent.live record current).1
    · simp only [identified,mem_cons,mem_toList] at there
      rcases there with rfl | rfl | current
      · exact consistent.host
      · have host := due.host
        cases named : get snapshot.transaction "hostId" <;> rw [named] at host <;> simp_all [isOpaqueIdentity,strictEqual]
      · exact (consistent.live record current).2.1

end Digest

def pointerOf (generation : Int) (path : String) (prior : Value) (priorFingerprint fingerprint : Value) : Value :=
  .object [(ofString "version",.number (.int 1)),
    (ofString "kind",textValue KIND),(ofString "hostId",textValue "h"),
    (ofString "workspaceId",textValue "w"),(ofString "sourcePlatform",textValue "posix"),
    (ofString "activeGeneration",.number (.int generation)),(ofString "generationPath",textValue path),
    (ofString "rootIdentityFingerprint",.string (replicate 64 0x61)),
    (ofString "storageIdentityFingerprint",.string (replicate 64 0x62)),
    (ofString "gitGenerationFingerprint",.string (replicate 64 0x63)),
    (ofString "manifestFingerprint",.string (replicate 64 0x64)),
    (ofString "priorGeneration",prior),(ofString "priorPointerFingerprint",priorFingerprint),
    (ofString "pointerFingerprint",fingerprint)]

def refreshTransaction (candidateFingerprint transactionFingerprint : Value) : Value :=
  let same : Value := .string (replicate 64 0x61)
  let one : Value := .number (.int 1)
  .object [(ofString "version",one),(ofString "kind",textValue "workspace-lifecycle-transaction"),
    (ofString "txId",textValue "t"),(ofString "hostId",textValue "h"),(ofString "mappingId",textValue "m"),
    (ofString "mappingGeneration",one),(ofString "mappingVersion",one),(ofString "workspaceId",textValue "w"),
    (ofString "workspaceGeneration",one),(ofString "sourcePlatform",textValue "posix"),
    (ofString "routeFingerprint",same),(ofString "authorityFingerprint",same),(ofString "inventoryGeneration",one),
    (ofString "anchorFingerprint",same),(ofString "operation",textValue "refresh"),
    (ofString "principalFingerprint",same),(ofString "idempotencyFingerprint",same),
    (ofString "ownerFingerprint",same),(ofString "fenceGeneration",one),
    (ofString "expectedHeadRevision",.number (.int 0)),(ofString "expectedHeadFingerprint",.null),
    (ofString "beforeFingerprint",.string firstDigest),(ofString "candidateFingerprint",candidateFingerprint),
    (ofString "priorFingerprint",.string firstDigest),(ofString "transactionFingerprint",transactionFingerprint)]

def preparedCheckpoint (transactionFingerprint checkpointFingerprint : Value) : Value :=
  .object [(ofString "version",.number (.int 1)),(ofString "kind",textValue "workspace-lifecycle-checkpoint"),
    (ofString "txId",textValue "t"),(ofString "transactionFingerprint",transactionFingerprint),
    (ofString "phase",textValue "prepared"),(ofString "operationEvidenceFingerprint",.null),
    (ofString "checkpointFingerprint",checkpointFingerprint)]

/-- The digests of a candidate, its transaction and its checkpoint. -/
structure ReplayDigests where
  candidate : Units
  transaction : Units
  checkpoint : Units

def secondDigests : ReplayDigests where
  candidate := ofString "69b8a18d8b30adb68cf5fc7598374e97bb04f4b43437216660a7d36000d53a00"
  transaction := ofString "6500f8e5f13ef4307da27ce1cc067496e6c794b06c0447d028a1e7bc70867d45"
  checkpoint := ofString "e8704b5e4d228ff56817a5a0cba32f51fc2c983989a81f5b81eb8bc89769aefd"

def skippedDigests : ReplayDigests where
  candidate := ofString "ad9b796df94bad598c4d155038740684add9d3f3ebaadc2cbd8650f9417fe19d"
  transaction := ofString "7194055705b4b17d6c316377aeb9ac1648c9c1ce9d6c125a41b1b91c2140a732"
  checkpoint := ofString "0b2ede2b8874fe9dc4ccacb33a376a5876cb53cfdccb50ed6253d18d87ae305c"

/-- SHA-256 of the bodies of a first pointer, of a candidate and of its records: they differ in the third
or the fourth byte, or in the generation. -/
def replayDigest (digests : ReplayDigests) (bytes : Bytes) : Units :=
  if bytes.getD 3 0 = 0x6e then digests.transaction
  else if bytes.getD 2 0 = 0x6b then digests.checkpoint
  else if bytes.getD 20 0 = 0x31 then firstDigest
  else digests.candidate

def replaySnapshot (digests : ReplayDigests) (candidate : Value) : Snapshot where
  workspaceId := textValue "w"
  livePointer := firstPointer
  priorPointer := firstPointer
  candidatePointer := candidate
  checkpoint := preparedCheckpoint (.string digests.transaction) (.string digests.checkpoint)
  transaction := refreshTransaction (.string digests.candidate) (.string digests.transaction)
  manualCleanup := .null

def secondCandidate : Value :=
  pointerOf 2 "g2" (.number (.int 1)) (.string firstDigest) (.string secondDigests.candidate)

/-- It names the fingerprint of the first pointer, and a generation that the first pointer does not have. -/
def skippedCandidate : Value :=
  pointerOf 3 "g3" (.number (.int 2)) (.string firstDigest) (.string skippedDigests.candidate)

theorem classified_valid (valid : (validateRecoverySnapshot sha256 snapshot).isOk)
    (disposed : dispositionOf snapshot = disposition) :
    classifyGenerationRecovery sha256 snapshot = .ok disposition := by
  rw [classifyGenerationRecovery,except_unit_bind_ok]
  refine ⟨?_,congrArg Except.ok disposed⟩
  cases validated : validateRecoverySnapshot sha256 snapshot with
  | ok => rfl
  | error => rw [validated] at valid; cases valid

theorem replays_valid :
    (validateRecoverySnapshot (replayDigest secondDigests) (replaySnapshot secondDigests secondCandidate)).isOk = true ∧
    (validateRecoverySnapshot (replayDigest skippedDigests) (replaySnapshot skippedDigests skippedCandidate)).isOk =
      true := by
  simp only [replaySnapshot,secondCandidate,skippedCandidate,secondDigests,skippedDigests,pointerOf,firstPointer,
    firstDigest,preparedCheckpoint,refreshTransaction,textValue,← Envelope.unitsOf_eq]
  decide +kernel

theorem second_replay : classifyGenerationRecovery (replayDigest secondDigests)
    (replaySnapshot secondDigests secondCandidate) = .ok (.safeReplay secondCandidate) :=
  classified_valid replays_valid.1 rfl

theorem skipped_replay : classifyGenerationRecovery (replayDigest skippedDigests)
    (replaySnapshot skippedDigests skippedCandidate) = .ok (.safeReplay skippedCandidate) :=
  classified_valid replays_valid.2 rfl

theorem second_consistent : Consistent (replaySnapshot secondDigests secondCandidate) where
  transaction := rfl
  candidate := rfl
  host := rfl
  live live current := by
    cases current
    exact ⟨rfl,rfl,rfl⟩

theorem safeReplay_publishable_second :
    Publishable (replayDigest secondDigests) (replaySnapshot secondDigests secondCandidate) secondCandidate :=
  (safeReplay_publishable_iff second_replay).mpr second_consistent

theorem safeReplay_conflict : ¬ ∀ (sha256 : List UInt8 → Units) (snapshot : Snapshot) (candidate : Value),
    classifyGenerationRecovery sha256 snapshot = .ok (.safeReplay candidate) →
      Publishable sha256 snapshot candidate := by
  intro publishable
  have cas := (publishable _ _ _ skipped_replay).cas
  have conflicting : assertCas skippedCandidate
    (currentOf (replaySnapshot skippedDigests skippedCandidate)) ≠ .ok () := by
    rintro ⟨⟩
  exact conflicting cas

end GjcRemote.Recovery
