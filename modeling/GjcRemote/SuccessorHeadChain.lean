import GjcRemote.SuccessorEnvelope
import GjcRemote.PlainRecords

/-! Chains of successor heads from none. The transition validator relates neighbours only;
here is what that makes of a whole chain: five phases an operation, one step of the
sequence and the fence from each operation to the next. -/
namespace GjcRemote.SuccessorEnvelope

open Utf16 StrictJson Record Envelope Nat
open Bool hiding or_false

set_option maxRecDepth 100000

variable {sha256 : List UInt8 → Units}

structure ValidHead (head : Value) : Prop where
  phase : ∃ level : Nat, level < 5 ∧ phaseLevel head = level
  fence : ∃ fence, safeInteger (get head "fenceGeneration") = some fence ∧ 1 ≤ fence
  sequence : ∃ sequence, safeInteger (get head "sequence") = some sequence ∧ 1 ≤ sequence
  complete : phaseLevel head = 4 → ∀ field ∈ evidenceFields, get head field ≠ .null

theorem phaseLevel_of_phase (phase : isOneOf phases (get head "phase")) :
    ∃ level : Nat, level < 5 ∧ phaseLevel head = level := by
  unfold phaseLevel
  cases found : phases.findIdx? fun phase => isText phase (get head "phase") with
  | none =>
    rw [List.findIdx?_eq_none_iff] at found
    obtain ⟨text,listed,same⟩ := List.any_eq_true.mp phase
    exact absurd same (by simp [found text listed])
  | some level =>
    obtain ⟨bound,_⟩ := List.findIdx?_eq_some_iff_getElem.mp found
    exact ⟨level,by simpa [phases] using bound,rfl⟩

theorem phaseLevel_of_text (text : isText phase (get head "phase")) :
    phaseLevel head = phaseLevel (.object [(ofString "phase",.string (ofString phase))]) := by
  rw [phaseLevel,phaseLevel,isText_iff.mp text]
  rfl

section

variable (validated : validateAuthoritySuccessorHead sha256 head request authority = .ok ())
include validated

theorem validateAuthoritySuccessorHead_valid
    :
    ValidHead head := by
  simp only [validateAuthoritySuccessorHead,checks_ok,and_eq_true,assertFence] at validated
  obtain ⟨_,_,fence,fields,required,_,_,_⟩ := validated
  refine ⟨phaseLevel_of_phase (by tauto),isGeneration_iff.mp fence,isGeneration_iff.mp (by tauto),?_⟩
  intro terminal field listed null
  rw [terminal] at required
  have present := every_mem required listed
  simp [null,isNull] at present

/-- The request an accepted head names. -/
theorem validateAuthoritySuccessorHead_request (given : isTruthy request) :
    strictEqual (get head "fenceGeneration") (get request "candidateFenceGeneration") := by
  simp only [validateAuthoritySuccessorHead,checks_ok,given,Bool.not_true,Bool.false_or] at validated
  obtain ⟨_,_,_,_,_,_,related,_⟩ := validated
  exact List.all_eq_true.mp related ("fenceGeneration","candidateFenceGeneration") (by simp)

end

theorem assertGenesisRoot_ok (fixed : authority ≠ .null)
    (asserted : assertGenesisRoot record authority = .ok ()) :
    get record "rootGenesisTxId" = rootGenesisTxId authority := by
  rw [assertGenesisRoot,check_ok,or_eq_true,isNull_iff] at asserted
  rcases asserted with null | related
  · exact absurd null fixed
  · simp only [and_eq_true] at related
    obtain ⟨⟨_,opaque'⟩,equal⟩ := related
    cases root : rootGenesisTxId authority with
    | string text => rw [root] at equal; exact same_string (strictEqual_same equal)
    | _ => rw [root] at opaque'; simp [isOpaqueIdentity] at opaque'

variable {predecessor : Value}

theorem validateAuthoritySuccessorRequest_object
    (validated : validateAuthoritySuccessorRequest sha256 request authority predecessor = .ok ()) :
    isTruthy request ∧ isNext (get request "candidateFenceGeneration")
      (get request "previousFenceGeneration") := by
  simp only [validateAuthoritySuccessorRequest,checks_ok,assertKeys,and_eq_true] at validated
  obtain ⟨_,⟨keys,_⟩,_,rest⟩ := validated
  constructor
  · cases request <;> simp [hasExactKeys] at keys
    rfl
  · cases given : isNull predecessor <;>
      simp only [given,Bool.not_true,Bool.not_false,if_true,false_eq_true,if_false,checks_ok,
        and_eq_true] at rest
    · exact rest.2.1.2
    · exact rest.1.2

structure SameOperation (previous next : Value) : Prop where
  level : phaseLevel next = phaseLevel previous + 1
  fence : agree next previous ["fenceGeneration"] = true
  immutable : agree next previous immutableFields = true
  durable : durable previous next = true

structure NextOperation (previous next : Value) : Prop where
  terminal : phaseLevel previous = 4
  reserved : phaseLevel next = 0
  sequence : isNext (get next "sequence") (get previous "sequence") = true
  fence : isNext (get next "fenceGeneration") (get previous "fenceGeneration") = true
  receipt : relate next previous [("previousReceiptFingerprint","receiptFingerprint")] = true

theorem transition_head
    (accepted : validateAuthoritySuccessorHeadTransition sha256 previous next request authority
      predecessor = .ok ()) :
    validateAuthoritySuccessorHead sha256 next request authority = .ok () := by
  rw [validateAuthoritySuccessorHeadTransition,except_unit_bind_ok] at accepted
  exact accepted.1

theorem transition_first (given : isTruthy request)
    (accepted : validateAuthoritySuccessorHeadTransition sha256 .null next request authority
      predecessor = .ok ()) :
    phaseLevel next = 0 ∧ get next "previousHeadFingerprint" = .null ∧
      isNumber 1 (get request "previousFenceGeneration") := by
  rw [validateAuthoritySuccessorHeadTransition,except_unit_bind_ok] at accepted
  obtain ⟨_,accepted⟩ := accepted
  have none : isNull .null := rfl
  cases tuple : isNull predecessor <;>
    simp only [tuple,none,given,Bool.not_true,Bool.not_false,if_true,false_eq_true,if_false,checks_ok,
      and_eq_true,Bool.false_or] at accepted
  case' false => obtain ⟨_,_,accepted⟩ := accepted
  all_goals
    obtain ⟨⟨reserved,unlinked⟩,one,_⟩ := accepted
    exact ⟨phaseLevel_of_text reserved,isNull_iff.mp unlinked,one⟩

theorem transition_next (present : previous ≠ .null)
    (accepted : validateAuthoritySuccessorHeadTransition sha256 previous next request authority
      predecessor = .ok ()) :
    relate next previous [("previousHeadFingerprint","headFingerprint")] ∧
      (SameOperation previous next ∨ NextOperation previous next) := by
  rw [validateAuthoritySuccessorHeadTransition,except_unit_bind_ok] at accepted
  obtain ⟨_,accepted⟩ := accepted
  have there : isNull previous = false := by
    rw [← not_eq_true,isNull_iff]
    exact present
  cases tuple : isNull predecessor <;>
    simp only [tuple,there,Bool.not_true,Bool.not_false,if_true,false_eq_true,if_false,
      except_unit_bind_ok] at accepted
  case' false => obtain ⟨_,_,accepted⟩ := accepted
  all_goals
    obtain ⟨_,_,accepted⟩ := accepted
    split at accepted
    · simp only [checks_ok,and_eq_true,decide_eq_true_eq] at accepted
      obtain ⟨⟨level,linked⟩,fence,immutable,durable⟩ := accepted
      exact ⟨linked,.inl ⟨level,fence,immutable,durable⟩⟩
    · simp only [check_ok,and_eq_true,relate,List.all_cons,List.all_nil,Bool.and_true] at accepted
      obtain ⟨⟨⟨⟨⟨terminal,reserved⟩,sequence⟩,linked,receipt⟩,_⟩,fence⟩ := accepted
      refine ⟨by simpa [relate] using linked,.inr ⟨phaseLevel_of_text terminal,
        phaseLevel_of_text reserved,sequence,fence,by simpa [relate] using receipt⟩⟩

/-- A head with the request and the predecessor tuple it was checked against. -/
structure Link where
  head : Value
  request : Value
  predecessor : Value

def headAt (links : List Link) (i : Nat) : Value := (links[i]?.map Link.head).getD .null

/-- The head before a place of the chain, null at its start. -/
def headBefore (links : List Link) : Nat → Value
  | 0 => .null
  | i + 1 => headAt links i

/-- Every head is accepted from the one before it, with a request accepted under the root. -/
structure HeadChain (sha256 : List UInt8 → Units) (authority : Value) (links : List Link) : Prop where
  requests : ∀ link ∈ links,validateAuthoritySuccessorRequest sha256 link.request authority .null = .ok ()
  transitions : ∀ i link, links[i]? = some link →
    validateAuthoritySuccessorHeadTransition sha256 (headBefore links i) link.head link.request
      authority link.predecessor = .ok ()

/-- Where the head at a place of the chain stands, five heads to an operation. -/
structure Standing (authority : Value) (first : Int) (i : Nat) (head : Value) : Prop where
  phase : phaseLevel head = (i % 5 : Nat)
  sequence : safeInteger (get head "sequence") = some (first + ((i / 5 : Nat) : Int))
  fence : safeInteger (get head "fenceGeneration") = some ((2 : Int) + ((i / 5 : Nat) : Int))
  root : get head "rootGenesisTxId" = rootGenesisTxId authority

variable {links : List Link} {i : Nat}

section

variable (chain : HeadChain sha256 authority links)
include chain

theorem HeadChain.accepted (bound : i < links.length) :
    ∃ request predecessor, isTruthy request ∧
      isNext (get request "candidateFenceGeneration") (get request "previousFenceGeneration") ∧
      validateAuthoritySuccessorHeadTransition sha256 (headBefore links i) (headAt links i) request
        authority predecessor = .ok () := by
  have located : links[i]? = some links[i] := List.getElem?_eq_getElem bound
  have object := validateAuthoritySuccessorRequest_object (chain.requests _ (List.getElem_mem bound))
  have transition := chain.transitions i _ located
  refine ⟨_,links[i].predecessor,object.1,object.2,?_⟩
  rw [headAt,located]
  exact transition

theorem HeadChain.valid (bound : i < links.length) :
    ValidHead (headAt links i) := by
  obtain ⟨_,_,_,_,accepted⟩ := chain.accepted bound
  exact validateAuthoritySuccessorHead_valid (transition_head accepted)

/-- Two neighbours of the chain. -/
theorem HeadChain.next (bound : i + 1 < links.length) :
    relate (headAt links (i + 1)) (headAt links i) [("previousHeadFingerprint","headFingerprint")] =
      true ∧ (SameOperation (headAt links i) (headAt links (i + 1)) ∨
        NextOperation (headAt links i) (headAt links (i + 1))) := by
  obtain ⟨_,_,_,_,accepted⟩ := chain.accepted bound
  refine transition_next ?_ accepted
  intro absent
  obtain ⟨fence,known,_⟩ := (chain.valid (lt_of_succ_lt bound)).fence
  rw [show headAt links i = .null from absent] at known
  simp [Record.get,undefined,safeInteger] at known

end

theorem HeadChain.root (fixed : authority ≠ .null)
    (chain : HeadChain sha256 authority links) (bound : i < links.length) :
    get (headAt links i) "rootGenesisTxId" = rootGenesisTxId authority := by
  obtain ⟨_,_,_,_,accepted⟩ := chain.accepted bound
  have validated := transition_head accepted
  rw [validateAuthoritySuccessorHead,except_unit_bind_ok] at validated
  exact assertGenesisRoot_ok fixed validated.1

/-- One transition moves the standing by one place. -/
theorem Standing.next {previous next : Value}
    (standing : Standing authority first i previous) (valid : ValidHead next)
    (root : get next "rootGenesisTxId" = rootGenesisTxId authority)
    (continues : SameOperation previous next ∨ NextOperation previous next) :
    Standing authority first (i + 1) next := by
  have level := standing.phase
  rcases continues with same | rolling
  · obtain ⟨phase,range,known⟩ := valid.phase
    have advanced := same.level
    rw [level,known] at advanced
    have inside : (i + 1) / 5 = i / 5 ∧ (i + 1) % 5 = i % 5 + 1 := by omega
    refine ⟨?_,?_,?_,root⟩
    · rw [known,inside.2]
      omega
    · rw [inside.1,← standing.sequence]
      exact safeInteger_same (agree_same same.immutable (by simp [immutableFields]))
    · rw [inside.1,← standing.fence]
      exact safeInteger_same (agree_same same.fence (by simp))
  · have last := rolling.terminal
    rw [level] at last
    have across : (i + 1) / 5 = i / 5 + 1 ∧ (i + 1) % 5 = 0 := by omega
    refine ⟨?_,?_,?_,root⟩
    · rw [rolling.reserved,across.2]
      rfl
    · obtain ⟨sequence,before,after⟩ := isNext_iff.mp rolling.sequence
      rw [standing.sequence,Option.some.injEq] at before
      rw [after,across.1,← before,cast_add,cast_one,Int.add_assoc]
    · obtain ⟨fence,before,after⟩ := isNext_iff.mp rolling.fence
      rw [standing.fence,Option.some.injEq] at before
      rw [after,across.1,← before,cast_add,cast_one,Int.add_assoc]

/-- The first head is reserved with fence generation 2. -/
theorem HeadChain.start (fixed : authority ≠ .null)
    (chain : HeadChain sha256 authority links) (bound : 0 < links.length) :
    (∃ first, Standing authority first 0 (headAt links 0)) ∧
      get (headAt links 0) "previousHeadFingerprint" = .null := by
  obtain ⟨request,_,given,next,accepted⟩ := chain.accepted bound
  obtain ⟨reserved,unlinked,one⟩ := transition_first given accepted
  obtain ⟨first,sequence,_⟩ := (chain.valid bound).sequence
  obtain ⟨previous,before,after⟩ := isNext_iff.mp next
  have fence := safeInteger_same
    (strictEqual_same (validateAuthoritySuccessorHead_request (transition_head accepted) given))
  rw [safeInteger_isNumber rfl one,Option.some.injEq] at before
  refine ⟨⟨first,by simpa using reserved,by simpa using sequence,?_,chain.root fixed bound⟩,unlinked⟩
  rw [fence,after,← before]
  rfl

/-- Every head stands where its place says. -/
theorem HeadChain.standing (fixed : authority ≠ .null) (chain : HeadChain sha256 authority links) :
    ∃ first : Int, ∀ i < links.length, Standing authority first i (headAt links i) := by
  by_cases empty : links.length = 0
  · exact ⟨0,fun i bound => by omega⟩
  obtain ⟨⟨first,start⟩,_⟩ := chain.start fixed (Nat.pos_of_ne_zero empty)
  refine ⟨first,fun i => ?_⟩
  induction i with
  | zero => exact fun _ => start
  | succ i ih =>
    exact fun bound => (ih (lt_of_succ_lt bound)).next (chain.valid bound)
      (chain.root fixed bound) (chain.next bound).2

/-- Neighbours of one operation. -/
theorem HeadChain.sameOperation (fixed : authority ≠ .null)
    (chain : HeadChain sha256 authority links) (bound : i + 1 < links.length)
    (operation : (i + 1) / 5 = i / 5) : SameOperation (headAt links i) (headAt links (i + 1)) := by
  obtain ⟨first,standing⟩ := chain.standing fixed
  rcases (chain.next bound).2 with same | rolling
  · exact same
  · have last := rolling.terminal
    rw [(standing i (lt_of_succ_lt bound)).phase] at last
    omega

/-- Neighbours of two operations. -/
theorem HeadChain.nextOperation (fixed : authority ≠ .null)
    (chain : HeadChain sha256 authority links) (bound : i + 1 < links.length) (operation : i % 5 = 4) :
    NextOperation (headAt links i) (headAt links (i + 1)) := by
  obtain ⟨first,standing⟩ := chain.standing fixed
  rcases (chain.next bound).2 with same | rolling
  · have advanced := same.level
    rw [(standing i (lt_of_succ_lt bound)).phase,(standing _ bound).phase] at advanced
    omega
  · exact rolling

variable {field : String}

/-- What the heads of an operation share stays as its earlier head has it. -/
theorem HeadChain.immutable (fixed : authority ≠ .null)
    (chain : HeadChain sha256 authority links) (listed : field ∈ immutableFields)
    (order : i < j) (bound : j < links.length) (operation : i / 5 = j / 5) :
    Same (get (headAt links j) field) (get (headAt links i) field) := by
  induction j,order using le_induction with
  | base => exact agree_same (chain.sameOperation fixed bound operation.symm).immutable listed
  | succ j order ih =>
    have step := chain.sameOperation fixed bound (by omega)
    exact (agree_same step.immutable listed).trans (ih (lt_of_succ_lt bound) (by omega))

theorem durable_same (kept : durable previous next)
    (listed : field ∈ evidenceFields) (present : get previous field ≠ .null) :
    Same (get next field) (get previous field) := by
  have either := List.all_eq_true.mp kept field listed
  rw [or_eq_true,isNull_iff] at either
  exact strictEqual_same (either.resolve_left present)

/-- Evidence that a head has is the evidence of the later heads of its operation. -/
theorem HeadChain.evidence (fixed : authority ≠ .null)
    (chain : HeadChain sha256 authority links) (listed : field ∈ evidenceFields)
    (order : i < j) (bound : j < links.length) (operation : i / 5 = j / 5)
    (present : get (headAt links i) field ≠ .null) :
    Same (get (headAt links j) field) (get (headAt links i) field) := by
  induction j,order using le_induction with
  | base => exact durable_same (chain.sameOperation fixed bound operation.symm).durable listed present
  | succ j order ih =>
    have step := chain.sameOperation fixed bound (by omega)
    have before := ih (lt_of_succ_lt bound) (by omega)
    refine (durable_same step.durable listed fun null => ?_).trans before
    rw [null] at before
    exact present (same_null before.symm)

/-- The operation after the one that ends at `i` names its receipt throughout. -/
theorem HeadChain.receipts (fixed : authority ≠ .null)
    (chain : HeadChain sha256 authority links) (terminal : i % 5 = 4)
    (bound : j < links.length) (operation : i / 5 + 1 = j / 5) :
    Same (get (headAt links j) "previousReceiptFingerprint") (get (headAt links i) "receiptFingerprint") := by
  have reserved := relate_same (chain.nextOperation fixed (i := i) (by omega) terminal).receipt
    (List.mem_singleton.mpr rfl)
  by_cases first : j = i + 1
  · rw [first]
    exact reserved
  · exact (chain.immutable fixed (by simp [immutableFields]) (i := i + 1) (by omega) bound
      (by omega)).trans reserved

structure OneChain (authority : Value) (links : List Link) : Prop where
  standing : ∃ first : Int, ∀ i < links.length, Standing authority first i (headAt links i)
  origin : 0 < links.length → get (headAt links 0) "previousHeadFingerprint" = .null
  linked : ∀ i, i + 1 < links.length →
    Same (get (headAt links (i + 1)) "previousHeadFingerprint") (get (headAt links i) "headFingerprint")
  operation : ∀ i j, i < j → j < links.length → i / 5 = j / 5 → ∀ field ∈ immutableFields,
    Same (get (headAt links j) field) (get (headAt links i) field)
  evidence : ∀ i j, i < j → j < links.length → i / 5 = j / 5 → ∀ field ∈ evidenceFields,
    get (headAt links i) field ≠ .null →
      Same (get (headAt links j) field) (get (headAt links i) field)
  receipts : ∀ i j, i % 5 = 4 → i / 5 + 1 = j / 5 → j < links.length →
    Same (get (headAt links j) "previousReceiptFingerprint") (get (headAt links i) "receiptFingerprint")

/-- Heads accepted one after another under one root form one monotone chain. -/
theorem heads_form_one_chain {authority : Value} {links : List Link} (fixed : authority ≠ .null)
    (chain : HeadChain sha256 authority links) : OneChain authority links where
  standing := chain.standing fixed
  origin := fun bound => (chain.start fixed bound).2
  linked := fun _ bound => relate_same (chain.next bound).1 (List.mem_singleton.mpr rfl)
  operation := fun _ _ order bound operation _ listed =>
    chain.immutable fixed listed order bound operation
  evidence := fun _ _ order bound operation _ listed present =>
    chain.evidence fixed listed order bound operation present
  receipts := fun _ _ terminal operation bound => chain.receipts fixed terminal bound operation

theorem sealing_hashed (sealed' : areSealed names records)
    (listed : (record,field,n) ∈ records) : assertHash (sealing records) record field = .ok () := by
  rw [assertHash,except_unit_bind_ok,check_ok,(sealing_fingerprint sealed' listed).2]
  exact ⟨hexText_isHex _,sealing_asserted sealed' listed _⟩

def chainRequest (anchor : Nat) (sequence : Int) (previousReceipt : Value) (fingerprint : Nat) : Value :=
  .object [(ascii "actorPrincipalFingerprint",repeated 10),(ascii "anchorFingerprint",repeated anchor),
    (ascii "candidateAttestationFingerprint",repeated 10),
    (ascii "candidateAuthorityEpoch",integer (sequence + 1)),
    (ascii "candidateFenceGeneration",integer (sequence + 1)),
    (ascii "candidateMappingGeneration",integer 1),(ascii "candidateRevision",integer (sequence + 1)),
    (ascii "candidateSnapshotFingerprint",repeated 10),(ascii "candidateTargetFingerprint",repeated 10),
    (ascii "candidateTokenConfigGeneration",integer (sequence + 1)),
    (ascii "idempotencyKey",asciiText "key"),(ascii "kind",asciiText "authority-successor-request"),
    (ascii "mappingRecoveryTxFingerprint",.null),(ascii "operation",asciiText "tokens-attest"),
    (ascii "previousAttestationFingerprint",repeated 10),
    (ascii "previousAuthorityEpoch",integer sequence),(ascii "previousFenceGeneration",integer sequence),
    (ascii "previousMappingGeneration",integer 1),(ascii "previousReceiptFingerprint",previousReceipt),
    (ascii "previousRevision",integer sequence),(ascii "previousSnapshotFingerprint",repeated 10),
    (ascii "previousTargetFingerprint",repeated 10),
    (ascii "previousTokenConfigGeneration",integer sequence),
    (ascii "previousWrapperFingerprint",repeated 10),(ascii "readerInstanceId",.null),
    (ascii "readerMode",asciiText "no-reader"),(ascii "readerNonce",.null),
    (ascii "readerStartNonce",.null),(ascii "requestFingerprint",hexText fingerprint),
    (ascii "rootGenesisTxId",asciiText "genesis"),(ascii "sequence",integer sequence),
    (ascii "targetState",asciiText "managed"),(ascii "txId",asciiText "tx"),(ascii "version",integer 1)]

/-- A head with the first `count` of its evidence fingerprints. -/
def chainHead (anchor : Nat) (sequence : Int) (phase : String) (count request : Nat)
    (previousHead previousReceipt : Value) (fingerprint : Nat) : Value :=
  let evidence (i : Nat) : Value := if i < count then repeated 12 else .null
  .object [(ascii "anchorFingerprint",repeated anchor),
    (ascii "authorityCommitSnapshotFingerprint",evidence 1),(ascii "baselineFingerprint",evidence 2),
    (ascii "closeFingerprint",evidence 0),(ascii "fenceGeneration",integer (sequence + 1)),
    (ascii "finalityFingerprint",evidence 5),(ascii "headFingerprint",hexText fingerprint),
    (ascii "historyMarkerFingerprint",evidence 7),(ascii "kind",asciiText "authority-successor-head"),
    (ascii "operation",asciiText "tokens-attest"),(ascii "phase",asciiText phase),
    (ascii "previousHeadFingerprint",previousHead),(ascii "previousReceiptFingerprint",previousReceipt),
    (ascii "publicationKFingerprint",evidence 3),(ascii "publicationYFingerprint",evidence 4),
    (ascii "receiptFingerprint",evidence 6),(ascii "requestFingerprint",hexText request),
    (ascii "rootGenesisTxId",asciiText "genesis"),(ascii "routeDisposition",asciiText "no-route"),
    (ascii "sequence",integer sequence),(ascii "txId",asciiText "tx"),(ascii "version",integer 1)]

def firstRequest : Value :=
  chainRequest 10 1 (repeated 11) 0xed1bcf773f1fa4a783fc9b0250a5882d2315c62e068c354b0b10a335302e41ec

def secondRequest : Value :=
  chainRequest 13 2 (repeated 12) 0xabf73d471170460eb787eb42978bc17425b76f327c17a9f8e666a6c2f5791361

def firstHead : Value := chainHead 10 1 "reserved" 0
  0xed1bcf773f1fa4a783fc9b0250a5882d2315c62e068c354b0b10a335302e41ec .null (repeated 11)
  0xe57c3a814b9c87e014af0141992f840570cb62d01e6a203d260369fb124a7516

def closedHead : Value := chainHead 10 1 "closed" 1
  0xed1bcf773f1fa4a783fc9b0250a5882d2315c62e068c354b0b10a335302e41ec
  (get firstHead "headFingerprint") (repeated 11)
  0x5014aba2cac8a5914baf72cb44750afd8ed78b9ff66f39d147b6e07822ebd879

def replacedHead : Value := chainHead 10 1 "replaced" 5
  0xed1bcf773f1fa4a783fc9b0250a5882d2315c62e068c354b0b10a335302e41ec
  (get closedHead "headFingerprint") (repeated 11)
  0xb440cbc8184091930c1d20e04b0e3c9c7d463bd6aca2ecd223fc76d57f420e93

def pendingHead : Value := chainHead 10 1 "reader-pending" 6
  0xed1bcf773f1fa4a783fc9b0250a5882d2315c62e068c354b0b10a335302e41ec
  (get replacedHead "headFingerprint") (repeated 11)
  0x50aba48f2de32ea048dd45d2c9356fe6ac4bb31fbbddd2875b880460a0d7d2a9

def terminalHead : Value := chainHead 10 1 "terminal" 8
  0xed1bcf773f1fa4a783fc9b0250a5882d2315c62e068c354b0b10a335302e41ec
  (get pendingHead "headFingerprint") (repeated 11)
  0x3ef8128175e501834032a9cf37f771e0f6725f090f6fa9eda34dae71b1a9af23

def secondHead : Value := chainHead 13 2 "reserved" 0
  0xabf73d471170460eb787eb42978bc17425b76f327c17a9f8e666a6c2f5791361
  (get terminalHead "headFingerprint") (repeated 12)
  0x21812474a65eb14b955a57248e5901657077cb5d09fb4a271d01defe4b918d9b

def twoOperations : List Link :=
  [⟨firstHead,firstRequest,.null⟩,⟨closedHead,firstRequest,.null⟩,⟨replacedHead,firstRequest,.null⟩,
    ⟨pendingHead,firstRequest,.null⟩,⟨terminalHead,firstRequest,.null⟩,⟨secondHead,secondRequest,.null⟩]

def chainRecords : List (Value × String × Nat) :=
  [(firstRequest,"requestFingerprint",0xed1bcf773f1fa4a783fc9b0250a5882d2315c62e068c354b0b10a335302e41ec),
    (secondRequest,"requestFingerprint",0xabf73d471170460eb787eb42978bc17425b76f327c17a9f8e666a6c2f5791361),
    (firstHead,"headFingerprint",0xe57c3a814b9c87e014af0141992f840570cb62d01e6a203d260369fb124a7516),
    (closedHead,"headFingerprint",0x5014aba2cac8a5914baf72cb44750afd8ed78b9ff66f39d147b6e07822ebd879),
    (replacedHead,"headFingerprint",0xb440cbc8184091930c1d20e04b0e3c9c7d463bd6aca2ecd223fc76d57f420e93),
    (pendingHead,"headFingerprint",0x50aba48f2de32ea048dd45d2c9356fe6ac4bb31fbbddd2875b880460a0d7d2a9),
    (terminalHead,"headFingerprint",0x3ef8128175e501834032a9cf37f771e0f6725f090f6fa9eda34dae71b1a9af23),
    (secondHead,"headFingerprint",0x21812474a65eb14b955a57248e5901657077cb5d09fb4a271d01defe4b918d9b)]

def chainDigest : List UInt8 → Units := sealing chainRecords

theorem chainRecords_sealed : areSealed ["kind","phase","anchorFingerprint"] chainRecords = true := by
  simp only [areSealed,textCodes,without_byCode,byCode]
  decide +kernel

theorem chain_hashed (i : Nat) (located : chainRecords[i]? = some r) :
    assertHash chainDigest r.1 r.2.1 = .ok () :=
  sealing_hashed chainRecords_sealed (List.mem_of_getElem? located)

theorem twoOperations_evaluated :
    let authority := asciiText "genesis"
    let accepts (request : Value) : Bool :=
      (validateAuthoritySuccessorRequest chainDigest request authority .null).isOk
    let moves (previous next request : Value) : Bool :=
      (validateAuthoritySuccessorHeadTransition chainDigest previous next request authority .null).isOk
    (accepts firstRequest && accepts secondRequest && moves .null firstHead firstRequest &&
      moves firstHead closedHead firstRequest && moves closedHead replacedHead firstRequest &&
      moves replacedHead pendingHead firstRequest && moves pendingHead terminalHead firstRequest &&
      moves terminalHead secondHead secondRequest &&
      !agree firstHead secondHead ["sequence"] && !agree firstHead secondHead ["anchorFingerprint"] &&
      agree firstHead secondHead ["txId"]) = true := by
  simp only [validateAuthoritySuccessorHeadTransition,validateAuthoritySuccessorRequest,
    validateAuthoritySuccessorHead,chain_hashed 0 rfl,chain_hashed 1 rfl,chain_hashed 2 rfl,
    chain_hashed 3 rfl,chain_hashed 4 rfl,chain_hashed 5 rfl,chain_hashed 6 rfl,chain_hashed 7 rfl]
  simp only [assertGenesisRoot,rootGenesisTxId,assertKeys,hasExactKeys,assertFence,relate,agree,every,
    validTargetState,isOneOf,phaseLevel,durable,byCode]
  decide +kernel

theorem twoOperations_chain : HeadChain chainDigest (asciiText "genesis") twoOperations := by
  have evaluated := twoOperations_evaluated
  simp only [and_eq_true] at evaluated
  obtain ⟨⟨⟨⟨⟨⟨⟨⟨⟨⟨first,second⟩,reserved⟩,closed⟩,replaced⟩,pending⟩,terminal⟩,again⟩,_⟩,_⟩,_⟩ :=
    evaluated
  constructor
  · intro link member
    simp only [twoOperations,List.mem_cons,List.not_mem_nil,or_false] at member
    rcases member with rfl | rfl | rfl | rfl | rfl | rfl
    case inr.inr.inr.inr.inr => exact isOk_unit second
    all_goals exact isOk_unit first
  · intro i link located
    obtain ⟨bound,rfl⟩ := List.getElem?_eq_some_iff.mp located
    simp only [twoOperations,List.length_cons,List.length_nil] at bound
    interval_cases i
    · exact isOk_unit reserved
    · exact isOk_unit closed
    · exact isOk_unit replaced
    · exact isOk_unit pending
    · exact isOk_unit terminal
    · exact isOk_unit again

/-- An accepted chain in which the second operation has another anchor and the transaction
id of the first. -/
theorem twoOperations_splice : HeadChain chainDigest (asciiText "genesis") twoOperations ∧
    agree (headAt twoOperations 0) (headAt twoOperations 5) ["sequence"] = false ∧
    agree (headAt twoOperations 0) (headAt twoOperations 5) ["anchorFingerprint"] = false ∧
    agree (headAt twoOperations 0) (headAt twoOperations 5) ["txId"] = true := by
  have evaluated := twoOperations_evaluated
  simp only [and_eq_true,not_eq_true'] at evaluated
  obtain ⟨⟨⟨_,sequence⟩,anchor⟩,transaction⟩ := evaluated
  exact ⟨twoOperations_chain,sequence,anchor,transaction⟩

theorem twoOperations_one_chain : OneChain (asciiText "genesis") twoOperations :=
  heads_form_one_chain (fun null => by cases null) twoOperations_chain

end GjcRemote.SuccessorEnvelope
