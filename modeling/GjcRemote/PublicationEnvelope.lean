import GjcRemote.PlainRecords
import GjcRemote.Linked

/-! Records of `shared/publication-envelope.js`: the twelve records of a publication, each
checked against its neighbour, and the graph they form. -/
namespace GjcRemote.PublicationEnvelope

open Utf16 StrictJson Record Envelope

set_option maxRecDepth 100000

def fail (message : String) : JsError := failure "PUBLICATION_ENVELOPE_INVALID" message

def transactionKeys : List String :=
  ["version","kind","txId","genesisTxId","fenceGeneration","generation","baselineFingerprint",
    "transactionFingerprint"]

def uKeys : List String :=
  ["version","kind","txId","genesisTxId","fenceGeneration","generation","baselineFingerprint",
    "anchorFingerprint","targetState","attestationFingerprint","authorityReservationFingerprint",
    "authorityCommitSnapshotFingerprint","fenceBindingFingerprint","leaseBindingFingerprint",
    "readerProjectionFingerprint","readerInstanceId","readerStartNonce","readerVersion",
    "publication-uFingerprint"]

def pKeys : List String :=
  ["version","kind","txId","genesisTxId","fenceGeneration","generation","uFingerprint",
    "stateFingerprint","targetState","authorityCommitSnapshotFingerprint","fenceBindingFingerprint",
    "leaseBindingFingerprint","readerInstanceId","readerStartNonce","readerVersion",
    "publication-pFingerprint"]

def sKeys : List String :=
  ["version","kind","txId","genesisTxId","fenceGeneration","generation","pFingerprint",
    "stateFingerprint","payloadFingerprint","targetState","authorityCommitSnapshotFingerprint",
    "fenceBindingFingerprint","readerVersion","publication-sFingerprint"]

def cKeys : List String :=
  ["version","kind","txId","genesisTxId","fenceGeneration","generation","sFingerprint",
    "stateFingerprint","payloadFingerprint","snapshotFingerprint","authorityCommitSnapshotFingerprint",
    "fenceBindingFingerprint","readerInstanceId","readerStartNonce","readerVersion",
    "publication-cFingerprint"]

def qKeys : List String :=
  ["version","kind","txId","genesisTxId","fenceGeneration","generation","cFingerprint",
    "baselineFingerprint","stateFingerprint","payloadFingerprint","snapshotFingerprint",
    "authorityCommitSnapshotFingerprint","fenceBindingFingerprint","publication-qFingerprint"]

def zpKeys : List String :=
  ["version","kind","txId","genesisTxId","fenceGeneration","generation","qFingerprint",
    "publicationFingerprint","stateFingerprint","payloadFingerprint","snapshotFingerprint",
    "publication-zpFingerprint"]

def kKeys : List String :=
  ["version","kind","txId","genesisTxId","fenceGeneration","generation","zpFingerprint",
    "publicationFingerprint","authorityCommitSnapshotFingerprint","checkpointFingerprint",
    "publication-kFingerprint"]

def yKeys : List String :=
  ["version","kind","txId","genesisTxId","fenceGeneration","generation","kFingerprint",
    "publicationFingerprint","targetState","authorityCommitSnapshotFingerprint",
    "fenceBindingFingerprint","targetFingerprint","publication-yFingerprint"]

def phaseKeys : List String :=
  ["version","kind","txId","genesisTxId","fenceGeneration","generation","publicationFingerprint",
    "phase","publicationStateFingerprint"]

def semanticTarget : Value → Bool :=
  isOneOf ["genesis-empty","handshake-pending","managed-empty","managed","legacy-unmigrated","legacy-retained"]

def nullableId (value : Value) : Bool := isNull value || isId value

def reader (record : Value) : Except JsError Unit := do
  let version := get record "readerVersion"
  check (every record ["fenceBindingFingerprint","leaseBindingFingerprint",
      "readerProjectionFingerprint"] isNullableHex) (fail "reader fingerprint")
  check (every record ["readerInstanceId","readerStartNonce"] nullableId &&
      (isNull version || isNumber 2 version)) (fail "reader identity")
  if isNull version then
    check (every record ["fenceBindingFingerprint","leaseBindingFingerprint",
        "readerProjectionFingerprint","readerInstanceId","readerStartNonce"] isNull)
      (fail "reader null branch")
  else
    check (isHex (get record "fenceBindingFingerprint") &&
        every record ["readerInstanceId","readerStartNonce"] isId &&
        isNull (get record "leaseBindingFingerprint") ==
          isNull (get record "readerProjectionFingerprint")) (fail "reader bound branch")

def hexes (record : Value) (keys : List String) : Except JsError Unit :=
  keys.forM fun key => check (isHex (get record key)) (fail s!"{key} relation")

/-- `expected === undefined || record[field] === expected`. -/
def given (record : Value) (field : String) : Value → Bool
  | .other 0 => true
  | expected => strictEqual (get record field) expected

/-- The relation of a record to the one before it, given by its fingerprint, as a whole or
not at all. -/
def continues (record previous : Value) (own theirs : String) (fields : List String) : Bool :=
  match previous with
  | .string _ => strictEqual (get record own) previous
  | _ => !isTruthy previous || (relate record previous [(own,theirs)] && agree record previous fields)

/-- `previous && typeof previous !== "string" && record.fenceGeneration !== previous.fenceGeneration`
fails. -/
def keepsFence (record previous : Value) : Bool :=
  match previous with
  | .string _ => true
  | _ => !isTruthy previous || agree record previous ["fenceGeneration"]

section Digest

variable (sha256 : List UInt8 → Units)

def common (record : Value) (kind : String) (keys : List String) (field : String) :
    Except JsError Unit := do
  check (hasExactKeys record keys && isNumber 1 (get record "version") &&
      isText kind (get record "kind") && isId (get record "txId") && isId (get record "genesisTxId") &&
      isGeneration (get record "fenceGeneration") && isGeneration (get record "generation") &&
      isHex (get record field)) (fail s!"{kind} schema")
  assertFingerprint sha256 record field (fail s!"{kind} schema")

def validatePublicationTransaction (record baselineFingerprint : Value) : Except JsError Unit := do
  common sha256 record "publication-transaction" transactionKeys "transactionFingerprint"
  hexes record ["baselineFingerprint"]
  check (given record "baselineFingerprint" baselineFingerprint) (fail "transaction baseline relation")

def validatePublicationU (record baselineFingerprint : Value) : Except JsError Unit := do
  common sha256 record "publication-u" uKeys "publication-uFingerprint"
  hexes record ["baselineFingerprint","anchorFingerprint","attestationFingerprint",
    "authorityReservationFingerprint","authorityCommitSnapshotFingerprint"]
  check (semanticTarget (get record "targetState")) (fail "u target state")
  reader record
  check (given record "baselineFingerprint" baselineFingerprint) (fail "u baseline relation")

def pRelation : List String :=
  ["targetState","authorityCommitSnapshotFingerprint","fenceBindingFingerprint",
    "leaseBindingFingerprint","readerInstanceId","readerStartNonce","readerVersion"]

def validatePublicationP (record u stateFingerprint : Value) : Except JsError Unit := do
  common sha256 record "publication-p" pKeys "publication-pFingerprint"
  hexes record ["uFingerprint","stateFingerprint","authorityCommitSnapshotFingerprint"]
  check (semanticTarget (get record "targetState")) (fail "p semantic relation")
  check (given record "stateFingerprint" stateFingerprint) (fail "p canonical state relation")
  check (continues record u "uFingerprint" "publication-uFingerprint" pRelation) (fail "p u relation")
  check (keepsFence record u) (fail "p fence relation")

def sRelation : List String :=
  ["stateFingerprint","targetState","authorityCommitSnapshotFingerprint","fenceBindingFingerprint",
    "readerVersion"]

def validatePublicationS (record p stateFingerprint payloadFingerprint : Value) :
    Except JsError Unit := do
  common sha256 record "publication-s" sKeys "publication-sFingerprint"
  hexes record ["pFingerprint","stateFingerprint","payloadFingerprint","authorityCommitSnapshotFingerprint"]
  check (semanticTarget (get record "targetState")) (fail "s semantic relation")
  check (given record "stateFingerprint" stateFingerprint &&
      given record "payloadFingerprint" payloadFingerprint) (fail "s canonical projection relation")
  check (continues record p "pFingerprint" "publication-pFingerprint" sRelation) (fail "s p relation")
  check (keepsFence record p) (fail "s fence relation")

def cRelation : List String :=
  ["stateFingerprint","payloadFingerprint","authorityCommitSnapshotFingerprint",
    "fenceBindingFingerprint","readerVersion"]

def validatePublicationC (record s stateFingerprint payloadFingerprint snapshotFingerprint : Value) :
    Except JsError Unit := do
  common sha256 record "publication-c" cKeys "publication-cFingerprint"
  hexes record ["sFingerprint","stateFingerprint","payloadFingerprint","snapshotFingerprint",
    "authorityCommitSnapshotFingerprint"]
  check (given record "stateFingerprint" stateFingerprint &&
      given record "payloadFingerprint" payloadFingerprint &&
      given record "snapshotFingerprint" snapshotFingerprint) (fail "c canonical projection relation")
  check (continues record s "sFingerprint" "publication-sFingerprint" cRelation) (fail "c s relation")
  check (keepsFence record s) (fail "c fence relation")

def qRelation : List String :=
  ["stateFingerprint","payloadFingerprint","snapshotFingerprint","authorityCommitSnapshotFingerprint",
    "fenceBindingFingerprint"]

def validatePublicationQ (record c stateFingerprint payloadFingerprint snapshotFingerprint : Value) :
    Except JsError Unit := do
  common sha256 record "publication-q" qKeys "publication-qFingerprint"
  hexes record ["cFingerprint","baselineFingerprint","stateFingerprint","payloadFingerprint",
    "snapshotFingerprint","authorityCommitSnapshotFingerprint"]
  check (given record "stateFingerprint" stateFingerprint &&
      given record "payloadFingerprint" payloadFingerprint &&
      given record "snapshotFingerprint" snapshotFingerprint) (fail "q canonical projection relation")
  check (continues record c "cFingerprint" "publication-cFingerprint" qRelation) (fail "q c relation")
  check (keepsFence record c) (fail "q fence relation")

def zpRelation : List String := ["stateFingerprint","payloadFingerprint","snapshotFingerprint"]

def validatePublicationZp (record q stateFingerprint payloadFingerprint snapshotFingerprint
    publicationFingerprint : Value) : Except JsError Unit := do
  common sha256 record "publication-zp" zpKeys "publication-zpFingerprint"
  hexes record ["qFingerprint","publicationFingerprint","stateFingerprint","payloadFingerprint",
    "snapshotFingerprint"]
  check (given record "stateFingerprint" stateFingerprint &&
      given record "payloadFingerprint" payloadFingerprint &&
      given record "snapshotFingerprint" snapshotFingerprint &&
      given record "publicationFingerprint" publicationFingerprint)
    (fail "zp canonical projection relation")
  check (keepsFence record q) (fail "zp fence relation")
  check (continues record q "qFingerprint" "publication-qFingerprint" zpRelation) (fail "zp q relation")

def validatePublicationK (record zp publicationFingerprint checkpointFingerprint : Value) :
    Except JsError Unit := do
  common sha256 record "publication-k" kKeys "publication-kFingerprint"
  hexes record ["zpFingerprint","publicationFingerprint","authorityCommitSnapshotFingerprint",
    "checkpointFingerprint"]
  check (given record "publicationFingerprint" publicationFingerprint &&
      given record "checkpointFingerprint" checkpointFingerprint) (fail "k canonical projection relation")
  check (keepsFence record zp) (fail "k fence relation")
  check (continues record zp "zpFingerprint" "publication-zpFingerprint" ["publicationFingerprint"])
    (fail "k zp relation")

def yRelation : List String := ["publicationFingerprint","authorityCommitSnapshotFingerprint"]

def validatePublicationY (record k targetFingerprint publicationFingerprint : Value) :
    Except JsError Unit := do
  common sha256 record "publication-y" yKeys "publication-yFingerprint"
  hexes record ["kFingerprint","publicationFingerprint","authorityCommitSnapshotFingerprint",
    "targetFingerprint"]
  check (semanticTarget (get record "targetState")) (fail "y target state")
  check (keepsFence record k) (fail "y fence relation")
  check (continues record k "kFingerprint" "publication-kFingerprint" yRelation) (fail "y k relation")
  check (given record "targetFingerprint" targetFingerprint) (fail "y canonical target relation")
  check (given record "publicationFingerprint" publicationFingerprint) (fail "y canonical publication relation")

/-- The members every record repeats of the transaction. -/
def identity : List String := ["txId","genesisTxId","generation","fenceGeneration"]

def validatePublicationState (record transaction : Value) : Except JsError Unit := do
  common sha256 record "publication-state" phaseKeys "publicationStateFingerprint"
  check (isHex (get record "publicationFingerprint") &&
      isOneOf ["prepared","replaced","committed"] (get record "phase")) (fail "publication state schema")
  check (!isTruthy transaction || agree record transaction identity)
    (fail "publication state transaction relation")

inductive Member where
  | transaction | u | p | s | prepared | replaced | committed | c | q | zp | k | y
  deriving DecidableEq, Repr

def Member.all : List Member :=
  [.transaction,.u,.p,.s,.prepared,.replaced,.committed,.c,.q,.zp,.k,.y]

def Member.name : Member → String
  | .transaction => "transaction" | .u => "u" | .p => "p" | .s => "s" | .prepared => "prepared"
  | .replaced => "replaced" | .committed => "committed" | .c => "c" | .q => "q" | .zp => "zp"
  | .k => "k" | .y => "y"

def Member.keys : Member → List String
  | .transaction => transactionKeys | .u => uKeys | .p => pKeys | .s => sKeys
  | .prepared | .replaced | .committed => phaseKeys
  | .c => cKeys | .q => qKeys | .zp => zpKeys | .k => kKeys | .y => yKeys

/-- `records[member]`. -/
def member (records : Value) (m : Member) : Value := get records m.name

def isUndefined : Value → Bool
  | .other 0 => true
  | _ => false

/-- An absent expectation is `none`. -/
def validatePublicationGraph (records : Value) (expected : Option Value) : Except JsError Unit := do
  check (hasExactKeys records (Member.all.map Member.name)) (fail "graph schema")
  let of (m : Member) : Value := member records m
  validatePublicationTransaction sha256 (of .transaction) undefined
  validatePublicationU sha256 (of .u) (get (of .transaction) "baselineFingerprint")
  validatePublicationP sha256 (of .p) (of .u) undefined
  validatePublicationS sha256 (of .s) (of .p) undefined undefined
  [Member.prepared,.replaced,.committed].forM fun m =>
    validatePublicationState sha256 (of m) (of .transaction)
  check (isText "prepared" (get (of .prepared) "phase") && isText "replaced" (get (of .replaced) "phase") &&
    isText "committed" (get (of .committed) "phase")) (fail "graph phase")
  validatePublicationC sha256 (of .c) (of .s) undefined undefined undefined
  validatePublicationQ sha256 (of .q) (of .c) undefined undefined undefined
  validatePublicationZp sha256 (of .zp) (of .q) undefined undefined undefined undefined
  validatePublicationK sha256 (of .k) (of .zp) undefined undefined
  validatePublicationY sha256 (of .y) (of .k) undefined undefined
  check (Member.all.tail.all fun m => agree (of m) (of .transaction) identity &&
      (isUndefined (get (of m) "publicationFingerprint") ||
        agree (of m) (of .zp) ["publicationFingerprint"])) (fail "graph identity")
  match expected with
  | some expected => do
    let found ← canonicalJsonHash sha256 records
    let wanted ← canonicalJsonHash sha256 expected
    check (found == wanted) (fail "graph live relation")
  | none => return ()

end Digest

theorem hasOwn_iff_mem (distinct : (keys.map ofString).Nodup) (exact' : hasExactKeys record keys) :
    hasOwn record key ↔ key ∈ keys := by
  refine ⟨fun own => ?_,fun listed => hasOwn_of_exact exact' listed⟩
  cases record with
  | object entries =>
    simp only [hasOwn,List.any_eq_true,decide_eq_true_eq] at own
    obtain ⟨e,there,same⟩ := own
    have listed := (exactKeys_perm exact' distinct).mem_iff.mp (List.mem_map_of_mem there)
    obtain ⟨other,known,spelled⟩ := List.mem_map.mp listed
    exact ofString_inj (spelled.trans same) ▸ known
  | _ => simp [hasOwn] at own

theorem continues_agree {fields keys : List String} (object : hasExactKeys previous keys)
    (continued : continues record previous own theirs fields) :
    agree record previous fields := by
  cases previous with
  | object entries =>
    simp only [continues,isTruthy,Bool.not_true,Bool.false_or,Bool.and_eq_true] at continued
    exact continued.2
  | _ => simp [hasExactKeys] at object

/-- What each record of an accepted graph repeats of another. -/
def relations : List (Member × Member × List String) :=
  [(.u,.transaction,["baselineFingerprint"]),(.p,.u,pRelation),(.s,.p,sRelation),(.c,.s,cRelation),
    (.q,.c,qRelation),(.zp,.q,zpRelation),(.k,.zp,["publicationFingerprint"]),(.y,.k,yRelation),
    (.prepared,.zp,["publicationFingerprint"]),(.replaced,.zp,["publicationFingerprint"]),
    (.committed,.zp,["publicationFingerprint"])] ++
  Member.all.tail.map fun m => (m,.transaction,identity)

structure Accepted (records : Value) : Prop where
  keys : ∀ m, hasExactKeys (member records m) m.keys = true
  relations : ∀ r ∈ relations,agree (member records r.1) (member records r.2.1) r.2.2 = true

theorem common_keys (accepted : common sha256 record kind keys field = .ok ()) : hasExactKeys record keys := by
  simp only [common,checks_ok,Bool.and_eq_true] at accepted
  tauto

theorem agree_of_given (isHex' : isHex (get other field)) (same : value = get other field)
    (is : given record field value) : agree record other [field] := by
  obtain ⟨text,known,_⟩ := isHex_iff.mp isHex'
  rw [same,known] at is
  simpa [agree,known,given] using is

theorem hexes_mem (accepted : hexes record keys = .ok ()) (listed : key ∈ keys) : isHex (get record key) :=
  check_ok.mp (forM_ok.mp accepted key listed)

theorem validatePublicationTransaction_ok
    (accepted : validatePublicationTransaction sha256 record baselineFingerprint = .ok ()) :
    hasExactKeys record transactionKeys ∧ isHex (get record "baselineFingerprint") := by
  simp only [validatePublicationTransaction,except_unit_bind_ok] at accepted
  exact ⟨common_keys accepted.1,hexes_mem accepted.2.1 (List.mem_singleton.mpr rfl)⟩

theorem validatePublicationU_ok (accepted : validatePublicationU sha256 record baselineFingerprint = .ok ()) :
    hasExactKeys record uKeys ∧ given record "baselineFingerprint" baselineFingerprint := by
  simp only [validatePublicationU,checks_ok] at accepted
  exact ⟨common_keys accepted.1,accepted.2.2.2.2⟩

theorem validatePublicationState_ok (accepted : validatePublicationState sha256 record transaction = .ok ()) :
    hasExactKeys record phaseKeys ∧ isHex (get record "publicationFingerprint") := by
  simp only [validatePublicationState,checks_ok,Bool.and_eq_true] at accepted
  exact ⟨common_keys accepted.1,accepted.2.1.1⟩

theorem validatePublicationP_ok (accepted : validatePublicationP sha256 record u state = .ok ()) :
    hasExactKeys record pKeys ∧ continues record u "uFingerprint" "publication-uFingerprint" pRelation := by
  simp only [validatePublicationP,checks_ok] at accepted
  exact ⟨common_keys accepted.1,by tauto⟩

theorem validatePublicationS_ok (accepted : validatePublicationS sha256 record p state payload = .ok ()) :
    hasExactKeys record sKeys ∧ continues record p "pFingerprint" "publication-pFingerprint" sRelation := by
  simp only [validatePublicationS,checks_ok] at accepted
  exact ⟨common_keys accepted.1,by tauto⟩

theorem validatePublicationC_ok
    (accepted : validatePublicationC sha256 record s state payload snapshot = .ok ()) :
    hasExactKeys record cKeys ∧ continues record s "sFingerprint" "publication-sFingerprint" cRelation := by
  simp only [validatePublicationC,checks_ok] at accepted
  exact ⟨common_keys accepted.1,by tauto⟩

theorem validatePublicationQ_ok
    (accepted : validatePublicationQ sha256 record c state payload snapshot = .ok ()) :
    hasExactKeys record qKeys ∧ continues record c "cFingerprint" "publication-cFingerprint" qRelation := by
  simp only [validatePublicationQ,checks_ok] at accepted
  exact ⟨common_keys accepted.1,by tauto⟩

theorem validatePublicationZp_ok
    (accepted : validatePublicationZp sha256 record q state payload snapshot publication = .ok ()) :
    hasExactKeys record zpKeys ∧ continues record q "qFingerprint" "publication-qFingerprint" zpRelation := by
  simp only [validatePublicationZp,checks_ok] at accepted
  exact ⟨common_keys accepted.1,by tauto⟩

theorem validatePublicationK_ok
    (accepted : validatePublicationK sha256 record zp publication checkpoint = .ok ()) :
    hasExactKeys record kKeys ∧
      continues record zp "zpFingerprint" "publication-zpFingerprint" ["publicationFingerprint"] := by
  simp only [validatePublicationK,checks_ok] at accepted
  exact ⟨common_keys accepted.1,by tauto⟩

theorem validatePublicationY_ok (accepted : validatePublicationY sha256 record k target publication = .ok ()) :
    hasExactKeys record yKeys ∧ continues record k "kFingerprint" "publication-kFingerprint" yRelation := by
  simp only [validatePublicationY,checks_ok] at accepted
  exact ⟨common_keys accepted.1,by tauto⟩

theorem validatePublicationGraph_ok
    (accepted : validatePublicationGraph sha256 records expected = .ok ()) : Accepted records := by
  simp only [validatePublicationGraph,forM_ok,List.forall_mem_cons,checks_ok] at accepted
  obtain ⟨_,transaction,u,p,s,⟨prepared,replaced,committed,_⟩,_,c,q,zp,k,y,shared,_⟩ := accepted
  replace ⟨transaction,hex⟩ := validatePublicationTransaction_ok transaction
  replace ⟨u,baseline⟩ := validatePublicationU_ok u
  replace ⟨p,pu⟩ := validatePublicationP_ok p
  replace ⟨s,sp⟩ := validatePublicationS_ok s
  replace ⟨c,cs⟩ := validatePublicationC_ok c
  replace ⟨q,qc⟩ := validatePublicationQ_ok q
  replace ⟨zp,zpq⟩ := validatePublicationZp_ok zp
  replace ⟨k,kzp⟩ := validatePublicationK_ok k
  replace ⟨y,yk⟩ := validatePublicationY_ok y
  replace ⟨prepared,preparedHex⟩ := validatePublicationState_ok prepared
  replace ⟨replaced,replacedHex⟩ := validatePublicationState_ok replaced
  replace ⟨committed,committedHex⟩ := validatePublicationState_ok committed
  have keys (m : Member) : hasExactKeys (member records m) m.keys := by
    cases m with
    | transaction => exact transaction
    | u => exact u
    | p => exact p
    | s => exact s
    | prepared => exact prepared
    | replaced => exact replaced
    | committed => exact committed
    | c => exact c
    | q => exact q
    | zp => exact zp
    | k => exact k
    | y => exact y
  have same (m : Member) (listed : m ∈ Member.all.tail) :
      agree (member records m) (member records .transaction) identity := by
    have checked := List.all_eq_true.mp shared m listed
    rw [Bool.and_eq_true] at checked
    exact checked.1
  have published (m : Member) (listed : m ∈ Member.all.tail)
      (hex : isHex (get (member records m) "publicationFingerprint")) :
      agree (member records m) (member records .zp) ["publicationFingerprint"] := by
    have checked := List.all_eq_true.mp shared m listed
    obtain ⟨text,known,_⟩ := isHex_iff.mp hex
    have there : isUndefined (get (member records m) "publicationFingerprint") = false := by
      rw [known]
      rfl
    rw [Bool.and_eq_true,there,Bool.false_or] at checked
    exact checked.2
  refine ⟨keys,?_⟩
  rw [PublicationEnvelope.relations,List.forall_mem_append,List.forall_mem_map]
  refine ⟨?_,same⟩
  simp only [List.forall_mem_cons,List.not_mem_nil,false_imp_iff,implies_true,and_true]
  exact ⟨agree_of_given hex rfl baseline,continues_agree u pu,continues_agree p sp,
    continues_agree s cs,continues_agree c qc,continues_agree q zpq,continues_agree zp kzp,
    continues_agree k yk,published .prepared (by decide) preparedHex,
    published .replaced (by decide) replacedHex,published .committed (by decide) committedHex⟩

def storyFields : List String :=
  ["baselineFingerprint","stateFingerprint","payloadFingerprint","snapshotFingerprint",
    "publicationFingerprint","targetState","authorityCommitSnapshotFingerprint",
    "fenceBindingFingerprint","leaseBindingFingerprint","readerInstanceId","readerStartNonce",
    "readerVersion"]

/-- A record behind a gap: the records between it and the earlier ones leave the member out. -/
def behindGap (m : Member) (field : String) : Bool :=
  (m,field) ∈ [(.q,"baselineFingerprint"),(.y,"targetState"),(.y,"fenceBindingFingerprint"),
    (.k,"authorityCommitSnapshotFingerprint"),(.y,"authorityCommitSnapshotFingerprint"),
    (.c,"readerInstanceId"),(.c,"readerStartNonce")]

def repeats (field : String) : List (Member × Member) :=
  (relations.filter fun r => field ∈ r.2.2).map fun r => (r.1,r.2.1)

theorem keys_nodup (m : Member) : (m.keys.map ofString).Nodup := by
  cases m <;> decide

theorem Accepted.related (accepted : Accepted records) (ne : m ≠ n)
    (same : Linked.root (repeats field) fuel m = Linked.root (repeats field) fuel n) :
    Same (get (member records m) field) (get (member records n) field) := by
  refine Linked.related_of_root_eq
    (R := fun m n => Same (get (member records m) field) (get (member records n) field))
    Same.symm Same.trans ?_ ne same
  intro link there
  obtain ⟨r,kept,rfl⟩ := List.mem_map.mp there
  obtain ⟨listed,repeated⟩ := List.mem_filter.mp kept
  exact agree_same (accepted.relations r listed) (of_decide_eq_true repeated)

theorem identity_roots : ∀ field ∈ identity, ∀ m ∈ Member.all,
    Linked.root (repeats field) 2 m = .transaction := by
  decide

/-- The links lead to one root on either side of a gap. -/
theorem story_roots : ∀ field ∈ storyFields, ∀ m ∈ Member.all, ∀ n ∈ Member.all, field ∈ m.keys →
    field ∈ n.keys → behindGap m field = behindGap n field →
      Linked.root (repeats field) 8 m = Linked.root (repeats field) 8 n := by
  decide

theorem Member.mem_all (m : Member) : m ∈ Member.all := by
  cases m <;> decide

/-- An accepted graph tells one story on either side of its gaps. -/
theorem publication_graph_story {records : Value} {expected : Option Value}
    (validated : validatePublicationGraph sha256 records expected = .ok ()) {m n : Member} (ne : m ≠ n) :
    (∀ field ∈ identity, Same (get (member records m) field) (get (member records n) field)) ∧
    (∀ field ∈ storyFields, hasOwn (member records m) field = true →
      hasOwn (member records n) field = true → behindGap m field = behindGap n field →
        Same (get (member records m) field) (get (member records n) field)) := by
  have accepted := validatePublicationGraph_ok validated
  constructor
  · intro field listed
    exact accepted.related ne ((identity_roots field listed m m.mem_all).trans
      (identity_roots field listed n n.mem_all).symm)
  · intro field listed ownM ownN side
    have carriesM := (hasOwn_iff_mem (keys_nodup m) (accepted.keys m)).mp ownM
    have carriesN := (hasOwn_iff_mem (keys_nodup n) (accepted.keys n)).mp ownN
    exact accepted.related ne (story_roots field listed m m.mem_all n n.mem_all carriesM carriesN side)

/-- A sealed record of a publication, with the members of its own. -/
def publicationRecord (kind field : String) (members : List (Units × Value)) (fingerprint : Nat) : Value :=
  .object ([(ascii "fenceGeneration",integer 2),(ascii "generation",integer 1),
    (ascii "genesisTxId",asciiText "genesis"),(ascii "kind",asciiText kind),(ascii "txId",asciiText "tx"),
    (ascii "version",integer 1)] ++ members ++ [(ascii field,hexText fingerprint)])

def transactionRecord : Value := publicationRecord "publication-transaction" "transactionFingerprint"
  [(ascii "baselineFingerprint",repeated 10)]
  0x279bafa0255e51253226702c13c59760da4daa7f372e5f5af5efeaed3a20d394

def uRecord : Value := publicationRecord "publication-u" "publication-uFingerprint"
  [(ascii "anchorFingerprint",repeated 10),(ascii "attestationFingerprint",repeated 10),
    (ascii "authorityCommitSnapshotFingerprint",repeated 10),
    (ascii "authorityReservationFingerprint",repeated 10),(ascii "baselineFingerprint",repeated 10),
    (ascii "fenceBindingFingerprint",repeated 10),(ascii "leaseBindingFingerprint",.null),
    (ascii "readerInstanceId",asciiText "reader"),(ascii "readerProjectionFingerprint",.null),
    (ascii "readerStartNonce",asciiText "nonce"),(ascii "readerVersion",integer 2),
    (ascii "targetState",asciiText "managed")]
  0xcbeeca0f8e95192a422dd53ea82ab5161665ae9d5161105a00fdee0780ab567e

def pRecord : Value := publicationRecord "publication-p" "publication-pFingerprint"
  [(ascii "authorityCommitSnapshotFingerprint",repeated 10),
    (ascii "fenceBindingFingerprint",repeated 10),(ascii "leaseBindingFingerprint",.null),
    (ascii "readerInstanceId",asciiText "reader"),(ascii "readerStartNonce",asciiText "nonce"),
    (ascii "readerVersion",integer 2),(ascii "stateFingerprint",repeated 10),
    (ascii "targetState",asciiText "managed"),
    (ascii "uFingerprint",get uRecord "publication-uFingerprint")]
  0xb40b2456b41cecc09b7cda0ca576a492ef800ab645cb08b641fc9af0c0d17520

def sRecord : Value := publicationRecord "publication-s" "publication-sFingerprint"
  [(ascii "authorityCommitSnapshotFingerprint",repeated 10),(ascii "fenceBindingFingerprint",repeated 10),
    (ascii "pFingerprint",get pRecord "publication-pFingerprint"),
    (ascii "payloadFingerprint",repeated 10),(ascii "readerVersion",integer 2),
    (ascii "stateFingerprint",repeated 10),(ascii "targetState",asciiText "managed")]
  0xba45e57c965a7b3b3e853aee46486e5e540d3b3c71b8209bfb048fd5c195acd7

def preparedRecord : Value := publicationRecord "publication-state" "publicationStateFingerprint"
  [(ascii "phase",asciiText "prepared"),(ascii "publicationFingerprint",repeated 10)]
  0x3ca9e009321bcc5ee30a38d09fe5098cf87c4b61f9c81ca83358d34ad766eac3

def replacedRecord : Value := publicationRecord "publication-state" "publicationStateFingerprint"
  [(ascii "phase",asciiText "replaced"),(ascii "publicationFingerprint",repeated 10)]
  0x0a189aa96b441bb227b17d6bb884ba8b2b54825bba2009779720c0228c7a65e1

def committedRecord : Value := publicationRecord "publication-state" "publicationStateFingerprint"
  [(ascii "phase",asciiText "committed"),(ascii "publicationFingerprint",repeated 10)]
  0x4cdee8d40412d084220d2c625a9eb40608ffca6afd73f35a3e727de68b330090

def cRecord : Value := publicationRecord "publication-c" "publication-cFingerprint"
  [(ascii "authorityCommitSnapshotFingerprint",repeated 10),
    (ascii "fenceBindingFingerprint",repeated 10),(ascii "payloadFingerprint",repeated 10),
    (ascii "readerInstanceId",asciiText "other"),(ascii "readerStartNonce",asciiText "other"),
    (ascii "readerVersion",integer 2),(ascii "sFingerprint",get sRecord "publication-sFingerprint"),
    (ascii "snapshotFingerprint",repeated 10),(ascii "stateFingerprint",repeated 10)]
  0x3698110ff7eedc9506fc77668621c3f4aeca1e734f852d19fe3bcf711864374b

def qRecord : Value := publicationRecord "publication-q" "publication-qFingerprint"
  [(ascii "authorityCommitSnapshotFingerprint",repeated 10),(ascii "baselineFingerprint",repeated 11),
    (ascii "cFingerprint",get cRecord "publication-cFingerprint"),
    (ascii "fenceBindingFingerprint",repeated 10),(ascii "payloadFingerprint",repeated 10),
    (ascii "snapshotFingerprint",repeated 10),(ascii "stateFingerprint",repeated 10)]
  0x9c740e168139e296c889f627eb03c06768b0f5da3150b20428521c46ae475f46

def zpRecord : Value := publicationRecord "publication-zp" "publication-zpFingerprint"
  [(ascii "payloadFingerprint",repeated 10),(ascii "publicationFingerprint",repeated 10),
    (ascii "qFingerprint",get qRecord "publication-qFingerprint"),
    (ascii "snapshotFingerprint",repeated 10),(ascii "stateFingerprint",repeated 10)]
  0xcf3f9ec5f053dc1aefa005ca6e31d88799e648ac5c3cbd9d71cd0b69289f2fb1

def kRecord : Value := publicationRecord "publication-k" "publication-kFingerprint"
  [(ascii "authorityCommitSnapshotFingerprint",repeated 11),
    (ascii "checkpointFingerprint",repeated 10),(ascii "publicationFingerprint",repeated 10),
    (ascii "zpFingerprint",get zpRecord "publication-zpFingerprint")]
  0xb9873ae3ba2f5827ce693930cac37eb09b0326297276bfefc53a58c13c08eb36

def yRecord : Value := publicationRecord "publication-y" "publication-yFingerprint"
  [(ascii "authorityCommitSnapshotFingerprint",repeated 11),(ascii "fenceBindingFingerprint",repeated 11),
    (ascii "kFingerprint",get kRecord "publication-kFingerprint"),
    (ascii "publicationFingerprint",repeated 10),(ascii "targetFingerprint",repeated 10),
    (ascii "targetState",asciiText "managed-empty")]
  0x577f67d6a99eed90a61e881dd7ca0932571802f2aee4646dde4edb4ab5c45e1c

def publicationRecords : List (Value × String × Nat) :=
  [(transactionRecord,"transactionFingerprint",
      0x279bafa0255e51253226702c13c59760da4daa7f372e5f5af5efeaed3a20d394),
    (uRecord,"publication-uFingerprint",0xcbeeca0f8e95192a422dd53ea82ab5161665ae9d5161105a00fdee0780ab567e),
    (pRecord,"publication-pFingerprint",0xb40b2456b41cecc09b7cda0ca576a492ef800ab645cb08b641fc9af0c0d17520),
    (sRecord,"publication-sFingerprint",0xba45e57c965a7b3b3e853aee46486e5e540d3b3c71b8209bfb048fd5c195acd7),
    (preparedRecord,"publicationStateFingerprint",
      0x3ca9e009321bcc5ee30a38d09fe5098cf87c4b61f9c81ca83358d34ad766eac3),
    (replacedRecord,"publicationStateFingerprint",
      0x0a189aa96b441bb227b17d6bb884ba8b2b54825bba2009779720c0228c7a65e1),
    (committedRecord,"publicationStateFingerprint",
      0x4cdee8d40412d084220d2c625a9eb40608ffca6afd73f35a3e727de68b330090),
    (cRecord,"publication-cFingerprint",0x3698110ff7eedc9506fc77668621c3f4aeca1e734f852d19fe3bcf711864374b),
    (qRecord,"publication-qFingerprint",0x9c740e168139e296c889f627eb03c06768b0f5da3150b20428521c46ae475f46),
    (zpRecord,"publication-zpFingerprint",0xcf3f9ec5f053dc1aefa005ca6e31d88799e648ac5c3cbd9d71cd0b69289f2fb1),
    (kRecord,"publication-kFingerprint",0xb9873ae3ba2f5827ce693930cac37eb09b0326297276bfefc53a58c13c08eb36),
    (yRecord,"publication-yFingerprint",0x577f67d6a99eed90a61e881dd7ca0932571802f2aee4646dde4edb4ab5c45e1c)]

def publicationDigest : List UInt8 → Units := sealing publicationRecords

theorem publicationRecords_sealed : areSealed ["kind","phase"] publicationRecords = true := by
  simp only [areSealed,textCodes,without_byCode,byCode]
  decide +kernel

theorem publication_asserted (i : Nat) (located : publicationRecords[i]? = some r) (error : JsError) :
    assertFingerprint publicationDigest r.1 r.2.1 error = .ok () :=
  sealing_asserted publicationRecords_sealed (List.mem_of_getElem? located) error

def gapped : Value :=
  .object [(ofString "transaction",transactionRecord),(ofString "u",uRecord),(ofString "p",pRecord),
    (ofString "s",sRecord),(ofString "prepared",preparedRecord),(ofString "replaced",replacedRecord),
    (ofString "committed",committedRecord),(ofString "c",cRecord),(ofString "q",qRecord),
    (ofString "zp",zpRecord),(ofString "k",kRecord),(ofString "y",yRecord)]

theorem gapped_evaluated : (validatePublicationGraph publicationDigest gapped none).isOk = true := by
  simp only [validatePublicationGraph,validatePublicationTransaction,validatePublicationU,
    validatePublicationP,validatePublicationS,validatePublicationState,validatePublicationC,
    validatePublicationQ,validatePublicationZp,validatePublicationK,validatePublicationY,common,
    member,Member.name,gapped,get_cons,String.reduceEq,reduceIte,List.forM_eq_forM,List.forM_cons,
    publication_asserted 0 rfl,publication_asserted 1 rfl,publication_asserted 2 rfl,
    publication_asserted 3 rfl,publication_asserted 4 rfl,publication_asserted 5 rfl,
    publication_asserted 6 rfl,publication_asserted 7 rfl,publication_asserted 8 rfl,
    publication_asserted 9 rfl,publication_asserted 10 rfl,publication_asserted 11 rfl]
  simp only [hasExactKeys,hexes,semanticTarget,reader,given,continues,keepsFence,relate,agree,every,isOneOf,
    byCode]
  decide +kernel

/-- An accepted graph whose records carry different values under one name, for each member
that has a gap. -/
theorem gapped_two_stories : validatePublicationGraph publicationDigest gapped none = .ok () ∧
    agree (member gapped .q) (member gapped .u) ["baselineFingerprint"] = false ∧
    agree (member gapped .y) (member gapped .u) ["targetState"] = false ∧
    agree (member gapped .y) (member gapped .u) ["fenceBindingFingerprint"] = false ∧
    agree (member gapped .k) (member gapped .u) ["authorityCommitSnapshotFingerprint"] = false ∧
    agree (member gapped .c) (member gapped .u) ["readerInstanceId"] = false ∧
    agree (member gapped .c) (member gapped .u) ["readerStartNonce"] = false := by
  refine ⟨isOk_unit gapped_evaluated,?_⟩
  simp only [member,Member.name,gapped,get_cons,String.reduceEq,reduceIte]
  simp only [agree,byCode]
  decide +kernel

theorem gapped_story :
    (∀ field ∈ identity, Same (get (member gapped .u) field) (get (member gapped .y) field)) ∧
    (∀ field ∈ storyFields, hasOwn (member gapped .u) field = true →
      hasOwn (member gapped .y) field = true → behindGap .u field = behindGap .y field →
        Same (get (member gapped .u) field) (get (member gapped .y) field)) :=
  publication_graph_story (isOk_unit gapped_evaluated) (by decide)

end GjcRemote.PublicationEnvelope
