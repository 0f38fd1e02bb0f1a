import GjcRemote.Envelope

/-! Records of `shared/service-lifecycle-envelope.js`: the proofs of a service transaction,
the transaction itself and the head of its journal. -/
namespace GjcRemote.ServiceEnvelope

open Utf16 StrictJson Record Envelope

def fail (message : String) : JsError := failure "SERVICE_LIFECYCLE_ENVELOPE_INVALID" message

def SERVICE_MUTATION_OPERATIONS : List String := ["install","update","rollback","uninstall"]

def SERVICE_TRANSACTION_PHASES : List String :=
  ["prepared","sequence-reserved","release-published","transition-marker-intent","stopping",
    "quiescent","resource-published","trial-start-intent","trial-start-observed","starting",
    "startup-observed","activation-observed","tombstoned","resource-removed","references-released",
    "committed","manual-cleanup"]

/-- `SERVICE_STATUS_VALUES.activation`. -/
def activations : List String :=
  ["enabled","suppressed-controller-startable","disabled-not-startable","drifted","unknown"]

def PLATFORM_TUPLES : List String := ["linux:x64","linux:arm64","win32:x64"]

mutual
/-- `String(value)`, as a template and a member access take it. -/
def toText : Value → Units
  | .null => ofString "null"
  | .bool value => renderBool value
  | .number n => stringifyNumber n
  | .string text => text
  | .array items => List.intercalate [0x2C] (itemTexts items)
  | .object _ => ofString "[object Object]"
  | .other _ => ofString "undefined"
def itemTexts : List Value → List Units
  | [] => []
  | item :: rest => (if isNullish item then [] else toText item) :: itemTexts rest
end

def isLower (u : UInt16) : Bool := 0x61 ≤ u && u ≤ 0x7a
def isDecimal (u : UInt16) : Bool := 0x30 ≤ u && u ≤ 0x39
def isAlphanumeric (u : UInt16) : Bool := isDecimal u || isLower u || (0x41 ≤ u && u ≤ 0x5a)
def isHexDigit (u : UInt16) : Bool := isDecimal u || (0x61 ≤ u && u ≤ 0x66)

/-- `/^[A-Za-z0-9][A-Za-z0-9._-]{0,127}$/`. -/
def SAFE_ID : Units → Bool
  | [] => false
  | first :: rest =>
    isAlphanumeric first && rest.length ≤ 127 &&
      rest.all fun u => isAlphanumeric u || u == 0x2e || u == 0x5f || u == 0x2d

/-- `/^[0-9a-f]{32}$/`. -/
def NONCE (text : Units) : Bool := text.length == 32 && text.all isHexDigit

/-- `/^[a-z0-9](?:[a-z0-9-]{0,30}[a-z0-9])?-[0-9a-f]{64}$/`: the digest has a length of its
own, so the slug is what is left of it. -/
def DAEMON_SERVICE_KEY (text : Units) : Bool :=
  let slug := text.take (text.length - 65)
  let digest := text.drop (text.length - 65)
  slug.length ≤ 32 && slug.head?.any (fun u => isLower u || isDecimal u) &&
    slug.getLast?.any (fun u => isLower u || isDecimal u) &&
    slug.all (fun u => isLower u || isDecimal u || u == 0x2d) &&
    digest.head? == some 0x2d && digest.tail.length == 64 && digest.tail.all isHexDigit

def isSafeId : Value → Bool
  | .string text => SAFE_ID text
  | _ => false

def isNonce : Value → Bool
  | .string text => NONCE text
  | _ => false

def validateTuple (platform architecture : Value) : Except JsError Unit :=
  check (PLATFORM_TUPLES.any fun tuple => ofString tuple == toText platform ++ 0x3A :: toText architecture)
    (fail "unsupported platform tuple")

/-- `inferred` of `validateServiceKey`. -/
def inferredComponent : Value → Option String
  | .string text =>
    if text == ofString "bot" then some "bot"
    else if DAEMON_SERVICE_KEY text then some "daemon"
    else none
  | _ => none

def validateComponentAndKey (component serviceKey : Value) : Except JsError Unit := do
  check (isOneOf ["bot","daemon"] component) (fail "service identity")
  check ((inferredComponent serviceKey).any fun inferred => isText inferred component) (fail "service key")

def text (value : String) : Value := .string (ofString value)
def number (value : Int) : Value := .number (.int value)

def record (members : List (String × Value)) : Value :=
  .object (members.map fun member => (ofString member.1,member.2))

theorem get_record_cons (name key : String) (value : Value) (rest : List (String × Value)) :
    get (record ((name,value) :: rest)) key = if name = key then value else get (record rest) key := by
  by_cases equal : name = key
  · simp [Record.get,record,equal]
  · have apart : ofString name ≠ ofString key := fun same => equal (ofString_inj same)
    rw [if_neg equal]
    simp only [Record.get,record,List.map_cons,List.find?_cons,decide_eq_false apart]

theorem hasExactKeys_record (members : List (String × Value)) (keys : List String) :
    hasExactKeys (record members) keys =
      (decide (members.length = keys.length) && keys.all fun key => members.any fun m => m.1 = key) := by
  have own (key : String) : hasOwn (record members) key = members.any fun m => decide (m.1 = key) := by
    rw [record,hasOwn,List.any_map]
    congr 1
    funext member
    by_cases equal : member.1 = key
    · simp [equal]
    · simpa [equal] using fun same => equal (ofString_inj same)
  rw [record] at own ⊢
  simp only [hasExactKeys,List.length_map,own]

def linuxState (phase : String) (loaded : Bool) (unitFileState restartPolicy activation : String) : Value :=
  record [("schemaVersion",number 1),("kind",text "linux-service-state"),("phase",text phase),
    ("loaded",.bool loaded),("masked",.bool false),("unitFileState",text unitFileState),
    ("restartPolicy",text restartPolicy),("inboundActivatorCount",number 0),
    ("hasStartBlockingCondition",.bool false),("activation",text activation)]

def windowsState (phase : String) (exists' : Bool) (ownershipMarker startType failureActions : String)
    (failureResetSeconds : Int) (activation : String) : Value :=
  record [("schemaVersion",number 1),("kind",text "windows-service-state"),("phase",text phase),
    ("exists",.bool exists'),("ownershipMarker",text ownershipMarker),("startType",text startType),
    ("failureActions",text failureActions),("failureResetSeconds",number failureResetSeconds),
    ("failureActionsOnNonCrash",.bool false),("activation",text activation)]

def PLATFORM_STATE_TEMPLATES : List (String × List (String × Value)) :=
  [("linux",[("absent",linuxState "absent" false "absent" "none" "disabled-not-startable"),
      ("trial",linuxState "trial" true "disabled" "no" "suppressed-controller-startable"),
      ("final-restart-armed",
        linuxState "final-restart-armed" true "disabled" "on-failure" "suppressed-controller-startable"),
      ("final",linuxState "final" true "enabled" "on-failure" "enabled")]),
    ("win32",
    [("absent",windowsState "absent" false "none" "absent" "none" 0 "disabled-not-startable"),
      ("created-protected",
        windowsState "created-protected" true "transition" "disabled" "none" 0 "disabled-not-startable"),
      ("trial",windowsState "trial" true "transition" "demand" "none" 0 "suppressed-controller-startable"),
      ("final-auto",windowsState "final-auto" true "final" "auto" "none" 0 "enabled"),
      ("final",windowsState "final" true "final" "auto" "restart-10s,restart-10s,restart-10s,none" 600
        "enabled")])]

/-- `table[key]`, where no key of the prototype leads to a record that is accepted. -/
def lookupText {α : Type} (table : List (String × α)) (key : Value) : Option α :=
  (table.find? fun entry => ofString entry.1 == toText key).map Prod.snd

def memberNames : Value → List Units
  | .object entries => entries.map Prod.fst
  | _ => []

section Digest

variable (sha256 : List UInt8 → Units)

def validateServicePlatformState (state platform : Value) : Except JsError Unit := do
  check (isPlainObject state && (lookupText PLATFORM_STATE_TEMPLATES platform).isSome)
    (fail "platform service state")
  let template := ((lookupText PLATFORM_STATE_TEMPLATES platform).bind fun templates =>
    lookupText templates (get state "phase")).getD .null
  check (isPlainObject template && (memberNames state).length = (memberNames template).length &&
      (memberNames template).all fun name => name ∈ memberNames state)
    (fail "platform service state relation")
  let own ← canonicalJsonHash sha256 state
  let expected ← canonicalJsonHash sha256 template
  check (own == expected) (fail "platform service state relation")

def stableProofKeys (field : String) : List String :=
  ["disposition","manifestFingerprint","resourceProof","applicationManifestFingerprint",
    "shawlManifestFingerprint","serviceGeneration","activation",field]

def validateStableProof (proof : Value) (field : String) (platform : Value) : Except JsError Unit := do
  let fingerprints := ["manifestFingerprint","resourceProof","applicationManifestFingerprint",
    "shawlManifestFingerprint"]
  check (hasExactKeys proof (stableProofKeys field) &&
      isOneOf ["absent","stable"] (get proof "disposition") && every proof fingerprints isNullableHex &&
      isNonNegative (get proof "serviceGeneration") && isOneOf activations (get proof "activation") &&
      isHex (get proof field))
    (fail s!"{field} schema")
  if isText "absent" (get proof "disposition") then
    check (every proof fingerprints isNull && isNumber 0 (get proof "serviceGeneration") &&
        isText "disabled-not-startable" (get proof "activation"))
      (fail s!"{field} absent relation")
  else
    check (every proof ["manifestFingerprint","resourceProof","applicationManifestFingerprint"] isHex &&
        isGeneration (get proof "serviceGeneration") && isText "enabled" (get proof "activation") &&
        isText "win32" platform == isHex (get proof "shawlManifestFingerprint"))
      (fail s!"{field} stable relation")
  assertFingerprint sha256 proof field (fail s!"{field} fingerprint")

def validateServiceOldProof (proof platform : Value) : Except JsError Unit :=
  validateStableProof sha256 proof "oldFingerprint" platform

def validateServiceFinalProof (proof platform : Value) : Except JsError Unit :=
  validateStableProof sha256 proof "finalFingerprint" platform

def candidateKeys : List String :=
  ["disposition","applicationManifestFingerprint","shawlManifestFingerprint","releaseSequence",
    "releaseTreeFingerprint","compatibilityFingerprint","candidateFingerprint"]

def validateServiceCandidateProof (candidate platform : Value) : Except JsError Unit := do
  let fingerprints := ["applicationManifestFingerprint","shawlManifestFingerprint",
    "releaseTreeFingerprint","compatibilityFingerprint"]
  check (hasExactKeys candidate candidateKeys && isOneOf ["none","release"] (get candidate "disposition") &&
      every candidate fingerprints isNullableHex && isNonNegative (get candidate "releaseSequence") &&
      isHex (get candidate "candidateFingerprint"))
    (fail "candidate proof schema")
  if isText "none" (get candidate "disposition") then
    check (every candidate fingerprints isNull && isNumber 0 (get candidate "releaseSequence"))
      (fail "empty candidate proof relation")
  else
    check (isHex (get candidate "applicationManifestFingerprint") &&
        isGeneration (get candidate "releaseSequence") && isHex (get candidate "releaseTreeFingerprint") &&
        isHex (get candidate "compatibilityFingerprint") &&
        isText "win32" platform == isHex (get candidate "shawlManifestFingerprint"))
      (fail "release candidate proof relation")
  assertFingerprint sha256 candidate "candidateFingerprint" (fail "candidate proof fingerprint")

def transitionKeys : List String :=
  ["oldFingerprint","candidateFingerprint","expectedBeforeResourceFingerprint",
    "expectedAfterResourceFingerprint","platformResourceFingerprint","platformState",
    "transitionFingerprint"]

def validateServiceTransitionProof (transition platform : Value) : Except JsError Unit := do
  check (hasExactKeys transition transitionKeys &&
      every transition ["oldFingerprint","candidateFingerprint"] isHex &&
      every transition ["expectedBeforeResourceFingerprint","expectedAfterResourceFingerprint"] isNullableHex &&
      every transition ["platformResourceFingerprint","transitionFingerprint"] isHex)
    (fail "transition proof schema")
  validateServicePlatformState sha256 (get transition "platformState") platform
  assertFingerprint sha256 transition "transitionFingerprint" (fail "transition proof fingerprint")

def transactionKeys : List String :=
  ["schemaVersion","kind","transactionId","transactionNonce","operation","component","serviceKey",
    "platform","architecture","serviceGeneration","old","candidate","transition","final","phase",
    "substep","previousJournalFingerprint","transactionFingerprint"]

def validateServiceTransaction (transaction : Value) : Except JsError Unit := do
  let platform := get transaction "platform"
  let old := get transaction "old"
  let candidate := get transaction "candidate"
  let transition := get transaction "transition"
  let final := get transaction "final"
  check (hasExactKeys transaction transactionKeys && isNumber 1 (get transaction "schemaVersion") &&
      isText "service-lifecycle-transaction" (get transaction "kind") &&
      isSafeId (get transaction "transactionId") && isNonce (get transaction "transactionNonce") &&
      isOneOf SERVICE_MUTATION_OPERATIONS (get transaction "operation") &&
      isGeneration (get transaction "serviceGeneration") &&
      isOneOf SERVICE_TRANSACTION_PHASES (get transaction "phase") &&
      isOneOf ["none","intent","action","observed"] (get transaction "substep") &&
      isNullableHex (get transaction "previousJournalFingerprint") &&
      isHex (get transaction "transactionFingerprint"))
    (fail "service transaction schema")
  validateTuple platform (get transaction "architecture")
  validateComponentAndKey (get transaction "component") (get transaction "serviceKey")
  validateServiceOldProof sha256 old platform
  validateServiceCandidateProof sha256 candidate platform
  validateServiceTransitionProof sha256 transition platform
  validateServiceFinalProof sha256 final platform
  check (agree transition old ["oldFingerprint"] && agree transition candidate ["candidateFingerprint"])
    (fail "transaction O/C/T relation")
  let installing := isText "install" (get transaction "operation")
  let uninstalling := isText "uninstall" (get transaction "operation")
  check (installing == isText "absent" (get old "disposition") &&
      uninstalling == isText "none" (get candidate "disposition") &&
      uninstalling == isText "absent" (get final "disposition"))
    (fail "transaction operation tuple relation")
  check (installing || isText "stable" (get old "disposition")) (fail "transaction old tuple")
  check (uninstalling || (isText "release" (get candidate "disposition") &&
      isText "stable" (get final "disposition")))
    (fail "transaction candidate/final tuple")
  check (isNext (get transaction "serviceGeneration") (get old "serviceGeneration") &&
      (uninstalling || agree final transaction ["serviceGeneration"]))
    (fail "transaction generation relation")
  check (uninstalling || agree final candidate ["applicationManifestFingerprint","shawlManifestFingerprint"])
    (fail "transaction C/F relation")
  let before := get transition "expectedBeforeResourceFingerprint"
  check (if installing then isNull before else isHex before) (fail "transaction before-resource relation")
  let after := get transition "expectedAfterResourceFingerprint"
  check (if uninstalling then isNull after else isHex after) (fail "transaction after-resource relation")
  let firstInstallRecord := isText "prepared" (get transaction "phase") &&
    isText "none" (get transaction "substep") && installing &&
    isNumber 1 (get transaction "serviceGeneration")
  let previous := get transaction "previousJournalFingerprint"
  check (if firstInstallRecord then isNull previous else isHex previous) (fail "transaction journal chain")
  assertFingerprint sha256 transaction "transactionFingerprint" (fail "service transaction fingerprint")

def journalHeadKeys : List String :=
  ["schemaVersion","kind","serviceKey","component","platform","architecture","sequence",
    "serviceGeneration","transactionId","transactionNonce","transactionFingerprint",
    "previousJournalFingerprint","headFingerprint"]

def validateServiceJournalHead (head : Value) : Except JsError Unit := do
  check (hasExactKeys head journalHeadKeys && isNumber 1 (get head "schemaVersion") &&
      isText "service-journal-head" (get head "kind") && isGeneration (get head "sequence") &&
      isGeneration (get head "serviceGeneration") && isSafeId (get head "transactionId") &&
      isNonce (get head "transactionNonce") && isHex (get head "transactionFingerprint") &&
      isNullableHex (get head "previousJournalFingerprint") && isHex (get head "headFingerprint"))
    (fail "service journal head")
  validateTuple (get head "platform") (get head "architecture")
  validateComponentAndKey (get head "component") (get head "serviceKey")
  check (isNumber 1 (get head "sequence") == isNull (get head "previousJournalFingerprint"))
    (fail "service journal head chain")
  assertFingerprint sha256 head "headFingerprint" (fail "service journal head fingerprint")

/-- The fields come before the fingerprint that covers them. -/
def buildServiceJournalHead (fields : List (String × Value)) : Except JsError Value := do
  let members := ("schemaVersion",number 1) :: ("kind",text "service-journal-head") :: fields
  let own ← fingerprint sha256 (record (members ++ [("headFingerprint",.null)])) "headFingerprint"
  let head := record (members ++ [("headFingerprint",.string own)])
  validateServiceJournalHead sha256 head
  return head

end Digest

end GjcRemote.ServiceEnvelope
