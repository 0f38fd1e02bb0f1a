import GjcRemote.ServiceJournal

/-! The boundary of a Windows trial, from `shared/service-lifecycle-envelope.js`, and its
publication over the journal of a service, from `native-control/src/service-store.js`. -/
namespace GjcRemote.TrialBoundary

open Utf16 StrictJson Record Envelope
open ServiceEnvelope ServiceJournal

def startupWindowMs : Int := 60000
def startupCursorFilesPerFamily : Nat := 3
def startupCursorFileBytes : Int := 2 * 1024 * 1024
def startupCursorLogicalBytes : Int := 16 * 1024 * 1024
def startupCursorBytes : Int := 16 * 1024 * 1024
def startupPartialLineBytes : Int := 16384

def numberOf (value : Value) : Int := (safeInteger value).getD 0

/-- `nonnegative(value) && value <= bound`. -/
def isAtMost (bound : Int) (value : Value) : Bool := (safeInteger value).any fun n => 0 ≤ n && n ≤ bound

def isArray : Value → Bool
  | .array _ => true
  | _ => false

def itemsOf : Value → List Value
  | .array items => items
  | _ => []

/-- `items[index]`. -/
def itemAt (value : Value) (index : Nat) : Value := (itemsOf value)[index]?.getD undefined

def textOf : Value → Units
  | .string text => text
  | _ => []

def validateServiceKey (serviceKey : Value) : Except JsError Unit :=
  check (inferredComponent serviceKey).isSome (fail "service key")

def FILE_CURSOR_KEYS : List String :=
  ["identityFingerprint","logicalStartOffset","observedLength","prefixSha256"]

def FAMILY_CURSOR_KEYS : List String :=
  ["family","baseName","directoryIdentityFingerprint","files","nextLogicalOffset","partialLineBytes",
    "absenceFingerprint"]

def CURSOR_SET_KEYS : List String :=
  ["schemaVersion","bootFingerprint","serviceKey","configFingerprint","families","cursorFingerprint"]

def endOf (file : Value) : Int :=
  numberOf (get file "logicalStartOffset") + numberOf (get file "observedLength")

def validateServiceFileCursor (cursor : Value) : Except JsError Unit :=
  check (hasExactKeys cursor FILE_CURSOR_KEYS && isHex (get cursor "identityFingerprint") &&
      isAtMost startupCursorLogicalBytes (get cursor "logicalStartOffset") &&
      isAtMost startupCursorFileBytes (get cursor "observedLength") &&
      isSafeInteger (.int (endOf cursor)) && endOf cursor ≤ startupCursorLogicalBytes &&
      isHex (get cursor "prefixSha256"))
    (fail "service file cursor")

/-- `/^gjc-remote-(?:bot|daemon-[a-z0-9][a-z0-9.-]{0,159})-(wrapper|child)$/`. -/
def LOG_FAMILY_BASE (text : Units) : Bool :=
  ["-wrapper","-child"].any fun suffix =>
    let inner := (text.drop 11).take (text.length - 11 - (ofString suffix).length)
    text == ofString "gjc-remote-" ++ (inner ++ ofString suffix) &&
      (inner == ofString "bot" || (inner.take 7 == ofString "daemon-" && (inner.drop 7).length ≤ 160 &&
        (inner.drop 7).head?.any (fun u => isLower u || isDecimal u) &&
        (inner.drop 7).all fun u => isLower u || isDecimal u || u == 0x2e || u == 0x2d))

/-- The loop over the files of a family: where the last one ends. -/
def validateFiles : List Value → Option Int → Int → List Value → Except JsError (Option Int)
  | [],last,_,_ => .ok last
  | file :: rest,last,totalBytes,identities => do
    validateServiceFileCursor file
    let identity := get file "identityFingerprint"
    check (!identities.any fun other => strictEqual other identity) (fail "service family cursor file identity")
    check (last.all fun last => numberOf (get file "logicalStartOffset") = last)
      (fail "service family cursor continuity")
    let totalBytes := totalBytes + numberOf (get file "observedLength")
    check (isSafeInteger (.int totalBytes) && totalBytes ≤ startupCursorBytes)
      (fail "service family cursor byte limit")
    validateFiles rest (some (endOf file)) totalBytes (identity :: identities)

def validateServiceFamilyCursor (cursor : Value) : Except JsError Unit := do
  let files := itemsOf (get cursor "files")
  let next := get cursor "nextLogicalOffset"
  let partialLine := get cursor "partialLineBytes"
  let absence := get cursor "absenceFingerprint"
  check (hasExactKeys cursor FAMILY_CURSOR_KEYS && isOneOf ["wrapper","child"] (get cursor "family") &&
      LOG_FAMILY_BASE (textOf (get cursor "baseName")) &&
      (0x2d :: textOf (get cursor "family")).isSuffixOf (textOf (get cursor "baseName")) &&
      isHex (get cursor "directoryIdentityFingerprint") && isArray (get cursor "files") &&
      files.length ≤ startupCursorFilesPerFamily && isAtMost startupCursorLogicalBytes next &&
      isAtMost startupPartialLineBytes partialLine && isNullableHex absence)
    (fail "service family cursor")
  let last ← validateFiles files none 0 []
  if files.isEmpty then
    check (!isNull absence && isNumber 0 next && isNumber 0 partialLine) (fail "service absent family cursor")
  else
    check (isNull absence && last == some (numberOf next) && numberOf partialLine ≤ numberOf next)
      (fail "service present family cursor")

def countFiles : List Value → Int → Except JsError Int
  | [],totalBytes => .ok totalBytes
  | file :: rest,totalBytes => do
    let totalBytes := totalBytes + numberOf (get file "observedLength")
    check (isSafeInteger (.int totalBytes) && totalBytes ≤ startupCursorBytes)
      (fail "service cursor set byte limit")
    countFiles rest totalBytes

def expectedBase (serviceKey family : Value) : Units :=
  if isText "bot" serviceKey then ofString "gjc-remote-bot-" ++ textOf family
  else ofString "gjc-remote-daemon-" ++ (textOf serviceKey ++ 0x2d :: textOf family)

def validateFamilies (serviceKey : Value) : List Value → Int → Except JsError Unit
  | [],_ => .ok ()
  | family :: rest,totalBytes => do
    validateServiceFamilyCursor family
    check (strictEqual (get family "baseName") (.string (expectedBase serviceKey (get family "family"))))
      (fail "service cursor family identity")
    let totalBytes ← countFiles (itemsOf (get family "files")) totalBytes
    validateFamilies serviceKey rest totalBytes

def TRIAL_BOUNDARY_KEYS : List String :=
  ["schemaVersion","kind","serviceKey","transactionId","transactionNonce","transitionFingerprint",
    "attempt","revision","previousBoundaryFingerprint","phase","bootFingerprint","startTickMs",
    "deadlineTickMs","lastTickMs","applicationManifestFingerprint","resourceFingerprint",
    "effectiveConfigFingerprint","configSourceIdentityFingerprint","wrapperEpochFingerprint",
    "childEpochFingerprint","initialCursor","childCursor","boundaryFingerprint"]

def serviceTrialDeadlineTickMs (startTickMs : Value) : Except JsError Int := do
  check (isAtMost (maxSafeInteger - startupWindowMs) startTickMs) (fail "service trial deadline overflow")
  return numberOf startTickMs + startupWindowMs

/-- A cursor is of the boot, the service and the configuration of its boundary. -/
def isBoundCursor (cursor boundary : Value) : Bool :=
  relate cursor boundary [("bootFingerprint","bootFingerprint"),("serviceKey","serviceKey"),
    ("configFingerprint","effectiveConfigFingerprint")]

section Digest

variable (sha256 : List UInt8 → Units)

def validateServiceCursorSet (cursorSet : Value) : Except JsError Unit := do
  let families := get cursorSet "families"
  check (hasExactKeys cursorSet CURSOR_SET_KEYS && isNumber 1 (get cursorSet "schemaVersion") &&
      isHex (get cursorSet "bootFingerprint") && isHex (get cursorSet "configFingerprint") &&
      isArray families && (itemsOf families).length == 2 && isHex (get cursorSet "cursorFingerprint"))
    (fail "service cursor set")
  validateServiceKey (get cursorSet "serviceKey")
  check (isText "wrapper" (get (itemAt families 0) "family") && isText "child" (get (itemAt families 1) "family"))
    (fail "service cursor family order")
  validateFamilies (get cursorSet "serviceKey") (itemsOf families) 0
  assertFingerprint sha256 cursorSet "cursorFingerprint" (fail "service cursor set fingerprint")

def validateServiceTrialBoundary (boundary : Value) : Except JsError Unit := do
  let first := isNumber 1 (get boundary "revision")
  let wrapperEpoch := get boundary "wrapperEpochFingerprint"
  let childEpoch := get boundary "childEpochFingerprint"
  let childCursor := get boundary "childCursor"
  check (hasExactKeys boundary TRIAL_BOUNDARY_KEYS && isNumber 1 (get boundary "schemaVersion") &&
      isText "windows-service-trial-boundary" (get boundary "kind") &&
      isSafeId (get boundary "transactionId") && isNonce (get boundary "transactionNonce") &&
      isHex (get boundary "transitionFingerprint") && isGeneration (get boundary "attempt") &&
      isGeneration (get boundary "revision") &&
      isNullableHex (get boundary "previousBoundaryFingerprint") &&
      isOneOf ["captured","observed"] (get boundary "phase") &&
      every boundary ["startTickMs","deadlineTickMs","lastTickMs"] isNonNegative &&
      every boundary ["bootFingerprint","applicationManifestFingerprint","resourceFingerprint",
        "effectiveConfigFingerprint","configSourceIdentityFingerprint","boundaryFingerprint"] isHex &&
      isNullableHex wrapperEpoch && isNullableHex childEpoch &&
      numberOf (get boundary "attempt") ≤ numberOf (get boundary "revision") &&
      first == isNull (get boundary "previousBoundaryFingerprint") &&
      (!first || isNumber 1 (get boundary "attempt")))
    (fail "service trial boundary")
  validateServiceKey (get boundary "serviceKey")
  let deadline ← serviceTrialDeadlineTickMs (get boundary "startTickMs")
  check (numberOf (get boundary "deadlineTickMs") = deadline &&
      numberOf (get boundary "startTickMs") ≤ numberOf (get boundary "lastTickMs") &&
      numberOf (get boundary "lastTickMs") ≤ numberOf (get boundary "deadlineTickMs"))
    (fail "service trial boundary clock window")
  validateServiceCursorSet sha256 (get boundary "initialCursor")
  check (isBoundCursor (get boundary "initialCursor") boundary)
    (fail "service trial boundary initial cursor binding")
  if isText "captured" (get boundary "phase") then
    check (isNull wrapperEpoch && isNull childEpoch && isNull childCursor)
      (fail "captured service trial boundary epoch relation")
  else
    check (isHex wrapperEpoch && isHex childEpoch && !strictEqual wrapperEpoch childEpoch &&
        !isNull childCursor)
      (fail "observed service trial boundary epochs")
    validateServiceCursorSet sha256 childCursor
    check (isBoundCursor childCursor boundary) (fail "service trial boundary child cursor binding")
  assertFingerprint sha256 boundary "boundaryFingerprint" (fail "service trial boundary fingerprint")

/-- The members that the boundaries of one attempt share. -/
def immutableKeys : List String :=
  ["serviceKey","transactionId","transactionNonce","transitionFingerprint","bootFingerprint",
    "startTickMs","deadlineTickMs","applicationManifestFingerprint","resourceFingerprint",
    "effectiveConfigFingerprint","configSourceIdentityFingerprint"]

def familyAt (cursorSet : Value) (index : Nat) : Value := itemAt (get cursorSet "families") index

def progresses (old new : Value) : Bool :=
  agree old new ["family","baseName","directoryIdentityFingerprint"] &&
    numberOf (get old "nextLogicalOffset") ≤ numberOf (get new "nextLogicalOffset")

def validateServiceTrialBoundarySuccessor (previous next : Value) : Except JsError Unit := do
  validateServiceTrialBoundary sha256 previous
  validateServiceTrialBoundary sha256 next
  let sameAttempt := strictEqual (get next "attempt") (get previous "attempt")
  let tick := numberOf (get previous "lastTickMs")
  check (strictEqual (get next "previousBoundaryFingerprint") (get previous "boundaryFingerprint") &&
      !isNumber maxSafeInteger (get previous "revision") &&
      isNext (get next "revision") (get previous "revision") &&
      (!sameAttempt || tick ≤ numberOf (get next "lastTickMs")))
    (fail "service trial boundary revision chain")
  if sameAttempt then
    let observed := isText "observed" (get previous "phase")
    check (agree next previous immutableKeys) (fail "service trial boundary attempt identity")
    let after ← canonicalJsonHash sha256 (get next "initialCursor")
    let before ← canonicalJsonHash sha256 (get previous "initialCursor")
    check (after == before && (!observed || isText "observed" (get next "phase")))
      (fail "service trial boundary original cursor or phase")
    check (!observed || agree next previous ["wrapperEpochFingerprint"])
      (fail "service trial boundary wrapper replacement")
    check (!observed || [0,1].all fun index =>
        progresses (familyAt (get previous "childCursor") index) (familyAt (get next "childCursor") index))
      (fail "service trial boundary cursor regression")
  else
    let sameBoot := agree next previous ["bootFingerprint"]
    check (!isNumber maxSafeInteger (get previous "attempt") &&
        isNext (get next "attempt") (get previous "attempt") && isText "captured" (get next "phase") &&
        (!sameBoot || (tick ≤ numberOf (get next "startTickMs") && tick ≤ numberOf (get next "lastTickMs"))))
      (fail "service trial boundary attempt relation")

end Digest

section Store

variable (sha256 : List UInt8 → Units) (cfg : Config)

/-- `#trialBoundaryFailure`. -/
def trialBoundaryFailure (operation code : String) : Failure :=
  if operation == "validate_service_records" || operation == "read_startup_proof" then
    .store "SERVICE_MANUAL_CLEANUP" operation true
  else .store code operation false

/-- `#provisionalMetadata`. -/
structure Provisional where
  transactionId : Value
  transactionFingerprint : Value
  resource : Value
  manifest : Value

structure Records where
  writable : Except Failure Unit
  authorised : Except Failure Unit
  resource : Except Failure (Option Value)
  manifest : Except Failure (Option Value)
  provisional : Option Provisional
  rolesFingerprint : Value
  roles : Value
  /-- The entries of `this.#journal`. -/
  retained : List Value

def retainedTransactionByFingerprint (retained : List Value) (transactionFingerprint : Value) : Option Value :=
  if isHex transactionFingerprint then
    retained.find? fun entry => strictEqual (get entry "transactionFingerprint") transactionFingerprint
  else none

def identityOf (transaction : Value) : Except Failure Units :=
  (transactionIdentity sha256 transaction).mapError .thrown

def sameRetainedTransactionIdentity (retained : List Value) (transactionFingerprint transaction : Value) :
    Except Failure Bool :=
  if strictEqual transactionFingerprint (get transaction "transactionFingerprint") then .ok true
  else
    match retainedTransactionByFingerprint retained transactionFingerprint,
      retainedTransactionByFingerprint retained (get transaction "transactionFingerprint") with
    | some anchored,some current => do
      let left ← identityOf sha256 anchored
      let right ← identityOf sha256 current
      return left == right
    | _,_ => .ok false

def scopeRoles (value : Value) (records : Records) (operation : String) : Except Failure Unit :=
  check (strictEqual (get value "rolesFingerprint") records.rolesFingerprint &&
    sameJson (get value "roles") records.roles) (.store "SERVICE_SCOPE_MISMATCH" operation false)

structure Binding where
  transaction : Value
  latest : Value
  resource : Option Value

def terminalOrQuiescent : List String :=
  ["quiescent","activation-observed","committed","tombstoned","resource-removed","references-released",
    "manual-cleanup"]

/-- The resource record that describes the transaction, if there is one. -/
def boundResource (transaction : Value) (records : Records) (operation : String) :
    Except Failure (Option Value × Bool) := do
  let current ← records.resource
  match records.provisional.filter fun provisional =>
      agree provisional.resource transaction ["transactionId","transactionNonce"] with
  | some provisional => do
    check (strictEqual provisional.transactionId (get transaction "transactionId"))
      (trialBoundaryFailure operation "SERVICE_SCOPE_MISMATCH")
    let same ← sameRetainedTransactionIdentity sha256 records.retained provisional.transactionFingerprint
      transaction
    check same (trialBoundaryFailure operation "SERVICE_SCOPE_MISMATCH")
    return (some provisional.resource,true)
  | none => return (current.filter fun current =>
      agree current transaction ["transactionId","transactionNonce"],false)

/-- The comparison of the resource record and its manifest with the boundary. -/
def checkResource (boundary transaction resource : Value) (provisional : Bool) (records : Records)
    (operation : String) : Except Failure Unit := do
  let mismatch := trialBoundaryFailure operation "SERVICE_SCOPE_MISMATCH"
  let pending := trialBoundaryFailure operation "SERVICE_PENDING"
  let candidate := get transaction "candidate"
  let final := get transaction "final"
  check (agree resource transaction ["serviceGeneration","operation"] &&
      agree resource boundary ["applicationManifestFingerprint"] &&
      agree resource candidate ["shawlManifestFingerprint"] && agree resource final ["resourceProof"] &&
      relate resource (get transaction "transition")
        [("platformResourceFingerprint","expectedAfterResourceFingerprint")] &&
      strictEqual (get resource "rolesFingerprint") records.rolesFingerprint &&
      relate resource boundary [("configurationFingerprint","effectiveConfigFingerprint"),
        ("serviceKey","serviceKey")])
    mismatch
  let manifest ← if provisional then .ok (records.provisional.map Provisional.manifest)
    else records.manifest
  match manifest with
  | none => throw pending
  | some manifest => do
    scope cfg manifest operation
    scopeRoles manifest records operation
    check (agree manifest transaction ["serviceGeneration"] &&
        agree manifest boundary ["applicationManifestFingerprint"] &&
        agree manifest candidate ["shawlManifestFingerprint"] &&
        relate manifest boundary [("configurationFingerprint","effectiveConfigFingerprint")] &&
        agree manifest final ["manifestFingerprint"] && agree manifest resource ["resourceProof"])
      pending

def checkBoundResource (boundary transaction latest : Value) (found : Option Value × Bool)
    (records : Records) (operation : String) : Except Failure Unit :=
  match found.1 with
  | none => check (isOneOf terminalOrQuiescent (get latest "phase"))
      (trialBoundaryFailure operation "SERVICE_PENDING")
  | some resource => checkResource cfg boundary transaction resource found.2 records operation

def versions (boundary : Value) (entries : List Value) : List Value :=
  entries.filter fun entry => agree entry boundary ["transactionId","transactionNonce"]

/-- The boundary describes its transaction, and so does the latest one. -/
def isBoundTo (boundary transaction : Value) : Bool :=
  agree transaction boundary ["serviceKey"] &&
    agree (get transaction "transition") boundary ["transitionFingerprint"] &&
    isText "release" (get (get transaction "candidate") "disposition") &&
    agree (get transaction "candidate") boundary ["applicationManifestFingerprint"] &&
    relate (get transaction "transition") boundary [("platformResourceFingerprint","resourceFingerprint")]

def validateTrialBoundaryBinding (boundary : Value) (entries : List Value) (records : Records)
    (operation : String) : Except Failure Binding := do
  let mismatch := trialBoundaryFailure operation "SERVICE_SCOPE_MISMATCH"
  check (cfg.platform == ofString "win32") (trialBoundaryFailure operation "SERVICE_UNSUPPORTED")
  check (strictEqual (get boundary "serviceKey") (.string cfg.serviceKey)) mismatch
  match (versions boundary entries).getLast?,entries.getLast? with
  | some transaction,some latest => do
    check (isBoundTo boundary transaction) mismatch
    let own ← identityOf sha256 transaction
    let last ← identityOf sha256 latest
    check (own == last) mismatch
    let found ← boundResource sha256 transaction records operation
    checkBoundResource cfg boundary transaction latest found records operation
    return ⟨transaction,latest,found.1⟩
  | _,_ => throw mismatch

/-- A receipt: a record and the bytes it was read from or written as. -/
structure Receipt where
  value : Value
  bytes : File
  parsed : parseCanonicalJsonBytes bytes JSON_LIMITS = .ok value

structure Trial where
  journal : List Value
  boundary : Option File
  /-- The boundaries since the record was last absent. -/
  chain : List Value

def stale : Failure := .store "SERVICE_STALE" "publish_trial_boundary" false
def pendingBoundary : Failure := .store "SERVICE_PENDING" "publish_trial_boundary" false

/-- What a publication over an absent record asks of it. -/
def startsTrial (value latest : Value) : Bool :=
  isNumber 1 (get value "revision") && isNumber 1 (get value "attempt") &&
    isNull (get value "previousBoundaryFingerprint") && isText "captured" (get value "phase") &&
    isText "resource-published" (get latest "phase")

/-- A new attempt is of the transaction of the boundary before it. -/
def continuesTransaction (previous : Value) (binding : Binding) (entries : List Value) :
    Except Failure Bool := do
  let own ← identityOf sha256 binding.transaction
  let old ← identityOf sha256 (((entries.find? fun entry =>
    agree entry previous ["transactionId","transactionNonce"])).getD binding.transaction)
  return own == old

def checkSuccessor (previous value : Value) (binding : Binding) (entries : List Value) :
    Except Failure Unit := do
  (validateServiceTrialBoundary sha256 previous).mapError .thrown
  orThrow (validateServiceTrialBoundarySuccessor sha256 previous value) stale
  let phase := get binding.latest "phase"
  if numberOf (get previous "attempt") < numberOf (get value "attempt") then
    check (isText "quiescent" phase && isText "observed" (get binding.latest "substep") &&
      binding.resource.isSome && isText "captured" (get value "phase")) pendingBoundary
    let same ← continuesTransaction sha256 previous binding entries
    check same pendingBoundary
  else
    check (if isText "captured" (get value "phase") then isOneOf ["resource-published","trial-start-intent"] phase
      else isOneOf ["trial-start-observed","starting","startup-observed","activation-observed"] phase)
      pendingBoundary

def checkExpected (expected : Option Receipt) (value : Value) (binding : Binding) (entries : List Value) :
    Except Failure Unit :=
  match expected with
  | none => check (startsTrial value binding.latest) pendingBoundary
  | some receipt => checkSuccessor sha256 receipt.value value binding entries

def publishTrialBoundary (trial : Trial) (value : Value) (expected : Option Receipt) (records : Records) :
    Except Failure (Value × File) := do
  records.writable
  orThrow (validateServiceTrialBoundary sha256 value) (.store "SERVICE_INVALID" "publish_trial_boundary" false)
  let value ← snapshot value (validateServiceTrialBoundary sha256) "publish_trial_boundary"
  let binding ← validateTrialBoundaryBinding sha256 cfg value trial.journal records "publish_trial_boundary"
  records.authorised
  checkExpected sha256 expected value binding trial.journal
  let bytes ← recordBytes value (validateServiceTrialBoundary sha256) "trial-boundary"
  check (trial.boundary == expected.map Receipt.bytes)
    (.store "SERVICE_STALE" "publish_service_file_atomic" false)
  return (value,bytes)

inductive Event where
  /-- The journal takes an entry. -/
  | append (value : JsValue)
  | publish (value : JsValue) (expected : Option Receipt) (records : Records)
  /-- The record is removed, with or without cause. -/
  | remove

def append (trial : Trial) (value : Value) : Except Failure Value := do
  let value ← validateTransaction sha256 cfg value "append_service_journal"
  assertJournalLink sha256 trial.journal.getLast? value "append_service_journal"
  return value

def step (trial : Trial) : Event → Trial × Except Failure Unit
  | .append value =>
    match append sha256 cfg trial value.value with
    | .ok value => ({trial with journal := trial.journal ++ [value]},.ok ())
    | .error error => (trial,.error error)
  | .publish value expected records =>
    match publishTrialBoundary sha256 cfg trial value.value expected records with
    | .ok (value,bytes) =>
      ({trial with
        boundary := some bytes
        chain := if expected.isSome then trial.chain ++ [value] else [value]},.ok ())
    | .error error => (trial,.error error)
  | .remove => ({trial with boundary := none},.ok ())

def Trial.new : Trial := ⟨[],none,[]⟩

end Store

end GjcRemote.TrialBoundary
