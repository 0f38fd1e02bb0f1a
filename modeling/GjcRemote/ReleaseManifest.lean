import GjcRemote.DeploymentEnvelope

/-! The signed manifest of a release in `shared/deployment-envelope.js`, with the formats it reads
and writes, and the check of a transition from one release to the next. -/
namespace GjcRemote.DeploymentEnvelope

open Utf16 StrictJson Record Envelope
open ServiceEnvelope (toText)

def FORMAT_DOMAINS : List (String × List String) :=
  [("bot",["bot-mapping-reader"]),("daemon",["daemon-app-session","workspace-lifecycle"])]

def domainsOf (component : String) : List String := (FORMAT_DOMAINS.lookup component).getD []

def isFormat (text : Units) : Bool := byteLength text ≤ DEPLOYMENT_ENVELOPE_LIMITS.formatIdBytes && FORMAT_ID text

def validateFormatDomain (record : Value) (expectedDomain : String) : Except JsError Unit := do
  check (hasExactKeys record ["domain","readableFormats","writableFormats"] &&
    isText expectedDomain (get record "domain")) (fail "compatibility domain schema")
  validateSortedUniqueStrings (get record "readableFormats") s!"{expectedDomain} readable formats" isFormat
    DEPLOYMENT_ENVELOPE_LIMITS.formatsPerDomain false
  validateSortedUniqueStrings (get record "writableFormats") s!"{expectedDomain} writable formats" isFormat
    DEPLOYMENT_ENVELOPE_LIMITS.formatsPerDomain false

/-- Each domain of the role against the expected one at its place. -/
def validateFormatDomains : List Value → List String → Except JsError Unit
  | record :: records,expected :: rest => do
    validateFormatDomain record expected
    validateFormatDomains records rest
  | _,_ => .ok ()

def validateCompatibilityRole (record : Value) (component : String) : Except JsError Unit := do
  check (hasExactKeys record ["domains","sdkExternalStateContractFingerprint"] &&
    match get record "domains" with
    | .array items => items.length = (domainsOf component).length
    | _ => false) (fail s!"{component} compatibility schema")
  validateFormatDomains (itemsOf (get record "domains")) (domainsOf component)
  check (if component = "bot" then isNull (get record "sdkExternalStateContractFingerprint")
    else isHex (get record "sdkExternalStateContractFingerprint")) (fail s!"{component} SDK external-state contract")

section Digest

variable (sha256 : List UInt8 → Units)

def compatibilityRegistryFingerprint (compatibility : Value) : Except JsError Units :=
  let roles := get compatibility "roles"
  canonicalHash sha256 (.object [(ofString "bot",get (get roles "bot") "domains"),
    (ofString "daemon",get (get roles "daemon") "domains")]) STRICT_JSON_LIMITS

def validateDeploymentCompatibility (compatibility : Value) : Except JsError Unit := do
  check (hasExactKeys compatibility ["schemaVersion","kind","formatRegistryFingerprint","roles"] &&
      isNumber 1 (get compatibility "schemaVersion") && isText "deployment-compatibility" (get compatibility "kind") &&
      isHex (get compatibility "formatRegistryFingerprint") && hasExactKeys (get compatibility "roles") ["bot","daemon"])
    (fail "compatibility schema")
  validateCompatibilityRole (get (get compatibility "roles") "bot") "bot"
  validateCompatibilityRole (get (get compatibility "roles") "daemon") "daemon"
  let own ← compatibilityRegistryFingerprint sha256 compatibility
  check (strictEqual (.string own) (get compatibility "formatRegistryFingerprint")) (fail "format registry fingerprint")

def PLATFORM_TUPLES : List String := ["linux:x64","linux:arm64","win32:x64"]

/-- The text of `a` and `b` with a separator between them. -/
def joined (separator : String) (parts : List Value) : Units :=
  List.intercalate (ofString separator) (parts.map toText)

def validateTuple (target : Value) : Except JsError Unit :=
  check (hasExactKeys target ["platform","architecture"] && PLATFORM_TUPLES.any fun tuple =>
    joined ":" [get target "platform",get target "architecture"] == ofString tuple) (fail "unsupported target tuple")

def validateApplicationSource (source releaseVersion releaseId : Value) : Except JsError Unit := do
  check (hasExactKeys source ["repository","tag","commit","tree","bunLockSha256"] &&
      isText APPLICATION_DEPLOYMENT_REPOSITORY (get source "repository") &&
      strictEqual (get source "tag") (.string (0x76 :: textOf releaseVersion)) &&
      strictEqual releaseId (get source "tag") && GIT_OBJECT_ID (toText (get source "commit")) &&
      GIT_OBJECT_ID (toText (get source "tree")) && isHex (get source "bunLockSha256"))
    (fail "application source")
  validateReleaseSelector (get source "tag")

def isWithin (low : Int) (high : Nat) (value : Value) : Bool :=
  (safeInteger value).any fun n => low ≤ n && n ≤ (high : Int)

def validateInventoryBinding (binding : Value) : Except JsError Unit :=
  check (hasExactKeys binding ["path","byteLength","sha256","payloadEntryCount","unpackedPayloadBytes",
      "treeFingerprint"] && isText APPLICATION_BUNDLE_INVENTORY_PATH (get binding "path") &&
      isWithin 1 DEPLOYMENT_ENVELOPE_LIMITS.inventoryBytes (get binding "byteLength") &&
      isHex (get binding "sha256") &&
      isWithin 0 DEPLOYMENT_ENVELOPE_LIMITS.payloadEntries (get binding "payloadEntryCount") &&
      isWithin 0 DEPLOYMENT_ENVELOPE_LIMITS.unpackedPayloadBytes (get binding "unpackedPayloadBytes") &&
      isHex (get binding "treeFingerprint"))
    (fail "application inventory binding")

def archiveName (releaseVersion target : Value) : Units :=
  ofString "gjc-remote-service-" ++
    joined "-" [releaseVersion,get target "platform",get target "architecture"] ++ ofString ".tar.gz"

def validateArchive (archive releaseVersion target payloadEntryCount : Value) : Except JsError Unit :=
  check (hasExactKeys archive ["name","mediaType","byteLength","sha256","entryCount"] &&
      strictEqual (get archive "name") (.string (archiveName releaseVersion target)) &&
      isText "application/gzip" (get archive "mediaType") &&
      isWithin 1 DEPLOYMENT_ENVELOPE_LIMITS.archiveBytes (get archive "byteLength") &&
      isHex (get archive "sha256") && isNext (get archive "entryCount") payloadEntryCount)
    (fail "application archive")

def validateRuntimeContract (runtimes : Value) : Except JsError Unit :=
  check (hasExactKeys runtimes ["node","bun"] && hasExactKeys (get runtimes "node") ["minimumVersion"] &&
      isText "26.0.0" (get (get runtimes "node") "minimumVersion") &&
      hasExactKeys (get runtimes "bun") ["minimumVersion"] &&
      isText "1.4.0" (get (get runtimes "bun") "minimumVersion"))
    (fail "runtime contract")

def validateWireCapabilities (capabilities : Value) : Except JsError Unit :=
  validateSortedUniqueStrings capabilities "wire capabilities" (fun text => byteLength text ≤ 64 && isWire text) 32 false

variable (casing : Casing)

def validateApplicationEntrypoints (entrypoints platform : Value) : Except JsError Unit := do
  check (hasExactKeys entrypoints ["bot","daemon"] && isText "bot/src/bot.js" (get entrypoints "bot") &&
    isText "daemon/src/daemon.js" (get entrypoints "daemon")) (fail "application entrypoints")
  validateBundlePath casing (get entrypoints "bot") platform "bot entrypoint"
  validateBundlePath casing (get entrypoints "daemon") platform "daemon entrypoint"

/-- The versions are those of `REQUIRED_NATIVE_CONTROL_CONTRACT`. -/
def validateNativeControlContract (contract platform : Value) : Except JsError Unit := do
  check (hasExactKeys contract ["manifestPath","manifestFingerprint","contractVersion","contractRevision"] &&
      isText "native-control/build/Release/native-control.manifest.json" (get contract "manifestPath") &&
      isHex (get contract "manifestFingerprint") && isNumber 5 (get contract "contractVersion") &&
      isNumber 3 (get contract "contractRevision"))
    (fail "native-control contract")
  validateBundlePath casing (get contract "manifestPath") platform "native-control manifest path"

def WINDOWS_SERVICE_BOOTSTRAP_CLOSURE_DOMAIN : String := "gjc-remote/windows-service-bootstrap-closure/v1"

def WINDOWS_SERVICE_BOOTSTRAP_EMPTY_FILE_SHA256 : String :=
  "e3b0c44298fc1c149afbf4c8996fb92427ae41e4649b934ca495991b7852b855"

def WINDOWS_SERVICE_BOOTSTRAP_RUNTIME_POLICIES : List (String × String × String × String) :=
  [("bot","node","26.7.0","b4f23d3619c98bed09af93a21192f6080197a8c6"),
    ("daemon","bun","1.4.2","744846f844374847c902b5e7fd59b4342a51ef99")]

/-- The loop over the files of the closure, with the path before. -/
def closurePairs : Option Units → List Value → Except JsError (List Value)
  | _,[] => .ok []
  | previous,entry :: rest => do
    check (hasExactKeys entry ["relativePath","sha256"] && matchesText (fun _ => true) (get entry "relativePath") &&
        isHex (get entry "sha256") &&
        previous.all fun before => utf8Compare before (textOf (get entry "relativePath")) == .lt)
      (fail "windows service bootstrap closure")
    let later ← closurePairs (some (textOf (get entry "relativePath"))) rest
    return .array [get entry "relativePath",get entry "sha256"] :: later

def windowsServiceBootstrapClosureFingerprint (staticClosure : Value) : Except JsError Units :=
  match staticClosure with
  | .array (entry :: rest) => do
    let pairs ← closurePairs none (entry :: rest)
    return sha256 (utf8 (ofString WINDOWS_SERVICE_BOOTSTRAP_CLOSURE_DOMAIN ++ 0xa :: render (.array pairs)))
  | _ => .error (fail "windows service bootstrap closure")

/-- `for (const entry of staticClosure ?? [])`; the letters of a text have no path. -/
def validateClosurePaths (staticClosure platform : Value) : Except JsError Unit :=
  match staticClosure with
  | .array entries => entries.forM fun entry =>
    validateBundlePath casing (get entry "relativePath") platform "windows service bootstrap closure path"
  | .null | .other 0 | .string [] => .ok ()
  | .string _ => .error (fail "windows service bootstrap closure path")
  | _ => .error (typeError "staticClosure is not iterable")

def isRuntimePolicy (policy : Value) (expected : String × String × String) : Bool :=
  hasExactKeys policy ["runtime","version","sourceRevision"] && isText expected.1 (get policy "runtime") &&
    isText expected.2.1 (get policy "version") && isText expected.2.2 (get policy "sourceRevision")

/-- `value.endsWith(suffix)`. -/
def endsWith (text : Units) (suffix : String) : Bool := (ofString suffix).isSuffixOf text

def validateWindowsServiceBootstrap (metadata platform : Value) : Except JsError Unit := do
  check (isWindows platform && hasExactKeys metadata ["schemaVersion","guardPath","staticClosure",
      "staticClosureFingerprint","runtimePolicies","externalBunConfig"] && isNumber 1 (get metadata "schemaVersion") &&
      matchesText (fun path => endsWith path "/src/service-bootstrap.js") (get metadata "guardPath"))
    (fail "windows service bootstrap")
  validateBundlePath casing (get metadata "guardPath") platform "windows service bootstrap guard path"
  validateClosurePaths casing (get metadata "staticClosure") platform
  let own ← windowsServiceBootstrapClosureFingerprint sha256 (get metadata "staticClosure")
  check (strictEqual (.string own) (get metadata "staticClosureFingerprint") &&
      (itemsOf (get metadata "staticClosure")).any fun entry => relate entry metadata [("relativePath","guardPath")])
    (fail "windows service bootstrap closure")
  let config := get metadata "externalBunConfig"
  check (hasExactKeys (get metadata "runtimePolicies") ["bot","daemon"] &&
      (WINDOWS_SERVICE_BOOTSTRAP_RUNTIME_POLICIES.all fun policy =>
        isRuntimePolicy (get (get metadata "runtimePolicies") policy.1) policy.2) &&
      hasExactKeys config ["relativePath","sha256","byteLength"] &&
      isText "runtime-config/.bunfig.toml" (get config "relativePath") &&
      isText WINDOWS_SERVICE_BOOTSTRAP_EMPTY_FILE_SHA256 (get config "sha256") && isNumber 0 (get config "byteLength"))
    (fail "windows service bootstrap policy")

variable (manifest : Value)

def manifestKeys : List String :=
  ["schemaVersion","kind","signingKeyId","releaseId","releaseVersion","releaseSequence","source","target","archive",
    "inventory","entrypoints","runtimes","nativeControl","wireCapabilities","compatibility"] ++
    (if hasOwn manifest "windowsServiceBootstrap" then ["windowsServiceBootstrap"] else []) ++ ["manifestFingerprint"]

def validateApplicationDeploymentManifest : Except JsError Unit := do
  check (hasExactKeys manifest (manifestKeys manifest) && isNumber 1 (get manifest "schemaVersion") &&
      isText "application-deployment-manifest" (get manifest "kind") && matchesText KEY_ID (get manifest "signingKeyId") &&
      matchesText SEMVER (get manifest "releaseVersion") && isGeneration (get manifest "releaseSequence") &&
      isHex (get manifest "manifestFingerprint"))
    (fail "application manifest schema")
  let target := get manifest "target"
  let platform := get target "platform"
  validateReleaseSelector (get manifest "releaseId")
  validateTuple target
  validateApplicationSource (get manifest "source") (get manifest "releaseVersion") (get manifest "releaseId")
  validateInventoryBinding (get manifest "inventory")
  validateArchive (get manifest "archive") (get manifest "releaseVersion") target
    (get (get manifest "inventory") "payloadEntryCount")
  validateApplicationEntrypoints casing (get manifest "entrypoints") platform
  validateRuntimeContract (get manifest "runtimes")
  validateNativeControlContract casing (get manifest "nativeControl") platform
  validateWireCapabilities (get manifest "wireCapabilities")
  validateDeploymentCompatibility sha256 (get manifest "compatibility")
  whenever (hasOwn manifest "windowsServiceBootstrap")
    (validateWindowsServiceBootstrap sha256 casing (get manifest "windowsServiceBootstrap") platform)
  let own ← canonicalHash sha256 (without manifest "manifestFingerprint") MANIFEST_CANONICAL_LIMITS
  check (strictEqual (.string own) (get manifest "manifestFingerprint")) (fail "application manifest fingerprint")
  let bytes ← (canonicalJsonBytes manifest MANIFEST_CANONICAL_LIMITS).mapError fun _ =>
    fail "application manifest canonical JSON"
  check (bytes.length ≤ DEPLOYMENT_ENVELOPE_LIMITS.manifestBytes) (fail "application manifest byte limit")

def findDomain (compatibility : Value) (component domain : String) : Value :=
  ((itemsOf (get (get (get compatibility "roles") component) "domains")).find? fun entry =>
    isText domain (get entry "domain")).getD undefined

def assertContainsAll (values required : List Value) (message : String) : Except JsError Unit :=
  check (required.all fun value => values.any fun available => strictEqual available value) (fail message)

def stableFields : List String := ["target","runtimes","nativeControl","wireCapabilities"]

def checkStableFields (current candidate predecessor : Value) : List String → Except JsError Unit
  | [] => .ok ()
  | field :: rest => do
    let expected ← canonicalHash sha256 (get current field) STRICT_JSON_LIMITS
    let ofCandidate ← canonicalHash sha256 (get candidate field) STRICT_JSON_LIMITS
    check (ofCandidate == expected) (fail s!"transition {field} contract")
    let ofPredecessor ← canonicalHash sha256 (get predecessor field) STRICT_JSON_LIMITS
    check (ofPredecessor == expected) (fail s!"transition {field} contract")
    checkStableFields current candidate predecessor rest

def readableOf (component domain : String) : List Value :=
  itemsOf (get (findDomain (get manifest "compatibility") component domain) "readableFormats")

def writableOf (component domain : String) : List Value :=
  itemsOf (get (findDomain (get manifest "compatibility") component domain) "writableFormats")

def checkDomains (current candidate predecessor observedRetainedFormats : Value) (component : String) :
    List String → Except JsError Unit
  | [] => .ok ()
  | domain :: rest => do
    let observed := itemsOf (get observedRetainedFormats domain)
    assertContainsAll (readableOf candidate component domain) (observed ++ writableOf current component domain)
      s!"candidate cannot read {domain}"
    assertContainsAll (readableOf predecessor component domain) (observed ++ writableOf candidate component domain)
      s!"predecessor cannot read {domain}"
    checkDomains current candidate predecessor observedRetainedFormats component rest

/-- The observed formats of every domain of the component. -/
def checkObserved (observedRetainedFormats : Value) : List String → Except JsError Unit
  | [] => .ok ()
  | domain :: rest => do
    validateSortedUniqueStrings (get observedRetainedFormats domain) s!"{domain} observed formats" FORMAT_ID
      DEPLOYMENT_ENVELOPE_LIMITS.formatsPerDomain true
    checkObserved observedRetainedFormats rest

def sdkOf (component : String) : Value :=
  get (get (get (get manifest "compatibility") "roles") component) "sdkExternalStateContractFingerprint"

def assertReleaseTransitionCompatible (current candidate predecessor : Value) (component : String)
    (observedRetainedFormats sdkExternalStateContractFingerprint : Value) : Except JsError Unit := do
  validateApplicationDeploymentManifest sha256 casing current
  validateApplicationDeploymentManifest sha256 casing candidate
  validateApplicationDeploymentManifest sha256 casing predecessor
  check (FORMAT_DOMAINS.lookup component).isSome (fail "transition component")
  check (hasExactKeys observedRetainedFormats (domainsOf component)) (fail "observed retained formats schema")
  checkObserved observedRetainedFormats (domainsOf component)
  checkStableFields sha256 current candidate predecessor stableFields
  check (agree (get candidate "entrypoints") (get current "entrypoints") [component] &&
    agree (get predecessor "entrypoints") (get current "entrypoints") [component]) (fail "transition entrypoint contract")
  checkDomains current candidate predecessor observedRetainedFormats component (domainsOf component)
  let first := sdkOf current component
  check ([candidate,predecessor].all fun manifest => strictEqual (sdkOf manifest component) first)
    (fail "SDK external-state contract mismatch")
  let sdk := if isNullish sdkExternalStateContractFingerprint then .null else sdkExternalStateContractFingerprint
  check (component != "daemon" || strictEqual sdk first) (fail "SDK external-state contract mismatch")
  check (component != "bot" || isNull sdk) (fail "bot SDK external-state contract")

end Digest

end GjcRemote.DeploymentEnvelope
