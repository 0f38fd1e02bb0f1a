import GjcRemote.ReleaseManifest
import GjcRemote.Handover
import GjcRemote.BundlePaths

/-! What an accepted transition between releases keeps readable. -/
namespace GjcRemote.DeploymentEnvelope

open Utf16 StrictJson Record Envelope Handover
open List hiding get

set_option maxRecDepth 100000

def reads (manifest : Value) (component domain : String) : Set Value :=
  {f | ((readableOf manifest component domain).any fun available => strictEqual available f) = true}

/-- The formats that each of the releases declares it writes. -/
def writes (current candidate predecessor : Value) (component : String) (stage : Stage) (domain : String) : Set Value :=
  let manifest := match stage with
    | .current => current
    | .candidate => candidate
    | .predecessor => predecessor
  {f | f ∈ writableOf manifest component domain}

def seen (observedRetainedFormats : Value) (domain : String) : Set Value :=
  {f | f ∈ itemsOf (get observedRetainedFormats domain)}

theorem checkDomains_ok :
    checkDomains current candidate predecessor observed component domains = .ok () ↔ ∀ d ∈ domains,
      (seen observed d ⊆ reads candidate component d ∧
        writes current candidate predecessor component .current d ⊆ reads candidate component d) ∧
      seen observed d ⊆ reads predecessor component d ∧
        writes current candidate predecessor component .candidate d ⊆ reads predecessor component d := by
  induction domains with
  | nil => simp [checkDomains]
  | cons d rest ih =>
    simp only [checkDomains,assertContainsAll,checks_ok,ih,forall_mem_cons,all_append,
      Bool.and_eq_true,all_eq_true,and_assoc]
    rfl

/-- A transition that is accepted leaves the candidate nothing that it cannot read. The predecessor
reads what was observed and what the candidate wrote; it reads all there is, whatever was written, if
and only if it reads what the current release writes. -/
theorem transition_keeps_readable
    {component : String}
    (accepted : assertReleaseTransitionCompatible sha256 casing current candidate predecessor component observed sdk =
      .ok ()) :
    (∀ s, Reached (writes current candidate predecessor component) (seen observed) s → s.stage = .current →
      ∀ d ∈ domainsOf component, s.present d ⊆ reads candidate component d) ∧
    (∀ s, Reached (writes current candidate predecessor component) (seen observed) s → s.stage = .candidate →
      ∀ d ∈ domainsOf component, s.present d ⊆ reads predecessor component d ∪ s.fresh d) ∧
    ((∀ s, Reached (writes current candidate predecessor component) (seen observed) s → s.stage = .candidate →
      ∀ d ∈ domainsOf component, s.present d ⊆ reads predecessor component d) ↔
        ∀ d ∈ domainsOf component, ∀ f ∈ writableOf current component d, f ∈ reads predecessor component d) := by
  simp only [assertReleaseTransitionCompatible,except_unit_bind_ok] at accepted
  have checked := checkDomains_ok.mp accepted.2.2.2.2.2.2.2.2.1
  refine ⟨fun s reached running d listed f there => ?_,fun s reached running d listed f there => ?_,
    reads_at_rollback_iff (fun d listed => (checked d listed).2.1) fun d listed => (checked d listed).2.2⟩
  · obtain ⟨⟨old,written⟩,-⟩ := checked d listed
    rcases reached.origin.current running d there with observed' | fresh
    · exact old observed'
    · exact written (reached.origin.fresh d fresh)
  · obtain ⟨-,old,written⟩ := checked d listed
    rcases reached.origin.candidate running d there with (observed' | fresh) | new
    · exact .inl (old observed')
    · exact .inr fresh
    · exact .inl (written new)

def formats (names : List String) : Value := .array (names.map asciiText)

def formatDomain (domain : String) (readable writable : List String) : Value :=
  .object [(ascii "domain",asciiText domain),(ascii "readableFormats",formats readable),
    (ascii "writableFormats",formats writable)]

variable (readable writable : List String)

def botDomains : Value :=
  .array [formatDomain "bot-mapping-reader" readable writable]

def daemonDomains : Value :=
  .array [formatDomain "daemon-app-session" ["session-v1"] ["session-v1"],
    formatDomain "workspace-lifecycle" ["lifecycle-v1"] ["lifecycle-v1"]]

def releaseTarget : Value :=
  .object [(ascii "architecture",asciiText "x64"),(ascii "platform",asciiText "linux")]

def releaseRuntimes : Value :=
  .object [(ascii "bun",.object [(ascii "minimumVersion",asciiText "1.4.0")]),
    (ascii "node",.object [(ascii "minimumVersion",asciiText "26.0.0")])]

def releaseNativeControl : Value :=
  .object [(ascii "contractRevision",integer 3),(ascii "contractVersion",integer 5),
    (ascii "manifestFingerprint",repeated 2),
    (ascii "manifestPath",asciiText "native-control/build/Release/native-control.manifest.json")]

def releaseWire : Value := .array [asciiText "live-input"]

def releaseCompatibility (registry : Nat) : Value :=
  .object [(ascii "formatRegistryFingerprint",digestText registry),(ascii "kind",asciiText "deployment-compatibility"),
    (ascii "roles",.object [(ascii "bot",.object [(ascii "domains",botDomains readable writable),
        (ascii "sdkExternalStateContractFingerprint",.null)]),
      (ascii "daemon",.object [(ascii "domains",daemonDomains),
        (ascii "sdkExternalStateContractFingerprint",repeated 9)])]),
    (ascii "schemaVersion",integer 1)]

def releaseManifest (sequence : Int) (version : String) (readable writable : List String) (registry own : Nat) : Value :=
  .object [(ascii "archive",.object [(ascii "byteLength",integer 4096),(ascii "entryCount",integer 4),
      (ascii "mediaType",asciiText "application/gzip"),
      (ascii "name",.string (ascii "gjc-remote-service-" ++ ascii version ++ ascii "-linux-x64.tar.gz")),
      (ascii "sha256",repeated 3)]),
    (ascii "compatibility",releaseCompatibility readable writable registry),
    (ascii "entrypoints",.object [(ascii "bot",asciiText "bot/src/bot.js"),(ascii "daemon",asciiText "daemon/src/daemon.js")]),
    (ascii "inventory",.object [(ascii "byteLength",integer 1024),(ascii "path",asciiText "bundle-files.json"),
      (ascii "payloadEntryCount",integer 3),(ascii "sha256",repeated 4),(ascii "treeFingerprint",repeated 5),
      (ascii "unpackedPayloadBytes",integer 2048)]),
    (ascii "kind",asciiText "application-deployment-manifest"),(ascii "manifestFingerprint",digestText own),
    (ascii "nativeControl",releaseNativeControl),(ascii "releaseId",.string (0x76 :: ascii version)),
    (ascii "releaseSequence",integer sequence),(ascii "releaseVersion",asciiText version),
    (ascii "runtimes",releaseRuntimes),(ascii "schemaVersion",integer 1),(ascii "signingKeyId",asciiText "key-1"),
    (ascii "source",.object [(ascii "bunLockSha256",repeated 1),
      (ascii "commit",.string (List.replicate 40 0x61)),(ascii "repository",asciiText "kogangdon/gjc-remote"),
      (ascii "tag",.string (0x76 :: ascii version)),(ascii "tree",.string (List.replicate 40 0x62))]),
    (ascii "target",releaseTarget),(ascii "wireCapabilities",releaseWire)]

def firstRelease : Value :=
  releaseManifest 1 "1.0.0" ["mapping-v1"] ["mapping-v1"]
    0x91dbde733bcff85671896753de701c2ddbe1713dcb8c71cd41bc2c950e82667f
    0xc8e4f8759311198247b21cf13f47884b10fee74f8b25f692e6d7916e169413b6

def secondRelease : Value :=
  releaseManifest 2 "2.0.0" ["mapping-v1","mapping-v2"] ["mapping-v1","mapping-v2"]
    0x4b93f60ea5971bfee8d3a75d60978bab8f299c77f03b4822ce8b555668c9f040
    0x9fe4fd640980213a20ddf81314c5a31a53bf34f29910c129e4c14a52313896ab

def thirdRelease : Value :=
  releaseManifest 3 "3.0.0" ["mapping-v1","mapping-v2"] ["mapping-v1"]
    0xa4df03707086994dc6e938b90008b132b0166b36f1797372dc3df4f76fa76a35
    0xcbee54307af44d248d2091822704d6c5c693d429d53b814a286cd1c0a24ed476

def registry : Value :=
  .object [(ascii "bot",botDomains readable writable),(ascii "daemon",daemonDomains)]

/-- The manifests and what is hashed of them, with SHA-256 of each. -/
def releaseSample : SoundSample where
  records := [
    (firstRelease,"manifestFingerprint",0xc8e4f8759311198247b21cf13f47884b10fee74f8b25f692e6d7916e169413b6),
    (secondRelease,"manifestFingerprint",0x9fe4fd640980213a20ddf81314c5a31a53bf34f29910c129e4c14a52313896ab),
    (thirdRelease,"manifestFingerprint",0xcbee54307af44d248d2091822704d6c5c693d429d53b814a286cd1c0a24ed476)]
  values := [
    (registry ["mapping-v1"] ["mapping-v1"],0x91dbde733bcff85671896753de701c2ddbe1713dcb8c71cd41bc2c950e82667f),
    (registry ["mapping-v1","mapping-v2"] ["mapping-v1","mapping-v2"],
      0x4b93f60ea5971bfee8d3a75d60978bab8f299c77f03b4822ce8b555668c9f040),
    (registry ["mapping-v1","mapping-v2"] ["mapping-v1"],
      0xa4df03707086994dc6e938b90008b132b0166b36f1797372dc3df4f76fa76a35),
    (releaseTarget,0xf6e62b2b752b7608a93eb8a9591d4a6aa6776c215a9d7286023f5e0fd2e5108c),
    (releaseRuntimes,0x704e77114fc99dfd5f107f92f60484257073350d20d089a8667302dfb6ade8ff),
    (releaseNativeControl,0x39c2fe41849350e0d515265cd545b885050f599d2796cce03950ff7d8c134299),
    (releaseWire,0x4274cc3c8a8f722eed95dd69b2e8f207aef3b09b67e038793c43eac13969a687)]
  sound := Sample.sound ["releaseVersion","manifestPath","bun"] (by decide +kernel) (by decide +kernel)

def releaseDigest : List UInt8 → Units := releaseSample.digest

/-- A small value has its bytes within the limits of a manifest too. -/
theorem small_bytes (small : isSmall value) :
    canonicalJsonBytes value MANIFEST_CANONICAL_LIMITS = .ok (utf8 (render value)) ∧
      (utf8 (render value)).length ≤ DEPLOYMENT_ENVELOPE_LIMITS.manifestBytes := by
  rw [isSmall,Bool.and_eq_true,decide_eq_true_eq] at small
  have spelling := isPlain_spelled small.1
  refine ⟨(canonicalJsonBytes_iff ..).mpr ⟨spelling.accepted _ _ (by decide),spelling.nodes.trans small.2,rfl⟩,?_⟩
  have bytes := utf8_length_le (render value)
  have units := spelling.units
  have limit : DEPLOYMENT_ENVELOPE_LIMITS.manifestBytes = 1048576 := rfl
  omega

theorem small_hash (small : isSmall value) :
    canonicalHash sha256 value MANIFEST_CANONICAL_LIMITS = canonicalJsonHash sha256 value := by
  rw [canonicalHash,canonicalJsonHash,(small_bytes small).1,(isSmall_spelled small).2.2.1]

theorem release_hash (i : Nat) (located : releaseSample.records[i]? = some r) :
    canonicalHash releaseDigest (without r.1 r.2.1) MANIFEST_CANONICAL_LIMITS = .ok (hexUnits 64 r.2.2) := by
  rw [small_hash (isSmall_without (releaseSample.sound.small r (mem_of_getElem? located)) r.2.1)]
  exact releaseSample.sound.fingerprint i located

theorem release_value (i : Nat) (located : releaseSample.values[i]? = some r) :
    canonicalHash releaseDigest r.1 STRICT_JSON_LIMITS = .ok (hexUnits 64 r.2) :=
  releaseSample.sound.hash i located

theorem release_bytes (i : Nat) (located : releaseSample.records[i]? = some r) :
    ∃ bytes, canonicalJsonBytes r.1 MANIFEST_CANONICAL_LIMITS = .ok bytes ∧
      bytes.length ≤ DEPLOYMENT_ENVELOPE_LIMITS.manifestBytes :=
  ⟨_,small_bytes (releaseSample.sound.small r (mem_of_getElem? located))⟩

def plainChecks (manifest : Value) : Bool :=
  let target := get manifest "target"
  let compatibility := get manifest "compatibility"
  hasExactKeys manifest (manifestKeys manifest) && isNumber 1 (get manifest "schemaVersion") &&
    isText "application-deployment-manifest" (get manifest "kind") && matchesText KEY_ID (get manifest "signingKeyId") &&
    matchesText SEMVER (get manifest "releaseVersion") && isGeneration (get manifest "releaseSequence") &&
    isHex (get manifest "manifestFingerprint") && !hasOwn manifest "windowsServiceBootstrap" &&
    (validateReleaseSelector (get manifest "releaseId")).isOk && (validateTuple target).isOk &&
    (validateApplicationSource (get manifest "source") (get manifest "releaseVersion") (get manifest "releaseId")).isOk &&
    (validateInventoryBinding (get manifest "inventory")).isOk &&
    (validateArchive (get manifest "archive") (get manifest "releaseVersion") target
      (get (get manifest "inventory") "payloadEntryCount")).isOk &&
    (validateApplicationEntrypoints asciiCasing (get manifest "entrypoints") (get target "platform")).isOk &&
    (validateRuntimeContract (get manifest "runtimes")).isOk &&
    (validateNativeControlContract asciiCasing (get manifest "nativeControl") (get target "platform")).isOk &&
    (validateWireCapabilities (get manifest "wireCapabilities")).isOk &&
    hasExactKeys compatibility ["schemaVersion","kind","formatRegistryFingerprint","roles"] &&
    isNumber 1 (get compatibility "schemaVersion") && isText "deployment-compatibility" (get compatibility "kind") &&
    isHex (get compatibility "formatRegistryFingerprint") && hasExactKeys (get compatibility "roles") ["bot","daemon"] &&
    (validateCompatibilityRole (get (get compatibility "roles") "bot") "bot").isOk &&
    (validateCompatibilityRole (get (get compatibility "roles") "daemon") "daemon").isOk

theorem releases_checked :
    (plainChecks firstRelease && plainChecks secondRelease && plainChecks thirdRelease) = true := by
  decide +kernel

theorem valid_of_checks (plain : plainChecks manifest)
    (hashed : canonicalHash sha256 (without manifest "manifestFingerprint") MANIFEST_CANONICAL_LIMITS = .ok own)
    (named : get manifest "manifestFingerprint" = .string own)
    (registry : compatibilityRegistryFingerprint sha256 (get manifest "compatibility") = .ok registered)
    (named' : get (get manifest "compatibility") "formatRegistryFingerprint" = .string registered)
    (encoded : ∃ bytes, canonicalJsonBytes manifest MANIFEST_CANONICAL_LIMITS = .ok bytes ∧
      bytes.length ≤ DEPLOYMENT_ENVELOPE_LIMITS.manifestBytes) :
    validateApplicationDeploymentManifest sha256 asciiCasing manifest = .ok () := by
  obtain ⟨bytes,encoded,short⟩ := encoded
  simp only [plainChecks,Bool.and_eq_true,and_assoc,Bool.not_eq_true'] at plain
  obtain ⟨keys,version,kind,signing,release,sequence,digest,bootstrap,selector,tuple,source,inventory,archive,
    entrypoints,runtimes,native,wire,compatibility,schema,kind',digest',roles,bot,daemon⟩ := plain
  have registered : validateDeploymentCompatibility sha256 (get manifest "compatibility") = .ok () := by
    simp only [validateDeploymentCompatibility,except_unit_bind_ok,except_bind_ok (α := Units),check_ok,
      Bool.and_eq_true,and_assoc]
    exact ⟨compatibility,schema,kind',digest',roles,isOk_unit bot,isOk_unit daemon,_,registry,by
      rw [named']
      exact beq_self_eq_true _⟩
  simp only [validateApplicationDeploymentManifest,except_unit_bind_ok,except_bind_ok (α := Units),
    except_bind_ok (α := List UInt8),check_ok,Bool.and_eq_true,and_assoc,decide_eq_true_eq]
  refine ⟨keys,version,kind,signing,release,sequence,digest,isOk_unit selector,isOk_unit tuple,isOk_unit source,
    isOk_unit inventory,isOk_unit archive,isOk_unit entrypoints,isOk_unit runtimes,isOk_unit native,isOk_unit wire,
    registered,?_,own,hashed,?_,bytes,?_,short⟩
  · rw [bootstrap]
    rfl
  · rw [named]
    exact beq_self_eq_true _
  · rw [encoded]
    rfl

theorem release_registry (sha256 : List UInt8 → Units) (sequence : Int) (version : String) (readable writable : List String)
    (registered own : Nat) :
    compatibilityRegistryFingerprint sha256
      (get (releaseManifest sequence version readable writable registered own) "compatibility") =
      canonicalHash sha256 (registry readable writable) STRICT_JSON_LIMITS ∧
    get (get (releaseManifest sequence version readable writable registered own) "compatibility")
      "formatRegistryFingerprint" = .string (hexUnits 64 registered) := by
  rw [← hexText,← digestText_eq]
  exact ⟨rfl,rfl⟩

theorem releases_valid :
    validateApplicationDeploymentManifest releaseDigest asciiCasing secondRelease = .ok () ∧
    validateApplicationDeploymentManifest releaseDigest asciiCasing thirdRelease = .ok () ∧
    validateApplicationDeploymentManifest releaseDigest asciiCasing firstRelease = .ok () := by
  have checked := releases_checked
  simp only [Bool.and_eq_true] at checked
  obtain ⟨⟨first,second⟩,third⟩ := checked
  have own (i : Nat) {r : Value × String × Nat} (located : releaseSample.records[i]? = some r) :
      get r.1 r.2.1 = .string (hexUnits 64 r.2.2) :=
    releaseSample.sound.own r (mem_of_getElem? located)
  refine ⟨?_,?_,?_⟩
  · have registered := release_registry releaseDigest 2 "2.0.0" ["mapping-v1","mapping-v2"] ["mapping-v1","mapping-v2"]
      0x4b93f60ea5971bfee8d3a75d60978bab8f299c77f03b4822ce8b555668c9f040
      0x9fe4fd640980213a20ddf81314c5a31a53bf34f29910c129e4c14a52313896ab
    exact valid_of_checks second (release_hash 1 rfl) (own 1 rfl)
      (registered.1.trans (release_value 1 rfl)) registered.2 (release_bytes 1 rfl)
  · have registered := release_registry releaseDigest 3 "3.0.0" ["mapping-v1","mapping-v2"] ["mapping-v1"]
      0xa4df03707086994dc6e938b90008b132b0166b36f1797372dc3df4f76fa76a35
      0xcbee54307af44d248d2091822704d6c5c693d429d53b814a286cd1c0a24ed476
    exact valid_of_checks third (release_hash 2 rfl) (own 2 rfl)
      (registered.1.trans (release_value 2 rfl)) registered.2 (release_bytes 2 rfl)
  · have registered := release_registry releaseDigest 1 "1.0.0" ["mapping-v1"] ["mapping-v1"]
      0x91dbde733bcff85671896753de701c2ddbe1713dcb8c71cd41bc2c950e82667f
      0xc8e4f8759311198247b21cf13f47884b10fee74f8b25f692e6d7916e169413b6
    exact valid_of_checks first (release_hash 0 rfl) (own 0 rfl)
      (registered.1.trans (release_value 0 rfl)) registered.2 (release_bytes 0 rfl)

def observedFormats : Value := .object [(ascii "bot-mapping-reader",formats ["mapping-v1"])]

theorem release_stable (sequence : Int) (version : String) (readable writable : List String) (registered own : Nat) :
    stableFields.map (get (releaseManifest sequence version readable writable registered own)) =
      [releaseTarget,releaseRuntimes,releaseNativeControl,releaseWire] := by
  rfl

/-- Releases that agree on their contracts pass. -/
theorem checkStableFields_same {fields : List String}
    (hashed : ∀ field ∈ fields, ∃ own, canonicalHash sha256 (get current field) STRICT_JSON_LIMITS = .ok own)
    (candidates : fields.map (get candidate) = fields.map (get current))
    (predecessors : fields.map (get predecessor) = fields.map (get current)) :
    checkStableFields sha256 current candidate predecessor fields = .ok () := by
  induction fields with
  | nil => rfl
  | cons field rest ih =>
    simp only [map_cons,List.cons.injEq] at candidates predecessors
    simp only [forall_mem_cons] at hashed
    obtain ⟨⟨own,first⟩,later⟩ := hashed
    simp only [checkStableFields,candidates.1,predecessors.1,except_bind_ok (α := Units),checks_ok]
    exact ⟨own,first,own,first,beq_self_eq_true _,own,first,beq_self_eq_true _,ih later candidates.2 predecessors.2⟩

theorem stable_fields : checkStableFields releaseDigest secondRelease thirdRelease firstRelease stableFields = .ok () := by
  have current := release_stable 2 "2.0.0" ["mapping-v1","mapping-v2"] ["mapping-v1","mapping-v2"]
    0x4b93f60ea5971bfee8d3a75d60978bab8f299c77f03b4822ce8b555668c9f040
    0x9fe4fd640980213a20ddf81314c5a31a53bf34f29910c129e4c14a52313896ab
  refine checkStableFields_same (fun field listed => ?_) ((release_stable ..).trans current.symm)
    ((release_stable ..).trans current.symm)
  have member : get secondRelease field ∈ [releaseTarget,releaseRuntimes,releaseNativeControl,releaseWire] :=
    current ▸ mem_map_of_mem listed
  simp only [mem_cons,not_mem_nil,or_false] at member
  rcases member with target | runtimes | native | wire
  · exact ⟨_,target ▸ release_value 3 rfl⟩
  · exact ⟨_,runtimes ▸ release_value 4 rfl⟩
  · exact ⟨_,native ▸ release_value 5 rfl⟩
  · exact ⟨_,wire ▸ release_value 6 rfl⟩

theorem sampleTransition_domains :
    checkDomains secondRelease thirdRelease firstRelease observedFormats "bot" ["bot-mapping-reader"] = .ok () := by
  decide +kernel

theorem sampleTransition_accepted :
    assertReleaseTransitionCompatible releaseDigest asciiCasing secondRelease thirdRelease firstRelease "bot" observedFormats
      .null = .ok () := by
  obtain ⟨current,candidate,predecessor⟩ := releases_valid
  have domain : domainsOf "bot" = ["bot-mapping-reader"] := rfl
  have keys : hasExactKeys observedFormats ["bot-mapping-reader"] = true := by
    decide +kernel
  have observed : checkObserved observedFormats ["bot-mapping-reader"] = .ok () := by
    decide +kernel
  have entrypoints : (agree (get thirdRelease "entrypoints") (get secondRelease "entrypoints") ["bot"] &&
      agree (get firstRelease "entrypoints") (get secondRelease "entrypoints") ["bot"]) = true := by
    decide +kernel
  have sdk : (strictEqual (sdkOf thirdRelease "bot") (sdkOf secondRelease "bot") &&
      strictEqual (sdkOf firstRelease "bot") (sdkOf secondRelease "bot")) = true := by
    decide +kernel
  simp only [assertReleaseTransitionCompatible,checks_ok,domain]
  exact ⟨current,candidate,predecessor,rfl,keys,observed,stable_fields,entrypoints,sampleTransition_domains,
    by simpa using sdk,rfl,rfl⟩

/-- What the current release of the sample writes, the release it may be rolled back to cannot read. -/
theorem sampleTransition_unread :
    asciiText "mapping-v2" ∈ writableOf secondRelease "bot" "bot-mapping-reader" ∧
      asciiText "mapping-v2" ∉ reads firstRelease "bot" "bot-mapping-reader" := by
  have writable : writableOf secondRelease "bot" "bot-mapping-reader" =
      [asciiText "mapping-v1",asciiText "mapping-v2"] := by
    rfl
  refine ⟨by simp [writable],fun there => ?_⟩
  cases there

theorem transition_keeps_readable_sample :
    (∀ s, Reached (writes secondRelease thirdRelease firstRelease "bot") (seen observedFormats) s → s.stage = .current →
      ∀ d ∈ domainsOf "bot", s.present d ⊆ reads thirdRelease "bot" d) ∧
    (∀ s, Reached (writes secondRelease thirdRelease firstRelease "bot") (seen observedFormats) s → s.stage = .candidate →
      ∀ d ∈ domainsOf "bot", s.present d ⊆ reads firstRelease "bot" d ∪ s.fresh d) :=
  have readable := transition_keeps_readable sampleTransition_accepted
  ⟨readable.1,readable.2.1⟩

theorem transition_unread :
    ¬ ∀ (sha256 : List UInt8 → Units) (casing : Casing) (current candidate predecessor observed sdk : Value)
      (component : String),
      assertReleaseTransitionCompatible sha256 casing current candidate predecessor component observed sdk = .ok () →
      (∀ s, Reached (writes current candidate predecessor component) (seen observed) s → s.stage = .current →
        ∀ d ∈ domainsOf component, s.present d ⊆ reads candidate component d) ∧
      ∀ s, Reached (writes current candidate predecessor component) (seen observed) s → s.stage = .candidate →
        ∀ d ∈ domainsOf component, s.present d ⊆ reads predecessor component d := by
  intro readable
  have both := (readable _ _ _ _ _ _ _ _ sampleTransition_accepted).2
  obtain ⟨written,unread⟩ := sampleTransition_unread
  obtain ⟨s,reached,running,there⟩ := @reached_written String Value
    (writes secondRelease thirdRelease firstRelease "bot") (seen observedFormats) _ _ written
  exact unread (both s reached running _ (mem_singleton.mpr rfl) there)

end GjcRemote.DeploymentEnvelope
