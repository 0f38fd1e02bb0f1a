import GjcRemote.WindowsCommandLine
import GjcRemote.WindowsLaunchFields

/-! The command line of a launch: it is read back and tells the launch, and it is there as long as the paths
leave room for the names of their variables. -/
namespace GjcRemote.WindowsLaunch

open Utf16 StrictJson Record Envelope CommandLine
open List hiding splitOn get
open ServiceEnvelope (record text get_record_cons hasExactKeys_record DAEMON_SERVICE_KEY)
open DeploymentEnvelope (textOf)
open MappingEnvelope (splitOn isBackslash)
open JsText (lowerAscii)

section Faithful

variable {lower : Units → Units} {sha256 : List UInt8 → Units} {input : Value} {argv : List Units}

theorem built_launched (built : buildWindowsShawlArgv lower sha256 input = .ok argv) :
    Launched (get input "launch") (get input "component") (get input "serviceKey") ∧ ∃ name bytes,
      windowsServiceName (get input "component") (get input "serviceKey") = .ok name ∧
      argv = shawlArgv (get input "launch") (get input "component") (get input "serviceKey") name (sha256 bytes) := by
  obtain ⟨_,built⟩ := except_unit_bind_ok.mp built
  obtain ⟨accepted,built⟩ := except_unit_bind_ok.mp built
  obtain ⟨name,named,built⟩ := except_bind_ok.mp built
  obtain ⟨_,_,built⟩ := except_bind_ok.mp built
  obtain ⟨_,built⟩ := except_unit_bind_ok.mp built
  obtain ⟨fingerprint,hashed,built⟩ := except_bind_ok.mp built
  obtain ⟨_,hashed⟩ := except_unit_bind_ok.mp hashed
  obtain ⟨bytes,_,own⟩ := except_bind_ok.mp hashed
  refine ⟨launchFields_launched accepted,name,bytes,named,?_⟩
  rw [Except.ok.inj own]
  exact (Except.ok.inj built).symm

/-- The system reads the arguments of an accepted launch back from their text. -/
theorem split_line (built : buildWindowsShawlArgv lower sha256 input = .ok argv)
    (serialized : serializeWindowsCommandLine argv = .ok line) : commandLineToArgv windows line = argv := by
  obtain ⟨launched,name,bytes,_,rfl⟩ := built_launched built
  obtain ⟨path,same,canonical⟩ := canonical_text (launched.paths "supervisorPath" (by decide))
  have program : member (get input "launch") "supervisorPath" = path := by
    rw [member,same]
    rfl
  obtain ⟨plain,last⟩ := canonicalPath_plain canonical
  rw [← program] at plain last
  rw [(serialize_ok.mp serialized).2.2,shawlArgv,cons_append,cons_append,cons_append,line_cons]
  exact commandLineToArgv_quoted rfl plain last _

theorem arguments_last (launch component serviceKey : Value) (name launchFingerprint : Units) :
    (shawlArgv launch component serviceKey name launchFingerprint).getLast? =
      some (member launch "entrypointPath") := by
  have child : (childArguments launch component).getLast? = some (member launch "entrypointPath") := by
    unfold childArguments
    split <;> rfl
  rw [shawlArgv,getLast?_append,child]
  rfl

/-- A path that leaves no room makes the serializer refuse the arguments of an accepted launch. -/
theorem line_refused (hex : ∀ bytes, isHex64 (sha256 bytes) = true)
    (built : buildWindowsShawlArgv lower sha256 input = .ok argv) (long : ¬Fits (get input "launch")) :
    serializeWindowsCommandLine argv = .error (typeError "invalid Windows command line") := by
  cases serialized : serializeWindowsCommandLine argv with
  | ok line =>
    obtain ⟨launched,name,bytes,named,rfl⟩ := built_launched built
    exact absurd ((launched.arguments_taken named (hex bytes)).mp (serialize_ok.mp serialized).2.1) long
  | error e =>
    unfold serializeWindowsCommandLine at serialized
    split at serialized
    · exact serialized.symm
    · cases serialized

/-- What the text of a launch's arguments is for: the system and the driver read it back, and it tells the
launch. -/
structure Faithful (lower : Units → Units) (sha256 : List UInt8 → Units) (input : Value) (argv : List Units)
    (line : Units) : Prop where
  serialized : serializeWindowsCommandLine argv = .ok line
  split : commandLineToArgv windows line = argv
  entrypoint : ∃ path, get (get input "launch") "entrypointPath" = .string path ∧
    commandLineEntrypoint line = some path
  told : ∀ other argv', buildWindowsShawlArgv lower sha256 other = .ok argv' →
    serializeWindowsCommandLine argv' = .ok line → get other "component" = get input "component" ∧
      get other "serviceKey" = get input "serviceKey" ∧
      ∀ key ∈ LAUNCH_KEYS, get (get other "launch") key = get (get input "launch") key

/-- The arguments of an accepted launch have a text, which is faithful, exactly when its paths leave room. -/
theorem command_line_faithful_iff (hex : ∀ bytes, isHex64 (sha256 bytes) = true)
    (built : buildWindowsShawlArgv lower sha256 input = .ok argv) :
    (∃ line, Faithful lower sha256 input argv line) ↔ Fits (get input "launch") := by
  obtain ⟨launched,name,bytes,named,rfl⟩ := built_launched built
  rw [← launched.arguments_taken named (hex bytes)]
  constructor
  · rintro ⟨line,faithful⟩
    exact (serialize_ok.mp faithful.serialized).2.1
  · intro taken
    have serialized := serialize_ok.mpr ⟨cons_ne_nil _ _,taken,rfl⟩
    refine ⟨_,serialized,split_line built serialized,?_,fun other argv' built' serialized' => ?_⟩
    · obtain ⟨path,same,canonical⟩ := canonical_text (launched.paths "entrypointPath" (by decide))
      have entrypoint : member (get input "launch") "entrypointPath" = path := by
        rw [member,same]
        rfl
      refine ⟨path,same,commandLineEntrypoint_line _ _ path ?_ (canonicalPath_valid canonical)⟩
      rw [← entrypoint]
      exact arguments_last ..
    · have equal := (split_line built serialized).symm.trans (split_line built' serialized')
      obtain ⟨launched',name',bytes',named',rfl⟩ := built_launched built'
      exact launched.told launched' named named' equal

end Faithful

section Records

variable {launch component serviceKey : Value}

/-- Every text of a launch can be encoded. -/
def Strict (launch : Value) : Prop := ∀ key ∈ LAUNCH_KEYS, StrictUnits (member launch key)

theorem Launched.encodes (launched : Launched launch component serviceKey) (strict : Strict launch)
    (listed : key ∈ LAUNCH_KEYS) : Encodes 0 1 (get launch key) := by
  rw [launched.value key listed]
  split
  · exact encodes_null
  · exact encodes_string (strict key listed)

theorem Launched.identity (launched : Launched launch component serviceKey) :
    Encodes 0 1 component ∧ Encodes 0 1 serviceKey := by
  obtain ⟨name,named⟩ := launched.named
  rcases named_cases named with ⟨rfl,rfl,_⟩ | ⟨rfl,key,rfl,valid,_⟩
  · exact ⟨encodes_text (by decide),encodes_text (by decide)⟩
  · exact ⟨encodes_text (by decide),encodes_string (printable_strict (daemonKey_bytes valid).1)⟩

theorem Launched.launchRecord_encodes (launched : Launched launch component serviceKey) (strict : Strict launch) :
    Encodes 2 113 (launchRecord launch component serviceKey) := by
  have covered : ∀ key ∈ policyKeys, key ∈ LAUNCH_KEYS ∧ isPrintable (ofString key) = true := by decide
  have apart : policyKeys.Nodup := by decide
  have count : policyKeys.length = 26 := by decide
  have fields : Encodes 1 27 (record (policyKeys.map fun key => (key,get launch key))) := by
    have each : ∀ m ∈ policyKeys.map fun key => (key,get launch key), Encodes 0 1 m.2 :=
      forall_mem_map.mpr fun key listed => launched.encodes strict (covered key listed).1
    have names : Prod.fst ∘ (fun key => (key,get launch key)) = id := rfl
    refine (encodes_record ?_ (forall_mem_map.mpr fun key listed => (covered key listed).2) each).weaken
      (Nat.le_refl _) ?_
    · rw [map_map,names,map_id]
      exact apart
    · rw [length_map,count]
  obtain ⟨component',key⟩ := launched.identity
  have each : ∀ m ∈ [("kind",text "gjc-remote/windows-service-launch/v1"),("component",component),
      ("serviceKey",serviceKey),("launch",record (policyKeys.map fun key => (key,get launch key)))],
      Encodes 1 27 m.2 := by
    simp only [forall_mem_cons]
    exact ⟨(encodes_text (by decide)).weaken (by decide) (by decide),component'.weaken (by decide) (by decide),
      key.weaken (by decide) (by decide),fields,by simp⟩
  refine (encodes_record ?_ ?_ each).weaken (Nat.le_refl _) (Nat.le_of_ble_eq_true rfl)
  · show ["kind","component","serviceKey","launch"].Nodup
    decide
  · simp only [forall_mem_cons]
    exact ⟨by decide,by decide,by decide,by decide,by simp⟩

theorem Launched.environment_encodes (launched : Launched launch component serviceKey) (strict : Strict launch)
    (digest : isHex64 launchFingerprint = true) :
    ∀ entry ∈ serviceEnvironment launch component serviceKey launchFingerprint true,
      isPrintable (ofString entry.1) = true ∧ StrictUnits entry.2 := by
  have own (key : String) (listed : key ∈ LAUNCH_KEYS) : StrictUnits (member launch key) := strict key listed
  have digits : StrictUnits launchFingerprint := printable_strict (hex_printable digest)
  have identity : StrictUnits (textOf component) ∧ StrictUnits (textOf serviceKey) := by
    obtain ⟨name,named⟩ := launched.named
    rcases named_cases named with ⟨rfl,rfl,_⟩ | ⟨rfl,key,rfl,valid,_⟩
    · exact ⟨printable_strict (by decide),printable_strict (by decide)⟩
    · exact ⟨printable_strict (by decide),printable_strict (daemonKey_bytes valid).1⟩
  have component' : ∀ entry ∈ componentEnvironment launch component,
      isPrintable (ofString entry.1) = true ∧ StrictUnits entry.2 := by
    unfold componentEnvironment
    split
    · simp only [forall_mem_cons]
      exact ⟨⟨by decide,.nil⟩,⟨by decide,own _ (by decide)⟩,⟨by decide,own _ (by decide)⟩,⟨by decide,.nil⟩,
        ⟨by decide,.nil⟩,⟨by decide,own _ (by decide)⟩,by simp⟩
    · simp only [forall_mem_cons]
      exact ⟨⟨by decide,own _ (by decide)⟩,by simp⟩
  rw [serviceEnvironment,forall_mem_append,forall_mem_append]
  refine ⟨⟨?_,component'⟩,?_⟩
  · simp only [forall_mem_cons]
    exact ⟨⟨by decide,own _ (by decide)⟩,⟨by decide,own _ (by decide)⟩,⟨by decide,.nil⟩,⟨by decide,.nil⟩,by simp⟩
  · simp only [forall_mem_cons,if_true]
    exact ⟨⟨by decide,identity.1⟩,⟨by decide,identity.2⟩,⟨by decide,own _ (by decide)⟩,
      ⟨by decide,own _ (by decide)⟩,⟨by decide,own _ (by decide)⟩,⟨by decide,own _ (by decide)⟩,
      ⟨by decide,own _ (by decide)⟩,⟨by decide,own _ (by decide)⟩,⟨by decide,own _ (by decide)⟩,
      ⟨by decide,own _ (by decide)⟩,⟨by decide,own _ (by decide)⟩,⟨by decide,own _ (by decide)⟩,
      ⟨by decide,own _ (by decide)⟩,⟨by decide,own _ (by decide)⟩,⟨by decide,own _ (by decide)⟩,
      ⟨by decide,own _ (by decide)⟩,⟨by decide,own _ (by decide)⟩,⟨by decide,own _ (by decide)⟩,
      ⟨by decide,digits⟩,⟨by decide,printable_strict (by decide)⟩,by simp⟩

/-- The names of the variables are told apart. -/
theorem environment_names (launch component serviceKey : Value) (launchFingerprint : Units) (template : Bool) :
    ((serviceEnvironment launch component serviceKey launchFingerprint template).map Prod.fst).Nodup ∧
      (serviceEnvironment launch component serviceKey launchFingerprint template).length ≤ 30 := by
  unfold serviceEnvironment componentEnvironment
  split
  · simp only [map_append,map_cons,map_nil,length_append,length_cons,length_nil]
    decide
  · simp only [map_append,map_cons,map_nil,length_append,length_cons,length_nil]
    decide

theorem Launched.policyRecord_encodes (launched : Launched launch component serviceKey) (strict : Strict launch)
    (digest : isHex64 launchFingerprint = true) :
    Encodes 2 249 (policyRecord launch component serviceKey launchFingerprint) := by
  have own (key : String) (listed : key ∈ LAUNCH_KEYS) : StrictUnits (member launch key) := strict key listed
  have child : Encodes 1 31 (.array ((childArguments launch component).map .string)) := by
    have strict : ∀ value ∈ childArguments launch component, StrictUnits value := by
      unfold childArguments
      split
      · simp only [forall_mem_cons]
        exact ⟨own _ (by decide),own _ (by decide),by simp⟩
      · simp only [forall_mem_cons]
        exact ⟨own _ (by decide),printable_strict (by decide),own _ (by decide),printable_strict (by decide),
          own _ (by decide),by simp⟩
    have few : (childArguments launch component).length ≤ 5 := by
      unfold childArguments
      split <;> simp
    refine (encodes_array (forall_mem_map.mpr fun value listed => encodes_string (strict value listed))).weaken
      (Nat.le_refl _) ?_
    rw [length_map]
    omega
  have environment : Encodes 1 31 (record ((serviceEnvironment launch component serviceKey launchFingerprint true).map
      fun entry => (entry.1,.string entry.2))) := by
    have each := launched.environment_encodes strict digest
    obtain ⟨apart,few⟩ := environment_names launch component serviceKey launchFingerprint true
    refine (encodes_record ?_ (forall_mem_map.mpr fun entry listed => (each entry listed).1)
      (forall_mem_map.mpr fun entry listed => encodes_string (each entry listed).2)).weaken (Nat.le_refl _) ?_
    · rw [map_map]
      exact apart
    · rw [length_map]
      omega
  obtain ⟨component',key⟩ := launched.identity
  have plain {value : Value} (encodes : Encodes 0 1 value) : Encodes 1 31 value :=
    encodes.weaken (by decide) (by decide)
  have each : ∀ m ∈ [("argv",.array ((childArguments launch component).map .string)),("component",component),
      ("environment",record ((serviceEnvironment launch component serviceKey launchFingerprint true).map
        fun entry => (entry.1,.string entry.2))),("kind",text "gjc-remote/windows-runtime-policy/v1"),
      ("launchFingerprint",.string launchFingerprint),("runtimeSourceRevision",get launch "runtimeSourceRevision"),
      ("runtimeVersion",get launch "runtimeVersion"),("serviceKey",serviceKey)], Encodes 1 31 m.2 := by
    simp only [forall_mem_cons]
    exact ⟨child,plain component',environment,plain (encodes_text (by decide)),
      plain (encodes_string (printable_strict (hex_printable digest))),plain (launched.encodes strict (by decide)),
      plain (launched.encodes strict (by decide)),plain key,by simp⟩
  refine (encodes_record ?_ ?_ each).weaken (Nat.le_refl _) (Nat.le_of_ble_eq_true rfl)
  · show ["argv","component","environment","kind","launchFingerprint","runtimeSourceRevision","runtimeVersion",
      "serviceKey"].Nodup
    decide
  · simp only [forall_mem_cons]
    exact ⟨by decide,by decide,by decide,by decide,by decide,by decide,by decide,by decide,by simp⟩

/-- The two records that are hashed differ in their kind. -/
theorem Launched.records_apart (launched : Launched launch component serviceKey) (strict : Strict launch)
    (digest : isHex64 launchFingerprint = true) :
    utf8 (render (policyRecord launch component serviceKey launchFingerprint)) ≠
      utf8 (render (launchRecord launch component serviceKey)) := by
  intro equal
  have one := launched.policyRecord_encodes strict digest
  have two := (launched.launchRecord_encodes strict).weaken (Nat.le_refl 2) (Nat.le_of_ble_eq_true rfl : 113 ≤ 249)
  have same := one.same two (by decide) (by decide) equal
  have kinds := textCodes_same one.distinct two.distinct same ["kind"]
  simp only [textCodes,map_cons,map_nil,policyRecord,launchRecord,get_record_cons,String.reduceEq,if_false,if_true,
    text] at kinds
  exact absurd kinds (by decide)

variable {lower : Units → Units} {sha256 : List UInt8 → Units} {input : Value}

/-- A launch with its policy passes the checks for one without. -/
theorem launchFields_weaken (accepted : launchFields lower launch component serviceKey true = .ok ()) :
    launchFields lower launch component serviceKey false = .ok () := by
  obtain ⟨shape,accepted⟩ := except_unit_bind_ok.mp accepted
  obtain ⟨name,named,accepted⟩ := except_bind_ok.mp accepted
  obtain ⟨paths,accepted⟩ := except_unit_bind_ok.mp accepted
  refine except_unit_bind_ok.mpr ⟨?_,except_bind_ok.mpr ⟨name,named,except_unit_bind_ok.mpr ⟨paths,?_⟩⟩⟩
  · simp only [check_ok,Bool.and_eq_true,Bool.not_true,Bool.false_and,Bool.or_false,Bool.not_false,Bool.true_and,
      Bool.or_eq_true] at shape ⊢
    exact ⟨.inl shape.1,shape.2⟩
  · simp only [check_ok,Bool.and_eq_true,Bool.not_false,Bool.true_or,Bool.not_true,Bool.false_or] at accepted ⊢
    exact ⟨accepted.1,trivial⟩

/-- The fingerprints that a launch is accepted under. -/
def launchDigest (sha256 : List UInt8 → Units) (launch component serviceKey : Value) : Units :=
  sha256 (utf8 (render (launchRecord launch component serviceKey)))

def policyDigest (sha256 : List UInt8 → Units) (launch component serviceKey : Value) : Units :=
  sha256 (utf8 (render (policyRecord launch component serviceKey (launchDigest sha256 launch component serviceKey))))

/-- A launch that passes the checks and names its policy is accepted. -/
theorem built_of_checks (hex : ∀ bytes, isHex64 (sha256 bytes) = true)
    (shape : hasExactKeys input ["component","serviceKey","launch"] = true)
    (accepted : launchFields lower (get input "launch") (get input "component") (get input "serviceKey") true = .ok ())
    (strict : Strict (get input "launch")) (policy : get (get input "launch") "runtimePolicyFingerprint" =
      .string (policyDigest sha256 (get input "launch") (get input "component") (get input "serviceKey"))) :
    ∃ argv, buildWindowsShawlArgv lower sha256 input = .ok argv := by
  have launched := launchFields_launched accepted
  obtain ⟨name,named⟩ := launched.named
  have launchBytes := (launched.launchRecord_encodes strict).bytes (by decide) (by decide)
  have policyBytes := (launched.policyRecord_encodes strict (hex (utf8 (render (launchRecord (get input "launch")
    (get input "component") (get input "serviceKey")))))).bytes (by decide) (by decide)
  have launchHash : canonicalJsonHash sha256 (launchRecord (get input "launch") (get input "component")
      (get input "serviceKey")) = .ok (launchDigest sha256 _ _ _) := except_bind_ok.mpr ⟨_,launchBytes,rfl⟩
  have policyHash : canonicalJsonHash sha256 (policyRecord (get input "launch") (get input "component")
      (get input "serviceKey") (launchDigest sha256 _ _ _)) = .ok (policyDigest sha256 _ _ _) :=
    except_bind_ok.mpr ⟨_,policyBytes,rfl⟩
  refine ⟨_,except_unit_bind_ok.mpr ⟨check_ok.mpr shape,except_unit_bind_ok.mpr ⟨accepted,
    except_bind_ok.mpr ⟨name,named,except_bind_ok.mpr ⟨_,except_unit_bind_ok.mpr ⟨launchFields_weaken accepted,
      except_bind_ok.mpr ⟨_,launchHash,policyHash⟩⟩,except_unit_bind_ok.mpr ⟨check_ok.mpr ?_,
        except_bind_ok.mpr ⟨_,except_unit_bind_ok.mpr ⟨accepted,launchHash⟩,rfl⟩⟩⟩⟩⟩⟩⟩
  rw [policy]
  exact beq_self_eq_true _

end Records

section Sample

/-- A bootstrap in a folder whose name has `n` letters. -/
def folderPath (n : Nat) : Units :=
  ofString "C:\\" ++ (replicate n 0x61 ++ 0x5C :: ofString "service-bootstrap.js")

theorem splitOn_folder (n : Nat) (leaf : Units) :
    splitOn isBackslash (replicate n 0x61 ++ 0x5C :: leaf) = replicate n 0x61 :: splitOn isBackslash leaf := by
  induction n with
  | zero => rfl
  | succ n ih =>
    rw [replicate_succ,cons_append,splitOn,ih]
    rfl

theorem folderPath_printable (n : Nat) : isPrintable (folderPath n) = true := by
  have letters : isPrintable (replicate n 0x61) = true := by
    refine all_eq_true.mpr fun u listed => ?_
    rw [eq_of_mem_replicate listed]
    decide
  exact isPrintable_append (by decide) (isPrintable_append letters (by decide))

theorem folderPath_bytes (n : Nat) : byteLength (folderPath n) = n + 24 := by
  have drive : (ofString "C:\\").length = 3 := by decide
  have leaf : (ofString "service-bootstrap.js").length = 20 := by decide
  rw [byteLength_printable (folderPath_printable n),folderPath,length_append,length_append,length_replicate,
    length_cons,drive,leaf]
  omega

theorem folderPath_canonical (named : 0 < n) (fits : n ≤ 4072) : canonicalPath (folderPath n) = true := by
  have bytes := folderPath_bytes n
  have drive : ofString "C:\\" = [0x43,0x3A,0x5C] := by decide
  have behind : (folderPath n).drop 3 = replicate n 0x61 ++ 0x5C :: ofString "service-bootstrap.js" := by
    rw [folderPath,drive]
    rfl
  have last : (folderPath n).getLast? = some 0x73 := by
    have leaf : (0x5C :: ofString "service-bootstrap.js").getLast? = some 0x73 := by decide
    rw [folderPath,getLast?_append,getLast?_append,leaf]
    rfl
  have slash : (folderPath n).contains 0x2F = false := by
    rw [contains_eq_mem,decide_eq_false_iff_not,folderPath,mem_append,mem_append,not_or,not_or]
    refine ⟨by decide,fun listed => ?_,by decide⟩
    exact absurd (eq_of_mem_replicate listed) (by decide)
  have folder : validPart (replicate n 0x61) = true := by
    obtain ⟨k,rfl⟩ := Nat.exists_eq_succ_of_ne_zero named.ne'
    have letters : (replicate (k + 1) (0x61 : UInt16)).any isForbidden = false := by
      refine any_eq_false.mpr fun u listed => ?_
      rw [eq_of_mem_replicate listed]
      decide
    have final : (replicate (k + 1) (0x61 : UInt16)).getLast? = some 0x61 := by
      rw [replicate_succ',getLast?_concat]
    rw [validPart,letters,final]
    rfl
  have leaf : (splitOn isBackslash (ofString "service-bootstrap.js")).all validPart = true := by decide
  have valid : validPath (folderPath n) = true := by
    rw [validPath,bytes,pathBytes,decide_eq_true (by omega),folderPath,drive]
    rfl
  rw [canonicalPath,valid,slash,last,behind,splitOn_folder,all_cons,folder,leaf,folderPath,drive]
  rfl

theorem folderPath_leaf (n : Nat) :
    validWin32Leaf lowerAscii (.string (folderPath n)) "service-bootstrap.js" = true := by
  have parts : (folderPath n).reverse = (ofString "service-bootstrap.js").reverse ++ 0x5C ::
      (ofString "C:\\" ++ replicate n 0x61).reverse := by
    simp [folderPath]
  have leaf : ∀ u ∈ (ofString "service-bootstrap.js").reverse, decide (u ≠ 0x5C) = true :=
    all_eq_true.mp (by decide +kernel)
  rw [validWin32Leaf,textOf,parts,takeWhile_append_of_pos leaf,takeWhile_cons_of_neg (by simp),append_nil,
    reverse_reverse]
  decide

/-- A launch of the bot. -/
def botLaunch (bootstrapPath policy : Units) : Value :=
  record [("supervisorPath",text "C:\\Program Files\\GJC\\shawl.exe"),("supervisorSha256",hexText 1),
    ("workingDirectory",text "C:\\GJC\\bot"),("homeDirectory",text "C:\\GJC\\home"),
    ("runtimePath",text "C:\\Program Files\\nodejs\\node.exe"),("runtimeSha256",hexText 2),
    ("runtimeVersion",text NODE_RUNTIME.version),("runtimeSourceRevision",text NODE_RUNTIME.sourceRevision),
    ("entrypointPath",text "C:\\GJC\\bot\\bot.js"),("entrypointSha256",hexText 3),
    ("bootstrapPath",.string bootstrapPath),("bootstrapSha256",hexText 4),("bootstrapClosureFingerprint",hexText 5),
    ("runtimeConfigRoot",.null),("runtimeConfigRootIdentityFingerprint",.null),("runtimeConfigPath",.null),
    ("runtimeConfigSha256",.null),("runtimeConfigIdentityFingerprint",.null),("sdkProfilePath",.null),
    ("scopeFingerprint",hexText 6),("logDirectory",text "C:\\GJC\\log"),("logAs",text "gjc-remote-bot-wrapper"),
    ("logCmdAs",text "gjc-remote-bot-child"),("channelsConfig",text "C:\\GJC\\channels.json"),
    ("effectiveConfigFingerprint",hexText 7),("configSourceIdentityFingerprint",hexText 8),
    ("runtimePolicyFingerprint",.string policy)]

def botInput (bootstrapPath policy : Units) : Value :=
  record [("component",text "bot"),("serviceKey",text "bot"),("launch",botLaunch bootstrapPath policy)]

theorem botLaunch_accepted (named : 0 < n) (fits : n ≤ 4072) (digits : isHex64 policy = true) :
    launchFields lowerAscii (botLaunch (folderPath n) policy) (text "bot") (text "bot") true = .ok () := by
  have shape : hasExactKeys (botLaunch (folderPath n) policy) LAUNCH_KEYS = true := by
    rw [botLaunch,hasExactKeys_record]
    simp [LAUNCH_KEYS]
  have bot : isBot (text "bot") = true := by decide
  have canonical : validCanonicalWindowsPath (.string (folderPath n)) = true := folderPath_canonical named fits
  have leaf := folderPath_leaf n
  refine except_unit_bind_ok.mpr ⟨?_,except_bind_ok.mpr ⟨ofString SERVICE_NAME_BOT,?_,
    except_unit_bind_ok.mpr ⟨?_,?_⟩⟩⟩
  · rw [check_ok,shape,bot]
    rfl
  · rw [windowsServiceName,bot]
    rfl
  · rw [check_ok,pathKeys]
    simp only [all_cons,all_nil,botLaunch,get_record_cons,String.reduceEq,if_false,if_true]
    rw [canonical]
    decide
  · rw [check_ok,hashKeys,bot,botFields]
    simp only [all_cons,all_nil,botLaunch,get_record_cons,String.reduceEq,if_false,if_true]
    rw [leaf,show isHex (.string policy) = true from digits]
    simp only [hexText_isHex]
    decide

theorem botLaunch_strict (digits : isHex64 policy = true) : Strict (botLaunch (folderPath n) policy) := by
  have printable : (LAUNCH_KEYS.all fun key =>
      isPrintable (member (botLaunch (folderPath n) policy) key)) = true := by
    have hash (n : Nat) : isPrintable (textOf (hexText n)) = true := hex_printable (hexText_isHex n)
    have folder : isPrintable (textOf (.string (folderPath n))) = true := folderPath_printable n
    have named : isPrintable (textOf (.string policy)) = true := hex_printable digits
    simp only [LAUNCH_KEYS,all_cons,all_nil,member,botLaunch,get_record_cons,String.reduceEq,if_false,if_true,hash,
      folder,named]
    decide
  exact fun key listed => printable_strict (all_eq_true.mp printable key listed)

/-- Takes the two records of a sample to their SHA-256. -/
def sampleHash (n launchFingerprint policy : Nat) (bytes : List UInt8) : Units :=
  if bytes = utf8 (render (launchRecord (botLaunch (folderPath n) (hexUnits 64 policy)) (text "bot") (text "bot")))
  then hexUnits 64 launchFingerprint
  else hexUnits 64 policy

theorem sampleHash_hex (n launchFingerprint policy : Nat) (bytes : List UInt8) :
    isHex64 (sampleHash n launchFingerprint policy bytes) = true := by
  unfold sampleHash
  split
  · exact hexText_isHex launchFingerprint
  · exact hexText_isHex policy

theorem sample_built (launchFingerprint policy : Nat) (named : 0 < n) (fits : n ≤ 4072) :
    ∃ argv, buildWindowsShawlArgv lowerAscii (sampleHash n launchFingerprint policy)
      (botInput (folderPath n) (hexUnits 64 policy)) = .ok argv := by
  have digits : isHex64 (hexUnits 64 policy) = true := hexText_isHex policy
  have component : get (botInput (folderPath n) (hexUnits 64 policy)) "component" = text "bot" := rfl
  have serviceKey : get (botInput (folderPath n) (hexUnits 64 policy)) "serviceKey" = text "bot" := rfl
  have launch : get (botInput (folderPath n) (hexUnits 64 policy)) "launch" =
      botLaunch (folderPath n) (hexUnits 64 policy) := by
    simp only [botInput,get_record_cons,String.reduceEq,if_false,if_true]
  have accepted := botLaunch_accepted named fits digits
  have strict := botLaunch_strict (n := n) digits
  refine built_of_checks (sampleHash_hex n launchFingerprint policy) ?_ ?_ ?_ ?_
  · rw [botInput,hasExactKeys_record]
    rfl
  · rw [launch,component,serviceKey]
    exact accepted
  · rw [launch]
    exact strict
  · rw [launch,component,serviceKey,policyDigest,sampleHash,if_neg]
    · simp only [botLaunch,get_record_cons,String.reduceEq,if_false,if_true]
    · refine (launchFields_launched accepted).records_apart strict ?_
      rw [launchDigest]
      exact sampleHash_hex ..

/-- A launch whose paths leave room has a faithful text. -/
theorem command_line_faithful_sample : ∃ argv line, Faithful lowerAscii
    (sampleHash 3 0xA1E76F591F3B31782721F52A4BACDC159A369456354AA8CA6D4A13576D6CD536
      0x1ACF389658E9B6BAA2C4572D38AE302C1F43ECD767C50A01C127B1EEBD8F277F)
    (botInput (folderPath 3) (hexUnits 64 0x1ACF389658E9B6BAA2C4572D38AE302C1F43ECD767C50A01C127B1EEBD8F277F))
    argv line := by
  obtain ⟨argv,built⟩ := sample_built 0xA1E76F591F3B31782721F52A4BACDC159A369456354AA8CA6D4A13576D6CD536
    0x1ACF389658E9B6BAA2C4572D38AE302C1F43ECD767C50A01C127B1EEBD8F277F (show 0 < 3 by decide) (by decide)
  refine ⟨argv,(command_line_faithful_iff (sampleHash_hex _ _ _) built).mpr ?_⟩
  exact ⟨by decide,by decide,by decide,by decide,by decide⟩

/-- A path of 4096 bytes is accepted, and the argument that holds it is refused. -/
theorem command_line_refused : ∃ argv, buildWindowsShawlArgv lowerAscii
    (sampleHash 4072 0xA5287D20106E2C2AB85C34922ABF1C75EC5977398C6C523BBFF008D643A9F3AF
      0x7E88E597DB21EA91BDE315A47684C0CC2FFB847EB488E915C83D649BBA535309)
    (botInput (folderPath 4072) (hexUnits 64 0x7E88E597DB21EA91BDE315A47684C0CC2FFB847EB488E915C83D649BBA535309)) =
      .ok argv ∧ serializeWindowsCommandLine argv = .error (typeError "invalid Windows command line") := by
  obtain ⟨argv,built⟩ := sample_built 0xA5287D20106E2C2AB85C34922ABF1C75EC5977398C6C523BBFF008D643A9F3AF
    0x7E88E597DB21EA91BDE315A47684C0CC2FFB847EB488E915C83D649BBA535309 (show 0 < 4072 by decide) (by decide)
  refine ⟨argv,built,line_refused (sampleHash_hex _ _ _) built fun fits => ?_⟩
  have short : byteLength (folderPath 4072) ≤ 4070 := fits.bootstrapPath
  rw [folderPath_bytes] at short
  omega

end Sample

end GjcRemote.WindowsLaunch
