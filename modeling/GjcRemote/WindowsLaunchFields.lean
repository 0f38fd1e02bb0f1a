import GjcRemote.EncodedRecords
import GjcRemote.WindowsLaunch

/-! What is known of a launch that was accepted: its members, the arguments that the serializer takes, and
that the arguments tell the launch. -/
namespace GjcRemote.WindowsLaunch

open Utf16 StrictJson Record Envelope CommandLine
open List hiding splitOn get
open ServiceEnvelope (record text isHexDigit DAEMON_SERVICE_KEY isLower isDecimal)
open DeploymentEnvelope (textOf)

theorem byteLength_assignment (printable : isPrintable (ofString name) = true) (value : Units) :
    byteLength (assignment (name,value)) = (ofString name).length + 1 + byteLength value := by
  have assigned : assignment (name,value) = (ofString name ++ [0x3D]) ++ value := by simp [assignment]
  have front : isPrintable (ofString name ++ [0x3D]) = true := by
    rw [isPrintable,all_append,Bool.and_eq_true]
    exact ⟨printable,by decide⟩
  rw [assigned,byteLength_append front]
  simp

theorem decode_append (plain : isLow u = false) (front rest : Units) :
    decode (front ++ u :: rest) = decode front ++ decode (u :: rest) := by
  fun_induction decode front with
  | case1 => rfl
  | case2 v lone => simp [decode,plain,lone]
  | case3 v single => simp [decode,plain,single]
  | case4 v w later pair ih => simp [decode,pair,ih]
  | case5 v w later apart lone ih =>
    rw [cons_append] at ih
    simp [decode,apart,lone,ih]
  | case6 v w later apart single ih =>
    rw [cons_append] at ih
    simp [decode,apart,single,ih]

/-- Texts that part in front of a unit that is no low surrogate have their own bytes. -/
theorem byteLength_parts (plain : isLow u = false) (front rest : Units) :
    byteLength (front ++ u :: rest) = byteLength front + byteLength (u :: rest) := by
  simp [byteLength,utf8,decode_append plain]

theorem hex_bytes (hex : isHex64 units = true) : byteLength units = 64 := by
  rw [byteLength_printable (hex_printable hex)]
  rw [isHex64,Bool.and_eq_true,beq_iff_eq] at hex
  exact hex.1

section Accepted

variable {lower : Units → Units} {launch component serviceKey : Value}

/-- What is known of a launch that was accepted with its policy. -/
structure Launched (launch component serviceKey : Value) : Prop where
  named : ∃ name, windowsServiceName component serviceKey = .ok name
  paths : ∀ key ∈ pathKeys, validCanonicalWindowsPath (get launch key) = true
  hashes : ∀ key ∈ hashKeys, isHex (get launch key) = true
  version : isText (runtimeOf component).version (get launch "runtimeVersion") = true
  sourceRevision : isText (runtimeOf component).sourceRevision (get launch "runtimeSourceRevision") = true
  own : (if isBot component then botFields launch else daemonFields launch) = true
  logAs : get launch "logAs" = .string (expectedLogAs component serviceKey)
  logCmdAs : get launch "logCmdAs" = .string (expectedLogCmdAs component serviceKey)
  policy : isHex (get launch "runtimePolicyFingerprint") = true

theorem launchFields_launched (accepted : launchFields lower launch component serviceKey true = .ok ()) :
    Launched launch component serviceKey := by
  obtain ⟨_,accepted⟩ := except_unit_bind_ok.mp accepted
  obtain ⟨name,named,accepted⟩ := except_bind_ok.mp accepted
  obtain ⟨paths,accepted⟩ := except_unit_bind_ok.mp accepted
  simp only [check_ok,Bool.and_eq_true,Bool.not_true,Bool.false_or,all_eq_true] at paths accepted
  obtain ⟨⟨⟨⟨⟨⟨⟨⟨⟨⟨⟨hashes,version⟩,revision⟩,_⟩,own⟩,_⟩,_⟩,_⟩,_⟩,logAs⟩,logCmdAs⟩,policy⟩ := accepted
  exact ⟨⟨name,named⟩,paths,hashes,version,revision,own,same_string (strictEqual_same logAs),
    same_string (strictEqual_same logCmdAs),policy⟩

theorem canonical_text (valid : validCanonicalWindowsPath value = true) :
    ∃ path, value = .string path ∧ canonicalPath path = true := by
  cases value with
  | string path => exact ⟨path,rfl,valid⟩
  | _ => cases valid

theorem canonicalPath_valid (canonical : canonicalPath path = true) : validPath path = true := by
  simp only [canonicalPath,Bool.and_eq_true] at canonical
  exact canonical.1.1.1.1

theorem path_fits (valid : validCanonicalWindowsPath (get launch key) = true) :
    member launch key ≠ [] ∧ byteLength (member launch key) ≤ argvElementBytes := by
  obtain ⟨path,same,canonical⟩ := canonical_text valid
  have valid := canonicalPath_valid canonical
  simp only [validPath,Bool.and_eq_true,Bool.not_eq_true',isEmpty_eq_false_iff,decide_eq_true_eq] at valid
  rw [member,same]
  exact valid.1

theorem hex_member (hex : isHex (get launch key) = true) : byteLength (member launch key) = 64 := by
  obtain ⟨units,same,digits⟩ := isHex_iff.mp hex
  rw [member,same]
  exact hex_bytes digits

theorem null_member (null : isNull (get launch key) = true) : member launch key = [] := by
  rw [member]
  cases value : get launch key with
  | null => rfl
  | _ => rw [value] at null; cases null

theorem named_cases (named : windowsServiceName component serviceKey = .ok name) :
    (component = text "bot" ∧ serviceKey = text "bot" ∧ name = ofString "GJCRemoteBot") ∨
      component = text "daemon" ∧ ∃ key, serviceKey = .string key ∧ DAEMON_SERVICE_KEY key = true ∧
        name = ofString "GJCRemoteDaemon-" ++ key := by
  unfold windowsServiceName at named
  split at named
  · next bot =>
    obtain ⟨component',key⟩ := Bool.and_eq_true_iff.mp bot
    exact .inl ⟨isText_iff.mp component',isText_iff.mp key,(Except.ok.inj named).symm⟩
  split at named
  · next daemon =>
    obtain ⟨component',key⟩ := Bool.and_eq_true_iff.mp daemon
    cases serviceKey with
    | string units => exact .inr ⟨isText_iff.mp component',units,rfl,key,(Except.ok.inj named).symm⟩
    | _ => cases key
  · cases named

/-- A daemon's key is printable, and has 97 characters at most. -/
theorem daemonKey_bytes (valid : DAEMON_SERVICE_KEY key = true) : isPrintable key = true ∧ key.length ≤ 97 := by
  simp only [DAEMON_SERVICE_KEY,Bool.and_eq_true,decide_eq_true_eq,beq_iff_eq,all_eq_true] at valid
  obtain ⟨⟨⟨⟨⟨⟨short,_⟩,_⟩,slug⟩,dash⟩,long⟩,digest⟩ := valid
  have whole : key.take (key.length - 65) ++ key.drop (key.length - 65) = key := take_append_drop _ _
  generalize key.take (key.length - 65) = front at whole short slug
  generalize key.drop (key.length - 65) = back at whole dash long digest
  cases back with
  | nil => cases dash
  | cons u rest =>
    cases Option.some.inj dash
    have fine (v : UInt16) (inside : v ∈ key) : (0x20 ≤ v.toNat && decide (v.toNat < 0x7F)) = true := by
      rw [← whole,mem_append,mem_cons] at inside
      rcases inside with early | rfl | late
      · have unit := slug v early
        simp [isLower,isDecimal,UInt16.le_iff_toNat_le,← UInt16.toNat_inj] at unit
        simp
        omega
      · decide
      · have unit := digest v late
        simp [isHexDigit,isDecimal,UInt16.le_iff_toNat_le] at unit
        simp
        omega
    refine ⟨all_eq_true.mpr fine,?_⟩
    rw [← whole,length_append,length_cons]
    rw [tail_cons] at long
    omega

/-- Room for the name of its variable is left by every path of a launch. -/
structure Fits (launch : Value) : Prop where
  homeDirectory : byteLength (member launch "homeDirectory") ≤ 4084
  bootstrapPath : byteLength (member launch "bootstrapPath") ≤ 4070
  channelsConfig : byteLength (member launch "channelsConfig") ≤ 4080
  runtimeConfigPath : byteLength (member launch "runtimeConfigPath") ≤ 4065
  sdkProfilePath : byteLength (member launch "sdkProfilePath") ≤ 4068

/-- The members that are neither paths nor names of logs. -/
def shortKeys : List String :=
  hashKeys ++ ["runtimeVersion","runtimeSourceRevision","runtimeConfigRootIdentityFingerprint","runtimeConfigSha256",
    "runtimeConfigIdentityFingerprint","runtimePolicyFingerprint"]

theorem text_member (same : isText name (get launch key) = true) (printable : isPrintable (ofString name) = true) :
    byteLength (member launch key) = (ofString name).length := by
  rw [member,isText_iff.mp same]
  exact byteLength_printable printable

theorem Launched.short (launched : Launched launch component serviceKey) :
    ∀ key ∈ shortKeys, byteLength (member launch key) ≤ 100 := by
  have nothing {key : String} (null : isNull (get launch key) = true) : byteLength (member launch key) ≤ 100 := by
    rw [null_member null]
    decide
  have digest {key : String} (hex : isHex (get launch key) = true) : byteLength (member launch key) ≤ 100 := by
    rw [hex_member hex]
    decide
  have version : byteLength (member launch "runtimeVersion") ≤ 100 ∧
      byteLength (member launch "runtimeSourceRevision") ≤ 100 := by
    have version := launched.version
    have revision := launched.sourceRevision
    unfold runtimeOf at version revision
    split at version
    · next bot =>
      rw [if_pos bot] at revision
      rw [text_member version (by decide),text_member revision (by decide)]
      decide
    · next daemon =>
      rw [if_neg daemon] at revision
      rw [text_member version (by decide),text_member revision (by decide)]
      decide
  have own : byteLength (member launch "runtimeConfigRootIdentityFingerprint") ≤ 100 ∧
      byteLength (member launch "runtimeConfigSha256") ≤ 100 ∧
      byteLength (member launch "runtimeConfigIdentityFingerprint") ≤ 100 := by
    have own := launched.own
    split at own
    · simp only [botFields,Bool.and_eq_true,all_eq_true,forall_mem_cons] at own
      obtain ⟨⟨_,identity,_,file,config,_⟩,_⟩ := own
      exact ⟨nothing identity,nothing file,nothing config⟩
    · simp only [daemonFields,Bool.and_eq_true] at own
      obtain ⟨⟨⟨⟨⟨⟨⟨⟨_,identity⟩,_⟩,file⟩,config⟩,_⟩,_⟩,_⟩,_⟩ := own
      refine ⟨digest identity,?_,digest config⟩
      rw [text_member file (by decide)]
      decide
  intro key listed
  rcases mem_append.mp listed with hash | other
  · exact digest (launched.hashes key hash)
  · simp only [mem_cons,not_mem_nil,or_false] at other
    rcases other with rfl | rfl | rfl | rfl | rfl | rfl
    · exact version.1
    · exact version.2
    · exact own.1
    · exact own.2.1
    · exact own.2.2
    · exact digest launched.policy

theorem assignment_fits (printable : isPrintable (ofString name) = true) {value : Units} {room : Nat}
    (fits : byteLength value ≤ room) (long : (ofString name).length + 1 + room ≤ argvElementBytes) :
    byteLength (assignment (name,value)) ≤ argvElementBytes := by
  rw [byteLength_assignment printable]
  omega

theorem Launched.key_bytes (launched : Launched launch component serviceKey) :
    byteLength (textOf component) ≤ 100 ∧ byteLength (textOf serviceKey) ≤ 100 := by
  obtain ⟨name,named⟩ := launched.named
  rcases named_cases named with ⟨rfl,rfl,_⟩ | ⟨rfl,key,rfl,valid,_⟩
  · decide
  · obtain ⟨printable,short⟩ := daemonKey_bytes valid
    refine ⟨by decide,?_⟩
    rw [textOf,byteLength_printable printable]
    omega

/-- The variables of the component fit when its paths leave room. -/
theorem Launched.component_fits (launched : Launched launch component serviceKey) (fits : Fits launch) :
    ∀ entry ∈ componentEnvironment launch component, byteLength (assignment entry) ≤ argvElementBytes := by
  obtain ⟨name,named⟩ := launched.named
  have config := fits.runtimeConfigPath
  rcases named_cases named with ⟨rfl,_⟩ | ⟨rfl,_⟩
  · exact forall_mem_cons.mpr ⟨assignment_fits (by decide) fits.channelsConfig (by decide),by simp⟩
  · have own := launched.own
    simp only [daemonFields,show isBot (text "daemon") = false by decide,Bool.false_eq_true,if_false,
      Bool.and_eq_true,beq_iff_eq] at own
    have placed : member launch "runtimeConfigPath" = member launch "runtimeConfigRoot" ++
        0x5C :: ofString ".bunfig.toml" := own.2
    have parts := byteLength_parts (show isLow 0x5C = false by decide) (member launch "runtimeConfigRoot")
      (ofString ".bunfig.toml")
    rw [← placed] at parts
    have root : byteLength (member launch "runtimeConfigRoot") ≤ 4065 := by omega
    show ∀ entry ∈ [("BUN_OPTIONS",[]),("BUN_INSPECT_PRELOAD",member launch "bootstrapPath"),
      ("XDG_CONFIG_HOME",member launch "runtimeConfigRoot"),("BUN_INSPECT",[]),("BUN_INSPECT_CONNECT_TO",[]),
      ("GJC_CODING_AGENT_DIR",member launch "sdkProfilePath")],_
    have empty : byteLength [] ≤ 0 := by decide
    simp only [forall_mem_cons]
    exact ⟨assignment_fits (by decide) empty (by decide),assignment_fits (by decide) fits.bootstrapPath (by decide),
      assignment_fits (by decide) root (by decide),assignment_fits (by decide) empty (by decide),
      assignment_fits (by decide) empty (by decide),assignment_fits (by decide) fits.sdkProfilePath (by decide),
      by simp⟩

theorem Launched.service_fits (launched : Launched launch component serviceKey) (fits : Fits launch)
    (hex : isHex64 launchFingerprint = true) :
    ∀ entry ∈ serviceEnvironment launch component serviceKey launchFingerprint false,
      byteLength (assignment entry) ≤ argvElementBytes := by
  obtain ⟨component',key⟩ := launched.key_bytes
  have home := fits.homeDirectory
  have boot := fits.bootstrapPath
  have config := fits.runtimeConfigPath
  have profile := fits.sdkProfilePath
  have small (name : String) (named : isPrintable (ofString name) = true ∧ (ofString name).length ≤ 60)
      {value : Units} (few : byteLength value ≤ 100) : byteLength (assignment (name,value)) ≤ argvElementBytes := by
    refine assignment_fits named.1 few ?_
    rw [argvElementBytes]
    omega
  have own (name key : String) (named : isPrintable (ofString name) = true ∧ (ofString name).length ≤ 60)
      (listed : key ∈ shortKeys) : byteLength (assignment (name,member launch key)) ≤ argvElementBytes :=
    small name named (launched.short key listed)
  rw [serviceEnvironment,forall_mem_append,forall_mem_append]
  refine ⟨⟨?_,launched.component_fits fits⟩,?_⟩
  · simp only [forall_mem_cons]
    exact ⟨assignment_fits (by decide) home (by decide),assignment_fits (by decide) home (by decide),
      small _ (by decide) (by decide),small _ (by decide) (by decide),by simp⟩
  · simp only [forall_mem_cons]
    exact ⟨small _ (by decide) component',small _ (by decide) key,own _ _ (by decide) (by decide),
      own _ _ (by decide) (by decide),own _ _ (by decide) (by decide),own _ _ (by decide) (by decide),
      own _ _ (by decide) (by decide),assignment_fits (by decide) boot (by decide),own _ _ (by decide) (by decide),
      own _ _ (by decide) (by decide),own _ _ (by decide) (by decide),assignment_fits (by decide) config (by decide),
      own _ _ (by decide) (by decide),own _ _ (by decide) (by decide),assignment_fits (by decide) profile (by decide),
      own _ _ (by decide) (by decide),own _ _ (by decide) (by decide),own _ _ (by decide) (by decide),
      small _ (by decide) (by rw [hex_bytes hex]; decide),own _ _ (by decide) (by decide),by simp⟩

/-- Variables that fit leave room for their names. -/
theorem Launched.room (launched : Launched launch component serviceKey)
    (fits : ∀ entry ∈ serviceEnvironment launch component serviceKey launchFingerprint false,
      byteLength (assignment entry) ≤ argvElementBytes) : Fits launch := by
  have room (name key : String) (printable : isPrintable (ofString name) = true)
      (listed : (name,member launch key) ∈ serviceEnvironment launch component serviceKey launchFingerprint false) :
      (ofString name).length + 1 + byteLength (member launch key) ≤ argvElementBytes := by
    rw [← byteLength_assignment printable]
    exact fits _ listed
  refine ⟨?_,?_,?_,?_,?_⟩
  · have home := room "USERPROFILE" "homeDirectory" (by decide) (by simp [serviceEnvironment])
    have length : (ofString "USERPROFILE").length = 11 := by decide
    rw [length,argvElementBytes] at home
    omega
  · have boot := room "GJC_REMOTE_BOOTSTRAP_PATH" "bootstrapPath" (by decide) (by simp [serviceEnvironment])
    have length : (ofString "GJC_REMOTE_BOOTSTRAP_PATH").length = 25 := by decide
    rw [length,argvElementBytes] at boot
    omega
  · obtain ⟨name,named⟩ := launched.named
    rcases named_cases named with ⟨rfl,_⟩ | ⟨rfl,_⟩
    · have listed : ("CHANNELS_CONFIG",member launch "channelsConfig") ∈ componentEnvironment launch (text "bot") :=
        mem_cons_self
      have channels := room "CHANNELS_CONFIG" "channelsConfig" (by decide)
        (mem_append_left _ (mem_append_right _ listed))
      have length : (ofString "CHANNELS_CONFIG").length = 15 := by decide
      rw [length,argvElementBytes] at channels
      omega
    · have own := launched.own
      simp only [daemonFields,show isBot (text "daemon") = false by decide,Bool.false_eq_true,if_false,
        Bool.and_eq_true] at own
      rw [null_member own.1.1.2]
      decide
  · have config := room "GJC_REMOTE_RUNTIME_CONFIG_PATH" "runtimeConfigPath" (by decide)
      (by simp [serviceEnvironment])
    have length : (ofString "GJC_REMOTE_RUNTIME_CONFIG_PATH").length = 30 := by decide
    rw [length,argvElementBytes] at config
    omega
  · have profile := room "GJC_REMOTE_SDK_PROFILE_PATH" "sdkProfilePath" (by decide) (by simp [serviceEnvironment])
    have length : (ofString "GJC_REMOTE_SDK_PROFILE_PATH").length = 27 := by decide
    rw [length,argvElementBytes] at profile
    omega

/-- An argument that the serializer takes. -/
def Taken (value : Units) : Prop := value ≠ [] ∧ byteLength value ≤ argvElementBytes

theorem taken_printable (printable : isPrintable units = true) (filled : units ≠ []) (short : units.length ≤ 200) :
    Taken units := by
  refine ⟨filled,?_⟩
  rw [byteLength_printable printable,argvElementBytes]
  omega

theorem isPrintable_append (left : isPrintable one = true) (right : isPrintable two = true) :
    isPrintable (one ++ two) = true := by
  rw [isPrintable,all_append,Bool.and_eq_true]
  exact ⟨left,right⟩

theorem Launched.name_taken (named : windowsServiceName component serviceKey = .ok name) : Taken name := by
  rcases named_cases named with ⟨_,_,rfl⟩ | ⟨_,key,_,valid,rfl⟩
  · exact taken_printable (by decide) (by decide) (by decide)
  · obtain ⟨printable,short⟩ := daemonKey_bytes valid
    have length : (ofString "GJCRemoteDaemon-").length = 16 := by decide
    refine taken_printable (isPrintable_append (by decide) printable) (by simp [← length_eq_zero_iff,length]) ?_
    rw [length_append,length]
    omega

theorem Launched.log_taken (launched : Launched launch component serviceKey) :
    Taken (member launch "logAs") ∧ Taken (member launch "logCmdAs") := by
  rw [member,member,launched.logAs,launched.logCmdAs]
  have log (suffix : String) (printable : isPrintable (ofString suffix) = true)
      (short : (ofString suffix).length ≤ 10) : Taken (expectedLog component serviceKey suffix) := by
    obtain ⟨name,named⟩ := launched.named
    have dash : isPrintable (ofString "-") = true ∧ (ofString "-").length = 1 := by decide
    rcases named_cases named with ⟨rfl,_⟩ | ⟨rfl,key,rfl,valid,_⟩
    · have length : (ofString "gjc-remote-bot-").length = 15 := by decide
      show Taken (ofString "gjc-remote-bot-" ++ ofString suffix)
      refine taken_printable (isPrintable_append (by decide) printable) (by simp [← length_eq_zero_iff,length]) ?_
      rw [length_append,length]
      omega
    · obtain ⟨key_printable,key_short⟩ := daemonKey_bytes valid
      have length : (ofString "gjc-remote-daemon-").length = 18 := by decide
      show Taken (ofString "gjc-remote-daemon-" ++ key ++ ofString "-" ++ ofString suffix)
      refine taken_printable (isPrintable_append (isPrintable_append (isPrintable_append (by decide) key_printable)
        dash.1) printable) (by simp [← length_eq_zero_iff,length]) ?_
      rw [length_append,length_append,length_append,length,dash.2]
      omega
  exact ⟨log "wrapper" (by decide) (by decide),log "child" (by decide) (by decide)⟩

theorem Launched.child_taken (launched : Launched launch component serviceKey) :
    ∀ value ∈ childArguments launch component, Taken value := by
  have path (key : String) (listed : key ∈ pathKeys) : Taken (member launch key) :=
    path_fits (launched.paths key listed)
  unfold childArguments
  split
  · simp only [forall_mem_cons]
    exact ⟨path _ (by decide),path _ (by decide),by simp⟩
  · next daemon =>
    have own := launched.own
    rw [if_neg daemon] at own
    simp only [daemonFields,Bool.and_eq_true] at own
    have config : Taken (member launch "runtimeConfigPath") := path_fits own.1.1.1.1.1.1.2
    simp only [forall_mem_cons]
    exact ⟨path _ (by decide),taken_printable (by decide) (by decide) (by decide),config,
      taken_printable (by decide) (by decide) (by decide),path _ (by decide),by simp⟩

/-- The serializer takes the arguments exactly when the paths leave room. -/
theorem Launched.arguments_taken (launched : Launched launch component serviceKey)
    (named : windowsServiceName component serviceKey = .ok name) (hex : isHex64 launchFingerprint = true) :
    (∀ value ∈ shawlArgv launch component serviceKey name launchFingerprint, Taken value) ↔ Fits launch := by
  have path (key : String) (listed : key ∈ pathKeys) : Taken (member launch key) :=
    path_fits (launched.paths key listed)
  have literal (name : String) (fine : isPrintable (ofString name) = true ∧ ofString name ≠ [] ∧
      (ofString name).length ≤ 200) : Taken (ofString name) := taken_printable fine.1 fine.2.1 fine.2.2
  rw [shawlArgv,forall_mem_append,forall_mem_append,forall_mem_append]
  constructor
  · rintro ⟨⟨⟨_,taken⟩,_⟩,_⟩
    refine @Launched.room _ _ _ launchFingerprint launched fun entry listed => ?_
    exact (taken _ (mem_flatMap.mpr ⟨entry,listed,mem_cons_of_mem _ mem_cons_self⟩)).2
  · intro fits
    refine ⟨⟨⟨?_,?_⟩,?_⟩,launched.child_taken⟩
    · simp only [forall_mem_cons]
      exact ⟨path _ (by decide),literal _ (by decide),literal _ (by decide),Launched.name_taken named,
        literal _ (by decide),path _ (by decide),by simp⟩
    · intro value listed
      obtain ⟨entry,variable',listed⟩ := mem_flatMap.mp listed
      rcases mem_cons.mp listed with rfl | listed
      · exact literal _ (by decide)
      · rw [mem_singleton.mp listed]
        exact ⟨by simp [assignment],launched.service_fits fits hex entry variable'⟩
    · have timeout : Taken (ofString (expectedStopTimeout component)) := by
        unfold expectedStopTimeout
        split
        · exact literal _ (by decide)
        · exact literal _ (by decide)
      simp only [forall_mem_cons]
      exact ⟨literal _ (by decide),literal _ (by decide),literal _ (by decide),literal _ (by decide),
        literal _ (by decide),literal _ (by decide),timeout,literal _ (by decide),path _ (by decide),
        literal _ (by decide),launched.log_taken.1,literal _ (by decide),launched.log_taken.2,literal _ (by decide),
        literal _ (by decide),literal _ (by decide),literal _ (by decide),literal _ (by decide),by simp⟩

/-- The members that are null in the launch of a component. -/
def nullKeys (component : Value) : List String :=
  if isBot component then ["runtimeConfigRoot","runtimeConfigRootIdentityFingerprint","runtimeConfigPath",
    "runtimeConfigSha256","runtimeConfigIdentityFingerprint","sdkProfilePath"]
  else ["channelsConfig"]

def componentKeys : List String :=
  ["runtimeConfigRoot","runtimeConfigRootIdentityFingerprint","runtimeConfigPath","runtimeConfigSha256",
    "runtimeConfigIdentityFingerprint","sdkProfilePath","channelsConfig"]

/-- The members that are there in every launch. -/
def plainKeys : List String :=
  pathKeys ++ hashKeys ++ ["runtimeVersion","runtimeSourceRevision","logAs","logCmdAs","runtimePolicyFingerprint"]

theorem plainKeys_shown (component : Value) : ∀ key ∈ plainKeys, key ∉ nullKeys component := by
  unfold nullKeys
  split
  · decide
  · decide

theorem shown_member (there : ∃ units, get launch key = .string units) :
    get launch key = .string (member launch key) := by
  obtain ⟨units,same⟩ := there
  rw [member,same]
  rfl

theorem shown_path (valid : validCanonicalWindowsPath (get launch key) = true) :
    get launch key = .string (member launch key) :=
  shown_member ((canonical_text valid).imp fun _ both => both.1)

theorem shown_hex (valid : isHex (get launch key) = true) : get launch key = .string (member launch key) :=
  shown_member ((isHex_iff.mp valid).imp fun _ both => both.1)

theorem Launched.value_plain (launched : Launched launch component serviceKey) : ∀ key ∈ plainKeys,
    get launch key = .string (member launch key) := by
  intro key listed
  rcases mem_append.mp listed with listed | listed
  · rcases mem_append.mp listed with listed | listed
    · exact shown_path (launched.paths key listed)
    · exact shown_hex (launched.hashes key listed)
  · simp only [mem_cons,not_mem_nil,or_false] at listed
    rcases listed with rfl | rfl | rfl | rfl | rfl
    · exact shown_member ⟨_,isText_iff.mp launched.version⟩
    · exact shown_member ⟨_,isText_iff.mp launched.sourceRevision⟩
    · exact shown_member ⟨_,launched.logAs⟩
    · exact shown_member ⟨_,launched.logCmdAs⟩
    · exact shown_hex launched.policy

theorem Launched.value_component (launched : Launched launch component serviceKey) : ∀ key ∈ componentKeys,
    get launch key = if key ∈ nullKeys component then .null else .string (member launch key) := by
  have null (key : String) (valid : isNull (get launch key) = true) : get launch key = .null := by
    cases value : get launch key with
    | null => rfl
    | _ => rw [value] at valid; cases valid
  have own := launched.own
  unfold nullKeys componentKeys
  split at own
  · next bot =>
    simp only [botFields,Bool.and_eq_true,all_eq_true,forall_mem_cons] at own
    obtain ⟨⟨root,identity,config,file,configIdentity,profile,_⟩,channels⟩ := own
    simp only [if_pos bot,forall_mem_cons]
    exact ⟨null _ root,null _ identity,null _ config,null _ file,null _ configIdentity,null _ profile,
      shown_path channels,by simp⟩
  · next daemon =>
    simp only [daemonFields,Bool.and_eq_true] at own
    obtain ⟨⟨⟨⟨⟨⟨⟨⟨root,identity⟩,config⟩,file⟩,configIdentity⟩,profile⟩,channels⟩,_⟩,_⟩ := own
    simp only [if_neg daemon,forall_mem_cons]
    exact ⟨shown_path root,shown_hex identity,shown_path config,shown_member ⟨_,isText_iff.mp file⟩,
      shown_hex configIdentity,shown_path profile,null _ channels,by simp⟩

theorem Launched.value (launched : Launched launch component serviceKey) : ∀ key ∈ LAUNCH_KEYS,
    get launch key = if key ∈ nullKeys component then .null else .string (member launch key) := by
  have listed : ∀ key ∈ LAUNCH_KEYS, key ∈ plainKeys ∨ key ∈ componentKeys := by decide
  intro key launches
  rcases listed key launches with plain | own
  · rw [if_neg (plainKeys_shown component key plain)]
    exact launched.value_plain key plain
  · exact launched.value_component key own

theorem variables_of_arguments {one two : List (String × Units)} (names : one.map Prod.fst = two.map Prod.fst)
    (same : (one.flatMap fun entry => [ofString "--env",assignment entry]) =
      two.flatMap fun entry => [ofString "--env",assignment entry]) : one.map Prod.snd = two.map Prod.snd := by
  induction one generalizing two with
  | nil =>
    cases two with
    | nil => rfl
    | cons => cases names
  | cons first rest ih =>
    cases two with
    | nil => cases names
    | cons second others =>
      rw [map_cons,map_cons,cons.injEq] at names
      simp only [flatMap_cons,cons_append,nil_append,cons.injEq,true_and] at same
      have value : first.2 = second.2 := by
        have assigned := same.1
        rw [assignment,assignment,names.1] at assigned
        exact (cons.inj (append_cancel_left assigned)).2
      rw [map_cons,map_cons,value,ih names.2 same.2]

/-- Null members have no text. -/
theorem Launched.absent (launched : Launched launch component serviceKey) (listed : key ∈ LAUNCH_KEYS)
    (null : key ∈ nullKeys component) : member launch key = [] := by
  rw [member,launched.value key listed,if_pos null]
  rfl

/-- The component's own variables tell its members. -/
theorem Launched.own_members (launched : Launched launch component serviceKey)
    (launched' : Launched launch' component serviceKey)
    (same : (componentEnvironment launch component).map Prod.snd =
      (componentEnvironment launch' component).map Prod.snd) :
    member launch "runtimeConfigRoot" = member launch' "runtimeConfigRoot" ∧
      member launch "channelsConfig" = member launch' "channelsConfig" := by
  have root : "runtimeConfigRoot" ∈ LAUNCH_KEYS := by decide
  have channels : "channelsConfig" ∈ LAUNCH_KEYS := by decide
  obtain ⟨name,named⟩ := launched.named
  rcases named_cases named with ⟨rfl,_⟩ | ⟨rfl,_⟩
  · have null : "runtimeConfigRoot" ∈ nullKeys (text "bot") := by decide
    refine ⟨(launched.absent root null).trans (launched'.absent root null).symm,?_⟩
    exact (cons.inj same).1
  · have null : "channelsConfig" ∈ nullKeys (text "daemon") := by decide
    refine ⟨?_,(launched.absent channels null).trans (launched'.absent channels null).symm⟩
    exact (cons.inj (cons.inj (cons.inj same).2).2).1

/-- Launches of one component with the same arguments have the same texts. -/
theorem Launched.members (launched : Launched launch component serviceKey)
    (launched' : Launched launch' component serviceKey)
    (same : shawlArgv launch component serviceKey name one = shawlArgv launch' component serviceKey name two) :
    ∀ key ∈ LAUNCH_KEYS, member launch key = member launch' key := by
  have children : (childArguments launch component).length = (childArguments launch' component).length := by
    unfold childArguments
    split <;> rfl
  obtain ⟨same,child⟩ := append_inj' same children
  obtain ⟨same,tail⟩ := append_inj' same rfl
  obtain ⟨head,listed⟩ := append_inj same rfl
  have names : (serviceEnvironment launch component serviceKey one false).map Prod.fst =
      (serviceEnvironment launch' component serviceKey two false).map Prod.fst := by
    unfold serviceEnvironment componentEnvironment
    split <;> rfl
  have values := variables_of_arguments names listed
  have lengths : ((componentEnvironment launch component).map Prod.snd).length =
      ((componentEnvironment launch' component).map Prod.snd).length := by
    unfold componentEnvironment
    split <;> rfl
  rw [serviceEnvironment,serviceEnvironment,map_append,map_append,map_append,map_append] at values
  obtain ⟨values,later⟩ := append_inj' values rfl
  obtain ⟨first,own⟩ := append_inj values rfl
  obtain ⟨root,channels⟩ := launched.own_members launched' own
  have run : member launch "runtimePath" = member launch' "runtimePath" ∧
      member launch "entrypointPath" = member launch' "entrypointPath" := by
    unfold childArguments at child
    split at child
    · simp only [cons.injEq] at child
      exact ⟨child.1,child.2.1⟩
    · simp only [cons.injEq] at child
      exact ⟨child.1,child.2.2.2.2.1⟩
  simp only [cons.injEq,true_and] at head tail
  simp only [map_cons,cons.injEq,Bool.false_eq_true,if_false] at first later
  obtain ⟨supervisor,directory,_⟩ := head
  obtain ⟨home,_⟩ := first
  obtain ⟨logDirectory,logAs,logCmdAs,_⟩ := tail
  obtain ⟨_,_,supervisorHash,version,revision,runtimeHash,entrypointHash,bootstrap,bootstrapHash,closure,identity,
    config,configHash,configIdentity,profile,scope,effective,source,_,policy,_⟩ := later
  simp only [LAUNCH_KEYS,forall_mem_cons]
  exact ⟨supervisor,supervisorHash,directory,home,run.1,runtimeHash,version,revision,run.2,entrypointHash,bootstrap,
    bootstrapHash,closure,root,identity,config,configHash,configIdentity,profile,scope,logDirectory,logAs,logCmdAs,
    channels,effective,source,policy,by simp⟩

/-- Arguments tell the component, the key and every member of an accepted launch. -/
theorem Launched.told (launched : Launched launch component serviceKey)
    (launched' : Launched launch' component' serviceKey')
    (named : windowsServiceName component serviceKey = .ok name)
    (named' : windowsServiceName component' serviceKey' = .ok name')
    (same : shawlArgv launch component serviceKey name one = shawlArgv launch' component' serviceKey' name' two) :
    component' = component ∧ serviceKey' = serviceKey ∧
      ∀ key ∈ LAUNCH_KEYS, get launch' key = get launch key := by
  have fourth := congrArg (·[3]?) same
  have names : name = name' := Option.some.inj fourth
  subst names
  have apart (key : Units) : ofString "GJCRemoteBot" ≠ ofString "GJCRemoteDaemon-" ++ key := by
    intro equal
    have ten := congrArg (take 10) equal
    rw [take_append_of_le_length (by decide)] at ten
    exact absurd ten (by decide)
  have identity : component' = component ∧ serviceKey' = serviceKey := by
    rcases named_cases named with ⟨rfl,rfl,own⟩ | ⟨rfl,key,rfl,_,own⟩ <;>
      rcases named_cases named' with ⟨rfl,rfl,own'⟩ | ⟨rfl,key',rfl,_,own'⟩
    · exact ⟨rfl,rfl⟩
    · exact absurd (own.symm.trans own') (apart key')
    · exact absurd (own'.symm.trans own) (apart key)
    · exact ⟨rfl,congrArg Value.string (append_cancel_left (own'.symm.trans own))⟩
  obtain ⟨rfl,rfl⟩ := identity
  refine ⟨rfl,rfl,fun key listed => ?_⟩
  rw [launched.value key listed,launched'.value key listed,launched.members launched' same key listed]

end Accepted

end GjcRemote.WindowsLaunch
