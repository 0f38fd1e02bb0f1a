import GjcRemote.CommandLine
import GjcRemote.DeploymentEnvelope
import GjcRemote.JsText

/-! The command line of a Windows service, from `native-control/src/service-windows.js`: the launch that is
accepted, the arguments that the supervisor gets, their text and the driver's own reading of it. Records are
those of plain data, and `toLowerCase` is a parameter. -/
namespace GjcRemote.WindowsLaunch

open Utf16 StrictJson Record Envelope CommandLine
open ServiceEnvelope (record text isHexDigit DAEMON_SERVICE_KEY)
open MappingEnvelope (splitOn isBackslash isLetter isDotSegment)
open DeploymentEnvelope (textOf)
open JsText (isSpace)

/-- `SERVICE_LIFECYCLE_LIMITS.pathBytes`. -/
def pathBytes : Nat := 4096

/-- `WINDOWS_DRIVER_LIMITS.argvElementBytes`. -/
def argvElementBytes : Nat := 4096

def isSeparator (u : UInt16) : Bool := u == 0x5C || u == 0x2F

/-- `/^(?:[A-Za-z]:[\\/]|\\\\[^\\/]+[\\/]+)/`. -/
def opensPath : Units → Bool
  | 0x5C :: 0x5C :: rest =>
    !(rest.takeWhile (!isSeparator ·)).isEmpty && !(rest.dropWhile (!isSeparator ·)).isEmpty
  | letter :: colon :: separator :: _ => isLetter letter && colon == 0x3A && isSeparator separator
  | _ => false

def validPath (path : Units) : Bool := !path.isEmpty && byteLength path ≤ pathBytes && opensPath path

/-- `/^[A-Z]:\\/`. -/
def opensDrive : Units → Bool
  | letter :: colon :: slash :: _ => (0x41 ≤ letter && letter ≤ 0x5A) && colon == 0x3A && slash == 0x5C
  | _ => false

/-- `/[<>:"|?*\u0000-\u001f]/`. -/
def isForbidden (u : UInt16) : Bool := u ≤ 0x1F || (ofString "<>:\"|?*").contains u

def validPart (part : Units) : Bool :=
  !part.isEmpty && !isDotSegment part && !part.any isForbidden &&
    !(part.getLast?.any fun u => u == 0x2E || u == 0x20)

def canonicalPath (path : Units) : Bool :=
  validPath path && opensDrive path && !path.contains 0x2F && path.getLast? != some 0x5C &&
    (splitOn isBackslash (path.drop 3)).all validPart

def validCanonicalWindowsPath : Value → Bool
  | .string path => canonicalPath path
  | _ => false

def windows : Marks UInt16 :=
  ⟨0x22,0x5C,fun u => u == 0x20 || u == 0x9,by decide,by decide,by decide⟩

/-- The characters of an argument are taken one unit at a time, which writes the same. -/
def serializeWindowsCommandLine (argv : List Units) : Except JsError Units :=
  if argv.isEmpty || argv.any (fun value => value.isEmpty || argvElementBytes < byteLength value) then
    .error (typeError "invalid Windows command line")
  else .ok ([0x20].intercalate (argv.map (quoteArgument windows)))

/-- An argument that is being read: the backslashes before this point, whether a quote came last, and what
it has so far. -/
structure Reading where
  slashes : Nat
  quoteLast : Bool
  value : Units

/-- The loops of `commandLineEntrypoint`, between arguments or inside one. -/
def readArguments : Option Reading → List Units → Units → Option (List Units)
  | none,args,[] => some args
  | none,args,u :: rest =>
    if isSpace u then readArguments none args rest
    else if u ≠ 0x22 then none
    else readArguments (some ⟨0,true,[]⟩) args rest
  | some r,args,[] => if r.slashes = 0 && r.quoteLast then some (args ++ [r.value]) else none
  | some r,args,u :: rest =>
    if u = 0x5C then readArguments (some ⟨r.slashes + 1,false,r.value⟩) args rest
    else if u = 0x22 then
      let value := r.value ++ List.replicate (r.slashes / 2) 0x5C
      if r.slashes % 2 = 1 then readArguments (some ⟨0,true,value ++ [0x22]⟩) args rest
      else readArguments none (args ++ [value]) rest
    else readArguments (some ⟨0,false,r.value ++ List.replicate r.slashes 0x5C ++ [u]⟩) args rest

def commandLineEntrypoint (binaryPath : Units) : Option Units :=
  if binaryPath.isEmpty then none
  else ((readArguments none [] binaryPath).bind List.getLast?).filter validPath

structure Runtime where
  version : String
  sourceRevision : String

def NODE_RUNTIME : Runtime := ⟨"26.7.0","b4f23d3619c98bed09af93a21192f6080197a8c6"⟩

def BUN_RUNTIME : Runtime := ⟨"1.4.2","744846f844374847c902b5e7fd59b4342a51ef99"⟩

def EMPTY_FILE_SHA256 : String := "e3b0c44298fc1c149afbf4c8996fb92427ae41e4649b934ca495991b7852b855"

def SERVICE_NAME_BOT : String := "GJCRemoteBot"

def LAUNCH_KEYS : List String :=
  ["supervisorPath","supervisorSha256","workingDirectory","homeDirectory","runtimePath","runtimeSha256",
    "runtimeVersion","runtimeSourceRevision","entrypointPath","entrypointSha256","bootstrapPath","bootstrapSha256",
    "bootstrapClosureFingerprint","runtimeConfigRoot","runtimeConfigRootIdentityFingerprint","runtimeConfigPath",
    "runtimeConfigSha256","runtimeConfigIdentityFingerprint","sdkProfilePath","scopeFingerprint","logDirectory",
    "logAs","logCmdAs","channelsConfig","effectiveConfigFingerprint","configSourceIdentityFingerprint",
    "runtimePolicyFingerprint"]

/-- The keys that a fingerprint covers. -/
def policyKeys : List String := LAUNCH_KEYS.filter (· ≠ "runtimePolicyFingerprint")

def pathKeys : List String :=
  ["supervisorPath","workingDirectory","homeDirectory","runtimePath","entrypointPath","bootstrapPath","logDirectory"]

def hashKeys : List String :=
  ["supervisorSha256","runtimeSha256","entrypointSha256","bootstrapSha256","bootstrapClosureFingerprint",
    "scopeFingerprint","effectiveConfigFingerprint","configSourceIdentityFingerprint"]

/-- `/^[0-9a-f]{40}$/`. -/
def isHex40 : Value → Bool
  | .string units => units.length == 40 && units.all isHexDigit
  | _ => false

section Component

variable (component serviceKey : Value)

def isBot : Bool := isText "bot" component

def isDaemon : Bool := isText "daemon" component

def isDaemonKey : Value → Bool
  | .string key => DAEMON_SERVICE_KEY key
  | _ => false

def expectedStopTimeout : String := if isBot component then "30000" else "20000"

/-- `gjc-remote-bot-wrapper`, or with `child`; a daemon's names its key. -/
def expectedLog (suffix : String) : Units :=
  if isBot component then ofString "gjc-remote-bot-" ++ ofString suffix
  else ofString "gjc-remote-daemon-" ++ textOf serviceKey ++ ofString "-" ++ ofString suffix

def expectedLogAs : Units := expectedLog component serviceKey "wrapper"

def expectedLogCmdAs : Units := expectedLog component serviceKey "child"

def windowsServiceName : Except JsError Units :=
  if isBot component && isText "bot" serviceKey then .ok (ofString SERVICE_NAME_BOT)
  else if isDaemon component && isDaemonKey serviceKey then
    .ok (ofString "GJCRemoteDaemon-" ++ textOf serviceKey)
  else .error (typeError "invalid Windows service key")

end Component

section Launch

variable (lower : Units → Units) (sha256 : List UInt8 → Units) (launch component serviceKey : Value)

def validWin32Leaf (value : Value) (expected : String) : Bool :=
  lower ((textOf value).reverse.takeWhile (· ≠ 0x5C)).reverse == ofString expected

def runtimeOf : Runtime := if isBot component then NODE_RUNTIME else BUN_RUNTIME

/-- What a bot's launch has instead of a runtime configuration. -/
def botFields : Bool :=
  (["runtimeConfigRoot","runtimeConfigRootIdentityFingerprint","runtimeConfigPath","runtimeConfigSha256",
    "runtimeConfigIdentityFingerprint","sdkProfilePath"].all fun key => isNull (get launch key)) &&
    validCanonicalWindowsPath (get launch "channelsConfig")

def daemonFields : Bool :=
  validCanonicalWindowsPath (get launch "runtimeConfigRoot") &&
    isHex (get launch "runtimeConfigRootIdentityFingerprint") &&
    validCanonicalWindowsPath (get launch "runtimeConfigPath") &&
    isText EMPTY_FILE_SHA256 (get launch "runtimeConfigSha256") &&
    isHex (get launch "runtimeConfigIdentityFingerprint") &&
    validCanonicalWindowsPath (get launch "sdkProfilePath") && isNull (get launch "channelsConfig") &&
    textOf (get launch "runtimeConfigRoot") == textOf (get launch "workingDirectory") ++ ofString "\\runtime-config" &&
    textOf (get launch "runtimeConfigPath") == textOf (get launch "runtimeConfigRoot") ++ ofString "\\.bunfig.toml"

/-- A launch carries its policy fingerprint where that is required, and may carry it elsewhere. -/
def launchFields (requirePolicy : Bool) : Except JsError Unit := do
  check ((hasExactKeys launch LAUNCH_KEYS || !requirePolicy && hasExactKeys launch policyKeys) &&
    (isBot component || isDaemon component)) (typeError "invalid Windows Launch")
  let _ ← windowsServiceName component serviceKey
  check (pathKeys.all fun key => validCanonicalWindowsPath (get launch key)) (typeError "invalid Windows Launch path")
  check ((hashKeys.all fun key => isHex (get launch key)) &&
    isText (runtimeOf component).version (get launch "runtimeVersion") &&
    isText (runtimeOf component).sourceRevision (get launch "runtimeSourceRevision") &&
    isHex40 (get launch "runtimeSourceRevision") &&
    (if isBot component then botFields launch else daemonFields launch) &&
    validWin32Leaf lower (get launch "supervisorPath") "shawl.exe" &&
    validWin32Leaf lower (get launch "runtimePath") (if isBot component then "node.exe" else "bun.exe") &&
    validWin32Leaf lower (get launch "entrypointPath") (if isBot component then "bot.js" else "daemon.js") &&
    validWin32Leaf lower (get launch "bootstrapPath") "service-bootstrap.js" &&
    strictEqual (get launch "logAs") (.string (expectedLogAs component serviceKey)) &&
    strictEqual (get launch "logCmdAs") (.string (expectedLogCmdAs component serviceKey)) &&
    (!requirePolicy || isHex (get launch "runtimePolicyFingerprint"))) (typeError "invalid Windows Launch policy")

/-- The text of a member, or none for one that is null. -/
def member (key : String) : Units := textOf (get launch key)

def componentEnvironment : List (String × Units) :=
  if isDaemon component then
    [("BUN_OPTIONS",[]),("BUN_INSPECT_PRELOAD",member launch "bootstrapPath"),
      ("XDG_CONFIG_HOME",member launch "runtimeConfigRoot"),("BUN_INSPECT",[]),("BUN_INSPECT_CONNECT_TO",[]),
      ("GJC_CODING_AGENT_DIR",member launch "sdkProfilePath")]
  else [("CHANNELS_CONFIG",member launch "channelsConfig")]

def serviceEnvironment (launchFingerprint : Units) (policyTemplate : Bool) : List (String × Units) :=
  [("HOME",member launch "homeDirectory"),("USERPROFILE",member launch "homeDirectory"),("NODE_OPTIONS",[]),
    ("NODE_PATH",[])] ++ componentEnvironment launch component ++
  [("GJC_REMOTE_SERVICE_COMPONENT",textOf component),("GJC_REMOTE_SERVICE_KEY",textOf serviceKey),
    ("GJC_REMOTE_SUPERVISOR_SHA256",member launch "supervisorSha256"),
    ("GJC_REMOTE_RUNTIME_VERSION",member launch "runtimeVersion"),
    ("GJC_REMOTE_RUNTIME_SOURCE_REVISION",member launch "runtimeSourceRevision"),
    ("GJC_REMOTE_RUNTIME_SHA256",member launch "runtimeSha256"),
    ("GJC_REMOTE_ENTRYPOINT_SHA256",member launch "entrypointSha256"),
    ("GJC_REMOTE_BOOTSTRAP_PATH",member launch "bootstrapPath"),
    ("GJC_REMOTE_BOOTSTRAP_SHA256",member launch "bootstrapSha256"),
    ("GJC_REMOTE_BOOTSTRAP_CLOSURE_FINGERPRINT",member launch "bootstrapClosureFingerprint"),
    ("GJC_REMOTE_RUNTIME_CONFIG_ROOT_IDENTITY_FINGERPRINT",member launch "runtimeConfigRootIdentityFingerprint"),
    ("GJC_REMOTE_RUNTIME_CONFIG_PATH",member launch "runtimeConfigPath"),
    ("GJC_REMOTE_RUNTIME_CONFIG_SHA256",member launch "runtimeConfigSha256"),
    ("GJC_REMOTE_RUNTIME_CONFIG_IDENTITY_FINGERPRINT",member launch "runtimeConfigIdentityFingerprint"),
    ("GJC_REMOTE_SDK_PROFILE_PATH",member launch "sdkProfilePath"),
    ("GJC_REMOTE_SCOPE_FINGERPRINT",member launch "scopeFingerprint"),
    ("GJC_REMOTE_EFFECTIVE_CONFIG_FINGERPRINT",member launch "effectiveConfigFingerprint"),
    ("GJC_REMOTE_CONFIG_SOURCE_IDENTITY_FINGERPRINT",member launch "configSourceIdentityFingerprint"),
    ("GJC_REMOTE_LAUNCH_FINGERPRINT",launchFingerprint),
    ("GJC_REMOTE_RUNTIME_POLICY_FINGERPRINT",
      if policyTemplate then ofString "@runtime-policy-fingerprint" else member launch "runtimePolicyFingerprint")]

def childArguments : List Units :=
  if isBot component then [member launch "runtimePath",member launch "entrypointPath"]
  else [member launch "runtimePath",ofString "--config",member launch "runtimeConfigPath",ofString "--no-env-file",
    member launch "entrypointPath"]

def launchRecord : Value :=
  record [("kind",text "gjc-remote/windows-service-launch/v1"),("component",component),("serviceKey",serviceKey),
    ("launch",record (policyKeys.map fun key => (key,get launch key)))]

def windowsServiceLaunchFingerprint : Except JsError Units := do
  launchFields lower launch component serviceKey true
  canonicalJsonHash sha256 (launchRecord launch component serviceKey)

def policyRecord (launchFingerprint : Units) : Value :=
  record [("argv",.array ((childArguments launch component).map .string)),("component",component),
    ("environment",record ((serviceEnvironment launch component serviceKey launchFingerprint true).map
      fun entry => (entry.1,.string entry.2))),
    ("kind",text "gjc-remote/windows-runtime-policy/v1"),("launchFingerprint",.string launchFingerprint),
    ("runtimeSourceRevision",get launch "runtimeSourceRevision"),("runtimeVersion",get launch "runtimeVersion"),
    ("serviceKey",serviceKey)]

def windowsServiceRuntimePolicyFingerprint : Except JsError Units := do
  launchFields lower launch component serviceKey false
  let launchFingerprint ← canonicalJsonHash sha256 (launchRecord launch component serviceKey)
  canonicalJsonHash sha256 (policyRecord launch component serviceKey launchFingerprint)

def assignment (entry : String × Units) : Units := ofString entry.1 ++ 0x3D :: entry.2

/-- The arguments of a launch that was accepted. -/
def shawlArgv (name launchFingerprint : Units) : List Units :=
  [member launch "supervisorPath",ofString "run",ofString "--name",name,ofString "--cwd",
    member launch "workingDirectory"] ++
  (serviceEnvironment launch component serviceKey launchFingerprint false).flatMap
    (fun entry => [ofString "--env",assignment entry]) ++
  [ofString "--kill-process-tree",ofString "--restart-if-not",ofString "0",ofString "--restart-delay",
    ofString "10000",ofString "--stop-timeout",ofString (expectedStopTimeout component),ofString "--log-dir",
    member launch "logDirectory",ofString "--log-as",member launch "logAs",ofString "--log-cmd-as",
    member launch "logCmdAs",ofString "--log-rotate",ofString "bytes=1048576",ofString "--log-retain",ofString "2",
    ofString "--"] ++ childArguments launch component

end Launch

section Input

variable (lower : Units → Units) (sha256 : List UInt8 → Units) (input : Value)

def buildWindowsShawlArgv : Except JsError (List Units) := do
  check (hasExactKeys input ["component","serviceKey","launch"]) (typeError "invalid Shawl input")
  let component := get input "component"
  let serviceKey := get input "serviceKey"
  let launch := get input "launch"
  launchFields lower launch component serviceKey true
  let name ← windowsServiceName component serviceKey
  let policyFingerprint ← windowsServiceRuntimePolicyFingerprint lower sha256 launch component serviceKey
  check (strictEqual (get launch "runtimePolicyFingerprint") (.string policyFingerprint))
    (typeError "invalid Windows runtime policy fingerprint")
  let launchFingerprint ← windowsServiceLaunchFingerprint lower sha256 launch component serviceKey
  return shawlArgv launch component serviceKey name launchFingerprint

end Input

end GjcRemote.WindowsLaunch
