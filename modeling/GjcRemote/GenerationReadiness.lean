import GjcRemote.LiveSlot
import GjcRemote.LifecycleEnvelope

/-! The current-run readiness probe of `daemon/src/workspace-generation-probe.js`: every
dimension proven by live evidence, the generation bound to the expected one, and the
evidence fresh. A reason that quotes a value ends with it, its closing bracket left out. -/
namespace GjcRemote.Readiness

open Utf16 StrictJson Record Workspace

def OPERATION : String := "workspace_generation_probe"
def KIND : String := "workspace-generation-readiness"
def READINESS_LIMITS : Limits := ⟨64 * 1024,8,256⟩
def LIVE_SOURCE : String := "live"

def GENERATION_FINGERPRINTS : List String :=
  ["pointerFingerprint","rootIdentityFingerprint","gitGenerationFingerprint","manifestFingerprint"]

/-- `FINGERPRINT_MISMATCH_CODE`. -/
def mismatchCode (key : String) : String :=
  if key = "gitGenerationFingerprint" then "GIT_GRAPH_INCOMPLETE" else "WORKSPACE_GENERATION_STALE"

structure Freshness where
  probedAtMs : Value
  nowMs : Value
  maxAgeMs : Value

/-- The evidence as the operations assemble it: the five dimensions and the freshness. -/
structure Evidence where
  connection : Value
  runtime : Value
  providerAuth : Value
  modelProfile : Value
  workspace : Value
  freshness : Freshness

structure Attestation where
  generationPointerFingerprint : Value
  probedAtMs : Value
  readinessFingerprint : Units

def refuse (code reason : String) (detail : Option Value) (extra : List (String × String)) :
    Refusal :=
  ⟨OPERATION,code,reason,detail,extra.map fun e => (e.1,textValue e.2)⟩

def assertLiveSource (dimension : String) (value : Value) : Except Refusal Unit := do
  check (isPlainObject value)
    (refuse "CONFIG_INVALID" (dimension ++ " evidence must be an object") none [("dimension",dimension)])
  check (dimension = "workspace" || hasExactKeys value ["state","source"])
    (refuse "CONFIG_INVALID" (dimension ++ " evidence must have exactly \x7bstate,source\x7d") none
      [("dimension",dimension)])
  check (isText LIVE_SOURCE (get value "source"))
    (refuse "CONFIG_INVALID" (dimension ++ " evidence is not live (source=")
      (some (get value "source")) [("dimension",dimension)])

/-- One side of the binding carries exactly the four fingerprints. -/
def assertFingerprints (workspace : Value) (side : String) : Except Refusal Unit := do
  check (hasExactKeys (get workspace side) GENERATION_FINGERPRINTS)
    (refuse "CONFIG_INVALID"
      ("workspace." ++ side ++ " must carry exactly the four generation fingerprints") none
      [("dimension","workspace"),("side",side)])
  GENERATION_FINGERPRINTS.forM fun key =>
    check (isHex (get (get workspace side) key))
      (refuse "CONFIG_INVALID"
        ("workspace." ++ side ++ "." ++ key ++ " must be a 64-char lowercase hex digest") none
        [("dimension","workspace"),("side",side),("field",key)])

def assertGenerationBinding (workspace : Value) : Except Refusal Value := do
  check (hasExactKeys workspace ["state","source","generation","expected"])
    (refuse "CONFIG_INVALID" "workspace evidence must have \x7bstate,source,generation,expected\x7d"
      none [("dimension","workspace")])
  assertFingerprints workspace "generation"
  assertFingerprints workspace "expected"
  GENERATION_FINGERPRINTS.forM fun key =>
    check (strictEqual (get (get workspace "generation") key) (get (get workspace "expected") key))
      (refuse (mismatchCode key)
        ("workspace generation " ++ key ++ " does not match the expected generation") none
        [("dimension","workspace"),("field",key)])
  return get workspace "generation"

def assertTimestamp (field : String) (value : Value) : Except Refusal Unit :=
  check (Lifecycle.isCount value)
    (refuse "READINESS_TIMESTAMP_INVALID"
      ("freshness." ++ field ++ " must be a non-negative safe integer") none [("field",field)])

/-- `test`, once all three are safe integers. -/
def comparing (test : Int → Int → Int → Bool) (freshness : Freshness) : Bool :=
  match safeInteger freshness.probedAtMs,safeInteger freshness.nowMs,
    safeInteger freshness.maxAgeMs with
  | some probedAt,some now,some maxAge => test probedAt now maxAge
  | _,_,_ => false

def assertFresh (freshness : Freshness) : Except Refusal Unit := do
  assertTimestamp "probedAtMs" freshness.probedAtMs
  assertTimestamp "nowMs" freshness.nowMs
  assertTimestamp "maxAgeMs" freshness.maxAgeMs
  check (comparing (fun _ _ maxAge => 1 ≤ maxAge) freshness)
    (refuse "CONFIG_INVALID" "freshness.maxAgeMs must be >= 1" none [])
  check (comparing (fun probedAt now _ => probedAt ≤ now) freshness)
    (refuse "READINESS_TIMESTAMP_INVALID" "freshness.nowMs precedes probedAtMs" none [])
  check (comparing (fun probedAt now maxAge => now - probedAt ≤ maxAge) freshness)
    (refuse "READINESS_EXPIRED" "readiness evidence is older than maxAgeMs" none [])

/-- The code of a dimension that is not affirmed, by its state. -/
def stateCode (codes : List (String × String)) (otherwise : String) (state : Value) : String :=
  ((codes.find? fun e => isText e.1 state).map Prod.snd).getD otherwise

def assertState (dimension state label : String) (value : Value) (codes : List (String × String))
    (otherwise : String) : Except Refusal Unit :=
  check (isText state (get value "state"))
    (refuse (stateCode codes otherwise (get value "state"))
      (label ++ " is not " ++ state ++ " (state=") (some (get value "state"))
      [("dimension",dimension)])

def attestationBody (generation : Value) (probedAtMs : Value) : Value :=
  .object [(ofString "version",.number (.int 1)),(ofString "kind",textValue KIND),
    (ofString "connection",textValue "online"),(ofString "runtime",textValue "ready"),
    (ofString "providerAuth",textValue "configured"),(ofString "modelProfile",textValue "ready"),
    (ofString "workspace",textValue "ready"),
    (ofString "generationPointerFingerprint",get generation "pointerFingerprint"),
    (ofString "rootIdentityFingerprint",get generation "rootIdentityFingerprint"),
    (ofString "gitGenerationFingerprint",get generation "gitGenerationFingerprint"),
    (ofString "manifestFingerprint",get generation "manifestFingerprint"),
    (ofString "probedAtMs",probedAtMs)]

def assertDimensions (evidence : Evidence) : Except Refusal Value := do
  assertLiveSource "connection" evidence.connection
  assertLiveSource "runtime" evidence.runtime
  assertLiveSource "providerAuth" evidence.providerAuth
  assertLiveSource "modelProfile" evidence.modelProfile
  assertLiveSource "workspace" evidence.workspace
  assertState "connection" "online" "connection" evidence.connection [] "CONNECTION_LOST"
  assertState "runtime" "ready" "runtime" evidence.runtime
    [("incompatible","RUNTIME_INCOMPATIBLE")] "UNKNOWN_RUNTIME"
  assertState "providerAuth" "configured" "provider auth" evidence.providerAuth
    [("invalid","PROVIDER_INVALID"),("expired","PROVIDER_EXPIRED"),
      ("unknown","PROVIDER_UNAVAILABLE")] "PROVIDER_MISSING"
  assertState "modelProfile" "ready" "model profile" evidence.modelProfile
    [("invalid","MODEL_PROFILE_INVALID")] "MODEL_PROFILE_MISSING"
  assertState "workspace" "ready" "workspace" evidence.workspace [] "WORKSPACE_NOT_FOUND"
  assertGenerationBinding evidence.workspace

def evaluateGenerationReadiness (sha256 : List UInt8 → Units) (evidence : Evidence) :
    Except Refusal Attestation := do
  let generation ← assertDimensions evidence
  assertFresh evidence.freshness
  let readinessFingerprint ←
    (canonicalJsonHash sha256 (attestationBody generation evidence.freshness.probedAtMs)
      READINESS_LIMITS).mapError fun error =>
        refuse "CONFIG_INVALID" s!"readiness attestation is not canonicalizable: {error.message}" none []
  return ⟨get generation "pointerFingerprint",evidence.freshness.probedAtMs,readinessFingerprint⟩

/-- Stamped in the past, and no longer ago than the bound allows. -/
def Fresh (freshness : Freshness) : Prop :=
  ∃ probedAt now maxAge, safeInteger freshness.probedAtMs = some probedAt ∧
    safeInteger freshness.nowMs = some now ∧ safeInteger freshness.maxAgeMs = some maxAge ∧
    probedAt ≤ now ∧ now - probedAt ≤ maxAge

theorem comparing_iff :
    comparing test freshness ↔ ∃ probedAt now maxAge,
      safeInteger freshness.probedAtMs = some probedAt ∧ safeInteger freshness.nowMs = some now ∧
      safeInteger freshness.maxAgeMs = some maxAge ∧ test probedAt now maxAge := by
  unfold comparing
  cases safeInteger freshness.probedAtMs <;> cases safeInteger freshness.nowMs <;>
    cases safeInteger freshness.maxAgeMs <;> simp

theorem assertFresh_fresh (ok : assertFresh freshness = .ok ()) :
    Fresh freshness := by
  obtain ⟨_,_,ok⟩ := except_bind_ok.mp ok
  obtain ⟨_,_,ok⟩ := except_bind_ok.mp ok
  obtain ⟨_,_,ok⟩ := except_bind_ok.mp ok
  obtain ⟨_,_,ok⟩ := except_bind_ok.mp ok
  obtain ⟨_,order,age⟩ := except_bind_ok.mp ok
  obtain ⟨probedAt,now,maxAge,probed,clock,bound,ordered⟩ := comparing_iff.mp (check_ok.mp order)
  obtain ⟨_,_,_,probed',clock',bound',young⟩ := comparing_iff.mp (check_ok.mp age)
  rw [probed] at probed'
  rw [clock] at clock'
  rw [bound] at bound'
  cases probed'
  cases clock'
  cases bound'
  exact ⟨probedAt,now,maxAge,probed,clock,bound,by simpa using ordered,by simpa using young⟩

theorem assertState_affirmed (ok : assertState dimension state label value codes otherwise = .ok ()) :
    isText state (get value "state") := check_ok.mp ok

structure Attested (evidence : Evidence) : Prop where
  connection : isText "online" (get evidence.connection "state") = true
  runtime : isText "ready" (get evidence.runtime "state") = true
  providerAuth : isText "configured" (get evidence.providerAuth "state") = true
  modelProfile : isText "ready" (get evidence.modelProfile "state") = true
  fresh : Fresh evidence.freshness

theorem evaluateGenerationReadiness_attested
    (ok : evaluateGenerationReadiness sha256 evidence = .ok attestation) :
    Attested evidence := by
  obtain ⟨_,dimensions,ok⟩ := except_bind_ok.mp ok
  obtain ⟨_,fresh,_⟩ := except_bind_ok.mp ok
  obtain ⟨_,_,dimensions⟩ := except_bind_ok.mp dimensions
  obtain ⟨_,_,dimensions⟩ := except_bind_ok.mp dimensions
  obtain ⟨_,_,dimensions⟩ := except_bind_ok.mp dimensions
  obtain ⟨_,_,dimensions⟩ := except_bind_ok.mp dimensions
  obtain ⟨_,_,dimensions⟩ := except_bind_ok.mp dimensions
  obtain ⟨_,connection,dimensions⟩ := except_bind_ok.mp dimensions
  obtain ⟨_,runtime,dimensions⟩ := except_bind_ok.mp dimensions
  obtain ⟨_,providerAuth,dimensions⟩ := except_bind_ok.mp dimensions
  obtain ⟨_,modelProfile,_⟩ := except_bind_ok.mp dimensions
  exact ⟨assertState_affirmed connection,assertState_affirmed runtime,
    assertState_affirmed providerAuth,assertState_affirmed modelProfile,assertFresh_fresh fresh⟩

end GjcRemote.Readiness
