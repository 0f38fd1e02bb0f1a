import GjcRemote.PublishRefinement
import GjcRemote.RestoreSafety
import GjcRemote.ResetDeleteSafety

/-! The law of the three publishing operations, and what a replacement that is reported as
failed after its effect does to it. -/
namespace GjcRemote.Publish

open Utf16 StrictJson Record Workspace
open CrashTrace CrashTrace.Program
open ResetDelete (thrownStep hexOf livePointer liveBytes live_parsed)

def secondDigest : Units :=
  ofString "69b8a18d8b30adb68cf5fc7598374e97bb04f4b43437216660a7d36000d53a00"

def attestationDigest : Units :=
  ofString "59dd6d3f98240b840f42e1368dcb04ad857bc9c34dc3bc19b663aaed42fa4e0c"

/-- SHA-256 of the two pointers and of the attestation: they differ in the third byte, or in
the generation. -/
def restoreDigest (bytes : Bytes) : Units :=
  if bytes.getD 2 0 = 0x63 then attestationDigest
  else if bytes.getD 20 0 = 0x32 then secondDigest
  else firstDigest

def secondPointer : Value :=
  pointerRecord ⟨textValue "h",textValue "w",textValue "posix",.number (.int 2),textValue "g2",
    hexOf 0x61,hexOf 0x62,hexOf 0x63,hexOf 0x64,.number (.int 1),.string firstDigest⟩
    (.string secondDigest)

def liveDimension (state : String) : Value :=
  .object [(ofString "state",textValue state),(ofString "source",textValue "live")]

def restoreRequest : Restore.RestoreRequest where
  operation := textValue "restore"
  hostId := textValue "h"
  workspaceId := textValue "w"
  sourcePlatform := textValue "posix"
  workDir := textValue "/w"
  generationPath := textValue "g2"
  candidatePath := textValue "/w/g2"
  gitDir := textValue "/w/g2"
  probedAtMs := .number (.int 0)
  readiness := .object [(ofString "connection",liveDimension "online"),
    (ofString "runtime",liveDimension "ready"),
    (ofString "providerAuth",liveDimension "configured"),
    (ofString "modelProfile",liveDimension "ready")]
  migrationKind := undefined
  workspaceRoot := textValue "/w"
  stagingPath := textValue "/s"
  leaseCandidate := .object []
  expectedWorkspaceGeneration := .number (.int 1)
  expectedAuthority := .object []
  manifest := .object [(ofString "hostId",textValue "h"),(ofString "workspaceId",textValue "w"),
    (ofString "sourcePlatform",textValue "posix"),(ofString "workspaceGeneration",.number (.int 2)),
    (ofString "gitGenerationFingerprint",hexOf 0x63),(ofString "manifestFingerprint",hexOf 0x64)]
  restoredFromWorkspaceId := textValue "w"
  restoredFromGeneration := .number (.int 1)

/-- Everything succeeds but the replacement, which reports a failure after its effect. -/
def lateHost : Host where
  loses _ := false
  acquireFence := .ok ⟨true,true,.null⟩
  release := .ok ()
  makePublisherIo := .ok ()
  readLivePointer _ slot := .ok ((slot.map LiveRead.bytes).getD .nothing)
  publication _ := none
  replace := .late ⟨none,some "EIO",none⟩
  materialize := .ok ()
  identifyRoot := .ok ⟨textValue "r",textValue "s"⟩
  verifyCandidate := .ok ()
  verifyGitDir := .ok ()
  verifyRepositoryGraph := .ok (hexOf 0x63)
  manifest := .ok (hexOf 0x64)
  hashIdentity identity := .ok (if isText "r" identity then hexOf 0x61 else hexOf 0x62)
  now := .ok (.number (.int 0))
  maxAgeMs := .number (.int 1)
  replayHas := .ok ()
  replayAdd := .ok ()
  quarantine := .ok ()
  makeStageReader := .ok ⟨true,true⟩
  closeStageReader _ := .ok ()
  verifyProvenance := .ok ()
  verifyChecksum := .ok ()
  stageArguments := .ok ()
  lstat := none
  mkdir := none
  fill := []
  remove := .done

theorem live_parses :
    Pointer.parseGenerationPointer restoreDigest liveBytes = .ok livePointer := by
  have valid : Pointer.validateGenerationPointer restoreDigest livePointer = .ok () := by rfl
  rw [Pointer.parseGenerationPointer,except_bind_ok]
  exact ⟨livePointer,mapError_ok.mpr live_parsed,except_unit_bind_ok.mpr ⟨valid,rfl⟩⟩

theorem second_valid : Pointer.validateGenerationPointer restoreDigest secondPointer = .ok () := by
  rfl

def secondBytes : Bytes := utf8 (render secondPointer)

theorem second_rendered : canonicalJsonBytes secondPointer RECORD_LIMITS = .ok secondBytes := by rfl

theorem second_built : buildGenerationPointer restoreDigest
    ⟨textValue "h",textValue "w",textValue "posix",.number (.int 2),textValue "g2",hexOf 0x61,
      hexOf 0x62,hexOf 0x63,hexOf 0x64,.number (.int 1),.string firstDigest⟩ = .ok secondPointer := by
  rw [buildGenerationPointer,except_unit_bind_ok]
  refine ⟨by rfl,except_bind_ok.mpr ⟨secondDigest,by rfl,?_⟩⟩
  exact except_unit_bind_ok.mpr ⟨second_valid,rfl⟩

theorem second_spelled :
    Pointer.generationPointerBytes restoreDigest secondPointer = .ok secondBytes := by
  rw [Pointer.generationPointerBytes,except_unit_bind_ok,second_rendered]
  exact ⟨second_valid,rfl⟩

theorem late_reads (publishing : Bool) (w : World) (live : w.slot = some liveBytes) :
    Leads (readLiveGeneration restoreDigest lateHost publishing) w (some livePointer)
      (w.lose lateHost (.readLive publishing)) := by
  refine ⟨?_,rfl⟩
  change raises (parseLive restoreDigest (lateHost.readLivePointer publishing w.slot)) = _
  rw [live]
  change raises ((refuseWith (Pointer.parseGenerationPointer restoreDigest liveBytes)).map some) = _
  rw [live_parses]
  rfl

def lateStart : World := ⟨some liveBytes,false,false,[],true,[],false,false⟩

def lateLog : List Event :=
  [.acquired,.checked "live validation",.proved .base true,.proved .quarantine true,
    .proved .provenance true,.proved .checksum true,.proved .staged true,.proved .root true,
    .proved .candidate true,.proved .gitDir true,.proved .graph true,
    .attested ⟨.number (.int 0),.number (.int 0),.number (.int 1)⟩ attestationDigest,
    .checked "readiness"]

def lateFailure : Failure := ⟨Pointer.stepFailed .replace ⟨none,some "EIO",none⟩,none⟩

theorem late_publishes (w : World) (live : w.slot = some liveBytes) (current : w.current)
    (tree : w.candidate) :
    Throws (Restore.publishPromotion restoreDigest lateHost secondPointer) w lateFailure
      ({w with slot := some secondBytes}.note (.replaced true)) := by
  have lost : ∀ call, w.lose lateHost call = w := by
    intro call
    cases w
    cases current
    rfl
  have published : Throws (publishGeneration restoreDigest lateHost secondPointer) w lateFailure
      ({w with slot := some secondBytes}.note (.replaced true)) := by
    refine Leads.throws (leads_compute w second_valid) ?_
    refine Leads.throws (late_reads true w live) ?_
    rw [lost]
    refine Leads.throws (leads_compute w (by rfl)) ?_
    refine Leads.throws (leads_compute w second_spelled) ?_
    refine Leads.throws ⟨rfl,lost _⟩ ?_
    refine Leads.throws ⟨rfl,lost _⟩ ?_
    refine Throws.bind ⟨rfl,?_⟩
    change ({w.lose lateHost (.publication .replace) with slot := some secondBytes}.note
      (.replaced (w.lose lateHost (.publication .replace)).candidate)) = _
    rw [lost]
    exact congrArg (fun kept => {w with slot := some secondBytes}.note (.replaced kept)) tree
  refine Throws.bind (Throws.recover published ?_)
  exact ⟨rfl,rfl⟩

theorem late_stages (w : World) (live : w.slot = some liveBytes) (current : w.current)
    (absent : w.candidate = false) :
    Leads (Restore.stage restoreDigest lateHost restoreRequest) w livePointer {w with
        candidate := true
        owned := true
        log := w.log ++ [.proved .base true] ++ [.proved .quarantine true] ++
          [.proved .provenance true] ++ [.proved .checksum true] ++ [.proved .staged true]
        materialized := true
        stageReader := false} := by
  cases w
  cases current
  cases absent
  cases live
  refine Leads.bind ⟨rfl,rfl⟩ ?_
  refine Leads.bind (late_reads false _ rfl) ?_
  exact ⟨rfl,rfl⟩

def lateReady : World := ⟨some liveBytes,true,true,[attestationDigest],true,lateLog,true,false⟩

theorem late_fenced : Throws (Restore.runFenced restoreDigest lateHost restoreRequest ⟨true,true,.null⟩)
    (lateStart.note .acquired) lateFailure ({lateReady with slot := some secondBytes}.note (.replaced true)) := by
  refine Leads.throws ⟨rfl,rfl⟩ ?_
  refine Leads.throws ⟨rfl,rfl⟩ ?_
  refine Leads.throws (late_stages _ rfl rfl rfl) ?_
  refine Leads.throws ⟨rfl,rfl⟩ ?_
  refine Leads.throws ⟨rfl,rfl⟩ ?_
  refine Leads.throws ⟨rfl,rfl⟩ ?_
  refine Leads.throws (leads_compute _ (by rfl)) ?_
  refine Leads.throws ⟨rfl,rfl⟩ ?_
  refine Leads.throws ⟨rfl,rfl⟩ ?_
  refine Leads.throws ⟨rfl,rfl⟩ ?_
  refine Leads.throws (leads_compute _ second_built) ?_
  have attested : Leads (attest restoreDigest Restore.OPERATION lateHost restoreRequest.readiness
      restoreRequest.probedAtMs secondPointer (hexOf 0x61) (hexOf 0x63) (hexOf 0x64))
      {lateReady with seen := [], log := lateLog.take 11}
      ⟨.string secondDigest,.number (.int 0),attestationDigest⟩
      {lateReady with log := lateLog.take 12} := by
    exact Leads.bind ⟨rfl,rfl⟩ ⟨rfl,rfl⟩
  refine Leads.throws attested ?_
  refine Leads.throws ⟨rfl,rfl⟩ ?_
  exact Throws.bind (late_publishes lateReady rfl rfl rfl)

def lateRemoved : World :=
  ⟨some secondBytes,false,false,[attestationDigest],true,
    lateLog ++ [.replaced true] ++ [.removed (some secondBytes)],true,false⟩

end GjcRemote.Publish
