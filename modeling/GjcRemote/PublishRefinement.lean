import GjcRemote.PublishOperations

/-! The publisher run step by step does what the model of the live slot says it does. -/
namespace GjcRemote.Publish

open Utf16 StrictJson Record Workspace
open CrashTrace CrashTrace.Program

def honestRead (fault : Option IoError) (slot : Option Bytes) : Except IoError LiveRead :=
  match fault with
  | some error => .error error
  | none => .ok ((slot.map LiveRead.bytes).getD .nothing)

def honestReplace : Option IoError → Replacement
  | some error => .refused error
  | none => .done

/-- The io fails where the faults say, and otherwise does what it should. -/
def Host.honest (host : Host) (faults : Faults) : Host :=
  {host with
    readLivePointer := fun _ slot => honestRead (faults .readLivePointer) slot,publication := faults,
    replace := honestReplace (faults .replace)}

theorem leads_compute (w : World)
    (known : result = .ok a) : Leads (compute result) w a w := by
  rw [known]
  exact ⟨rfl,rfl⟩

/-- What a program of one run leaves in the slot, and its result. -/
def outcomeOf {α : Type} (m : Program World Failure α) (w : World) :
    Option Bytes × Except Failure α := ((m w).state.slot,(m w).result)

section

variable {α β : Type} (host : Host) (faults : Faults) (w : World)

theorem outcomeOf_compute (result : Except Refusal β) (f : β → Program World Failure α) :
    outcomeOf (compute result >>= f) w = match result with
      | .error refusal => (w.slot,.error ⟨.refusal refusal,none⟩)
      | .ok b => outcomeOf (f b) w := by
  cases result <;> rfl

theorem outcomeOf_read (f : Option Value → Program World Failure α) :
    outcomeOf (readLiveGeneration sha256 (host.honest faults) true >>= f) w =
      match Pointer.readLiveGeneration sha256 faults w.slot with
      | .error thrown => (w.slot,.error ⟨thrown,none⟩)
      | .ok current => outcomeOf (f current) (w.lose (host.honest faults) (.readLive true)) := by
  have same : parseLive sha256 (honestRead (faults .readLivePointer) w.slot) =
      Pointer.readLiveGeneration sha256 faults w.slot := by
    unfold honestRead Pointer.readLiveGeneration
    cases faults .readLivePointer with
    | some error => rfl
    | none => cases w.slot <;> rfl
  rw [← same]
  cases read : parseLive sha256 (honestRead (faults .readLivePointer) w.slot) <;>
    simp [outcomeOf,Bind.bind,Program.bind,readLiveGeneration,perform,Host.honest,read,raises,Except.mapError]

theorem outcomeOf_step (step : IoStep) (f : Unit → Program World Failure α) :
    outcomeOf (runStep (host.honest faults) step >>= f) w = match faults step with
      | some error => (w.slot,.error ⟨Pointer.stepFailed step error,none⟩)
      | none => outcomeOf (f ()) (w.lose (host.honest faults) (.publication step)) := by
  cases fault : faults step <;>
    simp [outcomeOf,Bind.bind,Program.bind,runStep,awaits,perform,Host.honest,fault,raises,Except.mapError]

theorem outcomeOf_replace (bytes : Bytes) (f : Unit → Program World Failure α) :
    outcomeOf (replace (host.honest faults) bytes >>= f) w = match faults .replace with
      | some error => (w.slot,.error ⟨Pointer.stepFailed .replace error,none⟩)
      | none => outcomeOf (f ())
        ({w.lose (host.honest faults) (.publication .replace) with slot := some bytes}.note
          (.replaced w.candidate)) := by
  cases fault : faults .replace <;>
    simp [outcomeOf,Bind.bind,Program.bind,replace,perform,Host.honest,honestReplace,fault]

end

/-- Whatever io fails, the publisher does what the model of the live slot says. -/
theorem publishGeneration_refines (host : Host) (faults : Faults) (w : World) (pointer : Value) :
    outcomeOf (publishGeneration sha256 (host.honest faults) pointer) w =
      ((Pointer.publishGeneration sha256 faults w.slot pointer).1,
        raises (Pointer.publishGeneration sha256 faults w.slot pointer).2) := by
  unfold publishGeneration Pointer.publishGeneration publishPrepared Pointer.prepareGeneration
  rw [outcomeOf_compute]
  cases Pointer.validateGenerationPointer sha256 pointer with
  | error refusal => rfl
  | ok =>
    rw [outcomeOf_read]
    cases read : Pointer.readLiveGeneration sha256 faults w.slot with
    | error thrown => rfl
    | ok current =>
      dsimp only
      rw [outcomeOf_compute]
      cases cas : Pointer.assertCas pointer current with
      | error refusal => simp [refuseWith,cas,Except.mapError,bind,Except.bind,raises]
      | ok =>
        rw [outcomeOf_compute]
        cases spelled : Pointer.generationPointerBytes sha256 pointer with
        | error refusal => simp [refuseWith,cas,Except.mapError,bind,Except.bind,raises]
        | ok bytes =>
          simp only [outcomeOf_step,outcomeOf_replace]
          simp only [refuseWith,cas,Except.mapError,bind,Except.bind,runSteps]
          cases faults .writeTemp with
          | some error => rfl
          | none =>
            cases faults .flushTemp with
            | some error => rfl
            | none =>
              cases faults .replace with
              | some error => rfl
              | none => cases faults .flushParent <;> rfl

end GjcRemote.Publish
