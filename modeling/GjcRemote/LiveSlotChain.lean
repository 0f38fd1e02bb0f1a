import GjcRemote.LiveSlot

/-! The slot under any sequence of publications, each with any of its steps failing: one
valid record at a time, and a hash-linked succession from each to the next. -/
namespace GjcRemote.Workspace

open Utf16 StrictJson Record

theorem refuseWith_ok :
    refuseWith result = .ok a ↔ result = .ok a := by
  cases result <;> simp [refuseWith,Except.mapError]

/-- The step at which a call that reaches the io stops. -/
def failingStep (faults : Faults) : Option IoStep :=
  [.readLivePointer,.writeTemp,.flushTemp,.replace,.flushParent].find? fun step =>
    (faults step).isSome

/-- Where a call can stop, and what it leaves behind. -/
theorem runSteps_cases (failed : IoStep → IoError → ε) (faults : Faults) (live : Option Bytes) (bytes : Bytes) :
    (∃ step error, step ≠ .flushParent ∧ faults step = some error ∧
      runSteps failed faults live bytes = (live,.error (failed step error))) ∨
    (∃ error, faults .flushParent = some error ∧
      (faults .readLivePointer = none → failingStep faults = some .flushParent) ∧
      runSteps failed faults live bytes = (some bytes,.error (failed .flushParent error))) ∨
    runSteps failed faults live bytes = (some bytes,.ok ()) := by
  unfold runSteps
  cases write : faults .writeTemp with
  | some error => exact .inl ⟨_,error,by decide,write,rfl⟩
  | none =>
    cases flush : faults .flushTemp with
    | some error => exact .inl ⟨_,error,by decide,flush,rfl⟩
    | none =>
      cases move : faults .replace with
      | some error => exact .inl ⟨_,error,by decide,move,rfl⟩
      | none =>
        cases last : faults .flushParent with
        | some error =>
          simp [failingStep,write,flush,move,last]
        | none => exact .inr (.inr rfl)

/-- The same for a whole call: nothing happened, or the prepared bytes are in the slot. -/
theorem publishPrepared_cases (failed : IoStep → IoError → Thrown) (faults : Faults)
    (live : Option Bytes) (prepared : Except Thrown Bytes) (receipt : α) :
    (∃ thrown, publishPrepared failed faults live prepared receipt = (live,.error thrown)) ∨
    (∃ bytes error, prepared = .ok bytes ∧ faults .flushParent = some error ∧
      (faults .readLivePointer = none → failingStep faults = some .flushParent) ∧
      publishPrepared failed faults live prepared receipt = (some bytes,.error (failed .flushParent error))) ∨
    (∃ bytes, prepared = .ok bytes ∧
      publishPrepared failed faults live prepared receipt = (some bytes,.ok receipt)) := by
  unfold publishPrepared
  cases prepared with
  | error thrown => exact .inl ⟨thrown,rfl⟩
  | ok bytes =>
    rcases runSteps_cases failed faults live bytes with
      ⟨step,error,_,_,result⟩ | ⟨error,last,fault,result⟩ | result
    · exact .inl ⟨failed step error,by simp [result,Except.map]⟩
    · exact .inr (.inl ⟨bytes,error,rfl,last,fault,by simp [result,Except.map]⟩)
    · exact .inr (.inr ⟨bytes,rfl,by simp [result,Except.map]⟩)

variable {sha256 : List UInt8 → Units}

/-- Equal members have equal generations. -/
theorem generation_of_strictEqual (same : strictEqual a b) (known : Record.safeInteger b = some n) :
    Record.safeInteger a = some n := by
  cases a with
  | number m =>
    cases b with
    | number k =>
      simp only [strictEqual,Bool.and_eq_true,beq_iff_eq] at same
      obtain ⟨equal,safe⟩ := same
      have canonical : ∀ x, isSafeInteger x → ∃ i, readNumber x = .int i ∧
          Record.safeInteger (.number x) = some i := by
        intro x safeX
        cases x with
        | int i => exact ⟨i,rfl,by simp [Record.safeInteger,safeX]⟩
        | negativeZero => exact ⟨0,rfl,rfl⟩
        | other tag => simp [isSafeInteger] at safeX
      have safe' : isSafeInteger k := by
        rw [← safe_readNumber,← equal,safe_readNumber]
        exact safe
      obtain ⟨i,readI,safeI⟩ := canonical m safe
      obtain ⟨j,readJ,safeJ⟩ := canonical k safe'
      rw [readI,readJ,Number.int.injEq] at equal
      rw [safeI,equal,← safeJ]
      exact known
    | _ => simp [strictEqual] at same
  | _ => cases b <;> simp [strictEqual,Record.safeInteger] at same known

namespace Pointer

variable {faults : Faults}

theorem readLiveGeneration_ok (read : readLiveGeneration sha256 faults live = .ok current) :
    (live = none ∧ current = none) ∨ ∃ pointer, current = some pointer ∧ HoldsPointer sha256 live pointer := by
  unfold readLiveGeneration at read
  split at read
  · cases read
  · split at read
    · cases read
      exact .inl ⟨rfl,rfl⟩
    · rename_i bytes
      cases parsed : parseGenerationPointer sha256 bytes with
      | error refusal => simp [parsed,refuseWith,Except.mapError,Except.map] at read
      | ok pointer =>
        simp only [parsed,refuseWith,Except.mapError,Except.map,Except.ok.injEq] at read
        obtain ⟨validated,spelled⟩ := parseGenerationPointer_ok sha256 parsed
        exact .inr ⟨pointer,read.symm,⟨validated,_,spelled,rfl⟩⟩

section

variable (prepared : prepareGeneration sha256 faults live newPointer = .ok bytes)
include prepared

theorem prepareGeneration_reads :
    faults .readLivePointer = none := by
  rw [prepareGeneration,except_unit_bind_ok,except_bind_ok] at prepared
  obtain ⟨_,current,read,_⟩ := prepared
  unfold readLiveGeneration at read
  split at read
  · cases read
  · assumption

theorem prepareGeneration_ok :
    HoldsPointer sha256 (some bytes) newPointer ∧
      ∃ current, readLiveGeneration sha256 faults live = .ok current ∧
        assertCas newPointer current = .ok () := by
  rw [prepareGeneration,except_unit_bind_ok,refuseWith_ok] at prepared
  obtain ⟨validated,rest⟩ := prepared
  rw [except_bind_ok] at rest
  obtain ⟨current,read,rest⟩ := rest
  rw [except_unit_bind_ok,refuseWith_ok,refuseWith_ok,generationPointerBytes,except_unit_bind_ok,
    mapError_ok] at rest
  exact ⟨⟨validated,_,rest.2.2,rfl⟩,current,read,rest.1⟩

/-- A publication that got past its checks continues the chain. -/
theorem succession :
    Succession sha256 live (some bytes) := by
  obtain ⟨holds,current,read,cas⟩ := prepareGeneration_ok prepared
  have valid := validateGenerationPointer_valid sha256 holds.validated
  unfold assertCas at cas
  rcases valid.prior with ⟨first,one⟩ | ⟨later,successor⟩
  · rw [if_pos first,check_ok] at cas
    rcases readLiveGeneration_ok read with ⟨rfl,_⟩ | ⟨pointer,rfl,_⟩
    · refine .first holds first ?_
      have active : get newPointer "activeGeneration" = .number (.int 1) := by
        revert one
        cases get newPointer "activeGeneration" with
        | number m => cases m <;> simp [isNumber,readNumber]
        | _ => simp [isNumber]
      rw [generationOf,active]
      rfl
    · simp at cas
  · rw [later] at cas
    rcases readLiveGeneration_ok read with ⟨_,rfl⟩ | ⟨previous,rfl,held⟩
    · simp at cas
    · simp only [Bool.false_eq_true,if_false,assertSuccession,checks_ok] at cas
      obtain ⟨_,same,linked⟩ := cas
      refine .pointer held holds ?_ linked
      obtain ⟨n,known,_⟩ := (validateGenerationPointer_valid sha256 held.validated).generation
      refine ⟨n,known,?_⟩
      have prior := generation_of_strictEqual same known
      obtain ⟨m,active,_⟩ := valid.generation
      simp only [isSuccessorGeneration,active,prior,decide_eq_true_eq] at successor
      rw [generationOf,active,successor]

end

end Pointer

namespace Tombstone

theorem dispositionOf_ok (disposed : dispositionOf sha256 bytes = .ok live) :
    (live.kind = Pointer.KIND ∧ HoldsPointer sha256 (some bytes) live.record ∧
      live.fingerprint = get live.record "pointerFingerprint") ∨
    (live.kind = KIND ∧ HoldsTombstone sha256 (some bytes) live.record ∧
      live.fingerprint = get live.record "tombstoneFingerprint") := by
  rw [dispositionOf,except_bind_ok] at disposed
  obtain ⟨peek,read,rest⟩ := disposed
  rw [except_unit_bind_ok] at rest
  replace rest := rest.2
  rw [mapError_ok] at read
  split at rest
  · rw [except_bind_ok] at rest
    obtain ⟨pointer,parsed,result⟩ := rest
    cases result
    obtain ⟨validated,spelled⟩ := Pointer.parseGenerationPointer_ok sha256 parsed
    exact .inl ⟨rfl,⟨validated,_,spelled,rfl⟩,rfl⟩
  · split at rest
    · rw [except_unit_bind_ok] at rest
      obtain ⟨validated,result⟩ := rest
      cases result
      exact .inr ⟨rfl,⟨validated,_,canonicalJsonBytes_of_parse read,rfl⟩,rfl⟩
    · cases rest

variable {faults : Faults}

theorem readLiveDisposition_ok (read : readLiveDisposition sha256 faults live = .ok disposition) :
    (live = none ∧ disposition = none) ∨
    ∃ bytes d, live = some bytes ∧ disposition = some d ∧ dispositionOf sha256 bytes = .ok d := by
  unfold readLiveDisposition at read
  split at read
  · cases read
  · split at read
    · cases read
      exact .inl ⟨rfl,rfl⟩
    · rename_i bytes
      cases disposed : dispositionOf sha256 bytes with
      | error refusal => simp [disposed,refuseWith,Except.mapError,Except.map] at read
      | ok d =>
        simp only [disposed,refuseWith,Except.mapError,Except.map,Except.ok.injEq] at read
        exact .inr ⟨bytes,d,rfl,read.symm,disposed⟩

section

variable (prepared : prepareTombstone sha256 faults live tombstone = .ok bytes)
include prepared

theorem prepareTombstone_reads :
    faults .readLivePointer = none := by
  rw [prepareTombstone,except_unit_bind_ok,except_bind_ok] at prepared
  obtain ⟨_,disposition,read,_⟩ := prepared
  unfold readLiveDisposition at read
  split at read
  · cases read
  · assumption

theorem prepareTombstone_ok :
    HoldsTombstone sha256 (some bytes) tombstone ∧
      ∃ before d, live = some before ∧ dispositionOf sha256 before = .ok d ∧
        assertTombstoneSuccession tombstone d = .ok () := by
  rw [prepareTombstone,except_unit_bind_ok,refuseWith_ok] at prepared
  obtain ⟨validated,rest⟩ := prepared
  rw [except_bind_ok] at rest
  obtain ⟨disposition,read,rest⟩ := rest
  rcases readLiveDisposition_ok read with ⟨_,rfl⟩ | ⟨before,d,rfl,rfl,disposed⟩
  · cases rest
  · rw [except_unit_bind_ok,refuseWith_ok,refuseWith_ok,tombstoneBytes,except_unit_bind_ok,mapError_ok] at rest
    exact ⟨⟨validated,_,rest.2.2,rfl⟩,before,d,rfl,disposed,rest.1⟩

theorem succession :
    Succession sha256 live (some bytes) := by
  obtain ⟨holds,before,d,rfl,disposed,chained⟩ := prepareTombstone_ok prepared
  simp only [assertTombstoneSuccession,checks_ok] at chained
  obtain ⟨_,_,linked,same⟩ := chained
  rcases dispositionOf_ok disposed with ⟨kind,held,own⟩ | ⟨kind,held,own⟩
  · rw [own] at linked
    rw [liveGeneration,if_pos kind] at same
    obtain ⟨n,known,_⟩ := (Pointer.validateGenerationPointer_valid sha256 held.validated).generation
    exact .dispose held holds ⟨n,known,generation_of_strictEqual same known⟩ linked
  · rw [own] at linked
    rw [liveGeneration,if_neg (by rw [kind]; decide)] at same
    obtain ⟨n,known,_⟩ := (validateTombstone_valid sha256 held.validated).generation
    exact .again held holds ⟨n,known,generation_of_strictEqual same known⟩ linked

end

end Tombstone

inductive Publication where
  | generation | tombstone
  deriving DecidableEq, Repr

structure Call where
  publication : Publication
  record : Value
  faults : Faults

inductive Receipt where
  | generation (receipt : Pointer.Receipt)
  | tombstone (receipt : Tombstone.Receipt)

variable (sha256) in
def publish (live : Option Bytes) (call : Call) : Option Bytes × Except Thrown Receipt :=
  match call.publication with
  | .generation =>
    let (live,result) := Pointer.publishGeneration sha256 call.faults live call.record
    (live,result.map .generation)
  | .tombstone =>
    let (live,result) := Tombstone.publishTombstone sha256 call.faults live call.record
    (live,result.map .tombstone)

variable (sha256) in
def HoldsRecord (live : Option Bytes) (call : Call) : Prop :=
  match call.publication with
  | .generation => HoldsPointer sha256 live call.record
  | .tombstone => HoldsTombstone sha256 live call.record

/-- What one call can do to the slot. -/
theorem publish_cases (live : Option Bytes) (call : Call) :
    (∃ thrown, publish sha256 live call = (live,.error thrown)) ∨
    (∃ bytes, HoldsRecord sha256 (some bytes) call ∧ Succession sha256 live (some bytes) ∧
      ((∃ thrown, failingStep call.faults = some .flushParent ∧
          publish sha256 live call = (some bytes,.error thrown)) ∨
        ∃ receipt, publish sha256 live call = (some bytes,.ok receipt))) := by
  obtain ⟨publication,record,faults⟩ := call
  cases publication with
  | generation =>
    simp only [publish,Pointer.publishGeneration]
    rcases publishPrepared_cases Pointer.stepFailed faults live
      (Pointer.prepareGeneration sha256 faults live record) (Pointer.receiptOf record) with
      ⟨thrown,result⟩ | ⟨bytes,error,prepared,_,fault,result⟩ | ⟨bytes,prepared,result⟩
    · exact .inl ⟨thrown,by rw [result]; rfl⟩
    · exact .inr ⟨bytes,(Pointer.prepareGeneration_ok prepared).1,Pointer.succession prepared,
        .inl ⟨_,fault (Pointer.prepareGeneration_reads prepared),by rw [result]; rfl⟩⟩
    · exact .inr ⟨bytes,(Pointer.prepareGeneration_ok prepared).1,Pointer.succession prepared,
        .inr ⟨_,by rw [result]; rfl⟩⟩
  | tombstone =>
    simp only [publish,Tombstone.publishTombstone]
    rcases publishPrepared_cases Tombstone.stepFailed faults live
      (Tombstone.prepareTombstone sha256 faults live record) (Tombstone.receiptOf record) with
      ⟨thrown,result⟩ | ⟨bytes,error,prepared,_,fault,result⟩ | ⟨bytes,prepared,result⟩
    · exact .inl ⟨thrown,by rw [result]; rfl⟩
    · exact .inr ⟨bytes,(Tombstone.prepareTombstone_ok prepared).1,Tombstone.succession prepared,
        .inl ⟨_,fault (Tombstone.prepareTombstone_reads prepared),by rw [result]; rfl⟩⟩
    · exact .inr ⟨bytes,(Tombstone.prepareTombstone_ok prepared).1,Tombstone.succession prepared,
        .inr ⟨_,by rw [result]; rfl⟩⟩

theorem HoldsRecord.validSlot (holds : HoldsRecord sha256 live call) : ValidSlot sha256 live := by
  obtain ⟨publication,record,faults⟩ := call
  cases publication with
  | generation => exact .pointer holds
  | tombstone => exact .tombstone holds

/-- No link leads from a tombstone to a pointer. -/
theorem Succession.tombstone_final (link : Succession sha256 before after) {tombstone pointer : Value}
    (held : HoldsTombstone sha256 before tombstone) (holds : HoldsPointer sha256 after pointer) :
    False := by
  cases link with
  | first => obtain ⟨_,_,impossible⟩ := held.spelled; cases impossible
  | pointer previous => exact previous.not_tombstone held
  | dispose previous => exact previous.not_tombstone held
  | again _ next => exact holds.not_tombstone next

variable (sha256) in
structure ChainLaw (before : Option Bytes) (call : Call) : Prop where
  valid : ValidSlot sha256 (publish sha256 before call).1
  single : ∀ pointer tombstone, HoldsPointer sha256 (publish sha256 before call).1 pointer →
    ¬ HoldsTombstone sha256 (publish sha256 before call).1 tombstone
  succession : (publish sha256 before call).1 = before ∨
    Succession sha256 before (publish sha256 before call).1
  terminal : ∀ tombstone pointer, HoldsTombstone sha256 before tombstone →
    ¬ HoldsPointer sha256 (publish sha256 before call).1 pointer
  failed : ∀ thrown, (publish sha256 before call).2 = .error thrown →
    (publish sha256 before call).1 = before ∨ failingStep call.faults = some .flushParent
  published : ∀ receipt, (publish sha256 before call).2 = .ok receipt →
    HoldsRecord sha256 (publish sha256 before call).1 call

theorem chainLaw (valid : ValidSlot sha256 before) (call : Call) :
    ChainLaw sha256 before call := by
  constructor
  case single => exact fun _ _ pointer tombstone => pointer.not_tombstone tombstone
  all_goals
    rcases publish_cases before call with
      ⟨thrown,result⟩ | ⟨bytes,holds,link,⟨thrown,fault,result⟩ | ⟨receipt,result⟩⟩
    all_goals rw [result]
  case valid.inl => exact valid
  case valid.inr.inl => exact holds.validSlot
  case valid.inr.inr => exact holds.validSlot
  case succession.inl => exact .inl rfl
  case succession.inr.inl => exact .inr link
  case succession.inr.inr => exact .inr link
  case terminal.inl => exact fun _ _ tombstone pointer => pointer.not_tombstone tombstone
  case terminal.inr.inl => exact fun _ _ held holds => link.tombstone_final held holds
  case terminal.inr.inr => exact fun _ _ held holds => link.tombstone_final held holds
  case failed.inl => exact fun _ _ => .inl rfl
  case failed.inr.inl => exact fun _ _ => .inr fault
  case failed.inr.inr => exact fun _ impossible => by cases impossible
  case published.inl => exact fun _ impossible => by cases impossible
  case published.inr.inl => exact fun _ impossible => by cases impossible
  case published.inr.inr => exact fun _ _ => holds

variable (sha256) in
/-- A slot with its content known to be absent or one valid record. -/
structure LiveSlot where
  live : Option Bytes
  valid : ValidSlot sha256 live

/-- Every call of every sequence of publications keeps the chain law. -/
theorem live_slot_chain (slot : LiveSlot sha256) (calls : List Call) :
    ∀ visit ∈ Runs.visits (publish sha256) slot.live calls, ChainLaw sha256 visit.1 visit.2 := by
  have preserved : ∀ live call, ValidSlot sha256 live → ValidSlot sha256 (publish sha256 live call).1 :=
    fun live call valid => (chainLaw valid call).valid
  intro visit member
  exact chainLaw (Runs.visits_invariant preserved slot.valid calls visit member) visit.2

/-- The digest of the body of `firstPointer`. -/
def firstDigest : Units :=
  ofString "4674270327a98d182854ca55f1ac88b6c7148dc0589f0b50a9564a93d1bfa011"

def firstPointer : Value :=
  .object [(ofString "version",.number (.int 1)),
    (ofString "kind",textValue Pointer.KIND),(ofString "hostId",textValue "h"),
    (ofString "workspaceId",textValue "w"),(ofString "sourcePlatform",textValue "posix"),
    (ofString "activeGeneration",.number (.int 1)),(ofString "generationPath",textValue "g1"),
    (ofString "rootIdentityFingerprint",.string (List.replicate 64 0x61)),
    (ofString "storageIdentityFingerprint",.string (List.replicate 64 0x62)),
    (ofString "gitGenerationFingerprint",.string (List.replicate 64 0x63)),
    (ofString "manifestFingerprint",.string (List.replicate 64 0x64)),
    (ofString "priorGeneration",.null),(ofString "priorPointerFingerprint",.null),
    (ofString "pointerFingerprint",.string firstDigest)]

/-- A publication into the empty slot whose parent flush fails, and its law. -/
theorem live_slot_chain_first :
    (publish (fun _ => firstDigest) none ⟨.generation,firstPointer,fun step =>
      if step = .flushParent then some ⟨none,some "EIO",none⟩ else none⟩).1.isSome = true ∧
    ChainLaw (fun _ => firstDigest) none ⟨.generation,firstPointer,fun step =>
      if step = .flushParent then some ⟨none,some "EIO",none⟩ else none⟩ :=
  ⟨by rfl,live_slot_chain ⟨none,.absent⟩ [_] (none,_) List.mem_cons_self⟩

end GjcRemote.Workspace
