import GjcRemote.CrashTrace
import GjcRemote.OrderedMap
import GjcRemote.PaddedDecimal
import GjcRemote.ServiceEnvelope

/-! The journal of a service, from `native-control/src/service-store.js`: a directory of
numbered entries with a head, read back as a whole before each append. The native calls are
atomic and compare the file they replace; what the rest of the store answers to an append
(locks, tombstone, recovery, manifest) can only refuse it. -/
namespace GjcRemote.ServiceJournal

open Utf16 StrictJson Record Envelope
open ServiceEnvelope CrashTrace CrashTrace.Program

def JSON_LIMITS : Limits := ⟨16 * 1024 * 1024,64,500000⟩

/-- `SERVICE_STORE_LIMITS.directoryEntries`. -/
def directoryEntries : Nat := 100000

/-- A `ServiceStoreError`, or an error of an envelope that nothing catches. -/
inductive Failure where
  | store (code operation : String) (ambiguous : Bool)
  | thrown (error : JsError)

structure Config where
  component : Units
  serviceKey : Units
  platform : Units
  architecture : Units

abbrev File := List UInt8

def cloneJson (value : Value) : Except JsError Value := do
  let bytes ← canonicalJsonBytes value JSON_LIMITS
  parseCanonicalJsonBytes bytes JSON_LIMITS

def sameJson (left right : Value) : Bool :=
  match canonicalJson left JSON_LIMITS,canonicalJson right JSON_LIMITS with
  | .ok l,.ok r => l == r
  | _,_ => false

/-- `try { … } catch { throwStore(…) }`. -/
def orThrow {α : Type} (attempt : Except JsError α) (failure : Failure) : Except Failure α :=
  attempt.mapError fun _ => failure

def entryName (sequence : Nat) : List Char :=
  "entry-".toList ++ (PaddedDecimal.padded 16 sequence ++ ".json".toList)

def journalName (sequence : Nat) : Except Failure Units := do
  check (1 ≤ sequence && (sequence : Int) ≤ maxSafeInteger) (.store "SERVICE_INVALID" "journal_name" false)
  check ((PaddedDecimal.padded 16 sequence).length == 16) (.store "SERVICE_INVALID" "journal_name" false)
  return encode (entryName sequence)

/-- `/^entry-([0-9]{16})\.json$/`. -/
def JOURNAL_ENTRY (name : Units) : Bool :=
  name.length == 27 && name.take 6 == ofString "entry-" && ((name.drop 6).take 16).all isDecimal &&
    name.drop 22 == ofString ".json"

def journalHead : Units := ofString "head.json"

section Store

variable (sha256 : List UInt8 → Units) (cfg : Config) (value : Value)

def snapshot (validator : Value → Except JsError Unit) (operation : String) :
    Except Failure Value :=
  orThrow (do
    let snapshot ← cloneJson value
    validator snapshot
    return snapshot) (.store "SERVICE_INVALID" operation false)

def scope (operation : String) : Except Failure Unit :=
  check (strictEqual (get value "component") (.string cfg.component) &&
      strictEqual (get value "serviceKey") (.string cfg.serviceKey) &&
      strictEqual (get value "platform") (.string cfg.platform) &&
      strictEqual (get value "architecture") (.string cfg.architecture))
    (.store "SERVICE_SCOPE_MISMATCH" operation false)

def validateTransaction (operation : String) : Except Failure Value := do
  let value ← snapshot value (validateServiceTransaction sha256) operation
  orThrow (do
    validateServiceOldProof sha256 (get value "old") (.string cfg.platform)
    validateServiceCandidateProof sha256 (get value "candidate") (.string cfg.platform)
    validateServiceTransitionProof sha256 (get value "transition") (.string cfg.platform)
    validateServiceFinalProof sha256 (get value "final") (.string cfg.platform))
    (.store "SERVICE_INVALID" operation false)
  scope cfg value operation
  return value

/-- The members that all entries of one transaction share. -/
def identityKeys : List String :=
  ["transactionId","transactionNonce","operation","component","serviceKey","platform","architecture",
    "serviceGeneration","old","candidate","transition","final"]

def transactionIdentity : Except JsError Units :=
  canonicalJsonHash sha256 (record (identityKeys.map fun key => (key,get value key)))

/-- `previous?.transactionFingerprint ?? null`. -/
def fingerprintOf : Option Value → Value
  | none => .null
  | some previous =>
    let fingerprint := get previous "transactionFingerprint"
    if isNullish fingerprint then .null else fingerprint

def sameTransaction (previous value : Value) : Bool :=
  agree previous value ["transactionId","transactionNonce"]

/-- The first record of a transaction that follows a committed one. -/
def succeeds (previous value : Value) : Bool :=
  isText "committed" (get previous "phase") && isText "prepared" (get value "phase") &&
    isText "none" (get value "substep") &&
    isNext (get value "serviceGeneration") (get previous "serviceGeneration") &&
    strictEqual (get (get value "old") "oldFingerprint") (get (get previous "final") "finalFingerprint")

def assertJournalLink (previous : Option Value) (value : Value) (operation : String) :
    Except Failure Unit := do
  check (strictEqual (get value "previousJournalFingerprint") (fingerprintOf previous))
    (.store "SERVICE_STALE" operation false)
  match previous with
  | none => return ()
  | some previous =>
    if sameTransaction previous value then
      let before ← (transactionIdentity sha256 previous).mapError .thrown
      let after ← (transactionIdentity sha256 value).mapError .thrown
      check (before == after) (.store "SERVICE_SCOPE_MISMATCH" operation false)
    else check (succeeds previous value) (.store "SERVICE_SCOPE_MISMATCH" operation false)

inductive Write where
  | directory
  | file (name : Units)
  deriving DecidableEq

structure Store where
  directory : Option (OrderedMap Units File)
  written : List Write

structure Journal where
  head : Option (Value × File)
  entries : List Value
  pending : Option Value

def readFile (files : OrderedMap Units File) (name : Units) (validator : Value → Except JsError Unit)
    (logical : String) : Except Failure (Option (Value × File)) :=
  match files.get name with
  | none => .ok none
  | some bytes => do
    let value ← orThrow (do
      let value ← parseCanonicalJsonBytes bytes JSON_LIMITS
      validator value
      cloneJson value) (.store "SERVICE_MANUAL_CLEANUP" logical true)
    return some (value,bytes)

def manualCleanup : Failure := .store "SERVICE_MANUAL_CLEANUP" "read_service_journal" true

/-- The loop over the names, with the entries read so far. -/
def readEntries (files : OrderedMap Units File) : List Units → List Value → Except Failure (List Value)
  | [],entries => .ok entries
  | name :: rest,entries => do
    let sequence := entries.length + 1
    let expected ← journalName sequence
    check (name == expected) manualCleanup
    match ← readFile files name (validateServiceTransaction sha256) s!"journal-entry:{sequence}" with
    | none => throw manualCleanup
    | some (value,_) =>
      let _ ← validateTransaction sha256 cfg value "read_service_journal"
      (assertJournalLink sha256 entries.getLast? value "read_service_journal").mapError fun _ => manualCleanup
      readEntries files rest (entries ++ [value])

def sequenceOf (head : Value) : Nat := ((safeInteger (get head "sequence")).getD 0).toNat

def headFields : List String :=
  ["transactionFingerprint","transactionId","transactionNonce","serviceGeneration","previousJournalFingerprint"]

def pendingOf (head : Option (Value × File)) (entries : List Value) : Except Failure (Option Value) :=
  match head with
  | none => do
    check (entries.length ≤ 1) manualCleanup
    return entries.head?
  | some (head,_) => do
    let sequence := sequenceOf head
    check (sequence ≤ entries.length && entries.length ≤ sequence + 1) manualCleanup
    check ((entries[sequence - 1]?).any fun committed => agree head committed headFields) manualCleanup
    return if entries.length = sequence + 1 then entries.getLast? else none

def listing (files : OrderedMap Units File) : List Units := (sortEntries files.entries).map Prod.fst

def sortNames (names : List Units) : List Units :=
  names.insertionSort fun a b => (utf8Compare a b).isLE

def readJournal (s : Store) : Except Failure Journal :=
  match s.directory with
  | none => .ok ⟨none,[],none⟩
  | some files => do
    check (files.size ≤ directoryEntries) (.store "SERVICE_INVALID" "list_service_directory" false)
    let names := sortNames ((listing files).filter JOURNAL_ENTRY)
    let head ← readFile files journalHead (validateServiceJournalHead sha256) "journal-head"
    match head with
    | none => pure ()
    | some (head,_) => scope cfg head "read_service_journal"
    let entries ← readEntries sha256 cfg files names []
    let pending ← pendingOf head entries
    return ⟨head,entries,pending⟩

def Journal.committed (journal : Journal) : Nat :=
  match journal.head with
  | none => 0
  | some (head,_) => sequenceOf head

def createDirectory : Program Store Failure Unit := perform fun s =>
  match s.directory with
  | none => (⟨some .empty,s.written ++ [.directory]⟩,.ok ())
  | some _ => (s,.error (.store "SERVICE_ALREADY_EXISTS" "open_service_directory" false))

/-- `#serviceDirectory('transaction', true)`. -/
def serviceDirectory : Program Store Failure Unit := do
  let present ← inspect fun s => .ok s.directory.isSome
  if present then pure () else createDirectory

def publishFileAtomic (name : Units) (bytes : File) (expected : Option File) :
    Program Store Failure Unit := perform fun s =>
  match s.directory with
  | some files =>
    if files.get name = expected then (⟨some (files.set name bytes),s.written ++ [.file name]⟩,.ok ())
    else (s,.error (.store "SERVICE_STALE" "publish_service_file_atomic" false))
  | none => (s,.error (.store "SERVICE_STALE" "publish_service_file_atomic" false))

/-- The bytes that `#publish` writes. -/
def recordBytes (validator : Value → Except JsError Unit) (logical : String) :
    Except Failure File :=
  orThrow (do
    let frozen ← cloneJson value
    validator frozen
    canonicalJsonBytes frozen JSON_LIMITS) (.store "SERVICE_INVALID" logical false)

def publish (name : Units) (value : Value) (validator : Value → Except JsError Unit)
    (expected : Option File) (logical : String) : Program Store Failure Unit := do
  let bytes ← lift (recordBytes value validator logical)
  publishFileAtomic name bytes expected

def headOf (sequence : Nat) : List (String × Value) :=
  [("serviceKey",.string cfg.serviceKey),("component",.string cfg.component),
    ("platform",.string cfg.platform),("architecture",.string cfg.architecture),
    ("sequence",number sequence),("serviceGeneration",get value "serviceGeneration"),
    ("transactionId",get value "transactionId"),("transactionNonce",get value "transactionNonce"),
    ("transactionFingerprint",get value "transactionFingerprint"),
    ("previousJournalFingerprint",get value "previousJournalFingerprint")]

def writeJournalHead (expected : Option (Value × File)) (sequence : Nat) :
    Program Store Failure Unit := do
  let head ← lift ((buildServiceJournalHead sha256 (headOf cfg value sequence)).mapError .thrown)
  serviceDirectory
  publish journalHead head (validateServiceJournalHead sha256) (expected.map Prod.snd) "journal-head"

/-- What the rest of the store answers: before the value is looked at, once it is
validated, for the first record of a transaction, and after the writes. -/
structure Session where
  writable : Except Failure Unit
  authorised : Except Failure Unit
  base : Except Failure Unit
  retained : Except Failure Unit

def completeJournalAppend (session : Session) : Program Store Failure Unit := do
  let _ ← inspect (readJournal sha256 cfg)
  lift session.retained

def appendJournal (session : Session) : Program Store Failure Unit := do
  lift session.writable
  let value ← lift (validateTransaction sha256 cfg value "append_service_journal")
  lift session.authorised
  let journal ← inspect (readJournal sha256 cfg)
  match journal.pending with
  | some pending =>
    if sameJson pending value then
      writeJournalHead sha256 cfg value journal.head (journal.committed + 1)
      completeJournalAppend sha256 cfg session
    else fail (.store "SERVICE_PENDING" "append_service_journal" false)
  | none =>
    if journal.entries.getLast?.any fun last => sameJson last value then
      completeJournalAppend sha256 cfg session
    else
      lift (assertJournalLink sha256 journal.entries.getLast? value "append_service_journal")
      if !journal.entries.getLast?.any fun previous => sameTransaction previous value then
        lift session.base
      let sequence := journal.committed + 1
      serviceDirectory
      let name ← lift (journalName sequence)
      publish name value (validateServiceTransaction sha256) none s!"journal-entry:{sequence}"
      writeJournalHead sha256 cfg value journal.head sequence
      completeJournalAppend sha256 cfg session

/-- Another part of the store writes a file of its own. -/
def Store.retain (s : Store) (name : Units) (bytes : File) : Store :=
  ⟨s.directory.map fun files => files.set name bytes,s.written⟩

inductive Event where
  /-- A crash lets that many of the writes happen; the store is reopened after it. -/
  | append (value : JsValue) (session : Session) (crash : Option Nat)
  /-- Another file of the directory is written. -/
  | retain (name : Units) (bytes : File)

def step (s : Store) : Event → Store × Option (Except Failure Unit)
  | .append value session crash =>
    let attempt := appendJournal sha256 cfg value.value session s
    match crash with
    | none => (attempt.state,some attempt.result)
    | some writes => (((s :: attempt.seen)[writes]?).getD attempt.state,none)
  | .retain name bytes =>
    if JOURNAL_ENTRY name || name == journalHead then (s,none)
    else (s.retain name bytes,none)

def Store.new : Store := ⟨none,[]⟩

end Store

end GjcRemote.ServiceJournal
