import GjcRemote.ServiceJournalRead

/-! The chain that a journal directory holds, and that reading the directory gives the chain
back. -/
namespace GjcRemote.ServiceJournal

open Utf16 StrictJson Record Envelope ServiceEnvelope
open List hiding after all cons head length nil

def Store.files (s : Store) : OrderedMap Units File := s.directory.getD .empty

section Store

variable (sha256 : List UInt8 → Units) (cfg : Config)

def Linked (entries : List Value) : Prop :=
  ∀ before value after, entries = before ++ value :: after →
    ∀ operation, assertJournalLink sha256 before.getLast? value operation = .ok ()

structure HeadFile (entries : List Value) (sequence : Nat) (head : Value) (bytes : File) : Prop where
  clean : Clean head bytes
  valid : validateServiceJournalHead sha256 head = .ok ()
  inScope : ∀ operation, scope cfg head operation = .ok ()
  numbered : sequenceOf head = sequence
  names : ∃ value, entries[sequence - 1]? = some value ∧ agree head value headFields = true

/-- A directory that holds a chain of entries with its head at one of the last two. -/
structure Held (s : Store) (entries : List Value) (headed : Nat) : Prop where
  valid : ∀ value ∈ entries, ∃ bytes, Valid sha256 cfg value bytes
  linked : Linked sha256 entries
  names : ∀ name, JOURNAL_ENTRY name = true →
    (name ∈ s.files.keys ↔ ∃ i, i < entries.length ∧ name = nameOf (i + 1))
  stored : ∀ i value bytes, entries[i]? = some value → Valid sha256 cfg value bytes →
    s.files.get (nameOf (i + 1)) = some bytes
  unheaded : headed = 0 → s.files.get journalHead = none
  head : 0 < headed → ∃ head bytes, HeadFile sha256 cfg entries headed head bytes ∧
    s.files.get journalHead = some bytes
  atMost : headed ≤ entries.length
  atLeast : entries.length ≤ headed + 1
  last : headed < entries.length ↔ ∃ name, JOURNAL_ENTRY name = true ∧
    s.written.getLast? = some (.file name)
  existing : s.directory = none → entries = []
  safe : (entries.length : Int) ≤ maxSafeInteger

structure HeadRead (files : OrderedMap Units File) (entries : List Value) (headed : Nat)
    (head : Option (Value × File)) : Prop where
  stored : head.map Prod.snd = files.get journalHead
  absent : head = none ↔ headed = 0
  names : ∀ receipt, head = some receipt → HeadFile sha256 cfg entries headed receipt.1 receipt.2

variable {sha256 cfg}

theorem Valid.bytes_eq (left : Valid sha256 cfg value bytes)
    (right : Valid sha256 cfg value bytes') : bytes = bytes' :=
  Except.ok.inj (left.clean.encoded.symm.trans right.clean.encoded)

theorem readFile_clean
    (there : files.get name = some bytes) (clean : Clean value bytes) (valid : validator value = .ok ()) :
    readFile files name validator logical = .ok (some (value,bytes)) := by
  have read : (do
      let value ← parseCanonicalJsonBytes bytes JSON_LIMITS
      validator value
      cloneJson value) = .ok value := by
    rw [clean.parsed]
    simp only [bind,Except.bind,valid]
    exact clean.cloned
  simp only [readFile,there,read,orThrow,Except.mapError]
  rfl

theorem readEntries_cons (named : journalName (done.length + 1) = .ok name)
    (read : ∀ logical, readFile files name (validateServiceTransaction sha256) logical = .ok (some (value,bytes)))
    (accepted : validateTransaction sha256 cfg value "read_service_journal" = .ok w)
    (linked : assertJournalLink sha256 done.getLast? value "read_service_journal" = .ok ()) :
    readEntries sha256 cfg files (name :: rest) done = readEntries sha256 cfg files rest (done ++ [value]) := by
  rw [readEntries,named]
  simp only [bind,Except.bind,check,beq_self_eq_true,if_true,read,accepted,linked,Except.mapError]

variable {headed : Nat}

/-- The loop over the remaining names reads the remaining entries. -/
theorem readEntries_held
    (held : Held sha256 cfg s entries headed) (done rest : List Value) (whole : entries = done ++ rest) :
    readEntries sha256 cfg s.files ((List.range' done.length rest.length).map fun i => nameOf (i + 1)) done =
      .ok entries := by
  induction rest generalizing done with
  | nil => simp [readEntries,whole]
  | cons value rest ih =>
    have length := congrArg List.length whole
    rw [length_append,length_cons] at length
    have safe := held.safe
    have located : entries[done.length]? = some value := by rw [whole]; simp
    obtain ⟨bytes,valid⟩ := held.valid value (by rw [whole]; simp)
    have there := held.stored _ value bytes located valid
    have linked := held.linked done value rest whole
    have later := ih (done ++ [value]) (by rw [whole]; simp)
    rw [length_append,length_singleton] at later
    rw [length_cons,range'_succ,map_cons,readEntries_cons (journalName_ok (Nat.succ_pos _) (by omega))
        (fun _ => readFile_clean there valid.clean valid.transaction) (valid.accepted _) (linked _)]
    exact later

theorem listing_perm (files : OrderedMap Units File) : (listing files).Perm files.keys :=
  (sortEntries_perm files.entries).map Prod.fst

theorem Held.sorted (held : Held sha256 cfg s entries headed) :
    sortNames ((listing s.files).filter JOURNAL_ENTRY) = namesTo entries.length := by
  have perm := listing_perm s.files
  refine sorted_names ((perm.nodup_iff.mpr s.files.distinct).filter _) held.safe fun name => ?_
  rw [mem_filter,perm.mem_iff]
  constructor
  · rintro ⟨there,entry⟩
    exact (held.names name entry).mp there
  · rintro ⟨i,bound,rfl⟩
    have safe := held.safe
    have entry := nameOf_entry (show ((i + 1 : Nat) : Int) ≤ maxSafeInteger by omega)
    exact ⟨(held.names _ entry).mpr ⟨i,bound,rfl⟩,entry⟩

def pendingAt (entries : List Value) (headed : Nat) : Option Value :=
  if headed < entries.length then entries.getLast? else none

theorem HeadRead.committed (read : HeadRead sha256 cfg files entries headed head)
    (pending : Option Value) : Journal.committed ⟨head,entries,pending⟩ = headed := by
  cases head with
  | none => exact (read.absent.mp rfl).symm
  | some receipt => exact (read.names _ rfl).numbered

theorem readHead_held (held : Held sha256 cfg s entries headed) :
    ∃ head, readFile s.files journalHead (validateServiceJournalHead sha256) "journal-head" = .ok head ∧
      HeadRead sha256 cfg s.files entries headed head ∧
      pendingOf head entries = .ok (pendingAt entries headed) := by
  by_cases unheaded : headed = 0
  · have absent := held.unheaded unheaded
    have short := held.atLeast
    refine ⟨none,by simp only [readFile,absent],⟨absent.symm,iff_of_true rfl unheaded,?_⟩,?_⟩
    · intro receipt same
      cases same
    · subst unheaded
      rcases entries with _ | ⟨only,_ | ⟨second,rest⟩⟩
      · rfl
      · rfl
      · exact absurd short (by simp)
  · obtain ⟨head,bytes,file,there⟩ := held.head (Nat.pos_of_ne_zero unheaded)
    have atMost := held.atMost
    have atLeast := held.atLeast
    refine ⟨some (head,bytes),readFile_clean there file.clean file.valid,
      ⟨by rw [there]; rfl,iff_of_false (Option.some_ne_none _) unheaded,?_⟩,?_⟩
    · intro receipt same
      cases same
      exact file
    · obtain ⟨value,located,agrees⟩ := file.names
      have names : (entries[headed - 1]?).any (fun committed => agree head committed headFields) := by
        rw [located]
        exact agrees
      simp only [pendingOf,file.numbered,atMost,atLeast,decide_true,Bool.and_self,names,check,if_true,bind,
        Except.bind,pure,Except.pure,pendingAt]
      by_cases open' : headed < entries.length
      · rw [if_pos (by omega),if_pos open']
      · rw [if_neg (by omega),if_neg open']

/-- Reading a held directory within its entry limit gives the chain back, and never asks for a
manual cleanup. -/
theorem readJournal_held (held : Held sha256 cfg s entries headed) (room : s.files.size ≤ directoryEntries) :
    ∃ head, readJournal sha256 cfg s = .ok ⟨head,entries,pendingAt entries headed⟩ ∧
      HeadRead sha256 cfg s.files entries headed head := by
  cases directory : s.directory with
  | none =>
    have empty := held.existing directory
    have atMost := held.atMost
    subst empty
    have unheaded : headed = 0 := Nat.le_zero.mp atMost
    subst unheaded
    refine ⟨none,by rw [readJournal,directory]; rfl,?_,iff_of_true rfl rfl,?_⟩
    · rw [Store.files,directory]
      rfl
    · intro receipt same
      cases same
  | some files =>
    have same : s.files = files := by rw [Store.files,directory]; rfl
    obtain ⟨head,read,headRead,pending⟩ := readHead_held held
    have entriesRead := readEntries_held held [] entries rfl
    have names := held.sorted
    rw [same] at read headRead entriesRead names room
    refine ⟨head,?_,by rw [same]; exact headRead⟩
    have all : (List.range' ([] : List Value).length entries.length).map (fun i => nameOf (i + 1)) =
        namesTo entries.length := by rw [length_nil,← range_eq_range']; rfl
    rw [all] at entriesRead
    rw [readJournal,directory]
    simp only [room,decide_true,check,if_true,bind,Except.bind,read,names,entriesRead,pending]
    cases head with
    | none => rfl
    | some receipt =>
      simp only [(headRead.names receipt rfl).inScope]
      rfl

end Store

end GjcRemote.ServiceJournal
