import GjcRemote.Runs
import GjcRemote.ServiceJournalAppend

/-! Runs of appends, each accepted, refused or cut short by a crash. -/
namespace GjcRemote.ServiceJournal

open Utf16 StrictJson Record Envelope ServiceEnvelope
open CrashTrace CrashTrace.Program

theorem ensures_lift {m : Except Failure α} {s : Store}
    (quiet : ∀ error, failed error s) :
    Ensures (fun t => t = s) safe (lift m) (fun a t => t = s ∧ m = .ok a) failed := by
  apply Ensures.lift
  · intro t a same ok
    exact ⟨same,ok⟩
  · intro t error same _
    exact same ▸ quiet error

theorem ensures_inspect {f : Store → Except Failure α}
    (quiet : ∀ error, failed error s) :
    Ensures (fun t => t = s) safe (inspect f) (fun a t => t = s ∧ f s = .ok a) failed := by
  apply Ensures.inspect
  · rintro t a rfl ok
    exact ⟨rfl,ok⟩
  · intro t error same _
    exact same ▸ quiet error

section Store

variable {sha256 : List UInt8 → Units} {cfg : Config} {s : Store} {safe : Store → Prop}
  {failed : Failure → Store → Prop}

theorem ensures_serviceDirectory (made : safe s.made) :
    Ensures (fun t => t = s) safe serviceDirectory (fun _ t => t = s.made) failed := by
  intro t start
  subst start
  cases there : t.directory with
  | some files =>
    rw [made_of_some there]
    simp [serviceDirectory,inspect,there,bind,Program.bind,pure,Program.pure]
  | none =>
    rw [made_of_none there] at made ⊢
    simpa [serviceDirectory,inspect,there,bind,Program.bind,createDirectory,perform] using made

theorem ensures_publishFile
    (there : s.directory = some s.files) (stays : safe s) (quiet : ∀ error, failed error s)
    (crash : safe (s.put name bytes)) :
    Ensures (fun t => t = s) safe (publishFileAtomic name bytes expected)
      (fun _ t => t = s.put name bytes) failed := by
  apply Ensures.perform
  · rintro t rfl
    simp only [there]
    split
    · exact crash
    · exact stays
  · rintro t _ rfl ok
    simp only [there] at ok ⊢
    split at ok
    · next same => rw [if_pos same]; rfl
    · cases ok
  · rintro t error rfl refused
    simp only [there] at refused ⊢
    split at refused
    · cases refused
    · next other => rw [if_neg other]; exact quiet error

variable {value : Value}

/-- The write of a record whose bytes are what `#publish` makes of it. -/
theorem ensures_publish
    (there : s.directory = some s.files) (stays : safe s)
    (quiet : ∀ error, failed error s)
    (crash : ∀ bytes, recordBytes value validator logical = .ok bytes → safe (s.put name bytes)) :
    Ensures (fun t => t = s) safe (publish name value validator expected logical)
      (fun _ t => ∃ bytes, recordBytes value validator logical = .ok bytes ∧ t = s.put name bytes) failed := by
  refine Ensures.bind (ensures_lift quiet) fun bytes => Ensures.given fun recorded => ?_
  refine (ensures_publishFile there stays quiet (crash bytes recorded)).weaken (fun _ same => same) ?_
    (fun _ _ given => given)
  intro _ t same
  exact ⟨bytes,recorded,same⟩

theorem ensures_writeJournalHead (valid : Valid sha256 cfg value bytes)
    {sequence : Nat} (bound : (sequence : Int) ≤ maxSafeInteger)
    (located : entries[sequence - 1]? = some value)
    (there : s.directory = some s.files) (stays : safe s) (quiet : ∀ error, failed error s)
    (crash : ∀ head bytes, HeadFile sha256 cfg entries sequence head bytes → safe (s.put journalHead bytes)) :
    Ensures (fun t => t = s) safe (writeJournalHead sha256 cfg value expected sequence)
      (fun _ t => ∃ head bytes, HeadFile sha256 cfg entries sequence head bytes ∧
        t = s.put journalHead bytes) failed := by
  have made : s.made = s := made_of_some there
  refine Ensures.bind (ensures_lift quiet) fun head => Ensures.given fun built => ?_
  have built : buildServiceJournalHead sha256 (headOf cfg value sequence) = .ok head := by
    revert built
    cases buildServiceJournalHead sha256 (headOf cfg value sequence) with
    | error => intro other; cases other
    | ok => intro same; cases same; rfl
  refine Ensures.bind (ensures_serviceDirectory (made.symm ▸ stays)) fun _ => ?_
  rw [made]
  refine (ensures_publish there stays quiet ?_).weaken (fun _ same => same) ?_ (fun _ _ given => given)
  · intro bytes' recorded
    obtain ⟨frozen,file⟩ := headFile valid bound located built recorded
    exact crash frozen bytes' file
  · rintro _ t ⟨bytes',recorded,same⟩
    obtain ⟨frozen,file⟩ := headFile valid bound located built recorded
    exact ⟨frozen,bytes',file,same⟩

theorem ensures_complete (done : after s)
    (quiet : ∀ error, failed error s) :
    Ensures (fun t => t = s) safe (completeJournalAppend sha256 cfg session) (fun _ => after) failed := by
  refine Ensures.bind (ensures_inspect quiet) fun _ => Ensures.given fun _ => ?_
  refine (ensures_lift quiet).weaken (fun _ same => same) ?_ (fun _ _ given => given)
  rintro _ t ⟨rfl,-⟩
  exact done

variable (sha256 cfg) in
/-- The stores that an append of a validated value passes, from one that holds a chain. -/
inductive Passes (s : Store) (entries : List Value) (headed : Nat) (value : Value) : Store → Prop where
  | same : Passes s entries headed value s
  | headed {head : Value} {bytes : File} (pending : pendingAt entries headed = some value)
      (file : HeadFile sha256 cfg entries entries.length head bytes) :
      Passes s entries headed value (s.put journalHead bytes)
  | made (settled : headed = entries.length) (fresh : entries.getLast? ≠ some value) :
      Passes s entries headed value s.made
  | entry {bytes : File} (settled : headed = entries.length) (fresh : entries.getLast? ≠ some value)
      (valid : Valid sha256 cfg value bytes)
      (link : ∀ operation, assertJournalLink sha256 entries.getLast? value operation = .ok ())
      (safe : ((entries.length + 1 : Nat) : Int) ≤ maxSafeInteger) :
      Passes s entries headed value (s.made.put (nameOf (entries.length + 1)) bytes)
  | both {bytes bytes' : File} {head : Value} (settled : headed = entries.length)
      (fresh : entries.getLast? ≠ some value) (valid : Valid sha256 cfg value bytes)
      (link : ∀ operation, assertJournalLink sha256 entries.getLast? value operation = .ok ())
      (safe : ((entries.length + 1 : Nat) : Int) ≤ maxSafeInteger)
      (file : HeadFile sha256 cfg (entries ++ [value]) (entries.length + 1) head bytes') :
      Passes s entries headed value
        ((s.made.put (nameOf (entries.length + 1)) bytes).put journalHead bytes')

variable (sha256 cfg) in
inductive Accepts (s : Store) (entries : List Value) (headed : Nat) (value : Value) : Store → Prop where
  | headed {head : Value} {bytes : File} (pending : pendingAt entries headed = some value)
      (file : HeadFile sha256 cfg entries entries.length head bytes) :
      Accepts s entries headed value (s.put journalHead bytes)
  | again (settled : headed = entries.length) (last : entries.getLast? = some value) :
      Accepts s entries headed value s
  | both {bytes bytes' : File} {head : Value} (settled : headed = entries.length)
      (fresh : entries.getLast? ≠ some value) (valid : Valid sha256 cfg value bytes)
      (link : ∀ operation, assertJournalLink sha256 entries.getLast? value operation = .ok ())
      (safe : ((entries.length + 1 : Nat) : Int) ≤ maxSafeInteger)
      (file : HeadFile sha256 cfg (entries ++ [value]) (entries.length + 1) head bytes') :
      Accepts s entries headed value
        ((s.made.put (nameOf (entries.length + 1)) bytes).put journalHead bytes')

theorem journalName_safe {sequence : Nat} (named : journalName sequence = .ok name) :
    (sequence : Int) ≤ maxSafeInteger ∧ name = nameOf sequence := by
  simp only [journalName,checks_ok,Bool.and_eq_true,decide_eq_true_eq,pure,Except.pure,Except.ok.injEq] at named
  exact ⟨named.1.2,named.2.2.symm⟩

theorem link_any
    (link : assertJournalLink sha256 previous value operation = .ok ()) (operation' : String) :
    assertJournalLink sha256 previous value operation' = .ok () := by
  simp only [assertJournalLink,checks_ok] at link ⊢
  refine ⟨link.1,?_⟩
  cases previous with
  | none => rfl
  | some previous =>
    have rest := link.2
    simp only at rest ⊢
    split at rest
    · next same =>
      rw [if_pos same]
      simp only [except_bind_ok,check_ok] at rest ⊢
      exact rest
    · next other =>
      rw [if_neg other]
      exact check_ok.mpr (check_ok.mp rest)

variable {entries : List Value} {headed : Nat}

theorem room_of_read (read : readJournal sha256 cfg s = .ok journal) :
    s.files.size ≤ directoryEntries := by
  cases there : s.directory with
  | none => simp [Store.files,there,OrderedMap.empty,OrderedMap.size]
  | some files =>
    rw [readJournal,there] at read
    simp only [checks_ok,decide_eq_true_eq] at read
    simpa [Store.files,there] using read.1

section

variable (held : Held sha256 cfg s entries headed)
include held

theorem Held.directory (nonempty : entries ≠ []) :
    s.directory = some s.files := by
  cases there : s.directory with
  | none => exact absurd (held.existing there) nonempty
  | some files => rw [Store.files,there]; rfl

theorem Held.pending (pending : pendingAt entries headed = some value) :
    entries.length = headed + 1 ∧ entries.getLast? = some value := by
  have atLeast := held.atLeast
  rw [pendingAt] at pending
  split at pending
  · next open' => exact ⟨by omega,pending⟩
  · cases pending

theorem Held.settled (none' : pendingAt entries headed = none) :
    headed = entries.length := by
  have atMost := held.atMost
  rw [pendingAt] at none'
  split at none'
  · next open' =>
    rw [List.getLast?_eq_none_iff] at none'
    rw [none'] at open'
    cases open'
  · omega

end

theorem located_last (last : entries.getLast? = some value) :
    entries[entries.length - 1]? = some value := by
  rw [← last,List.getLast?_eq_getElem?]

/-- The head that was missing is written. -/
theorem append_pending (held : Held sha256 cfg s entries headed)
    (valid : Valid sha256 cfg value bytes)
    (pending : pendingAt entries headed = some value) :
    Ensures (fun t => t = s) (Passes sha256 cfg s entries headed value)
      (do
        writeJournalHead sha256 cfg value expected (headed + 1)
        completeJournalAppend sha256 cfg session)
      (fun _ => Accepts sha256 cfg s entries headed value)
      (fun _ => Passes sha256 cfg s entries headed value) := by
  obtain ⟨length,last⟩ := held.pending pending
  have there := held.directory (List.ne_nil_of_length_pos (by omega))
  rw [← length]
  refine Ensures.bind (ensures_writeJournalHead valid held.safe (located_last last) there .same
    (fun _ => .same) fun head bytes file => .headed pending file) fun _ => ?_
  rintro t ⟨head,bytes',file,same⟩
  exact ensures_complete (.headed pending file) (fun _ => .headed pending file) t same

/-- A new entry is written, then its head. -/
theorem append_settled (s : Store) (session : Session)
    (expected : Option (Value × File)) (valid : Valid sha256 cfg value bytes)
    (settled : headed = entries.length) (fresh : entries.getLast? ≠ some value)
    (link : ∀ operation, assertJournalLink sha256 entries.getLast? value operation = .ok ()) :
    Ensures (fun t => t = s) (Passes sha256 cfg s entries headed value)
      (do
        let sequence := headed + 1
        serviceDirectory
        let name ← lift (journalName sequence)
        publish name value (validateServiceTransaction sha256) none s!"journal-entry:{sequence}"
        writeJournalHead sha256 cfg value expected sequence
        completeJournalAppend sha256 cfg session)
      (fun _ => Accepts sha256 cfg s entries headed value)
      (fun _ => Passes sha256 cfg s entries headed value) := by
  have made : Passes sha256 cfg s entries headed value s.made := .made settled fresh
  refine Ensures.bind (ensures_serviceDirectory made) fun _ => ?_
  refine Ensures.bind (ensures_lift fun _ => made) fun name => Ensures.given fun named => ?_
  obtain ⟨safe,rfl⟩ := journalName_safe named
  rw [settled] at safe
  have there : s.made.directory = some s.made.files := by rw [directory_made,files_made]
  have wrote (bytes' : File) (logical : String)
      (recorded : recordBytes value (validateServiceTransaction sha256) logical = .ok bytes') :
      Passes sha256 cfg s entries headed value (s.made.put (nameOf (headed + 1)) bytes') := by
    rw [recordBytes_valid valid recorded,settled]
    exact .entry rfl fresh valid link safe
  refine Ensures.bind (ensures_publish there made (fun _ => made) fun bytes' recorded =>
    wrote bytes' _ recorded) fun _ => ?_
  rintro t ⟨bytes',recorded,rfl⟩
  have entry := wrote bytes' _ recorded
  have same := recordBytes_valid valid recorded
  subst same
  subst settled
  have located : (entries ++ [value])[entries.length + 1 - 1]? = some value := by simp
  refine Ensures.bind (ensures_writeJournalHead valid safe located rfl entry (fun _ => entry)
    fun head bytes' file => .both rfl fresh valid link safe file) (fun _ => ?_) _ rfl
  rintro t ⟨head,bytes',file,same⟩
  exact ensures_complete (.both rfl fresh valid link safe file)
    (fun _ => .both rfl fresh valid link safe file) t same

/-- An attempt to append a valid transaction to a held chain. -/
theorem append_ensures (held : Held sha256 cfg s entries headed) {v : JsValue}
    (validated : validateTransaction sha256 cfg v.value "append_service_journal" = .ok value)
    :
    Ensures (fun t => t = s) (Passes sha256 cfg s entries headed value)
      (appendJournal sha256 cfg v.value session) (fun _ => Accepts sha256 cfg s entries headed value)
      (fun _ => Passes sha256 cfg s entries headed value) := by
  obtain ⟨bytes,valid⟩ := validateTransaction_valid validated
  refine Ensures.bind (ensures_lift fun _ => .same) fun _ => Ensures.given fun _ => ?_
  rw [validated]
  refine Ensures.bind (ensures_lift fun _ => .same) fun w => Ensures.given fun same => ?_
  obtain rfl := Except.ok.inj same
  refine Ensures.bind (ensures_lift fun _ => .same) fun _ => Ensures.given fun _ => ?_
  refine Ensures.bind (ensures_inspect fun _ => .same) fun journal => Ensures.given fun read => ?_
  obtain ⟨head,read',headRead⟩ := readJournal_held held (room_of_read read)
  obtain rfl := Except.ok.inj (read'.symm.trans read)
  simp only [headRead.committed]
  cases waiting : pendingAt entries headed with
  | some pending =>
    obtain ⟨bytes',valid'⟩ := held.valid pending (List.mem_of_getLast? (held.pending waiting).2)
    simp only
    split
    · next same =>
      obtain rfl := valid'.clean.eq_of_sameJson valid.clean same
      exact append_pending held valid waiting
    · exact Ensures.fail fun _ same => same ▸ .same
  | none =>
    have settled := held.settled waiting
    simp only
    split
    · next duplicate =>
      cases last : entries.getLast? with
      | none => rw [last] at duplicate; cases duplicate
      | some old =>
        rw [last] at duplicate
        obtain ⟨bytes',valid'⟩ := held.valid old (List.mem_of_getLast? last)
        obtain rfl := valid'.clean.eq_of_sameJson valid.clean duplicate
        exact ensures_complete (.again settled last) fun _ => .same
    · next other =>
      have fresh : entries.getLast? ≠ some value := by
        intro last
        rw [last] at other
        exact other valid.clean.sameJson_self
      refine Ensures.bind (ensures_lift fun _ => .same) fun _ => Ensures.given fun link => ?_
      have rest := append_settled s session head valid settled fresh (link_any link)
      split
      · exact Ensures.bind (ensures_lift fun _ => .same) fun _ => Ensures.given fun _ => rest
      · exact rest

/-- An attempt to append anything else. -/
theorem append_invalid
    (refused : ∀ w, validateTransaction sha256 cfg value "append_service_journal" ≠ .ok w) :
    Ensures (fun t => t = s) (fun t => t = s) (appendJournal sha256 cfg value session) (fun _ _ => False)
      (fun _ t => t = s) := by
  refine Ensures.bind (ensures_lift fun _ => rfl) fun _ => Ensures.given fun _ => ?_
  refine Ensures.bind (ensures_lift fun _ => rfl) fun w => Ensures.given fun validated => ?_
  exact absurd validated (refused w)

end Store

section Progress

variable {sha256 : List UInt8 → Units} {cfg : Config} {s : Store} {value : Value} {entries : List Value}
  {headed : Nat} {t : Store}

theorem lift_ok {result : Except Failure α} (ok : result = .ok a) : lift result s = ⟨[],s,.ok a⟩ := by
  rw [ok]
  rfl

theorem inspect_ok {f : Store → Except Failure α} (ok : f s = .ok a) : inspect f s = ⟨[],s,.ok a⟩ := by
  rw [inspect,ok]

theorem serviceDirectory_ok (s : Store) :
    serviceDirectory s = ⟨if s.directory.isSome then [] else [s.made],s.made,.ok ()⟩ := by
  cases there : s.directory with
  | some files => simp [made_of_some there,serviceDirectory,inspect,there,bind,Program.bind,pure,Program.pure]
  | none => simp [made_of_none there,serviceDirectory,inspect,there,bind,Program.bind,createDirectory,perform]

theorem publish_recorded (there : s.directory = some s.files)
    (recorded : recordBytes value validator logical = .ok bytes) (found : s.files.get name = expected) :
    publish name value validator expected logical s = ⟨[s.put name bytes],s.put name bytes,.ok ()⟩ := by
  refine (bind_quiet (lift_ok recorded)).trans ?_
  simp only [publishFileAtomic,perform,there,if_pos found]
  rfl

/-- The digest gives an entry a head, and these are its bytes. -/
def Heads (sha256 : List UInt8 → Units) (cfg : Config) (value : Value) (sequence : Nat) (bytes : File) : Prop :=
  ∃ head, buildServiceJournalHead sha256 (headOf cfg value sequence) = .ok head ∧
    recordBytes head (validateServiceJournalHead sha256) "journal-head" = .ok bytes

theorem writeJournalHead_ok {sequence : Nat} (heads : Heads sha256 cfg value sequence bytes)
    (there : s.directory = some s.files) (found : s.files.get journalHead = expected.map Prod.snd) :
    writeJournalHead sha256 cfg value expected sequence s =
      ⟨[s.put journalHead bytes],s.put journalHead bytes,.ok ()⟩ := by
  obtain ⟨head,built,recorded⟩ := heads
  have directory : serviceDirectory s = ⟨[],s,.ok ()⟩ := by
    rw [serviceDirectory_ok,made_of_some there,there]
    rfl
  have made : (buildServiceJournalHead sha256 (headOf cfg value sequence)).mapError Failure.thrown = .ok head := by
    rw [built]
    rfl
  rw [writeJournalHead,bind_quiet (lift_ok made),bind_quiet directory]
  exact publish_recorded there recorded found

theorem complete_ok (held : Held sha256 cfg s entries headed) (room : s.files.size ≤ directoryEntries)
    (retained : session.retained = .ok ()) : completeJournalAppend sha256 cfg session s = ⟨[],s,.ok ()⟩ := by
  obtain ⟨head,read,-⟩ := readJournal_held held room
  exact (bind_quiet (inspect_ok read)).trans (lift_ok retained)

/-- The chain and its new entry, once both are written. -/
theorem Held.appended (held : Held sha256 cfg s entries entries.length) (valid : Valid sha256 cfg value bytes)
    (link : ∀ operation, assertJournalLink sha256 entries.getLast? value operation = .ok ())
    (safe : ((entries.length + 1 : Nat) : Int) ≤ maxSafeInteger)
    (heads : Heads sha256 cfg value (entries.length + 1) bytes') :
    Held sha256 cfg ((s.made.put (nameOf (entries.length + 1)) bytes).put journalHead bytes')
      (entries ++ [value]) (entries ++ [value]).length := by
  obtain ⟨built,fields,wrote⟩ := heads
  have length : (entries ++ [value]).length = entries.length + 1 := by simp
  obtain ⟨frozen,file⟩ := headFile valid safe (by simp : (entries ++ [value])[entries.length + 1 - 1]? = some value)
    fields wrote
  rw [← length] at file
  exact (held.made.entry valid link safe).headWritten (by omega) file

theorem step_done {v : JsValue} (ran : appendJournal sha256 cfg v.value session s = ⟨seen,t,.ok ()⟩) :
    step sha256 cfg s (.append v session none) = (t,some (.ok ())) := by
  simp only [step,ran]

theorem step_crashed (ran : appendJournal sha256 cfg v.value session s = ⟨seen,t',.ok ()⟩)
    (reached : (s :: seen)[writes]? = some t) :
    step sha256 cfg s (.append v session (some writes)) = (t,none) := by
  simp only [step,ran,reached,Option.getD_some]

/-- The rest of the store refuses nothing. -/
structure Session.Open (session : Session) : Prop where
  writable : session.writable = .ok ()
  authorised : session.authorised = .ok ()
  base : session.base = .ok ()
  retained : session.retained = .ok ()

variable {session : Session} (held : Held sha256 cfg s entries headed)
  (valid : Valid sha256 cfg value bytes) (allowed : session.Open)
include held valid allowed

/-- The head that a crash left out is written when the same value comes again. -/
theorem append_pending_ok (waiting : pendingAt entries headed = some value)
    (heads : Heads sha256 cfg value entries.length bytes') (room : s.files.size < directoryEntries) :
    appendJournal sha256 cfg value session s =
      ⟨[s.put journalHead bytes'],s.put journalHead bytes',.ok ()⟩ := by
  obtain ⟨head,read,headRead⟩ := readJournal_held held (Nat.le_of_lt room)
  obtain ⟨length,last⟩ := held.pending waiting
  have there := held.directory (List.ne_nil_of_length_pos (by omega))
  have again : Held sha256 cfg (s.put journalHead bytes') entries entries.length := by
    obtain ⟨built,fields,recorded⟩ := heads
    obtain ⟨frozen,file⟩ := headFile valid held.safe (located_last last) fields recorded
    exact held.headWritten (by omega) file
  rw [appendJournal,bind_quiet (lift_ok allowed.writable),bind_quiet (lift_ok (valid.accepted _)),
    bind_quiet (lift_ok allowed.authorised),bind_quiet (inspect_ok read)]
  simp only [waiting,valid.clean.sameJson_self,if_true,headRead.committed,← length]
  refine bind_ok (writeJournalHead_ok heads there headRead.stored.symm) ?_
  exact complete_ok again (by rw [files_put]; exact (OrderedMap.size_set_le ..).trans room) allowed.retained

omit allowed in
/-- The two writes of a linked entry and its head, and the read after them. -/
theorem write_entry_ok (settled : headed = entries.length) (read : HeadRead sha256 cfg s.files entries headed head)
    (link : ∀ operation, assertJournalLink sha256 entries.getLast? value operation = .ok ())
    (safe : ((entries.length + 1 : Nat) : Int) ≤ maxSafeInteger)
    (heads : Heads sha256 cfg value (entries.length + 1) bytes') (room : s.files.size + 2 ≤ directoryEntries)
    (retained : session.retained = .ok ()) :
    (do
      let sequence := headed + 1
      serviceDirectory
      let name ← lift (journalName sequence)
      publish name value (validateServiceTransaction sha256) none s!"journal-entry:{sequence}"
      writeJournalHead sha256 cfg value head sequence
      completeJournalAppend sha256 cfg session) s =
      ⟨(if s.directory.isSome then [] else [s.made]) ++
          [s.made.put (nameOf (entries.length + 1)) bytes,
            (s.made.put (nameOf (entries.length + 1)) bytes).put journalHead bytes'],
        (s.made.put (nameOf (entries.length + 1)) bytes).put journalHead bytes',.ok ()⟩ := by
  subst settled
  have recorded : recordBytes value (validateServiceTransaction sha256) s!"journal-entry:{entries.length + 1}" =
      .ok bytes := by
    simp only [recordBytes,orThrow_ok,except_bind_ok]
    exact ⟨value,valid.clean.cloned,(),valid.transaction,valid.clean.encoded⟩
  have unnamed : s.made.files.get (nameOf (entries.length + 1)) = none := by
    rw [files_made,OrderedMap.get_eq_none,held.names _ (nameOf_entry safe)]
    rintro ⟨i,bound,same⟩
    exact absurd (Nat.succ.inj (nameOf_injective same)) (Nat.ne_of_gt bound)
  have unchanged : (s.made.put (nameOf (entries.length + 1)) bytes).files.get journalHead = head.map Prod.snd := by
    rw [files_put,OrderedMap.get_set_ne _ _ (nameOf_ne_head safe).symm,files_made,read.stored]
  have fits : ((s.made.put (nameOf (entries.length + 1)) bytes).put journalHead bytes').files.size ≤ directoryEntries := by
    have first := OrderedMap.size_set_le (m := s.files) (nameOf (entries.length + 1)) bytes
    have second := OrderedMap.size_set_le (m := s.files.set (nameOf (entries.length + 1)) bytes) journalHead bytes'
    rw [files_put,files_put,files_made]
    omega
  have there : s.made.directory = some s.made.files := by rw [directory_made,files_made]
  refine bind_ok (serviceDirectory_ok s) ?_
  rw [bind_quiet (lift_ok (journalName_ok (Nat.succ_pos _) safe))]
  refine bind_ok (publish_recorded there recorded unnamed) (bind_ok (writeJournalHead_ok heads rfl unchanged) ?_)
  exact complete_ok (held.appended valid link safe heads) fits retained

/-- A linked entry is taken. -/
theorem append_settled_ok (settled : headed = entries.length) (fresh : entries.getLast? ≠ some value)
    (link : ∀ operation, assertJournalLink sha256 entries.getLast? value operation = .ok ())
    (safe : ((entries.length + 1 : Nat) : Int) ≤ maxSafeInteger)
    (heads : Heads sha256 cfg value (entries.length + 1) bytes') (room : s.files.size + 2 ≤ directoryEntries) :
    appendJournal sha256 cfg value session s =
      ⟨(if s.directory.isSome then [] else [s.made]) ++
          [s.made.put (nameOf (entries.length + 1)) bytes,
            (s.made.put (nameOf (entries.length + 1)) bytes).put journalHead bytes'],
        (s.made.put (nameOf (entries.length + 1)) bytes).put journalHead bytes',.ok ()⟩ := by
  obtain ⟨head,read,headRead⟩ := readJournal_held held (by omega)
  have none' : pendingAt entries headed = none := if_neg (by omega)
  have another : (entries.getLast?.any fun last => sameJson last value) = false := by
    cases last : entries.getLast? with
    | none => rfl
    | some old =>
      obtain ⟨bytes'',valid'⟩ := held.valid old (List.mem_of_getLast? last)
      refine Bool.eq_false_iff.mpr fun same => fresh ?_
      rw [last,valid'.clean.eq_of_sameJson valid.clean same]
  have writes := write_entry_ok held valid settled headRead link safe heads room allowed.retained
  rw [appendJournal,bind_quiet (lift_ok allowed.writable),bind_quiet (lift_ok (valid.accepted _)),
    bind_quiet (lift_ok allowed.authorised),bind_quiet (inspect_ok read)]
  simp only [none',another,Bool.false_eq_true,if_false,headRead.committed]
  rw [bind_quiet (lift_ok (link _))]
  split
  · rw [bind_quiet (lift_ok allowed.base)]
    exact writes
  · exact writes

end Progress

end GjcRemote.ServiceJournal
