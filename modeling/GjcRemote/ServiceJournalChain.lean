import GjcRemote.PlainRecords
import GjcRemote.ServiceJournalRun

/-! The journal as one chain, over every run: what reading it gives, what an append does to
it, and that no entry is ever rewritten or removed. -/
namespace GjcRemote.ServiceJournal

open Utf16 StrictJson Record Envelope ServiceEnvelope Store Runs
open CrashTrace CrashTrace.Program

/-- The members in which the entries of one transaction may differ. -/
def progressKeys : List String :=
  ["phase","substep","previousJournalFingerprint","transactionFingerprint"]

theorem get_record_map {keys : List String} {members : String → Value} (listed : key ∈ keys) :
    get (record (keys.map fun key => (key,members key))) key = members key := by
  induction keys with
  | nil => cases listed
  | cons first rest ih =>
    rw [List.map_cons,get_record_cons]
    by_cases same : first = key
    · rw [if_pos same,same]
    · rw [if_neg same]
      exact ih ((List.mem_cons.mp listed).resolve_left (Ne.symm same))

def pick (value : Value) (keys : List String) : Value := record (keys.map fun key => (key,get value key))

theorem pick_keys (value : Value) (keys : List String) : hasExactKeys (pick value keys) keys := by
  rw [pick,hasExactKeys_record]
  simp only [List.length_map,decide_true,Bool.true_and,List.all_eq_true,List.any_map,List.any_eq_true,
    Function.comp,decide_eq_true_eq]
  exact fun key listed => ⟨key,listed,rfl⟩

theorem pick_distinct (distinct : DistinctKeys value)
    (apart : (keys.map ofString).Nodup) : DistinctKeys (pick value keys) := by
  refine distinctKeys_of_members (pick_keys value keys) apart fun key listed => ?_
  rw [pick,get_record_map listed]
  exact distinct_get distinct key

/-- Records whose picked members have one digest agree in each of them. -/
theorem pick_same (injective : InjectiveOnCanonical sha256)
    (distinctV : DistinctKeys v) (distinctW : DistinctKeys w) (apart : (keys.map ofString).Nodup)
    (left : canonicalJsonHash sha256 (pick v keys) = .ok digest)
    (right : canonicalJsonHash sha256 (pick w keys) = .ok digest) (listed : key ∈ keys) :
    Same (get v key) (get w key) := by
  simp only [canonicalJsonHash,except_bind_ok] at left right
  obtain ⟨bytes,encoded,hashed⟩ := left
  obtain ⟨bytes',encoded',hashed'⟩ := right
  have collide : sha256 bytes = sha256 bytes' := (Except.ok.inj hashed).trans (Except.ok.inj hashed').symm
  obtain rfl := injective _ _ _ _ encoded encoded' collide
  have pickedV := pick_distinct distinctV apart
  have pickedW := pick_distinct distinctW apart
  have members := get_same pickedV pickedW (same_of_same_bytes ⟨_,pickedV⟩ ⟨_,pickedW⟩ encoded encoded')
    (hasOwn_of_exact (pick_keys v keys) listed)
  rwa [pick,pick,get_record_map listed,get_record_map listed] at members

section Store

variable (sha256 : List UInt8 → Units) (cfg : Config)

structure Follows (previous value : Value) : Prop where
  names : get value "previousJournalFingerprint" = get previous "transactionFingerprint"
  same : sameTransaction previous value = true → ∀ key ∈ transactionKeys,key ∉ progressKeys →
    Same (get previous key) (get value key)
  other : sameTransaction previous value = false → succeeds previous value = true

structure Chain (entries : List Value) : Prop where
  valid : ∀ value ∈ entries, validateServiceTransaction sha256 value = .ok ()
  starts : ∀ value rest, entries = value :: rest → get value "previousJournalFingerprint" = .null
  follows : ∀ before previous value after, entries = before ++ previous :: value :: after →
    Follows previous value

structure Accepted (entries : List Value) : Prop where
  valid : ∀ value ∈ entries, ∃ bytes, Valid sha256 cfg value bytes
  linked : Linked sha256 entries

structure Reads (s : Store) (journal : Journal) : Prop where
  chain : Chain sha256 journal.entries
  numbered : ∀ name, JOURNAL_ENTRY name = true →
    (name ∈ s.files.keys ↔ ∃ i, i < journal.entries.length ∧ name = nameOf (i + 1))
  stored : ∀ i value, journal.entries[i]? = some value → ∃ bytes,
    s.files.get (nameOf (i + 1)) = some bytes ∧ parseCanonicalJsonBytes bytes JSON_LIMITS = .ok value
  headed : journal.committed = journal.entries.length ∨ journal.committed + 1 = journal.entries.length
  names : 0 < journal.committed → ∃ head bytes value, journal.head = some (head,bytes) ∧
    journal.entries[journal.committed - 1]? = some value ∧ agree head value headFields = true
  behind : journal.committed + 1 = journal.entries.length ↔
    ∃ name, JOURNAL_ENTRY name = true ∧ s.written.getLast? = some (.file name)
  pending : journal.pending =
    if journal.committed + 1 = journal.entries.length then journal.entries.getLast? else none

/-- What an append of a value does to the store that has this journal. -/
structure Answers (s : Store) (journal : Journal) (value : Value) (t : Store) (accepted : Prop) : Prop where
  refused : (∀ w, validateTransaction sha256 cfg value "append_service_journal" ≠ .ok w) → t = s ∧ ¬accepted
  waits : ∀ pending w, journal.pending = some pending →
    validateTransaction sha256 cfg value "append_service_journal" = .ok w → w ≠ pending → t = s ∧ ¬accepted
  completes : ∀ pending, journal.pending = some pending →
    validateTransaction sha256 cfg value "append_service_journal" = .ok pending →
    (t = s ∨ t.written = s.written ++ [.file journalHead]) ∧
      (accepted → t.written = s.written ++ [.file journalHead])
  again : ∀ last, journal.pending = none → journal.entries.getLast? = some last →
    validateTransaction sha256 cfg value "append_service_journal" = .ok last → t = s

structure Sound (s : Store) : Prop where
  reads : s.files.size ≤ directoryEntries → ∃ journal, readJournal sha256 cfg s = .ok journal ∧
    Reads sha256 s journal ∧
    ∀ value session crash, Answers sha256 cfg s journal value.value
      (step sha256 cfg s (.append value session crash)).1
      ((step sha256 cfg s (.append value session crash)).2 = some (.ok ()))
  full : directoryEntries < s.files.size →
    readJournal sha256 cfg s = .error (.store "SERVICE_INVALID" "list_service_directory" false)

variable {sha256 cfg} {s t : Store} {entries : List Value} {headed : Nat} {value : Value}

theorem constant_same (left : validateServiceTransaction sha256 v = .ok ())
    (right : validateServiceTransaction sha256 w = .ok ())
    (constant : key = "schemaVersion" ∨ key = "kind") : Same (get v key) (get w key) := by
  simp only [validateServiceTransaction,checks_ok,Bool.and_eq_true] at left right
  obtain ⟨⟨⟨⟨⟨⟨⟨⟨⟨⟨-,version⟩,kind⟩,-⟩,-⟩,-⟩,-⟩,-⟩,-⟩,-⟩,-⟩ := left.1
  obtain ⟨⟨⟨⟨⟨⟨⟨⟨⟨⟨-,version'⟩,kind'⟩,-⟩,-⟩,-⟩,-⟩,-⟩,-⟩,-⟩,-⟩ := right.1
  rcases constant with rfl | rfl
  · exact @Shape.fixed_same (.number 1) rfl _ _ version version'
  · rw [isText_iff.mp kind,isText_iff.mp kind']
    exact .string _

theorem Held.accepted (held : Held sha256 cfg s entries headed) : Accepted sha256 cfg entries :=
  ⟨held.valid,held.linked⟩

theorem Accepted.follows (accepted : Accepted sha256 cfg entries) (injective : InjectiveOnCanonical sha256)
    (whole : entries = before ++ previous :: value :: after) :
    Follows previous value := by
  obtain ⟨bytes,validV⟩ := accepted.valid previous (by rw [whole]; simp)
  obtain ⟨bytes',validW⟩ := accepted.valid value (by rw [whole]; simp)
  have linked := accepted.linked (before ++ [previous]) value after (by rw [whole]; simp) "read_service_journal"
  rw [List.getLast?_concat] at linked
  simp only [assertJournalLink,checks_ok] at linked
  obtain ⟨names,rest⟩ := linked
  have members := members_of_valid validV.transaction
  obtain ⟨own,text,-⟩ := isHex_iff.mp members.fingerprint
  constructor
  · rw [fingerprintOf,text] at names
    rw [text]
    exact same_string (strictEqual_same names)
  · intro same key listed constant
    rw [if_pos same] at rest
    simp only [except_bind_ok,mapError_ok,check_ok,beq_iff_eq] at rest
    obtain ⟨digest,left,digest',right,equal⟩ := rest
    subst equal
    by_cases identity : key ∈ identityKeys
    · exact pick_same injective validV.clean.distinct validW.clean.distinct (names_nodup (by decide)) left
        right identity
    · refine constant_same validV.transaction validW.transaction ?_
      revert key
      decide
  · intro other
    rw [other] at rest
    exact check_ok.mp rest

theorem Accepted.chain (accepted : Accepted sha256 cfg entries) (injective : InjectiveOnCanonical sha256) :
    Chain sha256 entries where
  valid := by
    intro value member
    obtain ⟨bytes,valid⟩ := accepted.valid value member
    exact valid.transaction
  starts := by
    intro value rest whole
    have linked := accepted.linked [] value rest whole "read_service_journal"
    simp only [assertJournalLink,checks_ok,List.getLast?_nil,fingerprintOf] at linked
    exact same_null (strictEqual_same linked.1)
  follows := fun _ _ _ _ whole => accepted.follows injective whole

theorem Held.reads (held : Held sha256 cfg s entries headed) (injective : InjectiveOnCanonical sha256)
    {head : Option (Value × File)} (read : HeadRead sha256 cfg s.files entries headed head) :
    Reads sha256 s ⟨head,entries,pendingAt entries headed⟩ := by
  have committed := read.committed (pendingAt entries headed)
  have atMost := held.atMost
  have atLeast := held.atLeast
  refine ⟨held.accepted.chain injective,held.names,?_,?_,?_,?_,?_⟩
  · intro i value located
    obtain ⟨bytes,valid⟩ := held.valid value (List.mem_of_getElem? located)
    exact ⟨bytes,held.stored i value bytes located valid,valid.clean.parsed⟩
  · rw [committed]
    show headed = entries.length ∨ headed + 1 = entries.length
    omega
  · rw [committed]
    intro positive
    cases there : head with
    | none => exact absurd (read.absent.mp there) (Nat.ne_of_gt positive)
    | some receipt =>
      obtain ⟨value,located,agrees⟩ := (read.names receipt there).names
      exact ⟨receipt.1,receipt.2,value,rfl,located,agrees⟩
  · rw [committed,← held.last]
    constructor
    · intro behind
      exact Nat.lt_of_lt_of_eq (Nat.lt_succ_self _) behind
    · intro open'
      exact Nat.le_antisymm open' atLeast
  · rw [committed]
    show pendingAt entries headed = if headed + 1 = entries.length then entries.getLast? else none
    rw [pendingAt]
    by_cases open' : headed < entries.length
    · rw [if_pos open',if_pos (by omega)]
    · rw [if_neg open',if_neg (by omega)]

theorem Accepts.passes (accepted : Accepts sha256 cfg s entries headed value t) :
    Passes sha256 cfg s entries headed value t := by
  cases accepted with
  | headed pending file => exact .headed pending file
  | again => exact .same
  | both settled fresh valid link safe file => exact .both settled fresh valid link safe file

/-- Each state that an append passes holds the chain, or the chain and the new entry. -/
theorem Passes.held (held : Held sha256 cfg s entries headed) (passed : Passes sha256 cfg s entries headed value t) :
    ∃ entries' headed', Held sha256 cfg t entries' headed' ∧ entries <+: entries' := by
  cases passed with
  | same => exact ⟨entries,headed,held,List.prefix_rfl⟩
  | headed pending file =>
    obtain ⟨length,-⟩ := held.pending pending
    exact ⟨entries,entries.length,held.headWritten (by omega) file,List.prefix_rfl⟩
  | made => exact ⟨entries,headed,held.made,List.prefix_rfl⟩
  | entry settled fresh valid link safe =>
    subst settled
    exact ⟨entries ++ [value],entries.length,held.made.entry valid link safe,List.prefix_append ..⟩
  | both settled fresh valid link safe file =>
    subst settled
    have length : (entries ++ [value]).length = entries.length + 1 := by simp
    rw [← length] at file
    exact ⟨entries ++ [value],_,(held.made.entry valid link safe).headWritten (by omega) file,
      List.prefix_append ..⟩

theorem Passes.pending {pending : Value} (waits : pendingAt entries headed = some pending)
    (passed : Passes sha256 cfg s entries headed value t) :
    t = s ∨ value = pending ∧ ∃ bytes, t = s.put journalHead bytes := by
  have unsettled : headed ≠ entries.length := by
    intro settled
    rw [pendingAt,if_neg (by omega)] at waits
    cases waits
  cases passed with
  | same => exact .inl rfl
  | headed own => exact .inr ⟨Option.some.inj (own.symm.trans waits),_,rfl⟩
  | made settled => exact absurd settled unsettled
  | entry settled => exact absurd settled unsettled
  | both settled => exact absurd settled unsettled

theorem Accepts.pending {pending : Value} (waits : pendingAt entries headed = some pending)
    (accepted : Accepts sha256 cfg s entries headed value t) :
    value = pending ∧ ∃ bytes, t = s.put journalHead bytes := by
  have unsettled : headed ≠ entries.length := by
    intro settled
    rw [pendingAt,if_neg (by omega)] at waits
    cases waits
  cases accepted with
  | headed own => exact ⟨Option.some.inj (own.symm.trans waits),_,rfl⟩
  | again settled => exact absurd settled unsettled
  | both settled => exact absurd settled unsettled

theorem Passes.again (settled : pendingAt entries headed = none) (last : entries.getLast? = some value)
    (passed : Passes sha256 cfg s entries headed value t) : t = s := by
  cases passed with
  | same => rfl
  | headed own => rw [settled] at own; cases own
  | made _ fresh => exact absurd last fresh
  | entry _ fresh => exact absurd last fresh
  | both _ fresh => exact absurd last fresh

/-- Where a step with an append ends, crash or not. -/
theorem step_append {failed : Failure → Store → Prop}
    (ensures : Ensures (fun t => t = s) safe (appendJournal sha256 cfg v.value session) (fun _ => after) failed)
    (start : safe s) (ends : ∀ t, after t → safe t) (gives : ∀ error t, failed error t → safe t) :
    safe (step sha256 cfg s (.append v session crash)).1 ∧
      ((step sha256 cfg s (.append v session crash)).2 = some (.ok ()) →
        after (step sha256 cfg s (.append v session crash)).1) := by
  obtain ⟨crashes,result⟩ := ensures s rfl
  have final : safe (appendJournal sha256 cfg v.value session s).state := by
    revert result
    cases (appendJournal sha256 cfg v.value session s).result with
    | ok => exact ends _
    | error error => exact gives error _
  cases crash with
  | none =>
    refine ⟨final,fun accepted => ?_⟩
    have ok : (appendJournal sha256 cfg v.value session s).result = .ok () := Option.some.inj accepted
    rw [ok] at result
    exact result
  | some writes =>
    refine ⟨?_,fun accepted => by cases accepted⟩
    simp only [step]
    cases reached : (s :: (appendJournal sha256 cfg v.value session s).seen)[writes]? with
    | none => exact final
    | some t =>
      rcases List.mem_cons.mp (List.mem_of_getElem? reached) with rfl | member
      · exact start
      · exact crashes t member

/-- A step with a transaction that is validated. -/
theorem step_valid (held : Held sha256 cfg s entries headed) (session : Session)
    (crash : Option Nat) (validated : validateTransaction sha256 cfg v.value "append_service_journal" = .ok value) :
    Passes sha256 cfg s entries headed value (step sha256 cfg s (.append v session crash)).1 ∧
      ((step sha256 cfg s (.append v session crash)).2 = some (.ok ()) →
        Accepts sha256 cfg s entries headed value (step sha256 cfg s (.append v session crash)).1) :=
  step_append (append_ensures held validated) .same (fun _ => Accepts.passes) fun _ _ passed => passed

theorem step_invalid (refused : ∀ w, validateTransaction sha256 cfg v.value "append_service_journal" ≠ .ok w) :
    (step sha256 cfg s (.append v session crash)).1 = s ∧
      (step sha256 cfg s (.append v session crash)).2 ≠ some (.ok ()) :=
  step_append (append_invalid refused) rfl (fun _ impossible => impossible.elim) fun _ _ same => same

theorem Held.answers (held : Held sha256 cfg s entries headed) (head : Option (Value × File)) (v : JsValue)
    (session : Session) (crash : Option Nat) :
    Answers sha256 cfg s ⟨head,entries,pendingAt entries headed⟩ v.value
      (step sha256 cfg s (.append v session crash)).1
      ((step sha256 cfg s (.append v session crash)).2 = some (.ok ())) where
  refused := step_invalid
  waits := by
    intro pending w waits validated other
    obtain ⟨passed,accepted⟩ := step_valid held session crash validated
    refine ⟨(passed.pending waits).resolve_right fun same => other same.1,fun ok => ?_⟩
    exact other ((accepted ok).pending waits).1
  completes := by
    intro pending waits validated
    obtain ⟨passed,accepted⟩ := step_valid held session crash validated
    constructor
    · rcases passed.pending waits with same | ⟨-,bytes,wrote⟩
      · exact .inl same
      · exact .inr (by rw [wrote,written_put])
    · intro ok
      obtain ⟨-,bytes,wrote⟩ := (accepted ok).pending waits
      rw [wrote,written_put]
  again := by
    intro last settled ends validated
    exact (step_valid held session crash validated).1.again settled ends

theorem held_new : Held sha256 cfg new [] 0 where
  valid := by simp
  linked := by simp [Linked]
  names := by simp [Store.files,new,OrderedMap.mem_keys,OrderedMap.get_empty]
  stored := by simp
  unheaded := fun _ => rfl
  head := by simp
  atMost := Nat.le_refl _
  atLeast := Nat.zero_le _
  last := by simp [new]
  existing := fun _ => rfl
  safe := by simp [maxSafeInteger]

section

variable (held : Held sha256 cfg s entries headed)
include held

/-- One event leaves the chain alone or extends it. -/
theorem step_held (event : Event) :
    ∃ entries' headed', Held sha256 cfg (step sha256 cfg s event).1 entries' headed' ∧ entries <+: entries' := by
  cases event with
  | append v session crash =>
    by_cases validated : ∃ w, validateTransaction sha256 cfg v.value "append_service_journal" = .ok w
    · obtain ⟨w,validated⟩ := validated
      exact (step_valid held session crash validated).1.held held
    · rw [(step_invalid fun w ok => validated ⟨w,ok⟩).1]
      exact ⟨entries,headed,held,List.prefix_rfl⟩
  | retain name bytes =>
    simp only [step]
    split
    · exact ⟨entries,headed,held,List.prefix_rfl⟩
    · next other =>
      simp only [Bool.or_eq_true,not_or,Bool.not_eq_true,beq_iff_eq] at other
      exact ⟨entries,headed,held.retain bytes other.1 other.2,List.prefix_rfl⟩

/-- So does a run of them. -/
theorem run_held (events : List Event) :
    ∃ entries' headed', Held sha256 cfg (run (step sha256 cfg) s events) entries' headed' ∧
      entries <+: entries' := by
  induction events generalizing s entries headed with
  | nil => exact ⟨entries,headed,held,List.prefix_rfl⟩
  | cons event rest ih =>
    obtain ⟨entries',headed',held',grows⟩ := step_held held event
    obtain ⟨final,headed'',held'',grows'⟩ := ih held'
    exact ⟨final,headed'',held'',grows.trans grows'⟩

/-- The files of a chain are those of each longer chain. -/
theorem Held.kept (held' : Held sha256 cfg t later headed') (grows : entries <+: later)
    (entry : JOURNAL_ENTRY name) (there : s.files.get name = some bytes) :
    t.files.get name = some bytes := by
  have listed : name ∈ s.files.keys := OrderedMap.mem_keys.mpr ⟨bytes,there⟩
  obtain ⟨i,bound,rfl⟩ := (held.names name entry).mp listed
  have located : entries[i]? = some entries[i] := List.getElem?_eq_getElem bound
  obtain ⟨bytes',valid⟩ := held.valid entries[i] (List.getElem_mem bound)
  have old := held.stored i _ bytes' located valid
  rw [there] at old
  rw [Option.some.inj old]
  exact held'.stored i _ bytes' (List.prefix_iff_getElem?.mp grows i bound) valid

theorem Held.sound (injective : InjectiveOnCanonical sha256) :
    Sound sha256 cfg s where
  reads := by
    intro room
    obtain ⟨head,read,headRead⟩ := readJournal_held held room
    exact ⟨_,read,held.reads injective headRead,held.answers head⟩
  full := by
    intro many
    cases there : s.directory with
    | none => simp [Store.files,there,OrderedMap.empty,OrderedMap.size] at many
    | some files =>
      have same : s.files = files := by rw [Store.files,there]; rfl
      rw [same] at many
      simp [readJournal,there,check,Nat.not_le.mpr many,bind,Except.bind]

end

/-- Over every run of appends and crashes the journal is one chain that only grows. -/
theorem journal_chain (injective : InjectiveOnCanonical sha256) (events later : List Event) :
    Sound sha256 cfg (run (step sha256 cfg) new events) ∧ ∀ name bytes, JOURNAL_ENTRY name = true →
        (run (step sha256 cfg) new events).files.get name = some bytes →
        (run (step sha256 cfg) new (events ++ later)).files.get name = some bytes := by
  obtain ⟨entries,headed,held,-⟩ := run_held (held_new : Held sha256 cfg new [] 0) events
  refine ⟨held.sound injective,fun name bytes entry there => ?_⟩
  obtain ⟨entries',headed',held',grows⟩ := run_held held later
  rw [run_append]
  exact held.kept held' grows entry there

end Store

/-- A transaction that passes its validator and has a file is valid in its scope. -/
theorem valid_of_clean
    (clean : Clean value bytes) (transaction : validateServiceTransaction sha256 value = .ok ())
    (inScope : ∀ operation, scope cfg value operation = .ok ()) : Valid sha256 cfg value bytes := by
  refine ⟨clean,transaction,fun operation => ?_⟩
  have platform : get value "platform" = .string cfg.platform := by
    have members := inScope operation
    simp only [scope,check_ok,Bool.and_eq_true] at members
    exact same_string (strictEqual_same members.1.2)
  have parts := transaction
  simp only [validateServiceTransaction,except_unit_bind_ok,platform] at parts
  obtain ⟨-,-,-,old,candidate,transition,final,-⟩ := parts
  simp only [validateTransaction,except_bind_ok (α := Value),except_unit_bind_ok,snapshot_ok,orThrow_ok,
    pure,Except.pure,Except.ok.injEq]
  exact ⟨value,⟨clean.cloned,transaction⟩,⟨old,candidate,transition,final⟩,inScope operation,rfl⟩

theorem link_same {previous : Value} (operation : String)
    (chained : strictEqual (get value "previousJournalFingerprint") (fingerprintOf (some previous)))
    (same : sameTransaction previous value) (left : transactionIdentity sha256 previous = .ok digest)
    (right : transactionIdentity sha256 value = .ok digest) :
    assertJournalLink sha256 (some previous) value operation = .ok () := by
  simp only [assertJournalLink,chained,same,left,right,check,if_true,bind,Except.bind,Except.mapError,
    beq_self_eq_true]

theorem without_own {members : List (String × Value)} (field : String) (value other : Value) :
    without (record (members ++ [(field,value)])) field = without (record (members ++ [(field,other)])) field := by
  simp [record,without]

theorem headRecord_fingerprint (value : Value) (sequence : Nat) (own : Units) :
    get (headRecord cfg value sequence own) "headFingerprint" = .string own := by
  simp only [headRecord,headOf,List.cons_append,List.nil_append,get_record_cons,String.reduceEq,if_true,if_false]

theorem assertFingerprint_own {own : Units} (digest : fingerprint sha256 head field = .ok own)
    (names : get head field = .string own) (error : JsError) : assertFingerprint sha256 head field error = .ok () := by
  rw [assertFingerprint,digest,except_bind_ok]
  exact ⟨_,rfl,check_ok.mpr (by rw [names,strictEqual,beq_self_eq_true])⟩

/-- A head whose file only has its members in another order is built, and is written as that file. -/
theorem heads_of_spelled {cfg : Config} {sequence : Nat} {own : Units} {built : Value}
    (same : built = headRecord cfg value sequence own) (clean : Clean frozen bytes)
    (encoded : canonicalJsonBytes built JSON_LIMITS = .ok bytes)
    (digest : fingerprint sha256 built "headFingerprint" = .ok own)
    (builtValid : validateServiceJournalHead sha256 built = .ok ())
    (valid : validateServiceJournalHead sha256 frozen = .ok ()) : Heads sha256 cfg value sequence bytes := by
  refine ⟨built,?_,?_⟩
  · have bare : fingerprint sha256 (record ((("schemaVersion",number 1) :: ("kind",text "service-journal-head") ::
        headOf cfg value sequence) ++ [("headFingerprint",.null)])) "headFingerprint" = .ok own := by
      rw [fingerprint,without_own _ _ (.string own),← digest,fingerprint,same,headRecord]
    simp only [buildServiceJournalHead,bare,bind,Except.bind]
    rw [same,headRecord] at builtValid
    rw [builtValid,same,headRecord]
    rfl
  · have cloned : cloneJson built = .ok frozen := by
      rw [cloneJson,encoded]
      exact clean.parsed
    simp only [recordBytes,orThrow_ok,except_bind_ok]
    exact ⟨frozen,cloned,(),valid,clean.encoded⟩
section Install

set_option maxRecDepth 100000

def trialOld : Value :=
  .object [(ascii "activation",asciiText "disabled-not-startable"),
    (ascii "applicationManifestFingerprint",.null),(ascii "disposition",asciiText "absent"),
    (ascii "manifestFingerprint",.null),
    (ascii "oldFingerprint",hexText 0x3566ebfffd4feb18d1dafa26092b49fd2dcaa5a3906ae64de615830600786142),
    (ascii "resourceProof",.null),(ascii "serviceGeneration",integer 0),
    (ascii "shawlManifestFingerprint",.null)]

def trialCandidate : Value :=
  .object [(ascii "applicationManifestFingerprint",repeated 1),
    (ascii "candidateFingerprint",hexText 0x9fd204aea2a972897d717435ef920590f16a3e48020b4d5f6575a492799a82a4),
    (ascii "compatibilityFingerprint",repeated 4),(ascii "disposition",asciiText "release"),
    (ascii "releaseSequence",integer 1),(ascii "releaseTreeFingerprint",repeated 3),
    (ascii "shawlManifestFingerprint",repeated 2)]

def trialState : Value :=
  .object [(ascii "activation",asciiText "suppressed-controller-startable"),
    (ascii "exists",.bool true),(ascii "failureActions",asciiText "none"),
    (ascii "failureActionsOnNonCrash",.bool false),(ascii "failureResetSeconds",integer 0),
    (ascii "kind",asciiText "windows-service-state"),
    (ascii "ownershipMarker",asciiText "transition"),(ascii "phase",asciiText "trial"),
    (ascii "schemaVersion",integer 1),(ascii "startType",asciiText "demand")]

def trialTransition : Value :=
  .object [(ascii "candidateFingerprint",hexText 0x9fd204aea2a972897d717435ef920590f16a3e48020b4d5f6575a492799a82a4),
    (ascii "expectedAfterResourceFingerprint",repeated 5),
    (ascii "expectedBeforeResourceFingerprint",.null),
    (ascii "oldFingerprint",hexText 0x3566ebfffd4feb18d1dafa26092b49fd2dcaa5a3906ae64de615830600786142),
    (ascii "platformResourceFingerprint",repeated 6),(ascii "platformState",trialState),
    (ascii "transitionFingerprint",hexText 0x4c108ad9a87095f66e91d2f2ebe4a34ba18b16901e7a059d67ebb9f9d1e57856)]

def trialFinal : Value :=
  .object [(ascii "activation",asciiText "enabled"),
    (ascii "applicationManifestFingerprint",repeated 1),(ascii "disposition",asciiText "stable"),
    (ascii "finalFingerprint",hexText 0xed3d105e37bc05bc1a8eddbfc6a14f773567d489f7c8695e6be3bd56d92ad228),
    (ascii "manifestFingerprint",repeated 7),(ascii "resourceProof",repeated 8),
    (ascii "serviceGeneration",integer 1),(ascii "shawlManifestFingerprint",repeated 2)]

def trialTransaction (phase : String) (previous : Value) (own : Nat) : Value :=
  .object [(ascii "architecture",asciiText "x64"),(ascii "candidate",trialCandidate),
    (ascii "component",asciiText "bot"),(ascii "final",trialFinal),
    (ascii "kind",asciiText "service-lifecycle-transaction"),(ascii "old",trialOld),
    (ascii "operation",asciiText "install"),(ascii "phase",asciiText phase),
    (ascii "platform",asciiText "win32"),(ascii "previousJournalFingerprint",previous),
    (ascii "schemaVersion",integer 1),(ascii "serviceGeneration",integer 1),
    (ascii "serviceKey",asciiText "bot"),(ascii "substep",asciiText "none"),
    (ascii "transactionFingerprint",hexText own),(ascii "transactionId",asciiText "install-1"),
    (ascii "transactionNonce",asciiText "00000000000000000000000000000000"),
    (ascii "transition",trialTransition)]

def preparedOf : Value := trialTransaction "prepared" .null
  0xfa2c28f35b7f4b45bb62e6c5535d7227a09942b716d18296bba48f57ecbe9371

def publishedOf : Value := trialTransaction "resource-published" (hexText 0xfa2c28f35b7f4b45bb62e6c5535d7227a09942b716d18296bba48f57ecbe9371)
  0x3faa9b4ec7791545c3d5cf275ea08a09b0b848794078340bd4a5385b90c645d1

def startedOf : Value := trialTransaction "trial-start-observed" (hexText 0x3faa9b4ec7791545c3d5cf275ea08a09b0b848794078340bd4a5385b90c645d1)
  0x9b476b997dc3277e5d30eca281fd322e1fee6de3de0d273944ceb9247bf1ea80

def trialHead (sequence : Int) (previous fingerprint : Value) (own : Nat) : Value :=
  .object [(ascii "architecture",asciiText "x64"),(ascii "component",asciiText "bot"),
    (ascii "headFingerprint",hexText own),(ascii "kind",asciiText "service-journal-head"),
    (ascii "platform",asciiText "win32"),(ascii "previousJournalFingerprint",previous),
    (ascii "schemaVersion",integer 1),(ascii "sequence",integer sequence),
    (ascii "serviceGeneration",integer 1),(ascii "serviceKey",asciiText "bot"),
    (ascii "transactionFingerprint",fingerprint),(ascii "transactionId",asciiText "install-1"),
    (ascii "transactionNonce",asciiText "00000000000000000000000000000000")]

def firstHead : Value := trialHead 1 .null (hexText 0xfa2c28f35b7f4b45bb62e6c5535d7227a09942b716d18296bba48f57ecbe9371)
  0x242c44d52d0a587b011f1bd88bc153f098c54b6b29c8f1244bb9d9ea882bd3f1

def secondHead : Value := trialHead 2 (hexText 0xfa2c28f35b7f4b45bb62e6c5535d7227a09942b716d18296bba48f57ecbe9371)
  (hexText 0x3faa9b4ec7791545c3d5cf275ea08a09b0b848794078340bd4a5385b90c645d1)
  0x105e0cf141605ae7a0974646df3ed977730004e8a005d92c51de37d801fa504a

/-- The records of an install on Windows, under their own digests. -/
def installRecords : List (Value × String × Nat) :=
  [(trialOld,"oldFingerprint",0x3566ebfffd4feb18d1dafa26092b49fd2dcaa5a3906ae64de615830600786142),
    (trialCandidate,"candidateFingerprint",0x9fd204aea2a972897d717435ef920590f16a3e48020b4d5f6575a492799a82a4),
    (trialTransition,"transitionFingerprint",
      0x4c108ad9a87095f66e91d2f2ebe4a34ba18b16901e7a059d67ebb9f9d1e57856),
    (trialFinal,"finalFingerprint",0xed3d105e37bc05bc1a8eddbfc6a14f773567d489f7c8695e6be3bd56d92ad228),
    (preparedOf,"transactionFingerprint",0xfa2c28f35b7f4b45bb62e6c5535d7227a09942b716d18296bba48f57ecbe9371),
    (publishedOf,"transactionFingerprint",0x3faa9b4ec7791545c3d5cf275ea08a09b0b848794078340bd4a5385b90c645d1),
    (startedOf,"transactionFingerprint",0x9b476b997dc3277e5d30eca281fd322e1fee6de3de0d273944ceb9247bf1ea80),
    (firstHead,"headFingerprint",0x242c44d52d0a587b011f1bd88bc153f098c54b6b29c8f1244bb9d9ea882bd3f1),
    (secondHead,"headFingerprint",0x105e0cf141605ae7a0974646df3ed977730004e8a005d92c51de37d801fa504a)]

/-- Records that have digests of their own, those of the install among them. -/
structure Installs (records : List (Value × String × Nat)) : Prop where
  seals : Seals records
  all : installRecords ⊆ records

def trialTemplate : Value :=
  windowsState "trial" true "transition" "demand" "none" 0 "suppressed-controller-startable"

theorem trialState_encoded : (canonicalJsonBytes trialState STRICT_JSON_LIMITS).isOk = true ∧
    (canonicalJsonBytes trialTemplate STRICT_JSON_LIMITS).isOk = true ∧
    spelled trialState = spelled trialTemplate := by
  decide +kernel

variable {value : Value}

theorem clean_of_small (small : isSmall value) : Clean value (utf8 (render value)) := by
  obtain ⟨distinct,-,encoded,parsed⟩ := @isSmall_within value small JSON_LIMITS (by decide) (by decide) (by decide)
  exact ⟨distinct,encoded,parsed⟩

theorem clean_of_all {values : List Value} (all : values.all isSmall) :
    ∀ value ∈ values, Clean value (utf8 (render value)) :=
  fun value listed => clean_of_small (List.all_eq_true.mp all value listed)

def trialValues : {values : List Value // ∀ value ∈ values, Clean value (utf8 (render value))} where
  val := [preparedOf,publishedOf,startedOf,firstHead,secondHead]
  property := clean_of_all (by decide +kernel)

theorem trial_clean (listed : value ∈ [preparedOf,publishedOf,startedOf,firstHead,secondHead]) :
    Clean value (utf8 (render value)) := trialValues.property value listed

theorem get_trial (phase : String) (previous : Value) (own : Nat) :
    get (trialTransaction phase previous own) "old" = trialOld ∧
      get (trialTransaction phase previous own) "candidate" = trialCandidate ∧
      get (trialTransaction phase previous own) "transition" = trialTransition ∧
      get (trialTransaction phase previous own) "final" = trialFinal ∧
      get (trialTransaction phase previous own) "platform" = asciiText "win32" := by
  rw [get_byCode]
  exact ⟨rfl,rfl,rfl,rfl,rfl⟩

theorem get_trialState : get trialTransition "platformState" = trialState := by
  rw [get_byCode]
  rfl

def trialScope : Config := ⟨ascii "bot",ascii "bot",ascii "win32",ascii "x64"⟩

/-- The transactions, and where they are among the records. -/
def trialTransactions : List (String × Value × Nat) :=
  [("prepared",.null,0xfa2c28f35b7f4b45bb62e6c5535d7227a09942b716d18296bba48f57ecbe9371),
    ("resource-published",hexText 0xfa2c28f35b7f4b45bb62e6c5535d7227a09942b716d18296bba48f57ecbe9371,
      0x3faa9b4ec7791545c3d5cf275ea08a09b0b848794078340bd4a5385b90c645d1),
    ("trial-start-observed",hexText 0x3faa9b4ec7791545c3d5cf275ea08a09b0b848794078340bd4a5385b90c645d1,
      0x9b476b997dc3277e5d30eca281fd322e1fee6de3de0d273944ceb9247bf1ea80)]

/-- The members that the transactions of the trial share. -/
def trialIdentity : List (String × Value) :=
  [("transactionId",asciiText "install-1"),("transactionNonce",asciiText "00000000000000000000000000000000"),
    ("operation",asciiText "install"),("component",asciiText "bot"),("serviceKey",asciiText "bot"),
    ("platform",asciiText "win32"),("architecture",asciiText "x64"),("serviceGeneration",integer 1),
    ("old",trialOld),("candidate",trialCandidate),("transition",trialTransition),("final",trialFinal)]

theorem trialIdentity_encoded : (canonicalJsonBytes (record trialIdentity) STRICT_JSON_LIMITS).isOk = true := by
  simp only [record,← unitsOf_eq]
  decide +kernel

theorem pick_trial (phase : String) (previous : Value) (own : Nat) :
    pick (trialTransaction phase previous own) ServiceJournal.identityKeys = record trialIdentity := by
  have members : ∀ pair ∈ trialIdentity, get (trialTransaction phase previous own) pair.1 = pair.2 := by
    rw [get_byCode]
    simp only [trialIdentity,List.forall_mem_cons,List.not_mem_nil,false_implies,implies_true,and_true]
    exact ⟨rfl,rfl,rfl,rfl,rfl,rfl,rfl,rfl,rfl,rfl,rfl,rfl⟩
  have keys : ServiceJournal.identityKeys = trialIdentity.map Prod.fst := rfl
  rw [pick,keys,List.map_map]
  refine congrArg record ((List.map_congr_left fun pair listed => ?_).trans (List.map_id _))
  rw [Function.comp,members pair listed]
  rfl

theorem trial_members (phase : String) (previous : Value) (own : Nat) :
    get (trialTransaction phase previous own) "transactionFingerprint" = hexText own ∧
      get (trialTransaction phase previous own) "previousJournalFingerprint" = previous := by
  rw [get_byCode]
  exact ⟨rfl,rfl⟩

theorem trial_same (phase phase' : String) (previous previous' : Value) (own own' : Nat) :
    sameTransaction (trialTransaction phase previous own) (trialTransaction phase' previous' own') := by
  simp only [sameTransaction,agree,byCode]
  rfl

section Records

variable {records : List (Value × String × Nat)}

theorem trialState_valid : validateServicePlatformState (sealing records) trialState (asciiText "win32") = .ok () := by
  obtain ⟨own,expected,same⟩ := trialState_encoded
  have template : ((lookupText PLATFORM_STATE_TEMPLATES (asciiText "win32")).bind fun templates =>
      lookupText templates (get trialState "phase")).getD .null = trialTemplate := by
    rw [get_byCode]
    rfl
  have shape : (isPlainObject trialState && (lookupText PLATFORM_STATE_TEMPLATES (asciiText "win32")).isSome) =
      true := by decide +kernel
  have names : (isPlainObject trialTemplate &&
      decide ((memberNames trialState).length = (memberNames trialTemplate).length) &&
      (memberNames trialTemplate).all fun name => name ∈ memberNames trialState) = true := by decide +kernel
  simp only [validateServicePlatformState,template,hash_spelled _ own,hash_spelled _ expected,same,shape,names,
    check,if_true,bind,Except.bind,beq_self_eq_true]

variable (installs : Installs records)
include installs

/-- Each of the records passes the check of its fingerprint. -/
theorem trial_asserted (i : Nat) (located : installRecords[i]? = some r) (error : JsError) :
    assertFingerprint (sealing records) r.1 r.2.1 error = .ok () :=
  installs.seals.asserted (installs.all (List.mem_of_getElem? located)) error

theorem trialProofs_evaluated : (validateServiceOldProof (sealing records) trialOld (asciiText "win32")).isOk = true ∧
    (validateServiceCandidateProof (sealing records) trialCandidate (asciiText "win32")).isOk = true ∧
    (validateServiceTransitionProof (sealing records) trialTransition (asciiText "win32")).isOk = true ∧
    (validateServiceFinalProof (sealing records) trialFinal (asciiText "win32")).isOk = true := by
  simp only [validateServiceOldProof,validateServiceFinalProof,validateStableProof,
    validateServiceCandidateProof,validateServiceTransitionProof,get_trialState,trialState_valid,
    trial_asserted installs 0 rfl,trial_asserted installs 1 rfl,trial_asserted installs 2 rfl,
    trial_asserted installs 3 rfl]
  simp only [hasExactKeys,every,isOneOf,byCode]
  decide +kernel

theorem trialProofs_valid : validateServiceOldProof (sealing records) trialOld (asciiText "win32") = .ok () ∧
    validateServiceCandidateProof (sealing records) trialCandidate (asciiText "win32") = .ok () ∧
    validateServiceTransitionProof (sealing records) trialTransition (asciiText "win32") = .ok () ∧
    validateServiceFinalProof (sealing records) trialFinal (asciiText "win32") = .ok () := by
  obtain ⟨old,candidate,transition,final⟩ := trialProofs_evaluated installs
  exact ⟨isOk_unit old,isOk_unit candidate,isOk_unit transition,isOk_unit final⟩

/-- Each is valid under its own fingerprint. -/
theorem trialTransaction_valid (listed : (phase,previous,own) ∈ trialTransactions) :
    validateServiceTransaction (sealing records) (trialTransaction phase previous own) = .ok () := by
  have sealed' (error : JsError) : assertFingerprint (sealing records) (trialTransaction phase previous own)
      "transactionFingerprint" error = .ok () := by
    simp only [trialTransactions,List.mem_cons,List.not_mem_nil,or_false,Prod.mk.injEq] at listed
    rcases listed with ⟨rfl,rfl,rfl⟩ | ⟨rfl,rfl,rfl⟩ | ⟨rfl,rfl,rfl⟩
    · exact trial_asserted installs 4 rfl error
    · exact trial_asserted installs 5 rfl error
    · exact trial_asserted installs 6 rfl error
  obtain ⟨old,candidate,transition,final,platform⟩ := get_trial phase previous own
  obtain ⟨oldValid,candidateValid,transitionValid,finalValid⟩ := trialProofs_valid installs
  apply isOk_unit
  simp only [validateServiceTransaction,old,candidate,transition,final,platform,oldValid,candidateValid,
    transitionValid,finalValid,sealed']
  simp only [trialTransactions,List.mem_cons,List.not_mem_nil,or_false,Prod.mk.injEq] at listed
  simp only [validateComponentAndKey,hasExactKeys,agree,isOneOf,byCode]
  rcases listed with ⟨rfl,rfl,rfl⟩ | ⟨rfl,rfl,rfl⟩ | ⟨rfl,rfl,rfl⟩
  · decide +kernel
  · decide +kernel
  · decide +kernel

theorem trial_valid (listed : (phase,previous,own) ∈ trialTransactions)
    (there : trialTransaction phase previous own ∈ [preparedOf,publishedOf,startedOf,firstHead,secondHead]) :
    Valid (sealing records) trialScope (trialTransaction phase previous own)
      (utf8 (render (trialTransaction phase previous own))) := by
  refine valid_of_clean (trial_clean there) (trialTransaction_valid installs listed) fun operation => ?_
  rw [scope,check_ok]
  simp only [byCode]
  rfl

omit installs in
/-- All transactions of the trial have one identity. -/
theorem trial_identity (sha256 : List UInt8 → Units) : ∃ digest, ∀ phase previous own,
    transactionIdentity sha256 (trialTransaction phase previous own) = .ok digest := by
  refine ⟨sha256 (spelled (record trialIdentity)),fun phase previous own => ?_⟩
  exact (congrArg (canonicalJsonHash sha256) (pick_trial phase previous own)).trans
    (hash_spelled _ trialIdentity_encoded)

omit installs in
theorem link_next (sha256 : List UInt8 → Units) {previous' : Value} (names : previous' = hexText own)
    (operation : String) :
    assertJournalLink sha256 (some (trialTransaction phase previous own))
      (trialTransaction phase' previous' own') operation = .ok () := by
  obtain ⟨digest,identity⟩ := trial_identity sha256
  refine link_same operation ?_ (trial_same ..) (identity ..) (identity ..)
  have present : isNullish (hexText own) = false := rfl
  rw [(trial_members ..).2,fingerprintOf,(trial_members ..).1,present,names]
  exact isHex_self (hexText_isHex own)

end Records

def installSealing : Sealing where
  records := installRecords
  seals := (@Sample.sound ⟨installRecords,[]⟩ ["phase","disposition","transactionFingerprint"] (by decide +kernel)
    (by decide +kernel)).seals

def installDigest : List UInt8 → Units := sealing installRecords

theorem installDigest_injective : InjectiveOnCanonical installDigest := sealing_injective (by decide)

theorem installs : Installs installRecords := ⟨installSealing.seals,List.Subset.refl _⟩

/-- The heads of the first two entries, as they are built and as their files give them back. -/
def trialHeads : List (Value × Nat × Value × Nat) :=
  [(preparedOf,1,firstHead,0x242c44d52d0a587b011f1bd88bc153f098c54b6b29c8f1244bb9d9ea882bd3f1),
    (publishedOf,2,secondHead,0x105e0cf141605ae7a0974646df3ed977730004e8a005d92c51de37d801fa504a)]

theorem heads_spelled : (trialHeads.all fun head =>
    let built := headRecord trialScope head.1 head.2.1 (hexUnits 64 head.2.2.2)
    decide ((canonicalJsonBytes built JSON_LIMITS).toOption = (canonicalJsonBytes head.2.2.1 JSON_LIMITS).toOption) &&
      decide (spelled (without built "headFingerprint") = spelled (without head.2.2.1 "headFingerprint")) &&
      (canonicalJsonBytes (without built "headFingerprint") STRICT_JSON_LIMITS).isOk) = true := by
  simp only [headRecord,headOf,record,without,← unitsOf_eq,text,byCode]
  decide +kernel

theorem trial_heads {value frozen : Value} {sequence own : Nat}
    (listed : (value,sequence,frozen,own) ∈ trialHeads) :
    Heads installDigest trialScope value sequence (utf8 (render frozen)) := by
  have evaluated := List.all_eq_true.mp heads_spelled _ listed
  simp only [Bool.and_eq_true,decide_eq_true_eq] at evaluated
  obtain ⟨⟨encoded,bare⟩,encodes⟩ := evaluated
  have file : (frozen,"headFingerprint",own) ∈ installRecords ∧
      frozen ∈ [preparedOf,publishedOf,startedOf,firstHead,secondHead] := by
    simp only [trialHeads,List.mem_cons,List.not_mem_nil,or_false,Prod.mk.injEq] at listed
    rcases listed with ⟨-,-,rfl,rfl⟩ | ⟨-,-,rfl,rfl⟩
    · simp [installRecords]
    · simp [installRecords]
  have clean := trial_clean file.2
  have own' := installs.seals.fingerprint file.1
  have digest : fingerprint installDigest (headRecord trialScope value sequence (hexUnits 64 own)) "headFingerprint" =
      .ok (hexUnits 64 own) := by
    rw [fingerprint,hash_spelled _ (installs.seals.encoded _ file.1)] at own'
    rw [fingerprint,hash_spelled _ encodes,bare]
    exact own'
  have asserted := assertFingerprint_own digest (headRecord_fingerprint value sequence (hexUnits 64 own))
  have asserted' := installs.seals.asserted file.1
  refine heads_of_spelled rfl clean ?_ digest ?_ ?_
  · rw [clean.encoded] at encoded
    cases built : canonicalJsonBytes (headRecord trialScope value sequence (hexUnits 64 own)) JSON_LIMITS with
    | error => rw [built] at encoded; cases encoded
    | ok bytes => rw [built] at encoded; exact congrArg Except.ok (Option.some.inj encoded)
  · apply isOk_unit
    simp only [validateServiceJournalHead,asserted]
    simp only [trialHeads,List.mem_cons,List.not_mem_nil,or_false,Prod.mk.injEq] at listed
    simp only [validateComponentAndKey,hasExactKeys,headRecord,headOf,record,← unitsOf_eq,text,byCode]
    rcases listed with ⟨rfl,rfl,rfl,rfl⟩ | ⟨rfl,rfl,rfl,rfl⟩
    · decide +kernel
    · decide +kernel
  · apply isOk_unit
    have stored : ∀ error, assertFingerprint installDigest frozen "headFingerprint" error = .ok () := asserted'
    simp only [validateServiceJournalHead,stored]
    simp only [trialHeads,List.mem_cons,List.not_mem_nil,or_false,Prod.mk.injEq] at listed
    simp only [validateComponentAndKey,hasExactKeys,byCode]
    rcases listed with ⟨rfl,rfl,rfl,rfl⟩ | ⟨rfl,rfl,rfl,rfl⟩
    · decide +kernel
    · decide +kernel
def silent : Session := ⟨.ok (),.ok (),.ok (),.ok ()⟩

def prepared : JsValue := ⟨preparedOf,(trial_clean (by simp)).distinct⟩

def published : JsValue := ⟨publishedOf,(trial_clean (by simp)).distinct⟩

/-- An install is prepared; a crash comes between the entry of its next step and the head of it. -/
def crashedInstall : List Event := [.append prepared silent none,.append published silent (some 1)]

def resumed : Event := .append published silent none

def afterPrepared : Store :=
  ((new.made.put (nameOf 1) (utf8 (render preparedOf))).put journalHead (utf8 (render firstHead)))

def afterCrash : Store := afterPrepared.put (nameOf 2) (utf8 (render publishedOf))

def afterInstall : Store := afterCrash.put journalHead (utf8 (render secondHead))

theorem prepared_valid : Valid installDigest trialScope preparedOf (utf8 (render preparedOf)) :=
  trial_valid installs (by simp [trialTransactions]) (by simp [preparedOf])

theorem published_valid : Valid installDigest trialScope publishedOf (utf8 (render publishedOf)) :=
  trial_valid installs (by simp [trialTransactions]) (by simp [publishedOf])

theorem prepared_link (operation : String) :
    assertJournalLink installDigest ([] : List Value).getLast? preparedOf operation = .ok () := by
  have members : get preparedOf "previousJournalFingerprint" = .null := (trial_members ..).2
  simp only [assertJournalLink,List.getLast?_nil,members]
  rfl

theorem published_link (operation : String) :
    assertJournalLink installDigest [preparedOf].getLast? publishedOf operation = .ok () :=
  link_next installDigest rfl operation

theorem first_heads : Heads installDigest trialScope preparedOf 1 (utf8 (render firstHead)) :=
  trial_heads List.mem_cons_self

theorem second_heads : Heads installDigest trialScope publishedOf 2 (utf8 (render secondHead)) :=
  trial_heads (List.mem_cons_of_mem _ List.mem_cons_self)

theorem held_prepared : Held installDigest trialScope afterPrepared [preparedOf] 1 :=
  (held_new : Held installDigest trialScope new [] 0).appended prepared_valid prepared_link (by decide) first_heads

theorem held_crash : Held installDigest trialScope afterCrash [preparedOf,publishedOf] 1 :=
  held_prepared.entry published_valid published_link (by decide)

theorem prepared_appended : step installDigest trialScope new (.append prepared silent none) =
    (afterPrepared,some (.ok ())) :=
  step_done (append_settled_ok held_new prepared_valid ⟨rfl,rfl,rfl,rfl⟩ rfl (by simp) prepared_link (by decide)
    first_heads (by decide))

theorem published_fresh : [preparedOf].getLast? ≠ some publishedOf := by
  intro same
  have phase : isText "prepared" (get preparedOf "phase") = isText "prepared" (get publishedOf "phase") := by
    rw [(Option.some.inj same : preparedOf = publishedOf)]
  simp only [byCode] at phase
  revert phase
  decide +kernel

theorem after_sizes : afterPrepared.files.size = 2 ∧ afterCrash.files.size = 3 := by
  decide +kernel

theorem published_crashed : step installDigest trialScope afterPrepared (.append published silent (some 1)) =
    (afterCrash,none) := by
  have room : afterPrepared.files.size + 2 ≤ directoryEntries := by
    rw [after_sizes.1]
    decide
  exact step_crashed (append_settled_ok held_prepared published_valid ⟨rfl,rfl,rfl,rfl⟩ rfl published_fresh
    published_link (by decide) second_heads room) rfl

theorem published_resumed : step installDigest trialScope afterCrash resumed = (afterInstall,some (.ok ())) := by
  have room : afterCrash.files.size < directoryEntries := by
    rw [after_sizes.2]
    decide
  exact step_done (append_pending_ok held_crash published_valid ⟨rfl,rfl,rfl,rfl⟩ rfl second_heads room)

theorem install_crashed : run (step installDigest trialScope) new crashedInstall = afterCrash := by
  rw [crashedInstall,run,prepared_appended,run,published_crashed,run]

theorem journal_chain_install : InjectiveOnCanonical installDigest ∧
    (Sound installDigest trialScope (run (step installDigest trialScope) new crashedInstall) ∧
      ∀ name bytes, JOURNAL_ENTRY name = true →
        (run (step installDigest trialScope) new crashedInstall).files.get name = some bytes →
        (run (step installDigest trialScope) new (crashedInstall ++ [resumed])).files.get name = some bytes) ∧
    (∃ head, readJournal installDigest trialScope (run (step installDigest trialScope) new crashedInstall) =
      .ok ⟨head,[preparedOf,publishedOf],some publishedOf⟩) ∧
    (step installDigest trialScope new (.append prepared silent none)).2 = some (.ok ()) ∧
    (run (step installDigest trialScope) new crashedInstall).written =
      [.directory,.file (nameOf 1),.file journalHead,.file (nameOf 2)] ∧
    (step installDigest trialScope (run (step installDigest trialScope) new crashedInstall) resumed).2 =
      some (.ok ()) ∧
    (run (step installDigest trialScope) new (crashedInstall ++ [resumed])).written =
      [.directory,.file (nameOf 1),.file journalHead,.file (nameOf 2),.file journalHead] := by
  refine ⟨installDigest_injective,journal_chain installDigest_injective crashedInstall [resumed],?_,?_,?_,?_,?_⟩
  · have room : afterCrash.files.size ≤ directoryEntries := by
      rw [after_sizes.2]
      decide
    obtain ⟨head,read,-⟩ := readJournal_held held_crash room
    rw [install_crashed]
    exact ⟨head,read⟩
  · rw [prepared_appended]
  · rw [install_crashed]
    rfl
  · rw [install_crashed,published_resumed]
  · rw [run_append,install_crashed,run,published_resumed,run]
    rfl
end Install

end GjcRemote.ServiceJournal
