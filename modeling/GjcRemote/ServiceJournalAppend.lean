import GjcRemote.ServiceJournalHeld

/-! What an append does to a directory that holds a chain: each state it passes holds a chain
that extends the one before. -/
namespace GjcRemote.ServiceJournal

open Utf16 StrictJson Record Envelope ServiceEnvelope Except
open List hiding head
open CrashTrace CrashTrace.Program

section Store

structure Members (value : Value) : Prop where
  keys : hasExactKeys value transactionKeys = true
  transactionId : isSafeId (get value "transactionId") = true
  transactionNonce : isNonce (get value "transactionNonce") = true
  serviceGeneration : isGeneration (get value "serviceGeneration") = true
  previous : isNullableHex (get value "previousJournalFingerprint") = true
  fingerprint : isHex (get value "transactionFingerprint") = true

theorem members_of_valid (valid : validateServiceTransaction sha256 value = .ok ()) :
    Members value := by
  simp only [validateServiceTransaction,checks_ok,Bool.and_eq_true] at valid
  obtain ⟨⟨⟨⟨⟨⟨⟨⟨⟨⟨keys,-⟩,-⟩,id⟩,nonce⟩,-⟩,generation⟩,-⟩,-⟩,previous⟩,own⟩ := valid.1
  exact ⟨keys,id,nonce,generation,previous,own⟩

theorem strictEqual_self_string {text : Units} (string : value = .string text) :
    strictEqual value value := by
  rw [string]
  simp [strictEqual]

theorem strictEqual_of_same (same : Same v w) (self : strictEqual w w) :
    strictEqual v w := by
  cases same with
  | @number m n read =>
    simp only [strictEqual,Bool.and_eq_true,beq_iff_eq] at self ⊢
    refine ⟨read,?_⟩
    rw [← safe_readNumber,read,safe_readNumber]
    exact self.2
  | array => exact absurd self (by simp [strictEqual])
  | object => exact absurd self (by simp [strictEqual])
  | _ => exact self

theorem isHex_self (hex : isHex value) : strictEqual value value := by
  obtain ⟨text,string,-⟩ := isHex_iff.mp hex
  exact strictEqual_self_string string

theorem isNullableHex_self (hex : isNullableHex value) :
    strictEqual value value := by
  rcases isNullableHex_iff.mp hex with null | hex
  · rw [null]
    rfl
  · exact isHex_self hex

theorem isSafeId_self (safe : isSafeId value) : strictEqual value value := by
  cases value with
  | string => exact strictEqual_self_string rfl
  | _ => exact absurd safe Bool.false_ne_true

theorem isNonce_self (nonce : isNonce value) : strictEqual value value := by
  cases value with
  | string => exact strictEqual_self_string rfl
  | _ => exact absurd nonce Bool.false_ne_true

theorem isGeneration_self (generation : isGeneration value) :
    strictEqual value value := by
  obtain ⟨n,integer,-⟩ := isGeneration_iff.mp generation
  cases value with
  | number m =>
    cases m with
    | int m =>
      simp only [safeInteger] at integer
      split at integer
      case isTrue safe => simp [strictEqual,safe]
      case isFalse => exact absurd integer.symm (Option.some_ne_none _)
    | negativeZero => rfl
    | other => exact absurd integer.symm (Option.some_ne_none _)
  | _ => exact absurd integer.symm (Option.some_ne_none _)

theorem Members.self (members : Members value) :
    ∀ field ∈ headFields, strictEqual (get value field) (get value field) := by
  simp only [headFields,forall_mem_cons,not_mem_nil,false_implies,implies_true,and_true]
  exact ⟨isHex_self members.fingerprint,isSafeId_self members.transactionId,
    isNonce_self members.transactionNonce,isGeneration_self members.serviceGeneration,
    isNullableHex_self members.previous⟩

theorem recordBytes_ok (recorded : recordBytes value validator logical = .ok bytes) :
    ∃ frozen, cloneJson value = .ok frozen ∧ validator frozen = .ok () ∧
      canonicalJsonBytes frozen JSON_LIMITS = .ok bytes := by
  simp only [recordBytes,orThrow_ok,except_bind_ok] at recorded
  obtain ⟨frozen,cloned,_,valid,encoded⟩ := recorded
  exact ⟨frozen,cloned,valid,encoded⟩

/-- What `#publish` writes is the file of the value that it validated. -/
theorem recordBytes_clean {v : JsValue} (recorded : recordBytes v.value validator logical = .ok bytes) :
    ∃ frozen, Clean frozen bytes ∧ validator frozen = .ok () ∧ Same v.value frozen := by
  obtain ⟨frozen,cloned,valid,encoded⟩ := recordBytes_ok recorded
  obtain ⟨normal,bytes',-,clean⟩ := cloneJson_clean cloned
  have same : bytes' = bytes := ok.inj (clean.encoded.symm.trans encoded)
  refine ⟨frozen,same ▸ clean,valid,?_⟩
  rw [normal]
  exact same_normalize v.distinct

theorem recordBytes_valid (valid : Valid sha256 cfg value bytes')
    (recorded : recordBytes value (validateServiceTransaction sha256) logical = .ok bytes) :
    bytes = bytes' := by
  obtain ⟨frozen,cloned,-,encoded⟩ := recordBytes_ok recorded
  have same : frozen = value := ok.inj (cloned.symm.trans valid.clean.cloned)
  rw [same] at encoded
  exact ok.inj (encoded.symm.trans valid.clean.encoded)

def headRecord (cfg : Config) (value : Value) (sequence : Nat) (own : Units) : Value :=
  record (("schemaVersion",number 1) :: ("kind",text "service-journal-head") ::
    headOf cfg value sequence ++ [("headFingerprint",.string own)])

theorem buildServiceJournalHead_ok {sequence : Nat}
    (built : buildServiceJournalHead sha256 (headOf cfg value sequence) = .ok head) :
    ∃ own, head = headRecord cfg value sequence own ∧ validateServiceJournalHead sha256 head = .ok () := by
  simp only [buildServiceJournalHead,except_bind_ok,pure,Except.pure,Except.ok.injEq] at built
  obtain ⟨own,-,_,valid,rfl⟩ := built
  exact ⟨own,rfl,valid⟩

theorem headRecord_keys (value : Value) (sequence : Nat) (own : Units) :
    hasExactKeys (headRecord cfg value sequence own) journalHeadKeys := by
  rw [headRecord,hasExactKeys_record]
  rfl

theorem headRecord_distinct {value : Value} (distinct : DistinctKeys value) (sequence : Nat) (own : Units) :
    DistinctKeys (headRecord cfg value sequence own) := by
  refine distinctKeys_of_members (headRecord_keys value sequence own) (names_nodup (by decide)) ?_
  simp only [journalHeadKeys,forall_mem_cons,not_mem_nil,false_implies,implies_true,and_true,
    headRecord,headOf,cons_append,nil_append,get_record_cons,String.reduceEq,if_true,if_false]
  exact ⟨trivial,trivial,trivial,trivial,trivial,trivial,trivial,distinct_get distinct _,
    distinct_get distinct _,distinct_get distinct _,distinct_get distinct _,distinct_get distinct _,trivial⟩

/-- A head repeats these members of its entry. -/
theorem headRecord_repeats (value : Value) (sequence : Nat) (own : Units) :
    ∀ field ∈ headFields, get (headRecord cfg value sequence own) field = get value field := by
  simp only [headFields,forall_mem_cons,not_mem_nil,false_implies,implies_true,
    headRecord,headOf,cons_append,nil_append,get_record_cons,String.reduceEq,if_true,if_false,
    and_self]

theorem headRecord_own (value : Value) (sequence : Nat) (own : Units) :
    get (headRecord cfg value sequence own) "component" = .string cfg.component ∧
      get (headRecord cfg value sequence own) "serviceKey" = .string cfg.serviceKey ∧
      get (headRecord cfg value sequence own) "platform" = .string cfg.platform ∧
      get (headRecord cfg value sequence own) "architecture" = .string cfg.architecture ∧
      get (headRecord cfg value sequence own) "sequence" = number sequence := by
  simp only [headRecord,headOf,cons_append,nil_append,get_record_cons,String.reduceEq,if_true,if_false,and_self]

/-- A head that was published names its entry. -/
theorem headFile (valid : Valid sha256 cfg value bytes)
    {sequence : Nat} (safe : (sequence : Int) ≤ maxSafeInteger) (located : entries[sequence - 1]? = some value)
    (built : buildServiceJournalHead sha256 (headOf cfg value sequence) = .ok head)
    (recorded : recordBytes head (validateServiceJournalHead sha256) logical = .ok bytes') :
    ∃ frozen, HeadFile sha256 cfg entries sequence frozen bytes' := by
  obtain ⟨own,rfl,-⟩ := buildServiceJournalHead_ok built
  have distinct := @headRecord_distinct cfg value valid.clean.distinct sequence own
  obtain ⟨frozen,clean,valid',same⟩ := recordBytes_clean (v := ⟨headRecord cfg value sequence own,distinct⟩) recorded
  have member (key : String) (listed : key ∈ journalHeadKeys) :
      Same (get (headRecord cfg value sequence own) key) (get frozen key) :=
    get_same distinct clean.distinct same (hasOwn_of_exact (headRecord_keys value sequence own) listed)
  obtain ⟨ownComponent,ownKey,ownPlatform,ownArchitecture,ownSequence⟩ := @headRecord_own cfg value sequence own
  refine ⟨frozen,clean,valid',fun operation => ?_,?_,value,located,?_⟩
  · have component := same_string (ownComponent ▸ (member "component" (by decide)).symm)
    have serviceKey := same_string (ownKey ▸ (member "serviceKey" (by decide)).symm)
    have platform := same_string (ownPlatform ▸ (member "platform" (by decide)).symm)
    have architecture := same_string (ownArchitecture ▸ (member "architecture" (by decide)).symm)
    simp [scope,check,component,serviceKey,platform,architecture,strictEqual]
  · have named := safeInteger_same (member "sequence" (by decide))
    have small : isSafeInteger (.int sequence) := by
      simp only [isSafeInteger,maxSafeInteger,Bool.and_eq_true]
      exact ⟨decide_eq_true (by omega),decide_eq_true safe⟩
    rw [sequenceOf,← named,ownSequence,number,safeInteger,if_pos small]
    rfl
  · have self := (members_of_valid valid.transaction).self
    refine all_eq_true.mpr fun field listed => strictEqual_of_same ?_ (self field listed)
    have inside : field ∈ journalHeadKeys := by
      revert field
      decide
    rw [← headRecord_repeats value sequence own field listed]
    exact (member field inside).symm

end Store

theorem mem_keys_set {files : OrderedMap Units File} :
    key ∈ (files.set name bytes).keys ↔ key = name ∨ key ∈ files.keys := by
  rw [OrderedMap.mem_keys,OrderedMap.mem_keys]
  by_cases same : key = name
  · simp [same]
  · simp [OrderedMap.get_set_ne files bytes same,same]

def Store.put (s : Store) (name : Units) (bytes : File) : Store :=
  ⟨some (s.files.set name bytes),s.written ++ [.file name]⟩

def Store.made (s : Store) : Store :=
  if s.directory.isSome then s else ⟨some .empty,s.written ++ [.directory]⟩

@[simp] theorem files_put (s : Store) (name : Units) (bytes : File) :
    (s.put name bytes).files = s.files.set name bytes := rfl

@[simp] theorem written_put (s : Store) (name : Units) (bytes : File) :
    (s.put name bytes).written = s.written ++ [.file name] := rfl

theorem made_of_some {s : Store} (there : s.directory = some files) :
    s.made = s := by
  rw [Store.made,there]
  rfl

theorem made_of_none {s : Store} (absent : s.directory = none) :
    s.made = ⟨some .empty,s.written ++ [.directory]⟩ := by
  rw [Store.made,absent]
  rfl

@[simp] theorem files_made (s : Store) : s.made.files = s.files := by
  cases there : s.directory with
  | some files => rw [made_of_some there]
  | none =>
    rw [made_of_none there,Store.files,Store.files,there]
    rfl

theorem directory_made (s : Store) : s.made.directory = some s.files := by
  cases there : s.directory with
  | some files => rw [made_of_some there,Store.files,there]; rfl
  | none => rw [made_of_none there,Store.files,there]; rfl

section Store

theorem Held.made (held : Held sha256 cfg s entries headed) : Held sha256 cfg s.made entries headed := by
  cases there : s.directory with
  | some files => rwa [made_of_some there]
  | none =>
    have none' := held.existing there
    have atMost := held.atMost
    have files := files_made s
    refine ⟨held.valid,held.linked,by rw [files]; exact held.names,by rw [files]; exact held.stored,
      by rw [files]; exact held.unheaded,by rw [files]; exact held.head,atMost,held.atLeast,?_,
      fun _ => none',held.safe⟩
    rw [none'] at atMost ⊢
    constructor
    · intro open'
      exact absurd open' (by simp)
    · rintro ⟨name,-,last⟩
      rw [made_of_none there,getLast?_append] at last
      cases last

theorem Linked.append (linked : Linked sha256 entries)
    (link : ∀ operation, assertJournalLink sha256 entries.getLast? value operation = .ok ()) :
    Linked sha256 (entries ++ [value]) := by
  intro before other after whole
  rcases eq_nil_or_concat after with none' | ⟨init,last,rfl⟩
  · subst none'
    obtain ⟨same,single⟩ := append_inj' whole rfl
    cases single
    rw [← same]
    exact link
  · have split : entries ++ [value] = (before ++ other :: init) ++ [last] := by
      rw [whole,append_assoc,cons_append,concat_eq_append]
    obtain ⟨same,-⟩ := append_inj' split rfl
    exact linked before other init same

theorem HeadFile.append {sequence : Nat}
    (file : HeadFile sha256 cfg entries sequence head bytes) (value : Value) :
    HeadFile sha256 cfg (entries ++ [value]) sequence head bytes := by
  obtain ⟨named,located,agrees⟩ := file.names
  obtain ⟨bound,-⟩ := List.getElem?_eq_some_iff.mp located
  exact ⟨file.clean,file.valid,file.inScope,file.numbered,named,
    by rw [List.getElem?_append_left bound]; exact located,agrees⟩

/-- The next entry is written. -/
theorem Held.entry (held : Held sha256 cfg s entries entries.length) (valid : Valid sha256 cfg value bytes)
    (link : ∀ operation, assertJournalLink sha256 entries.getLast? value operation = .ok ())
    (safe : ((entries.length + 1 : Nat) : Int) ≤ maxSafeInteger) :
    Held sha256 cfg (s.put (nameOf (entries.length + 1)) bytes) (entries ++ [value]) entries.length where
  valid := by
    intro other member
    rcases mem_append.mp member with old | new
    · exact held.valid other old
    · rw [mem_singleton.mp new]
      exact ⟨bytes,valid⟩
  linked := held.linked.append link
  names := by
    intro name entry
    rw [files_put,mem_keys_set,held.names name entry,length_append,length_singleton]
    constructor
    · rintro (rfl | ⟨i,bound,rfl⟩)
      · exact ⟨entries.length,Nat.lt_succ_self _,rfl⟩
      · exact ⟨i,Nat.lt_succ_of_lt bound,rfl⟩
    · rintro ⟨i,bound,rfl⟩
      rcases Nat.lt_succ_iff_lt_or_eq.mp bound with old | rfl
      · exact .inr ⟨i,old,rfl⟩
      · exact .inl rfl
  stored := by
    intro i other bytes' located valid'
    rw [files_put]
    by_cases last : i = entries.length
    · subst last
      rw [List.getElem?_concat_length] at located
      cases located
      rw [OrderedMap.get_set_self,valid.bytes_eq valid']
    · have apart : nameOf (i + 1) ≠ nameOf (entries.length + 1) := fun same =>
        last (Nat.succ.inj (nameOf_injective same))
      obtain ⟨bound,-⟩ := List.getElem?_eq_some_iff.mp located
      rw [length_append,length_singleton] at bound
      rw [List.getElem?_append_left (by omega)] at located
      rw [OrderedMap.get_set_ne _ _ apart]
      exact held.stored i other bytes' located valid'
  unheaded := by
    intro unheaded
    rw [files_put,OrderedMap.get_set_ne _ _ (nameOf_ne_head safe).symm]
    exact held.unheaded unheaded
  head := by
    intro positive
    obtain ⟨head,bytes',file,there⟩ := held.head positive
    refine ⟨head,bytes',file.append value,?_⟩
    rw [files_put,OrderedMap.get_set_ne _ _ (nameOf_ne_head safe).symm]
    exact there
  atMost := by rw [length_append]; exact Nat.le_add_right _ _
  atLeast := by rw [length_append,length_singleton]
  last := by
    rw [written_put,List.getLast?_concat,length_append,length_singleton]
    exact ⟨fun _ => ⟨_,nameOf_entry safe,rfl⟩,fun _ => Nat.lt_succ_self _⟩
  existing := by
    intro absent
    cases absent
  safe := by rw [length_append,length_singleton]; exact safe

/-- The head of the last entry is written. -/
theorem Held.headWritten (held : Held sha256 cfg s entries headed) (nonempty : 0 < entries.length)
    {head : Value} (file : HeadFile sha256 cfg entries entries.length head bytes) :
    Held sha256 cfg (s.put journalHead bytes) entries entries.length where
  valid := held.valid
  linked := held.linked
  names := by
    intro name entry
    have apart : name ≠ journalHead := by
      rintro rfl
      exact absurd entry (by decide)
    rw [files_put,mem_keys_set,held.names name entry]
    exact ⟨fun there => there.resolve_left apart,.inr⟩
  stored := by
    intro i value bytes' located valid
    obtain ⟨bound,-⟩ := List.getElem?_eq_some_iff.mp located
    have safe := held.safe
    rw [files_put,OrderedMap.get_set_ne _ _ (nameOf_ne_head (by omega))]
    exact held.stored i value bytes' located valid
  unheaded := fun none' => absurd none' (Nat.ne_of_gt nonempty)
  head := by
    intro _
    refine ⟨head,bytes,file,?_⟩
    rw [files_put,OrderedMap.get_set_self]
  atMost := Nat.le_refl _
  atLeast := Nat.le_succ _
  last := by
    rw [written_put,getLast?_concat]
    constructor
    · intro open'
      exact absurd open' (Nat.lt_irrefl _)
    · rintro ⟨name,entry,same⟩
      cases same
      exact absurd entry (by decide)
  existing := by
    intro absent
    cases absent
  safe := held.safe

/-- Another file leaves the chain alone. -/
theorem Held.retain (held : Held sha256 cfg s entries headed) (bytes : File)
    (other : JOURNAL_ENTRY name = false) (apart : name ≠ journalHead) :
    Held sha256 cfg (s.retain name bytes) entries headed := by
  cases there : s.directory with
  | none =>
    have same : s.retain name bytes = s := by rw [Store.retain,there,Option.map_none,← there]
    rwa [same]
  | some files =>
    have old : s.files = files := by rw [Store.files,there]; rfl
    have new : (s.retain name bytes).files = s.files.set name bytes := by
      rw [old,Store.retain,there]
      rfl
    refine ⟨held.valid,held.linked,?_,?_,?_,?_,held.atMost,held.atLeast,held.last,fun absent => ?_,held.safe⟩
    · intro key entry
      have differ : key ≠ name := by
        rintro rfl
        rw [other] at entry
        cases entry
      rw [new,mem_keys_set,held.names key entry]
      exact ⟨fun inside => inside.resolve_left differ,.inr⟩
    · intro i value bytes' located valid
      obtain ⟨bound,-⟩ := List.getElem?_eq_some_iff.mp located
      have safe := held.safe
      have differ : nameOf (i + 1) ≠ name := by
        rintro rfl
        rw [nameOf_entry (by omega)] at other
        cases other
      rw [new,OrderedMap.get_set_ne _ _ differ]
      exact held.stored i value bytes' located valid
    · intro unheaded
      rw [new,OrderedMap.get_set_ne _ _ apart.symm]
      exact held.unheaded unheaded
    · intro positive
      obtain ⟨head,bytes',file,inside⟩ := held.head positive
      refine ⟨head,bytes',file,?_⟩
      rw [new,OrderedMap.get_set_ne _ _ apart.symm]
      exact inside
    · rw [Store.retain,there] at absent
      cases absent

end Store

end GjcRemote.ServiceJournal
