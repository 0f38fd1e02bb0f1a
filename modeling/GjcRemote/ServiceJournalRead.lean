import GjcRemote.ServiceJournal

/-! What a journal directory reads back: the values that were written, under the names that
were written, in their order. -/
namespace GjcRemote.ServiceJournal

open Utf16 StrictJson Record Envelope ServiceEnvelope List Except

variable {value : Value}

theorem distinct_normalize (distinct : DistinctKeys value) :
    DistinctKeys (StrictJson.normalize value) := by
  induction value using Value.induct with
  | array items ih =>
    rw [DistinctKeys,distinctItems_iff] at distinct
    rw [StrictJson.normalize,normalizeItems_eq,DistinctKeys,distinctItems_iff]
    intro item member
    obtain ⟨original,there,rfl⟩ := mem_map.mp member
    exact ih original there (distinct original there)
  | object entries ih =>
    rw [DistinctKeys,distinctEntries_iff] at distinct
    rw [StrictJson.normalize,normalizeEntries_eq,sortEntries_map,DistinctKeys,distinctEntries_iff]
    have perm := sortEntries_perm entries
    constructor
    · rw [map_map]
      exact ((perm.map Prod.fst).nodup_iff).mpr distinct.1
    · intro e member
      obtain ⟨original,there,rfl⟩ := mem_map.mp member
      have there := perm.mem_iff.mp there
      exact ih original there (distinct.2 original there)
  | _ => exact distinct

structure Clean (value : Value) (bytes : File) : Prop where
  distinct : DistinctKeys value
  encoded : canonicalJsonBytes value JSON_LIMITS = .ok bytes
  parsed : parseCanonicalJsonBytes bytes JSON_LIMITS = .ok value

theorem Clean.cloned (clean : Clean value bytes) :
    cloneJson value = .ok value := by
  rw [cloneJson,clean.encoded]
  exact clean.parsed

theorem parse_fits {bytes : File}
    (parsed : parseCanonicalJsonBytes bytes limits = .ok value) : bytes.length ≤ limits.maxBytes := by
  simp only [parseCanonicalJsonBytes,except_bind_ok (α := Value)] at parsed
  obtain ⟨read,parsed,-⟩ := parsed
  rw [parseStrictJsonBytes] at parsed
  split at parsed
  · cases parsed
  · next fits => exact Nat.not_lt.mp fits

variable {w : Value}

/-- A clone is the normal form of its original. -/
theorem cloneJson_clean {v : JsValue} (cloned : cloneJson v.value = .ok w) :
    w = normalize v.value ∧ ∃ bytes, canonicalJsonBytes v.value JSON_LIMITS = .ok bytes ∧ Clean w bytes := by
  simp only [cloneJson,except_bind_ok] at cloned
  obtain ⟨bytes,encoded,parsed⟩ := cloned
  have normal : w = normalize v.value :=
    ok.inj (parsed.symm.trans (parseCanonicalJsonBytes_canonical v encoded (parse_fits parsed)))
  refine ⟨normal,bytes,encoded,?_,canonicalJsonBytes_of_parse parsed,parsed⟩
  rw [normal]
  exact distinct_normalize v.distinct

theorem sameJson_iff : sameJson v w ↔
    ∃ text, canonicalJson v JSON_LIMITS = .ok text ∧ canonicalJson w JSON_LIMITS = .ok text := by
  unfold sameJson
  cases canonicalJson v JSON_LIMITS with
  | error => simp
  | ok left =>
    cases canonicalJson w JSON_LIMITS with
    | error => simp
    | ok right => simp only [beq_iff_eq,ok.injEq,exists_eq_left']; exact eq_comm

/-- Values that files give back are the same JSON only when they are equal. -/
theorem Clean.eq_of_sameJson (left : Clean v bytes) (right : Clean w bytes') (same : sameJson v w) : v = w := by
  obtain ⟨text,textV,textW⟩ := sameJson_iff.mp same
  have encodedV : canonicalJsonBytes v JSON_LIMITS = .ok (utf8 text) := by rw [canonicalJsonBytes,textV]; rfl
  have encodedW : canonicalJsonBytes w JSON_LIMITS = .ok (utf8 text) := by rw [canonicalJsonBytes,textW]; rfl
  have bytesV : bytes = utf8 text := ok.inj (left.encoded.symm.trans encodedV)
  have bytesW : bytes' = utf8 text := ok.inj (right.encoded.symm.trans encodedW)
  have parsed := left.parsed
  rw [bytesV,← bytesW,right.parsed] at parsed
  exact (ok.inj parsed).symm

theorem Clean.sameJson_self (clean : Clean v bytes) : sameJson v v := by
  have encoded := clean.encoded
  simp only [canonicalJsonBytes,except_bind_ok] at encoded
  obtain ⟨text,read,-⟩ := encoded
  exact sameJson_iff.mpr ⟨text,read,read⟩

theorem orThrow_ok {attempt : Except JsError α} {failure : Failure} {a : α} :
    orThrow attempt failure = .ok a ↔ attempt = .ok a := mapError_ok

section Store

variable {sha256 : List UInt8 → Units} {cfg : Config}

structure Valid (sha256 : List UInt8 → Units) (cfg : Config) (value : Value) (bytes : File) : Prop where
  clean : Clean value bytes
  transaction : validateServiceTransaction sha256 value = .ok ()
  accepted : ∀ operation, validateTransaction sha256 cfg value operation = .ok value

theorem snapshot_ok :
    snapshot value validator operation = .ok w ↔ cloneJson value = .ok w ∧ validator w = .ok () := by
  simp only [snapshot,orThrow_ok,except_bind_ok,pure,Except.pure,Except.ok.injEq]
  constructor
  · rintro ⟨w,cloned,_,valid,rfl⟩
    exact ⟨cloned,valid⟩
  · rintro ⟨cloned,valid⟩
    exact ⟨w,cloned,(),valid,rfl⟩

/-- Validation ends in a value that a file gives back and that validates again. -/
theorem validateTransaction_valid {v : JsValue}
    (validated : validateTransaction sha256 cfg v.value operation = .ok w) :
    ∃ bytes, Valid sha256 cfg w bytes := by
  simp only [validateTransaction,except_bind_ok (α := Value),except_unit_bind_ok,snapshot_ok,orThrow_ok,
    pure,Except.pure,Except.ok.injEq] at validated
  obtain ⟨w,⟨cloned,transaction⟩,proofs,inScope,rfl⟩ := validated
  obtain ⟨-,bytes,-,clean⟩ := cloneJson_clean cloned
  refine ⟨bytes,clean,transaction,fun operation' => ?_⟩
  have inScope' : scope cfg w operation' = .ok () := by
    rw [scope,check_ok] at inScope ⊢
    exact inScope
  simp only [validateTransaction,except_bind_ok (α := Value),except_unit_bind_ok,snapshot_ok,orThrow_ok,
    pure,Except.pure,Except.ok.injEq]
  exact ⟨w,⟨clean.cloned,transaction⟩,proofs,inScope',rfl⟩

end Store

def nameOf (sequence : Nat) : Units := encode (entryName sequence)

variable {sequence : Nat}

theorem largest_width (safe : (sequence : Int) ≤ maxSafeInteger) :
    sequence < 10 ^ 16 := by
  rw [maxSafeInteger] at safe
  omega

theorem journalName_ok (positive : 1 ≤ sequence) (safe : (sequence : Int) ≤ maxSafeInteger) :
    journalName sequence = .ok (nameOf sequence) := by
  have width := PaddedDecimal.length_padded (by decide) (largest_width safe)
  simp only [journalName,checks_ok,Bool.and_eq_true,decide_eq_true_eq,width,pure,pure]
  exact ⟨⟨positive,safe⟩,rfl,rfl⟩

theorem entryName_eq (sequence : Nat) : entryName sequence =
    "entry-".toList ++ (PaddedDecimal.padded 16 sequence ++ ".json".toList) := by
  rfl

theorem nameOf_append (sequence : Nat) : nameOf sequence =
    ofString "entry-" ++ (encode (PaddedDecimal.padded 16 sequence) ++ ofString ".json") := by
  simp only [nameOf,entryName_eq,encode,flatMap_append,ofString]

theorem encode_digits (all : ∀ c ∈ digits, c.isDigit) :
    (encode digits).length = digits.length ∧ (encode digits).all isDecimal := by
  induction digits with
  | nil => exact ⟨rfl,rfl⟩
  | cons c rest ih =>
    obtain ⟨u,unit,digit,-⟩ := encodeChar_digit (all c mem_cons_self)
    obtain ⟨length,decimal⟩ := ih fun d member => all d (mem_cons_of_mem _ member)
    have head : encode (c :: rest) = u :: encode rest := by
      rw [encode,flatMap_cons,unit]
      rfl
    rw [head]
    refine ⟨by rw [length_cons,length_cons,length],?_⟩
    rw [all_cons,decimal,Bool.and_true]
    exact digit

theorem nameOf_entry (safe : (sequence : Int) ≤ maxSafeInteger) :
    JOURNAL_ENTRY (nameOf sequence) := by
  have width := PaddedDecimal.length_padded (by decide) (largest_width safe)
  obtain ⟨length,decimal⟩ := encode_digits (PaddedDecimal.padded_digits 16 sequence)
  rw [width] at length
  have start : (ofString "entry-").length = 6 := by decide
  have ending : (ofString ".json").length = 5 := by decide
  rw [nameOf_append,JOURNAL_ENTRY]
  simp only [length_append,length,start,ending]
  rw [take_left' start,drop_left' start,take_left' length]
  rw [show (ofString "entry-" ++ (encode (PaddedDecimal.padded 16 sequence) ++ ofString ".json")).drop 22 =
      ofString ".json" by
    rw [← append_assoc]
    exact drop_left' (by rw [length_append,start,length])]
  simp [decimal]

theorem nameOf_injective : Function.Injective nameOf := by
  intro m n same
  have decoded := congrArg decode same
  rw [nameOf,nameOf,decode_encode,decode_encode,entryName_eq,entryName_eq] at decoded
  have numerals := append_cancel_right (append_cancel_left decoded)
  exact PaddedDecimal.padded_injective 16 numerals

theorem nameOf_ne_head (safe : (sequence : Int) ≤ maxSafeInteger) :
    nameOf sequence ≠ journalHead := by
  intro same
  have entry := nameOf_entry safe
  rw [same] at entry
  exact absurd entry (by decide)

theorem utf8_nameOf (sequence : Nat) : utf8 (nameOf sequence) = PaddedDecimal.bytes "entry-".toList ++
      (PaddedDecimal.bytes (PaddedDecimal.padded 16 sequence) ++ PaddedDecimal.bytes ".json".toList) := by
  simp only [utf8,nameOf,decode_encode,entryName_eq,PaddedDecimal.bytes,flatMap_append]

theorem nameOf_compare {m n : Nat} (less : m < n) (safe : (n : Int) ≤ maxSafeInteger) :
    utf8Compare (nameOf m) (nameOf n) = .lt := by
  rw [utf8Compare,utf8_nameOf,utf8_nameOf]
  exact PaddedDecimal.compare_padded (by decide) less (largest_width safe) _ _

def nameLe (a b : Units) : Prop := (utf8Compare a b).isLE = true

instance : DecidableRel nameLe := fun _ _ => inferInstanceAs (Decidable (_ = true))

instance : Std.Total nameLe where
  total a b := by
    unfold nameLe utf8Compare
    rw [@Std.OrientedCmp.eq_swap _ compare _ (utf8 b)]
    cases compare (utf8 a) (utf8 b) <;> simp

instance : IsTrans Units nameLe where
  trans _ _ _ := @Std.TransCmp.isLE_trans _ compare _ _ _ _

def namesTo (count : Nat) : List Units := (List.range count).map fun i => nameOf (i + 1)

theorem namesTo_sorted {count : Nat} (safe : (count : Int) ≤ maxSafeInteger) :
    (namesTo count).Pairwise nameLe := by
  rw [namesTo,pairwise_map]
  refine pairwise_lt_range.imp_of_mem fun {i j} _ later less => ?_
  have bound := mem_range.mp later
  rw [nameLe,nameOf_compare (Nat.succ_lt_succ less) (by omega)]
  rfl

theorem namesTo_nodup (count : Nat) : (namesTo count).Nodup := by
  refine nodup_range.map ?_
  intro i j same
  exact Nat.succ.inj (nameOf_injective same)

/-- Sorting the entries of a directory gives back their order. -/
theorem sorted_names (nodup : names.Nodup) {count : Nat} (safe : (count : Int) ≤ maxSafeInteger)
    (members : ∀ name, name ∈ names ↔ ∃ i, i < count ∧ name = nameOf (i + 1)) :
    sortNames names = namesTo count := by
  have perm : (sortNames names).Perm (namesTo count) := by
    refine (perm_insertionSort nameLe names).trans ?_
    rw [perm_ext_iff_of_nodup nodup (namesTo_nodup count)]
    intro name
    rw [members,namesTo,mem_map]
    exact exists_congr fun i => by rw [mem_range,eq_comm]
  refine Perm.eq_of_pairwise ?_ (pairwise_insertionSort nameLe names) (namesTo_sorted safe) perm
  intro a b left right ab ba
  have inside (name : Units) (member : name ∈ namesTo count) : wellFormed name := by
    obtain ⟨i,-,rfl⟩ := mem_map.mp member
    exact wellFormed_encode _
  have bytes : utf8 a = utf8 b :=
    Std.LawfulEqCmp.eq_of_compare (@Std.OrientedCmp.isLE_antisymm _ compare _ _ _ ab ba)
  exact utf8_injective (inside a (perm.mem_iff.mp left)) (inside b right) bytes

end GjcRemote.ServiceJournal
