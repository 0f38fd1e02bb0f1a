import GjcRemote.Record

/-! The vocabulary of the envelopes in `shared/`: opaque identities, the fingerprint of a
record over its other members, and relations between the members of two records. SHA-256
comes from the runtime, so the digest is a parameter. -/
namespace GjcRemote.Envelope

open Utf16 StrictJson Record

/-- What `fail(message)` of an envelope throws. -/
def failure (envelope message : String) : JsError := typeError s!"{envelope}: {message}"

/-- `value ?? …` takes the other operand. -/
def isNullish : Value → Bool
  | .null | .other 0 => true
  | _ => false

/-- A value that is not one of undefined, null, false, zero and the empty string. -/
def isTruthy : Value → Bool
  | .null | .other 0 | .bool false | .number (.int 0) | .number .negativeZero | .string [] => false
  | _ => true

def isOpaqueIdentity : Value → Bool
  | .string text => text ≠ [] && (assertStrictText text "identity" (some 4096)).isOk
  | _ => false

def isNullableOpaque (value : Value) : Bool := isNull value || isOpaqueIdentity value

/-- `Number.isSafeInteger(value) && value >= 0`. -/
def isNonNegative (value : Value) : Bool := (safeInteger value).any fun n => 0 ≤ n

/-- `next === previous + 1`, both validated. -/
def isNext (next previous : Value) : Bool :=
  match safeInteger next,safeInteger previous with
  | some n,some p => n = p + 1
  | _,_ => false

def without (record : Value) (field : String) : Value :=
  match record with
  | .object entries => .object (entries.filter fun e => e.1 ≠ ofString field)
  | _ => .object []

/-- `fields.every((field) => record[field] === other[field])`. -/
def agree (record other : Value) (fields : List String) : Bool :=
  fields.all fun field => strictEqual (get record field) (get other field)

def relate (record other : Value) (pairs : List (String × String)) : Bool :=
  pairs.all fun pair => strictEqual (get record pair.1) (get other pair.2)

/-- `fields.every((field) => valid(record[field]))`. -/
def every (record : Value) (fields : List String) (valid : Value → Bool) : Bool :=
  fields.all fun field => valid (get record field)

inductive Shape where
  | null | flag (value : Bool) | number (value : Int) | text (value : String)
  | oneOf (texts : List String) | identity | nullableIdentity | hex | nullableHex
  | positive | nonNegative

def Shape.valid : Shape → Value → Bool
  | .null,value => isNull value
  | .flag expected,.bool value => value == expected
  | .flag _,_ => false
  | .number n,value => isNumber n value
  | .text expected,value => isText expected value
  | .oneOf texts,value => isOneOf texts value
  | .identity,value => isOpaqueIdentity value
  | .nullableIdentity,value => isNullableOpaque value
  | .hex,value => isHex value
  | .nullableHex,value => isNullableHex value
  | .positive,value => isGeneration value
  | .nonNegative,value => isNonNegative value

def Shape.fixed : Shape → Bool
  | .null | .flag _ | .number _ | .text _ => true
  | _ => false

def fields (record : Value) (schema : List (String × Shape)) : Bool :=
  schema.all fun e => e.2.valid (get record e.1)

/-- `if (condition) action;` -/
def whenever (condition : Bool) (action : Except JsError Unit) : Except JsError Unit :=
  if condition then action else .ok ()

section Digest

variable (sha256 : List UInt8 → Units)

def canonicalJsonHash (value : Value) : Except JsError Units := do
  let bytes ← canonicalJsonBytes value STRICT_JSON_LIMITS
  return sha256 bytes

/-- The digest of the record without its own fingerprint. -/
def fingerprint (record : Value) (field : String) : Except JsError Units :=
  canonicalJsonHash sha256 (without record field)

/-- `record[field] === fingerprint(record, field)`. -/
def assertFingerprint (record : Value) (field : String) (error : JsError) : Except JsError Unit := do
  let own ← fingerprint sha256 record field
  check (strictEqual (get record field) (.string own)) error

/-- No two values have canonical bytes that differ and a digest that does not. -/
def InjectiveOnCanonical : Prop :=
  ∀ (v w : Value) (left right : List UInt8), canonicalJsonBytes v STRICT_JSON_LIMITS = .ok left →
    canonicalJsonBytes w STRICT_JSON_LIMITS = .ok right → sha256 left = sha256 right → left = right

end Digest

theorem whenever_ok :
    whenever condition action = .ok () ↔ (condition → action = .ok ()) := by
  cases condition <;> simp [whenever]

theorem forM_ok {ε α : Type} {items : List α} {f : α → Except ε Unit} :
    items.forM f = .ok () ↔ ∀ a ∈ items, f a = .ok () := by
  induction items with
  | nil => exact ⟨fun _ _ member => absurd member (by simp),fun _ => rfl⟩
  | cons a rest ih =>
    rw [List.forall_mem_cons,← ih]
    exact except_unit_bind_ok

theorem strictEqual_same (equal : strictEqual v w) : Same v w := by
  cases v <;> cases w <;> simp_all [strictEqual]
  case null => exact .null
  case bool => exact .bool _
  case number => exact .number equal.1
  case string => exact .string _

theorem agree_same {fields : List String} (agrees : agree record other fields) (member : field ∈ fields) :
    Same (get record field) (get other field) :=
  strictEqual_same (List.all_eq_true.mp agrees field member)

theorem relate_same (relates : relate record other pairs) (member : (mine,theirs) ∈ pairs) :
    Same (get record mine) (get other theirs) :=
  strictEqual_same (List.all_eq_true.mp relates (mine,theirs) member)

theorem every_mem {fields : List String} (all : every record fields valid) (member : field ∈ fields) :
    valid (get record field) :=
  List.all_eq_true.mp all field member

theorem safeInteger_number {m : Number} :
    safeInteger (.number m) = match readNumber m with
      | .int n => if isSafeInteger (.int n) then some n else none
      | _ => none := by
  cases m <;> simp [safeInteger,readNumber,StrictJson.isSafeInteger,maxSafeInteger]

theorem safeInteger_isNumber (safe : isSafeInteger (.int n))
    (is : isNumber n value) : safeInteger value = some n := by
  cases value with
  | number m =>
    have read : readNumber m = .int n := by simpa [isNumber] using is
    rw [safeInteger_number,read]
    simp [safe]
  | _ => simp [isNumber] at is

/-- What JSON does not tell apart has the same integer. -/
theorem safeInteger_same (same : Same v w) : safeInteger v = safeInteger w := by
  cases same with
  | number read => rw [safeInteger_number,safeInteger_number,read]
  | _ => rfl

theorem same_string (same : Same v (.string text)) : v = .string text := by
  cases same
  rfl

theorem same_null (same : Same v .null) : v = .null := by
  cases same
  rfl

theorem isHex_iff : isHex v ↔ ∃ text, v = .string text ∧ isHex64 text := by
  cases v <;> simp [isHex]

theorem isNullableHex_iff : isNullableHex v ↔ v = .null ∨ isHex v := by
  rw [isNullableHex,Bool.or_eq_true,isNull_iff]

theorem isOpaqueIdentity_scalar (h : isOpaqueIdentity value) :
    isScalar value := by
  cases value <;> simp_all [isOpaqueIdentity,isScalar]

theorem isNullableOpaque_scalar (h : isNullableOpaque value) :
    isScalar value := by
  cases value <;> simp_all [isNullableOpaque,isOpaqueIdentity,isNull,isScalar]

theorem isNonNegative_scalar (h : isNonNegative value) :
    isScalar value := by
  cases value <;> simp_all [isNonNegative,safeInteger,isScalar]

theorem isNull_scalar (h : isNull value) : isScalar value := by
  rw [isNull_iff.mp h]
  rfl

theorem Shape.scalar {shape : Shape} (valid : shape.valid value) :
    isScalar value := by
  cases shape with
  | null => exact isNull_scalar valid
  | flag => cases value <;> simp_all [Shape.valid,isScalar]
  | number => exact isNumber_scalar valid
  | text => exact isText_scalar valid
  | oneOf => exact isOneOf_scalar valid
  | identity => exact isOpaqueIdentity_scalar valid
  | nullableIdentity => exact isNullableOpaque_scalar valid
  | hex => exact isHex_scalar valid
  | nullableHex => exact isNullableHex_scalar valid
  | positive => exact isGeneration_scalar valid
  | nonNegative => exact isNonNegative_scalar valid

theorem fields_mem (valid : fields record schema) (listed : (field,shape) ∈ schema) :
    shape.valid (get record field) :=
  List.all_eq_true.mp valid _ listed

theorem fields_scalar (valid : fields record schema) (listed : field ∈ schema.map Prod.fst) :
    isScalar (get record field) := by
  obtain ⟨⟨_,shape⟩,there,rfl⟩ := List.mem_map.mp listed
  exact Shape.scalar (fields_mem valid there)

theorem Shape.fixed_same {shape : Shape} (single : shape.fixed = true) {v w : Value}
    (left : shape.valid v = true) (right : shape.valid w = true) : Same v w := by
  cases shape with
  | null =>
    rw [isNull_iff.mp left,isNull_iff.mp right]
    exact .null
  | flag expected =>
    cases v <;> cases w <;> simp_all [Shape.valid]
    exact .bool _
  | number n =>
    cases v <;> cases w <;> simp_all [Shape.valid,isNumber]
    exact .number (left.trans right.symm)
  | text expected =>
    rw [isText_iff.mp left,isText_iff.mp right]
    exact .string _
  | _ => simp [Shape.fixed] at single

/-- Records of one schema share the members that have one value only. -/
theorem fields_same (left : fields v schema)
    (right : fields w schema) (listed : key ∈ (schema.filter fun e => e.2.fixed).map Prod.fst) :
    Same (get v key) (get w key) := by
  obtain ⟨⟨_,shape⟩,kept,rfl⟩ := List.mem_map.mp listed
  obtain ⟨there,fixed⟩ := List.mem_filter.mp kept
  exact Shape.fixed_same fixed (fields_mem left there) (fields_mem right there)

/-- Two records repeat the same of two others that are alike. -/
theorem relate_alike (left : relate v other pairs) (right : relate w other' pairs)
    (alike : ∀ key ∈ keys, Same (get other key) (get other' key))
    (inside : pairs.map Prod.snd ⊆ keys) (listed : key ∈ pairs.map Prod.fst) :
    Same (get v key) (get w key) := by
  obtain ⟨⟨_,theirs⟩,there,rfl⟩ := List.mem_map.mp listed
  have between := alike theirs (inside (List.mem_map_of_mem there))
  exact (relate_same left there).trans (between.trans (relate_same right there).symm)

theorem agree_alike {fields : List String} (left : agree v other fields) (right : agree w other' fields)
    (alike : ∀ key ∈ keys, Same (get other key) (get other' key)) (inside : fields ⊆ keys)
    (listed : key ∈ fields) : Same (get v key) (get w key) :=
  (agree_same left listed).trans ((alike key (inside listed)).trans (agree_same right listed).symm)

theorem isNext_iff : isNext next previous ↔
    ∃ p, safeInteger previous = some p ∧ safeInteger next = some (p + 1) := by
  unfold isNext
  cases safeInteger next <;> cases safeInteger previous <;> simp [eq_comm]

theorem ofString_inj {name other : String} (same : ofString name = ofString other) : name = other := by
  have texts := congrArg (fun units => String.ofList (decode units)) same
  simpa only [decode_ofString] using texts

theorem names_nodup {keys : List String} (distinct : keys.Nodup) : (keys.map ofString).Nodup :=
  distinct.map fun _ _ same => ofString_inj same

theorem get_without (ne : key ≠ field) :
    get (without record field) key = get record key := by
  cases record with
  | object entries =>
    have differ : ofString key ≠ ofString field := fun same => ne (ofString_inj same)
    have found : (entries.filter fun e => e.1 ≠ ofString field).find? (fun e => e.1 = ofString key) =
        entries.find? fun e => e.1 = ofString key := by
      induction entries with
      | nil => rfl
      | cons e rest ih =>
        by_cases here : e.1 = ofString key
        · have kept : e.1 ≠ ofString field := here ▸ differ
          rw [List.filter_cons,if_pos (by simpa using kept),List.find?_cons_of_pos (by simp [here]),
            List.find?_cons_of_pos (by simp [here])]
        · rw [List.find?_cons_of_neg (by simp [here]),← ih,List.filter_cons]
          split
          · rw [List.find?_cons_of_neg (by simp [here])]
          · rfl
    simp only [Record.get,without]
    rw [found]
  | _ => rfl

/-- The other members of a record with an exact key set of scalars. -/
theorem distinct_without (distinct : DistinctKeys record) (field : String) :
    DistinctKeys (without record field) := by
  cases record with
  | object entries =>
    rw [DistinctKeys,distinctEntries_iff] at distinct
    rw [without,DistinctKeys,distinctEntries_iff]
    refine ⟨distinct.1.sublist (List.filter_sublist.map _),fun e member => ?_⟩
    exact distinct.2 e (List.mem_of_mem_filter member)
  | _ => simp [without,DistinctKeys,DistinctEntries]

theorem hasOwn_without (ne : key ≠ field) (present : hasOwn record key) :
    hasOwn (without record field) key := by
  cases record with
  | object entries =>
    simp only [hasOwn,without,List.any_eq_true,decide_eq_true_eq] at present ⊢
    obtain ⟨e,member,same⟩ := present
    refine ⟨e,List.mem_filter.mpr ⟨member,?_⟩,same⟩
    simp only [ne_eq,decide_not,Bool.not_eq_true',decide_eq_false_iff_not,same]
    exact fun equal => ne (ofString_inj equal)
  | _ => simp [hasOwn] at present

theorem hasOwn_of_exact (exact' : hasExactKeys record keys) (member : key ∈ keys) :
    hasOwn record key := by
  cases record with
  | object entries =>
    simp only [hasExactKeys,Bool.and_eq_true,List.all_eq_true] at exact'
    exact exact'.2 key member
  | _ => simp [hasExactKeys] at exact'

theorem isScalar_distinct (scalar : isScalar value) : DistinctKeys value := by
  cases value <;> simp_all [isScalar,DistinctKeys]

theorem distinct_get (distinct : DistinctKeys record) (key : String) :
    DistinctKeys (get record key) := by
  cases record with
  | object entries =>
    rw [DistinctKeys,distinctEntries_iff] at distinct
    rw [Record.get]
    cases found : entries.find? fun e => decide (e.1 = ofString key) with
    | none => simp [undefined,DistinctKeys]
    | some e => exact distinct.2 e (List.mem_of_find?_eq_some found)
  | _ => simp [Record.get,undefined,DistinctKeys]

/-- A record with an exact key set whose members are JavaScript values is one. -/
theorem distinctKeys_of_members (exact' : hasExactKeys value keys) (distinct : (keys.map ofString).Nodup)
    (members : ∀ key ∈ keys, DistinctKeys (get value key)) : DistinctKeys value := by
  cases value with
  | object entries =>
    have perm := exactKeys_perm exact' distinct
    have nodup := perm.nodup_iff.mpr distinct
    rw [DistinctKeys,distinctEntries_iff]
    refine ⟨nodup,fun e member => ?_⟩
    obtain ⟨key,listed,same⟩ := List.mem_map.mp (perm.mem_iff.mp (List.mem_map_of_mem member))
    have plain := members key listed
    rwa [@get_of_mem entries key e.2 nodup (by rw [same]; exact member)] at plain
  | _ => simp [hasExactKeys] at exact'

/-- A record of an exact set of members whose fingerprint is its own. -/
structure Sealed (sha256 : List UInt8 → Units) (keys : List String) (field : String)
    (record : Value) : Prop where
  exact : hasExactKeys record keys = true
  members : ∀ key ∈ keys, DistinctKeys (get record key)
  own : ∃ digest, fingerprint sha256 record field = .ok digest ∧ get record field = .string digest

theorem Sealed.truthy (sealed' : Sealed sha256 keys field record) : isTruthy record := by
  have exact' := sealed'.exact
  cases record with
  | object => rfl
  | _ => simp [hasExactKeys] at exact'

/-- What names a sealed record by its fingerprint spells it the same way. -/
theorem Sealed.named (sealed' : Sealed sha256 keys field record) (same : Same value (get record field)) :
    value = get record field := by
  obtain ⟨digest,_,text⟩ := sealed'.own
  rw [text] at same ⊢
  exact same_string same

theorem assertFingerprint_ok (asserted : assertFingerprint sha256 record field error = .ok ()) :
    ∃ digest, fingerprint sha256 record field = .ok digest ∧ get record field = .string digest := by
  simp only [assertFingerprint,except_bind_ok,check_ok] at asserted
  obtain ⟨digest,computed,equal⟩ := asserted
  exact ⟨digest,computed,same_string (strictEqual_same equal)⟩

/-- Two sealed records with one fingerprint agree in every member. -/
theorem Sealed.same (injective : InjectiveOnCanonical sha256) (distinct : (keys.map ofString).Nodup)
    (left : Sealed sha256 keys field v) (right : Sealed sha256 keys field w)
    (equal : get v field = get w field) (member : key ∈ keys) :
    Same (get v key) (get w key) := by
  by_cases own : key = field
  · subst own
    obtain ⟨digest,_,text⟩ := left.own
    rw [← equal,text]
    exact .string _
  obtain ⟨digest,computed,text⟩ := left.own
  obtain ⟨digest',computed',text'⟩ := right.own
  have digests : digest = digest' := by
    rw [text,text'] at equal
    exact Value.string.inj equal
  subst digests
  simp only [fingerprint,canonicalJsonHash,except_bind_ok] at computed computed'
  obtain ⟨bytes,encoded,hashed⟩ := computed
  obtain ⟨bytes',encoded',hashed'⟩ := computed'
  have collide : sha256 bytes = sha256 bytes' :=
    (Except.ok.inj hashed).trans (Except.ok.inj hashed').symm
  have bytesEqual := injective _ _ _ _ encoded encoded' collide
  subst bytesEqual
  have distinctV := distinct_without (distinctKeys_of_members left.exact distinct left.members) field
  have distinctW := distinct_without (distinctKeys_of_members right.exact distinct right.members) field
  have body := same_of_same_bytes ⟨_,distinctV⟩ ⟨_,distinctW⟩ encoded encoded'
  have members := get_same distinctV distinctW body (hasOwn_without own (hasOwn_of_exact left.exact member))
  rwa [get_without own,get_without own] at members

/-- Two sealed records under fingerprints that are the same agree in every member. -/
theorem Sealed.alike (injective : InjectiveOnCanonical sha256) (distinct : (keys.map ofString).Nodup)
    (left : Sealed sha256 keys field v) (right : Sealed sha256 keys field w)
    (nameV : Same name (get v field)) (nameW : Same name' (get w field)) (names : Same name name')
    (member : key ∈ keys) : Same (get v key) (get w key) := by
  refine left.same injective distinct right ?_ member
  exact right.named (nameV.symm.trans (names.trans nameW))

/-- Records of one exact key set that agree member by member are the same. -/
theorem same_of_members (exactV : hasExactKeys v keys)
    (exactW : hasExactKeys w keys) (distinct : (keys.map ofString).Nodup)
    (members : ∀ key ∈ keys, Same (get v key) (get w key)) : Same v w := by
  cases v with
  | object xs =>
    cases w with
    | object ys =>
      have permV := exactKeys_perm exactV distinct
      have permW := exactKeys_perm exactW distinct
      refine .object (fun key => permV.mem_iff.trans permW.mem_iff.symm) ?_
      intro key x y memberX memberY
      obtain ⟨name,listed,rfl⟩ := List.mem_map.mp (permV.mem_iff.mp (List.mem_map_of_mem memberX))
      have same := members name listed
      rwa [get_of_mem (permV.nodup_iff.mpr distinct) memberX,
        get_of_mem (permW.nodup_iff.mpr distinct) memberY] at same
    | _ => exact absurd exactW (by simp [hasExactKeys])
  | _ => exact absurd exactV (by simp [hasExactKeys])

/-- Two sealed records with one fingerprint are the same record. -/
theorem Sealed.same_record (injective : InjectiveOnCanonical sha256) (distinct : (keys.map ofString).Nodup)
    (left : Sealed sha256 keys field v) (right : Sealed sha256 keys field w)
    (equal : get v field = get w field) : Same v w :=
  same_of_members left.exact right.exact distinct fun _ member =>
    left.same injective distinct right equal member

/-- The same without one member. -/
theorem same_without (exactV : hasExactKeys v keys) (exactW : hasExactKeys w keys)
    (distinct : (keys.map ofString).Nodup) (others : ∀ key ∈ keys, key ≠ field → Same (get v key) (get w key)) :
    Same (without v field) (without w field) := by
  cases v with
  | object xs =>
    cases w with
    | object ys =>
      have permV := exactKeys_perm exactV distinct
      have permW := exactKeys_perm exactW distinct
      have kept (entries : List (Units × Value)) (key : Units) :
          key ∈ (entries.filter fun e => e.1 ≠ ofString field).map Prod.fst ↔
            key ∈ entries.map Prod.fst ∧ key ≠ ofString field := by
        simp only [List.mem_map,List.mem_filter,decide_eq_true_eq]
        exact ⟨fun ⟨e,⟨there,ne⟩,same⟩ => ⟨⟨e,there,same⟩,same ▸ ne⟩,
          fun ⟨⟨e,there,same⟩,ne⟩ => ⟨e,⟨there,same ▸ ne⟩,same⟩⟩
      refine .object (fun key => ?_) fun key x y memberX memberY => ?_
      · rw [kept,kept,permV.mem_iff,permW.mem_iff]
      · obtain ⟨memberX,ne⟩ := List.mem_filter.mp memberX
        have memberY := List.mem_of_mem_filter memberY
        obtain ⟨name,listed,rfl⟩ := List.mem_map.mp (permV.mem_iff.mp (List.mem_map_of_mem memberX))
        have same := others name listed (fun equal => by simp [equal] at ne)
        rwa [get_of_mem (permV.nodup_iff.mpr distinct) memberX,
          get_of_mem (permW.nodup_iff.mpr distinct) memberY] at same
    | _ => exact absurd exactW (by simp [hasExactKeys])
  | _ => exact absurd exactV (by simp [hasExactKeys])

/-- Sealed records that agree in every other member agree in their fingerprints. -/
theorem Sealed.same_of_others (distinct : (keys.map ofString).Nodup)
    (left : Sealed sha256 keys field v) (right : Sealed sha256 keys field w)
    (others : ∀ key ∈ keys, key ≠ field → Same (get v key) (get w key)) : Same v w := by
  refine same_of_members left.exact right.exact distinct fun key listed => ?_
  by_cases own : key = field
  · subst own
    obtain ⟨digest,computed,text⟩ := left.own
    obtain ⟨digest',computed',text'⟩ := right.own
    simp only [fingerprint,canonicalJsonHash,except_bind_ok] at computed computed'
    obtain ⟨bytes,encoded,hashed⟩ := computed
    obtain ⟨bytes',encoded',hashed'⟩ := computed'
    have body := same_without left.exact right.exact distinct others
    have equal := same_bytes ⟨_,distinct_without (distinctKeys_of_members left.exact distinct left.members) key⟩
      ⟨_,distinct_without (distinctKeys_of_members right.exact distinct right.members) key⟩ body
      encoded encoded'
    subst equal
    rw [text,text',← Except.ok.inj hashed,← Except.ok.inj hashed']
    exact .string _
  · exact others key listed own

end GjcRemote.Envelope
