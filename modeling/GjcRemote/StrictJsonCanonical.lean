import GjcRemote.StrictJsonRoundTrip

/-! Canonical bytes against their parser. -/
namespace GjcRemote.StrictJson

open Utf16 List

/-- A value a JavaScript caller can hold: no object carries a key twice. -/
structure JsValue where
  value : Value
  distinct : DistinctKeys value

/-- Equal JSON: arrays item by item, objects key by key, and zero without its sign. -/
inductive Same : Value → Value → Prop where
  | null : Same .null .null
  | bool (b : Bool) : Same (.bool b) (.bool b)
  | number {m n : Number} (read : readNumber m = readNumber n) : Same (.number m) (.number n)
  | string (text : Units) : Same (.string text) (.string text)
  | array {xs ys : List Value} (length : xs.length = ys.length)
      (items : ∀ (i : Nat) (x y : Value), xs[i]? = some x → ys[i]? = some y → Same x y) :
      Same (.array xs) (.array ys)
  | object {xs ys : List (Units × Value)} (keys : ∀ key, key ∈ xs.map Prod.fst ↔ key ∈ ys.map Prod.fst)
      (values : ∀ key x y, (key,x) ∈ xs → (key,y) ∈ ys → Same x y) : Same (.object xs) (.object ys)
  | other (tag : Nat) : Same (.other tag) (.other tag)

theorem Same.symm (same : Same v w) : Same w v := by
  induction same with
  | number read => exact .number read.symm
  | array length _ ih => exact .array length.symm fun i x y left right => ih i y x right left
  | object keys _ ih =>
    exact .object (fun key => (keys key).symm) fun key x y left right => ih key y x right left
  | _ => constructor

theorem Same.trans (first : Same u v) (second : Same v w) : Same u w := by
  induction first generalizing w with
  | number read => cases second with | number next => exact .number (read.trans next)
  | array length _ ih =>
    cases second with
    | array length' items' =>
      refine .array (length.trans length') fun i x z left right => ?_
      obtain ⟨bound,_⟩ := List.getElem?_eq_some_iff.mp left
      have middle := getElem?_eq_getElem (length ▸ bound)
      exact ih i x _ left middle (items' i _ z middle right)
  | object keys _ ih =>
    cases second with
    | object keys' values' =>
      refine .object (fun key => (keys key).trans (keys' key)) fun key x z left right => ?_
      obtain ⟨⟨_,y⟩,middle,rfl⟩ := mem_map.mp ((keys key).mp (mem_map.mpr ⟨_,left,rfl⟩))
      exact ih _ x y left middle (values' _ y z middle right)
  | _ => exact second

variable {value : Value}

/-- Normalizing changes nothing that JSON tells apart. -/
theorem same_normalize (distinct : DistinctKeys value) :
    Same value (normalize value) := by
  induction value using Value.induct with
  | null => exact .null
  | bool b => exact .bool b
  | string text => exact .string text
  | other tag => exact .other tag
  | number n => exact .number (by cases n <;> rfl)
  | array items ih =>
    rw [DistinctKeys,distinctItems_iff] at distinct
    rw [normalize,normalizeItems_eq]
    refine .array (length_map _).symm fun i x y left right => ?_
    rw [getElem?_map,left,Option.map_some] at right
    cases right
    have member := mem_of_getElem? left
    exact ih x member (distinct x member)
  | object entries ih =>
    rw [DistinctKeys,distinctEntries_iff] at distinct
    rw [normalize,normalizeEntries_eq]
    have perm := sortEntries_perm (entries.map fun e => (e.1,normalize e.2))
    refine .object (fun key => ?_) fun key x y left right => ?_
    · rw [(perm.map Prod.fst).mem_iff,map_map]
      rfl
    · obtain ⟨⟨_,v⟩,member,eq⟩ := mem_map.mp (perm.mem_iff.mp right)
      cases eq
      have same := inj_on_of_nodup_map distinct.1 left member rfl
      cases same
      exact ih _ left (distinct.2 _ left)

/-- What JSON does not tell apart has one normal form. -/
theorem normalize_same (same : Same v w)
    (accepted : Accepted maxDepth v depth) (distinctV : DistinctKeys v) (distinctW : DistinctKeys w) :
    normalize v = normalize w := by
  induction same generalizing depth with
  | number read => rw [normalize,normalize,read]
  | @array xs ys length items ih =>
    rw [Accepted,acceptedItems_iff] at accepted
    rw [DistinctKeys,distinctItems_iff] at distinctV distinctW
    rw [normalize,normalize,normalizeItems_eq,normalizeItems_eq]
    congr 1
    refine ext_getElem (by simp [length]) fun i left right => ?_
    simp only [length_map] at left right
    rw [getElem_map,getElem_map]
    exact ih i _ _ (getElem?_eq_getElem left) (getElem?_eq_getElem right)
      (accepted.2 _ (getElem_mem left)) (distinctV _ (getElem_mem left))
      (distinctW _ (getElem_mem right))
  | @object xs ys keys values ih =>
    rw [Accepted,acceptedEntries_iff] at accepted
    rw [DistinctKeys,distinctEntries_iff] at distinctV distinctW
    rw [normalize,normalize,normalizeEntries_eq,normalizeEntries_eq]
    have fst (entries : List (Units × Value)) :
        (entries.map fun e => (e.1,normalize e.2)).map Prod.fst = entries.map Prod.fst := by
      rw [map_map]
      rfl
    have perm : (xs.map fun e => (e.1,normalize e.2)).Perm (ys.map fun e => (e.1,normalize e.2)) := by
      refine (perm_ext_iff_of_nodup (.of_map Prod.fst (by rw [fst]; exact distinctV.1))
        (.of_map Prod.fst (by rw [fst]; exact distinctW.1))).mpr fun e => ?_
      simp only [mem_map]
      constructor
      · rintro ⟨⟨key,x⟩,left,rfl⟩
        obtain ⟨⟨_,y⟩,right,rfl⟩ := mem_map.mp ((keys key).mp (mem_map_of_mem left))
        exact ⟨_,right,Prod.ext rfl (ih _ x y left right (accepted.2 _ left).2
          (distinctV.2 _ left) (distinctW.2 _ right)).symm⟩
      · rintro ⟨⟨key,y⟩,right,rfl⟩
        obtain ⟨⟨_,x⟩,left,rfl⟩ := mem_map.mp ((keys key).mpr (mem_map_of_mem right))
        exact ⟨_,left,Prod.ext rfl (ih _ x y left right (accepted.2 _ left).2
          (distinctV.2 _ left) (distinctW.2 _ right))⟩
    rw [sortEntries_of_perm perm (by rw [fst]; exact distinctV.1)]
    intro e member
    obtain ⟨x,left,rfl⟩ := mem_map.mp member
    exact (accepted.2 _ left).1
  | _ => rfl

theorem canonicalJsonBytes_iff (value : Value) (limits : Limits) (bytes : List UInt8) :
    canonicalJsonBytes value limits = .ok bytes ↔
      Accepted limits.maxDepth value 0 ∧ size value ≤ limits.maxNodes ∧ bytes = utf8 (render value) := by
  simp only [canonicalJsonBytes,except_bind_ok,canonicalJson_iff,pure,Except.pure,Except.ok.injEq]
  constructor
  · rintro ⟨text,⟨accepted,bound,rfl⟩,rfl⟩
    exact ⟨accepted,bound,rfl⟩
  · rintro ⟨accepted,bound,rfl⟩
    exact ⟨_,⟨accepted,bound,rfl⟩,rfl⟩

/-- A spelling starts with an ASCII byte, so with no byte order mark. -/
theorem utf8_ascii_head (ascii : u < 0x80) (rest : Units) :
    ∃ b tail, utf8 (u :: rest) = b :: tail ∧ b < 0x80 := by
  have small : u.toNat < 128 := by simpa [UInt16.lt_iff_toNat_lt] using ascii
  have high : isHigh u = false := by simp only [isHigh,Bool.and_eq_false_iff,decide_eq_false_iff_not]; omega
  have low : isLow u = false := by simp only [isLow,Bool.and_eq_false_iff,decide_eq_false_iff_not]; omega
  have code : (Char.ofNat u.toNat).toNat = u.toNat := toNat_charOfNat (by omega)
  have byte : String.utf8EncodeChar (Char.ofNat u.toNat) = [UInt8.ofNat u.toNat] := by
    have value : (Char.ofNat u.toNat).val.toNat = u.toNat := code
    simp [String.utf8EncodeChar,value,show u.toNat ≤ 127 by omega]
  refine ⟨UInt8.ofNat u.toNat,utf8 rest,?_,?_⟩
  · rw [utf8,decode_plain high low,flatMap_cons,byte]
    rfl
  · rw [UInt8.lt_iff_toNat_lt,UInt8.toNat_ofNat']
    simp
    omega

variable {limits : Limits}

theorem no_bom (accepted : Accepted limits.maxDepth value 0) :
    [0xEF,0xBB,0xBF].isPrefixOf (utf8 (render value)) = false := by
  obtain ⟨u,rest,code,_,_,_,ascii⟩ := render_head _ _ _ accepted
  obtain ⟨b,tail,bytes,small⟩ := utf8_ascii_head ascii rest
  rw [code,bytes]
  have other : b ≠ 0xEF := by rintro rfl; simp at small
  simp [isPrefixOf,Ne.symm other]

theorem parseStrictJson_render (distinct : DistinctKeys value)
    (accepted : Accepted limits.maxDepth value 0) (bound : size value ≤ limits.maxNodes)
    (fits : byteLength (render value) ≤ limits.maxBytes) :
    parseStrictJson (render value) limits ⟨none⟩ = .ok (normalize value) := by
  let ctx : Context := ⟨render value,limits,⟨none⟩⟩
  have read : parseValue ctx (2 * (render value).length + 1) 0 ⟨0,render value ++ []⟩ =
      .ok (normalize value,⟨0 + size value,[]⟩) :=
    reads rfl value distinct 0 0 _ [] accepted (by simpa using bound) rfl (by simp)
  rw [append_nil] at read
  have settled : ∀ total, settle (parseValue ⟨render value,limits,⟨none⟩⟩
      (2 * (render value).length + 1) 0 ⟨0,render value⟩) total =
        .ok (normalize value,⟨0 + size value,[]⟩) := by
    rw [read]
    exact fun _ => rfl
  simp [parseStrictJson,Nat.not_lt.mpr fits,settled,bind,Except.bind,whitespace,pure,Except.pure]

/-- What an encoder wrote, the canonical parser reads. -/
theorem parseCanonicalJsonBytes_canonical (v : JsValue)
    (encoded : canonicalJsonBytes v.value limits = .ok bytes) (fits : bytes.length ≤ limits.maxBytes) :
    parseCanonicalJsonBytes bytes limits = .ok (normalize v.value) := by
  obtain ⟨accepted,bound,rfl⟩ := (canonicalJsonBytes_iff ..).mp encoded
  have decoded := utf8Decode_utf8 _ (wellFormed_render _ _ _ accepted)
  have parsed := parseStrictJson_render v.distinct accepted bound fits
  have again : canonicalJsonBytes (normalize v.value) limits = .ok (utf8 (render v.value)) :=
    (canonicalJsonBytes_iff ..).mpr ⟨(accepted_normalize ..).mpr accepted,
      by rwa [size_normalize],by rw [render_normalize]⟩
  simp [parseCanonicalJsonBytes,parseStrictJsonBytes,Nat.not_lt.mpr fits,no_bom accepted,decoded,
    parsed,again,bind,Except.bind,pure,Except.pure]

/-- What the canonical parser reads, the encoder writes back to the same bytes. -/
theorem canonicalJsonBytes_of_parse (parsed : parseCanonicalJsonBytes bytes limits = .ok value) :
    canonicalJsonBytes value limits = .ok bytes := by
  simp only [parseCanonicalJsonBytes,except_bind_ok] at parsed
  obtain ⟨read,_,canonical,encoded,rest⟩ := parsed
  by_cases same : bytes = canonical
  · simp [same,pure,Except.pure] at rest
    rw [← rest,same]
    exact encoded
  · simp [same,bind,Except.bind,throw,throwThe,MonadExceptOf.throw] at rest

/-- Values that differ never share an encoding. -/
theorem same_of_same_bytes (v w : JsValue) (left : canonicalJsonBytes v.value limits = .ok bytes)
    (right : canonicalJsonBytes w.value limits = .ok bytes) : Same v.value w.value := by
  obtain ⟨vAccepted,vBound,rfl⟩ := (canonicalJsonBytes_iff ..).mp left
  obtain ⟨wAccepted,wBound,same⟩ := (canonicalJsonBytes_iff ..).mp right
  -- the byte limit plays no part in encoding, so raise it to fit
  let roomy : Limits := {limits with maxBytes := (utf8 (render v.value)).length}
  have first : parseCanonicalJsonBytes _ roomy = _ := parseCanonicalJsonBytes_canonical v
    ((canonicalJsonBytes_iff ..).mpr ⟨vAccepted,vBound,rfl⟩) (Nat.le_refl _)
  have second : parseCanonicalJsonBytes _ roomy = _ := parseCanonicalJsonBytes_canonical w
    ((canonicalJsonBytes_iff ..).mpr ⟨wAccepted,wBound,same⟩) (Nat.le_refl _)
  have normal : normalize v.value = normalize w.value :=
    Except.ok.inj (first.symm.trans second)
  exact (normal ▸ same_normalize v.distinct).trans (same_normalize w.distinct).symm

/-- What JSON does not tell apart has one encoding. -/
theorem same_bytes (v w : JsValue) (same : Same v.value w.value)
    (encoded : canonicalJsonBytes v.value limits = .ok left)
    (encoded' : canonicalJsonBytes w.value limits = .ok right) : left = right := by
  obtain ⟨accepted,_,rfl⟩ := (canonicalJsonBytes_iff ..).mp encoded
  obtain ⟨_,_,rfl⟩ := (canonicalJsonBytes_iff ..).mp encoded'
  rw [← render_normalize v.value,← render_normalize w.value,normalize_same same accepted v.distinct w.distinct]

/-- Canonical JSON is an injective and strict encoding, under every limit set. -/
theorem canonical_json_injective_strict (limits : Limits) (bytes : List UInt8) :
    (∀ v : JsValue, canonicalJsonBytes v.value limits = .ok bytes → bytes.length ≤ limits.maxBytes →
      ∃ read, parseCanonicalJsonBytes bytes limits = .ok read ∧ Same v.value read) ∧
    (∀ v w : JsValue, canonicalJsonBytes v.value limits = .ok bytes →
      canonicalJsonBytes w.value limits = .ok bytes → Same v.value w.value) ∧
    (∀ value, parseCanonicalJsonBytes bytes limits = .ok value →
      canonicalJsonBytes value limits = .ok bytes) := by
  refine ⟨?_,fun v w left right => same_of_same_bytes v w left right,
    fun _ parsed => canonicalJsonBytes_of_parse parsed⟩
  intro v encoded fits
  exact ⟨_,parseCanonicalJsonBytes_canonical v encoded fits,same_normalize v.distinct⟩

/-- An object whose keys arrive out of order, with a negative zero inside. -/
theorem canonical_json_injective_strict_sample :
    ∃ read, parseCanonicalJsonBytes [0x7B,0x22,0x61,0x22,0x3A,0x30,0x2C,0x22,0x62,0x22,0x3A,0x5B,0x5D,0x7D]
        STRICT_JSON_LIMITS = .ok read ∧
      Same (.object [([0x62],.array []),([0x61],.number .negativeZero)]) read :=
  (canonical_json_injective_strict STRICT_JSON_LIMITS _).1
    ⟨.object [([0x62],.array []),([0x61],.number .negativeZero)],by simp [DistinctKeys,DistinctEntries,DistinctItems]⟩
    (by rfl) (by decide)

end GjcRemote.StrictJson
