import GjcRemote.MappingEnvelope
import GjcRemote.OrderedMap
import GjcRemote.PathNames

/-! The HOST_TOKENS document of `shared/mapping-envelope.js` and the fingerprint of the hosts it lists. -/
namespace GjcRemote.HostTokens

open Utf16 StrictJson Record Envelope MappingEnvelope List

def MAX_HOST_TOKENS_BYTES : Nat := 1024 * 1024

/-- What a caller passes: a string, its bytes, or a value that is neither. -/
inductive Input where
  | text (units : Units)
  | buffer (raw : List UInt8)
  | other

def bytes (value : Input) (name : String) : Except JsError (List UInt8) :=
  match value with
  | .text units => .ok (utf8 units)
  | .buffer raw => .ok raw
  | .other => .error (typeError s!"{name} must be bytes")

/-- One line: the host up to the first separator, and the token behind it. -/
def parseEntry (entry : Units) : Except JsError (Units × Units) :=
  match entry.findIdx? fun u => u == 0x3D with
  | none | some 0 => .error (syntaxError "HOST_TOKENS entries require hostId=token")
  | some separator =>
    let hostId := entry.take separator
    let token := entry.drop (separator + 1)
    if 128 < byteLength hostId || 128 < hostId.length || !validText (.string hostId) 128 ||
        hostId.contains 0x3D || !isTrimmed hostId then
      .error (syntaxError "invalid managed host ID")
    else if 4096 < byteLength token || token.length == 0 || token.any (fun u => [0x0,0xA,0xD].contains u) then
      .error (syntaxError "invalid managed host token")
    else if (assertStrictText token "managed host token" (some 4096)).isOk then .ok (hostId,token)
    else .error (syntaxError "invalid managed host token")

def readEntries : List Units → OrderedMap Units Units → Except JsError (OrderedMap Units Units)
  | [],tokens => .ok tokens
  | entry :: rest,tokens => do
    let (hostId,token) ← parseEntry entry
    if hostId ∈ tokens.keys then throw (syntaxError "duplicate managed host ID")
    else readEntries rest (tokens.set hostId token)

def linesOf (text : Units) : List Units :=
  if text.getLast? = some 0xA then text.dropLast.splitOn 0xA else text.splitOn 0xA

def parseManagedHostTokens (input : Input) : Except JsError (OrderedMap Units Units) := do
  let raw ← bytes input "HOST_TOKENS"
  check (raw.length ≤ MAX_HOST_TOKENS_BYTES) (rangeError "HOST_TOKENS exceeds 1 MiB")
  check (!([0xEF,0xBB,0xBF].isPrefixOf raw)) (syntaxError "HOST_TOKENS must not contain a BOM")
  match utf8Decode raw with
  | none => throw (syntaxError "HOST_TOKENS is not valid UTF-8")
  | some text =>
    check (text ≠ []) (syntaxError "HOST_TOKENS requires at least one entry")
    check (!text.contains 0xD) (syntaxError "HOST_TOKENS must use LF only")
    readEntries (linesOf text) .empty

variable (hostIds : List Units)

def sortIds : List Units :=
  hostIds.insertionSort fun a b => (utf8Compare a b).isLE

/-- The JSON built by hand. `map` also passes an index and the array to `JSON.stringify`, which takes
neither as a replacer or a gap. -/
def hostSetJson : Units :=
  ofString "\x7b\"encoding\":\"utf-8\",\"hostIds\":[" ++ [0x2C].intercalate (hostIds.map stringifyText) ++
    ofString "],\"schemaVersion\":1\x7d"

variable (sha256 : List UInt8 → Units)

/-- Of a parsed document. -/
def hostSetFingerprint (tokens : OrderedMap Units Units) : Units :=
  sha256 (utf8 (hostSetJson (sortIds tokens.keys)))

def managedHostSetFingerprint (input : Input) : Except JsError Units := do
  let tokens ← parseManagedHostTokens input
  return hostSetFingerprint sha256 tokens

def spell (entry : Units × Units) : Units := entry.1 ++ 0x3D :: entry.2

/-- A text that lists these hosts and tokens, a line each and no other line. -/
def Lists (text : Units) (entries : List (Units × Units)) : Prop :=
  (text = [0xA].intercalate (entries.map spell) ∨ text = [0xA].intercalate (entries.map spell) ++ [0xA]) ∧
    ∀ entry ∈ entries, 0x3D ∉ entry.1 ∧ 0xA ∉ spell entry

theorem strictUnits_of_validText (valid : validText (.string text) limit) : StrictUnits text := by
  obtain ⟨_,checked⟩ := Bool.and_eq_true_iff.mp valid
  rw [assertStrictText] at checked
  split at checked
  · cases checked
  · cases scan : checkText "text" (fun _ => false) text with
    | error _ => rw [scan] at checked; cases checked
    | ok _ => exact strictUnits_of_checkText scan

theorem parseEntry_ok (parsed : parseEntry entry = .ok (hostId,token)) :
    entry = spell (hostId,token) ∧ 0x3D ∉ hostId ∧ StrictUnits hostId := by
  unfold parseEntry at parsed
  split at parsed
  · cases parsed
  · cases parsed
  · rename_i separator _ found
    obtain ⟨bound,sign,_⟩ := findIdx?_eq_some_iff_getElem.mp found
    have rebuilt : entry.take separator ++ 0x3D :: entry.drop (separator + 1) = entry := by
      rw [← beq_iff_eq.mp sign,← drop_eq_getElem_cons bound,take_append_drop]
    simp only at parsed
    split at parsed
    · cases parsed
    · rename_i host
      simp only [Bool.or_eq_true,not_or,Bool.not_eq_true',Bool.not_eq_false,contains_eq_mem,
        decide_eq_true_eq] at host
      obtain ⟨⟨⟨_,valid⟩,plain⟩,_⟩ := host
      split at parsed
      · cases parsed
      · split at parsed
        · cases parsed
          exact ⟨rebuilt.symm,plain,strictUnits_of_validText valid⟩
        · cases parsed

theorem set_new {tokens : OrderedMap Units Units} (new : hostId ∉ tokens.keys) :
    (tokens.set hostId token).entries = tokens.entries ++ [(hostId,token)] := by
  rw [OrderedMap.set,dif_neg new]

/-- Every line gives one entry, in the order of the lines. -/
theorem readEntries_ok (lines : List Units) {tokens result : OrderedMap Units Units}
    (read : readEntries lines tokens = .ok result) :
    ∃ entries, result.entries = tokens.entries ++ entries ∧ lines = entries.map spell ∧
      ∀ entry ∈ entries, 0x3D ∉ entry.1 ∧ StrictUnits entry.1 := by
  induction lines generalizing tokens with
  | nil => cases read; exact ⟨[],by simp⟩
  | cons line rest ih =>
    rw [readEntries,except_bind_ok] at read
    obtain ⟨⟨hostId,token⟩,parsed,read⟩ := read
    obtain ⟨spelled,plain,strict⟩ := parseEntry_ok parsed
    simp only at read
    split at read
    · cases read
    · rename_i new
      obtain ⟨entries,same,others,each⟩ := ih read
      refine ⟨(hostId,token) :: entries,?_,by rw [spelled,others,map_cons],?_⟩
      · rw [same,set_new new,append_assoc,singleton_append]
      · rw [forall_mem_cons]
        exact ⟨⟨plain,strict⟩,each⟩

theorem linesOf_solid (member : line ∈ linesOf text) : 0xA ∉ line := by
  rw [linesOf] at member
  split at member <;> exact PathNames.splitOn_solid _ _ member

theorem linesOf_join (text : Units) :
    text = [0xA].intercalate (linesOf text) ∨ text = [0xA].intercalate (linesOf text) ++ [0xA] := by
  rw [linesOf]
  split
  · rename_i last
    right
    obtain ⟨front,rfl⟩ := getLast?_eq_some_iff.mp last
    rw [dropLast_concat,intercalate_splitOn]
  · left
    rw [intercalate_splitOn]

/-- An accepted document lists exactly the entries of its map. -/
theorem parseManagedHostTokens_ok {tokens : OrderedMap Units Units}
    (parsed : parseManagedHostTokens input = .ok tokens) :
    (∃ raw text, bytes input "HOST_TOKENS" = .ok raw ∧ utf8Decode raw = some text ∧ Lists text tokens.entries) ∧
      ∀ hostId ∈ tokens.keys, StrictUnits hostId := by
  rw [parseManagedHostTokens,except_bind_ok] at parsed
  obtain ⟨raw,given,parsed⟩ := parsed
  rw [except_unit_bind_ok,except_unit_bind_ok] at parsed
  obtain ⟨_,_,parsed⟩ := parsed
  cases decoded : utf8Decode raw with
  | none => rw [decoded] at parsed; cases parsed
  | some text =>
    rw [decoded] at parsed
    simp only [except_unit_bind_ok] at parsed
    obtain ⟨_,_,read⟩ := parsed
    obtain ⟨entries,same,lines,each⟩ := readEntries_ok _ read
    have listed : tokens.entries = entries := by simpa [OrderedMap.empty] using same
    subst listed
    refine ⟨⟨raw,text,given,decoded,?_,fun entry member => ⟨(each entry member).1,?_⟩⟩,?_⟩
    · rw [← lines]
      exact linesOf_join text
    · exact linesOf_solid (lines ▸ mem_map_of_mem member)
    · intro hostId member
      obtain ⟨entry,inside,rfl⟩ := mem_map.mp member
      exact (each entry inside).2

theorem sortIds_eq :
    sortIds hostIds = (sortEntries (hostIds.map fun hostId => (hostId,()))).map Prod.fst := by
  rw [sortIds,sortEntries,map_insertionSort _ (fun a b => (utf8Compare a b).isLE) _ _ fun _ _ _ _ => Iff.rfl,map_map]
  simp [Function.comp_def]

theorem mem_sortIds : hostId ∈ sortIds hostIds ↔ hostId ∈ hostIds :=
  (perm_insertionSort _ hostIds).mem_iff

/-- The order of the lines is forgotten. -/
theorem sortIds_of_perm {hostIds others : List Units} (perm : hostIds.Perm others) (distinct : hostIds.Nodup)
    (strict : ∀ hostId ∈ hostIds, StrictUnits hostId) : sortIds hostIds = sortIds others := by
  rw [sortIds_eq,sortIds_eq,sortEntries_of_perm (perm.map _) (by simpa [Function.comp_def] using distinct)]
  simpa using strict

/-- The record whose canonical spelling the JSON is. -/
def hostSetRecord : Value :=
  .object [(ofString "encoding",.string (ofString "utf-8")),(ofString "hostIds",.array (hostIds.map .string)),
    (ofString "schemaVersion",.number (.int 1))]

theorem render_hostSetRecord : render (hostSetRecord hostIds) = hostSetJson hostIds := by
  have ordered : [ofString "encoding",ofString "hostIds",ofString "schemaVersion"].Pairwise fun a b =>
      (utf8Compare a b).isLE := by decide
  have sorted : sortEntries [(ofString "encoding",Value.string (ofString "utf-8")),
      (ofString "hostIds",.array (hostIds.map .string)),(ofString "schemaVersion",.number (.int 1))] = _ :=
    Pairwise.insertionSort_eq (by simpa [pairwise_cons] using ordered)
  have texts : (hostIds.map Value.string).map render = hostIds.map stringifyText := by
    rw [map_map]
    exact map_congr_left fun _ _ => by simp [render]
  have front : 0x7B :: (stringifyText (ofString "encoding") ++ 0x3A :: (render (.string (ofString "utf-8")) ++
      0x2C :: (stringifyText (ofString "hostIds") ++ [0x3A,0x5B]))) =
        ofString "\x7b\"encoding\":\"utf-8\",\"hostIds\":[" := by decide
  have back : 0x5D :: 0x2C :: (stringifyText (ofString "schemaVersion") ++
      0x3A :: (render (.number (.int 1)) ++ [0x7D])) = ofString "],\"schemaVersion\":1\x7d" := by decide
  rw [hostSetRecord,render_object,sorted,hostSetJson,← front,← back]
  simp [render_array,texts]

/-- Equal JSON has equal identifiers, one by one. -/
theorem hostSetJson_injective {hostIds others : List Units} (strict : ∀ hostId ∈ hostIds, StrictUnits hostId)
    (strict' : ∀ hostId ∈ others, StrictUnits hostId)
    (same : utf8 (hostSetJson hostIds) = utf8 (hostSetJson others)) : hostIds = others := by
  let limits : Limits := ⟨0,2,hostIds.length + others.length + 4⟩
  have encodes : ∀ ids : List Units, (∀ hostId ∈ ids, StrictUnits hostId) → ids.length + 4 ≤ limits.maxNodes →
      canonicalJsonBytes (hostSetRecord ids) limits = .ok (utf8 (hostSetJson ids)) := by
    intro ids strict room
    refine (canonicalJsonBytes_iff ..).mpr ⟨?_,?_,by rw [render_hostSetRecord]⟩
    · have named : ∀ name : String, checkText "" (fun _ => false) (ofString name) = .ok () →
          StrictUnits (ofString name) := fun _ checked => strictUnits_of_checkText checked
      simp only [hostSetRecord,Accepted,AcceptedEntries,acceptedItems_iff,forall_mem_map,limits]
      refine ⟨by decide,named "encoding" rfl,⟨by decide,named "utf-8" rfl⟩,named "hostIds" rfl,⟨by decide,?_⟩,
        named "schemaVersion" rfl,⟨by decide,by decide⟩,trivial⟩
      exact fun hostId member => ⟨by decide,strict hostId member⟩
    · simp [hostSetRecord,size,sizeEntries,sizeItems_eq,Function.comp_def]
      omega
  have distinct : ∀ ids, DistinctKeys (hostSetRecord ids) := by
    intro ids
    simp [hostSetRecord,DistinctKeys,DistinctEntries,distinctItems_iff]
    decide
  have left := encodes hostIds strict (by simp only [limits]; omega)
  have right := encodes others strict' (by simp only [limits]; omega)
  rw [← same] at right
  have alike := same_of_same_bytes ⟨_,distinct hostIds⟩ ⟨_,distinct others⟩ left right
  simp only [hostSetRecord] at alike
  cases alike with
  | object _ values =>
    have arrays := values (ofString "hostIds") _ _ (mem_cons_of_mem _ mem_cons_self)
      (mem_cons_of_mem _ mem_cons_self)
    cases arrays with
    | array length items =>
      have length : hostIds.length = others.length := by simpa using length
      refine ext_getElem length fun i inside inside' => ?_
      have item := items i (.string hostIds[i]) (.string others[i]) (by simp [inside]) (by simp [inside'])
      exact Value.string.inj (same_string item)

/-- Two accepted documents share their fingerprint exactly when they list the same hosts, and a parsed
document has for every listed host the text behind the first separator of its line. -/
theorem host_set_fingerprint (injective : Function.Injective sha256)
    (left right : Input) (tokens others : OrderedMap Units Units)
    (parsed : parseManagedHostTokens left = .ok tokens) (parsed' : parseManagedHostTokens right = .ok others) :
    (managedHostSetFingerprint sha256 left = managedHostSetFingerprint sha256 right ↔
      ∀ hostId, hostId ∈ tokens.keys ↔ hostId ∈ others.keys) ∧
    ∃ raw text, bytes left "HOST_TOKENS" = .ok raw ∧ utf8Decode raw = some text ∧ Lists text tokens.entries := by
  obtain ⟨listed,strict⟩ := parseManagedHostTokens_ok parsed
  obtain ⟨_,strict'⟩ := parseManagedHostTokens_ok parsed'
  refine ⟨?_,listed⟩
  have left_hash : managedHostSetFingerprint sha256 left = .ok (hostSetFingerprint sha256 tokens) := by
    rw [managedHostSetFingerprint,parsed]; rfl
  have right_hash : managedHostSetFingerprint sha256 right = .ok (hostSetFingerprint sha256 others) := by
    rw [managedHostSetFingerprint,parsed']; rfl
  rw [left_hash,right_hash,Except.ok.injEq]
  constructor
  · intro equal hostId
    have sorted := hostSetJson_injective
      (fun hostId member => strict hostId ((mem_sortIds _).mp member))
      (fun hostId member => strict' hostId ((mem_sortIds _).mp member)) (injective equal)
    rw [← mem_sortIds tokens.keys,← mem_sortIds others.keys,sorted]
  · intro same
    have perm : tokens.keys.Perm others.keys := (perm_ext_iff_of_nodup tokens.distinct others.distinct).mpr same
    rw [hostSetFingerprint,hostSetFingerprint,sortIds_of_perm perm tokens.distinct strict]

/-- The lines in another order, other tokens and a final newline. -/
theorem host_set_fingerprint_reordered :
    managedHostSetFingerprint (fun raw => raw.map UInt8.toUInt16) (.text (ofString "a=1\nb=x=y")) =
      managedHostSetFingerprint (fun raw => raw.map UInt8.toUInt16) (.text (ofString "b=2\na=3\n")) :=
  (host_set_fingerprint _ (map_injective_iff.mpr fun a b same =>
      UInt8.toNat_inj.mp (by simpa [← UInt16.toNat_inj] using same))
    (.text (ofString "a=1\nb=x=y")) (.text (ofString "b=2\na=3\n"))
    ⟨[(ofString "a",ofString "1"),(ofString "b",ofString "x=y")],by decide⟩
    ⟨[(ofString "b",ofString "2"),(ofString "a",ofString "3")],by decide⟩ rfl rfl).1.mpr
    fun hostId => by simp [OrderedMap.keys,or_comm]

end GjcRemote.HostTokens
