import GjcRemote.JsText
import GjcRemote.Record
import Mathlib.Data.List.Infix

/-! `daemon/src/model-lookup.js`: how a query names a model of the list. -/
namespace GjcRemote.ModelLookup

open Utf16 StrictJson Record JsText Except
open List hiding get lookup

structure Model where
  id : Units
  name : Units
  provider : Units
  deriving DecidableEq

inductive Outcome where
  | resolved (name provider modelId : Units)
  | notFound
  | ambiguous (candidates : List Model)
  deriving DecidableEq

/-- `/[\p{Cc}\p{Cf}]/u`. -/
def isControlOrFormat (c : Char) : Bool :=
  [(0,0x1F),(0x7F,0x9F),(0xAD,0xAD),(0x600,0x605),(0x61C,0x61C),(0x6DD,0x6DD),(0x70F,0x70F),(0x890,0x891),
    (0x8E2,0x8E2),(0x180E,0x180E),(0x200B,0x200F),(0x202A,0x202E),(0x2060,0x2064),(0x2066,0x206F),(0xFEFF,0xFEFF),
    (0xFFF9,0xFFFB),(0x110BD,0x110BD),(0x110CD,0x110CD),(0x13430,0x1343F),(0x1BCA0,0x1BCA3),(0x1D173,0x1D17A),
    (0xE0001,0xE0001),(0xE0020,0xE007F)].any fun r => r.1 ≤ c.toNat && c.toNat ≤ r.2

def validatedField : Value → Option Units
  | .string text =>
    if text.length = 0 ∨ 256 < text.length ∨ trim text ≠ text ∨ (decode text).any isControlOrFormat then none
    else some text
  | _ => none

def modelOf (entry : Value) : Option Model := do
  guard (isPlainObject entry)
  let id ← validatedField (get entry "id")
  let name ← validatedField (get entry "name")
  let provider ← validatedField (get entry "provider")
  return ⟨id,name,provider⟩

/-- `toLowerCase` leaves no text empty, and no other character becomes a colon. -/
structure LowerCase (lower : Units → Units) : Prop where
  filled : ∀ text, lower text = [] → text = []
  colon : ∀ text, 0x3A ∈ lower text ↔ 0x3A ∈ text

variable (lower : Units → Units)

def identity (m : Model) : Units := lower m.provider ++ 0 :: lower m.id

/-- Whatever is wrong with a list, the error is this one. -/
def validateModelList : Value → Except String (List Model)
  | .array entries =>
    if entries.length ≤ 1000 ∧ (entries.all fun e => (modelOf e).isSome) = true ∧
        ((entries.filterMap modelOf).map (identity lower)).Nodup then .ok (entries.filterMap modelOf)
    else .error "Available model list is invalid."
  | _ => .error "Available model list is invalid."

def normalizeQuery : Value → Option Units
  | .string query =>
    if 256 < query.length ∨ lower (trim query) = [] then none else some (lower (trim query))
  | _ => none

def latestRank (m : Model) : Nat := if ofString "(latest)" <:+: lower m.name then 0 else 1

def compareModels : Model → Model → Ordering :=
  compareLex (compareOn (latestRank lower)) (compareLex (compareOn (·.id.length))
    (compareLex (compareOn (·.provider)) (compareLex (compareOn (·.id)) (compareOn (·.name)))))

section

variable (models : List Model)

def sorted : List Model :=
  models.mergeSort fun a b => (compareModels lower a b).isLE

def sameRank (a b : Model) : Bool :=
  latestRank lower a = latestRank lower b && a.id.length = b.id.length

def resolved (m : Model) : Outcome := .resolved m.name m.provider m.id

def ambiguous : Outcome := .ambiguous ((sorted lower models).take 5)

/-- The two sides of the first colon. -/
def selector (query : Units) : Units × Units :=
  (trim (query.takeWhile (· ≠ 0x3A)),trim ((query.dropWhile (· ≠ 0x3A)).drop 1))

def isSelected (query : Units) (m : Model) : Bool :=
  lower m.provider = (selector query).1 && lower m.id = (selector query).2

def isPartial (query : Units) (m : Model) : Bool := query <:+: lower m.id || query <:+: lower m.name

def lookup (query : Units) : Outcome :=
  if 0x3A ∈ query then
    if (selector query).1 = [] ∨ (selector query).2 = [] then .notFound
    else ((models.find? (isSelected lower query)).map resolved).getD .notFound
  else match models.filter fun m => lower m.id = query with
    | [m] => resolved m
    | a :: b :: rest => ambiguous lower (a :: b :: rest)
    | [] =>
      match sorted lower (models.filter (isPartial lower query)) with
      | [] => .notFound
      | best :: rest =>
        if ((best :: rest).filter (sameRank lower · best)).length = 1 then resolved best
        else ambiguous lower ((best :: rest).filter (sameRank lower · best))

def resolveModel (value query : Value) : Except String Outcome := do
  let models ← validateModelList lower value
  return ((normalizeQuery lower query).map (lookup lower models)).getD .notFound

theorem compareModels_eq {a b : Model} (same : compareModels lower a b = .eq) : a = b := by
  simp only [compareModels,compareLex_eq_eq,compareOn] at same
  cases a
  simp_all

instance : Std.TransCmp (compareModels lower) := by
  unfold compareModels
  infer_instance

theorem sorted_pairwise :
    (sorted lower models).Pairwise fun a b => (compareModels lower a b).isLE := by
  refine pairwise_mergeSort (fun _ _ _ => Std.TransCmp.isLE_trans) (fun a b => ?_) models
  rw [Bool.or_eq_true,← Std.OrientedCmp.isGE_iff_isLE (a := a)]
  cases compareModels lower a b <;> simp

theorem sorted_perm (perm : xs.Perm ys) : sorted lower xs = sorted lower ys := by
  refine Perm.eq_of_pairwise (fun a b _ _ le ge => ?_) (sorted_pairwise lower xs) (sorted_pairwise lower ys)
    ((mergeSort_perm xs _).trans (perm.trans (mergeSort_perm ys _).symm))
  exact compareModels_eq lower (Std.OrientedCmp.isLE_antisymm le ge)

/-- What a list that is accepted has. -/
structure Valid : Prop where
  fields : ∀ m ∈ models, m.id ≠ [] ∧ m.id.length ≤ 256 ∧ trim m.id = m.id ∧ m.provider ≠ [] ∧
    trim m.provider = m.provider
  distinct : (models.map (identity lower)).Nodup

end

theorem validatedField_some (found : validatedField v = some text) :
    text ≠ [] ∧ text.length ≤ 256 ∧ trim text = text := by
  cases v with
  | string units =>
    rw [validatedField] at found
    split at found
    · cases found
    next fine =>
      obtain rfl := Option.some.inj found
      simp only [not_or,length_eq_zero_iff,not_lt,not_not] at fine
      exact ⟨fine.1,fine.2.1,fine.2.2.1⟩
  | _ => cases found

theorem validateModelList_ok (accepted : validateModelList lower value = .ok models) :
    Valid lower models ∧ ∃ entries, value = .array entries ∧ models = entries.filterMap modelOf ∧
      ∀ ys, entries.Perm ys → validateModelList lower (.array ys) = .ok (ys.filterMap modelOf) := by
  cases value with
  | array entries =>
    rw [validateModelList] at accepted
    split at accepted
    next fine =>
      obtain rfl := ok.inj accepted
      obtain ⟨short,valid,distinct⟩ := fine
      refine ⟨⟨fun m member => ?_,distinct⟩,entries,rfl,rfl,fun ys perm => ?_⟩
      · obtain ⟨e,_,found⟩ := mem_filterMap.mp member
        simp only [modelOf,Option.bind_eq_bind,Option.bind_eq_some_iff,Option.pure_def,Option.some.injEq] at found
        obtain ⟨_,_,id,idFound,_,_,provider,providerFound,rfl⟩ := found
        obtain ⟨filled,length,trimmed⟩ := validatedField_some idFound
        have ⟨filled',_,trimmed'⟩ := validatedField_some providerFound
        exact ⟨filled,length,trimmed,filled',trimmed'⟩
      · rw [validateModelList,if_pos]
        refine ⟨perm.length_eq ▸ short,?_,(((perm.filterMap modelOf).map _).nodup_iff).mp distinct⟩
        rw [all_eq_true] at valid ⊢
        exact fun e member => valid e (perm.mem_iff.mpr member)
    · cases accepted
  | _ => cases accepted

theorem identity_inj (valid : Valid lower models) (here : m ∈ models) (there : m' ∈ models)
    (provider : lower m.provider = lower m'.provider) (id : lower m.id = lower m'.id) : m = m' :=
  inj_on_of_nodup_map valid.distinct here there (by rw [identity,identity,provider,id])

/-- A selector finds the one model it names. -/
theorem find_selected (valid : Valid lower models) (query : Units) (m : Model) :
    models.find? (isSelected lower query) = some m ↔ m ∈ models ∧ isSelected lower query m = true := by
  refine ⟨fun found => ⟨mem_of_find?_eq_some found,find?_some found⟩,fun ⟨member,selected⟩ => ?_⟩
  obtain ⟨m',found⟩ := Option.isSome_iff_exists.mp (find?_isSome.mpr ⟨m,member,selected⟩)
  have selected' := find?_some found
  simp only [isSelected,Bool.and_eq_true,decide_eq_true_eq] at selected selected'
  rw [found,identity_inj lower valid (mem_of_find?_eq_some found) member
    (selected'.1.trans selected.1.symm) (selected'.2.trans selected.2.symm)]

theorem lookup_perm (valid : Valid lower xs) (perm : xs.Perm ys) (query : Units) :
    lookup lower xs query = lookup lower ys query := by
  have valid' : Valid lower ys := ⟨fun m member => valid.fields m (perm.mem_iff.mpr member),
    ((perm.map _).nodup_iff).mp valid.distinct⟩
  have selected : xs.find? (isSelected lower query) = ys.find? (isSelected lower query) := by
    ext m
    rw [find_selected lower valid,find_selected lower valid',perm.mem_iff]
  have exact := perm.filter fun m => decide (lower m.id = query)
  rw [lookup,lookup,selected,sorted_perm lower (perm.filter (isPartial lower query))]
  refine if_congr Iff.rfl rfl ?_
  generalize xs.filter (fun m => decide (lower m.id = query)) = here at exact ⊢
  generalize ys.filter (fun m => decide (lower m.id = query)) = there at exact ⊢
  cases here with
  | nil => rw [exact.nil_eq]
  | cons a others =>
    cases others with
    | nil => rw [singleton_perm.mp exact]
    | cons b rest =>
      cases there with
      | nil => cases exact.length_eq
      | cons c others =>
        cases others with
        | nil => cases exact.length_eq
        | cons d tail =>
          exact congrArg Outcome.ambiguous (congrArg (take 5) (sorted_perm lower exact))

theorem resolved_inj (same : resolved m = resolved m') : m = m' := by
  cases m
  simp_all [resolved]

/-- The query with a colon resolves to the model its two sides are. -/
theorem lookup_colon (low : LowerCase lower) (valid : Valid lower models) (member : m ∈ models)
    (colon : 0x3A ∈ query) : lookup lower models query = resolved m ↔ isSelected lower query m = true := by
  rw [lookup,if_pos colon]
  split
  next empty =>
    refine ⟨fun found => Outcome.noConfusion found,fun selected => ?_⟩
    simp only [isSelected,Bool.and_eq_true,decide_eq_true_eq] at selected
    rw [← selected.1,← selected.2] at empty
    rcases empty with empty | empty
    · exact absurd (low.filled _ empty) (valid.fields m member).2.2.2.1
    · exact absurd (low.filled _ empty) (valid.fields m member).1
  next =>
    refine ⟨fun found => ?_,fun selected => ?_⟩
    · cases hit : models.find? (isSelected lower query) with
      | none => rw [hit] at found; cases found
      | some m' =>
        rw [hit] at found
        exact resolved_inj found ▸ find?_some hit
    · rw [(find_selected lower valid query m).mpr ⟨member,selected⟩]
      rfl

theorem selector_length (colon : 0x3A ∈ query) : (selector query).2.length < query.length := by
  refine (trim_length _).trans_lt ?_
  have rest : query.dropWhile (· ≠ 0x3A) ≠ [] := by
    rw [Ne,dropWhile_eq_nil_iff]
    exact fun none => by simpa using none _ colon
  have shorter := (dropWhile_sublist (l := query) (· ≠ 0x3A)).length_le
  have := length_pos_iff.mpr rest
  rw [length_drop]
  omega

theorem lookup_id (low : LowerCase lower) (valid : Valid lower models) (member : m ∈ models)
    (only : ∀ m' ∈ models, lower m'.id = lower m.id → m' = m) :
    lookup lower models (lower m.id) = resolved m ↔ 0x3A ∉ m.id := by
  rw [← low.colon]
  refine ⟨fun found colon => ?_,fun plain => ?_⟩
  · have selected := (lookup_colon lower low valid member colon).mp found
    simp only [isSelected,Bool.and_eq_true,decide_eq_true_eq] at selected
    exact absurd (congrArg length selected.2) (selector_length colon).ne'
  · have named : models.filter (fun m' => decide (lower m'.id = lower m.id)) = [m] := by
      refine perm_singleton.mp ((perm_ext_iff_of_nodup ?_ (nodup_singleton m)).mpr fun m' => ?_)
      · exact (valid.distinct.of_map _).filter _
      · rw [mem_filter,decide_eq_true_eq,mem_singleton]
        exact ⟨fun found => only m' found.1 found.2,fun same => same.symm ▸ ⟨member,rfl⟩⟩
    rw [lookup,if_neg plain,named]

/-- A model of a better rank: "(latest)" first, then the shorter id. -/
def Outranks (a b : Model) : Prop :=
  latestRank lower a < latestRank lower b ∨ latestRank lower a = latestRank lower b ∧ a.id.length < b.id.length

theorem outranks_of_le (le : (compareModels lower a b).isLE) (other : sameRank lower a b = false) :
    Outranks lower a b := by
  simp only [sameRank,Bool.and_eq_false_iff,decide_eq_false_iff_not] at other
  rcases Nat.lt_trichotomy (latestRank lower a) (latestRank lower b) with less | same | more
  · exact .inl less
  · refine .inr ⟨same,?_⟩
    rcases Nat.lt_trichotomy a.id.length b.id.length with less | same' | more
    · exact less
    · exact absurd same' (other.resolve_left (not_not_intro same))
    · simp [compareModels,compareLex,compareOn,same,Nat.compare_eq_gt.mpr more] at le
  · simp [compareModels,compareLex,compareOn,Nat.compare_eq_gt.mpr more] at le

/-- What a query has to be for the model it resolves to. -/
def Names (models : List Model) (query : Units) (m : Model) : Prop :=
  (0x3A ∈ query ∧ isSelected lower query m = true) ∨
    (0x3A ∉ query ∧ ∀ m' ∈ models, lower m'.id = query ↔ m' = m) ∨
    (0x3A ∉ query ∧ (∀ m' ∈ models, lower m'.id ≠ query) ∧ isPartial lower query m = true ∧
      ∀ m' ∈ models, isPartial lower query m' = true → m' ≠ m → Outranks lower m m')

theorem lookup_names (found : lookup lower models query = resolved m) :
    m ∈ models ∧ Names lower models query m := by
  rw [lookup] at found
  split at found
  next colon =>
    split at found
    · cases found
    · cases hit : models.find? (isSelected lower query) with
      | none => rw [hit] at found; cases found
      | some m' =>
        rw [hit] at found
        obtain rfl := resolved_inj found
        exact ⟨mem_of_find?_eq_some hit,.inl ⟨colon,find?_some hit⟩⟩
  next plain =>
    split at found
    next m' exact =>
      obtain rfl := resolved_inj found
      have named (m : Model) : m ∈ models.filter (fun m => decide (lower m.id = query)) ↔ m = m' := by
        rw [exact,mem_singleton]
      simp only [mem_filter,decide_eq_true_eq] at named
      refine ⟨((named m').mpr rfl).1,.inr (.inl ⟨plain,fun m'' member => ?_⟩)⟩
      exact ⟨fun same => (named m'').mp ⟨member,same⟩,fun same => ((named m'').mpr same).2⟩
    · cases found
    next none =>
      split at found
      · cases found
      next best rest order =>
        split at found
        next single =>
          obtain rfl := resolved_inj found
          have listed (m : Model) : m ∈ best :: rest ↔ m ∈ models ∧ isPartial lower query m = true := by
            rw [← order,sorted,mem_mergeSort,mem_filter]
          have increasing := sorted_pairwise lower (models.filter (isPartial lower query))
          rw [order] at increasing
          rw [filter_cons_of_pos (by simp [sameRank]),length_cons,Nat.add_eq_right,
            length_eq_zero_iff,filter_eq_nil_iff] at single
          obtain ⟨member,matching⟩ := (listed best).mp mem_cons_self
          refine ⟨member,.inr (.inr ⟨plain,fun m' member' same => ?_,matching,fun m' member' also other => ?_⟩)⟩
          · exact filter_eq_nil_iff.mp none m' member' (decide_eq_true same)
          · have later := ((mem_cons).mp ((listed m').mpr ⟨member',also⟩)).resolve_left other
            refine outranks_of_le lower ((pairwise_cons.mp increasing).1 m' later) ?_
            have apart := Bool.not_eq_true _ ▸ single m' later
            simp only [sameRank,Bool.and_eq_false_iff,decide_eq_false_iff_not] at apart ⊢
            exact apart.imp Ne.symm Ne.symm
        · cases found

/-- `provider:modelId`. -/
def fullName (m : Model) : Units := m.provider ++ 0x3A :: m.id

/-- One answer for every order of the list; a listed model is found under its full name and, where no other has
it, under its id; nothing is found but what the query names. -/
structure Exact (value : Value) (models : List Model) (query : Units) : Prop where
  order : ∀ entries ys, value = .array entries → entries.Perm ys →
    resolveModel lower (.array ys) (.string query) = resolveModel lower value (.string query)
  full : ∀ m ∈ models, query = fullName m → resolveModel lower value (.string query) = .ok (resolved m)
  id : ∀ m ∈ models, query = m.id → (∀ m' ∈ models, lower m'.id = lower m.id → m' = m) →
    resolveModel lower value (.string query) = .ok (resolved m)
  named : ∀ m, resolveModel lower value (.string query) = .ok (resolved m) →
    m ∈ models ∧ Names lower models (lower (trim query)) m

theorem resolveModel_ok (accepted : validateModelList lower value = .ok models) (query : Value) :
    resolveModel lower value query =
      .ok (((normalizeQuery lower query).map (lookup lower models)).getD .notFound) := by
  rw [resolveModel,accepted]
  rfl

/-- What a trimmed query resolves to. -/
theorem resolveModel_string (low : LowerCase lower) (accepted : validateModelList lower value = .ok models)
    (short : query.length ≤ 256) (trimmed : trim query = query) (filled : query ≠ []) :
    resolveModel lower value (.string query) = .ok (lookup lower models (lower query)) := by
  rw [resolveModel_ok lower accepted,normalizeQuery,trimmed,
    if_neg (not_or.mpr ⟨not_lt.mpr short,fun empty => filled (low.filled _ empty)⟩)]
  rfl

theorem resolveModel_perm (accepted : validateModelList lower value = .ok models) (query : Value)
    (listed : value = .array entries) (perm : entries.Perm ys) :
    resolveModel lower (.array ys) query = resolveModel lower value query := by
  obtain ⟨valid,entries',same,rfl,reordered⟩ := validateModelList_ok lower accepted
  obtain rfl : entries' = entries := Value.array.inj (same.symm.trans listed)
  have order : (lookup lower (ys.filterMap modelOf)) = lookup lower (entries'.filterMap modelOf) :=
    funext fun q => (lookup_perm lower valid (perm.filterMap modelOf) q).symm
  rw [resolveModel_ok lower (reordered ys perm),resolveModel_ok lower accepted,order]

theorem trimStart_length (text : Units) : (trimStart text).length ≤ text.length :=
  (trimStart_sublist text).length_le

/-- A trimmed text starts with no space, and so does its reverse. -/
theorem trimStart_of_trim (trimmed : trim text = text) :
    trimStart text = text ∧ trimStart text.reverse = text.reverse := by
  have length : text.length ≤ (trimStart text).length := by
    have whole := congrArg length trimmed
    have shorter := trimStart_length (trimStart text).reverse
    rw [trim,length_reverse] at whole
    rw [length_reverse] at shorter
    omega
  have start := (trimStart_sublist text).eq_of_length_le length
  refine ⟨start,reverse_injective ?_⟩
  rw [reverse_reverse]
  rwa [trim,start] at trimmed

theorem trim_append (front : trim p = p) (back : trim q = q) (first : p ≠ []) (last : q ≠ []) :
    trim (p ++ 0x3A :: q) = p ++ 0x3A :: q := by
  have start (t : Units) {s : Units} (filled : s ≠ []) (same : trimStart s = s) :
      trimStart (s ++ t) = s ++ t := by
    cases s with
    | nil => exact absurd rfl filled
    | cons u rest =>
      have solid : isSpace u = false := by
        by_contra space
        have shorter := trimStart_length rest
        rw [trimStart,dropWhile_cons_of_pos (by simpa using space),← trimStart] at same
        simp [same] at shorter
      simp [trimStart,solid]
  rw [trim,start _ first (trimStart_of_trim front).1,reverse_append,reverse_cons,
    append_assoc,start _ (by simpa using last) (trimStart_of_trim back).2]
  simp

/-- The list's order never matters and only what the query names is found, and a model is found under its names
when the lower-cased full name splits at its first colon into provider and id, and the id has no colon. -/
theorem resolve_exact (low : LowerCase lower) (accepted : validateModelList lower value = .ok models)
    (short : query.length ≤ 256) :
    Exact lower value models query ↔ ∀ m ∈ models,
      (query = fullName m → selector (lower query) = (lower m.provider,lower m.id)) ∧
      (query = m.id → (∀ m' ∈ models, lower m'.id = lower m.id → m' = m) → 0x3A ∉ m.id) := by
  have valid := (validateModelList_ok lower accepted).1
  have full (m : Model) (member : m ∈ models) (named : query = fullName m) :
      resolveModel lower value (.string query) = .ok (resolved m) ↔
        selector (lower query) = (lower m.provider,lower m.id) := by
    have fields := valid.fields m member
    have trimmed : trim query = query := by
      rw [named,fullName,trim_append fields.2.2.2.2 fields.2.2.1 fields.2.2.2.1 fields.1]
    have colon : 0x3A ∈ lower query := (low.colon _).mpr (by simp [named,fullName])
    rw [resolveModel_string lower low accepted short trimmed (by simp [named,fullName]),ok.injEq,
      lookup_colon lower low valid member colon,isSelected,Bool.and_eq_true,decide_eq_true_eq,decide_eq_true_eq,
      Prod.ext_iff,eq_comm,@eq_comm _ (lower m.id)]
  have id (m : Model) (member : m ∈ models) (named : query = m.id)
      (only : ∀ m' ∈ models, lower m'.id = lower m.id → m' = m) :
      resolveModel lower value (.string query) = .ok (resolved m) ↔ 0x3A ∉ m.id := by
    have fields := valid.fields m member
    rw [named,resolveModel_string lower low accepted fields.2.1 fields.2.2.1 fields.1,ok.injEq,
      lookup_id lower low valid member only]
  refine ⟨fun exact m member => ⟨fun named => ?_,fun named only => ?_⟩,fun fits => ⟨?_,?_,?_,?_⟩⟩
  · exact (full m member named).mp (exact.full m member named)
  · exact (id m member named only).mp (exact.id m member named only)
  · exact fun entries ys listed perm => resolveModel_perm lower accepted _ listed perm
  · exact fun m member named => (full m member named).mpr ((fits m member).1 named)
  · exact fun m member named only => (id m member named only).mpr ((fits m member).2 named only)
  · intro m found
    rw [resolveModel_ok lower accepted,normalizeQuery] at found
    split at found
    · cases found
    · exact lookup_names lower (ok.inj found)

theorem lowerAscii_lower : LowerCase lowerAscii := by
  refine ⟨fun text empty => map_eq_nil_iff.mp empty,fun text => ?_⟩
  rw [lowerAscii,mem_map]
  refine ⟨fun ⟨u,member,same⟩ => ?_,fun member => ⟨0x3A,member,by decide⟩⟩
  split at same
  next upper =>
    simp [← UInt16.toNat_inj,UInt16.le_iff_toNat_le] at upper same
    omega
  · exact same ▸ member

def sampleModel (provider id : String) : Model := ⟨ofString id,ofString "M",ofString provider⟩

def sampleList (models : List Model) : Value :=
  .array (models.map fun m => .object [(ofString "id",.string m.id),(ofString "name",.string m.name),
    (ofString "provider",.string m.provider)])

def sampleModels : List Model := [sampleModel "a" "b:c",sampleModel "A" "Bc"]

/-- The full name "a:b:c" is read as provider "a" and id "b:c"; the part "b" is one of both ids. -/
theorem resolve_exact_sample : Exact lowerAscii (sampleList sampleModels) sampleModels (ofString "a:b:c") ∧
    Exact lowerAscii (sampleList sampleModels) sampleModels (ofString "b") := by
  have accepted : validateModelList lowerAscii (sampleList sampleModels) = .ok sampleModels := by decide
  constructor
  · refine (resolve_exact lowerAscii lowerAscii_lower accepted (by decide)).mpr fun m member => ?_
    refine ⟨fun named => ?_,fun named => ?_⟩
    · revert m
      decide
    · revert m
      decide
  · refine (resolve_exact lowerAscii lowerAscii_lower accepted (by decide)).mpr fun m member => ?_
    refine ⟨fun named => ?_,fun named => ?_⟩
    · revert m
      decide
    · revert m
      decide

/-- The id "b:c" is read as provider "b" and id "c", and nothing is found. -/
theorem resolve_by_id_fails : validateModelList lowerAscii (sampleList [sampleModel "a" "b:c"]) =
      .ok [sampleModel "a" "b:c"] ∧
    ¬ Exact lowerAscii (sampleList [sampleModel "a" "b:c"]) [sampleModel "a" "b:c"] (ofString "b:c") := by
  refine ⟨by decide,fun exact => ?_⟩
  have found := exact.id (sampleModel "a" "b:c") mem_cons_self (by decide)
  exact absurd found (by decide)

end GjcRemote.ModelLookup
