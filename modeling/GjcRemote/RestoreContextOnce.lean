import GjcRemote.RestoreContext
import GjcRemote.Runs
import Mathlib.Data.List.Induction

/-! A restore context is handed out at most once: its entry leaves `available` for good, and the text of a key
tells the authority, the operation and the fingerprint. -/
namespace GjcRemote.RestoreContext

open Utf16 StrictJson Record Envelope
open DeploymentEnvelope (matchesText)
open ReceiptBinding (isOpaqueId isLetterOrDigit)
open ServiceEnvelope (record get_record_cons)

section Keys

/-- What a field of a key is. -/
inductive Plain : Value → Prop where
  | number (safe : isSafeInteger (.int n) = true) : Plain (.number (.int n))
  | text (strict : StrictUnits units) : Plain (.string units)

theorem Plain.encodes (plain : Plain value) : Encodes 0 1 value := by
  cases plain with
  | number safe => exact encodes_int safe
  | text strict => exact encodes_string strict

theorem Plain.eq_of_same (left : Plain v) (right : Plain w) (same : Same v w) : v = w := by
  cases right with
  | text strict => exact same_string same
  | number _ =>
    cases same with
    | number read =>
      cases left with
      | number _ => exact congrArg Value.number read

theorem Plain.self (plain : Plain value) : strictEqual value value = true := by
  cases plain with
  | number safe => simp [strictEqual,safe]
  | text strict => simp [strictEqual]

theorem plain_items {xs ys : List Value} (left : ∀ x ∈ xs, Plain x) (right : ∀ y ∈ ys, Plain y)
    (same : Same (.array xs) (.array ys)) : xs = ys := by
  cases same with
  | array lengths items =>
    refine List.ext_getElem lengths fun i inside inside' => ?_
    refine (left _ (List.getElem_mem inside)).eq_of_same (right _ (List.getElem_mem inside')) ?_
    exact items i _ _ (List.getElem?_eq_getElem inside) (List.getElem?_eq_getElem inside')

theorem plain_generation (valid : isGeneration value = true) : Plain value := by
  obtain ⟨n,read,positive⟩ := isGeneration_iff.mp valid
  rw [safeInteger.eq_def] at read
  split at read
  · split at read
    · next safe => exact .number safe
    · cases read
  · cases read
    exact absurd positive (by decide)
  · cases read

theorem plain_oneOf (listed : ∀ name ∈ names, isPrintable (ofString name) = true)
    (valid : isOneOf names value = true) : Plain value := by
  obtain ⟨name,among,same⟩ := List.any_eq_true.mp valid
  rw [isText_iff.mp same]
  exact .text (printable_strict (listed name among))

theorem plain_hex (valid : isHex value = true) : Plain value := by
  obtain ⟨units,rfl,digits⟩ := isHex_iff.mp valid
  exact .text (printable_strict (hex_printable digits))

theorem matched_text (valid : matchesText test value = true) :
    ∃ units, value = .string units ∧ test units = true := by
  cases value with
  | string units => exact ⟨units,rfl,valid⟩
  | _ => cases valid

theorem plain_opaque (valid : matchesText isOpaqueId value = true) : Plain value := by
  obtain ⟨units,rfl,named⟩ := matched_text valid
  refine .text (printable_strict ?_)
  have letter (u : UInt16) (fine : isLetterOrDigit u = true) : 0x20 ≤ u.toNat ∧ u.toNat < 0x7f := by
    simp [isLetterOrDigit,UInt16.le_iff_toNat_le] at fine
    omega
  cases units with
  | nil => cases named
  | cons first rest =>
    simp only [isOpaqueId,Bool.and_eq_true,List.all_eq_true,Bool.or_eq_true,beq_iff_eq] at named
    refine isPrintable_cons.mpr ⟨letter first named.1.1,List.all_eq_true.mpr fun u listed => ?_⟩
    rcases named.2 u listed with ((fine | rfl) | rfl) | rfl
    · simpa using letter u fine
    · decide
    · decide
    · decide

theorem plain_hostId (valid : isExactHostId value = true) : Plain value := by
  obtain ⟨units,rfl,named⟩ := matched_text valid
  simp only [Bool.and_eq_true] at named
  have strict := isOk_unit named.2
  rw [assertStrictText] at strict
  split at strict
  · cases strict
  · exact .text (strictUnits_of_checkText strict)

/-- The fields of a valid authority. -/
theorem plain_authority (valid : validAuthority authority = true) :
    ∀ field ∈ DESTINATION_AUTHORITY_FIELDS, Plain (get authority field) := by
  simp only [validAuthority,Bool.and_eq_true,List.all_eq_true] at valid
  obtain ⟨⟨⟨⟨⟨_,generations⟩,hostId⟩,opaques⟩,platform⟩,fingerprint⟩ := valid
  have generation (field : String) (listed : field ∈ ["authorityEpoch","fenceGeneration","mappingGeneration",
      "workspaceGeneration","mappingVersion"]) : Plain (get authority field) :=
    plain_generation (generations field listed)
  have named (field : String) (listed : field ∈ ["mappingId","workspaceId"]) : Plain (get authority field) :=
    plain_opaque (opaques field listed)
  simp only [DESTINATION_AUTHORITY_FIELDS,List.forall_mem_cons]
  exact ⟨generation _ (by decide),generation _ (by decide),plain_hostId hostId,named _ (by decide),
    generation _ (by decide),generation _ (by decide),named _ (by decide),generation _ (by decide),
    plain_oneOf (by decide) platform,plain_hex fingerprint,by simp⟩

/-- The text of a key tells what it is made of. -/
theorem claimKey_inj {a b operation operation' fingerprint fingerprint' : Value}
    (left : validAuthority a = true) (right : validAuthority b = true)
    (operations : isOneOf OPERATIONS operation = true ∧ isOneOf OPERATIONS operation' = true)
    (fingerprints : isHex fingerprint = true ∧ isHex fingerprint' = true)
    (same : claimKey a operation fingerprint = claimKey b operation' fingerprint') :
    (∀ field ∈ DESTINATION_AUTHORITY_FIELDS, get a field = get b field) ∧ operation = operation' ∧
      fingerprint = fingerprint' := by
  have items (authority operation fingerprint : Value) (valid : validAuthority authority = true)
      (listed : isOneOf OPERATIONS operation = true) (digits : isHex fingerprint = true) :
      ∀ item ∈ DESTINATION_AUTHORITY_FIELDS.map (get authority ·) ++ [operation,fingerprint], Plain item := by
    rw [List.forall_mem_append,List.forall_mem_map]
    refine ⟨plain_authority valid,?_⟩
    simp only [List.forall_mem_cons]
    exact ⟨plain_oneOf (by decide) listed,plain_hex digits,by simp⟩
  have encodes (list : List Value) (plain : ∀ item ∈ list, Plain item) (short : list.length = 12) :
      Encodes 1 13 (.array list) := by
    have array := encodes_array fun item listed => (plain item listed).encodes
    rwa [short] at array
  have one := items a operation fingerprint left operations.1 fingerprints.1
  have two := items b operation' fingerprint' right operations.2 fingerprints.2
  have read := (encodes _ one rfl).same (encodes _ two rfl) (by decide) (by decide) (congrArg utf8 same)
  obtain ⟨fields,ends⟩ := List.append_inj' (plain_items one two read) rfl
  rw [List.cons.injEq,List.singleton_inj] at ends
  exact ⟨List.map_inj_left.mp fields,ends⟩

theorem get_record_map (fields : List String) (value : String → Value) (listed : field ∈ fields) :
    get (record (fields.map fun field => (field,value field))) field = value field := by
  induction fields with
  | nil => cases listed
  | cons first rest ih =>
    rw [List.map_cons,get_record_cons]
    split
    · next same => rw [same]
    · next other =>
      exact ih ((List.mem_cons.mp listed).resolve_left fun same => other same.symm)

theorem authorityOf_get (value : Value) (listed : field ∈ DESTINATION_AUTHORITY_FIELDS) :
    get (authorityOf value) field = get value field :=
  get_record_map _ (get value) listed

theorem claimKey_authorityOf (value operation fingerprint : Value) :
    claimKey (authorityOf value) operation fingerprint = claimKey value operation fingerprint := by
  rw [claimKey,claimKey,List.map_congr_left fun field listed => authorityOf_get value listed]

end Keys

section Created

variable {isFinite : Nat → Bool}

/-- What an accepted claim is filed under. -/
theorem Claim.filed (claim : Claim isFinite) : validAuthority (authorityOf claim.value) = true ∧
    isOneOf OPERATIONS (get claim.value "operation") = true ∧
    isHex (get claim.value "idempotencyFingerprint") = true := by
  obtain ⟨_,valid⟩ := except_unit_bind_ok.mp claim.valid
  obtain ⟨authority,valid⟩ := except_unit_bind_ok.mp valid
  obtain ⟨operation,_⟩ := except_unit_bind_ok.mp valid
  simp only [check_ok,Bool.and_eq_true] at authority operation
  exact ⟨authority,operation.1⟩

theorem sealClaim_value {claim : Claim isFinite} (accepted : sealClaim bound value = .ok claim) :
    claim.value = value := by
  unfold sealClaim at accepted
  split at accepted
  · cases accepted
  · obtain ⟨_,accepted⟩ := except_unit_bind_ok.mp accepted
    obtain ⟨_,accepted⟩ := except_unit_bind_ok.mp accepted
    cases accepted
    rfl

/-- The entry of the claims under one key. -/
def entryOf : List (Claim isFinite) → Option (Entry isFinite)
  | [] => none
  | [claim] => some ⟨.available,[claim]⟩
  | claims => some ⟨.ambiguous,claims⟩

theorem entryOf_concat (claims : List (Claim isFinite)) (claim : Claim isFinite) :
    entryOf (claims ++ [claim]) = match entryOf claims with
      | some entry => some ⟨.ambiguous,entry.claims ++ [claim]⟩
      | none => some ⟨.available,[claim]⟩ := by
  match claims with
  | [] => rfl
  | [_] => rfl
  | _ :: _ :: _ => rfl

theorem enter_get (claims : List (Claim isFinite)) (key : Units) :
    (claims.foldl enter .empty).get key = entryOf (claims.filter (·.key = key)) := by
  induction claims using List.reverseRecOn generalizing key with
  | nil => rfl
  | append_singleton claims claim ih =>
    rw [List.foldl_append,List.foldl_cons,List.foldl_nil,List.filter_append,enter]
    by_cases same : claim.key = key
    · subst same
      rw [List.filter_cons_of_pos (by simp),List.filter_nil,entryOf_concat,← ih]
      cases (claims.foldl enter .empty).get claim.key with
      | some entry => exact OrderedMap.get_set_self ..
      | none => exact OrderedMap.get_set_self ..
    · rw [List.filter_cons_of_neg (by simpa using same),List.filter_nil,List.append_nil,← ih]
      split
      · exact OrderedMap.get_set_ne _ _ (Ne.symm same)
      · exact OrderedMap.get_set_ne _ _ (Ne.symm same)

theorem entered (values : List Value) (start entries : OrderedMap Units (Entry isFinite))
    (accepted : values.foldlM (fun entries claim => do return enter entries (← sealClaim bound claim)) start =
      .ok entries) :
    ∃ claims : List (Claim isFinite), values = claims.map Claim.value ∧ entries = claims.foldl enter start := by
  induction values generalizing start with
  | nil =>
    cases accepted
    exact ⟨[],rfl,rfl⟩
  | cons value rest ih =>
    obtain ⟨_,here,later⟩ := except_bind_ok.mp accepted
    obtain ⟨claim,sealed,here⟩ := except_bind_ok.mp here
    cases here
    obtain ⟨claims,rfl,rfl⟩ := ih _ later
    exact ⟨claim :: claims,by rw [List.map_cons,sealClaim_value sealed],rfl⟩

/-- A registry files the claims it was given. -/
theorem created_entries {r : Registry isFinite} (created : createRestoreContextRegistry claims maxAgeMs = .ok r) :
    ∃ accepted : List (Claim isFinite), claims = .array (accepted.map Claim.value) ∧
      r.entries = accepted.foldl enter .empty := by
  unfold createRestoreContextRegistry at created
  split at created
  · obtain ⟨_,created⟩ := except_unit_bind_ok.mp created
    obtain ⟨entries,filed,created⟩ := except_bind_ok.mp created
    cases created
    obtain ⟨accepted,rfl,rfl⟩ := entered _ _ _ filed
    exact ⟨accepted,rfl,rfl⟩
  · cases created
  · cases created

/-- The entries under a key keep the claims that were given, and one that is available has one claim. -/
def Sound (accepted : List (Claim isFinite)) (r : Registry isFinite) : Prop :=
  ∀ key entry, r.entries.get key = some entry → entry.claims = accepted.filter (·.key = key) ∧
    (entry.status = .available → ∃ claim, entry.claims = [claim])

theorem entryOf_sound {entry : Entry isFinite} (known : entryOf claims = some entry) :
    entry.claims = claims ∧ (entry.status = .available → ∃ claim, entry.claims = [claim]) := by
  match claims with
  | [] => cases known
  | [claim] =>
    cases known
    exact ⟨rfl,fun _ => ⟨claim,rfl⟩⟩
  | _ :: _ :: _ =>
    cases known
    exact ⟨rfl,fun available => nomatch available⟩

theorem sound_created {accepted : List (Claim isFinite)} {r : Registry isFinite}
    (filed : r.entries = accepted.foldl enter .empty) : Sound accepted r := by
  intro key entry known
  rw [filed,enter_get] at known
  exact entryOf_sound known

end Created

section Steps

variable {isFinite : Nat → Bool} {r : Registry isFinite}

/-- When a request finds its claim outside the window. -/
def Outside (claim : Claim isFinite) (now : Int) : Prop :=
  now < instant claim.value "probedAtMs" ∨ instant claim.value "expiresAtMs" < now

/-- A request that asks the clock: it finds its claim available and spends it. -/
structure Asks (r : Registry isFinite) (request : Request) (key : Units) (claim : Claim isFinite) (now : Int) :
    Prop where
  named : request.key = some key
  available : r.entries.get key = some ⟨.available,[claim]⟩
  reading : safeInteger request.reading = some now
  late : 0 ≤ now

/-- What a request can do. -/
theorem resolve_cases (r : Registry isFinite) (request : Request) :
    ((r.resolve request).1 = r ∧ (∀ claim, (r.resolve request).2 ≠ .ok (some claim)) ∧
      ∀ key claim now, ¬Asks r request key claim now) ∨
    ∃ key claim now, Asks r request key claim now ∧
      ((Outside claim now ∨ r.maxAgeMs < now - instant claim.value "probedAtMs") ∧
        r.resolve request = (r.setStatus key ⟨.available,[claim]⟩ .expired,.ok none) ∨
      ¬Outside claim now ∧
        r.resolve request = (r.setStatus key ⟨.available,[claim]⟩ .consumed,.ok (some claim))) := by
  unfold Registry.resolve
  split
  · next unnamed => exact .inl ⟨rfl,by simp,fun _ _ _ asks => nomatch unnamed.symm.trans asks.named⟩
  · next key named =>
    split
    · next claim available =>
      split
      · next unread =>
        refine .inl ⟨rfl,by simp,fun _ _ now asks => ?_⟩
        rw [asks.reading,Option.filter_some,if_pos (decide_eq_true asks.late)] at unread
        cases unread
      · next now reading =>
        obtain ⟨reading,late⟩ := Option.filter_eq_some_iff.mp reading
        refine .inr ⟨key,claim,now,⟨named,available,reading,by simpa using late⟩,?_⟩
        split
        · next old => exact .inl ⟨by rw [Outside]; tauto,rfl⟩
        · next young => exact .inr ⟨by rw [Outside]; tauto,rfl⟩
    · next other =>
      refine .inl ⟨rfl,by simp,fun key' claim _ asks => ?_⟩
      obtain rfl := Option.some.inj (named.symm.trans asks.named)
      exact other claim asks.available

/-- An entry is left as it is, or leaves `available`. -/
theorem step_moves (call : Call) {key : Units} {after : Entry isFinite}
    (known : (step r call).1.entries.get key = some after) : ∃ before, r.entries.get key = some before ∧
      after.claims = before.claims ∧
      (after = before ∨ before.status = .available ∧ after.status ≠ .available) := by
  cases call with
  | resolve request =>
    rcases resolve_cases r request with ⟨same,_⟩ | ⟨key',claim,now,asks,⟨_,same⟩ | ⟨_,same⟩⟩
    · rw [step,same] at known
      exact ⟨after,known,rfl,.inl rfl⟩
    all_goals
      rw [step,same,Registry.setStatus,OrderedMap.get_set] at known
      split at known
      · next here =>
        cases known
        exact ⟨⟨.available,[claim]⟩,here ▸ asks.available,rfl,.inr ⟨rfl,by simp⟩⟩
      · exact ⟨after,known,rfl,.inl rfl⟩
  | invalidateAuthority trustedBinding =>
    simp only [step,Registry.invalidateAuthority] at known
    split at known
    · exact ⟨after,known,rfl,.inl rfl⟩
    · rw [OrderedMap.get_mapValues,Option.map_eq_some_iff] at known
      obtain ⟨before,known,rfl⟩ := known
      refine ⟨before,known,?_⟩
      split
      · next own =>
        simp only [ofAuthority,Bool.and_eq_true,decide_eq_true_eq] at own
        exact ⟨rfl,.inr ⟨own.1,by simp⟩⟩
      · exact ⟨rfl,.inl rfl⟩

theorem Sound.step {accepted : List (Claim isFinite)} (sound : Sound accepted r) (call : Call) :
    Sound accepted (step r call).1 := by
  intro key after known
  obtain ⟨before,earlier,claims,moved⟩ := step_moves call known
  obtain ⟨given,single⟩ := sound key before earlier
  rw [claims]
  refine ⟨given,fun available => single ?_⟩
  rcases moved with rfl | ⟨_,left⟩
  · exact available
  · exact absurd available left

/-- Nothing is available under a key. -/
def Spent (r : Registry isFinite) (key : Units) : Prop :=
  ∀ entry, r.entries.get key = some entry → entry.status ≠ .available

theorem Spent.step {key : Units} (spent : Spent r key) (call : Call) : Spent (step r call).1 key := by
  intro after known
  obtain ⟨before,earlier,_,rfl | ⟨available,_⟩⟩ := step_moves call known
  · exact spent after earlier
  · exact absurd available (spent before earlier)

theorem Spent.run {key : Units} (spent : Spent r key) (calls : List Call) :
    Spent (Runs.run RestoreContext.step r calls) key :=
  @Runs.run_invariant _ _ _ RestoreContext.step (Spent · key) (fun _ call spent => spent.step call) r spent calls

theorem Sound.run {accepted : List (Claim isFinite)} (sound : Sound accepted r) (calls : List Call) :
    Sound accepted (Runs.run RestoreContext.step r calls) :=
  @Runs.run_invariant _ _ _ RestoreContext.step (Sound accepted) (fun _ call sound => sound.step call) r sound calls

/-- An authority that a binding is trusted for. -/
theorem trustedAuthority_some {binding authority : Value} (trusted : trustedAuthority binding = some authority) :
    authority = authorityOf binding ∧ validAuthority (authorityOf binding) = true := by
  unfold trustedAuthority at trusted
  split at trusted
  · next fine =>
    cases trusted
    exact ⟨rfl,(Bool.and_eq_true_iff.mp fine).2⟩
  · cases trusted

/-- A request agrees with a claim: its binding in the whole authority, its message in what follows the epoch and
the fence. -/
structure Agrees (request : Request) (claim : Value) : Prop where
  binding : ∀ field ∈ DESTINATION_AUTHORITY_FIELDS, get request.trustedBinding field = get claim field
  message : ∀ field ∈ DESTINATION_AUTHORITY_FIELDS.drop 2,
    strictEqual (get request.message field) (get claim field) = true
  operation : request.operation = get claim "operation" ∧
    strictEqual (get request.message "operation") (get claim "operation") = true
  idempotencyFingerprint : request.idempotencyFingerprint = get claim "idempotencyFingerprint" ∧
    strictEqual (get request.message "idempotencyFingerprint") (get claim "idempotencyFingerprint") = true

/-- A request finds the claim that it agrees with. -/
theorem key_agrees {request : Request} {claim : Claim isFinite} (named : request.key = some claim.key) :
    Agrees request claim.value := by
  obtain ⟨authority,known,key⟩ := Option.map_eq_some_iff.mp named
  obtain ⟨trusted,guards⟩ := Option.filter_eq_some_iff.mp known
  obtain ⟨rfl,valid⟩ := trustedAuthority_some trusted
  simp only [Bool.and_eq_true,List.all_eq_true] at guards
  obtain ⟨⟨⟨⟨⟨_,listed⟩,operation⟩,digits⟩,fingerprint⟩,fields⟩ := guards
  obtain ⟨valid',listed',digits'⟩ := claim.filed
  rw [Claim.key,keyOf,← claimKey_authorityOf claim.value] at key
  obtain ⟨same,equal,equal'⟩ := claimKey_inj valid valid' ⟨listed,listed'⟩ ⟨digits,digits'⟩ key
  have binding (field : String) (inside : field ∈ DESTINATION_AUTHORITY_FIELDS) :
      get request.trustedBinding field = get claim.value field := by
    rw [← authorityOf_get request.trustedBinding inside,same field inside,authorityOf_get _ inside]
  refine ⟨binding,fun field inside => ?_,⟨equal,equal ▸ operation⟩,⟨equal',equal' ▸ fingerprint⟩⟩
  have among : field ∈ DESTINATION_AUTHORITY_FIELDS := List.mem_of_mem_drop inside
  rw [← binding field among,← authorityOf_get request.trustedBinding among]
  exact fields field inside

/-- A claim that is handed out is the one filed under the request's key. -/
theorem resolve_some {accepted : List (Claim isFinite)} {request : Request} {claim : Claim isFinite}
    (sound : Sound accepted r) (answer : (r.resolve request).2 = .ok (some claim)) :
    ∃ now, Asks r request claim.key claim now ∧ ¬Outside claim now ∧
      accepted.filter (·.key = claim.key) = [claim] ∧
      (r.resolve request).1 = r.setStatus claim.key ⟨.available,[claim]⟩ .consumed := by
  rcases resolve_cases r request with ⟨_,never,_⟩ | ⟨key,found,now,asks,⟨_,same⟩ | ⟨inside,same⟩⟩
  · exact absurd answer (never claim)
  · rw [same] at answer
    cases answer
  · rw [same] at answer
    cases answer
    have own := (sound _ _ asks.available).1
    have listed : claim ∈ accepted.filter (·.key = key) := own ▸ List.mem_singleton_self claim
    have here : key = claim.key := by simpa [eq_comm] using (List.mem_filter.mp listed).2
    subst here
    exact ⟨now,asks,inside,own.symm,by rw [same]⟩

/-- What spends a claim for good. -/
inductive Spends (r : Registry isFinite) (claim : Claim isFinite) : Call → Prop where
  | returned (request : Request) (answer : (r.resolve request).2 = .ok (some claim)) :
      Spends r claim (.resolve request)
  | invalidated (binding authority : Value) (trusted : trustedAuthority binding = some authority)
      (same : ∀ field ∈ DESTINATION_AUTHORITY_FIELDS, get claim.value field = get binding field) :
      Spends r claim (.invalidateAuthority binding)
  | outside (request : Request) (now : Int) (named : request.key = some claim.key)
      (reading : safeInteger request.reading = some now) (late : 0 ≤ now) (old : Outside claim now) :
      Spends r claim (.resolve request)

theorem Spends.spent {accepted : List (Claim isFinite)} {claim : Claim isFinite} {call : Call}
    (spends : Spends r claim call) (sound : Sound accepted r) (own : accepted.filter (·.key = claim.key) = [claim]) :
    Spent (step r call).1 claim.key := by
  have alone (entry : Entry isFinite) (known : r.entries.get claim.key = some entry) : entry.claims = [claim] :=
    (sound _ _ known).1.trans own
  have set (key : Units) (entry : Entry isFinite) (status : Status) (left : status ≠ .available)
      (here : key = claim.key) : Spent (r.setStatus key entry status) claim.key := by
    subst here
    intro after known
    rw [Registry.setStatus,OrderedMap.get_set_self] at known
    cases known
    exact left
  cases spends with
  | returned request answer =>
    obtain ⟨_,_,_,_,same⟩ := resolve_some sound answer
    rw [step,same]
    exact set _ _ _ (by simp) rfl
  | invalidated binding authority trusted same =>
    obtain ⟨rfl,_⟩ := trustedAuthority_some trusted
    intro after known
    rw [step,Registry.invalidateAuthority,trusted] at known
    obtain ⟨before,earlier,rfl⟩ := Option.map_eq_some_iff.mp ((OrderedMap.get_mapValues ..).symm.trans known)
    split
    · simp
    · next kept =>
      intro available
      refine kept ?_
      simp only [ofAuthority,available,alone before earlier,Bool.and_eq_true,decide_eq_true_eq,true_and,
        List.head?_cons,Option.any_some,List.all_eq_true]
      intro field inside
      rw [authorityOf_get binding inside,← same field inside,← authorityOf_get claim.value inside]
      exact (plain_authority claim.filed.1 field inside).self
  | outside request now named reading late old =>
    rcases resolve_cases r request with ⟨same,_,unasked⟩ | ⟨key,found,now',asks,⟨_,same⟩ | ⟨_,same⟩⟩
    · rw [step,same]
      intro entry known available
      refine unasked claim.key claim now ⟨named,?_,reading,late⟩
      rw [known,← available,← alone entry known]
    all_goals
      rw [step,same]
      exact set _ _ _ (by simp) (Option.some.inj (asks.named.symm.trans named))

/-- What holds of a claim that a request is given after the calls `before`. -/
structure HandedOut (claims : List Value) (start : Registry isFinite) (before : List Call) (request : Request)
    (claim : Claim isFinite) : Prop where
  agrees : Agrees request claim.value
  window : ∃ now, safeInteger request.reading = some now ∧ instant claim.value "probedAtMs" ≤ now ∧
    now ≤ instant claim.value "expiresAtMs"
  alone : ∃ i : Nat, claims[i]? = some claim.value ∧ ∀ (j : Nat) other, claims[j]? = some other →
    keyOf other = claim.key → j = i
  unspent : ∀ front call back, before = front ++ call :: back → ¬Spends (Runs.run step start front) claim call

/-- A request that is given nothing expires the claim that it finds, or changes nothing. -/
def Quiet (r : Registry isFinite) (request : Request) : Prop :=
  (r.resolve request).1 = r ∨ ∃ key claim now, Asks r request key claim now ∧
    (Outside claim now ∨ r.maxAgeMs < now - instant claim.value "probedAtMs") ∧
    (r.resolve request).1 = r.setStatus key ⟨.available,[claim]⟩ .expired

/-- The available claims of an authority are invalidated, and no others. -/
structure Invalidates (r : Registry isFinite) (binding : Value) : Prop where
  trusted : trustedAuthority binding ≠ none → ∀ key claim, r.entries.get key = some ⟨.available,[claim]⟩ →
    (∀ field ∈ DESTINATION_AUTHORITY_FIELDS, get claim.value field = get binding field) →
    (r.invalidateAuthority binding).1.entries.get key = some ⟨.invalidated,[claim]⟩
  others : ∀ key, (∀ claim, r.entries.get key = some ⟨.available,[claim]⟩ →
      ∃ field ∈ DESTINATION_AUTHORITY_FIELDS, get claim.value field ≠ get binding field) →
    (r.invalidateAuthority binding).1.entries.get key = r.entries.get key
  untrusted : trustedAuthority binding = none → (r.invalidateAuthority binding).1 = r

theorem filter_alone {p : α → Bool} {list : List α} (own : list.filter p = [a]) :
    ∃ i : Nat, list[i]? = some a ∧ ∀ (j : Nat) b, list[j]? = some b → p b = true → j = i := by
  induction list with
  | nil => cases own
  | cons first rest ih =>
    cases here : p first with
    | true =>
      rw [List.filter_cons_of_pos here,List.cons.injEq,List.filter_eq_nil_iff] at own
      obtain ⟨rfl,none⟩ := own
      refine ⟨0,rfl,fun j b found kept => ?_⟩
      cases j with
      | zero => rfl
      | succ j => exact absurd kept (none b (List.mem_of_getElem? found))
    | false =>
      rw [List.filter_cons_of_neg (by simp [here])] at own
      obtain ⟨i,found,only⟩ := ih own
      refine ⟨i + 1,found,fun j b found kept => ?_⟩
      cases j with
      | zero =>
        cases found
        rw [here] at kept
        cases kept
      | succ j => exact congrArg (· + 1) (only j b found kept)

theorem invalidates {accepted : List (Claim isFinite)} (sound : Sound accepted r) (binding : Value) :
    Invalidates r binding := by
  cases trusted : trustedAuthority binding with
  | none =>
    have same : (r.invalidateAuthority binding).1 = r := by rw [Registry.invalidateAuthority,trusted]
    exact ⟨fun some => absurd trusted some,fun _ _ => by rw [same],fun _ => same⟩
  | some authority =>
    obtain ⟨rfl,valid⟩ := trustedAuthority_some trusted
    have after (key : Units) : (r.invalidateAuthority binding).1.entries.get key = (r.entries.get key).map fun entry =>
        if ofAuthority (authorityOf binding) entry then {entry with status := .invalidated} else entry := by
      rw [Registry.invalidateAuthority,trusted]
      exact OrderedMap.get_mapValues ..
    refine ⟨fun _ key claim known same => ?_,fun key other => ?_,fun none => nomatch none.symm.trans trusted⟩
    · have own : ofAuthority (authorityOf binding) ⟨.available,[claim]⟩ = true := by
        simp only [ofAuthority,decide_true,Bool.true_and,List.head?_cons,Option.any_some,List.all_eq_true]
        intro field inside
        rw [authorityOf_get binding inside,← same field inside,← authorityOf_get claim.value inside]
        exact (plain_authority claim.filed.1 field inside).self
      rw [after,known,Option.map_some,if_pos own]
    · rw [after]
      cases known : r.entries.get key with
      | none => rfl
      | some entry =>
        rw [Option.map_some,if_neg]
        intro own
        simp only [ofAuthority,Bool.and_eq_true,decide_eq_true_eq] at own
        obtain ⟨claim,single⟩ := (sound key entry known).2 own.1
        have found : r.entries.get key = some ⟨.available,[claim]⟩ := by rw [known,← own.1,← single]
        obtain ⟨field,inside,differ⟩ := other claim found
        have fields := own.2
        rw [single,List.head?_cons,Option.any_some,List.all_eq_true] at fields
        have left := plain_authority claim.filed.1 field inside
        have right := plain_authority valid field inside
        rw [authorityOf_get _ inside] at left
        exact differ (left.eq_of_same (authorityOf_get binding inside ▸ right)
          (authorityOf_get binding inside ▸ strictEqual_same (fields field inside)))

/-- In every run over every list of accepted claims, a claim is handed out once at most, inside its window, to a
request that agrees with it. -/
theorem restore_contexts_single_use {start : Registry isFinite}
    (created : createRestoreContextRegistry (.array claims) maxAgeMs = .ok start) (before : List Call) :
    let r := Runs.run step start before
    (∀ request claim, (r.resolve request).2 = .ok (some claim) → HandedOut claims start before request claim) ∧
    (∀ request, (∀ claim, (r.resolve request).2 ≠ .ok (some claim)) → Quiet r request) ∧
    ∀ binding, Invalidates r binding := by
  intro r
  obtain ⟨accepted,given,filed⟩ := created_entries created
  cases given
  have sound := (sound_created filed).run before
  refine ⟨fun request claim answer => ?_,fun request never => ?_,invalidates sound⟩
  · obtain ⟨now,asks,inside,own,_⟩ := resolve_some sound answer
    rw [Outside,not_or,not_lt,not_lt] at inside
    obtain ⟨i,place,only⟩ := filter_alone own
    refine ⟨key_agrees asks.named,⟨now,asks.reading,inside⟩,⟨i,?_,fun j other listed same => ?_⟩,?_⟩
    · rw [List.getElem?_map,place,Option.map_some]
    · rw [List.getElem?_map,Option.map_eq_some_iff] at listed
      obtain ⟨claim',listed,rfl⟩ := listed
      exact only j claim' listed (decide_eq_true same)
    · rintro front call back rfl spends
      have spent := (spends.spent ((sound_created filed).run front) own).run back
      have found := asks.available
      rw [Runs.run_append] at found
      exact spent ⟨.available,[claim]⟩ found rfl
  · rcases resolve_cases r request with ⟨same,_⟩ | ⟨key,found,now,asks,⟨old,same⟩ | ⟨_,same⟩⟩
    · exact .inl same
    · exact .inr ⟨key,found,now,asks,old,by rw [same]⟩
    · exact absurd (by rw [same]) (never found)

end Steps

section Sample

open ServiceEnvelope (number text)

def authorityFields : List (String × Value) :=
  [("hostId",text "host-1"),("mappingId",text "map-1"),("mappingGeneration",number 3),("mappingVersion",number 4),
    ("workspaceId",text "ws-1"),("workspaceGeneration",number 5),("sourcePlatform",text "posix"),
    ("authorityFingerprint",hexText 6)]

def restoreClaim (idempotency : Nat) : Value :=
  record ([("authorityEpoch",number 1),("fenceGeneration",number 2)] ++ authorityFields ++
    [("operation",text "restore"),("idempotencyFingerprint",hexText idempotency),("stagingPath",text "/srv/stage"),
      ("expectedAuthority",record [("hostId",text "host-1"),("roleFingerprint",hexText 8),
        ("volumeIdentityFingerprint",hexText 9),("keyFingerprint",hexText 10),("manifestFingerprint",hexText 11),
        ("restoredFromWorkspaceId",text "ws-0"),("restoredFromGeneration",number 1)]),
      ("manifest",record [("manifestFingerprint",hexText 11)]),("restoredFromWorkspaceId",text "ws-0"),
      ("restoredFromGeneration",number 1),("expectedGraph",record []),("probedAtMs",number 1000),
      ("expiresAtMs",number 2000)])

/-- A request whose message names `epochs` beside the fields of the authority. -/
def restoreRequest (idempotency : Nat) (epochs : List (String × Value)) : Request where
  trustedBinding := record ([("authorityEpoch",number 1),("fenceGeneration",number 2)] ++ authorityFields)
  message := record (epochs ++ authorityFields ++
    [("operation",text "restore"),("idempotencyFingerprint",hexText idempotency)])
  operation := text "restore"
  idempotencyFingerprint := hexText idempotency
  reading := number 1500

def restoreClaims : List Value := [restoreClaim 7,restoreClaim 12]

def restoreStart : Except JsError (Registry fun _ => true) :=
  createRestoreContextRegistry (.array restoreClaims) (number 1000)

/-- The second claim is handed out before the first one is asked for. -/
def earlier : List Call := [.resolve (restoreRequest 12 [])]

/-- What the messages of two requests name: no epoch, or another than the claim's authority. -/
def namedEpochs : List (List (String × Value)) := [[],[("authorityEpoch",number 9)]]

theorem hands_out : (restoreStart.toOption.any fun start => namedEpochs.all fun epochs =>
    ((Runs.run step start earlier).resolve (restoreRequest 7 epochs)).2.toOption.join.isSome) = true := by
  decide +kernel

theorem handed_out (listed : epochs ∈ namedEpochs) : ∃ start claim, restoreStart = .ok start ∧
    ((Runs.run step start earlier).resolve (restoreRequest 7 epochs)).2 = .ok (some claim) := by
  obtain ⟨start,created,given⟩ := Option.any_eq_true _ _ |>.mp hands_out
  have given := List.all_eq_true.mp given epochs listed
  cases made : restoreStart with
  | error e =>
    rw [made] at created
    cases created
  | ok registry =>
    rw [made] at created
    cases created
    cases answer : ((Runs.run step start earlier).resolve (restoreRequest 7 epochs)).2 with
    | error e =>
      rw [answer] at given
      cases given
    | ok result =>
      rw [answer] at given
      obtain ⟨claim,rfl⟩ := Option.isSome_iff_exists.mp given
      exact ⟨start,claim,rfl,answer⟩

theorem restore_context_handed_out : ∃ start claim, restoreStart = .ok start ∧
    HandedOut restoreClaims start earlier (restoreRequest 7 []) claim := by
  obtain ⟨start,claim,created,answer⟩ := @handed_out [] (by simp [namedEpochs])
  exact ⟨start,claim,created,(restore_contexts_single_use created earlier).1 _ claim answer⟩

/-- A message may name another epoch than the claim's authority. -/
theorem message_epoch_ignored : ∃ start claim, restoreStart = .ok start ∧
    ((Runs.run step start earlier).resolve (restoreRequest 7 [("authorityEpoch",number 9)])).2 = .ok (some claim) ∧
    get (restoreRequest 7 [("authorityEpoch",number 9)]).message "authorityEpoch" ≠
      get claim.value "authorityEpoch" := by
  obtain ⟨start,claim,created,answer⟩ := @handed_out [("authorityEpoch",number 9)] (by simp [namedEpochs])
  obtain ⟨accepted,_,filed⟩ := created_entries created
  obtain ⟨_,asks,_⟩ := resolve_some ((sound_created filed).run earlier) answer
  have epoch := (key_agrees asks.named).binding "authorityEpoch" (by decide)
  refine ⟨start,claim,created,answer,?_⟩
  rw [← epoch]
  simp [restoreRequest,get_record_cons,number]

end Sample

end GjcRemote.RestoreContext
