import GjcRemote.Evaluation
import GjcRemote.GateCodec

/-! What an encoded gate answer says, and that every text ends in a legal answer or in an error while
every legal answer has a text. -/
namespace GjcRemote.WorkflowGate

open Utf16 StrictJson Record JsText JsonText
open Bool hiding not_or
open List hiding get get_of_mem
open MappingEnvelope (isUndefined)
open Envelope (ofString_inj get_of_absent)
open ServiceEnvelope (record text get_record_cons)

inductive Answer where
  | clarify (question : Units)
  | select (labels : List Units)
  | other (labels : List Units) (custom : Units)
  | decide (decision : String) (detail : Option Units)

/-- Selections are offered, distinct and within arity, custom text has ink, and changes are only
requested with comments. -/
inductive Legal : Codec → Answer → Prop where
  | clarify {codec : AskCodec} {question : Units} : hasInk question = true →
      Legal (.ask codec) (.clarify question)
  | select {codec : AskCodec} {labels : List Units} : (∀ label ∈ labels, label ∈ codec.labels) →
      labels.Nodup → (codec.multi = false → labels.length ≤ 1) →
      (codec.allowEmpty = false → labels ≠ []) → Legal (.ask codec) (.select labels)
  | other {codec : AskCodec} {labels : List Units} {custom : Units} :
      (∀ label ∈ labels, label ∈ codec.labels) → labels.Nodup →
      (codec.multi = false → labels = []) → hasInk custom = true →
      Legal (.ask codec) (.other labels custom)
  | decide {codec : DecisionCodec} {decision : String} {detail : Option Units} :
      decision ∈ codec.decisions →
      (codec.type = "approval" → decision = "request-changes" →
        ∃ comments, detail = some comments ∧ hasInk comments = true) →
      Legal (.decision codec) (.decide decision detail)

/-- `undefined`, or else the text. -/
def optional : Option Units → Value
  | none => undefined
  | some text => .string text

inductive Spells : Codec → Value → Answer → Prop where
  | clarify {codec : AskCodec} {record : Value} {question : Units} :
      hasOnlyKeys record ["action","question"] = true →
      get record "action" = .string (ofString "clarify") → get record "question" = .string question →
      Spells (.ask codec) record (.clarify question)
  | select {codec : AskCodec} {record : Value} {labels : List Units} :
      hasOnlyKeys record ["selected","other","custom","action"] = true →
      get record "action" = undefined ∨ get record "action" = .string (ofString "answer") →
      get record "selected" = .array (labels.map .string) →
      get record "other" = undefined ∨ get record "other" = .bool false →
      get record "custom" = undefined → Spells (.ask codec) record (.select labels)
  | other {codec : AskCodec} {record : Value} {labels : List Units} {custom : Units} :
      hasOnlyKeys record ["selected","other","custom","action"] = true →
      get record "action" = undefined ∨ get record "action" = .string (ofString "answer") →
      get record "selected" = .array (labels.map .string) → get record "other" = .bool true →
      get record "custom" = .string custom → Spells (.ask codec) record (.other labels custom)
  | decide {codec : DecisionCodec} {record : Value} {decision : String} {detail : Option Units} :
      hasOnlyKeys record ["decision",codec.detailKey] = true →
      get record "decision" = .string (ofString decision) →
      get record codec.detailKey = optional detail →
      Spells (.decision codec) record (.decide decision detail)

theorem isPlainObject_of_keys {record : Value} (keys : hasOnlyKeys record allowed) : isPlainObject record := by
  cases record <;> simp_all [hasOnlyKeys,isPlainObject]

variable {value : Value}

theorem isUndefined_iff : isUndefined value ↔ value = undefined := by
  unfold isUndefined
  split <;> simp_all [undefined]

theorem asText_eq_some {text : Units} : asText value = some text ↔ value = .string text := by
  cases value <;> simp [asText]

theorem isTrue_iff : isTrue value ↔ value = .bool true := by
  cases value <;> simp [isTrue,asBool]

theorem isFalse_iff : isFalse value ↔ value = .bool false := by
  cases value <;> simp [isFalse,asBool]

theorem isInked_iff :
    isInked value ↔ ∃ text, value = .string text ∧ hasInk text := by
  cases value <;> simp [isInked,asText]

/-- The strings of a selection are its items. -/
theorem offered_iff :
    (isArray selected ∧ offered codec selected) ↔
      ∃ labels : List Units, selected = .array (labels.map .string) ∧
        ∀ label ∈ labels, label ∈ codec.labels := by
  constructor
  · rintro ⟨array,each⟩
    cases selected with
    | array items =>
      rw [offered,itemsOf,all_eq_true] at each
      induction items with
      | nil => exact ⟨[],rfl,by simp⟩
      | cons item rest ih =>
        obtain ⟨labels,same,inside⟩ := ih rfl fun v member => each v (mem_cons_of_mem _ member)
        obtain ⟨label,text,listed⟩ := (Option.any_eq_true _ _).mp (each item mem_cons_self)
        refine ⟨label :: labels,?_,forall_mem_cons.mpr ⟨by simpa using listed,inside⟩⟩
        rw [asText_eq_some.mp text,map_cons,← Value.array.inj same]
    | _ => simp [isArray] at array
  · rintro ⟨labels,rfl,inside⟩
    refine ⟨rfl,?_⟩
    simpa [offered,itemsOf,asText] using inside

variable (labels : List Units)

theorem selectionTexts_array :
    selectionTexts (.array (labels.map .string)) = labels := by
  simp [selectionTexts,itemsOf,filterMap_map,Function.comp_def,asText]

theorem length_itemsOf :
    (itemsOf (.array (labels.map .string))).length = labels.length := by simp [itemsOf]

/-- A record that is no clarification is an answer. -/
theorem action_named (named : action = undefined ∨ action = .string (ofString "answer")) :
    isText "clarify" action = false ∧ (isUndefined action ∨ isText "answer" action) := by
  rcases named with rfl | rfl
  · exact ⟨rfl,.inl rfl⟩
  · exact ⟨by decide,.inr (isText_iff.mpr rfl)⟩

theorem validateAskAnswerShape_iff {record : Value} :
    validateAskAnswerShape record codec ↔
      ∃ answer, Spells (.ask codec) record answer ∧ Legal (.ask codec) answer := by
  constructor
  · intro valid
    unfold validateAskAnswerShape at valid
    dsimp only at valid
    split at valid
    · simp at valid
    split at valid
    · rename_i clarify
      simp only [and_eq_true] at valid
      obtain ⟨question,text,ink⟩ := isInked_iff.mp valid.2
      exact ⟨.clarify question,.clarify valid.1 (isText_iff.mp clarify) text,.clarify ink⟩
    split at valid
    · simp at valid
    rename_i checks
    simp only [or_eq_true,not_or,not_eq_true,not_eq_false',and_eq_false_iff,
      decide_eq_false_iff_not,decide_eq_true_eq] at checks
    obtain ⟨⟨⟨⟨⟨keys,action⟩,array⟩,each⟩,nodup⟩,arity⟩ := checks
    obtain ⟨labels,selected,inside⟩ := offered_iff.mp ⟨array,each⟩
    rw [selected,selectionTexts_array] at nodup
    have named : get record "action" = undefined ∨ get record "action" = .string (ofString "answer") :=
      action.imp isUndefined_iff.mp isText_iff.mp
    rw [selected,length_itemsOf] at arity valid
    split at valid
    · rename_i other
      simp only [and_eq_true,or_eq_true,beq_iff_eq,length_eq_zero_iff] at valid
      obtain ⟨custom,text,ink⟩ := isInked_iff.mp valid.2
      refine ⟨.other labels custom,.other keys named selected (isTrue_iff.mp other) text,
        .other inside nodup (fun single => ?_) ink⟩
      exact valid.1.resolve_left (by simp [single])
    · simp only [and_eq_true,or_eq_true,decide_eq_true_eq,length_pos_iff] at valid
      refine ⟨.select labels,.select keys named selected (valid.1.1.imp isUndefined_iff.mp isFalse_iff.mp)
        (isUndefined_iff.mp valid.1.2),.select inside nodup (fun single => ?_) fun required => ?_⟩
      · have := arity.resolve_left (by simp [single])
        omega
      · exact valid.2.resolve_left (by simp [required])
  · rintro ⟨answer,spells,legal⟩
    unfold validateAskAnswerShape
    cases legal with
    | @clarify _ question ink =>
      cases spells with
      | clarify keys action text =>
        simp [isPlainObject_of_keys keys,action,isText,keys,isInked_iff.mpr ⟨question,text,ink⟩]
    | @select _ labels inside nodup single required =>
      cases spells with
      | select keys action selected other custom =>
        obtain ⟨clarify,named⟩ := action_named action
        have listed := offered_iff.mpr ⟨labels,rfl,inside⟩
        have few : codec.multi ∨ labels.length ≤ 1 := by
          cases multi : codec.multi with
          | true => exact .inl rfl
          | false => exact .inr (single multi)
        have some_label : codec.allowEmpty ∨ labels ≠ [] := by
          cases empty : codec.allowEmpty with
          | true => exact .inl rfl
          | false => exact .inr (required empty)
        have plain : isTrue (get record "other") = false := by rcases other with o | o <;> rw [o] <;> rfl
        simp [isPlainObject_of_keys keys,clarify,keys,named,selected,listed.1,listed.2,
          selectionTexts_array,nodup,length_itemsOf,few,plain,other.imp isUndefined_iff.mpr isFalse_iff.mpr,
          isUndefined_iff.mpr custom,length_pos_iff,some_label]
    | @other _ labels custom inside nodup single ink =>
      cases spells with
      | other keys action selected other text =>
        obtain ⟨clarify,named⟩ := action_named action
        have listed := offered_iff.mpr ⟨labels,rfl,inside⟩
        have none_chosen : codec.multi ∨ labels = [] := by
          cases multi : codec.multi with
          | true => exact .inl rfl
          | false => exact .inr (single multi)
        have few : codec.multi ∨ labels.length ≤ 1 := none_chosen.imp id fun e => by simp [e]
        simp [isPlainObject_of_keys keys,clarify,keys,named,selected,listed.1,listed.2,
          selectionTexts_array,nodup,length_itemsOf,few,isTrue_iff.mpr other,none_chosen,
          isInked_iff.mpr ⟨custom,text,ink⟩]

variable {codec : DecisionCodec}

theorem validateDecisionAnswerShape_iff {record : Value} :
    validateDecisionAnswerShape record codec ↔
      ∃ answer, Spells (.decision codec) record answer ∧ Legal (.decision codec) answer := by
  constructor
  · intro valid
    unfold validateDecisionAnswerShape at valid
    dsimp only at valid
    split at valid
    · simp at valid
    rename_i checks
    split at valid
    · simp at valid
    rename_i typed
    simp only [or_eq_true,not_or,not_eq_true,not_eq_false'] at checks
    obtain ⟨decision,listed,text⟩ := any_eq_true.mp checks.2
    have named := isText_iff.mp text
    obtain ⟨detail,spelled⟩ : ∃ detail, get record codec.detailKey = optional detail := by
      cases given : asText (get record codec.detailKey) with
      | some text => exact ⟨some text,asText_eq_some.mp given⟩
      | none =>
        simp only [given,Option.isNone_none,Bool.and_true,not_eq_true',not_eq_false] at typed
        exact ⟨none,isUndefined_iff.mp typed⟩
    refine ⟨.decide decision detail,.decide checks.1.2 named spelled,.decide listed ?_⟩
    rintro approval rfl
    simp only [approval,named,spelled,beq_self_eq_true,Bool.true_and,isText_iff.mpr rfl,
      not_eq_true',or_eq_false_iff] at valid
    cases detail with
    | none => simp [optional,undefined,asText] at valid
    | some comments =>
      refine ⟨comments,rfl,?_⟩
      have shown : trim comments ≠ [] := by simpa [optional,asText] using valid.2
      rwa [ne_eq,trim_eq_nil,not_eq_false] at shown
  · rintro ⟨answer,spells,legal⟩
    cases legal with
    | @decide _ decision detail listed commented =>
      cases spells with
      | decide keys named spelled =>
        have known : isOneOf codec.decisions (get record "decision") :=
          any_eq_true.mpr ⟨decision,listed,isText_iff.mpr named⟩
        have typed : isUndefined (get record codec.detailKey) ∨
            (asText (get record codec.detailKey)).isNone = false := by
          rw [spelled]
          cases detail with
          | none => exact .inl rfl
          | some text => exact .inr rfl
        unfold validateDecisionAnswerShape
        rw [if_neg (by simp [isPlainObject_of_keys keys,keys,known]),
          if_neg (by rcases typed with fine | fine <;> simp [fine]),not_eq_true',eq_false_iff]
        intro silent
        simp only [and_eq_true,beq_iff_eq] at silent
        obtain ⟨⟨approval,changes⟩,blank⟩ := silent
        have same : decision = "request-changes" :=
          ofString_inj (Value.string.inj (named.symm.trans (isText_iff.mp changes)))
        obtain ⟨comments,given,ink⟩ := commented approval same
        rw [spelled,given] at blank
        simp [optional,asText,trim_eq_nil,ink] at blank

/-- The shape checks accept the legal answers. -/
theorem validateAnswerShape_iff {record : Value} {codec : Codec} :
    validateAnswerShape record codec ↔ ∃ answer, Spells codec record answer ∧ Legal codec answer := by
  cases codec with
  | ask codec => exact validateAskAnswerShape_iff
  | decision codec => exact validateDecisionAnswerShape_iff

variable {option : Value}

theorem optionLabel_eq_some (labelled : optionLabel option = some label) :
    get option "label" = .string label ∧ label ≠ [] := by
  unfold optionLabel at labelled
  split at labelled
  · obtain ⟨text,long⟩ := Option.filter_eq_some_iff.mp labelled
    exact ⟨asText_eq_some.mp text,length_pos_iff.mp (by simpa using long)⟩
  · cases labelled

theorem labelOf_of_text (text : get option "label" = .string label) :
    labelOf option = label := by rw [labelOf,text]; rfl

/-- The labels of the options, none of them empty. -/
theorem optionLabels {options : List Value} {labels : List Units}
    (labelled : options.mapM optionLabel = some labels) :
    labels = options.map labelOf ∧
      ∀ option ∈ options, get option "label" = .string (labelOf option) ∧ labelOf option ≠ [] := by
  induction options generalizing labels with
  | nil => simp_all
  | cons option rest ih =>
    rw [mapM_cons] at labelled
    simp only [Option.bind_eq_bind,Option.pure_def,Option.bind_eq_some_iff] at labelled
    obtain ⟨label,one,others,all,same⟩ := labelled
    cases same
    obtain ⟨text,long⟩ := optionLabel_eq_some one
    obtain ⟨mapped,each⟩ := ih all
    have named := labelOf_of_text text
    exact ⟨by rw [map_cons,named,mapped],forall_mem_cons.mpr ⟨⟨by rw [named]; exact text,named ▸ long⟩,each⟩⟩

theorem guard_some [Decidable condition]
    (guarded : guard condition = some u) : condition := by
  unfold guard at guarded
  split at guarded
  · assumption
  · cases guarded

/-- A supported gate asks for a selection or for a decision. -/
theorem gateAnswerCodec_cases {codec : Codec} (supported : gateAnswerCodec gate = some codec) :
    ∃ labels, (gateOptions gate).mapM optionLabel = some labels ∧ (codec = .ask (askCodec gate labels) ∨
        ∃ decisions, expectedDecisions (get gate "kind") = some decisions ∧ codec = .decision decisions ∧
          isDecisionGate gate (get gate "schema") (get (get gate "schema") "properties") decisions) := by
  simp only [gateAnswerCodec,Option.bind_eq_bind,Option.bind_eq_some_iff] at supported
  obtain ⟨_,_,_,_,labels,labelled,chosen⟩ := supported
  refine ⟨labels,labelled,?_⟩
  split at chosen
  · exact .inl (Option.some.inj chosen).symm
  · obtain ⟨decisions,expected,later⟩ := Option.bind_eq_some_iff.mp chosen
    obtain ⟨_,guarded,same⟩ := Option.bind_eq_some_iff.mp later
    exact .inr ⟨decisions,expected,(Option.some.inj same).symm,guard_some guarded⟩

theorem supported_ask {codec : AskCodec} (supported : gateAnswerCodec gate = some (.ask codec)) :
    codec.labels = (gateOptions gate).map labelOf ∧ ∀ option ∈ gateOptions gate,
      get option "label" = .string (labelOf option) ∧ labelOf option ≠ [] := by
  obtain ⟨labels,labelled,ask | ⟨_,_,decision,_⟩⟩ := gateAnswerCodec_cases supported
  · cases ask
    exact optionLabels labelled
  · cases decision

theorem expectedDecisions_cases (expected : expectedDecisions kind = some codec) :
    codec = ⟨"approval",APPROVAL_DECISIONS,"comments"⟩ ∨
      codec = ⟨"execution",EXECUTION_DECISIONS,"reason"⟩ := by
  unfold expectedDecisions at expected
  split at expected
  · exact .inl (Option.some.inj expected).symm
  split at expected
  · exact .inr (Option.some.inj expected).symm
  · cases expected

theorem zip_all_left {α β : Type} {test : α × β → Bool} {xs : List α} {ys : List β}
    (same : xs.length = ys.length) (all : (xs.zip ys).all test) :
    ∀ x ∈ xs, ∃ y ∈ ys, test (x,y) := by
  induction xs generalizing ys with
  | nil => simp
  | cons x xs ih =>
    cases ys with
    | nil => simp at same
    | cons y ys =>
      simp only [zip_cons_cons,all_cons,and_eq_true] at all
      refine forall_mem_cons.mpr ⟨⟨y,mem_cons_self,all.1⟩,fun z member => ?_⟩
      obtain ⟨w,inside,tested⟩ := ih (by simpa using same) all.2 z member
      exact ⟨w,mem_cons_of_mem _ inside,tested⟩

theorem supported_decision (supported : gateAnswerCodec gate = some (.decision codec)) :
    (codec = ⟨"approval",APPROVAL_DECISIONS,"comments"⟩ ∨ codec = ⟨"execution",EXECUTION_DECISIONS,"reason"⟩) ∧
      ∀ option ∈ gateOptions gate, ∃ decision ∈ codec.decisions,
        get option "value" = .string (ofString decision) := by
  obtain ⟨labels,labelled,ask | ⟨decisions,expected,decision,checked⟩⟩ := gateAnswerCodec_cases supported
  · cases ask
  · cases decision
    refine ⟨expectedDecisions_cases expected,fun option member => ?_⟩
    simp only [isDecisionGate,and_eq_true,beq_iff_eq] at checked
    obtain ⟨expected,listed,both⟩ := zip_all_left checked.1.2 checked.2 option member
    rw [and_eq_true] at both
    exact ⟨expected,listed,isText_iff.mp both.1⟩

variable (toLowerCase : Units → Units)

theorem parsed_text {text : Units}
    (read : parseStructuredGateAnswer (.string text) = .ok parsed) : parsed.text = trim text := by
  unfold parseStructuredGateAnswer at read
  dsimp only [asText] at read
  split at read
  · cases read; rfl
  split at read
  · cases read
  split at read <;> cases read
  rfl

theorem choiceAt_mem (chosen : choiceAt options n = some option) :
    option ∈ options := by
  unfold choiceAt at chosen
  split at chosen
  · split at chosen
    · exact mem_of_getElem? chosen
    · cases chosen
  · cases chosen

theorem matchGateChoice_mem {text : Units}
    (chosen : matchGateChoice toLowerCase options text = some option) : option ∈ options := by
  unfold matchGateChoice at chosen
  split at chosen
  · rename_i found
    cases chosen
    exact List.mem_of_find?_eq_some found
  · exact choiceAt_mem chosen

/-- One selected label. -/
theorem valid_selected {codec : AskCodec} (listed : label ∈ codec.labels) :
    validateAskAnswerShape (.object [(ofString "selected",.array [.string label])]) codec :=
  validateAskAnswerShape_iff.mpr ⟨.select [label],.select (by simp [hasOnlyKeys]) (.inl rfl) rfl (.inl rfl) rfl,
    .select (by simpa using listed) (nodup_singleton _) (by simp) (by simp)⟩

theorem valid_empty {codec : AskCodec} (allowed : codec.allowEmpty) :
    validateAskAnswerShape (.object [(ofString "selected",.array [])]) codec :=
  validateAskAnswerShape_iff.mpr ⟨.select [],.select (by decide) (.inl rfl) rfl (.inl rfl) rfl,
    .select (by simp) nodup_nil (by simp) (by simp [allowed])⟩

theorem valid_custom (codec : AskCodec) {text : Units} (ink : hasInk text) :
    validateAskAnswerShape (.object [(ofString "selected",.array []),(ofString "other",.bool true),
      (ofString "custom",.string text)]) codec :=
  validateAskAnswerShape_iff.mpr ⟨.other [] text,.other (by simp [hasOnlyKeys]) (.inl rfl) rfl rfl rfl,
    .other (by simp) nodup_nil (by simp) ink⟩

theorem valid_decision (listed : decision ∈ codec.decisions) (detailed : codec.detailKey ≠ "decision")
    (silent : codec.type = "approval" → decision ≠ "request-changes") :
    validateDecisionAnswerShape (.object [(ofString "decision",.string (ofString decision))]) codec := by
  have other : ofString codec.detailKey ≠ ofString "decision" := fun same => detailed (ofString_inj same)
  have missing : get (.object [(ofString "decision",.string (ofString decision))]) codec.detailKey =
      undefined := by
    simp [Record.get,Ne.symm other]
  refine validateDecisionAnswerShape_iff.mpr ⟨.decide decision none,
    .decide (by simp [hasOnlyKeys]) rfl missing,.decide listed fun approval same => ?_⟩
  exact absurd same (silent approval)

theorem encodeAskAnswer_valid {codec : AskCodec}
    (supported : gateAnswerCodec gate = some (.ask codec)) {text : Units}
    (encoded : encodeAskAnswer toLowerCase codec (gateOptions gate) (.string text) (trim text) = .ok answer) :
    validateAskAnswerShape answer codec := by
  unfold encodeAskAnswer at encoded
  split at encoded
  · rename_i choice chosen
    cases encoded
    obtain ⟨labels,each⟩ := supported_ask supported
    have member := matchGateChoice_mem toLowerCase chosen
    rw [(each choice member).1]
    exact valid_selected (labels ▸ mem_map_of_mem member)
  split at encoded
  · split at encoded
    · cases encoded
      exact valid_empty (by assumption)
    · cases encoded
  · rename_i ink
    cases encoded
    exact valid_custom codec (by rwa [trim_eq_nil,not_eq_false] at ink)

theorem encodeDecisionAnswer_valid (supported : gateAnswerCodec gate = some (.decision codec)) {text : Units}
    (encoded : encodeDecisionAnswer toLowerCase codec (gateOptions gate) text = .ok answer) :
    validateDecisionAnswerShape answer codec := by
  unfold encodeDecisionAnswer at encoded
  split at encoded
  · cases encoded
  rename_i choice chosen
  split at encoded
  · cases encoded
  rename_i silent
  cases encoded
  obtain ⟨which,each⟩ := supported_decision supported
  obtain ⟨decision,listed,named⟩ := each choice (matchGateChoice_mem toLowerCase chosen)
  rw [named] at silent ⊢
  refine valid_decision listed ?_ fun approval same => ?_
  · rcases which with rfl | rfl <;> decide
  · subst same
    simp [approval,isText] at silent

/-- Whatever a text is encoded as passes the shape check of its gate. -/
theorem encodeGateAnswer_valid {codec : Codec} (supported : gateAnswerCodec gate = some codec) {text : Units}
    (encoded : encodeGateAnswer toLowerCase gate (.string text) = .ok answer) :
    validateAnswerShape answer codec := by
  unfold encodeGateAnswer at encoded
  rw [supported] at encoded
  obtain ⟨parsed,read,later⟩ := except_bind_ok.mp encoded
  split at later
  · split at later
    · rename_i valid
      cases later
      exact valid
    · cases later
  · have trimmed : parsed.text = trim text := parsed_text read
    cases codec with
    | ask codec =>
      rw [trimmed] at later
      exact encodeAskAnswer_valid toLowerCase supported later
    | decision codec => exact encodeDecisionAnswer_valid toLowerCase supported later

/-- A member of an answer is printed as it is, or is `undefined`. -/
def Printable (value : Value) : Prop := Textual value ∨ value = undefined

theorem printable_texts : Printable (.array (labels.map .string)) := by
  refine .inl (.array fun item member => ?_)
  obtain ⟨label,_,rfl⟩ := mem_map.mp member
  exact .string label

theorem printable_optional (detail : Option Units) : Printable (optional detail) := by
  cases detail with
  | none => exact .inr rfl
  | some text => exact .inl (.string text)

theorem member_of_keys (distinct : (entries.map Prod.fst).Nodup) (keys : hasOnlyKeys (.object entries) allowed)
    (each : ∀ key ∈ allowed, Printable (get (.object entries) key)) :
    ∀ e ∈ entries, Printable e.2 := by
  rintro ⟨key,value⟩ member
  rw [hasOnlyKeys,all_eq_true] at keys
  obtain ⟨name,listed,rfl⟩ := mem_map.mp (contains_iff_mem.mp (keys _ member))
  have held := each name listed
  rwa [get_of_mem distinct member] at held

theorem Spells.printable {codec : Codec}
    (distinct : (entries.map Prod.fst).Nodup) (spells : Spells codec (.object entries) answer) :
    ∀ e ∈ entries, Printable e.2 := by
  cases spells with
  | clarify keys action question =>
    refine member_of_keys distinct keys ?_
    simp only [forall_mem_cons,action,question]
    exact ⟨.inl (.string _),.inl (.string _),by simp⟩
  | select keys action selected other custom =>
    refine member_of_keys distinct keys ?_
    simp only [forall_mem_cons,selected,custom]
    refine ⟨printable_texts _,?_,.inr rfl,?_,by simp⟩
    · rcases other with other | other <;> rw [other]
      · exact .inr rfl
      · exact .inl (.bool _)
    · rcases action with action | action <;> rw [action]
      · exact .inr rfl
      · exact .inl (.string _)
  | other keys action selected other custom =>
    refine member_of_keys distinct keys ?_
    simp only [forall_mem_cons,selected,other,custom]
    refine ⟨printable_texts _,.inl (.bool _),.inl (.string _),?_,by simp⟩
    rcases action with action | action <;> rw [action]
    · exact .inr rfl
    · exact .inl (.string _)
  | decide keys decision detail =>
    refine member_of_keys distinct keys ?_
    simp only [forall_mem_cons,decision,detail]
    exact ⟨.inl (.string _),printable_optional _,by simp⟩

theorem mem_printed (printable : ∀ e ∈ entries, Printable e.2)
    : e ∈ printed entries ↔ e ∈ entries ∧ e.2 ≠ undefined := by
  rw [printed,mem_filter]
  refine and_congr_right fun member => ?_
  rcases printable e member with textual | missing
  · have plain := textual.not_other
    split
    · rename_i tag same
      exact absurd same (plain tag)
    · simp [undefined,plain 0]
  · simp [missing,undefined]

theorem textual_printed (distinct : (entries.map Prod.fst).Nodup)
    (printable : ∀ e ∈ entries, Printable e.2) : Textual (.object (printed entries)) := by
  refine .object (distinct.sublist (filter_sublist.map _)) fun e member => ?_
  obtain ⟨inside,defined⟩ := (mem_printed printable).mp member
  exact (printable e inside).resolve_right defined

theorem get_missing
    (missing : ¬ ∃ value, (ofString key,value) ∈ entries) : get (.object entries) key = undefined := by
  refine get_of_absent fun there => missing ?_
  obtain ⟨⟨_,value⟩,member,same⟩ := any_eq_true.mp there
  rw [decide_eq_true_eq] at same
  exact ⟨value,same ▸ member⟩

/-- Dropping a member that is `undefined` leaves every look-up as it was. -/
theorem get_printed (distinct : (entries.map Prod.fst).Nodup)
    (printable : ∀ e ∈ entries, Printable e.2) (key : String) :
    get (.object (printed entries)) key = get (.object entries) key := by
  have distinct' : ((printed entries).map Prod.fst).Nodup := distinct.sublist (filter_sublist.map _)
  by_cases held : ∃ value, (ofString key,value) ∈ printed entries
  · obtain ⟨value,member⟩ := held
    rw [get_of_mem distinct' member,get_of_mem distinct ((mem_printed printable).mp member).1]
  · have gone : get (.object (printed entries)) key = undefined := get_missing held
    rw [gone]
    by_cases there : ∃ value, (ofString key,value) ∈ entries
    · obtain ⟨value,member⟩ := there
      rw [get_of_mem distinct member]
      by_contra defined
      exact held ⟨value,(mem_printed printable).mpr ⟨member,Ne.symm defined⟩⟩
    · exact (get_missing there).symm

theorem Spells.transfer {codec : Codec} {record next : Value} (same : ∀ key, get next key = get record key)
    (keys : ∀ allowed, hasOnlyKeys record allowed → hasOnlyKeys next allowed)
    (spells : Spells codec record answer) : Spells codec next answer := by
  cases spells with
  | clarify only action question =>
    exact .clarify (keys _ only) ((same _).trans action) ((same _).trans question)
  | select only action selected other custom =>
    exact .select (keys _ only) (by rwa [same]) ((same _).trans selected) (by rwa [same])
      ((same _).trans custom)
  | other only action selected other custom =>
    exact .other (keys _ only) (by rwa [same]) ((same _).trans selected) ((same _).trans other)
      ((same _).trans custom)
  | decide only decision detail =>
    exact .decide (keys _ only) ((same _).trans decision) ((same _).trans detail)

theorem trim_stringify (entries : List (Units × Value)) :
    trim (stringify (.object entries)) = stringify (.object entries) := by
  exact trim_of_ends (by decide) (by decide)

/-- The text of a valid answer is encoded as the answer, without the members that have no text. -/
theorem encodeGateAnswer_stringify {codec : Codec} (supported : gateAnswerCodec gate = some codec)
    (distinct : (entries.map Prod.fst).Nodup) (valid : validateAnswerShape (.object entries) codec) :
    encodeGateAnswer toLowerCase gate (.string (stringify (.object entries))) =
      .ok (.object (printed entries)) := by
  obtain ⟨answer,spells,legal⟩ := validateAnswerShape_iff.mp valid
  have printable := spells.printable distinct
  have read : JsonText.parse (stringify (.object entries)) = some (.object (printed entries)) := by
    rw [stringify_printed]
    exact parse_stringify (textual_printed distinct printable)
  have accepted : validateAnswerShape (.object (printed entries)) codec := by
    refine validateAnswerShape_iff.mpr ⟨answer,spells.transfer (get_printed distinct printable) ?_,legal⟩
    intro allowed keys
    rw [hasOnlyKeys,all_eq_true] at keys ⊢
    exact fun e member => keys e (mem_of_mem_filter member)
  have structured : looksStructured (stringify (.object entries)) := by
    rfl
  have parsed : parseStructuredGateAnswer (.string (stringify (.object entries))) =
      .ok ⟨stringify (.object entries),some (.object (printed entries))⟩ := by
    simp [parseStructuredGateAnswer,asText,trim_stringify,structured,read,isPlainObject]
  rw [encodeGateAnswer,supported]
  rw [parsed]
  simp [bind,Except.bind,accepted,pure,Except.pure]

theorem printed_of_defined (printable : ∀ e ∈ entries, Printable e.2)
    (defined : ∀ e ∈ entries, e.2 ≠ undefined) : printed entries = entries := by
  refine filter_eq_self.mpr fun e member => ?_
  exact (mem_filter.mp ((mem_printed printable).mpr ⟨member,defined e member⟩)).2

/-- Of every supported gate and every text: what is encoded passes the shape check, and spells a legal
answer. Of every record that passes it: its JSON text is encoded as the record, where a member that is
`undefined` has no text. -/
theorem encodeGateAnswer_sound_and_complete {gate : Value} {codec : Codec}
    (supported : gateAnswerCodec gate = some codec) :
    (∀ text answer, encodeGateAnswer toLowerCase gate (.string text) = .ok answer →
      validateAnswerShape answer codec = true ∧ ∃ said, Spells codec answer said ∧ Legal codec said) ∧
    (∀ members : OrderedMap Units Value, validateAnswerShape (.object members.entries) codec = true →
      encodeGateAnswer toLowerCase gate (.string (stringify (.object members.entries))) =
        .ok (.object (printed members.entries)) ∧
      ((∀ e ∈ members.entries, e.2 ≠ undefined) → printed members.entries = members.entries)) := by
  refine ⟨fun text answer encoded => ?_,fun members valid => ⟨?_,fun defined => ?_⟩⟩
  · have valid := encodeGateAnswer_valid toLowerCase supported encoded
    exact ⟨valid,validateAnswerShape_iff.mp valid⟩
  · exact encodeGateAnswer_stringify toLowerCase supported members.distinct valid
  · obtain ⟨answer,spells,_⟩ := validateAnswerShape_iff.mp valid
    exact printed_of_defined (spells.printable members.distinct) defined

/-- The gate of a round of questions, with the members that the codec reads. -/
def askGate (labels : List Units) (multi allowEmpty : Bool) : Value :=
  let texts := Value.array (labels.map .string)
  let selected := record [("type",text "array"),("items",record [("type",text "string"),("enum",texts)]),
    ("uniqueItems",.bool true)]
  let action := record [("type",text "string"),("enum",.array [text "answer",text "clarify"])]
  let properties := record [("selected",selected),("other",record [("type",text "boolean")]),
    ("custom",record [("type",text "string")]),("action",action),("question",record [("type",text "string")])]
  let object := record [("type",text "object")]
  let schema := record [("type",text "object"),("properties",properties),("additionalProperties",.bool false),
    ("anyOf",.array [object,object,object])]
  let state := record [("multi",.bool multi),("options",texts),("other_option",text "Other (type your own)"),
    ("clarification_action",text "clarify"),("allow_empty",.bool allowEmpty)]
  record [("kind",text "question"),("schema",schema),
    ("options",.array (labels.map fun label => record [("value",.string label),("label",.string label)])),
    ("context",record [("stage_state",state)])]

theorem sameArray_texts : sameArray (.array (labels.map .string)) labels := by
  have each : ((labels.map Value.string).zip labels).all (fun pair => asText pair.1 == some pair.2) := by
    induction labels with
    | nil => rfl
    | cons label rest ih => simpa [asText] using ih
  simp [sameArray,isArray,itemsOf,each]

theorem askGate_options (multi allowEmpty : Bool) :
    gateOptions (askGate labels multi allowEmpty) =
      labels.map fun label => record [("value",.string label),("label",.string label)] := by
  simp [gateOptions,askGate,get_record_cons,itemsOf]

/-- Such a gate is supported whatever its labels are, as long as none is empty. -/
theorem askGate_supported {labels : List Units} (multi allowEmpty : Bool)
    (named : ∀ label ∈ labels, label ≠ []) :
    gateAnswerCodec (askGate labels multi allowEmpty) = some (.ask ⟨labels,multi,allowEmpty⟩) := by
  have plain (members : List (String × Value)) : isPlainObject (record members) := rfl
  have labelled : (gateOptions (askGate labels multi allowEmpty)).mapM optionLabel = some labels := by
    rw [askGate_options]
    induction labels with
    | nil => rfl
    | cons label rest ih =>
      have long : 0 < label.length := length_pos_iff.mpr (named label mem_cons_self)
      have later := ih fun other member => named other (mem_cons_of_mem _ member)
      rw [map_cons,mapM_cons,later]
      simp [optionLabel,plain,get_record_cons,asText,Option.filter,long]
  have sameValue : ∀ option ∈ gateOptions (askGate labels multi allowEmpty),
      strictEqual (get option "value") (get option "label") := by
    rw [askGate_options]
    intro option member
    obtain ⟨label,_,rfl⟩ := mem_map.mp member
    simp [get_record_cons,strictEqual]
  have ask : isAskGate (askGate labels multi allowEmpty) (get (askGate labels multi allowEmpty) "schema")
      (get (get (askGate labels multi allowEmpty) "schema") "properties") labels := by
    rw [isAskGate,all_eq_true.mpr sameValue]
    simp only [askGate,get_record_cons,reduceIte,String.reduceEq,plain,sameArray_texts,isTrue,asBool,
      isArray,itemsOf,text,isText]
    rfl
  have codec : askCodec (askGate labels multi allowEmpty) labels = ⟨labels,multi,allowEmpty⟩ := by
    simp [askCodec,askGate,get_record_cons,isTrue,asBool]
  rw [gateAnswerCodec,labelled]
  simp only [Option.bind_eq_bind,Option.bind_some,ask,reduceIte,codec,Option.pure_def]
  simp [askGate,get_record_cons,isOneOf,GATE_KINDS,plain,isText,isFalse,asBool,text,guard]

theorem encodeGateAnswer_sound_and_complete_sample :
    (∀ text answer, encodeGateAnswer lowerAscii (askGate [ofString "A"] true false) (.string text) = .ok answer →
      validateAnswerShape answer (.ask ⟨[ofString "A"],true,false⟩) = true ∧
        ∃ said, Spells (.ask ⟨[ofString "A"],true,false⟩) answer said ∧
          Legal (.ask ⟨[ofString "A"],true,false⟩) said) ∧ (∀ members : OrderedMap Units Value,
      validateAnswerShape (.object members.entries) (.ask ⟨[ofString "A"],true,false⟩) = true →
      encodeGateAnswer lowerAscii (askGate [ofString "A"] true false) (.string (stringify (.object members.entries))) =
        .ok (.object (printed members.entries)) ∧
      ((∀ e ∈ members.entries, e.2 ≠ undefined) → printed members.entries = members.entries)) :=
  encodeGateAnswer_sound_and_complete lowerAscii (askGate_supported true false (by decide))

end GjcRemote.WorkflowGate
