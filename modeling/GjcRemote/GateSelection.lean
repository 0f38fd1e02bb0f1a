import GjcRemote.GateAnswer
import GjcRemote.GateEncoding

/-! The choices of a workflow gate between the daemon and Discord: the request the daemon builds, from
`daemon/src/sdk-session.js` and `shared/protocol.js`, the controls of `bot/src/gate-presentation.js` and
the answer that `bot/src/bot.js` takes from them. Left out are the colours and hints of the controls. -/
namespace GjcRemote.WorkflowGate

open Utf16 StrictJson Record JsText JsonText
open List hiding get splitOn
open MappingEnvelope (isUndefined splitOn)
open ServiceEnvelope (record text get_record_cons)

def GATE_ID : Nat := 128
def REQUEST_ID : Nat := 128
def GATE_PROMPT : Nat := 16 * 1024
def CHOICE_LABEL : Nat := 1024
def MAX_CHOICES : Nat := 64

def isBoundedString (value : Value) (maxLength : Nat) : Bool :=
  (asText value).any fun units => units.length ≤ maxLength && 0 < units.length

/-- The first of the context's texts with something to read in it. -/
def gatePrompt (gate : Value) : Units :=
  let context := get gate "context"
  let candidates := ([get context "prompt",get context "title",get context "summary"].filterMap asText)
  (candidates.find? fun candidate => 0 < (trim candidate).length).getD
    (ofString "The workflow is waiting for your answer.")

def isChoice (choice : Value) : Bool :=
  hasExactKeys choice ["value","label"] && isBoundedString (get choice "label") CHOICE_LABEL

def isGateRequestEvent (value : Value) : Bool :=
  let present (field : String) : List String := if hasOwn value field then [field] else []
  let fields := ["type","gateId","presentationId","prompt","kind"] ++ present "requestId" ++
    present "multi" ++ present "choices"
  hasExactKeys value fields && isText "gate_request" (get value "type") &&
    isBoundedString (get value "gateId") GATE_ID &&
    isBoundedString (get value "presentationId") REQUEST_ID &&
    isBoundedString (get value "prompt") GATE_PROMPT && isOneOf GATE_KINDS (get value "kind") &&
    (!hasOwn value "requestId" || isBoundedString (get value "requestId") REQUEST_ID) &&
    (!hasOwn value "multi" || (asBool (get value "multi")).isSome) &&
    (!hasOwn value "choices" || isArray (get value "choices") &&
      decide ((itemsOf (get value "choices")).length ≤ MAX_CHOICES) &&
      (itemsOf (get value "choices")).all isChoice)

def Codec.multi : Codec → Bool
  | .ask codec => codec.multi
  | .decision _ => false

/-- The event that `#buildGateRequestEvent` checks before it returns it. -/
def gateRequest (gate gateId presentationId : Value) (codec : Codec) : Value :=
  let choices := (gateOptions gate).map fun option =>
    record [("value",get option "value"),("label",get option "label")]
  record ([("type",text "gate_request"),("gateId",gateId),("presentationId",presentationId),
    ("prompt",.string (gatePrompt gate)),("kind",get gate "kind")] ++
    (if codec.multi then [("multi",.bool true)] else []) ++
    if choices = [] then [] else [("choices",.array choices)])

def buildGateRequestEvent (gate gateId presentationId : Value) : Option Value := do
  let codec ← gateAnswerCodec gate
  guard ((gatePrompt gate).length ≤ GATE_PROMPT && (gateOptions gate).length ≤ MAX_CHOICES &&
    (gateOptions gate).all fun option => isBoundedString (get option "label") CHOICE_LABEL)
  guard (isGateRequestEvent (gateRequest gate gateId presentationId codec))
  return gateRequest gate gateId presentationId codec

structure Presentation where
  token : Units
  /-- Tokens are UUIDs. -/
  plain : ∀ u ∈ token, u ≠ 0x3A
  state : GateAnswer.State
  userId : Units
  channelId : Units
  messageId : Units
  choices : List Value
  multi : Bool

section

variable (entry : Presentation)

/-- What `renderGatePresentation` copies from a request. -/
def Presentation.shows (gate : Value) : Prop :=
  entry.choices = itemsOf (get gate "choices") ∧ entry.multi = isTrue (get gate "multi")

inductive Component where
  | button (customId label : Units) (disabled : Bool)
  | menu (customId : Units) (disabled : Bool) (options : List (Units × Units))

def customId (token : Units) (kind : String) (number : Nat) : Units :=
  ofString "gate" ++ 0x3A :: (token ++ 0x3A :: (ofString kind ++ 0x3A :: digitUnits number))

def choiceMenu (disabled : Bool) (offset : Nat) : Component :=
  .menu (customId entry.token "select" offset) disabled
    (((entry.choices.drop offset).take 25).mapIdx fun index choice =>
      ((labelOf choice).take 100,digitUnits (offset + index)))

def gateComponentRows (disabled : Bool) : List (List Component) :=
  if entry.multi || entry.choices.length = 0 then []
  else if entry.choices.length ≤ 5 then
    [entry.choices.mapIdx fun index choice =>
      .button (customId entry.token "choice" index) ((labelOf choice).take 80) disabled]
  else (range ((entry.choices.length + 24) / 25)).map fun k => [choiceMenu entry disabled (25 * k)]

structure Interaction where
  customId : Units
  values : List Units
  userId : Units
  channelId : Units
  messageId : Units

def Component.sends (component : Component) (interaction : Interaction) : String → Prop
  | "choice" => ∃ label, component = .button interaction.customId label false ∧ interaction.values = []
  | "select" => ∃ options, component = .menu interaction.customId false options ∧
      ∃ option ∈ options, interaction.values = [option.2]
  | _ => False

/-- `Number.isInteger`, with the integer. -/
def integerOf : Number → Option Int
  | .int n => some n
  | .negativeZero => some 0
  | .other _ => none

def gateComponentSelection (presentations : Units → Option Presentation) (interaction : Interaction)
    (kind : String) : Option (Presentation × Units) :=
  match splitOn (· == 0x3A) interaction.customId with
  | [gate,token,control,number] => do
    guard (gate == ofString "gate" && control == ofString kind)
    let declared := integerOf (toNumber number)
    let picked := interaction.values.head?.bind fun value => integerOf (toNumber value)
    let entry ← presentations token
    let index ← if kind = "choice" then declared else picked
    guard (entry.state == .answerable && entry.userId == interaction.userId &&
      entry.channelId == interaction.channelId && entry.messageId == interaction.messageId &&
      0 ≤ index && index < entry.choices.length &&
      (kind != "select" || declared.any fun offset => offset ≤ index && index < offset + 25))
    let choice ← entry.choices[index.toNat]?
    return (entry,labelOf choice)
  | _ => none

theorem get_record_nil (key : String) : get (record []) key = undefined := rfl

/-- A request carries the labels of the options, at most as many as a frame may. -/
theorem request_choices (built : buildGateRequestEvent gate gateId presentationId = some event) :
    (itemsOf (get event "choices")).map labelOf = (gateOptions gate).map labelOf ∧
      (gateOptions gate).length ≤ MAX_CHOICES := by
  simp only [buildGateRequestEvent,Option.bind_eq_bind,Option.bind_eq_some_iff] at built
  obtain ⟨codec,_,_,bounds,_,_,same⟩ := built
  cases same
  have bounded := guard_some bounds
  simp only [Bool.and_eq_true,decide_eq_true_eq] at bounded
  refine ⟨?_,bounded.1.2⟩
  have choices : itemsOf (get (gateRequest gate gateId presentationId codec) "choices") =
      (gateOptions gate).map fun option =>
        record [("value",get option "value"),("label",get option "label")] := by
    cases options : gateOptions gate with
    | nil => cases multi : codec.multi <;>
        simp [gateRequest,options,multi,get_record_cons,get_record_nil,itemsOf,undefined]
    | cons option rest => cases multi : codec.multi <;>
        simp [gateRequest,options,multi,get_record_cons,itemsOf]
  rw [choices,map_map]
  apply map_congr_left
  intro option _
  simp [labelOf,get_record_cons]

theorem request_multi (supported : gateAnswerCodec gate = some codec)
    (built : buildGateRequestEvent gate gateId presentationId = some event) :
    isTrue (get event "multi") = codec.multi := by
  simp only [buildGateRequestEvent,Option.bind_eq_bind,Option.bind_eq_some_iff] at built
  obtain ⟨found,supported',_,_,_,_,same⟩ := built
  cases same
  obtain rfl : codec = found := Option.some.inj (supported.symm.trans supported')
  cases multi : codec.multi <;> cases options : gateOptions gate <;>
    simp [gateRequest,options,multi,get_record_cons,get_record_nil,isTrue,asBool,undefined]

theorem splitOn_segment {segment : Units} (separator : separates u)
    (plain : ∀ v ∈ segment, separates v = false) (rest : Units) :
    splitOn separates (segment ++ u :: rest) = segment :: splitOn separates rest := by
  induction segment with
  | nil => simp [splitOn,separator]
  | cons v segment ih =>
    have inside := plain v mem_cons_self
    have later := ih fun w member => plain w (mem_cons_of_mem _ member)
    simp [splitOn,inside,later]

theorem splitOn_whole {segment : Units}
    (plain : ∀ v ∈ segment, separates v = false) : splitOn separates segment = [segment] := by
  induction segment with
  | nil => rfl
  | cons v segment ih =>
    have inside := plain v mem_cons_self
    have later := ih fun w member => plain w (mem_cons_of_mem _ member)
    simp [splitOn,inside,later]

theorem no_colon : ∀ name ∈ ["gate","choice","select"], ∀ v ∈ ofString name, (v == 0x3A) = false := by
  have gate : ofString "gate" = [0x67,0x61,0x74,0x65] := rfl
  have choice : ofString "choice" = [0x63,0x68,0x6F,0x69,0x63,0x65] := rfl
  have select : ofString "select" = [0x73,0x65,0x6C,0x65,0x63,0x74] := rfl
  simp [gate,choice,select]

theorem splitOn_customId (entry : Presentation) (number : Nat) (listed : kind ∈ ["gate","choice","select"]) :
    splitOn (· == 0x3A) (customId entry.token kind number) =
      [ofString "gate",entry.token,ofString kind,digitUnits number] := by
  have token : ∀ v ∈ entry.token, (v == 0x3A) = false := fun v member => by
    simpa using entry.plain v member
  have digits : ∀ v ∈ digitUnits number, (v == 0x3A) = false := by
    intro v member
    have digit := digitUnits_digits number v member
    rw [beq_eq_false_iff_ne]
    rintro rfl
    revert digit
    decide
  rw [customId,splitOn_segment (by decide) (no_colon "gate" (by simp)),splitOn_segment (by decide) token,
    splitOn_segment (by decide) (no_colon kind listed),splitOn_whole digits]

def optionUse (index : Nat) : String × Interaction :=
  if entry.choices.length ≤ 5 then
    ("choice",⟨customId entry.token "choice" index,[],entry.userId,entry.channelId,entry.messageId⟩)
  else
    ("select",⟨customId entry.token "select" (25 * (index / 25)),[digitUnits index],
      entry.userId,entry.channelId,entry.messageId⟩)

end

/-- Every option of a presentation has its control. -/
theorem optionUse_sent (single : entry.multi = false) (bound : index < entry.choices.length) :
    ∃ row ∈ gateComponentRows entry false, ∃ component ∈ row,
      component.sends (optionUse entry index).2 (optionUse entry index).1 := by
  have shown : ¬ (entry.multi || decide (entry.choices.length = 0)) := by
    simp [single]
    rintro nothing
    simp [nothing] at bound
  rw [gateComponentRows,if_neg shown,optionUse]
  split
  · refine ⟨_,mem_singleton_self _,_,mem_iff_getElem.mpr ⟨index,by simpa using bound,rfl⟩,
      (labelOf entry.choices[index]).take 80,?_,rfl⟩
    simp
  · refine ⟨[choiceMenu entry false (25 * (index / 25))],?_,_,mem_singleton_self _,_,rfl,?_⟩
    · exact mem_map.mpr ⟨index / 25,mem_range.mpr (by omega),rfl⟩
    · have inside : index % 25 < ((entry.choices.drop (25 * (index / 25))).take 25).length := by
        rw [length_take,length_drop]
        omega
      refine ⟨_,mem_iff_getElem.mpr ⟨index % 25,by simpa using inside,rfl⟩,?_⟩
      have place : 25 * (index / 25) + index % 25 = index := by omega
      simp [place]

/-- The control of an option sends its label. -/
theorem gateComponentSelection_optionUse (held : presentations entry.token = some entry)
    (answerable : entry.state = .answerable) (few : entry.choices.length ≤ MAX_CHOICES)
    (bound : index < entry.choices.length) :
    gateComponentSelection presentations (optionUse entry index).2 (optionUse entry index).1 =
      some (entry,labelOf entry.choices[index]) := by
  have small : index < 2 ^ 53 := by
    rw [MAX_CHOICES] at few
    omega
  rw [optionUse]
  split
  · rw [gateComponentSelection,splitOn_customId entry index (by simp)]
    simp [held,answerable,toNumber_digitUnits small,integerOf,bound,guard]
  · have offset : 25 * (index / 25) < 2 ^ 53 := by omega
    have low : 25 * ((index : Int) / 25) ≤ index := by omega
    have high : (index : Int) < 25 * ((index : Int) / 25) + 25 := by omega
    rw [gateComponentSelection,splitOn_customId entry _ (by simp)]
    simp only [toNumber_digitUnits offset,toNumber_digitUnits small,head?_cons,Option.bind_some,integerOf]
    simp [held,answerable,bound,low,high,guard]

variable (toLowerCase : Units → Units)

def SelectsExactly (codec : AskCodec) (result : Except String Value) (index : Nat) : Prop :=
  ∃ answer chosen, result = .ok answer ∧ Spells (.ask codec) answer (.select chosen) ∧
    ∀ (j : Nat) (bound : j < codec.labels.length), codec.labels[j] ∈ chosen ↔ j = index

def Chooses (labels : List Units) (text : Units) (place : Nat) : Prop :=
  labels.findIdx? (fun other => toLowerCase other == toLowerCase text) = some place ∨
    ((∀ other ∈ labels, toLowerCase other ≠ toLowerCase text) ∧ toNumber text = .int (place + 1))

/-- The trimmed label does not look like JSON, and it finds its own option: as the first whose label is
the same but for the case, or, when there is none, by its number. No other option has the same label. -/
structure FindsItself (labels : List Units) (index : Nat) (label : Units) : Prop where
  plain : looksStructured (trim label) = false
  chooses : Chooses toLowerCase labels (trim label) index
  alone : ∀ (j : Nat) (bound : j < labels.length), labels[j] = label → j = index

theorem choiceAt_eq_some :
    choiceAt options n = some choice ↔ ∃ place : Nat, n = .int (place + 1) ∧ options[place]? = some choice := by
  unfold choiceAt
  split
  · rename_i index
    constructor
    · intro chosen
      split at chosen
      · exact ⟨(index - 1).toNat,congrArg Number.int (by omega),chosen⟩
      · cases chosen
    · rintro ⟨place,same,chosen⟩
      cases same
      simpa using chosen
  · rename_i other
    simp only [reduceCtorEq,false_iff,not_exists,not_and]
    rintro place rfl
    exact absurd rfl (other _)

theorem matchGateChoice_eq_some {text : Units} :
    matchGateChoice toLowerCase options text = some choice ↔
      ∃ place, options[place]? = some choice ∧ Chooses toLowerCase (options.map labelOf) text place := by
  unfold matchGateChoice Chooses
  rw [findIdx?_map,find?_eq_bind_findIdx?_getElem?]
  cases first : options.findIdx? fun option => toLowerCase (labelOf option) == toLowerCase text with
  | some place =>
    obtain ⟨bound,same,_⟩ := findIdx?_eq_some_iff_getElem.mp first
    have listed : labelOf options[place] ∈ options.map labelOf := mem_map_of_mem (getElem_mem bound)
    have clash : ¬ ∀ other ∈ options.map labelOf, toLowerCase other ≠ toLowerCase text :=
      fun none_same => none_same _ listed (by simpa using same)
    simp only [Option.bind_some,getElem?_eq_getElem bound,Function.comp_def,first,clash,false_and,or_false]
    constructor
    · rintro same
      cases same
      exact ⟨place,getElem?_eq_getElem bound,rfl⟩
    · rintro ⟨_,chosen,same⟩
      cases same
      rw [← chosen,getElem?_eq_getElem bound]
  | none =>
    have absent : ∀ other ∈ options.map labelOf, toLowerCase other ≠ toLowerCase text := by
      intro other member
      obtain ⟨option,inside,rfl⟩ := mem_map.mp member
      simpa using findIdx?_eq_none_iff.mp first option inside
    simp only [Option.bind_none,Function.comp_def,first,reduceCtorEq,false_or]
    rw [choiceAt_eq_some]
    constructor
    · rintro ⟨place,number,chosen⟩
      exact ⟨place,chosen,absent,number⟩
    · rintro ⟨place,chosen,_,number⟩
      exact ⟨place,number,chosen⟩

theorem over_get (held : Over P value) (key : String) :
    Over P (get value key) ∨ get value key = undefined := by
  cases held with
  | @object entries each =>
    rw [Record.get]
    cases found : entries.find? fun e => decide (e.1 = ofString key) with
    | none => exact .inr rfl
    | some e => exact .inl (each e (mem_of_find?_eq_some found))
  | _ => exact .inr rfl

/-- A structured answer never selects the text it was read from. -/
theorem structured_shorter {text : Units} (read : JsonText.parse text = some parsed)
    {chosen : List Units} (selected : get parsed "selected" = .array (chosen.map .string)) :
    ∀ label ∈ chosen, label.length < text.length := by
  intro label member
  have held := over_get (parse_over read) "selected"
  rw [selected] at held
  rcases held with held | missing
  · cases held with
    | array each =>
      have inner := each (.string label) (mem_map_of_mem member)
      cases inner with
      | string bound => exact bound
  · cases missing

variable {codec : AskCodec}

theorem encodeGateAnswer_plain (supported : gateAnswerCodec gate = some (.ask codec))
    (plain : looksStructured (trim label) = false) :
    encodeGateAnswer toLowerCase gate (.string label) =
      encodeAskAnswer toLowerCase codec (gateOptions gate) (.string label) (trim label) := by
  have read : parseStructuredGateAnswer (.string label) = .ok ⟨trim label,none⟩ := by
    simp [parseStructuredGateAnswer,asText,plain]
  rw [encodeGateAnswer,supported]
  rw [read]
  rfl

/-- A structured answer is the one the text spells. -/
theorem encodeGateAnswer_structured (supported : gateAnswerCodec gate = some (.ask codec))
    (structured : looksStructured (trim label))
    (encoded : encodeGateAnswer toLowerCase gate (.string label) = .ok answer) :
    JsonText.parse (trim label) = some answer := by
  rw [encodeGateAnswer,supported] at encoded
  obtain ⟨parsed,read,later⟩ := except_bind_ok.mp encoded
  simp only [parseStructuredGateAnswer,asText,structured,Bool.not_true,Bool.false_eq_true,reduceIte] at read
  split at read
  · cases read
  rename_i found
  split at read
  · cases read
    dsimp only at later
    split at later <;> cases later
    exact found
  · cases read

theorem spells_selected
    (spells : Spells (.ask codec) (.object [(ofString "selected",.array [label])]) (.select chosen)) :
    [label] = chosen.map .string := by
  cases spells with
  | select _ _ selected _ _ =>
    have same : get (.object [(ofString "selected",.array [label])]) "selected" = .array [label] := by
      simp [Record.get]
    exact Value.array.inj (same.symm.trans selected)

/-- The label of an option selects exactly the option if and only if it finds itself. -/
theorem selectsExactly_iff
    (supported : gateAnswerCodec gate = some (.ask codec)) (bound : index < codec.labels.length) :
    SelectsExactly codec (encodeGateAnswer toLowerCase gate (.string codec.labels[index])) index ↔
      FindsItself toLowerCase codec.labels index codec.labels[index] := by
  obtain ⟨labels,each⟩ := supported_ask supported
  constructor
  · rintro ⟨answer,chosen,encoded,spells,exactly⟩
    have own := (exactly index bound).mpr rfl
    have alone : ∀ (j : Nat) (bound' : j < codec.labels.length),
        codec.labels[j] = codec.labels[index] → j = index :=
      fun j bound' same => (exactly j bound').mp (same ▸ own)
    cases structured : looksStructured (trim codec.labels[index]) with
    | true =>
      have read := encodeGateAnswer_structured toLowerCase supported structured encoded
      cases spells with
      | select _ _ selected _ _ =>
        have shorter := structured_shorter read selected _ own
        have trimmed := trim_length codec.labels[index]
        omega
    | false =>
      rw [encodeGateAnswer_plain toLowerCase supported structured] at encoded
      refine ⟨structured,?_,alone⟩
      unfold encodeAskAnswer at encoded
      split at encoded
      · rename_i choice matched
        cases encoded
        obtain ⟨place,there,chooses⟩ := (matchGateChoice_eq_some toLowerCase).mp matched
        have named : codec.labels[place]? = some (labelOf choice) := by
          rw [labels,getElem?_map,there]
          rfl
        obtain ⟨inside,same⟩ := List.getElem?_eq_some_iff.mp named
        rw [(each choice (mem_of_getElem? there)).1] at spells
        have one : [labelOf choice] = chosen :=
          map_injective_iff.mpr (fun _ _ equal => Value.string.inj equal) (spells_selected spells)
        have here := (exactly place inside).mp (by rw [same,← one]; exact mem_singleton_self _)
        rw [← labels,here] at chooses
        exact chooses
      split at encoded
      · split at encoded <;> cases encoded
        cases spells with
        | select _ _ selected _ _ =>
          have nothing : [] = chosen.map Value.string := Value.array.inj selected
          rw [map_eq_nil_iff.mp nothing.symm] at own
          cases own
      · cases encoded
        cases spells with
        | select _ _ _ other _ =>
          rcases other with other | other <;> cases other
  · intro itself
    have inside : index < (gateOptions gate).length := by simpa [labels] using bound
    have there : (gateOptions gate)[index]? = some (gateOptions gate)[index] := getElem?_eq_getElem inside
    have named : codec.labels[index] = labelOf (gateOptions gate)[index] := by simp [labels]
    have matched : matchGateChoice toLowerCase (gateOptions gate) (trim codec.labels[index]) =
        some (gateOptions gate)[index] :=
      (matchGateChoice_eq_some toLowerCase).mpr ⟨index,there,by rw [← labels]; exact itself.chooses⟩
    refine ⟨.object [(ofString "selected",.array [.string codec.labels[index]])],[codec.labels[index]],?_,
      .select (by simp [hasOnlyKeys]) (.inl rfl) rfl (.inl rfl) rfl,fun j bound' => ?_⟩
    · rw [encodeGateAnswer_plain toLowerCase supported itself.plain,encodeAskAnswer,matched]
      dsimp only
      rw [(each _ (getElem_mem inside)).1,named]
    · rw [mem_singleton]
      exact ⟨itself.alone j bound',fun same => by subst same; rfl⟩

/-- End to end, for every option of a gate with a single selection that can be shown: it has a control,
the control sends its label, and the daemon encodes the label as a selection of exactly this option if
and only if the label finds itself. -/
theorem option_selection_iff {presentations : Units → Option Presentation}
    {gate gateId presentationId event : Value} {codec : AskCodec} {entry : Presentation}
    (supported : gateAnswerCodec gate = some (.ask codec)) (single : codec.multi = false)
    (built : buildGateRequestEvent gate gateId presentationId = some event) (shown : entry.shows event)
    (held : presentations entry.token = some entry) (answerable : entry.state = .answerable)
    {index : Nat} (bound : index < codec.labels.length) :
    (∃ row ∈ gateComponentRows entry false, ∃ component ∈ row,
      component.sends (optionUse entry index).2 (optionUse entry index).1) ∧
    gateComponentSelection presentations (optionUse entry index).2 (optionUse entry index).1 =
      some (entry,codec.labels[index]) ∧
    (SelectsExactly codec (encodeGateAnswer toLowerCase gate (.string codec.labels[index])) index ↔
      FindsItself toLowerCase codec.labels index codec.labels[index]) := by
  obtain ⟨labelled,few⟩ := request_choices built
  have labels : codec.labels = entry.choices.map labelOf := by
    rw [shown.1,labelled,(supported_ask supported).1]
  have alone : entry.multi = false := by
    rw [shown.2,request_multi supported built]
    exact single
  have count : entry.choices.length = (gateOptions gate).length := by
    rw [shown.1,← length_map labelOf,labelled,length_map]
  have inside : index < entry.choices.length := by simpa [labels] using bound
  refine ⟨optionUse_sent alone inside,?_,selectsExactly_iff toLowerCase supported bound⟩
  rw [gateComponentSelection_optionUse held answerable (count ▸ few) inside]
  simp [labels]

def roundOf (labels : List String) : Value := askGate (labels.map ofString) false false

def roundCodec (labels : List String) : AskCodec := ⟨labels.map ofString,false,false⟩

/-- A presentation of a round that waits for its answer. -/
def shownRound (labels : List String) : Presentation where
  token := [0x74]
  plain := by simp
  state := .answerable
  userId := ofString "u"
  channelId := ofString "c"
  messageId := ofString "m"
  choices := (labels.map ofString).map fun label => record [("value",.string label),("label",.string label)]
  multi := false

theorem option_selection_iff_sample :
    (∃ row ∈ gateComponentRows (shownRound ["yes","no"]) false, ∃ component ∈ row,
      component.sends (optionUse (shownRound ["yes","no"]) 1).2 (optionUse (shownRound ["yes","no"]) 1).1) ∧
    gateComponentSelection (fun _ => some (shownRound ["yes","no"])) (optionUse (shownRound ["yes","no"]) 1).2
      (optionUse (shownRound ["yes","no"]) 1).1 = some (shownRound ["yes","no"],ofString "no") ∧
    (SelectsExactly (roundCodec ["yes","no"])
        (encodeGateAnswer lowerAscii (roundOf ["yes","no"]) (.string (ofString "no"))) 1 ↔
      FindsItself lowerAscii (roundCodec ["yes","no"]).labels 1 (ofString "no")) :=
  @option_selection_iff lowerAscii (fun _ => some (shownRound ["yes","no"])) (roundOf ["yes","no"])
    (text "g") (text "p")
    (gateRequest (roundOf ["yes","no"]) (text "g") (text "p") (.ask (roundCodec ["yes","no"])))
    (roundCodec ["yes","no"]) (shownRound ["yes","no"]) (askGate_supported false false (by decide)) rfl rfl
    ⟨rfl,rfl⟩ rfl rfl 1 (by decide)

/-- A label that looks like JSON is rejected, and one that differs from an earlier label in its case
selects the earlier option. -/
theorem option_selection_fails :
    ((buildGateRequestEvent (roundOf ["\x7bdraft\x7d"]) (text "g") (text "p")).isSome = true ∧
      encodeGateAnswer lowerAscii (roundOf ["\x7bdraft\x7d"]) (.string (ofString "\x7bdraft\x7d")) =
        .error "structured gate answer is not valid JSON" ∧ ¬ SelectsExactly (roundCodec ["\x7bdraft\x7d"])
        (encodeGateAnswer lowerAscii (roundOf ["\x7bdraft\x7d"]) (.string (ofString "\x7bdraft\x7d"))) 0) ∧
    ((buildGateRequestEvent (roundOf ["yes","YES"]) (text "g") (text "p")).isSome = true ∧
      encodeGateAnswer lowerAscii (roundOf ["yes","YES"]) (.string (ofString "YES")) =
        .ok (.object [(ofString "selected",.array [.string (ofString "yes")])]) ∧
      ¬ SelectsExactly (roundCodec ["yes","YES"])
        (encodeGateAnswer lowerAscii (roundOf ["yes","YES"]) (.string (ofString "YES"))) 1) := by
  have rejected : encodeGateAnswer lowerAscii (roundOf ["\x7bdraft\x7d"])
      (.string (ofString "\x7bdraft\x7d")) = .error "structured gate answer is not valid JSON" := rfl
  have earlier : encodeGateAnswer lowerAscii (roundOf ["yes","YES"]) (.string (ofString "YES")) =
      .ok (.object [(ofString "selected",.array [.string (ofString "yes")])]) := rfl
  refine ⟨⟨rfl,rejected,?_⟩,rfl,earlier,?_⟩
  · rintro ⟨answer,chosen,encoded,_⟩
    cases encoded
  · rintro ⟨answer,chosen,encoded,spells,exactly⟩
    cases encoded
    have one : [ofString "yes"] = chosen :=
      map_injective_iff.mpr (fun _ _ equal => Value.string.inj equal) (spells_selected spells)
    have first := (exactly 0 (by decide)).mp (by rw [← one]; decide)
    cases first

end GjcRemote.WorkflowGate
