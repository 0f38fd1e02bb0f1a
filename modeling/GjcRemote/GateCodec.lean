import GjcRemote.JsonTextReads
import GjcRemote.MappingEnvelope

/-! The answers of workflow gates, from `daemon/src/sdk-session.js`: which gates are supported, the
shape of an answer, and the encoding of a text as one. The runtime's case mapping is a parameter. -/
namespace GjcRemote.WorkflowGate

open Utf16 StrictJson Record JsText
open MappingEnvelope (isUndefined)

def GATE_KINDS : List String := ["question","approval","execution"]

def APPROVAL_DECISIONS : List String := ["approve","request-changes","reject"]

def EXECUTION_DECISIONS : List String := ["approve","decline"]

/-- `typeof value === "string"`, with the string. -/
def asText : Value → Option Units
  | .string text => some text
  | _ => none

/-- `typeof value === "boolean"`, with the boolean. -/
def asBool : Value → Option Bool
  | .bool value => some value
  | _ => none

variable (value : Value)

def isTrue : Bool := asBool value == some true

def isFalse : Bool := asBool value == some false

def itemsOf : Value → List Value
  | .array items => items
  | _ => []

def isArray : Value → Bool
  | .array _ => true
  | _ => false

/-- `Object.keys(value).every((key) => allowed.has(key))` of a plain record. -/
def hasOnlyKeys (allowed : List String) : Bool :=
  match value with
  | .object entries => entries.all fun e => (allowed.map ofString).contains e.1
  | _ => false

/-- `sameArray`, against an array of strings. -/
def sameArray (left : Value) (right : List Units) : Bool :=
  isArray left && (itemsOf left).length == right.length &&
    ((itemsOf left).zip right).all fun pair => asText pair.1 == some pair.2

structure AskCodec where
  labels : List Units
  multi : Bool
  allowEmpty : Bool

structure DecisionCodec where
  type : String
  decisions : List String
  detailKey : String

inductive Codec where
  | ask (codec : AskCodec)
  | decision (codec : DecisionCodec)

def gateOptions (gate : Value) : List Value := itemsOf (get gate "options")

def optionLabel (option : Value) : Option Units :=
  if isPlainObject option then (asText (get option "label")).filter fun label => 0 < label.length
  else none

/-- `typeof value === "object"` and so on, with `type` the given text. -/
def isTyped (type : String) : Bool := isPlainObject value && isText type (get value "type")

def isAskGate (gate schema properties : Value) (labels : List Units) : Bool :=
  let selected := get properties "selected"
  let state := get (get gate "context") "stage_state"
  isTyped selected "array" && isTrue (get selected "uniqueItems") &&
    isPlainObject (get selected "items") && sameArray (get (get selected "items") "enum") labels &&
    isTyped (get properties "other") "boolean" && isTyped (get properties "custom") "string" &&
    isPlainObject (get properties "action") &&
    sameArray (get (get properties "action") "enum") (["answer","clarify"].map ofString) &&
    isTyped (get properties "question") "string" &&
    isArray (get schema "anyOf") && (itemsOf (get schema "anyOf")).length == 3 &&
    isPlainObject state && (asBool (get state "multi")).isSome &&
    (asBool (get state "allow_empty")).isSome && sameArray (get state "options") labels &&
    isText "Other (type your own)" (get state "other_option") &&
    isText "clarify" (get state "clarification_action") &&
    (gateOptions gate).all fun option => strictEqual (get option "value") (get option "label")

def askCodec (gate : Value) (labels : List Units) : AskCodec :=
  let state := get (get gate "context") "stage_state"
  ⟨labels,isTrue (get state "multi"),isTrue (get state "allow_empty")⟩

/-- The decisions of a kind of gate, where it has some. -/
def expectedDecisions (kind : Value) : Option DecisionCodec :=
  if isText "approval" kind then some ⟨"approval",APPROVAL_DECISIONS,"comments"⟩
  else if isText "execution" kind then some ⟨"execution",EXECUTION_DECISIONS,"reason"⟩
  else none

def isDecisionGate (gate schema properties : Value) (codec : DecisionCodec) : Bool :=
  let decision := get properties "decision"
  isTyped decision "string" && sameArray (get decision "enum") (codec.decisions.map ofString) &&
    sameArray (get schema "required") (["decision"].map ofString) &&
    hasOnlyKeys properties ["decision",codec.detailKey] &&
    isTyped (get properties codec.detailKey) "string" &&
    (gateOptions gate).length == codec.decisions.length &&
    ((gateOptions gate).zip codec.decisions).all fun pair =>
      isText pair.2 (get pair.1 "value") && isText pair.2 (get pair.1 "label")

def gateAnswerCodec (gate : Value) : Option Codec := do
  let schema := get gate "schema"
  let properties := get schema "properties"
  guard (isOneOf GATE_KINDS (get gate "kind") && isPlainObject schema)
  guard (isText "object" (get schema "type") && isFalse (get schema "additionalProperties") &&
    isPlainObject properties)
  let labels ← (gateOptions gate).mapM optionLabel
  if isAskGate gate schema properties labels then return .ask (askCodec gate labels)
  let codec ← expectedDecisions (get gate "kind")
  guard (isDecisionGate gate schema properties codec)
  return .decision codec

/-- A text answer, with the object it spells where it looks like one. -/
structure ParsedAnswer where
  text : Units
  structured : Option Value

/-- `text.startsWith("\x7b") || text.startsWith("[")`. -/
def looksStructured (text : Units) : Bool := text.head? == some 0x7B || text.head? == some 0x5B

def parseStructuredGateAnswer (answer : Value) : Except String ParsedAnswer :=
  match asText answer with
  | none => .error "gate answer must be text"
  | some answer =>
    let text := trim answer
    if !looksStructured text then .ok ⟨text,none⟩
    else match JsonText.parse text with
      | none => .error "structured gate answer is not valid JSON"
      | some parsed =>
        if isPlainObject parsed then .ok ⟨text,some parsed⟩
        else .error "structured gate answer must be an object"

def isInked : Bool := (asText value).any hasInk

/-- The strings of a selection, where every item is one that the gate offers. -/
def offered (codec : AskCodec) (selected : Value) : Bool :=
  (itemsOf selected).all fun selection => (asText selection).any codec.labels.contains

def selectionTexts (selected : Value) : List Units := (itemsOf selected).filterMap asText

def validateAskAnswerShape (answer : Value) (codec : AskCodec) : Bool :=
  let selected := get answer "selected"
  if !isPlainObject answer then false
  else if isText "clarify" (get answer "action") then
    hasOnlyKeys answer ["action","question"] && isInked (get answer "question")
  else if !hasOnlyKeys answer ["selected","other","custom","action"] ||
      (!isUndefined (get answer "action") && !isText "answer" (get answer "action")) ||
      !isArray selected || !offered codec selected ||
      !decide (selectionTexts selected).Nodup ||
      (!codec.multi && 1 < (itemsOf selected).length) then false
  else if isTrue (get answer "other") then
    (codec.multi || (itemsOf selected).length == 0) && isInked (get answer "custom")
  else
    (isUndefined (get answer "other") || isFalse (get answer "other")) &&
      isUndefined (get answer "custom") && (codec.allowEmpty || 0 < (itemsOf selected).length)

def validateDecisionAnswerShape (answer : Value) (codec : DecisionCodec) : Bool :=
  let detail := get answer codec.detailKey
  if !isPlainObject answer || !hasOnlyKeys answer ["decision",codec.detailKey] ||
      !isOneOf codec.decisions (get answer "decision") then false
  else if !isUndefined detail && (asText detail).isNone then false
  else !(codec.type == "approval" && isText "request-changes" (get answer "decision") &&
    ((asText detail).isNone || (asText detail).any fun text => trim text == []))

def validateAnswerShape (answer : Value) : Codec → Bool
  | .ask codec => validateAskAnswerShape answer codec
  | .decision codec => validateDecisionAnswerShape answer codec

/-- `option.label` of an option of a supported gate. -/
def labelOf (option : Value) : Units := (asText (get option "label")).getD []

def choiceAt (options : List Value) : Number → Option Value
  | .int index => if 1 ≤ index then options[(index - 1).toNat]? else none
  | _ => none

variable (toLowerCase : Units → Units)

def matchGateChoice (options : List Value) (text : Units) : Option Value :=
  match options.find? fun option => toLowerCase (labelOf option) == toLowerCase text with
  | some option => some option
  | none => choiceAt options (toNumber text)

def encodeAskAnswer (codec : AskCodec) (options : List Value) (answer : Value) (text : Units) :
    Except String Value :=
  match matchGateChoice toLowerCase options text with
  | some choice => .ok (.object [(ofString "selected",.array [get choice "label"])])
  | none =>
    if text = [] then
      if codec.allowEmpty then .ok (.object [(ofString "selected",.array [])])
      else .error "gate answer must not be empty"
    else .ok (.object [(ofString "selected",.array []),(ofString "other",.bool true),
      (ofString "custom",answer)])

def encodeDecisionAnswer (codec : DecisionCodec) (options : List Value) (text : Units) :
    Except String Value :=
  match matchGateChoice toLowerCase options text with
  | none => .error "unsupported gate decision"
  | some choice =>
    if codec.type == "approval" && isText "request-changes" (get choice "value") then
      .error "request-changes requires structured comments"
    else .ok (.object [(ofString "decision",get choice "value")])

def encodeGateAnswer (gate answer : Value) : Except String Value :=
  match gateAnswerCodec gate with
  | none => .error "unsupported workflow gate schema"
  | some codec => do
    let parsed ← parseStructuredGateAnswer answer
    match parsed.structured with
    | some structured =>
      if validateAnswerShape structured codec then return structured
      else throw "unsupported gate answer shape"
    | none =>
      match codec with
      | .ask codec => encodeAskAnswer toLowerCase codec (gateOptions gate) answer parsed.text
      | .decision codec => encodeDecisionAnswer toLowerCase codec (gateOptions gate) parsed.text

end GjcRemote.WorkflowGate
