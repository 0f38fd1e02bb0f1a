import GjcRemote.Envelope
import GjcRemote.JsonTextReads
import Mathlib.Data.List.Induction

/-! The tool log of `bot/tool-calls.js`: what an event shows of its tool calls, and how the frames of one
call merge into one entry. -/
namespace GjcRemote.ToolCalls

open Utf16 StrictJson Record Envelope List OrderedMap

def truncate (text : Units) (maxLength : Nat) : Units :=
  if text.length ≤ maxLength then text else text.take (maxLength - 1) ++ [0x2026]

/-- `a ?? b ?? …`, the last operand in any case. -/
def coalesce : List Value → Value
  | [] => undefined
  | [value] => value
  | value :: rest => if isNullish value then coalesce rest else value

def isString : Value → Bool
  | .string _ => true
  | _ => false

def toolInputLabel (input : Value) : Units :=
  match input with
  | .string text => truncate text 80
  | .object _ =>
    match coalesce (["_i","command","path","pattern","subject","name","action"].map (get input)) with
    | .string label => label
    | _ => []
  | _ => []

structure ToolCall where
  id : Value
  name : Value
  label : Units
  input : Value

def normalizeToolCall (call : Value) : ToolCall :=
  let input := coalesce (["input","arguments","args","parameters"].map (get call))
  ⟨coalesce (["id","toolCallId","callId"].map (get call)),get call "name",toolInputLabel input,input⟩

def isToolCall (part : Value) : Bool := isText "toolCall" (get part "type") && isString (get part "name")

def contentOf (evt : Value) : List Value :=
  match get (get evt "message") "content" with
  | .array items => items
  | _ => []

def extractToolCall (evt : Value) : Option ToolCall :=
  if isToolCall evt then some (normalizeToolCall evt)
  else ((contentOf evt).find? isToolCall).map normalizeToolCall

def toolCallIdentity (toolCall : ToolCall) : Units :=
  if isTruthy toolCall.id then JsonText.stringify (.array [.string (ofString "id"),toolCall.id])
  else if toolCall.label ≠ [] then
    JsonText.stringify (.array [.string (ofString "label"),toolCall.name,.string toolCall.label])
  else JsonText.stringify (.array [.string (ofString "input"),toolCall.name,toolCall.input])

/-- The number of keys of an object, and of items of an array. -/
def inputCompleteness : Value → Nat
  | .object entries => entries.length
  | .array items => items.length
  | .string text => text.length
  | .null | .other 0 => 0
  | _ => 1

/-- The entries, and for each identity the place of its entry. -/
structure Log where
  toolCalls : List ToolCall
  index : OrderedMap Units Nat
  indexed : ∀ identity pos, index.get identity = some pos ↔ (toolCalls.map toolCallIdentity)[pos]? = some identity

def Log.empty : Log := ⟨[],.empty,by simp⟩

theorem set_same {α : Type} {items : List α} {item : α} (there : items[pos]? = some item) :
    items.set pos item = items := by
  obtain ⟨_,rfl⟩ := List.getElem?_eq_some_iff.mp there
  exact set_getElem_self _

namespace Log

variable (log : Log)

theorem absent_iff : log.index.get identity = none ↔ identity ∉ log.toolCalls.map toolCallIdentity := by
  rw [mem_iff_getElem?,Option.eq_none_iff_forall_ne_some]
  simp only [ne_eq,log.indexed,not_exists]

theorem bound (found : log.index.get identity = some pos) : pos < log.toolCalls.length := by
  simpa using (List.getElem?_eq_some_iff.mp ((log.indexed identity pos).mp found)).1

def push (toolCall : ToolCall) (absent : log.index.get (toolCallIdentity toolCall) = none) : Log where
  toolCalls := log.toolCalls ++ [toolCall]
  index := log.index.set (toolCallIdentity toolCall) log.toolCalls.length
  indexed identity pos := by
    have new := log.absent_iff.mp absent
    rw [get_set,map_append,map_singleton,getElem?_append,length_map]
    split
    · rename_i same
      subst same
      split
      · simp only [Option.some.injEq]
        exact ⟨fun _ => by omega,fun found => absurd (mem_of_getElem? found) new⟩
      · rw [getElem?_singleton]
        grind
    · rw [log.indexed]
      split
      · rfl
      · rw [getElem?_eq_none (by simpa using Nat.not_lt.mp ‹_›)]
        grind

def replace (toolCall : ToolCall) (known : log.index.get (toolCallIdentity toolCall) = some pos) : Log where
  toolCalls := log.toolCalls.set pos toolCall
  index := log.index
  indexed identity place := by rw [map_set,set_same ((log.indexed _ _).mp known),log.indexed]

end Log

/-- The log afterwards, and whether the visible entry changed. -/
def recordToolCall (log : Log) (toolCall : ToolCall) : Log × Bool :=
  match found : log.index.get (toolCallIdentity toolCall) with
  | none => (log.push toolCall found,true)
  | some existingPos =>
    let existing := log.toolCalls.get ⟨existingPos,log.bound found⟩
    if inputCompleteness existing.input < inputCompleteness toolCall.input then (log.replace toolCall found,true)
    else (log,false)

/-- The callback of `bot.js` for a streamed event. -/
def observe (log : Log) (evt : Value) : Log :=
  match extractToolCall evt with
  | some toolCall => (recordToolCall log toolCall).1
  | none => log

variable (events : List Value)

def toolLog : List ToolCall := (events.foldl observe .empty).toolCalls

/-- The tool calls an event carries: itself, or every such part of its message. -/
def partsOf (evt : Value) : List Value := if isToolCall evt then [evt] else (contentOf evt).filter isToolCall

def callsOf : List ToolCall := (events.flatMap partsOf).map normalizeToolCall

/-- Only the first part of each event. -/
def leadingCallsOf : List ToolCall :=
  (events.flatMap fun evt => (partsOf evt).take 1).map normalizeToolCall

/-- The id of a call as a text. -/
def ToolCall.key (call : ToolCall) : Units :=
  match call.id with
  | .string text => text
  | _ => []

/-- What a value grows to while it is streamed: strings get longer, objects get more keys and arrays
more items, and what was there grows likewise. -/
inductive Extends : Value → Value → Prop where
  | refl (value : Value) : Extends value value
  | string (text more : Units) : Extends (.string text) (.string (text ++ more))
  | array {items others : List Value} (length : items.length ≤ others.length)
      (each : ∀ (i : Nat) (x y : Value), items[i]? = some x → others[i]? = some y → Extends x y) :
      Extends (.array items) (.array others)
  | object {entries others : List (Units × Value)}
      (keys : ∀ key ∈ entries.map Prod.fst, key ∈ others.map Prod.fst)
      (each : ∀ key x y, (key,x) ∈ entries → (key,y) ∈ others → Extends x y) :
      Extends (.object entries) (.object others)

/-- Streamed events: no object has a key twice, every tool call has an id and an object of arguments, and
the arguments seen for one id are ordered by extension. -/
structure Stream where
  events : List Value
  distinct : ∀ evt ∈ events, DistinctKeys evt
  named : ∀ call ∈ callsOf events, ∃ text, text ≠ [] ∧ call.id = .string text
  objects : ∀ call ∈ callsOf events, isPlainObject call.input
  ordered : ∀ call ∈ callsOf events, ∀ other ∈ callsOf events, call.key = other.key →
    Extends call.input other.input ∨ Extends other.input call.input

/-- The input of a call is the greatest among the calls of its id. -/
def Greatest (calls : List ToolCall) (call : ToolCall) : Prop :=
  ∀ other ∈ calls, other.key = call.key → Extends other.input call.input

/-- One entry for each id, in the order in which they first occur, with the greatest arguments seen. -/
def ShowsFullest (calls log : List ToolCall) : Prop :=
  log.map ToolCall.key = (calls.map ToolCall.key).eraseDups ∧
    ∀ entry ∈ log, Greatest calls entry ∧ ∃ call ∈ calls, call.key = entry.key ∧ call.input = entry.input

/-- Among the leading calls the ids first occur in the same order, and the first frame with as many keys
as the greatest arguments of its id has these arguments. -/
def LeadingFullest (calls leading : List ToolCall) : Prop :=
  (leading.map ToolCall.key).eraseDups = (calls.map ToolCall.key).eraseDups ∧
    ∀ call ∈ calls, Greatest calls call → ∃ frame,
      leading.find? (fun other => other.key == call.key &&
        decide (inputCompleteness call.input ≤ inputCompleteness other.input)) = some frame ∧
      Extends call.input frame.input

theorem Extends.trans (first : Extends u v) (second : Extends v w) : Extends u w := by
  induction first generalizing w with
  | refl => exact second
  | string text more =>
    generalize extended : Value.string (text ++ more) = middle at second
    cases second with
    | refl => exact extended ▸ .string text more
    | string _ later =>
      cases extended
      rw [append_assoc]
      exact .string text (more ++ later)
    | array => cases extended
    | object => cases extended
  | array length each ih =>
    cases second with
    | refl => exact .array length each
    | array length' each' =>
      refine .array (length.trans length') fun i x z left right => ?_
      obtain ⟨bound,_⟩ := List.getElem?_eq_some_iff.mp left
      have middle := getElem?_eq_getElem (bound.trans_le length)
      exact ih i x _ left middle (each' i _ z middle right)
  | object keys each ih =>
    cases second with
    | refl => exact .object keys each
    | object keys' each' =>
      refine .object (fun key member => keys' key (keys key member)) fun key x z left right => ?_
      obtain ⟨⟨_,y⟩,middle,rfl⟩ := mem_map.mp (keys key (mem_map_of_mem left))
      exact ih _ x y left middle (each' _ y z middle right)

/-- An extension has at least as many keys. -/
theorem Extends.completeness (grown : Extends v w) (object : isPlainObject v) (distinct : DistinctKeys v) :
    inputCompleteness v ≤ inputCompleteness w := by
  cases grown with
  | refl => exact Nat.le_refl _
  | string => simp [isPlainObject] at object
  | array => simp [isPlainObject] at object
  | object keys _ =>
    have fewer := (subperm_of_subset distinct.1 keys).length_le
    simpa [inputCompleteness] using fewer

theorem extractToolCall_eq (evt : Value) :
    extractToolCall evt = (((partsOf evt).take 1).map normalizeToolCall).head? := by
  rw [extractToolCall,partsOf]
  split
  · rfl
  · rw [← head?_filter]
    cases (contentOf evt).filter isToolCall <;> rfl

theorem observe_eq (log : Log) (evt : Value) :
    observe log evt = (((partsOf evt).take 1).map normalizeToolCall).foldl (fun log call =>
      (recordToolCall log call).1) log := by
  rw [observe,extractToolCall_eq]
  rcases partsOf evt with _ | ⟨part,rest⟩ <;> rfl

/-- The run records the leading calls. -/
theorem toolLog_eq :
    toolLog events = ((leadingCallsOf events).foldl (fun log call => (recordToolCall log call).1) .empty).toolCalls := by
  have fold : ∀ log : Log, events.foldl observe log =
      (leadingCallsOf events).foldl (fun log call => (recordToolCall log call).1) log := by
    induction events with
    | nil => exact fun _ => rfl
    | cons evt rest ih =>
      intro log
      rw [leadingCallsOf,flatMap_cons,map_append,foldl_append,foldl_cons,observe_eq]
      exact ih _
  rw [toolLog,fold]

theorem leading_sublist : (leadingCallsOf events).Sublist (callsOf events) := by
  refine Sublist.map _ ?_
  induction events with
  | nil => exact .slnil
  | cons evt rest ih => exact (take_sublist 1 (partsOf evt)).append ih

/-- What recording a call does to the log. -/
theorem recordToolCall_cases (log : Log) (call : ToolCall) :
    (log.index.get (toolCallIdentity call) = none ∧ (recordToolCall log call).1.toolCalls = log.toolCalls ++ [call]) ∨
    ∃ pos existing, log.index.get (toolCallIdentity call) = some pos ∧ log.toolCalls[pos]? = some existing ∧
      (recordToolCall log call).1.toolCalls =
        if inputCompleteness existing.input < inputCompleteness call.input then log.toolCalls.set pos call
        else log.toolCalls := by
  unfold recordToolCall
  split
  · rename_i absent
    exact .inl ⟨absent,rfl⟩
  · rename_i pos found
    refine .inr ⟨pos,_,found,getElem?_eq_getElem (log.bound found),?_⟩
    dsimp only [get_eq_getElem]
    split <;> rfl

def Named (call : ToolCall) : Prop := ∃ text, text ≠ [] ∧ call.id = .string text

theorem identity_named (named : Named call) :
    toolCallIdentity call = JsonText.stringify (.array [.string (ofString "id"),.string call.key]) := by
  obtain ⟨text,nonempty,id⟩ := named
  obtain ⟨first,rest,rfl⟩ := exists_cons_of_ne_nil nonempty
  simp [toolCallIdentity,ToolCall.key,id,isTruthy]

theorem identity_iff (named : Named call) (named' : Named other) :
    toolCallIdentity call = toolCallIdentity other ↔ call.key = other.key := by
  rw [identity_named named,identity_named named']
  constructor
  · intro same
    have textual : ∀ key, JsonText.Textual (.array [.string (ofString "id"),.string key]) := by
      intro key
      refine .array fun item member => ?_
      simp only [mem_cons,not_mem_nil,or_false] at member
      rcases member with rfl | rfl <;> exact .string _
    have read := JsonText.parse_stringify (textual call.key)
    rw [same,JsonText.parse_stringify (textual other.key)] at read
    simpa using read.symm
  · intro same
    rw [same]

/-- The first of the most complete frames of its id. -/
def Fullest (shown : List ToolCall) (entry : ToolCall) : Prop :=
  ∃ before after, shown = before ++ entry :: after ∧
    (∀ call ∈ before, call.key = entry.key → inputCompleteness call.input < inputCompleteness entry.input) ∧
    ∀ call ∈ after, call.key = entry.key → inputCompleteness call.input ≤ inputCompleteness entry.input

theorem Fullest.mem (fullest : Fullest shown entry) : entry ∈ shown := by
  obtain ⟨before,after,rfl,_⟩ := fullest
  exact mem_append_right _ mem_cons_self

theorem Fullest.bound (fullest : Fullest shown entry) (member : call ∈ shown) (same : call.key = entry.key) :
    inputCompleteness call.input ≤ inputCompleteness entry.input := by
  obtain ⟨before,after,rfl,earlier,later⟩ := fullest
  rcases mem_append.mp member with member | member
  · exact (earlier call member same).le
  · rcases mem_cons.mp member with rfl | member
    · exact Nat.le_refl _
    · exact later call member same

/-- It is what a search for a frame as complete as itself finds first. -/
theorem Fullest.found {key : Units} {count : Nat} (fullest : Fullest shown entry) (same : key = entry.key)
    (complete : count = inputCompleteness entry.input) :
    shown.find? (fun other => other.key == key && decide (count ≤ inputCompleteness other.input)) =
      some entry := by
  subst same complete
  obtain ⟨before,after,rfl,earlier,_⟩ := fullest
  have skipped : before.find? (fun other => other.key == entry.key &&
      decide (inputCompleteness entry.input ≤ inputCompleteness other.input)) = none := by
    rw [find?_eq_none]
    intro other member
    have fewer := earlier other member
    by_cases same : other.key = entry.key
    · simp [same,Nat.not_le.mpr (fewer same)]
    · simp [same]
  rw [find?_append,skipped]
  simp

theorem Fullest.later (fullest : Fullest shown entry)
    (fewer : call.key = entry.key → inputCompleteness call.input ≤ inputCompleteness entry.input) :
    Fullest (shown ++ [call]) entry := by
  obtain ⟨before,after,rfl,earlier,later⟩ := fullest
  refine ⟨before,after ++ [call],by simp,earlier,fun other member => ?_⟩
  rcases mem_append.mp member with member | member
  · exact later other member
  · rw [mem_singleton.mp member]
    exact fewer

/-- The log after these calls has an entry for each id. -/
structure Records (shown : List ToolCall) (log : Log) : Prop where
  keys : log.toolCalls.map ToolCall.key = (shown.map ToolCall.key).eraseDups
  fullest : ∀ entry ∈ log.toolCalls, Fullest shown entry

theorem eraseDups_concat (keys : List Units) (key : Units) :
    (keys ++ [key]).eraseDups = if key ∈ keys then keys.eraseDups else keys.eraseDups ++ [key] := by
  rw [eraseDups_append]
  by_cases member : key ∈ keys <;> simp [removeAll,member,eraseDups_cons]

section

variable (records : Records shown log) (named : ∀ frame ∈ shown ++ [call], Named frame)
include records named

theorem Records.same_identity (member : entry ∈ log.toolCalls) :
    toolCallIdentity entry = toolCallIdentity call ↔ entry.key = call.key :=
  identity_iff (named _ (mem_append_left _ (records.fullest _ member).mem)) (named _ (by simp))

theorem Records.push (absent : log.index.get (toolCallIdentity call) = none)
    (toolCalls : log'.toolCalls = log.toolCalls ++ [call]) : Records (shown ++ [call]) log' := by
  have new : ∀ entry ∈ log.toolCalls, entry.key ≠ call.key := fun entry member same =>
    log.absent_iff.mp absent (mem_map.mpr ⟨entry,member,(records.same_identity named member).mpr same⟩)
  have fresh : call.key ∉ shown.map ToolCall.key := by
    rw [← mem_eraseDups,← records.keys,mem_map]
    rintro ⟨entry,member,same⟩
    exact new entry member same
  constructor
  · rw [toolCalls,map_append,map_append,map_singleton,eraseDups_concat,if_neg fresh,records.keys]
  · intro entry member
    rw [toolCalls] at member
    rcases mem_append.mp member with member | member
    · exact (records.fullest entry member).later fun same => absurd same.symm (new entry member)
    · rw [mem_singleton.mp member]
      exact ⟨shown,[],rfl,fun frame inside same => absurd (mem_map.mpr ⟨frame,inside,same⟩) fresh,by simp⟩

theorem Records.merge (known : log.index.get (toolCallIdentity call) = some pos)
    (there : log.toolCalls[pos]? = some existing)
    (toolCalls : log'.toolCalls =
      if inputCompleteness existing.input < inputCompleteness call.input then log.toolCalls.set pos call
      else log.toolCalls) :
    Records (shown ++ [call]) log' := by
  have old := records.fullest existing (mem_of_getElem? there)
  have own := (log.indexed _ _).mp known
  rw [getElem?_map,there,Option.map_some,Option.some.injEq] at own
  have key := (records.same_identity named (mem_of_getElem? there)).mp own
  -- the frame that holds the place afterwards
  obtain ⟨winner,placed,won,best⟩ : ∃ winner, log'.toolCalls = log.toolCalls.set pos winner ∧
      winner.key = call.key ∧ Fullest (shown ++ [call]) winner := by
    split at toolCalls
    · rename_i more
      refine ⟨call,toolCalls,rfl,shown,[],rfl,fun frame inside equal => ?_,by simp⟩
      exact (old.bound inside (equal.trans key.symm)).trans_lt more
    · rename_i fewer
      refine ⟨existing,?_,key,old.later fun _ => Nat.not_lt.mp fewer⟩
      rw [toolCalls,set_same there]
  constructor
  · have known_key : call.key ∈ shown.map ToolCall.key := key ▸ mem_map_of_mem old.mem
    rw [placed,map_set,map_append,map_singleton,eraseDups_concat,if_pos known_key,← records.keys]
    exact set_same (by rw [getElem?_map,there,Option.map_some,key,won])
  · intro entry member
    obtain ⟨place,found⟩ := mem_iff_getElem?.mp member
    rw [placed,getElem?_set] at found
    split at found
    · rw [if_pos (log.bound known),Option.some.injEq] at found
      exact found ▸ best
    · rename_i elsewhere
      refine (records.fullest entry (mem_of_getElem? found)).later fun equal => absurd ?_ elsewhere
      have alike := (records.same_identity named (mem_of_getElem? found)).mpr equal.symm
      have again := (log.indexed (toolCallIdentity call) place).mpr (by
        rw [getElem?_map,found,Option.map_some,alike])
      exact Option.some.inj (known.symm.trans again)

theorem Records.record : Records (shown ++ [call]) (recordToolCall log call).1 := by
  rcases recordToolCall_cases log call with ⟨absent,toolCalls⟩ | ⟨pos,existing,known,there,toolCalls⟩
  · exact records.push named absent toolCalls
  · exact records.merge named known there toolCalls

end

/-- Every run of calls with ids leaves such a log. -/
theorem records_run (shown : List ToolCall) (named : ∀ call ∈ shown, Named call) :
    Records shown (shown.foldl (fun log call => (recordToolCall log call).1) .empty) := by
  induction shown using reverseRecOn with
  | nil => exact ⟨rfl,fun entry member => by cases member⟩
  | append_singleton front call ih =>
    rw [foldl_append]
    exact (ih fun other member => named other (mem_append_left _ member)).record named

/-- The calls of one id have a greatest. -/
theorem exists_greatest (calls : List ToolCall) (nonempty : calls ≠ [])
    (ordered : ∀ call ∈ calls, ∀ other ∈ calls, Extends call.input other.input ∨ Extends other.input call.input) :
    ∃ call ∈ calls, ∀ other ∈ calls, Extends other.input call.input := by
  induction calls with
  | nil => exact absurd rfl nonempty
  | cons call rest ih =>
    rcases eq_or_ne rest [] with rfl | more
    · exact ⟨call,mem_cons_self,by simp [Extends.refl]⟩
    · obtain ⟨greatest,member,above⟩ := ih more fun a ha b hb =>
        ordered a (mem_cons_of_mem _ ha) b (mem_cons_of_mem _ hb)
      rcases ordered call mem_cons_self greatest (mem_cons_of_mem _ member) with below | below
      · refine ⟨greatest,mem_cons_of_mem _ member,fun other inside => ?_⟩
        rcases mem_cons.mp inside with rfl | inside
        · exact below
        · exact above other inside
      · refine ⟨call,mem_cons_self,fun other inside => ?_⟩
        rcases mem_cons.mp inside with rfl | inside
        · exact .refl _
        · exact (above other inside).trans below

namespace Stream

variable (stream : Stream)

theorem leading_named (member : call ∈ leadingCallsOf stream.events) : Named call :=
  stream.named call ((leading_sublist stream.events).subset member)

theorem distinct_input (member : call ∈ callsOf stream.events) : DistinctKeys call.input := by
  obtain ⟨part,inside,rfl⟩ := mem_map.mp member
  obtain ⟨evt,listed,inside⟩ := mem_flatMap.mp inside
  have whole := stream.distinct evt listed
  have part_distinct : DistinctKeys part := by
    rw [partsOf] at inside
    split at inside
    · rw [mem_singleton.mp inside]
      exact whole
    · have item := (mem_filter.mp inside).1
      have content := distinct_get (distinct_get whole "message") "content"
      rw [contentOf] at item
      split at item
      · rename_i items array
        rw [array,DistinctKeys,distinctItems_iff] at content
        exact content part item
      · cases item
  have each : ∀ values : List Value, (∀ value ∈ values, DistinctKeys value) → DistinctKeys (coalesce values) := by
    intro values
    fun_induction coalesce values with
    | case1 => simp [undefined,DistinctKeys]
    | case2 value => simp
    | case3 value rest _ _ ih => exact fun all => ih fun item later => all item (mem_cons_of_mem _ later)
    | case4 value rest => exact fun all => all value mem_cons_self
  refine each _ fun value listed => ?_
  obtain ⟨key,_,rfl⟩ := mem_map.mp listed
  exact distinct_get part_distinct key

/-- The greatest arguments have the most keys. -/
theorem completeness_le {other : ToolCall} (member : call ∈ callsOf stream.events)
    (grown : Extends call.input other.input) :
    inputCompleteness call.input ≤ inputCompleteness other.input :=
  grown.completeness (stream.objects call member) (stream.distinct_input member)

theorem greatest_of_key (member : call ∈ callsOf stream.events) :
    ∃ greatest ∈ callsOf stream.events, greatest.key = call.key ∧ Greatest (callsOf stream.events) greatest := by
  let alike := (callsOf stream.events).filter fun other => other.key = call.key
  have listed : ∀ other, other ∈ alike ↔ other ∈ callsOf stream.events ∧ other.key = call.key := by simp [alike]
  obtain ⟨greatest,inside,above⟩ := exists_greatest alike (ne_nil_of_mem ((listed call).mpr ⟨member,rfl⟩)) (by
    intro a left b right
    obtain ⟨left,first⟩ := (listed a).mp left
    obtain ⟨right,second⟩ := (listed b).mp right
    exact stream.ordered a left b right (first.trans second.symm))
  obtain ⟨among,same⟩ := (listed greatest).mp inside
  exact ⟨greatest,among,same,fun other elsewhere equal =>
    above other ((listed other).mpr ⟨elsewhere,equal.trans same⟩)⟩

end Stream

/-- The log shows every call with its fullest arguments exactly when the leading parts do. -/
theorem tool_log_fullest_iff (stream : Stream) :
    ShowsFullest (callsOf stream.events) (toolLog stream.events) ↔
      LeadingFullest (callsOf stream.events) (leadingCallsOf stream.events) := by
  have subset := (leading_sublist stream.events).subset
  have records := records_run (leadingCallsOf stream.events) fun _ => stream.leading_named
  have order := records.keys
  have fullest := records.fullest
  rw [← toolLog_eq] at order fullest
  constructor
  · rintro ⟨shown,entries⟩
    refine ⟨order.symm.trans shown,fun call member greatest => ?_⟩
    have listed : call.key ∈ (toolLog stream.events).map ToolCall.key := by
      rw [shown,mem_eraseDups]
      exact mem_map_of_mem member
    obtain ⟨entry,inside,same⟩ := mem_map.mp listed
    have first := fullest entry inside
    have below := (entries entry inside).1 call member same.symm
    have above := greatest entry (subset first.mem) same
    have complete := Nat.le_antisymm (stream.completeness_le member below)
      (stream.completeness_le (subset first.mem) above)
    exact ⟨entry,first.found same.symm complete,below⟩
  · rintro ⟨shown,leads⟩
    refine ⟨order.trans shown,fun entry inside => ?_⟩
    have first := fullest entry inside
    have among := subset first.mem
    obtain ⟨greatest,member,same,above⟩ := stream.greatest_of_key among
    obtain ⟨frame,found,below⟩ := leads greatest member above
    obtain ⟨key,more⟩ := Bool.and_eq_true_iff.mp (find?_some (p := fun _ => _ && _) found)
    have bound := first.bound (mem_of_find?_eq_some found) ((beq_iff_eq.mp key).trans same)
    have fewer := stream.completeness_le among (above entry among same.symm)
    have complete := Nat.le_antisymm ((of_decide_eq_true more).trans bound) fewer
    have frame_eq : frame = entry := by
      have again := first.found same complete
      rw [found] at again
      exact Option.some.inj again
    subst frame_eq
    exact ⟨fun other elsewhere equal => (above other elsewhere (equal.trans same.symm)).trans below,
      frame,among,rfl,rfl⟩

def frame (id command : String) : Value :=
  .object [(ofString "type",.string (ofString "toolCall")),(ofString "id",.string (ofString id)),
    (ofString "name",.string (ofString "bash")),
    (ofString "arguments",.object [(ofString "command",.string (ofString command))])]

def message (parts : List Value) : Value :=
  .object [(ofString "message",.object [(ofString "content",.array parts)])]

theorem calls_of_frames : callsOf [message [frame "c1" "l"],message [frame "c1" "ls",frame "c2" "w"]] =
    [normalizeToolCall (frame "c1" "l"),normalizeToolCall (frame "c1" "ls"),normalizeToolCall (frame "c2" "w")] :=
  rfl

theorem frame_grows : Extends (normalizeToolCall (frame "c1" "l")).input
    (normalizeToolCall (frame "c1" "ls")).input := by
  have grown : Extends (.object [(ofString "command",.string (ofString "l"))])
      (.object [(ofString "command",.string (ofString "l" ++ ofString "s"))]) := by
    refine .object (fun _ member => member) fun key x y left right => ?_
    rw [mem_singleton,Prod.mk.injEq] at left right
    rw [left.2,right.2]
    exact .string _ _
  exact grown

/-- A call whose only string grows, and a second call behind it in one message. -/
def parallelFrames : Stream where
  events := [message [frame "c1" "l"],message [frame "c1" "ls",frame "c2" "w"]]
  distinct := by
    simp [message,frame,DistinctKeys,DistinctEntries,DistinctItems]
    decide
  named := by
    rw [calls_of_frames]
    simp only [forall_mem_cons]
    exact ⟨⟨ofString "c1",by decide,rfl⟩,⟨ofString "c1",by decide,rfl⟩,⟨ofString "c2",by decide,rfl⟩,by simp⟩
  objects := by
    rw [calls_of_frames]
    simp only [forall_mem_cons]
    exact ⟨rfl,rfl,rfl,by simp⟩
  ordered := by
    rw [calls_of_frames]
    intro call member other member' same
    simp only [mem_cons,not_mem_nil,or_false] at member member'
    rcases member with rfl | rfl | rfl <;> rcases member' with rfl | rfl | rfl
    · exact .inl (.refl _)
    · exact .inl frame_grows
    · exact absurd same (by decide)
    · exact .inr frame_grows
    · exact .inl (.refl _)
    · exact absurd same (by decide)
    · exact absurd same (by decide)
    · exact absurd same (by decide)
    · exact .inl (.refl _)

/-- The second call is missing, and the first has its earlier arguments. -/
theorem tool_log_not_fullest :
    ¬ ShowsFullest (callsOf parallelFrames.events) (toolLog parallelFrames.events) ∧
      toolLog parallelFrames.events = [normalizeToolCall (frame "c1" "l")] := by
  refine ⟨?_,rfl⟩
  rintro ⟨shown,_⟩
  revert shown
  decide

/-- A frame that comes before the arguments of its call. -/
def openingFrame (id : String) : Value :=
  .object [(ofString "type",.string (ofString "toolCall")),(ofString "id",.string (ofString id)),
    (ofString "name",.string (ofString "bash")),(ofString "arguments",.object [])]

theorem calls_of_streamed :
    callsOf [message [openingFrame "c1"],message [frame "c1" "ls"],message [frame "c2" "w"]] =
      [normalizeToolCall (openingFrame "c1"),normalizeToolCall (frame "c1" "ls"),normalizeToolCall (frame "c2" "w")] :=
  rfl

theorem opening_grows : Extends (normalizeToolCall (openingFrame "c1")).input
    (normalizeToolCall (frame "c1" "ls")).input := by
  have grown : Extends (.object []) (.object [(ofString "command",.string (ofString "ls"))]) :=
    .object (by simp) (by simp)
  exact grown

/-- One call in each message; the arguments of the first come later than its name. -/
def streamedFrames : Stream where
  events := [message [openingFrame "c1"],message [frame "c1" "ls"],message [frame "c2" "w"]]
  distinct := by
    simp [message,frame,openingFrame,DistinctKeys,DistinctEntries,DistinctItems]
    decide
  named := by
    rw [calls_of_streamed]
    simp only [forall_mem_cons]
    exact ⟨⟨ofString "c1",by decide,rfl⟩,⟨ofString "c1",by decide,rfl⟩,⟨ofString "c2",by decide,rfl⟩,by simp⟩
  objects := by
    rw [calls_of_streamed]
    simp only [forall_mem_cons]
    exact ⟨rfl,rfl,rfl,by simp⟩
  ordered := by
    rw [calls_of_streamed]
    intro call member other member' same
    simp only [mem_cons,not_mem_nil,or_false] at member member'
    rcases member with rfl | rfl | rfl <;> rcases member' with rfl | rfl | rfl
    · exact .inl (.refl _)
    · exact .inl opening_grows
    · exact absurd same (by decide)
    · exact .inr opening_grows
    · exact .inl (.refl _)
    · exact absurd same (by decide)
    · exact absurd same (by decide)
    · exact absurd same (by decide)
    · exact .inl (.refl _)

/-- The log has both calls with all of their arguments. -/
theorem tool_log_fullest_streamed :
    ShowsFullest (callsOf streamedFrames.events) (toolLog streamedFrames.events) := by
  refine (tool_log_fullest_iff streamedFrames).mpr ⟨by decide,?_⟩
  have calls : callsOf streamedFrames.events = [normalizeToolCall (openingFrame "c1"),
      normalizeToolCall (frame "c1" "ls"),normalizeToolCall (frame "c2" "w")] := calls_of_streamed
  rw [calls]
  intro call member greatest
  simp only [mem_cons,not_mem_nil,or_false] at member
  rcases member with rfl | rfl | rfl
  · -- the frame without arguments is not the greatest of its id
    have later := greatest (normalizeToolCall (frame "c1" "ls")) (by simp) rfl
    have fewer := later.completeness rfl (streamedFrames.distinct_input (by simp [calls]))
    exact absurd fewer (by decide)
  · exact ⟨normalizeToolCall (frame "c1" "ls"),rfl,.refl _⟩
  · exact ⟨normalizeToolCall (frame "c2" "w"),rfl,.refl _⟩

end GjcRemote.ToolCalls
