import GjcRemote.JsonText

/-! `JSON.parse` reads back what `JSON.stringify` prints, and every string it reads is shorter than
the text it was read from. -/
namespace GjcRemote.JsonText

open Utf16 StrictJson JsText OrderedMap

theorem hexUnit_digits (u : UInt16) :
    hexUnit (hexDigit (u.toNat / 4096)) (hexDigit (u.toNat / 256 % 16)) (hexDigit (u.toNat / 16 % 16))
      (hexDigit (u.toNat % 16)) = some u := by
  have digit : ∀ n < 16, hexValue (hexDigit n) = some n := by decide
  have bound : u.toNat < 65536 := u.toNat_lt
  have whole : ((u.toNat / 4096 * 16 + u.toNat / 256 % 16) * 16 + u.toNat / 16 % 16) * 16 +
      u.toNat % 16 = u.toNat := by omega
  rw [hexUnit,digit _ (by omega),digit _ (by omega),digit _ (by omega),digit _ (by omega)]
  simp only [Option.bind_eq_bind,Option.bind_some,Option.pure_def]
  rw [whole,UInt16.ofNat_toNat]

theorem scanText_unicode (u : UInt16) (scanned : scanText rest = some (text,after)) :
    scanText (unicodeEscape u ++ rest) = some (u :: text,after) := by
  rw [unicodeEscape]
  rw [scanText.eq_def]
  simp [hexUnit_digits,scanned]

theorem scanText_literal (literal : Literal u) (scanned : scanText rest = some (text,after)) :
    scanText (u :: rest) = some (u :: text,after) := by
  have large := not_lt_of_printable literal.2.2
  rw [scanText.eq_def]
  simp [literal.1,literal.2.1,large,scanned]

theorem scanText_unit (u : UInt16) (scanned : scanText rest = some (text,after)) :
    scanText (escapeUnit u ++ rest) = some (u :: text,after) := by
  by_cases printable : u ≤ 0x1f
  · unfold escapeUnit
    have small : u < 0x20 := by
      have bound : u.toNat ≤ 0x1f := printable
      change u.toNat < 0x20
      omega
    split_ifs with quote backslash back feed line carriage tab
    · subst quote; simp [scanText,simpleEscape,scanned]
    · subst backslash; simp [scanText,simpleEscape,scanned]
    · subst back; simp [scanText,simpleEscape,scanned]
    · subst feed; simp [scanText,simpleEscape,scanned]
    · subst line; simp [scanText,simpleEscape,scanned]
    · subst carriage; simp [scanText,simpleEscape,scanned]
    · subst tab; simp [scanText,simpleEscape,scanned]
    · exact scanText_unicode u scanned
  · rcases escapeUnit_cases printable with ⟨code,which⟩ | ⟨code,literal⟩
    · rw [code]
      rcases which with rfl | rfl <;> simp [scanText,simpleEscape,scanned]
    · simpa [code] using scanText_literal literal scanned

/-- Every string, lone surrogates included, is read back. -/
theorem scanText_escapeText (text tail : Units) :
    scanText (escapeText text ++ 0x22 :: tail) = some (text,tail) := by
  have closed : scanText (0x22 :: tail) = some ([],tail) := by rw [scanText.eq_def]; simp
  fun_induction escapeText text with
  | case1 => exact closed
  | case2 u surrogate => exact scanText_unicode u closed
  | case3 u plain => exact scanText_unit u closed
  | case4 u v rest pair ih =>
    simp only [Bool.and_eq_true] at pair
    exact scanText_literal (high_literal pair.1) (scanText_literal (low_literal pair.2) ih)
  | case5 u v rest _ surrogate ih =>
    exact scanText_unicode u ih
  | case6 u v rest _ plain ih =>
    rw [List.append_assoc]
    exact scanText_unit u ih

def Emits (text : Units) (tokens : List Token) : Prop :=
  ∀ tail, tokensOf (text ++ tail) = (tokensOf tail).map (tokens ++ ·)

variable {tokens : List Token}

theorem Emits.append (one : Emits first tokens)
    (two : Emits second more) : Emits (first ++ second) (tokens ++ more) := by
  intro tail
  rw [List.append_assoc,one,two,Option.map_map]
  congr 1
  funext rest
  simp

theorem Emits.tokensOf_eq (emits : Emits text tokens) :
    tokensOf text = some tokens := by
  have whole := emits []
  rw [List.append_nil] at whole
  rw [whole]
  simp [tokensOf,scanTokens,whitespace]

variable {token : Token}

/-- One token that starts with no space. -/
theorem emits_token {text : Units} (solid : isWhitespace u = false)
    (found : ∀ tail, nextToken (u :: (text ++ tail)) = some (token,tail)) :
    Emits (u :: text) [token] := by
  intro tail
  rw [List.cons_append,tokensOf_of_next (whitespace_head solid _) (found tail)]
  rfl

theorem emits_string (text : Units) : Emits (stringifyText text) [.scalar (.string text)] := by
  refine emits_token (by decide) fun tail => ?_
  simp [nextToken,scanText_escapeText]

/-- Values without numbers and without `undefined`: what `JSON.stringify` prints is what they are. -/
inductive Textual : Value → Prop where
  | null : Textual .null
  | bool (value : Bool) : Textual (.bool value)
  | string (text : Units) : Textual (.string text)
  | array {items : List Value} : (∀ item ∈ items, Textual item) → Textual (.array items)
  | object {entries : List (Units × Value)} : (entries.map Prod.fst).Nodup →
      (∀ e ∈ entries, Textual e.2) → Textual (.object entries)

/-- The text reads as the value wherever a value is due. -/
def ReadsAs (text : Units) (value : Value) : Prop :=
  ∃ tokens, Emits text tokens ∧
    ∀ stack, (Parser.value stack).run tokens = some (.after value stack)

theorem Parser.run_cons (parser : Parser) (token : Token) (tokens : List Token) :
    parser.run (token :: tokens) = (parser.step token).bind fun next => next.run tokens := rfl

theorem Parser.run_append (parser : Parser) (tokens more : List Token) :
    parser.run (tokens ++ more) = (parser.run tokens).bind fun next => next.run more :=
  List.foldlM_append

/-- After an opening bracket the first item is read as a value. -/
theorem run_item (run : (Parser.value (.array [] :: stack)).run tokens = some (.after complete rest)) :
    (Parser.item stack).run tokens = some (.after complete rest) := by
  cases tokens with
  | nil => simp [Parser.run] at run
  | cons token tokens =>
    rw [Parser.run_cons] at run ⊢
    cases token with
    | closeBracket => simp [Parser.step,startValue] at run
    | _ => exact run

variable {value : Value}

theorem readsAs_scalar {text : Units} (solid : isWhitespace u = false)
    (found : ∀ tail, nextToken (u :: (text ++ tail)) = some (.scalar value,tail)) :
    ReadsAs (u :: text) value :=
  ⟨[.scalar value],emits_token solid found,fun _ => rfl⟩

theorem readsAs_string (text : Units) : ReadsAs (stringifyText text) (.string text) :=
  ⟨[.scalar (.string text)],emits_string text,fun _ => rfl⟩

theorem emits_punctuation (solid : isWhitespace u = false)
    (found : ∀ tail, nextToken (u :: tail) = some (token,tail)) : Emits [u] [token] :=
  emits_token solid found

theorem emits_comma : Emits [0x2C] [.comma] := emits_punctuation (by decide) fun _ => rfl

/-- The items up to the closing bracket. -/
theorem items_read (items : List Value) (nonempty : items ≠ [])
    (each : ∀ item ∈ items, ReadsAs (stringify item) item) :
    ∃ tokens, Emits (List.intercalate [0x2C] (stringifyItems items) ++ [0x5D]) tokens ∧
      ∀ read stack, (Parser.value (.array read :: stack)).run tokens =
        some (.after (.array (read ++ items)) stack) := by
  induction items with
  | nil => exact absurd rfl nonempty
  | cons item rest ih =>
    obtain ⟨tokens,emits,run⟩ := each item List.mem_cons_self
    cases rest with
    | nil =>
      refine ⟨tokens ++ [.closeBracket],?_,fun read stack => ?_⟩
      · simp only [stringifyItems,intercalate_single]
        exact emits.append (emits_punctuation (by decide) fun _ => rfl)
      · rw [Parser.run_append,run]
        rfl
    | cons next rest =>
      obtain ⟨more,emits',run'⟩ := ih (by simp) fun v member => each v (List.mem_cons_of_mem _ member)
      refine ⟨tokens ++ ([.comma] ++ more),?_,fun read stack => ?_⟩
      · simp only [stringifyItems,intercalate_cons_cons] at emits' ⊢
        rw [List.append_assoc,List.append_assoc]
        exact emits.append (emits_comma.append emits')
      · rw [Parser.run_append,run,Option.bind_some,Parser.run_append]
        have next := run' (read ++ [item]) stack
        rw [List.append_assoc] at next
        exact next

theorem set_entries {members : OrderedMap Units Value} {key : Units} {value : Value}
    (absent : key ∉ members.keys) :
    (members.set key value).entries = members.entries ++ [(key,value)] := by
  rw [OrderedMap.set,dif_neg absent]

variable (entries : List (Units × Value))

/-- The members up to the closing brace. -/
theorem members_read (nonempty : entries ≠ [])
    (distinct : (entries.map Prod.fst).Nodup) (spelled : ∀ e ∈ entries, ∀ tag, e.2 ≠ .other tag)
    (each : ∀ e ∈ entries, ReadsAs (stringify e.2) e.2) :
    ∃ tokens, Emits (List.intercalate [0x2C] (stringifyEntries entries) ++ [0x7D]) tokens ∧
      ∀ (members : OrderedMap Units Value) first stack, (∀ e ∈ entries, e.1 ∉ members.keys) →
        (Parser.member members first stack).run tokens =
          some (.after (.object (members.entries ++ entries)) stack) := by
  induction entries with
  | nil => exact absurd rfl nonempty
  | cons entry rest ih =>
    obtain ⟨key,value⟩ := entry
    obtain ⟨tokens,emits,run⟩ := each (key,value) List.mem_cons_self
    have plain : ∀ tag, value ≠ .other tag := spelled (key,value) List.mem_cons_self
    have printed : stringifyEntries ((key,value) :: rest) =
        (stringifyText key ++ ([0x3A] ++ stringify value)) :: stringifyEntries rest := by
      cases value with
      | other tag => exact absurd rfl (plain tag)
      | _ => rfl
    have colon : Emits [0x3A] [.colon] := emits_punctuation (by decide) fun _ => rfl
    have opened := (emits_string key).append (colon.append emits)
    have reached : ∀ (members : OrderedMap Units Value) first stack more,
        (Parser.member members first stack).run ([.scalar (.string key)] ++ ([.colon] ++ tokens) ++ more) =
          (Parser.after value (.object members key :: stack)).run more := by
      intro members first stack more
      have first_step : (Parser.member members first stack).run
          ([.scalar (.string key)] ++ ([.colon] ++ tokens)) =
            (Parser.value (.object members key :: stack)).run tokens := by
        cases first <;> rfl
      rw [Parser.run_append,first_step,run]
      rfl
    cases rest with
    | nil =>
      refine ⟨[.scalar (.string key)] ++ ([.colon] ++ tokens) ++ [.closeBrace],?_,?_⟩
      · simp only [stringifyEntries,intercalate_single]
        exact opened.append (emits_punctuation (by decide) fun _ => rfl)
      · intro members first stack absent
        rw [reached]
        have written := @set_entries members key value (absent (key,value) List.mem_cons_self)
        change some (Parser.after (.object (members.set key value).entries) stack) = _
        rw [written]
    | cons next rest =>
      rw [List.map_cons,List.nodup_cons] at distinct
      obtain ⟨more,emits',run'⟩ := ih (by simp) distinct.2
        (fun e member => spelled e (List.mem_cons_of_mem _ member))
        (fun e member => each e (List.mem_cons_of_mem _ member))
      refine ⟨[.scalar (.string key)] ++ ([.colon] ++ tokens) ++ ([.comma] ++ more),?_,?_⟩
      · obtain ⟨part,parts,later⟩ : ∃ part parts, stringifyEntries (next :: rest) = part :: parts := by
          have some_value := spelled next (by simp)
          rcases next with ⟨nextKey,nextValue⟩
          cases nextValue with
          | other tag => exact absurd rfl (some_value tag)
          | _ => exact ⟨_,_,rfl⟩
        rw [printed,later,intercalate_cons_cons]
        rw [later] at emits'
        have whole := opened.append (emits_comma.append emits')
        simpa only [List.append_assoc] using whole
      · intro members first stack absent
        rw [reached]
        have written := @set_entries members key value (absent (key,value) List.mem_cons_self)
        have later : ∀ e ∈ next :: rest, e.1 ∉ (members.set key value).keys := by
          intro e member inside
          rw [keys,written,List.map_append,List.mem_append] at inside
          rcases inside with inside | inside
          · exact absent e (List.mem_cons_of_mem _ member) inside
          · rw [List.map_singleton,List.mem_singleton] at inside
            exact distinct.1 (inside ▸ List.mem_map_of_mem member)
        have ended := run' (members.set key value) false stack later
        rw [written,List.append_assoc] at ended
        exact ended

theorem Textual.not_other (textual : Textual value) (tag : Nat) : value ≠ .other tag := by
  rintro rfl
  cases textual

theorem Textual.reads (textual : Textual value) : ReadsAs (stringify value) value := by
  induction textual with
  | null => exact readsAs_scalar (by decide) fun _ => rfl
  | bool value => cases value <;> exact readsAs_scalar (by decide) fun _ => rfl
  | string text => exact readsAs_string text
  | @array items _ each =>
    rcases List.eq_nil_or_concat items with rfl | nonempty
    · have opened : Emits [0x5B] [.openBracket] := emits_punctuation (by decide) fun _ => rfl
      have closed : Emits [0x5D] [.closeBracket] := emits_punctuation (by decide) fun _ => rfl
      exact ⟨_,opened.append closed,fun _ => rfl⟩
    · obtain ⟨tokens,emits,run⟩ := items_read items (by rintro rfl; simp at nonempty) each
      have opened : Emits [0x5B] [.openBracket] := emits_punctuation (by decide) fun _ => rfl
      exact ⟨_,opened.append emits,fun stack => run_item (run [] stack)⟩
  | @object entries distinct inner each =>
    rcases List.eq_nil_or_concat entries with rfl | nonempty
    · have opened : Emits [0x7B] [.openBrace] := emits_punctuation (by decide) fun _ => rfl
      have closed : Emits [0x7D] [.closeBrace] := emits_punctuation (by decide) fun _ => rfl
      exact ⟨_,opened.append closed,fun _ => rfl⟩
    · obtain ⟨tokens,emits,run⟩ := members_read entries (by rintro rfl; simp at nonempty) distinct
        (fun e member => (inner e member).not_other) each
      have opened : Emits [0x7B] [.openBrace] := emits_punctuation (by decide) fun _ => rfl
      have fresh : ∀ e ∈ entries, e.1 ∉ (empty : OrderedMap Units Value).keys := by
        simp [keys,empty]
      exact ⟨_,opened.append emits,fun stack => run .empty true stack fresh⟩

/-- A printed value is read back as itself. -/
theorem parse_stringify (textual : Textual value) :
    parse (stringify value) = some value := by
  obtain ⟨tokens,emits,run⟩ := textual.reads
  rw [parse,emits.tokensOf_eq]
  simp [run,Parser.result]

/-- The members that `JSON.stringify` prints. -/
def printed : List (Units × Value) :=
  entries.filter fun e => match e.2 with
    | .other _ => false
    | _ => true

theorem stringify_printed :
    stringify (.object entries) = stringify (.object (printed entries)) := by
  have same : stringifyEntries entries = stringifyEntries (printed entries) := by
    induction entries with
    | nil => rfl
    | cons entry rest ih =>
      obtain ⟨key,value⟩ := entry
      cases value <;> simp_all [printed,stringifyEntries]
  rw [stringify,stringify,same]

/-- Every string of the value, the keys of objects apart, is one that `P` holds of. -/
inductive Over (P : Units → Prop) : Value → Prop where
  | null : Over P .null
  | bool (value : Bool) : Over P (.bool value)
  | number (n : Number) : Over P (.number n)
  | string {text : Units} : P text → Over P (.string text)
  | array {items : List Value} : (∀ item ∈ items, Over P item) → Over P (.array items)
  | object {entries : List (Units × Value)} : (∀ e ∈ entries, Over P e.2) → Over P (.object entries)

variable {P : Units → Prop}

def Token.Over (P : Units → Prop) : Token → Prop
  | .scalar value => JsonText.Over P value
  | _ => True

def Frame.Over (P : Units → Prop) : Frame → Prop
  | .array items => ∀ item ∈ items, JsonText.Over P item
  | .object members _ => ∀ e ∈ members.entries, JsonText.Over P e.2

def Parser.Over (P : Units → Prop) : Parser → Prop
  | .value stack | .item stack => ∀ frame ∈ stack, frame.Over P
  | .member members _ stack | .colon members _ stack =>
    (∀ e ∈ members.entries, JsonText.Over P e.2) ∧ ∀ frame ∈ stack, frame.Over P
  | .after complete stack => JsonText.Over P complete ∧ ∀ frame ∈ stack, frame.Over P

theorem startValue_over (stacked : ∀ frame ∈ stack, frame.Over P) (given : token.Over P)
    (step : startValue stack token = some next) : next.Over P := by
  cases token <;> cases step
  · exact ⟨by simp [empty],stacked⟩
  · exact stacked
  · exact ⟨given,stacked⟩

theorem set_over {members : OrderedMap Units Value} {key : Units} {value : Value}
    (held : ∀ e ∈ members.entries, Over P e.2) (given : Over P value) :
    ∀ e ∈ (members.set key value).entries, Over P e.2 := by
  rintro ⟨k,v⟩ member
  rcases mem_set.mp member with ⟨_,new⟩ | ⟨_,old⟩
  · exact new ▸ given
  · exact held (k,v) old

theorem endValue_over (given : Over P complete) (stacked : ∀ frame ∈ stack, frame.Over P)
    (step : endValue complete stack token = some next) : next.Over P := by
  cases stack with
  | nil => simp [endValue] at step
  | cons frame stack =>
    have top := stacked frame List.mem_cons_self
    have rest : ∀ frame ∈ stack, frame.Over P :=
      fun frame member => stacked frame (List.mem_cons_of_mem _ member)
    cases frame with
    | array items =>
      have items' : ∀ item ∈ items ++ [complete], Over P item := by
        intro item member
        rcases List.mem_append.mp member with old | new
        · exact top item old
        · exact (List.mem_singleton.mp new) ▸ given
      cases token <;> cases step
      · exact ⟨.array items',rest⟩
      · exact List.forall_mem_cons.mpr ⟨items',rest⟩
    | object members key =>
      have members' := @set_over P members key complete top given
      cases token <;> cases step
      · exact ⟨.object members',rest⟩
      · exact ⟨members',rest⟩

theorem step_over {parser next : Parser} (held : parser.Over P) (given : token.Over P)
    (step : parser.step token = some next) : next.Over P := by
  cases parser with
  | value stack => exact startValue_over held given step
  | item stack =>
    have opened : ∀ frame ∈ Frame.array [] :: stack, frame.Over P :=
      List.forall_mem_cons.mpr ⟨by simp [Frame.Over],held⟩
    cases token with
    | closeBracket =>
      cases step
      exact ⟨.array (by simp),held⟩
    | _ => exact startValue_over opened given step
  | member members first stack =>
    cases token with
    | closeBrace =>
      cases first <;> cases step
      exact ⟨.object (by simp),held.2⟩
    | scalar value =>
      cases first <;> cases value <;> cases step <;> exact held
    | _ => cases first <;> cases step
  | colon members key stack =>
    cases token <;> cases step
    exact List.forall_mem_cons.mpr ⟨held.1,held.2⟩
  | after complete stack => exact endValue_over held.1 held.2 step

theorem run_over {parser last : Parser} (held : parser.Over P)
    (given : ∀ token ∈ tokens, token.Over P) (run : parser.run tokens = some last) : last.Over P := by
  induction tokens generalizing parser with
  | nil => exact Option.some.inj run ▸ held
  | cons token tokens ih =>
    obtain ⟨next,step,later⟩ := Option.bind_eq_some_iff.mp run
    exact ih (step_over held (given token List.mem_cons_self) step)
      (fun token member => given token (List.mem_cons_of_mem _ member)) later

theorem Over.mono (weaker : ∀ text, P text → Q text) (held : Over P value) :
    Over Q value := by
  induction held with
  | null => exact .null
  | bool value => exact .bool value
  | number n => exact .number n
  | string inside => exact .string (weaker _ inside)
  | array _ each => exact .array each
  | object _ each => exact .object each

theorem scanScalar_over (scanned : scanScalar rest = some (value,after)) :
    Over P value := by
  unfold scanScalar at scanned
  split at scanned
  · cases scanned; exact .bool true
  split at scanned
  · cases scanned; exact .bool false
  split at scanned
  · cases scanned; exact .null
  · simp only [scanNumber,Option.bind_eq_bind,Option.pure_def,Option.bind_eq_some_iff] at scanned
    obtain ⟨_,_,_,_,_,_,same⟩ := scanned
    cases same
    exact .number _

theorem nextToken_over (found : nextToken rest = some (token,after)) :
    token.Over fun text => text.length < rest.length := by
  unfold nextToken at found
  split at found
  case h_7 rest =>
    obtain ⟨⟨text,last⟩,scanned,same⟩ := Option.map_eq_some_iff.mp found
    cases same
    have shorter := scanText_length scanned
    exact .string (by simp only [List.length_cons]; omega)
  case h_8 rest =>
    obtain ⟨⟨value,last⟩,scanned,same⟩ := Option.map_eq_some_iff.mp found
    cases same
    exact scanScalar_over scanned
  all_goals cases found; trivial

theorem Token.Over.mono (weaker : ∀ text, P text → Q text) (held : token.Over P) :
    token.Over Q := by
  cases token with
  | scalar value => exact JsonText.Over.mono weaker held
  | _ => trivial

theorem scanTokens_over (scanned : scanTokens fuel rest = some tokens) :
    ∀ token ∈ tokens, token.Over fun text => text.length < rest.length := by
  induction fuel generalizing rest tokens with
  | zero =>
    simp only [scanTokens,Option.ite_none_right_eq_some] at scanned
    simp [← Option.some.inj scanned.2]
  | succ fuel ih =>
    rw [scanTokens] at scanned
    have skipped := whitespace_length rest
    split at scanned
    · simp [← Option.some.inj scanned]
    · rename_i u solid spaces
      simp only [Option.bind_eq_bind,Option.pure_def,Option.bind_eq_some_iff] at scanned
      obtain ⟨⟨token,after⟩,found,later,inner,same⟩ := scanned
      cases same
      rw [spaces] at skipped
      have shorter := nextToken_length found
      refine List.forall_mem_cons.mpr ⟨(nextToken_over found).mono fun text bound => ?_,
        fun token member => (ih inner token member).mono fun text bound => ?_⟩
      · omega
      · dsimp only at bound; omega

/-- A string that is read is shorter than the text. -/
theorem parse_over (parsed : parse text = some value) :
    Over (fun inner => inner.length < text.length) value := by
  simp only [parse,Option.bind_eq_bind,Option.bind_eq_some_iff] at parsed
  obtain ⟨tokens,scanned,last,run,result⟩ := parsed
  have held := run_over (P := fun inner => inner.length < text.length)
    (by simp [Parser.Over]) (scanTokens_over scanned) run
  cases last with
  | after complete stack =>
    cases stack with
    | nil => exact Option.some.inj result ▸ held.1
    | cons => simp [Parser.result] at result
  | _ => simp [Parser.result] at result

end GjcRemote.JsonText
