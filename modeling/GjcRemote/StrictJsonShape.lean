import GjcRemote.StrictJsonText

/-! What validation charges and demands of a value, apart from the order in which
it walks the parts: `size` and `Accepted`. `normalize` forgets what the canonical
spelling forgets, the order of an object's keys and the sign of zero. -/
namespace GjcRemote.StrictJson

open Utf16

mutual
def size : Value → Nat
  | .array items => sizeItems items + 1
  | .object entries => sizeEntries entries + 1
  | _ => 1
def sizeItems : List Value → Nat
  | [] => 0
  | item :: rest => size item + sizeItems rest
def sizeEntries : List (Units × Value) → Nat
  | [] => 0
  | (_,value) :: rest => size value + sizeEntries rest
end

mutual
/-- Everything validation demands of a value at a depth, apart from the node limit. -/
def Accepted (maxDepth : Nat) : Value → Nat → Prop
  | .null, depth | .bool _, depth => depth ≤ maxDepth
  | .number n, depth => depth ≤ maxDepth ∧ isSafeInteger n = true
  | .string text, depth => depth ≤ maxDepth ∧ StrictUnits text
  | .array items, depth => depth ≤ maxDepth ∧ AcceptedItems maxDepth items (depth + 1)
  | .object entries, depth => depth ≤ maxDepth ∧ AcceptedEntries maxDepth entries (depth + 1)
  | .other _, _ => False
def AcceptedItems (maxDepth : Nat) : List Value → Nat → Prop
  | [], _ => True
  | item :: rest, depth => Accepted maxDepth item depth ∧ AcceptedItems maxDepth rest depth
def AcceptedEntries (maxDepth : Nat) : List (Units × Value) → Nat → Prop
  | [], _ => True
  | (key,value) :: rest, depth =>
    StrictUnits key ∧ Accepted maxDepth value depth ∧ AcceptedEntries maxDepth rest depth
end

mutual
/-- No object lists a key twice, as no JavaScript object can. -/
def DistinctKeys : Value → Prop
  | .array items => DistinctItems items
  | .object entries => (entries.map Prod.fst).Nodup ∧ DistinctEntries entries
  | _ => True
def DistinctItems : List Value → Prop
  | [] => True
  | item :: rest => DistinctKeys item ∧ DistinctItems rest
def DistinctEntries : List (Units × Value) → Prop
  | [] => True
  | (_,value) :: rest => DistinctKeys value ∧ DistinctEntries rest
end

mutual
/-- Keys in byte order at every level, and zero without its sign. -/
def normalize : Value → Value
  | .number n => .number (readNumber n)
  | .array items => .array (normalizeItems items)
  | .object entries => .object (sortEntries (normalizeEntries entries))
  | value => value
def normalizeItems : List Value → List Value
  | [] => []
  | item :: rest => normalize item :: normalizeItems rest
def normalizeEntries : List (Units × Value) → List (Units × Value)
  | [] => []
  | (key,value) :: rest => (key,normalize value) :: normalizeEntries rest
end

variable (items : List Value)

theorem sizeItems_eq : sizeItems items = (items.map size).sum := by
  induction items with
  | nil => rfl
  | cons item rest ih => simp [sizeItems,ih]

section

variable (entries : List (Units × Value))

theorem sizeEntries_eq :
    sizeEntries entries = (entries.map fun e => size e.2).sum := by
  induction entries with
  | nil => rfl
  | cons entry rest ih => simp [sizeEntries,ih]

theorem acceptedItems_iff (maxDepth : Nat) (items : List Value) (depth : Nat) :
    AcceptedItems maxDepth items depth ↔ ∀ v ∈ items, Accepted maxDepth v depth := by
  induction items with
  | nil => simp [AcceptedItems]
  | cons item rest ih => simp [AcceptedItems,ih]

theorem acceptedEntries_iff (maxDepth : Nat) (entries : List (Units × Value)) (depth : Nat) :
    AcceptedEntries maxDepth entries depth ↔ ∀ e ∈ entries, StrictUnits e.1 ∧ Accepted maxDepth e.2 depth := by
  induction entries with
  | nil => simp [AcceptedEntries]
  | cons entry rest ih => simp only [AcceptedEntries,ih,List.forall_mem_cons,and_assoc]

theorem distinctItems_iff :
    DistinctItems items ↔ ∀ v ∈ items, DistinctKeys v := by
  induction items with
  | nil => simp [DistinctItems]
  | cons item rest ih => simp [DistinctItems,ih]

theorem distinctEntries_iff :
    DistinctEntries entries ↔ ∀ e ∈ entries, DistinctKeys e.2 := by
  induction entries with
  | nil => simp [DistinctEntries]
  | cons entry rest ih => simp only [DistinctEntries,ih,List.forall_mem_cons]

theorem normalizeItems_eq : normalizeItems items = items.map normalize := by
  induction items with
  | nil => rfl
  | cons item rest ih => simp [normalizeItems,ih]

theorem normalizeEntries_eq :
    normalizeEntries entries = entries.map fun e => (e.1,normalize e.2) := by
  induction entries with
  | nil => rfl
  | cons entry rest ih => simp [normalizeEntries,ih]

theorem renderItems_eq : renderItems items = items.map render := by
  induction items with
  | nil => rfl
  | cons item rest ih => simp [renderItems,ih]

theorem renderEntries_eq :
    renderEntries entries = entries.map fun e => (e.1,render e.2) := by
  induction entries with
  | nil => rfl
  | cons entry rest ih => simp [renderEntries,ih]

end

/-- Induction over a value with one hypothesis for all its parts. -/
theorem Value.induct {P : Value → Prop} (null : P .null) (bool : ∀ b, P (.bool b))
    (number : ∀ n, P (.number n)) (string : ∀ text, P (.string text))
    (array : ∀ items, (∀ v ∈ items, P v) → P (.array items))
    (object : ∀ entries : List (Units × Value), (∀ e ∈ entries, P e.2) → P (.object entries))
    (other : ∀ tag, P (.other tag)) (value : Value) : P value := by
  refine Value.rec (motive_1 := P) (motive_2 := fun items => ∀ v ∈ items, P v)
    (motive_3 := fun entries => ∀ e ∈ entries, P e.2) (motive_4 := fun e => P e.2)
    null bool number string array object other ?_ ?_ ?_ ?_ ?_ value
  · simp
  · intro head tail first rest v member
    rcases List.mem_cons.mp member with rfl | member
    · exact first
    · exact rest v member
  · simp
  · intro head tail first rest e member
    rcases List.mem_cons.mp member with rfl | member
    · exact first
    · exact rest e member
  · exact fun _ _ h => h

theorem enter_ok :
    enter limits depth nodes = .ok result ↔
      depth ≤ limits.maxDepth ∧ nodes + 1 ≤ limits.maxNodes ∧ result = nodes + 1 := by
  unfold enter
  split
  · simp; omega
  · split
    · simp; omega
    · simp; omega

theorem except_bind_ok {ε α β : Type} {first : Except ε α} {next : α → Except ε β} {b : β} :
    (first >>= next) = .ok b ↔ ∃ a, first = .ok a ∧ next a = .ok b := by
  cases first with
  | error e => simp [bind,Except.bind]
  | ok a => simp [bind,Except.bind]

theorem mapError_ok {ε ε' α : Type} {result : Except ε α} {f : ε → ε'} {a : α} :
    result.mapError f = .ok a ↔ result = .ok a := by
  cases result <;> simp [Except.mapError]

theorem except_unit_bind_ok {ε β : Type} {first : Except ε Unit} {next : Unit → Except ε β} {b : β} :
    (first >>= next) = .ok b ↔ first = .ok () ∧ next () = .ok b := by
  rw [except_bind_ok]
  exact ⟨fun ⟨(),done,rest⟩ => ⟨done,rest⟩,fun ⟨done,rest⟩ => ⟨(),done,rest⟩⟩

theorem assertItems_iff {items : List Value}
    (each : ∀ v ∈ items, ∀ nodes result, assertJsonValue limits v depth nodes = .ok result ↔
      Accepted limits.maxDepth v depth ∧ nodes + size v ≤ limits.maxNodes ∧
        result = nodes + size v) (start : nodes ≤ limits.maxNodes) :
    assertItems limits items depth nodes = .ok result ↔
      AcceptedItems limits.maxDepth items depth ∧ nodes + sizeItems items ≤ limits.maxNodes ∧
        result = nodes + sizeItems items := by
  induction items generalizing nodes with
  | nil => simp [assertItems,AcceptedItems,sizeItems,start,eq_comm]
  | cons item rest ih =>
    rw [assertItems,except_bind_ok]
    simp only [each item (by simp),AcceptedItems,sizeItems]
    have later := fun n => @ih n fun v member => each v (by simp [member])
    constructor
    · rintro ⟨n,⟨accepted,bound,rfl⟩,tail⟩
      obtain ⟨all,total,rfl⟩ := (later _ bound).mp tail
      exact ⟨⟨accepted,all⟩,by omega,by omega⟩
    · rintro ⟨⟨accepted,all⟩,bound,rfl⟩
      exact ⟨_,⟨accepted,by omega,rfl⟩,(later _ (by omega)).mpr ⟨all,by omega,by omega⟩⟩

theorem assertEntries_iff
    (each : ∀ e ∈ entries, ∀ nodes result, assertJsonValue limits e.2 depth nodes = .ok result ↔
      Accepted limits.maxDepth e.2 depth ∧ nodes + size e.2 ≤ limits.maxNodes ∧
        result = nodes + size e.2) (start : nodes ≤ limits.maxNodes) :
    assertEntries limits entries depth nodes = .ok result ↔ AcceptedEntries limits.maxDepth entries depth ∧
        nodes + sizeEntries entries ≤ limits.maxNodes ∧ result = nodes + sizeEntries entries := by
  induction entries generalizing nodes with
  | nil => simp [assertEntries,AcceptedEntries,sizeEntries,start,eq_comm]
  | cons entry rest ih =>
    obtain ⟨key,value⟩ := entry
    rw [assertEntries,except_unit_bind_ok,strictUnits_iff,except_bind_ok]
    simp only [each (key,value) (by simp),AcceptedEntries,sizeEntries]
    have later := fun n => @ih n fun e member => each e (by simp [member])
    constructor
    · rintro ⟨strict,n,⟨accepted,bound,rfl⟩,tail⟩
      obtain ⟨all,total,rfl⟩ := (later _ bound).mp tail
      exact ⟨⟨strict,accepted,all⟩,by omega,by omega⟩
    · rintro ⟨⟨strict,accepted,all⟩,bound,rfl⟩
      exact ⟨strict,_,⟨accepted,by omega,rfl⟩,(later _ (by omega)).mpr ⟨all,by omega,by omega⟩⟩

/-- Validation by its order-free parts. -/
theorem assertJsonValue_iff (limits : Limits) (value : Value) (depth nodes result : Nat) :
    assertJsonValue limits value depth nodes = .ok result ↔
      Accepted limits.maxDepth value depth ∧ nodes + size value ≤ limits.maxNodes ∧
        result = nodes + size value := by
  induction value using Value.induct generalizing depth nodes result with
  | null => simp [assertJsonValue,Accepted,size,enter_ok]
  | bool b => simp [assertJsonValue,Accepted,size,enter_ok]
  | number n =>
    simp only [assertJsonValue,except_bind_ok,enter_ok,Accepted,size]
    by_cases safe : isSafeInteger n
    · simp [safe,pure,Except.pure]
      grind
    · simp [safe,throw,throwThe,MonadExceptOf.throw]
  | string text =>
    rw [assertJsonValue,except_bind_ok]
    simp only [enter_ok,except_unit_bind_ok,strictUnits_iff,Accepted,size]
    simp [pure,Except.pure]
    grind
  | array items ih =>
    simp only [assertJsonValue,except_bind_ok,enter_ok,Accepted,size]
    constructor
    · rintro ⟨n,⟨shallow,bound,rfl⟩,rest⟩
      obtain ⟨all,total,rfl⟩ := (assertItems_iff (fun v m n r => ih v m _ n r) bound).mp rest
      exact ⟨⟨shallow,all⟩,by omega,by omega⟩
    · rintro ⟨⟨shallow,all⟩,bound,rfl⟩
      exact ⟨_,⟨shallow,by omega,rfl⟩,
        (assertItems_iff (fun v m n r => ih v m _ n r) (by omega)).mpr ⟨all,by omega,by omega⟩⟩
  | object entries ih =>
    simp only [assertJsonValue,except_bind_ok,enter_ok,Accepted,size]
    constructor
    · rintro ⟨n,⟨shallow,bound,rfl⟩,rest⟩
      obtain ⟨all,total,rfl⟩ := (assertEntries_iff (fun e m n r => ih e m _ n r) bound).mp rest
      exact ⟨⟨shallow,all⟩,by omega,by omega⟩
    · rintro ⟨⟨shallow,all⟩,bound,rfl⟩
      exact ⟨_,⟨shallow,by omega,rfl⟩,
        (assertEntries_iff (fun e m n r => ih e m _ n r) (by omega)).mpr ⟨all,by omega,by omega⟩⟩
  | other tag =>
    simp [assertJsonValue,except_bind_ok,Accepted,throw,throwThe,MonadExceptOf.throw]

theorem canonicalJson_iff (value : Value) (limits : Limits) (text : Units) :
    canonicalJson value limits = .ok text ↔
      Accepted limits.maxDepth value 0 ∧ size value ≤ limits.maxNodes ∧ text = render value := by
  simp only [canonicalJson,except_bind_ok,assertJsonValue_iff]
  simp [pure,Except.pure]
  grind

end GjcRemote.StrictJson
