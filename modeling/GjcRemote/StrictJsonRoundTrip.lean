import GjcRemote.StrictJsonShape

/-! The canonical spelling is injective and strict: the parser reads it back, and
accepts no other spelling. -/
namespace GjcRemote.StrictJson

open Utf16
open List hiding intercalate_cons_cons

/-- The order of `sortEntries`. -/
def keyLe {α : Type} (a b : Units × α) : Prop := (utf8Compare a.1 b.1).isLE = true

instance {α : Type} : DecidableRel (@keyLe α) := fun _ _ => inferInstanceAs (Decidable (_ = true))

instance {α : Type} : Std.Total (@keyLe α) where
  total a b := by
    unfold keyLe utf8Compare
    rw [@Std.OrientedCmp.eq_swap _ compare _ (utf8 b.1)]
    cases compare (utf8 a.1) (utf8 b.1) <;> simp

instance {α : Type} : IsTrans (Units × α) keyLe where
  trans _ _ _ := @Std.TransCmp.isLE_trans _ compare _ _ _ _

variable {α : Type}

theorem sortEntries_perm (entries : List (Units × α)) :
    (sortEntries entries).Perm entries := perm_insertionSort keyLe entries

theorem sortEntries_sorted (entries : List (Units × α)) :
    (sortEntries entries).Pairwise keyLe := pairwise_insertionSort keyLe entries

/-- Sorting looks at keys only. -/
theorem sortEntries_map (f : α → β) (entries : List (Units × α)) :
    sortEntries (entries.map fun e => (e.1,f e.2)) = (sortEntries entries).map fun e => (e.1,f e.2) :=
  (map_insertionSort keyLe keyLe (fun e : Units × α => (e.1,f e.2)) entries fun _ _ _ _ => Iff.rfl).symm

theorem sortEntries_idem (entries : List (Units × α)) :
    sortEntries (sortEntries entries) = sortEntries entries :=
  (sortEntries_sorted entries).insertionSort_eq

theorem size_normalize (value : Value) : size (normalize value) = size value := by
  induction value using Value.induct with
  | array items ih =>
    simp only [normalize,size,normalizeItems_eq,sizeItems_eq,map_map,Nat.add_right_cancel_iff]
    exact congrArg sum (map_congr_left ih)
  | object entries ih =>
    simp only [normalize,size,normalizeEntries_eq,sizeEntries_eq,Nat.add_right_cancel_iff]
    rw [sortEntries_map,map_map,((sortEntries_perm entries).map _).sum_nat]
    exact congrArg sum (map_congr_left ih)
  | _ => rfl

theorem safe_readNumber (n : Number) : isSafeInteger (readNumber n) = isSafeInteger n := by
  cases n <;> rfl

theorem accepted_normalize (maxDepth : Nat) (value : Value) (depth : Nat) :
    Accepted maxDepth (normalize value) depth ↔ Accepted maxDepth value depth := by
  induction value using Value.induct generalizing depth with
  | number n => simp [normalize,Accepted,safe_readNumber]
  | array items ih =>
    simp only [normalize,Accepted,acceptedItems_iff,normalizeItems_eq,forall_mem_map]
    exact and_congr_right fun _ => forall₂_congr fun v member => ih v member _
  | object entries ih =>
    simp only [normalize,Accepted,acceptedEntries_iff,normalizeEntries_eq,
      (sortEntries_perm _).mem_iff,forall_mem_map]
    exact and_congr_right fun _ => forall₂_congr fun e member => and_congr_right fun _ => ih e member _
  | _ => rfl

theorem render_object (entries : List (Units × Value)) :
    render (.object entries) = 0x7B :: (intercalate [0x2C]
      ((sortEntries entries).map fun e => stringifyText e.1 ++ 0x3A :: render e.2) ++ [0x7D]) := by
  rw [render,renderEntries_eq,sortEntries_map,map_map]
  rfl

theorem render_array (items : List Value) :
    render (.array items) = 0x5B :: (intercalate [0x2C] (items.map render) ++ [0x5D]) := by
  rw [render,renderItems_eq]

/-- The spelling forgets no more than `normalize` does. -/
theorem render_normalize (value : Value) : render (normalize value) = render value := by
  induction value using Value.induct with
  | number n => cases n <;> rfl
  | array items ih =>
    rw [normalize,render_array,render_array,normalizeItems_eq,map_map]
    exact congrArg (fun parts => 0x5B :: (intercalate [0x2C] parts ++ [0x5D])) (map_congr_left ih)
  | object entries ih =>
    rw [normalize,render_object,render_object,sortEntries_idem,normalizeEntries_eq,sortEntries_map,map_map]
    have same : ∀ e ∈ sortEntries entries, stringifyText e.1 ++ 0x3A :: render (normalize e.2) =
        stringifyText e.1 ++ 0x3A :: render e.2 := by
      intro e member
      rw [ih e ((sortEntries_perm entries).mem_iff.mp member)]
    exact congrArg (fun parts => 0x7B :: (intercalate [0x2C] parts ++ [0x7D])) (map_congr_left same)
  | _ => rfl

theorem sortEntries_of_perm {entries others : List (Units × α)}
    (perm : entries.Perm others) (distinct : (entries.map Prod.fst).Nodup)
    (strict : ∀ e ∈ entries, StrictUnits e.1) : sortEntries entries = sortEntries others := by
  have sorted := (sortEntries_perm entries).trans (perm.trans (sortEntries_perm others).symm)
  refine Perm.eq_of_pairwise ?_ (sortEntries_sorted entries) (sortEntries_sorted others) sorted
  intro a b left right ab ba
  have left := (sortEntries_perm entries).mem_iff.mp left
  have right := perm.mem_iff.mpr ((sortEntries_perm others).mem_iff.mp right)
  have bytes : utf8 a.1 = utf8 b.1 := by
    have eq := @Std.OrientedCmp.isLE_antisymm _ compare _ _ _ ab ba
    exact Std.LawfulEqCmp.eq_of_compare eq
  have keys := utf8_injective (strict a left).wellFormed (strict b right).wellFormed bytes
  exact inj_on_of_nodup_map distinct left right keys

@[simp] theorem intercalate_single (sep part : Units) : intercalate sep [part] = part := by
  simp [intercalate]

@[simp] theorem intercalate_cons_cons (sep part next : Units) (rest : List Units) :
    intercalate sep (part :: next :: rest) = part ++ (sep ++ intercalate sep (next :: rest)) := by
  simp [intercalate]

theorem wellFormed_intercalate (parts : List Units) (each : ∀ part ∈ parts, wellFormed part) :
    wellFormed (intercalate [0x2C] parts) := by
  match parts with
  | [] => rfl
  | [part] => simpa using each part (by simp)
  | part :: next :: rest =>
    have later := wellFormed_intercalate (next :: rest) fun p member => each p (by simp [member])
    rw [intercalate_cons_cons,wellFormed_append (each part (by simp)),wellFormed_append (by decide),later]

theorem wellFormed_bracketed {inner : Units} (openingPlain : isHigh opening = false ∧ isLow opening = false)
    (inside : wellFormed inner) (closed : wellFormed [closing]) :
    wellFormed (opening :: (inner ++ [closing])) := by
  rw [wellFormed_plain openingPlain.1 openingPlain.2,wellFormed_append inside,closed]

theorem wellFormed_render (maxDepth : Nat) (value : Value) (depth : Nat)
    (accepted : Accepted maxDepth value depth) : wellFormed (render value) := by
  induction value using Value.induct generalizing depth with
  | null => decide
  | bool b => cases b <;> decide
  | number n =>
    cases n with
    | int n => exact wellFormed_encode _
    | negativeZero => decide
    | other tag => simp [Accepted,isSafeInteger] at accepted
  | string text => exact stringifyText_wellFormed accepted.2
  | array items ih =>
    rw [Accepted,acceptedItems_iff] at accepted
    rw [render_array]
    refine wellFormed_bracketed (by decide) (wellFormed_intercalate _ ?_) (by decide)
    intro part member
    obtain ⟨v,inside,rfl⟩ := mem_map.mp member
    exact ih v inside _ (accepted.2 v inside)
  | object entries ih =>
    rw [Accepted,acceptedEntries_iff] at accepted
    rw [render_object]
    refine wellFormed_bracketed (by decide) (wellFormed_intercalate _ ?_) (by decide)
    intro part member
    obtain ⟨e,inside,rfl⟩ := mem_map.mp member
    have inside := (sortEntries_perm entries).mem_iff.mp inside
    have parts := accepted.2 e inside
    rw [wellFormed_append (stringifyText_wellFormed parts.1),wellFormed_plain (by decide) (by decide)]
    exact ih e inside _ parts.2
  | other tag => simp [Accepted] at accepted

/-- The first unit of a spelling: no whitespace, no closing bracket, and ASCII. -/
theorem render_head (maxDepth : Nat) (value : Value) (depth : Nat) (accepted : Accepted maxDepth value depth) :
    ∃ u rest, render value = u :: rest ∧ isWhitespace u = false ∧ u ≠ 0x5D ∧ u ≠ 0x7D ∧ u < 0x80 := by
  have byDigit : ∀ u, isDigit u → isWhitespace u = false ∧ u ≠ 0x5D ∧ u ≠ 0x7D ∧ u < 0x80 := by
    intro u digit
    simp only [isDigit,Bool.and_eq_true,decide_eq_true_eq,UInt16.le_iff_toNat_le] at digit
    simp only [isWhitespace,Bool.or_eq_false_iff,beq_eq_false_iff_ne,ne_eq,← UInt16.toNat_inj,
      UInt16.lt_iff_toNat_lt]
    simp at digit ⊢
    omega
  have natural : ∀ n, ∃ u rest, digitUnits n = u :: rest ∧ isDigit u := by
    intro n
    rcases digitUnits_cases n with ⟨_,code⟩ | ⟨_,u,rest,code,_,digit⟩
    · exact ⟨_,_,code,by decide⟩
    · exact ⟨u,rest,code,digit⟩
  cases value with
  | null => exact ⟨_,_,rfl,by decide⟩
  | bool b => cases b <;> exact ⟨_,_,rfl,by decide⟩
  | string text => exact ⟨_,_,rfl,by decide⟩
  | array items => exact ⟨_,_,render_array items,by decide⟩
  | object entries => exact ⟨_,_,render_object entries,by decide⟩
  | other tag => simp [Accepted] at accepted
  | number n =>
    cases n with
    | negativeZero => exact ⟨_,_,rfl,by decide⟩
    | other tag => simp [Accepted,isSafeInteger] at accepted
    | int n =>
      rcases n with n | n
      · obtain ⟨u,rest,code,digit⟩ := natural n
        exact ⟨u,rest,(stringifyNumber_ofNat n).trans code,byDigit u digit⟩
      · exact ⟨_,_,stringifyNumber_neg n,by decide⟩

theorem whitespace_head (solid : isWhitespace u = false) (rest : Units) :
    whitespace (u :: rest) = u :: rest := by simp [whitespace,solid]

/-- The three literals in the order in which the parser tries them. -/
theorem parseScalar_literals (ctx : Context) (nodes : Nat) (tail : Units) :
    parseScalar ctx ⟨nodes,ofString "true" ++ tail⟩ = .ok (.bool true,⟨nodes,tail⟩) ∧
    parseScalar ctx ⟨nodes,ofString "false" ++ tail⟩ = .ok (.bool false,⟨nodes,tail⟩) ∧
    parseScalar ctx ⟨nodes,ofString "null" ++ tail⟩ = .ok (.null,⟨nodes,tail⟩) := by
  have spelled : ofString "true" = [0x74,0x72,0x75,0x65] ∧
      ofString "false" = [0x66,0x61,0x6C,0x73,0x65] ∧ ofString "null" = [0x6E,0x75,0x6C,0x6C] := by
    decide
  obtain ⟨t,f,n⟩ := spelled
  simp [parseScalar,numberToken,integerDigits,isDigit,startsWith,t,f,n,isPrefixOf]

variable {ctx : Context}

/-- A value that is neither a string nor a container goes to `parseScalar`. -/
theorem parseValue_scalar {rest : Units} (entered : enter ctx.limits depth nodes = .ok (nodes + 1))
    (solid : isWhitespace u = false) (plain : u ≠ 0x22 ∧ u ≠ 0x7B ∧ u ≠ 0x5B)
    (scalar : parseScalar ctx ⟨nodes + 1,u :: rest⟩ = .ok result) :
    parseValue ctx (fuel + 1) depth ⟨nodes,u :: rest⟩ = .ok result := by
  obtain ⟨quote,brace,bracket⟩ := plain
  rw [parseValue]
  simp [entered,attempt,Except.mapError,bind,Except.bind,whitespace_head solid,quote,brace,bracket,scalar]

/-- The parser reads the spelling of `value` back, wherever it stands. -/
def Reads (ctx : Context) (value : Value) : Prop :=
  ∀ depth nodes fuel tail, Accepted ctx.limits.maxDepth value depth →
    nodes + size value ≤ ctx.limits.maxNodes → endsNumber tail = true →
    2 * (render value ++ tail).length + 1 ≤ fuel →
    parseValue ctx fuel depth ⟨nodes,render value ++ tail⟩ = .ok (normalize value,⟨nodes + size value,tail⟩)

theorem reads_scalar {rest : Units} (code : render value = u :: rest) (solid : isWhitespace u = false)
    (plain : u ≠ 0x22 ∧ u ≠ 0x7B ∧ u ≠ 0x5B) (one : size value = 1)
    (shallow : ∀ depth, Accepted ctx.limits.maxDepth value depth → depth ≤ ctx.limits.maxDepth)
    (scalar : ∀ depth nodes tail, Accepted ctx.limits.maxDepth value depth → endsNumber tail →
      parseScalar ctx ⟨nodes,render value ++ tail⟩ = .ok (normalize value,⟨nodes,tail⟩)) :
    Reads ctx value := by
  intro depth nodes fuel tail accepted bound ends enough
  obtain ⟨fuel,rfl⟩ : ∃ f, fuel = f + 1 := ⟨fuel - 1,by omega⟩
  have read := scalar depth (nodes + 1) tail accepted ends
  rw [code,cons_append] at read ⊢
  rw [one] at bound ⊢
  exact parseValue_scalar (enter_ok.mpr ⟨shallow depth accepted,bound,rfl⟩) solid plain read

theorem parseItems_render (items : List Value) (nonempty : items ≠ [])
    (each : ∀ v ∈ items, Reads ctx v) (done : List Value) (depth nodes fuel : Nat) (tail : Units)
    (accepted : AcceptedItems ctx.limits.maxDepth items (depth + 1))
    (bound : nodes + sizeItems items ≤ ctx.limits.maxNodes)
    (enough : 2 * (intercalate [0x2C] (items.map render) ++ 0x5D :: tail).length + 2 ≤ fuel) :
    parseItems ctx fuel depth done ⟨nodes,intercalate [0x2C] (items.map render) ++ 0x5D :: tail⟩ =
      .ok (.array (done ++ items.map normalize),⟨nodes + sizeItems items,tail⟩) := by
  induction items generalizing done nodes fuel with
  | nil => exact absurd rfl nonempty
  | cons v rest ih =>
    obtain ⟨fuel,rfl⟩ : ∃ f, fuel = f + 1 := ⟨fuel - 1,by omega⟩
    obtain ⟨first,later⟩ := accepted
    rw [sizeItems] at bound
    rw [parseItems]
    cases rest with
    | nil =>
      simp only [map_cons,map_nil,intercalate_single] at enough ⊢
      have read := each v (by simp) (depth + 1) nodes fuel (0x5D :: tail) first (by omega) rfl (by omega)
      simp [read,bind,Except.bind,whitespace,isWhitespace,sizeItems,pure,Except.pure]
    | cons w rest =>
      simp only [map_cons,intercalate_cons_cons,append_assoc,cons_append,nil_append] at enough ⊢
      have read := each v (by simp) (depth + 1) nodes fuel _ first (by omega)
        (show endsNumber (0x2C :: (intercalate [0x2C] (render w :: rest.map render) ++
          0x5D :: tail)) = true from rfl) (by omega)
      have next := ih (by simp) (fun x member => each x (by simp [member])) (done ++ [normalize v])
        (nodes + size v) fuel later (by omega)
        (by simp only [map_cons,length_append,length_cons] at enough ⊢; omega)
      simp only [map_cons] at next
      simp [read,bind,Except.bind,whitespace,isWhitespace,next,sizeItems]
      omega

theorem parseMembers_render (strictOnly : ctx.options = ⟨none⟩)
    (entries : List (Units × Value)) (nonempty : entries ≠ [])
    (each : ∀ e ∈ entries, Reads ctx e.2) (done : List (Units × Value)) (depth nodes fuel : Nat)
    (tail : Units) (accepted : AcceptedEntries ctx.limits.maxDepth entries (depth + 1))
    (fresh : ((done ++ entries).map Prod.fst).Nodup)
    (bound : nodes + sizeEntries entries ≤ ctx.limits.maxNodes) (enough : 2 * (intercalate [0x2C]
      (entries.map fun e => stringifyText e.1 ++ 0x3A :: render e.2) ++ 0x7D :: tail).length + 2 ≤ fuel) :
    parseMembers ctx fuel depth done ⟨nodes,intercalate [0x2C]
        (entries.map fun e => stringifyText e.1 ++ 0x3A :: render e.2) ++ 0x7D :: tail⟩ =
      .ok (.object (done ++ entries.map fun e => (e.1,normalize e.2)), ⟨nodes + sizeEntries entries,tail⟩) := by
  induction entries generalizing done nodes fuel with
  | nil => exact absurd rfl nonempty
  | cons entry rest ih =>
    obtain ⟨key,v⟩ := entry
    obtain ⟨fuel,rfl⟩ : ∃ f, fuel = f + 1 := ⟨fuel - 1,by omega⟩
    obtain ⟨strict,first,later⟩ := accepted
    have reads : Reads ctx v := each (key,v) (by simp)
    have unseen : key ∉ done.map Prod.fst := by
      rw [map_append,nodup_append] at fresh
      exact fun member => fresh.2.2 key member key (by simp) rfl
    have quoted : ∀ rest', whitespace (stringifyText key ++ rest') = stringifyText key ++ rest' :=
      fun rest' => whitespace_head (by decide) _
    have keyed : ∀ rest', parseString ctx true (stringifyText key ++ rest') = .ok (key,rest') :=
      parseString_stringifyText strictOnly true strict
    rw [sizeEntries] at bound
    rw [parseMembers]
    cases rest with
    | nil =>
      simp only [map_cons,map_nil,intercalate_single,append_assoc,cons_append] at enough ⊢
      have read := reads (depth + 1) nodes fuel (0x7D :: tail) first (by omega) rfl
        (by simp only [length_append,length_cons] at enough ⊢; omega)
      simp [quoted,keyed,attempt,Except.mapError,bind,Except.bind,unseen,read,whitespace,
        isWhitespace,sizeEntries,pure,Except.pure]
    | cons next rest =>
      simp only [map_cons,intercalate_cons_cons,append_assoc,cons_append,nil_append] at enough ⊢
      have read := reads (depth + 1) nodes fuel (0x2C :: (intercalate [0x2C]
          ((stringifyText next.1 ++ 0x3A :: render next.2) ::
            rest.map fun e => stringifyText e.1 ++ 0x3A :: render e.2) ++ 0x7D :: tail))
        first (by omega) rfl
        (by simp only [length_append,length_cons] at enough ⊢; omega)
      have continued := ih (by simp) (fun x member => each x (by simp [member]))
        (done ++ [(key,normalize v)]) (nodes + size v) fuel later (by simpa using fresh) (by omega)
        (by simp only [map_cons,length_append,length_cons] at enough ⊢; omega)
      simp only [map_cons] at continued
      simp [quoted,keyed,attempt,Except.mapError,bind,Except.bind,unseen,read,whitespace,
        isWhitespace,continued,sizeEntries]
      omega

theorem reads_number (ctx : Context) (n : Number) : Reads ctx (.number n) := by
  intro depth nodes fuel tail accepted bound ends enough
  obtain ⟨u,rest,code,solid,_,_,_⟩ := render_head _ _ _ accepted
  have safe : isSafeInteger n := accepted.2
  refine reads_scalar code solid ?_ rfl (fun _ accepted => accepted.1)
    (fun _ _ _ accepted ends => parseScalar_stringifyNumber ctx _ accepted.2 ends)
    depth nodes fuel tail accepted bound ends enough
  -- a number starts with a digit or with the minus sign
  have shape : isDigit u ∨ u = 0x2D := by
    cases n with
    | negativeZero => exact .inl (by rw [← (cons.inj code).1]; rfl)
    | other tag => simp [isSafeInteger] at safe
    | int n =>
      rcases n with n | n
      · have digit := digitUnits_digits n u (by
          rw [← stringifyNumber_ofNat]
          exact (show stringifyNumber (.int n) = u :: rest from code) ▸ mem_cons_self)
        exact .inl digit
      · have spelled := (stringifyNumber_neg n).symm.trans code
        exact .inr (cons.inj spelled).1.symm
  rcases shape with digit | rfl
  · refine ⟨?_,?_,?_⟩ <;> rintro rfl <;> simp [isDigit] at digit
  · decide

theorem reads_array (each : ∀ v ∈ items, Reads ctx v) :
    Reads ctx (.array items) := by
  intro depth nodes fuel tail accepted bound ends enough
  obtain ⟨fuel,rfl⟩ : ∃ f, fuel = f + 1 := ⟨fuel - 1,by omega⟩
  obtain ⟨shallow,inside⟩ := accepted
  rw [size] at bound ⊢
  rw [render_array] at enough ⊢
  have entered : enter ctx.limits depth nodes = .ok (nodes + 1) :=
    enter_ok.mpr ⟨shallow,by omega,rfl⟩
  rw [parseValue]
  cases items with
  | nil =>
    simp [entered,attempt,Except.mapError,bind,Except.bind,whitespace,isWhitespace,sizeItems,
      normalize,normalizeItems,pure,Except.pure,intercalate]
  | cons v rest =>
    have read := parseItems_render (v :: rest) (by simp) each [] depth (nodes + 1) fuel tail inside
      (by omega) (by simp only [length_append,length_cons,length_nil] at enough ⊢; omega)
    obtain ⟨u,after,code,solid,bracket,_,_⟩ := render_head _ v _ inside.1
    obtain ⟨spelled,eq⟩ : ∃ spelled, intercalate [0x2C] ((v :: rest).map render) ++ 0x5D :: tail =
        u :: spelled := by
      cases rest <;> simp [code]
    rw [eq] at read
    simp only [cons_append,append_assoc,nil_append,eq]
    simp [entered,attempt,Except.mapError,bind,Except.bind,whitespace_head solid,bracket,
      whitespace_head (show isWhitespace 0x5B = false by decide),read,normalize,normalizeItems_eq]
    omega

theorem reads_object (strictOnly : ctx.options = ⟨none⟩) (distinct : (entries.map Prod.fst).Nodup)
    (each : ∀ e ∈ entries, Reads ctx e.2) : Reads ctx (.object entries) := by
  intro depth nodes fuel tail accepted bound ends enough
  obtain ⟨fuel,rfl⟩ : ∃ f, fuel = f + 1 := ⟨fuel - 1,by omega⟩
  obtain ⟨shallow,inside⟩ := accepted
  have perm := sortEntries_perm entries
  have total : sizeEntries (sortEntries entries) = sizeEntries entries := by
    rw [sizeEntries_eq,sizeEntries_eq,(perm.map _).sum_nat]
  rw [size] at bound ⊢
  rw [render_object] at enough ⊢
  rw [normalize,normalizeEntries_eq,sortEntries_map,← total]
  rw [← total] at bound
  -- from here on only the sorted entries matter
  rw [acceptedEntries_iff] at inside
  replace inside : AcceptedEntries ctx.limits.maxDepth (sortEntries entries) (depth + 1) :=
    (acceptedEntries_iff ..).mpr fun e member => inside e (perm.mem_iff.mp member)
  replace each : ∀ e ∈ sortEntries entries, Reads ctx e.2 :=
    fun e member => each e (perm.mem_iff.mp member)
  replace distinct : ((sortEntries entries).map Prod.fst).Nodup :=
    (perm.map Prod.fst).nodup_iff.mpr distinct
  generalize sortEntries entries = sorted at inside each distinct bound enough ⊢
  have entered : enter ctx.limits depth nodes = .ok (nodes + 1) :=
    enter_ok.mpr ⟨shallow,by omega,rfl⟩
  rw [parseValue]
  cases sorted with
  | nil =>
    simp [entered,attempt,Except.mapError,bind,Except.bind,whitespace,isWhitespace,sizeEntries,
      pure,Except.pure,intercalate]
  | cons e rest =>
    have read := parseMembers_render strictOnly (e :: rest) (by simp) each [] depth (nodes + 1) fuel
      tail inside distinct (by omega)
      (by simp only [length_append,length_cons,length_nil] at enough ⊢; omega)
    obtain ⟨spelled,eq⟩ : ∃ spelled, intercalate [0x2C]
        ((e :: rest).map fun e => stringifyText e.1 ++ 0x3A :: render e.2) ++ 0x7D :: tail =
          0x22 :: spelled := by
      cases rest <;> simp [stringifyText]
    rw [eq] at read
    simp only [cons_append,append_assoc,nil_append,eq]
    simp [entered,attempt,Except.mapError,bind,Except.bind,
      whitespace_head (show isWhitespace 0x22 = false by decide),
      whitespace_head (show isWhitespace 0x7B = false by decide),read]
    omega

theorem reads (strictOnly : ctx.options = ⟨none⟩) (value : Value) (distinct : DistinctKeys value) :
    Reads ctx value := by
  induction value using Value.induct with
  | null =>
    exact reads_scalar rfl (by decide) (by decide) rfl (fun _ accepted => accepted)
      fun _ nodes tail _ _ => (parseScalar_literals ctx nodes tail).2.2
  | bool b =>
    cases b with
    | true =>
      exact reads_scalar rfl (by decide) (by decide) rfl (fun _ accepted => accepted)
        fun _ nodes tail _ _ => (parseScalar_literals ctx nodes tail).1
    | false =>
      exact reads_scalar rfl (by decide) (by decide) rfl (fun _ accepted => accepted)
        fun _ nodes tail _ _ => (parseScalar_literals ctx nodes tail).2.1
  | number n => exact reads_number ctx n
  | string text =>
    intro depth nodes fuel tail accepted bound ends enough
    obtain ⟨fuel,rfl⟩ : ∃ f, fuel = f + 1 := ⟨fuel - 1,by omega⟩
    have entered : enter ctx.limits depth nodes = .ok (nodes + 1) :=
      enter_ok.mpr ⟨accepted.1,bound,rfl⟩
    have read := parseString_stringifyText strictOnly false accepted.2 tail
    rw [stringifyText,cons_append,append_assoc] at read
    rw [parseValue,render,stringifyText,cons_append,whitespace_head (show isWhitespace 0x22 = false by decide)]
    simp only [append_assoc,entered,attempt,Except.mapError,bind,Except.bind,read]
    rfl
  | array items ih =>
    rw [DistinctKeys,distinctItems_iff] at distinct
    exact reads_array fun v member => ih v member (distinct v member)
  | object entries ih =>
    rw [DistinctKeys,distinctEntries_iff] at distinct
    exact reads_object strictOnly distinct.1 fun e member => ih e member (distinct.2 e member)
  | other tag =>
    intro depth nodes fuel tail accepted
    simp [Accepted] at accepted

end GjcRemote.StrictJson
