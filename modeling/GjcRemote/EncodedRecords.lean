import GjcRemote.PlainRecords
import GjcRemote.ServiceEnvelope

/-! Values that a canonical encoder takes, put together from values that it takes. -/
namespace GjcRemote.Envelope

open Utf16 StrictJson Record
open ServiceEnvelope (record text)
open List hiding get

theorem hex_printable (hex : isHex64 units = true) : isPrintable units = true := by
  rw [isHex64,Bool.and_eq_true,all_eq_true] at hex
  refine all_eq_true.mpr fun u inside => ?_
  have digit := hex.2 u inside
  simp only [Bool.or_eq_true,Bool.and_eq_true,decide_eq_true_eq,UInt16.le_iff_toNat_le] at digit ⊢
  simp at digit
  omega

/-- A value that a canonical encoder takes. -/
structure Encodes (depth nodes : Nat) (value : Value) : Prop where
  accepted : ∀ start, start + depth ≤ STRICT_JSON_LIMITS.maxDepth → Accepted STRICT_JSON_LIMITS.maxDepth value start
  distinct : DistinctKeys value
  size_le : size value ≤ nodes

theorem encodes_string (strict : StrictUnits units) : Encodes 0 1 (.string units) := by
  refine ⟨fun start deep => ?_,trivial,?_⟩
  · rw [Accepted]
    exact ⟨deep,strict⟩
  · simp [size]

theorem encodes_text (printable : isPrintable (ofString name) = true) : Encodes 0 1 (text name) :=
  encodes_string (printable_strict printable)

theorem encodes_int (safe : isSafeInteger (.int n) = true) : Encodes 0 1 (.number (.int n)) := by
  refine ⟨fun start deep => ?_,trivial,?_⟩
  · rw [Accepted]
    exact ⟨deep,safe⟩
  · simp [size]

theorem encodes_null : Encodes 0 1 .null := by
  refine ⟨fun start deep => ?_,trivial,?_⟩
  · rw [Accepted]
    exact deep
  · simp [size]

theorem Encodes.weaken (encodes : Encodes depth nodes value) (deeper : depth ≤ depth') (more : nodes ≤ nodes') :
    Encodes depth' nodes' value :=
  ⟨fun start deep => encodes.accepted start (by omega),encodes.distinct,encodes.size_le.trans more⟩

theorem encodes_array (each : ∀ item ∈ items, Encodes depth nodes item) :
    Encodes (depth + 1) (items.length * nodes + 1) (.array items) := by
  have sizes : sizeItems items ≤ items.length * nodes := by
    induction items with
    | nil => simp [sizeItems]
    | cons item rest ih =>
      obtain ⟨first,later⟩ := forall_mem_cons.mp each
      have size_le := first.size_le
      have sizes := ih later
      rw [sizeItems,length_cons,Nat.succ_mul]
      omega
  refine ⟨fun start deep => ?_,?_,?_⟩
  · rw [Accepted,acceptedItems_iff]
    exact ⟨by omega,fun item listed => (each item listed).accepted _ (by omega)⟩
  · rw [DistinctKeys,distinctItems_iff]
    exact fun item listed => (each item listed).distinct
  · rw [size]
    omega

theorem encodes_record {members : List (String × Value)} (apart : (members.map Prod.fst).Nodup)
    (printable : ∀ m ∈ members, isPrintable (ofString m.1) = true) (each : ∀ m ∈ members, Encodes depth nodes m.2) :
    Encodes (depth + 1) (members.length * nodes + 1) (record members) := by
  have sizes : sizeEntries (members.map fun m => (ofString m.1,m.2)) ≤ members.length * nodes := by
    clear apart printable
    induction members with
    | nil => simp [sizeEntries]
    | cons m rest ih =>
      obtain ⟨first,later⟩ := forall_mem_cons.mp each
      have size_le := first.size_le
      have sizes := ih later
      rw [map_cons,sizeEntries,length_cons,Nat.succ_mul]
      omega
  refine ⟨fun start deep => ?_,?_,?_⟩
  · rw [record,Accepted,acceptedEntries_iff,forall_mem_map]
    exact ⟨by omega,fun m listed => ⟨printable_strict (printable m listed),(each m listed).accepted _ (by omega)⟩⟩
  · rw [record,DistinctKeys,distinctEntries_iff,forall_mem_map,map_map]
    refine ⟨?_,fun m listed => (each m listed).distinct⟩
    have named : (Prod.fst ∘ fun m : String × Value => (ofString m.1,m.2)) = ofString ∘ Prod.fst := rfl
    rw [named,← map_map]
    exact apart.map fun _ _ => ofString_inj
  · rw [record,size]
    omega

theorem Encodes.bytes (encodes : Encodes depth nodes value) (deep : depth ≤ 64) (few : nodes ≤ 10000) :
    canonicalJsonBytes value STRICT_JSON_LIMITS = .ok (utf8 (render value)) :=
  (canonicalJsonBytes_iff ..).mpr ⟨encodes.accepted 0 (by rw [Nat.zero_add]; exact deep),
    encodes.size_le.trans few,rfl⟩

/-- Values with the same bytes are the same. -/
theorem Encodes.same (left : Encodes depth nodes v) (right : Encodes depth nodes w) (deep : depth ≤ 64)
    (few : nodes ≤ 10000) (equal : utf8 (render v) = utf8 (render w)) : Same v w := by
  have bytes := left.bytes deep few
  rw [equal] at bytes
  exact same_of_same_bytes ⟨v,left.distinct⟩ ⟨w,right.distinct⟩ bytes (right.bytes deep few)

end GjcRemote.Envelope
