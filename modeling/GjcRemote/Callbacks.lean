import Mathlib.Data.List.Nodup

/-! Callbacks that wait at places until they are due. A place remembers what it has run,
so that it runs nothing twice, and can hand all that waits there to another place. -/
namespace GjcRemote.Callbacks

open List
structure Place (H : Type) where
  waiting : List H
  released : List H

structure Ledger (K H : Type) where
  places : K → Place H
  calls : List H

variable {K H : Type}

namespace Ledger

def new : Ledger K H := ⟨fun _ => ⟨[],[]⟩,[]⟩

def Waits (l : Ledger K H) (k : K) (h : H) : Prop := h ∈ (l.places k).waiting

/-- The callback has been run or still waits somewhere. -/
def Seen (l : Ledger K H) (h : H) : Prop := h ∈ l.calls ∨ ∃ k, l.Waits k h

variable [DecidableEq K]

section

variable (l : Ledger K H)
include l

def setPlace (k : K) (place : Place H) : Ledger K H :=
  {l with places := fun other => if other = k then place else l.places other}

def clear (k : K) : Ledger K H :=
  l.setPlace k {l.places k with waiting := []}

def renew (k : K) : Ledger K H := l.setPlace k ⟨[],[]⟩

theorem places_setPlace (k other : K) (place : Place H) :
    (l.setPlace k place).places other = if other = k then place else l.places other := rfl

@[simp] theorem calls_clear (k : K) : (l.clear k).calls = l.calls := rfl

@[simp] theorem released_clear (k other : K) :
    ((l.clear k).places other).released = (l.places other).released := by
  unfold clear
  rw [places_setPlace]
  split
  · rename_i here
    rw [here]
  · rfl

end

variable {l : Ledger K H} {h : H}

theorem waits_clear :
    (l.clear k).Waits other h ↔ other ≠ k ∧ l.Waits other h := by
  unfold Waits clear
  rw [places_setPlace]
  by_cases same : other = k <;> simp [same]

theorem waits_renew :
    (l.renew k).Waits other h ↔ other ≠ k ∧ l.Waits other h := by
  unfold Waits renew
  rw [places_setPlace]
  by_cases same : other = k <;> simp [same]

variable [DecidableEq H]

/-- The callback has been run at most once, and not while it waits; it waits at one place. -/
structure Once (l : Ledger K H) (h : H) : Prop where
  calls : l.calls.count h ≤ 1
  apart : h ∈ l.calls → ∀ k, ¬l.Waits k h
  alone : ∀ a b, l.Waits a h → l.Waits b h → a = b
  released : ∀ k, h ∈ (l.places k).released → h ∈ l.calls

omit [DecidableEq K] in
theorem once_new (h : H) : (new : Ledger K H).Once h where
  calls := Nat.zero_le 1
  apart := by rintro ⟨⟩
  alone := by rintro a b ⟨⟩
  released := by rintro k ⟨⟩

/-- Runs the callback where it is due, else lets it wait. -/
def deposit (k : K) (due : Bool) (l : Ledger K H) (h : H) : Ledger K H :=
  let place := l.places k
  if h ∈ place.released then l
  else if due then
    {l.setPlace k {place with released := place.released ++ [h]} with calls := l.calls ++ [h]}
  else if h ∈ place.waiting then l
  else l.setPlace k {place with waiting := place.waiting ++ [h]}

def depositAll (l : Ledger K H) (k : K) (due : Bool) (hs : List H) : Ledger K H :=
  hs.foldl (deposit k due) l

def release (l : Ledger K H) (k : K) : Ledger K H :=
  (l.depositAll k true (l.places k).waiting).clear k

def transfer (l : Ledger K H) (a b : K) (due : Bool) : Ledger K H :=
  (l.depositAll b due (l.places a).waiting).clear a

/-- What a due deposit does. -/
theorem depositAll_due (l : Ledger K H) (k : K) (hs : List H) :
    ∃ fresh, (l.depositAll k true hs).calls = l.calls ++ fresh ∧ fresh.Nodup ∧
      (∀ h, h ∈ fresh ↔ h ∈ hs ∧ h ∉ (l.places k).released) ∧
      (∀ other, ((l.depositAll k true hs).places other).waiting = (l.places other).waiting) ∧
      ∀ other h, h ∈ ((l.depositAll k true hs).places other).released ↔
        h ∈ (l.places other).released ∨ other = k ∧ h ∈ fresh := by
  induction hs generalizing l with
  | nil => exact ⟨[],by simp [depositAll]⟩
  | cons x hs ih =>
    obtain ⟨fresh,calls,distinct,made,waiting,released⟩ := ih (l.deposit k true x)
    change (l.depositAll k true (x :: hs)).calls = _ at calls
    change ∀ other, ((l.depositAll k true (x :: hs)).places other).waiting = _ at waiting
    change ∀ other h, h ∈ ((l.depositAll k true (x :: hs)).places other).released ↔ _ at released
    by_cases old : x ∈ (l.places k).released
    · have same : l.deposit k true x = l := by simp [deposit,old]
      rw [same] at calls made waiting released
      refine ⟨fresh,calls,distinct,fun h => ?_,waiting,released⟩
      rw [made,mem_cons]
      constructor
      · exact fun ⟨inside,new⟩ => ⟨.inr inside,new⟩
      · rintro ⟨rfl | inside,new⟩
        · exact absurd old new
        · exact ⟨inside,new⟩
    · have ran : l.deposit k true x = {l.setPlace k {l.places k with
          released := (l.places k).released ++ [x]} with calls := l.calls ++ [x]} := by
        simp [deposit,old]
      rw [ran] at calls made waiting released
      simp only [places_setPlace,if_pos,mem_append,mem_singleton,not_or] at made
      refine ⟨x :: fresh,?_,?_,fun h => ?_,fun other => ?_,fun other h => ?_⟩
      · rw [calls,append_assoc]
        rfl
      · exact nodup_cons.mpr ⟨fun again => ((made x).mp again).2.2 rfl,distinct⟩
      · rw [mem_cons,mem_cons,made]
        by_cases same : h = x <;> simp [same,old]
      · rw [waiting]
        simp only [places_setPlace]
        split
        · rename_i here
          rw [here]
        · rfl
      · rw [released]
        simp only [places_setPlace]
        by_cases here : other = k <;> simp [here,or_assoc]

/-- What a deposit that is not yet due does. -/
theorem depositAll_early (l : Ledger K H) (k : K) (hs : List H) :
    (l.depositAll k false hs).calls = l.calls ∧ (∀ other h, (l.depositAll k false hs).Waits other h ↔
        l.Waits other h ∨ other = k ∧ h ∈ hs ∧ h ∉ (l.places k).released) ∧
      ∀ other, ((l.depositAll k false hs).places other).released = (l.places other).released := by
  induction hs generalizing l with
  | nil => exact ⟨rfl,by simp [depositAll],fun _ => rfl⟩
  | cons x hs ih =>
    obtain ⟨calls,waits,released⟩ := ih (l.deposit k false x)
    change ∀ other h, (l.depositAll k false (x :: hs)).Waits other h ↔ _ at waits
    have quiet : (l.deposit k false x).calls = l.calls := by
      unfold deposit
      dsimp only
      split
      · rfl
      · rw [if_neg (by decide)]
        split <;> rfl
    have kept : ∀ other, ((l.deposit k false x).places other).released =
        (l.places other).released := by
      intro other
      unfold deposit
      dsimp only
      split
      · rfl
      · rw [if_neg (by decide)]
        split
        · rfl
        · rw [places_setPlace]
          split
          · rename_i here
            rw [here]
          · rfl
    have one : ∀ other h, (l.deposit k false x).Waits other h ↔
        l.Waits other h ∨ other = k ∧ h = x ∧ h ∉ (l.places k).released := by
      intro other h
      unfold deposit Waits
      dsimp only
      split
      · rename_i old
        constructor
        · exact .inl
        · rintro (waits | ⟨_,rfl,new⟩)
          · exact waits
          · exact absurd old new
      · rename_i new
        rw [if_neg (by decide)]
        split
        · rename_i there
          constructor
          · exact .inl
          · rintro (waits | ⟨rfl,rfl,_⟩)
            · exact waits
            · exact there
        · rw [places_setPlace]
          by_cases here : other = k
          · rw [if_pos here,here]
            simp only [mem_append,mem_singleton]
            constructor
            · rintro (waits | rfl)
              · exact .inl waits
              · exact .inr ⟨trivial,rfl,new⟩
            · rintro (waits | ⟨_,rfl,_⟩)
              · exact .inl waits
              · exact .inr rfl
          · simp [here]
    refine ⟨calls.trans quiet,fun other h => ?_,fun other => (released other).trans (kept other)⟩
    rw [waits,one,kept,mem_cons,or_assoc,← and_or_left,← or_and_right]

/-- Only due deposits call, and they call only what is deposited. -/
theorem calls_depositAll (l : Ledger K H) (k : K) (due : Bool) (hs : List H) :
    ∃ fresh, (l.depositAll k due hs).calls = l.calls ++ fresh ∧ ∀ h ∈ fresh, due ∧ h ∈ hs := by
  cases due with
  | true =>
    obtain ⟨fresh,calls,_,made,_⟩ := l.depositAll_due k hs
    exact ⟨fresh,calls,fun h inside => ⟨rfl,((made h).mp inside).1⟩⟩
  | false => exact ⟨[],by rw [(l.depositAll_early k hs).1,append_nil],by simp⟩

variable {hs : List H}

/-- What waits after a deposit waited before or was deposited early. -/
theorem waits_depositAll (waits : (l.depositAll k due hs).Waits other h) :
    l.Waits other h ∨ other = k ∧ due = false ∧ h ∈ hs := by
  cases due with
  | true =>
    obtain ⟨_,_,_,_,waiting,_⟩ := l.depositAll_due k hs
    exact .inl (by unfold Waits at waits ⊢; rwa [waiting] at waits)
  | false =>
    rcases ((l.depositAll_early k hs).2.1 other h).mp waits with before | ⟨here,inside,_⟩
    · exact .inl before
    · exact .inr ⟨here,rfl,inside⟩

theorem Waits.depositAll (waits : l.Waits other h) (k : K) (due : Bool) (hs : List H) :
    (l.depositAll k due hs).Waits other h := by
  cases due with
  | true =>
    obtain ⟨_,_,_,_,waiting,_⟩ := l.depositAll_due k hs
    unfold Waits
    rwa [waiting]
  | false => exact ((l.depositAll_early k hs).2.1 other h).mpr (.inl waits)

theorem Seen.depositAll (seen : l.Seen h) (k : K) (due : Bool) (hs : List H) :
    (l.depositAll k due hs).Seen h := by
  rcases seen with called | ⟨other,waits⟩
  · obtain ⟨fresh,calls,_⟩ := l.calls_depositAll k due hs
    exact .inl (by rw [calls]; exact mem_append_left _ called)
  · exact .inr ⟨other,waits.depositAll k due hs⟩

/-- What is deposited is run or waits. -/
theorem Once.deposited (once : l.Once h) (k : K) (due : Bool) (inside : h ∈ hs) :
    (l.depositAll k due hs).Seen h := by
  by_cases old : h ∈ (l.places k).released
  · exact Seen.depositAll (.inl (once.released k old)) k due hs
  cases due with
  | true =>
    obtain ⟨fresh,calls,_,made,_⟩ := l.depositAll_due k hs
    exact .inl (by rw [calls]; exact mem_append_right _ ((made h).mpr ⟨inside,old⟩))
  | false => exact .inr ⟨k,((l.depositAll_early k hs).2.1 k h).mpr (.inr ⟨rfl,inside,old⟩)⟩

/-- A deposit of other callbacks does not matter. -/
theorem Once.others (once : l.Once h) (k : K) (due : Bool) (outside : h ∉ hs) :
    (l.depositAll k due hs).Once h := by
  cases due with
  | true =>
    obtain ⟨fresh,calls,_,made,waiting,released⟩ := l.depositAll_due k hs
    have absent : h ∉ fresh := fun again => outside ((made h).mp again).1
    refine ⟨?_,?_,?_,?_⟩
    · rw [calls,count_append,count_eq_zero_of_not_mem absent]
      exact once.calls
    · intro called other
      unfold Waits
      rw [waiting]
      rw [calls] at called
      exact once.apart ((mem_append.mp called).resolve_right absent) other
    · unfold Waits
      simp only [waiting]
      exact once.alone
    · intro other member
      rw [calls]
      rcases (released other h).mp member with old | ⟨_,again⟩
      · exact mem_append_left _ (once.released other old)
      · exact absurd again absent
  | false =>
    obtain ⟨calls,waits,released⟩ := l.depositAll_early k hs
    have same : ∀ other, (l.depositAll k false hs).Waits other h ↔ l.Waits other h := by
      intro other
      rw [waits]
      simp [outside]
    refine ⟨by rw [calls]; exact once.calls,?_,?_,?_⟩
    · intro called other
      rw [same]
      rw [calls] at called
      exact once.apart called other
    · intro a b
      rw [same,same]
      exact once.alone a b
    · intro other member
      rw [released] at member
      rw [calls]
      exact once.released other member

/-- The first deposit of a callback. -/
theorem Once.depositAll (once : l.Once h) (fresh : ¬l.Seen h) (k : K) (due : Bool) (hs : List H) :
    (l.depositAll k due hs).Once h := by
  obtain ⟨uncalled,nowhere⟩ := not_or.mp fresh
  have idle : ∀ other, ¬l.Waits other h := fun other waits => nowhere ⟨other,waits⟩
  have new : ∀ other, h ∉ (l.places other).released :=
    fun other member => uncalled (once.released other member)
  cases due with
  | true =>
    obtain ⟨run,calls,distinct,_,waiting,released⟩ := l.depositAll_due k hs
    refine ⟨?_,?_,?_,?_⟩
    · rw [calls,count_append,count_eq_zero_of_not_mem uncalled,Nat.zero_add]
      exact nodup_iff_count_le_one.mp distinct h
    · intro _ other
      unfold Waits
      rw [waiting]
      exact idle other
    · intro a b
      unfold Waits
      rw [waiting]
      exact fun waits => absurd waits (idle a)
    · intro other member
      rw [calls]
      rcases (released other h).mp member with old | ⟨_,ran⟩
      · exact absurd old (new other)
      · exact mem_append_right _ ran
  | false =>
    obtain ⟨calls,waits,released⟩ := l.depositAll_early k hs
    have here : ∀ other, (l.depositAll k false hs).Waits other h → other = k := by
      intro other inside
      rcases (waits other h).mp inside with before | ⟨here,_⟩
      · exact absurd before (idle other)
      · exact here
    refine ⟨by rw [calls]; exact once.calls,?_,?_,?_⟩
    · intro called
      rw [calls] at called
      exact absurd called uncalled
    · exact fun a b first second => (here a first).trans (here b second).symm
    · intro other member
      rw [released] at member
      exact absurd member (new other)

/-- A callback is deposited for the first time, or not at all. -/
theorem Once.given (once : l.Once h) (fresh : h ∈ hs → ¬l.Seen h) (k : K) (due : Bool) :
    (l.depositAll k due hs).Once h := by
  by_cases inside : h ∈ hs
  · exact once.depositAll (fresh inside) k due hs
  · exact once.others k due inside

omit [DecidableEq H] in
theorem Seen.renew (seen : l.Seen h) {k : K} (empty : ¬l.Waits k h) :
    (l.renew k).Seen h := by
  rcases seen with called | ⟨other,waits⟩
  · exact .inl called
  · refine .inr ⟨other,waits_renew.mpr ⟨?_,waits⟩⟩
    rintro rfl
    exact empty waits

theorem Once.clear (once : l.Once h) (k : K) : (l.clear k).Once h where
  calls := once.calls
  apart called other waits := once.apart called other (waits_clear.mp waits).2
  alone a b first second := once.alone a b (waits_clear.mp first).2 (waits_clear.mp second).2
  released other member := once.released other (by rwa [released_clear] at member)

theorem Once.renew (once : l.Once h) (k : K) : (l.renew k).Once h where
  calls := once.calls
  apart called other waits := once.apart called other (waits_renew.mp waits).2
  alone a b first second := once.alone a b (waits_renew.mp first).2 (waits_renew.mp second).2
  released other member := by
    unfold Ledger.renew at member
    rw [places_setPlace] at member
    split at member
    · cases member
    · exact once.released other member

/-- What a place holds is run there, or handed to another place, without being doubled. -/
theorem Once.move (once : l.Once h) (a b : K) (due : Bool) (apart : due ∨ a ≠ b) :
    ((l.depositAll b due (l.places a).waiting).clear a).Once h := by
  by_cases waits : l.Waits a h
  · have uncalled : h ∉ l.calls := fun called => once.apart called a waits
    have new : ∀ other, h ∉ (l.places other).released :=
      fun other member => uncalled (once.released other member)
    cases due with
    | true =>
      obtain ⟨run,calls,distinct,_,waiting,released⟩ := l.depositAll_due b (l.places a).waiting
      have gone : ∀ other, ¬((l.depositAll b true (l.places a).waiting).clear a).Waits other h := by
        intro other again
        obtain ⟨ne,still⟩ := waits_clear.mp again
        unfold Waits at still
        rw [waiting] at still
        exact ne (once.alone other a still waits)
      refine ⟨?_,fun _ => gone,fun c _ first => absurd first (gone c),fun other member => ?_⟩
      · rw [calls_clear,calls,count_append,count_eq_zero_of_not_mem uncalled,Nat.zero_add]
        exact nodup_iff_count_le_one.mp distinct h
      · rw [released_clear] at member
        rw [calls_clear,calls]
        rcases (released other h).mp member with old | ⟨_,ran⟩
        · exact absurd old (new other)
        · exact mem_append_right _ ran
    | false =>
      obtain ⟨calls,waiting,released⟩ := l.depositAll_early b (l.places a).waiting
      have here : ∀ other, ((l.depositAll b false (l.places a).waiting).clear a).Waits other h →
          other = b := by
        intro other again
        obtain ⟨left,still⟩ := waits_clear.mp again
        rcases (waiting other h).mp still with before | ⟨here,_⟩
        · exact absurd (once.alone other a before waits) left
        · exact here
      refine ⟨by rw [calls_clear,calls]; exact once.calls,fun called => ?_,
        fun c d first second => (here c first).trans (here d second).symm,fun other member => ?_⟩
      · rw [calls_clear,calls] at called
        exact absurd called uncalled
      · rw [released_clear,released] at member
        exact absurd member (new other)
  · exact (once.others b due waits).clear a

theorem Once.release (once : l.Once h) (k : K) : (l.release k).Once h :=
  once.move k k true (.inl rfl)

theorem Once.transfer (once : l.Once h) (apart : a ≠ b) (due : Bool) :
    (l.transfer a b due).Once h :=
  once.move a b due (.inr apart)

/-- Nothing is lost when a place runs or hands on what it holds. -/
theorem Seen.move (seen : l.Seen h) (once : l.Once h) (a b : K) (due : Bool) (apart : due ∨ a ≠ b) :
    ((l.depositAll b due (l.places a).waiting).clear a).Seen h := by
  by_cases waits : l.Waits a h
  · have uncalled : h ∉ l.calls := fun called => once.apart called a waits
    have new : h ∉ (l.places b).released := fun member => uncalled (once.released b member)
    cases due with
    | true =>
      obtain ⟨run,calls,_,made,_⟩ := l.depositAll_due b (l.places a).waiting
      refine .inl ?_
      rw [calls_clear,calls]
      exact mem_append_right _ ((made h).mpr ⟨waits,new⟩)
    | false =>
      have ne : a ≠ b := apart.resolve_left (by decide)
      refine .inr ⟨b,waits_clear.mpr ⟨ne.symm,?_⟩⟩
      exact ((l.depositAll_early b (l.places a).waiting).2.1 b h).mpr (.inr ⟨rfl,waits,new⟩)
  · rcases seen with called | ⟨other,there⟩
    · obtain ⟨fresh,calls,_⟩ := l.calls_depositAll b due (l.places a).waiting
      refine .inl ?_
      rw [calls_clear,calls]
      exact mem_append_left _ called
    · have ne : other ≠ a := by
        rintro rfl
        exact waits there
      exact .inr ⟨other,waits_clear.mpr ⟨ne,there.depositAll b due _⟩⟩

theorem Seen.release (seen : l.Seen h) (once : l.Once h) (k : K) :
    (l.release k).Seen h :=
  seen.move once k k true (.inl rfl)

theorem Seen.transfer (seen : l.Seen h) (once : l.Once h) (apart : a ≠ b) (due : Bool) :
    (l.transfer a b due).Seen h :=
  seen.move once a b due (.inr apart)

/-- A place that does not hold the callback hands on and runs others only. -/
theorem move_others (free : ¬l.Waits a h) (b : K) (due : Bool) :
    (h ∈ ((l.depositAll b due (l.places a).waiting).clear a).calls → h ∈ l.calls) ∧
      ∀ k, ((l.depositAll b due (l.places a).waiting).clear a).Waits k h → l.Waits k h := by
  constructor
  · intro called
    obtain ⟨fresh,calls,made⟩ := l.calls_depositAll b due (l.places a).waiting
    rw [calls_clear,calls] at called
    rcases mem_append.mp called with old | new
    · exact old
    · exact absurd (made h new).2 free
  · intro k waits
    rcases waits_depositAll (waits_clear.mp waits).2 with old | ⟨_,_,inside⟩
    · exact old
    · exact absurd inside free

theorem deposit_others (l : Ledger K H) (k : K) (due : Bool) (outside : h ∉ hs) :
    (h ∈ (l.depositAll k due hs).calls → h ∈ l.calls) ∧
      ∀ other, (l.depositAll k due hs).Waits other h → l.Waits other h := by
  constructor
  · intro called
    obtain ⟨fresh,calls,made⟩ := l.calls_depositAll k due hs
    rw [calls] at called
    rcases mem_append.mp called with old | new
    · exact old
    · exact absurd (made h new).2 outside
  · intro other waits
    rcases waits_depositAll waits with old | ⟨_,_,inside⟩
    · exact old
    · exact absurd inside outside

end Ledger

end GjcRemote.Callbacks
