import GjcRemote.TrialBoundaryLaw

/-! The transactions of an accepted journal: their generations rise, so that one identity
never comes back after another. -/
namespace GjcRemote.TrialBoundary

open Utf16 StrictJson Record Envelope
open ServiceEnvelope ServiceJournal

def Alike (v w : Value) : Prop := ∀ key ∈ ServiceJournal.identityKeys, Same (get v key) (get w key)

def generationOf (value : Value) : Int := numberOf (get value "serviceGeneration")

variable {v w : Value}

theorem Alike.symm (alike : Alike v w) : Alike w v :=
  fun key listed => (alike key listed).symm

theorem Alike.trans (left : Alike u v) (right : Alike v w) : Alike u w :=
  fun key listed => (left key listed).trans (right key listed)

theorem Alike.generation (alike : Alike v w) : generationOf v = generationOf w :=
  numberOf_same (alike _ (by decide))

/-- A later entry is of the same transaction, or of a later generation. -/
def Rises (earlier later : Value) : Prop :=
  Alike earlier later ∨ generationOf earlier < generationOf later

theorem Rises.trans (left : Rises u v) (right : Rises v w) : Rises u w := by
  rcases left with same | less
  · rcases right with same' | less'
    · exact .inl (same.trans same')
    · exact .inr (same.generation ▸ less')
  · rcases right with same' | less'
    · exact .inr (same'.generation ▸ less)
    · exact .inr (less.trans less')

/-- What lies between two entries of one transaction is of that transaction. -/
theorem Rises.between (left : Rises u v) (right : Rises v w) (ends : Alike u w) :
    Alike u v := by
  have equal := ends.generation
  rcases left with same | less
  · exact same
  · rcases right with same' | less'
    · have := same'.generation
      omega
    · omega

section Store

variable {sha256 : List UInt8 → Units} {cfg : Config} {entries : List Value}

theorem rises_of_follows (follows : Follows previous value) :
    Rises previous value := by
  cases same : sameTransaction previous value with
  | true =>
    refine .inl fun key listed => follows.same same key ?_ ?_
    · revert key
      decide
    · revert key
      decide
  | false =>
    have succeeds := follows.other same
    simp only [ServiceJournal.succeeds,Bool.and_eq_true] at succeeds
    have next := isNext_number succeeds.1.2
    refine .inr ?_
    rw [generationOf,generationOf]
    omega

theorem pairwise_of_adjacent {α : Type} {R : α → α → Prop}
    (transitive : ∀ a b c, R a b → R b c → R a c) {items : List α}
    (adjacent : ∀ before a b after, items = before ++ a :: b :: after → R a b) :
    items.Pairwise R := by
  induction items with
  | nil => exact .nil
  | cons first rest ih =>
    have later := ih fun before a b after whole => adjacent (first :: before) a b after (by rw [whole]; rfl)
    refine List.pairwise_cons.mpr ⟨?_,later⟩
    cases rest with
    | nil => simp
    | cons second rest =>
      have head := adjacent [] first second rest rfl
      intro other member
      rcases List.mem_cons.mp member with rfl | member
      · exact head
      · exact transitive _ _ _ head (List.rel_of_pairwise_cons later member)

theorem accepted_rises (accepted : Accepted sha256 cfg entries) (injective : InjectiveOnCanonical sha256) :
    entries.Pairwise Rises :=
  pairwise_of_adjacent (R := Rises) (fun _ _ _ => Rises.trans) fun _ _ _ _ whole => rises_of_follows (accepted.follows injective whole)

theorem identityOf_ok (identity : identityOf sha256 value = .ok digest) :
    canonicalJsonHash sha256 (pick value ServiceJournal.identityKeys) = .ok digest :=
  mapError_ok.mp identity

/-- Entries with one identity are of one transaction. -/
theorem alike_of_identity (injective : InjectiveOnCanonical sha256)
    (distinctV : DistinctKeys v) (distinctW : DistinctKeys w) (left : identityOf sha256 v = .ok digest)
    (right : identityOf sha256 w = .ok digest) : Alike v w :=
  fun _ listed => pick_same injective distinctV distinctW (names_nodup (by decide)) (identityOf_ok left)
    (identityOf_ok right) listed

end Store

end GjcRemote.TrialBoundary
