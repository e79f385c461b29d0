import Stencil.Json.Reader
import Stencil.Proofs.Mapping
import Stencil.Value.Graph

/-! What is read as JSON is a tree: no value is a part of itself. -/
namespace Stencil

open Value (hasKnotItems hasKnotPairs)

/-- Two steps succeed one after the other if both do. -/
theorem bind_eq_ok_iff {ε α β : Type} {x : Except ε α} {f : α → Except ε β} {b : β} :
    x >>= f = .ok b ↔ ∃ a, x = .ok a ∧ f a = .ok b := by
  cases x with
  | error e =>
    constructor
    · intro h
      cases h
    · rintro ⟨_, h, _⟩
      cases h
  | ok a => exact ⟨fun h => ⟨a, rfl, h⟩, fun ⟨_, ha, h⟩ => Except.ok.inj ha ▸ h⟩

theorem Mapping.hasKnotPairs_insert {m : Mapping} {v : Value} (hm : hasKnotPairs m = false)
    (hv : v.hasKnot = false) (key : Scalar) : hasKnotPairs (insert m key v) = false := by
  induction m with
  | nil => simp [insert, hasKnotPairs, hv]
  | cons p m ih =>
    obtain ⟨k, old⟩ := p
    rw [hasKnotPairs, Bool.or_eq_false_iff] at hm
    rw [insert]
    split
    · rw [hasKnotPairs, hv, hm.2, Bool.or_false]
    · rw [hasKnotPairs, hm.1, ih hm.2, Bool.or_false]

theorem Mapping.hasKnotPairs_ofPairs {pairs : List (Scalar × Value)} (h : hasKnotPairs pairs = false) :
    hasKnotPairs (ofPairs pairs) = false := by
  suffices ∀ m : Mapping, hasKnotPairs m = false → hasKnotPairs (overlay m pairs) = false from this [] rfl
  intro m hm
  induction pairs generalizing m with
  | nil => exact hm
  | cons p pairs ih =>
    obtain ⟨k, v⟩ := p
    rw [hasKnotPairs, Bool.or_eq_false_iff] at h
    exact ih h.2 _ (hasKnotPairs_insert hm h.1 k)

namespace Json

variable {s r : List Char} {v : Value}

theorem hasKnot_readNumber {negative : Bool} (h : readNumber negative s = .ok (v, r)) : v.hasKnot = false := by
  unfold readNumber at h
  dsimp only at h
  split at h
  · cases h
  · split at h
    · split at h
      · cases h
      · cases h
        rfl
    · cases h
      rfl

theorem hasKnot_readScalar (h : readScalar s = .ok (v, r)) : v.hasKnot = false := by
  have hwords : ∀ w ∈ words, w.2.hasKnot = false := by
    intro w hw
    simp only [words, List.mem_cons, List.not_mem_nil, or_false] at hw
    rcases hw with rfl | rfl | rfl | rfl | rfl | rfl <;> rfl
  unfold readScalar at h
  split at h
  · next found hfound =>
    cases h
    obtain ⟨w, hw, hword⟩ := List.exists_of_findSome?_eq_some hfound
    obtain ⟨rest, -, heq⟩ := Option.map_eq_some_iff.mp hword
    cases heq
    exact hwords w hw
  · split at h
    · exact hasKnot_readNumber h
    · exact hasKnot_readNumber h

/-- All that is read with some fuel is trees. -/
structure ReadsTrees (fuel : Nat) : Prop where
  value : ∀ {room s v r}, readValue fuel room s = .ok (v, r) → v.hasKnot = false
  items : ∀ {room s items r}, readItems fuel room s = .ok (items, r) → hasKnotItems items = false
  pairs : ∀ {room s pairs r}, readPairs fuel room s = .ok (pairs, r) → hasKnotPairs pairs = false

namespace ReadsTrees

variable {fuel : Nat} {room : Nat}

theorem readValue (ih : ReadsTrees fuel) (h : Json.readValue (fuel + 1) room s = .ok (v, r)) :
    v.hasKnot = false := by
  rw [Json.readValue.eq_def] at h
  dsimp only at h
  split at h
  · split at h
    · cases h
      rfl
    · cases h
  · split at h
    · cases h
    · split at h
      · cases h
        rfl
      · obtain ⟨⟨items, rest⟩, hread, h⟩ := bind_eq_ok_iff.mp h
        cases h
        exact ih.items hread
  · split at h
    · cases h
    · split at h
      · cases h
        rfl
      · obtain ⟨⟨pairs, rest⟩, hread, h⟩ := bind_eq_ok_iff.mp h
        cases h
        exact Mapping.hasKnotPairs_ofPairs (ih.pairs hread)
  · exact hasKnot_readScalar h

theorem readItems (ih : ReadsTrees fuel) {items : List Value}
    (h : Json.readItems (fuel + 1) room s = .ok (items, r)) : hasKnotItems items = false := by
  rw [Json.readItems] at h
  obtain ⟨⟨v, rest⟩, hread, h⟩ := bind_eq_ok_iff.mp h
  have hv := ih.value hread
  dsimp only at h
  split at h
  · cases h
    rw [hasKnotItems, hv]
    rfl
  · obtain ⟨⟨others, rest⟩, hread, h⟩ := bind_eq_ok_iff.mp h
    cases h
    rw [hasKnotItems, hv, ih.items hread]
    rfl
  · cases h

theorem readPairs (ih : ReadsTrees fuel) {pairs : List (Scalar × Value)}
    (h : Json.readPairs (fuel + 1) room s = .ok (pairs, r)) : hasKnotPairs pairs = false := by
  rw [Json.readPairs.eq_def] at h
  dsimp only at h
  split at h
  · split at h
    · cases h
    · split at h
      · obtain ⟨⟨v, rest⟩, hread, h⟩ := bind_eq_ok_iff.mp h
        have hv := ih.value hread
        dsimp only at h
        split at h
        · cases h
          rw [hasKnotPairs, hv]
          rfl
        · obtain ⟨⟨others, rest⟩, hread, h⟩ := bind_eq_ok_iff.mp h
          cases h
          rw [hasKnotPairs, hv, ih.pairs hread]
          rfl
        · cases h
      · cases h
  · cases h

end ReadsTrees

theorem readsTrees (fuel : Nat) : ReadsTrees fuel := by
  induction fuel with
  | zero =>
    constructor
    · intro room s v r h
      rw [readValue] at h
      cases h
    · intro room s items r h
      rw [readItems] at h
      cases h
    · intro room s pairs r h
      rw [readPairs] at h
      cases h
  | succ fuel ih => exact ⟨ih.readValue, ih.readItems, ih.readPairs⟩

theorem hasKnot_parse (h : parse s = .ok v) : v.hasKnot = false := by
  unfold parse at h
  split at h
  · cases h
  · next v' rest hread =>
    split at h
    · cases h
      exact (readsTrees _).value hread
    · cases h

end Json

end Stencil
