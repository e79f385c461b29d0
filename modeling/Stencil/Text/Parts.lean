/-! A text cut at a separator. -/
namespace Stencil.Text

/-- The parts between the separators `sep`, of which there is one more than separators. -/
def splitOn (sep : Char) : List Char → List (List Char)
  | [] => [[]]
  | c :: s =>
    if c = sep then [] :: splitOn sep s
    else
      match splitOn sep s with
      | [] => [[c]]
      | part :: parts => (c :: part) :: parts

theorem splitOn_ne_nil (sep : Char) (s : List Char) : splitOn sep s ≠ [] := by
  cases s with
  | nil => simp [splitOn]
  | cons c s => simp only [splitOn]; split <;> (try split) <;> simp

/-- The parts make up the text again. -/
theorem intercalate_splitOn (sep : Char) (s : List Char) :
    [sep].intercalate (splitOn sep s) = s := by
  induction s with
  | nil => rfl
  | cons c s ih =>
    have hne := splitOn_ne_nil sep s
    cases h : splitOn sep s with
    | nil => exact absurd h hne
    | cons part parts =>
      rw [h] at ih
      by_cases hc : c = sep
      · rw [splitOn, if_pos hc, h, hc, List.intercalate_cons_cons, ih]; rfl
      · cases parts <;> simp_all [splitOn, List.intercalate, List.intersperse]

theorem notMem_of_mem_splitOn (sep : Char) (s : List Char) : ∀ part ∈ splitOn sep s, sep ∉ part := by
  induction s with
  | nil => simp [splitOn]
  | cons c s ih =>
    obtain ⟨part, parts, h⟩ := List.exists_cons_of_ne_nil (splitOn_ne_nil sep s)
    rw [h] at ih
    by_cases hc : c = sep
    · rw [splitOn, if_pos hc, h]
      exact List.forall_mem_cons.mpr ⟨List.not_mem_nil, ih⟩
    · obtain ⟨hpart, hparts⟩ := List.forall_mem_cons.mp ih
      rw [splitOn, if_neg hc, h]
      exact List.forall_mem_cons.mpr ⟨by simp [Ne.symm hc, hpart], hparts⟩

theorem length_splitOn (sep : Char) (s : List Char) :
    (splitOn sep s).length = s.count sep + 1 := by
  induction s with
  | nil => rfl
  | cons c s ih =>
    obtain ⟨part, parts, h⟩ := List.exists_cons_of_ne_nil (splitOn_ne_nil sep s)
    rw [h] at ih
    by_cases hc : c = sep
    · rw [splitOn, if_pos hc, h, hc, List.count_cons_self, ← ih]
      rfl
    · rw [splitOn, if_neg hc, h, List.count_cons_of_ne hc, ← ih]
      rfl

end Stencil.Text
