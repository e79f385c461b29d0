import Stencil.Text.Pieces

/-! `# text #`, a remark. Number signs pair off from left to right. -/
namespace Stencil.Template.Directive

/-- The text up to the next number sign, and what follows the sign. -/
def splitSign : List Char → Option (List Char × List Char)
  | [] => none
  | c :: s => if c = '#' then some ([], s) else (splitSign s).map fun r => (c :: r.1, r.2)

/-- The remark between two number signs, without the blanks at its ends. -/
def readComment : List Char → Option (List Char × List Char)
  | '#' :: s => (splitSign s).map fun r => (Text.strip r.1, r.2)
  | _ => none

theorem splitSign_suffix {s text rest : List Char} (h : splitSign s = some (text, rest)) :
    rest <:+ s := by
  induction s generalizing text with
  | nil => cases h
  | cons c s ih =>
    simp only [splitSign] at h
    split at h
    · cases h; exact List.suffix_cons _ _
    · obtain ⟨r, hr, he⟩ := Option.map_eq_some_iff.mp h
      cases he
      exact (ih hr).trans (List.suffix_cons c s)

theorem readComment_suffix {s text rest : List Char} (h : readComment s = some (text, rest)) :
    rest <:+ s ∧ rest.length < s.length := by
  unfold readComment at h
  split at h
  · next s =>
    obtain ⟨r, hr, he⟩ := Option.map_eq_some_iff.mp h
    cases he
    have hs := splitSign_suffix hr
    exact ⟨hs.trans (List.suffix_cons '#' s), Nat.lt_succ_of_le hs.length_le⟩
  · cases h

/-- Finds remarks. -/
def comment : Text.Recogniser (List Char) where
  read := readComment
  read_suffix h := (readComment_suffix h).1
  read_shorter h := (readComment_suffix h).2

end Stencil.Template.Directive
