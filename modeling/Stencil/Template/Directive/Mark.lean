import Stencil.Text.Pieces

/-! The marks around every directive, the characters of template names, and the plainest directive, which is a name
between the marks. -/
namespace Stencil.Template.Directive

open Text (expect skipSpace takeWord)

/-- The text after `<:` and blanks. -/
def openMark (s : List Char) : Option (List Char) := (expect ['<', ':'] s).map skipSpace

/-- The text after blanks and `:>`. -/
def closeMark (s : List Char) : Option (List Char) := expect [':', '>'] (skipSpace s)

/-- The text after `<:`, blanks and a keyword. -/
def openKeyword (keyword s : List Char) : Option (List Char) := (openMark s).bind (expect keyword)

/-- Characters of the names of templates, layouts and components. -/
def isNameChar (c : Char) : Bool := Unicode.isWord c || c == '.' || c == '/' || c == '-'

/-- The longest template name at the start of a text, which must not be empty, and what follows it. -/
def takeName (s : List Char) : Option (List Char × List Char) :=
  match s.takeWhile isNameChar with
  | [] => none
  | w => some (w, s.dropWhile isNameChar)

theorem openMark_suffix {s rest : List Char} (h : openMark s = some rest) :
    rest <:+ s ∧ rest.length < s.length := by
  obtain ⟨r, hr, rfl⟩ := Option.map_eq_some_iff.mp h
  have hs := Text.skipSpace_suffix r
  refine ⟨hs.trans (Text.expect_suffix hr), Nat.lt_of_le_of_lt hs.length_le ?_⟩
  rw [Text.expect_eq_some hr, List.length_append]
  exact Nat.lt_add_of_pos_left (by decide)

theorem closeMark_suffix {s rest : List Char} (h : closeMark s = some rest) : rest <:+ s :=
  (Text.expect_suffix h).trans (Text.skipSpace_suffix s)

theorem openKeyword_suffix {keyword s rest : List Char} (h : openKeyword keyword s = some rest) :
    rest <:+ s ∧ rest.length < s.length := by
  obtain ⟨r, hr, h⟩ := Option.bind_eq_some_iff.mp h
  obtain ⟨h₁, h₂⟩ := openMark_suffix hr
  have hs := Text.expect_suffix h
  exact ⟨hs.trans h₁, Nat.lt_of_le_of_lt hs.length_le h₂⟩

theorem takeName_suffix {s w rest : List Char} (h : takeName s = some (w, rest)) : rest <:+ s := by
  unfold takeName at h
  split at h
  · cases h
  · cases h; exact List.dropWhile_suffix _

/-! ### Placeholders -/

/-- The name in a placeholder. -/
def readPlaceholder (s : List Char) : Option (String × List Char) := do
  let s ← openMark s
  let (name, s) ← takeWord s
  let s ← closeMark s
  some (String.ofList name, s)

theorem readPlaceholder_suffix {s rest : List Char} {name : String}
    (h : readPlaceholder s = some (name, rest)) : rest <:+ s ∧ rest.length < s.length := by
  simp only [readPlaceholder, Option.bind_eq_bind] at h
  obtain ⟨s₁, h₁, h⟩ := Option.bind_eq_some_iff.mp h
  obtain ⟨⟨_, s₂⟩, h₂, h⟩ := Option.bind_eq_some_iff.mp h
  obtain ⟨s₃, h₃, h⟩ := Option.bind_eq_some_iff.mp h
  cases h
  have hs := (closeMark_suffix h₃).trans (Text.takeWord_suffix h₂)
  obtain ⟨h₄, h₅⟩ := openMark_suffix h₁
  exact ⟨hs.trans h₄, Nat.lt_of_le_of_lt hs.length_le h₅⟩

/-- Finds placeholders. -/
def placeholder : Text.Recogniser String where
  read := readPlaceholder
  read_suffix h := (readPlaceholder_suffix h).1
  read_shorter h := (readPlaceholder_suffix h).2

end Stencil.Template.Directive
