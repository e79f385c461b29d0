import Stencil.Template.Directive.Mark

/-! `<: layout "name" :>`, which puts the rest of its page into a layout, and `<: content :>`, the place
in the layout where it goes. -/
namespace Stencil.Template.Directive

open Text (expect skipSpace)

/-- A single or a double quote at the start of a text, and what follows it. -/
def takeQuote : List Char → Option (Char × List Char)
  | [] => none
  | c :: s => if c = '\'' ∨ c = '"' then some (c, s) else none

/-- The name of the layout, between two equal quotes. -/
def readLayout (s : List Char) : Option (String × List Char) := do
  let s ← openKeyword "layout".toList s
  let (quote, s) ← takeQuote (skipSpace s)
  let (name, s) ← takeName s
  let s ← expect [quote] s
  let s ← closeMark s
  some (String.ofList name, s)

/-- A place for content. -/
def readContent (s : List Char) : Option (Unit × List Char) := do
  let s ← openKeyword "content".toList s
  let s ← closeMark s
  some ((), s)

theorem takeQuote_suffix {s rest : List Char} {q : Char} (h : takeQuote s = some (q, rest)) :
    rest <:+ s := by
  cases s with
  | nil => cases h
  | cons c s =>
    simp only [takeQuote] at h
    split at h
    · cases h; exact List.suffix_cons _ _
    · cases h

theorem readLayout_suffix {s rest : List Char} {name : String}
    (h : readLayout s = some (name, rest)) : rest <:+ s ∧ rest.length < s.length := by
  simp only [readLayout, Option.bind_eq_bind] at h
  obtain ⟨s₁, h₁, h⟩ := Option.bind_eq_some_iff.mp h
  obtain ⟨⟨_, s₂⟩, h₂, h⟩ := Option.bind_eq_some_iff.mp h
  obtain ⟨⟨_, s₃⟩, h₃, h⟩ := Option.bind_eq_some_iff.mp h
  obtain ⟨s₄, h₄, h⟩ := Option.bind_eq_some_iff.mp h
  obtain ⟨s₅, h₅, h⟩ := Option.bind_eq_some_iff.mp h
  cases h
  have hs : rest <:+ s₁ :=
    (closeMark_suffix h₅).trans <| (Text.expect_suffix h₄).trans <| (takeName_suffix h₃).trans <|
      (takeQuote_suffix h₂).trans (Text.skipSpace_suffix s₁)
  obtain ⟨h₆, h₇⟩ := openKeyword_suffix h₁
  exact ⟨hs.trans h₆, Nat.lt_of_le_of_lt hs.length_le h₇⟩

theorem readContent_suffix {s rest : List Char} (h : readContent s = some ((), rest)) :
    rest <:+ s ∧ rest.length < s.length := by
  simp only [readContent, Option.bind_eq_bind] at h
  obtain ⟨s₁, h₁, h⟩ := Option.bind_eq_some_iff.mp h
  obtain ⟨s₂, h₂, h⟩ := Option.bind_eq_some_iff.mp h
  cases h
  have hs := closeMark_suffix h₂
  obtain ⟨h₃, h₄⟩ := openKeyword_suffix h₁
  exact ⟨hs.trans h₃, Nat.lt_of_le_of_lt hs.length_le h₄⟩

/-- Finds declarations of a layout. -/
def layout : Text.Recogniser String where
  read := readLayout
  read_suffix h := (readLayout_suffix h).1
  read_shorter h := (readLayout_suffix h).2

/-- Finds places for content. -/
def content : Text.Recogniser Unit where
  read := readContent
  read_suffix h := (readContent_suffix h).1
  read_shorter h := (readContent_suffix h).2

end Stencil.Template.Directive
