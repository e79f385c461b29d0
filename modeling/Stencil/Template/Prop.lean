import Stencil.Template.Directive.Component

/-! Props of a component: `key="value"`, or `:key="name"` for a bound one. Blanks separate props outside
quotes; a value ends at the quote that opened it. What forms no pair is set aside as a fragment. -/
namespace Stencil.Template

open Text (expect takeWord skipSpace)
open Directive (isQuote quoteAfter)

/-- A prop. A bound one has the name of a variable for its value. -/
structure PropToken where
  key : String
  value : String
  bound : Bool
  deriving Repr, DecidableEq

/-- What the text of props falls into. -/
inductive PropItem where
  | pair (prop : PropToken)
  | fragment (text : List Char)
  deriving Repr, DecidableEq

/-- The text up to the next `quote`, and what follows it. -/
def untilQuote (quote : Char) : List Char → Option (List Char × List Char)
  | [] => none
  | c :: s => if c = quote then some ([], s) else (untilQuote quote s).map fun r => (c :: r.1, r.2)

/-- The value between quotes. -/
def readQuoted : List Char → Option (List Char × List Char)
  | [] => none
  | c :: s => if isQuote c then untilQuote c s else none

/-- A key with its value. -/
def readUnbound (bound : Bool) (s : List Char) : Option (PropToken × List Char) := do
  let (key, s) ← takeWord s
  let s ← expect ['='] (skipSpace s)
  let (value, s) ← readQuoted (skipSpace s)
  some (⟨String.ofList key, String.ofList value, bound⟩, s)

/-- A prop at the start of a text. -/
def readProp : List Char → Option (PropToken × List Char)
  | ':' :: s => readUnbound true s
  | s => readUnbound false s

/-- The text up to the next blank outside quotes, and what follows. -/
def splitFragment (quote : Option Char) : List Char → List Char × List Char
  | [] => ([], [])
  | c :: s =>
    if quote = none ∧ Text.isSpace c = true then ([], c :: s)
    else
      let r := splitFragment (quoteAfter quote c) s
      (c :: r.1, r.2)

theorem untilQuote_suffix {quote : Char} {s v rest : List Char}
    (h : untilQuote quote s = some (v, rest)) : rest <:+ s ∧ rest.length < s.length := by
  induction s generalizing v with
  | nil => cases h
  | cons c s ih =>
    simp only [untilQuote] at h
    split at h
    · cases h; exact ⟨List.suffix_cons _ _, Nat.lt_succ_self _⟩
    · obtain ⟨r, hr, he⟩ := Option.map_eq_some_iff.mp h
      cases he
      exact ⟨(ih hr).1.trans (List.suffix_cons c s), Nat.lt_succ_of_lt (ih hr).2⟩

theorem readQuoted_suffix {s v rest : List Char} (h : readQuoted s = some (v, rest)) :
    rest <:+ s ∧ rest.length < s.length := by
  cases s with
  | nil => cases h
  | cons c s =>
    simp only [readQuoted] at h
    split at h
    · have hs := untilQuote_suffix h
      exact ⟨hs.1.trans (List.suffix_cons c s), Nat.lt_succ_of_lt hs.2⟩
    · cases h

theorem readUnbound_suffix {bound : Bool} {s rest : List Char} {p : PropToken}
    (h : readUnbound bound s = some (p, rest)) : rest <:+ s ∧ rest.length < s.length := by
  simp only [readUnbound, Option.bind_eq_bind] at h
  obtain ⟨⟨_, s₁⟩, h₁, h⟩ := Option.bind_eq_some_iff.mp h
  obtain ⟨s₂, h₂, h⟩ := Option.bind_eq_some_iff.mp h
  obtain ⟨⟨_, s₃⟩, h₃, h⟩ := Option.bind_eq_some_iff.mp h
  cases h
  have hs : skipSpace s₂ <:+ s :=
    (Text.skipSpace_suffix s₂).trans <| (Text.expect_suffix h₂).trans <|
      (Text.skipSpace_suffix s₁).trans (Text.takeWord_suffix h₁)
  obtain ⟨h₄, h₅⟩ := readQuoted_suffix h₃
  exact ⟨h₄.trans hs, Nat.lt_of_lt_of_le h₅ hs.length_le⟩

theorem readProp_suffix {s rest : List Char} {p : PropToken} (h : readProp s = some (p, rest)) :
    rest <:+ s ∧ rest.length < s.length := by
  unfold readProp at h
  split at h
  · obtain ⟨h₁, h₂⟩ := readUnbound_suffix h
    exact ⟨h₁.trans (List.suffix_cons _ _), Nat.lt_succ_of_lt h₂⟩
  · exact readUnbound_suffix h

/-- Nothing is lost between a fragment and the rest. -/
theorem splitFragment_append (quote : Option Char) (s : List Char) :
    (splitFragment quote s).1 ++ (splitFragment quote s).2 = s := by
  induction s generalizing quote with
  | nil => rfl
  | cons c s ih =>
    simp only [splitFragment]
    split
    · rfl
    · simp [ih]

theorem splitFragment_rest_length (quote : Option Char) (s : List Char) :
    (splitFragment quote s).2.length ≤ s.length := by
  have h := congrArg List.length (splitFragment_append quote s)
  rw [List.length_append] at h
  omega

/-- The items of a text, in order. -/
def lexProps (s : List Char) : List PropItem :=
  match h : skipSpace s with
  | [] => []
  | c :: t =>
    have hle : (c :: t).length ≤ s.length := h ▸ (Text.skipSpace_suffix s).length_le
    match hp : readProp (c :: t) with
    | some (p, rest) =>
      have : rest.length < s.length := Nat.lt_of_lt_of_le (readProp_suffix hp).2 hle
      .pair p :: lexProps rest
    | none =>
      let r := splitFragment (quoteAfter none c) t
      have : r.2.length < s.length :=
        Nat.lt_of_le_of_lt (splitFragment_rest_length (quoteAfter none c) t) hle
      .fragment (c :: r.1) :: lexProps r.2
termination_by s.length

/-- The props among the items. -/
def props (items : List PropItem) : List PropToken :=
  items.filterMap fun
    | .pair p => some p
    | .fragment _ => none

/-- The fragments among the items. -/
def fragments (items : List PropItem) : List (List Char) :=
  items.filterMap fun
    | .pair _ => none
    | .fragment t => some t

end Stencil.Template
