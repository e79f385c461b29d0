import Stencil.Template.Directive.Mark

/-! `<: for item[, index] in collection :> body <: endfor :>`. Only innermost loops are read: a body
holds no other opener of a loop, and ends at the first closing mark. -/
namespace Stencil.Template.Directive

open Text (expect takeWord skipSpace needSpace)

/-- A loop as it is written. -/
structure Loop where
  item : String
  index : Option String
  collection : String
  body : List Char
  deriving Repr, DecidableEq

/-- The text after `<: endfor :>`. -/
def loopEnd (s : List Char) : Option (List Char) := do
  let s ← openKeyword "endfor".toList s
  closeMark s

/-- Whether a loop seems to open here: `<:`, `for` and a blank. -/
def opensLoop (s : List Char) : Bool :=
  ((openKeyword "for".toList s).bind needSpace).isSome

/-- The body of a loop, and the text after its end. -/
def loopBody : List Char → Option (List Char × List Char)
  | [] => none
  | c :: s =>
    match loopEnd (c :: s) with
    | some rest => some ([], rest)
    | none => if opensLoop (c :: s) then none else (loopBody s).map fun r => (c :: r.1, r.2)

/-- `, index` and the blank after it, or only a blank. -/
def loopIndex (s : List Char) : Option (Option String × List Char) :=
  match skipSpace s with
  | ',' :: t => do
    let (index, t) ← takeWord (skipSpace t)
    let t ← needSpace t
    some (some (String.ofList index), t)
  | _ => (needSpace s).map (none, ·)

/-- A whole loop. -/
def readLoop (s : List Char) : Option (Loop × List Char) := do
  let s ← openKeyword "for".toList s
  let s ← needSpace s
  let (item, s) ← takeWord s
  let (index, s) ← loopIndex s
  let s ← expect ['i', 'n'] s
  let s ← needSpace s
  let (collection, s) ← takeWord s
  let s ← closeMark s
  let (body, s) ← loopBody s
  some (⟨String.ofList item, index, String.ofList collection, body⟩, s)

theorem loopEnd_suffix {s rest : List Char} (h : loopEnd s = some rest) : rest <:+ s := by
  obtain ⟨s₁, h₁, h⟩ := Option.bind_eq_some_iff.mp h
  exact (closeMark_suffix h).trans (openKeyword_suffix h₁).1

theorem loopBody_suffix {s body rest : List Char} (h : loopBody s = some (body, rest)) :
    rest <:+ s := by
  induction s generalizing body with
  | nil => cases h
  | cons c s ih =>
    simp only [loopBody] at h
    split at h
    · next hend => cases h; exact loopEnd_suffix hend
    · split at h
      · cases h
      · obtain ⟨r, hr, he⟩ := Option.map_eq_some_iff.mp h
        cases he
        exact (ih hr).trans (List.suffix_cons c s)

theorem loopIndex_suffix {s rest : List Char} {index : Option String}
    (h : loopIndex s = some (index, rest)) : rest <:+ s := by
  unfold loopIndex at h
  split at h
  · next t heq =>
    obtain ⟨⟨_, s₁⟩, h₁, h⟩ := Option.bind_eq_some_iff.mp h
    obtain ⟨s₂, h₂, h⟩ := Option.bind_eq_some_iff.mp h
    cases h
    exact (Text.needSpace_suffix h₂).1.trans <| (Text.takeWord_suffix h₁).trans <|
      (Text.skipSpace_suffix t).trans <| (List.suffix_cons ',' t).trans <|
      heq ▸ Text.skipSpace_suffix s
  · obtain ⟨r, hr, he⟩ := Option.map_eq_some_iff.mp h
    cases he
    exact (Text.needSpace_suffix hr).1

theorem readLoop_suffix {s rest : List Char} {l : Loop} (h : readLoop s = some (l, rest)) :
    rest <:+ s ∧ rest.length < s.length := by
  simp only [readLoop, Option.bind_eq_bind] at h
  obtain ⟨s₁, h₁, h⟩ := Option.bind_eq_some_iff.mp h
  obtain ⟨s₂, h₂, h⟩ := Option.bind_eq_some_iff.mp h
  obtain ⟨⟨_, s₃⟩, h₃, h⟩ := Option.bind_eq_some_iff.mp h
  obtain ⟨⟨_, s₄⟩, h₄, h⟩ := Option.bind_eq_some_iff.mp h
  obtain ⟨s₅, h₅, h⟩ := Option.bind_eq_some_iff.mp h
  obtain ⟨s₆, h₆, h⟩ := Option.bind_eq_some_iff.mp h
  obtain ⟨⟨_, s₇⟩, h₇, h⟩ := Option.bind_eq_some_iff.mp h
  obtain ⟨s₈, h₈, h⟩ := Option.bind_eq_some_iff.mp h
  obtain ⟨⟨_, s₉⟩, h₉, h⟩ := Option.bind_eq_some_iff.mp h
  cases h
  have hs : s₉ <:+ s₁ :=
    (loopBody_suffix h₉).trans <| (closeMark_suffix h₈).trans <|
      (Text.takeWord_suffix h₇).trans <| (Text.needSpace_suffix h₆).1.trans <|
      (Text.expect_suffix h₅).trans <| (loopIndex_suffix h₄).trans <|
      (Text.takeWord_suffix h₃).trans (Text.needSpace_suffix h₂).1
  obtain ⟨h₁₀, h₁₁⟩ := openKeyword_suffix h₁
  exact ⟨hs.trans h₁₀, Nat.lt_of_le_of_lt hs.length_le h₁₁⟩

/-- Finds innermost loops. -/
def loop : Text.Recogniser Loop where
  read := readLoop
  read_suffix h := (readLoop_suffix h).1
  read_shorter h := (readLoop_suffix h).2

end Stencil.Template.Directive
