import Stencil.Text.Pieces

/-! Brace protection. Every opening brace of a loaded file is replaced by a token of the target language
that prints one, so that no text of a file can open a tag there. -/
namespace Stencil.Template

/-- What stands for an opening brace: `{{ __lb }}`. -/
def braceToken : List Char := ['{', '{', ' ', '_', '_', 'l', 'b', ' ', '}', '}']

/-- A text with the token in place of every opening brace. -/
def protect (s : List Char) : List Char := s.flatMap fun c => if c = '{' then braceToken else [c]

/-- The token at the start of a text. -/
def braceTokenRecogniser : Text.Recogniser Unit where
  read s := (Text.expect braceToken s).map ((), ·)
  read_suffix h := by
    obtain ⟨r, hr, he⟩ := Option.map_eq_some_iff.mp h
    cases he
    exact ⟨braceToken, (Text.expect_eq_some hr).symm⟩
  read_shorter h := by
    obtain ⟨r, hr, he⟩ := Option.map_eq_some_iff.mp h
    cases he
    rw [Text.expect_eq_some hr, List.length_append]
    simp [braceToken]

/-- A text with an opening brace in place of every token. -/
def restore (s : List Char) : List Char := braceTokenRecogniser.replace (fun _ _ => ['{']) s

@[simp] theorem protect_nil : protect [] = [] := rfl

theorem protect_append (s t : List Char) : protect (s ++ t) = protect s ++ protect t := by
  simp [protect]

@[simp] theorem protect_cons_brace (s : List Char) : protect ('{' :: s) = braceToken ++ protect s := by
  simp [protect]

theorem protect_cons {c : Char} (s : List Char) (h : c ≠ '{') : protect (c :: s) = c :: protect s := by
  simp [protect, h]

end Stencil.Template
