import Stencil.Text.Pieces

/-! Words as parts of a text. A word is read as a whole wherever something else than a word character
follows it, and a keyword is not found in a longer word. -/
namespace Stencil.Text

open Unicode (isWord)

/-- A text of word characters, at least one. -/
structure IsName (w : List Char) : Prop where
  ne_nil : w ≠ []
  word : ∀ c ∈ w, isWord c = true

/-- The codes of the blank characters. -/
def spaceCodes : List Nat :=
  List.range' 9 5 ++ List.range' 28 5 ++ List.range' 0x2000 11
    ++ [0x85, 0xa0, 0x1680, 0x2028, 0x2029, 0x202f, 0x205f, 0x3000]

theorem toNat_mem_spaceCodes {c : Char} (h : isSpace c = true) : c.toNat ∈ spaceCodes := by
  simp only [isSpace, Bool.or_eq_true, Bool.and_eq_true, decide_eq_true_eq, beq_iff_eq] at h
  simp only [spaceCodes, List.mem_append, List.mem_range'_1, List.mem_cons, List.not_mem_nil]
  omega

theorem isWord_of_spaceCode :
    ∀ n ∈ spaceCodes, isWord (Char.ofNat n) = false := by decide +kernel

/-- No blank is a word character. -/
theorem isWord_of_isSpace {c : Char} (h : isSpace c = true) : isWord c = false := by
  have := isWord_of_spaceCode c.toNat (toNat_mem_spaceCodes h)
  rwa [Char.ofNat_toNat] at this

theorem isSpace_of_isWord {c : Char} (h : isWord c = true) : isSpace c = false := by
  cases hc : isSpace c with
  | false => rfl
  | true => rw [isWord_of_isSpace hc] at h; cases h

theorem isName_of_all {w : List Char} (hne : w ≠ []) (h : w.all isWord = true) : IsName w :=
  ⟨hne, List.all_eq_true.mp h⟩

theorem needSpace_space (s : List Char) : needSpace (' ' :: s) = some (skipSpace s) := rfl

theorem skipSpace_space (s : List Char) : skipSpace (' ' :: s) = skipSpace s := rfl

theorem skipSpace_append {b : List Char} (hb : b.all isSpace = true) (s : List Char) :
    skipSpace (b ++ s) = skipSpace s :=
  List.dropWhile_append_of_pos (List.all_eq_true.mp hb)

/-- A text is blanks and then what does not begin with one. -/
theorem exists_blanks (s : List Char) : ∃ b, b.all isSpace = true ∧ s = b ++ skipSpace s :=
  ⟨s.takeWhile isSpace, List.all_takeWhile, List.takeWhile_append_dropWhile.symm⟩

theorem isSpace_of_skipSpace {s t : List Char} {c : Char} (h : skipSpace s = c :: t) :
    isSpace c = false := by
  have := List.head?_dropWhile_not isSpace s
  rw [skipSpace] at h
  rw [h] at this
  simpa using this

theorem needSpace_eq_none_of_isWord {c : Char} (h : isWord c = true) (s : List Char) :
    needSpace (c :: s) = none := by
  simp [needSpace, isSpace_of_isWord h]

namespace IsName

variable {w : List Char}

theorem exists_cons (hw : IsName w) : ∃ c v, w = c :: v ∧ isWord c = true := by
  cases w with
  | nil => exact absurd rfl hw.ne_nil
  | cons c v => exact ⟨c, v, rfl, hw.word c List.mem_cons_self⟩

/-- A word is read up to its end. -/
theorem takeWord (hw : IsName w) {c : Char} (hc : isWord c = false) (s : List Char) :
    Text.takeWord (w ++ c :: s) = some (w, c :: s) := by
  have htake : (w ++ c :: s).takeWhile isWord = w := by
    rw [List.takeWhile_append_of_pos hw.word, List.takeWhile_cons, hc]
    simp
  have hdrop : (w ++ c :: s).dropWhile isWord = c :: s := by
    rw [List.dropWhile_append_of_pos hw.word, List.dropWhile_cons, hc]
    simp
  obtain ⟨d, v, rfl, -⟩ := hw.exists_cons
  unfold Text.takeWord
  rw [htake, hdrop]

theorem takeWord_space (hw : IsName w) (s : List Char) :
    Text.takeWord (w ++ ' ' :: s) = some (w, ' ' :: s) := hw.takeWord Unicode.isWord_space s

/-- No blanks stand before a word. -/
theorem skipSpace (hw : IsName w) (s : List Char) : Text.skipSpace (w ++ s) = w ++ s := by
  obtain ⟨c, v, rfl, hc⟩ := hw.exists_cons
  exact skipSpace_cons_of_not_space _ (isSpace_of_isWord hc)

end IsName

/-- A keyword found at a word is that word, or the word goes on after it. -/
theorem expect_word {keyword w s rest : List Char} (hk : keyword.all isWord = true)
    (hw : ∀ c ∈ w, isWord c = true) (h : expect keyword (w ++ ' ' :: s) = some rest) :
    keyword = w ∨ ∃ c r, rest = c :: r ∧ isWord c = true := by
  induction keyword generalizing w with
  | nil =>
    cases w with
    | nil => exact .inl rfl
    | cons c w =>
      cases h
      exact .inr ⟨c, w ++ ' ' :: s, rfl, hw c List.mem_cons_self⟩
  | cons a keyword ih =>
    rw [List.all_cons, Bool.and_eq_true] at hk
    cases w with
    | nil =>
      -- a keyword has no blank in it
      have ha := hk.1
      simp only [List.nil_append, expect] at h
      split at h
      · next heq => rw [heq, Unicode.isWord_space] at ha; cases ha
      · cases h
    | cons c w =>
      simp only [List.cons_append, expect] at h
      split at h
      · next heq =>
        subst heq
        refine (ih hk.2 (fun c hc => hw c (List.mem_cons_of_mem _ hc)) h).imp_left fun he => ?_
        rw [he]
      · cases h

/-- A keyword is not read at another word if what must follow it is no word character. -/
theorem bind_expect_word {α : Type} {keyword w s : List Char} (hk : keyword.all isWord = true)
    (hw : ∀ c ∈ w, isWord c = true) (hne : keyword ≠ w) {f : List Char → Option α}
    (hf : ∀ c r, isWord c = true → f (c :: r) = none) :
    (expect keyword (w ++ ' ' :: s)).bind f = none := by
  cases h : expect keyword (w ++ ' ' :: s) with
  | none => rfl
  | some rest =>
    obtain he | ⟨c, r, rfl, hc⟩ := expect_word hk hw h
    · exact absurd he hne
    · exact hf c r hc

end Stencil.Text
