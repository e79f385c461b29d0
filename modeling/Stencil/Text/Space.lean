/-! Blank characters, and text with its blank ends cut off. -/
namespace Stencil.Text

/-- The blank characters: controls that separate, spaces of every width, line and paragraph ends. -/
def isSpace (c : Char) : Bool :=
  let n := c.toNat
  (9 ≤ n && n ≤ 13) || (28 ≤ n && n ≤ 32) || n == 0x85 || n == 0xa0 || n == 0x1680
    || (0x2000 ≤ n && n ≤ 0x200a) || n == 0x2028 || n == 0x2029 || n == 0x202f || n == 0x205f
    || n == 0x3000

/-- The text after its leading blanks. -/
def skipSpace (s : List Char) : List Char := s.dropWhile isSpace

/-- The text before its trailing blanks. -/
def trimEnd : List Char → List Char
  | [] => []
  | c :: s =>
    match trimEnd s with
    | [] => if isSpace c then [] else [c]
    | t => c :: t

/-- The text between its leading and its trailing blanks. -/
def strip (s : List Char) : List Char := trimEnd (skipSpace s)

/-- The text after its leading blanks, which must not be missing. -/
def needSpace : List Char → Option (List Char)
  | [] => none
  | c :: s => if isSpace c then some (skipSpace s) else none

/-- A nonempty text of blanks only. -/
def isBlank (s : List Char) : Bool := !s.isEmpty && s.all isSpace

@[simp] theorem skipSpace_nil : skipSpace [] = [] := rfl

theorem skipSpace_cons_of_space {c : Char} (s : List Char) (h : isSpace c = true) :
    skipSpace (c :: s) = skipSpace s := by
  simp [skipSpace, h]

theorem skipSpace_cons_of_not_space {c : Char} (s : List Char) (h : isSpace c = false) :
    skipSpace (c :: s) = c :: s := by
  simp [skipSpace, h]

theorem skipSpace_suffix (s : List Char) : skipSpace s <:+ s := List.dropWhile_suffix isSpace

theorem needSpace_suffix {s rest : List Char} (h : needSpace s = some rest) :
    rest <:+ s ∧ rest.length < s.length := by
  cases s with
  | nil => simp [needSpace] at h
  | cons c s =>
    simp only [needSpace] at h
    split at h
    · cases h
      exact ⟨(skipSpace_suffix s).trans (List.suffix_cons c s),
        Nat.lt_succ_of_le (skipSpace_suffix s).length_le⟩
    · cases h

theorem trimEnd_begins (s : List Char) : trimEnd s <+: s := by
  induction s with
  | nil => exact List.prefix_rfl
  | cons c s ih =>
    rw [trimEnd]
    split
    · split
      · exact List.nil_prefix
      · exact ⟨s, rfl⟩
    · exact List.cons_prefix_cons.mpr ⟨rfl, ih⟩

/-- Nothing comes into a text with its ends cut off. -/
theorem mem_of_mem_strip {c : Char} {s : List Char} (h : c ∈ strip s) : c ∈ s :=
  (skipSpace_suffix s).subset ((trimEnd_begins (skipSpace s)).subset h)

/-- Blanks all the way down to nothing, or a last character that is not one. -/
theorem trimEnd_append_space (s : List Char) (t : List Char) (h : t.all isSpace = true) :
    trimEnd (s ++ t) = trimEnd s := by
  have ht : trimEnd t = [] := by
    induction t with
    | nil => rfl
    | cons c t ih =>
      simp only [List.all_cons, Bool.and_eq_true] at h
      simp [trimEnd, ih h.2, h.1]
  induction s with
  | nil => simpa [trimEnd] using ht
  | cons c s ih => simp [trimEnd, ih]

theorem trimEnd_append_of_ne_nil (s : List Char) {t : List Char} (h : trimEnd t ≠ []) :
    trimEnd (s ++ t) = s ++ trimEnd t := by
  induction s with
  | nil => rfl
  | cons c s ih =>
    rw [List.cons_append, trimEnd, ih]
    cases hs : s ++ trimEnd t with
    | nil => exact absurd (List.append_eq_nil_iff.mp hs).2 h
    | cons d r => rw [List.cons_append, hs]

theorem trimEnd_append_of_eq_nil (s : List Char) {t : List Char} (h : trimEnd t = []) :
    trimEnd (s ++ t) = trimEnd s := by
  induction s with
  | nil => exact h
  | cons c s ih => rw [List.cons_append, trimEnd, ih, trimEnd]

/-- A text that ends in no blank keeps its end. -/
theorem trimEnd_of_getLast? {s : List Char} {c : Char} (hs : s.getLast? = some c)
    (hc : isSpace c = false) : trimEnd s = s := by
  obtain ⟨front, rfl⟩ := List.getLast?_eq_some_iff.mp hs
  have hlast : trimEnd [c] = [c] := by simp [trimEnd, hc]
  rw [trimEnd_append_of_ne_nil front (by rw [hlast]; simp), hlast]

end Stencil.Text
