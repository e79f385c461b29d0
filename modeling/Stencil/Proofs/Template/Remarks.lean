import Stencil.Proofs.Template.TiledStretches
import Stencil.Template.Stage.Marks
import Stencil.Text.Parts

/-! Number signs pair off from left to right, whatever stands between them, so converting the remarks of a
text takes an even number of signs out of it and leaves at most one. Cut at its signs, a text falls into
pieces of which every second one is a remark. -/
namespace Stencil.Template

open Text (Recogniser)

namespace Directive

theorem sign_notMem_of_splitSign {s text rest : List Char} (h : splitSign s = some (text, rest)) :
    '#' ∉ text := by
  induction s generalizing text with
  | nil => cases h
  | cons c s ih =>
    simp only [splitSign] at h
    split at h
    · cases h
      exact List.not_mem_nil
    · next hc =>
      obtain ⟨r, hr, he⟩ := Option.map_eq_some_iff.mp h
      cases he
      rw [List.mem_cons, not_or]
      exact ⟨fun he => hc he.symm, ih hr⟩

theorem splitSign_eq_none {s : List Char} (h : splitSign s = none) : '#' ∉ s := by
  induction s with
  | nil => exact List.not_mem_nil
  | cons c s ih =>
    simp only [splitSign] at h
    split at h
    · cases h
    · next hc =>
      rw [List.mem_cons, not_or]
      exact ⟨fun he => hc he.symm, ih (Option.map_eq_none_iff.mp h)⟩

theorem splitSign_append {inner : List Char} (h : '#' ∉ inner) (s : List Char) :
    splitSign (inner ++ '#' :: s) = some (inner, s) := by
  induction inner with
  | nil => simp [splitSign]
  | cons c inner ih =>
    rw [List.mem_cons, not_or] at h
    rw [List.cons_append, splitSign, if_neg (Ne.symm h.1), ih h.2]
    rfl

/-- A remark goes on to the very next sign. -/
theorem read_comment {inner : List Char} (h : '#' ∉ inner) (s : List Char) :
    comment.read (('#' :: (inner ++ ['#'])) ++ s) = some (Text.strip inner, s) := by
  change readComment ('#' :: (inner ++ ['#'] ++ s)) = _
  rw [List.append_assoc, List.singleton_append, readComment, splitSign_append h]
  rfl

/-- A remark stands between two number signs, and holds none. -/
theorem exists_source_of_readComment {source rest a : List Char}
    (h : comment.read (source ++ rest) = some (a, rest)) :
    ∃ text, source = '#' :: (text ++ ['#']) ∧ a = Text.strip text ∧ '#' ∉ text := by
  change readComment (source ++ rest) = some (a, rest) at h
  unfold readComment at h
  split at h
  · next s heq =>
    obtain ⟨⟨text, r⟩, hr, he⟩ := Option.map_eq_some_iff.mp h
    cases he
    have hsource : source ++ r = ('#' :: (text ++ ['#'])) ++ r := by
      rw [heq, splitSign_eq_some hr]
      simp
    exact ⟨text, List.append_cancel_right hsource, rfl, sign_notMem_of_splitSign hr⟩
  · cases h

/-- A remark is read only at a sign that another one follows. -/
theorem readComment_eq_none {c : Char} {s : List Char} (h : comment.read (c :: s) = none) :
    c ≠ '#' ∨ '#' ∉ s := by
  by_cases hc : c = '#'
  · subst hc
    exact .inr (splitSign_eq_none (Option.map_eq_none_iff.mp h))
  · exact .inl hc

end Directive

/-- No remark is read where no number sign stands. -/
theorem skips_comment {t : List Char} (h : '#' ∉ t) (s : List Char) : Directive.comment.Skips t s := by
  intro c before after he
  have hc : c ≠ '#' := by
    rintro rfl
    exact h (by simp [he])
  change Directive.readComment (c :: (after ++ s)) = none
  simp [Directive.readComment, hc]

/-- A converted remark holds no number sign. -/
theorem sign_notMem_markupComment {text : List Char} (h : '#' ∉ text) :
    '#' ∉ markupComment (Text.strip text) :=
  List.not_mem_append (List.not_mem_append (by decide) fun hmem => h (Text.mem_of_mem_strip hmem))
    (by decide)

/-- Of the number signs of a text, one is left if their number is odd. -/
theorem count_convertedComments (text : List Char) :
    (convertedComments text).count '#' = text.count '#' % 2 := by
  unfold convertedComments
  fun_induction Recogniser.pieces Directive.comment text with
  | case1 => simp
  | case2 c s remark rest h _ ih =>
    obtain ⟨source, hsource⟩ := Recogniser.exists_source h
    rw [hsource] at h ⊢
    rw [Recogniser.replace_append_of_read h, List.count_append, List.count_append, ih]
    obtain ⟨inner, rfl, rfl, hinner⟩ := Directive.exists_source_of_readComment h
    have hmine : (markupComment (Text.strip inner)).count '#' = 0 :=
      List.count_eq_zero.mpr (sign_notMem_markupComment hinner)
    have htaken : ('#' :: (inner ++ ['#'])).count '#' = 2 := by
      simp [List.count_eq_zero.mpr hinner]
    rw [hmine, htaken]
    omega
  | case3 c s h ih =>
    rw [Recogniser.replace_cons_of_read_none h]
    rcases Directive.readComment_eq_none h with hc | hs
    · rw [List.count_cons_of_ne hc, List.count_cons_of_ne hc, ih]
    · have hrest : s.count '#' = 0 := List.count_eq_zero.mpr hs
      rw [List.count_cons, List.count_cons, ih, hrest]
      split <;> rfl

/-- A remark takes two number signs. -/
theorem countComments_eq (text : List Char) : countComments text = text.count '#' / 2 := by
  unfold countComments
  fun_induction Recogniser.pieces Directive.comment text with
  | case1 => rfl
  | case2 c s remark rest h _ ih =>
    obtain ⟨source, hsource⟩ := Recogniser.exists_source h
    rw [hsource] at h ⊢
    obtain ⟨inner, rfl, -, hinner⟩ := Directive.exists_source_of_readComment h
    have htaken : ('#' :: (inner ++ ['#'])).count '#' = 2 := by
      simp [List.count_eq_zero.mpr hinner]
    rw [List.countP_cons_of_pos rfl, ih, List.count_append, htaken]
    omega
  | case3 c s h ih =>
    rw [List.countP_cons_of_neg (by simp), ih]
    rcases Directive.readComment_eq_none h with hc | hs
    · rw [List.count_cons_of_ne hc]
    · rw [List.count_cons, List.count_eq_zero.mpr hs]
      split <;> rfl

/-- A text has a remark if it has two number signs. -/
theorem convertedComments_eq_self_iff {text : List Char} :
    convertedComments text = text ↔ text.count '#' ≤ 1 := by
  constructor
  · intro h
    have hcount := count_convertedComments text
    rw [h] at hcount
    omega
  · intro h
    refine Recogniser.replace_of_skips fun c before after he => ?_
    cases hread : Directive.comment.read (c :: after ++ []) with
    | none => rfl
    | some found =>
      obtain ⟨remark, rest⟩ := found
      obtain ⟨source, hsource⟩ := Recogniser.exists_source hread
      rw [hsource] at hread
      obtain ⟨inner, rfl, -⟩ := Directive.exists_source_of_readComment hread
      rw [List.append_nil] at hsource
      rw [he, hsource, List.count_append, List.count_append] at h
      simp at h
      omega

theorem convertedComments_eq_self {text : List Char} (h : '#' ∉ text) :
    convertedComments text = text := by
  rw [convertedComments_eq_self_iff, List.count_eq_zero.mpr h]
  exact Nat.zero_le 1

/-! ### Pieces between signs -/

/-- The text made of the pieces of a text between its number signs. The second one is a remark, and so is every
second one after it; a last sign that none pairs with stays in front of its piece. -/
def remarked : List (List Char) → List Char
  | [] => []
  | [p] => p
  | [p, q] => p ++ '#' :: q
  | p :: q :: r :: rest => p ++ (markupComment (Text.strip q) ++ remarked (r :: rest))

theorem convertedComments_intercalate {parts : List (List Char)} (h : ∀ p ∈ parts, '#' ∉ p) :
    convertedComments (['#'].intercalate parts) = remarked parts := by
  fun_induction remarked parts with
  | case1 => exact convertedComments_eq_self List.not_mem_nil
  | case2 p =>
    have hp := h p List.mem_cons_self
    simpa [List.intercalate] using convertedComments_eq_self hp
  | case3 p q =>
    have hp := List.count_eq_zero.mpr (h p List.mem_cons_self)
    have hq := List.count_eq_zero.mpr (h q (by simp))
    have htext : ['#'].intercalate [p, q] = p ++ '#' :: q := by simp [List.intercalate_cons_cons]
    have hone : (p ++ '#' :: q).count '#' = 1 := by
      rw [List.count_append, List.count_cons_self, hp, hq]
    rw [htext]
    exact convertedComments_eq_self_iff.mpr (Nat.le_of_eq hone)
  | case4 p q r rest ih =>
    have hp := h p List.mem_cons_self
    have hq := h q (by simp)
    have htext : ['#'].intercalate (p :: q :: r :: rest) =
        p ++ (('#' :: (q ++ ['#'])) ++ ['#'].intercalate (r :: rest)) := by
      simp [List.intercalate_cons_cons]
    have hrest := ih fun x hx => h x (by simp [hx])
    rw [convertedComments] at hrest
    rw [htext, convertedComments, Recogniser.replace_append_of_skips (skips_comment hp _),
      Recogniser.replace_append_of_read (Directive.read_comment hq _), hrest]

/-- The remarks of a text converted: every second piece between its signs, of which there is one more than
signs, becomes a comment without the blanks at its ends, and every other one stays as it is. The number of
pairs is reported, a sign is left if their number was odd, and doing it once more changes and reports
nothing. -/
theorem convertComments_pieces (scope : Scope) (text : List Char) (t : Trace) :
    ['#'].intercalate (Text.splitOn '#' text) = text ∧
    (Text.splitOn '#' text).length = text.count '#' + 1 ∧
    (∀ p ∈ Text.splitOn '#' text, '#' ∉ p) ∧
    convertComments scope text t =
      ((scope, remarked (Text.splitOn '#' text)),
        { t with report :=
          { t.report with commentsConverted := t.report.commentsConverted + text.count '#' / 2 } }) ∧
    (remarked (Text.splitOn '#' text)).count '#' = text.count '#' % 2 ∧
    ∀ t', convertComments scope (remarked (Text.splitOn '#' text)) t' =
      ((scope, remarked (Text.splitOn '#' text)), t') := by
  have hparts := Text.notMem_of_mem_splitOn '#' text
  have hremarked : convertedComments text = remarked (Text.splitOn '#' text) := by
    rw [← convertedComments_intercalate hparts, Text.intercalate_splitOn]
  have hcount : (remarked (Text.splitOn '#' text)).count '#' = text.count '#' % 2 := by
    rw [← hremarked, count_convertedComments]
  refine ⟨Text.intercalate_splitOn '#' text, Text.length_splitOn '#' text, hparts, ?_, hcount,
    fun t' => ?_⟩
  · rw [← hremarked, ← countComments_eq]
    rfl
  · have hstill : convertedComments (remarked (Text.splitOn '#' text)) =
        remarked (Text.splitOn '#' text) := by
      rw [convertedComments_eq_self_iff, hcount]
      omega
    have hnone : countComments (remarked (Text.splitOn '#' text)) = 0 := by
      rw [countComments_eq, hcount]
      omega
    change ((scope, convertedComments _), { t' with report :=
      { t'.report with commentsConverted := t'.report.commentsConverted + countComments _ } }) = _
    rw [hstill, hnone]
    rfl

end Stencil.Template
