import Stencil.Proofs.Template.Seams
import Stencil.Proofs.Template.Uses

/-! Uses of components as they are written in files: with blanks of any kind behind the opening mark, with
props in quotes, and an end of either form. Protection of the braces in it changes nothing about where a use
ends and which component it names. -/
namespace Stencil.Template

open Text (Recogniser needSpace skipSpace)

/-- A use as it is written: the blanks behind the opening mark, and what stands between the keyword and the
last sign. -/
structure WrittenUse where
  lead : List Char
  inner : List Char

/-- `<: component name props >`. -/
def WrittenUse.print (u : WrittenUse) : List Char :=
  '<' :: ':' :: (u.lead ++ ("component".toList ++ (u.inner ++ ['>'])))

/-- Whether a use ends where it is written to end and names a component, and no opening mark or number sign
stands in it. -/
structure WrittenUse.Means (u : WrittenUse) (use : Directive.ComponentUse) : Prop where
  blank : u.lead.all Text.isSpace = true
  ends : Directive.splitEnd none (u.inner ++ ['>']) = some (u.inner, [])
  head : Directive.readHead u.inner = some use
  unmarked : ¬ ['<', ':'] <:+: u.inner
  noSign : '#' ∉ u.inner

/-- A use as it is read in a protected text. -/
def Directive.ComponentUse.protected (use : Directive.ComponentUse) : Directive.ComponentUse :=
  { use with props := protect use.props }

/-! ### Readers and protected texts -/

theorem skipSpace_protect (s : List Char) : skipSpace (protect s) = protect (skipSpace s) := by
  induction s with
  | nil => rfl
  | cons c s ih =>
    by_cases hc : c = '{'
    · subst hc
      rw [Text.skipSpace_cons_of_not_space s (by decide), protect_cons_brace]
      exact Text.skipSpace_cons_of_not_space _ (by decide)
    · rw [protect_cons s hc]
      by_cases hspace : Text.isSpace c = true
      · rw [Text.skipSpace_cons_of_space _ hspace, Text.skipSpace_cons_of_space _ hspace, ih]
      · have hspace := Bool.eq_false_iff.mpr hspace
        rw [Text.skipSpace_cons_of_not_space _ hspace, Text.skipSpace_cons_of_not_space _ hspace,
          protect_cons s hc]

theorem needSpace_protect (s : List Char) :
    needSpace (protect s) = (needSpace s).map protect := by
  cases s with
  | nil => rfl
  | cons c s =>
    by_cases hc : c = '{'
    · subst hc
      rw [protect_cons_brace]
      rfl
    · rw [protect_cons s hc, needSpace, needSpace, skipSpace_protect]
      split <;> rfl

theorem protect_cons_ne_nil (c : Char) (s : List Char) : protect (c :: s) ≠ [] := by
  by_cases hc : c = '{'
  · rw [hc, protect_cons_brace]
    exact List.cons_ne_nil _ _
  · rw [protect_cons s hc]
    exact List.cons_ne_nil _ _

namespace Directive

theorem takeName_protect (s : List Char) :
    takeName (protect s) = (takeName s).map fun r => (r.1, protect r.2) := by
  have hsplit : (protect s).takeWhile isNameChar = s.takeWhile isNameChar ∧
      (protect s).dropWhile isNameChar = protect (s.dropWhile isNameChar) := by
    induction s with
    | nil => exact ⟨rfl, rfl⟩
    | cons c s ih =>
      by_cases hc : c = '{'
      · subst hc
        rw [List.takeWhile_cons_of_neg (by decide), List.dropWhile_cons_of_neg (by decide),
          protect_cons_brace]
        exact ⟨rfl, rfl⟩
      · rw [protect_cons s hc, List.takeWhile_cons, List.takeWhile_cons, List.dropWhile_cons,
          List.dropWhile_cons, ih.1, ih.2]
        split
        · exact ⟨rfl, rfl⟩
        · exact ⟨rfl, (protect_cons s hc).symm⟩
  unfold takeName
  rw [hsplit.1, hsplit.2]
  split <;> rfl

theorem dropColon_protect (s : List Char) : dropColon (protect s) = protect (dropColon s) := by
  rcases List.eq_nil_or_concat s with rfl | ⟨front, c, rfl⟩
  · rfl
  rw [List.concat_eq_append, protect_append]
  by_cases hcolon : c = ':'
  · subst hcolon
    have hdrop (x : List Char) : dropColon (x ++ [':']) = x := by simp [dropColon]
    have hlast : protect [':'] = [':'] := by decide
    rw [hlast, hdrop, hdrop]
  · have hdrop {x y : List Char} (hy : y.getLast? ≠ some ':') (hne : y ≠ []) :
        dropColon (x ++ y) = x ++ y := by
      have hlast : (x ++ y).getLast? = y.getLast? := List.getLast?_append_of_ne_nil x hne
      rw [dropColon, hlast, if_neg hy]
    have hprotected : (protect [c]).getLast? ≠ some ':' := by
      by_cases hc : c = '{'
      · subst hc
        decide
      · rw [protect_cons [] hc]
        simpa using hcolon
    rw [hdrop hprotected (protect_cons_ne_nil c []), hdrop (by simpa using hcolon) (List.cons_ne_nil c []),
      protect_append]

/-- The name of a component holds no brace, and its props are those of the use, protected. -/
theorem readHead_protect (inner : List Char) :
    readHead (protect inner) = (readHead inner).map ComponentUse.protected := by
  simp only [readHead, Option.bind_eq_bind, dropColon_protect, needSpace_protect]
  cases needSpace (dropColon inner) with
  | none => rfl
  | some s =>
    simp only [Option.map_some, Option.bind_some, takeName_protect]
    cases takeName s with
    | none => rfl
    | some found =>
      obtain ⟨name, rest⟩ := found
      simp only [Option.map_some, Option.bind_some]
      cases rest with
      | nil => rfl
      | cons c rest =>
        have hne : protect (c :: rest) ≠ [] := protect_cons_ne_nil c rest
        have hspace := needSpace_protect (c :: rest)
        generalize protect (c :: rest) = s at hne hspace ⊢
        cases s with
        | nil => exact absurd rfl hne
        | cons d more =>
          dsimp only
          rw [hspace]
          cases needSpace (c :: rest) <;> rfl

/-- The token for a brace neither ends a use nor touches a quote. -/
theorem splitEnd_braceToken {quote : Option Char} (hquote : ∀ q ∈ quote, isQuote q = true)
    (s : List Char) :
    splitEnd quote (braceToken ++ s) = (splitEnd quote s).map fun r => (braceToken ++ r.1, r.2) := by
  cases quote with
  | none => exact splitEnd_append (by simp [braceToken, isQuote]) s
  | some q =>
    have hq : q = '"' ∨ q = '\'' := by simpa [isQuote] using hquote q rfl
    rcases hq with rfl | rfl <;> simp [splitEnd, braceToken, quoteAfter, Function.comp_def]

theorem splitEnd_protect {quote : Option Char} (hquote : ∀ q ∈ quote, isQuote q = true)
    (s : List Char) :
    splitEnd quote (protect s) = (splitEnd quote s).map fun r => (protect r.1, protect r.2) := by
  induction s generalizing quote with
  | nil => rfl
  | cons c s ih =>
    by_cases hc : c = '{'
    · subst hc
      have hsame : quoteAfter quote '{' = quote := by
        cases quote with
        | none => rfl
        | some q =>
          have hq : '{' ≠ q := by
            rintro rfl
            exact absurd (hquote '{' rfl) (by decide)
          simp [quoteAfter, hq]
      rw [protect_cons_brace, splitEnd_braceToken hquote, ih hquote, splitEnd, hsame,
        if_neg (fun hend => absurd hend.2 (by decide))]
      simp [Function.comp_def]
    · rw [protect_cons s hc, splitEnd, splitEnd, ih (isQuote_quoteAfter hquote c)]
      split
      · rfl
      · simp [Function.comp_def, protect_cons _ hc]

/-- Where a use ends does not depend on what follows it. -/
theorem splitEnd_append_right {quote : Option Char} {s inner rest : List Char}
    (h : splitEnd quote s = some (inner, rest)) (more : List Char) :
    splitEnd quote (s ++ more) = some (inner, rest ++ more) := by
  induction s generalizing quote inner with
  | nil => cases h
  | cons c s ih =>
    rw [splitEnd] at h
    rw [List.cons_append, splitEnd]
    split at h
    · next hend =>
      cases h
      rw [if_pos hend]
    · next hend =>
      obtain ⟨r, hr, he⟩ := Option.map_eq_some_iff.mp h
      cases he
      rw [if_neg hend, ih hr]
      rfl

end Directive

/-! ### Written uses -/

theorem openMark_keyword {b s : List Char} (hb : b.all Text.isSpace = true) :
    Directive.openMark ('<' :: ':' :: (b ++ ("component".toList ++ s))) =
      some ("component".toList ++ s) := by
  change some (skipSpace (b ++ ("component".toList ++ s))) = _
  rw [Text.skipSpace_append hb]
  exact congrArg some (Text.skipSpace_cons_of_not_space _ (by decide))

namespace WrittenUse.Means

variable {u : WrittenUse} {use : Directive.ComponentUse}

theorem protect_print (h : u.Means use) :
    protect u.print =
      '<' :: ':' :: (u.lead ++ ("component".toList ++ (protect u.inner ++ ['>']))) := by
  have hlead : '{' ∉ u.lead := Text.notMem_of_all h.blank (by decide)
  have hfront : protect ('<' :: ':' :: (u.lead ++ "component".toList)) =
      '<' :: ':' :: (u.lead ++ "component".toList) := by
    refine protect_eq_self ?_
    simp only [List.mem_cons, List.mem_append, hlead]
    decide
  have hsplit : u.print = '<' :: ':' :: (u.lead ++ "component".toList) ++ (u.inner ++ ['>']) := by
    simp [print]
  rw [hsplit, protect_append, hfront, protect_append]
  simp [protect]

/-- What stands behind the keyword begins with a blank. -/
theorem exists_inner (h : u.Means use) : ∃ c s, u.inner = c :: s ∧ Text.isSpace c = true := by
  have hhead := h.head
  cases hinner : u.inner with
  | nil =>
    rw [hinner] at hhead
    cases hhead
  | cons c s =>
    refine ⟨c, s, rfl, ?_⟩
    rw [hinner, Directive.readHead, Option.bind_eq_bind] at hhead
    obtain ⟨rest, hspace, -⟩ := Option.bind_eq_some_iff.mp hhead
    unfold Directive.dropColon at hspace
    split at hspace
    · cases s with
      | nil => cases hspace
      | cons d s =>
        rw [List.dropLast_cons_cons, needSpace] at hspace
        split at hspace
        · assumption
        · cases hspace
    · rw [needSpace] at hspace
      split at hspace
      · assumption
      · cases hspace

theorem componentOpener (h : u.Means use) (s : List Char) :
    Directive.componentOpener (protect u.print ++ s) = some (protect u.inner ++ '>' :: s) := by
  obtain ⟨c, inner, hinner, hspace⟩ := h.exists_inner
  have hbrace : c ≠ '{' := by
    rintro rfl
    exact absurd hspace (by decide)
  have htext : protect u.print ++ s =
      '<' :: ':' :: (u.lead ++ ("component".toList ++ (protect u.inner ++ '>' :: s))) := by
    rw [h.protect_print]
    simp
  rw [htext, Directive.componentOpener, Directive.openKeyword, openMark_keyword h.blank,
    Option.bind_some, Text.expect_append, hinner, protect_cons inner hbrace]
  simp [Text.isWord_of_isSpace hspace]

/-- A use is read in a protected text up to its own end, whatever follows it. -/
theorem read (h : u.Means use) (s : List Char) :
    Directive.component.read (protect u.print ++ s) = some (some use.protected, s) := by
  have hend : Directive.splitEnd none (protect u.inner ++ '>' :: s) = some (protect u.inner, s) := by
    have hclosed : ∀ q ∈ (none : Option Char), Directive.isQuote q = true := by simp
    have hprotected := Directive.splitEnd_protect hclosed (u.inner ++ ['>'])
    rw [h.ends, protect_append] at hprotected
    simpa [protect] using Directive.splitEnd_append_right hprotected s
  change Directive.readComponent (protect u.print ++ s) = _
  rw [Directive.readComponent, h.componentOpener]
  dsimp only
  rw [hend]
  dsimp only
  rw [Directive.readHead_protect, h.head]
  rfl

/-- No opening mark stands behind the first sign of a use. -/
theorem unmarked_tail (h : u.Means use) (s : List Char) :
    Unmarked (':' :: (u.lead ++ ("component".toList ++ (protect u.inner ++ ['>'])))) s := by
  have hlead : '<' ∉ u.lead := Text.notMem_of_all h.blank (by decide)
  have hfront : '<' ∉ ':' :: (u.lead ++ "component".toList) := by
    simp only [List.mem_cons, List.mem_append, hlead]
    decide
  have hinner : Unmarked (protect u.inner ++ ['>']) s :=
    (Unmarked.protect h.unmarked (by simp)).append (.of_notMem (by decide) s)
  simpa using (Unmarked.of_notMem hfront _).append hinner

/-- Directives of other keywords are not read in a use. -/
theorem skips (h : u.Means use) {α : Type} {p : Recogniser α} (hp : NeedsMark p)
    (hread : ∀ b s, b.all Text.isSpace = true →
      p.read ('<' :: ':' :: (b ++ ("component".toList ++ s))) = none) (s : List Char) :
    p.Skips (protect u.print) s := by
  rw [h.protect_print]
  refine Recogniser.skips_cons ?_ ((h.unmarked_tail s).skips hp)
  have hnone := hread u.lead (protect u.inner ++ '>' :: s) h.blank
  simpa using hnone

theorem sign_notMem (h : u.Means use) : '#' ∉ protect u.print := by
  have hlead : '#' ∉ u.lead := Text.notMem_of_all h.blank (by decide)
  rw [← List.count_eq_zero, count_protect (by decide), List.count_eq_zero, print]
  simp only [List.mem_cons, List.mem_append, hlead, h.noSign]
  decide

end WrittenUse.Means

theorem readLoop_keyword (b s : List Char) (hb : b.all Text.isSpace = true) :
    Directive.loop.read ('<' :: ':' :: (b ++ ("component".toList ++ s))) = none := by
  change Directive.readLoop _ = none
  rw [Directive.readLoop, Directive.openKeyword, openMark_keyword hb]
  rfl

theorem readLayout_keyword (b s : List Char) (hb : b.all Text.isSpace = true) :
    Directive.layout.read ('<' :: ':' :: (b ++ ("component".toList ++ s))) = none := by
  change Directive.readLayout _ = none
  rw [Directive.readLayout, Directive.openKeyword, openMark_keyword hb]
  rfl

end Stencil.Template
