import Stencil.Proofs.Template.Marks
import Stencil.Proofs.Template.TiledStretches

/-! Text in front of a quote. No part of a loop or a remark is a quote, so what is read in front of one is
read as if the text ended there. -/
namespace Stencil.Template

open Text (expect needSpace skipSpace takeWord Recogniser)

variable {u : List Char}

theorem skipSpace_quote (s : List Char) : skipSpace (s ++ '"' :: u) = skipSpace s ++ '"' :: u := by
  induction s with
  | nil => rfl
  | cons c s ih =>
    cases hc : Text.isSpace c with
    | true => rw [List.cons_append, Text.skipSpace_cons_of_space _ hc,
        Text.skipSpace_cons_of_space _ hc, ih]
    | false => rw [List.cons_append, Text.skipSpace_cons_of_not_space _ hc,
        Text.skipSpace_cons_of_not_space _ hc, List.cons_append]

theorem needSpace_quote (s : List Char) :
    needSpace (s ++ '"' :: u) = (needSpace s).map (· ++ '"' :: u) := by
  cases s with
  | nil => rfl
  | cons c s =>
    rw [List.cons_append, needSpace, needSpace]
    split
    · rw [skipSpace_quote]
      rfl
    · rfl

theorem expect_quote {lead : List Char} (h : '"' ∉ lead) (s : List Char) :
    expect lead (s ++ '"' :: u) = (expect lead s).map (· ++ '"' :: u) := by
  induction lead generalizing s with
  | nil => rfl
  | cons a lead ih =>
    rw [List.mem_cons, not_or] at h
    cases s with
    | nil => simp [expect, Ne.symm h.1]
    | cons c s =>
      rw [List.cons_append, expect, expect]
      split
      · exact ih h.2 s
      · rfl

theorem takeWord_quote (s : List Char) :
    takeWord (s ++ '"' :: u) = (takeWord s).map fun r => (r.1, r.2 ++ '"' :: u) := by
  have hquote : Unicode.isWord '"' = false := by decide
  have htake (s : List Char) :
      (s ++ '"' :: u).takeWhile Unicode.isWord = s.takeWhile Unicode.isWord := by
    induction s with
    | nil => simp [hquote]
    | cons c s ih => simp [List.takeWhile_cons, ih]
  have hdrop (s : List Char) :
      (s ++ '"' :: u).dropWhile Unicode.isWord = s.dropWhile Unicode.isWord ++ '"' :: u := by
    induction s with
    | nil => simp [hquote]
    | cons c s ih =>
      rw [List.cons_append, List.dropWhile_cons, List.dropWhile_cons]
      split
      · exact ih
      · rfl
  unfold takeWord
  rw [htake, hdrop]
  split <;> rfl

/-- Steps that go on in front of a quote as they would at the end. -/
theorem bind_quote {α β : Type} {x : Option (α × List Char)}
    {f g : α × List Char → Option (β × List Char)}
    (h : ∀ a s, f (a, s ++ '"' :: u) = (g (a, s)).map fun r => (r.1, r.2 ++ '"' :: u)) :
    (x.map fun r => (r.1, r.2 ++ '"' :: u)).bind f =
      (x.bind g).map fun r => (r.1, r.2 ++ '"' :: u) := by
  cases x with
  | none => rfl
  | some r => exact h r.1 r.2

theorem bind_text_quote {β : Type} {x : Option (List Char)}
    {f g : List Char → Option (β × List Char)}
    (h : ∀ s, f (s ++ '"' :: u) = (g s).map fun r => (r.1, r.2 ++ '"' :: u)) :
    (x.map (· ++ '"' :: u)).bind f = (x.bind g).map fun r => (r.1, r.2 ++ '"' :: u) := by
  cases x with
  | none => rfl
  | some s => exact h s

namespace Directive

theorem openMark_quote (s : List Char) :
    openMark (s ++ '"' :: u) = (openMark s).map (· ++ '"' :: u) := by
  unfold openMark
  rw [expect_quote (by decide)]
  cases expect ['<', ':'] s with
  | none => rfl
  | some r => simp [skipSpace_quote]

theorem openKeyword_quote {keyword : List Char} (h : '"' ∉ keyword) (s : List Char) :
    openKeyword keyword (s ++ '"' :: u) = (openKeyword keyword s).map (· ++ '"' :: u) := by
  unfold openKeyword
  rw [openMark_quote]
  cases openMark s with
  | none => rfl
  | some r => exact expect_quote h r

theorem closeMark_quote (s : List Char) :
    closeMark (s ++ '"' :: u) = (closeMark s).map (· ++ '"' :: u) := by
  unfold closeMark
  rw [skipSpace_quote, expect_quote (by decide)]

/-! ### Loops -/

theorem loopEnd_quote (s : List Char) :
    loopEnd (s ++ '"' :: u) = (loopEnd s).map (· ++ '"' :: u) := by
  unfold loopEnd
  rw [openKeyword_quote (by decide)]
  cases openKeyword "endfor".toList s with
  | none => rfl
  | some r => exact closeMark_quote r

theorem opensLoop_quote (s : List Char) : opensLoop (s ++ '"' :: u) = opensLoop s := by
  unfold opensLoop
  rw [openKeyword_quote (by decide)]
  cases openKeyword "for".toList s with
  | none => rfl
  | some r => simp [needSpace_quote]

theorem loopIndex_quote (s : List Char) :
    loopIndex (s ++ '"' :: u) = (loopIndex s).map fun r => (r.1, r.2 ++ '"' :: u) := by
  have hblank : (needSpace (s ++ '"' :: u)).map (fun r => ((none : Option String), r)) =
      ((needSpace s).map fun r => (none, r)).map fun r => (r.1, r.2 ++ '"' :: u) := by
    rw [needSpace_quote]
    simp [Function.comp_def]
  unfold loopIndex
  rw [skipSpace_quote]
  cases hs : skipSpace s with
  | nil => exact hblank
  | cons c r =>
    by_cases hc : c = ','
    · subst hc
      simp only [List.cons_append]
      rw [skipSpace_quote, takeWord_quote]
      refine bind_quote fun w t => ?_
      rw [needSpace_quote]
      refine bind_text_quote fun t => rfl
    · simp only [List.cons_append]
      split
      · next he => exact absurd (List.cons.inj he).1 hc
      split
      · next he => exact absurd (List.cons.inj he).1 hc
      · exact hblank

/-- No body ends where no opening mark stands. -/
theorem loopBody_of_notMem {s : List Char} (h : '<' ∉ s) : loopBody s = none := by
  induction s with
  | nil => rfl
  | cons c s ih =>
    rw [List.mem_cons, not_or] at h
    have hopen (keyword : List Char) : openKeyword keyword (c :: s) = none :=
      openKeyword_eq_none (openMark_eq_none_of_ne (Ne.symm h.1) s)
    have hend : loopEnd (c :: s) = none := by
      rw [loopEnd, hopen]
      rfl
    have hopens : opensLoop (c :: s) = false := by
      rw [opensLoop, hopen]
      rfl
    rw [loopBody, hend, hopens, ih h.2]
    rfl

theorem loopBody_quote (hu : '<' ∉ u) (s : List Char) :
    loopBody (s ++ '"' :: u) = (loopBody s).map fun r => (r.1, r.2 ++ '"' :: u) := by
  induction s with
  | nil => exact loopBody_of_notMem (by simpa using hu)
  | cons c s ih =>
    have hend := loopEnd_quote (u := u) (c :: s)
    have hopens := opensLoop_quote (u := u) (c :: s)
    rw [List.cons_append] at hend hopens ⊢
    rw [loopBody, loopBody, hend, hopens]
    cases loopEnd (c :: s) with
    | some rest => rfl
    | none =>
      simp only [Option.map_none]
      split
      · rfl
      · rw [ih]
        simp [Function.comp_def]

theorem loop_stops (hu : '<' ∉ u) : loop.Stops ('"' :: u) := by
  intro s
  change readLoop (s ++ '"' :: u) = (readLoop s).map _
  unfold readLoop
  simp only [Option.bind_eq_bind]
  rw [openKeyword_quote (by decide)]
  refine bind_text_quote fun s => ?_
  rw [needSpace_quote]
  refine bind_text_quote fun s => ?_
  rw [takeWord_quote]
  refine bind_quote fun item s => ?_
  dsimp only
  rw [loopIndex_quote]
  refine bind_quote fun index s => ?_
  dsimp only
  rw [expect_quote (by decide)]
  refine bind_text_quote fun s => ?_
  rw [needSpace_quote]
  refine bind_text_quote fun s => ?_
  rw [takeWord_quote]
  refine bind_quote fun collection s => ?_
  dsimp only
  rw [closeMark_quote]
  refine bind_text_quote fun s => ?_
  rw [loopBody_quote hu]
  exact bind_quote fun body s => rfl

/-! ### Remarks -/

theorem splitSign_quote (hu : '#' ∉ u) (s : List Char) :
    splitSign (s ++ '"' :: u) = (splitSign s).map fun r => (r.1, r.2 ++ '"' :: u) := by
  induction s with
  | nil =>
    have hnone : '#' ∉ '"' :: u := by simpa using hu
    cases h : splitSign ('"' :: u) with
    | none => exact h
    | some r =>
      rw [splitSign_eq_some h] at hnone
      simp at hnone
  | cons c s ih =>
    rw [List.cons_append, splitSign, splitSign]
    split
    · rfl
    · rw [ih]
      simp [Function.comp_def]

theorem comment_stops (hu : '#' ∉ u) : comment.Stops ('"' :: u) := by
  intro s
  change readComment (s ++ '"' :: u) = (readComment s).map _
  cases s with
  | nil => rfl
  | cons c s =>
    by_cases hc : c = '#'
    · subst hc
      simp only [List.cons_append, readComment]
      rw [splitSign_quote hu]
      simp [Function.comp_def]
    · simp [readComment, hc]

end Directive

end Stencil.Template
