import Stencil.Proofs.Template.OpenMarks
import Stencil.Proofs.Template.Seams

/-! Stretches of a text replaced in place. A relation between the states before and behind a text, which can
be cut in front of and behind marked stretches and joined at seams, is kept by a stage that keeps it of
each stretch. That no directive of some kind is found in a text is such a relation, without states. -/
namespace Stencil.Template

open Target (Construct)
open Text (Recogniser isSpace)

/-! ### Ends of stretches -/

/-- Whether a text begins with a sign that opens a stretch and ends with one that closes it. -/
structure Delimited (x : List Char) : Prop where
  head : x.head? = some '<' ∨ x.head? = some '#'
  last : x.getLast? = some '>' ∨ x.getLast? = some '#'

/-- Whether no directive goes on into a text, and none goes on behind it. -/
structure Sealed (x : List Char) : Prop where
  head : ∃ c, x.head? = some c ∧ isInner c = false ∧ c ≠ '>'
  last : ∃ c, x.getLast? = some c ∧ isInner c = false ∧ c ≠ '<'

/-- Whether a text can be cut here: only blanks follow, or a stretch begins or ends. -/
def Cut (x y : List Char) : Prop :=
  y.all isSpace = true ∨ (y.head? = some '<' ∨ y.head? = some '#') ∨
    (x.getLast? = some '>' ∨ x.getLast? = some '#')

theorem Delimited.isSealed {x : List Char} (h : Delimited x) : Sealed x where
  head := by
    rcases h.head with h | h
    · exact ⟨'<', h, by decide⟩
    · exact ⟨'#', h, by decide⟩
  last := by
    rcases h.last with h | h
    · exact ⟨'>', h, by decide⟩
    · exact ⟨'#', h, by decide⟩

section

variable {x y z : List Char}

theorem head?_append_of_eq_some {c : Char} (h : x.head? = some c) (y : List Char) :
    (x ++ y).head? = some c := by
  simp [List.head?_append, h]

theorem getLast?_append_of_eq_some {c : Char} (x : List Char) (h : y.getLast? = some c) :
    (x ++ y).getLast? = some c := by
  simp [List.getLast?_append, h]

theorem Sealed.seam_before (h : Sealed y) (x z : List Char) : Seam x (y ++ z) := by
  obtain ⟨c, hc, hinner⟩ := h.head
  obtain ⟨t, ht⟩ := List.head?_eq_some_iff.mp (head?_append_of_eq_some hc z)
  exact .inr (.inl ⟨c, t, ht, hinner⟩)

theorem Sealed.seam_behind (h : Sealed y) (x z : List Char) : Seam (x ++ y) z := by
  obtain ⟨c, hc, hinner⟩ := h.last
  obtain ⟨t, ht⟩ := List.getLast?_eq_some_iff.mp (getLast?_append_of_eq_some x hc)
  exact .inr (.inr ⟨t, c, ht, hinner⟩)

theorem Delimited.cut_before (h : Delimited y) (x z : List Char) : Cut x (y ++ z) :=
  .inr (.inl (h.head.imp (fun h => head?_append_of_eq_some h z) fun h => head?_append_of_eq_some h z))

theorem Delimited.cut_behind (h : Delimited y) (z : List Char) : Cut y z := .inr (.inr h.last)

/-- Whether a text can be cut is told by what stands next to the cut. -/
theorem Cut.narrow (h : Cut x y) {a b : List Char} (hane : a ≠ []) (hbne : b ≠ []) (ha : a <:+ x)
    (hb : b <+: y) : Cut a b := by
  obtain ⟨u, rfl⟩ := ha
  obtain ⟨v, rfl⟩ := hb
  rw [Cut, List.getLast?_append_of_ne_nil u hane, List.head?_append_of_ne_nil b hbne] at h
  refine h.imp_left fun h => ?_
  rw [List.all_append, Bool.and_eq_true] at h
  exact h.1

/-- A text that can be cut has a seam there. -/
theorem Cut.seam (h : Cut x y) : Seam x y := by
  have hend {c : Char} (hc : isInner c = false ∧ c ≠ '<') (h : x.getLast? = some c) : Seam x y := by
    obtain ⟨t, ht⟩ := List.getLast?_eq_some_iff.mp h
    exact .inr (.inr ⟨t, c, ht, hc⟩)
  have hbegin {c : Char} (hc : isInner c = false ∧ c ≠ '>') (h : y.head? = some c) : Seam x y := by
    obtain ⟨t, ht⟩ := List.head?_eq_some_iff.mp h
    exact .inr (.inl ⟨c, t, ht, hc⟩)
  rcases h with h | (h | h) | (h | h)
  · exact .inl h
  · exact hbegin (by decide) h
  · exact hbegin (by decide) h
  · exact hend (by decide) h
  · exact hend (by decide) h

end

/-! ### Relations that go through a text -/

/-- Whether a relation between the states before and behind a text falls into those of its parts. -/
structure Splices {σ : Type} (K : σ → List Char → σ → Prop) : Prop where
  cut : ∀ {a b x y}, Cut x y → K a (x ++ y) b → ∃ m, K a x m ∧ K m y b
  join : ∀ {a m b x y}, Seam x y → K a x m → K m y b → K a (x ++ y) b

/-- Stretches replaced in place, each by a sealed text that goes between the same states. -/
theorem Splices.replace {σ α : Type} {K : σ → List Char → σ → Prop} (hK : Splices K)
    {p : Recogniser α} {f : α → List Char → List Char}
    (hsource : ∀ {source rest a}, p.read (source ++ rest) = some (a, rest) → Delimited source)
    (hsealed : ∀ {source rest a}, p.read (source ++ rest) = some (a, rest) → Sealed (f a source))
    (hput : ∀ {source rest a}, p.read (source ++ rest) = some (a, rest) →
      ∀ {u v}, K u source v → K u (f a source) v)
    {s : List Char} {u v : σ} (h : K u s v) : K u (p.replace f s) v := by
  revert u v
  refine Recogniser.replace_rec (P := fun s out => ∀ {u v}, K u s v → K u out v)
    (fun _ _ => id) (fun front source rest a _ hread ih u v h => ?_) s
  have hmine := hsource hread
  obtain ⟨m, hfront, h⟩ := hK.cut (hmine.cut_before front rest) h
  obtain ⟨n, hstretch, hrest⟩ := hK.cut (hmine.cut_behind rest) h
  have hnew := hsealed hread
  exact hK.join (hnew.seam_before front _) hfront
    (hK.join (hnew.seam_behind [] _) (hput hread hstretch) (ih hrest))

/-! ### Texts without directives of some kind -/

/-- Whether a test holds at no place of a text. -/
def Free (r : List Char → Bool) (text : List Char) : Prop := ∀ s, s <:+ text → r s = false

section

variable {r : List Char → Bool} {x y : List Char}

theorem Free.of_suffix (h : Free r x) (hy : y <:+ x) : Free r y := fun s hs => h s (hs.trans hy)

theorem Local.nil (hr : Local r) : r [] = false := hr.needsMark rfl

theorem Free.append (hr : Local r) (hseam : Seam x y) (hx : Free r x) (hy : Free r y) :
    Free r (x ++ y) := by
  rintro s ⟨t, ht⟩
  rcases List.append_eq_append_iff.mp ht with ⟨m, rfl, rfl⟩ | ⟨m, rfl, rfl⟩
  · by_cases hm : m = []
    · subst hm
      exact hy y List.suffix_rfl
    · have hsuffix : m <:+ t ++ m := List.suffix_append t m
      rw [hr.append hm (hseam.of_suffix hsuffix hm)]
      exact hx m hsuffix
  · exact hy s (List.suffix_append m s)

/-- The first of two texts with a seam between them. -/
theorem Free.of_append (hr : Local r) (hseam : Seam x y) (h : Free r (x ++ y)) : Free r x := by
  intro s hs
  by_cases hne : s = []
  · rw [hne, hr.nil]
  · rw [← hr.append hne (hseam.of_suffix hs hne)]
    obtain ⟨t, rfl⟩ := hs
    exact h _ ⟨t, by simp⟩

/-- That a test holds nowhere falls into parts. -/
theorem splices_free (hr : Local r) : Splices fun (_ : Unit) s (_ : Unit) => Free r s where
  cut hcut h := ⟨(), h.of_append hr hcut.seam, h.of_suffix (List.suffix_append _ _)⟩
  join hseam hx hy := hx.append hr hseam hy

/-- A text in which no opening mark stands, in front of another. -/
theorem Free.of_unmarked_append (hr : Local r) (hx : Unmarked x y) (hy : Free r y) :
    Free r (x ++ y) := by
  rintro s ⟨t, ht⟩
  rcases List.append_eq_append_iff.mp ht with ⟨m, rfl, rfl⟩ | ⟨m, rfl, rfl⟩
  · cases m with
    | nil => exact hy y List.suffix_rfl
    | cons c m => exact hr.needsMark (hx c t m rfl)
  · exact hy s (List.suffix_append m s)

theorem free_nil (hr : Local r) : Free r [] := by
  intro s hs
  rw [List.suffix_nil.mp hs, hr.nil]

theorem Free.of_unmarked (hr : Local r) (hx : Unmarked x []) : Free r x := by
  simpa using Free.of_unmarked_append hr hx (free_nil hr)

theorem Free.of_marks (hr : Local r) (h : marks true x = 0) : Free r x :=
  .of_unmarked hr (unmarked_of_marks h)

theorem Free.skipSpace (h : Free r x) : Free r (Text.skipSpace x) :=
  h.of_suffix (Text.skipSpace_suffix x)

end

/-! ### Blank ends -/

/-- What is cut off at the end of a text is blank. -/
theorem exists_trimEnd (s : List Char) :
    ∃ t, s = Text.trimEnd s ++ t ∧ t.all isSpace = true := by
  induction s with
  | nil => exact ⟨[], rfl, rfl⟩
  | cons c s ih =>
    obtain ⟨t, hs, ht⟩ := ih
    rw [Text.trimEnd]
    split
    · next hnil =>
      rw [hnil] at hs
      split
      · next hc =>
        refine ⟨c :: t, by rw [hs]; rfl, by simp [hc, ht]⟩
      · exact ⟨t, by rw [hs]; rfl, ht⟩
    · exact ⟨t, congrArg (c :: ·) hs, ht⟩

/-- A text and what is left of it without its blank end. -/
theorem Splices.trimEnd {σ : Type} {K : σ → List Char → σ → Prop} (hK : Splices K) {s : List Char}
    {u v : σ} (h : K u s v) : ∃ t m, t.all isSpace = true ∧ K u (Text.trimEnd s) m ∧ K m t v := by
  obtain ⟨t, hs, ht⟩ := exists_trimEnd s
  rw [hs] at h
  obtain ⟨m, hfront, hblank⟩ := hK.cut (.inl ht) h
  exact ⟨t, m, ht, hfront, hblank⟩

end Stencil.Template
