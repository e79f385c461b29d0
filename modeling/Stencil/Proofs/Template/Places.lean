import Mathlib.Data.List.Basic
import Stencil.Proofs.Template.StageSplices
import Stencil.Proofs.Template.Tallies

/-! The places of any text at which a test holds. What a test looks for begins with a sign that opens a
directive or a tag, and holds no second such sign, nor one that closes before its end; so it reaches across
no end of a directive or a tag, and a stretch that makes way for another changes the count by what the
two stretches count. -/
namespace Stencil.Template

open Target (Construct occurrences)
open Text (Piece Recogniser isSpace)

/-- At how many places of a text a test holds. -/
def places (r : List Char → Bool) : List Char → Nat
  | [] => 0
  | c :: s => (if r (c :: s) then 1 else 0) + places r s

def isOpening (c : Char) : Bool := c == '<' || c == '\x7b'

def isClosing (c : Char) : Bool := c == '>' || c == '\x7d'

/-- Whether one of two texts ends where a directive or a tag does, or the other begins where one does. -/
def Wall (x y : List Char) : Prop :=
  (∃ c, y.head? = some c ∧ isOpening c = true) ∨ ∃ c, x.getLast? = some c ∧ isClosing c = true

/-- Whether a test at the front of a text is not concerned by what stands behind a wall. -/
def Walled (r : List Char → Bool) : Prop :=
  ∀ {x y : List Char}, x ≠ [] → Wall x y → r (x ++ y) = r x

/-- Whether a text can stand between two signs: no sign opens in it but at its front, and none closes but at
its end. -/
structure IsWord (w : List Char) : Prop where
  ne_nil : w ≠ []
  unopened : ∀ c ∈ w.tail, isOpening c = false
  unclosed : ∀ c ∈ w.dropLast, isClosing c = false

/-- A word with no such signs between its ends. -/
theorem isWord_of_inner {a z : Char} {m : List Char} (ha : isClosing a = false) (hz : isOpening z = false)
    (hm : ∀ c ∈ m, isOpening c = false ∧ isClosing c = false) : IsWord (a :: (m ++ [z])) where
  ne_nil := List.cons_ne_nil a _
  unopened c hc := by
    rcases List.mem_append.mp hc with hc | hc
    · exact (hm c hc).1
    · rwa [List.mem_singleton.mp hc]
  unclosed c hc := by
    have hfront : (a :: (m ++ [z])).dropLast = a :: m := by
      rw [← List.cons_append, List.dropLast_concat]
    rw [hfront] at hc
    rcases List.mem_cons.mp hc with rfl | hc
    · exact ha
    · exact (hm c hc).2

/-- What no sign is in a class of is no sign. -/
theorem isOpening_isClosing_of {p : Char → Bool} (hp : ['<', '>', '\x7b', '\x7d'].any p = false)
    {c : Char} (hc : p c = true) : isOpening c = false ∧ isClosing c = false := by
  have hne : ∀ d ∈ ['<', '>', '\x7b', '\x7d'], c ≠ d := by
    rintro d hd rfl
    rw [List.any_eq_true.mpr ⟨c, hd, hc⟩] at hp
    cases hp
  simp only [List.mem_cons, List.not_mem_nil, or_false, forall_eq_or_imp, forall_eq] at hne
  simp [isOpening, isClosing, hne]

theorem isOpening_isClosing_of_all {w : List Char} (hw : (w.all fun c => !isOpening c && !isClosing c) = true)
    (c : Char) (hc : c ∈ w) : isOpening c = false ∧ isClosing c = false := by
  simpa using List.all_eq_true.mp hw c hc

/-- A test for one of some words. -/
theorem walled_of_words {r : List Char → Bool} {W : List Char → Prop}
    (hr : ∀ s, r s = true ↔ ∃ w rest, s = w ++ rest ∧ W w) (hW : ∀ w, W w → IsWord w) : Walled r := by
  intro x y hne hwall
  rw [Bool.eq_iff_iff, hr, hr]
  constructor
  · rintro ⟨w, rest, hs, hw⟩
    have hword := hW w hw
    rcases List.append_eq_append_iff.mp hs with ⟨m, rfl, rfl⟩ | ⟨m, rfl, rfl⟩
    · by_cases hm : m = []
      · exact ⟨x, [], by simp, by rwa [hm, List.append_nil] at hw⟩
      exfalso
      rcases hwall with ⟨c, hc, hopen⟩ | ⟨c, hc, hclose⟩
      · -- the front of the second text is in the word, and not at its front
        have hmem : c ∈ m := by
          rw [List.head?_append_of_ne_nil m hm] at hc
          exact List.mem_of_head? hc
        rw [hword.unopened c (by rw [List.tail_append_of_ne_nil hne]; simp [hmem])] at hopen
        cases hopen
      · have hmem : c ∈ x := List.mem_of_getLast? hc
        rw [hword.unclosed c (by rw [List.dropLast_append_of_ne_nil hm]; simp [hmem])] at hclose
        cases hclose
    · exact ⟨w, m, rfl, hw⟩
  · rintro ⟨w, rest, rfl, hw⟩
    exact ⟨w, rest ++ y, by simp, hw⟩

section

variable {r : List Char → Bool} {x y : List Char}

theorem Wall.of_suffix (h : Wall x y) {s : List Char} (hs : s <:+ x) (hne : s ≠ []) : Wall s y := by
  refine h.imp_right fun ⟨c, hc, hclose⟩ => ⟨c, ?_, hclose⟩
  obtain ⟨front, rfl⟩ := hs
  rwa [List.getLast?_append_of_ne_nil front hne] at hc

theorem places_append (hr : Walled r) (h : Wall x y) : places r (x ++ y) = places r x + places r y := by
  induction x with
  | nil => simp [places]
  | cons c x ih =>
    have hfront : r (c :: (x ++ y)) = r (c :: x) := hr (x := c :: x) (List.cons_ne_nil c x) h
    have hrest : places r (x ++ y) = places r x + places r y := by
      by_cases hx : x = []
      · simp [hx, places]
      · exact ih (h.of_suffix (List.suffix_cons c x) hx)
    rw [List.cons_append, places, places, hfront, hrest, Nat.add_assoc]

theorem places_eq_zero (h : ∀ s, s <:+ x → s ≠ [] → r s = false) : places r x = 0 := by
  induction x with
  | nil => rfl
  | cons c x ih =>
    rw [places, h (c :: x) List.suffix_rfl (List.cons_ne_nil c x),
      ih fun s hs => h s (hs.trans (List.suffix_cons c x))]
    rfl

/-- A test for what begins with one character holds at none of a text without it. -/
theorem places_of_notMem {c : Char} (hr : ∀ s, r s = true → s.head? = some c) (h : c ∉ x) :
    places r x = 0 := by
  refine places_eq_zero fun s hs _ => Bool.eq_false_iff.mpr fun hs' => h ?_
  exact hs.mem (List.mem_of_head? (hr s hs'))

theorem places_le_length (r : List Char → Bool) (x : List Char) : places r x ≤ x.length := by
  induction x with
  | nil => exact Nat.le_refl 0
  | cons c x ih =>
    rw [places, List.length_cons]
    split <;> omega

/-- The places at which a text stands in another one. -/
theorem occurrences_eq_places (p s : List Char) : occurrences p s = places p.isPrefixOf s := by
  induction s with
  | nil => rfl
  | cons c s ih => rw [occurrences, places, ih]

theorem walled_isPrefixOf {p : List Char} (hp : IsWord p) : Walled p.isPrefixOf := by
  refine walled_of_words (W := (· = p)) (fun s => ?_) fun w hw => hw ▸ hp
  rw [List.isPrefixOf_iff_prefix]
  exact ⟨fun ⟨rest, h⟩ => ⟨p, rest, h.symm, rfl⟩, fun ⟨_, rest, h, hw⟩ => ⟨rest, by rw [h, hw]⟩⟩

end

/-! ### Stretches between walls -/

/-- Whether a text begins and ends where a directive or a tag does. -/
structure IsStretch (x : List Char) : Prop where
  head : ∃ c, x.head? = some c ∧ isOpening c = true
  last : ∃ c, x.getLast? = some c ∧ isClosing c = true

namespace IsStretch

variable {x : List Char}

theorem wall_before (h : IsStretch x) (front rest : List Char) : Wall front (x ++ rest) := by
  obtain ⟨c, hc, hopen⟩ := h.head
  exact .inl ⟨c, head?_append_of_eq_some hc rest, hopen⟩

theorem wall_behind (h : IsStretch x) (rest : List Char) : Wall x rest := .inr h.last

/-- A text from the front of one stretch to the end of another. -/
theorem append (h : IsStretch x) {y z : List Char} (hz : IsStretch z) : IsStretch (x ++ (y ++ z)) := by
  obtain ⟨c, hc, hopen⟩ := h.head
  obtain ⟨d, hd, hclose⟩ := hz.last
  exact ⟨⟨c, head?_append_of_eq_some hc _, hopen⟩,
    ⟨d, getLast?_append_of_eq_some x (getLast?_append_of_eq_some y hd), hclose⟩⟩

theorem places_within (hx : IsStretch x) {z : List Char} (hz : IsStretch z) {r : List Char → Bool}
    (hr : Walled r) (y : List Char) :
    places r (x ++ (y ++ z)) = places r x + (places r y + places r z) := by
  have hwall : Wall y z := by simpa using hz.wall_before y []
  rw [places_append hr (hx.wall_behind _), places_append hr hwall]

theorem places_around (h : IsStretch x) {r : List Char → Bool} (hr : Walled r) (front rest : List Char) :
    places r (front ++ (x ++ rest)) = places r front + (places r x + places r rest) := by
  rw [places_append hr (h.wall_before front rest), places_append hr (h.wall_behind rest)]

end IsStretch

theorem IsMark.isStretch {x : List Char} (h : IsMark x) : IsStretch x := by
  obtain ⟨m, rfl, -⟩ := h
  exact ⟨⟨'<', rfl, rfl⟩, ⟨'>', by simp [List.getLast?_cons], rfl⟩⟩

theorem isStretch_tag (k : Construct) : IsStretch k.text := by
  obtain ⟨t, ht⟩ := k.exists_text_eq
  exact ⟨⟨'\x7b', by rw [ht]; rfl, rfl⟩, ⟨'\x7d', k.getLast?_text, rfl⟩⟩

/-- Stretches replaced by others: what they lose and gain all together is what the text does. -/
theorem places_replace {α : Type} {p : Recogniser α} {f : α → List Char → List Char}
    {r : List Char → Bool} (lost won : α → Nat) (hr : Walled r)
    (hsource : ∀ {source rest a}, p.read (source ++ rest) = some (a, rest) →
      IsStretch source ∧ IsStretch (f a source) ∧
        places r (f a source) + lost a = places r source + won a) (s : List Char) :
    places r (p.replace f s) + gains lost (p.pieces s) = places r s + gains won (p.pieces s) := by
  refine Recogniser.replace_rec (P := fun s out =>
    places r out + gains lost (p.pieces s) = places r s + gains won (p.pieces s))
    (fun s hs => ?_) (fun front source rest a hfront hread ih => ?_) s
  · rw [Recogniser.pieces_of_skips hs, gains_chars, gains_chars]
  · obtain ⟨hstretch, hput, hplaces⟩ := hsource hread
    rw [Recogniser.pieces_append_of_skips hfront, Recogniser.pieces_append_of_read hread, gains_append,
      gains_append, gains_chars, gains_chars, gains, gains, hput.places_around hr,
      hstretch.places_around hr]
    omega

end Stencil.Template
