import Stencil.Text.Pieces

/-! A text is cut at its marked stretches one after the other. These lemmas say what comes first: a
stretch that the recogniser reads, or characters at which it reads nothing. -/
namespace Stencil.Text

/-- A character of another class than all of a text is not in it. -/
theorem notMem_of_all {s : List Char} {p : Char → Bool} {c : Char} (h : s.all p = true)
    (hc : p c = false) : c ∉ s := by
  intro hmem
  rw [List.all_eq_true.mp h c hmem] at hc
  cases hc

namespace Recogniser

variable {α : Type} {p : Recogniser α}

/-- A stretch that is read is a nonempty text before the rest. -/
theorem source_ne_nil {source rest : List Char} {a : α}
    (h : p.read (source ++ rest) = some (a, rest)) : source ≠ [] := by
  rintro rfl
  exact Nat.lt_irrefl _ (p.read_shorter h)

/-- A reading splits a text into the stretch and the rest. -/
theorem exists_source {s rest : List Char} {a : α} (h : p.read s = some (a, rest)) :
    ∃ source, s = source ++ rest :=
  (p.read_suffix h).imp fun _ => Eq.symm

/-- The stretch is what stands before the rest. -/
theorem take_source (source rest : List Char) :
    (source ++ rest).take ((source ++ rest).length - rest.length) = source := by
  rw [List.length_append, Nat.add_sub_cancel]
  exact List.take_left

theorem pieces_append_of_read {source rest : List Char} {a : α}
    (h : p.read (source ++ rest) = some (a, rest)) :
    p.pieces (source ++ rest) = .mark a source :: p.pieces rest := by
  cases source with
  | nil => exact absurd rfl (source_ne_nil h)
  | cons c source =>
    have hsource := take_source (c :: source) rest
    rw [List.cons_append] at h hsource ⊢
    rw [pieces_of_read h, hsource]

/-- The stretches of a text are read in it. -/
theorem exists_read_of_mem_pieces {s source : List Char} {a : α} (h : .mark a source ∈ p.pieces s) :
    ∃ rest, source ++ rest <:+ s ∧ p.read (source ++ rest) = some (a, rest) := by
  fun_induction pieces p s with
  | case1 => cases h
  | case2 c s b rest hread _ ih =>
    obtain ⟨front, hfront⟩ := exists_source hread
    rw [hfront, take_source] at h
    rcases List.mem_cons.mp h with he | h
    · cases he
      exact ⟨rest, hfront ▸ List.suffix_rfl, hfront ▸ hread⟩
    · exact (ih h).imp fun _ h => ⟨h.1.trans (p.read_suffix hread), h.2⟩
  | case3 c s hread ih =>
    rcases List.mem_cons.mp h with he | h
    · cases he
    · exact (ih h).imp fun _ h => ⟨h.1.trans (List.suffix_cons c s), h.2⟩

/-- Nothing is read at any character of `front`, which `s` follows. -/
def Skips (p : Recogniser α) (front s : List Char) : Prop :=
  ∀ c before after, front = before ++ c :: after → p.read (c :: after ++ s) = none

theorem skips_nil (s : List Char) : p.Skips [] s := by
  intro c before after h
  simp at h

theorem Skips.head {c : Char} {front s : List Char} (h : p.Skips (c :: front) s) :
    p.read (c :: (front ++ s)) = none := h c [] front rfl

theorem Skips.tail {c : Char} {front s : List Char} (h : p.Skips (c :: front) s) :
    p.Skips front s := by
  intro d before after he
  exact h d (c :: before) after (by rw [he]; rfl)

theorem skips_cons {c : Char} {front s : List Char} (hc : p.read (c :: (front ++ s)) = none)
    (h : p.Skips front s) : p.Skips (c :: front) s := by
  intro d before after he
  cases before with
  | nil =>
    obtain ⟨rfl, rfl⟩ := List.cons.inj he
    exact hc
  | cons b before => exact h d before after (List.cons.inj he).2

theorem skips_append {a b s : List Char} (ha : p.Skips a (b ++ s)) (hb : p.Skips b s) :
    p.Skips (a ++ b) s := by
  induction a with
  | nil => exact hb
  | cons c a ih =>
    have hc := ha.head
    rw [← List.append_assoc] at hc
    exact skips_cons hc (ih ha.tail)

theorem search_of_skips {s : List Char} (h : p.Skips s []) : p.search s = none := by
  induction s with
  | nil => rfl
  | cons c s ih =>
    have hc := h.head
    rw [List.append_nil] at hc
    rw [search, hc, ih h.tail]
    rfl

/-- What a search finds stands between what it leaves on both sides. -/
theorem search_eq_some {s lead rest : List Char} {a : α} (h : p.search s = some (lead, a, rest)) :
    ∃ source, s = lead ++ source ++ rest := by
  induction s generalizing lead with
  | nil => cases h
  | cons c s ih =>
    rw [search] at h
    split at h
    · next hread =>
      cases h
      exact exists_source hread
    · obtain ⟨⟨before, found⟩, hfound, he⟩ := Option.map_eq_some_iff.mp h
      cases he
      obtain ⟨source, rfl⟩ := ih hfound
      exact ⟨source, rfl⟩

theorem pieces_append_of_skips {front s : List Char} (h : p.Skips front s) :
    p.pieces (front ++ s) = front.map .char ++ p.pieces s := by
  induction front with
  | nil => rfl
  | cons c front ih =>
    rw [List.cons_append, pieces_of_read_none h.head, ih h.tail]
    rfl

theorem pieces_of_skips {s : List Char} (h : p.Skips s []) : p.pieces s = s.map .char := by
  have hpieces := pieces_append_of_skips h
  rwa [List.append_nil, pieces_nil, List.append_nil] at hpieces

/-- A text without a stretch, or with a first one. -/
theorem exists_first (p : Recogniser α) (s : List Char) :
    p.Skips s [] ∨ ∃ front source rest a, s = front ++ (source ++ rest) ∧
      p.Skips front (source ++ rest) ∧ p.read (source ++ rest) = some (a, rest) := by
  induction s with
  | nil => exact .inl (skips_nil [])
  | cons c s ih =>
    cases hread : p.read (c :: s) with
    | some found =>
      obtain ⟨source, hsource⟩ := exists_source hread
      rw [hsource] at hread
      exact .inr ⟨[], source, found.2, found.1, hsource, skips_nil _, hread⟩
    | none =>
      rcases ih with h | ⟨front, source, rest, a, rfl, hskips, h⟩
      · exact .inl (skips_cons (by rwa [List.append_nil]) h)
      · exact .inr ⟨c :: front, source, rest, a, rfl, skips_cons hread hskips, h⟩

/-- Whether no reading goes on into this text: in front of it the same is read as at the end. -/
def Stops (p : Recogniser α) (tail : List Char) : Prop :=
  ∀ s, p.read (s ++ tail) = (p.read s).map fun r => (r.1, r.2 ++ tail)

theorem pieces_append_of_stops {tail : List Char} (h : p.Stops tail) (s : List Char) :
    p.pieces (s ++ tail) = p.pieces s ++ p.pieces tail := by
  fun_induction pieces p s with
  | case1 => rfl
  | case2 c s a rest hread _ ih =>
    have htail := h (c :: s)
    obtain ⟨source, hsource⟩ := exists_source hread
    rw [hread, hsource, Option.map_some, List.append_assoc] at htail
    rw [hsource, List.append_assoc, pieces_append_of_read htail, ih, take_source]
    rfl
  | case3 c s hread ih =>
    have htail := h (c :: s)
    rw [hread, List.cons_append] at htail
    rw [List.cons_append, pieces_of_read_none htail, ih]
    rfl

end Recogniser

/-- The text that takes the place of a piece. -/
def Piece.put {α : Type} (f : α → List Char → List Char) : Piece α → List Char
  | .char c => [c]
  | .mark a source => f a source

theorem Piece.flatMap_put_char {α : Type} (f : α → List Char → List Char) (s : List Char) :
    (s.map fun c => (.char c : Piece α)).flatMap (Piece.put f) = s := by
  induction s with
  | nil => rfl
  | cons c s ih => simpa [Piece.put] using ih

namespace Recogniser

variable {α : Type} {p : Recogniser α} {f : α → List Char → List Char}

theorem replace_eq_flatMap (s : List Char) :
    p.replace f s = (p.pieces s).flatMap (Piece.put f) := rfl

@[simp] theorem replace_nil : p.replace f [] = [] := by simp [replace_eq_flatMap]

theorem replace_append_of_read {source rest : List Char} {a : α}
    (h : p.read (source ++ rest) = some (a, rest)) :
    p.replace f (source ++ rest) = f a source ++ p.replace f rest := by
  simp only [replace_eq_flatMap, pieces_append_of_read h, List.flatMap_cons, Piece.put]

theorem replace_cons_of_read_none {c : Char} {s : List Char} (h : p.read (c :: s) = none) :
    p.replace f (c :: s) = c :: p.replace f s := by
  simp only [replace_eq_flatMap, pieces_of_read_none h, List.flatMap_cons, Piece.put,
    List.singleton_append]

theorem replace_append_of_skips {front s : List Char} (h : p.Skips front s) :
    p.replace f (front ++ s) = front ++ p.replace f s := by
  simp only [replace_eq_flatMap, pieces_append_of_skips h, List.flatMap_append,
    Piece.flatMap_put_char]

theorem replace_of_skips {s : List Char} (h : p.Skips s []) : p.replace f s = s := by
  have := replace_append_of_skips (f := f) h
  rwa [List.append_nil, replace_nil, List.append_nil] at this

theorem replace_append_of_stops {tail : List Char} (h : p.Stops tail) (s : List Char) :
    p.replace f (s ++ tail) = p.replace f s ++ p.replace f tail := by
  simp only [replace_eq_flatMap, pieces_append_of_stops h, List.flatMap_append]

/-- What holds of each stretch and what replaces it holds of the whole text, if it goes through texts in a
row. -/
theorem replace_induction {R : List Char → List Char → Prop} (hchar : ∀ s, R s s)
    (happend : ∀ {a a' b b'}, R a a' → R b b' → R (a ++ b) (a' ++ b'))
    (hput : ∀ {source rest : List Char} {a : α}, p.read (source ++ rest) = some (a, rest) →
      R (f a source) source) (s : List Char) : R (p.replace f s) s := by
  fun_induction pieces p s with
  | case1 => simpa using hchar []
  | case2 c s a rest h _ ih =>
    obtain ⟨source, hsource⟩ := exists_source h
    rw [hsource] at h ⊢
    rw [replace_append_of_read h]
    exact happend (hput h) ih
  | case3 c s h ih =>
    rw [replace_cons_of_read_none h, ← List.singleton_append, ← List.singleton_append]
    exact happend (hchar [c]) ih

/-- What holds of a text without stretches, and of a text up to behind its first stretch if it holds of the
rest. -/
theorem replace_rec {P : List Char → List Char → Prop} (hstill : ∀ s, p.Skips s [] → P s s)
    (hstep : ∀ front source rest a, p.Skips front (source ++ rest) →
      p.read (source ++ rest) = some (a, rest) → P rest (p.replace f rest) →
      P (front ++ (source ++ rest)) (front ++ (f a source ++ p.replace f rest)))
    (s : List Char) : P s (p.replace f s) := by
  induction hn : s.length using Nat.strongRecOn generalizing s with
  | ind n ih =>
    rcases p.exists_first s with h | ⟨front, source, rest, a, rfl, hskips, h⟩
    · rw [replace_of_skips h]
      exact hstill s h
    · have hshorter : rest.length < n := by
        have := p.read_shorter h
        simp only [List.length_append] at this hn
        omega
      rw [replace_append_of_skips hskips, replace_append_of_read h]
      exact hstep front source rest a hskips h (ih rest.length hshorter rest rfl)

end Recogniser

end Stencil.Text
