import Stencil.Proofs.Template.Marks
import Stencil.Proofs.Template.Remarks
import Stencil.Proofs.Template.TiledSource

/-! The opening marks that a text holds, and those that it may come to hold. An angle counts if a colon
follows it, or if nothing follows it yet but further such angles: what is put behind it can complete the
mark. No stage of a pass makes more of them, and what takes the place of a directive makes fewer. A brace in the
place of its token changes none of them. -/
namespace Stencil.Template

open Target (Construct)
open Text (Recogniser)

/-- Whether an angle in front of this text begins an opening mark or may come to begin one. `next` tells it
of what follows the text. -/
def opens (next : Bool) : List Char → Bool
  | [] => next
  | c :: s => if c = '<' then opens next s else c == ':'

/-- How many angles of a text begin an opening mark or may come to begin one. `next` tells whether an angle
in front of what follows the text does. -/
def marks (next : Bool) : List Char → Nat
  | [] => 0
  | c :: s => (if c = '<' ∧ opens next s = true then 1 else 0) + marks next s

section

variable {next next' : Bool}

theorem opens_append (next : Bool) (a b : List Char) :
    opens next (a ++ b) = opens (opens next b) a := by
  induction a with
  | nil => rfl
  | cons c a ih => simp [opens, ih]

theorem marks_append (next : Bool) (a b : List Char) :
    marks next (a ++ b) = marks (opens next b) a + marks next b := by
  induction a with
  | nil => simp [marks]
  | cons c a ih => simp [marks, opens_append, ih, Nat.add_assoc]

theorem opens_mono (h : next ≤ next') (s : List Char) : opens next s ≤ opens next' s := by
  induction s with
  | nil => exact h
  | cons c s ih =>
    rw [opens, opens]
    split
    · exact ih
    · exact Bool.le_refl _

theorem marks_mono (h : next ≤ next') (s : List Char) : marks next s ≤ marks next' s := by
  induction s with
  | nil => exact Nat.le_refl _
  | cons c s ih =>
    have hopens := opens_mono h s
    refine Nat.add_le_add ?_ ih
    by_cases hc : c = '<' ∧ opens next s = true
    · exact Nat.le_of_eq (by rw [if_pos hc, if_pos ⟨hc.1, hopens hc.2⟩])
    · rw [if_neg hc]
      exact Nat.zero_le _

theorem marks_of_notMem {s : List Char} (h : '<' ∉ s) : marks next s = 0 := by
  induction s with
  | nil => rfl
  | cons c s ih =>
    rw [List.mem_cons, not_or] at h
    simp [marks, Ne.symm h.1, ih h.2]

theorem marks_le_count (next : Bool) (s : List Char) : marks next s ≤ s.count '<' := by
  induction s with
  | nil => exact Nat.le_refl _
  | cons c s ih =>
    rw [marks, List.count_cons]
    split
    · next hc => simp only [hc.1, beq_self_eq_true, if_true]; omega
    · omega

theorem marks_opener (next : Bool) (s : List Char) :
    marks next ('<' :: ':' :: s) = 1 + marks next s := by
  simp [marks, opens]

/-- Nothing comes of an angle in front of a text without marks, unless a colon begins it. -/
theorem opens_eq_false {s : List Char} (hmark : ¬ ['<', ':'] <:+: '<' :: s)
    (hend : ('<' :: s).getLast? ≠ some '<') : opens next s = false := by
  induction s with
  | nil => exact absurd rfl hend
  | cons c s ih =>
    rw [opens]
    split
    · next hc =>
      subst hc
      refine ih (fun h => hmark (h.trans (List.suffix_cons _ _).isInfix)) ?_
      rwa [List.getLast?_cons_cons] at hend
    · rw [beq_eq_false_iff_ne]
      rintro rfl
      exact hmark ⟨[], s, rfl⟩

/-- A text without opening marks that ends in no angle. -/
theorem marks_eq_zero {s : List Char} (hmark : ¬ ['<', ':'] <:+: s)
    (hend : s.getLast? ≠ some '<') : marks next s = 0 := by
  induction s with
  | nil => rfl
  | cons c s ih =>
    have hrest : marks next s = 0 := by
      refine ih (fun h => hmark (h.trans (List.suffix_cons c s).isInfix)) ?_
      cases s with
      | nil => nofun
      | cons d s => rwa [List.getLast?_cons_cons] at hend
    rw [marks, hrest]
    by_cases hc : c = '<'
    · subst hc
      simp [opens_eq_false hmark hend]
    · simp [hc]

/-- A text that holds no opening marks. -/
theorem unmarked_of_marks {s : List Char} (h : marks true s = 0) : Unmarked s [] := by
  rintro c before after rfl
  rw [List.append_nil]
  cases hopen : Directive.openMark (c :: after) with
  | none => rfl
  | some r =>
    obtain ⟨t, ht, -⟩ := Option.map_eq_some_iff.mp hopen
    have hmark : c :: after = '<' :: ':' :: t := Text.expect_eq_some ht
    rw [marks_append, hmark, marks_opener] at h
    omega

/-! ### Protection and blank ends -/

theorem opens_marks_protect (next : Bool) (s : List Char) :
    opens next (protect s) = opens next s ∧ marks next (protect s) = marks next s := by
  induction s with
  | nil => exact ⟨rfl, rfl⟩
  | cons c s ih =>
    by_cases hc : c = '{'
    · subst hc
      rw [protect_cons_brace]
      simp [opens, marks, braceToken, ih.2]
    · rw [protect_cons s hc]
      simp [opens, marks, ih.1, ih.2]

/-- Protection puts no opening mark into a text. -/
theorem marks_protect (next : Bool) (s : List Char) : marks next (protect s) = marks next s :=
  (opens_marks_protect next s).2

theorem marks_skipSpace (next : Bool) (s : List Char) :
    marks next (Text.skipSpace s) = marks next s := by
  induction s with
  | nil => rfl
  | cons c s ih =>
    by_cases hc : Text.isSpace c = true
    · have hangle : c ≠ '<' := by
        rintro rfl
        exact absurd hc (by decide)
      rw [Text.skipSpace_cons_of_space s hc, ih]
      simp [marks, hangle]
    · rw [Text.skipSpace_cons_of_not_space s (by simpa using hc)]

theorem opens_marks_trimEnd (s : List Char) :
    opens false (Text.trimEnd s) = opens false s ∧
      marks false (Text.trimEnd s) = marks false s := by
  induction s with
  | nil => exact ⟨rfl, rfl⟩
  | cons c s ih =>
    rw [Text.trimEnd]
    split
    · next hnil =>
      rw [hnil] at ih
      split
      · next hc =>
        have hangle : c ≠ '<' := by
          rintro rfl
          exact absurd hc (by decide)
        have hcolon : c ≠ ':' := by
          rintro rfl
          exact absurd hc (by decide)
        simp [opens, marks, hangle, hcolon, ← ih.2]
      · simp [opens, marks, ← ih.1, ← ih.2]
    · simp [opens, marks, ih.1, ih.2]

/-- A text keeps its marks without the blanks at its ends, if more than an angle must follow it. -/
theorem marks_strip (s : List Char) : marks false (Text.strip s) = marks false s := by
  rw [Text.strip, (opens_marks_trimEnd _).2, marks_skipSpace]

end

/-! ### Texts in the place of others -/

/-- Whether `new` in the place of `old` makes for `k` opening marks less, whatever stands around it. -/
structure Fewer (k : Nat) (new old : List Char) : Prop where
  opens_le : ∀ {next next' : Bool}, next ≤ next' → opens next new ≤ opens next' old
  marks_le : ∀ {next next' : Bool}, next ≤ next' → marks next new + k ≤ marks next' old

/-- Whether a text is left as it is, or makes for an opening mark less. -/
def Spends (new old : List Char) : Prop := new = old ∨ Fewer 1 new old

namespace Fewer

variable {j k : Nat} {a b a' b' : List Char}

theorem refl (s : List Char) : Fewer 0 s s := ⟨fun h => opens_mono h s, fun h => marks_mono h s⟩

theorem trans {c : List Char} (hab : Fewer j a b) (hbc : Fewer k b c) : Fewer (j + k) a c := by
  refine ⟨fun h => Bool.le_trans (hab.opens_le (Bool.le_refl _)) (hbc.opens_le h), ?_⟩
  intro next next' h
  have hfirst := hab.marks_le h
  have hsecond := hbc.marks_le (Bool.le_refl next')
  omega

theorem append (ha : Fewer j a a') (hb : Fewer k b b') : Fewer (j + k) (a ++ b) (a' ++ b') := by
  constructor
  · intro next next' h
    rw [opens_append, opens_append]
    exact ha.opens_le (hb.opens_le h)
  · intro next next' h
    have hfront := ha.marks_le (hb.opens_le h)
    have hback := hb.marks_le h
    rw [marks_append, marks_append]
    omega

theorem weaken (h : Fewer k a b) (hle : j ≤ k) : Fewer j a b :=
  ⟨h.opens_le, fun hn => Nat.le_trans (Nat.add_le_add_left hle _) (h.marks_le hn)⟩

/-- In the place of a directive may stand whatever has no more marks than follow its own. -/
theorem directive {new rest : List Char}
    (h : ∀ {next next' : Bool}, next ≤ next' → marks next new ≤ marks next' rest) :
    Fewer 1 new ('<' :: ':' :: rest) := by
  refine ⟨fun _ => Bool.le_true _, fun hn => ?_⟩
  have := h hn
  rw [marks_opener]
  omega

theorem directive_of_unmarked {new : List Char} (h : ∀ next, marks next new = 0)
    (rest : List Char) : Fewer 1 new ('<' :: ':' :: rest) :=
  directive fun _ => by rw [h]; exact Nat.zero_le _

end Fewer

namespace Spends

variable {a b a' b' : List Char}

theorem refl (s : List Char) : Spends s s := .inl rfl

theorem fewer (h : Spends a b) : Fewer 0 a b := by
  rcases h with rfl | h
  · exact .refl a
  · exact h.weaken (Nat.zero_le 1)

theorem trans {c : List Char} (hab : Spends a b) (hbc : Spends b c) : Spends a c := by
  rcases hab with rfl | hab
  · exact hbc
  · exact .inr (hab.trans hbc.fewer)

theorem append (ha : Spends a a') (hb : Spends b b') : Spends (a ++ b) (a' ++ b') := by
  rcases ha with rfl | ha
  · rcases hb with rfl | hb
    · exact .refl _
    · exact .inr (by simpa using (Fewer.refl a).append hb)
  · exact .inr (ha.append hb.fewer)

end Spends

/-! ### Stretches of a text -/

section

variable {next : Bool} {a b s : List Char}

theorem opens_of_head {c : Char} (h : s.head? = some c) (hangle : c ≠ '<') (hcolon : c ≠ ':') :
    opens next s = false := by
  cases s with
  | nil => cases h
  | cons d s =>
    cases h
    simp [opens, hangle, hcolon]

/-- What a text has behind it counts for nothing if it must follow at once. -/
theorem marks_le_of_infix (h : a <:+: s) : marks false a ≤ marks next s := by
  obtain ⟨front, back, rfl⟩ := h
  have hmine : marks false a ≤ marks (opens next back) a := marks_mono (Bool.false_le _) a
  rw [marks_append, marks_append]
  omega

/-- A tag makes for no mark, wherever it stands. -/
theorem opens_tag (k : Construct) : opens next k.text = false := by
  obtain ⟨t, ht⟩ := k.exists_text_eq
  rw [ht]
  exact opens_of_head rfl (by decide) (by decide)

theorem marks_tag {k : Construct} (hk : k.IsSound) : marks next k.text = 0 :=
  marks_of_notMem (Target.edge_notMem_text (by decide) hk)

/-- A comment of the markup has the marks of what stands in it. -/
theorem marks_comment (s : List Char) :
    marks next ("<!-- ".toList ++ s ++ " -->".toList) = marks false s := by
  have hend : opens next " -->".toList = false := opens_of_head rfl (by decide) (by decide)
  have hclose : marks next " -->".toList = 0 := marks_of_notMem (by decide)
  have hopen : marks (opens false s) "<!-- ".toList = 0 := by simp [marks, opens]
  rw [List.append_assoc, marks_append, marks_append, opens_append, hend, hclose, hopen]
  omega

theorem opens_comment (s : List Char) : opens next ("<!-- ".toList ++ s) = false := by
  simp [opens]

theorem marks_diagnostic {message : String} (h : '<' ∉ message.toList) :
    marks next (diagnostic message) = 0 := by
  rw [diagnostic_eq, marks_comment, marks_of_notMem h]

end

namespace Directive

variable {source rest r : List Char}

/-- A directive begins with an opening mark. -/
theorem exists_source_of_openMark (h : openMark (source ++ rest) = some r) (hrest : rest <:+ r) :
    ∃ t, source = '<' :: ':' :: t ∧ r <:+ t ++ rest := by
  obtain ⟨s, hs, rfl⟩ := Option.map_eq_some_iff.mp h
  obtain ⟨t, rfl⟩ := hrest.trans (Text.skipSpace_suffix s)
  have hmark : source ++ rest = ['<', ':'] ++ (t ++ rest) := Text.expect_eq_some hs
  have he : source ++ rest = ('<' :: ':' :: t) ++ rest := hmark
  exact ⟨t, List.append_cancel_right he, Text.skipSpace_suffix _⟩

theorem exists_source_of_openKeyword {keyword : List Char}
    (h : openKeyword keyword (source ++ rest) = some r) (hrest : rest <:+ r) :
    ∃ t, source = '<' :: ':' :: t ∧ r <:+ t ++ rest := by
  obtain ⟨s, hs, hkeyword⟩ := Option.bind_eq_some_iff.mp h
  have hsuffix := Text.expect_suffix hkeyword
  obtain ⟨t, ht, hmine⟩ := exists_source_of_openMark hs (hrest.trans hsuffix)
  exact ⟨t, ht, hsuffix.trans hmine⟩

/-- A loop holds its body behind an opening mark. -/
theorem exists_source_of_readLoop {l : Loop} (h : loop.read (source ++ rest) = some (l, rest)) :
    ∃ t, source = '<' :: ':' :: t ∧ l.body <:+: t := by
  change readLoop (source ++ rest) = some (l, rest) at h
  simp only [readLoop, Option.bind_eq_bind] at h
  obtain ⟨s₁, hopen, h⟩ := Option.bind_eq_some_iff.mp h
  obtain ⟨s₂, h₂, h⟩ := Option.bind_eq_some_iff.mp h
  obtain ⟨⟨_, s₃⟩, h₃, h⟩ := Option.bind_eq_some_iff.mp h
  obtain ⟨⟨_, s₄⟩, h₄, h⟩ := Option.bind_eq_some_iff.mp h
  obtain ⟨s₅, h₅, h⟩ := Option.bind_eq_some_iff.mp h
  obtain ⟨s₆, h₆, h⟩ := Option.bind_eq_some_iff.mp h
  obtain ⟨⟨_, s₇⟩, h₇, h⟩ := Option.bind_eq_some_iff.mp h
  obtain ⟨s₈, hclose, h⟩ := Option.bind_eq_some_iff.mp h
  obtain ⟨⟨body, s₉⟩, hbody, h⟩ := Option.bind_eq_some_iff.mp h
  cases h
  have hheader : s₈ <:+ s₁ :=
    (closeMark_suffix hclose).trans <| (Text.takeWord_suffix h₇).trans <|
      (Text.needSpace_suffix h₆).1.trans <| (Text.expect_suffix h₅).trans <|
      (loopIndex_suffix h₄).trans <| (Text.takeWord_suffix h₃).trans (Text.needSpace_suffix h₂).1
  obtain ⟨t, ht, hmine⟩ :=
    exists_source_of_openKeyword hopen ((loopBody_suffix hbody).trans hheader)
  obtain ⟨c, mark, -, hinner, front, d, -, hmark⟩ := loopBody_eq_some hbody
  obtain ⟨header, hheader⟩ := hheader.trans hmine
  refine ⟨t, ht, header, front ++ [d], ?_⟩
  have he : (header ++ body ++ (front ++ [d])) ++ s₉ = t ++ s₉ := by
    rw [← hheader, hinner, hmark]
    simp
  exact List.append_cancel_right he

theorem exists_source_of_readPlaceholder {name : String}
    (h : placeholder.read (source ++ rest) = some (name, rest)) :
    ∃ t, source = '<' :: ':' :: t ∧ name.toList.all Unicode.isWord = true := by
  change readPlaceholder (source ++ rest) = some (name, rest) at h
  simp only [readPlaceholder, Option.bind_eq_bind] at h
  obtain ⟨s₁, hopen, h⟩ := Option.bind_eq_some_iff.mp h
  obtain ⟨⟨w, s₂⟩, hword, h⟩ := Option.bind_eq_some_iff.mp h
  obtain ⟨s₃, hclose, h⟩ := Option.bind_eq_some_iff.mp h
  cases h
  have hsuffix := (closeMark_suffix hclose).trans (Text.takeWord_suffix hword)
  obtain ⟨t, ht, -⟩ := exists_source_of_openMark hopen hsuffix
  exact ⟨t, ht, by simpa using (Text.takeWord_eq_some hword).2.2⟩

theorem exists_source_of_readComponent {use : Option ComponentUse}
    (h : component.read (source ++ rest) = some (use, rest)) :
    (∃ t, source = '<' :: ':' :: t) ∧ ∀ u, use = some u → u.name.toList.all isNameChar = true := by
  change readComponent (source ++ rest) = some (use, rest) at h
  unfold readComponent at h
  split at h
  · cases h
  next s hopen =>
    have hkeyword := openKeyword_of_componentOpener hopen
    split at h
    · cases h
      obtain ⟨t, ht, -⟩ := exists_source_of_openKeyword hkeyword List.nil_suffix
      exact ⟨⟨t, ht⟩, nofun⟩
    · next hend =>
      cases h
      obtain ⟨t, ht, -⟩ := exists_source_of_openKeyword hkeyword (splitEnd_suffix hend)
      exact ⟨⟨t, ht⟩, fun u hu => all_isNameChar_readHead hu⟩

theorem exists_source_of_readContent (h : content.read (source ++ rest) = some ((), rest)) :
    ∃ t, source = '<' :: ':' :: t := by
  change readContent (source ++ rest) = some ((), rest) at h
  simp only [readContent, Option.bind_eq_bind] at h
  obtain ⟨s₁, hopen, h⟩ := Option.bind_eq_some_iff.mp h
  obtain ⟨s₂, hclose, h⟩ := Option.bind_eq_some_iff.mp h
  cases h
  obtain ⟨t, ht, -⟩ := exists_source_of_openKeyword hopen (closeMark_suffix hclose)
  exact ⟨t, ht⟩

end Directive

/-! ### The stages -/

theorem fewer_loop {l : Directive.Loop} {t : List Char} (h : l.isUsable = true)
    (hbody : l.body <:+: t) : Fewer 1 l.target ('<' :: ':' :: t) := by
  refine .directive fun {next next'} _ => ?_
  have hopen (b : Bool) : marks b (Construct.openLoop l.indexName l.item l.collection).text = 0 :=
    marks_tag (Directive.Loop.isSound_of_isUsable h)
  have hclose : marks next Construct.closeLoop.text = 0 := marks_tag trivial
  have hend : opens next Construct.closeLoop.text = false := opens_tag .closeLoop
  have hinner : marks false l.body ≤ marks next' t := marks_le_of_infix hbody
  rw [Directive.Loop.target, marks_append, marks_append, hopen, hclose, hend]
  omega

/-- A round over the loops uses up the opening marks of those that it converts. -/
theorem spends_loopRound (text : List Char) : Spends (loopRound text) text := by
  refine Recogniser.replace_induction Spends.refl Spends.append (fun {source rest l} h => ?_) text
  obtain ⟨t, rfl, hbody⟩ := Directive.exists_source_of_readLoop h
  unfold Directive.Loop.put
  split
  · next husable => exact .inr (fewer_loop husable hbody)
  · exact .refl _

theorem spends_loopRoundsText (fuel : Nat) (text : List Char) :
    Spends (loopRoundsText fuel text) text := by
  induction fuel generalizing text with
  | zero => exact .refl text
  | succ fuel ih =>
    rw [loopRoundsText]
    split
    · exact .refl text
    · exact (ih (loopRound text)).trans (spends_loopRound text)

/-- With fuel for every opening mark, the rounds end at a text that a round leaves as it is. -/
theorem loopRound_loopRoundsText {fuel : Nat} {text : List Char} (h : marks true text < fuel) :
    loopRound (loopRoundsText fuel text) = loopRoundsText fuel text := by
  induction fuel generalizing text with
  | zero => exact absurd h (Nat.not_lt_zero _)
  | succ fuel ih =>
    rw [loopRoundsText]
    split
    · next hstill => exact hstill
    · next hmoves =>
      refine ih ?_
      have hfewer := (spends_loopRound text).resolve_left hmoves
      have := hfewer.marks_le (Bool.le_refl true)
      omega

/-- Converting remarks makes no opening marks. -/
theorem fewer_convertedComments (text : List Char) : Fewer 0 (convertedComments text) text := by
  refine Recogniser.replace_induction Fewer.refl (Fewer.append (j := 0) (k := 0))
    (fun {source rest remark} h => ?_) text
  obtain ⟨inner, rfl, rfl, -⟩ := Directive.exists_source_of_readComment h
  have hsource (next : Bool) : marks next ('#' :: (inner ++ ['#'])) = marks false inner := by
    simp [marks, marks_append, opens]
  constructor
  · intro next next' _
    rw [markupComment_eq, List.append_assoc, opens_comment]
    exact Bool.false_le _
  · intro next next' _
    rw [markupComment_eq, marks_comment, marks_strip, hsource]
    omega

theorem marks_placeholderText (scope : Scope) {name : String} {source : List Char}
    (hname : '<' ∉ name.toList) :
    placeholderText scope name source = source ∨
      ∀ next, marks next (placeholderText scope name source) = 0 := by
  unfold placeholderText
  split
  · exact .inl rfl
  split
  · exact .inr fun _ => marks_diagnostic (by simp [toString, hname])
  split
  · exact .inr fun _ => marks_diagnostic (by simp [toString, hname])
  · next h => exact .inr fun _ => marks_tag (k := .show name) (by simpa [Construct.IsSound] using h)

/-- Placeholders that are converted are used up. -/
theorem spends_placeholders (scope : Scope) (text : List Char) :
    Spends (Directive.placeholder.replace (placeholderText scope) text) text := by
  refine Recogniser.replace_induction Spends.refl Spends.append
    (fun {source rest name} h => ?_) text
  obtain ⟨t, rfl, hword⟩ := Directive.exists_source_of_readPlaceholder h
  rcases marks_placeholderText scope (Text.notMem_of_all hword (by decide)) with hsame | hnone
  · exact .inl hsame
  · exact .inr (.directive_of_unmarked hnone t)

/-! ### Restored texts -/

theorem read_braceToken (s : List Char) :
    braceTokenRecogniser.read (braceToken ++ s) = some ((), s) := by
  change (Text.expect braceToken (braceToken ++ s)).map _ = _
  rw [Text.expect_append]
  rfl

theorem read_braceToken_of_ne {c : Char} (h : c ≠ '{') (s : List Char) :
    braceTokenRecogniser.read (c :: s) = none := by
  change (Text.expect braceToken (c :: s)).map _ = _
  rw [braceToken, Text.expect, if_neg (Ne.symm h)]
  rfl

/-- A protected text is restored to what it was, also where it holds the token itself. -/
theorem restore_protect (s : List Char) : restore (protect s) = s := by
  unfold restore
  induction s with
  | nil => exact Recogniser.replace_nil
  | cons c s ih =>
    by_cases hc : c = '{'
    · subst hc
      rw [protect_cons_brace, Recogniser.replace_append_of_read (read_braceToken _), ih]
      rfl
    · rw [protect_cons s hc, Recogniser.replace_cons_of_read_none (read_braceToken_of_ne hc _), ih]

/-- What is read as a token is one. -/
theorem source_eq_braceToken {source rest : List Char}
    (h : braceTokenRecogniser.read (source ++ rest) = some ((), rest)) : source = braceToken := by
  obtain ⟨r, hr, he⟩ := Option.map_eq_some_iff.mp h
  cases he
  exact List.append_cancel_right (Text.expect_eq_some hr)

theorem count_restore {c : Char} (hbrace : c ≠ '{') (htoken : c ∉ braceToken) (s : List Char) :
    (restore s).count c = s.count c := by
  refine Recogniser.replace_induction (R := fun new old => new.count c = old.count c)
    (fun _ => rfl) ?_ ?_ s
  · intro a a' b b' ha hb
    rw [List.count_append, List.count_append, ha, hb]
  · intro source rest _ h
    rw [source_eq_braceToken h, List.count_eq_zero.mpr htoken, List.count_cons_of_ne (Ne.symm hbrace),
      List.count_nil]

theorem opens_marks_restore (s : List Char) :
    ∀ next, opens next (restore s) = opens next s ∧ marks next (restore s) = marks next s := by
  refine Recogniser.replace_induction
    (R := fun new old => ∀ next, opens next new = opens next old ∧ marks next new = marks next old)
    (fun _ _ => ⟨rfl, rfl⟩) ?_ ?_ s
  · intro a a' b b' ha hb next
    rw [opens_append, opens_append, marks_append, marks_append, (hb next).1, (hb next).2]
    exact ⟨(ha _).1, congrArg (· + _) (ha _).2⟩
  · intro source rest _ h next
    rw [source_eq_braceToken h]
    exact ⟨rfl, rfl⟩

end Stencil.Template
