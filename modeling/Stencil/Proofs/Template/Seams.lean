import Mathlib.Data.List.Infix
import Stencil.Proofs.Template.Marks
import Stencil.Template.Stage.Marks

/-! Where texts can be put together without making a directive of parts of both. What is read between two
angles consists of characters of a few classes, and its reading does not depend on what follows; so a
directive can be found only in one of two texts if a seam is between them. A text in which no directive
of some kind is found stays so when a marked stretch of it makes way for a text with closed ends. -/
namespace Stencil.Template

open Text (Recogniser expect isSpace skipSpace needSpace takeWord)
open Unicode (isWord)

/-! ### Characters inside a directive -/

/-- The characters between the two angles of a mark that has no body and no props. -/
def isInner (c : Char) : Bool := isWord c || isSpace c || c == ':' || c == ','

theorem isInner_of_isWord {c : Char} (h : isWord c = true) : isInner c = true := by
  simp [isInner, h]

theorem isInner_of_isSpace {c : Char} (h : isSpace c = true) : isInner c = true := by
  simp [isInner, h]

theorem all_isInner {s : List Char} {p : Char → Bool} (hp : ∀ c, p c = true → isInner c = true)
    (h : s.all p = true) : s.all isInner = true :=
  List.all_eq_true.mpr fun c hc => hp c (List.all_eq_true.mp h c hc)

/-- Whether a part of a text that is read holds inner characters only, and what stands behind the character
after it does not matter. -/
def Steady (R : List Char → List Char → Prop) : Prop :=
  ∀ ⦃s rest⦄, R s rest → ∃ m, s = m ++ rest ∧ m.all isInner = true ∧
    ∀ c t t', rest = c :: t → R (m ++ c :: t') (c :: t')

namespace Steady

variable {R R' : List Char → List Char → Prop}

/-- One part read after another. -/
theorem comp (h : Steady R) (h' : Steady R') : Steady fun s rest => ∃ mid, R s mid ∧ R' mid rest := by
  rintro s rest ⟨mid, hfirst, hsecond⟩
  obtain ⟨m, rfl, hm, hback⟩ := h hfirst
  obtain ⟨m', rfl, hm', hback'⟩ := h' hsecond
  refine ⟨m ++ m', by simp, by simp [hm, hm'], fun c t t' hrest => ?_⟩
  subst hrest
  have hlast := hback' c t t' rfl
  refine ⟨m' ++ c :: t', ?_, hlast⟩
  -- the first part has the next character of the second one behind it, or the first one of the rest
  cases m' with
  | nil => simpa using hback c t t' rfl
  | cons d m' => simpa using hback d (m' ++ c :: t) (m' ++ c :: t') rfl

theorem exists_of {α : Type} {S : α → List Char → List Char → Prop} (h : ∀ a, Steady (S a)) :
    Steady fun s rest => ∃ a, S a s rest := by
  rintro s rest ⟨a, ha⟩
  obtain ⟨m, hs, hm, hback⟩ := h a ha
  exact ⟨m, hs, hm, fun c t t' hrest => ⟨a, hback c t t' hrest⟩⟩

theorem expect (lead : List Char) (hlead : lead.all isInner = true) :
    Steady fun s rest => Text.expect lead s = some rest := by
  intro s rest h
  exact ⟨lead, Text.expect_eq_some h, hlead, fun c t t' _ => Text.expect_append lead _⟩

theorem skipSpace : Steady fun s rest => Text.skipSpace s = rest := by
  rintro s _ rfl
  have hblank : (s.takeWhile isSpace).all isSpace = true := List.all_takeWhile
  refine ⟨s.takeWhile isSpace, List.takeWhile_append_dropWhile.symm,
    all_isInner (fun _ => isInner_of_isSpace) hblank, fun c t t' hrest => ?_⟩
  exact (Text.skipSpace_append hblank _).trans
    (Text.skipSpace_cons_of_not_space _ (Text.isSpace_of_skipSpace hrest))

theorem needSpace : Steady fun s rest => Text.needSpace s = some rest := by
  intro s rest h
  cases s with
  | nil => cases h
  | cons b s =>
    simp only [Text.needSpace] at h
    split at h
    · next hb =>
      cases h
      obtain ⟨m, hs, hm, hback⟩ := Steady.skipSpace (s := s) rfl
      refine ⟨b :: m, congrArg (b :: ·) hs, by simp [hm, isInner_of_isSpace hb], ?_⟩
      intro c t t' hrest
      rw [List.cons_append, Text.needSpace, if_pos hb, hback c t t' hrest]
    · cases h

theorem takeWord (w : List Char) : Steady fun s rest => Text.takeWord s = some (w, rest) := by
  intro s rest h
  obtain ⟨rfl, hne, hw⟩ := Text.takeWord_eq_some h
  refine ⟨w, rfl, all_isInner (fun _ => isInner_of_isWord) hw, fun c t t' hrest => ?_⟩
  subst hrest
  have hc : isWord c = false := by
    cases hc : isWord c with
    | false => rfl
    | true =>
      -- a word character behind the word would be part of it
      have htake : (w ++ c :: t).takeWhile isWord = w ++ c :: t.takeWhile isWord := by
        rw [List.takeWhile_append_of_pos (List.all_eq_true.mp hw), List.takeWhile_cons_of_pos hc]
      unfold Text.takeWord at h
      split at h
      · cases h
      · have hw' := (Prod.mk.inj (Option.some.inj h)).1
        rw [htake] at hw'
        simp at hw'
  exact (Text.isName_of_all hne hw).takeWord hc t'

end Steady

/-- Whether what is read is an angle, inner characters and an angle, whatever follows. -/
def Enclosed (E : List Char → List Char → Prop) : Prop :=
  ∀ ⦃s rest⦄, E s rest → ∃ m, s = '<' :: (m ++ '>' :: rest) ∧ m.all isInner = true ∧
    ∀ rest', E ('<' :: (m ++ '>' :: rest')) rest'

/-- A steady reading between two angles. -/
theorem Enclosed.of_steady {E R : List Char → List Char → Prop} (hR : Steady R)
    (hE : ∀ s rest, E s rest ↔ ∃ t, s = '<' :: t ∧ R t ('>' :: rest)) : Enclosed E := by
  intro s rest h
  obtain ⟨t, rfl, ht⟩ := (hE s rest).mp h
  obtain ⟨m, rfl, hm, hback⟩ := hR ht
  exact ⟨m, rfl, hm, fun rest' => (hE _ _).mpr ⟨_, rfl, hback '>' rest rest' rfl⟩⟩

/-! ### Seams -/

/-- Whether no directive can begin in `x` and go on in `y`: `y` is blank, or begins with what cannot go on,
or `x` ends with what ends. -/
def Seam (x y : List Char) : Prop :=
  y.all isSpace = true ∨ (∃ c t, y = c :: t ∧ isInner c = false ∧ c ≠ '>') ∨
    ∃ t c, x = t ++ [c] ∧ isInner c = false ∧ c ≠ '<'

/-- A seam between two texts is one behind every end of the first. -/
theorem Seam.of_suffix {x s y : List Char} (h : Seam x y) (hs : s <:+ x) (hne : s ≠ []) :
    Seam s y := by
  rcases h with h | h | ⟨t, c, rfl, hc⟩
  · exact .inl h
  · exact .inr (.inl h)
  · obtain ⟨front, hfront⟩ := hs
    obtain ⟨r, d, rfl⟩ := (List.eq_nil_or_concat' s).resolve_left hne
    have hlast : d = c := by
      have := congrArg List.getLast? hfront
      simpa using this
    exact .inr (.inr ⟨r, c, by rw [hlast], hc⟩)

/-- A stretch of inner characters behind an angle, up to a last one that is not blank, is in the first of two
texts with a seam. -/
theorem Seam.takes {s y m rest : List Char} {z : Char} (hseam : Seam s y) (hne : s ≠ [])
    (hm : m.all isInner = true) (hz : isSpace z = false) (hz' : isInner z = true ∨ z = '>')
    (h : s ++ y = '<' :: (m ++ z :: rest)) : ∃ r, s = '<' :: (m ++ z :: r) ∧ rest = r ++ y := by
  have hwhole : s ++ y = ('<' :: (m ++ [z])) ++ rest := by rw [h]; simp
  rcases List.append_eq_append_iff.mp hwhole with ⟨r, hr, rfl⟩ | ⟨r, rfl, rfl⟩
  · rcases List.eq_nil_or_concat' r with rfl | ⟨q, w, rfl⟩
    · exact ⟨[], by simpa using hr.symm, rfl⟩
    exfalso
    obtain ⟨a, s, rfl⟩ := List.exists_cons_of_ne_nil hne
    -- all of the first text is in front of the last character of the stretch
    have hfront : ('<' :: m) ++ [z] = (a :: (s ++ q)) ++ [w] := by simpa using hr
    obtain ⟨hfront, hlast⟩ := List.append_inj' hfront rfl
    obtain ⟨rfl, rfl⟩ := List.cons.inj hfront
    obtain rfl := (List.cons.inj hlast).1
    rw [List.all_append, Bool.and_eq_true, List.all_eq_true, List.all_eq_true] at hm
    rcases hseam with hblank | ⟨c, t, ht, hc⟩ | ⟨t, c, ht, hc⟩
    · simp [hz] at hblank
    · cases q with
      | nil =>
        obtain ⟨rfl, -⟩ := List.cons.inj ht
        rcases hz' with hz' | hz'
        · rw [hz'] at hc
          exact absurd hc.1 (by decide)
        · exact hc.2 hz'
      | cons d q =>
        obtain ⟨rfl, -⟩ := List.cons.inj ht
        rw [hm.2 d List.mem_cons_self] at hc
        exact absurd hc.1 (by decide)
    · rcases List.eq_nil_or_concat' s with rfl | ⟨s, d, rfl⟩
      · have hlast : [] ++ ['<'] = t ++ [c] := ht
        exact hc.2 (List.cons.inj (List.append_inj' hlast rfl).2).1.symm
      · have hd : d = c := by
          have := congrArg List.getLast? ht
          simpa [List.getLast?_cons] using this
        rw [← hd, hm.1 d (by simp)] at hc
        exact absurd hc.1 (by decide)
  · exact ⟨r, by simp, rfl⟩

/-- Whether a test for a directive at the front of a text looks for an opening mark, and not behind a seam. -/
structure Local (r : List Char → Bool) : Prop where
  needsMark : ∀ {s}, Directive.openMark s = none → r s = false
  append : ∀ {s y}, s ≠ [] → Seam s y → r (s ++ y) = r s

/-- A test for something between two angles. -/
theorem Enclosed.isLocal {E : List Char → List Char → Prop} (hE : Enclosed E) {r : List Char → Bool}
    (hr : ∀ s, r s = true ↔ ∃ rest, E s rest)
    (hmark : ∀ {s}, Directive.openMark s = none → r s = false) : Local r where
  needsMark := hmark
  append {s y} hne hseam := by
    rw [Bool.eq_iff_iff, hr, hr]
    constructor
    · rintro ⟨rest, h⟩
      obtain ⟨m, hs, hm, hback⟩ := hE h
      obtain ⟨r, rfl, -⟩ := hseam.takes hne hm (by decide) (.inr rfl) hs
      exact ⟨r, hback r⟩
    · rintro ⟨rest, h⟩
      obtain ⟨m, rfl, -, hback⟩ := hE h
      exact ⟨rest ++ y, by simpa using hback (rest ++ y)⟩

/-! ### Readers of directives -/

namespace Directive

theorem expect_eq_some_iff {lead s rest : List Char} :
    expect lead s = some rest ↔ s = lead ++ rest := by
  constructor
  · exact Text.expect_eq_some
  · rintro rfl
    exact Text.expect_append lead rest

theorem openMark_eq_some_iff {s rest : List Char} :
    openMark s = some rest ↔
      ∃ t, s = '<' :: t ∧ ∃ mid, expect [':'] t = some mid ∧ skipSpace mid = rest := by
  simp [openMark, expect_eq_some_iff]

theorem closeMark_eq_some_iff {s rest : List Char} :
    closeMark s = some rest ↔
      ∃ mid, skipSpace s = mid ∧ expect [':'] mid = some ('>' :: rest) := by
  simp [closeMark, expect_eq_some_iff]

/-- A placeholder of a given name is read between two angles. -/
theorem readPlaceholder_enclosed (name : String) :
    Enclosed fun s rest => readPlaceholder s = some (name, rest) := by
  have hcolon : Steady fun s rest => expect [':'] s = some rest := .expect _ (by decide)
  have hname := (Steady.takeWord name.toList).comp (Steady.skipSpace.comp hcolon)
  refine .of_steady (hcolon.comp (Steady.skipSpace.comp hname)) fun s rest => ?_
  constructor
  · intro h
    simp only [readPlaceholder, Option.bind_eq_bind] at h
    obtain ⟨s₁, hopen, h⟩ := Option.bind_eq_some_iff.mp h
    obtain ⟨⟨w, s₂⟩, hword, h⟩ := Option.bind_eq_some_iff.mp h
    obtain ⟨s₃, hclose, h⟩ := Option.bind_eq_some_iff.mp h
    cases h
    obtain ⟨t, rfl, s₄, hcolon, hblank⟩ := openMark_eq_some_iff.mp hopen
    rw [String.toList_ofList]
    exact ⟨t, rfl, s₄, hcolon, s₁, hblank, s₂, hword, closeMark_eq_some_iff.mp hclose⟩
  · rintro ⟨t, rfl, s₄, hcolon, s₁, hblank, s₂, hword, hclose⟩
    have hopen : openMark ('<' :: t) = some s₁ := openMark_eq_some_iff.mpr ⟨t, rfl, s₄, hcolon, hblank⟩
    simp [readPlaceholder, hopen, hword, closeMark_eq_some_iff.mpr hclose]

/-- The front of a loop, up to its body. -/
def loopHeader (s : List Char) : Option (List Char) := do
  let s ← openKeyword "for".toList s
  let s ← needSpace s
  let (_, s) ← takeWord s
  let (_, s) ← loopIndex s
  let s ← expect ['i', 'n'] s
  let s ← needSpace s
  let (_, s) ← takeWord s
  closeMark s

theorem skipSpace_of_needSpace {s rest : List Char} (h : needSpace s = some rest) :
    skipSpace s = rest := by
  cases s with
  | nil => cases h
  | cons b s =>
    simp only [needSpace] at h
    split at h
    · next hb =>
      cases h
      exact Text.skipSpace_cons_of_space s hb
    · cases h

/-- One name or two of a loop: a comma, or no comma, is seen behind the blanks. -/
theorem steady_loopIndex : Steady fun s rest => ∃ index, loopIndex s = some (index, rest) := by
  rintro s rest ⟨index, h⟩
  unfold loopIndex at h
  split at h
  · next t ht =>
    obtain ⟨⟨w, u⟩, hword, h⟩ := Option.bind_eq_some_iff.mp h
    obtain ⟨v, hblank, h⟩ := Option.bind_eq_some_iff.mp h
    cases h
    have hsecond := (Steady.takeWord w).comp Steady.needSpace
    have hcomma := (Steady.expect [','] (by decide)).comp (Steady.skipSpace.comp hsecond)
    obtain ⟨m, hs, hm, hback⟩ :=
      Steady.skipSpace.comp hcomma ⟨_, ht, t, Text.expect_append [','] t, _, rfl, u, hword, hblank⟩
    refine ⟨m, hs, hm, fun c r r' hrest => ?_⟩
    obtain ⟨_, hfirst, t', hcomma, _, rfl, u', hword', hblank'⟩ := hback c r r' hrest
    obtain rfl := Text.expect_eq_some hcomma
    refine ⟨some (String.ofList w), ?_⟩
    unfold loopIndex
    rw [hfirst]
    simp [hword', hblank']
  · next hne =>
    obtain ⟨v, hblank, h⟩ := Option.map_eq_some_iff.mp h
    cases h
    obtain ⟨m, hs, hm, hback⟩ := Steady.needSpace hblank
    refine ⟨m, hs, hm, fun c r r' hrest => ⟨none, ?_⟩⟩
    have hblank' := hback c r r' hrest
    unfold loopIndex
    rw [skipSpace_of_needSpace hblank']
    split
    · next heq =>
      obtain ⟨rfl, -⟩ := List.cons.inj heq
      exact absurd ((skipSpace_of_needSpace hblank).trans hrest) (hne r)
    · rw [hblank']
      rfl

theorem loopHeader_enclosed : Enclosed fun s rest => loopHeader s = some rest := by
  have hcolon : Steady fun s rest => expect [':'] s = some rest := .expect _ (by decide)
  have hword := Steady.exists_of Steady.takeWord
  have hcollection := Steady.needSpace.comp (hword.comp (Steady.skipSpace.comp hcolon))
  have hin := (Steady.expect ['i', 'n'] (by decide)).comp hcollection
  have hnames := Steady.needSpace.comp (hword.comp (steady_loopIndex.comp hin))
  have hfor := (Steady.expect "for".toList (by decide)).comp hnames
  refine .of_steady (hcolon.comp (Steady.skipSpace.comp hfor)) fun s rest => ?_
  constructor
  · intro h
    simp only [loopHeader, Option.bind_eq_bind] at h
    obtain ⟨s₁, hopen, h⟩ := Option.bind_eq_some_iff.mp h
    obtain ⟨s₂, h₂, h⟩ := Option.bind_eq_some_iff.mp h
    obtain ⟨⟨item, s₃⟩, h₃, h⟩ := Option.bind_eq_some_iff.mp h
    obtain ⟨⟨index, s₄⟩, h₄, h⟩ := Option.bind_eq_some_iff.mp h
    obtain ⟨s₅, h₅, h⟩ := Option.bind_eq_some_iff.mp h
    obtain ⟨s₆, h₆, h⟩ := Option.bind_eq_some_iff.mp h
    obtain ⟨⟨collection, s₇⟩, h₇, hclose⟩ := Option.bind_eq_some_iff.mp h
    obtain ⟨s₀, hmark, hfor⟩ := Option.bind_eq_some_iff.mp hopen
    obtain ⟨t, rfl, s₈, hcolon, hblank⟩ := openMark_eq_some_iff.mp hmark
    exact ⟨t, rfl, s₈, hcolon, s₀, hblank, s₁, hfor, s₂, h₂, s₃, ⟨item, h₃⟩, s₄, ⟨index, h₄⟩,
      s₅, h₅, s₆, h₆, s₇, ⟨collection, h₇⟩, closeMark_eq_some_iff.mp hclose⟩
  · rintro ⟨t, rfl, s₈, hcolon, s₀, hblank, s₁, hfor, s₂, h₂, s₃, ⟨item, h₃⟩, s₄, ⟨index, h₄⟩,
      s₅, h₅, s₆, h₆, s₇, ⟨collection, h₇⟩, hclose⟩
    have hopen : openMark ('<' :: t) = some s₀ := openMark_eq_some_iff.mpr ⟨t, rfl, s₈, hcolon, hblank⟩
    simp only [loopHeader, openKeyword, hopen, hfor, h₂, h₃, h₄, h₅, h₆, h₇, Option.bind_eq_bind,
      Option.bind_some, closeMark_eq_some_iff.mpr hclose]

/-- A keyword alone is read between two angles. -/
theorem keyword_enclosed {keyword : List Char} (hkeyword : keyword.all isInner = true) :
    Enclosed fun s rest => (openKeyword keyword s).bind closeMark = some rest := by
  have hcolon : Steady fun s rest => expect [':'] s = some rest := .expect _ (by decide)
  have hword := (Steady.expect keyword hkeyword).comp (Steady.skipSpace.comp hcolon)
  refine .of_steady (hcolon.comp (Steady.skipSpace.comp hword)) fun s rest => ?_
  constructor
  · intro h
    obtain ⟨s₁, hopen, hclose⟩ := Option.bind_eq_some_iff.mp h
    obtain ⟨s₂, hmark, hexpect⟩ := Option.bind_eq_some_iff.mp hopen
    obtain ⟨t, rfl, s₃, hcolon, hblank⟩ := openMark_eq_some_iff.mp hmark
    exact ⟨t, rfl, s₃, hcolon, s₂, hblank, s₁, hexpect, closeMark_eq_some_iff.mp hclose⟩
  · rintro ⟨t, rfl, s₃, hcolon, s₂, hblank, s₁, hexpect, hclose⟩
    have hopen : openMark ('<' :: t) = some s₂ :=
      openMark_eq_some_iff.mpr ⟨t, rfl, s₃, hcolon, hblank⟩
    simp only [openKeyword, hopen, hexpect, Option.bind_some, closeMark_eq_some_iff.mpr hclose]

theorem loopEnd_enclosed : Enclosed fun s rest => loopEnd s = some rest :=
  keyword_enclosed (by decide)

theorem readContent_enclosed : Enclosed fun s rest => readContent s = some ((), rest) := by
  have hcontent (s rest : List Char) : readContent s = some ((), rest) ↔
      (openKeyword "content".toList s).bind closeMark = some rest := by
    unfold readContent
    cases openKeyword "content".toList s with
    | none => simp
    | some opened => simp [Option.bind_eq_some_iff]
  simp only [hcontent]
  exact keyword_enclosed (by decide)

end Directive

/-! ### Tests for directives -/

/-- Whether a loop begins or ends at the front of a text, with or without its other end. -/
def isLoopMark (s : List Char) : Bool :=
  (Directive.loopHeader s).isSome || (Directive.loopEnd s).isSome

/-- Whether a name is to be shown at the front of a text. -/
def showsName (s : List Char) : Bool :=
  match Directive.readPlaceholder s with
  | some (name, _) => name != loopEndKeyword
  | none => false

/-- Whether the use of a component seems to begin at the front of a text. -/
def opensComponent (s : List Char) : Bool := (Directive.componentOpener s).isSome

theorem Local.or {r r' : List Char → Bool} (h : Local r) (h' : Local r') :
    Local fun s => r s || r' s where
  needsMark hs := by rw [h.needsMark hs, h'.needsMark hs]; rfl
  append hne hseam := by rw [h.append hne hseam, h'.append hne hseam]

theorem loopHeader_isLocal : Local fun s => (Directive.loopHeader s).isSome :=
  Directive.loopHeader_enclosed.isLocal (fun s => Option.isSome_iff_exists) fun h => by
    simp [Directive.loopHeader, Directive.openKeyword_eq_none h]

theorem isLoopMark_isLocal : Local isLoopMark := by
  have hend : Local fun s => (Directive.loopEnd s).isSome :=
    Directive.loopEnd_enclosed.isLocal (fun s => Option.isSome_iff_exists) fun h => by
      simp [Directive.loopEnd, Directive.openKeyword_eq_none h]
  exact loopHeader_isLocal.or hend

theorem showsName_isLocal : Local showsName := by
  refine Enclosed.isLocal (E := fun s rest => ∃ name, name ≠ loopEndKeyword ∧
    Directive.readPlaceholder s = some (name, rest)) ?_ (fun s => ?_) fun h => ?_
  · rintro s rest ⟨name, hname, h⟩
    obtain ⟨m, hs, hm, hback⟩ := Directive.readPlaceholder_enclosed name h
    exact ⟨m, hs, hm, fun rest' => ⟨name, hname, hback rest'⟩⟩
  · unfold showsName
    split
    · next name rest h =>
      refine ⟨fun hne => ⟨rest, name, by simpa using hne, h⟩, ?_⟩
      rintro ⟨rest', name', hne, h'⟩
      rw [h] at h'
      cases h'
      simpa using hne
    · next h => simp [h]
  · simp [showsName, Directive.readPlaceholder, h]

theorem Directive.openKeyword_eq_some_iff {k : Char} {keyword s rest : List Char}
    (hk : isSpace k = false) :
    openKeyword (k :: keyword) s = some rest ↔
      ∃ b, s = '<' :: ':' :: (b ++ (k :: keyword ++ rest)) ∧ b.all isSpace = true := by
  constructor
  · intro h
    obtain ⟨s₁, hmark, hkeyword⟩ := Option.bind_eq_some_iff.mp h
    obtain ⟨t, rfl, mid, hcolon, hblank⟩ := openMark_eq_some_iff.mp hmark
    obtain rfl := Text.expect_eq_some hcolon
    obtain rfl := Text.expect_eq_some hkeyword
    refine ⟨mid.takeWhile isSpace, ?_, List.all_takeWhile⟩
    rw [← hblank]
    exact congrArg ('<' :: ':' :: ·) List.takeWhile_append_dropWhile.symm
  · rintro ⟨b, rfl, hb⟩
    have hmark : openMark ('<' :: ':' :: (b ++ (k :: keyword ++ rest))) = some (k :: keyword ++ rest) := by
      change some (skipSpace (b ++ _)) = _
      rw [Text.skipSpace_append hb, List.cons_append, Text.skipSpace_cons_of_not_space _ hk]
    rw [openKeyword, hmark, Option.bind_some, Text.expect_append]

/-- An opener is an opening mark, blanks, and a keyword at which a word ends. -/
theorem opensComponent_iff {s : List Char} :
    opensComponent s = true ↔ ∃ b rest, s = '<' :: ':' :: (b ++ ("component".toList ++ rest)) ∧
      b.all isSpace = true ∧ ∀ c t, rest = c :: t → isWord c = false := by
  have hkeyword (rest : List Char) :
      Directive.openKeyword "component".toList s = some rest ↔
        ∃ b, s = '<' :: ':' :: (b ++ ("component".toList ++ rest)) ∧ b.all isSpace = true :=
    Directive.openKeyword_eq_some_iff (by decide)
  unfold opensComponent Directive.componentOpener
  constructor
  · intro h
    split at h
    · next c rest hopen =>
      obtain ⟨b, hs, hb⟩ := (hkeyword _).mp hopen
      refine ⟨b, _, hs, hb, fun d t he => ?_⟩
      cases he
      cases hc : isWord c with
      | false => rfl
      | true => simp [hc] at h
    · next hne =>
      obtain ⟨rest, hopen⟩ := Option.isSome_iff_exists.mp h
      obtain ⟨b, hs, hb⟩ := (hkeyword _).mp hopen
      exact ⟨b, rest, hs, hb, fun c t he => absurd (he ▸ hopen) (hne c t)⟩
  · rintro ⟨b, rest, hs, hb, hrest⟩
    rw [(hkeyword rest).mpr ⟨b, hs, hb⟩]
    cases rest with
    | nil => rfl
    | cons c t => simp [hrest c t rfl]

theorem opensComponent_isLocal : Local opensComponent where
  needsMark h := by simp [opensComponent, Directive.componentOpener, Directive.openKeyword_eq_none h]
  append {s y} hne hseam := by
    rw [Bool.eq_iff_iff, opensComponent_iff, opensComponent_iff]
    constructor
    · rintro ⟨b, rest, hs, hb, hrest⟩
      have hword : ("componen".toList).all isInner = true := by decide
      have hblank : b.all isInner = true := all_isInner (fun _ => isInner_of_isSpace) hb
      have hm : (':' :: (b ++ "componen".toList)).all isInner = true := by
        rw [List.all_cons, List.all_append, hword, hblank]
        decide
      have hstretch : s ++ y = '<' :: ((':' :: (b ++ "componen".toList)) ++ 't' :: rest) := by
        rw [hs]
        simp
      obtain ⟨r, rfl, rfl⟩ := hseam.takes hne hm (by decide) (.inl (by decide)) hstretch
      exact ⟨b, r, by simp, hb, fun c t he => hrest c (t ++ y) (by rw [he]; rfl)⟩
    · rintro ⟨b, rest, rfl, hb, hrest⟩
      refine ⟨b, rest ++ y, by simp, hb, fun c t he => ?_⟩
      cases rest with
      | cons d rest => exact hrest c rest (by rw [(List.cons.inj he).1])
      | nil =>
        -- the keyword ends where the seam is
        obtain rfl : y = c :: t := he
        rcases hseam with hblank | ⟨d, u, hu, hd⟩ | ⟨u, d, hu, hd⟩
        · rw [List.all_cons, Bool.and_eq_true] at hblank
          exact Text.isWord_of_isSpace hblank.1
        · obtain ⟨rfl, -⟩ := List.cons.inj hu
          exact Bool.eq_false_iff.mpr fun hword => by
            rw [isInner_of_isWord hword] at hd
            exact absurd hd.1 (by decide)
        · have hlast : 't' = d := by
            have := congrArg List.getLast? hu
            simpa [List.getLast?_cons, List.getLast?_append] using this
          rw [← hlast] at hd
          exact absurd hd.1 (by decide)

end Stencil.Template
