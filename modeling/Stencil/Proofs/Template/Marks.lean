import Stencil.Proofs.Pieces
import Stencil.Proofs.Words
import Stencil.Template.Braces
import Stencil.Template.Directive.Component
import Stencil.Template.Directive.Layout
import Stencil.Template.Directive.Loop
import Stencil.Template.Directive.Mark

/-! Where no directive is read: wherever no opening mark stands, and behind an opening mark whose first
word is another one. -/
namespace Stencil.Template

open Text (IsName Recogniser expect skipSpace)
open Unicode (isWord)

/-- A text without an opening brace is its own protection. -/
theorem protect_eq_self {s : List Char} (h : '{' ∉ s) : protect s = s := by
  induction s with
  | nil => rfl
  | cons c s ih =>
    have hc : c ≠ '{' := fun he => h (by simp [he])
    rw [protect_cons s hc, ih fun hmem => h (List.mem_cons_of_mem c hmem)]

/-- Protection makes no other characters more than those of its token. -/
theorem count_protect {c : Char} (hc : c ∉ braceToken) (s : List Char) :
    (protect s).count c = s.count c := by
  induction s with
  | nil => rfl
  | cons d s ih =>
    by_cases hd : d = '{'
    · subst hd
      have hbrace : '{' ≠ c := by
        rintro rfl
        exact hc (by decide)
      rw [protect_cons_brace, List.count_append, List.count_eq_zero.mpr hc, ih,
        List.count_cons_of_ne hbrace, Nat.zero_add]
    · rw [protect_cons s hd, List.count_cons, List.count_cons, ih]

/-- No opening mark stands in `front`, which `s` follows. -/
def Unmarked (front s : List Char) : Prop :=
  ∀ c before after, front = before ++ c :: after → Directive.openMark (c :: after ++ s) = none

theorem openMark_eq_none_of_ne {c : Char} (h : c ≠ '<') (s : List Char) :
    Directive.openMark (c :: s) = none := by
  simp [Directive.openMark, expect, Ne.symm h]

theorem openMark_eq_none_of_head {c : Char} {s : List Char} (h : s.head? ≠ some ':') :
    Directive.openMark (c :: s) = none := by
  cases s with
  | nil => simp [Directive.openMark, expect]
  | cons d s =>
    have hd : ':' ≠ d := fun he => h (by rw [← he]; rfl)
    simp [Directive.openMark, expect, hd]

namespace Unmarked

theorem nil (s : List Char) : Unmarked [] s := by
  intro c before after h
  simp at h

theorem cons {c : Char} {front s : List Char} (hc : Directive.openMark (c :: (front ++ s)) = none)
    (h : Unmarked front s) : Unmarked (c :: front) s := by
  intro d before after he
  cases before with
  | nil =>
    obtain ⟨rfl, rfl⟩ := List.cons.inj he
    exact hc
  | cons b before => exact h d before after (List.cons.inj he).2

theorem of_notMem {front : List Char} (h : '<' ∉ front) (s : List Char) : Unmarked front s := by
  intro c before after he
  have hc : c ≠ '<' := by
    rintro rfl
    exact h (by simp [he])
  exact openMark_eq_none_of_ne hc _

theorem append {a b s : List Char} (ha : Unmarked a (b ++ s)) (hb : Unmarked b s) :
    Unmarked (a ++ b) s := by
  induction a with
  | nil => exact hb
  | cons c a ih =>
    refine cons ?_ (ih fun d before after he => ha d (c :: before) after (by rw [he]; rfl))
    have := ha c [] a rfl
    rwa [List.cons_append, ← List.append_assoc] at this

/-- Protection puts no opening mark into a text, and what follows must not complete one. -/
theorem protect {text s : List Char} (h : ¬ ['<', ':'] <:+: text) (hs : s.head? ≠ some ':') :
    Unmarked (Template.protect text) s := by
  induction text with
  | nil => exact nil s
  | cons c text ih =>
    have htext := ih fun hin => h (hin.trans (List.suffix_cons c text).isInfix)
    by_cases hbrace : c = '{'
    · subst hbrace
      rw [protect_cons_brace]
      exact (of_notMem (by decide) _).append htext
    rw [protect_cons _ hbrace]
    by_cases hc : c = '<'
    · subst hc
      refine cons (openMark_eq_none_of_head ?_) htext
      -- the character after the sign is the next one of the text, or the first one behind it
      cases text with
      | nil => exact hs
      | cons d text =>
        have hd : d ≠ ':' := by
          rintro rfl
          exact h ⟨[], text, rfl⟩
        by_cases hbrace : d = '{'
        · subst hbrace
          simp [braceToken]
        · simp [protect_cons _ hbrace, hd]
    · exact cons (openMark_eq_none_of_ne hc _) htext

end Unmarked

/-- A recogniser that reads nothing where no opening mark stands. -/
def NeedsMark {α : Type} (p : Recogniser α) : Prop :=
  ∀ s, Directive.openMark s = none → p.read s = none

theorem Unmarked.skips {α : Type} {p : Recogniser α} (hp : NeedsMark p) {front s : List Char}
    (h : Unmarked front s) : p.Skips front s := fun c before after he => hp _ (h c before after he)

/-- An opening mark at the first character alone is skipped if nothing is read there. -/
theorem NeedsMark.skips_cons {α : Type} {p : Recogniser α} (hp : NeedsMark p) {c : Char}
    {front s : List Char} (hc : p.read (c :: (front ++ s)) = none) (h : '<' ∉ front) :
    p.Skips (c :: front) s :=
  Recogniser.skips_cons hc ((Unmarked.of_notMem h s).skips hp)

namespace Directive

theorem openKeyword_eq_none {keyword s : List Char} (h : openMark s = none) :
    openKeyword keyword s = none := by
  simp [openKeyword, h]

theorem loop_needsMark : NeedsMark loop := by
  intro s h
  simp [loop, readLoop, openKeyword_eq_none h]

theorem component_needsMark : NeedsMark component := by
  intro s h
  simp [component, readComponent, componentOpener, openKeyword_eq_none h]

theorem placeholder_needsMark : NeedsMark placeholder := by
  intro s h
  simp [placeholder, readPlaceholder, h]

theorem layout_needsMark : NeedsMark layout := by
  intro s h
  simp [layout, readLayout, openKeyword_eq_none h]

/-- An opening mark and a word, as they stand at the front of a directive. -/
def opener (w s : List Char) : List Char := '<' :: ':' :: ' ' :: (w ++ ' ' :: s)

variable {w : List Char}

theorem openMark_opener (hw : IsName w) (s : List Char) :
    openMark (opener w s) = some (w ++ ' ' :: s) := by
  change some (skipSpace (w ++ ' ' :: s)) = _
  rw [hw.skipSpace]

theorem openKeyword_opener (hw : IsName w) (keyword s : List Char) :
    openKeyword keyword (opener w s) = expect keyword (w ++ ' ' :: s) := by
  simp [openKeyword, openMark_opener hw]

/-- A directive of one keyword is not read at another word if what must follow the keyword is no word
character. -/
theorem bind_openKeyword_opener {α : Type} (hw : IsName w) {keyword : List Char}
    (hk : keyword.all isWord = true) (hne : keyword ≠ w) (s : List Char)
    {f : List Char → Option α} (hf : ∀ c r, isWord c = true → f (c :: r) = none) :
    (openKeyword keyword (opener w s)).bind f = none := by
  rw [openKeyword_opener hw]
  exact Text.bind_expect_word hk hw.word hne hf

theorem closeMark_eq_none_of_isWord {c : Char} (h : isWord c = true) (s : List Char) :
    closeMark (c :: s) = none := by
  have hc : ':' ≠ c := by
    rintro rfl
    rw [Unicode.isWord_colon] at h
    cases h
  rw [closeMark, Text.skipSpace_cons_of_not_space s (Text.isSpace_of_isWord h)]
  simp [expect, hc]

theorem closeMark_space (s : List Char) : closeMark (' ' :: ':' :: '>' :: s) = some s := rfl

theorem takeQuote_eq_none_of_isWord {c : Char} (h : isWord c = true) (s : List Char) :
    takeQuote (skipSpace (c :: s)) = none := by
  have hquote : ¬ (c = '\'' ∨ c = '"') := by
    rintro (rfl | rfl)
    · exact absurd h (by decide)
    · exact absurd h (by decide)
  rw [Text.skipSpace_cons_of_not_space s (Text.isSpace_of_isWord h)]
  simp [takeQuote, hquote]

/-! What is read at an opener. -/

theorem readLoop_opener (hw : IsName w) (hne : "for".toList ≠ w) (s : List Char) :
    loop.read (opener w s) = none := by
  refine bind_openKeyword_opener hw (by decide) hne s fun c r hc => ?_
  simp [Text.needSpace_eq_none_of_isWord hc]

theorem readComponent_opener (hw : IsName w) (hne : "component".toList ≠ w) (s : List Char) :
    component.read (opener w s) = none := by
  have hopen : componentOpener (opener w s) = none := by
    unfold componentOpener
    rw [openKeyword_opener hw]
    cases h : expect "component".toList (w ++ ' ' :: s) with
    | none => rfl
    | some rest =>
      obtain he | ⟨c, r, rfl, hc⟩ := Text.expect_word (by decide) hw.word h
      · exact absurd he hne
      · simp [hc]
  simp [component, readComponent, hopen]

/-- No layout is declared where no quote follows the word. -/
theorem readLayout_opener (hw : IsName w) {s : List Char}
    (h : "layout".toList ≠ w ∨ takeQuote (skipSpace s) = none) :
    layout.read (opener w s) = none := by
  change (openKeyword "layout".toList (opener w s)).bind _ = none
  rw [openKeyword_opener hw]
  cases hrest : expect "layout".toList (w ++ ' ' :: s) with
  | none => rfl
  | some rest =>
    have hquote : takeQuote (skipSpace rest) = none := by
      obtain he | ⟨c, r, rfl, hc⟩ := Text.expect_word (by decide) hw.word hrest
      · subst he
        rw [Text.expect_append] at hrest
        cases hrest
        exact h.resolve_left fun hne => hne rfl
      · exact takeQuote_eq_none_of_isWord hc r
    simp [hquote]

theorem readPlaceholder_opener (hw : IsName w) (s : List Char) :
    placeholder.read (opener w (':' :: '>' :: s)) = some (String.ofList w, s) := by
  simp [placeholder, readPlaceholder, openMark_opener hw, hw.takeWord_space, closeMark_space]

/-- A placeholder is no directive with more than a word. -/
theorem readPlaceholder_opener_word (hw : IsName w) {c : Char} (hc : isWord c = true)
    (s : List Char) : placeholder.read (opener w (c :: s)) = none := by
  have hclose : closeMark (' ' :: c :: s) = none := by
    rw [closeMark, Text.skipSpace_space]
    exact closeMark_eq_none_of_isWord hc s
  simp [placeholder, readPlaceholder, openMark_opener hw, hw.takeWord_space, hclose]

theorem loopEnd_opener (hw : IsName w) (hne : "endfor".toList ≠ w) (s : List Char) :
    loopEnd (opener w s) = none :=
  bind_openKeyword_opener hw (by decide) hne s fun _ _ hc => closeMark_eq_none_of_isWord hc _

theorem opensLoop_opener (hw : IsName w) (hne : "for".toList ≠ w) (s : List Char) :
    opensLoop (opener w s) = false := by
  rw [opensLoop, bind_openKeyword_opener hw (by decide) hne s fun c r hc =>
    Text.needSpace_eq_none_of_isWord hc r]
  rfl

end Directive

end Stencil.Template
