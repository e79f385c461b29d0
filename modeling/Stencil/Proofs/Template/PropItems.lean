import Stencil.Proofs.Words
import Stencil.Template.Prop

/-! How a text falls into props. Blanks, props as they are spelled, and fragments make it up without loss. A
fragment begins where no prop can be read and goes on to the next blank outside quotes. There is one such
tiling of a text, and it is the one that is read. -/
namespace Stencil.Template

open Text (IsName expect isSpace skipSpace takeWord)
open Directive (isQuote quoteAfter)

/-- What stands in front of the key of a prop. -/
def bindMark (bound : Bool) : List Char := if bound then [':'] else []

/-- How a prop is spelled: its key, an equals sign among blanks, and its value between two quotes of a kind
that is not in it. -/
inductive PropToken.Spelled : PropToken → List Char → Prop
  | intro {key before after value : List Char} {quote : Char} (bound : Bool) (hkey : IsName key)
      (hbefore : before.all isSpace = true) (hafter : after.all isSpace = true)
      (hquote : isQuote quote = true) (hvalue : quote ∉ value) :
      Spelled ⟨String.ofList key, String.ofList value, bound⟩
        (bindMark bound ++ (key ++ (before ++ '=' :: (after ++ quote :: (value ++ [quote])))))

/-- The quote that is open behind a text, given the one that is open in front of it. -/
def quoteBehind (quote : Option Char) (s : List Char) : Option Char := s.foldl quoteAfter quote

/-- Whether a text goes on to the next blank outside quotes, with `quote` open in front of it and `rest`
behind it. -/
structure RunsOn (quote : Option Char) (s rest : List Char) : Prop where
  unbroken : ∀ before c after, s = before ++ c :: after → quoteBehind quote before = none →
    isSpace c = false
  ends : rest = [] ∨ quoteBehind quote s = none ∧ ∃ c after, rest = c :: after ∧ isSpace c = true

/-- Whether a text is set aside as a fragment in front of `rest`. -/
structure IsFragment (s rest : List Char) : Prop where
  ne_nil : s ≠ []
  noProp : ∀ p source, PropToken.Spelled p source → ¬ source <+: s ++ rest
  runsOn : RunsOn none s rest

/-- Whether a text is blanks with the items between them, in this order. -/
inductive PropItem.Tiles : List PropItem → List Char → Prop
  | done {blanks : List Char} (hblanks : blanks.all isSpace = true) : PropItem.Tiles [] blanks
  | pair {blanks source rest : List Char} {p : PropToken} {items : List PropItem}
      (hblanks : blanks.all isSpace = true) (hp : p.Spelled source) (h : PropItem.Tiles items rest) :
      PropItem.Tiles (.pair p :: items) (blanks ++ (source ++ rest))
  | fragment {blanks s rest : List Char} {items : List PropItem}
      (hblanks : blanks.all isSpace = true) (hs : IsFragment s rest) (h : PropItem.Tiles items rest) :
      PropItem.Tiles (.fragment s :: items) (blanks ++ (s ++ rest))

/-! ### Props -/

theorem untilQuote_append {quote : Char} {value : List Char} (h : quote ∉ value) (s : List Char) :
    untilQuote quote (value ++ quote :: s) = some (value, s) := by
  induction value with
  | nil => simp [untilQuote]
  | cons c value ih =>
    rw [List.mem_cons, not_or] at h
    simp [untilQuote, Ne.symm h.1, ih h.2]

theorem eq_of_untilQuote {quote : Char} {s value rest : List Char}
    (h : untilQuote quote s = some (value, rest)) : s = value ++ quote :: rest ∧ quote ∉ value := by
  induction s generalizing value with
  | nil => cases h
  | cons c s ih =>
    rw [untilQuote] at h
    split at h
    · next hc =>
      cases h
      exact ⟨by rw [hc]; rfl, List.not_mem_nil⟩
    · next hc =>
      obtain ⟨r, hr, he⟩ := Option.map_eq_some_iff.mp h
      cases he
      obtain ⟨hs, hvalue⟩ := ih hr
      exact ⟨congrArg (c :: ·) hs, by simp [Ne.symm hc, hvalue]⟩

/-- A key ends at blanks and an equals sign. -/
theorem takeWord_key {key before : List Char} (hkey : IsName key) (hbefore : before.all isSpace = true)
    (s : List Char) : takeWord (key ++ (before ++ '=' :: s)) = some (key, before ++ '=' :: s) := by
  cases before with
  | nil => exact hkey.takeWord (by decide) s
  | cons c before =>
    rw [List.all_cons, Bool.and_eq_true] at hbefore
    exact hkey.takeWord (Text.isWord_of_isSpace hbefore.1) _

theorem skipSpace_blanks {blanks s : List Char} {c : Char} (hblanks : blanks.all isSpace = true)
    (hc : isSpace c = false) : skipSpace (blanks ++ c :: s) = c :: s := by
  rw [Text.skipSpace_append hblanks, Text.skipSpace_cons_of_not_space s hc]

theorem isSpace_of_isQuote {c : Char} (h : isQuote c = true) : isSpace c = false := by
  have hc : c = '"' ∨ c = '\'' := by simpa [isQuote] using h
  rcases hc with rfl | rfl
  · decide
  · decide

theorem readUnbound_eq_some_iff {bound : Bool} {p : PropToken} {s rest : List Char} :
    readUnbound bound s = some (p, rest) ↔
      p.bound = bound ∧ ∃ source, p.Spelled (bindMark bound ++ source) ∧ s = source ++ rest := by
  simp only [readUnbound, Option.bind_eq_bind]
  constructor
  · intro h
    obtain ⟨⟨key, s₁⟩, hkey, h⟩ := Option.bind_eq_some_iff.mp h
    obtain ⟨s₂, hequals, h⟩ := Option.bind_eq_some_iff.mp h
    obtain ⟨⟨value, s₃⟩, hvalue, h⟩ := Option.bind_eq_some_iff.mp h
    cases h
    obtain ⟨rfl, hne, hword⟩ := Text.takeWord_eq_some hkey
    obtain ⟨before, hbefore, hs₁⟩ := Text.exists_blanks s₁
    obtain ⟨after, hafter, hs₂⟩ := Text.exists_blanks s₂
    have hequals := Text.expect_eq_some hequals
    cases hquoted : skipSpace s₂ with
    | nil =>
      rw [hquoted] at hvalue
      cases hvalue
    | cons quote s₄ =>
      simp only [hquoted, readQuoted] at hvalue
      split at hvalue
      · next hquote =>
        obtain ⟨rfl, hnotin⟩ := eq_of_untilQuote hvalue
        refine ⟨rfl, _, .intro bound (Text.isName_of_all hne hword) hbefore hafter hquote hnotin, ?_⟩
        rw [hs₁, hequals, hs₂, hquoted]
        simp
      · cases hvalue
  · rintro ⟨rfl, source, hp, rfl⟩
    generalize htext : bindMark p.bound ++ source = text at hp
    cases hp with
    | @intro key before after value quote bound hkey hbefore hafter hquote hvalue =>
      obtain rfl := List.append_cancel_left htext
      have hsource : key ++ (before ++ '=' :: (after ++ quote :: (value ++ [quote]))) ++ rest =
          key ++ (before ++ '=' :: (after ++ quote :: (value ++ quote :: rest))) := by simp
      rw [hsource, takeWord_key hkey hbefore, Option.bind_some, skipSpace_blanks hbefore (by decide)]
      change (readQuoted (skipSpace (after ++ _))).bind _ = _
      rw [skipSpace_blanks hafter (isSpace_of_isQuote hquote), readQuoted, if_pos hquote,
        untilQuote_append hvalue]
      rfl

/-- The key of a prop begins with no colon. -/
theorem PropToken.Spelled.exists_key {p : PropToken} {source : List Char} (h : p.Spelled source) :
    ∃ c key, source = bindMark p.bound ++ c :: key ∧ isSpace c = false ∧ c ≠ ':' := by
  cases h with
  | intro bound hkey =>
    obtain ⟨c, key, rfl, hc⟩ := hkey.exists_cons
    refine ⟨c, _, rfl, Text.isSpace_of_isWord hc, ?_⟩
    rintro rfl
    rw [Unicode.isWord_colon] at hc
    cases hc

/-- A prop begins with no blank. -/
theorem PropToken.Spelled.exists_first {p : PropToken} {source : List Char} (h : p.Spelled source) :
    ∃ c s, source = c :: s ∧ isSpace c = false := by
  obtain ⟨c, key, rfl, hc, -⟩ := h.exists_key
  cases p.bound with
  | false => exact ⟨c, key, rfl, hc⟩
  | true => exact ⟨':', c :: key, rfl, by decide⟩

/-- A prop is read at the start of a text exactly if its spelling stands there. -/
theorem readProp_eq_some_iff {p : PropToken} {s rest : List Char} :
    readProp s = some (p, rest) ↔ ∃ source, p.Spelled source ∧ s = source ++ rest := by
  unfold readProp
  split
  · next s =>
    rw [readUnbound_eq_some_iff]
    constructor
    · rintro ⟨-, source, hp, rfl⟩
      exact ⟨_, hp, rfl⟩
    · rintro ⟨source, hp, hs⟩
      obtain ⟨c, key, rfl, -, hc⟩ := hp.exists_key
      cases hbound : p.bound with
      | false =>
        rw [hbound] at hs
        exact absurd (List.cons.inj hs).1.symm hc
      | true =>
        rw [hbound] at hp hs
        exact ⟨rfl, _, hp, (List.cons.inj hs).2⟩
  · next hs =>
    rw [readUnbound_eq_some_iff]
    constructor
    · rintro ⟨-, source, hp, rfl⟩
      exact ⟨_, hp, rfl⟩
    · rintro ⟨source, hp, rfl⟩
      obtain ⟨c, key, rfl, -⟩ := hp.exists_key
      cases hbound : p.bound with
      | false =>
        rw [hbound] at hp
        exact ⟨rfl, _, hp, rfl⟩
      | true => exact absurd (by rw [hbound]; rfl) (hs (c :: key ++ rest))

/-! ### Fragments -/

theorem runsOn_nil {quote : Option Char} {rest : List Char} :
    RunsOn quote [] rest ↔
      rest = [] ∨ quote = none ∧ ∃ c after, rest = c :: after ∧ isSpace c = true :=
  ⟨fun h => h.ends, fun h => ⟨by simp, h⟩⟩

theorem runsOn_cons {quote : Option Char} {c : Char} {s rest : List Char} :
    RunsOn quote (c :: s) rest ↔
      (quote = none → isSpace c = false) ∧ RunsOn (quoteAfter quote c) s rest := by
  constructor
  · rintro ⟨hunbroken, hends⟩
    refine ⟨hunbroken [] c s rfl, fun before d after he hquote => ?_, hends⟩
    exact hunbroken (c :: before) d after (by rw [he]; rfl) hquote
  · rintro ⟨hc, hunbroken, hends⟩
    refine ⟨fun before d after he hquote => ?_, hends⟩
    cases before with
    | nil =>
      obtain ⟨rfl, -⟩ := List.cons.inj he
      exact hc hquote
    | cons b before =>
      obtain ⟨rfl, rfl⟩ := List.cons.inj he
      exact hunbroken before d after rfl hquote

/-- What is cut off a text goes on to the next blank outside quotes. -/
theorem runsOn_splitFragment (quote : Option Char) (s : List Char) :
    RunsOn quote (splitFragment quote s).1 (splitFragment quote s).2 := by
  induction s generalizing quote with
  | nil => exact runsOn_nil.mpr (.inl rfl)
  | cons c s ih =>
    rw [splitFragment]
    split
    · next hblank => exact runsOn_nil.mpr (.inr ⟨hblank.1, c, s, rfl, hblank.2⟩)
    · next hblank =>
      refine runsOn_cons.mpr ⟨fun hquote => ?_, ih (quoteAfter quote c)⟩
      exact Bool.eq_false_iff.mpr fun hc => hblank ⟨hquote, hc⟩

/-- Nothing else of a text does so. -/
theorem RunsOn.splitFragment_eq {quote : Option Char} {s rest : List Char} (h : RunsOn quote s rest) :
    splitFragment quote (s ++ rest) = (s, rest) := by
  induction s generalizing quote with
  | nil =>
    rcases runsOn_nil.mp h with rfl | ⟨rfl, c, after, rfl, hc⟩
    · rfl
    · exact if_pos ⟨rfl, hc⟩
  | cons c s ih =>
    obtain ⟨hc, h⟩ := runsOn_cons.mp h
    have hblank : ¬ (quote = none ∧ isSpace c = true) := by
      rintro ⟨hquote, hspace⟩
      rw [hc hquote] at hspace
      cases hspace
    rw [List.cons_append, splitFragment, if_neg hblank, ih h]

/-! ### Items -/

section

variable {s : List Char}

theorem lexProps_of_blank (h : skipSpace s = []) : lexProps s = [] := by
  rw [lexProps]
  split
  · rfl
  · next heq =>
    rw [h] at heq
    cases heq

theorem lexProps_of_readProp {c : Char} {t rest : List Char} {p : PropToken}
    (h : skipSpace s = c :: t) (hread : readProp (c :: t) = some (p, rest)) :
    lexProps s = .pair p :: lexProps rest := by
  rw [lexProps]
  split
  · next heq =>
    rw [h] at heq
    cases heq
  · next heq =>
    rw [h] at heq
    cases heq
    split
    · next hsome =>
      rw [hread] at hsome
      cases hsome
      rfl
    · next hnone =>
      rw [hread] at hnone
      cases hnone

theorem lexProps_of_readProp_none {c : Char} {t first rest : List Char} (h : skipSpace s = c :: t)
    (hread : readProp (c :: t) = none) (hsplit : splitFragment (quoteAfter none c) t = (first, rest)) :
    lexProps s = .fragment (c :: first) :: lexProps rest := by
  rw [lexProps]
  split
  · next heq =>
    rw [h] at heq
    cases heq
  · next heq =>
    rw [h] at heq
    cases heq
    split
    · next hsome =>
      rw [hread] at hsome
      cases hsome
    · simp only [hsplit]

end

/-- A prop is read before all that follows it. -/
theorem lexProps_append_prop {blanks source : List Char} {p : PropToken}
    (hblanks : blanks.all isSpace = true) (hp : p.Spelled source) (rest : List Char) :
    lexProps (blanks ++ (source ++ rest)) = .pair p :: lexProps rest := by
  have hread : readProp (source ++ rest) = some (p, rest) :=
    readProp_eq_some_iff.mpr ⟨source, hp, rfl⟩
  obtain ⟨c, t, rfl, hc⟩ := hp.exists_first
  exact lexProps_of_readProp (skipSpace_blanks hblanks hc) hread

theorem lexProps_append_fragment {blanks s rest : List Char} (hblanks : blanks.all isSpace = true)
    (h : IsFragment s rest) :
    lexProps (blanks ++ (s ++ rest)) = .fragment s :: lexProps rest := by
  obtain ⟨c, t, rfl⟩ := List.exists_cons_of_ne_nil h.ne_nil
  obtain ⟨hc, hruns⟩ := runsOn_cons.mp h.runsOn
  have hread : readProp (c :: (t ++ rest)) = none := by
    refine Option.eq_none_iff_forall_ne_some.mpr fun found hread => ?_
    obtain ⟨source, hp, hsource⟩ := readProp_eq_some_iff.mp hread
    exact h.noProp found.1 source hp ⟨found.2, hsource.symm⟩
  exact lexProps_of_readProp_none (skipSpace_blanks hblanks (hc rfl)) hread hruns.splitFragment_eq

/-- Only what is read tiles a text. -/
theorem PropItem.Tiles.lexProps_eq {items : List PropItem} {s : List Char} (h : PropItem.Tiles items s) :
    lexProps s = items := by
  induction h with
  | done hblanks =>
    refine lexProps_of_blank ?_
    have hskip := Text.skipSpace_append hblanks []
    rwa [List.append_nil] at hskip
  | pair hblanks hp _ ih => rw [lexProps_append_prop hblanks hp, ih]
  | fragment hblanks hs _ ih => rw [lexProps_append_fragment hblanks hs, ih]

/-- What is read tiles the text. -/
theorem tiles_lexProps (s : List Char) : PropItem.Tiles (lexProps s) s := by
  fun_induction lexProps s with
  | case1 s h =>
    obtain ⟨blanks, hblanks, hs⟩ := Text.exists_blanks s
    rw [hs, h, List.append_nil]
    exact .done hblanks
  | case2 s c t h _ p rest hread _ ih =>
    obtain ⟨blanks, hblanks, hs⟩ := Text.exists_blanks s
    obtain ⟨source, hp, hsource⟩ := readProp_eq_some_iff.mp hread
    rw [hs, h, hsource]
    exact .pair hblanks hp ih
  | case3 s c t h _ hread r _ ih =>
    obtain ⟨blanks, hblanks, hs⟩ := Text.exists_blanks s
    have htext : c :: t = (c :: r.1) ++ r.2 :=
      congrArg (c :: ·) (splitFragment_append (quoteAfter none c) t).symm
    rw [hs, h, htext]
    refine .fragment hblanks ⟨List.cons_ne_nil _ _, fun p source hp hstart => ?_, ?_⟩ ih
    · obtain ⟨rest, hsource⟩ := hstart
      rw [readProp_eq_some_iff.mpr ⟨source, hp, htext.trans hsource.symm⟩] at hread
      cases hread
    · have hc := Text.isSpace_of_skipSpace h
      exact runsOn_cons.mpr ⟨fun _ => hc, runsOn_splitFragment (quoteAfter none c) t⟩

/-- No item is without a character of its own. -/
theorem PropItem.Tiles.length_le {items : List PropItem} {s : List Char} (h : PropItem.Tiles items s) :
    items.length ≤ s.length := by
  induction h with
  | done => exact Nat.zero_le _
  | pair _ hp _ ih =>
    obtain ⟨c, t, rfl, -⟩ := hp.exists_first
    simp only [List.length_cons, List.length_append]
    omega
  | fragment _ hs _ ih =>
    have := List.length_pos_iff.mpr hs.ne_nil
    simp only [List.length_cons, List.length_append]
    omega

/-- A text falls into props and fragments, of which there are no more than characters; they tile the text, and
no other items do. -/
theorem lexProps_eq_iff_tiles (s : List Char) :
    (lexProps s).length ≤ s.length ∧ ∀ items, lexProps s = items ↔ PropItem.Tiles items s := by
  refine ⟨(tiles_lexProps s).length_le, fun items => ⟨?_, PropItem.Tiles.lexProps_eq⟩⟩
  rintro rfl
  exact tiles_lexProps s

end Stencil.Template
