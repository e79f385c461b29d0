import Stencil.Proofs.Template.WrittenUses
import Stencil.Template.Stage.Layouts

/-! How a page comes into its layout. Protection of braces changes nothing about where a layout is declared or
where a place for content is; and a page that declares a layout in front of its text asks for the same as one
with this text and this layout by default. -/
namespace Stencil

namespace Text.Recogniser

variable {α : Type} {p : Recogniser α}

theorem search_append_of_skips {front s : List Char} (h : p.Skips front s) :
    p.search (front ++ s) = (p.search s).map fun found => (front ++ found.1, found.2) := by
  induction front with
  | nil => simp
  | cons c front ih =>
    rw [List.cons_append, search, h.head, ih h.tail, Option.map_map]
    rfl

theorem search_of_read {s rest : List Char} {a : α} (h : p.read s = some (a, rest)) :
    p.search s = some ([], a, rest) := by
  cases s with
  | nil => exact absurd (p.read_shorter h) (Nat.not_lt_zero _)
  | cons c s => rw [search, h]

end Text.Recogniser

namespace Template

open Text (IsName Piece Recogniser expect skipSpace)

/-! ### Readers and protected texts -/

namespace Directive

theorem expect_protect {lead : List Char} (h : '{' ∉ lead) (s : List Char) :
    expect lead (protect s) = (expect lead s).map protect := by
  induction lead generalizing s with
  | nil => rfl
  | cons a lead ih =>
    rw [List.mem_cons, not_or] at h
    cases s with
    | nil => rfl
    | cons c s =>
      by_cases hc : c = '{'
      · subst hc
        rw [protect_cons_brace, expect, if_neg (Ne.symm h.1)]
        exact if_neg (Ne.symm h.1)
      · rw [protect_cons s hc, expect, expect, ih h.2]
        split <;> rfl

theorem openKeyword_protect {keyword : List Char} (h : '{' ∉ keyword) (s : List Char) :
    openKeyword keyword (protect s) = (openKeyword keyword s).map protect := by
  rw [openKeyword, openKeyword, openMark, openMark, expect_protect (by decide)]
  cases expect ['<', ':'] s with
  | none => rfl
  | some s => simp only [Option.map_some, Option.bind_some, skipSpace_protect, expect_protect h]

theorem closeMark_protect (s : List Char) : closeMark (protect s) = (closeMark s).map protect := by
  rw [closeMark, closeMark, skipSpace_protect, expect_protect (by decide)]

theorem takeQuote_protect (s : List Char) :
    takeQuote (protect s) = (takeQuote s).map fun r => (r.1, protect r.2) := by
  cases s with
  | nil => rfl
  | cons c s =>
    by_cases hc : c = '{'
    · subst hc
      rfl
    · rw [protect_cons s hc, takeQuote, takeQuote]
      split <;> rfl

theorem ne_brace_of_takeQuote {s rest : List Char} {quote : Char} (h : takeQuote s = some (quote, rest)) :
    quote ≠ '{' := by
  cases s with
  | nil => cases h
  | cons c s =>
    rw [takeQuote] at h
    split at h
    · next hc =>
      cases h
      rcases hc with rfl | rfl <;> decide
    · cases h

/-- A reader after another one, each of which reads the same in a protected text. -/
theorem bind_map_congr {α α' β β' : Type} {x : Option α} {x' : Option α'} {f : α → Option β}
    {f' : α' → Option β'} {g : α → α'} {h : β → β'} (hx : x' = x.map g)
    (hf : ∀ a, x = some a → f' (g a) = (f a).map h) : x'.bind f' = (x.bind f).map h := by
  subst hx
  cases x with
  | none => rfl
  | some a => exact hf a rfl

end Directive

/-- Whether a recogniser reads the same in a text and in its protection. -/
def ReadsProtected {α : Type} (p : Recogniser α) : Prop :=
  ∀ s, p.read (protect s) = (p.read s).map fun r => (r.1, protect r.2)

namespace Directive

theorem layout_readsProtected : ReadsProtected layout := by
  intro s
  refine bind_map_congr (openKeyword_protect (by decide) s) fun s _ => ?_
  refine bind_map_congr ((congrArg takeQuote (skipSpace_protect s)).trans (takeQuote_protect _))
    fun ⟨quote, s⟩ hquote => ?_
  have hbrace : '{' ∉ [quote] := by simpa using (ne_brace_of_takeQuote hquote).symm
  refine bind_map_congr (takeName_protect s) fun ⟨name, s⟩ _ => ?_
  refine bind_map_congr (expect_protect hbrace s) fun s _ => ?_
  exact bind_map_congr (closeMark_protect s) fun s _ => rfl

theorem content_readsProtected : ReadsProtected content := by
  intro s
  refine bind_map_congr (openKeyword_protect (by decide) s) fun s _ => ?_
  exact bind_map_congr (closeMark_protect s) fun s _ => rfl

theorem content_needsMark : NeedsMark content := by
  intro s h
  simp [content, readContent, openKeyword_eq_none h]

end Directive

/-- The text that takes the place of a piece of a text that is going to be protected. -/
def putProtected {α : Type} (f : α → List Char) : Piece α → List Char
  | .char c => protect [c]
  | .mark a _ => f a

section

variable {α : Type} {p : Recogniser α} (hmark : NeedsMark p) (hread : ReadsProtected p)
include hmark

theorem NeedsMark.skips_braceToken (s : List Char) : p.Skips braceToken s :=
  (Unmarked.of_notMem (by decide) s).skips hmark

include hread

/-- The first stretch of a protected text is that of the text. -/
theorem search_protect (s : List Char) :
    p.search (protect s) = (p.search s).map fun r => (protect r.1, r.2.1, protect r.2.2) := by
  induction s with
  | nil => rfl
  | cons c s ih =>
    by_cases hc : c = '{'
    · subst hc
      have hnone : p.read ('{' :: s) = none := hmark _ (openMark_eq_none_of_ne (by decide) s)
      rw [protect_cons_brace, Recogniser.search_append_of_skips (hmark.skips_braceToken _), ih,
        Recogniser.search, hnone]
      simp [Function.comp_def]
    · have hhead := hread (c :: s)
      rw [protect_cons s hc] at hhead ⊢
      rw [Recogniser.search, Recogniser.search, hhead]
      cases p.read (c :: s) with
      | some found => rfl
      | none => simp [ih, Function.comp_def, protect_cons _ hc]

/-- What is put in the places of a protected text stands where the stretches of the text were, between what
stood between them, protected. -/
theorem replace_protect (f : α → List Char) (s : List Char) :
    p.replace (fun a _ => f a) (protect s) = (p.pieces s).flatMap (putProtected f) := by
  fun_induction Recogniser.pieces p s with
  | case1 => simp
  | case2 c s a rest h _ ih =>
    have hc : c ≠ '{' := by
      rintro rfl
      rw [hmark _ (openMark_eq_none_of_ne (by decide) s)] at h
      cases h
    have hhead := hread (c :: s)
    rw [h, Option.map_some] at hhead
    obtain ⟨source, hsource⟩ := Recogniser.exists_source hhead
    rw [hsource] at hhead ⊢
    rw [Recogniser.replace_append_of_read hhead, ih, List.flatMap_cons, putProtected]
  | case3 c s h ih =>
    rw [List.flatMap_cons, putProtected, ← ih]
    by_cases hc : c = '{'
    · subst hc
      rw [protect_cons_brace, Recogniser.replace_append_of_skips (hmark.skips_braceToken _)]
      simp
    · have hhead := hread (c :: s)
      rw [h, protect_cons s hc] at hhead
      rw [protect_cons s hc, Recogniser.replace_cons_of_read_none hhead, protect_cons [] hc]
      rfl

end

/-! ### Declared layouts and default layouts -/

/-- A layout with a body in its places for content. Both are protected, and nothing of the body is looked at. -/
def filledLayout (layout body : List Char) : List Char :=
  (Directive.content.pieces layout).flatMap (putProtected fun _ => protect body)

theorem fillLayout_protect (layout body : List Char) :
    fillLayout (protect layout) (protect body) = filledLayout layout body :=
  replace_protect Directive.content_needsMark Directive.content_readsProtected (fun _ => protect body) layout

/-- `<: layout "name" :>`, the declaration of a layout. -/
def declaration (name : String) : List Char :=
  Directive.opener "layout".toList ('"' :: (name.toList ++ ['"', ' ', ':', '>']))

variable {name : String} {body : List Char}

theorem declaration_append (name : String) (s : List Char) :
    declaration name ++ s =
      Directive.opener "layout".toList ('"' :: (name.toList ++ '"' :: ' ' :: ':' :: '>' :: s)) := by
  simp [declaration, Directive.opener]

theorem protect_declaration (h : IsTemplateName name.toList) : protect (declaration name) = declaration name := by
  have hbrace : '{' ∉ name.toList := h.notMem (by decide)
  refine protect_eq_self ?_
  simp [declaration, Directive.opener, hbrace]

theorem readLayout_declaration (h : IsTemplateName name.toList) (s : List Char) :
    Directive.readLayout (declaration name ++ s) = some (name, s) := by
  have hword : IsName "layout".toList := Text.isName_of_all (by decide) (by decide +kernel)
  have hname := h.takeName_append (c := '"') (by decide) (' ' :: ':' :: '>' :: s)
  have hquote (t : List Char) : Directive.takeQuote (skipSpace (' ' :: '"' :: t)) = some ('"', t) := rfl
  have hclose : Directive.closeMark (' ' :: ':' :: '>' :: s) = some s := Directive.closeMark_space s
  rw [declaration_append, Directive.readLayout, Directive.openKeyword_opener hword, Text.expect_append]
  simp [hquote, hname, expect, hclose]

/-- A page that declares a layout in front of its text is put into this one, whatever the default is. -/
theorem compositionOf_declaration (h : IsTemplateName name.toList) (fallback : Option String) :
    compositionOf fallback (protect (declaration name ++ body)) = some ⟨name, [], protect body⟩ := by
  have hsearch : Directive.layout.search (declaration name ++ protect body) = some ([], name, protect body) :=
    Recogniser.search_of_read (readLayout_declaration h (protect body))
  rw [protect_append, protect_declaration h]
  simp only [compositionOf, hsearch]

/-- A page that declares no layout is put into the default one. -/
theorem compositionOf_default (h : IsTemplateName name.toList) (hbody : Directive.layout.search body = none) :
    compositionOf (some name) (protect body) = some ⟨name, [], protect body⟩ := by
  have hsearch : Directive.layout.search (protect body) = none := by
    rw [search_protect Directive.layout_needsMark Directive.layout_readsProtected, hbody]
    rfl
  have hname : name ≠ "" := by
    rintro rfl
    exact h.ne_nil rfl
  simp only [compositionOf, hsearch, if_neg hname]

end Template

end Stencil
