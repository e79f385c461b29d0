import Mathlib.Data.List.Infix
import Stencil.Proofs.Template.PropItems
import Stencil.Proofs.Template.Seams
import Stencil.Proofs.Template.Uses

/-! Printed uses of components. Props are printed one behind the other, each value between quotes of a kind
that is not in it. Whatever stands around a use, it is read up to the end that was printed, as the name and the
props that were printed. -/
namespace Stencil.Template

open Text (IsName Recogniser isSpace skipSpace)

/-- A prop, and a kind of quote to be printed around its value. -/
structure QuotedProp where
  token : PropToken
  quote : Char
  isName : IsName token.key.toList
  isQuote : Directive.isQuote quote = true
  unquoted : quote ∉ token.value.toList

/-- `key="value"`, or `:key="value"` for a bound prop. -/
def QuotedProp.text (p : QuotedProp) : List Char :=
  bindMark p.token.bound ++ (p.token.key.toList ++ '=' :: p.quote :: (p.token.value.toList ++ [p.quote]))

/-- Props with a blank behind each. -/
def propsText (ps : List QuotedProp) : List Char := ps.flatMap fun p => p.text ++ [' ']

/-- What stands in front of the last sign of a use. -/
def endMark (colon : Bool) : List Char := if colon then [':'] else []

/-- `<: component name props >`, or the same with `:>` at its end. -/
def printedUse (name : String) (ps : List QuotedProp) (colon : Bool) : List Char :=
  useText name.toList (propsText ps ++ endMark colon)

/-! ### Props -/

theorem QuotedProp.spelled (p : QuotedProp) : p.token.Spelled p.text := by
  have hblank : ([] : List Char).all isSpace = true := rfl
  have h := PropToken.Spelled.intro p.token.bound p.isName hblank hblank p.isQuote p.unquoted
  rwa [String.ofList_toList, String.ofList_toList] at h

theorem tiles_propsText (ps : List QuotedProp) :
    PropItem.Tiles (ps.map fun p => .pair p.token) (propsText ps) := by
  -- the blank behind a prop belongs to what follows the prop
  suffices ∀ blanks : List Char, blanks.all isSpace = true →
      PropItem.Tiles (ps.map fun p => .pair p.token) (blanks ++ propsText ps) from this [] rfl
  induction ps with
  | nil =>
    intro blanks hblanks
    exact .done (by simpa [propsText] using hblanks)
  | cons p ps ih =>
    intro blanks hblanks
    have h := PropItem.Tiles.pair hblanks p.spelled (ih [' '] rfl)
    simpa [propsText] using h

/-- The text of props begins with no blank. -/
theorem skipSpace_propsText (ps : List QuotedProp) : skipSpace (propsText ps) = propsText ps := by
  cases ps with
  | nil => rfl
  | cons p ps =>
    obtain ⟨c, s, hp, hc⟩ := p.spelled.exists_first
    rw [propsText, List.flatMap_cons, hp]
    exact Text.skipSpace_cons_of_not_space _ hc

/-! ### Ends -/

namespace Directive

/-- Whether an end is looked for behind a text as if the text were not there: each quote in it is closed, and
no end stands outside of quotes. -/
def Passed (x : List Char) : Prop :=
  ∀ s, splitEnd none (x ++ s) = (splitEnd none s).map fun r => (x ++ r.1, r.2)

theorem Passed.append {x y : List Char} (hx : Passed x) (hy : Passed y) : Passed (x ++ y) := by
  intro s
  rw [List.append_assoc, hx, hy, Option.map_map]
  exact congrArg (Option.map · _) (funext fun r => by simp)

theorem passed_of_plain {x : List Char} (h : ∀ c ∈ x, c ≠ '>' ∧ isQuote c = false) : Passed x :=
  splitEnd_append h

/-- All that stands between two quotes is passed. -/
theorem passed_quoted {quote : Char} (hquote : isQuote quote = true) {value : List Char}
    (h : quote ∉ value) : Passed (quote :: (value ++ [quote])) := by
  have hend : quote ≠ '>' := by
    rintro rfl
    exact absurd hquote (by decide)
  intro s
  have hvalue := splitEnd_quoted h s
  rw [List.cons_append, splitEnd, if_neg fun hc => hend hc.2, quoteAfter, if_pos hquote,
    List.append_assoc, List.singleton_append, hvalue, Option.map_map]
  exact congrArg (Option.map · _) (funext fun r => by simp)

theorem passed_text (p : QuotedProp) : Passed p.text := by
  have hmark : Passed (bindMark p.token.bound) := by
    cases p.token.bound with
    | false => exact passed_of_plain (by simp [bindMark])
    | true => exact passed_of_plain (by simp [bindMark, isQuote])
  have hkey : Passed p.token.key.toList :=
    passed_of_plain fun c hc => plain_of_isNameChar (by simp [isNameChar, p.isName.word c hc])
  have hequals : Passed ['='] := passed_of_plain (by simp [isQuote])
  exact hmark.append (hkey.append (hequals.append (passed_quoted p.isQuote p.unquoted)))

theorem passed_propsText (ps : List QuotedProp) : Passed (propsText ps) := by
  have hblank : Passed [' '] := passed_of_plain (by simp [isQuote])
  induction ps with
  | nil => exact passed_of_plain (by simp [propsText])
  | cons p ps ih => exact ((passed_text p).append hblank).append ih

/-- A use ends where it was printed to end. -/
theorem splitEnd_printed (ps : List QuotedProp) (colon : Bool) (s : List Char) :
    splitEnd none (propsText ps ++ endMark colon ++ '>' :: s) =
      some (propsText ps ++ endMark colon, s) := by
  have hmark : Passed (endMark colon) := by
    cases colon with
    | false => exact passed_of_plain (by simp [endMark])
    | true => exact passed_of_plain (by simp [endMark, isQuote])
  rw [(passed_propsText ps).append hmark]
  simp [splitEnd]

/-- The colon of the end is none of the props. -/
theorem dropColon_printed (name : List Char) (ps : List QuotedProp) (colon : Bool) :
    dropColon (' ' :: (name ++ ' ' :: (propsText ps ++ endMark colon))) =
      ' ' :: (name ++ ' ' :: propsText ps) := by
  cases colon with
  | false =>
    rw [endMark, if_neg Bool.false_ne_true, List.append_nil]
    refine dropColon_use ?_
    rcases List.eq_nil_or_concat' ps with rfl | ⟨ps, p, rfl⟩
    · nofun
    · simp [propsText]
  | true =>
    have hsplit : ' ' :: (name ++ ' ' :: (propsText ps ++ endMark true)) =
        ' ' :: (name ++ ' ' :: propsText ps) ++ [':'] := by simp [endMark]
    rw [hsplit, dropColon, List.getLast?_concat, if_pos rfl, List.dropLast_concat]

/-- A printed use is read up to its end, whatever follows it. -/
theorem readComponent_printed {name : String} (hname : IsTemplateName name.toList)
    (ps : List QuotedProp) (colon : Bool) (s : List Char) :
    component.read (printedUse name ps colon ++ s) = some (some ⟨name, propsText ps⟩, s) := by
  rw [printedUse, readComponent_useText hname (splitEnd_printed ps colon s),
    readHead_of_dropColon hname (dropColon_printed name.toList ps colon), skipSpace_propsText,
    String.ofList_toList]

/-- No use begins in a text without an opener, whatever is printed behind it. -/
theorem component_skips {before : List Char}
    (h : ∀ s, s <:+ before → componentOpener s = none) (s : List Char) :
    component.Skips before ('<' :: s) := by
  intro c front after he
  have hnone : componentOpener (c :: after) = none := h _ ⟨front, he.symm⟩
  have hseam : Seam (c :: after) ('<' :: s) := .inr (.inl ⟨'<', s, rfl, by decide⟩)
  have hopen : opensComponent (c :: after ++ '<' :: s) = false := by
    rw [opensComponent_isLocal.append (List.cons_ne_nil c after) hseam, opensComponent, hnone]
    rfl
  change readComponent (c :: after ++ '<' :: s) = none
  rw [readComponent, Option.not_isSome_iff_eq_none.mp (Bool.eq_false_iff.mp hopen)]

end Directive

section

variable (lib : Library) (expand : Scope → List Char → Expansion (List Char)) (scope : Scope)

/-- Characters in front of other pieces stay in front of what those come to. -/
theorem includeComponents_chars (front : List Char)
    (pieces : List (Text.Piece (Option Directive.ComponentUse))) :
    includeComponents lib expand scope (front.map .char ++ pieces) = (do
      let out ← includeComponents lib expand scope pieces
      return front ++ out) := by
  induction front with
  | nil => exact (bind_pure _).symm
  | cons c front ih =>
    rw [List.map_cons, List.cons_append, includeComponents, ih, bind_assoc]
    simp only [pure_bind, List.cons_append]

/-- A text with a printed use in it, behind a text in which no use begins: the use is cut out from its opener
to its end, the name and the props that were printed are read in it, and components are put in place first
there and then in what follows. -/
theorem resolveComponents_printed {before : List Char}
    (hbefore : ∀ s, s <:+ before → Directive.componentOpener s = none) {name : String}
    (hname : IsTemplateName name.toList) (ps : List QuotedProp) (colon : Bool) (after : List Char) :
    lexProps (propsText ps) = ps.map (fun p => .pair p.token) ∧
    Directive.component.pieces (before ++ (printedUse name ps colon ++ after)) =
      before.map .char ++ .mark (some ⟨name, propsText ps⟩) (printedUse name ps colon) ::
        Directive.component.pieces after ∧
    resolveComponents lib expand scope (before ++ (printedUse name ps colon ++ after)) = (do
      let mine ← includeComponent lib expand scope ⟨name, propsText ps⟩
      let (scope, rest) ← resolveComponents lib expand scope after
      return (scope, before ++ (mine ++ rest))) := by
  have hskips : Directive.component.Skips before (printedUse name ps colon ++ after) :=
    Directive.component_skips hbefore _
  have hpieces : Directive.component.pieces (before ++ (printedUse name ps colon ++ after)) =
      before.map .char ++ .mark (some ⟨name, propsText ps⟩) (printedUse name ps colon) ::
        Directive.component.pieces after := by
    rw [Recogniser.pieces_append_of_skips hskips,
      Recogniser.pieces_append_of_read (Directive.readComponent_printed hname ps colon after)]
  refine ⟨(tiles_propsText ps).lexProps_eq, hpieces, ?_⟩
  rw [resolveComponents, hpieces, includeComponents_chars, includeComponents]
  simp only [resolveComponents, bind_assoc, pure_bind]

end

/-- Props whose values hold signs of the markup around them, the first between the quotes of the other kind. -/
def cardProps : List QuotedProp :=
  [⟨⟨"title", " x=\"1\" :>", false⟩, '\'', Text.isName_of_all (by decide) (by decide +kernel), by decide,
      by decide⟩,
    ⟨⟨"a", "it's > :b='", true⟩, '"', Text.isName_of_all (by decide) (by decide +kernel), by decide,
      by decide⟩]

/-- A use of `cards/a.b-c` with these props, behind a directive of another name and in front of a further
use. -/
theorem resolveComponents_printed_card :
    let before := "<: components <:".toList
    let after := "> <: component b >".toList
    let use : Directive.ComponentUse := ⟨"cards/a.b-c", propsText cardProps⟩
    let lib := Library.ofTexts []
    let expand : Scope → List Char → Expansion (List Char) := fun _ text => pure text
    let scope : Scope := { templateName := "page" }
    (∀ s, s <:+ before → Directive.componentOpener s = none) ∧
    IsTemplateName "cards/a.b-c".toList ∧
    lexProps (propsText cardProps) =
      [.pair ⟨"title", " x=\"1\" :>", false⟩, .pair ⟨"a", "it's > :b='", true⟩] ∧
    Directive.component.pieces (before ++ (printedUse "cards/a.b-c" cardProps true ++ after)) =
      before.map .char ++ .mark (some use) (printedUse "cards/a.b-c" cardProps true) ::
        Directive.component.pieces after ∧
    resolveComponents lib expand scope (before ++ (printedUse "cards/a.b-c" cardProps true ++ after)) =
      (do
        let mine ← includeComponent lib expand scope use
        let (scope, rest) ← resolveComponents lib expand scope after
        return (scope, before ++ (mine ++ rest))) := by
  intro before after use lib expand scope
  have hbefore : ∀ s, s <:+ before → Directive.componentOpener s = none := by
    have h : ∀ s ∈ before.tails, Directive.componentOpener s = none := by decide +kernel
    exact fun s hs => h s ((List.mem_tails _ _).mpr hs)
  have hname : IsTemplateName "cards/a.b-c".toList := ⟨by decide, by decide +kernel⟩
  exact ⟨hbefore, hname,
    resolveComponents_printed lib expand scope hbefore hname cardProps true after⟩

end Stencil.Template
