import Stencil.Proofs.Template.Untraced
import Stencil.Proofs.Template.WrittenUses

/-! A page of plain segments with uses of components between them comes to the segments with the bodies of
the components in the places of their uses. Every use is expanded by itself under the scope of the page, and
the passes after the first one leave the text alone if it has no opening mark and no remark. -/
namespace Stencil.Template

open Text (Piece Recogniser)

/-! ### Pages -/

/-- A use on a page, what is put into its place, and the segment behind it. -/
structure Place where
  use : WrittenUse
  put : List Char
  behind : List Char

/-- A page as it is written. -/
def printed (first : List Char) (places : List Place) : List Char :=
  first ++ places.flatMap fun p => p.use.print ++ p.behind

/-- A page with its uses filled in. -/
def filled (first : List Char) (places : List Place) : List Char :=
  protect first ++ places.flatMap fun p => p.put ++ protect p.behind

/-- Whether a use comes to a text under a scope: the file of its component, protected and expanded under the
scope of the body, with the names of its props bound around it. -/
def Compiler.Inlines (c : Compiler) (scope : Scope) (u : WrittenUse) (put : List Char) : Prop :=
  ∃ use path source body t t', u.Means use ∧ c.library.resolve .component use.name = .ok path ∧
    c.library.read path = .ok source ∧
    let bound := (bindProps scope {} (props (lexProps use.protected.props)) t).1
    c.expandBody (nestingLimit - 1) (scope.child use.name bound.values) (protect source) t =
      .ok body t' ∧ put = wrapBody body bound.exprs

section

variable {first : List Char} {p : Place} {places : List Place}

theorem protect_printed_cons :
    protect (printed first (p :: places)) =
      protect first ++ (protect p.use.print ++ protect (printed p.behind places)) := by
  simp [printed, protect_append]

theorem filled_cons :
    filled first (p :: places) = protect first ++ (p.put ++ filled p.behind places) := by
  simp [filled]

/-- No colon begins what follows a segment. -/
theorem head?_protect_print_ne (u : WrittenUse) (s : List Char) :
    (protect u.print ++ s).head? ≠ some ':' := by
  rw [WrittenUse.print, protect_cons _ (by decide)]
  simp

/-- Whether the segments of a page hold no opening mark and its uses mean something. -/
structure IsPage (first : List Char) (places : List Place) : Prop where
  first : ¬ ['<', ':'] <:+: first
  behind : ∀ p ∈ places, ¬ ['<', ':'] <:+: p.behind
  uses : ∀ p ∈ places, ∃ use, p.use.Means use

namespace IsPage

theorem tail (h : IsPage first (p :: places)) : IsPage p.behind places where
  first := h.behind p List.mem_cons_self
  behind q hq := h.behind q (List.mem_cons_of_mem p hq)
  uses q hq := h.uses q (List.mem_cons_of_mem p hq)

/-- Directives of other keywords are not read on the page. -/
theorem skips (h : IsPage first places) {α : Type} {r : Recogniser α} (hr : NeedsMark r)
    (hread : ∀ b s, b.all Text.isSpace = true →
      r.read ('<' :: ':' :: (b ++ ("component".toList ++ s))) = none) :
    r.Skips (protect (printed first places)) [] := by
  induction places generalizing first with
  | nil =>
    have hfirst := (Unmarked.protect h.first (s := []) nofun).skips hr
    simpa [printed] using hfirst
  | cons p places ih =>
    obtain ⟨use, huse⟩ := h.uses p List.mem_cons_self
    rw [protect_printed_cons]
    refine Recogniser.skips_append ?_ (Recogniser.skips_append ?_ (ih h.tail))
    · rw [List.append_nil]
      exact (Unmarked.protect h.first (head?_protect_print_ne p.use _)).skips hr
    · exact huse.skips hr hread _

/-- A page has no number signs but those of its segments. -/
theorem count_sign_le (h : IsPage first places) :
    (protect (printed first places)).count '#' ≤ (filled first places).count '#' := by
  induction places generalizing first with
  | nil => simp [printed, filled]
  | cons p places ih =>
    obtain ⟨use, huse⟩ := h.uses p List.mem_cons_self
    have hrest := ih h.tail
    rw [protect_printed_cons, filled_cons]
    simp only [List.count_append, List.count_eq_zero.mpr huse.sign_notMem]
    omega

end IsPage

/-! ### The first pass -/

variable {lib : Library} {expand : Scope → List Char → Expansion (List Char)} {limit : Nat}
  {scope : Scope}

/-- Every use is put in place under one scope, whatever stands before it. -/
theorem yields_includeComponents_printed (h : IsPage first places)
    (hput : ∀ p ∈ places, ∀ use, p.use.Means use →
      (includeComponent lib expand scope use.protected).Yields (· = p.put)) :
    (includeComponents lib expand scope
      (Directive.component.pieces (protect (printed first places)))).Yields
      (· = filled first places) := by
  induction places generalizing first with
  | nil =>
    have hfirst := (Unmarked.protect h.first (s := []) nofun).skips Directive.component_needsMark
    simpa [printed, filled, Recogniser.pieces_of_skips hfirst] using
      yields_includeComponents_char scope (protect first)
  | cons p places ih =>
    obtain ⟨use, huse⟩ := h.uses p List.mem_cons_self
    have hrest := ih h.tail fun q hq => hput q (List.mem_cons_of_mem p hq)
    have hfirst := (Unmarked.protect h.first (head?_protect_print_ne p.use _)).skips
      Directive.component_needsMark (s := protect p.use.print ++ protect (printed p.behind places))
    rw [protect_printed_cons, filled_cons, Recogniser.pieces_append_of_skips hfirst,
      Recogniser.pieces_append_of_read (huse.read _)]
    exact yields_includeComponents_chars
      (yields_includeComponents_use (hput p List.mem_cons_self use huse) hrest) _

theorem convertLoops_chars (scope : Scope) (s : List Char) (t : Trace) :
    convertLoops scope (s.map .char) t = ((scope, s), t) := by
  induction s with
  | nil => rfl
  | cons c s ih =>
    change ((_, c :: (convertLoops scope (s.map .char) t).1.2), _) = _
    rw [ih]

/-- Without loops there are no names to bind. -/
theorem expandLoops_of_skips {text : List Char} (h : Directive.loop.Skips text []) (scope : Scope)
    (t : Trace) : (expandLoops scope text t).1 = (scope, text) := by
  rw [expandLoops, loopRounds_succ, Recogniser.pieces_of_skips h, convertLoops_chars]
  exact congrArg Prod.fst (if_pos rfl)

/-- A pass over a text without loops and remarks. -/
theorem yields_pass_unlooped (limit : Nat) {text resolved : List Char}
    (hloops : Directive.loop.Skips text [])
    (hcomments : convertedComments text = text)
    (hcomponents : (includeComponents lib expand scope (Directive.component.pieces text)).Yields
      (· = resolved))
    (hdone : Unmarked resolved []) :
    (runStages (Compiler.stages { library := lib, limit := limit } expand) scope text).Yields
      fun r => r.1 = scope ∧ r.2 = resolved := by
  refine yields_runStages_cons (P := (· = (scope, text))) ?_ ?_
  · exact Expansion.yields_lift fun t => expandLoops_of_skips hloops scope t
  rintro _ rfl
  refine yields_runStages_cons (P := (· = (scope, text))) ?_ ?_
  · exact Expansion.yields_lift fun t => congrArg (scope, ·) hcomments
  rintro _ rfl
  refine yields_runStages_cons (P := (· = (scope, resolved))) ?_ ?_
  · exact hcomponents.bind fun r hr => Expansion.yields_pure (by rw [hr])
  rintro _ rfl
  refine yields_runStages_cons (P := (· = (scope, resolved))) ?_ ?_
  · refine Expansion.yields_lift fun t => ?_
    rw [substituteVariables_text, Recogniser.replace_of_skips
      (hdone.skips Directive.placeholder_needsMark)]
  rintro _ rfl
  exact Expansion.yields_pure ⟨rfl, rfl⟩

/-! ### The whole expansion -/

theorem untraced_expandBody (limit nesting : Nat) (scope : Scope) (text : List Char) :
    (Compiler.expandBody { library := lib, limit := limit } nesting scope text).Untraced :=
  (untraced_expandWithin limit nesting scope text).bind fun _ => Expansion.untraced_pure _

/-- What a use comes to at one trace it comes to at every one. -/
theorem Compiler.Inlines.yields {u : WrittenUse} {put : List Char}
    (h : Compiler.Inlines { library := lib, limit := limit } scope u put)
    (hprocessed : scope.processed = []) {use : Directive.ComponentUse} (huse : u.Means use) :
    (includeComponent lib
      (Compiler.expandBody { library := lib, limit := limit } (nestingLimit - 1)) scope
      use.protected).Yields (· = put) := by
  obtain ⟨use', path, source, body, t, t', huse', hresolve, hread, hbody, rfl⟩ := h
  obtain rfl : use = use' := Option.some.inj (huse.head.symm.trans huse'.head)
  have hfresh : use.protected.name ∉ scope.processed := by
    rw [hprocessed]
    exact List.not_mem_nil
  refine yields_includeComponent hfresh hresolve hread (fun t₁ => untraced_bindProps _ _ _ t₁ t) ?_
  exact (untraced_expandBody _ _ _ _).yields hbody

/-- The expansion of a page that comes to a still text. -/
theorem yields_expand_printed (hlimit : 2 ≤ limit) (hpage : IsPage first places)
    (hprocessed : scope.processed = [])
    (hplaces : ∀ p ∈ places,
      Compiler.Inlines { library := lib, limit := limit } scope p.use p.put)
    (hstill : Still (filled first places)) :
    (Compiler.expand { library := lib, limit := limit } scope
      (protect (printed first places))).Yields fun r => r.2 = filled first places := by
  obtain ⟨left, rfl⟩ : ∃ left, limit = left + 2 := ⟨limit - 2, by omega⟩
  have hcomments := convertedComments_eq_self_iff.mpr (hpage.count_sign_le.trans hstill.unpaired)
  have hput := yields_includeComponents_printed hpage fun p hp use huse =>
    (hplaces p hp).yields hprocessed huse
  have hfirst := yields_pass_unlooped (left + 2)
    (hpage.skips Directive.loop_needsMark readLoop_keyword) hcomments
    hput hstill.unmarked
  exact yields_settle_once (P := (· = scope)) hfirst (fun s _ => yields_pass_still _ hstill s) left

end

/-- Whether a text holds no opening mark. -/
theorem unmarked_of_no_mark {s : List Char} (h : ¬ ['<', ':'] <:+: s) : Unmarked s [] := by
  intro c before after he
  rw [List.append_nil]
  cases hmark : Directive.openMark (c :: after) with
  | none => rfl
  | some rest =>
    obtain ⟨t, hc, mid, hcolon, -⟩ := Directive.openMark_eq_some_iff.mp hmark
    obtain rfl := Text.expect_eq_some hcolon
    exact absurd ⟨before, mid, by rw [he, hc]; simp⟩ h

/-- A page of segments with uses of components between them. If every component expands, each under the
scope of the page, and the segments with the bodies in between hold no opening mark and at most one number
sign, then this is what the page is compiled to, for all data and within two passes. -/
theorem compile_inlines {lib : Library} {limit : Nat} {page : String} {path : Path}
    {first : List Char} {places : List Place} (hlimit : 2 ≤ limit)
    (hresolve : lib.resolve .template page = .ok path)
    (hread : lib.read path = .ok (printed first places)) (data : Mapping)
    (hfirst : ¬ ['<', ':'] <:+: first) (hbehind : ∀ p ∈ places, ¬ ['<', ':'] <:+: p.behind)
    (hplaces : ∀ p ∈ places, Compiler.Inlines { library := lib, limit := limit }
      { templateName := page, data := data } p.use p.put)
    (hmarks : ¬ ['<', ':'] <:+: filled first places)
    (hsigns : (filled first places).count '#' ≤ 1) :
    (Compiler.compile { library := lib, limit := limit } page data none).Yields
      fun out => out.source = filled first places := by
  have hpage : IsPage first places := by
    refine ⟨hfirst, hbehind, fun p hp => ?_⟩
    obtain ⟨use, _, _, _, _, _, huse, _⟩ := hplaces p hp
    exact ⟨use, huse⟩
  have hlayout : Directive.layout.search (protect (printed first places)) = none :=
    Recogniser.search_of_skips (hpage.skips Directive.layout_needsMark readLayout_keyword)
  exact yields_compile (P := (· = filled first places)) hresolve hread hlayout
    (yields_expand_printed hlimit hpage rfl hplaces ⟨unmarked_of_no_mark hmarks, hsigns⟩)

/-- Whether a step has a given result. -/
def Expansion.returns {α : Type} [DecidableEq α] (x : Expansion α) (t : Trace) (a : α) : Bool :=
  match x t with
  | .ok b _ => b = a
  | .error _ _ => false

theorem Expansion.exists_ok_of_returns {α : Type} [DecidableEq α] {x : Expansion α} {t : Trace}
    {a : α} (h : x.returns t a = true) : ∃ t', x t = .ok a t' := by
  unfold returns at h
  split at h
  · next b t' hx => exact ⟨t', hx.trans (by rw [of_decide_eq_true h])⟩
  · cases h

/-- A page with two cards, which show what they are handed, and an icon between them. -/
def cardPage : String :=
  "\x7b<: component card t=\"a > b\" :u='n' ><br>:<:component icon :>#<: component card :t=\"x\" >"

def cardTexts : List ((TemplateKind × String) × String) :=
  [((.template, "page"), cardPage), ((.component, "card"), "<i><: t :></i>\x7b"),
   ((.component, "icon"), "'")]

def cardBody : List Char := "<i>\x7b\x7b t|display \x7d\x7d</i>\x7b\x7b __lb \x7d\x7d".toList

/-- The places of the page after its first brace. The name of the first card is known, that of the second
is not. -/
def cardPlaces : List Place :=
  [⟨⟨[' '], " card t=\"a > b\" :u='n' ".toList⟩,
     wrapBody cardBody [("t", .literal "a > b"), ("u", .name "n")], "<br>:".toList⟩,
   ⟨⟨[], " icon :".toList⟩, "'".toList, ['#']⟩,
   ⟨⟨[' '], " card :t=\"x\" ".toList⟩, wrapBody cardBody [("t", .nothing)], []⟩]

/-- What a use comes to, from one run. -/
theorem inlines_of_returns {c : Compiler} {scope : Scope} {u : WrittenUse}
    {use : Directive.ComponentUse} (huse : u.Means use) {path : Path} {source put : List Char}
    (t : Trace) (body : List Char) (hresolve : c.library.resolve .component use.name = .ok path)
    (hread : c.library.read path = .ok source)
    (hbody : (c.expandBody (nestingLimit - 1) (scope.child use.name
      (bindProps scope {} (props (lexProps use.protected.props)) t).1.values)
      (protect source)).returns t body = true)
    (hput : put = wrapBody body (bindProps scope {} (props (lexProps use.protected.props)) t).1.exprs) :
    c.Inlines scope u put := by
  obtain ⟨t', h⟩ := Expansion.exists_ok_of_returns hbody
  exact ⟨use, path, source, body, t, t', huse, hresolve, hread, h, hput⟩

theorem compile_inlines_cards :
    (Compiler.compile { library := .ofTexts cardTexts } "page" [(.str "n", .null)] none).Yields
      fun out => out.source = filled ['\x7b'] cardPlaces := by
  let start : Trace := { report := { templateName := "page" } }
  have htext : cardPage.toList = printed ['\x7b'] cardPlaces := by decide +kernel
  have hread : (Library.ofTexts cardTexts).read ⟨"", ["template", "page"]⟩ =
      .ok (printed ['\x7b'] cardPlaces) := congrArg Except.ok htext
  have hcard : (Library.ofTexts cardTexts).resolve .component "card" =
      .ok ⟨"", ["component", "card"]⟩ := rfl
  have hcardText : (Library.ofTexts cardTexts).read ⟨"", ["component", "card"]⟩ =
      .ok "<i><: t :></i>\x7b".toList := rfl
  have hicon : (Library.ofTexts cardTexts).resolve .component "icon" =
      .ok ⟨"", ["component", "icon"]⟩ := rfl
  have hiconText : (Library.ofTexts cardTexts).read ⟨"", ["component", "icon"]⟩ =
      .ok "'".toList := rfl
  refine compile_inlines (by decide) rfl hread _ (by decide) (by decide +kernel) ?_
    (by decide +kernel) (by decide +kernel)
  intro p hp
  simp only [cardPlaces, List.mem_cons, List.not_mem_nil, or_false] at hp
  rcases hp with rfl | rfl | rfl
  · have huse : WrittenUse.Means ⟨[' '], " card t=\"a > b\" :u='n' ".toList⟩
        ⟨"card", "t=\"a > b\" :u='n' ".toList⟩ :=
      ⟨by decide, by decide +kernel, by decide +kernel, by decide +kernel, by decide⟩
    exact inlines_of_returns huse start cardBody hcard hcardText (by decide +kernel)
      (by decide +kernel)
  · have huse : WrittenUse.Means ⟨[], " icon :".toList⟩ ⟨"icon", []⟩ :=
      ⟨by decide, by decide +kernel, by decide +kernel, by decide +kernel, by decide⟩
    exact inlines_of_returns huse start "'".toList hicon hiconText (by decide +kernel)
      (by decide +kernel)
  · have huse : WrittenUse.Means ⟨[' '], " card :t=\"x\" ".toList⟩ ⟨"card", ":t=\"x\" ".toList⟩ :=
      ⟨by decide, by decide +kernel, by decide +kernel, by decide +kernel, by decide⟩
    exact inlines_of_returns huse start cardBody hcard hcardText (by decide +kernel)
      (by decide +kernel)

end Stencil.Template
