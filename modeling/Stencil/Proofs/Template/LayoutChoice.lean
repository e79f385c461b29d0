import Stencil.Proofs.Template.DataNames
import Stencil.Proofs.Template.Layouts
import Stencil.Proofs.Template.Unread

/-! A layout that a page declares and the same layout by default. Both put the same text into the same places;
from there on compilation is one and the same step, as long as it does not come upon the file of the page once
more, which tells the two apart. -/
namespace Stencil.Template

/-! ### Compilation in two steps -/

/-- The text of a page that is going to be expanded, with the file that it came from and its scope. -/
def Compiler.composed (c : Compiler) (name : String) (data : Mapping) (layout : Option String) :
    Expansion (Path × Scope × List Char) := do
  let (path, source) ← c.library.load .template name
  reporting fun r => { r with templatePath := some path.text }
  let (scope, text) ← compose c.library { templateName := name, data := data, layout := layout } source
  return (path, scope, text)

/-- What becomes of that text. -/
def Compiler.finish (c : Compiler) (name : String) (page : Path × Scope × List Char) : Expansion Compiled := do
  let (_, text) ← c.expand page.2.1 page.2.2
  reporting warnMissing
  let report := (← get).report
  note (.compiled report.summary)
  return ⟨name, page.1, text, report⟩

theorem compile_eq_finish (c : Compiler) (name : String) (data : Mapping) (layout : Option String) :
    c.compile name data layout = c.composed name data layout >>= c.finish name := by
  unfold Compiler.composed
  simp only [bind_assoc, pure_bind]
  rfl

/-- What is logged and reported of a page that comes into a layout. -/
def enterLayout (page layout : String) (pagePath layoutPath : Path) : Tracing Unit := do
  note (.resolved .template page pagePath.text)
  reporting fun r => { r with templatePath := some pagePath.text }
  note (.resolved .layout layout layoutPath.text)
  reporting fun r => { r with layout := some layout }
  note (.composed page layout)

section

variable {lib lib' : Library} {limit : ℕ} {page layout : String} {pagePath layoutPath : Path}
  {source body layoutText : List Char} {data : Mapping} {fallback : Option String}

/-- Loading a file that is there. -/
theorem load_eq {kind : TemplateKind} {name : String} {path : Path} {text : List Char}
    (hresolve : lib.resolve kind name = .ok path) (hread : lib.read path = .ok text) :
    lib.load kind name = do
      note (.resolved kind name path.text)
      return (path, protect text) := by
  unfold Library.load Library.find
  rw [hresolve]
  funext t
  change (Expansion.ofExcept (lib.read path) >>= fun text => pure (path, protect text)) _ = _
  rw [hread]
  rfl

theorem composed_eq (hpage : lib.resolve .template page = .ok pagePath) (hsource : lib.read pagePath = .ok source)
    (hcomposition : compositionOf fallback (protect source) = some ⟨layout, [], protect body⟩)
    (hlayout : lib.resolve .layout layout = .ok layoutPath) (hread : lib.read layoutPath = .ok layoutText)
    (limit : ℕ) (data : Mapping) :
    Compiler.composed { library := lib, limit := limit } page data fallback = do
      enterLayout page layout pagePath layoutPath
      return (pagePath, { templateName := page, data := data, layout := fallback },
        filledLayout layoutText body) := by
  unfold Compiler.composed compose
  rw [← fillLayout_protect, load_eq hpage hsource]
  simp only [bind_assoc, pure_bind, hcomposition, load_eq hlayout hread]
  rfl

/-- From the text on, compilation does not look at the default layout, nor at files that it does not read. -/
theorem finish_eq {own : Path → Bool} (hsame : lib.SameOff own lib') (fallback' : Option String) {text : List Char}
    (hspares : ({ library := lib, limit := limit } : Compiler).Spares own
      { templateName := page, data := data } text) :
    Compiler.finish { library := lib, limit := limit } page
        (pagePath, { templateName := page, data := data, layout := fallback }, text) =
      Compiler.finish { library := lib', limit := limit } page
        (pagePath, { templateName := page, data := data, layout := fallback' }, text) := by
  have hscope (layout : Option String) : Scope.SameNames
      { templateName := page, data := data, layout := layout } { templateName := page, data := data } :=
    ⟨rfl, fun _ => rfl, rfl, rfl, rfl⟩
  have hfinish (lib : Library) (layout : Option String) :
      Compiler.finish { library := lib, limit := limit } page
          (pagePath, { templateName := page, data := data, layout := layout }, text) =
        Compiler.finish { library := lib, limit := limit } page
          (pagePath, { templateName := page, data := data }, text) := by
    refine Expansion.Alike.eq ((expandWithin_alike limit nestingLimit (hscope layout) text).bind ?_)
    rintro ⟨_, out⟩ ⟨_, out'⟩ ⟨_, hout⟩
    obtain rfl : out = out' := hout
    exact Expansion.alike_refl (fun _ => rfl) _
  rw [hfinish lib fallback, hfinish lib' fallback', Compiler.finish, Compiler.finish,
    expand_eq_of_spares hsame hspares]

/-- A page that declares a layout in front of its text, and a page with this text and this layout by default.
To both the same text is handed for expansion: that of the layout, with the text of the page, and nothing else, in
every place for content. If the expansion of it does not read the file of the page again, the pages are compiled
in one and the same way: to one source or one error, with one report and one log. -/
theorem compile_declared_eq_default {own : Path → Bool} (hsame : lib.SameOff own lib')
    (hname : IsTemplateName layout.toList) (hbody : Directive.layout.search body = none)
    (hpage : lib.resolve .template page = .ok pagePath)
    (hdeclared : lib.read pagePath = .ok (declaration layout ++ body)) (hplain : lib'.read pagePath = .ok body)
    (hlayout : lib.resolve .layout layout = .ok layoutPath) (hother : own layoutPath = false)
    (hread : lib.read layoutPath = .ok layoutText) (limit : ℕ) (data : Mapping) (fallback : Option String) :
    let declaring : Compiler := { library := lib, limit := limit }
    let defaulting : Compiler := { library := lib', limit := limit }
    let handed := filledLayout layoutText body
    (declaring.composed page data fallback).Yields (fun out => out.2.2 = handed) ∧
    (defaulting.composed page data (some layout)).Yields (fun out => out.2.2 = handed) ∧
    (declaring.Spares own { templateName := page, data := data } handed →
      declaring.compile page data fallback = defaulting.compile page data (some layout)) := by
  intro declaring defaulting handed
  have hdeclaring := composed_eq hpage hdeclared (compositionOf_declaration hname fallback) hlayout hread
    limit data
  have hdefaulting := composed_eq ((hsame.resolve _ _).symm.trans hpage) hplain (compositionOf_default hname hbody)
    ((hsame.resolve _ _).symm.trans hlayout) ((hsame.read _ hother).symm.trans hread) limit data
  have hyields (layout' : Option String) : Expansion.Yields
      (do
        enterLayout page layout pagePath layoutPath
        return (pagePath, ({ templateName := page, data := data, layout := layout' } : Scope), handed))
      fun out => out.2.2 = handed :=
    Expansion.yields_lift_bind fun _ => Expansion.yields_pure rfl
  refine ⟨hdeclaring ▸ hyields fallback, hdefaulting ▸ hyields (some layout), fun hspares => ?_⟩
  rw [compile_eq_finish, compile_eq_finish, hdeclaring, hdefaulting]
  simp only [bind_assoc, pure_bind]
  exact congrArg _ (funext fun _ => finish_eq hsame _ hspares)

end

/-! ### Pages in a frame -/

/-- Libraries that differ in the text of one file. -/
theorem sameOff_ofTexts (kind : TemplateKind) (name a b : String) (rest : List ((TemplateKind × String) × String)) :
    (Library.ofTexts (((kind, name), a) :: rest)).SameOff (· == ⟨"", [kind.name, name]⟩)
      (Library.ofTexts (((kind, name), b) :: rest)) where
  resolve kind' name' := by
    unfold Library.ofTexts
    simp only [List.lookup_cons]
    cases (kind', name') == (kind, name) <;> rfl
  read p hp := by
    simp only [Library.ofTexts, List.find?_cons, hp]

/-- A text that looks like a layout, with a component and a backslash. -/
def framedBody : String := "\\1 \x7b<: content :> <: component cell :of=\"x\" >"

/-- A page with a text, a frame for its layout and a component. -/
def framedLibrary (text : String) : Library := .ofTexts
  [((.template, "page"), text), ((.layout, "f/r.a-me"), "<b>\x7b<: content :>|<:content:></b>"),
   ((.component, "cell"), "<: of :>")]

theorem compile_declared_eq_default_framed :
    let declaring : Compiler := { library := framedLibrary (String.ofList (declaration "f/r.a-me") ++ framedBody) }
    let defaulting : Compiler := { library := framedLibrary framedBody }
    let handed := filledLayout "<b>\x7b<: content :>|<:content:></b>".toList framedBody.toList
    let body := "\\1 \x7b\x7b __lb \x7d\x7d<: content :> <: component cell :of=\"x\" >"
    handed = ("<b>\x7b\x7b __lb \x7d\x7d" ++ body ++ "|" ++ body ++ "</b>").toList ∧
    Directive.layout.search framedBody.toList = none ∧
    declaring.Spares (· == ⟨"", ["template", "page"]⟩)
      { templateName := "page", data := [(.str "x", .null)] } handed ∧
    declaring.compile "page" [(.str "x", .null)] none =
      defaulting.compile "page" [(.str "x", .null)] (some "f/r.a-me") := by
  intro declaring defaulting handed body
  have hsame : declaring.library.SameOff (· == ⟨"", ["template", "page"]⟩) defaulting.library :=
    sameOff_ofTexts .template "page" _ _ _
  have hbody : Directive.layout.search framedBody.toList = none := by decide +kernel
  have hname : IsTemplateName "f/r.a-me".toList := ⟨by decide, by decide +kernel⟩
  have hdeclared : declaring.library.read ⟨"", ["template", "page"]⟩ =
      .ok (declaration "f/r.a-me" ++ framedBody.toList) := by
    change Except.ok (String.ofList (declaration "f/r.a-me") ++ framedBody).toList = _
    rw [String.toList_append, String.toList_ofList]
  have hspares : declaring.Spares (· == ⟨"", ["template", "page"]⟩)
      { templateName := "page", data := [(.str "x", .null)] } handed :=
    spares_of_succeeds (e := .nesting) (t := { report := { templateName := "page" } }) (by decide +kernel)
  exact ⟨by decide +kernel, hbody, hspares, (compile_declared_eq_default hsame hname hbody rfl hdeclared rfl rfl
    rfl rfl 100 [(.str "x", .null)] none).2.2 hspares⟩

/-- A library in which a page is found for a component of its name, as well. -/
def sharedLibrary (text : String) : Library where
  resolve kind name :=
    if name = "page" then .ok ⟨"", ["page"]⟩
    else if name = "L" then .ok ⟨"", ["layouts", "L"]⟩
    else .error (.templateNotFound kind name [])
  read path := if path = ⟨"", ["page"]⟩ then .ok text.toList else .ok "<: content :>".toList

theorem sameOff_sharedLibrary (a b : String) :
    (sharedLibrary a).SameOff (· == ⟨"", ["page"]⟩) (sharedLibrary b) where
  resolve _ _ := rfl
  read p hp := by
    have hne : p ≠ ⟨"", ["page"]⟩ := by
      rintro rfl
      cases hp
    exact (if_neg hne).trans (if_neg hne).symm

/-- The source that a step hands over. -/
def compiledText (step : Expansion Compiled) : Option String :=
  match step { report := { templateName := "page" } } with
  | .ok page _ => some (String.ofList page.source)
  | .error _ _ => none

/-- A page that uses the component of its own name shows whether it declares its layout. -/
theorem not_compile_declared_eq_default :
    ¬∀ (own : Path → Bool) (lib lib' : Library) (page layout : String) (pagePath layoutPath : Path)
      (body layoutText : List Char), lib.SameOff own lib' → IsTemplateName layout.toList →
        Directive.layout.search body = none → lib.resolve .template page = .ok pagePath →
        lib.read pagePath = .ok (declaration layout ++ body) → lib'.read pagePath = .ok body →
        lib.resolve .layout layout = .ok layoutPath → own layoutPath = false →
        lib.read layoutPath = .ok layoutText →
        Compiler.compile { library := lib } page [] none = Compiler.compile { library := lib' } page [] (some layout) := by
  intro h
  have hequal := h (· == ⟨"", ["page"]⟩) (sharedLibrary "<: layout \"L\" :><: component page >")
    (sharedLibrary "<: component page >") "page" "L" ⟨"", ["page"]⟩ ⟨"", ["layouts", "L"]⟩
    "<: component page >".toList "<: content :>".toList (sameOff_sharedLibrary _ _) ⟨by decide, by decide +kernel⟩
    (by decide +kernel) rfl rfl rfl rfl rfl rfl
  have hsource := congrArg compiledText hequal
  revert hsource
  decide +kernel

end Stencil.Template
