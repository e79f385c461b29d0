import Stencil.Proofs.Mapping
import Stencil.Proofs.Template.Steps
import Stencil.Template.Compiler

/-! Compilation looks at the names of the data and never at a value. Two scopes are alike if they differ at
most in the values of their data and the order of its keys; then every stage makes the same text, report
and log under both, and leaves scopes that are alike. Values do go into the scopes of components, but under
names that depend on names alone. -/
namespace Stencil

namespace Mapping

/-- Whether two mappings have the same names among their keys. -/
def SameNames (d d' : Mapping) : Prop :=
  ∀ name : String, Mapping.contains d (.str name) = Mapping.contains d' (.str name)

theorem SameNames.insert {d d' : Mapping} (h : SameNames d d') (k : Scalar) (v v' : Value) :
    SameNames (Mapping.insert d k v) (Mapping.insert d' k v') := by
  intro name
  rw [contains_insert, contains_insert, h name]

theorem SameNames.overlay {d d' m m' : Mapping} (h : SameNames d d') (hm : SameNames m m') :
    SameNames (Mapping.overlay d m) (Mapping.overlay d' m') := by
  intro name
  rw [contains_overlay, contains_overlay, h name, hm name]

end Mapping

namespace Template

open Text (Piece)

/-- Whether two scopes differ at most in the values of their data and the order of its keys, and in the
default layout, which matters to a page before it is expanded. -/
structure Scope.SameNames (s s' : Scope) : Prop where
  templateName : s.templateName = s'.templateName
  data : Mapping.SameNames s.data s'.data
  loopNames : s.loopNames = s'.loopNames
  processed : s.processed = s'.processed
  depth : s.depth = s'.depth

namespace Scope.SameNames

variable {s s' : Scope}

theorem isBound (h : s.SameNames s') (name : String) : s.isBound name = s'.isBound name := by
  rw [Scope.isBound, Scope.isBound, h.loopNames, h.data name]

theorem bindLoop (h : s.SameNames s') (names : List String) :
    (s.bindLoop names).SameNames (s'.bindLoop names) :=
  { h with loopNames := congrArg (fun known => names.foldl addName known) h.loopNames }

theorem child (h : s.SameNames s') (component : String) {props props' : Mapping}
    (hprops : Mapping.SameNames props props') :
    (s.child component props).SameNames (s'.child component props') where
  templateName := h.templateName
  data := h.data.overlay hprops
  loopNames := h.loopNames
  processed := congrArg (fun processed => addName processed component) h.processed
  depth := congrArg (· + 1) h.depth

end Scope.SameNames

/-- Whether two outcomes of a stage have one text and scopes with the same names. -/
def SameText (a b : Scope × List Char) : Prop := a.1.SameNames b.1 ∧ a.2 = b.2

/-- Whether an expansion of bodies makes one text under scopes with the same names. -/
def LooksAtNames (expand : Scope → List Char → Expansion (List Char)) : Prop :=
  ∀ s s' : Scope, s.SameNames s' → ∀ text, Expansion.Alike Eq (expand s text) (expand s' text)

/-! ### Loops -/

theorem convertLoop_alike {s s' : Scope} (h : s.SameNames s') (l : Directive.Loop)
    (source : List Char) :
    Tracing.Alike SameText (convertLoop s l source) (convertLoop s' l source) := by
  unfold convertLoop
  split
  · exact (Tracing.alike_refl (fun _ => rfl) _).bind fun _ _ _ =>
      Tracing.alike_pure ⟨h.bindLoop _, rfl⟩
  · exact (Tracing.alike_refl (fun _ => rfl) _).bind fun _ _ _ =>
      (Tracing.alike_refl (fun _ => rfl) _).bind fun _ _ _ => Tracing.alike_pure ⟨h, rfl⟩

theorem convertLoops_alike {s s' : Scope} (h : s.SameNames s')
    (pieces : List (Piece Directive.Loop)) :
    Tracing.Alike SameText (convertLoops s pieces) (convertLoops s' pieces) := by
  induction pieces generalizing s s' with
  | nil => exact Tracing.alike_pure ⟨h, rfl⟩
  | cons piece pieces ih =>
    cases piece with
    | char c =>
      refine (ih h).bind fun out out' hout => Tracing.alike_pure ⟨hout.1, ?_⟩
      exact congrArg (c :: ·) hout.2
    | mark l source =>
      refine (convertLoop_alike h l source).bind fun mine mine' hmine => ?_
      refine (ih hmine.1).bind fun out out' hout => Tracing.alike_pure ⟨hout.1, ?_⟩
      dsimp only
      rw [hmine.2, hout.2]

theorem loopRounds_alike (fuel : Nat) {s s' : Scope} (h : s.SameNames s') (text : List Char) :
    Tracing.Alike SameText (loopRounds fuel s text) (loopRounds fuel s' text) := by
  induction fuel generalizing s s' text with
  | zero => exact Tracing.alike_pure ⟨h, rfl⟩
  | succ fuel ih =>
    refine (convertLoops_alike h (Directive.loop.pieces text)).bind fun out out' hout => ?_
    dsimp only
    rw [← hout.2]
    split
    · exact Tracing.alike_pure ⟨hout.1, rfl⟩
    · exact ih hout.1 out.2

/-! ### Placeholders -/

theorem convertVariable_eq {s s' : Scope} (h : s.SameNames s') (name : String)
    (source : List Char) : convertVariable s name source = convertVariable s' name source := by
  unfold convertVariable
  rw [h.isBound, h.templateName]

theorem convertVariables_eq {s s' : Scope} (h : s.SameNames s') (pieces : List (Piece String)) :
    convertVariables s pieces = convertVariables s' pieces := by
  induction pieces with
  | nil => rfl
  | cons piece pieces ih =>
    cases piece with
    | char c => rw [convertVariables, convertVariables, ih]
    | mark name source =>
      rw [convertVariables, convertVariables, ih, convertVariable_eq h]

/-! ### Uses of components -/

/-- Whether bound props have one list of expressions, and values under the same names. -/
def BoundProps.SameNames (b b' : BoundProps) : Prop :=
  Mapping.SameNames b.values b'.values ∧ b.exprs = b'.exprs

theorem BoundProps.SameNames.set {b b' : BoundProps} (h : b.SameNames b') (key : String)
    (v v' : Value) (e : Target.Expr) : (b.set key v e).SameNames (b'.set key v' e) :=
  ⟨h.1.insert _ v v', congrArg (fun exprs => setExpr exprs key e) h.2⟩

theorem bindProp_alike {s s' : Scope} (h : s.SameNames s') {b b' : BoundProps}
    (hb : b.SameNames b') (p : PropToken) :
    Tracing.Alike BoundProps.SameNames (bindProp s b p) (bindProp s' b' p) := by
  unfold bindProp
  split
  · exact (Tracing.alike_refl (fun _ => rfl) _).bind fun _ _ _ =>
      (Tracing.alike_refl (fun _ => rfl) _).bind fun _ _ _ => Tracing.alike_pure hb
  split
  · exact Tracing.alike_pure (hb.set _ _ _ _)
  dsimp only
  rw [h.isBound]
  split
  · exact Tracing.alike_pure (hb.set _ _ _ _)
  · exact (Tracing.alike_refl (fun _ => rfl) _).bind fun _ _ _ =>
      Tracing.alike_pure (hb.set _ _ _ _)

theorem bindProps_alike {s s' : Scope} (h : s.SameNames s') {b b' : BoundProps}
    (hb : b.SameNames b') (tokens : List PropToken) :
    Tracing.Alike BoundProps.SameNames (bindProps s b tokens) (bindProps s' b' tokens) := by
  induction tokens generalizing b b' with
  | nil => exact Tracing.alike_pure hb
  | cons p tokens ih => exact (bindProp_alike h hb p).bind fun _ _ hbound => ih hbound

variable {lib : Library} {expand : Scope → List Char → Expansion (List Char)}

theorem includeComponent_alike (hexpand : LooksAtNames expand) {s s' : Scope}
    (h : s.SameNames s') (use : Directive.ComponentUse) :
    Expansion.Alike Eq (includeComponent lib expand s use)
      (includeComponent lib expand s' use) := by
  unfold includeComponent
  rw [h.processed]
  split
  · exact Expansion.alike_refl (fun _ => rfl) _
  · refine (Expansion.alike_refl (fun _ => rfl) _).bind fun file _ hfile => ?_
    subst hfile
    refine (Expansion.alike_refl (fun _ => rfl) _).bind fun _ _ _ => ?_
    have hbound := Expansion.alike_lift
      (bindProps_alike h (show BoundProps.SameNames {} {} from ⟨fun _ => rfl, rfl⟩)
        (props (lexProps use.props)))
    refine hbound.bind fun bound bound' hbound => ?_
    refine (hexpand _ _ (h.child use.name hbound.1) file.2).bind fun body _ hbody => ?_
    subst hbody
    rw [hbound.2]
    exact Expansion.alike_refl (fun _ => rfl) _

theorem includeComponents_alike (hexpand : LooksAtNames expand) {s s' : Scope}
    (h : s.SameNames s') (pieces : List (Piece (Option Directive.ComponentUse))) :
    Expansion.Alike Eq (includeComponents lib expand s pieces)
      (includeComponents lib expand s' pieces) := by
  induction pieces with
  | nil => exact Expansion.alike_pure rfl
  | cons piece pieces ih =>
    cases piece with
    | char c => exact ih.bind fun _ _ hout => Expansion.alike_pure (congrArg (c :: ·) hout)
    | mark use source =>
      cases use with
      | none => exact ih.bind fun _ _ hout => Expansion.alike_pure (congrArg (source ++ ·) hout)
      | some use =>
        refine (includeComponent_alike hexpand h use).bind fun mine _ hmine => ?_
        subst hmine
        exact ih.bind fun _ _ hout => Expansion.alike_pure (congrArg (mine ++ ·) hout)

/-! ### Passes -/

/-- Whether a stage looks at names only. -/
def Stage.LooksAtNames (stage : Stage) : Prop :=
  ∀ s s' : Scope, s.SameNames s' → ∀ text,
    Expansion.Alike SameText (stage.run s text) (stage.run s' text)

theorem runStages_alike {stages : List Stage} (hstages : ∀ stage ∈ stages, stage.LooksAtNames)
    {s s' : Scope} (h : s.SameNames s') (text : List Char) :
    Expansion.Alike SameText (runStages stages s text) (runStages stages s' text) := by
  induction stages generalizing s s' text with
  | nil => exact Expansion.alike_pure ⟨h, rfl⟩
  | cons stage stages ih =>
    refine (hstages stage List.mem_cons_self s s' h text).bind fun out out' hout => ?_
    have hrest := ih (fun s hs => hstages s (List.mem_cons_of_mem _ hs)) hout.1 out.2
    dsimp only
    rw [← hout.2, ← hout.1.templateName, ← hout.1.depth]
    split
    · exact (Expansion.alike_refl (fun _ => rfl) _).bind fun _ _ _ => hrest
    · exact hrest

theorem looksAtNames_stages (limit : Nat) (hexpand : LooksAtNames expand) :
    ∀ stage ∈ Compiler.stages { library := lib, limit := limit } expand,
      stage.LooksAtNames := by
  intro stage hstage s s' h text
  simp only [Compiler.stages, List.append_nil, List.mem_cons, List.not_mem_nil, or_false] at hstage
  rcases hstage with rfl | rfl | rfl | rfl
  · exact Expansion.alike_lift (loopRounds_alike _ h text)
  · exact Expansion.alike_lift ((Tracing.alike_refl (fun _ => rfl) _).bind fun _ _ _ =>
      Tracing.alike_pure ⟨h, rfl⟩)
  · exact (includeComponents_alike hexpand h _).bind fun _ _ hout =>
      Expansion.alike_pure ⟨h, hout⟩
  · refine Expansion.alike_lift ?_
    unfold substituteVariables
    rw [convertVariables_eq h]
    exact (Tracing.alike_refl (fun _ => rfl) _).bind fun _ _ hout =>
      Tracing.alike_pure ⟨h, hout⟩

theorem settle_alike {pass : Scope → List Char → Expansion (Scope × List Char)}
    (hpass : ∀ s s' : Scope, s.SameNames s' → ∀ text,
      Expansion.Alike SameText (pass s text) (pass s' text))
    (limit left : Nat) {s s' : Scope} (h : s.SameNames s') (text : List Char) :
    Expansion.Alike SameText (settle pass limit left s text) (settle pass limit left s' text) := by
  induction left generalizing s s' text with
  | zero =>
    rw [settle, settle, h.templateName, h.depth]
    exact Expansion.alike_throw _
  | succ left ih =>
    refine (hpass s s' h text).bind fun out out' hout => ?_
    refine (Expansion.alike_refl (fun _ => rfl) _).bind fun _ _ _ => ?_
    rw [← hout.2, ← hout.1.templateName, ← hout.1.depth]
    split
    · exact (Expansion.alike_refl (fun _ => rfl) _).bind fun _ _ _ =>
        Expansion.alike_pure ⟨hout.1, rfl⟩
    · exact ih hout.1 out.2

/-- At every depth of components, expansion looks at names only. -/
theorem expandWithin_alike (limit nesting : Nat) {s s' : Scope} (h : s.SameNames s')
    (text : List Char) :
    Expansion.Alike SameText
      (Compiler.expandWithin { library := lib, limit := limit } nesting s text)
      (Compiler.expandWithin { library := lib, limit := limit } nesting s' text) := by
  induction nesting generalizing s s' text with
  | zero => exact Expansion.alike_throw _
  | succ nesting ih =>
    have hbody : LooksAtNames fun s t => do
        return (← Compiler.expandWithin { library := lib, limit := limit } nesting s t).2 :=
      fun s s' h t => (ih h t).bind fun _ _ hout => Expansion.alike_pure hout.2
    exact settle_alike (fun s s' h t => runStages_alike (looksAtNames_stages limit hbody) h t)
      limit limit h text

/-- A layout without a name is no layout. -/
theorem compositionOf_congr {fallback fallback' : Option String}
    (h : fallback.getD "" = fallback'.getD "") (text : List Char) :
    compositionOf fallback text = compositionOf fallback' text := by
  cases hsearch : Directive.layout.search text with
  | some found => simp only [compositionOf, hsearch]
  | none =>
    have hname (fallback : Option String) : compositionOf fallback text =
        if fallback.getD "" = "" then none else some ⟨fallback.getD "", [], text⟩ := by
      simp only [compositionOf, hsearch]
      cases fallback <;> rfl
    rw [hname, hname, h]

theorem compose_alike {s s' : Scope} (h : s.SameNames s') (hlayout : s.layout.getD "" = s'.layout.getD "")
    (text : List Char) : Expansion.Alike SameText (compose lib s text) (compose lib s' text) := by
  unfold compose
  rw [compositionOf_congr hlayout, h.templateName]
  split
  · exact Expansion.alike_pure ⟨h, rfl⟩
  · refine (Expansion.alike_refl (fun _ => rfl) _).bind fun file _ hfile => ?_
    subst hfile
    refine (Expansion.alike_refl (fun _ => rfl) _).bind fun _ _ _ => ?_
    refine (Expansion.alike_refl (fun _ => rfl) _).bind fun _ _ _ => ?_
    exact Expansion.alike_pure ⟨h, rfl⟩

/-- Compilation is one and the same step under contexts with the same names and with layouts of the same
name. -/
theorem compile_congr (lib : Library) (limit : Nat) (name : String) {d d' : Mapping}
    (h : Mapping.SameNames d d') {layout layout' : Option String}
    (hlayout : layout.getD "" = layout'.getD "") :
    ({ library := lib, limit := limit } : Compiler).compile name d layout =
      ({ library := lib, limit := limit } : Compiler).compile name d' layout' := by
  refine Expansion.Alike.eq ?_
  have hscope : Scope.SameNames { templateName := name, data := d, layout := layout }
      { templateName := name, data := d', layout := layout' } := ⟨rfl, h, rfl, rfl, rfl⟩
  refine (Expansion.alike_refl (fun _ => rfl) _).bind fun file _ hfile => ?_
  subst hfile
  refine (Expansion.alike_refl (fun _ => rfl) _).bind fun _ _ _ => ?_
  refine (compose_alike hscope hlayout file.2).bind ?_
  rintro ⟨scope, composed⟩ ⟨scope', composed'⟩ ⟨hscope, htext⟩
  obtain rfl : composed = composed' := htext
  refine (expandWithin_alike limit nestingLimit hscope composed).bind ?_
  rintro ⟨_, text⟩ ⟨_, text'⟩ ⟨_, htext⟩
  obtain rfl : text = text' := htext
  exact Expansion.alike_refl (fun _ => rfl) _

/-- Compilation under two contexts with the same names is one and the same step: from every trace it fails
with one error, or gives one page, and it leaves one report and one log. -/
theorem compile_eq_of_sameNames (lib : Library) (limit : Nat) (name : String)
    (layout : Option String) {d d' : Mapping} (h : Mapping.SameNames d d') :
    ({ library := lib, limit := limit } : Compiler).compile name d layout =
      ({ library := lib, limit := limit } : Compiler).compile name d' layout :=
  compile_congr lib limit name h rfl

/-- A page that hands a value to a component. -/
def handingLibrary : Library := .ofTexts
  [((.template, "page"), "<: component cell :u=\"x\" ><: y :>"), ((.component, "cell"), "<: u :>")]

/-- Two contexts of other values in another order. -/
theorem compile_eq_of_sameNames_cell :
    Mapping.SameNames [(.str "x", .int 1), (.str "y", .list [])]
      [(.str "y", .null), (.str "x", .str "<")] ∧
    ({ library := handingLibrary } : Compiler).compile "page"
      [(.str "x", .int 1), (.str "y", .list [])] none =
    ({ library := handingLibrary } : Compiler).compile "page"
      [(.str "y", .null), (.str "x", .str "<")] none := by
  have h : Mapping.SameNames [(.str "x", .int 1), (.str "y", .list [])]
      [(.str "y", .null), (.str "x", .str "<")] := by
    intro name
    simp [Mapping.contains, Bool.or_comm]
  exact ⟨h, compile_eq_of_sameNames handingLibrary 100 "page" none h⟩

end Template

end Stencil
