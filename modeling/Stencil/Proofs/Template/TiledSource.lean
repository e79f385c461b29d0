import Stencil.Proofs.Template.StageTexts
import Stencil.Proofs.Template.Steps
import Stencil.Proofs.Template.TiledStretches

/-! Compiled text is made of whole tags. Loaded text is tiled, and every stage of a pass makes a tiled text
of a tiled text: what it takes out falls between tags, and what it puts in is plain or a sound tag around
a tiled text. -/
namespace Stencil.Template

open Target (Construct Expr Tiled)
open Text (Piece)

/-- Whether a stage makes tiled texts of tiled texts. -/
def Stage.KeepsTiles (stage : Stage) : Prop :=
  ∀ scope text, Tiled text → (stage.run scope text).Ensures fun out => Tiled out.2

/-- Whether an expansion of bodies makes tiled texts of tiled texts. -/
def KeepsTiles (expand : Scope → List Char → Expansion (List Char)) : Prop :=
  ∀ scope text, Tiled text → (expand scope text).Ensures Tiled

/-! ### Loops and remarks -/

theorem Directive.Loop.isSound_of_isUsable {l : Directive.Loop} (h : l.isUsable = true) :
    (Construct.openLoop l.indexName l.item l.collection).IsSound := by
  simp only [isUsable, Bool.and_eq_true] at h
  exact ⟨h.1.1.2, h.1.1.1, h.1.2⟩

theorem tiled_loop_put (l : Directive.Loop) (source : List Char) (hbody : Tiled l.body)
    (hsource : Tiled source) : Tiled (l.put source) := by
  unfold Directive.Loop.put
  split
  · next h =>
    exact ((Tiled.of_tag (Directive.Loop.isSound_of_isUsable h)).append hbody).append
      (Tiled.of_tag (k := .closeLoop) trivial)
  · exact hsource

theorem tiled_loopRoundsText (fuel : Nat) {text : List Char} (h : Tiled text) :
    Tiled (loopRoundsText fuel text) := by
  induction fuel generalizing text with
  | zero => exact h
  | succ fuel ih =>
    rw [loopRoundsText]
    split
    · exact h
    · exact ih (Directive.loop_tiles.replace tiled_loop_put h)

theorem tiled_convertedComments {text : List Char} (h : Tiled text) :
    Tiled (convertedComments text) := by
  refine Directive.comment_tiles.replace (fun remark _ hremark _ => ?_) h
  exact ((Tiled.of_plain (by decide)).append hremark).append (Tiled.of_plain (by decide))

/-! ### Placeholders -/

theorem tiled_diagnostic {message : String} (h : '{' ∉ message.toList) :
    Tiled (diagnostic message) :=
  ((Tiled.of_plain (by decide)).append (Tiled.of_plain h)).append (Tiled.of_plain (by decide))

theorem tiled_placeholderText (scope : Scope) (name : String) (source : List Char)
    (hname : '{' ∉ name.toList) (hsource : Tiled source) :
    Tiled (placeholderText scope name source) := by
  unfold placeholderText
  split
  · exact hsource
  split
  · exact tiled_diagnostic (by simp [toString, hname])
  split
  · exact tiled_diagnostic (by simp [toString, hname])
  · next h => exact Tiled.of_tag (k := .show name) (by simpa [Construct.IsSound] using h)

/-! ### Uses of components -/

/-- Whether bindings are those of a sound tag, or none. -/
def SoundExprs (exprs : List (String × Expr)) : Prop :=
  ∀ b ∈ exprs, isRenderable b.1 = true ∧ b.2.IsSound

theorem soundExprs_setExpr {exprs : List (String × Expr)} (h : SoundExprs exprs) {key : String}
    {e : Expr} (hkey : isRenderable key = true) (he : e.IsSound) :
    SoundExprs (setExpr exprs key e) := by
  induction exprs with
  | nil =>
    intro b hb
    rw [setExpr, List.mem_singleton] at hb
    rw [hb]
    exact ⟨hkey, he⟩
  | cons b exprs ih =>
    obtain ⟨k, old⟩ := b
    have hhead := h (k, old) List.mem_cons_self
    have hrest : SoundExprs exprs := fun b hb => h b (List.mem_cons_of_mem _ hb)
    rw [setExpr]
    split
    · intro b hb
      rcases List.mem_cons.mp hb with rfl | hb
      · exact ⟨hhead.1, he⟩
      · exact hrest b hb
    · intro b hb
      rcases List.mem_cons.mp hb with rfl | hb
      · exact hhead
      · exact ih hrest b hb

theorem soundExprs_bindProp (scope : Scope) {bound : BoundProps} (h : SoundExprs bound.exprs)
    (p : PropToken) (t : Trace) : SoundExprs (bindProp scope bound p t).1.exprs := by
  unfold bindProp
  split
  · exact h
  next hkey =>
    have hkey : isRenderable p.key = true := by simpa using hkey
    split
    · exact soundExprs_setExpr h hkey trivial
    dsimp only
    split
    · next hsource =>
      rw [Bool.and_eq_true] at hsource
      exact soundExprs_setExpr h hkey hsource.1
    · exact soundExprs_setExpr h hkey trivial

theorem soundExprs_bindProps (scope : Scope) {bound : BoundProps} (h : SoundExprs bound.exprs)
    (tokens : List PropToken) (t : Trace) : SoundExprs (bindProps scope bound tokens t).1.exprs := by
  induction tokens generalizing bound t with
  | nil => exact h
  | cons p tokens ih => exact ih (soundExprs_bindProp scope h p t) _

theorem tiled_wrapBody {body : List Char} (hbody : Tiled body) {exprs : List (String × Expr)}
    (h : SoundExprs exprs) : Tiled (wrapBody body exprs) := by
  unfold wrapBody
  split
  · exact hbody
  · next hne =>
    have hopen : (Construct.openWith exprs).IsSound := ⟨by simpa using hne, h⟩
    exact ((Tiled.of_tag hopen).append hbody).append (Tiled.of_tag (k := .closeWith) trivial)

variable {lib : Library} {expand : Scope → List Char → Expansion (List Char)}

theorem tiled_load (kind : TemplateKind) (name : String) :
    (lib.load kind name).Ensures fun file => Tiled file.2 :=
  Expansion.ensures_bind fun _ => Expansion.ensures_bind fun text =>
    Expansion.ensures_pure (Tiled.protect text)

theorem tiled_includeComponent (hexpand : KeepsTiles expand) (scope : Scope)
    {use : Directive.ComponentUse} (hname : '{' ∉ use.name.toList) :
    (includeComponent lib expand scope use).Ensures Tiled := by
  unfold includeComponent
  split
  · refine Expansion.ensures_bind fun _ => Expansion.ensures_bind fun _ => ?_
    exact Expansion.ensures_pure (tiled_diagnostic (by simp [toString, hname]))
  · refine (tiled_load .component use.name).bind fun file hfile => ?_
    refine Expansion.ensures_bind fun _ => ?_
    have hbound := Expansion.ensures_lift (x := bindProps scope {} (props (lexProps use.props)))
      (P := fun bound => SoundExprs bound.exprs)
      (soundExprs_bindProps scope (by simp [SoundExprs]) _)
    refine hbound.bind fun bound hbound => ?_
    refine (hexpand _ _ hfile).bind fun body hbody => ?_
    exact Expansion.ensures_bind fun _ => Expansion.ensures_pure (tiled_wrapBody hbody hbound)

theorem tiled_includeComponents (hexpand : KeepsTiles expand) (scope : Scope)
    {pieces : List (Piece (Option Directive.ComponentUse))} {front : List Char}
    (h : TiledPieces (fun use => ∀ u, use = some u → '{' ∉ u.name.toList) front pieces) :
    (includeComponents lib expand scope pieces).Ensures fun out => Tiled (front ++ out) := by
  induction pieces generalizing front with
  | nil => exact Expansion.ensures_pure (by simpa [TiledPieces] using h)
  | cons piece pieces ih =>
    cases piece with
    | char c =>
      refine (ih h).bind fun out hout => Expansion.ensures_pure ?_
      simpa using hout
    | mark use source =>
      obtain ⟨hfront, hsource, huse, hrest⟩ := h
      cases use with
      | none =>
        refine (ih hrest).bind fun out hout => Expansion.ensures_pure ?_
        exact hfront.append (hsource.append hout)
      | some use =>
        refine (tiled_includeComponent hexpand scope (huse use rfl)).bind fun mine hmine => ?_
        refine (ih hrest).bind fun out hout => Expansion.ensures_pure ?_
        exact hfront.append (hmine.append hout)

/-! ### Passes -/

theorem keepsTiles_runStages {stages : List Stage} (h : ∀ stage ∈ stages, stage.KeepsTiles)
    (scope : Scope) {text : List Char} (ht : Tiled text) :
    (runStages stages scope text).Ensures fun out => Tiled out.2 := by
  induction stages generalizing scope text with
  | nil => exact Expansion.ensures_pure ht
  | cons stage stages ih =>
    refine (h stage List.mem_cons_self scope text ht).bind fun out hout => ?_
    have hrest := ih (fun s hs => h s (List.mem_cons_of_mem _ hs)) out.1 hout
    dsimp only
    split
    · exact Expansion.ensures_bind fun _ => hrest
    · exact hrest

/-- Every one of the usual stages keeps tiles. -/
theorem keepsTiles_stages (limit : Nat) (hexpand : KeepsTiles expand) :
    ∀ stage ∈ Compiler.stages { library := lib, limit := limit } expand, stage.KeepsTiles := by
  intro stage hstage scope text ht
  simp only [Compiler.stages, List.append_nil, List.mem_cons, List.not_mem_nil, or_false] at hstage
  rcases hstage with rfl | rfl | rfl | rfl
  · refine Expansion.ensures_lift fun t => ?_
    rw [expandLoops_text]
    exact tiled_loopRoundsText _ ht
  · exact Expansion.ensures_lift fun t => tiled_convertedComments ht
  · refine (tiled_includeComponents hexpand scope
      (Directive.component_tiles.pieces (show Tiled ([] ++ text) from ht))).bind fun out hout => ?_
    exact Expansion.ensures_pure hout
  · refine Expansion.ensures_lift fun t => ?_
    rw [substituteVariables_text]
    exact Directive.placeholder_tiles.replace (tiled_placeholderText scope) ht

theorem tiled_settle {pass : Scope → List Char → Expansion (Scope × List Char)}
    (hpass : ∀ scope text, Tiled text → (pass scope text).Ensures fun out => Tiled out.2)
    (limit left : Nat) (scope : Scope) {text : List Char} (ht : Tiled text) :
    (settle pass limit left scope text).Ensures fun out => Tiled out.2 := by
  induction left generalizing scope text with
  | zero => exact Expansion.ensures_throw _
  | succ left ih =>
    refine (hpass scope text ht).bind fun out hout => Expansion.ensures_bind fun _ => ?_
    split
    · exact Expansion.ensures_bind fun _ => Expansion.ensures_pure hout
    · exact ih out.1 hout

/-- Expansion keeps tiles, however deep components are nested. -/
theorem tiled_expandWithin (limit nesting : Nat) (scope : Scope) {text : List Char}
    (ht : Tiled text) :
    (Compiler.expandWithin { library := lib, limit := limit } nesting scope text).Ensures
      fun out => Tiled out.2 := by
  induction nesting generalizing scope text with
  | zero => exact Expansion.ensures_throw _
  | succ nesting ih =>
    have hbody : KeepsTiles fun s t => do
        return (← Compiler.expandWithin { library := lib, limit := limit } nesting s t).2 :=
      fun s t ht => (ih s ht).bind fun out hout => Expansion.ensures_pure hout
    exact tiled_settle (fun s t ht => keepsTiles_runStages (keepsTiles_stages limit hbody) s ht)
      limit limit scope ht

theorem tiled_fillLayout {layout body : List Char} (hlayout : Tiled layout) (hbody : Tiled body) :
    Tiled (fillLayout layout body) :=
  Directive.content_tiles.replace (fun _ _ _ _ => hbody) hlayout

theorem tiled_compositionOf {fallback : Option String} {text : List Char} (ht : Tiled text)
    {c : Composition} (h : compositionOf fallback text = some c) : Tiled c.lead ∧ Tiled c.body := by
  unfold compositionOf at h
  split at h
  · next hsearch =>
    cases h
    exact Directive.layout_tiles.search hsearch ht
  · split at h
    · split at h
      · cases h
      · cases h
        exact ⟨.nil, ht⟩
    · cases h

theorem tiled_compose (scope : Scope) {text : List Char} (ht : Tiled text) :
    (compose lib scope text).Ensures fun out => Tiled out.2 := by
  unfold compose
  split
  · exact Expansion.ensures_pure ht
  · next c hc =>
    obtain ⟨hlead, hbody⟩ := tiled_compositionOf ht hc
    refine (tiled_load .layout c.layout).bind fun file hfile => ?_
    refine Expansion.ensures_bind fun _ => Expansion.ensures_bind fun _ => ?_
    exact Expansion.ensures_pure (hlead.append (tiled_fillLayout hfile hbody))

theorem tiled_expand (lib : Library) (limit : Nat) (scope : Scope) {text : List Char} (ht : Tiled text) :
    (({ library := lib, limit := limit } : Compiler).expand scope text).Ensures fun out => Tiled out.2 :=
  tiled_expandWithin limit nestingLimit scope ht

theorem tiled_compile (lib : Library) (limit : Nat) (name : String) (data : Mapping) (layout : Option String) :
    (({ library := lib, limit := limit } : Compiler).compile name data layout).Ensures fun page =>
      Tiled page.source := by
  refine (tiled_load .template name).bind fun file hfile => Expansion.ensures_bind fun _ => ?_
  refine (tiled_compose _ hfile).bind fun composed hcomposed => ?_
  refine (tiled_expand lib limit composed.1 hcomposed).bind fun out hout => ?_
  refine Expansion.ensures_bind fun _ => Expansion.ensures_bind fun _ => ?_
  exact Expansion.ensures_bind fun _ => Expansion.ensures_pure hout

/-- The source of every page that compiles splits completely into plain characters other than an opening
brace and whole tags in which all names can be referred to; and no stage of any pass, on any such text,
makes a text that does not. -/
theorem compile_tiled (lib : Library) (limit : Nat) :
    let c : Compiler := { library := lib, limit := limit }
    (∀ name data layout t page t', c.compile name data layout t = .ok page t' →
      Tiled page.source) ∧
    ∀ stage ∈ c.stages fun s t => do return (← c.expand s t).2, stage.KeepsTiles := by
  intro c
  refine ⟨fun name data layout t page t' h => tiled_compile lib limit name data layout h, ?_⟩
  exact keepsTiles_stages limit fun s t ht =>
    (tiled_expand lib limit s ht).bind fun out hout => Expansion.ensures_pure hout

/-- A page with a brace, a loop and a component that is handed a brace and a name. -/
def cellLibrary : Library := .ofTexts
  [((.template, "page"), "\x7b<: for x in xs :><: component cell t=\"\x7b#\" :u=\"x\" ><: endfor :>"),
   ((.component, "cell"), "<: t :>#")]

theorem compile_tiled_cell : ∃ page t',
    ({ library := cellLibrary } : Compiler).compile "page" [] none
      { report := { templateName := "page" } } = .ok page t' ∧ Tiled page.source := by
  obtain ⟨page, t', h⟩ := Expansion.exists_ok_of_succeeds
    (x := ({ library := cellLibrary } : Compiler).compile "page" [] none)
    (t := { report := { templateName := "page" } }) (by decide +kernel)
  exact ⟨page, t', h, (compile_tiled cellLibrary 100).1 _ _ _ _ _ _ h⟩

end Stencil.Template
