import Stencil.Proofs.Template.Marks
import Stencil.Proofs.Template.Remarks
import Stencil.Proofs.Template.StageTexts
import Stencil.Proofs.Template.Steps

/-! A pass and the passes of an expansion, for texts of which it is known what each stage makes. A pass is
its four stages one after the other; an expansion ends at the first pass that changes nothing, and a page
without a layout is the expansion of its text. -/
namespace Stencil.Template

open Text (Piece Recogniser)

/-! ### Stages -/

/-- A text with nothing in it that a stage converts. -/
structure Still (text : List Char) : Prop where
  unmarked : Unmarked text []
  unpaired : text.count '#' ≤ 1

/-- The scopes at one place of a page. They know different names of loops at most. -/
structure Scope.Beside (s s' : Scope) : Prop where
  templateName : s'.templateName = s.templateName
  data : s'.data = s.data
  processed : s'.processed = s.processed
  depth : s'.depth = s.depth

namespace Scope.Beside

variable {s s' s'' : Scope}

theorem refl (s : Scope) : s.Beside s := ⟨rfl, rfl, rfl, rfl⟩

theorem trans (h : s.Beside s') (h' : s'.Beside s'') : s.Beside s'' :=
  ⟨h'.1.trans h.1, h'.2.trans h.2, h'.3.trans h.3, h'.4.trans h.4⟩

end Scope.Beside

theorem convertLoop_beside (s : Scope) (l : Directive.Loop) (source : List Char) (t : Trace) :
    s.Beside (convertLoop s l source t).1.1 := by
  unfold convertLoop
  split
  · exact ⟨rfl, rfl, rfl, rfl⟩
  · exact .refl s

theorem convertLoops_beside (s : Scope) (pieces : List (Piece Directive.Loop)) (t : Trace) :
    s.Beside (convertLoops s pieces t).1.1 := by
  induction pieces generalizing s t with
  | nil => exact .refl s
  | cons piece pieces ih =>
    cases piece with
    | char c => exact ih s t
    | mark l source => exact (convertLoop_beside s l source t).trans (ih _ _)

theorem loopRounds_beside (fuel : Nat) (s : Scope) (text : List Char) (t : Trace) :
    s.Beside (loopRounds fuel s text t).1.1 := by
  induction fuel generalizing s text t with
  | zero => exact .refl s
  | succ fuel ih =>
    have hround := convertLoops_beside s (Directive.loop.pieces text) t
    rw [loopRounds_succ]
    dsimp only
    split
    · exact hround
    · exact hround.trans (ih _ _ _)

/-- Expanding loops moves to no other place. -/
theorem expandLoops_beside (s : Scope) (text : List Char) (t : Trace) :
    s.Beside (expandLoops s text t).1.1 := loopRounds_beside _ s text t

section

variable {lib : Library} {expand : Scope → List Char → Expansion (List Char)} {limit : Nat}
  {scope : Scope}

theorem yields_includeComponents_chars {pieces : List (Piece (Option Directive.ComponentUse))}
    {out : List Char} (h : (includeComponents lib expand scope pieces).Yields fun r => r = out)
    (s : List Char) :
    (includeComponents lib expand scope (s.map .char ++ pieces)).Yields fun r => r = s ++ out := by
  induction s with
  | nil => exact h
  | cons c s ih => exact ih.bind fun r hr => Expansion.yields_pure (by rw [hr]; rfl)

theorem yields_includeComponents_char (scope : Scope) (s : List Char) :
    (includeComponents lib expand scope (s.map .char)).Yields fun out => out = s := by
  have hnil : (includeComponents lib expand scope []).Yields fun out => out = [] :=
    Expansion.yields_pure rfl
  simpa using yields_includeComponents_chars hnil s

theorem yields_includeComponents_use {pieces : List (Piece (Option Directive.ComponentUse))}
    {use : Directive.ComponentUse} {source mine out : List Char}
    (hmine : (includeComponent lib expand scope use).Yields fun r => r = mine)
    (h : (includeComponents lib expand scope pieces).Yields fun r => r = out) :
    (includeComponents lib expand scope (.mark (some use) source :: pieces)).Yields
      fun r => r = mine ++ out :=
  hmine.bind fun _ ha => h.bind fun _ hb => Expansion.yields_pure (by rw [ha, hb])

theorem yields_load {kind : TemplateKind} {name : String} {path : Path} {source : List Char}
    (hresolve : lib.resolve kind name = .ok path) (hread : lib.read path = .ok source) :
    (lib.load kind name).Yields fun file => file = (path, protect source) := by
  unfold Library.load Library.find
  rw [hresolve]
  refine Expansion.Yields.bind (P := fun p => p = path) ?_ ?_
  · exact (Expansion.yields_pure (P := fun p => p = path) rfl).bind fun p hp =>
      Expansion.yields_lift_bind fun _ => Expansion.yields_pure hp
  rintro _ rfl
  rw [hread]
  exact (Expansion.yields_pure (P := fun text => text = source) rfl).bind fun text htext =>
    Expansion.yields_pure (by rw [htext])

/-- A use of a component outside of it becomes its body, with the names of the props bound around it. -/
theorem yields_includeComponent {use : Directive.ComponentUse} {path : Path}
    {source body : List Char} {bound : BoundProps} (hfresh : use.name ∉ scope.processed)
    (hresolve : lib.resolve .component use.name = .ok path) (hread : lib.read path = .ok source)
    (hbound : ∀ t, (bindProps scope {} (props (lexProps use.props)) t).1 = bound)
    (hbody : (expand (scope.child use.name bound.values) (protect source)).Yields
      fun out => out = body) :
    (includeComponent lib expand scope use).Yields fun out => out = wrapBody body bound.exprs := by
  unfold includeComponent
  rw [if_neg (by simpa using hfresh)]
  refine (yields_load hresolve hread).bind ?_
  rintro _ rfl
  refine Expansion.yields_lift_bind fun _ => ?_
  refine (Expansion.yields_lift (P := fun b => b = bound) hbound).bind ?_
  rintro _ rfl
  refine hbody.bind fun out hout => Expansion.yields_lift_bind fun _ => ?_
  exact Expansion.yields_pure (by rw [hout])

/-- Without props nothing is bound. -/
theorem yields_includeComponent_bare {use : Directive.ComponentUse} {path : Path}
    {source body : List Char} (hfresh : use.name ∉ scope.processed)
    (hresolve : lib.resolve .component use.name = .ok path) (hread : lib.read path = .ok source)
    (hprops : props (lexProps use.props) = [])
    (hbody : (expand (scope.child use.name []) (protect source)).Yields fun out => out = body) :
    (includeComponent lib expand scope use).Yields fun out => out = body := by
  have hbound (t : Trace) : (bindProps scope {} (props (lexProps use.props)) t).1 = {} := by
    rw [hprops]
    rfl
  exact yields_includeComponent hfresh hresolve hread hbound hbody

/-- A text without uses of components stays as it is. -/
theorem yields_resolveComponents {text : List Char} (h : Directive.component.Skips text [])
    (scope : Scope) :
    (resolveComponents lib expand scope text).Yields fun out => out = (scope, text) := by
  unfold resolveComponents
  rw [Recogniser.pieces_of_skips h]
  exact (yields_includeComponents_char scope text).bind fun out hout =>
    Expansion.yields_pure (by rw [hout])

/-! ### Passes -/

/-- A stage and the stages after it. -/
theorem yields_runStages_cons {stage : Stage} {stages : List Stage} {text : List Char}
    {P Q : Scope × List Char → Prop} (hstage : (stage.run scope text).Yields P)
    (hrest : ∀ out, P out → (runStages stages out.1 out.2).Yields Q) :
    (runStages (stage :: stages) scope text).Yields Q := by
  refine hstage.bind fun out hout => ?_
  dsimp only
  split
  · exact Expansion.yields_lift_bind fun _ => hrest out hout
  · exact hrest out hout

/-- A pass of which it is known what the stages make. -/
theorem yields_pass {text expanded commented resolved out : List Char}
    (hloops : loopRoundsText (text.length + 1) text = expanded)
    (hcomments : convertedComments expanded = commented)
    (hcomponents : ∀ s, scope.Beside s →
      (includeComponents lib expand s (Directive.component.pieces commented)).Yields
        fun r => r = resolved)
    (hvariables : ∀ s, scope.Beside s →
      Directive.placeholder.replace (placeholderText s) resolved = out) :
    (runStages (Compiler.stages { library := lib, limit := limit } expand) scope text).Yields
      fun r => scope.Beside r.1 ∧ r.2 = out := by
  refine yields_runStages_cons (P := fun r => scope.Beside r.1 ∧ r.2 = expanded) ?_ ?_
  · refine Expansion.yields_lift fun t => ⟨expandLoops_beside scope text t, ?_⟩
    rw [expandLoops_text, hloops]
  rintro ⟨s, _⟩ ⟨hbeside, rfl⟩
  refine yields_runStages_cons (P := fun r => r = (s, commented)) ?_ ?_
  · exact Expansion.yields_lift fun t => congrArg (s, ·) hcomments
  rintro _ rfl
  refine yields_runStages_cons (P := fun r => r = (s, resolved)) ?_ ?_
  · exact (hcomponents s hbeside).bind fun r hr => Expansion.yields_pure (by rw [hr])
  rintro _ rfl
  refine yields_runStages_cons (P := fun r => r = (s, out)) ?_ ?_
  · refine Expansion.yields_lift fun t => ?_
    rw [substituteVariables_text, hvariables s hbeside]
  rintro _ rfl
  exact Expansion.yields_pure ⟨hbeside, rfl⟩

/-- A text without opening marks is left alone but for its remarks. -/
theorem yields_pass_unmarked (limit : Nat) {text : List Char} (h : Unmarked text [])
    (hcomments : Unmarked (convertedComments text) []) (scope : Scope) :
    (runStages (Compiler.stages { library := lib, limit := limit } expand) scope text).Yields
      fun r => scope.Beside r.1 ∧ r.2 = convertedComments text := by
  have hround : loopRound text = text :=
    Recogniser.replace_of_skips (h.skips Directive.loop_needsMark)
  have hloops : loopRoundsText (text.length + 1) text = text := by
    rw [loopRoundsText, if_pos hround]
  have hpieces := Recogniser.pieces_of_skips (hcomments.skips Directive.component_needsMark)
  refine yields_pass hloops rfl (fun s _ => ?_) fun s _ =>
    Recogniser.replace_of_skips (hcomments.skips Directive.placeholder_needsMark)
  rw [hpieces]
  exact yields_includeComponents_char s (convertedComments text)

/-- A pass over a still text changes nothing. -/
theorem yields_pass_still (limit : Nat) {text : List Char} (h : Still text) (scope : Scope) :
    (runStages (Compiler.stages { library := lib, limit := limit } expand) scope text).Yields
      fun out => out.2 = text := by
  have hcomments := convertedComments_eq_self_iff.mpr h.unpaired
  refine (yields_pass_unmarked limit h.unmarked ?_ scope).imp fun out hout => ?_
  · rw [hcomments]
    exact h.unmarked
  · rw [hout.2, hcomments]

/-! ### Expansions -/

/-- The expansion of the body of a component. -/
def Compiler.expandBody (c : Compiler) (nesting : Nat) (scope : Scope) (text : List Char) :
    Expansion (List Char) := do
  return (← c.expandWithin nesting scope text).2

/-- A pass over a text, with components up to `nesting` deep. -/
def Compiler.passWithin (c : Compiler) (nesting : Nat) (scope : Scope) (text : List Char) :
    Expansion (Scope × List Char) :=
  runStages (c.stages (c.expandBody nesting)) scope text

theorem yields_expandBody {c : Compiler} {nesting : Nat} {text out : List Char}
    (h : (c.expandWithin nesting scope text).Yields fun r => r.2 = out) :
    (c.expandBody nesting scope text).Yields fun r => r = out :=
  h.bind fun _ hr => Expansion.yields_pure hr

variable {pass : Scope → List Char → Expansion (Scope × List Char)} {text : List Char}

/-- Passes end at one that changes nothing. -/
theorem yields_settle_still (hpass : (pass scope text).Yields fun r => r.2 = text) (left : Nat) :
    (settle pass limit (left + 1) scope text).Yields fun r => r.2 = text := by
  refine hpass.bind fun out hout => ?_
  dsimp only
  rw [hout, if_pos rfl]
  exact Expansion.yields_lift_bind fun _ =>
    Expansion.yields_lift_bind fun _ => Expansion.yields_pure rfl

/-- A still text is its own expansion. -/
theorem yields_expandWithin_still (hlimit : 1 ≤ limit) (h : Still text) (nesting : Nat)
    (scope : Scope) :
    (Compiler.expandWithin { library := lib, limit := limit } (nesting + 1) scope text).Yields
      fun r => r.2 = text := by
  obtain ⟨left, rfl⟩ : ∃ left, limit = left + 1 := ⟨limit - 1, by omega⟩
  exact yields_settle_still (yields_pass_still (left + 1) h scope) left

/-- A pass that changes the text, and the passes after it. -/
theorem yields_settle_step {P Q : Scope × List Char → Prop} {left : Nat}
    (hpass : (pass scope text).Yields P) (hmoves : ∀ r, P r → r.2 ≠ text)
    (hrest : ∀ r, P r → (settle pass limit left r.1 r.2).Yields Q) :
    (settle pass limit (left + 1) scope text).Yields Q := by
  refine hpass.bind fun out hout => ?_
  dsimp only
  rw [if_neg (hmoves out hout)]
  exact Expansion.yields_lift_bind fun _ => hrest out hout

/-- A pass after which there is nothing left to do. -/
theorem yields_settle_once {P : Scope → Prop} {out : List Char}
    (hpass : (pass scope text).Yields fun r => P r.1 ∧ r.2 = out)
    (hstill : ∀ s, P s → (pass s out).Yields fun r => r.2 = out) (left : Nat) :
    (settle pass limit (left + 2) scope text).Yields fun r => r.2 = out := by
  by_cases hmoves : out = text
  · subst hmoves
    exact yields_settle_still (hpass.imp fun _ hr => hr.2) (left + 1)
  · refine yields_settle_step hpass (fun r hr => by rwa [hr.2]) ?_
    rintro ⟨s, _⟩ ⟨hs, rfl⟩
    exact yields_settle_still (hstill s hs) left

theorem fails_settle_step {P : Scope × List Char → Prop} {left : Nat} {e : Error}
    (hpass : (pass scope text).Yields P) (hmoves : ∀ r, P r → r.2 ≠ text)
    (hrest : ∀ r, P r → (settle pass limit left r.1 r.2).Fails e) :
    (settle pass limit (left + 1) scope text).Fails e := by
  refine hpass.bind_fails fun out hout => ?_
  dsimp only
  rw [if_neg (hmoves out hout)]
  exact Expansion.fails_lift_bind fun _ => hrest out hout

/-- Passes that change the text again and again reach every limit. -/
theorem fails_settle {I : List Char → Prop}
    (hpass : ∀ s text, scope.Beside s → I text →
      (pass s text).Yields fun r => s.Beside r.1 ∧ I r.2 ∧ r.2 ≠ text)
    (left : Nat) {s : Scope} (hs : scope.Beside s) (htext : I text) :
    (settle pass limit left s text).Fails
      (.expansionLimit scope.templateName limit scope.depth) := by
  induction left generalizing s text with
  | zero =>
    rw [← hs.templateName, ← hs.depth]
    exact Expansion.fails_throw _
  | succ left ih =>
    refine fails_settle_step (hpass s text hs htext) (fun r hr => hr.2.2) fun r hr => ?_
    exact ih (hs.trans hr.1) hr.2.1

/-! ### Pages -/

variable {name : String} {path : Path} {source : List Char}

theorem yields_compose_none (h : Directive.layout.search text = none) (data : Mapping) :
    (compose lib { templateName := name, data := data } text).Yields
      fun out => out = ({ templateName := name, data := data }, text) := by
  unfold compose compositionOf
  rw [h]
  exact Expansion.yields_pure rfl

/-- A page that declares no layout is compiled by expanding its text. -/
theorem yields_compile (hresolve : lib.resolve .template name = .ok path)
    (hread : lib.read path = .ok source) (hlayout : Directive.layout.search (protect source) = none)
    {data : Mapping} {P : List Char → Prop}
    (hexpand : (Compiler.expand { library := lib, limit := limit }
      { templateName := name, data := data } (protect source)).Yields fun out => P out.2) :
    (Compiler.compile { library := lib, limit := limit } name data none).Yields
      fun page => P page.source := by
  refine (yields_load hresolve hread).bind ?_
  rintro _ rfl
  refine Expansion.yields_lift_bind fun _ => (yields_compose_none hlayout data).bind ?_
  rintro _ rfl
  refine hexpand.bind fun out hout => Expansion.yields_lift_bind fun _ => ?_
  have hget : (get : Expansion Trace).Yields fun _ => True := fun t => ⟨t, t, rfl, trivial⟩
  exact hget.bind fun _ _ => Expansion.yields_lift_bind fun _ => Expansion.yields_pure hout

theorem fails_compile (hresolve : lib.resolve .template name = .ok path)
    (hread : lib.read path = .ok source) (hlayout : Directive.layout.search (protect source) = none)
    {data : Mapping} {e : Error}
    (hexpand : (Compiler.expand { library := lib, limit := limit }
      { templateName := name, data := data } (protect source)).Fails e) :
    (Compiler.compile { library := lib, limit := limit } name data none).Fails e := by
  refine (yields_load hresolve hread).bind_fails ?_
  rintro _ rfl
  refine Expansion.fails_lift_bind fun _ => (yields_compose_none hlayout data).bind_fails ?_
  rintro _ rfl
  exact hexpand.bind _

/-- A page that declares no layout is not compiled if the default layout is not found. -/
theorem fails_compile_layout (hresolve : lib.resolve .template name = .ok path)
    (hread : lib.read path = .ok source) (hlayout : Directive.layout.search (protect source) = none)
    {data : Mapping} {layout : String} (hname : layout ≠ "") {e : Error}
    (hmissing : lib.resolve .layout layout = .error e) :
    (Compiler.compile { library := lib, limit := limit } name data (some layout)).Fails e := by
  have hcomposition : compositionOf (some layout) (protect source) = some ⟨layout, [], protect source⟩ := by
    simp only [compositionOf, hlayout, if_neg hname]
  have hload : (lib.load .layout layout).Fails e := by
    unfold Library.load Library.find
    rw [hmissing]
    exact ((Expansion.fails_throw e).bind _).bind _
  refine (yields_load hresolve hread).bind_fails ?_
  rintro _ rfl
  refine Expansion.fails_lift_bind fun _ => Expansion.Fails.bind ?_ _
  unfold compose
  dsimp only
  rw [hcomposition]
  exact hload.bind _

end

end Stencil.Template
