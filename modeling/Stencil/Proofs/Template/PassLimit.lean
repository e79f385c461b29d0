import Mathlib.Data.List.Forall2
import Stencil.Proofs.Template.Steps
import Stencil.Template.Compiler

/-! The limit on passes. It is the same for the page and for every component inside of it, and all that comes
of it is that an expansion ends early: a step under a higher limit does whatever a step under a lower one
succeeds with, down to the report and the log. -/
namespace Stencil.Template

open Text (Piece)

/-- Whether a step succeeds wherever another one does, with the same result and the same trace. -/
def Expansion.Extends {α : Type} (y x : Expansion α) : Prop :=
  ∀ ⦃t a t'⦄, x t = .ok a t' → y t = .ok a t'

namespace Expansion

variable {α β : Type}

theorem extends_refl (x : Expansion α) : x.Extends x := fun _ _ _ h => h

theorem extends_throw (y : Expansion α) (e : Error) : y.Extends (throw e) := by
  intro t a t' h
  cases h

/-- Two steps in a row succeed where two others do, if each of them does. -/
theorem Extends.bind {x y : Expansion α} {f g : α → Expansion β} (hx : y.Extends x)
    (hf : ∀ a, (g a).Extends (f a)) : (y >>= g).Extends (x >>= f) := by
  intro t b t' h
  obtain ⟨a, t₁, ha, hb⟩ := bind_eq_ok h
  change EStateM.bind y g t = _
  unfold EStateM.bind
  rw [hx ha]
  exact hf a hb

/-- A step that is the same in both, before two others. -/
theorem extends_bind (x : Expansion α) {f g : α → Expansion β} (hf : ∀ a, (g a).Extends (f a)) :
    (x >>= g).Extends (x >>= f) := (extends_refl x).bind hf

end Expansion

/-! ### One pass -/

/-- Whether one expansion of bodies extends another one, whatever the body and its scope. -/
def ExtendsBodies (expand' expand : Scope → List Char → Expansion (List Char)) : Prop :=
  ∀ scope text, (expand' scope text).Extends (expand scope text)

section

variable {lib : Library} {expand expand' : Scope → List Char → Expansion (List Char)}

theorem includeComponent_extends (h : ExtendsBodies expand' expand) (scope : Scope)
    (use : Directive.ComponentUse) :
    (includeComponent lib expand' scope use).Extends (includeComponent lib expand scope use) := by
  unfold includeComponent
  split
  · exact Expansion.extends_refl _
  · refine Expansion.extends_bind _ fun file => ?_
    refine Expansion.extends_bind _ fun _ => ?_
    refine Expansion.extends_bind _ fun bound => ?_
    exact (h _ _).bind fun body => Expansion.extends_refl _

theorem includeComponents_extends (h : ExtendsBodies expand' expand) (scope : Scope)
    (pieces : List (Piece (Option Directive.ComponentUse))) :
    (includeComponents lib expand' scope pieces).Extends
      (includeComponents lib expand scope pieces) := by
  induction pieces with
  | nil => exact Expansion.extends_refl _
  | cons piece pieces ih =>
    cases piece with
    | char c => exact ih.bind fun out => Expansion.extends_refl _
    | mark use source =>
      cases use with
      | none => exact ih.bind fun out => Expansion.extends_refl _
      | some use =>
        refine (includeComponent_extends h scope use).bind fun mine => ?_
        exact ih.bind fun out => Expansion.extends_refl _

/-- Whether one stage has another one's name and extends it. -/
structure Stage.Extends (stage' stage : Stage) : Prop where
  name : stage'.name = stage.name
  run : ∀ scope text, (stage'.run scope text).Extends (stage.run scope text)

theorem Stage.Extends.refl (stage : Stage) : stage.Extends stage :=
  ⟨rfl, fun _ _ => Expansion.extends_refl _⟩

theorem runStages_extends {stages stages' : List Stage}
    (h : List.Forall₂ Stage.Extends stages' stages) (scope : Scope) (text : List Char) :
    (runStages stages' scope text).Extends (runStages stages scope text) := by
  induction h generalizing scope text with
  | nil => exact Expansion.extends_refl _
  | cons hstage _ ih =>
    refine (hstage.run scope text).bind fun out => ?_
    dsimp only
    rw [hstage.name]
    split
    · exact Expansion.extends_bind _ fun _ => ih out.1 out.2
    · exact ih out.1 out.2

/-- Of the stages of a pass, only the one that puts components in place expands anything. -/
theorem stages_extends {c c' : Compiler} (hlib : c'.library = c.library) (hextra : c'.extra = c.extra)
    (h : ExtendsBodies expand' expand) :
    List.Forall₂ Stage.Extends (c'.stages expand') (c.stages expand) := by
  have hcomponents : Stage.Extends ⟨"ComponentResolver", resolveComponents c.library expand'⟩
      ⟨"ComponentResolver", resolveComponents c.library expand⟩ :=
    ⟨rfl, fun scope text =>
      (includeComponents_extends h scope _).bind fun out => Expansion.extends_refl _⟩
  unfold Compiler.stages
  rw [hlib, hextra]
  refine .cons (.refl _) (.cons (.refl _) (.cons hcomponents (.cons (.refl _) ?_)))
  exact List.forall₂_same.mpr fun stage _ => .refl stage

end

/-! ### Passes -/

/-- The passes that were made count, and not those that are left. -/
theorem settle_extends {pass pass' : Scope → List Char → Expansion (Scope × List Char)}
    (h : ∀ scope text, (pass' scope text).Extends (pass scope text)) (limit left more : Nat)
    (scope : Scope) (text : List Char) :
    (settle pass' (limit + more) (left + more) scope text).Extends
      (settle pass limit left scope text) := by
  induction left generalizing scope text with
  | zero => exact Expansion.extends_throw _ _
  | succ left ih =>
    rw [Nat.add_right_comm, settle, settle]
    refine (h scope text).bind fun out => ?_
    refine Expansion.extends_bind _ fun _ => ?_
    rw [Nat.add_sub_add_right]
    split
    · exact Expansion.extends_refl _
    · exact ih out.1 out.2

/-- At every depth of components, an expansion under a higher limit extends one under a lower limit. -/
theorem expandWithin_extends (c : Compiler) (more nesting : Nat) (scope : Scope) (text : List Char) :
    (Compiler.expandWithin { c with limit := c.limit + more } nesting scope text).Extends
      (c.expandWithin nesting scope text) := by
  induction nesting generalizing scope text with
  | zero => exact Expansion.extends_throw _ _
  | succ nesting ih =>
    have hbodies : ExtendsBodies
        (fun s t => do
          return (← Compiler.expandWithin { c with limit := c.limit + more } nesting s t).2)
        (fun s t => do return (← c.expandWithin nesting s t).2) :=
      fun s t => (ih s t).bind fun out => Expansion.extends_refl _
    exact settle_extends (runStages_extends (stages_extends (c := c) rfl rfl hbodies)) c.limit c.limit more
      scope text

/-- A page that is compiled under one limit is compiled under every higher one, to the same text, with the
same path, report and log. -/
theorem compile_eq_of_limit_le {c : Compiler} {limit : Nat} (hle : c.limit ≤ limit) {name : String}
    {data : Mapping} {layout : Option String} {t t' : Trace} {page : Compiled}
    (h : c.compile name data layout t = .ok page t') :
    Compiler.compile { c with limit } name data layout t = .ok page t' := by
  obtain ⟨more, rfl⟩ := Nat.exists_eq_add_of_le hle
  suffices (Compiler.compile { c with limit := c.limit + more } name data layout).Extends
      (c.compile name data layout) from this h
  refine Expansion.extends_bind _ fun file => ?_
  refine Expansion.extends_bind _ fun _ => ?_
  refine Expansion.extends_bind _ fun composed => ?_
  refine (expandWithin_extends c more nestingLimit composed.1 composed.2).bind fun out => ?_
  exact Expansion.extends_refl _

/-- A page with a component inside of a component: two passes are enough, and so are a thousand. -/
theorem compile_eq_of_limit_le_nested :
    let lib := Library.ofTexts [((.template, "page"), "<: component row >#<: component row >"),
      ((.component, "row"), "<: component cell a=\"1\" >;"), ((.component, "cell"), "<: a :>")]
    let t : Trace := { report := { templateName := "page" } }
    2 ≤ 1000 ∧ ∃ page t',
      Compiler.compile { library := lib, limit := 2 } "page" [] none t = .ok page t' ∧
      Compiler.compile { library := lib, limit := 1000 } "page" [] none t = .ok page t' := by
  intro lib t
  have hsucceeds :
      (Compiler.compile { library := lib, limit := 2 } "page" [] none).succeeds t = true := by
    decide +kernel
  obtain ⟨page, t', h⟩ := Expansion.exists_ok_of_succeeds hsucceeds
  exact ⟨by decide, page, t', h, compile_eq_of_limit_le (by decide) h⟩

end Stencil.Template
