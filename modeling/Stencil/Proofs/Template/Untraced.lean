import Stencil.Proofs.Template.StageTexts
import Stencil.Proofs.Template.Steps
import Stencil.Template.Compiler

/-! Report and log are written and never read: whether a step of an expansion succeeds, and with which result,
is the same from every trace. -/
namespace Stencil.Template

open Text (Piece)

/-- Whether a step that cannot fail has one result from every trace. -/
def Tracing.Untraced {α : Type} (x : Tracing α) : Prop := ∀ t t', (x t).1 = (x t').1

/-- Whether a step ends in one way from every trace, with a result or with an error. -/
def Expansion.Untraced {α : Type} (x : Expansion α) : Prop :=
  (∃ a, x.Yields (· = a)) ∨ ∃ e, x.Fails e

namespace Tracing

variable {α β : Type}

theorem untraced_pure (a : α) : Untraced (pure a) := fun _ _ => rfl

theorem untraced_unit (x : Tracing Unit) : x.Untraced := fun _ _ => rfl

theorem Untraced.bind {x : Tracing α} {f : α → Tracing β} (hx : x.Untraced)
    (hf : ∀ a, (f a).Untraced) : Untraced (x >>= f) := by
  intro t t'
  have h := hf (x t).1 (x t).2 (x t').2
  change (f (x t).1 (x t).2).1 = (f (x t').1 (x t').2).1
  rw [h, hx t t']

end Tracing

namespace Expansion

variable {α β : Type}

theorem untraced_pure (a : α) : Untraced (pure a) := .inl ⟨a, yields_pure rfl⟩

theorem untraced_throw (e : Error) : (throw e : Expansion α).Untraced := .inr ⟨e, fails_throw e⟩

theorem untraced_ofExcept (r : Except Error α) : (ofExcept r).Untraced := by
  cases r with
  | ok a => exact untraced_pure a
  | error e => exact untraced_throw e

theorem untraced_lift {x : Tracing α} (hx : x.Untraced) : (monadLift x : Expansion α).Untraced :=
  .inl ⟨(x { report := { templateName := "" } }).1, yields_lift fun t => hx t _⟩

theorem Untraced.bind {x : Expansion α} {f : α → Expansion β} (hx : x.Untraced)
    (hf : ∀ a, (f a).Untraced) : (x >>= f).Untraced := by
  rcases hx with ⟨a, ha⟩ | ⟨e, he⟩
  · rcases hf a with ⟨b, hb⟩ | ⟨e, he⟩
    · exact .inl ⟨b, ha.bind fun _ h => h ▸ hb⟩
    · exact .inr ⟨e, ha.bind_fails fun _ h => h ▸ he⟩
  · exact .inr ⟨e, he.bind f⟩

/-- A step in front that only writes. -/
theorem untraced_lift_unit {x : Tracing Unit} {f : Unit → Expansion β} (hf : (f ()).Untraced) :
    ((monadLift x : Expansion Unit) >>= f).Untraced :=
  (untraced_lift (Tracing.untraced_unit x)).bind fun _ => hf

/-- One run that succeeds speaks for all. -/
theorem Untraced.yields {x : Expansion α} (hx : x.Untraced) {t t' : Trace} {a : α}
    (h : x t = .ok a t') : x.Yields (· = a) := by
  rcases hx with ⟨b, hb⟩ | ⟨e, he⟩
  · obtain ⟨_, _, hout, rfl⟩ := hb t
    rw [h] at hout
    cases hout
    exact hb
  · obtain ⟨_, hout⟩ := he t
    rw [h] at hout
    cases hout

/-- A test that the result of one run passes is passed by the results of all. -/
theorem Untraced.ensures_of_run {x : Expansion α} (hx : x.Untraced) (test : α → Bool) (t : Trace)
    (h : (match x t with | .ok a _ => test a | .error _ _ => true) = true) :
    x.Ensures fun a => test a = true := by
  rcases hx with ⟨a, ha⟩ | ⟨e, he⟩
  · obtain ⟨_, _, hout, rfl⟩ := ha t
    rw [hout] at h
    exact (ha.imp fun b hb => hb ▸ h).toEnds (E := fun _ => True).toEnsures
  · intro t₁ a t₂ ha
    obtain ⟨_, hout⟩ := he t₁
    rw [ha] at hout
    cases hout

end Expansion

/-! ### Stages -/

theorem untraced_convertLoop (scope : Scope) (l : Directive.Loop) (source : List Char) :
    (convertLoop scope l source).Untraced := by
  unfold convertLoop
  split
  · exact fun _ _ => rfl
  · exact fun _ _ => rfl

theorem untraced_convertLoops (scope : Scope) (pieces : List (Piece Directive.Loop)) :
    (convertLoops scope pieces).Untraced := by
  induction pieces generalizing scope with
  | nil => exact Tracing.untraced_pure _
  | cons piece pieces ih =>
    cases piece with
    | char c => exact (ih scope).bind fun _ => Tracing.untraced_pure _
    | mark l source =>
      exact (untraced_convertLoop scope l source).bind fun out =>
        (ih out.1).bind fun _ => Tracing.untraced_pure _

theorem untraced_loopRounds (fuel : Nat) (scope : Scope) (text : List Char) :
    (loopRounds fuel scope text).Untraced := by
  induction fuel generalizing scope text with
  | zero => exact Tracing.untraced_pure _
  | succ fuel ih =>
    refine (untraced_convertLoops scope _).bind fun out => ?_
    dsimp only
    split
    · exact Tracing.untraced_pure _
    · exact ih out.1 out.2

theorem untraced_bindProp (scope : Scope) (bound : BoundProps) (p : PropToken) :
    (bindProp scope bound p).Untraced := by
  unfold bindProp
  split
  · exact fun _ _ => rfl
  split
  · exact fun _ _ => rfl
  dsimp only
  split
  · exact fun _ _ => rfl
  · exact fun _ _ => rfl

theorem untraced_bindProps (scope : Scope) (bound : BoundProps) (tokens : List PropToken) :
    (bindProps scope bound tokens).Untraced := by
  induction tokens generalizing bound with
  | nil => exact Tracing.untraced_pure _
  | cons p tokens ih => exact (untraced_bindProp scope bound p).bind ih

theorem untraced_substituteVariables (scope : Scope) (text : List Char) :
    (substituteVariables scope text).Untraced := by
  intro t t'
  rw [substituteVariables_text, substituteVariables_text]

/-- Whether an expansion of bodies is untraced. -/
def UntracedBodies (expand : Scope → List Char → Expansion (List Char)) : Prop :=
  ∀ scope text, (expand scope text).Untraced

section

variable {lib : Library} {expand : Scope → List Char → Expansion (List Char)}

theorem untraced_load (kind : TemplateKind) (name : String) : (lib.load kind name).Untraced := by
  refine Expansion.Untraced.bind ?_ fun path =>
    (Expansion.untraced_ofExcept _).bind fun _ => Expansion.untraced_pure _
  exact (Expansion.untraced_ofExcept _).bind fun path =>
    Expansion.untraced_lift_unit (Expansion.untraced_pure path)

theorem untraced_includeComponent (hexpand : UntracedBodies expand) (scope : Scope)
    (use : Directive.ComponentUse) : (includeComponent lib expand scope use).Untraced := by
  unfold includeComponent
  split
  · exact Expansion.untraced_lift_unit <| Expansion.untraced_lift_unit <|
      Expansion.untraced_pure _
  · refine (untraced_load _ _).bind fun file => Expansion.untraced_lift_unit ?_
    refine (Expansion.untraced_lift (untraced_bindProps _ _ _)).bind fun bound => ?_
    exact (hexpand _ _).bind fun body =>
      Expansion.untraced_lift_unit (Expansion.untraced_pure _)

theorem untraced_includeComponents (hexpand : UntracedBodies expand) (scope : Scope)
    (pieces : List (Piece (Option Directive.ComponentUse))) :
    (includeComponents lib expand scope pieces).Untraced := by
  induction pieces with
  | nil => exact Expansion.untraced_pure _
  | cons piece pieces ih =>
    cases piece with
    | char c => exact ih.bind fun _ => Expansion.untraced_pure _
    | mark use source =>
      cases use with
      | none => exact ih.bind fun _ => Expansion.untraced_pure _
      | some use =>
        exact (untraced_includeComponent hexpand scope use).bind fun _ =>
          ih.bind fun _ => Expansion.untraced_pure _

/-! ### Passes -/

theorem untraced_runStages {stages : List Stage}
    (h : ∀ stage ∈ stages, ∀ scope text, (stage.run scope text).Untraced) (scope : Scope)
    (text : List Char) : (runStages stages scope text).Untraced := by
  induction stages generalizing scope text with
  | nil => exact Expansion.untraced_pure _
  | cons stage stages ih =>
    have hrest := ih fun s hs => h s (List.mem_cons_of_mem _ hs)
    refine (h stage List.mem_cons_self scope text).bind fun out => ?_
    dsimp only
    split
    · exact Expansion.untraced_lift_unit (hrest out.1 out.2)
    · exact hrest out.1 out.2

theorem untraced_stages (limit : Nat) (hexpand : UntracedBodies expand) :
    ∀ stage ∈ Compiler.stages { library := lib, limit := limit } expand,
      ∀ scope text, (stage.run scope text).Untraced := by
  intro stage hstage scope text
  simp only [Compiler.stages, List.append_nil, List.mem_cons, List.not_mem_nil, or_false] at hstage
  rcases hstage with rfl | rfl | rfl | rfl
  · exact Expansion.untraced_lift (untraced_loopRounds _ scope text)
  · exact Expansion.untraced_lift fun _ _ => rfl
  · exact (untraced_includeComponents hexpand scope _).bind fun _ => Expansion.untraced_pure _
  · exact Expansion.untraced_lift (untraced_substituteVariables scope text)

theorem untraced_settle {pass : Scope → List Char → Expansion (Scope × List Char)}
    (hpass : ∀ scope text, (pass scope text).Untraced) (limit left : Nat) (scope : Scope)
    (text : List Char) : (settle pass limit left scope text).Untraced := by
  induction left generalizing scope text with
  | zero => exact Expansion.untraced_throw _
  | succ left ih =>
    refine (hpass scope text).bind fun out => Expansion.untraced_lift_unit ?_
    split
    · exact Expansion.untraced_lift_unit (Expansion.untraced_pure _)
    · exact ih out.1 out.2

/-- At every depth of components, the outcome of an expansion does not depend on report and log. -/
theorem untraced_expandWithin (limit nesting : Nat) (scope : Scope) (text : List Char) :
    (Compiler.expandWithin { library := lib, limit := limit } nesting scope text).Untraced := by
  induction nesting generalizing scope text with
  | zero => exact Expansion.untraced_throw _
  | succ nesting ih =>
    have hbodies : UntracedBodies fun s t => do
        return (← Compiler.expandWithin { library := lib, limit := limit } nesting s t).2 :=
      fun s t => (ih s t).bind fun _ => Expansion.untraced_pure _
    exact untraced_settle (untraced_runStages (untraced_stages limit hbodies)) limit limit scope text

end

end Stencil.Template
