import Mathlib.Data.List.Forall2
import Stencil.Proofs.Template.Untraced

/-! Files that an expansion does not read. What they hold is then of no consequence: the expansion is one and
the same in all libraries that differ in these files alone. That a file is not read is said by what would
happen otherwise: if it could not be read, the expansion would fail for that reason. -/
namespace Stencil.Template

open Text (Piece)

/-! ### Libraries -/

/-- The library in which the files `own` cannot be read. -/
def Library.without (lib : Library) (own : Path → Bool) (e : Error) : Library :=
  { lib with read := fun p => if own p = true then .error e else lib.read p }

/-- Whether two libraries find the same files and read the same in them, apart from the files `own`. -/
structure Library.SameOff (own : Path → Bool) (lib lib' : Library) : Prop where
  resolve : ∀ kind name, lib.resolve kind name = lib'.resolve kind name
  read : ∀ p, own p = false → lib.read p = lib'.read p

theorem Library.SameOff.without_eq {own : Path → Bool} {lib lib' : Library} (h : SameOff own lib lib')
    (e : Error) : lib.without own e = lib'.without own e := by
  have hresolve : lib.resolve = lib'.resolve := funext fun kind => funext (h.resolve kind)
  have hread : (fun p => if own p = true then .error e else lib.read p) =
      fun p => if own p = true then .error e else lib'.read p := by
    funext p
    cases hown : own p with
    | true => rfl
    | false => simp [h.read p hown]
  rw [without, without, hresolve, hread]

/-- Files that no name leads to are not loaded. -/
theorem Library.load_eq {lib lib' : Library}
    (hresolve : ∀ kind name, lib.resolve kind name = lib'.resolve kind name)
    (hread : ∀ kind name p, lib.resolve kind name = .ok p → lib.read p = lib'.read p) : lib.load = lib'.load := by
  funext kind name t
  unfold Library.load Library.find
  rw [← hresolve kind name]
  cases hp : lib.resolve kind name with
  | error e => rfl
  | ok p =>
    change (Expansion.ofExcept (lib.read p) >>= fun text => pure (p, protect text) : Expansion _) _ =
      (Expansion.ofExcept (lib'.read p) >>= fun text => pure (p, protect text) : Expansion _) _
    rw [hread kind name p hp]

/-! ### Equal loads -/

section

variable {lib lib' : Library} {expand : Scope → List Char → Expansion (List Char)}

theorem includeComponents_congr (hload : lib.load = lib'.load) (scope : Scope)
    (pieces : List (Piece (Option Directive.ComponentUse))) :
    includeComponents lib expand scope pieces = includeComponents lib' expand scope pieces := by
  induction pieces with
  | nil => rfl
  | cons piece pieces ih =>
    cases piece with
    | char c => rw [includeComponents, includeComponents, ih]
    | mark use source =>
      cases use with
      | none => rw [includeComponents, includeComponents, ih]
      | some use =>
        have hmine : includeComponent lib expand scope use = includeComponent lib' expand scope use := by
          unfold includeComponent
          rw [hload]
        rw [includeComponents, includeComponents, ih, hmine]

theorem resolveComponents_congr (hload : lib.load = lib'.load) :
    resolveComponents lib expand = resolveComponents lib' expand := by
  funext scope text
  unfold resolveComponents
  rw [includeComponents_congr hload]

/-- An expansion knows of a library only what it loads from it. -/
theorem expandWithin_congr (hload : lib.load = lib'.load) (limit nesting : ℕ) :
    Compiler.expandWithin { library := lib, limit := limit } nesting =
      Compiler.expandWithin { library := lib', limit := limit } nesting := by
  induction nesting with
  | zero => rfl
  | succ nesting ih =>
    funext scope text
    rw [Compiler.expandWithin, Compiler.expandWithin, ih, Compiler.stages, Compiler.stages,
      resolveComponents_congr hload]

/-- A page is the same in two libraries from which the same is loaded. -/
theorem compile_eq_of_load_eq (hload : lib.load = lib'.load) (limit : ℕ) (name : String) (data : Mapping)
    (layout : Option String) :
    ({ library := lib, limit := limit } : Compiler).compile name data layout =
      ({ library := lib', limit := limit } : Compiler).compile name data layout := by
  have hcompose : compose lib = compose lib' := by
    funext scope text
    unfold compose
    rw [hload]
  unfold Compiler.compile Compiler.expand
  rw [hload, hcompose, expandWithin_congr hload]

end

/-! ### Steps -/

namespace Expansion

variable {α β : Type} {e : Error}

/-- Whether a step is another one, unless it fails with the error `e`. -/
def SameUnless (e : Error) (x y : Expansion α) : Prop := ∀ t, x t = y t ∨ ∃ t', x t = .error e t'

theorem sameUnless_refl (e : Error) (x : Expansion α) : SameUnless e x x := fun _ => .inl rfl

theorem sameUnless_throw (e : Error) (y : Expansion α) : SameUnless e (throw e) y := fun t => .inr ⟨t, rfl⟩

theorem SameUnless.bind {x y : Expansion α} {f g : α → Expansion β} (hx : SameUnless e x y)
    (hf : ∀ a, SameUnless e (f a) (g a)) : SameUnless e (x >>= f) (y >>= g) := by
  intro t
  change EStateM.bind x f t = EStateM.bind y g t ∨ ∃ t', EStateM.bind x f t = .error e t'
  unfold EStateM.bind
  rcases hx t with h | ⟨t', h⟩
  · rw [h]
    cases y t with
    | ok a t₁ => exact hf a t₁
    | error _ t₁ => exact .inl rfl
  · rw [h]
    exact .inr ⟨t', rfl⟩

/-- A step in front that both have. -/
theorem sameUnless_bind (x : Expansion α) {f g : α → Expansion β} (hf : ∀ a, SameUnless e (f a) (g a)) :
    SameUnless e (x >>= f) (x >>= g) := (sameUnless_refl e x).bind hf

theorem SameUnless.eq {x y : Expansion α} (h : SameUnless e x y) (hx : ∀ t t', x t ≠ .error e t') : x = y :=
  funext fun t => (h t).resolve_right fun ⟨t', ht⟩ => hx t t' ht

end Expansion

open Expansion (SameUnless sameUnless_refl sameUnless_throw sameUnless_bind)

/-! ### Stages -/

section

variable {lib : Library} {own : Path → Bool} {e : Error}
  {expand expand' : Scope → List Char → Expansion (List Char)}

theorem sameUnless_load (kind : TemplateKind) (name : String) :
    SameUnless e ((lib.without own e).load kind name) (lib.load kind name) := by
  refine sameUnless_bind _ fun path => SameUnless.bind ?_ fun _ => sameUnless_refl e _
  cases hown : own path with
  | true =>
    rw [show (lib.without own e).read path = .error e by simp [Library.without, hown]]
    exact sameUnless_throw e _
  | false =>
    rw [show (lib.without own e).read path = lib.read path by simp [Library.without, hown]]
    exact sameUnless_refl e _

variable (hexpand : ∀ scope text, SameUnless e (expand scope text) (expand' scope text))
include hexpand

theorem sameUnless_includeComponent (scope : Scope) (use : Directive.ComponentUse) :
    SameUnless e (includeComponent (lib.without own e) expand scope use)
      (includeComponent lib expand' scope use) := by
  unfold includeComponent
  split
  · exact sameUnless_refl e _
  · refine (sameUnless_load _ _).bind fun file => sameUnless_bind _ fun _ => sameUnless_bind _ fun bound => ?_
    exact (hexpand _ _).bind fun body => sameUnless_refl e _

theorem sameUnless_includeComponents (scope : Scope) (pieces : List (Piece (Option Directive.ComponentUse))) :
    SameUnless e (includeComponents (lib.without own e) expand scope pieces)
      (includeComponents lib expand' scope pieces) := by
  induction pieces with
  | nil => exact sameUnless_refl e _
  | cons piece pieces ih =>
    cases piece with
    | char c => exact ih.bind fun _ => sameUnless_refl e _
    | mark use source =>
      cases use with
      | none => exact ih.bind fun _ => sameUnless_refl e _
      | some use =>
        exact (sameUnless_includeComponent hexpand scope use).bind fun _ =>
          ih.bind fun _ => sameUnless_refl e _

end

/-! ### Passes -/

section

variable {lib : Library} {own : Path → Bool} {e : Error}

/-- Whether two stages have one name and are the same unless the first one fails with the error `e`. -/
def Stage.SameUnless (e : Error) (a b : Stage) : Prop :=
  a.name = b.name ∧ ∀ scope text, Expansion.SameUnless e (a.run scope text) (b.run scope text)

theorem Stage.sameUnless_refl (e : Error) (a : Stage) : a.SameUnless e a :=
  ⟨rfl, fun _ _ => Expansion.sameUnless_refl e _⟩

theorem sameUnless_runStages {stages stages' : List Stage}
    (h : List.Forall₂ (Stage.SameUnless e) stages stages') (scope : Scope) (text : List Char) :
    SameUnless e (runStages stages scope text) (runStages stages' scope text) := by
  induction h generalizing scope text with
  | nil => exact sameUnless_refl e _
  | cons hstage _ ih =>
    refine (hstage.2 scope text).bind fun out => ?_
    dsimp only
    rw [hstage.1]
    split
    · exact sameUnless_bind _ fun _ => ih out.1 out.2
    · exact ih out.1 out.2

theorem sameUnless_stages (limit : ℕ) {expand expand' : Scope → List Char → Expansion (List Char)}
    (hexpand : ∀ scope text, SameUnless e (expand scope text) (expand' scope text)) :
    List.Forall₂ (Stage.SameUnless e)
      (Compiler.stages { library := lib.without own e, limit := limit } expand)
      (Compiler.stages { library := lib, limit := limit } expand') := by
  have hcomponents : Stage.SameUnless e
      ⟨"ComponentResolver", resolveComponents (lib.without own e) expand⟩
      ⟨"ComponentResolver", resolveComponents lib expand'⟩ :=
    ⟨rfl, fun scope text => (sameUnless_includeComponents hexpand scope _).bind fun _ => sameUnless_refl e _⟩
  exact .cons (Stage.sameUnless_refl e _) (.cons (Stage.sameUnless_refl e _)
    (.cons hcomponents (.cons (Stage.sameUnless_refl e _) .nil)))

theorem sameUnless_settle {pass pass' : Scope → List Char → Expansion (Scope × List Char)}
    (hpass : ∀ scope text, SameUnless e (pass scope text) (pass' scope text)) (limit left : ℕ) (scope : Scope)
    (text : List Char) :
    SameUnless e (settle pass limit left scope text) (settle pass' limit left scope text) := by
  induction left generalizing scope text with
  | zero => exact sameUnless_refl e _
  | succ left ih =>
    refine (hpass scope text).bind fun out => sameUnless_bind _ fun _ => ?_
    split
    · exact sameUnless_refl e _
    · exact ih out.1 out.2

/-- At every depth of components, an expansion without the files is the expansion with them, unless it wants to
read one of them. -/
theorem sameUnless_expandWithin (limit nesting : ℕ) (scope : Scope) (text : List Char) :
    SameUnless e
      (Compiler.expandWithin { library := lib.without own e, limit := limit } nesting scope text)
      (Compiler.expandWithin { library := lib, limit := limit } nesting scope text) := by
  induction nesting generalizing scope text with
  | zero => exact sameUnless_refl e _
  | succ nesting ih =>
    refine sameUnless_settle (sameUnless_runStages (sameUnless_stages limit fun s t => ?_)) limit limit scope text
    exact (ih s t).bind fun _ => sameUnless_refl e _

/-- Whether the expansion of a text reads none of the files `own`: if they could not be read, it would not fail
for that. -/
def Compiler.Spares (c : Compiler) (own : Path → Bool) (scope : Scope) (text : List Char) : Prop :=
  ∃ e, ∀ t t', ({ c with library := c.library.without own e }.expand scope text) t ≠ .error e t'

/-- One run that succeeds without the files shows that none of them is read. -/
theorem spares_of_succeeds {limit : ℕ} {scope : Scope} {text : List Char} {t : Trace}
    (h : Expansion.succeeds (Compiler.expand { library := lib.without own e, limit := limit } scope text) t = true) :
    ({ library := lib, limit := limit } : Compiler).Spares own scope text := by
  obtain ⟨out, t', hout⟩ := Expansion.exists_ok_of_succeeds h
  have hyields := (untraced_expandWithin limit nestingLimit scope text).yields hout
  refine ⟨e, fun t₁ t₂ herror => ?_⟩
  obtain ⟨_, _, hok, -⟩ := hyields t₁
  cases hok.symm.trans herror

/-- An expansion that reads none of the files in which two libraries differ is the same in both. -/
theorem expand_eq_of_spares {lib' : Library} {limit : ℕ} {scope : Scope} {text : List Char}
    (hsame : lib.SameOff own lib')
    (h : ({ library := lib, limit := limit } : Compiler).Spares own scope text) :
    ({ library := lib, limit := limit } : Compiler).expand scope text =
      ({ library := lib', limit := limit } : Compiler).expand scope text := by
  obtain ⟨e, he⟩ := h
  have hspared (lib : Library) (h : ∀ t t', Compiler.expand { library := lib.without own e, limit := limit }
      scope text t ≠ .error e t') :
      Compiler.expand { library := lib.without own e, limit := limit } scope text =
        Compiler.expand { library := lib, limit := limit } scope text :=
    (sameUnless_expandWithin limit nestingLimit scope text).eq h
  have hlib := hspared lib he
  have hlib' := hspared lib' (hsame.without_eq e ▸ he)
  rw [← hlib, ← hlib', hsame.without_eq]

end

end Stencil.Template
