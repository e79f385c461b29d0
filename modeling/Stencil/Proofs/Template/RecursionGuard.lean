import Stencil.Proofs.Template.Passes

/-! The guard against recursion. While a component is expanded, its name stands among the processed names
of every scope that the expansion comes to; so no use of that name loads a file, and a marker takes its
place. The guard goes by names as they are spelled. -/
namespace Stencil.Template

open Text (Piece)

/-! ### Scopes of an expansion -/

section

variable {lib : Library} {expand : Scope → List Char → Expansion (List Char)} {limit : Nat}

/-- The usual stages move to no other place. -/
theorem beside_stages :
    ∀ stage ∈ Compiler.stages { library := lib, limit := limit } expand, ∀ scope text,
      (stage.run scope text).Ensures fun r => scope.Beside r.1 := by
  intro stage hstage scope text
  simp only [Compiler.stages, List.append_nil, List.mem_cons, List.not_mem_nil, or_false] at hstage
  rcases hstage with rfl | rfl | rfl | rfl
  · exact Expansion.ensures_lift fun t => expandLoops_beside scope text t
  · exact Expansion.ensures_lift fun t => .refl scope
  · exact Expansion.ensures_bind fun _ => Expansion.ensures_pure (.refl scope)
  · exact Expansion.ensures_lift fun t => by
      rw [substituteVariables_text]
      exact .refl scope

theorem beside_runStages {stages : List Stage}
    (h : ∀ stage ∈ stages, ∀ scope text,
      (stage.run scope text).Ensures fun r => scope.Beside r.1) (scope : Scope)
    (text : List Char) : (runStages stages scope text).Ensures fun r => scope.Beside r.1 := by
  induction stages generalizing scope text with
  | nil => exact Expansion.ensures_pure (.refl scope)
  | cons stage stages ih =>
    refine (h stage List.mem_cons_self scope text).bind fun out hout => ?_
    have hrest : (runStages stages out.1 out.2).Ensures fun r => scope.Beside r.1 :=
      fun _ _ _ hr => hout.trans (ih (fun s hs => h s (List.mem_cons_of_mem _ hs)) _ _ hr)
    dsimp only
    split
    · exact Expansion.ensures_bind fun _ => hrest
    · exact hrest

theorem beside_passWithin (nesting : Nat) (scope : Scope) (text : List Char) :
    (Compiler.passWithin { library := lib, limit := limit } nesting scope text).Ensures
      fun r => scope.Beside r.1 := beside_runStages beside_stages scope text

end

/-- The uses of components that the expansion of a text comes upon, and the scopes where it does: in a pass
over the text itself, in a later pass, or in the expansion of a component that it loads. -/
inductive Compiler.Meets (c : Compiler) :
    (nesting : Nat) → Scope → List Char → Scope → Directive.ComponentUse → Prop
  | here {nesting : Nat} {scope : Scope} {text source : List Char} {use : Directive.ComponentUse}
      {t : Trace} (huse : .mark (some use) source ∈
        Directive.component.pieces (convertedComments (expandLoops scope text t).1.2)) :
      c.Meets (nesting + 1) scope text (expandLoops scope text t).1.1 use
  | later {nesting : Nat} {scope scope' s : Scope} {text text' : List Char} {t t' : Trace}
      {use : Directive.ComponentUse}
      (hpass : c.passWithin nesting scope text t = .ok (scope', text') t')
      (hmeets : c.Meets (nesting + 1) scope' text' s use) : c.Meets (nesting + 1) scope text s use
  | inside {nesting : Nat} {scope s s' : Scope} {text : List Char}
      {use use' : Directive.ComponentUse} {file : Path × List Char} {t t' : Trace}
      (houter : c.Meets (nesting + 1) scope text s use) (hfresh : use.name ∉ s.processed)
      (hload : c.library.load .component use.name t = .ok file t')
      (hinner : c.Meets nesting
        (s.child use.name (bindProps s {} (props (lexProps use.props)) t').1.values) file.2 s' use') :
      c.Meets (nesting + 1) scope text s' use'

/-- Names stay among the processed ones at every depth of an expansion. -/
theorem processed_of_meets {lib : Library} {limit nesting : Nat} {scope s : Scope}
    {text : List Char} {use : Directive.ComponentUse}
    (h : Compiler.Meets { library := lib, limit := limit } nesting scope text s use)
    {name : String} (hname : name ∈ scope.processed) : name ∈ s.processed := by
  induction h with
  | here huse =>
    rw [(expandLoops_beside _ _ _).processed]
    exact hname
  | later hpass _ ih =>
    refine ih ?_
    rw [(beside_passWithin _ _ _ hpass).processed]
    exact hname
  | inside _ _ _ _ ihouter ihinner =>
    exact ihinner (mem_addName.mpr (.inl (ihouter hname)))

/-- What becomes of a use of a component in itself: a marker, and a line in the report. -/
def skipComponent (name : String) : Expansion (List Char) := do
  note (.selfInclusion name)
  reporting fun r => { r with componentsSkipped := r.componentsSkipped ++ [name] }
  return recursionMarker name

theorem includeComponent_of_mem {lib : Library}
    {expand : Scope → List Char → Expansion (List Char)} {scope : Scope}
    {use : Directive.ComponentUse} (h : use.name ∈ scope.processed) :
    includeComponent lib expand scope use = skipComponent use.name := by
  unfold includeComponent
  rw [if_pos (by simpa using h)]
  rfl

/-! ### Two libraries that differ in one component -/

/-- Whether two libraries give the same texts for all components but one. Of that one they may give
different files, and different texts in a file that no other name leads to. -/
structure Library.SameBut (lib : Library) (name : String) (lib' : Library) : Prop where
  resolve : ∀ n, n ≠ name → lib'.resolve .component n = lib.resolve .component n
  read : ∀ n path, n ≠ name → lib.resolve .component n = .ok path →
    lib'.read path = lib.read path

/-- Whether two steps are one and the same inside of a component. -/
def SameInside {β : Type} (name : String) (f g : Scope → List Char → Expansion β) : Prop :=
  ∀ scope, name ∈ scope.processed → ∀ text, f scope text = g scope text

variable {lib lib' : Library} {name : String}

theorem Library.SameBut.load_eq (h : lib.SameBut name lib') {n : String} (hn : n ≠ name) :
    lib.load .component n = lib'.load .component n := by
  have hfind : lib.find .component n = lib'.find .component n := by
    unfold Library.find
    rw [h.resolve n hn]
  have hfound : (lib.find .component n).Ensures fun path =>
      lib.resolve .component n = .ok path := by
    unfold Library.find
    cases hresolve : lib.resolve .component n with
    | error e => exact fun _ _ _ hr => by cases hr
    | ok path =>
      refine Expansion.Ensures.bind (P := fun p => p = path) (Expansion.ensures_pure rfl) ?_
      rintro _ rfl
      exact Expansion.ensures_bind fun _ => Expansion.ensures_pure rfl
  unfold Library.load
  rw [← hfind]
  exact Expansion.bind_congr hfound fun path hpath => by rw [h.read n path hn hpath]

section

variable {expand expand' : Scope → List Char → Expansion (List Char)} {scope : Scope}

theorem includeComponent_eq (h : lib.SameBut name lib') (hexpand : SameInside name expand expand')
    (hname : name ∈ scope.processed) (use : Directive.ComponentUse) :
    includeComponent lib expand scope use = includeComponent lib' expand' scope use := by
  by_cases hmem : use.name ∈ scope.processed
  · rw [includeComponent_of_mem hmem, includeComponent_of_mem hmem]
  · have hother : use.name ≠ name := fun he => hmem (he ▸ hname)
    have hbody (values : Mapping) (text : List Char) :
        expand (scope.child use.name values) text = expand' (scope.child use.name values) text :=
      hexpand _ (mem_addName.mpr (.inl hname)) text
    unfold includeComponent
    rw [h.load_eq hother]
    simp only [hbody]

theorem includeComponents_eq (h : lib.SameBut name lib') (hexpand : SameInside name expand expand')
    (hname : name ∈ scope.processed) (pieces : List (Piece (Option Directive.ComponentUse))) :
    includeComponents lib expand scope pieces = includeComponents lib' expand' scope pieces := by
  induction pieces with
  | nil => rfl
  | cons piece pieces ih =>
    rcases piece with c | ⟨_ | use, source⟩
    · rw [includeComponents, includeComponents, ih]
    · rw [includeComponents, includeComponents, ih]
    · rw [includeComponents, includeComponents, ih, includeComponent_eq h hexpand hname use]

theorem runStages_cons_eq {stage stage' : Stage} {stages stages' : List Stage}
    (hname : stage.name = stage'.name) {text : List Char}
    (hstage : stage.run scope text = stage'.run scope text)
    (hbeside : (stage.run scope text).Ensures fun r => scope.Beside r.1)
    (hrest : ∀ s, scope.Beside s → ∀ text, runStages stages s text = runStages stages' s text) :
    runStages (stage :: stages) scope text = runStages (stage' :: stages') scope text := by
  rw [runStages, runStages, ← hstage, hname]
  exact Expansion.bind_congr hbeside fun out hout => by simp only [hrest out.1 hout out.2]

theorem resolveComponents_eq (h : lib.SameBut name lib')
    (hexpand : SameInside name expand expand') :
    SameInside name (resolveComponents lib expand) (resolveComponents lib' expand') := by
  intro scope hname text
  unfold resolveComponents
  rw [includeComponents_eq h hexpand hname]

theorem runStages_stages_eq (limit : Nat) (h : lib.SameBut name lib')
    (hexpand : SameInside name expand expand') :
    SameInside name (runStages (Compiler.stages { library := lib, limit := limit } expand))
      (runStages (Compiler.stages { library := lib', limit := limit } expand')) := by
  intro scope hname text
  have hmem {s : Scope} (hs : scope.Beside s) : name ∈ s.processed := by
    rwa [hs.processed]
  simp only [Compiler.stages, List.append_nil]
  refine runStages_cons_eq rfl rfl (Expansion.ensures_lift (expandLoops_beside scope text)) ?_
  intro s₁ h₁ text
  refine runStages_cons_eq rfl rfl (Expansion.ensures_lift fun _ => .refl s₁) fun s₂ h₂ text => ?_
  refine runStages_cons_eq ?_ ?_ ?_ ?_
  · rfl
  · exact resolveComponents_eq h hexpand s₂ (hmem (h₁.trans h₂)) text
  · exact Expansion.ensures_bind fun _ => Expansion.ensures_pure (.refl s₂)
  · exact fun _ _ _ => rfl

end

theorem settle_eq {pass pass' : Scope → List Char → Expansion (Scope × List Char)}
    (hpass : SameInside name pass pass')
    (hbeside : ∀ scope text, (pass scope text).Ensures fun r => scope.Beside r.1)
    (limit left : Nat) : SameInside name (settle pass limit left) (settle pass' limit left) := by
  intro scope hname text
  induction left generalizing scope text with
  | zero => rfl
  | succ left ih =>
    rw [settle, settle, ← hpass scope hname text]
    refine Expansion.bind_congr (hbeside scope text) fun out hout => ?_
    have hmem : name ∈ out.1.processed := by rwa [hout.processed]
    simp only [ih out.1 hmem out.2]

/-- Inside of a component the files of that component make no difference. -/
theorem expandWithin_eq (h : lib.SameBut name lib') (limit nesting : Nat) :
    SameInside name (Compiler.expandWithin { library := lib, limit := limit } nesting)
      (Compiler.expandWithin { library := lib', limit := limit } nesting) := by
  induction nesting with
  | zero => exact fun _ _ _ => rfl
  | succ nesting ih =>
    have hbody : SameInside name (Compiler.expandBody { library := lib, limit := limit } nesting)
        (Compiler.expandBody { library := lib', limit := limit } nesting) := by
      intro s hs t
      unfold Compiler.expandBody
      rw [ih s hs t]
    exact settle_eq (runStages_stages_eq limit h hbody) (beside_passWithin nesting) limit limit

/-- While a component is expanded it is not loaded again by its name. Whatever a library gives for that name
then, its expansion is the same step: the same text or error, and the same report and log. And each use of
that name that it comes upon, at any depth, is replaced by the marker. -/
theorem expandWithin_child_guarded (h : lib.SameBut name lib') (limit nesting : Nat) (scope : Scope)
    (values : Mapping) (text : List Char) :
    let inside := scope.child name values
    Compiler.expandWithin { library := lib, limit := limit } nesting inside text =
        Compiler.expandWithin { library := lib', limit := limit } nesting inside text ∧
      ∀ s use, Compiler.Meets { library := lib, limit := limit } nesting inside text s use →
        use.name = name → ∀ expand, includeComponent lib expand s use = skipComponent name := by
  intro inside
  have hname : name ∈ inside.processed := mem_addName.mpr (.inr rfl)
  refine ⟨expandWithin_eq h limit nesting inside hname text, fun s use hmeets huse expand => ?_⟩
  have hmem : use.name ∈ s.processed := huse ▸ processed_of_meets hmeets hname
  rw [includeComponent_of_mem hmem, huse]

/-- A component that uses itself, and no component at all. -/
theorem expandWithin_child_guarded_self :
    let lib := Library.ofTexts [((.component, "c"), "S<: component c >")]
    let inside := ({ templateName := "page" } : Scope).child "c" []
    let text := "S<: component c >".toList
    lib.SameBut "c" (.ofTexts []) ∧
      Compiler.expandWithin { library := lib } 2 inside text =
        Compiler.expandWithin { library := .ofTexts [] } 2 inside text ∧
      ∃ s, Compiler.Meets { library := lib } 2 inside text s ⟨"c", []⟩ ∧
        includeComponent lib (fun _ _ => throw .nesting) s ⟨"c", []⟩ = skipComponent "c" := by
  intro lib inside text
  have hsame : lib.SameBut "c" (.ofTexts []) := by
    have hmissing (n : String) (hn : n ≠ "c") :
        lib.resolve .component n = .error (.templateNotFound .component n []) := by
      have hne : ((TemplateKind.component, n) == (TemplateKind.component, "c")) = false := by
        simpa using hn
      simp only [lib, Library.ofTexts, List.lookup_cons, List.lookup_nil, hne]
    refine ⟨fun n hn => (hmissing n hn).symm, fun n path hn hresolve => ?_⟩
    rw [hmissing n hn] at hresolve
    cases hresolve
  let t : Trace := { report := { templateName := "page" } }
  have hpiece : .mark (some ⟨"c", []⟩) "<: component c >".toList ∈
      Directive.component.pieces (convertedComments (expandLoops inside text t).1.2) := by
    decide +kernel
  have hguarded := expandWithin_child_guarded hsame 100 2 { templateName := "page" } [] text
  exact ⟨hsame, hguarded.1, _, .here hpiece, hguarded.2 _ _ (.here hpiece) rfl _⟩

end Stencil.Template
