import Stencil.Proofs.Template.Passes

/-! One report serves a whole page, and it only grows: counts go up, and what is listed once stays listed.
A scope serves one text, and the loops of the text do no more to it than binding their names. -/
namespace Stencil.Template

open Text (Piece)

/-! ### Reports -/

/-- Whether a report is an earlier state of another one: the counts are no larger, the lists are the
beginnings of the later lists, and no name is in it that the later one lacks. -/
structure Report.Grows (r r' : Report) : Prop where
  templateName : r'.templateName = r.templateName
  templatePath : r'.templatePath = r.templatePath
  layout : r'.layout = r.layout
  passes : r.passes ≤ r'.passes
  loopsExpanded : r.loopsExpanded ≤ r'.loopsExpanded
  commentsConverted : r.commentsConverted ≤ r'.commentsConverted
  componentsIncluded : r.componentsIncluded <+: r'.componentsIncluded
  componentsSkipped : r.componentsSkipped <+: r'.componentsSkipped
  variablesSubstituted : r.variablesSubstituted ⊆ r'.variablesSubstituted
  variablesMissing : r.variablesMissing ⊆ r'.variablesMissing
  warnings : r.warnings <+: r'.warnings

namespace Report.Grows

variable {r r' r'' : Report}

theorem refl (r : Report) : r.Grows r where
  templateName := rfl
  templatePath := rfl
  layout := rfl
  passes := Nat.le_refl _
  loopsExpanded := Nat.le_refl _
  commentsConverted := Nat.le_refl _
  componentsIncluded := List.prefix_refl _
  componentsSkipped := List.prefix_refl _
  variablesSubstituted := List.Subset.refl _
  variablesMissing := List.Subset.refl _
  warnings := List.prefix_refl _

theorem trans (h : r.Grows r') (h' : r'.Grows r'') : r.Grows r'' where
  templateName := h'.templateName.trans h.templateName
  templatePath := h'.templatePath.trans h.templatePath
  layout := h'.layout.trans h.layout
  passes := Nat.le_trans h.passes h'.passes
  loopsExpanded := Nat.le_trans h.loopsExpanded h'.loopsExpanded
  commentsConverted := Nat.le_trans h.commentsConverted h'.commentsConverted
  componentsIncluded := h.componentsIncluded.trans h'.componentsIncluded
  componentsSkipped := h.componentsSkipped.trans h'.componentsSkipped
  variablesSubstituted := List.Subset.trans h.variablesSubstituted h'.variablesSubstituted
  variablesMissing := List.Subset.trans h.variablesMissing h'.variablesMissing
  warnings := h.warnings.trans h'.warnings

theorem warn (r : Report) (message : String) : r.Grows (r.warn message) :=
  { refl r with warnings := List.prefix_append _ _ }

theorem pass (r : Report) : r.Grows { r with passes := r.passes + 1 } :=
  { refl r with passes := Nat.le_succ _ }

theorem loop (r : Report) : r.Grows { r with loopsExpanded := r.loopsExpanded + 1 } :=
  { refl r with loopsExpanded := Nat.le_succ _ }

theorem comments (r : Report) (n : Nat) :
    r.Grows { r with commentsConverted := r.commentsConverted + n } :=
  { refl r with commentsConverted := Nat.le_add_right _ _ }

theorem included (r : Report) (name : String) :
    r.Grows { r with componentsIncluded := r.componentsIncluded ++ [name] } :=
  { refl r with componentsIncluded := List.prefix_append _ _ }

theorem skipped (r : Report) (name : String) :
    r.Grows { r with componentsSkipped := r.componentsSkipped ++ [name] } :=
  { refl r with componentsSkipped := List.prefix_append _ _ }

theorem subset_addName (names : List String) (name : String) : names ⊆ addName names name :=
  fun _ h => mem_addName.mpr (.inl h)

theorem substituted (r : Report) (name : String) :
    r.Grows { r with variablesSubstituted := addName r.variablesSubstituted name } :=
  { refl r with variablesSubstituted := subset_addName _ _ }

theorem missing (r : Report) (name : String) :
    r.Grows { r with variablesMissing := addName r.variablesMissing name } :=
  { refl r with variablesMissing := subset_addName _ _ }

end Report.Grows

/-! ### Steps -/

/-- Whether a step that cannot fail lets the report grow, from every trace. -/
def Tracing.Grows {α : Type} (x : Tracing α) : Prop :=
  ∀ t : Trace, t.report.Grows (x t).2.report

/-- The trace that a step leaves, whether it succeeds or fails. -/
def Expansion.traceAfter {α : Type} (x : Expansion α) (t : Trace) : Trace :=
  match x t with
  | .ok _ t' => t'
  | .error _ t' => t'

/-- Whether a step lets the report grow, from every trace, whether it succeeds or fails. -/
def Expansion.Grows {α : Type} (x : Expansion α) : Prop :=
  ∀ t : Trace, t.report.Grows (x.traceAfter t).report

section

variable {α β : Type}

theorem Tracing.grows_pure (a : α) : Tracing.Grows (pure a) := fun t => .refl t.report

theorem Tracing.Grows.bind {x : Tracing α} {f : α → Tracing β} (hx : Tracing.Grows x)
    (hf : ∀ a, Tracing.Grows (f a)) : Tracing.Grows (x >>= f) :=
  fun t => (hx t).trans (hf (x t).1 (x t).2)

theorem grows_note (e : Event) : Tracing.Grows (note e) := fun t => .refl t.report

theorem grows_reporting {f : Report → Report} (hf : ∀ r : Report, r.Grows (f r)) : Tracing.Grows (reporting f) :=
  fun t => hf t.report

theorem Expansion.grows_pure (a : α) : Expansion.Grows (pure a) := fun t => .refl t.report

theorem Expansion.grows_throw (e : Error) : Expansion.Grows (throw e : Expansion α) :=
  fun t => .refl t.report

theorem Expansion.grows_ofExcept (r : Except Error α) : (Expansion.ofExcept r).Grows := by
  cases r with
  | ok a => exact grows_pure a
  | error e => exact grows_throw e

theorem Expansion.grows_lift {x : Tracing α} (hx : Tracing.Grows x) :
    (monadLift x : Expansion α).Grows := hx

theorem Expansion.Grows.bind {x : Expansion α} {f : α → Expansion β} (hx : x.Grows)
    (hf : ∀ a, (f a).Grows) : (x >>= f).Grows := by
  intro t
  have hfirst := hx t
  have hrun : (x >>= f).traceAfter t =
      match x t with
      | .ok a t' => (f a).traceAfter t'
      | .error _ t' => t' := by
    unfold Expansion.traceAfter
    change (match EStateM.bind x f t with | .ok _ t' => t' | .error _ t' => t') = _
    unfold EStateM.bind
    cases x t <;> rfl
  rw [hrun]
  unfold Expansion.traceAfter at hfirst
  cases hx : x t with
  | ok a t' =>
    rw [hx] at hfirst
    exact hfirst.trans (hf a t')
  | error e t' =>
    rw [hx] at hfirst
    exact hfirst

end

/-! ### Stages -/

theorem grows_convertLoop (scope : Scope) (l : Directive.Loop) (source : List Char) :
    Tracing.Grows (convertLoop scope l source) := by
  unfold convertLoop
  split
  · exact (grows_reporting Report.Grows.loop).bind fun _ => Tracing.grows_pure _
  · refine (grows_note _).bind fun _ => ?_
    exact (grows_reporting fun r => Report.Grows.warn r _).bind fun _ => Tracing.grows_pure _

theorem grows_convertLoops (scope : Scope) (pieces : List (Piece Directive.Loop)) :
    Tracing.Grows (convertLoops scope pieces) := by
  induction pieces generalizing scope with
  | nil => exact Tracing.grows_pure _
  | cons piece pieces ih =>
    cases piece with
    | char c => exact (ih scope).bind fun _ => Tracing.grows_pure _
    | mark l source =>
      refine (grows_convertLoop scope l source).bind fun mine => ?_
      exact (ih mine.1).bind fun _ => Tracing.grows_pure _

theorem grows_loopRounds (fuel : Nat) (scope : Scope) (text : List Char) :
    Tracing.Grows (loopRounds fuel scope text) := by
  induction fuel generalizing scope text with
  | zero => exact Tracing.grows_pure _
  | succ fuel ih =>
    refine (grows_convertLoops scope _).bind fun round => ?_
    dsimp only
    split
    · exact Tracing.grows_pure _
    · exact ih round.1 round.2

theorem grows_expandLoops (scope : Scope) (text : List Char) : Tracing.Grows (expandLoops scope text) :=
  grows_loopRounds (text.length + 1) scope text

theorem grows_convertComments (scope : Scope) (text : List Char) :
    Tracing.Grows (convertComments scope text) :=
  (grows_reporting fun r => Report.Grows.comments r _).bind fun _ => Tracing.grows_pure _

theorem grows_convertVariable (scope : Scope) (name : String) (source : List Char) :
    Tracing.Grows (convertVariable scope name source) := by
  unfold convertVariable
  by_cases hkeyword : name = loopEndKeyword
  · rw [if_pos hkeyword]
    exact Tracing.grows_pure _
  rw [if_neg hkeyword]
  split
  · refine (grows_reporting fun r => Report.Grows.missing r name).bind fun _ => ?_
    exact (grows_note _).bind fun _ => Tracing.grows_pure _
  split
  · have hreserved (r : Report) : r.Grows
        ({ r with variablesMissing := addName r.variablesMissing name }.warn
          s!"Variable '{name}' is reserved") := (Report.Grows.missing r name).trans (.warn _ _)
    exact (grows_reporting hreserved).bind fun _ => Tracing.grows_pure _
  · exact (grows_reporting fun r => Report.Grows.substituted r name).bind fun _ => Tracing.grows_pure _

theorem grows_convertVariables (scope : Scope) (pieces : List (Piece String)) :
    Tracing.Grows (convertVariables scope pieces) := by
  induction pieces with
  | nil => exact Tracing.grows_pure _
  | cons piece pieces ih =>
    cases piece with
    | char c => exact ih.bind fun _ => Tracing.grows_pure _
    | mark name source =>
      refine (grows_convertVariable scope name source).bind fun _ => ?_
      exact ih.bind fun _ => Tracing.grows_pure _

theorem grows_substituteVariables (scope : Scope) (text : List Char) :
    Tracing.Grows (substituteVariables scope text) :=
  (grows_convertVariables scope _).bind fun _ => Tracing.grows_pure _

theorem grows_bindProp (scope : Scope) (bound : BoundProps) (p : PropToken) :
    Tracing.Grows (bindProp scope bound p) := by
  unfold bindProp
  split
  · refine (grows_note _).bind fun _ => ?_
    exact (grows_reporting fun r => Report.Grows.warn r _).bind fun _ => Tracing.grows_pure _
  split
  · exact Tracing.grows_pure _
  dsimp only
  split
  · exact Tracing.grows_pure _
  · exact (grows_note _).bind fun _ => Tracing.grows_pure _

theorem grows_bindProps (scope : Scope) (bound : BoundProps) (tokens : List PropToken) :
    Tracing.Grows (bindProps scope bound tokens) := by
  induction tokens generalizing bound with
  | nil => exact Tracing.grows_pure _
  | cons p tokens ih => exact (grows_bindProp scope bound p).bind fun bound => ih bound

theorem grows_reportFragments (component : String) (fragments : List (List Char)) :
    Tracing.Grows (reportFragments component fragments) := by
  induction fragments with
  | nil => exact Tracing.grows_pure _
  | cons t fragments ih =>
    refine (grows_note _).bind fun _ => ?_
    exact (grows_reporting fun r => Report.Grows.warn r _).bind fun _ => ih

/-! ### Components -/

theorem grows_load (lib : Library) (kind : TemplateKind) (name : String) : (lib.load kind name).Grows := by
  have hfind : (lib.find kind name).Grows := by
    refine (Expansion.grows_ofExcept _).bind fun path => ?_
    exact (Expansion.grows_lift (grows_note _)).bind fun _ => Expansion.grows_pure _
  refine hfind.bind fun path => ?_
  exact (Expansion.grows_ofExcept _).bind fun _ => Expansion.grows_pure _

section

variable {lib : Library} {expand : Scope → List Char → Expansion (List Char)}

theorem grows_includeComponent (hexpand : ∀ scope text, (expand scope text).Grows) (scope : Scope)
    (use : Directive.ComponentUse) : (includeComponent lib expand scope use).Grows := by
  unfold includeComponent
  by_cases hmem : scope.processed.contains use.name = true
  · rw [if_pos hmem]
    refine (Expansion.grows_lift (grows_note _)).bind fun _ => ?_
    refine (Expansion.grows_lift (grows_reporting fun r => Report.Grows.skipped r use.name)).bind fun _ => ?_
    exact Expansion.grows_pure _
  · rw [if_neg hmem]
    refine (grows_load lib .component use.name).bind fun file => ?_
    refine (Expansion.grows_lift (grows_reportFragments use.name _)).bind fun _ => ?_
    refine (Expansion.grows_lift (grows_bindProps scope {} _)).bind fun bound => ?_
    refine (hexpand (scope.child use.name bound.values) file.2).bind fun body => ?_
    refine (Expansion.grows_lift (grows_reporting fun r => Report.Grows.included r use.name)).bind fun _ => ?_
    exact Expansion.grows_pure _

theorem grows_includeComponents (hexpand : ∀ scope text, (expand scope text).Grows) (scope : Scope)
    (pieces : List (Piece (Option Directive.ComponentUse))) :
    (includeComponents lib expand scope pieces).Grows := by
  induction pieces with
  | nil => exact Expansion.grows_pure _
  | cons piece pieces ih =>
    rcases piece with c | ⟨_ | use, source⟩
    · exact ih.bind fun _ => Expansion.grows_pure _
    · exact ih.bind fun _ => Expansion.grows_pure _
    · refine (grows_includeComponent hexpand scope use).bind fun _ => ?_
      exact ih.bind fun _ => Expansion.grows_pure _

theorem grows_resolveComponents (hexpand : ∀ scope text, (expand scope text).Grows) (scope : Scope)
    (text : List Char) : (resolveComponents lib expand scope text).Grows :=
  (grows_includeComponents hexpand scope _).bind fun _ => Expansion.grows_pure _

end

/-! ### Expansions -/

theorem grows_runStages {stages : List Stage}
    (h : ∀ stage ∈ stages, ∀ scope text, (stage.run scope text).Grows) (scope : Scope)
    (text : List Char) : (runStages stages scope text).Grows := by
  induction stages generalizing scope text with
  | nil => exact Expansion.grows_pure _
  | cons stage stages ih =>
    have hrest := ih fun s hs => h s (List.mem_cons_of_mem _ hs)
    refine (h stage List.mem_cons_self scope text).bind fun out => ?_
    dsimp only
    split
    · exact (Expansion.grows_lift (grows_note _)).bind fun _ => hrest out.1 out.2
    · exact hrest out.1 out.2

theorem grows_stages (c : Compiler) {expand : Scope → List Char → Expansion (List Char)}
    (hextra : ∀ stage ∈ c.extra, ∀ scope text, (stage.run scope text).Grows)
    (hexpand : ∀ scope text, (expand scope text).Grows) :
    ∀ stage ∈ c.stages expand, ∀ scope text, (stage.run scope text).Grows := by
  intro stage hstage scope text
  rcases List.mem_append.mp hstage with husual | hextra'
  · simp only [List.mem_cons, List.not_mem_nil, or_false] at husual
    rcases husual with rfl | rfl | rfl | rfl
    · exact Expansion.grows_lift (grows_expandLoops scope text)
    · exact Expansion.grows_lift (grows_convertComments scope text)
    · exact grows_resolveComponents hexpand scope text
    · exact Expansion.grows_lift (grows_substituteVariables scope text)
  · exact hextra stage hextra' scope text

theorem grows_settle {pass : Scope → List Char → Expansion (Scope × List Char)}
    (hpass : ∀ scope text, (pass scope text).Grows) (limit left : Nat) (scope : Scope)
    (text : List Char) : (settle pass limit left scope text).Grows := by
  induction left generalizing scope text with
  | zero => exact Expansion.grows_throw _
  | succ left ih =>
    refine (hpass scope text).bind fun out => ?_
    refine (Expansion.grows_lift (grows_reporting Report.Grows.pass)).bind fun _ => ?_
    split
    · exact (Expansion.grows_lift (grows_note _)).bind fun _ => Expansion.grows_pure _
    · exact ih out.1 out.2

/-- Expanding a text lets the report grow, at every depth. -/
theorem grows_expandWithin (c : Compiler)
    (hextra : ∀ stage ∈ c.extra, ∀ scope text, (stage.run scope text).Grows) (nesting : Nat)
    (scope : Scope) (text : List Char) : (c.expandWithin nesting scope text).Grows := by
  induction nesting generalizing scope text with
  | zero => exact Expansion.grows_throw _
  | succ nesting ih =>
    have hbody (s : Scope) (body : List Char) : (c.expandBody nesting s body).Grows :=
      (ih s body).bind fun _ => Expansion.grows_pure _
    exact grows_settle (grows_runStages (grows_stages c hextra hbody)) c.limit c.limit scope text

theorem grows_expandBody (c : Compiler)
    (hextra : ∀ stage ∈ c.extra, ∀ scope text, (stage.run scope text).Grows) (nesting : Nat)
    (scope : Scope) (text : List Char) : (c.expandBody nesting scope text).Grows :=
  (grows_expandWithin c hextra nesting scope text).bind fun _ => Expansion.grows_pure _

/-! ### Scopes -/

/-- Whether a scope is another one with names bound by loops. -/
def Scope.Binds (s s' : Scope) : Prop := ∃ names, s' = s.bindLoop names

theorem Scope.Binds.refl (s : Scope) : s.Binds s := ⟨[], rfl⟩

theorem Scope.Binds.trans {s s' s'' : Scope} (h : s.Binds s') (h' : s'.Binds s'') : s.Binds s'' := by
  obtain ⟨names, rfl⟩ := h
  obtain ⟨names', rfl⟩ := h'
  exact ⟨names ++ names', by rw [bindLoop, bindLoop, bindLoop, List.foldl_append]⟩

theorem binds_convertLoops (s : Scope) (pieces : List (Piece Directive.Loop)) (t : Trace) :
    s.Binds (convertLoops s pieces t).1.1 := by
  have hloop (s : Scope) (l : Directive.Loop) (source : List Char) (t : Trace) :
      s.Binds (convertLoop s l source t).1.1 := by
    unfold convertLoop
    split
    · exact ⟨[l.item, l.indexName], rfl⟩
    · exact .refl s
  induction pieces generalizing s t with
  | nil => exact .refl s
  | cons piece pieces ih =>
    cases piece with
    | char c => exact ih s t
    | mark l source => exact (hloop s l source t).trans (ih _ _)

theorem binds_expandLoops (s : Scope) (text : List Char) (t : Trace) :
    s.Binds (expandLoops s text t).1.1 := by
  have hrounds (fuel : Nat) : s.Binds (loopRounds fuel s text t).1.1 := by
    induction fuel generalizing s text t with
    | zero => exact .refl s
    | succ fuel ih =>
      have hround := binds_convertLoops s (Directive.loop.pieces text) t
      rw [loopRounds_succ]
      dsimp only
      split
      · exact hround
      · exact hround.trans (ih _ _ _)
  exact hrounds (text.length + 1)

end Stencil.Template
