import Stencil.Proofs.Template.LiteralProps
import Stencil.Proofs.Template.Passes
import Stencil.Proofs.Template.StageSplices

/-! Expansion of text that uses no component. One pass leaves no remark and no name to be shown; a second
one may still find loops, since a note in the place of a name can make the body of a loop out of what was
none; and the text is then in a normal form, which no pass changes, whatever names it knows. So three passes
are enough, the last of which finds nothing to do. -/
namespace Stencil.Template

open Text (Recogniser)

/-! ### Steps that count passes -/

/-- Whether a step, from every trace, has a result with a property, and counts no more than `n` passes. -/
def Expansion.YieldsWithin {α : Type} (n : Nat) (x : Expansion α) (P : α → Prop) : Prop :=
  ∀ t, ∃ a t', x t = .ok a t' ∧ P a ∧ t'.report.passes ≤ t.report.passes + n

/-- Whether a step that cannot fail leaves the number of passes as it is. -/
def Tracing.CountsNoPass {α : Type} (x : Tracing α) : Prop :=
  ∀ t, (x t).2.report.passes = t.report.passes

section

variable {α β : Type}

theorem Expansion.YieldsWithin.yields {n : Nat} {x : Expansion α} {P : α → Prop}
    (hx : x.YieldsWithin n P) : x.Yields P := by
  intro t
  obtain ⟨a, t', ha, hP, -⟩ := hx t
  exact ⟨a, t', ha, hP⟩

theorem Expansion.YieldsWithin.mono {m n : Nat} {x : Expansion α} {P : α → Prop}
    (hx : x.YieldsWithin m P) (h : m ≤ n) : x.YieldsWithin n P := by
  intro t
  obtain ⟨a, t', ha, hP, hm⟩ := hx t
  exact ⟨a, t', ha, hP, by omega⟩

theorem Expansion.yieldsWithin_pure {P : α → Prop} {a : α} (h : P a) :
    (pure a : Expansion α).YieldsWithin 0 P := fun t => ⟨a, t, rfl, h, Nat.le_refl _⟩

theorem Expansion.YieldsWithin.bind {m n : Nat} {x : Expansion α} {f : α → Expansion β} {P : α → Prop}
    {Q : β → Prop} (hx : x.YieldsWithin m P) (hf : ∀ a, P a → (f a).YieldsWithin n Q) :
    (x >>= f).YieldsWithin (m + n) Q := by
  intro t
  obtain ⟨a, t₁, ha, hP, hm⟩ := hx t
  obtain ⟨b, t₂, hb, hQ, hn⟩ := hf a hP t₁
  refine ⟨b, t₂, ?_, hQ, by omega⟩
  change EStateM.bind x f t = _
  unfold EStateM.bind
  rw [ha]
  exact hb

theorem Expansion.yieldsWithin_lift {x : Tracing α} (hx : x.CountsNoPass) {P : α → Prop}
    (h : ∀ t, P (x t).1) : (monadLift x : Expansion α).YieldsWithin 0 P :=
  fun t => ⟨_, _, rfl, h t, Nat.le_of_eq (hx t)⟩

theorem Tracing.countsNoPass_pure (a : α) : Tracing.CountsNoPass (pure a) := fun _ => rfl

theorem Tracing.CountsNoPass.bind {x : Tracing α} {f : α → Tracing β} (hx : x.CountsNoPass)
    (hf : ∀ a, (f a).CountsNoPass) : Tracing.CountsNoPass (x >>= f) :=
  fun t => (hf (x t).1 (x t).2).trans (hx t)

end

theorem countsNoPass_convertLoops (scope : Scope) (pieces : List (Text.Piece Directive.Loop)) :
    (convertLoops scope pieces).CountsNoPass := by
  induction pieces generalizing scope with
  | nil => exact Tracing.countsNoPass_pure _
  | cons piece pieces ih =>
    cases piece with
    | char c => exact (ih scope).bind fun _ => Tracing.countsNoPass_pure _
    | mark l source =>
      have hloop : (convertLoop scope l source).CountsNoPass := by
        intro t
        unfold convertLoop
        split <;> rfl
      exact hloop.bind fun _ => (ih _).bind fun _ => Tracing.countsNoPass_pure _

theorem countsNoPass_loopRounds (fuel : Nat) (scope : Scope) (text : List Char) :
    (loopRounds fuel scope text).CountsNoPass := by
  induction fuel generalizing scope text with
  | zero => exact Tracing.countsNoPass_pure _
  | succ fuel ih =>
    refine (countsNoPass_convertLoops scope _).bind fun out => ?_
    dsimp only
    split
    · exact Tracing.countsNoPass_pure _
    · exact ih _ _

theorem countsNoPass_convertVariables (scope : Scope) (pieces : List (Text.Piece String)) :
    (convertVariables scope pieces).CountsNoPass := by
  induction pieces with
  | nil => exact Tracing.countsNoPass_pure _
  | cons piece pieces ih =>
    cases piece with
    | char c => exact ih.bind fun _ => Tracing.countsNoPass_pure _
    | mark name source =>
      have hname : (convertVariable scope name source).CountsNoPass := by
        intro t
        unfold convertVariable
        split
        · rfl
        split
        · rfl
        split <;> rfl
      exact hname.bind fun _ => ih.bind fun _ => Tracing.countsNoPass_pure _

theorem countsNoPass_substituteVariables (scope : Scope) (text : List Char) :
    (substituteVariables scope text).CountsNoPass :=
  (countsNoPass_convertVariables scope _).bind fun _ => Tracing.countsNoPass_pure _

/-! ### Passes -/

/-- What a pass makes of a text without uses of components, if it knows the names of a scope when it comes to
the placeholders. -/
def passText (known : Scope) (text : List Char) : List Char :=
  Directive.placeholder.replace (placeholderText known)
    (convertedComments (loopRoundsText (text.length + 1) text))

/-- A text that uses no component, with no remark and no name to be shown. -/
structure IsTidy (text : List Char) : Prop where
  unused : Free opensComponent text
  unpaired : text.count '#' ≤ 1
  nameless : Free showsName text

/-- A tidy text without a loop that can be expanded. -/
structure IsNormal (text : List Char) : Prop extends IsTidy text where
  loopless : loopRound text = text

theorem skips_component {text : List Char} (h : Free opensComponent text) :
    Directive.component.Skips text [] := by
  rintro c before after rfl
  have hnone : Directive.componentOpener (c :: after) = none := by
    simpa [opensComponent] using h (c :: after) (List.suffix_append _ _)
  change Directive.readComponent (c :: (after ++ [])) = none
  rw [List.append_nil, Directive.readComponent, hnone]

/-- Where no name is to be shown, placeholders stay as they are. -/
theorem placeholders_eq_self {text : List Char} (h : Free showsName text) (known : Scope) :
    Directive.placeholder.replace (placeholderText known) text = text := by
  revert h
  refine Recogniser.replace_rec (P := fun s out => Free showsName s → out = s) (fun _ _ _ => rfl)
    (fun front source rest name _ hread ih h => ?_) text
  have hbehind : Free showsName (source ++ rest) := h.of_suffix (List.suffix_append _ _)
  have hname : name = loopEndKeyword := by
    have hread : Directive.readPlaceholder (source ++ rest) = some (name, rest) := hread
    have := hbehind _ List.suffix_rfl
    rw [showsName, hread] at this
    simpa using this
  rw [ih (hbehind.of_suffix (List.suffix_append _ _)), placeholderText, if_pos hname]

/-- Nothing that takes the place of a name makes a remark. -/
theorem count_placeholders_le (known : Scope) (text : List Char) :
    (Directive.placeholder.replace (placeholderText known) text).count '#' ≤ text.count '#' := by
  refine Recogniser.replace_induction (R := fun new old => new.count '#' ≤ old.count '#')
    (fun _ => Nat.le_refl _) ?_ ?_ text
  · intro a a' b b' ha hb
    rw [List.count_append, List.count_append]
    exact Nat.add_le_add ha hb
  · intro source rest name h
    have hname : '#' ∉ name.toList := by
      obtain ⟨t, -, hword⟩ := Directive.exists_source_of_readPlaceholder h
      exact Text.notMem_of_all hword (by decide)
    have hnote {message : String} (h : '#' ∉ message.toList) :
        (diagnostic message).count '#' ≤ source.count '#' := by
      have : '#' ∉ diagnostic message :=
        List.not_mem_append (List.not_mem_append (by decide) h) (by decide)
      rw [List.count_eq_zero.mpr this]
      exact Nat.zero_le _
    unfold placeholderText
    split
    · exact Nat.le_refl _
    split
    · exact hnote (by simp [toString, hname])
    split
    · exact hnote (by simp [toString, hname])
    · next h =>
      have hsound : (Target.Construct.show name).IsSound := by simpa [Target.Construct.IsSound] using h
      rw [List.count_eq_zero.mpr (Target.edge_notMem_text (by decide) hsound)]
      exact Nat.zero_le _

section

variable {text : List Char} {known : Scope}

/-- A pass leaves no remark and no name to be shown. -/
theorem IsTidy.passText (h : Free opensComponent text) (known : Scope) :
    IsTidy (passText known text) where
  unused := free_placeholders opensComponent_isLocal known
    (free_convertedComments opensComponent_isLocal (free_loopRoundsText opensComponent_isLocal _ h))
  unpaired := by
    have hsigns := count_convertedComments (loopRoundsText (text.length + 1) text)
    have hpass := count_placeholders_le known (convertedComments (loopRoundsText (text.length + 1) text))
    exact Nat.le_trans hpass (by omega)
  nameless := free_showsName_placeholders known _

/-- A pass over a tidy text does nothing but expand its loops. -/
theorem IsTidy.passText_eq (h : IsTidy text) (known : Scope) :
    Template.passText known text = loopRoundsText (text.length + 1) text := by
  have hsigns := Nat.le_trans (count_loopRoundsText_le rfl (text.length + 1) text) h.unpaired
  rw [Template.passText, convertedComments_eq_self_iff.mpr hsigns]
  exact placeholders_eq_self (free_loopRoundsText showsName_isLocal _ h.nameless) known

/-- There is fuel for all of them. -/
theorem IsTidy.isNormal (h : IsTidy text) (known : Scope) : IsNormal (Template.passText known text) where
  toIsTidy := .passText h.unused known
  loopless := by
    rw [h.passText_eq known]
    exact loopRound_loopRoundsText (marks_lt_length text)

theorem IsNormal.passText_eq (h : IsNormal text) (known : Scope) :
    Template.passText known text = text := by
  rw [h.toIsTidy.passText_eq known, loopRoundsText_of_still h.loopless]

end

section

variable {lib : Library} {expand : Scope → List Char → Expansion (List Char)} {limit : Nat}
  {scope : Scope} {text : List Char}

/-- A stage and the stages after it. -/
theorem yieldsWithin_runStages_cons {stage : Stage} {stages : List Stage}
    {P Q : Scope × List Char → Prop} (hstage : (stage.run scope text).YieldsWithin 0 P)
    (hrest : ∀ out, P out → (runStages stages out.1 out.2).YieldsWithin 0 Q) :
    (runStages (stage :: stages) scope text).YieldsWithin 0 Q := by
  refine hstage.bind (n := 0) fun out hout => ?_
  dsimp only
  split
  · have hnote : (monadLift (note (.rewrote stage.name out.1.templateName out.1.depth)) :
        Expansion Unit).YieldsWithin 0 fun _ => True :=
      Expansion.yieldsWithin_lift (fun _ => rfl) fun _ => trivial
    exact hnote.bind (n := 0) fun _ _ => hrest out hout
  · exact hrest out hout

theorem yieldsWithin_resolveComponents (h : Free opensComponent text) (scope : Scope) :
    (resolveComponents lib expand scope text).YieldsWithin 0 fun r => r = (scope, text) := by
  have hpieces := Recogniser.pieces_of_skips (skips_component h)
  have hchars (s : List Char) :
      (includeComponents lib expand scope (s.map .char)).YieldsWithin 0 fun r => r = s := by
    induction s with
    | nil => exact Expansion.yieldsWithin_pure rfl
    | cons c s ih =>
      exact ih.bind (n := 0) fun r hr => Expansion.yieldsWithin_pure (congrArg (c :: ·) hr)
  unfold resolveComponents
  rw [hpieces]
  exact (hchars text).bind (n := 0) fun r hr => Expansion.yieldsWithin_pure (by rw [hr])

/-- A pass over a text without uses of components. -/
theorem yieldsWithin_pass (h : Free opensComponent text) (limit : Nat) (scope : Scope) :
    (runStages (Compiler.stages { library := lib, limit := limit } expand) scope text).YieldsWithin 0
      fun r => ∃ known, r.2 = passText known text := by
  refine yieldsWithin_runStages_cons (P := fun r => r.2 = loopRoundsText (text.length + 1) text) ?_ ?_
  · exact Expansion.yieldsWithin_lift (countsNoPass_loopRounds _ scope text) (expandLoops_text scope text)
  rintro ⟨s, _⟩ rfl
  have hconverted : Free opensComponent (convertedComments (loopRoundsText (text.length + 1) text)) :=
    free_convertedComments opensComponent_isLocal (free_loopRoundsText opensComponent_isLocal _ h)
  refine yieldsWithin_runStages_cons
    (P := fun r => r = (s, convertedComments (loopRoundsText (text.length + 1) text))) ?_ ?_
  · exact Expansion.yieldsWithin_lift (fun _ => rfl) fun _ => rfl
  rintro _ rfl
  refine yieldsWithin_runStages_cons
    (P := fun r => r = (s, convertedComments (loopRoundsText (text.length + 1) text))) ?_ ?_
  · exact yieldsWithin_resolveComponents hconverted s
  rintro _ rfl
  refine yieldsWithin_runStages_cons (P := fun r => r.2 = passText s text) ?_ ?_
  · exact Expansion.yieldsWithin_lift (countsNoPass_substituteVariables s _) fun t =>
      congrArg Prod.snd (substituteVariables_text s _ t)
  rintro ⟨s', _⟩ rfl
  exact Expansion.yieldsWithin_pure ⟨s, rfl⟩

/-! ### Expansions -/

variable {pass : Scope → List Char → Expansion (Scope × List Char)}

/-- A pass, after which the text is settled or there are passes left. -/
theorem yieldsWithin_settle_succ {n left : Nat} {P Q : Scope × List Char → Prop}
    (hpass : (pass scope text).YieldsWithin 0 P) (hstill : ∀ r, P r → r.2 = text → Q r)
    (hrest : ∀ r, P r → r.2 ≠ text → (settle pass limit left r.1 r.2).YieldsWithin n Q) :
    (settle pass limit (left + 1) scope text).YieldsWithin (n + 1) Q := by
  have hcount (f : Report → Report) (hf : ∀ r, (f r).passes = r.passes + 1) :
      (monadLift (reporting f) : Expansion Unit).YieldsWithin 1 fun _ => True :=
    fun t => ⟨_, _, rfl, trivial, Nat.le_of_eq (hf t.report)⟩
  have hsettled : (settle pass limit (left + 1) scope text).YieldsWithin (0 + (1 + n)) Q := by
    refine hpass.bind fun out hout => (hcount _ fun _ => rfl).bind fun _ _ => ?_
    split
    · next hsame =>
      have hnote : (monadLift (note (.settled out.1.templateName (limit - left) out.1.depth)) :
          Expansion Unit).YieldsWithin 0 fun _ => True :=
        Expansion.yieldsWithin_lift (fun _ => rfl) fun _ => trivial
      exact (hnote.bind (n := 0) fun _ _ =>
        Expansion.yieldsWithin_pure (hstill out hout hsame)).mono (Nat.zero_le n)
    · next hmoves => exact hrest out hout hmoves
  exact hsettled.mono (by omega)

variable (lib expand limit scope)

/-- A text in normal form is settled by one pass. -/
theorem yieldsWithin_settle_normal (h : IsNormal text) (left : Nat) :
    (settle (runStages (Compiler.stages { library := lib, limit := limit } expand)) limit (left + 1)
      scope text).YieldsWithin 1 fun r => IsNormal r.2 := by
  refine yieldsWithin_settle_succ (n := 0) (yieldsWithin_pass h.unused limit scope) ?_ ?_
  · rintro ⟨s, _⟩ - rfl
    exact h
  · rintro ⟨s, _⟩ ⟨known, rfl⟩ hmoves
    exact absurd (h.passText_eq known) hmoves

/-- A tidy text is settled by two. -/
theorem yieldsWithin_settle_tidy (h : IsTidy text) (left : Nat) :
    (settle (runStages (Compiler.stages { library := lib, limit := limit } expand)) limit (left + 2)
      scope text).YieldsWithin 2 fun r => IsNormal r.2 := by
  refine yieldsWithin_settle_succ (yieldsWithin_pass h.unused limit scope) ?_ ?_
  · rintro ⟨s, _⟩ ⟨known, rfl⟩ -
    exact h.isNormal known
  · rintro ⟨s, _⟩ ⟨known, rfl⟩ -
    exact yieldsWithin_settle_normal lib expand limit s (h.isNormal known) left

/-- Every text without uses of components is settled by three. If the first pass changes nothing, the text was
tidy, and what a pass makes of it is in normal form. -/
theorem yieldsWithin_settle_unused (h : Free opensComponent text) (left : Nat) :
    (settle (runStages (Compiler.stages { library := lib, limit := limit } expand)) limit (left + 3)
      scope text).YieldsWithin 3 fun r => IsNormal r.2 := by
  refine yieldsWithin_settle_succ (yieldsWithin_pass h limit scope) ?_ ?_
  · rintro ⟨s, _⟩ ⟨known, rfl⟩ hsame
    have htidy : IsTidy text := hsame ▸ IsTidy.passText h known
    exact htidy.isNormal known
  · rintro ⟨s, _⟩ ⟨known, rfl⟩ -
    exact yieldsWithin_settle_tidy lib expand limit s (.passText h known) left

end

/-- For a text in which nothing looks like the use of a component, whatever else is in it, and every scope,
three passes are enough: expansion has a result, from every trace and under every limit of three or more,
counts no more than three passes, and no pass over the result changes it, under any scope at all. -/
theorem expand_reaches_normalForm (lib : Library) {limit : Nat} (hlimit : 3 ≤ limit) (scope : Scope)
    {text : List Char} (h : ∀ s, s <:+ text → Directive.componentOpener s = none) (t : Trace) :
    let c : Compiler := { library := lib, limit := limit }
    ∃ out t', c.expand scope text t = .ok out t' ∧ t'.report.passes ≤ t.report.passes + 3 ∧
      ∀ other, (c.pass other out.2).Yields fun r => r.2 = out.2 := by
  intro c
  have hfree : Free opensComponent text := fun s hs => by rw [opensComponent, h s hs]; rfl
  obtain ⟨left, rfl⟩ : ∃ left, limit = left + 3 := ⟨limit - 3, by omega⟩
  obtain ⟨out, t', hout, hnormal, hpasses⟩ := yieldsWithin_settle_unused lib
    (fun s t => do return (← c.expandWithin 239 s t).2) (left + 3) scope hfree left t
  refine ⟨out, t', hout, hpasses, fun other => ?_⟩
  refine (yieldsWithin_pass hnormal.unused (left + 3) other).yields.imp ?_
  rintro r ⟨known, hr⟩
  rw [hr, hnormal.passText_eq known]

/-- A loop whose body holds what becomes a note, behind a remark. -/
theorem expand_reaches_normalForm_blocked :
    let text := "#a#<: for x in xs :><: for :><: endfor :>".toList
    (3 ≤ 100 ∧ ∀ s, s <:+ text → Directive.componentOpener s = none) ∧
    ∃ out t', ({ library := .ofTexts [] } : Compiler).expand { templateName := "page" } text
        { report := { templateName := "page" } } = .ok out t' ∧ t'.report.passes ≤ 0 + 3 ∧
      ∀ other, (({ library := .ofTexts [] } : Compiler).pass other out.2).Yields
        fun r => r.2 = out.2 := by
  intro text
  have h : ∀ s, s <:+ text → Directive.componentOpener s = none := by
    have hall : text.tails.all (fun s => (Directive.componentOpener s).isNone) = true := by
      decide +kernel
    intro s hs
    simpa using List.all_eq_true.mp hall s ((List.mem_tails s text).mpr hs)
  exact ⟨⟨by decide, h⟩, expand_reaches_normalForm (.ofTexts []) (by decide) _ h _⟩

end Stencil.Template
