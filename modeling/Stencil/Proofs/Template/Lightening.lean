import Stencil.Proofs.Template.OpenMarks
import Stencil.Proofs.Template.Passes

/-! Every pass that changes a text makes it lighter: it uses up an opening mark, or else pairs off number
signs and makes no mark. So passes come to an end, as long as components come back without marks that the
text around them could complete. -/
namespace Stencil.Template

open Text (Piece Recogniser)
open Target (Construct Expr)

/-! ### What a pass uses up -/

/-- What passes can still use up of a text: its opening marks, and the pairs of its number signs. -/
def weight (s : List Char) : Nat := 2 * marks true s + if 2 ≤ s.count '#' then 1 else 0

/-- Whether a text is left as it is, or lighter. -/
def Lightens (new old : List Char) : Prop := new = old ∨ weight new < weight old

namespace Lightens

variable {a b c : List Char}

theorem refl (s : List Char) : Lightens s s := .inl rfl

theorem trans (hab : Lightens a b) (hbc : Lightens b c) : Lightens a c := by
  rcases hab with rfl | hab
  · exact hbc
  rcases hbc with rfl | hbc
  · exact .inr hab
  · exact .inr (Nat.lt_trans hab hbc)

end Lightens

/-- A mark outweighs all pairs of signs. -/
theorem Spends.lightens {new old : List Char} (h : Spends new old) : Lightens new old := by
  refine h.imp_right fun h => ?_
  have := h.marks_le (Bool.le_refl true)
  unfold weight
  split <;> split <;> omega

theorem lightens_convertedComments (text : List Char) :
    Lightens (convertedComments text) text := by
  by_cases h : convertedComments text = text
  · exact .inl h
  refine .inr ?_
  have hmarks := (fewer_convertedComments text).marks_le (Bool.le_refl true)
  have hsigns := count_convertedComments text
  rw [convertedComments_eq_self_iff] at h
  unfold weight
  rw [if_neg (by omega), if_pos (by omega)]
  omega

theorem weight_le (s : List Char) : weight s ≤ 2 * s.count '<' + 1 := by
  have := marks_le_count true s
  unfold weight
  split <;> omega

/-! ### What a library can do -/

/-- The errors of a library. -/
def Library.Fault (lib : Library) (e : Error) : Prop :=
  (∃ kind name, lib.resolve kind name = .error e) ∨ ∃ path, lib.read path = .error e

/-- Whether a text is found in a library under some name. -/
def Library.Holds (lib : Library) (kind : TemplateKind) (source : List Char) : Prop :=
  ∃ name path, lib.resolve kind name = .ok path ∧ lib.read path = .ok source

/-- Whether no component leaves an opening mark, or an angle at its end that may become one, when it is
expanded. -/
def Library.IsTidy (lib : Library) : Prop :=
  ∀ limit nesting scope source, lib.Holds .component source →
    (Compiler.expandWithin { library := lib, limit := limit } nesting scope
      (protect source)).Ensures fun out => marks true out.2 = 0

variable {lib : Library} {E : Error → Prop}

theorem ends_load (hfault : ∀ e, lib.Fault e → E e) (kind : TemplateKind) (name : String) :
    (lib.load kind name).Ends
      (fun file => ∃ source, lib.Holds kind source ∧ file.2 = protect source) E := by
  refine Expansion.Ends.bind (P := fun path => lib.resolve kind name = .ok path) ?_ ?_
  · refine Expansion.Ends.bind (P := fun path => lib.resolve kind name = .ok path) ?_ ?_
    · exact Expansion.ends_ofExcept (fun _ h => h) fun e h => hfault e (.inl ⟨kind, name, h⟩)
    · exact fun path h => Expansion.ends_lift_bind fun _ => Expansion.ends_pure h
  intro path hresolve
  refine Expansion.Ends.bind (P := fun text => lib.read path = .ok text) ?_ ?_
  · exact Expansion.ends_ofExcept (fun _ h => h) fun e h => hfault e (.inr ⟨path, h⟩)
  · exact fun text hread => Expansion.ends_pure ⟨text, ⟨name, path, hresolve, hread⟩, rfl⟩

/-! ### Stages -/

/-- Whether a stage ends with a text that is lighter, if it is another one. -/
def Stage.IsLightening (stage : Stage) (E : Error → Prop) : Prop :=
  ∀ scope text, (stage.run scope text).Ends (fun out => Lightens out.2 text) E

/-- Whether an expansion of components ends with texts without opening marks. -/
def Closes (lib : Library) (expand : Scope → List Char → Expansion (List Char))
    (E : Error → Prop) : Prop :=
  ∀ scope source, lib.Holds .component source →
    (expand scope (protect source)).Ends (fun body => marks true body = 0) E

theorem marks_wrapBody {body : List Char} (hbody : marks true body = 0)
    {exprs : List (String × Expr)} (h : SoundExprs exprs) (next : Bool) :
    marks next (wrapBody body exprs) = 0 := by
  have hinner (b : Bool) : marks b body = 0 :=
    Nat.eq_zero_of_le_zero (hbody ▸ marks_mono (Bool.le_true b) body)
  unfold wrapBody
  split
  · exact hinner next
  · next hne =>
    have hopen : (Construct.openWith exprs).IsSound := ⟨by simpa using hne, h⟩
    rw [marks_append, marks_append, marks_tag hopen, marks_tag (k := .closeWith) trivial, hinner]

variable {expand : Scope → List Char → Expansion (List Char)}

theorem ends_includeComponent (hfault : ∀ e, lib.Fault e → E e) (hexpand : Closes lib expand E)
    (scope : Scope) {use : Directive.ComponentUse} (hname : '<' ∉ use.name.toList) :
    (includeComponent lib expand scope use).Ends (fun out => ∀ next, marks next out = 0) E := by
  unfold includeComponent
  split
  · refine Expansion.ends_lift_bind fun _ => Expansion.ends_lift_bind fun _ => ?_
    exact Expansion.ends_pure fun _ => marks_diagnostic (by simp [toString, hname])
  · refine (ends_load hfault .component use.name).bind ?_
    rintro ⟨_, _⟩ ⟨source, hsource, rfl⟩
    refine Expansion.ends_lift_bind fun _ => ?_
    have hbound := Expansion.ends_lift (x := bindProps scope {} (props (lexProps use.props)))
      (P := fun bound => SoundExprs bound.exprs) (E := E)
      (soundExprs_bindProps scope (by simp [SoundExprs]) _)
    refine hbound.bind fun bound hbound => ?_
    refine (hexpand _ source hsource).bind fun body hbody => Expansion.ends_lift_bind fun _ => ?_
    exact Expansion.ends_pure (marks_wrapBody hbody hbound)

theorem ends_includeComponents (hfault : ∀ e, lib.Fault e → E e) (hexpand : Closes lib expand E)
    (scope : Scope) {pieces : List (Piece (Option Directive.ComponentUse))}
    (h : ∀ use source, .mark (some use) source ∈ pieces →
      (∃ t, source = '<' :: ':' :: t) ∧ '<' ∉ use.name.toList) :
    (includeComponents lib expand scope pieces).Ends
      (fun out => Spends out (pieces.flatMap Piece.text)) E := by
  induction pieces with
  | nil => exact Expansion.ends_pure (.refl [])
  | cons piece pieces ih =>
    have hrest := ih fun use source hmem => h use source (List.mem_cons_of_mem _ hmem)
    rcases piece with c | ⟨_ | use, source⟩
    · exact hrest.bind fun out hout => Expansion.ends_pure ((Spends.refl [c]).append hout)
    · exact hrest.bind fun out hout => Expansion.ends_pure ((Spends.refl source).append hout)
    · obtain ⟨⟨t, rfl⟩, hname⟩ := h use source List.mem_cons_self
      refine (ends_includeComponent hfault hexpand scope hname).bind fun mine hmine => ?_
      refine hrest.bind fun out hout => Expansion.ends_pure ?_
      exact Spends.append (.inr (.directive_of_unmarked hmine t)) hout

theorem ends_resolveComponents (hfault : ∀ e, lib.Fault e → E e) (hexpand : Closes lib expand E)
    (scope : Scope) (text : List Char) :
    (resolveComponents lib expand scope text).Ends (fun out => Spends out.2 text) E := by
  refine (ends_includeComponents hfault hexpand scope fun use source hmem => ?_).bind
    fun out hout => Expansion.ends_pure ?_
  · obtain ⟨rest, -, hread⟩ := Recogniser.exists_read_of_mem_pieces hmem
    obtain ⟨hsource, hname⟩ := Directive.exists_source_of_readComponent hread
    exact ⟨hsource, Text.notMem_of_all (hname use rfl) (by decide)⟩
  · rwa [Recogniser.flatMap_text_pieces] at hout

/-- Every one of the usual stages makes texts lighter, or leaves them. -/
theorem isLightening_stages (limit : Nat) (hfault : ∀ e, lib.Fault e → E e)
    (hexpand : Closes lib expand E) :
    ∀ stage ∈ Compiler.stages { library := lib, limit := limit } expand, stage.IsLightening E := by
  intro stage hstage scope text
  simp only [Compiler.stages, List.append_nil, List.mem_cons, List.not_mem_nil, or_false] at hstage
  rcases hstage with rfl | rfl | rfl | rfl
  · refine Expansion.ends_lift fun t => ?_
    rw [expandLoops_text]
    exact (spends_loopRoundsText _ text).lightens
  · exact Expansion.ends_lift fun t => lightens_convertedComments text
  · exact (ends_resolveComponents hfault hexpand scope text).imp fun _ hout => hout.lightens
  · refine Expansion.ends_lift fun t => ?_
    rw [substituteVariables_text]
    exact (spends_placeholders scope text).lightens

/-! ### Passes -/

/-- A stage and the stages after it. -/
theorem ends_runStages_cons {stage : Stage} {stages : List Stage} {scope : Scope}
    {text : List Char} {P Q : Scope × List Char → Prop} (hstage : (stage.run scope text).Ends P E)
    (hrest : ∀ out, P out → (runStages stages out.1 out.2).Ends Q E) :
    (runStages (stage :: stages) scope text).Ends Q E := by
  refine hstage.bind fun out hout => ?_
  dsimp only
  split
  · exact Expansion.ends_lift_bind fun _ => hrest out hout
  · exact hrest out hout

theorem ends_runStages {stages : List Stage} (h : ∀ stage ∈ stages, stage.IsLightening E)
    (scope : Scope) (text : List Char) :
    (runStages stages scope text).Ends (fun out => Lightens out.2 text) E := by
  induction stages generalizing scope text with
  | nil => exact Expansion.ends_pure (.refl text)
  | cons stage stages ih =>
    refine ends_runStages_cons (h stage List.mem_cons_self scope text) fun out hout => ?_
    exact (ih (fun s hs => h s (List.mem_cons_of_mem _ hs)) out.1 out.2).imp
      fun _ hlater => hlater.trans hout

/-- Passes that make a text lighter as long as they change it come to an end. -/
theorem ends_settle {pass : Scope → List Char → Expansion (Scope × List Char)}
    (hpass : ∀ scope text, (pass scope text).Ends (fun out => Lightens out.2 text) E)
    (limit : Nat) {left : Nat} (scope : Scope) {text : List Char} (h : weight text < left) :
    (settle pass limit left scope text).Ends (fun _ => True) E := by
  induction left generalizing scope text with
  | zero => exact absurd h (Nat.not_lt_zero _)
  | succ left ih =>
    refine (hpass scope text).bind fun out hout => Expansion.ends_lift_bind fun _ => ?_
    split
    · exact Expansion.ends_lift_bind fun _ => Expansion.ends_pure trivial
    · next hmoves =>
      refine ih out.1 ?_
      have := hout.resolve_left hmoves
      omega

/-- The expansion of a text that the limit allows for. -/
theorem ends_expandWithin (hfault : ∀ e, lib.Fault e → E e) (hnesting : E .nesting)
    (htidy : lib.IsTidy) {limit : Nat}
    (hfiles : ∀ source, lib.Holds .component source → weight (protect source) < limit)
    (nesting : Nat) (scope : Scope) {text : List Char} (h : weight text < limit) :
    (Compiler.expandWithin { library := lib, limit := limit } nesting scope text).Ends
      (fun _ => True) E := by
  induction nesting generalizing scope text with
  | zero => exact Expansion.ends_throw hnesting
  | succ nesting ih =>
    have hexpand : Closes lib
        (Compiler.expandBody { library := lib, limit := limit } nesting) E := by
      intro s source hsource
      have hbody := (ih s (hfiles source hsource)).ensures (htidy limit nesting s source hsource)
      exact hbody.bind fun out hout => Expansion.ends_pure hout
    exact ends_settle (fun s t => ends_runStages (isLightening_stages limit hfault hexpand) s t)
      limit scope h

end Stencil.Template
