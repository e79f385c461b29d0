import Stencil.Proofs.Target.Literals
import Stencil.Proofs.Template.OpenMarks
import Stencil.Proofs.Template.PropItems
import Stencil.Proofs.Template.Quotes
import Stencil.Proofs.Template.TreeRender
import Stencil.Proofs.Template.Uses

/-! Literal props. The value of a prop stands in the page between quotes, and the stages in front of the one
that reads it work on the whole page: its loops are expanded and its remarks converted before it is read.
From then on nothing becomes of it, until the page that is run shows it. -/
namespace Stencil.Template

open Target (Construct Expr)
open Text (Recogniser)

/-! ### Values -/

/-- What stands between the quotes of a value when its use is read. -/
def settledValue (value : List Char) : List Char :=
  convertedComments (loopRoundsText ((protect value).length + 1) (protect value))

/-- The text that a component gets for a value. -/
def deliveredValue (value : List Char) : List Char := restore (settledValue value)

/-- A sign that ends values or remarks. -/
def isSign (c : Char) : Bool := c == '"' || c == '#'

section

variable {c : Char}

theorem sign_cases (hc : isSign c = true) : c = '"' ∨ c = '#' := by simpa [isSign] using hc

theorem sign_notMem_target {l : Directive.Loop} (hc : isSign c = true) (h : l.isUsable = true) :
    c ∉ (Construct.openLoop l.indexName l.item l.collection).text := by
  obtain ⟨hindex, hitem, hcollection⟩ := Directive.Loop.isSound_of_isUsable h
  have hname {n : String} (hn : isRenderable n = true) : c ∉ n.toList := by
    rcases sign_cases hc with rfl | rfl <;> exact Target.notMem_name (by decide) (by decide) hn
  have hindex := hname hindex
  have hitem := hname hitem
  have hcollection := hname hcollection
  rcases sign_cases hc with rfl | rfl <;>
    simp [Construct.text_openLoop, hindex, hitem, hcollection]

/-- Loops are written without quotes and number signs, and their tags have none. -/
theorem count_loopRound_le (hc : isSign c = true) (text : List Char) :
    (loopRound text).count c ≤ text.count c := by
  refine Recogniser.replace_induction (R := fun new old => new.count c ≤ old.count c)
    (fun _ => Nat.le_refl _) ?_ ?_ text
  · intro a a' b b' ha hb
    rw [List.count_append, List.count_append]
    exact Nat.add_le_add ha hb
  · intro source rest l h
    obtain ⟨t, rfl, hbody⟩ := Directive.exists_source_of_readLoop h
    unfold Directive.Loop.put
    split
    · next husable =>
      have hopen := List.count_eq_zero.mpr (sign_notMem_target hc husable)
      have hclose : Construct.closeLoop.text.count c = 0 := by
        rcases sign_cases hc with rfl | rfl <;> decide
      rw [Directive.Loop.target, List.count_append, List.count_append, hopen, hclose, Nat.zero_add,
        Nat.add_zero]
      exact (hbody.sublist.trans (((List.sublist_cons_self ':' t).trans
        (List.sublist_cons_self '<' _)))).count_le c
    · exact Nat.le_refl _

theorem count_loopRoundsText_le (hc : isSign c = true) (fuel : Nat) (text : List Char) :
    (loopRoundsText fuel text).count c ≤ text.count c := by
  induction fuel generalizing text with
  | zero => exact Nat.le_refl _
  | succ fuel ih =>
    rw [loopRoundsText]
    split
    · exact Nat.le_refl _
    · exact Nat.le_trans (ih _) (count_loopRound_le hc text)

end

theorem quote_notMem_convertedComments {text : List Char} (h : '"' ∉ text) :
    '"' ∉ convertedComments text := by
  refine fun hmem => h (Recogniser.replace_induction (R := fun new old => '"' ∈ new → '"' ∈ old)
    (fun _ => id) ?_ ?_ text hmem)
  · intro a a' b b' ha hb hmem
    rw [List.mem_append] at hmem ⊢
    exact hmem.imp ha hb
  · intro source rest remark hread hmem
    obtain ⟨inner, rfl, rfl, -⟩ := Directive.exists_source_of_readComment hread
    have hremark : '"' ∈ Text.strip inner := by
      rw [markupComment_eq, List.mem_append, List.mem_append] at hmem
      rcases hmem with (h | h) | h
      · exact absurd h (by decide)
      · exact h
      · exact absurd h (by decide)
    simp [Text.mem_of_mem_strip hremark]

theorem quote_notMem_settledValue {value : List Char} (h : '"' ∉ value) :
    '"' ∉ settledValue value := by
  have hprotected : (protect value).count '"' = 0 :=
    (count_protect (by decide) value).trans (List.count_eq_zero.mpr h)
  refine quote_notMem_convertedComments (List.count_eq_zero.mp (Nat.eq_zero_of_le_zero ?_))
  exact Nat.le_trans (count_loopRoundsText_le rfl _ _) (Nat.le_of_eq hprotected)

/-- There is fuel for every opening mark of a text. -/
theorem marks_lt_length (text : List Char) : marks true text < text.length + 1 :=
  Nat.lt_succ_of_le (Nat.le_trans (marks_le_count true text) List.count_le_length)

/-- A value is delivered as it is written if and only if it has no remark and no loop that is expanded. -/
theorem deliveredValue_eq_self_iff (value : List Char) :
    deliveredValue value = value ↔
      value.count '#' ≤ 1 ∧ loopRound (protect value) = protect value := by
  have hcount := count_protect (c := '#') (by decide) value
  constructor
  · intro h
    have hsigns : value.count '#' ≤ 1 := by
      have hrestored := count_restore (c := '#') (by decide) (by decide) (settledValue value)
      have hconverted := count_convertedComments
        (loopRoundsText ((protect value).length + 1) (protect value))
      rw [deliveredValue] at h
      rw [h, settledValue] at hrestored
      omega
    have hsettled : settledValue value =
        loopRoundsText ((protect value).length + 1) (protect value) := by
      refine convertedComments_eq_self_iff.mpr (Nat.le_trans (count_loopRoundsText_le rfl _ _) ?_)
      rwa [hcount]
    -- the rounds use up the opening mark of every loop that they expand, and restoring makes none
    have hmarks : marks true (settledValue value) = marks true (protect value) := by
      rw [marks_protect, ← (opens_marks_restore _ _).2]
      exact congrArg (marks true) h
    have hspent := spends_loopRoundsText ((protect value).length + 1) (protect value)
    have hsame : loopRoundsText ((protect value).length + 1) (protect value) = protect value := by
      refine hspent.resolve_right fun hfewer => ?_
      have := hfewer.marks_le (Bool.le_refl true)
      rw [← hsettled] at this
      omega
    have hfuel := marks_lt_length (protect value)
    have hround := loopRound_loopRoundsText hfuel
    rw [hsame] at hround
    exact ⟨hsigns, hround⟩
  · rintro ⟨hsigns, hround⟩
    rw [deliveredValue, settledValue, loopRoundsText, if_pos hround,
      convertedComments_eq_self_iff.mpr (by rwa [hcount]), restore_protect]

/-! ### The use of a component with a literal prop -/

/-- `t="value" `. -/
def literalProp (value : List Char) : List Char := ['t', '='] ++ '"' :: (value ++ ['"', ' '])

theorem closedProps_literalProp {value : List Char} (h : '"' ∉ value) :
    ClosedProps (literalProp value) := by
  refine .quoted (fun c hc => ?_) h
  simp only [List.mem_cons, List.not_mem_nil, or_false] at hc
  rcases hc with rfl | rfl <;> decide

/-- What stands in front of the value. -/
def literalFront (name : List Char) : List Char :=
  Directive.opener "component".toList (name ++ [' ', 't', '=', '"'])

theorem useText_literalProp (name value : List Char) :
    useText name (literalProp value) = literalFront name ++ (value ++ ['"', ' ', '>']) := by
  simp [useText, literalProp, literalFront, Directive.opener]

section

variable {name : List Char}

theorem notMem_literalFront {c : Char} (hname : IsTemplateName name)
    (hc : Directive.isNameChar c = false) (hsigns : c ∉ ['<', ':', ' ', '=', '"']) :
    c ∉ literalFront name := by
  have hname := hname.notMem hc
  have ht : c ≠ 't' := by
    rintro rfl
    exact absurd hc (by decide)
  simp only [List.mem_cons, List.not_mem_nil, or_false, not_or] at hsigns
  have hcons : literalFront name = '<' :: (literalFront name).tail := rfl
  rw [hcons, List.mem_cons, not_or]
  exact ⟨hsigns.1, notMem_tail_opener hc (by simp [hsigns]) (by simp [hname, hsigns, ht])⟩

theorem protect_useText_literalProp (hname : IsTemplateName name) (value : List Char) :
    protect (useText name (literalProp value)) = useText name (literalProp (protect value)) := by
  have hfront := protect_eq_self (notMem_literalFront (c := '{') hname (by decide) (by decide))
  rw [useText_literalProp, useText_literalProp, protect_append, protect_append, hfront]
  rfl

/-- A round over the loops of the page is one over the value. -/
theorem loopRound_useText (hname : IsTemplateName name) (value : List Char) :
    loopRound (useText name (literalProp value)) = useText name (literalProp (loopRound value)) := by
  have hangle : '<' ∉ name ++ [' ', 't', '=', '"'] := by
    simp [hname.notMem (c := '<') (by decide)]
  have hfront : Directive.loop.Skips (literalFront name) (value ++ ['"', ' ', '>']) :=
    skips_opener Directive.loop_needsMark
      (Directive.readLoop_opener isName_component (by decide +kernel) _) hangle
  have htail : Directive.loop.Skips ['"', ' ', '>'] [] :=
    (Unmarked.of_notMem (by decide) []).skips Directive.loop_needsMark
  unfold loopRound
  rw [useText_literalProp, useText_literalProp, Recogniser.replace_append_of_skips hfront,
    Recogniser.replace_append_of_stops (Directive.loop_stops (by decide)),
    Recogniser.replace_of_skips htail]

theorem convertedComments_useText (hname : IsTemplateName name) (value : List Char) :
    convertedComments (useText name (literalProp value)) =
      useText name (literalProp (convertedComments value)) := by
  have hfront := skips_comment (notMem_literalFront (c := '#') hname (by decide) (by decide))
    (value ++ ['"', ' ', '>'])
  have htail : Directive.comment.Skips ['"', ' ', '>'] [] := skips_comment (by decide) []
  unfold convertedComments
  rw [useText_literalProp, useText_literalProp, Recogniser.replace_append_of_skips hfront,
    Recogniser.replace_append_of_stops (Directive.comment_stops (by decide)),
    Recogniser.replace_of_skips htail]

theorem useText_literalProp_inj {value value' : List Char}
    (h : useText name (literalProp value) = useText name (literalProp value')) : value = value' := by
  rw [useText_literalProp, useText_literalProp] at h
  exact List.append_cancel_right (List.append_cancel_left h)

theorem loopRoundsText_useText (hname : IsTemplateName name) (fuel : Nat) (value : List Char) :
    loopRoundsText fuel (useText name (literalProp value)) =
      useText name (literalProp (loopRoundsText fuel value)) := by
  induction fuel generalizing value with
  | zero => rfl
  | succ fuel ih =>
    rw [loopRoundsText, loopRoundsText, loopRound_useText hname]
    by_cases hstill : loopRound value = value
    · rw [if_pos (by rw [hstill]), if_pos hstill]
    · rw [if_neg fun he => hstill (useText_literalProp_inj he), if_neg hstill, ih]

/-- More fuel makes no difference where there is enough. -/
theorem loopRoundsText_of_le {fuel more : Nat} (hle : fuel ≤ more) {text : List Char}
    (h : marks true text < fuel) : loopRoundsText more text = loopRoundsText fuel text := by
  obtain ⟨extra, rfl⟩ := Nat.exists_eq_add_of_le hle
  rw [loopRoundsText_add, loopRoundsText_of_still (loopRound_loopRoundsText h)]

/-- The page when its component is read. -/
theorem settled_useText (hname : IsTemplateName name) (value : List Char) :
    let page := protect (useText name (literalProp value))
    convertedComments (loopRoundsText (page.length + 1) page) =
      useText name (literalProp (settledValue value)) := by
  intro page
  have hpage : page = useText name (literalProp (protect value)) :=
    protect_useText_literalProp hname value
  have hlength : (protect value).length + 1 ≤ page.length + 1 := by
    rw [hpage, useText_literalProp]
    simp
    omega
  rw [settledValue, ← convertedComments_useText hname, hpage, loopRoundsText_useText hname, ← hpage,
    loopRoundsText_of_le hlength (marks_lt_length _)]

end

/-! ### The prop -/

theorem isName_t : Text.IsName "t".toList := Text.isName_of_all (by decide) (by decide)

theorem lexProps_literalProp {value : List Char} (h : '"' ∉ value) :
    lexProps (literalProp value) = [.pair ⟨"t", String.ofList value, false⟩] := by
  have hblank : ([] : List Char).all Text.isSpace = true := rfl
  have hspace : [' '].all Text.isSpace = true := rfl
  have hp : PropToken.Spelled ⟨"t", String.ofList value, false⟩ ('t' :: '=' :: '"' :: (value ++ ['"'])) :=
    .intro false isName_t hblank hblank rfl h
  have htiles : PropItem.Tiles [.pair ⟨"t", String.ofList value, false⟩]
      ('t' :: '=' :: '"' :: (value ++ ['"']) ++ [' ']) :=
    .pair hblank hp (.done hspace)
  have htext : literalProp value = 't' :: '=' :: '"' :: (value ++ ['"']) ++ [' '] := by
    simp [literalProp]
  rw [htext]
  exact htiles.lexProps_eq

/-- What the prop comes to: the value for the body, and a literal for the page. -/
def literalBound (value : List Char) : BoundProps :=
  let text := String.ofList (deliveredValue value)
  { values := [(.str "t", .str text)], exprs := [("t", .literal text)] }

theorem bindProps_literalProp {value : List Char} (h : '"' ∉ value) (scope : Scope) (t : Trace) :
    (bindProps scope {} (props (lexProps (literalProp (settledValue value)))) t).1 =
      literalBound value := by
  have ht : isRenderable "t" = true := by decide
  have hprop : bindProp scope {} ⟨"t", String.ofList (settledValue value), false⟩ =
      pure (literalBound value) := by
    simp [bindProp, ht, literalBound, deliveredValue, BoundProps.set, setExpr, Mapping.insert]
  rw [lexProps_literalProp (quote_notMem_settledValue h)]
  change (bindProps scope {} [⟨"t", String.ofList (settledValue value), false⟩] t).1 = _
  rw [bindProps, hprop]
  rfl

/-! ### The page -/

section

variable {lib : Library} {limit : Nat} {component : String} {path : Path} {value : List Char}
  {scope : Scope}

/-- The compiled page. -/
def literalSource (value : List Char) : List Char :=
  Target.boundText "t" (String.ofList (deliveredValue value))

theorem edge_notMem_literalSource {c : Char} (hc : Target.isEdge c = true) (value : List Char) :
    c ∉ literalSource value := by
  have ht : isRenderable "t" = true := by decide
  have hopen : (Construct.openWith (literalBound value).exprs).IsSound := by
    refine ⟨List.cons_ne_nil _ _, fun b hb => ?_⟩
    obtain rfl := List.mem_singleton.mp hb
    exact ⟨ht, trivial⟩
  have hshow : (Construct.show "t").IsSound := ht
  exact List.not_mem_append (Target.edge_notMem_text hc hopen)
    (List.not_mem_append (Target.edge_notMem_text hc hshow)
      (Target.edge_notMem_text hc (k := .closeWith) trivial))

theorem still_literalSource (value : List Char) : Still (literalSource value) := by
  refine ⟨.of_notMem (edge_notMem_literalSource (by decide) value) [], ?_⟩
  rw [List.count_eq_zero.mpr (edge_notMem_literalSource (by decide) value)]
  exact Nat.zero_le 1

/-- The body of the component shows the prop. -/
theorem yields_expandBody_literalProp (hlimit : 2 ≤ limit) (nesting : Nat) (scope : Scope)
    (component : String) (value : List Char) :
    (Compiler.expandBody { library := lib, limit := limit } (nesting + 1)
      (scope.child component (literalBound value).values) (protect (placeholderFor "t"))).Yields
      fun r => r = (Construct.show "t").text := by
  have hT : (Tree.var "t" .done).Valid := by decide
  have hdata : Mapping.contains (scope.child component (literalBound value).values).data
      (.str "t") = true := by
    have hvalues : Mapping.contains (literalBound value).values (.str "t") = true := by
      simp [literalBound, Mapping.contains]
    change Mapping.contains (Mapping.overlay scope.data (literalBound value).values) (.str "t") = true
    rw [Mapping.contains_overlay, hvalues]
    simp
  have hbound : (Tree.var "t" .done).isBoundIn (scope.child component (literalBound value).values)
      "t" = true := by
    simp [Tree.isBoundIn, Scope.isBound, hdata]
  have hprint : placeholderFor "t" = (Tree.var "t" .done).print := (List.append_nil _).symm
  rw [hprint]
  refine yields_expandBody ((Tree.yields_expandWithin hT hlimit nesting _).imp fun r hr => ?_)
  rw [hr, Tree.tagged, variableText, hbound]
  exact List.append_nil _

/-- The use becomes the body with the name of the prop bound around it. -/
theorem yields_includeComponent_literalProp (hlimit : 2 ≤ limit) (hquote : '"' ∉ value)
    (hfresh : component ∉ scope.processed) (hresolve : lib.resolve .component component = .ok path)
    (hread : lib.read path = .ok (placeholderFor "t")) (nesting : Nat) :
    (includeComponent lib (Compiler.expandBody { library := lib, limit := limit } (nesting + 1)) scope
      ⟨component, literalProp (settledValue value)⟩).Yields fun out => out = literalSource value := by
  refine (yields_includeComponent hfresh hresolve hread (bindProps_literalProp hquote scope)
    (yields_expandBody_literalProp hlimit nesting scope component value)).imp fun out hout => ?_
  rw [hout, wrapBody, literalSource, Target.boundText]
  exact List.append_assoc _ _ _

theorem yields_expandWithin_literalProp (hlimit : 2 ≤ limit)
    (hcomponent : IsTemplateName component.toList) (hquote : '"' ∉ value)
    (hscope : scope.processed = []) (hresolve : lib.resolve .component component = .ok path)
    (hread : lib.read path = .ok (placeholderFor "t")) (nesting : Nat) :
    (Compiler.expandWithin { library := lib, limit := limit } (nesting + 2) scope
      (protect (useText component.toList (literalProp value)))).Yields
      fun out => out.2 = literalSource value := by
  have huse : Directive.component.pieces (useText component.toList (literalProp (settledValue value)))
      = [.mark (some ⟨component, literalProp (settledValue value)⟩)
          (useText component.toList (literalProp (settledValue value)))] := by
    have hread := Directive.readComponent_use hcomponent
      (closedProps_literalProp (quote_notMem_settledValue hquote)) []
    have hpieces := Recogniser.pieces_append_of_read hread
    rw [List.append_nil, Recogniser.pieces_nil, String.ofList_toList] at hpieces
    exact hpieces
  have hvariables (s : Scope) :
      Directive.placeholder.replace (placeholderText s) (literalSource value) = literalSource value :=
    Recogniser.replace_of_skips
      ((still_literalSource value).unmarked.skips Directive.placeholder_needsMark)
  obtain ⟨left, rfl⟩ : ∃ left, limit = left + 2 := ⟨limit - 2, by omega⟩
  refine yields_settle_once (P := scope.Beside) ?_
    (fun s _ => yields_pass_still _ (still_literalSource value) s) left
  refine yields_pass rfl (settled_useText hcomponent value) (fun s hs => ?_) fun s _ => hvariables s
  have hfresh : component ∉ s.processed := by
    rw [hs.processed, hscope]
    exact List.not_mem_nil
  rw [huse, ← List.append_nil (literalSource value)]
  exact yields_includeComponents_use
    (yields_includeComponent_literalProp hlimit hquote hfresh hresolve hread nesting)
    (Expansion.yields_pure rfl)

end

/-- The compiled page shows the value that is delivered, whatever the data says of the name. -/
theorem yields_execute_literalSource {data : Mapping} (hdata : Target.hasOnlyNames data = true)
    (backend : Target.Backend) (page : String) (value : List Char) :
    (execute backend (literalSource value) data (some page)).Yields fun shown =>
      shown = Value.display (.str (String.ofList (deliveredValue value))) := by
  intro t
  have hname : isRenderable "t" = true := by decide
  have hread : Target.IsReadable "t".toList := by decide +kernel
  have hrun := Target.run_boundText backend hname hread (String.ofList (deliveredValue value)) (visible data)
  rw [hasOnlyNames_visible, if_pos hdata] at hrun
  refine ⟨_, warned data t, ?_, rfl⟩
  rw [execute_eq_endOf, literalSource, hrun]
  rfl

section

variable {lib : Library} {limit : Nat} {page component : String} {pagePath path : Path}
  {value : List Char}

theorem yields_compile_literalProp (hlimit : 2 ≤ limit) (hcomponent : IsTemplateName component.toList)
    (hquote : '"' ∉ value) (hpage : lib.resolve .template page = .ok pagePath)
    (huse : lib.read pagePath = .ok (useText component.toList (literalProp value)))
    (hlayout :
      Directive.layout.search (protect (useText component.toList (literalProp value))) = none)
    (hresolve : lib.resolve .component component = .ok path)
    (hread : lib.read path = .ok (placeholderFor "t")) (data : Mapping) :
    (Compiler.compile { library := lib, limit := limit } page data none).Yields fun out =>
      out.source = literalSource value :=
  yields_compile (P := fun out => out = literalSource value) hpage huse hlayout
    (yields_expandWithin_literalProp hlimit hcomponent hquote rfl hresolve hread 238)

/-- A page that hands a value to a component which shows it, and declares no layout. The page shows the
value that is delivered, and that is the value as it is written if and only if it has no remark and no loop
that is expanded. -/
theorem compile_execute_literalProp (hlimit : 2 ≤ limit)
    (hcomponent : IsTemplateName component.toList) (hquote : '"' ∉ value)
    (hpage : lib.resolve .template page = .ok pagePath)
    (huse : lib.read pagePath = .ok (useText component.toList (literalProp value)))
    (hlayout :
      Directive.layout.search (protect (useText component.toList (literalProp value))) = none)
    (hresolve : lib.resolve .component component = .ok path)
    (hread : lib.read path = .ok (placeholderFor "t")) (data : Mapping)
    (hdata : Target.hasOnlyNames data = true) :
    ((Compiler.compile { library := lib, limit := limit } page data none).Yields fun out =>
      ∀ backend, (execute backend out.source data (some page)).Yields fun shown =>
        shown = Value.display (.str (String.ofList (deliveredValue value)))) ∧
    (deliveredValue value = value ↔
      value.count '#' ≤ 1 ∧ loopRound (protect value) = protect value) := by
  have hcompile :=
    yields_compile_literalProp hlimit hcomponent hquote hpage huse hlayout hresolve hread data
  refine ⟨hcompile.imp fun out hout backend => ?_, deliveredValue_eq_self_iff value⟩
  rw [hout]
  exact yields_execute_literalSource hdata backend page value

end

/-- A page, and the component that it uses. -/
def shownTexts (page : String) : List ((TemplateKind × String) × String) :=
  [((.template, "page"), page), ((.component, "c"), "<: t :>")]

/-- A value with braces, markup, a directive and a number sign is shown as it is written. -/
theorem compile_execute_literalProp_markup :
    let lib := Library.ofTexts (shownTexts "<: component c t=\"<: x :> \x7b% y %\x7d & \\ #1\" >")
    (Compiler.compile { library := lib } "page" [] none).Yields fun out =>
      ∀ backend, (execute backend out.source [] (some "page")).Yields fun shown =>
        shown = "&lt;: x :&gt; \x7b% y %\x7d &amp; \\ #1".toList := by
  intro lib
  have huse : lib.read ⟨"", ["template", "page"]⟩ =
      .ok (useText "c".toList (literalProp "<: x :> \x7b% y %\x7d & \\ #1".toList)) :=
    congrArg Except.ok (by decide +kernel)
  have hread : lib.read ⟨"", ["component", "c"]⟩ = .ok (placeholderFor "t") :=
    congrArg Except.ok (by decide +kernel)
  have hshown := (compile_execute_literalProp (show 2 ≤ 100 by decide) ⟨by decide, by decide⟩
    (by decide +kernel) (rfl : lib.resolve .template "page" = _) huse (by decide +kernel)
    (rfl : lib.resolve .component "c" = _) hread [] rfl).1
  have hvalue : Value.display
      (.str (String.ofList (deliveredValue "<: x :> \x7b% y %\x7d & \\ #1".toList))) =
      "&lt;: x :&gt; \x7b% y %\x7d &amp; \\ #1".toList := by decide +kernel
  rwa [hvalue] at hshown

/-- Between two number signs a value is shown as a comment. -/
theorem compile_execute_literalProp_remark :
    let lib := Library.ofTexts (shownTexts "<: component c t=\"# a #\" >")
    (Compiler.compile { library := lib } "page" [] none).Yields fun out =>
      ∀ backend, (execute backend out.source [] (some "page")).Yields fun shown =>
        shown = "&lt;!-- a --&gt;".toList := by
  intro lib
  have huse : lib.read ⟨"", ["template", "page"]⟩ =
      .ok (useText "c".toList (literalProp "# a #".toList)) :=
    congrArg Except.ok (by decide +kernel)
  have hread : lib.read ⟨"", ["component", "c"]⟩ = .ok (placeholderFor "t") :=
    congrArg Except.ok (by decide +kernel)
  have hcompile := yields_compile_literalProp (show 2 ≤ 100 by decide) ⟨by decide, by decide⟩
    (by decide +kernel) (rfl : lib.resolve .template "page" = _) huse (by decide +kernel)
    (rfl : lib.resolve .component "c" = _) hread []
  have hvalue : Value.display (.str (String.ofList (deliveredValue "# a #".toList))) =
      "&lt;!-- a --&gt;".toList := by decide +kernel
  refine hcompile.imp fun out hout backend => ?_
  rw [hout, ← hvalue]
  exact yields_execute_literalSource rfl backend "page" "# a #".toList

end Stencil.Template
