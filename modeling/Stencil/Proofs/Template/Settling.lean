import Stencil.Proofs.Template.Lightening
import Stencil.Proofs.Template.Uses

/-! Expansion settles under a limit that depends on the files alone, if no component leaves an opening mark
behind. Where components do, the pieces that they leave can make up new uses for ever. -/
namespace Stencil.Template

open Text (Piece Recogniser)

variable {lib : Library} {expand : Scope → List Char → Expansion (List Char)} {E : Error → Prop}

/-! ### Components of text and uses -/

theorem ends_includeComponents_closed (hfault : ∀ e, lib.Fault e → E e)
    (hexpand : Closes lib expand E) (scope : Scope)
    {pieces : List (Piece (Option Directive.ComponentUse))} (hchar : .char '<' ∉ pieces)
    (hmark : ∀ use source, .mark use source ∈ pieces → ∃ u, use = some u ∧ '<' ∉ u.name.toList) :
    (includeComponents lib expand scope pieces).Ends (fun out => ∀ next, marks next out = 0) E := by
  induction pieces with
  | nil => exact Expansion.ends_pure fun _ => rfl
  | cons piece pieces ih =>
    rw [List.mem_cons, not_or] at hchar
    have hrest := ih hchar.2 fun use source hmem => hmark use source (List.mem_cons_of_mem _ hmem)
    cases piece with
    | char c =>
      have hc : c ≠ '<' := fun he => hchar.1 (by rw [he])
      exact hrest.bind fun out hout => Expansion.ends_pure fun next => by simp [marks, hc, hout]
    | mark use source =>
      obtain ⟨u, rfl, hname⟩ := hmark use source List.mem_cons_self
      refine (ends_includeComponent hfault hexpand scope hname).bind fun mine hmine => ?_
      refine hrest.bind fun out hout => Expansion.ends_pure fun next => ?_
      rw [marks_append, hmine, hout]

theorem Part.IsPlain.closed {part : Part} (h : part.IsPlain) :
    .char '<' ∉ part.pieces ∧ ∀ use source, .mark use source ∈ part.pieces →
      ∃ u, use = some u ∧ '<' ∉ u.name.toList := by
  cases part with
  | text s =>
    constructor
    · intro hmem
      obtain ⟨c, hc, he⟩ := List.mem_map.mp hmem
      cases he
      exact h hc
    · intro use source hmem
      obtain ⟨c, _, he⟩ := List.mem_map.mp hmem
      cases he
  | use name =>
    constructor
    · intro hmem
      cases List.mem_singleton.mp hmem
    · intro use source hmem
      cases List.mem_singleton.mp hmem
      exact ⟨_, rfl, by simpa using IsTemplateName.notMem h (c := '<') (by decide)⟩

/-- One pass over a text of plain parts leaves no mark open. -/
theorem ends_pass_parts (hfault : ∀ e, lib.Fault e → E e) (hexpand : Closes lib expand E)
    (limit : Nat) (scope : Scope) {parts : List Part} (h : ∀ part ∈ parts, part.IsPlain)
    (hsign : '#' ∉ parts.flatMap Part.print) :
    (runStages (Compiler.stages { library := lib, limit := limit } expand) scope
      (parts.flatMap Part.print)).Ends (fun out => marks true out.2 = 0) E := by
  refine ends_runStages_cons (P := fun out => out.2 = parts.flatMap Part.print) ?_ ?_
  · refine Expansion.ends_lift fun t => ?_
    rw [expandLoops_text, loopRoundsText, if_pos (loopRound_parts h)]
  rintro ⟨s, _⟩ rfl
  refine ends_runStages_cons (P := fun out => out = (s, parts.flatMap Part.print)) ?_ ?_
  · exact Expansion.ends_lift fun t => congrArg (s, ·) (convertedComments_eq_self hsign)
  rintro _ rfl
  refine ends_runStages_cons (P := fun out => marks true out.2 = 0) ?_ fun out hout => ?_
  · have hmem {piece : Piece (Option Directive.ComponentUse)}
        (hp : piece ∈ parts.flatMap Part.pieces) :
        ∃ part : Part, part.IsPlain ∧ piece ∈ part.pieces := by
      obtain ⟨part, hpart, hpiece⟩ := List.mem_flatMap.mp hp
      exact ⟨part, h part hpart, hpiece⟩
    have hchar : .char '<' ∉ parts.flatMap Part.pieces := by
      intro hp
      obtain ⟨part, hplain, hp⟩ := hmem hp
      exact hplain.closed.1 hp
    dsimp only [resolveComponents]
    rw [pieces_parts h]
    refine (ends_includeComponents_closed hfault hexpand s hchar fun use source hp => ?_).bind
      fun out hout => Expansion.ends_pure (hout true)
    obtain ⟨part, hplain, hp⟩ := hmem hp
    exact hplain.closed.2 use source hp
  refine ends_runStages_cons (P := fun r => marks true r.2 = 0) ?_ fun r hr =>
    Expansion.ends_pure hr
  refine Expansion.ends_lift fun t => ?_
  rw [substituteVariables_text]
  have := (spends_placeholders out.1 out.2).fewer.marks_le (Bool.le_refl true)
  rw [hout] at this
  exact Nat.eq_zero_of_le_zero this

/-- A text without marks gets none. -/
theorem Lightens.marks_eq_zero {new old : List Char} (h : Lightens new old)
    (hold : marks true old = 0) : marks true new = 0 := by
  rcases h with rfl | h
  · exact hold
  · unfold weight at h
    split at h <;> split at h <;> omega

theorem ends_settle_closed {pass : Scope → List Char → Expansion (Scope × List Char)}
    (hpass : ∀ scope text, (pass scope text).Ends (fun out => Lightens out.2 text) fun _ => True)
    (limit left : Nat) (scope : Scope) {text : List Char} (h : marks true text = 0) :
    (settle pass limit left scope text).Ends (fun out => marks true out.2 = 0) fun _ => True := by
  induction left generalizing scope text with
  | zero => exact Expansion.ends_throw trivial
  | succ left ih =>
    refine (hpass scope text).bind fun out hout => Expansion.ends_lift_bind fun _ => ?_
    split
    · exact Expansion.ends_lift_bind fun _ => Expansion.ends_pure (hout.marks_eq_zero h)
    · exact ih out.1 (hout.marks_eq_zero h)

/-- Components of plain parts leave no mark open. -/
theorem isTidy_of_parts (h : ∀ source, lib.Holds .component source →
    ∃ parts : List Part, source = parts.flatMap Part.print ∧ (∀ part ∈ parts, part.IsPlain) ∧
      '#' ∉ source) : lib.IsTidy := by
  intro limit nesting
  have hfault (e : Error) (_ : lib.Fault e) : True := trivial
  suffices hbody : ∀ scope source, lib.Holds .component source →
      (Compiler.expandWithin { library := lib, limit := limit } nesting scope (protect source)).Ends
        (fun out => marks true out.2 = 0) fun _ => True from
    fun scope source hsource => (hbody scope source hsource).toEnsures
  induction nesting with
  | zero => exact fun _ _ _ => Expansion.ends_throw trivial
  | succ nesting ih =>
    intro scope source hsource
    obtain ⟨parts, rfl, hplain, hsign⟩ := h source hsource
    have hexpand : Closes lib (Compiler.expandBody { library := lib, limit := limit } nesting)
        fun _ => True :=
      fun s source hsource => (ih s source hsource).bind fun out hout => Expansion.ends_pure hout
    have hguarded := isPlain_guarded hplain
    have hsign : '#' ∉ (parts.map Part.guarded).flatMap Part.print := by
      rw [← protect_parts hplain, ← List.count_eq_zero, count_protect (by decide)]
      exact List.count_eq_zero.mpr hsign
    rw [protect_parts hplain]
    have hpass (s : Scope) (t : List Char) :=
      ends_runStages (isLightening_stages limit hfault hexpand) s t
    cases limit with
    | zero => exact Expansion.ends_throw trivial
    | succ left =>
      refine (ends_pass_parts hfault hexpand (left + 1) scope hguarded hsign).bind fun out hout =>
        Expansion.ends_lift_bind fun _ => ?_
      split
      · exact Expansion.ends_lift_bind fun _ => Expansion.ends_pure hout
      · exact ends_settle_closed hpass (left + 1) left out.1 hout

/-! ### Pages -/

/-- Each place for content takes in the body once, and has an angle itself. -/
theorem count_fillLayout_le (layout body : List Char) :
    (fillLayout layout body).count '<' ≤ layout.count '<' * (body.count '<' + 1) := by
  refine Recogniser.replace_induction (p := Directive.content) (f := fun _ _ => body)
    (R := fun new old => new.count '<' ≤ old.count '<' * (body.count '<' + 1)) (fun s => ?_)
    (fun {a a' b b'} ha hb => ?_) (fun {source rest _} h => ?_) layout
  · exact Nat.le_mul_of_pos_right _ (Nat.succ_pos _)
  · rw [List.count_append, List.count_append, Nat.add_mul]
    exact Nat.add_le_add ha hb
  · obtain ⟨t, rfl⟩ := Directive.exists_source_of_readContent h
    have : 1 ≤ ('<' :: ':' :: t).count '<' := by simp
    calc body.count '<' ≤ 1 * (body.count '<' + 1) := by omega
      _ ≤ ('<' :: ':' :: t).count '<' * (body.count '<' + 1) := Nat.mul_le_mul_right _ this

theorem compositionOf_count_le {fallback : Option String} {text : List Char} {c : Composition}
    (h : compositionOf fallback text = some c) :
    c.lead.count '<' ≤ text.count '<' ∧ c.body.count '<' ≤ text.count '<' := by
  unfold compositionOf at h
  split at h
  · next hsearch =>
    cases h
    obtain ⟨source, rfl⟩ := Recogniser.search_eq_some hsearch
    simp only [List.count_append]
    omega
  · split at h
    · split at h
      · cases h
      · cases h
        exact ⟨Nat.zero_le _, Nat.le_refl _⟩
    · cases h

/-- How many angles a page in its layout has at most, if no file has more than `most`. -/
def mostComposed (most : Nat) : Nat := most + most * (most + 1)

theorem ends_compose (hfault : ∀ e, lib.Fault e → E e) {most : Nat}
    (hfiles : ∀ kind source, lib.Holds kind source → source.count '<' ≤ most) (scope : Scope)
    {text : List Char} (h : text.count '<' ≤ most) :
    (compose lib scope text).Ends (fun out => out.2.count '<' ≤ mostComposed most) E := by
  unfold compose
  split
  · exact Expansion.ends_pure (Nat.le_trans h (Nat.le_add_right _ _))
  · next c hc =>
    obtain ⟨hlead, hbody⟩ := compositionOf_count_le hc
    refine (ends_load hfault .layout c.layout).bind ?_
    rintro ⟨_, _⟩ ⟨source, hsource, rfl⟩
    refine Expansion.ends_lift_bind fun _ => Expansion.ends_lift_bind fun _ =>
      Expansion.ends_pure ?_
    have hlayout : (protect source).count '<' ≤ most := by
      rw [count_protect (by decide)]
      exact hfiles _ _ hsource
    have hfill : (fillLayout (protect source) c.body).count '<' ≤ most * (most + 1) :=
      Nat.le_trans (count_fillLayout_le _ _) <|
        Nat.mul_le_mul hlayout (Nat.succ_le_succ (Nat.le_trans hbody h))
    rw [List.count_append]
    exact Nat.add_le_add (Nat.le_trans hlead h) hfill

theorem exists_most (lib : Library) (paths : List Path) :
    ∃ most, ∀ path ∈ paths, ∀ source, lib.read path = .ok source → source.count '<' ≤ most := by
  induction paths with
  | nil => exact ⟨0, nofun⟩
  | cons path paths ih =>
    obtain ⟨most, hmost⟩ := ih
    refine ⟨most + ((lib.read path).toOption.getD []).count '<', fun p hp source hread => ?_⟩
    rcases List.mem_cons.mp hp with rfl | hp
    · rw [hread]
      exact Nat.le_add_left _ _
    · exact Nat.le_trans (hmost p hp source hread) (Nat.le_add_right _ _)

/-- For every finite set of files whose components leave no mark open there is a number of passes that is
enough for every page, every layout and all data: compilation then ends with a page, or for another reason
than the number of its passes. -/
theorem exists_limit_of_isTidy (lib : Library) (paths : List Path)
    (hfinite : ∀ path source, lib.read path = .ok source → path ∈ paths) (htidy : lib.IsTidy) :
    ∃ enough, ∀ limit, enough ≤ limit → ∀ name data layout,
      (Compiler.compile { library := lib, limit := limit } name data layout).Ends
        (fun _ => True) fun e => e = .nesting ∨ lib.Fault e := by
  obtain ⟨most, hmost⟩ := exists_most lib paths
  have hfiles (kind : TemplateKind) (source : List Char) (h : lib.Holds kind source) :
      source.count '<' ≤ most := by
    obtain ⟨name, path, -, hread⟩ := h
    exact hmost path (hfinite path source hread) source hread
  have hleast : most ≤ mostComposed most := Nat.le_add_right _ _
  refine ⟨2 * mostComposed most + 2, fun limit hlimit name data layout => ?_⟩
  have hlight {text : List Char} (h : text.count '<' ≤ mostComposed most) : weight text < limit := by
    have := weight_le text
    omega
  have hfault (e : Error) (h : lib.Fault e) : e = .nesting ∨ lib.Fault e := .inr h
  have hcomponents (source : List Char) (h : lib.Holds .component source) :
      weight (protect source) < limit := by
    refine hlight ?_
    rw [count_protect (by decide)]
    exact Nat.le_trans (hfiles _ _ h) hleast
  refine (ends_load hfault .template name).bind ?_
  rintro ⟨path, _⟩ ⟨source, hsource, rfl⟩
  refine Expansion.ends_lift_bind fun _ => ?_
  have hpage : (protect source).count '<' ≤ most := by
    rw [count_protect (by decide)]
    exact hfiles _ _ hsource
  refine (ends_compose hfault hfiles _ hpage).bind fun composed hcomposed => ?_
  have hexpand := ends_expandWithin hfault (.inl rfl) htidy hcomponents nestingLimit composed.1
    (hlight hcomposed)
  refine hexpand.bind fun out _ => Expansion.ends_lift_bind fun _ => ?_
  have hget : (get : Expansion Trace).Ends (fun _ => True) fun e => e = .nesting ∨ lib.Fault e :=
    fun _ => trivial
  exact hget.bind fun _ _ => Expansion.ends_lift_bind fun _ => Expansion.ends_pure trivial

/-- The texts of a page with two components that use each other. -/
def mutualTexts : List ((TemplateKind × String) × String) :=
  [((.template, "page"), "<: component ping >."),
   ((.component, "ping"), "ping <: component pong >"),
   ((.component, "pong"), "pong <: component ping >")]

theorem parts_of_mem_mutualTexts {text : (TemplateKind × String) × String} (h : text ∈ mutualTexts) :
    ∃ parts : List Part, text.2.toList = parts.flatMap Part.print ∧
      (∀ part ∈ parts, part.IsPlain) ∧ '#' ∉ text.2.toList := by
  have hping : IsTemplateName "ping".toList := ⟨by decide, by decide +kernel⟩
  have hpong : IsTemplateName "pong".toList := ⟨by decide, by decide +kernel⟩
  have hplain {a w b : List Char} (ha : '<' ∉ a) (hw : IsTemplateName w) (hb : '<' ∉ b) :
      ∀ part ∈ [Part.text a, .use w, .text b], part.IsPlain := by
    simp only [List.forall_mem_cons, Part.IsPlain, ha, hw, hb]
    simp
  simp only [mutualTexts, List.mem_cons, List.not_mem_nil, or_false] at h
  rcases h with rfl | rfl | rfl
  · exact ⟨_, by decide +kernel, hplain List.not_mem_nil hping (b := ['.']) (by decide),
      by decide +kernel⟩
  · exact ⟨_, by decide +kernel, hplain (a := "ping ".toList) (by decide) hpong List.not_mem_nil,
      by decide +kernel⟩
  · exact ⟨_, by decide +kernel, hplain (a := "pong ".toList) (by decide) hping List.not_mem_nil,
      by decide +kernel⟩

theorem exists_limit_of_isTidy_mutual :
    ∃ enough, ∀ limit, enough ≤ limit → ∀ name data layout,
      (Compiler.compile { library := .ofTexts mutualTexts, limit := limit } name data layout).Ends
        (fun _ => True) fun e => e = .nesting ∨ (Library.ofTexts mutualTexts).Fault e := by
  refine exists_limit_of_isTidy _ (mutualTexts.map fun text => ⟨"", [text.1.1.name, text.1.2]⟩)
    (fun path source hread => ?_) (isTidy_of_parts fun source hsource => ?_)
  · obtain ⟨text, htext, rfl, -⟩ := Library.exists_text_of_read hread
    exact List.mem_map_of_mem htext
  · obtain ⟨name, path, -, hread⟩ := hsource
    obtain ⟨text, htext, -, rfl⟩ := Library.exists_text_of_read hread
    exact parts_of_mem_mutualTexts htext

/-! ### Components that leave marks open -/

/-- The text of one component: its only use has no end, since the quote in it is open. -/
def openQuote : List Char := Directive.opener "component".toList ['z', ' ', '"']

/-- The text of another component. Behind the first it closes the quote, and what is left is a use of the
second. -/
def closeQuote : List Char :=
  Directive.opener "component".toList ['z', ' ', '"', ' ', '>'] ++ (useText ['c'] [] ++ ['a'])

/-- A page with a use of each, and then some letters. -/
def regrown (k : Nat) : List Char :=
  useText ['z'] ('"' :: (openQuote ++ [' '])) ++ (useText ['c'] [] ++ List.replicate k 'a')

/-- What the two uses come to is a use of each again, and a letter more. -/
theorem openQuote_append_closeQuote (k : Nat) :
    openQuote ++ (closeQuote ++ List.replicate k 'a') = regrown (k + 1) := by
  have hfront : openQuote ++ closeQuote =
      useText ['z'] ('"' :: (openQuote ++ [' '])) ++ (useText ['c'] [] ++ ['a']) := by
    decide +kernel
  rw [← List.append_assoc, hfront, regrown, List.replicate_succ]
  simp only [List.append_assoc, List.singleton_append]

def fragmentTexts : List ((TemplateKind × String) × String) :=
  [((.template, "page"), "<: component z \"<: component z \" ><: component c >"),
   ((.component, "z"), "<: component z \""),
   ((.component, "c"), "<: component z \" ><: component c >a")]

theorem skips_regrown {α : Type} {p : Recogniser α} (hp : NeedsMark p)
    (hread : ∀ c s, Unicode.isWord c = true →
      p.read (Directive.opener "component".toList (c :: s)) = none) (k : Nat) :
    p.Skips (regrown k) [] := by
  have hletters : '<' ∉ List.replicate k 'a' := fun hmem =>
    absurd (List.eq_of_mem_replicate hmem) (by decide)
  have hopener {c : Char} {u s : List Char} (hc : Unicode.isWord c = true) (hu : '<' ∉ c :: u) :
      p.Skips (Directive.opener "component".toList (c :: u)) s :=
    skips_opener hp (hread c _ hc) hu
  have hfront : useText ['z'] ('"' :: (openQuote ++ [' '])) ++ useText ['c'] [] =
      openQuote ++ (Directive.opener "component".toList ['z', ' ', '"', ' ', '>'] ++
        Directive.opener "component".toList ['c', ' ', '>']) := by decide +kernel
  rw [regrown, ← List.append_assoc, hfront]
  refine Recogniser.skips_append ?_ ((Unmarked.of_notMem hletters []).skips hp)
  refine Recogniser.skips_append (hopener (by decide) (by decide)) ?_
  exact Recogniser.skips_append (hopener (by decide) (by decide)) (hopener (by decide) (by decide))

/-- A text that is nothing but a use without an end. -/
structure IsEndless (text : List Char) : Prop where
  unlooped : loopRound text = text
  unsigned : '#' ∉ text
  pieces : Directive.component.pieces text = [.mark none text]
  placeholders : Directive.placeholder.pieces text = text.map .char

theorem isEndless_openQuote : IsEndless openQuote :=
  ⟨by decide +kernel, by decide +kernel, by decide +kernel, by decide +kernel⟩

theorem isEndless_closeQuote : IsEndless closeQuote :=
  ⟨by decide +kernel, by decide +kernel, by decide +kernel, by decide +kernel⟩

/-- Such a text stays as it is. -/
theorem IsEndless.yields_expandWithin {limit : Nat} (hlimit : 1 ≤ limit) {text : List Char}
    (h : IsEndless text) (nesting : Nat) (scope : Scope) :
    (Compiler.expandWithin { library := lib, limit := limit } (nesting + 1) scope text).Yields
      fun out => out.2 = text := by
  obtain ⟨left, rfl⟩ : ∃ left, limit = left + 1 := ⟨limit - 1, by omega⟩
  have hrounds : loopRoundsText (text.length + 1) text = text := by
    rw [loopRoundsText, if_pos h.unlooped]
  have hcomponents {expand : Scope → List Char → Expansion (List Char)} (s : Scope)
      (_ : scope.Beside s) :
      (includeComponents lib expand s (Directive.component.pieces text)).Yields
        fun r => r = text := by
    have hnil : (includeComponents lib expand s []).Yields fun out => out = [] :=
      Expansion.yields_pure rfl
    rw [h.pieces]
    exact hnil.bind fun out hout => Expansion.yields_pure (by rw [hout, List.append_nil])
  have hvariables (s : Scope) (_ : scope.Beside s) :
      Directive.placeholder.replace (placeholderText s) text = text := by
    rw [Recogniser.replace_eq_flatMap, h.placeholders, Text.Piece.flatMap_put_char]
  exact yields_settle_still ((yields_pass hrounds (convertedComments_eq_self h.unsigned) hcomponents
    hvariables).imp fun _ hr => hr.2) left

/-- A component of such a text becomes that text, whatever stands in the place of the props. -/
theorem IsEndless.yields_includeComponent {limit : Nat} (hlimit : 1 ≤ limit) {text : List Char}
    (h : IsEndless text) (hbrace : '{' ∉ text) {use : Directive.ComponentUse} {path : Path}
    {scope : Scope} (hfresh : use.name ∉ scope.processed)
    (hresolve : lib.resolve .component use.name = .ok path) (hread : lib.read path = .ok text)
    (hprops : props (lexProps use.props) = []) (nesting : Nat) :
    (includeComponent lib (Compiler.expandBody { library := lib, limit := limit } (nesting + 1))
      scope use).Yields fun out => out = text := by
  refine yields_includeComponent_bare hfresh hresolve hread hprops ?_
  rw [protect_eq_self hbrace]
  exact yields_expandBody (h.yields_expandWithin hlimit nesting _)

/-- The use that the two components make up has the first of them between its quotes. -/
theorem pieces_regrown (k : Nat) :
    Directive.component.pieces (regrown k) =
      .mark (some ⟨"z", '"' :: (openQuote ++ [' '])⟩) (useText ['z'] ('"' :: (openQuote ++ [' '])))
        :: .mark (some ⟨"c", []⟩) (useText ['c'] []) :: (List.replicate k 'a').map .char := by
  have hz : IsTemplateName ['z'] := ⟨by decide, by decide⟩
  have hc : IsTemplateName ['c'] := ⟨by decide, by decide⟩
  have hquoted : ClosedProps ('"' :: (openQuote ++ [' '])) := by
    have hvalue : '"' ∉ Directive.opener "component".toList ['z', ' '] := by decide +kernel
    have hsplit : '"' :: (openQuote ++ [' ']) =
        [] ++ '"' :: (Directive.opener "component".toList ['z', ' '] ++ ['"', ' ']) := by
      decide +kernel
    rw [hsplit]
    exact .quoted (fun _ h => absurd h List.not_mem_nil) hvalue
  have hletters : '<' ∉ List.replicate k 'a' := fun hmem =>
    absurd (List.eq_of_mem_replicate hmem) (by decide)
  have hrest := Recogniser.pieces_of_skips
    ((Unmarked.of_notMem hletters []).skips Directive.component_needsMark)
  rw [regrown, Recogniser.pieces_append_of_read (Directive.readComponent_use hz hquoted _),
    Recogniser.pieces_append_of_read (Directive.readComponent_use hc .nil _), hrest]
  rfl

/-- A pass over the page makes it a letter longer. -/
theorem yields_pass_regrown {limit : Nat} (hlimit : 1 ≤ limit) (nesting : Nat) {scope : Scope}
    (hscope : scope.processed = []) (k : Nat) :
    (Compiler.passWithin { library := .ofTexts fragmentTexts, limit := limit } (nesting + 1) scope
      (regrown k)).Yields fun r => scope.Beside r.1 ∧ r.2 = regrown (k + 1) := by
  have hround : loopRound (regrown k) = regrown k := Recogniser.replace_of_skips <|
    skips_regrown Directive.loop_needsMark
      (fun _ _ _ => Directive.readLoop_opener isName_component (by decide +kernel) _) k
  have hrounds : loopRoundsText ((regrown k).length + 1) (regrown k) = regrown k := by
    rw [loopRoundsText, if_pos hround]
  have hsign : '#' ∉ regrown k := by
    refine List.not_mem_append (by decide +kernel) (List.not_mem_append (by decide +kernel) ?_)
    exact fun hmem => absurd (List.eq_of_mem_replicate hmem) (by decide)
  have hcomponents (s : Scope) (hs : scope.Beside s) :
      (includeComponents (.ofTexts fragmentTexts)
        (Compiler.expandBody { library := .ofTexts fragmentTexts, limit := limit } (nesting + 1)) s
        (Directive.component.pieces (regrown k))).Yields fun r => r = regrown (k + 1) := by
    have hfresh (name : String) : name ∉ s.processed := by
      rw [hs.processed, hscope]
      exact List.not_mem_nil
    rw [pieces_regrown, ← openQuote_append_closeQuote]
    refine yields_includeComponents_use ?_ <| yields_includeComponents_use ?_ <|
      yields_includeComponents_char s _
    · exact isEndless_openQuote.yields_includeComponent hlimit (by decide +kernel) (hfresh "z") rfl
        rfl (by decide +kernel) nesting
    · exact isEndless_closeQuote.yields_includeComponent hlimit (by decide +kernel) (hfresh "c") rfl
        rfl (by decide +kernel) nesting
  have hvariables (s : Scope) (_ : scope.Beside s) :
      Directive.placeholder.replace (placeholderText s) (regrown (k + 1)) = regrown (k + 1) :=
    Recogniser.replace_of_skips <| skips_regrown Directive.placeholder_needsMark
      (fun _ t hc => Directive.readPlaceholder_opener_word isName_component hc t) (k + 1)
  exact yields_pass hrounds (convertedComments_eq_self hsign) hcomponents hvariables

/-- These files have no such limit: under every one, compilation stops for the number of its passes. -/
theorem fails_compile_fragments (limit : Nat) :
    (Compiler.compile { library := .ofTexts fragmentTexts, limit := limit } "page" [] none).Fails
      (.expansionLimit "page" limit 0) := by
  have hresolve : (Library.ofTexts fragmentTexts).resolve .template "page" =
      .ok ⟨"", ["template", "page"]⟩ := rfl
  have hread : (Library.ofTexts fragmentTexts).read ⟨"", ["template", "page"]⟩ = .ok (regrown 0) :=
    rfl
  refine fails_compile hresolve hread (by decide +kernel) ?_
  have hpage : protect (regrown 0) = regrown 0 := protect_eq_self (by decide +kernel)
  rw [hpage]
  cases limit with
  | zero => exact Expansion.fails_throw _
  | succ left =>
    refine fails_settle (I := fun text => ∃ k, text = regrown k) ?_ (left + 1) (.refl _) ⟨0, rfl⟩
    rintro s _ hs ⟨k, rfl⟩
    refine (yields_pass_regrown (by omega) 238 hs.processed k).imp fun r hr => ?_
    refine ⟨hr.1, ⟨k + 1, hr.2⟩, fun he => ?_⟩
    rw [hr.2] at he
    have := congrArg List.length he
    simp [regrown] at this

/-- So no limit is enough for that page. -/
theorem not_exists_limit_fragments :
    ¬ ∃ limit, (Compiler.compile { library := .ofTexts fragmentTexts, limit := limit } "page" []
      none).Yields fun _ => True := by
  rintro ⟨limit, h⟩
  let t : Trace := { report := { templateName := "page" } }
  obtain ⟨page, t₁, hpage, -⟩ := h t
  obtain ⟨t₂, hfails⟩ := fails_compile_fragments limit t
  rw [hpage] at hfails
  cases hfails

end Stencil.Template
