import Stencil.Proofs.Template.Uses

/-! A page with several uses of one component. The bodies are put into the page as they are, and the next
pass reads the page as a whole: lone number signs of different bodies pair off there. -/
namespace Stencil.Template

open Text (Piece Recogniser)

/-- Segments with one text between each two of them. -/
def between (mid first : List Char) (rest : List (List Char)) : List Char :=
  first ++ rest.flatMap fun s => mid ++ s

/-- The parts of a page of segments with one component between each two of them. -/
def siblingParts (name first : List Char) (rest : List (List Char)) : List Part :=
  .text first :: rest.flatMap fun s => [.use name, .text s]

section

variable {name body first : List Char} {rest : List (List Char)}

theorem print_siblingParts :
    (siblingParts name first rest).flatMap Part.print = between (useText name []) first rest := by
  rw [siblingParts, between, List.flatMap_cons]
  congr 1
  induction rest with
  | nil => rfl
  | cons s rest ih =>
    rw [List.flatMap_cons, List.flatMap_append, ih, List.flatMap_cons]
    simp [Part.print]

/-- The page with a protected body in the place of every use. -/
theorem fill_siblingParts :
    ((siblingParts name first rest).map Part.guarded).flatMap (Part.fill fun _ => protect body) =
      protect (between body first rest) := by
  rw [siblingParts, between, List.map_cons, List.flatMap_cons, protect_append]
  congr 1
  induction rest with
  | nil => rfl
  | cons s rest ih =>
    rw [List.flatMap_cons, List.map_append, List.flatMap_append, ih, List.flatMap_cons,
      protect_append, protect_append]
    simp [Part.guarded, Part.fill]

theorem isPlain_siblingParts (hname : IsTemplateName name)
    (hplain : ∀ s ∈ first :: rest, '<' ∉ s) :
    ∀ part ∈ siblingParts name first rest, part.IsPlain := by
  intro part hpart
  rcases List.mem_cons.mp hpart with rfl | hpart
  · exact hplain first List.mem_cons_self
  · obtain ⟨s, hs, hpart⟩ := List.mem_flatMap.mp hpart
    simp only [List.mem_cons, List.not_mem_nil, or_false] at hpart
    rcases hpart with rfl | rfl
    · exact hname
    · exact hplain s (List.mem_cons_of_mem first hs)

theorem eq_of_use_mem {w : List Char}
    (h : .use w ∈ (siblingParts name first rest).map Part.guarded) : w = name := by
  obtain ⟨part, hpart, hguarded⟩ := List.mem_map.mp h
  cases part with
  | text s => cases hguarded
  | use v =>
    cases hguarded
    rcases List.mem_cons.mp hpart with he | hpart
    · cases he
    · obtain ⟨s, _, hpart⟩ := List.mem_flatMap.mp hpart
      simpa using hpart

/-- The page has as many number signs as its bodies have together. -/
theorem count_between (hsign : ∀ s ∈ first :: rest, '#' ∉ s) :
    (between body first rest).count '#' = rest.length * body.count '#' := by
  rw [between, List.count_append, List.count_eq_zero.mpr (hsign first List.mem_cons_self),
    Nat.zero_add]
  have hrest : ∀ s ∈ rest, '#' ∉ s := fun s hs => hsign s (List.mem_cons_of_mem first hs)
  clear hsign
  induction rest with
  | nil => simp
  | cons s rest ih =>
    have hs := List.count_eq_zero.mpr (hrest s List.mem_cons_self)
    rw [List.flatMap_cons, List.count_append, List.count_append, hs,
      ih fun t ht => hrest t (List.mem_cons_of_mem s ht), List.length_cons, Nat.succ_mul]
    omega

theorem marks_between {next : Bool} (hbody : ∀ next, marks next body = 0)
    (hplain : ∀ s ∈ first :: rest, '<' ∉ s) : marks next (between body first rest) = 0 := by
  have hrest : marks next (rest.flatMap fun s => body ++ s) = 0 := by
    have hrest : ∀ s ∈ rest, '<' ∉ s := fun s hs => hplain s (List.mem_cons_of_mem first hs)
    clear hplain
    induction rest with
    | nil => rfl
    | cons s rest ih =>
      rw [List.flatMap_cons, marks_append, marks_append, hbody,
        marks_of_notMem (hrest s List.mem_cons_self), ih fun t ht => hrest t (List.mem_cons_of_mem s ht)]
  rw [between, marks_append, hrest, marks_of_notMem (hplain first List.mem_cons_self)]

/-! ### Passes -/

variable {lib : Library} {limit : Nat} {scope : Scope} {path : Path}

/-- What is known of the files: a page of plain segments with a component between them, of which the text
is still by itself. -/
structure Siblings (name body first : List Char) (rest : List (List Char)) : Prop where
  name : IsTemplateName name
  unmarked : ¬ ['<', ':'] <:+: body
  closed : body.getLast? ≠ some '<'
  unpaired : body.count '#' ≤ 1
  plain : ∀ s ∈ first :: rest, '<' ∉ s ∧ '#' ∉ s

namespace Siblings

theorem noAngle (h : Siblings name body first rest) : ∀ s ∈ first :: rest, '<' ∉ s :=
  fun s hs => (h.plain s hs).1

theorem noSign (h : Siblings name body first rest) : ∀ s ∈ first :: rest, '#' ∉ s :=
  fun s hs => (h.plain s hs).2

theorem still_body (h : Siblings name body first rest) : Still (protect body) := by
  refine ⟨Unmarked.protect h.unmarked nofun, ?_⟩
  rw [count_protect (by decide)]
  exact h.unpaired

theorem marks_spliced (h : Siblings name body first rest) :
    marks true (protect (between body first rest)) = 0 := by
  rw [marks_protect]
  exact marks_between (fun _ => marks_eq_zero h.unmarked h.closed) h.noAngle

theorem unmarked_converted (h : Siblings name body first rest) :
    Unmarked (convertedComments (protect (between body first rest))) [] := by
  refine unmarked_of_marks (Nat.eq_zero_of_le_zero ?_)
  have := (fewer_convertedComments (protect (between body first rest))).marks_le
    (Bool.le_refl true)
  rwa [h.marks_spliced] at this

theorem sign_notMem_page (h : Siblings name body first rest) :
    '#' ∉ protect (between (useText name []) first rest) := by
  have huse : (useText name []).count '#' = 0 := List.count_eq_zero.mpr
    (notMem_useText (by decide) (by decide) h.name List.not_mem_nil)
  rw [← List.count_eq_zero, count_protect (by decide), count_between h.noSign, huse, Nat.mul_zero]

/-- The first pass puts the bodies in place. -/
theorem yields_firstPass (h : Siblings name body first rest) (hlimit : 1 ≤ limit)
    (hscope : scope.processed = [])
    (hresolve : lib.resolve .component (String.ofList name) = .ok path)
    (hread : lib.read path = .ok body) (nesting : Nat) :
    (Compiler.passWithin { library := lib, limit := limit } (nesting + 1) scope
      (protect (between (useText name []) first rest))).Yields
      fun r => scope.Beside r.1 ∧ r.2 = protect (between body first rest) := by
  have hplain := isPlain_siblingParts h.name h.noAngle
  have hsign := h.sign_notMem_page
  have hdone := unmarked_of_marks h.marks_spliced
  rw [← print_siblingParts, protect_parts hplain] at hsign ⊢
  have hfill := @fill_siblingParts name body first rest
  rw [← hfill] at hdone ⊢
  refine yields_pass_parts (isPlain_guarded hplain) hsign (fun s hs use huse => ?_) hdone
  obtain rfl := eq_of_use_mem huse
  have hfresh : String.ofList use ∉ s.processed := by
    rw [hs.processed, hscope]
    exact List.not_mem_nil
  refine yields_includeComponent_bare hfresh hresolve hread (by simp [lexProps, props]) ?_
  exact yields_expandBody (yields_expandWithin_still hlimit h.still_body nesting _)

/-- The second pass converts the remarks that the bodies make up together. -/
theorem yields_laterPass {expand : Scope → List Char → Expansion (List Char)}
    (h : Siblings name body first rest) (scope : Scope) :
    (runStages (Compiler.stages { library := lib, limit := limit } expand) scope
      (protect (between body first rest))).Yields
      fun r => scope.Beside r.1 ∧
        r.2 = convertedComments (protect (between body first rest)) :=
  yields_pass_unmarked limit (unmarked_of_marks h.marks_spliced) h.unmarked_converted scope

theorem still_converted (h : Siblings name body first rest) :
    Still (convertedComments (protect (between body first rest))) := by
  refine ⟨h.unmarked_converted, ?_⟩
  rw [count_convertedComments]
  omega

/-- A page that the first pass does not change has no remark either. -/
theorem converted_of_unmoved (h : Siblings name body first rest)
    (hsame : protect (between body first rest) = protect (between (useText name []) first rest)) :
    convertedComments (protect (between body first rest)) = protect (between body first rest) := by
  refine convertedComments_eq_self ?_
  rw [hsame]
  exact h.sign_notMem_page

/-- With passes enough for the remarks, the page comes to its bodies with the remarks converted. -/
theorem yields_expandWithin (h : Siblings name body first rest) (hlimit : 2 ≤ limit)
    (hpasses : 3 ≤ limit ∨
      convertedComments (protect (between body first rest)) = protect (between body first rest))
    (hscope : scope.processed = [])
    (hresolve : lib.resolve .component (String.ofList name) = .ok path)
    (hread : lib.read path = .ok body) (nesting : Nat) :
    (Compiler.expandWithin { library := lib, limit := limit } (nesting + 2) scope
      (protect (between (useText name []) first rest))).Yields
      fun out => out.2 = convertedComments (protect (between body first rest)) := by
  have hfirst := h.yields_firstPass (show 1 ≤ limit by omega) hscope hresolve hread nesting
  obtain ⟨left, rfl⟩ : ∃ left, limit = left + 2 := ⟨limit - 2, by omega⟩
  by_cases hsame : protect (between body first rest) =
      protect (between (useText name []) first rest)
  · have hstill := hfirst.imp fun r hr => hr.2.trans hsame
    rw [h.converted_of_unmoved hsame, hsame]
    exact yields_settle_still hstill (left + 1)
  refine yields_settle_step hfirst (fun r hr => by rwa [hr.2]) ?_
  rintro ⟨s, _⟩ ⟨-, rfl⟩
  cases left with
  | zero =>
    have hdone := hpasses.resolve_left (by omega)
    rw [hdone]
    exact yields_settle_still ((h.yields_laterPass s).imp fun r hr => hr.2.trans hdone) 0
  | succ left =>
    refine yields_settle_once (P := fun _ => True) ?_ (fun s' _ => ?_) left
    · exact (h.yields_laterPass s).imp fun r hr => ⟨trivial, hr.2⟩
    · exact yields_pass_still _ h.still_converted s'

/-- Two passes are too few if the bodies have a remark together. -/
theorem fails_expandWithin (h : Siblings name body first rest)
    (hremark : convertedComments (protect (between body first rest)) ≠
      protect (between body first rest)) (hscope : scope.processed = [])
    (hresolve : lib.resolve .component (String.ofList name) = .ok path)
    (hread : lib.read path = .ok body) (nesting : Nat) :
    (Compiler.expandWithin { library := lib, limit := 2 } (nesting + 2) scope
      (protect (between (useText name []) first rest))).Fails
      (.expansionLimit scope.templateName 2 scope.depth) := by
  have hfirst := h.yields_firstPass (show 1 ≤ 2 by omega) hscope hresolve hread nesting
  have hmoves : protect (between body first rest) ≠
      protect (between (useText name []) first rest) :=
    fun hsame => hremark (h.converted_of_unmoved hsame)
  refine fails_settle_step hfirst (fun r hr => by rwa [hr.2]) ?_
  rintro ⟨s, _⟩ ⟨hs, rfl⟩
  refine fails_settle_step (h.yields_laterPass s) (fun r hr => by rwa [hr.2]) ?_
  rintro ⟨s', _⟩ ⟨hs', rfl⟩
  rw [← (hs.trans hs').templateName, ← (hs.trans hs').depth]
  exact Expansion.fails_throw _

/-- The bodies have a remark together if each has a lone number sign and there are two of them. -/
theorem converted_eq_self_iff (h : Siblings name body first rest) :
    convertedComments (protect (between body first rest)) = protect (between body first rest) ↔
      '#' ∉ body ∨ rest.length ≤ 1 := by
  rw [convertedComments_eq_self_iff, count_protect (by decide), count_between h.noSign,
    ← List.count_eq_zero]
  have hone := h.unpaired
  generalize body.count '#' = signs at hone ⊢
  obtain rfl | rfl : signs = 0 ∨ signs = 1 := by omega
  · simp
  · simp

/-- The page declares no layout. -/
theorem search_layout (h : Siblings name body first rest) :
    Directive.layout.search (protect (between (useText name []) first rest)) = none := by
  have hplain := isPlain_siblingParts h.name h.noAngle
  rw [← print_siblingParts, protect_parts hplain]
  exact search_layout_parts (isPlain_guarded hplain)

end Siblings

end

/-- A page of segments with uses of one component between them, where neither text has a remark or a
directive of its own. The page comes to the segments with the bodies between them, and the remarks of that
text converted; those are there, whenever the body has a number sign, from the second use on. They take
passes of their own, so that two passes are too few for them. -/
theorem compile_siblings {lib : Library} {limit : Nat} {page component : String}
    {pagePath path : Path} {body first : List Char} {rest : List (List Char)}
    (h : Siblings component.toList body first rest) (hlimit : 2 ≤ limit)
    (hpage : lib.resolve .template page = .ok pagePath)
    (hsegments : lib.read pagePath = .ok (between (useText component.toList []) first rest))
    (hresolve : lib.resolve .component component = .ok path) (hread : lib.read path = .ok body)
    (data : Mapping) :
    let c : Compiler := { library := lib, limit := limit }
    let spliced := protect (between body first rest)
    (3 ≤ limit ∨ convertedComments spliced = spliced →
      (c.compile page data none).Yields fun out => out.source = convertedComments spliced) ∧
    (limit = 2 → convertedComments spliced ≠ spliced →
      (c.compile page data none).Fails (.expansionLimit page 2 0)) ∧
    (convertedComments spliced = spliced ↔ '#' ∉ body ∨ rest.length ≤ 1) := by
  intro c spliced
  have hcomponent : lib.resolve .component (String.ofList component.toList) = .ok path := by
    rwa [String.ofList_toList]
  refine ⟨fun hpasses => ?_, fun htwo hremark => ?_, h.converted_eq_self_iff⟩
  · exact yields_compile (P := fun out => out = convertedComments spliced) hpage hsegments
      h.search_layout (h.yields_expandWithin hlimit hpasses rfl hcomponent hread 238)
  · subst htwo
    exact fails_compile hpage hsegments h.search_layout
      (h.fails_expandWithin hremark rfl hcomponent hread 238)

def issueTexts : List ((TemplateKind × String) × String) :=
  [((.template, "page"), "a<: component c >b<: component c >d"),
   ((.component, "c"), "issue #42")]

theorem compile_siblings_issue :
    (Compiler.compile { library := .ofTexts issueTexts, limit := 3 } "page" [] none).Yields
      fun out => out.source = "aissue <!-- 42bissue -->42d".toList := by
  have h : Siblings "c".toList "issue #42".toList ['a'] [['b'], ['d']] :=
    ⟨⟨by decide, by decide⟩, by decide +kernel, by decide +kernel, by decide +kernel, by decide⟩
  have htext : "a<: component c >b<: component c >d".toList =
      between (useText "c".toList []) ['a'] [['b'], ['d']] := by decide +kernel
  have hsegments : (Library.ofTexts issueTexts).read ⟨"", ["template", "page"]⟩ =
      .ok (between (useText "c".toList []) ['a'] [['b'], ['d']]) := congrArg Except.ok htext
  have hpage : (Library.ofTexts issueTexts).resolve .template "page" =
      .ok ⟨"", ["template", "page"]⟩ := rfl
  have hcomponent : (Library.ofTexts issueTexts).resolve .component "c" =
      .ok ⟨"", ["component", "c"]⟩ := rfl
  have hread : (Library.ofTexts issueTexts).read ⟨"", ["component", "c"]⟩ =
      .ok "issue #42".toList := rfl
  have hsource : convertedComments (protect (between "issue #42".toList ['a'] [['b'], ['d']])) =
      "aissue <!-- 42bissue -->42d".toList := by decide +kernel
  have hsiblings :=
    (compile_siblings h (show 2 ≤ 3 by decide) hpage hsegments hcomponent hread []).1
  rw [hsource] at hsiblings
  exact hsiblings (.inl (by decide))

end Stencil.Template
