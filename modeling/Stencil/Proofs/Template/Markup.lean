import Stencil.Proofs.Target.Markup
import Stencil.Proofs.Template.DataNames
import Stencil.Proofs.Template.TiledSource

/-! A page without loops shows one and the same markup whatever the values of its data are: compilation
looks at the names of the data only, and a run escapes what it shows. -/
namespace Stencil.Template

open Target (RunAlike Construct)

/-- A page compiled and run against the same data. -/
def Compiler.render (c : Compiler) (backend : Target.Backend) (name : String) (data : Mapping)
    (layout : Option String) : Expansion (List Char) := do
  let page ← c.compile name data layout
  execute backend page.source data (some name)

/-- Whether a text has no loops and, if it prints a brace, no name that shares the slot of the brace. -/
def IsUnlooped (source : List Char) : Prop :=
  ∀ k ∈ Target.tags source, k.IsUnlooped (Construct.brace ∈ Target.tags source)

instance (braced : Prop) [Decidable braced] (k : Construct) : Decidable (k.IsUnlooped braced) :=
  decidable_of_iff (k.isLoop = false ∧ (k = .brace → braced) ∧
      (braced → ∀ n ∈ k.names, Target.slotOf n ≠ Target.slotOf Target.braceName))
    ⟨fun ⟨hloop, hbrace, hnames⟩ => ⟨hloop, hbrace, hnames⟩, fun h => ⟨h.notLoop, h.counted, h.apart⟩⟩

instance (source : List Char) : Decidable (IsUnlooped source) :=
  inferInstanceAs (Decidable (∀ k ∈ Target.tags source, k.IsUnlooped (Construct.brace ∈ Target.tags source)))

/-- Whether a render fails because a value of its data cannot be shown. -/
def Unshown (d : Mapping) (e : Error) : Prop :=
  ∃ fault, e = .ofShowFault fault ∧ ∃ p ∈ d, p.2.showFault? = some fault

/-- How two renders end whose data differ in values alone: with one error, or with outputs of one markup; else each
that fails does so because a value of its data cannot be shown. -/
def EndAlike (d d' : Mapping) :
    EStateM.Result Error Trace (List Char) → EStateM.Result Error Trace (List Char) → Prop
  | .ok out _, .ok out' _ => markup out = markup out'
  | .error e _, .error e' _ => e = e' ∨ Unshown d e ∧ Unshown d' e'
  | .error e _, .ok _ _ => Unshown d e
  | .ok _ _, .error e _ => Unshown d' e

/-- A tiled text is run alike against data with the same keys. -/
theorem runAlike_run (backend : Target.Backend) {source : List Char} (htiled : Target.Tiled source)
    (hsource : IsUnlooped source) {d d' : Mapping} (hkeys : Mapping.SameKeys d d') :
    RunAlike d d' (backend.run source (visible d)) (backend.run source (visible d')) := by
  obtain ⟨pieces, hwritten, -⟩ := htiled.foldNewlines.exists_written
  rw [IsUnlooped, Target.tags_of_written hwritten] at hsource
  rw [backend.run_written hwritten, backend.run_written hwritten, Target.runPieces, Target.runPieces]
  cases htree : Target.treeOf pieces with
  | error fault => exact .inl rfl
  | ok blocks =>
    have hall : Target.AllOf (·.IsUnlooped (Construct.brace ∈ Target.tagsOf pieces)) blocks :=
      Target.allOf_assemble hsource (fun _ h => absurd h List.not_mem_nil)
        (show Target.AllOf _ [] from trivial) (Target.assemble_of_treeOf htree)
    dsimp only
    rw [Target.runTree, Target.runTree, hasOnlyNames_visible, hasOnlyNames_visible, ← hkeys.hasOnlyNames_eq]
    split
    · exact .inl rfl
    split
    · exact .inl rfl
    split
    · exact .inl rfl
    · exact (Target.showsMarkup_enter hall d).runAlike (Target.showsMarkup_enter hall d')

theorem Unshown.of_run {d : Mapping} {e : Target.RunFault} (h : Target.Unshown d e) (label : String) :
    Unshown d (faultError label e) := by
  obtain ⟨fault, rfl, hp⟩ := h
  exact ⟨fault, rfl, hp⟩

theorem endAlike_endOf {d d' : Mapping} {r r' : Except Target.RunFault (List Char)}
    (h : RunAlike d d' r r') (label : String) (t t' : Trace) :
    EndAlike d d' (endOf label t r) (endOf label t' r') := by
  cases r with
  | ok out =>
    cases r' with
    | ok out' => exact h
    | error e => exact .of_run h label
  | error e =>
    cases r' with
    | ok out' => exact .of_run h label
    | error e' => exact h.imp (congrArg (faultError label)) fun h => ⟨.of_run h.1 label, .of_run h.2 label⟩

/-- Whether a page compiles to a source without loops and without a name that shares the slot of the brace. -/
def Compiler.compilesUnlooped (c : Compiler) (name : String) (data : Mapping) (t : Trace) : Bool :=
  match c.compile name data none t with
  | .ok page _ => decide (IsUnlooped page.source)
  | .error _ _ => false

theorem Compiler.isUnlooped_of_compilesUnlooped {c : Compiler} {name : String} {data : Mapping}
    {t : Trace} (h : c.compilesUnlooped name data t = true) {page : Compiled} {t' : Trace}
    (hpage : c.compile name data none t = .ok page t') : IsUnlooped page.source := by
  rw [compilesUnlooped, hpage] at h
  exact of_decide_eq_true h

/-- A page that shows a value itself, hands it to a component beside a literal, and has a quoted word and a brace. -/
def quotingLibrary : Library := .ofTexts
  [((.template, "page"), "<a b=\"<: x :>\">\x7b<: component cell :u=\"x\" v=\"<i>\" ></a>"),
   ((.component, "cell"), "'<: u :>'<: v :>")]

/-- A page that shows one value. -/
def valueLibrary : Library := .ofTexts [((.template, "page"), "<: x :>")]

/-- A page that shows a value behind a brace, under a name that shares the slot of the brace. -/
def wideBraceLibrary : Library := .ofTexts [((.template, "page"), "\x7b<: __ｌb :>")]

/-- Lists inside one another. -/
def nested : Nat → Value
  | 0 => .null
  | n + 1 => .list [nested n]

end Stencil.Template
