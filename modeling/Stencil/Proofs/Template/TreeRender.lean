import Stencil.Proofs.Template.TreeRun

/-! A page that is printed from a tree is rendered as the tree says. Two conditions are the target
language's own: it has no more than so many loops inside one another, and it takes names with one
compatibility form for one name, that of the brace among them. -/
namespace Stencil.Template

open Target (RunFault Binding)

/-! ### Why a tree has no output -/

/-- Whether a run can fail so for its values alone. -/
def isValueFault : RunFault → Bool
  | .undefined _ | .notIterable _ | .unshown _ => true
  | .malformed _ | .unreadable _ | .tooManyLoops | .tooDeep | .badName => false

theorem concatRuns_fault {run : Value × Value → Except RunFault (List Char)}
    (hrun : ∀ p fault, run p = .error fault → isValueFault fault = true)
    {pairs : List (Value × Value)} {fault : RunFault}
    (h : Target.concatRuns run pairs = .error fault) : isValueFault fault = true := by
  induction pairs with
  | nil => cases h
  | cons p pairs ih =>
    rw [Target.concatRuns] at h
    split at h
    · next hp => exact hrun p fault (h ▸ hp)
    · split at h
      · next hrest => exact ih (h ▸ hrest)
      · cases h

theorem entries_fault {v : Value} {fault : RunFault} (h : Target.entries v = .error fault) :
    isValueFault fault = true := by
  unfold Target.entries at h
  split at h
  all_goals first | cases h; rfl | cases h

theorem showName_fault {data : Mapping} {loopNames : List String} {bound : List (String × Value)}
    {name : String} {fault : RunFault} (h : showName data loopNames bound name = .error fault) :
    isValueFault fault = true := by
  unfold showName at h
  split at h
  · next v hv =>
    rw [Binding.display] at h
    split at h
    · cases h
      rfl
    · cases h
  · cases h

theorem pairsOf_fault {data : Mapping} {bound : List (String × Value)} {collection : String}
    {fault : RunFault} (h : pairsOf data bound collection = .error fault) :
    isValueFault fault = true := by
  unfold pairsOf at h
  split at h
  · exact entries_fault h
  · cases h
    rfl

/-- The output of two parts in a row fails with the first of them that fails. -/
theorem fault_of_append {a b : Except RunFault (List Char)} {fault : RunFault}
    (h : (do let out ← a; let more ← b; return out ++ more) = .error fault) :
    a = .error fault ∨ b = .error fault := by
  cases a with
  | error e => exact .inl h
  | ok out =>
    cases b with
    | error e => exact .inr h
    | ok more => cases h

namespace Tree

variable {T : Tree}

/-- A tree has no output only where a collection is missing or has no members, or a value cannot be shown. -/
theorem evalIn_fault {data : Mapping} {loopNames : List String} {bound : List (String × Value)}
    {fault : RunFault} (h : T.evalIn data loopNames bound = .error fault) :
    isValueFault fault = true := by
  induction T generalizing bound fault with
  | done => cases h
  | text t rest ih =>
    rw [evalIn] at h
    cases hrest : rest.evalIn data loopNames bound with
    | error e =>
      rw [hrest] at h
      cases h
      exact ih hrest
    | ok more =>
      rw [hrest] at h
      cases h
  | var name rest ih =>
    rw [evalIn] at h
    exact (fault_of_append h).elim showName_fault ih
  | loop item index collection body rest ihbody ih =>
    rw [evalIn] at h
    cases hpairs : pairsOf data bound collection with
    | error e =>
      rw [hpairs] at h
      cases h
      exact pairsOf_fault hpairs
    | ok pairs =>
      rw [hpairs] at h
      exact (fault_of_append h).elim (concatRuns_fault fun p fault hp => ihbody hp) ih

end Tree

/-- Whether a page compiles and every backend then makes the same of it: an output, or a fault. -/
def Compiler.RendersTo (c : Compiler) (name : String) (data : Mapping) (t : Trace)
    (r : Except RunFault (List Char)) : Prop :=
  ∃ page t', c.compile name data none t = .ok page t' ∧ ∀ backend t₁,
    execute backend page.source data (some name) t₁ = endOf (labelOf (some name)) (warned data t₁) r

namespace Tree

variable {T : Tree} {lib : Library}

/-- What a compiled tree gives is what every backend makes of its source. -/
theorem rendersTo (hT : T.Valid) {limit : Nat} (hlimit : 2 ≤ limit) {name : String} {path : Path}
    (hresolve : lib.resolve .template name = .ok path) (hread : lib.read path = .ok T.print)
    {data : Mapping} (t : Trace) {r : Except RunFault (List Char)}
    (hrun : ∀ backend : Target.Backend, backend.run (T.source data) (visible data) = r) :
    ({ library := lib, limit := limit } : Compiler).RendersTo name data t r := by
  obtain ⟨page, t', hpage, hsource⟩ := yields_compile hT limit hlimit hresolve hread data t
  refine ⟨page, t', hpage, fun backend t₁ => ?_⟩
  rw [execute_eq_endOf, hsource, hrun backend]

/-- A printed tree compiles whatever the data is, and every backend makes of the compiled page what the tree says:
its output, or the reason why it has none, which lies in the values. -/
theorem compile_execute_eq_eval (hT : T.Valid) (hheight : T.height ≤ Target.loopLimit)
    (hapart : Target.Apart T.names) (limit : Nat) (hlimit : 2 ≤ limit) {name : String} {path : Path}
    (hresolve : lib.resolve .template name = .ok path) (hread : lib.read path = .ok T.print)
    (data : Mapping) (hdata : Target.hasOnlyNames data = true) (t : Trace) :
    ({ library := lib, limit := limit } : Compiler).RendersTo name data t (T.eval data) ∧
      ∀ fault, T.eval data = .error fault → isValueFault fault = true :=
  ⟨rendersTo hT hlimit hresolve hread t fun backend => run_source hT hheight hapart hdata backend,
    fun _ => evalIn_fault⟩

deriving instance DecidableEq for Except

/-- A library of one page that is printed from a tree. -/
def library (T : Tree) : Library := .ofTexts [((.template, "page"), String.ofList T.print)]

theorem library_resolve (T : Tree) :
    T.library.resolve .template "page" = .ok ⟨"", ["template", "page"]⟩ := rfl

theorem library_read (T : Tree) : T.library.read ⟨"", ["template", "page"]⟩ = .ok T.print := by
  have h : T.library.read ⟨"", ["template", "page"]⟩ = .ok (String.ofList T.print).toList := rfl
  rw [h, String.toList_ofList]

/-- A page with a brace, a loop over pairs in a loop over members, a name that only another loop binds and a
name of nothing. -/
def rows : Tree :=
  .text ['{', ' '] <|
  .loop "row" none "rows"
    (.loop "cell" (some "at") "row" (.var "at" (.text ['='] (.var "cell" .done)))
      (.var "__index" .done)) <|
  .var "cell" (.var "title" .done)

/-- A list and a mapping. -/
def rowsData : Mapping :=
  [(.str "rows", .list [.list [.str "<", .int 7], .dict [(.str "k", .null)]])]

theorem compile_execute_eq_eval_rows :
    (rows.Valid ∧ rows.height ≤ Target.loopLimit ∧ Target.Apart rows.names) ∧
    ({ library := rows.library } : Compiler).RendersTo "page" rowsData { report := { templateName := "page" } }
      (.ok "\x7b 0=&lt;1=70k=1<!-- Variable title not found -->".toList) := by
  have hvalid : rows.Valid := by decide +kernel
  have hapart : Target.Apart rows.names := by
    unfold Target.Apart
    decide +kernel
  have heval : rows.eval rowsData =
      .ok "\x7b 0=&lt;1=70k=1<!-- Variable title not found -->".toList := by
    decide +kernel
  refine ⟨⟨hvalid, by decide, hapart⟩, ?_⟩
  rw [← heval]
  exact (compile_execute_eq_eval hvalid (by decide) hapart 100 (by decide) rows.library_resolve
    rows.library_read rowsData rfl { report := { templateName := "page" } }).1

/-! ### The two conditions -/

/-- Loops inside one another. -/
def tower : Nat → Tree
  | 0 => .done
  | n + 1 => .loop "x" none "xs" (tower n) .done

theorem tower_valid (n : Nat) : (tower n).Valid := by
  induction n with
  | zero => trivial
  | succ n ih =>
    have hx : IsTreeName "x" := by decide +kernel
    have hindex : IsTreeName defaultIndex := by decide +kernel
    have hxs : IsTreeName "xs" := by decide +kernel
    exact ⟨hx, hindex, hxs, by decide, ih, trivial⟩

theorem tower_height (n : Nat) : (tower n).height = n := by
  induction n with
  | zero => rfl
  | succ n ih => simp [tower, height, ih]

/-- Two names of which one is a ligature. -/
def ligature : Tree := .var "ﬁ" (.var "fi" .done)

/-- A brace and a name that differs from the one in its token by a full-width letter. -/
def wideBrace : Tree := .text ['{'] (.var "__ｌb" .done)

/-- Neither condition can be left out. A tree with 21 loops inside one another has no output as a page,
though it says that there is nothing to show; of two names with one compatibility form the page shows
the same value twice; and a name with the form of the brace's shows its value in place of the brace. -/
theorem rendersTo_ne_eval_of_deep_of_shared :
    let data : Mapping := [(.str "xs", .null), (.str "ﬁ", .str "A"), (.str "fi", .str "B"), (.str "__ｌb", .str "<")]
    let page (T : Tree) : Compiler := { library := T.library }
    let start : Trace := { report := { templateName := "page" } }
    ((tower 21).Valid ∧ (page (tower 21)).RendersTo "page" data start (.error .tooManyLoops) ∧
      (tower 21).eval data = .ok []) ∧
    (ligature.Valid ∧ (page ligature).RendersTo "page" data start (.ok ['B', 'B']) ∧
      ligature.eval data = .ok ['A', 'B']) ∧
    wideBrace.Valid ∧ (page wideBrace).RendersTo "page" data start (.ok "<&lt;".toList) ∧
      wideBrace.eval data = .ok "\x7b&lt;".toList := by
  intro data page start
  have hrenders {T : Tree} (hT : T.Valid) {r : Except RunFault (List Char)}
      (hrun : ∀ backend : Target.Backend, backend.run (T.source data) (visible data) = r) :
      (page T).RendersTo "page" data start r :=
    rendersTo hT (by decide) T.library_resolve T.library_read start hrun
  have hligature : ligature.Valid := by decide +kernel
  have hwide : wideBrace.Valid := by decide +kernel
  refine ⟨⟨tower_valid 21, hrenders (tower_valid 21) fun backend => ?_, by decide +kernel⟩,
    ⟨hligature, hrenders hligature fun backend => ?_, by decide +kernel⟩,
    hwide, hrenders hwide fun backend => ?_, by decide +kernel⟩
  · have hheight := tower_height 21
    refine run_source_of_deep (tower_valid 21) ?_ ?_ backend _
    · rw [hheight]
      decide
    · rw [hheight]
      decide
  · rw [run_eq_runTree hligature]
    decide +kernel
  · rw [run_eq_runTree hwide]
    decide +kernel

end Tree

end Stencil.Template
