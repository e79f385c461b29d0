import Stencil.Proofs.Mapping
import Stencil.Proofs.Target.Names
import Stencil.Proofs.Template.TreeBlocks
import Stencil.Template.Render

/-! Compiled trees are run. Every name stands for what the tree says it stands for: inside of a loop for
what the loop binds, and elsewhere for what the data holds. -/
namespace Stencil.Template

open Target (Block Env RunFault Binding runAll slotOf Apart)

/-! ### Parts in a row -/

theorem runAll_append (env : Env) (a b : List Block) :
    runAll env (a ++ b) = do
      let out ← runAll env a
      let more ← runAll env b
      return out ++ more := by
  induction a with
  | nil =>
    rw [List.nil_append, runAll]
    cases runAll env b <;> rfl
  | cons x a ih =>
    rw [List.cons_append, runAll, runAll, ih]
    cases x.run env with
    | error fault => rfl
    | ok out =>
      cases runAll env a with
      | error fault => rfl
      | ok mid =>
        cases runAll env b with
        | error fault => rfl
        | ok more => exact congrArg Except.ok (List.append_assoc out mid more).symm

theorem runAll_char (env : Env) (s : List Char) : runAll env (s.map .char) = .ok s := by
  induction s with
  | nil => rfl
  | cons c s ih => simp [runAll, Block.run, ih]

theorem ownNames_char (s : List Char) : (s.map Block.char).flatMap Block.ownNames = [] := by
  induction s with
  | nil => rfl
  | cons c s ih => exact ih

/-- The parts of a text refer to nothing but the brace. -/
theorem ownNames_blockOf {s : List Char} {name : String} (h : name ∈ (s.map blockOf).flatMap Block.ownNames) :
    '{' ∈ s ∧ name = Target.braceName := by
  rw [List.flatMap_map] at h
  obtain ⟨c, hc, hname⟩ := List.mem_flatMap.mp h
  unfold blockOf at hname
  split at hname
  · next hbrace => exact ⟨hbrace ▸ hc, List.mem_singleton.mp hname⟩
  · cases hname

theorem runAll_blockOf {env : Env} {s : List Char}
    (hbrace : '{' ∈ s → env.lookup Target.braceName = .value (.str "\x7b")) :
    runAll env (s.map blockOf) = .ok s := by
  induction s with
  | nil => rfl
  | cons c s ih =>
    have hfirst : (blockOf c).run env = .ok [c] := by
      unfold blockOf
      split
      · next hc =>
        rw [Block.run, hbrace (hc ▸ List.mem_cons_self), hc]
        rfl
      · rw [Block.run]
    rw [List.map_cons, runAll, hfirst, ih fun h => hbrace (List.mem_cons_of_mem c h)]
    rfl

/-! ### What names stand for -/

/-- What a name of a page stands for: the brace under its own name, else what loops bind it to or the data
holds. -/
def standsFor (data : Mapping) (bound : List (String × Value)) (name : String) : Binding :=
  if name = Target.braceName then .value (.str "\x7b")
  else ((meaning data bound name).map Binding.value).getD (.missing name)

theorem standsFor_of_ne (data : Mapping) (bound : List (String × Value)) {name : String}
    (h : name ≠ Target.braceName) :
    standsFor data bound name = ((meaning data bound name).map Binding.value).getD (.missing name) :=
  if_neg h

/-- Loops that do not bind a name leave it as it is. -/
theorem standsFor_append {data : Mapping} {given bound : List (String × Value)} {name : String}
    (h : given.lookup name = none) : standsFor data (given ++ bound) name = standsFor data bound name := by
  rw [standsFor, standsFor, meaning, meaning, List.lookup_append, h, Option.none_or]

theorem IsTreeName.ne_braceName {name : String} (h : IsTreeName name) : name ≠ Target.braceName := by
  rintro rfl
  exact absurd h.renderable (by decide)

/-- Outside of all tags the data alone counts, and the names without data are not among the names of a page. -/
theorem resolve_eq {data : Mapping} {name : String} (h : Target.builtins.lookup name = none) :
    (Target.resolve (visible data) name).getD (.missing name) = standsFor data [] name := by
  unfold Target.resolve Target.globals
  by_cases hname : name = Target.braceName
  · rw [standsFor, if_pos hname, hname, visible, Mapping.get?_erase_self]
    rfl
  · have hother : (name == Target.braceName) = false := by simpa using hname
    rw [standsFor_of_ne _ _ hname, visible, Mapping.get?_erase data hname, List.lookup_cons, hother, h, meaning]
    change _ = (Option.map Binding.value (Mapping.get? data (.str name))).getD _
    cases Mapping.get? data (.str name) <;> rfl

/-- The environments in which the names in use stand for what they should. A name that no tag knows is bound by no
loop. -/
structure Agrees (data : Mapping) (names loopNames : List String) (bound : List (String × Value))
    (env : Env) : Prop where
  sameData : env.data = visible data
  known : ∀ name ∈ names, env.knows name = true → env.lookup name = standsFor data bound name
  unknown : ∀ name ∈ names, env.knows name = false → bound.lookup name = none
  inLoops : ∀ name, bound.lookup name ≠ none → name ∈ loopNames

namespace Agrees

variable {data : Mapping} {names loopNames : List String} {bound : List (String × Value)} {env : Env}
  {body : List Block}

/-- The start of a run, before any tag. -/
theorem start (data : Mapping) (names loopNames : List String) :
    Agrees data names loopNames [] ⟨[], visible data⟩ :=
  ⟨rfl, fun _ _ h => absurd h Bool.false_ne_true, fun _ _ _ => rfl, fun _ h => absurd rfl h⟩

/-- A tag binds its own names, and leaves all others as they are. -/
theorem enter (h : Agrees data names loopNames bound env)
    (hbuiltin : ∀ name ∈ names, Target.builtins.lookup name = none) (hapart : Apart names)
    (hbody : body.flatMap Block.ownNames ⊆ names) (given : List (String × Value))
    (hnodup : (given.map Prod.fst).Nodup)
    (hgiven : ∀ name ∈ given.map Prod.fst, name ∈ names ∧ name ∈ loopNames ∧ name ≠ Target.braceName) :
    Agrees data names loopNames (given ++ bound)
      (env.enter (given.map fun g => (g.1, .value g.2)) true body) := by
  have hnames : (given.map fun g => (g.1, Binding.value g.2)).map Prod.fst = given.map Prod.fst := by
    rw [List.map_map]
    rfl
  have hfound : ∀ name, ∀ p ∈ env.found (given.map fun g => (g.1, .value g.2)) true body,
      name ∈ names → slotOf p.1 = slotOf name → p.1 = name := by
    intro name p hp hname
    refine hapart p.1 ?_ name hname
    rcases Env.mem_found.mp hp with ⟨g, hg, rfl⟩ | ⟨n, hn, rfl⟩
    · exact (hgiven g.1 (hnames ▸ List.mem_map_of_mem hg)).1
    · exact hbody (Env.mem_freshNames.mp hn).1
  refine ⟨h.sameData, fun name hname hknows => ?_, fun name hname hknows => ?_, fun name hname => ?_⟩
  · rw [Env.lookup_enter fun p hp => hfound name p hp hname, Target.lookup_reverse (by rwa [hnames]),
      Target.lookup_map_value]
    cases hv : given.lookup name with
    | some v =>
      have hin : name ∈ given.map Prod.fst := by
        rw [← Target.lookup_isSome_iff_mem, hv]
        rfl
      rw [standsFor_of_ne _ _ (hgiven name hin).2.2, meaning, List.lookup_append, hv]
      rfl
    | none =>
      rw [standsFor_append hv]
      simp only [Option.map_none]
      split
      · next hfresh =>
        have hunbound := h.unknown name hname (Env.mem_freshNames.mp hfresh).2.2
        rw [h.sameData, resolve_eq (hbuiltin name hname), ← standsFor_append hunbound, List.append_nil]
      · next hfresh =>
        rw [Env.knows_enter, hnames, ← Target.lookup_isSome_iff_mem, hv] at hknows
        exact h.known name hname ((hknows.resolve_left nofun).resolve_left hfresh)
  · have hout : ¬ (name ∈ given.map Prod.fst ∨ _ ∨ env.knows name = true) := fun hin => by
      rw [← hnames] at hin
      rw [Env.knows_enter.mpr hin] at hknows
      cases hknows
    rw [not_or, not_or, Bool.not_eq_true] at hout
    rw [List.lookup_append, (Target.lookup_eq_none_iff_notMem given name).mpr hout.1,
      h.unknown name hname hout.2.2]
    rfl
  · rw [List.lookup_append] at hname
    by_cases hin : name ∈ given.map Prod.fst
    · exact (hgiven name hin).2.1
    · rw [(Target.lookup_eq_none_iff_notMem given name).mpr hin, Option.none_or] at hname
      exact h.inLoops name hname

/-- A turn of a loop binds its index and its item. -/
theorem turn (h : Agrees data names loopNames bound env)
    (hbuiltin : ∀ name ∈ names, Target.builtins.lookup name = none) (hapart : Apart names)
    (hbody : body.flatMap Block.ownNames ⊆ names) {index item : String} (hindex : IsTreeName index)
    (hitem : IsTreeName item) (hne : item ≠ index) (hinIndex : index ∈ names ∧ index ∈ loopNames)
    (hinItem : item ∈ names ∧ item ∈ loopNames) (p : Value × Value) :
    Agrees data names loopNames ((index, p.1) :: (item, p.2) :: bound)
      (env.enter [(index, .value p.1), (item, .value p.2)] true body) := by
  refine h.enter hbuiltin hapart hbody [(index, p.1), (item, p.2)] (by simpa using Ne.symm hne) fun name hname => ?_
  simp only [List.map_cons, List.map_nil, List.mem_cons, List.not_mem_nil, or_false] at hname
  rcases hname with rfl | rfl
  · exact ⟨hinIndex.1, hinIndex.2, hindex.ne_braceName⟩
  · exact ⟨hinItem.1, hinItem.2, hitem.ne_braceName⟩

end Agrees

/-! ### The run of a page -/

namespace Tree

variable {T : Tree} {data : Mapping} {names loopNames : List String}

theorem ownNames_blocks (bound : String → Bool) (T : Tree) :
    (T.blocks bound).flatMap Block.ownNames ⊆ T.names := by
  induction T with
  | done => exact List.Subset.refl _
  | text t rest ih =>
    intro name hname
    rw [blocks, List.flatMap_append] at hname
    rw [names]
    rcases List.mem_append.mp hname with hname | hname
    · obtain ⟨hbrace, rfl⟩ := ownNames_blockOf hname
      rw [if_pos hbrace]
      exact List.mem_cons_self
    · split
      · exact List.mem_cons_of_mem _ (ih hname)
      · exact ih hname
  | var name rest ih =>
    rw [blocks, List.flatMap_append]
    split
    · exact List.cons_subset_cons name ih
    · rw [ownNames_char]
      exact List.subset_cons_of_subset name ih
  | loop item index collection body rest ihbody ih =>
    rw [blocks, List.flatMap_cons]
    refine List.append_subset.mpr ⟨?_, ?_⟩
    · simp [Block.ownNames, names]
    · intro name hname
      simp [names, ih hname]

/-- A placeholder shows what its name stands for. -/
theorem display_lookup {bound : List (String × Value)} {env : Env}
    (h : Agrees data names loopNames bound env) {name : String} (htree : IsTreeName name)
    (hname : name ∈ names) (hknows : env.knows name = true)
    (hbound : (loopNames.contains name || Mapping.contains data (.str name)) = true) :
    (env.lookup name).display = showName data loopNames bound name := by
  rw [h.known name hname hknows, standsFor_of_ne _ _ htree.ne_braceName, showName]
  cases hv : meaning data bound name with
  | some v => rfl
  | none =>
    -- a name in sight that stands for nothing is the name of a loop elsewhere
    have hloop : name ∈ loopNames := by
      rw [meaning] at hv
      split at hv
      · cases hv
      · rw [Mapping.contains_eq_isSome, hv] at hbound
        simpa using hbound
    simp [hloop, Binding.display]

/-- A name that stands for nothing is told so in the page. -/
theorem showName_of_unbound {bound : List (String × Value)} {env : Env}
    (h : Agrees data names loopNames bound env) {name : String}
    (hbound : (loopNames.contains name || Mapping.contains data (.str name)) = false) :
    showName data loopNames bound name = .ok (notFound name) := by
  rw [Bool.or_eq_false_iff, Mapping.contains_eq_isSome, Option.isSome_eq_false_iff,
    Option.isNone_iff_eq_none] at hbound
  have hloop : name ∉ loopNames := by simpa using hbound.1
  have hnone : bound.lookup name = none := Classical.byContradiction fun hne =>
    hloop (h.inLoops name hne)
  rw [showName, meaning, hnone, hbound.2, if_neg hloop]

theorem entries_lookup {bound : List (String × Value)} {env : Env}
    (h : Agrees data names loopNames bound env) {collection : String} (htree : IsTreeName collection)
    (hname : collection ∈ names) (hknows : env.knows collection = true) :
    (env.lookup collection).entries = pairsOf data bound collection := by
  rw [h.known collection hname hknows, standsFor_of_ne _ _ htree.ne_braceName, pairsOf]
  cases meaning data bound collection <;> rfl

theorem runAll_blocks {known : String → Bool}
    (hbuiltin : ∀ name ∈ names, Target.builtins.lookup name = none)
    (hapart : Apart names)
    (hbound : ∀ name, known name =
      (loopNames.contains name || Mapping.contains data (.str name)))
    (hT : T.Valid) (hnames : T.names ⊆ names) (hloops : T.loopNames ⊆ loopNames)
    {bound : List (String × Value)} {env : Env}
    (hknows : ∀ name ∈ (T.blocks known).flatMap Block.ownNames, env.knows name = true)
    (h : Agrees data names loopNames bound env) :
    runAll env (T.blocks known) = T.evalIn data loopNames bound := by
  induction T generalizing bound env with
  | done => rfl
  | text t rest ih =>
    rw [blocks, List.flatMap_append] at hknows
    have hrest : rest.names ⊆ names := fun n hn => hnames (by rw [Tree.names]; split <;> simp [hn])
    have hbrace (hmem : '{' ∈ t) : env.lookup Target.braceName = .value (.str "\x7b") := by
      have hin : Target.braceName ∈ names := hnames (by simp [Tree.names, hmem])
      have hown : Target.braceName ∈ (t.map blockOf).flatMap Block.ownNames := by
        rw [List.flatMap_map]
        exact List.mem_flatMap.mpr ⟨'{', hmem, List.mem_singleton.mpr rfl⟩
      exact h.known _ hin (hknows _ (List.mem_append_left _ hown))
    rw [blocks, runAll_append, runAll_blockOf hbrace, evalIn,
      ih hT.2.2.2.2 hrest hloops (fun n hn => hknows n (List.mem_append_right _ hn)) h]
    rfl
  | var name rest ih =>
    rw [blocks, List.flatMap_append] at hknows
    have hrest := ih hT.2 (List.subset_of_cons_subset hnames) hloops
      (fun n hn => hknows n (List.mem_append_right _ hn)) h
    rw [blocks, runAll_append, hrest, evalIn]
    congr 1
    split
    · next hname =>
      have hshow := display_lookup h hT.1 (hnames List.mem_cons_self)
        (hknows name (List.mem_append_left _ (by simp [hname, Block.ownNames])))
        (hbound name ▸ hname)
      rw [runAll, runAll, Block.run, hshow]
      cases showName data loopNames bound name <;> simp
    · next hname =>
      rw [Bool.not_eq_true] at hname
      rw [runAll_char, showName_of_unbound h (hbound name ▸ hname)]
  | loop item index collection body rest ihbody ih =>
    obtain ⟨hitem, hindex, hcollection, hne, hbody, hvalid⟩ := hT
    rw [blocks, List.flatMap_cons] at hknows
    have hcoll : env.knows collection = true :=
      hknows collection (List.mem_append_left _ (by simp [Block.ownNames]))
    have hin {name : String} (hname : name ∈ item :: index.getD defaultIndex :: collection ::
        (body.names ++ rest.names)) : name ∈ names := hnames hname
    have hinLoops {name : String} (hname : name ∈ item :: index.getD defaultIndex ::
        (body.loopNames ++ rest.loopNames)) : name ∈ loopNames := hloops hname
    have hrest := ih hvalid (fun n hn => hin (by simp [hn])) (fun n hn => hinLoops (by simp [hn]))
      (fun n hn => hknows n (List.mem_append_right _ hn)) h
    -- each turn binds index and item, and then runs the body
    have hturn (p : Value × Value) :
        runAll (env.enter [(index.getD defaultIndex, .value p.1), (item, .value p.2)] true
          (body.blocks known)) (body.blocks known) =
        body.evalIn data loopNames ((index.getD defaultIndex, p.1) :: (item, p.2) :: bound) := by
      refine ihbody hbody (fun n hn => hin (by simp [hn])) (fun n hn => hinLoops (by simp [hn]))
        (fun n hn => Env.knows_of_mem_ownNames hn) ?_
      exact h.turn hbuiltin hapart (List.Subset.trans (ownNames_blocks known body) fun n hn => hin (by simp [hn]))
        hindex hitem hne ⟨hin (by simp), hinLoops (by simp)⟩ ⟨hin (by simp), hinLoops (by simp)⟩ p
    rw [blocks, runAll, Block.run, entries_lookup h hcollection (hin (by simp)) hcoll, hrest, evalIn]
    cases pairsOf data bound collection with
    | error fault => rfl
    | ok pairs =>
      simp only [hturn]
      change _ = (do
        let out ← Target.concatRuns _ pairs
        let more ← rest.evalIn data loopNames bound
        return out ++ more)
      cases Target.concatRuns _ pairs with
      | error fault => rfl
      | ok out => cases rest.evalIn data loopNames bound <;> rfl

/-- No name of a page is built in. -/
theorem builtins_lookup_of_mem (hT : T.Valid) : ∀ name ∈ T.names, Target.builtins.lookup name = none := by
  induction T with
  | done => exact fun _ h => absurd h List.not_mem_nil
  | text t rest ih =>
    intro name hname
    rw [names] at hname
    split at hname
    · rcases List.mem_cons.mp hname with rfl | hname
      · rfl
      · exact ih hT.2.2.2.2 name hname
    · exact ih hT.2.2.2.2 name hname
  | var x rest ih =>
    intro name hname
    rcases List.mem_cons.mp hname with rfl | hname
    · exact hT.1.notBuiltin
    · exact ih hT.2 name hname
  | loop item index collection body rest ihbody ih =>
    obtain ⟨hitem, hindex, hcollection, -, hbody, hvalid⟩ := hT
    intro name hname
    simp only [names, List.mem_cons, List.mem_append] at hname
    rcases hname with rfl | rfl | rfl | hname | hname
    · exact hitem.notBuiltin
    · exact hindex.notBuiltin
    · exact hcollection.notBuiltin
    · exact ihbody hbody name hname
    · exact ih hvalid name hname

/-- The run of a compiled page is the output of its tree, if its loops are not nested too deep and no two
of its names share a slot. -/
theorem run_source (hT : T.Valid) (hheight : T.height ≤ Target.loopLimit) (hapart : Apart T.names)
    (hdata : Target.hasOnlyNames data = true) (backend : Target.Backend) :
    backend.run (T.source data) (visible data) = T.eval data := by
  have hown := ownNames_blocks (T.isBound data) T
  have hagrees := (Agrees.start data T.names T.loopNames).enter (builtins_lookup_of_mem hT) hapart hown
    [] List.nodup_nil (fun _ h => absurd h List.not_mem_nil)
  have hrun := runAll_blocks (builtins_lookup_of_mem hT) hapart (fun _ => rfl) hT
    (List.Subset.refl _) (List.Subset.refl _) (fun _ h => Env.knows_of_mem_ownNames h) hagrees
  have hlimit : Target.loopLimit ≤ Target.depthLimit := by decide
  rw [run_eq_runTree hT, Target.runTree, (depthOf_blocks _ T).1, (depthOf_blocks _ T).2, if_neg (by omega),
    if_neg (by omega), hasOnlyNames_visible, hdata]
  exact hrun

/-- Loops that are nested too deep are refused whatever the data is. -/
theorem run_source_of_deep (hT : T.Valid) (hheight : Target.loopLimit < T.height)
    (hdepth : T.height ≤ Target.depthLimit) (backend : Target.Backend) (seen : Mapping) :
    backend.run (T.source data) seen = .error .tooManyLoops := by
  rw [run_eq_runTree hT, Target.runTree, (depthOf_blocks _ T).1, (depthOf_blocks _ T).2, if_neg (by omega),
    if_pos hheight]

end Tree

end Stencil.Template
