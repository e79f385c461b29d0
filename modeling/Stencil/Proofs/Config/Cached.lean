import Stencil.Proofs.Config.Load

/-! The configurations that are kept. What is answered is what loading afresh would come to, but for this:
a configuration that was loaded without asking for the schema is kept for those who do ask. -/
namespace Stencil.Config

open Act (Agrees)

variable {tools : Tools} {s s' : Session}

/-! ### Runs -/

/-- Whether the listing of a source tells its files apart in these sessions: files with the same names,
stamps and sizes are the same files with the same bytes. -/
def ToldApart (S : Session → Prop) : Prop :=
  ∀ s s', S s → S s' → ∀ root source, (sourceOf root).outcome s = .ok source →
    (sourceOf root).outcome s' = .ok source →
      (Files.yamlFiles (Project.configDirectory root)).outcome s =
        (Files.yamlFiles (Project.configDirectory root)).outcome s' ∧
      ∀ files, (Files.yamlFiles (Project.configDirectory root)).outcome s = .ok files →
        ∀ p ∈ files, Files.SameFile s s' p

/-- Where the source is the same, so is the configuration that is loaded afresh. -/
theorem ToldApart.loadAfresh_eq {S : Session → Prop} (h : ToldApart S) (hs : S s) (hs' : S s')
    {root : Path} {source : ConfigSource} (hsource : (sourceOf root).outcome s = .ok source)
    (hsource' : (sourceOf root).outcome s' = .ok source) (strict : Bool) (tools : Tools) :
    (loadAfresh root strict tools).outcome s = (loadAfresh root strict tools).outcome s' := by
  obtain ⟨hfiles, hsame⟩ := h s s' hs hs' root source hsource hsource'
  have hlayers : (readLayers root tools.loader).outcome s = (readLayers root tools.loader).outcome s' := by
    have hmerge : Agrees s s' (Files.mergeDirectory (.plain defaults) (Project.configDirectory root) tools.loader) :=
      Files.agrees_mergeDirectory hfiles hsame (.plain defaults)
    have hagrees : Agrees s s' (readLayers root tools.loader) := by
      refine hmerge.attempt.bind fun outcome => ?_
      split
      · exact Act.agrees_pure s s' _
      · exact Act.agrees_throw s s' _
    exact hagrees.outcome
  obtain ⟨-, henv, -⟩ := eq_of_outcome_sourceOf hsource
  obtain ⟨-, henv', -⟩ := eq_of_outcome_sourceOf hsource'
  rw [(run_loadAfresh root strict tools s).1, (run_loadAfresh root strict tools s').1, hlayers, ← henv, ← henv']

/-- The sources of which a configuration was loaded since all were forgotten, latest first, each with
whether the schema was asked for; and the session that was come to. Variables, files and anything else may
change between calls; `S` holds at each call. -/
inductive Run (tools : Tools) (S : Session → Prop) : List (ConfigSource × Bool) → Session → Prop
  | start {s : Session} (configs : s.configs = []) : Run tools S [] s
  | change {history : List (ConfigSource × Bool)} {s : Session} (s' : Session)
    (configs : s'.configs = s.configs) : Run tools S history s → Run tools S history s'
  | forget {history : List (ConfigSource × Bool)} {s : Session} :
    Run tools S history s → Run tools S [] (forget.left s)
  | answered {history : List (ConfigSource × Bool)} {s s' : Session} (root : Option Path) (strict : Bool)
    {source : ConfigSource} {loaded : LoadedConfig} (holds : S s)
    (source_eq : (sourceAt root).outcome s = .ok source) (run : load root strict tools s = .ok loaded s') :
    Run tools S history s → Run tools S ((source, strict) :: history) s'
  | refused {history : List (ConfigSource × Bool)} {s s' : Session} (root : Option Path) (strict : Bool)
    {e : Error} (holds : S s) (run : load root strict tools s = .error e s') :
    Run tools S history s → Run tools S history s'

/-- What is kept agrees with the history: it is kept of the sources of which something was loaded, it is
what loading without the schema comes to, and it keeps to the schema if that was asked for each time. -/
structure Agree (tools : Tools) (S : Session → Prop) (history : List (ConfigSource × Bool))
    (configs : List (ConfigSource × LoadedConfig)) : Prop where
  known (source : ConfigSource) :
    configs.lookup source = none ↔ ∀ strict, (source, strict) ∉ history
  fresh {source : ConfigSource} {loaded : LoadedConfig} (kept : configs.lookup source = some loaded)
    {s : Session} (holds : S s) (source_eq : (sourceOf source.root).outcome s = .ok source) :
    (loadAfresh source.root false tools).outcome s = .ok loaded.layer
  valid {source : ConfigSource} {loaded : LoadedConfig} (kept : configs.lookup source = some loaded)
    (asked : (source, false) ∉ history) : validate (.dict loaded.layer.mapping) tools.checker = .ok ()

section

variable {S : Session → Prop} {history : List (ConfigSource × Bool)}
  {configs : List (ConfigSource × LoadedConfig)} {source : ConfigSource} {strict : Bool}

theorem Agree.start (tools : Tools) (S : Session → Prop) : Agree tools S [] [] where
  known _ := ⟨fun _ _ h => (nomatch h), fun _ => rfl⟩
  fresh h := nomatch h
  valid h := nomatch h

/-- Nothing was loaded of a source if it is another than that of the latest call and nothing was loaded of it
before. -/
theorem forall_notMem_cons_iff {source' : ConfigSource} :
    (∀ b, (source', b) ∉ (source, strict) :: history) ↔
      source' ≠ source ∧ ∀ b, (source', b) ∉ history := by
  constructor
  · intro h
    refine ⟨?_, fun b hmem => h b (List.mem_cons_of_mem _ hmem)⟩
    rintro rfl
    exact h strict List.mem_cons_self
  · rintro ⟨hne, h⟩ b hmem
    rcases List.mem_cons.mp hmem with heq | hmem
    · exact hne (congrArg Prod.fst heq)
    · exact h b hmem

/-- Something is answered from what is kept. -/
theorem Agree.again (h : Agree tools S history configs) {loaded : LoadedConfig}
    (hkept : configs.lookup source = some loaded) : Agree tools S ((source, strict) :: history) configs where
  known source' := by
    rw [forall_notMem_cons_iff, ← h.known]
    refine ⟨fun hmissing => ⟨?_, hmissing⟩, And.right⟩
    rintro rfl
    rw [hkept] at hmissing
    cases hmissing
  fresh := h.fresh
  valid hkept hasked := h.valid hkept fun hmem => hasked (List.mem_cons_of_mem _ hmem)

/-- Something is loaded afresh and kept. -/
theorem Agree.keep (hS : ToldApart S) (h : Agree tools S history configs) {s : Session} (hs : S s)
    (hsource : (sourceOf source.root).outcome s = .ok source) {loaded : LoadedConfig}
    (hload : (loadAfresh source.root strict tools).outcome s = .ok loaded.layer) :
    Agree tools S ((source, strict) :: history) ((source, loaded) :: configs) := by
  obtain ⟨hfresh, hvalid⟩ := outcome_loadAfresh_eq_ok_iff.mp hload
  have hlookup (source' : ConfigSource) : ((source, loaded) :: configs).lookup source' =
      if source' = source then some loaded else configs.lookup source' := by
    rw [List.lookup_cons]
    split
    · next heq => rw [if_pos (eq_of_beq heq)]
    · next hne => rw [if_neg (by simpa using hne)]
  refine ⟨fun source' => ?_, fun {source' loaded'} hkept s' hs' hsource' => ?_,
    fun {source' loaded'} hkept hasked => ?_⟩
  · rw [hlookup, forall_notMem_cons_iff, ← h.known]
    split
    · next heq => exact ⟨(nomatch ·), fun hmissing => absurd heq hmissing.1⟩
    · next hne => exact ⟨fun hmissing => ⟨hne, hmissing⟩, And.right⟩
  · rw [hlookup] at hkept
    split at hkept
    · next heq =>
      subst heq
      cases hkept
      rw [← hS.loadAfresh_eq hs hs' hsource hsource' false tools, hfresh]
    · exact h.fresh hkept hs' hsource'
  · rw [hlookup] at hkept
    split at hkept
    · next heq =>
      subst heq
      cases hkept
      refine hvalid ?_
      cases strict with
      | true => rfl
      | false => exact absurd List.mem_cons_self hasked
    · exact h.valid hkept fun hmem => hasked (List.mem_cons_of_mem _ hmem)

/-- After any run what is kept agrees with the history. -/
theorem Run.agree (hS : ToldApart S) {s : Session} (h : Run tools S history s) : Agree tools S history s.configs := by
  induction h with
  | start configs =>
    rw [configs]
    exact .start tools S
  | change s' configs _ ih =>
    rw [configs]
    exact ih
  | forget _ ih => exact .start tools S
  | @answered history s s' root strict source loaded holds source_eq run _ ih =>
    rcases kept_or_afresh source_eq run with ⟨hkept, hconfigs⟩ | ⟨-, hfresh, hconfigs⟩
    · rw [hconfigs]
      exact ih.again hkept
    · rw [hconfigs]
      exact ih.keep hS holds (eq_of_outcome_sourceAt source_eq).2 hfresh
  | @refused history s s' root strict e holds run _ ih =>
    rw [configs_of_load_error run]
    exact ih

/-- Whether loading without the schema comes to a configuration that violates it. -/
def Violates (tools : Tools) (root : Option Path) (s : Session) : Prop :=
  ∃ config, (afresh root false tools).outcome s = .ok config ∧ validate (.dict config.mapping) tools.checker ≠ .ok ()

theorem not_violates_iff {root : Option Path} {s : Session}
    (hsource : (sourceAt root).outcome s = .ok source) :
    ¬Violates tools root s ↔ (afresh root true tools).outcome s = (afresh root false tools).outcome s := by
  rw [outcome_afresh hsource true tools, outcome_loadAfresh, ← outcome_afresh hsource false tools]
  unfold Violates
  cases (afresh root false tools).outcome s with
  | error e =>
    refine ⟨fun _ => rfl, fun _ => ?_⟩
    rintro ⟨_, hok, _⟩
    cases hok
  | ok config =>
    change _ ↔ checked true tools.checker config = .ok config
    rw [checked_eq_ok_iff]
    constructor
    · intro hnot
      exact ⟨rfl, fun _ => Classical.byContradiction fun h => hnot ⟨config, rfl, h⟩⟩
    · rintro ⟨-, hvalid⟩ ⟨_, hok, hinvalid⟩
      cases hok
      exact hinvalid (hvalid rfl)

/-- What is kept of a source is what is answered; without it the configuration is loaded afresh. -/
theorem Run.load_eq (hS : ToldApart S) {s : Session} (h : Run tools S history s) (hs : S s)
    {root : Option Path} (hsource : (sourceAt root).outcome s = .ok source) (strict : Bool) :
    ((load root strict tools).outcome s).map LoadedConfig.layer =
      (afresh root (strict && history.all fun e => e.1 ≠ source) tools).outcome s := by
  have hagree := h.agree hS
  have hrun := run_load root strict tools s
  rw [hsource] at hrun
  simp only at hrun
  rw [outcome_afresh hsource]
  cases hkept : s.configs.lookup source with
  | some loaded =>
    rw [hkept] at hrun
    have hknown : (history.all fun e => e.1 ≠ source) = false := by
      refine Bool.eq_false_iff.mpr fun hall => ?_
      have hmissing : s.configs.lookup source = none := (hagree.known source).mpr fun b hmem => by
        simpa using List.all_eq_true.mp hall _ hmem
      rw [hkept] at hmissing
      cases hmissing
    rw [hknown, Bool.and_false, hagree.fresh hkept hs (eq_of_outcome_sourceAt hsource).2]
    unfold Act.outcome
    rw [hrun]
    rfl
  | none =>
    obtain ⟨t, -, hload⟩ := run_loadKept source.root strict tools source s
    have hmissing : (history.all fun e => e.1 ≠ source) = true := by
      refine List.all_eq_true.mpr fun e he => ?_
      have hne : e.1 ≠ source := by
        rintro rfl
        exact (hagree.known e.1).mp hkept e.2 he
      simpa using hne
    rw [hkept, hload] at hrun
    rw [hmissing, Bool.and_true, Act.outcome, hrun]
    cases (loadAfresh source.root strict tools).outcome s <;> rfl

/-- A configuration that violates the schema is kept only if it was loaded once without asking for it. -/
theorem Run.mem_of_violates (hS : ToldApart S) {s : Session} (h : Run tools S history s) (hs : S s)
    {root : Option Path} (hsource : (sourceAt root).outcome s = .ok source)
    (hknown : ∃ b, (source, b) ∈ history) (hviolates : Violates tools root s) : (source, false) ∈ history := by
  have hagree := h.agree hS
  refine Classical.byContradiction fun hasked => ?_
  cases hkept : s.configs.lookup source with
  | none =>
    obtain ⟨b, hmem⟩ := hknown
    exact (hagree.known source).mp hkept b hmem
  | some loaded =>
    obtain ⟨config, hconfig, hinvalid⟩ := hviolates
    rw [outcome_afresh hsource, hagree.fresh hkept hs (eq_of_outcome_sourceAt hsource).2] at hconfig
    cases hconfig
    exact hinvalid (hagree.valid hkept hasked)

/-- What loading comes to after any run. Where a configuration of the present source is kept it is that
configuration, whether or not the schema is asked for; where none is, it is loaded afresh. So it comes to
what loading afresh would come to, unless the schema is asked for, a configuration of the same source was
loaded without asking for it, and that configuration violates it. -/
theorem Run.load_transparent_iff (hS : ToldApart S) {s : Session} (h : Run tools S history s) (hs : S s)
    (root : Option Path) (strict : Bool) :
    match (sourceAt root).outcome s with
    | .error e => (load root strict tools).outcome s = .error e
    | .ok source =>
      ((load root strict tools).outcome s).map LoadedConfig.layer =
          (afresh root (strict && history.all fun e => e.1 ≠ source) tools).outcome s ∧
        (((load root strict tools).outcome s).map LoadedConfig.layer = (afresh root strict tools).outcome s ↔
          ¬(strict = true ∧ (source, false) ∈ history ∧ Violates tools root s)) := by
  have hagree := h.agree hS
  have hrun := run_load root strict tools s
  cases hsource : (sourceAt root).outcome s with
  | error e =>
    rw [hsource] at hrun
    simp only at hrun ⊢
    unfold Act.outcome
    rw [hrun]
  | ok source =>
    have hload := h.load_eq hS hs hsource strict
    refine ⟨hload, ?_⟩
    rw [hload]
    cases strict with
    | false => simp
    | true =>
      rw [Bool.true_and]
      cases hall : history.all fun e => e.1 ≠ source with
      | true =>
        have hmissing : (source, false) ∉ history := fun hmem => by
          simpa using List.all_eq_true.mp hall _ hmem
        simp [hmissing]
      | false =>
        obtain ⟨e, he, hsame⟩ := List.all_eq_false.mp hall
        obtain rfl : e.1 = source := by simpa using hsame
        have hwhen := h.mem_of_violates hS hs hsource ⟨e.2, he⟩
        rw [eq_comm, ← not_violates_iff hsource]
        exact ⟨fun hnot hboth => hnot hboth.2.2, fun hnot hviolates => hnot ⟨rfl, hwhen hviolates, hviolates⟩⟩

end

/-! ### A project without files -/

/-- Sessions without files. -/
def Bare (s : Session) : Prop := s.tree = .empty ∧ s.cwd = []

theorem toldApart_bare : ToldApart Bare := by
  intro s s' hs hs' root source _ _
  have htree := hs.1.trans hs'.1.symm
  have hcwd := hs.2.trans hs'.2.symm
  exact ⟨(Files.agrees_yamlFiles htree hcwd _).outcome,
    fun _ _ p _ => Files.sameFile_of_tree htree hcwd p⟩

/-- The path of the top directory. -/
def topPath : Path := ⟨"/", []⟩

/-- A variable that puts a number in the place of a section. -/
def misplaced : Session := { env := [("MODX_templates", "5")] }

theorem outcome_rootOf_topPath {s : Session} (hs : Bare s) :
    (rootOf (some topPath)).outcome s = .ok topPath := by
  have hplace : FileTree.empty.resolve [] topPath = topPath := by
    simp [FileTree.resolve, FileTree.realPlace, topPath, Path.isAbsolute]
  have hfind : FileTree.empty.find true [] topPath = .ok ([], some .directory) := by
    unfold FileTree.find
    rw [if_neg (by decide +kernel), if_neg (by decide +kernel)]
    simp [Path.steps, FileTree.walk, topPath, FileTree.get?, Path.isAbsolute]
  have hresolve : (Files.resolve topPath).outcome s = .ok topPath := by
    have hzero : FileTree.hasZero topPath = false := rfl
    unfold Files.resolve
    rw [Act.outcome_get_bind, hs.1, hs.2]
    simp only [hzero, hplace, hfind]
    rfl
  have hhome : (Path.expandHome (s.env.lookup "HOME") topPath) = .ok topPath := rfl
  change (Project.settle topPath).outcome s = _
  unfold Project.settle Project.home Act.valueOf
  rw [Act.outcome_bind]
  change (Act.ofExcept (Path.expandHome (s.env.lookup "HOME") topPath) >>= Files.resolve).outcome s = _
  rw [hhome]
  exact hresolve

theorem outcome_yamlFiles_bare {s : Session} (hs : Bare s) :
    (Files.yamlFiles (Project.configDirectory topPath)).outcome s = .ok [] := by
  have hdir : Project.configDirectory topPath = ⟨"/", [".modx", "config"]⟩ := by decide +kernel
  have hfind : FileTree.empty.find true [] ⟨"/", [".modx", "config"]⟩ = .error .missing := by
    unfold FileTree.find
    rw [if_neg (by decide +kernel), if_neg (by decide +kernel)]
    exact FileTree.walk_cons (by decide +kernel)
  have hnone : (Files.hasEntry (Project.configDirectory topPath)).outcome s = .ok false := by
    rw [Files.hasEntry, Files.outcome_look, hs.1, hs.2, hdir, FileTree.hasEntry, FileTree.entry?, hfind]
    rfl
  unfold Files.yamlFiles
  rw [(Files.looks_hasEntry _).outcome_bind, hnone]
  rfl

theorem outcome_readLayers_bare {s : Session} (hs : Bare s) :
    (readLayers topPath .own).outcome s = .ok (.plain defaults) := by
  have hmerge : (Files.mergeDirectory (.plain defaults) (Project.configDirectory topPath) .own).outcome s =
      .ok (.plain defaults) := by
    unfold Files.mergeDirectory
    rw [(Files.looks_yamlFiles _).outcome_bind, outcome_yamlFiles_bare hs]
    rfl
  unfold readLayers
  rw [Act.outcome_bind, Act.attempt_eq, hmerge]
  rfl

theorem outcome_sourceAt_bare {s : Session} (hs : Bare s) :
    (sourceAt (some topPath)).outcome s = .ok ⟨topPath, overrideVariables s.env, []⟩ := by
  unfold sourceAt
  rw [(looks_rootOf _).outcome_bind, outcome_rootOf_topPath hs]
  change (Files.yamlFiles (Project.configDirectory topPath) >>= _).outcome s = _
  rw [(Files.looks_yamlFiles _).outcome_bind, outcome_yamlFiles_bare hs]
  rfl

theorem validate_ne_ok {v : Value} (h : (checkAll schema v).isEmpty = false) : validate v ≠ .ok () := by
  have hsome : Checker.own.violations schema v ≠ [] := by
    intro hnone
    have hlength := congrArg List.length hnone
    rw [Checker.violations, List.length_mergeSort, List.length_nil, List.length_eq_zero_iff] at hlength
    change checkAll schema v = [] at hlength
    rw [hlength] at h
    cases h
  unfold validate
  split
  · next hnone => exact absurd hnone hsome
  · split <;> (intro hok; cases hok)

theorem violates_misplaced {s : Session} (hs : Bare s) (henv : s.env = misplaced.env) :
    Violates {} (some topPath) s := by
  have hone : overrideVariables s.env = [("MODX_templates", "5")] := by
    have hfilter : misplaced.env.filter (fun v => v.1.startsWith envPrefix) = misplaced.env := by
      decide +kernel
    rw [henv, overrideVariables, hfilter]
    simp [misplaced]
  have hviolates : (applyOverrides (.plain defaults) [("MODX_templates", "5")]).2.toOption.map
      (fun config => (checkAll schema (.dict config.mapping)).isEmpty) = some false := by decide +kernel
  unfold Violates
  rw [outcome_afresh (outcome_sourceAt_bare hs), (run_loadAfresh _ _ _ s).1, outcome_readLayers_bare hs, hone]
  cases hconfig : (applyOverrides (.plain defaults) [("MODX_templates", "5")]).2 with
  | error e =>
    rw [hconfig] at hviolates
    cases hviolates
  | ok config =>
    rw [hconfig] at hviolates
    have hempty : (checkAll schema (.dict config.mapping)).isEmpty = false := Option.some.inj hviolates
    exact ⟨config, by rw [Except.bind, hconfig]; rfl, validate_ne_ok hempty⟩

/-- What is loaded without asking for the schema is answered to those who ask for it. -/
theorem load_transparent_iff_misplaced : ∃ history s, ToldApart Bare ∧ Run {} Bare history s ∧ Bare s ∧
    ((load (some topPath) true {}).outcome s).map LoadedConfig.layer ≠
      (afresh (some topPath) true {}).outcome s := by
  have hs : Bare misplaced := ⟨rfl, rfl⟩
  obtain ⟨config, hconfig, -⟩ := violates_misplaced hs rfl
  have hsource := outcome_sourceAt_bare hs
  have hload := run_load (some topPath) false {} misplaced
  rw [hsource] at hload
  let source : ConfigSource := ⟨topPath, overrideVariables misplaced.env, []⟩
  obtain ⟨t, -, hkept⟩ := run_loadKept topPath false {} source misplaced
  rw [← outcome_afresh hsource, hconfig] at hkept
  have hfirst := Run.answered (some topPath) false hs hsource (hload.trans hkept) (.start rfl)
  let s : Session := { misplaced with configs := (keeping t source ⟨t.loads, config⟩).configs }
  have hconfigs : s.configs = (keeping t source ⟨t.loads, config⟩).configs := rfl
  have hrun := hfirst.change s hconfigs
  have hs' : Bare s := ⟨rfl, rfl⟩
  have hiff := hrun.load_transparent_iff toldApart_bare hs' (some topPath) true
  rw [outcome_sourceAt_bare hs'] at hiff
  refine ⟨_, s, toldApart_bare, hrun, hs', fun hequal => ?_⟩
  exact hiff.2.mp hequal ⟨rfl, List.mem_cons_self, violates_misplaced hs' rfl⟩

end Stencil.Config
