import Stencil.Config.Load
import Stencil.Proofs.Files.Looks

/-! Loading a configuration, step by step: its source, the layers that are read from it, and what is kept under
it. The schema is asked for last. -/
namespace Stencil.Config

open Act (Looks Agrees)

/-- What the configuration of a project that may be named is loaded from at present. -/
def sourceAt (root : Option Path) : Act ConfigSource := do sourceOf (← rootOf root)

/-- The configuration of a project that may be named, read from its sources. -/
def afresh (root : Option Path) (strict : Bool) (tools : Tools) : Act Layer := do
  loadAfresh (← rootOf root) strict tools

variable {tools : Tools} {s s' : Session}

/-! ### Reading the sources -/

theorem looks_rootOf (root : Option Path) : Looks (rootOf root) := by
  cases root with
  | some p => exact Project.looks_settle p
  | none => exact Project.looks_findRoot none

theorem looks_sourceOf (root : Path) : Looks (sourceOf root) :=
  (Files.looks_yamlFiles _).bind fun _ => Act.looks_get.bind fun _ => Act.looks_pure _

/-- The root and the overrides of a source, and the files that it lists. -/
theorem eq_of_outcome_sourceOf {root : Path} {source : ConfigSource}
    (h : (sourceOf root).outcome s = .ok source) :
    source.root = root ∧ source.overrides = overrideVariables s.env ∧
      ∃ files, (Files.yamlFiles (Project.configDirectory root)).outcome s = .ok files ∧
        source.files = files.map fun p => (p.name, stampOf s p) := by
  unfold sourceOf at h
  rw [(Files.looks_yamlFiles _).outcome_bind] at h
  cases hfiles : (Files.yamlFiles (Project.configDirectory root)).outcome s with
  | error e =>
    rw [hfiles] at h
    cases h
  | ok files =>
    rw [hfiles] at h
    cases h
    exact ⟨rfl, rfl, files, rfl, rfl⟩

/-- Overrides put in come to what they come to as they are read; the log of them changes no configuration. -/
theorem run_override (config : Layer) (env : List (String × String)) (s : Session) :
    (override config env).outcome s = (applyOverrides config (overrideVariables env)).2 ∧
      ((override config env).left s).configs = s.configs := by
  let told (place : List String) : Log.Record :=
    ⟨.debug, "modx.core.config.manager", "Applying env override " ++ ".".intercalate place⟩
  have hlog (places : List (List String)) (s : Session) :
      ∃ s', (forIn places PUnit.unit (fun place _ => do
        Act.log (told place)
        pure (ForInStep.yield PUnit.unit)) : Act PUnit) s = .ok PUnit.unit s' ∧
        s'.configs = s.configs := by
    induction places generalizing s with
    | nil => exact ⟨s, rfl, rfl⟩
    | cons place places ih =>
      obtain ⟨s', hrun, hconfigs⟩ := ih (s.log (told place))
      rw [List.forIn_cons]
      exact ⟨s', hrun, hconfigs.trans (Session.configs_log s _)⟩
  obtain ⟨s', hrun, hconfigs⟩ := hlog (applyOverrides config (overrideVariables env)).1 s
  have hoverride : override config env s =
      Act.ofExcept (applyOverrides config (overrideVariables env)).2 s' := Act.run_bind_ok hrun
  unfold Act.outcome Act.left
  rw [hoverride]
  cases (applyOverrides config (overrideVariables env)).2 with
  | ok layer => exact ⟨rfl, hconfigs⟩
  | error e => exact ⟨rfl, hconfigs⟩

theorem looks_readLayers (root : Path) (loader : Yaml.Loader) : Looks (readLayers root loader) := by
  have hmerge : Looks (Files.mergeDirectory (.plain defaults) (Project.configDirectory root) loader) :=
    fun t => (Files.agrees_mergeDirectory rfl (fun _ _ p _ => .refl t p) _).looks t
  refine hmerge.attempt.bind fun outcome => ?_
  split
  · exact Act.looks_pure _
  · exact Act.looks_throw _

/-- A configuration that keeps to the schema, if that is asked for. -/
def checked (strict : Bool) (checker : Checker) (config : Layer) : Except Error Layer :=
  if strict then (validate (.dict config.mapping) checker).map fun _ => config else .ok config

/-- What loading afresh comes to: layers of files, the overrides over them, and the schema. -/
theorem run_loadAfresh (root : Path) (strict : Bool) (tools : Tools) (s : Session) :
    (loadAfresh root strict tools).outcome s = (((readLayers root tools.loader).outcome s).bind fun layer =>
        (applyOverrides layer (overrideVariables s.env)).2).bind (checked strict tools.checker) ∧
      ((loadAfresh root strict tools).left s).configs = s.configs := by
  let finish (config : Layer) : Act Layer := do
    if strict then Act.ofExcept (validate (.dict config.mapping) tools.checker)
    return config
  have hfinish (config : Layer) (t : Session) :
      (finish config).outcome t = checked strict tools.checker config ∧ (finish config).left t = t := by
    unfold checked finish
    cases strict with
    | false => exact ⟨rfl, rfl⟩
    | true =>
      dsimp only [if_true]
      cases validate (.dict config.mapping) tools.checker with
      | ok _ => exact ⟨rfl, rfl⟩
      | error _ => exact ⟨rfl, rfl⟩
  have hload : loadAfresh root strict tools = readLayers root tools.loader >>= fun layer => get >>= fun s =>
    override layer s.env >>= finish := rfl
  rw [hload, (looks_readLayers root _).outcome_bind, (looks_readLayers root _).left_bind]
  cases (readLayers root tools.loader).outcome s with
  | error e => exact ⟨rfl, rfl⟩
  | ok layer =>
    obtain ⟨hout, hleft⟩ := run_override layer s.env s
    dsimp only [Except.bind]
    rw [Act.outcome_get_bind, Act.left_get_bind, Act.outcome_bind, Act.left_bind]
    unfold Act.outcome at hout
    unfold Act.left at hleft
    cases hrun : override layer s.env s with
    | error e t =>
      rw [hrun] at hout hleft
      rw [← hout]
      exact ⟨rfl, hleft⟩
    | ok config t =>
      rw [hrun] at hout hleft
      rw [← hout]
      exact ⟨(hfinish config t).1, (congrArg Session.configs (hfinish config t).2).trans hleft⟩

theorem checked_eq_ok_iff {strict : Bool} {checker : Checker} {config config' : Layer} :
    checked strict checker config = .ok config' ↔
      config = config' ∧ (strict = true → validate (.dict config.mapping) checker = .ok ()) := by
  unfold checked
  cases strict with
  | false =>
    exact ⟨fun h => ⟨Except.ok.inj h, fun hstrict => absurd hstrict Bool.false_ne_true⟩,
      fun h => congrArg Except.ok h.1⟩
  | true =>
    rw [if_pos rfl]
    cases hvalid : validate (.dict config.mapping) checker with
    | ok _ => exact ⟨fun h => ⟨Except.ok.inj h, fun _ => rfl⟩, fun h => congrArg Except.ok h.1⟩
    | error e =>
      constructor
      · intro h
        cases h
      · intro h
        cases h.2 rfl

/-- The schema is asked for last. -/
theorem outcome_loadAfresh (root : Path) (strict : Bool) (tools : Tools) (s : Session) :
    (loadAfresh root strict tools).outcome s = ((loadAfresh root false tools).outcome s).bind (checked strict tools.checker) := by
  rw [(run_loadAfresh root strict tools s).1, (run_loadAfresh root false tools s).1]
  cases ((readLayers root tools.loader).outcome s).bind fun layer =>
    (applyOverrides layer (overrideVariables s.env)).2 <;> rfl

/-- What is loaded is what loading without the schema comes to, and keeps to the schema if it is asked for. -/
theorem outcome_loadAfresh_eq_ok_iff {root : Path} {strict : Bool} {config : Layer} :
    (loadAfresh root strict tools).outcome s = .ok config ↔ (loadAfresh root false tools).outcome s = .ok config ∧
      (strict = true → validate (.dict config.mapping) tools.checker = .ok ()) := by
  rw [outcome_loadAfresh]
  cases (loadAfresh root false tools).outcome s with
  | error e =>
    constructor
    · intro h
      cases h
    · intro h
      cases h.1
  | ok config' =>
    change checked strict tools.checker config' = .ok config ↔ _
    rw [checked_eq_ok_iff, Except.ok.injEq]
    constructor
    · rintro ⟨rfl, hvalid⟩
      exact ⟨rfl, hvalid⟩
    · rintro ⟨rfl, hvalid⟩
      exact ⟨rfl, hvalid⟩

/-! ### Loading -/

/-- The source of a project that may be named is that of its root. -/
theorem eq_of_outcome_sourceAt {root : Option Path} {source : ConfigSource}
    (h : (sourceAt root).outcome s = .ok source) :
    (rootOf root).outcome s = .ok source.root ∧ (sourceOf source.root).outcome s = .ok source := by
  unfold sourceAt at h
  rw [(looks_rootOf root).outcome_bind] at h
  cases hroot : (rootOf root).outcome s with
  | error e =>
    rw [hroot] at h
    cases h
  | ok r =>
    rw [hroot] at h
    obtain ⟨rfl, -⟩ := eq_of_outcome_sourceOf (show (sourceOf r).outcome s = .ok source from h)
    exact ⟨rfl, h⟩

theorem outcome_afresh {root : Option Path} {source : ConfigSource}
    (h : (sourceAt root).outcome s = .ok source) (strict : Bool) (tools : Tools) :
    (afresh root strict tools).outcome s = (loadAfresh source.root strict tools).outcome s := by
  unfold afresh
  rw [(looks_rootOf root).outcome_bind, (eq_of_outcome_sourceAt h).1]
  rfl

/-- The session in which a configuration is kept. -/
def keeping (t : Session) (source : ConfigSource) (loaded : LoadedConfig) : Session :=
  { t with configs := (source, loaded) :: t.configs, loads := t.loads + 1 }

/-- A configuration loaded afresh and kept under its source. -/
def loadKept (root : Path) (strict : Bool) (tools : Tools) (source : ConfigSource) : Act LoadedConfig := do
  let config ← loadAfresh root strict tools
  let loaded : LoadedConfig := ⟨(← get).loads, config⟩
  modify fun s => keeping s source loaded
  return loaded

theorem load_eq (root : Option Path) (strict : Bool) (tools : Tools) :
    load root strict tools = rootOf root >>= fun r => sourceOf r >>= fun source => get >>= fun s =>
      match s.configs.lookup source with
      | some loaded => pure loaded
      | none => loadKept r strict tools source := rfl

/-- What loading does: it answers with what is kept of the source, or loads afresh and keeps that. -/
theorem run_load (root : Option Path) (strict : Bool) (tools : Tools) (s : Session) :
    match (sourceAt root).outcome s with
    | .error e => load root strict tools s = .error e s
    | .ok source => load root strict tools s =
      match s.configs.lookup source with
      | some loaded => .ok loaded s
      | none => loadKept source.root strict tools source s := by
  have hroot := (looks_rootOf root).run_eq s
  have hat : (sourceAt root).outcome s = ((rootOf root).outcome s).bind fun r => (sourceOf r).outcome s :=
    (looks_rootOf root).outcome_bind _ s
  rw [load_eq]
  cases hr : (rootOf root).outcome s with
  | error e =>
    rw [hr] at hroot hat
    rw [hat]
    exact Act.run_bind_error hroot
  | ok r =>
    rw [hr] at hroot hat
    have hat : (sourceAt root).outcome s = (sourceOf r).outcome s := hat
    have hsource := (looks_sourceOf r).run_eq s
    rw [hat]
    cases hs : (sourceOf r).outcome s with
    | error e =>
      rw [hs] at hsource
      exact (Act.run_bind_ok hroot).trans (Act.run_bind_error hsource)
    | ok source =>
      rw [hs] at hsource
      obtain ⟨rfl, -⟩ := eq_of_outcome_sourceOf hs
      refine ((Act.run_bind_ok hroot).trans (Act.run_bind_ok hsource)).trans ?_
      change (match s.configs.lookup source with
        | some loaded => pure loaded
        | none => loadKept source.root strict tools source : Act LoadedConfig) s = _
      cases s.configs.lookup source <;> rfl

theorem run_loadKept (root : Path) (strict : Bool) (tools : Tools) (source : ConfigSource) (s : Session) :
    ∃ t, t.configs = s.configs ∧ loadKept root strict tools source s =
      match (loadAfresh root strict tools).outcome s with
      | .ok config => .ok ⟨t.loads, config⟩ (keeping t source ⟨t.loads, config⟩)
      | .error e => .error e t := by
  have hconfigs := (run_loadAfresh root strict tools s).2
  unfold Act.left at hconfigs
  unfold Act.outcome
  cases hrun : loadAfresh root strict tools s with
  | error e t =>
    rw [hrun] at hconfigs
    exact ⟨t, hconfigs, Act.run_bind_error hrun⟩
  | ok config t =>
    rw [hrun] at hconfigs
    exact ⟨t, hconfigs, Act.run_bind_ok hrun⟩

/-- What is answered is what was kept, or it is loaded afresh and kept. -/
theorem kept_or_afresh {root : Option Path} {strict : Bool} {source : ConfigSource} {loaded : LoadedConfig}
    (hsource : (sourceAt root).outcome s = .ok source) (hload : load root strict tools s = .ok loaded s') :
    s.configs.lookup source = some loaded ∧ s'.configs = s.configs ∨
      s.configs.lookup source = none ∧ (loadAfresh source.root strict tools).outcome s = .ok loaded.layer ∧
        s'.configs = (source, loaded) :: s.configs := by
  have hrun := run_load root strict tools s
  rw [hsource] at hrun
  simp only [hload] at hrun
  cases hkept : s.configs.lookup source with
  | some kept =>
    rw [hkept] at hrun
    cases hrun
    exact .inl ⟨rfl, rfl⟩
  | none =>
    obtain ⟨t, hconfigs, hafresh⟩ := run_loadKept source.root strict tools source s
    rw [hkept, hafresh] at hrun
    cases hfresh : (loadAfresh source.root strict tools).outcome s with
    | error e =>
      rw [hfresh] at hrun
      cases hrun
    | ok config =>
      rw [hfresh] at hrun
      cases hrun
      exact .inr ⟨rfl, rfl, congrArg ((source, _) :: ·) hconfigs⟩

/-- Where loading fails nothing else is kept. -/
theorem configs_of_load_error {root : Option Path} {strict : Bool} {e : Error}
    (hload : load root strict tools s = .error e s') : s'.configs = s.configs := by
  have hrun := run_load root strict tools s
  cases hsource : (sourceAt root).outcome s with
  | error e' =>
    rw [hsource, hload] at hrun
    cases hrun
    rfl
  | ok source =>
    rw [hsource] at hrun
    simp only [hload] at hrun
    cases hkept : s.configs.lookup source with
    | some kept =>
      rw [hkept] at hrun
      cases hrun
    | none =>
      obtain ⟨t, hconfigs, hafresh⟩ := run_loadKept source.root strict tools source s
      rw [hkept, hafresh] at hrun
      cases hfresh : (loadAfresh source.root strict tools).outcome s with
      | error e' =>
        rw [hfresh] at hrun
        cases hrun
        exact hconfigs
      | ok config =>
        rw [hfresh] at hrun
        cases hrun

end Stencil.Config
