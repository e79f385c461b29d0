import Stencil.Proofs.Config.Cached
import Stencil.Proofs.Config.Overrides
import Stencil.Proofs.Files.Layers

/-! Which source of a configuration wins. A file wins over the defaults and over the files before it, wherever it
has a value that is neither a list nor a mapping; an override wins over all of these, and over the overrides before
it. In a graph that needs a condition: an override is put into the mapping that its place leads to, so it is seen in
all places of that mapping. -/
namespace Stencil.Config

variable {tools : Tools} {root : Path} {s : Session} {config merged : Layer} {layers : List Layer}
  {overrides : List (List String × Value)}

/-! ### Sources -/

theorem isProper_named (pairs : List (String × Value)) (hnames : (pairs.map Prod.fst).Nodup)
    (hparts : ∀ p ∈ pairs, p.2.IsProper ∧ ∀ items, p.2 ≠ .tuple items) : (named pairs).IsProper := by
  have hpart (q : Scalar × Value) (hq : q ∈ pairs.map fun p => (Scalar.str p.1, p.2)) :
      q.2.IsProper ∧ ∀ items, q.2 ≠ .tuple items := by
    obtain ⟨p, hp, rfl⟩ := List.mem_map.mp hq
    exact hparts p hp
  have hnamed : ∀ q ∈ pairs.map fun p => (Scalar.str p.1, p.2), ∃ name, q.1 = .str name := by
    intro q hq
    obtain ⟨p, -, rfl⟩ := List.mem_map.mp hq
    exact ⟨p.1, rfl⟩
  refine .dict ((Mapping.nodup_keys_iff_of_named hnamed).mpr ?_) (fun q hq => (hpart q hq).1)
    fun q hq => (hpart q hq).2
  have heq : Mapping.names (pairs.map fun p => (Scalar.str p.1, p.2)) = pairs.map Prod.fst := by
    unfold Mapping.names
    rw [List.filterMap_map]
    exact List.filterMap_eq_map (f := Prod.fst) ▸ rfl
  rwa [heq]

theorem isProper_defaults : (Layer.plain defaults).IsProper := by
  have hscalar (s : Scalar) : (Value.scalar s).IsProper ∧ ∀ items, Value.scalar s ≠ .tuple items := ⟨.scalar s, nofun⟩
  have hnamed {pairs : List (String × Value)} (h : (named pairs).IsProper) :
      (named pairs).IsProper ∧ ∀ items, named pairs ≠ .tuple items := ⟨h, nofun⟩
  have hpaths : (Value.list [.str "templates"]).IsProper := .list (List.forall_mem_singleton.mpr (.scalar _))
  refine .plain (isProper_named [("templates", defaultTemplates), ("cache", defaultCache),
    ("render", defaultRender), ("logging", defaultLogging)] (by decide) ?_)
  simp only [List.forall_mem_cons, List.not_mem_nil, false_implies, implies_true, and_true]
  refine ⟨hnamed (isProper_named _ (by decide) ?_), hnamed (isProper_named _ (by decide) ?_),
    hnamed (isProper_named _ (by decide) ?_), hnamed (isProper_named _ (by decide) ?_)⟩
  all_goals
    simp only [List.forall_mem_cons, List.not_mem_nil, false_implies, implies_true, and_true]
  · exact ⟨⟨hpaths, nofun⟩, hscalar _, hscalar _, hscalar _, hscalar _, hscalar _, hscalar _⟩
  · exact ⟨hscalar _, hscalar _, hscalar _, hscalar _, hscalar _⟩
  · exact ⟨hscalar _, hscalar _⟩
  · exact ⟨hscalar _, hscalar _⟩

/-- The layers of the files of a project, and the places and values of the overrides, each in turn. -/
structure ReadFrom (tools : Tools) (root : Path) (s : Session) (layers : List Layer)
    (overrides : List (List String × Value)) : Prop where
  layer : ∃ files, (Files.yamlFiles (Project.configDirectory root)).outcome s = .ok files ∧
    List.Forall₂ (fun p l => (Files.readLayer p tools.loader).outcome s = .ok l) files layers
  override : List.Forall₂ (fun x o => readOverride x.1 x.2 = .ok o) (overrideVariables s.env) overrides

theorem outcome_readLayers_eq_ok_iff : (readLayers root tools.loader).outcome s = .ok merged ↔
    ∃ files layers, (Files.yamlFiles (Project.configDirectory root)).outcome s = .ok files ∧
      List.Forall₂ (fun p l => (Files.readLayer p tools.loader).outcome s = .ok l) files layers ∧
      (Layer.plain defaults).mergeAll layers = some merged := by
  rw [← Files.outcome_mergeDirectory_eq_ok_iff]
  unfold readLayers
  rw [Act.outcome_bind, Act.attempt_eq]
  dsimp only
  cases (Files.mergeDirectory (.plain defaults) (Project.configDirectory root) tools.loader).outcome s with
  | ok config => rfl
  | error e =>
    constructor
    · intro h
      cases h
    · intro h
      cases h

/-- A configuration is loaded as the defaults with all layers merged over them and all overrides put in. -/
theorem outcome_loadAfresh_false_eq_ok_iff : (loadAfresh root false tools).outcome s = .ok config ↔
    ∃ layers overrides merged, ReadFrom tools root s layers overrides ∧
      (Layer.plain defaults).mergeAll layers = some merged ∧ setAll merged overrides = .ok config := by
  have hchecked (x : Except Error Layer) : x.bind (checked false tools.checker) = x := by cases x <;> rfl
  rw [(run_loadAfresh root false tools s).1, hchecked]
  refine bind_eq_ok_iff.trans ?_
  constructor
  · rintro ⟨merged, hlayers, h⟩
    obtain ⟨files, layers, hfiles, hread, hmerge⟩ := outcome_readLayers_eq_ok_iff.mp hlayers
    obtain ⟨overrides, hoverrides, hset⟩ := applyOverrides_eq_ok_iff.mp h
    exact ⟨layers, overrides, merged, ⟨⟨files, hfiles, hread⟩, hoverrides⟩, hmerge, hset⟩
  · rintro ⟨layers, overrides, merged, ⟨⟨files, hfiles, hread⟩, hoverrides⟩, hmerge, hset⟩
    exact ⟨merged, outcome_readLayers_eq_ok_iff.mpr ⟨files, layers, hfiles, hread, hmerge⟩,
      applyOverrides_eq_ok_iff.mpr ⟨overrides, hoverrides, hset⟩⟩

/-- The sources tell what is read from them. -/
theorem ReadFrom.unique (h : ReadFrom tools root s layers overrides) {layers' : List Layer}
    {overrides' : List (List String × Value)} (h' : ReadFrom tools root s layers' overrides') :
    layers = layers' ∧ overrides = overrides' := by
  obtain ⟨files, hfiles, hall⟩ := h.layer
  obtain ⟨files', hfiles', hall'⟩ := h'.layer
  obtain rfl : files = files' := Except.ok.inj (hfiles.symm.trans hfiles')
  have hlayer : Relator.RightUnique fun (p : Path) (l : Layer) => (Files.readLayer p tools.loader).outcome s = .ok l :=
    fun _ _ _ hl hl' => Except.ok.inj (hl.symm.trans hl')
  have hoverride : Relator.RightUnique fun (x : String × String) o => readOverride x.1 x.2 = .ok o :=
    fun _ _ _ ho ho' => Except.ok.inj (ho.symm.trans ho')
  exact ⟨hlayer.forall₂ hall hall', hoverride.forall₂ h.override h'.override⟩

theorem ReadFrom.isProper (h : ReadFrom tools root s layers overrides) : ∀ l ∈ layers, l.IsProper := by
  obtain ⟨files, -, hall⟩ := h.layer
  intro l hl
  obtain ⟨p, -, hp⟩ := exists_of_mem_forall₂ hall hl
  exact Files.isProper_of_readLayer hp

theorem ReadFrom.tree (h : ReadFrom tools root s layers overrides) :
    ∀ o ∈ overrides, o.1 ≠ [] ∧ o.2.hasKnot = false := by
  intro o ho
  obtain ⟨x, -, hx⟩ := exists_of_mem_forall₂ h.override ho
  exact readOverride_tree hx

/-! ### Precedence -/

/-- Which source a configuration has its values from. A layer's value that is neither a list nor a mapping is
there if no later layer says anything of its place, and every override is apart from it. An override is there if
every later one is apart from it. Both ask that no mapping on the way to the place is also, in another place, on
the way of one of these overrides. -/
theorem loadAfresh_precedence (h : (loadAfresh root false tools).outcome s = .ok config) :
    ∃ layers overrides merged, ReadFrom tools root s layers overrides ∧
      (Layer.plain defaults).mergeAll layers = some merged ∧
      (∀ before layer after p v, Layer.plain defaults :: layers = before ++ layer :: after →
        layer.at? p = some v → v.isLeaf = true → (∀ later ∈ after, later.Spares p) →
        (∀ o ∈ overrides, Apart p o.1 ∧ merged.Alone p o.1) → config.at? p = some v) ∧
      ∀ before o after, overrides = before ++ o :: after → merged.Alone o.1 o.1 →
        (∀ later ∈ after, Apart o.1 later.1 ∧ merged.Alone o.1 later.1) → config.at? o.1 = some o.2 := by
  obtain ⟨layers, overrides, merged, hread, hmerge, hset⟩ := outcome_loadAfresh_false_eq_ok_iff.mp h
  have hlayers := hread.isProper
  have htrees := hread.tree
  have hdefaults := isProper_defaults
  have hmerged := (Layer.isWhole_mergeAll hdefaults.isWhole hlayers hmerge).overlaid
  refine ⟨layers, overrides, merged, hread, hmerge, ?_, ?_⟩
  · intro before layer after p v hsplit hv hleaf hspares hall
    have hstands : merged.HasLeaf p v := by
      rcases List.cons_eq_append_iff.mp hsplit with ⟨-, hsame⟩ | ⟨between, -, rfl⟩
      · obtain ⟨rfl, rfl⟩ := List.cons.inj hsame
        exact Layer.hasLeaf_mergeAll_of_spares hdefaults.isWhole hlayers hmerge (hdefaults.hasLeaf hv hleaf) hspares
      · have hlayer := hlayers layer (List.mem_append_right _ List.mem_cons_self)
        exact Layer.hasLeaf_mergeAll hdefaults.isWhole hlayers hmerge (hlayer.hasLeaf hv hleaf) hspares
    exact (hasLeaf_setAll hmerged (fun o ho => (htrees o ho).2) hall hstands hset).at?
  · rintro before o after rfl hself hafter
    exact (bears_setAll_of_mem hmerged htrees hself hafter hset).at?

/-! ### A mapping in two places -/

deriving instance DecidableEq for Cell
deriving instance DecidableEq for Graph

/-- A text in which the mappings under `x` and `y` are the same mapping. -/
def sharingText : List Char := "x: &x\n  ttl: 60\ny: *x\ncache:\n  store: memory\n".toList

def sharingGraph : Graph :=
  ⟨#[.dict [(1, 2), (3, 2), (4, 5)], .scalar (.str "x"), .dict [(6, 7)], .scalar (.str "y"),
    .scalar (.str "cache"), .dict [(8, 9)], .scalar (.str "ttl"), .scalar (.int 60), .scalar (.str "store"),
    .scalar (.str "memory")]⟩

def sharingFile : Path := ⟨"/", [".modx", "config", "a.yaml"]⟩

/-- A project with that text as its only file, and a variable for something in `x`. -/
def sharing : Session where
  tree :=
    { entries :=
        [([".modx"], .directory), ([".modx", "config"], .directory),
         ([".modx", "config", "a.yaml"], .file (Text.Utf8.encode sharingText) 1 1)]
      stamp := 2 }
  env := [("MODX_X__TTL", "5")]

theorem walk_sharing (rest : List String) :
    sharing.tree.walk true FileTree.linkLimit [] (".modx" :: "config" :: rest) =
      sharing.tree.walk true FileTree.linkLimit [".modx", "config"] rest := by
  rw [FileTree.walk_directory (by decide +kernel) (by decide +kernel)]
  exact FileTree.walk_directory (by decide +kernel) (by decide +kernel)

theorem find_sharingFile : sharing.tree.find true sharing.cwd sharingFile =
    .ok ([".modx", "config", "a.yaml"], some (.file (Text.Utf8.encode sharingText) 1 1)) := by
  rw [FileTree.find, if_neg (by decide +kernel), if_neg (by decide +kernel)]
  exact (walk_sharing _).trans
    (FileTree.walk_file (by decide +kernel) (by decide +kernel))

theorem yamlNames_sharing : Files.yamlNames ["a.yaml"] = ["a.yaml"] := by
  have hfound : (Files.yamlEndings.flatMap fun ending =>
      ["a.yaml"].filterMap fun name => (Files.stem? ending name).map fun stem => (stem, name)) =
      [("a", "a.yaml")] := by decide +kernel
  have hstems : ([("a", "a.yaml")].map Prod.fst).eraseDups = ["a"] := by decide +kernel
  rw [Files.yamlNames, hfound, hstems, List.mergeSort_singleton]
  rfl

theorem outcome_yamlFiles_sharing :
    (Files.yamlFiles (Project.configDirectory topPath)).outcome sharing = .ok [sharingFile] := by
  have hdir : Project.configDirectory topPath = ⟨"/", [".modx", "config"]⟩ := by decide +kernel
  have hfind : sharing.tree.find true sharing.cwd (Project.configDirectory topPath) =
      .ok ([".modx", "config"], some .directory) := by
    rw [hdir, FileTree.find, if_neg (by decide +kernel), if_neg (by decide +kernel)]
    refine (walk_sharing []).trans ?_
    rw [FileTree.walk]
    decide +kernel
  have hbelow : (sharing.tree.entries.filterMap fun e =>
      if e.1.dropLast = [".modx", "config"] ∧ e.1 ≠ [] then e.1.getLast? else none) = ["a.yaml"] := by
    decide +kernel
  have hnames : Files.names (Project.configDirectory topPath) sharing = .ok ["a.yaml"] sharing := by
    rw [Files.names, Act.run_get_bind, FileTree.names, hfind]
    dsimp only
    rw [FileTree.namesBelow, hbelow, List.mergeSort_singleton]
    rfl
  unfold Files.yamlFiles Act.outcome
  rw [Act.run_bind_ok (Files.run_hasEntry (FileTree.hasEntry_of_find hfind)), Option.isSome_some, if_pos rfl,
    Act.run_bind_ok hnames, yamlNames_sharing, hdir]
  rfl

theorem eq_ok_of_toOption {ε α : Type} {x : Except ε α} {a : α} (h : x.toOption = some a) : x = .ok a := by
  cases x with
  | error e => cases h
  | ok b => exact congrArg Except.ok (Option.some.inj h)

theorem read_sharing : Yaml.Loader.own.read (.file sharingFile.text) (Text.Utf8.foldNewlines sharingText) =
    .ok (sharingGraph, 0) :=
  eq_ok_of_toOption (by decide +kernel)

theorem readFrom_sharing : ReadFrom {} topPath sharing [.shared sharingGraph 0] [(["x", "ttl"], .int 5)] where
  layer := by
    have hlayer : (Files.readLayer sharingFile .own).outcome sharing = .ok (.shared sharingGraph 0) :=
      Files.outcome_readLayer_of_find find_sharingFile read_sharing rfl
    exact ⟨[sharingFile], outcome_yamlFiles_sharing, .cons hlayer .nil⟩
  override := by
    have hfilter : sharing.env.filter (fun v => v.1.startsWith envPrefix) = sharing.env := by decide +kernel
    rw [overrideVariables, hfilter]
    refine (List.mergeSort_singleton (r := fun a b : String × String => a.1 ≤ b.1) _).symm ▸ ?_
    exact .cons rfl .nil

/-- The scalar at a place. -/
def scalarAt? (l : Layer) (p : List String) : Option Scalar :=
  match l.at? p with
  | some (.scalar s) => some s
  | _ => none

theorem at?_of_scalarAt? {l : Layer} {p : List String} {x : Scalar} (h : scalarAt? l p = some x) :
    l.at? p = some (.scalar x) := by
  unfold scalarAt? at h
  split at h
  · next hl =>
    cases h
    exact hl
  · cases h

theorem exists_setAll_sharing : ∃ merged config,
    (Layer.plain defaults).mergeAll [.shared sharingGraph 0] = some merged ∧
      setAll merged [(["x", "ttl"], .int 5)] = .ok config ∧
      (∀ p ∈ [["x", "ttl"], ["cache", "store"], ["cache", "ttl"]], merged.Alone p ["x", "ttl"]) ∧
      config.at? ["y", "ttl"] = some (.int 5) := by
  have hcheck : (((Layer.plain defaults).mergeAll [.shared sharingGraph 0]).any fun merged =>
      decide (∀ p ∈ [["x", "ttl"], ["cache", "store"], ["cache", "ttl"]], merged.Alone p ["x", "ttl"]) &&
        (setAll merged [(["x", "ttl"], .int 5)]).toOption.any fun config =>
          decide (scalarAt? config ["y", "ttl"] = some (.int 5))) = true := by
    decide +kernel
  obtain ⟨merged, hmerge, hcheck⟩ := (Option.any_eq_true _ _).mp hcheck
  obtain ⟨halone, hcheck⟩ := Bool.and_eq_true_iff.mp hcheck
  obtain ⟨config, hset, hy⟩ := (Option.any_eq_true _ _).mp hcheck
  exact ⟨merged, config, hmerge, eq_ok_of_toOption hset, of_decide_eq_true halone,
    at?_of_scalarAt? (of_decide_eq_true hy)⟩

theorem spares_sharing : (Layer.shared sharingGraph 0).Spares ["cache", "ttl"] where
  none := rfl
  mapping q w hq hw := by
    have hq : q ∈ [[], ["cache"], ["cache", "ttl"]] := (List.mem_inits q ["cache", "ttl"]).mpr hq
    simp only [List.mem_cons, List.not_mem_nil, or_false] at hq
    rcases hq with rfl | rfl | rfl
    · exact ⟨_, (Option.some.inj hw).symm⟩
    · exact ⟨_, (Option.some.inj hw).symm⟩
    · cases hw

/-- The override is there, and what the file and the defaults say of other places. -/
theorem loadAfresh_precedence_sharing : ∃ config, (loadAfresh topPath false).outcome sharing = .ok config ∧
    config.at? ["x", "ttl"] = some (.int 5) ∧ config.at? ["cache", "store"] = some (.str "memory") ∧
    config.at? ["cache", "ttl"] = some (.int 3600) := by
  obtain ⟨merged, config, hmerge, hset, halone, -⟩ := exists_setAll_sharing
  have hload := outcome_loadAfresh_false_eq_ok_iff.mpr ⟨_, _, merged, readFrom_sharing, hmerge, hset⟩
  obtain ⟨layers, overrides, merged', hread, hmerge', hlayers, hoverrides⟩ := loadAfresh_precedence hload
  obtain ⟨rfl, rfl⟩ := hread.unique readFrom_sharing
  obtain rfl : merged = merged' := Option.some.inj (hmerge.symm.trans hmerge')
  have hapart (p : List String) (hp : p ∈ [["x", "ttl"], ["cache", "store"], ["cache", "ttl"]])
      (happ : Apart p ["x", "ttl"]) : ∀ o ∈ [(["x", "ttl"], Value.int 5)], Apart p o.1 ∧ merged.Alone p o.1 :=
    List.forall_mem_singleton.mpr ⟨happ, halone p hp⟩
  refine ⟨config, hload, hoverrides [] _ [] rfl (halone _ (by simp)) nofun, ?_, ?_⟩
  · exact hlayers [.plain defaults] _ [] _ _ rfl rfl rfl nofun (hapart _ (by simp) (by decide))
  · exact hlayers [] _ [_] _ _ rfl rfl rfl (List.forall_mem_singleton.mpr spares_sharing)
      (hapart _ (by simp) (by decide))

/-- An override is seen in all places of the mapping that it is put into: the file says 60 under `y`, no override
is there, and the configuration says 5. -/
theorem loadAfresh_sharing_y : ∃ config, (loadAfresh topPath false).outcome sharing = .ok config ∧
    ReadFrom {} topPath sharing [.shared sharingGraph 0] [(["x", "ttl"], .int 5)] ∧
    (Layer.shared sharingGraph 0).at? ["y", "ttl"] = some (.int 60) ∧ Apart ["y", "ttl"] ["x", "ttl"] ∧
    config.at? ["y", "ttl"] = some (.int 5) := by
  obtain ⟨merged, config, hmerge, hset, -, hy⟩ := exists_setAll_sharing
  exact ⟨config, outcome_loadAfresh_false_eq_ok_iff.mpr ⟨_, _, merged, readFrom_sharing, hmerge, hset⟩,
    readFrom_sharing, rfl, by decide, hy⟩

end Stencil.Config
