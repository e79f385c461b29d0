import Stencil.Config.Override
import Stencil.Config.Schema
import Stencil.Files.Yaml
import Stencil.Project
import Stencil.Value.Basic

/-! The configuration of a project: the defaults, the project's files over them, and the overrides of the
environment over both. A configuration is loaded once for each source; when a file or an override
changes, the source is another one. -/
namespace Stencil.Config

/-! ### The defaults -/

/-- A mapping from names to values. -/
def named (pairs : List (String × Value)) : Value := .dict (pairs.map fun p => (.str p.1, p.2))

def defaultTemplates : Value :=
  named [("paths", .list [.str "templates"]), ("extension", .str ".modx"),
    ("layouts_dir", .str "layouts"), ("components_dir", .str "components"),
    ("create_missing", .bool false), ("max_iterations", .int 100), ("default_layout", .null)]

def defaultCache : Value :=
  named [("enabled", .bool true), ("store", .str "filesystem"), ("directory", .str ".modx/cache"),
    ("namespace", .str "template"), ("ttl", .int 3600)]

def defaultRender : Value :=
  named [("dump_compiled", .bool false), ("dump_dir", .str ".modx/compiled")]

def defaultLogging : Value := named [("level", .str "WARNING"), ("file", .null)]

def defaults : Mapping :=
  [(.str "templates", defaultTemplates), (.str "cache", defaultCache),
   (.str "render", defaultRender), (.str "logging", defaultLogging)]

/-! ### Loading -/

/-- What configurations are loaded with. -/
structure Tools where
  loader : Yaml.Loader := .own
  checker : Checker := .own

/-- A configuration that keeps to the schema. -/
def validate (v : Value) (checker : Checker := .own) : Except Error Unit :=
  match checker.violations schema v with
  | [] => .ok ()
  | vs =>
    match vs.findSome? Violation.fault with
    | some fault => .error (.ofShowFault fault)
    | none => .error (.config (.invalid (vs.map Violation.text)))

/-- Whether an error says that the files of a project are at fault. -/
def isFileFault : Error → Bool
  | .value (.notFinite word) => word != "infinity"
  | .value _ | .notUtf8 _ | .notJson | .notYaml _ => true
  | .noFile _ | .occupied _ | .system _ _ => true
  | _ => false

/-- Whether an error says that a text is no YAML. -/
def isYamlFault : Error → Bool
  | .notYaml _ => true
  | _ => false

/-- The files of a project over the defaults. -/
def readLayers (root : Path) (loader : Yaml.Loader) : Act Layer := do
  let dir := Project.configDirectory root
  match ← Act.attempt (Files.mergeDirectory (.plain defaults) dir loader) with
  | .ok config => return config
  | .error e =>
    throw (if isFileFault e then .config (.unreadable dir.text (isYamlFault e) e.message) else e)

/-- Overrides put into a configuration, each of which is logged. -/
def override (config : Layer) (env : List (String × String)) : Act Layer := do
  let (places, outcome) := applyOverrides config (overrideVariables env)
  for place in places do
    Act.log ⟨.debug, "modx.core.config.manager", "Applying env override " ++ ".".intercalate place⟩
  Act.ofExcept outcome

/-- The configuration of a project, read from its sources. -/
def loadAfresh (root : Path) (strict : Bool) (tools : Tools := {}) : Act Layer := do
  let config ← override (← readLayers root tools.loader) (← get).env
  if strict then Act.ofExcept (validate (.dict config.mapping) tools.checker)
  return config

/-- The stamp and the size of a file; a link to nowhere has none. -/
def stampOf (s : Session) (p : Path) : Nat × Nat :=
  match s.tree.find true s.cwd p with
  | .ok (_, some (.file content stamp _)) => (stamp, content.length)
  | _ => (0, 0)

/-- What the configuration of a project is loaded from at present. -/
def sourceOf (root : Path) : Act ConfigSource := do
  let files ← Files.yamlFiles (Project.configDirectory root)
  let s ← get
  return { root, overrides := overrideVariables s.env
           files := files.map fun p => (p.name, stampOf s p) }

/-- The root of a project that may be named; else it is looked for. -/
def rootOf (root : Option Path) : Act Path :=
  match root with
  | some p => Project.settle p
  | none => Project.findRoot none

/-- The configuration of a project: the one that was loaded from the same source before, or a new one. -/
def load (root : Option Path) (strict : Bool := true) (tools : Tools := {}) : Act LoadedConfig := do
  let root ← rootOf root
  let source ← sourceOf root
  match (← get).configs.lookup source with
  | some loaded => return loaded
  | none =>
    let config ← loadAfresh root strict tools
    let loaded : LoadedConfig := ⟨(← get).loads, config⟩
    modify fun s => { s with configs := (source, loaded) :: s.configs, loads := s.loads + 1 }
    return loaded

/-- Whether the configuration of a project is loaded already. -/
def isLoaded (root : Option Path) : Act Bool := do
  let source ← sourceOf (← rootOf root)
  return ((← get).configs.lookup source).isSome

/-- Forgets all configurations. -/
def forget : Act Unit := modify fun s => { s with configs := [] }

/-- The value at a place, whose names are joined by dots. -/
def find? (config : Mapping) (place : String) : Option Value :=
  (Text.splitOn '.' place.toList).foldl (fun v name =>
    match v with
    | some (.dict m) => Mapping.get? m (.str (String.ofList name))
    | _ => none) (some (.dict config))

end Stencil.Config
