import Stencil.Command.Console
import Stencil.Command.Line
import Stencil.Engine.OfConfig
import Stencil.Files.Yaml
import Stencil.Log.Configure

/-! The commands that work on pages: rendering one, and showing one compiled. The data of a page is from a file and
from assignments, which win over the file. -/
namespace Stencil.Command

/-! ### Data -/

/-- `key=value`, where the value is YAML and the key is not blank. -/
def parseAssignment (text : String) : Except Error (String × Value) :=
  let s := text.toList
  let key := Text.strip (s.takeWhile (· != '='))
  match s.dropWhile (· != '=') with
  | [] => .error (.value (.notAssignment (String.ofList (Text.quoted s))))
  | _ :: raw =>
    if key = [] then .error (.value (.notAssignment (String.ofList (Text.quoted s))))
    else if Text.strip raw = [] then .ok (String.ofList key, .str "")
    else (Yaml.read (.given raw) raw).map fun v => (String.ofList key, v)

/-- The values of assignments, of which a later one wins over an earlier one. -/
def assignments (texts : List String) : Except Error Mapping :=
  texts.foldlM (fun data text => do
    let (key, v) ← parseAssignment text
    return Mapping.insert data (.str key) v) []

/-- The mapping in a data file. -/
def readData (path : String) : Act Mapping := do
  match (← Files.readYaml (Path.ofString path) (.dict []) true).opened with
  | .dict data => return data
  | _ => throw (.value (.dataNotMapping path))

/-- All data of a page. -/
def pageData (file : Option String) (texts : List String) : Act Mapping := do
  let data ←
    match file with
    | some path => readData path
    | none => pure []
  return data.overlay (← Act.ofExcept (assignments texts))

/-! ### Pages -/

/-- The root of the project that a command is for. -/
def rootOf (args : Arguments) : Act Path :=
  match textOf args "repo_root" with
  | some p => Files.resolve (Path.ofString p)
  | none => Project.findRoot none

/-- Opens the log as the configuration says; a verbose command logs everything. -/
def openLog (args : Arguments) (root : Path) : Act Unit := do
  let settings ← Config.settingsOf root (← Config.load (some root)).config
  let level ← if isSet args "verbose" then pure "DEBUG" else Act.ofExcept settings.logLevel
  Log.configure level (← Act.ofExcept settings.logFile)

/-- What a command sets differently from the configuration. -/
def overridesOf (args : Arguments) (cached : Bool) : Act Mapping := do
  let paths ← (textsOf args "paths").mapM fun p => Files.resolve (Path.ofString p)
  let listing := Value.list (paths.map fun p => .str p.text)
  let part (name key : String) (v : Value) : Mapping := [(.str name, .dict [(.str key, v)])]
  return (if paths.isEmpty then [] else part "templates" "paths" listing)
    ++ (if cached then [] else part "cache" "enabled" (.bool false))

/-- The engine for a page, with its data and layout. -/
def engineFor (args : Arguments) (root : Path) (cached : Bool) : Act Engine := do
  let engine ← Engine.ofConfig (some root) (← overridesOf args cached)
  let engine := engine.withData (← pageData (textOf args "data_file") (textsOf args "values"))
  return match textOf args "layout" with
    | some name => engine.withLayout (some name)
    | none => engine

/-- The name of the page. -/
def pageName (args : Arguments) : String :=
  match Mapping.get? args (.str "name") with
  | some (.str name) => name
  | _ => ""

def consoleOf (args : Arguments) : Console := { json := isSet args "json" }

/-- Renders a page and prints it. -/
def renderPage (args : Arguments) : Act Nat := do
  let console := consoleOf args
  console.guard "template_render_error" do
    let root ← rootOf args
    openLog args root
    let engine ← engineFor args root (!isSet args "no_cache")
    let name := pageName args
    let (outcome, _) ← engine.render name ((wholeOf args "ttl").map .whole)
    let output ← Act.ofExcept outcome
    if console.json then
      console.value (.dict (Console.fields [("template", .str name), ("output", .str output)]))
    else Act.print output.toList
    return 0

/-- A text that may be missing. -/
def textOrNull (s : Option String) : Value := (s.map Value.str).getD .null

def listOf (names : List String) : Value := .list (names.map .str)

/-- The fields of a report. -/
def reportFields (r : Template.Report) : Mapping :=
  Console.fields
    [("template_name", .str r.templateName), ("template_path", textOrNull r.templatePath),
     ("layout", textOrNull r.layout), ("passes", .int r.passes),
     ("loops_expanded", .int r.loopsExpanded), ("comments_converted", .int r.commentsConverted),
     ("components_included", listOf r.componentsIncluded),
     ("components_skipped", listOf r.componentsSkipped),
     ("variables_substituted", listOf (Template.sortedNames r.variablesSubstituted)),
     ("variables_missing", listOf (Template.sortedNames r.variablesMissing)),
     ("warnings", listOf r.warnings)]

/-- Compiles a page and prints the compiled text and the report. -/
def compilePage (args : Arguments) : Act Nat := do
  let console := consoleOf args
  console.guard "template_compile_error" do
    let root ← rootOf args
    openLog args root
    let page ← (← engineFor args root false).compile (pageName args)
    if console.json then
      console.value (.dict (Console.fields
        [("template", .str page.name), ("path", .str page.path.text),
         ("source", .str (String.ofList page.source)), ("report", .dict (reportFields page.report))]))
    else
      Console.text (String.ofList page.source)
      Console.text ""
      Console.text ("# " ++ page.report.summary)
      for warning in page.report.warnings do
        Console.text ("# warning: " ++ warning)
    return 0

end Stencil.Command
