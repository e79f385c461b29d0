import Stencil.Command.Upkeep

/-! All commands, the words they understand, and the running of a command line. -/
namespace Stencil.Command

/-- A command of a domain. -/
structure Entry where
  name : String
  summary : String
  options : List OptionRule
  operand : Operand
  run : Arguments → Act Nat

/-- The name of the program and its version. -/
def program : String := "modx"

def versionText : String := "0.4.0"

def helpRule : OptionRule := ⟨["-h", "--help"], "help", .help⟩

def jsonRule : OptionRule := ⟨["--json"], "json", .nothing⟩

def rootRule : OptionRule := ⟨["--repo-root"], "repo_root", .text⟩

def verboseRule : OptionRule := ⟨["--verbose", "-v"], "verbose", .nothing⟩

/-- The options of commands that keep a log. -/
def usualRules : List OptionRule := [jsonRule, rootRule, verboseRule]

/-- The options of commands that work on a page. -/
def pageRules : List OptionRule :=
  [⟨["--set"], "values", .texts⟩, ⟨["--data"], "data_file", .text⟩,
   ⟨["--layout"], "layout", .text⟩, ⟨["--path"], "paths", .texts⟩]

def renderEntry : Entry where
  name := "render"
  summary := "Render a template to stdout"
  options := pageRules ++ [⟨["--ttl"], "ttl", .whole⟩, ⟨["--no-cache"], "no_cache", .nothing⟩]
    ++ usualRules
  operand := .needed "name"
  run := renderPage

def compileEntry : Entry where
  name := "compile"
  summary := "Show the compiled text of a template without executing it"
  options := pageRules ++ usualRules
  operand := .needed "name"
  run := compilePage

def clearEntry : Entry where
  name := "clear"
  summary := "Clear cached renders"
  options := ⟨["--template"], "template", .text⟩ :: usualRules
  operand := .none
  run := clearCache

def showEntry : Entry where
  name := "show"
  summary := "Show current configuration"
  options := [jsonRule, rootRule]
  operand := .optional "key"
  run := showConfig

/-- The domains of commands. -/
def domains : List (String × List Entry) :=
  [("cache", [clearEntry]), ("config", [showEntry]), ("template", [compileEntry, renderEntry])]

/-- The words after the name of a command, which is at `place`. -/
def Entry.grammar (e : Entry) (place : String) : Grammar :=
  { place, options := helpRule :: e.options, operand := e.operand }

/-- The words after the name of a domain. -/
def domainGrammar (domain : String) (entries : List Entry) : Grammar :=
  let place := program ++ " " ++ domain
  { place, options := [helpRule]
    operand := .command "command" fun name =>
      (entries.find? fun e => e.name == name).map fun e => (e.grammar (place ++ " " ++ name)).read }

/-- The words of a line. -/
def grammar : Grammar :=
  { place := program, options := [helpRule, ⟨["--version"], "version", .version⟩]
    operand := .command "domain" fun name =>
      (domains.lookup name).map fun entries => (domainGrammar name entries).read }

/-- The first line of the help for a place. -/
def usage (place : String) : String := s!"usage: {place} [-h] ..."

/-- Prints why a line runs nothing, and how the program exits. -/
def report : Stop → Act Nat
  | .help place => do
    Console.text (usage place)
    return 0
  | .version => do
    Console.text (program ++ " " ++ versionText)
    return 0
  | .misuse place reason => do
    Act.printError (usage place ++ "\n" ++ place ++ ": error: " ++ reason ++ "\n").toList
    return 2

/-- Runs the command of a line. -/
def dispatch (args : Arguments) : Act Nat := do
  match textOf args "domain" with
  | none => report (.help program)
  | some domain =>
    let entries := (domains.lookup domain).getD []
    match (textOf args "command").bind fun name => entries.find? fun e => e.name == name with
    | none => report (.help (program ++ " " ++ domain))
    | some e => e.run args

/-- Runs a line that is read by a grammar, and closes the log. -/
def runWith (g : Grammar) (run : Arguments → Act Nat) (line : List String) : Act Nat := do
  let exit ←
    match g.readAll line with
    | .error stop => report stop
    | .ok args => run args
  Log.close
  return exit

/-- Runs a whole line. -/
def runLine (line : List String) : Act Nat := runWith grammar dispatch line

/-- Runs one command with the words after its name. -/
def Entry.runLine (e : Entry) (line : List String) : Act Nat :=
  runWith (e.grammar (program ++ " " ++ e.name)) e.run line

end Stencil.Command
