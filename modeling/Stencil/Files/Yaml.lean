import Stencil.Files.Access
import Stencil.Proofs.Yaml.Making

/-! YAML files, and directories of them. The library relies on a loader of YAML for values of which no part is
missing and whose mappings list each key once, and for nothing else. -/
namespace Stencil

namespace Yaml

/-- Something that reads texts of YAML. -/
structure Loader where
  read : Source → List Char → Except Error (Graph × Nat)
  /-- What is read is a part of a proper graph. -/
  isProper_of_read : ∀ {source : Source} {text : List Char} {g : Graph} {n : Nat},
    read source text = .ok (g, n) → g.IsProper ∧ n < g.size

/-- The loader that makes the values by itself. -/
def Loader.own : Loader where
  read := readGraphFrom
  isProper_of_read := isProper_of_readGraphFrom

end Yaml

namespace Files

/-- Whether an error says that a file cannot be read, or that it holds no YAML. -/
def isUnreadable : Error → Bool
  | .system _ _ => true
  | .notYaml _ => true
  | _ => false

/-- The value in a file, as a number in a graph. There is none in a file that says nothing, and unless `strict`
says otherwise also none in one that is not there or cannot be read. -/
def readParts (p : Path) (strict : Bool) (loader : Yaml.Loader := .own) : Act (Option (Graph × Nat)) := do
  if ← hasEntry p then
    let outcome ← Act.attempt do
      Act.ofExcept (loader.read (.file p.text) (← readLines p))
    match outcome with
    | .ok (g, n) =>
      match g.cell n with
      | .scalar .null => return none
      | _ => return some (g, n)
    | .error e => if isUnreadable e && !strict then return none else throw e
  else if strict then throw (.noFile s!"File not found: {p.text}")
  else return none

/-- The value in a file, or `fallback` if there is none. -/
def readYaml (p : Path) (fallback : Value) (strict : Bool) : Act Value := do
  match ← readParts p strict with
  | some (g, n) => return g.value n
  | none => return fallback

/-- The two endings of YAML files; a file with the first one hides one with the second. -/
def yamlEndings : List String := [".yaml", ".yml"]

/-- The name of a file without its ending, if it has that ending. A name that is nothing else is kept. -/
def stem? (ending name : String) : Option String :=
  if name.endsWith ending then
    some (if name = ending then name else (name.dropEnd ending.length).toString)
  else none

/-- The YAML files among names, in the order of their stems. -/
def yamlNames (names : List String) : List String :=
  let found := yamlEndings.flatMap fun ending =>
    names.filterMap fun name => (stem? ending name).map fun stem => (stem, name)
  let stems := (found.map Prod.fst).eraseDups.mergeSort (· ≤ ·)
  stems.filterMap fun stem => found.lookup stem

/-- The YAML files in a directory, which need not be there. -/
def yamlFiles (dir : Path) : Act (List Path) := do
  if ← hasEntry dir then return (yamlNames (← names dir)).map dir.child else return []

/-- The mapping in a file of a layered directory. -/
def readLayer (p : Path) (loader : Yaml.Loader := .own) : Act Layer := do
  match ← readParts p true loader with
  | none => return .plain []
  | some (g, n) =>
    match g.cell n with
    | .dict _ => return .ofGraph g n
    | cell => if cell.truthy then throw (.value (.configNotMapping p.text)) else return .plain []

/-- The mappings in the files of a directory, one over the other, over `base`. -/
def mergeDirectory (base : Layer) (dir : Path) (loader : Yaml.Loader := .own) : Act Layer := do
  let files ← yamlFiles dir
  files.foldlM (fun acc p => do
    match acc.merge (← readLayer p loader) with
    | some layer => return layer
    | none => throw .nesting) base

end Files

end Stencil
