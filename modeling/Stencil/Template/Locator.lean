import Stencil.Files.Access
import Stencil.Template.Scope

/-! Finding template files in an ordered list of directories, each of which must be there or may be made. Layouts
and components are looked for in a directory of their kind first; the first file wins. -/
namespace Stencil.Template

/-- Where templates are looked for. -/
structure Locator where
  paths : List Path
  extension : String := ".modx"
  layoutsDir : String := "layouts"
  componentsDir : String := "components"

/-- Files as seen from a directory. -/
structure FileView where
  tree : FileTree
  cwd : List String

namespace Locator

/-- The files that a name can mean in one directory, in the order in which they are tried. -/
def candidates (l : Locator) (kind : TemplateKind) (name : Path) (directory : Path) : List Path :=
  let file := name.text ++ l.extension
  match kind with
  | .template => [directory.child file]
  | .layout => [(directory.child l.layoutsDir).child file, directory.child file]
  | .component => [(directory.child l.componentsDir).child file, directory.child file]

/-- The first of the paths that is a file. -/
def firstFile (files : FileView) : List Path → Except Error (Option Path)
  | [] => .ok none
  | p :: rest =>
    match files.tree.isFile files.cwd p with
    | .error fault => .error (.ofPathFault fault p.text)
    | .ok true => .ok (some p)
    | .ok false => firstFile files rest

/-- The path that a template name writes. -/
def namePath (name : String) : Path := Path.ofList (Text.strip name.toList)

/-- Whether a name may be looked for: it leads somewhere, and not out of a directory. -/
def isSafe (p : Path) : Bool := p.isContained && !p.parts.isEmpty

/-- The file of a name. -/
def resolve (l : Locator) (files : FileView) (kind : TemplateKind) (name : String) :
    Except Error Path :=
  let absent : Error := .templateNotFound kind name (l.paths.map Path.text)
  let p := namePath name
  if isSafe p then
    match firstFile files (l.paths.flatMap (l.candidates kind p)) with
    | .error e => .error e
    | .ok (some found) => .ok found
    | .ok none => .error absent
  else .error absent

end Locator

/-- The text of a file, with line feeds for line ends of every kind. -/
def readTextFile (files : FileView) (p : Path) : Except Error (List Char) :=
  match files.tree.hasEntry files.cwd p with
  | .error fault => .error (.ofPathFault fault p.text)
  | .ok false => .error (.noFile s!"Text file not found: {p.text}")
  | .ok true =>
    match files.tree.read files.cwd p with
    | .error fault => .error (.ofPathFault fault p.text)
    | .ok bytes =>
      match Text.Utf8.decode bytes with
      | .error fault => .error (.notUtf8 fault)
      | .ok text => .ok (Text.Utf8.foldNewlines text)

/-- The templates of a locator. -/
def Locator.library (l : Locator) (files : FileView) : Library where
  resolve := l.resolve files
  read := readTextFile files

/-! ### Directories -/

namespace Locator

/-- Whether an error says that a directory is not there and cannot be. -/
def isNoDirectory : Error → Bool
  | .noFile _ | .occupied _ | .system .missing _ | .system .notDirectory _ => true
  | _ => false

/-- The locator with one more directory at the end, unless it has that directory already. -/
def addPath (l : Locator) (p : Path) (create : Bool) : Act Locator := do
  match ← Act.attempt (Files.ensureDirectory p create) with
  | .ok () => return if l.paths.contains p then l else { l with paths := l.paths ++ [p] }
  | .error e => throw (if isNoDirectory e then .templateDirectory p.text else e)

/-- The locator with more directories, which are seen from `root`. -/
def addPaths (l : Locator) (root : Path) (create : Bool) : List Path → Act Locator
  | [] => pure l
  | p :: rest => do (← l.addPath (root / p) create).addPaths root create rest

end Locator

end Stencil.Template
