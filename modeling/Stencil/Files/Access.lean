import Stencil.Session

/-! Reading and writing files in a session. A file is replaced as a whole or not at all. -/
namespace Stencil.Files

/-- The outcome of looking at the tree. -/
def look {α : Type} (p : Path) (f : FileTree → List String → Path → Except PathFault α) : Act α := do
  let s ← get
  match f s.tree s.cwd p with
  | .ok a => return a
  | .error fault => throw (.ofPathFault fault p.text)

/-- Changes the tree. -/
def change (p : Path) (f : FileTree → List String → Path → Except PathFault FileTree) : Act Unit := do
  let tree ← look p f
  modify fun s => { s with tree }

def hasEntry (p : Path) : Act Bool := look p FileTree.hasEntry

def isDirectory (p : Path) : Act Bool := look p FileTree.isDirectory

/-- The absolute path without links that a path stands for. -/
def resolve (p : Path) : Act Path := do
  let s ← get
  if FileTree.hasZero p then throw (.ofPathFault .zeroByte p.text)
  let place := s.tree.resolve s.cwd p
  match s.tree.find true s.cwd place with
  | .error .tooManyLinks => throw (.linkLoop place.text)
  | _ => return place

/-- The names in a directory, in order. -/
def names (p : Path) : Act (List String) := do
  let s ← get
  return s.tree.names s.cwd p

/-- A directory with all directories on the way to it. -/
def makeDirectories (p : Path) : Act Unit := do
  let s ← get
  match s.tree.makeDirectories s.cwd p.parts.length p with
  | .ok tree => set { s with tree }
  | .error (fault, place) => throw (.ofPathFault fault place.text)

/-- A directory that is there afterwards; it is made only if `create` says so. -/
def ensureDirectory (p : Path) (create : Bool) : Act Unit := do
  if ← hasEntry p then
    if !(← isDirectory p) then throw (.occupied p.text)
  else if create then makeDirectories p
  else throw (.noFile s!"Directory does not exist: {p.text}")

/-- The directory of a file, made if it is not there. -/
def ensureParent (p : Path) : Act Unit := makeDirectories p.parent

/-- What the name of a file in the making has more than the name of the file. -/
def draftMargin : Nat := 14

/-- A file with the content that `content` comes to. If that fails, the file stays as it was. -/
def writeWith (p : Path) (content : Act (List Char)) : Act Unit := do
  ensureParent p
  if FileTree.hasZero p then throw (.ofPathFault .zeroByte p.text)
  if FileTree.nameLimit < FileTree.nameSize p.name + draftMargin then
    throw (.system .nameTooLong p.text)
  let text ← content
  change p fun tree cwd p => tree.replace cwd p (Text.Utf8.encode text)

/-- A file with new content. -/
def writeText (p : Path) (text : List Char) : Act Unit := writeWith p (pure text)

/-- The bytes of a file. -/
def readBytes (p : Path) : Act (List UInt8) := look p FileTree.read

/-- The text of a file that is there, with line feeds for line ends of every kind. -/
def readLines (p : Path) : Act (List Char) := do
  match Text.Utf8.decode (← readBytes p) with
  | .ok text => return Text.Utf8.foldNewlines text
  | .error fault => throw (.notUtf8 fault)

/-- The text of a file. -/
def readText (p : Path) : Act (List Char) := do
  if ← hasEntry p then readLines p else throw (.noFile s!"Text file not found: {p.text}")

/-- The names in a directory that begin and end with the given texts, which do not overlap in them. -/
def namesLike (p : Path) (start stop : String) : Act (List String) := do
  return (← names p).filter fun n =>
    n.startsWith start && (n.drop start.length).toString.endsWith stop

/-- A file or link taken away; it need not be there. -/
def unlink (p : Path) : Act Unit := change p FileTree.unlink

end Stencil.Files
