import Stencil.Command.Table
import Stencil.Value.Calendar

/-! The program. It reads the files that a command may need into a tree, runs the command on the tree, and
carries what the command changed and printed over to the world. -/
namespace Stencil.Main

/-- The names that lead to a place from the top. -/
def placeOf (path : String) : List String := (Path.ofString path).parts

/-- The path of a place. -/
def pathOf (place : List String) : String := "/" ++ "/".intercalate place

/-- Directories with more in them than a command needs; only their being there counts. -/
def closedNames : List String := [".git"]

/-- Everything at a place and below it. What cannot be read is left out. -/
partial def scan (place : List String) : IO (List (List String × Entry)) := do
  let path := (← IO.currentDir) / pathOf place
  try
    if ← path.isDir then
      if closedNames.contains (place.getLastD "") then return [(place, .directory)]
      let below ← (← path.readDir).toList.mapM fun entry => scan (place ++ [entry.fileName])
      return (place, .directory) :: below.flatten
    else if ← path.pathExists then
      let time := (← path.metadata).modified
      let stamp := time.sec.toNat * 1000000000 + time.nsec.toNat
      return [(place, .file (← IO.FS.readBinFile path).toList stamp 0)]
    else return []
  catch _ => return []

/-- Whether nothing may be looked up in the directory at a place. -/
def isLocked (place : List String) : IO Bool := do
  try
    discard ((← IO.currentDir) / pathOf place / ".").metadata
    return false
  catch _ => return true

/-- The directories on the way to a place. -/
def waysTo (place : List String) : List (List String) :=
  (List.range place.length).map fun n => place.take n

/-- Whether a directory has a mark of a project. -/
def isMarked (place : List String) : IO Bool :=
  Project.markers.anyM fun name => do ((← IO.currentDir) / pathOf (place ++ [name])).pathExists

/-- The places that a command line may need: the project around the working directory, and whatever its
words name. -/
def placesFor (cwd : List String) (words : List String) : IO (List (List String)) := do
  let around := cwd :: (waysTo cwd).reverse
  let project ← around.findM? isMarked
  let named := words.filterMap fun w =>
    let given := (w.toList.dropWhile (· != '=')).drop 1
    let path := Path.ofList (if given.isEmpty then w.toList else given)
    if path.parts.isEmpty then none
    else some (if path.isAbsolute then path.parts else cwd ++ path.parts)
  return project.getD cwd :: named.filter fun place => !place.contains ".."

/-- The tree of the places, with the directories on the way to them. -/
def treeOf (places : List (List String)) : IO FileTree := do
  let found ← places.mapM scan
  let ways := (places.flatMap waysTo).filter (· ≠ []) |>.map fun place => (place, Entry.directory)
  let entries := (found.flatten ++ ways).foldl (fun (acc : List (List String × Entry)) e =>
    if (acc.lookup e.1).isSome then acc else e :: acc) []
  let stamps := entries.map fun e =>
    match e.2 with
    | .file _ stamp _ => stamp
    | _ => 0
  let directories := entries.filterMap fun e => if e.2 = .directory then some e.1 else none
  return { entries, stamp := (stamps.max?.getD 0) + 1, locked := ← directories.filterM isLocked }

/-- A file replaced as a whole. -/
def replaceFile (place : List String) (content : List UInt8) : IO Unit := do
  let path := (← IO.currentDir) / pathOf place
  let draft := (← IO.currentDir) / (pathOf place ++ ".draft")
  if let some parent := path.parent then IO.FS.createDirAll parent
  IO.FS.writeBinFile draft content.toByteArray
  IO.FS.rename draft path

/-- Makes the world what the tree has become. -/
def carryOver (before after : FileTree) : IO Unit := do
  let cwd ← IO.currentDir
  for (place, entry) in after.entries do
    if before.get? place ≠ some entry then
      match entry with
      | .file content _ _ => replaceFile place content
      | .directory => IO.FS.createDirAll (cwd / pathOf place)
      | .link _ => pure ()
  for (place, entry) in before.entries do
    if (after.get? place).isNone then
      match entry with
      | .directory => IO.FS.removeDirAll (cwd / pathOf place)
      | _ => IO.FS.removeFile (cwd / pathOf place)

/-- The variables of the environment. -/
def environment : IO (List (String × String)) := do
  let bytes ← IO.FS.readBinFile "/proc/self/environ"
  let text := (Text.Utf8.decode bytes.toList).toOption.getD []
  return (Text.splitOn '\x00' text).filterMap fun v =>
    match v.dropWhile (· != '=') with
    | _ :: value => some (String.ofList (v.takeWhile (· != '=')), String.ofList value)
    | [] => none

/-- The seconds since the first day of 1970. -/
def clock : IO Nat := do
  return (← ((← IO.currentDir) / "/proc/self").metadata).modified.sec.toNat

/-- The session that a command starts in. -/
def sessionFor (words : List String) : IO Session := do
  let cwd := placeOf (← IO.currentDir).toString
  let seconds ← clock
  let stamp := String.ofList (Moment.ofSeconds seconds).text
  let tree ← treeOf (← placesFor cwd words)
  return { tree, cwd, env := ← environment, now := Float.ofNat seconds, stamp }

/-- Runs a command line and tells how the program exits. -/
def run (words : List String) : IO UInt32 := do
  let start ← sessionFor words
  let (exit, finish) :=
    match Command.runLine words start with
    | .ok exit s => (exit, s)
    | .error e s => (1, { s with stderr := s.stderr ++ s!"Error: {e.message}\n".toList })
  carryOver start.tree finish.tree
  IO.print (String.ofList finish.stdout)
  IO.eprint (String.ofList finish.stderr)
  return exit.toUInt32

end Stencil.Main

def main (words : List String) : IO UInt32 := Stencil.Main.run words
