import Stencil.Files.Access

/-! Projects. The root of a project is the nearest directory on the way up that has a mark of one; without
a mark, any directory is a project of its own. -/
namespace Stencil

/-- The home directory of the account under which everything runs. -/
def accountHome : String := "/root"

/-- The home directory that a name with a leading `~` stands for. The homes of others are not known. -/
def homeOf? (home : Option String) (name : String) : Option (List Char) :=
  if name = "~" then some ((home.getD accountHome).toList.reverse.dropWhile (· == '/')).reverse
  else if name = "~root" then some accountHome.toList
  else none

/-- A path with the home directory for a leading `~`. -/
def Path.expandHome (home : Option String) (p : Path) : Except Error Path :=
  match p.anchor, p.parts with
  | "", first :: rest =>
    if first.startsWith "~" then
      match homeOf? home first with
      | some h =>
        if h.head? = some '~' then .error .noHome
        else
          let place := Path.ofList (if h.isEmpty then ['/'] else h)
          .ok ⟨place.anchor, place.parts ++ rest⟩
      | none => .error .noHome
    else .ok p
  | _, _ => .ok p

namespace Project

/-- The directory of a project's own files. -/
def directoryName : String := ".modx"

/-- The names of the entries that mark a project. -/
def markers : List String := [directoryName, ".git"]

/-- The home directory of the session. -/
def home : Act (Option String) := Act.valueOf "HOME"

/-- A path with `~` expanded and links resolved. -/
def settle (p : Path) : Act Path := do
  Files.resolve (← Act.ofExcept (p.expandHome (← home)))

/-- Whether a directory has a mark of a project. -/
def isMarked (p : Path) : Act Bool := markers.anyM fun name => Files.hasEntry (p.child name)

/-- The root of the project that a path is in; without a path, of the working directory. -/
def findRoot (start : Option Path) : Act Path := do
  let origin ← settle (start.getD (Path.ofString ""))
  let marked ← (origin :: origin.parents).findM? isMarked
  return marked.getD origin

/-- The directory of a project's own files. -/
def directory (root : Path) : Path := root.child directoryName

/-- The directory of a project's configuration files. -/
def configDirectory (root : Path) : Path := (directory root).child "config"

end Project

end Stencil
