import Stencil.Files.Path
import Stencil.Text.Utf8

/-! A tree of files as a value. Every entry is filed under the names that lead to it from the top. A
link is followed when a path is walked; each written file is stamped later than all before it. -/
namespace Stencil

/-- What stands at a place of the tree. A file has a serial number of its own, which it keeps when it is
written to and another file does not have. -/
inductive Entry where
  | file (content : List UInt8) (stamp serial : Nat)
  | directory
  | link (target : String)
  deriving Repr, DecidableEq

/-- Why a path cannot be used. -/
inductive PathFault where
  | missing
  | notDirectory
  | isDirectory
  | present
  | tooManyLinks
  | nameTooLong
  /-- A directory on the way may not be searched. -/
  | denied
  | notEmpty
  /-- The path ends in no name. -/
  | busy
  /-- A name holds a zero byte, so that no path can be written with it. -/
  | zeroByte
  deriving Repr, DecidableEq

/-- Entries by place; the top is always a directory. `stamp` is the stamp of the next write, and `locked` are the
places of directories in which nothing may be looked up. -/
structure FileTree where
  entries : List (List String × Entry)
  stamp : Nat
  locked : List (List String) := []
  deriving Repr

namespace FileTree

def empty : FileTree where
  entries := []
  stamp := 1

/-- The entry at a place, links not followed. -/
def get? (t : FileTree) (place : List String) : Option Entry :=
  if place = [] then some .directory else t.entries.lookup place

/-- The tree without the entry at a place. -/
def remove (t : FileTree) (place : List String) : FileTree :=
  { t with entries := t.entries.filter fun e => e.1 != place }

/-- The tree with an entry at a place, where it replaces what was there. -/
def put (t : FileTree) (place : List String) (entry : Entry) : FileTree :=
  { t with entries := (t.remove place).entries ++ [(place, entry)] }

/-- The tree without a place and everything below it. -/
def prune (t : FileTree) (place : List String) : FileTree :=
  { t with entries := t.entries.filter fun e => !place.isPrefixOf e.1 }

/-- The longest name of an entry, in bytes. -/
def nameLimit : Nat := 255

/-- The most links that one path may pass through. -/
def linkLimit : Nat := 40

/-- The least size, in bytes, of a path that is too long. -/
def pathLimit : Nat := 4096

/-- The size of a name or a path in bytes. -/
def nameSize (name : String) : Nat := (Text.Utf8.encode name.toList).length

/-- Where the target of a link in the directory `here` is seen from. -/
def linkStart (target : String) (here : List String) : List String :=
  if (Path.ofString target).isAbsolute then [] else here

/-- The names that the target of a link passes through. A target that ends in a slash or in `.` has to be a
directory, so `.` stands at the end of it. -/
def linkParts (target : String) : List String :=
  let last := (Text.splitOn '/' target.toList).getLastD []
  (Path.ofString target).parts ++ (if last = [] ∨ last = ['.'] then ["."] else [])

/-- Follows `todo` from the directory `here`; every directory that a name is looked up in must be open. The answer is
the place reached and its entry, which may be missing only at the very end. The last name is not followed as a link
unless `follow` says so. -/
def walk (t : FileTree) (follow : Bool) (budget : Nat) (here todo : List String) :
    Except PathFault (List String × Option Entry) :=
  match todo with
  | [] => .ok (here, t.get? here)
  | name :: rest =>
    if here ∈ t.locked then .error .denied
    else if name = "." then walk t follow budget here rest
    else if name = ".." then walk t follow budget here.dropLast rest
    else if nameLimit < nameSize name then .error .nameTooLong
    else
      let place := here ++ [name]
      match t.get? place with
      | none => if rest = [] then .ok (place, none) else .error .missing
      | some .directory => walk t follow budget place rest
      | some (.file content stamp serial) =>
        if rest = [] then .ok (place, some (.file content stamp serial)) else .error .notDirectory
      | some (.link target) =>
        if rest = [] ∧ !follow then .ok (place, some (.link target))
        else
          match budget with
          | 0 => .error .tooManyLinks
          | budget + 1 =>
            walk t follow budget (linkStart target here) (linkParts target ++ rest)
termination_by (budget, todo.length)

/-- Whether a name is looked up in a directory: the directory is open, and the name is a name and not too long. -/
structure Admits (t : FileTree) (here : List String) (name : String) : Prop where
  opened : here ∉ t.locked
  dot : name ≠ "."
  up : name ≠ ".."
  size : nameSize name ≤ nameLimit

instance (t : FileTree) (here : List String) (name : String) : Decidable (t.Admits here name) :=
  decidable_of_iff (here ∉ t.locked ∧ name ≠ "." ∧ name ≠ ".." ∧ nameSize name ≤ nameLimit)
    ⟨fun ⟨hopen, hdot, hup, hsize⟩ => ⟨hopen, hdot, hup, hsize⟩, fun h => ⟨h.opened, h.dot, h.up, h.size⟩⟩

section

variable {t : FileTree} {follow : Bool} {budget : Nat} {here rest : List String} {name : String}

theorem walk_cons (h : t.Admits here name) :
    t.walk follow budget here (name :: rest) =
      match t.get? (here ++ [name]) with
      | none => if rest = [] then .ok (here ++ [name], none) else .error .missing
      | some .directory => t.walk follow budget (here ++ [name]) rest
      | some (.file content stamp serial) =>
        if rest = [] then .ok (here ++ [name], some (.file content stamp serial)) else .error .notDirectory
      | some (.link target) =>
        if rest = [] ∧ !follow then .ok (here ++ [name], some (.link target))
        else
          match budget with
          | 0 => .error .tooManyLinks
          | budget + 1 => t.walk follow budget (linkStart target here) (linkParts target ++ rest) := by
  rw [walk, if_neg h.opened, if_neg h.dot, if_neg h.up, if_neg (Nat.not_lt.mpr h.size)]

/-- A walk goes on below a directory. -/
theorem walk_directory (h : t.Admits here name) (hentry : t.get? (here ++ [name]) = some .directory) :
    t.walk follow budget here (name :: rest) = t.walk follow budget (here ++ [name]) rest := by
  rw [walk_cons h, hentry]

/-- A walk ends at a file. -/
theorem walk_file (h : t.Admits here name) {content : List UInt8} {stamp serial : Nat}
    (hentry : t.get? (here ++ [name]) = some (.file content stamp serial)) :
    t.walk follow budget here [name] = .ok (here ++ [name], some (.file content stamp serial)) := by
  rw [walk_cons h, hentry]
  rfl

end

/-- Whether a zero byte stands in a path. -/
def hasZero (p : Path) : Bool := p.parts.any fun name => name.toList.contains '\x00'

/-- The place and the entry that a path leads to from `cwd`. -/
def find (t : FileTree) (follow : Bool) (cwd : List String) (p : Path) :
    Except PathFault (List String × Option Entry) :=
  if hasZero p then .error .zeroByte
  else if pathLimit ≤ nameSize p.text then .error .nameTooLong
  else t.walk follow linkLimit (if p.isAbsolute then [] else cwd) p.steps

/-- Whether a fault only means that nothing is there. -/
def isAbsence : PathFault → Bool
  | .missing | .notDirectory | .tooManyLinks | .zeroByte => true
  | _ => false

/-- The entry that a path leads to, if there is one. -/
def entry? (t : FileTree) (cwd : List String) (p : Path) : Except PathFault (Option Entry) :=
  match t.find true cwd p with
  | .ok (_, e) => .ok e
  | .error fault => if isAbsence fault then .ok none else .error fault

def hasEntry (t : FileTree) (cwd : List String) (p : Path) : Except PathFault Bool :=
  (t.entry? cwd p).map Option.isSome

def isFile (t : FileTree) (cwd : List String) (p : Path) : Except PathFault Bool :=
  (t.entry? cwd p).map fun
    | some (.file _ _ _) => true
    | _ => false

def isDirectory (t : FileTree) (cwd : List String) (p : Path) : Except PathFault Bool :=
  (t.entry? cwd p).map fun
    | some .directory => true
    | _ => false

/-- The bytes of a file. -/
def read (t : FileTree) (cwd : List String) (p : Path) : Except PathFault (List UInt8) :=
  match t.find true cwd p with
  | .error fault => .error fault
  | .ok (_, some (.file content _ _)) => .ok content
  | .ok (_, some .directory) => .error .isDirectory
  | .ok (_, some (.link _)) => .error .tooManyLinks
  | .ok (_, none) => .error .missing

/-- A new directory; nothing may be there yet. -/
def makeDirectory (t : FileTree) (cwd : List String) (p : Path) : Except PathFault FileTree :=
  match t.find false cwd p with
  | .error fault => .error fault
  | .ok (_, some _) => .error .present
  | .ok (place, none) => .ok (t.put place .directory)

/-- A directory with all directories on the way to it; it may be there already. The fuel is the number
of names. A fault comes with the path at which it arose. -/
def makeDirectories (t : FileTree) (cwd : List String) :
    (fuel : Nat) → (p : Path) → Except (PathFault × Path) FileTree
  | fuel, p =>
    let settle (t : FileTree) (fault : PathFault) : Except (PathFault × Path) FileTree :=
      match t.isDirectory cwd p with
      | .ok true => .ok t
      | _ => .error (fault, p)
    match t.makeDirectory cwd p with
    | .ok t => .ok t
    | .error .missing =>
      match fuel with
      | 0 => .error (.missing, p)
      | fuel + 1 =>
        match makeDirectories t cwd fuel p.parent with
        | .error fault => .error fault
        | .ok t =>
          match t.makeDirectory cwd p with
          | .ok t => .ok t
          | .error fault => settle t fault
    | .error fault => settle t fault

/-- A file at a place, written now. -/
def write (t : FileTree) (place : List String) (content : List UInt8) (serial : Nat) : FileTree :=
  { t.put place (.file content t.stamp serial) with stamp := t.stamp + 1 }

/-- A file with new content. A link at the end of the path is written through, and a file stays the same
file. -/
def writeThrough (t : FileTree) (cwd : List String) (p : Path) (content : List UInt8) :
    Except PathFault FileTree :=
  match t.find true cwd p with
  | .error fault => .error fault
  | .ok (_, some .directory) => .error .isDirectory
  | .ok (place, some (.file _ _ serial)) => .ok (t.write place content serial)
  | .ok (place, _) => .ok (t.write place content t.stamp)

/-- Whether a path ends in a name. -/
def endsInName (p : Path) : Bool := p.parts.getLast?.any (· != "..")

/-- A new file in the place of whatever file or link was there. -/
def replace (t : FileTree) (cwd : List String) (p : Path) (content : List UInt8) :
    Except PathFault FileTree :=
  if !endsInName p then .error .busy
  else
    match t.find false cwd p with
    | .error fault => .error fault
    | .ok (_, some .directory) => .error .isDirectory
    | .ok (place, _) => .ok (t.write place content t.stamp)

/-- A file or link taken away; it need not be there. -/
def unlink (t : FileTree) (cwd : List String) (p : Path) : Except PathFault FileTree :=
  match t.find false cwd p with
  | .error .missing => .ok t
  | .error fault => .error fault
  | .ok (_, none) => .ok t
  | .ok (_, some .directory) => .error .isDirectory
  | .ok (place, some _) => .ok (t.remove place)

/-- The names directly below a place, in order. -/
def namesBelow (t : FileTree) (place : List String) : List String :=
  (t.entries.filterMap fun e =>
    if e.1.dropLast = place ∧ e.1 ≠ [] then e.1.getLast? else none).mergeSort (· ≤ ·)

/-- The names in the directory that a path leads to; none if it is no directory. -/
def names (t : FileTree) (cwd : List String) (p : Path) : List String :=
  match t.find true cwd p with
  | .ok (place, some .directory) => t.namesBelow place
  | _ => []

/-- Whether nothing can be told of the names in a directory, since it or one on the way to it may not be searched. -/
def isShut (t : FileTree) (here : List String) : Bool := t.locked.any fun place => place.isPrefixOf here

/-- Where `todo` leads from `here` when every link on the way is followed; names that do not exist, or of which nothing
can be told, are kept. A link that leads back to itself stays, and so does everything after it: that is the second outcome. The
links `trail` are being followed; the fuel is the number of other links. -/
def realPlace (t : FileTree) : (fuel : Nat) → (trail : List (List String)) → (here todo : List String) →
    Except (List String) (List String)
  | fuel, trail, here, todo =>
    match todo with
    | [] => .ok here
    | name :: rest =>
      let place := here ++ [name]
      if name = "." then realPlace t fuel trail here rest
      else if name = ".." then realPlace t fuel trail here.dropLast rest
      else
        match if t.isShut here then none else t.get? place with
        | some (.link target) =>
          match fuel with
          | 0 => .error (place ++ rest)
          | fuel + 1 =>
            if trail.contains place then .error (place ++ rest)
            else
              match realPlace t fuel (place :: trail) (linkStart target here) (linkParts target) with
              | .error stuck => .error (stuck ++ rest)
              | .ok there => realPlace t (fuel + 1) trail there rest
        | _ => realPlace t fuel trail place rest
termination_by fuel _ _ todo => (fuel, todo.length)

/-- Names without `.` and `..`, each `..` taking away the name in front of it. -/
def plainNames (names : List String) : List String :=
  names.foldl (fun acc name =>
    if name = "." then acc else if name = ".." then acc.dropLast else acc ++ [name]) []

/-- The number of entries that are links. -/
def linkCount (t : FileTree) : Nat :=
  t.entries.countP fun e =>
    match e.2 with
    | .link _ => true
    | _ => false

/-- The absolute path without links that a path stands for, as far as links lead somewhere. -/
def resolve (t : FileTree) (cwd : List String) (p : Path) : Path :=
  match t.realPlace (t.linkCount + 1) [] (if p.isAbsolute then [] else cwd) p.parts with
  | .ok place => ⟨"/", place⟩
  | .error place => ⟨"/", plainNames place⟩

end FileTree

end Stencil
