import Stencil.Cache.Directory

/-! A place for renders: the memory of the session, or a directory of files. -/
namespace Stencil.Cache

inductive Store where
  | memory (m : Memory)
  | directory (path : Path)
  deriving Repr, DecidableEq

namespace Store

/-- The live value of a key. -/
def read (store : Store) (key : String) : Act (Option String × Store) := do
  match store with
  | memory m =>
    let (value, m) := m.read (← get).now key
    return (value, memory m)
  | directory path => return (← Directory.read path key, store)

/-- The store with a value for a key. -/
def put (store : Store) (key value : String) (lifetime : Option Lifetime) : Act Store := do
  match store with
  | memory m => return memory (← Act.ofExcept (m.put (← get).now key value lifetime))
  | directory path =>
    Directory.put path key value lifetime
    return store

/-- The store without the keys that begin with `start`, and whether there were any. -/
def removeLike (store : Store) (start : String) : Act (Bool × Store) := do
  match store with
  | memory m =>
    let (found, m) := m.removeLike start
    return (found, memory m)
  | directory path => return (← Directory.removeLike path start, store)

/-- The store without any keys. -/
def clear (store : Store) : Act Store := do
  match store with
  | memory _ => return memory {}
  | directory path =>
    let _ ← Directory.removeLike path ""
    return store

/-- The store that a word names. A directory is needed for files only. -/
def ofName (kind : String) (path : Option Path) : Except Error Store :=
  let word := Unicode.lower (Text.strip kind.toList)
  if word = "memory".toList then .ok (memory {})
  else if word = "filesystem".toList then
    match path with
    | some p => .ok (directory p)
    | none => .error (.config .storeWithoutDirectory)
  else .error (.config (.unknownStore (.str kind)))

/-- The store that a value names, which has to be a word. -/
def ofValue (kind : Value) (path : Option Path) : Except Error Store :=
  match kind with
  | .str word => ofName word path
  | kind =>
    if kind.truthy then .error (.noMember kind.kindName "strip")
    else .error (.config (.unknownStore kind))

end Store

end Stencil.Cache
