import Stencil.Cache.Key
import Stencil.Cache.Memory
import Stencil.Files.Json

/-! Renders kept as files of one directory, one file for each key. No file of another kind is touched. -/
namespace Stencil.Cache.Directory

/-- What the names of all files of entries end in. -/
def entrySuffix : String := ".cache.json"

/-- A text as it stands in the names of files. -/
def fileText (s : String) : String := String.ofList (sanitize s.toList)

/-- The file of a key. -/
def entryPath (directory : Path) (key : String) : Path :=
  directory.child (fileText key ++ entrySuffix)

/-- An entry as it is written. -/
def entryValue (key : String) (e : Kept) : Value :=
  .dict [(.str "key", .str key), (.str "value", .str e.value),
    (.str "expires_at", (e.expires.map Value.float).getD .null)]

/-- Whether an error says that the text of a file cannot be read as it should. -/
def isDamage : Error → Bool
  | .notUtf8 _ | .notJson | .value _ => true
  | _ => false

/-- The entry in a file, if there is one. A file that cannot be read is taken away. -/
def readEntry (p : Path) : Act (Option Value) := do
  match ← Act.attempt (Files.readJson? p) with
  | .ok v => return v
  | .error e =>
    if isDamage e then
      Act.log ⟨.warning, "modx.core.cache.stores", s!"Discarding corrupt cache entry {p.text}"⟩
      Files.unlink p
      return none
    else throw e

/-- What an entry holds: a value, and when it expires, if it does. Anything else is no entry. -/
def entryParts? : Value → Option (String × Value)
  | .dict pairs =>
    match Mapping.get? pairs (.str "value") with
    | some (.scalar (.str value)) => some (value, (Mapping.get? pairs (.str "expires_at")).getD .null)
    | _ => none
  | _ => none

/-- The live value of a key. -/
def read (directory : Path) (key : String) : Act (Option String) := do
  let p := entryPath directory key
  match (← readEntry p).bind entryParts? with
  | none => return none
  | some (value, .scalar .null) => return some value
  | some (value, expires) =>
    let t ← Act.ofExcept expires.toFloat
    if (⟨value, some t⟩ : Kept).isDead (← get).now then
      Files.unlink p
      return none
    else return some value

/-- A value for a key. -/
def put (directory : Path) (key value : String) (lifetime : Option Lifetime) : Act Unit := do
  Files.ensureDirectory directory true
  let expires ← Act.ofExcept (expiry (← get).now lifetime)
  Files.writeJson (entryPath directory key) 2 true (entryValue key ⟨value, expires⟩)

/-- Takes away files of a directory. -/
def unlinkAll (directory : Path) : List String → Act Unit
  | [] => pure ()
  | n :: rest => do
    Files.unlink (directory.child n)
    unlinkAll directory rest

/-- Takes away the files of the keys that begin with `start`, and tells whether there were any. -/
def removeLike (directory : Path) (start : String) : Act Bool := do
  if ← Files.hasEntry directory then
    let found ← Files.namesLike directory (fileText start) entrySuffix
    unlinkAll directory found
    return !found.isEmpty
  else return false

end Stencil.Cache.Directory
