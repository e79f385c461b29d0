import Stencil.Config.Coerce
import Stencil.Value.Layer

/-! Overrides from the environment. `MODX_<section>__<key>` names a place in the configuration; its
segments are separated by two underscores and lowered. -/
namespace Stencil.Config

/-- What the names of all overrides begin with. -/
def envPrefix : String := "MODX_"

/-- The stretches of a text between pairs of underscores. -/
def splitSegments : List Char → List (List Char)
  | [] => [[]]
  | '_' :: '_' :: s => [] :: splitSegments s
  | c :: s =>
    match splitSegments s with
    | [] => [[c]]
    | w :: ws => (c :: w) :: ws

/-- The place that the rest of a name, after the prefix, stands for. -/
def parseKey (raw : String) : Except Error (List String) :=
  let segments := splitSegments raw.toList
  if segments.any List.isEmpty then .error (.config (.emptySegment raw))
  else .ok (segments.map fun w => String.ofList (Unicode.lower w))

/-- A value put at a place, with mappings made on the way where there is nothing. `path` is the whole
place, for the message. -/
def setNested (path : List String) : List String → Mapping → Value → Except Error Mapping
  | [], m, _ => .ok m
  | [key], m, v => .ok (Mapping.insert m (.str key) v)
  | key :: rest, m, v =>
    match (Mapping.get? m (.str key)).getD .null with
    | .scalar .null =>
      (setNested path rest [] v).map fun inner => Mapping.insert m (.str key) (.dict inner)
    | .dict inner =>
      (setNested path rest inner v).map fun inner => Mapping.insert m (.str key) (.dict inner)
    | _ => .error (.config (.throughScalar key path))

/-- A value put at a place of a configuration. -/
def setAt (path : List String) (m : Mapping) (v : Value) : Except Error Mapping :=
  setNested path path m v

/-- A value put at a place of a layer. -/
def setInLayer (path : List String) (v : Value) : Layer → Except Error Layer
  | .plain m => (setAt path m v).map .plain
  | .shared g n =>
    let (k, g) := g.addValue v
    match g.setAt n path k with
    | .ok g => .ok (.shared g n)
    | .error part => .error (.config (.throughScalar part path))

/-- The place and the value of one variable. -/
def readOverride (name value : String) : Except Error (List String × Value) :=
  let raw := String.ofList (name.toList.drop envPrefix.length)
  if raw = "" then .error (.config (.malformedKey name))
  else
    match parseKey raw with
    | .error e => .error e
    | .ok path => (coerce value.toList).map (path, ·)

/-- The variables that override something, in the order of their names. -/
def overrideVariables (env : List (String × String)) : List (String × String) :=
  (env.filter fun v => v.1.startsWith envPrefix).mergeSort fun a b => a.1 ≤ b.1

/-- The overrides of sorted variables applied one after the other. The answer tells also which places
were set, up to the first fault. -/
def applyOverrides (layer : Layer) :
    List (String × String) → List (List String) × Except Error Layer
  | [] => ([], .ok layer)
  | (name, value) :: rest =>
    match readOverride name value with
    | .error e => ([], .error e)
    | .ok (path, v) =>
      match setInLayer path v layer with
      | .error e => ([path], .error e)
      | .ok layer =>
        let (paths, result) := applyOverrides layer rest
        (path :: paths, result)

end Stencil.Config
