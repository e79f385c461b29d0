import Stencil.Value.Graph

/-! Layers of mappings. A later layer wins key by key, all the way down. A list replaces a list, unless its first
item asks for something else: `+` appends to the earlier list, `=` says replacement aloud. In some layers parts stand
in several places: a change to a part is seen in all its places, a mapping that was merged is a new one, and so is
a list that a later layer wrote over an earlier one. -/
namespace Stencil

/-! ### Mappings by themselves -/

/-- A list over an earlier one. An empty list changes nothing. -/
def mergeLists (base later : List Value) : List Value :=
  match later with
  | [] => base
  | .scalar (.str "+") :: rest => base ++ rest
  | .scalar (.str "=") :: rest => rest
  | _ => later

mutual

/-- A value over an earlier one. -/
def mergeValue (old : Value) : Value → Value
  | .dict later =>
    match old.opened with
    | .dict base => .dict (mergeOver base later)
    | _ => .dict later
  | .list later =>
    match old.opened with
    | .list base => .list (mergeLists base later)
    | _ => .list later
  | v => v

/-- A mapping over an earlier one. Keys of the earlier mapping keep their places. -/
def mergeOver (base : Mapping) : List (Scalar × Value) → Mapping
  | [] => base
  | (k, v) :: later =>
    match Mapping.get? base k with
    | some old => mergeOver (Mapping.insert base k (mergeValue old v)) later
    | none => mergeOver (Mapping.insert base k v) later

end

@[simp] theorem mergeLists_nil (base : List Value) : mergeLists base [] = base := rfl

@[simp] theorem mergeOver_nil (base : Mapping) : mergeOver base [] = base := by
  unfold mergeOver; rfl

/-! ### Layers -/

/-- A mapping: by itself, or as a number in a graph in which parts of it stand in several places. -/
inductive Layer where
  | plain (m : Mapping)
  | shared (g : Graph) (number : Nat)
  deriving Inhabited

namespace Graph

/-- The pairs of a mapping; other values have none. -/
def pairs (g : Graph) (n : Nat) : List (Nat × Nat) :=
  match g.cell n with
  | .dict pairs => pairs
  | _ => []

/-- The place of a key in a mapping. -/
def find? (g : Graph) (n : Nat) (key : Scalar) : Option Nat :=
  ((g.pairs n).find? fun p => (g.scalarAt p.1).sameKey key).map Prod.snd

/-- A pair put into a mapping. -/
def putInto (g : Graph) (n : Nat) (key value : Nat) : Graph :=
  g.put n (.dict (g.putPair (g.pairs n) key value))

/-- A list over an earlier one. An empty list leaves the earlier one in its place. -/
def mergeLists (g : Graph) (base : Nat) (baseItems later : List Nat) : Nat × Graph :=
  match later with
  | [] => (base, g)
  | first :: rest =>
    match g.cell first with
    | .scalar (.str "+") => g.add (.list (baseItems ++ rest))
    | .scalar (.str "=") => g.add (.list rest)
    | _ => g.add (.list later)

/-- How far mappings are merged into each other at most. -/
def deepestMerge : Nat := Recursion.levels 40 1

/-- The pairs of a mapping over those of an earlier one, whose keys keep their places; `merge` gives a value
over an earlier one. -/
def mergePairs (merge : Graph → (old later : Nat) → Option (Nat × Graph)) :
    Graph → (base later : List (Nat × Nat)) → Option (List (Nat × Nat) × Graph)
  | g, base, [] => some (base, g)
  | g, base, (key, value) :: later =>
    match base.find? fun p => g.isSameKey p.1 key with
    | none => mergePairs merge g (base ++ [(key, value)]) later
    | some (_, old) => do
      let (value, g) ← merge g old value
      mergePairs merge g (g.putPair base key value) later

/-- A value over an earlier one. There is none if the two have no end. -/
def mergeValue : (fuel : Nat) → Graph → (old new : Nat) → Option (Nat × Graph)
  | 0, _, _, _ => none
  | fuel + 1, g, old, new =>
    match g.cell old, g.cell new with
    | .dict base, .dict later => do
      let (pairs, g) ← mergePairs (mergeValue fuel) g base later
      return g.add (.dict pairs)
    | .list base, .list later => some (g.mergeLists old base later)
    | _, _ => some (new, g)

/-- A value put at a place, with mappings made on the way where there is nothing. Where something else is on
the way, its name is told. -/
def setAt (g : Graph) (n : Nat) : (path : List String) → (value : Nat) → Except String Graph
  | [], _ => .ok g
  | [name], value =>
    let (key, g) := g.add (.scalar (.str name))
    .ok (g.putInto n key value)
  | name :: rest, value =>
    let inner := g.find? n (.str name)
    match inner.map g.cell |>.getD (.scalar .null) with
    | .dict _ => g.setAt (inner.getD 0) rest value
    | .scalar .null =>
      let (key, g) := g.add (.scalar (.str name))
      let (made, g) := g.add (.dict [])
      (g.putInto n key made).setAt made rest value
    | _ => .error name

/-- The part at a place. -/
def part? (g : Graph) (n : Nat) : (path : List String) → Option Nat
  | [] => some n
  | name :: rest => (g.find? n (.str name)).bind fun inner => g.part? inner rest

end Graph

namespace Layer

/-- The layer of a mapping in a graph. -/
def ofGraph (g : Graph) (n : Nat) : Layer :=
  match (g.sharedParts n), g.opened n with
  | [], .dict m => .plain m
  | _, _ => .shared g n

/-- A layer as a number in a graph. -/
def toGraph : Layer → Nat × Graph
  | plain m => Graph.ofValue (.dict m)
  | shared g n => (n, g)

/-- The mapping that a layer is, wherever its parts stand. -/
def mapping : Layer → Mapping
  | plain m => m
  | shared g n =>
    match g.opened n with
    | .dict m => m
    | _ => []

/-- A layer over an earlier one. There is none if the two have no end. -/
def merge (base later : Layer) : Option Layer :=
  match base, later with
  | plain m, plain n => some (.plain (mergeOver m n))
  | base, later => do
    let (b, g) := base.toGraph
    let (l, h) := later.toGraph
    let (n, g) ← Graph.mergeValue Graph.deepestMerge (g.append h) b (l + g.size)
    return .shared g n

@[simp] theorem merge_plain (m n : Mapping) : merge (.plain m) (.plain n) = some (.plain (mergeOver m n)) :=
  rfl

@[simp] theorem mapping_plain (m : Mapping) : mapping (.plain m) = m := rfl

end Layer

end Stencil
