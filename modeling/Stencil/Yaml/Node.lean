import Stencil.Yaml.Mark
import Stencil.Yaml.Tag

/-! Nodes: scalars, sequences and mappings, each with its kind and the place where it begins. The parts of
a node are given by their numbers, since a node that has a name may be a part of several others. -/
namespace Stencil.Yaml

/-- What a node is made of. -/
inductive Content where
  | scalar (text : List Char)
  | sequence (items : List Nat)
  | mapping (pairs : List (Nat × Nat))
  deriving Repr

structure Node where
  tag : Tag
  mark : Mark
  content : Content
  deriving Repr

/-- The word for a kind of content in messages. -/
def Content.name : Content → String
  | scalar _ => "scalar"
  | sequence _ => "sequence"
  | mapping _ => "mapping"

/-- Nodes by number. -/
abbrev Nodes := Array Node

namespace Nodes

/-- What stands where nothing is written. -/
def blank (mark : Mark) : Node := ⟨.null, mark, .scalar []⟩

/-- The node of a number. -/
def node (ns : Nodes) (n : Nat) : Node := ns[n]?.getD (blank ⟨0, 0, 0⟩)

/-- Another content for a node. -/
def fill (ns : Nodes) (n : Nat) (content : Content) : Nodes :=
  ns.setIfInBounds n { ns.node n with content }

/-- Another kind for a node. -/
def retag (ns : Nodes) (n : Nat) (tag : Tag) : Nodes := ns.setIfInBounds n { ns.node n with tag }

/-- The pairs of a mapping; other nodes have none. -/
def pairs (ns : Nodes) (n : Nat) : List (Nat × Nat) :=
  match (ns.node n).content with
  | .mapping pairs => pairs
  | _ => []

theorem size_fill (ns : Nodes) (n : Nat) (content : Content) : (ns.fill n content).size = ns.size := by
  simp [fill]

theorem node_fill (ns : Nodes) (n : Nat) (content : Content) (h : n < ns.size) :
    ((ns.fill n content).node n).content = content := by
  simp [fill, node, h]

end Nodes

end Stencil.Yaml
