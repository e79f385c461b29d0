import Stencil.Value.Numeric

/-! Renders kept in memory. An entry with a time of expiry is dead from that time on; the first look at a
dead entry removes it. -/
namespace Stencil.Cache

/-- A span of seconds, as it was given. -/
inductive Lifetime where
  | whole (n : Int)
  | real (x : Float)
  /-- Something that is no number, by the word for its kind. -/
  | unusable (kind : String)
  deriving Repr, DecidableEq

namespace Lifetime

/-- The span that a value gives, if it gives one. -/
def ofValue : Value → Option Lifetime
  | .null => none
  | .bool b => some (whole (if b then 1 else 0))
  | .int n => some (whole n)
  | .float x => some (real x)
  | v => some (unusable v.kindName)

end Lifetime

/-- When an entry written at `now` expires, if it ever does. An entry kept for no span at all never does. -/
def expiry (now : Float) : Option Lifetime → Except Error (Option Float)
  | none => .ok none
  | some (.whole n) =>
    if 0 < n then (Value.toFloat (.int n)).map fun x => some (now + x) else .ok none
  | some (.real x) => .ok (if x ≤ 0 then none else some (now + x))
  | some (.unusable kind) => .error (.mismatch (.notComparable "<=" kind "int"))

/-- A render, and when it expires. -/
structure Kept where
  value : String
  expires : Option Float
  deriving Repr, DecidableEq

/-- Whether an entry is dead at a time. -/
def Kept.isDead (e : Kept) (now : Float) : Bool :=
  match e.expires with
  | none => false
  | some t => t ≤ now

/-- Entries by key, in the order in which the keys came in. -/
structure Memory where
  entries : List (String × Kept) := []
  deriving Repr, DecidableEq

namespace Memory

/-- The memory without a key. -/
def remove (m : Memory) (key : String) : Memory := ⟨m.entries.filter fun e => e.1 != key⟩

/-- The live value of a key. -/
def read (m : Memory) (now : Float) (key : String) : Option String × Memory :=
  match m.entries.lookup key with
  | none => (none, m)
  | some e => if e.isDead now then (none, m.remove key) else (some e.value, m)

/-- The memory with a value for a key. -/
def put (m : Memory) (now : Float) (key value : String) (lifetime : Option Lifetime) :
    Except Error Memory :=
  (expiry now lifetime).map fun expires => ⟨(m.remove key).entries ++ [(key, ⟨value, expires⟩)]⟩

/-- The memory without the keys that begin with `start`, and whether there were any. -/
def removeLike (m : Memory) (start : String) : Bool × Memory :=
  (m.entries.any fun e => e.1.startsWith start,
   ⟨m.entries.filter fun e => !e.1.startsWith start⟩)

def size (m : Memory) : Nat := m.entries.length

@[simp] theorem lookup_remove_self (m : Memory) (key : String) :
    (m.remove key).entries.lookup key = none := by
  refine List.lookup_eq_none_iff.mpr fun e he => ?_
  have h := (List.mem_filter.mp he).2
  simpa using Ne.symm (by simpa using h)

end Memory

end Stencil.Cache
