import Stencil.Value.Graph

/-! Mappings in the order of their keys. Keys of different kinds have no order; a mapping with such keys
stays as it is. -/
namespace Stencil

namespace Number.Binary

/-- Whether the first number is less than the second. -/
def less : Binary → Binary → Bool
  | nan, _ => false
  | _, nan => false
  | infinite a, infinite b => a && !b
  | infinite a, finite _ _ _ => a
  | finite _ _ _, infinite b => !b
  | finite a m e, finite b n f =>
    let least := min e f
    let scaled (negative : Bool) (m : Nat) (e : Int) : Int :=
      let k := Int.ofNat (m * Number.powerOfTwo (e - least))
      if negative then -k else k
    scaled a m e < scaled b n f

theorem less_irrefl (b : Binary) : less b b = false := by
  cases b with
  | nan => rfl
  | infinite a => cases a <;> rfl
  | finite a m e => simp [less]

end Number.Binary

namespace Scalar

/-- A key that counts as a number. -/
def number? : Scalar → Option Number.Binary
  | bool b => some (.finite false (if b then 1 else 0) 0)
  | int n => some (.finite (n < 0) n.natAbs 0)
  | float x => some (.ofFloat x)
  | _ => none

/-- Whether a key comes before another; `none` if they have no order. -/
def before? (a b : Scalar) : Option Bool :=
  match a, b with
  | str s, str t => some (s < t)
  | bytes s, bytes t => some (s < t)
  | date d, date e => some (d.number < e.number)
  | moment m, moment n =>
    if m.offset.isSome = n.offset.isSome then some (m.instant < n.instant) else none
  | a, b =>
    match a.number?, b.number? with
    | some x, some y => some (x.less y)
    | _, _ => none

end Scalar

/-- Things in the order of their keys, if these have one. -/
def sortByKey {α : Type} (keyOf : α → Scalar) (xs : List α) : List α :=
  match xs with
  | [] => []
  | x :: rest =>
    if rest.all fun y => ((keyOf x).before? (keyOf y)).isSome then
      xs.mergeSort fun x y => (keyOf y).before? (keyOf x) != some true
    else xs

/-- A graph with every mapping and every set in it sorted. -/
def Graph.sorted (g : Graph) : Graph :=
  ⟨g.cells.map fun cell =>
    match cell with
    | .dict pairs => .dict (sortByKey (fun p => g.scalarAt p.1) pairs)
    | .set items => .set (sortByKey g.scalarAt items)
    | cell => cell⟩

@[simp] theorem sortByKey_nil {α : Type} (keyOf : α → Scalar) : sortByKey keyOf [] = [] := rfl

end Stencil
