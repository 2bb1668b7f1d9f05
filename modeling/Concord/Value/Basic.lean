import Concord.Binary64.Basic

/-!
# Values

The values that a backend can print. Whole numbers are those of 64 bits; larger
ones, and everything else that has no model here, are kept verbatim as text.
-/

namespace Concord

/-- A printed value. -/
inductive Value where
  | null
  | notImplemented
  | ellipsis
  | bool (b : Bool)
  | int (n : Int64)
  | float (x : Binary64)
  | complex (re im : Binary64)
  | str (s : String)
  | bytes (bs : List UInt8)
  | byteArray (bs : List UInt8)
  | list (items : List Value)
  | tuple (items : List Value)
  | set (items : List Value)
  | frozenSet (items : List Value)
  | dict (entries : List (Value × Value))
  /-- A constructor call such as `range(0, 5)`. -/
  | call (callee : String) (args : List Value)
  /-- Text without a model, kept as it was printed. -/
  | verbatim (text : String)
  deriving Inhabited

namespace Value

mutual

/-- The height of a value: one for a leaf, and one more than its highest child
for a container. -/
def height : Value → Nat
  | .list items | .tuple items | .set items | .frozenSet items =>
    heightOfItems items + 1
  | .dict entries => heightOfEntries entries + 1
  | .call _ args => heightOfItems args + 1
  | _ => 1

/-- The greatest height among items. -/
def heightOfItems : List Value → Nat
  | [] => 0
  | v :: rest => max (height v) (heightOfItems rest)

/-- The greatest height among keys and values. -/
def heightOfEntries : List (Value × Value) → Nat
  | [] => 0
  | (k, v) :: rest => max (max (height k) (height v)) (heightOfEntries rest)

end

end Value
end Concord
