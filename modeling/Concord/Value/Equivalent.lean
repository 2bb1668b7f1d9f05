import Concord.Value.Basic
import Concord.Value.Address

/-!
# Equivalence of values

Two printed values agree when they are the same up to what a backend may choose
freely: the order of sets and dictionaries, the addresses in verbatim text, and
whether a whole number is an integer or a float. The sign of a zero is
significant and a NaN agrees with itself.
-/

namespace Concord

/-- The list without its first member that satisfies `p`; none if there is no
such member. -/
def eraseFirst? {α : Type} (p : α → Bool) : List α → Option (List α)
  | [] => none
  | a :: rest => if p a then some rest else (eraseFirst? p rest).map (a :: ·)

namespace Value

/-- A 64-bit integer and a float denote the same number, exactly: the float is
converted only where the conversion keeps its value. -/
def intEqualsFloat (n : Int64) (x : Binary64) : Bool :=
  if !x.isFinite || !x.isWhole || x == .negZero then false
  else
    (Binary64.int64Bound true).le x && x.lt (Binary64.int64Bound false) &&
      x.toInt64 == n

mutual

/-- The two values agree. -/
def equivalent : Value → Value → Bool
  | .null, .null => true
  | .notImplemented, .notImplemented => true
  | .ellipsis, .ellipsis => true
  | .bool a, .bool b => a == b
  | .int a, .int b => a == b
  | .float a, .float b => a == b
  | .int a, .float b => intEqualsFloat a b
  | .float a, .int b => intEqualsFloat b a
  | .complex re im, .complex re' im' => re == re' && im == im'
  | .str a, .str b => a == b
  | .bytes a, .bytes b => a == b
  | .byteArray a, .byteArray b => a == b
  | .list a, .list b => equivalentInOrder a b
  | .tuple a, .tuple b => equivalentInOrder a b
  | .set a, .set b => equivalentUnordered a b
  | .frozenSet a, .frozenSet b => equivalentUnordered a b
  | .dict a, .dict b => a.length == b.length && includesEntries a b
  | .call f a, .call g b => f == g && equivalentInOrder a b
  | .verbatim a, .verbatim b => Address.normalise a == Address.normalise b
  | _, _ => false

/-- The items agree one by one. -/
def equivalentInOrder : List Value → List Value → Bool
  | [], [] => true
  | a :: as, b :: bs => equivalent a b && equivalentInOrder as bs
  | _, _ => false

/-- Each item on the left takes the first item on the right that it agrees with
and that is still free, and none is left over. -/
def equivalentUnordered : List Value → List Value → Bool
  | [], bs => bs.isEmpty
  | a :: as, bs =>
    match eraseFirst? (equivalent a) bs with
    | some rest => equivalentUnordered as rest
    | none => false

/-- Every entry on the left has a value that agrees with the one under the first
agreeing key on the right. -/
def includesEntries : List (Value × Value) → List (Value × Value) → Bool
  | [], _ => true
  | (k, v) :: rest, bs =>
    (match bs.find? fun e => equivalent k e.1 with
      | some e => equivalent v e.2
      | none => false) && includesEntries rest bs

end

end Value
end Concord
