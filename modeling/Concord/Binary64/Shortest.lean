import Concord.Binary64.Decimal

/-!
# The shortest decimal that reads back

A finite number that is not zero is written with the fewest digits that read
back as the same number; among those, with the ones nearest to it. The two
candidates for a digit count are the neighbours of the number on that decimal
grid. Where no candidate up to seventeen digits reads back, the exact decimal
expansion serves.
-/

namespace Concord

/-- Which of two equally near decimals is written. -/
inductive TieRule where
  | up
  | toEven
  deriving DecidableEq

namespace Decimal

/-- The quotient of a magnitude in units by `10 ^ exponent`, as numerator and
denominator. -/
def gridRatio (units : Nat) (exponent : Int) : Nat × Nat :=
  if 0 ≤ exponent then (units, Binary64.unitsPerOne * Nat.pow 10 exponent.toNat)
  else (units * Nat.pow 10 (-exponent).toNat, Binary64.unitsPerOne)

/-- Of the two neighbours of a magnitude on the grid of `10 ^ exponent`, the
nearest one that reads back as `x`. -/
def neighbour? (tie : TieRule) (x : Binary64) (units : Nat) (exponent : Int) :
    Option Decimal :=
  let (num, den) := gridRatio units exponent
  let low := num / den
  let rest := num % den
  let below : Decimal := ⟨low, exponent⟩
  let above : Decimal := ⟨low + 1, exponent⟩
  let readsBack (d : Decimal) : Bool := d.toBinary64 false = x
  if readsBack below then
    if readsBack above then
      if 2 * rest < den then some below
      else if den < 2 * rest then some above
      else match tie with
        | .up => some above
        | .toEven => if low % 2 = 0 then some below else some above
    else some below
  else if readsBack above then some above
  else none

/-- The exponent of the first decimal digit of a magnitude that is not zero. -/
def leadingExponent (units : Nat) : Int :=
  (digitCount (units * Nat.pow 10 343 / Binary64.unitsPerOne) : Int) - 344

/-- The exact decimal expansion of a magnitude. -/
def expansion (units : Nat) : Decimal :=
  ⟨units * Nat.pow 5 1074, -1074⟩

/-- The shortest decimal that reads back as `x`, whose magnitude in units is
given. -/
def shortest (tie : TieRule) (x : Binary64) (units : Nat) : Decimal :=
  let lead := leadingExponent units
  ((List.range 17).findSome? fun (n : Nat) =>
    neighbour? tie x units (lead - n)).getD
    (expansion units)

/-- The decimal without trailing zeros in its coefficient; `fuel` bounds their
number. -/
def strip : (fuel : Nat) → Decimal → Decimal
  | 0, d => d
  | fuel + 1, d =>
    if d.coefficient ≠ 0 && d.coefficient % 10 = 0 then
      strip fuel ⟨d.coefficient / 10, d.exponent + 1⟩
    else d

end Decimal

/-- How the text of a number is laid out. -/
structure Layout where
  /-- Exponents of the first digit that are written positionally: from `lowest`
  up to below `highest`. -/
  lowest : Int
  highest : Int
  /-- A positive exponent carries a plus sign. -/
  plusSign : Bool
  tie : TieRule

namespace Layout

/-- Digits with the point at its place, and at least one digit on each side of
it. -/
def positional (digits : List Char) (lead : Int) : List Char :=
  if lead < 0 then
    '0' :: '.' :: (List.replicate (-lead - 1).toNat '0' ++ digits)
  else
    let whole := lead.toNat + 1
    if digits.length ≤ whole then
      digits ++ List.replicate (whole - digits.length) '0' ++ ['.', '0']
    else digits.take whole ++ '.' :: digits.drop whole

/-- One digit, the others after a point, and the exponent. -/
def scientific (plusSign : Bool) (digits : List Char) (lead : Int) :
    List Char :=
  let fraction := match digits.drop 1 with
    | [] => []
    | ds => '.' :: ds
  let sign := if lead < 0 then ['-'] else if plusSign then ['+'] else []
  digits.take 1 ++ fraction ++ 'e' :: (sign ++ Nat.toDigits 10 lead.natAbs)

def decimal (layout : Layout) (d : Decimal) : List Char :=
  let stripped := d.strip (Decimal.digitCount d.coefficient)
  let digits := Nat.toDigits 10 stripped.coefficient
  let lead := stripped.exponent + digits.length - 1
  if layout.lowest ≤ lead && lead < layout.highest then positional digits lead
  else scientific layout.plusSign digits lead

/-- The text of a finite number; none for the others. -/
def render? (layout : Layout) : Binary64 → Option (List Char)
  | .finite negative e f =>
    let units := Binary64.units e f
    let text :=
      if units = 0 then ['0', '.', '0']
      else
        layout.decimal (Decimal.shortest layout.tie (.finite false e f) units)
    some (if negative then '-' :: text else text)
  | _ => none

end Layout
end Concord
