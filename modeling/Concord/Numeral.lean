/-!
# Hexadecimal numerals and widths

The numbers and characters that hexadecimal digits denote, and the whole
numbers that fit into a number of bits, with a sign and without.
-/

namespace Concord
namespace Text

/-- The value of a hexadecimal digit of either case. -/
def hexValue? (c : Char) : Option Nat :=
  if c.isDigit then some (c.toNat - '0'.toNat)
  else if 'a' ≤ c && c ≤ 'f' then some (c.toNat - 'a'.toNat + 10)
  else if 'A' ≤ c && c ≤ 'F' then some (c.toNat - 'A'.toNat + 10)
  else none

/-- The number that hexadecimal digits denote. -/
def hexNumber? (cs : List Char) : Option Nat :=
  cs.foldlM (fun n c => (hexValue? c).map (16 * n + ·)) 0

/-- The character whose code point the hexadecimal digits denote. -/
def hexChar? (cs : List Char) : Option Char :=
  (hexNumber? cs).bind fun n =>
    if n.isValidChar then some (Char.ofNat n) else none

end Text

namespace Width

/-- How many values a number of bits has. -/
def count (bits : Nat) : Nat :=
  Nat.pow 2 bits

/-- The number fits into bits of which one is the sign. -/
def fitsSigned (bits : Nat) (n : Int) : Bool :=
  -(count (bits - 1) : Int) ≤ n && n < count (bits - 1)

/-- The number fits into bits without a sign. -/
def fitsUnsigned (bits : Nat) (n : Int) : Bool :=
  0 ≤ n && n < count bits

end Width
end Concord
