import Concord.Binary64.Basic

/-!
# Addresses in printed text

Objects print with the address they live at, which differs from run to run. An
address is `0x` or `0X` followed by hexadecimal digits; for comparison each one
is replaced by `0x?`.
-/

namespace Concord
namespace Address

def isHexDigit (c : Char) : Bool :=
  c.isDigit || ('a' ≤ c && c ≤ 'f') || ('A' ≤ c && c ≤ 'F')

def startsWithHexDigit : List Char → Bool
  | [] => false
  | c :: _ => isHexDigit c

/-- Replaces addresses; `within` holds while the digits of a replaced address
are being skipped. -/
def mask : (within : Bool) → List Char → List Char
  | _, [] => []
  | within, [c] => if within && isHexDigit c then [] else [c]
  | within, c :: x :: rest =>
    if within && isHexDigit c then mask true (x :: rest)
    else if c == '0' && (x == 'x' || x == 'X') && startsWithHexDigit rest then
      '0' :: 'x' :: '?' :: mask true rest
    else c :: mask false (x :: rest)

/-- The text with every address replaced by `0x?`. -/
def normalise (text : String) : String :=
  String.ofList (mask false text.toList)

end Address
end Concord
