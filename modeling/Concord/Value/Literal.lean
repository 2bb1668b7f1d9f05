import Concord.Value.Basic
import Concord.Binary64.Shortest

/-!
# Source literals

The text under which a value can be written in a program. Empty sets, frozen
sets, byte arrays, calls, verbatim text and numbers that are not finite have no
literal.
-/

namespace Concord

namespace Layout

/-- Numbers in literals: positional from `0.0001` up to below `10 ^ 16`, always
with a point or an exponent. -/
def literal : Layout :=
  { lowest := -4, highest := 16, plusSign := false, tie := .up }

end Layout

namespace Value

def hexDigit (n : Nat) : Char :=
  if n < 10 then Char.ofNat ('0'.toNat + n)
  else Char.ofNat ('a'.toNat + (n - 10))

/-- A code below 256 as `\x` and two digits. -/
def hexEscape (n : Nat) : List Char :=
  ['\\', 'x', hexDigit (n / 16), hexDigit (n % 16)]

/-- A character between single quotes. Quotes, backslashes and control
characters are escaped. -/
def quoteChar (c : Char) : List Char :=
  if c = '\\' then ['\\', '\\']
  else if c = '\'' then ['\\', '\'']
  else if c = '\n' then ['\\', 'n']
  else if c = '\r' then ['\\', 'r']
  else if c = '\t' then ['\\', 't']
  else if c.toNat < 0x20 || c.toNat = 0x7f then hexEscape c.toNat
  else [c]

def quoteString (cs : List Char) : List Char :=
  '\'' :: (cs.flatMap quoteChar ++ ['\''])

/-- A byte between single quotes. All but printable ASCII is escaped. -/
def quoteByte (b : UInt8) : List Char :=
  let n := b.toNat
  if n = 0x5c then ['\\', '\\']
  else if n = 0x27 then ['\\', '\'']
  else if n = 0x0a then ['\\', 'n']
  else if n = 0x0d then ['\\', 'r']
  else if n = 0x09 then ['\\', 't']
  else if 0x20 ≤ n && n ≤ 0x7e then [Char.ofNat n]
  else hexEscape n

def quoteBytes (bs : List UInt8) : List Char :=
  'b' :: '\'' :: (bs.flatMap quoteByte ++ ['\''])

/-- Decimal digits with a minus sign where needed. -/
def intText (n : Int) : List Char :=
  if n < 0 then '-' :: Nat.toDigits 10 n.natAbs else Nat.toDigits 10 n.natAbs

/-- A complex number. A real part of positive zero is left out; otherwise both
parts stand in parentheses, joined by the sign of the imaginary one. -/
def complexText? (re im : Binary64) : Option (List Char) :=
  if re = Binary64.zero then (Layout.literal.render? im).map (· ++ ['j'])
  else do
    let r ← Layout.literal.render? re
    let i ← Layout.literal.render? im.abs
    some ('(' ::
      (r ++ (if im.isNegative then '-' else '+') :: (i ++ ['j', ')'])))

/-- Texts separated by a comma and a space. -/
def joinTexts (texts : List (List Char)) : List Char :=
  List.intercalate [',', ' '] texts

mutual

def literalText? : Value → Option (List Char)
  | .null => some "None".toList
  | .notImplemented => some "NotImplemented".toList
  | .ellipsis => some "...".toList
  | .bool true => some "True".toList
  | .bool false => some "False".toList
  | .int n => some (intText n.toInt)
  | .float x => Layout.literal.render? x
  | .complex re im => complexText? re im
  | .str s => some (quoteString s.toList)
  | .bytes bs => some (quoteBytes bs)
  | .list items =>
    (literalTexts? items).map fun ts => '[' :: (joinTexts ts ++ [']'])
  | .tuple [v] => (literalText? v).map fun t => '(' :: (t ++ [',', ')'])
  | .tuple items =>
    (literalTexts? items).map fun ts => '(' :: (joinTexts ts ++ [')'])
  | .set (v :: rest) =>
    (literalTexts? (v :: rest)).map fun ts => '{' :: (joinTexts ts ++ ['}'])
  | .dict entries =>
    (entryTexts? entries).map fun ts => '{' :: (joinTexts ts ++ ['}'])
  | .set [] | .frozenSet _ | .byteArray _ | .call _ _ | .verbatim _ => none

/-- The literals of items; none if one of them has none. -/
def literalTexts? : List Value → Option (List (List Char))
  | [] => some []
  | v :: rest => do
    let t ← literalText? v
    let ts ← literalTexts? rest
    some (t :: ts)

/-- The literals of dictionary entries, each as `key: value`. -/
def entryTexts? : List (Value × Value) → Option (List (List Char))
  | [] => some []
  | (k, v) :: rest => do
    let kt ← literalText? k
    let vt ← literalText? v
    let ts ← entryTexts? rest
    some ((kt ++ ':' :: ' ' :: vt) :: ts)

end

/-- The literal of a value, where it has one. -/
def literal? (v : Value) : Option String :=
  (literalText? v).map String.ofList

end Value
end Concord
