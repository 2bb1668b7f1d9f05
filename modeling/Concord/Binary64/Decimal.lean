import Concord.Binary64.Basic

/-!
# Decimal numbers and their nearest binary64

A decimal is a whole coefficient times a power of ten. It is read from text such
as `12`, `.5`, `3.` or `1.5e-7`, and rounded to the nearest binary64 exactly,
however long its digits or large its exponent.
-/

namespace Concord

/-- The number `coefficient * 10 ^ exponent`. -/
structure Decimal where
  coefficient : Nat
  exponent : Int
  deriving DecidableEq

namespace Decimal

def digitValue (c : Char) : Nat :=
  c.toNat - '0'.toNat

/-- The whole number that a list of ASCII digits denotes. -/
def ofDigits (cs : List Char) : Nat :=
  cs.foldl (fun n c => 10 * n + digitValue c) 0

/-- How many decimal digits a whole number has; zero has one. -/
def digitCount (n : Nat) : Nat :=
  (Nat.toDigits 10 n).length

/-- Reads an exponent such as `e5`, `E-07` or nothing at all. -/
def readExponent? : List Char → Option Int
  | [] => some 0
  | mark :: rest =>
    if mark == 'e' || mark == 'E' then
      match rest with
      | '-' :: ds => digits? ds |>.map fun n => -(n : Int)
      | '+' :: ds => digits? ds |>.map fun n => (n : Int)
      | ds => digits? ds |>.map fun n => (n : Int)
    else none
where
  /-- One or more digits and nothing else. -/
  digits? (ds : List Char) : Option Nat :=
    if ds.isEmpty || !ds.all Char.isDigit then none else some (ofDigits ds)

/-- Reads an unsigned decimal: digits with at most one point and at least one
digit, then an optional exponent. -/
def read? (cs : List Char) : Option Decimal :=
  let (whole, rest) := cs.span Char.isDigit
  let (fraction, rest) :=
    match rest with
    | '.' :: r => r.span Char.isDigit
    | r => ([], r)
  if whole.isEmpty && fraction.isEmpty then none
  else (readExponent? rest).map fun e =>
    { coefficient := ofDigits (whole ++ fraction)
      exponent := e - fraction.length }

/-- The nearest binary64. Beyond `10 ^ 308` a decimal that is not zero is
infinite, and below `10 ^ -324` it rounds to zero, so no large power of ten is
formed. -/
def toBinary64 (d : Decimal) (negative : Bool) : Binary64 :=
  if d.coefficient = 0 then Binary64.ofIndex negative 0
  else if 308 < d.exponent then .infinite negative
  else if d.exponent + digitCount d.coefficient < -324 then
    Binary64.ofIndex negative 0
  else if 0 ≤ d.exponent then
    Binary64.ofRatio negative (d.coefficient * Nat.pow 10 d.exponent.toNat) 1
  else Binary64.ofRatio negative d.coefficient (Nat.pow 10 (-d.exponent).toNat)

end Decimal

namespace Binary64

/-- Reads the text of a number without its sign: a decimal, or `inf`, `infinity`
or `nan` in letters of either case. -/
def readMagnitude? (negative : Bool) (cs : List Char) : Option Binary64 :=
  let lower := cs.map Char.toLower
  if lower = ['i', 'n', 'f'] || lower = "infinity".toList then
    some (.infinite negative)
  else if lower = ['n', 'a', 'n'] then some .nan
  else (Decimal.read? cs).map fun d => d.toBinary64 negative

/-- Reads the text of a number, with or without a sign. -/
def read? : List Char → Option Binary64
  | '-' :: cs => readMagnitude? true cs
  | '+' :: cs => readMagnitude? false cs
  | cs => readMagnitude? false cs

end Binary64
end Concord
