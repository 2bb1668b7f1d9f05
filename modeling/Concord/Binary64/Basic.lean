/-!
# Binary64 numbers

A double-precision number is NaN, an infinity, or a sign with a biased exponent
and a fraction. There is one NaN, so equality of this type tells the two zeros
apart and takes a NaN to be equal to itself.

Every finite number is a whole multiple of `2 ^ -1074`, its *units*. Listed by
magnitude, the numbers that are not negative have consecutive *indices*, and the
step from one index to the next is exact.
-/

namespace Concord

/-- The number of fraction values per exponent, `2 ^ 52`. -/
abbrev Binary64.fractionCount : Nat := 0x10000000000000

/-- A double-precision number with a single NaN. -/
inductive Binary64 where
  | nan
  | infinite (negative : Bool)
  | finite (negative : Bool) (exponent : Fin 2047)
      (fraction : Fin Binary64.fractionCount)
  deriving DecidableEq

namespace Binary64

/-- The number of finite magnitudes, which is the index of infinity. -/
def magnitudeCount : Nat := 2047 * fractionCount

/-- The magnitude with a biased exponent and a fraction, counted in units of
`2 ^ -1074`. -/
def units (exponent fraction : Nat) : Nat :=
  if exponent = 0 then fraction
  else (fractionCount + fraction) * Nat.pow 2 (exponent - 1)

/-- How many units make one. -/
def unitsPerOne : Nat := Nat.pow 2 1074

/-- The number with the given place in the list of magnitudes; infinite past the
end. -/
def ofIndex (negative : Bool) (i : Nat) : Binary64 :=
  if h : i < 2047 * fractionCount then
    .finite negative
      ⟨i / fractionCount, Nat.div_lt_of_lt_mul (Nat.mul_comm _ _ ▸ h)⟩
      ⟨i % fractionCount, Nat.mod_lt _ (by decide)⟩
  else .infinite negative

def zero : Binary64 := .finite false 0 0

def negZero : Binary64 := .finite true 0 0

/-- Neither an infinity nor NaN. -/
def isFinite : Binary64 → Bool
  | .finite .. => true
  | _ => false

/-- The sign is set; NaN has none. -/
def isNegative : Binary64 → Bool
  | .nan => false
  | .infinite negative => negative
  | .finite negative _ _ => negative

/-- The number without its sign. -/
def abs : Binary64 → Binary64
  | .nan => .nan
  | .infinite _ => .infinite false
  | .finite _ e f => .finite false e f

/-- The nearest whole number to a quotient; a half goes to the even
neighbour. -/
def roundHalfEven (num den : Nat) : Nat :=
  let q := num / den
  let r := num % den
  if 2 * r < den then q
  else if den < 2 * r then q + 1
  else if q % 2 = 0 then q else q + 1

/-- The number nearest to `num / den`; of two equally near ones the one with the
even fraction. The step between neighbours is `2 ^ shift` units, where the
quotient fills 53 bits. -/
def ofRatio (negative : Bool) (num den : Nat) : Binary64 :=
  let scaled := num * unitsPerOne
  let shift := Nat.log2 (scaled / den) - 52
  ofIndex negative
    (shift * fractionCount + roundHalfEven scaled (den * Nat.pow 2 shift))

/-- The number nearest to a whole number. -/
def ofInt (n : Int) : Binary64 :=
  ofRatio (n < 0) n.natAbs 1

/-- A magnitude with a sign. -/
def signedInt (negative : Bool) (n : Nat) : Int :=
  if negative then -(n : Int) else n

/-- Nothing stands after the point. This is said of finite numbers only. -/
def isWhole : Binary64 → Bool
  | .finite _ e f => units e f % unitsPerOne == 0
  | _ => false

/-- The place of a number on the line, in units. Infinity is past the largest
finite number, the two zeros have one place, and NaN has none. -/
def position? : Binary64 → Option Int
  | .nan => none
  | .infinite negative => some (signedInt negative (units 2047 0))
  | .finite negative e f => some (signedInt negative (units e f))

/-- The order of numbers, false where one of them is NaN. -/
def le (x y : Binary64) : Bool :=
  match x.position?, y.position? with
  | some p, some q => p ≤ q
  | _, _ => false

/-- The strict order of numbers, false where one of them is NaN. -/
def lt (x y : Binary64) : Bool :=
  match x.position?, y.position? with
  | some p, some q => p < q
  | _, _ => false

/-- The 64-bit integer next to a number toward zero. Past either end it is the
one at that end, and for NaN it is zero. -/
def toInt64 : Binary64 → Int64
  | .nan => 0
  | .infinite negative => if negative then Int64.minValue else Int64.maxValue
  | .finite negative e f =>
    Int64.ofIntClamp (signedInt negative (units e f / unitsPerOne))

/-- The number `2 ^ 63` with a sign. The negative one is the least 64-bit
integer, and the positive one is the first whole number past them. -/
def int64Bound (negative : Bool) : Binary64 := .finite negative 1086 0

/-- The sign in the interchange encoding. -/
def signBit : Nat := 2048 * fractionCount

/-- The interchange encoding: sign, exponent and fraction; NaN is the quiet
one. -/
def toBits : Binary64 → Nat
  | .nan => magnitudeCount + fractionCount / 2
  | .infinite negative => (if negative then signBit else 0) + magnitudeCount
  | .finite negative e f =>
    (if negative then signBit else 0) + e * fractionCount + f

/-- The number with an interchange encoding. -/
def ofBits (bits : Nat) : Binary64 :=
  let negative := bits / signBit % 2 = 1
  let magnitude := bits % signBit
  if magnitudeCount < magnitude then .nan else ofIndex negative magnitude

end Binary64
end Concord
