/-!
# Bytes as text

Text in UTF-8, read from bytes that need not be valid. Each longest start of a
character that is not completed becomes one replacement character.
-/

namespace Concord
namespace Text

/-- The start of a character: the bits so far, how many bytes are missing, and
between which values the next one lies. -/
structure PartialChar where
  bits : Nat
  missing : Nat
  low : Nat := 0x80
  high : Nat := 0xbf

/-- Stands for bytes that are no character. -/
def replacement : Char := Char.ofNat 0xfffd

/-- What the first byte of a character starts, if it is one. -/
def startChar? (b : Nat) : Option PartialChar :=
  if 0xc2 ≤ b && b ≤ 0xdf then some { bits := b - 0xc0, missing := 1 }
  else if b = 0xe0 then some { bits := 0, missing := 2, low := 0xa0 }
  else if b = 0xed then some { bits := 0xd, missing := 2, high := 0x9f }
  else if 0xe1 ≤ b && b ≤ 0xef then some { bits := b - 0xe0, missing := 2 }
  else if b = 0xf0 then some { bits := 0, missing := 3, low := 0x90 }
  else if 0xf1 ≤ b && b ≤ 0xf3 then some { bits := b - 0xf0, missing := 3 }
  else if b = 0xf4 then some { bits := 4, missing := 3, high := 0x8f }
  else none

/-- Reads a byte outside a character: the text so far, reversed, and the
character that starts. -/
def readStart (read : List Char) (b : Nat) : List Char × Option PartialChar :=
  if b < 0x80 then (Char.ofNat b :: read, none)
  else
    match startChar? b with
    | some p => (read, some p)
    | none => (replacement :: read, none)

/-- Reads one byte. -/
def readByte (state : List Char × Option PartialChar) (byte : UInt8) :
    List Char × Option PartialChar :=
  let b := byte.toNat
  match state with
  | (read, none) => readStart read b
  | (read, some p) =>
    if p.low ≤ b && b ≤ p.high then
      let bits := 64 * p.bits + (b - 0x80)
      if p.missing ≤ 1 then (Char.ofNat bits :: read, none)
      else (read, some { bits := bits, missing := p.missing - 1 })
    else readStart (replacement :: read) b

/-- The text that bytes stand for. -/
def ofBytes (bytes : List UInt8) : List Char :=
  match bytes.foldl readByte ([], none) with
  | (read, none) => read.reverse
  | (read, some _) => (replacement :: read).reverse

def toBytes (s : String) : List UInt8 :=
  s.toUTF8.toList

end Text
end Concord
