import Concord.Json.Basic
import Concord.Numeral

/-!
# Reading JSON

`Json.read?` reads a whole JSON text. It is strict: no comments, no comma before
a closing bracket, no leading zeros, no unescaped control characters, no lone
surrogates, no number beyond the range of a binary64, and at most `nestingLimit`
arrays and objects within each other.

Whole numbers that fit 64 bits stay whole; all others, and `-0`, are floats.
-/

namespace Concord
namespace Json

/-- How many arrays and objects may stand within each other. -/
def nestingLimit : Nat := 127

/-- Blank, tab, line feed and carriage return. -/
def isSpace (c : Char) : Bool :=
  c == ' ' || c == '\t' || c == '\n' || c == '\r'

/-- The text without the white space it starts with. -/
def skipSpace (cs : List Char) : List Char :=
  cs.dropWhile isSpace

/-! ## Strings -/

/-- What a single letter after a backslash stands for. -/
def escape? (c : Char) : Option Char :=
  if c = '"' || c = '\\' || c = '/' then some c
  else if c = 'b' then some (Char.ofNat 8)
  else if c = 'f' then some (Char.ofNat 12)
  else if c = 'n' then some '\n'
  else if c = 'r' then some '\r'
  else if c = 't' then some '\t'
  else none

/-- The first half of a surrogate pair. -/
def isHighSurrogate (n : Nat) : Bool :=
  0xd800 ≤ n && n < 0xdc00

/-- The second half of a surrogate pair. -/
def isLowSurrogate (n : Nat) : Bool :=
  0xdc00 ≤ n && n < 0xe000

def surrogatePair? (high low : Nat) : Option Char :=
  if isHighSurrogate high && isLowSurrogate low then
    some (Char.ofNat (0x10000 + (high - 0xd800) * 0x400 + (low - 0xdc00)))
  else none

/-- Reads the characters of a string up to the closing quote; `read` is kept
reversed. -/
def readChars (read : List Char) : List Char → Option (String × List Char)
  | '"' :: rest => some (String.ofList read.reverse, rest)
  | '\\' :: 'u' :: a :: b :: c :: d :: '\\' :: 'u' :: e :: f :: g :: h ::
      rest => do
    let first ← Text.hexNumber? [a, b, c, d]
    if isHighSurrogate first then
      let second ← Text.hexNumber? [e, f, g, h]
      let char ← surrogatePair? first second
      readChars (char :: read) rest
    else
      let char ← Text.hexChar? [a, b, c, d]
      readChars (char :: read) ('\\' :: 'u' :: e :: f :: g :: h :: rest)
  | '\\' :: 'u' :: a :: b :: c :: d :: rest => do
    let char ← Text.hexChar? [a, b, c, d]
    readChars (char :: read) rest
  | '\\' :: e :: rest => do
    let char ← escape? e
    readChars (char :: read) rest
  | c :: rest =>
    if c = '\\' || c.toNat < 0x20 then none else readChars (c :: read) rest
  | [] => none

/-! ## Numbers -/

/-- Reads the digits of the whole part: a single zero, or digits without a
leading one. -/
def readWhole : List Char → Option (List Char × List Char)
  | '0' :: rest => some (['0'], rest)
  | cs =>
    let (digits, rest) := cs.span Char.isDigit
    if digits.isEmpty then none else some (digits, rest)

def readFraction : List Char → Option (List Char × List Char)
  | '.' :: rest =>
    let (digits, rest) := rest.span Char.isDigit
    if digits.isEmpty then none else some ('.' :: digits, rest)
  | cs => some ([], cs)

def readExponent : List Char → Option (List Char × List Char)
  | [] => some ([], [])
  | c :: rest =>
    if c = 'e' || c = 'E' then
      let (sign, rest) :=
        match rest with
        | '+' :: rest => (['+'], rest)
        | '-' :: rest => (['-'], rest)
        | rest => ([], rest)
      let (digits, rest) := rest.span Char.isDigit
      if digits.isEmpty then none else some (c :: sign ++ digits, rest)
    else some ([], c :: rest)

/-- The value of a number without a fraction and an exponent. -/
def wholeNumber? (negative : Bool) (digits : List Char) : Option Json :=
  let n := Decimal.ofDigits digits
  if negative && 0 < n && Width.fitsSigned 64 (-(n : Int)) then
    some (.int (-(n : Int)))
  else if !negative && Width.fitsUnsigned 64 n then some (.int n)
  else
    let x := Decimal.toBinary64 ⟨n, 0⟩ negative
    if x.isFinite then some (.float x) else none

def readNumber (cs : List Char) : Option (Json × List Char) := do
  let (negative, cs) :=
    match cs with
    | '-' :: rest => (true, rest)
    | cs => (false, cs)
  let (whole, rest) ← readWhole cs
  let (fraction, rest) ← readFraction rest
  let (exponent, rest) ← readExponent rest
  if fraction.isEmpty && exponent.isEmpty then
    let n ← wholeNumber? negative whole
    some (n, rest)
  else
    let d ← Decimal.read? (whole ++ fraction ++ exponent)
    let x := d.toBinary64 negative
    if x.isFinite then some (.float x, rest) else none

/-! ## Values -/

/-- Reads the items of an array that follow its first one, and the closing
bracket. -/
def readMoreItems (value : List Char → Option (Json × List Char)) :
    (fuel : Nat) → List Char → Option (List Json × List Char)
  | 0, _ => none
  | fuel + 1, cs =>
    match skipSpace cs with
    | ']' :: rest => some ([], rest)
    | ',' :: rest => do
      let (v, rest) ← value rest
      let (vs, rest) ← readMoreItems value fuel rest
      some (v :: vs, rest)
    | _ => none

/-- Reads a name, a colon and a value. -/
def readField (value : List Char → Option (Json × List Char)) (cs : List Char) :
    Option ((String × Json) × List Char) :=
  match skipSpace cs with
  | '"' :: rest => do
    let (name, rest) ← readChars [] rest
    match skipSpace rest with
    | ':' :: rest =>
      let (v, rest) ← value rest
      some ((name, v), rest)
    | _ => none
  | _ => none

/-- Reads the fields of an object that follow its first one, and the closing
brace. -/
def readMoreFields (value : List Char → Option (Json × List Char)) :
    (fuel : Nat) → List Char → Option (List (String × Json) × List Char)
  | 0, _ => none
  | fuel + 1, cs =>
    match skipSpace cs with
    | '}' :: rest => some ([], rest)
    | ',' :: rest => do
      let (f, rest) ← readField value rest
      let (fs, rest) ← readMoreFields value fuel rest
      some (f :: fs, rest)
    | _ => none

/-- Reads a value in which at most `levels` arrays and objects stand within each
other. -/
def readValue (fuel : Nat) :
    (levels : Nat) → List Char → Option (Json × List Char)
  | levels, cs =>
    match skipSpace cs with
    | 'n' :: 'u' :: 'l' :: 'l' :: rest => some (.null, rest)
    | 't' :: 'r' :: 'u' :: 'e' :: rest => some (.bool true, rest)
    | 'f' :: 'a' :: 'l' :: 's' :: 'e' :: rest => some (.bool false, rest)
    | '"' :: rest => (readChars [] rest).map fun (s, rest) => (.str s, rest)
    | '[' :: rest =>
      match levels with
      | 0 => none
      | levels + 1 =>
        match skipSpace rest with
        | ']' :: rest => some (.array [], rest)
        | rest => do
          let (v, rest) ← readValue fuel levels rest
          let (vs, rest) ← readMoreItems (readValue fuel levels) fuel rest
          some (.array (v :: vs), rest)
    | '{' :: rest =>
      match levels with
      | 0 => none
      | levels + 1 =>
        match skipSpace rest with
        | '}' :: rest => some (.object [], rest)
        | rest => do
          let (f, rest) ← readField (readValue fuel levels) rest
          let (fs, rest) ← readMoreFields (readValue fuel levels) fuel rest
          some (.object (f :: fs), rest)
    | cs => readNumber cs

def read? (text : String) : Option Json := do
  let cs := text.toList
  let (v, rest) ← readValue (cs.length + 1) nestingLimit cs
  if (skipSpace rest).isEmpty then some v else none

end Json
end Concord
