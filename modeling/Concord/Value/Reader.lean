import Concord.Binary64.Decimal
import Concord.Numeral
import Concord.Text.Blank
import Concord.Text.Letter
import Concord.Value.Address
import Concord.Value.Basic

/-!
# Reading printed values

`Value.read` reads the text under which a value was printed. Text without a
model, nested too deeply, or followed by anything but white space, is kept
verbatim.

A reader takes the remaining characters and gives a result with what remains
after it. Nesting is counted down from `nestingLimit`; the loops over items and
entries run on a fuel that the length of the text bounds, since every turn
consumes a character.
-/

namespace Concord
namespace Value

/-- A partial reader of the remaining characters. -/
abbrev Scan (α : Type) := List Char → Option (α × List Char)

/-- How many levels of values may be nested. -/
def nestingLimit : Nat := 512

/-! ## Quoted text -/

/-- What a letter after a backslash stands for; most stand for themselves. -/
def simpleEscape (c : Char) : Char :=
  if c = 'n' then '\n'
  else if c = 'r' then '\r'
  else if c = 't' then '\t'
  else if c = '0' then Char.ofNat 0
  else c

/-- Puts a character before a text that was read. -/
def prepend {α : Type} (a? : Option α) (read? : Option (List α × List Char)) :
    Option (List α × List Char) := do
  let a ← a?
  let (as, rest) ← read?
  some (a :: as, rest)

/-- Reads the characters of a string up to the closing quote. -/
def readQuoted (quote : Char) : Scan (List Char)
  | [] => none
  | ['\\'] => none
  | '\\' :: 'x' :: a :: b :: rest =>
    prepend (Text.hexChar? [a, b]) (readQuoted quote rest)
  | '\\' :: 'u' :: a :: b :: c :: d :: rest =>
    prepend (Text.hexChar? [a, b, c, d]) (readQuoted quote rest)
  | '\\' :: 'U' :: a :: b :: c :: d :: e :: f :: g :: h :: rest =>
    prepend (Text.hexChar? [a, b, c, d, e, f, g, h]) (readQuoted quote rest)
  | '\\' :: e :: rest =>
    if e = 'x' || e = 'u' || e = 'U' then none
    else prepend (some (simpleEscape e)) (readQuoted quote rest)
  | c :: rest =>
    if c = quote then some ([], rest)
    else prepend (some c) (readQuoted quote rest)

/-- The byte whose value is the character's code point. -/
def byteOfChar? (c : Char) : Option UInt8 :=
  if c.toNat < 256 then some (UInt8.ofNat c.toNat) else none

/-- Reads the bytes of a byte string up to the closing quote. -/
def readQuotedBytes (quote : Char) : Scan (List UInt8)
  | [] => none
  | ['\\'] => none
  | '\\' :: 'x' :: a :: b :: rest =>
    prepend ((Text.hexNumber? [a, b]).map UInt8.ofNat)
      (readQuotedBytes quote rest)
  | '\\' :: e :: rest =>
    if e = 'x' then none
    else prepend (byteOfChar? (simpleEscape e)) (readQuotedBytes quote rest)
  | c :: rest =>
    if c = quote then some ([], rest)
    else prepend (byteOfChar? c) (readQuotedBytes quote rest)

/-! ## Text in angle brackets -/

/-- Reads up to the bracket that closes the first one; `depth` brackets are
open. -/
def readAngle : (depth : Nat) → Scan (List Char)
  | _, [] => none
  | depth, c :: rest =>
    if c = '<' then prepend (some c) (readAngle (depth + 1) rest)
    else if c = '>' then
      if depth ≤ 1 then some ([c], rest)
      else prepend (some c) (readAngle (depth - 1) rest)
    else prepend (some c) (readAngle depth rest)

/-! ## Numbers -/

def isSign (c : Char) : Bool :=
  c == '-' || c == '+'

def isExponentMark (c : Char) : Bool :=
  c == 'e' || c == 'E'

/-- Splits off the longest run of digits, points, exponent marks and signs right
after a mark. -/
def numberRun : (afterMark : Bool) → List Char → List Char × List Char
  | _, [] => ([], [])
  | afterMark, c :: rest =>
    if c.isDigit || c == '.' || isExponentMark c || (afterMark && isSign c) then
      let (run, rest) := numberRun (isExponentMark c) rest
      (c :: run, rest)
    else ([], c :: rest)

/-- Splits off the body of a number: `inf`, `nan` or a run. -/
def numberBody : List Char → List Char × List Char
  | 'i' :: 'n' :: 'f' :: rest => (['i', 'n', 'f'], rest)
  | 'n' :: 'a' :: 'n' :: rest => (['n', 'a', 'n'], rest)
  | cs => numberRun false cs

def signOf : List Char → List Char × List Char
  | [] => ([], [])
  | c :: rest => if isSign c then ([c], rest) else ([], c :: rest)

/-- The body denotes a float and not a whole number. -/
def isFloatBody (body : List Char) : Bool :=
  body.any fun c => c == '.' || isExponentMark c || c == 'n'

def signedDigits (sign digits : List Char) : Int :=
  if sign = ['-'] then -(Decimal.ofDigits digits : Int)
  else Decimal.ofDigits digits

/-- The value of a whole number: digits beyond 64 bits are kept verbatim. -/
def wholeNumber (sign digits : List Char) : Value :=
  let n := signedDigits sign digits
  if Width.fitsSigned 64 n then .int (Int64.ofInt n)
  else .verbatim (String.ofList (sign ++ digits))

/-- Reads a number; a `j` after it makes it imaginary. -/
def readNumber : Scan Value := fun cs =>
  let (sign, unsigned) := signOf cs
  let (body, rest) := numberBody unsigned
  if body.isEmpty then none
  else
    let number? := Binary64.read? (sign ++ body)
    let plain :=
      if isFloatBody body then number?.map fun x => (.float x, rest)
      else some (wholeNumber sign body, rest)
    match rest with
    | [] => plain
    | c :: after =>
      if c = 'j' || c = 'J' then
        number?.map fun im => (.complex Binary64.zero im, after)
      else plain

/-! ## Names -/

/-- The value that a name alone denotes. -/
def named? (name : List Char) : Option Value :=
  if name = "True".toList then some (.bool true)
  else if name = "False".toList then some (.bool false)
  else if name = "None".toList then some .null
  else if name = "NotImplemented".toList then some .notImplemented
  else if name = "Ellipsis".toList then some .ellipsis
  else if name = "inf".toList then some (.float (.infinite false))
  else if name = "nan".toList then some (.float .nan)
  else none

/-- The value that a call denotes: the empty set, frozen sets and byte arrays
have their own. -/
def construct (callee : List Char) (args : List Value) : Value :=
  match args with
  | [] =>
    if callee = "set".toList then .set []
    else if callee = "frozenset".toList then .frozenSet []
    else if callee = "bytearray".toList then .byteArray []
    else .call (String.ofList callee) []
  | [.set items] =>
    if callee = "frozenset".toList then .frozenSet items
    else .call (String.ofList callee) args
  | [.bytes bs] =>
    if callee = "bytearray".toList then .byteArray bs
    else .call (String.ofList callee) args
  | _ => .call (String.ofList callee) args

def startsName (c : Char) : Bool :=
  Text.isLetter c || c == '_'

def continuesName (c : Char) : Bool :=
  c == '_' || c == '.' || Text.isLetterOrNumeral c

/-! ## Containers

Each takes the reader for the values one level further in. -/

/-- Reads values separated by commas up to `close`; a comma may also follow the
last one. -/
def readItems (item : Scan Value) (close : Char) :
    (fuel : Nat) → Scan (List Value)
  | 0, _ => none
  | fuel + 1, cs =>
    match Text.skipBlanks cs with
    | [] => none
    | c :: rest =>
      if c = close then some ([], rest)
      else do
        let (v, rest) ← item (c :: rest)
        match Text.skipBlanks rest with
        | [] => none
        | d :: rest =>
          if d = close then some ([v], rest)
          else if d = ',' then
            let (vs, rest) ← readItems item close fuel rest
            some (v :: vs, rest)
          else none

def readAfterColon (item : Scan Value) : Scan Value := fun cs =>
  match Text.skipBlanks cs with
  | ':' :: rest => item rest
  | _ => none

/-- Reads the entries of a dictionary that follow its first one, and the closing
brace. -/
def readMoreEntries (item : Scan Value) :
    (fuel : Nat) → Scan (List (Value × Value))
  | 0, _ => none
  | fuel + 1, cs =>
    match Text.skipBlanks cs with
    | '}' :: rest => some ([], rest)
    | ',' :: rest =>
      match Text.skipBlanks rest with
      | '}' :: rest => some ([], rest)
      | rest => do
        let (k, rest) ← item rest
        let (v, rest) ← readAfterColon item rest
        let (es, rest) ← readMoreEntries item fuel rest
        some ((k, v) :: es, rest)
    | _ => none

/-- The real part of a complex number. A whole zero with a minus sign is
negative zero. -/
def realPart? (negative : Bool) : Value → Option Binary64
  | .int n =>
    some (if n = 0 && negative then Binary64.negZero
      else Binary64.ofInt n.toInt)
  | .float x => some x
  | _ => none

/-- Reads the imaginary part of a complex number and the closing parenthesis. -/
def readImaginary (re : Binary64) : Scan Value := fun cs => do
  let (v, rest) ← readNumber cs
  match v, Text.skipBlanks rest with
  | .complex _ im, ')' :: rest => some (.complex re im, rest)
  | _, _ => none

/-- Reads what may follow the first value in parentheses: the end, or a comma
and more items. -/
def readAfterFirst (fuel : Nat) (item : Scan Value) (first : Value) : Scan Value
  | ')' :: rest => some (first, rest)
  | ',' :: rest => do
    let (vs, rest) ← readItems item ')' fuel rest
    some (.tuple (first :: vs), rest)
  | _ => none

def startsWithSign : List Char → Bool
  | [] => false
  | c :: _ => isSign c

/-- Reads what follows an opening parenthesis: a tuple, a complex number or a
value in parentheses. -/
def readParen (fuel : Nat) (item : Scan Value) : Scan Value := fun cs =>
  match Text.skipBlanks cs with
  | ')' :: rest => some (.tuple [], rest)
  | cs => do
    let (first, rest) ← item cs
    let rest := Text.skipBlanks rest
    match realPart? (cs.head? == some '-') first with
    | some re =>
      if startsWithSign rest then readImaginary re rest
      else readAfterFirst fuel item first rest
    | none => readAfterFirst fuel item first rest

/-- Reads what follows an opening brace: a dictionary or a set. -/
def readBrace (fuel : Nat) (item : Scan Value) : Scan Value := fun cs =>
  match Text.skipBlanks cs with
  | '}' :: rest => some (.dict [], rest)
  | cs => do
    let (first, rest) ← item cs
    match Text.skipBlanks rest with
    | ':' :: rest =>
      let (v, rest) ← item rest
      let (es, rest) ← readMoreEntries item fuel rest
      some (.dict ((first, v) :: es), rest)
    | '}' :: rest => some (.set [first], rest)
    | ',' :: rest =>
      let (vs, rest) ← readItems item '}' fuel rest
      some (.set (first :: vs), rest)
    | _ => none

/-- Reads a name, alone or as the callee of a call. -/
def readName (fuel : Nat) (item : Scan Value) : Scan Value := fun cs =>
  let name := cs.takeWhile continuesName
  match cs.dropWhile continuesName with
  | '(' :: rest => do
    let (args, rest) ← readItems item ')' fuel rest
    some (construct name args, rest)
  | rest => (named? name).map fun v => (v, rest)

def isQuote (c : Char) : Bool :=
  c == '\'' || c == '"'

/-- Reads a value by its first character. -/
def readNested (fuel : Nat) (item : Scan Value) : Scan Value := fun cs =>
  match Text.skipBlanks cs with
  | [] => none
  | '.' :: '.' :: '.' :: rest => some (.ellipsis, rest)
  | c :: rest =>
    if c = '[' then
      (readItems item ']' fuel rest).map fun (vs, rest) => (.list vs, rest)
    else if c = '(' then readParen fuel item rest
    else if c = '{' then readBrace fuel item rest
    else if c = '<' then
      (readAngle 0 (c :: rest)).map fun (t, rest) =>
        (.verbatim (String.ofList t), rest)
    else if isQuote c then
      (readQuoted c rest).map fun (t, rest) => (.str (String.ofList t), rest)
    else if c.isDigit || isSign c || c == '.' then readNumber (c :: rest)
    else match c, rest with
      | 'b', q :: after =>
        if isQuote q then
          (readQuotedBytes q after).map fun (bs, rest) => (.bytes bs, rest)
        else readName fuel item (c :: rest)
      | _, _ => if startsName c then readName fuel item (c :: rest) else none

/-- Reads one value with at most `levels` levels of values. -/
def readValue (fuel : Nat) : (levels : Nat) → Scan Value
  | 0, _ => none
  | levels + 1, cs => readNested fuel (readValue fuel levels) cs

def readTrimmed (cs : List Char) : Value :=
  match readValue (cs.length + 1) nestingLimit cs with
  | some (v, rest) =>
    if (Text.skipBlanks rest).isEmpty then v else .verbatim (String.ofList cs)
  | none => .verbatim (String.ofList cs)

/-- The value that a text prints. -/
def read (text : String) : Value :=
  readTrimmed (Text.trimBlanks text.toList)

end Value
end Concord
