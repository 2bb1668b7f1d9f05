import Concord.Host.Tool.Basic
import Concord.Numeral

/-!
# Formatted output

The escapes and conversions of `printf` and `echo`. A format is used again while
arguments remain.
-/

namespace Concord
namespace Host
namespace Format

/-- The value of up to `count` octal digits, and what remains. -/
def octal (count : Nat) (cs : List Char) : Nat × List Char :=
  let isOctal (c : Char) : Bool := '0' ≤ c && c ≤ '7'
  let digits := (cs.take count).takeWhile isOctal
  (digits.foldl (fun n d => 8 * n + (d.toNat - '0'.toNat)) 0,
    cs.drop digits.length)

/-- What a letter after a backslash stands for. -/
def escape? (c : Char) : Option Nat :=
  if c = 'a' then some 7
  else if c = 'b' then some 8
  else if c = 'f' then some 12
  else if c = 'n' then some 10
  else if c = 'r' then some 13
  else if c = 't' then some 9
  else if c = 'v' then some 11
  else if c = '\\' then some 92
  else none

/-- The bytes of a text with escapes, and whether an escape ends all output.
Octal digits follow the backslash, after a zero where `zero` asks for one. -/
def escaped (zero : Bool) : (fuel : Nat) → List Char → Bytes × Bool
  | 0, _ => ([], false)
  | _ + 1, [] => ([], false)
  | fuel + 1, c :: rest =>
    let plain (c : Char) (rest : List Char) : Bytes × Bool :=
      let (more, stop) := escaped zero fuel rest
      (Text.toBytes c.toString ++ more, stop)
    let byte (n : Nat) (rest : List Char) : Bytes × Bool :=
      let (more, stop) := escaped zero fuel rest
      (UInt8.ofNat n :: more, stop)
    if c ≠ '\\' then plain c rest
    else
      match rest with
      | [] => plain c []
      | 'c' :: after => if zero then ([], true) else plain c ('c' :: after)
      | '0' :: after =>
        if zero then
          let (n, after) := octal 3 after
          byte n after
        else
          let (n, after) := octal 3 ('0' :: after)
          byte n after
      | d :: after =>
        match escape? d with
        | some n => byte n after
        | none =>
          if !zero && '1' ≤ d && d ≤ '7' then
            let (n, after) := octal 3 (d :: after)
            byte n after
          else plain c (d :: after)

/-! ## Conversions -/

/-- How a value is laid out. -/
structure Field where
  left : Bool := false
  zeros : Bool := false
  plus : Bool := false
  width : Nat := 0
  precision : Option Nat := none

def Field.pad (f : Field) (text : List Char) : List Char :=
  let blanks := List.replicate (f.width - text.length) ' '
  if f.left then text ++ blanks else blanks ++ text

/-- A number with its sign, padded. -/
def Field.number (f : Field) (negative : Bool) (digits : List Char) :
    List Char :=
  let sign := if negative then ['-'] else if f.plus then ['+'] else []
  let digits :=
    List.replicate (f.precision.getD 0 - digits.length) '0' ++ digits
  if f.zeros && !f.left && f.precision.isNone then
    sign ++ List.replicate (f.width - sign.length - digits.length) '0' ++ digits
  else f.pad (sign ++ digits)

/-- Reads flags, width and precision. -/
def field (cs : List Char) : Field × List Char :=
  let number (ds : List Char) : Nat :=
    ds.foldl (fun n d => 10 * n + (d.toNat - '0'.toNat)) 0
  let isFlag (c : Char) : Bool := "-0+ #".toList.contains c
  let flags := cs.takeWhile isFlag
  let cs := cs.dropWhile isFlag
  let width := cs.takeWhile Char.isDigit
  let cs := cs.dropWhile Char.isDigit
  let (precision, cs) : Option Nat × List Char :=
    match cs with
    | '.' :: rest =>
      (some (number (rest.takeWhile Char.isDigit)), rest.dropWhile Char.isDigit)
    | cs => (none, cs)
  ({ left := flags.contains '-'
     zeros := flags.contains '0'
     plus := flags.contains '+'
     width := number width
     precision := precision }, cs)

/-- The number that an argument of a conversion stands for: a decimal, or the
code of a character after a quote. -/
def argument (text : String) : Int :=
  match text.toList with
  | '\'' :: c :: _ | '"' :: c :: _ => c.toNat
  | '0' :: 'x' :: ds => ((Text.hexNumber? ds).getD 0 : Nat)
  | _ => (decimal? text).getD 0

/-- The bytes of one conversion, and whether it ends all output. -/
def convert (f : Field) (kind : Char) (arg : String) : Bytes × Bool :=
  let text (cs : List Char) : Bytes × Bool :=
    (Text.toBytes (String.ofList cs), false)
  let n := argument arg
  let unsigned : Nat := if n < 0 then (n + Width.count 64).toNat else n.toNat
  if kind = 's' then
    text (f.pad (match f.precision with
      | some p => arg.toList.take p
      | none => arg.toList))
  else if kind = 'c' then text (f.pad (arg.toList.take 1))
  else if kind = 'd' || kind = 'i' then
    text (f.number (n < 0) (Nat.toDigits 10 n.natAbs))
  else if kind = 'u' then text (f.number false (Nat.toDigits 10 unsigned))
  else if kind = 'o' then text (f.number false (Nat.toDigits 8 unsigned))
  else if kind = 'x' then text (f.number false (Nat.toDigits 16 unsigned))
  else if kind = 'X' then
    text (f.number false ((Nat.toDigits 16 unsigned).map Char.toUpper))
  else if kind = 'b' then escaped true (arg.length + 1) arg.toList
  else ([], false)

/-- What one pass over a format gives. -/
structure Pass where
  bytes : Bytes := []
  /-- The arguments that remain. -/
  args : List String
  /-- A conversion took an argument or asked for one. -/
  converted : Bool := false
  stopped : Bool := false

/-- One pass over a format. -/
def pass : (fuel : Nat) → Pass → List Char → Pass
  | 0, p, _ => p
  | _ + 1, p, [] => p
  | fuel + 1, p, '%' :: '%' :: rest =>
    pass fuel { p with bytes := p.bytes ++ [37] } rest
  | fuel + 1, p, '%' :: rest =>
    let (f, rest) := field rest
    match rest with
    | [] => p
    | kind :: rest =>
      let (bytes, stopped) := convert f kind (p.args.headD "")
      let p :=
        { p with
          bytes := p.bytes ++ bytes, args := p.args.drop 1, converted := true,
          stopped := stopped }
      if stopped then p else pass fuel p rest
  | fuel + 1, p, cs =>
    let isPlain (c : Char) : Bool := c != '%'
    let (bytes, _) := escaped false (cs.length + 1) (cs.takeWhile isPlain)
    pass fuel { p with bytes := p.bytes ++ bytes } (cs.dropWhile isPlain)

def render (format : List Char) :
    (fuel : Nat) → (read : Bytes) → List String → Bytes
  | 0, read, _ => read
  | fuel + 1, read, args =>
    let p := pass (format.length + 1) { args := args } format
    let read := read ++ p.bytes
    if p.stopped || !p.converted || p.args.isEmpty then read
    else render format fuel read p.args

end Format

def printf : Tool := fun c =>
  let args := match c.args with
    | "--" :: rest => rest
    | args => args
  match args with
  | [] => c.refuse "usage: printf format [arg ...]" 2
  | format :: args =>
    { out := Format.render format.toList (args.length + 1) [] args }

/-- Prints words; escapes count where the shell itself does it. -/
def echo (escapes : Bool) : Tool := fun c =>
  let (newline, words) : Bool × List String :=
    match c.args with
    | "-n" :: rest => (false, rest)
    | args => (true, args)
  let text := " ".intercalate words
  if escapes then
    let (bytes, stopped) := Format.escaped true (text.length + 1) text.toList
    { out := bytes ++ (if newline && !stopped then [lineFeed] else []) }
  else { out := Text.toBytes text ++ (if newline then [lineFeed] else []) }

end Host
end Concord
