import Concord.Text.Blank
import Concord.Text.Letter

/-!
# Tokens of Python source

Source text is split into words, numbers, strings and marks. Line ends and
changes of indentation count only outside brackets. A formatted string keeps the
expressions in its replacement fields.
-/

namespace Concord
namespace Source

/-- A token of source text. -/
inductive Token where
  | word (text : String)
  | number
  /-- A string, with the expressions in its replacement fields. -/
  | string (fields : List (List Char))
  | mark (text : String)
  | newline
  | indent
  | dedent
  deriving DecidableEq, Inhabited

/-! ## Strings -/

/-- A letter that may stand before the opening quote of a string. -/
def isStringMark (c : Char) : Bool :=
  "rRbBuUfFtT".toList.contains c

/-- Splits string marks from the opening quote after them, where that is what
the text starts with. -/
def stringStart? (cs : List Char) : Option (List Char × Char × List Char) :=
  let marks := cs.takeWhile isStringMark
  match cs.dropWhile isStringMark with
  | q :: rest => if q = '\'' || q = '"' then some (marks, q, rest) else none
  | [] => none

/-- Reads the content of a string on one line up to its closing quote. -/
def shortString (quote : Char) : List Char → Option (List Char × List Char)
  | [] => none
  | ['\\'] => none
  | '\\' :: c :: rest =>
    (shortString quote rest).map fun (t, r) => ('\\' :: c :: t, r)
  | c :: rest =>
    if c = quote then some ([], rest)
    else if c = '\n' then none
    else (shortString quote rest).map fun (t, r) => (c :: t, r)

/-- Reads the content of a string up to three closing quotes. -/
def longString (quote : Char) : List Char → Option (List Char × List Char)
  | [] => none
  | ['\\'] => none
  | '\\' :: c :: rest =>
    (longString quote rest).map fun (t, r) => ('\\' :: c :: t, r)
  | c :: rest =>
    if c = quote && rest.take 2 = [quote, quote] then some ([], rest.drop 2)
    else (longString quote rest).map fun (t, r) => (c :: t, r)

/-- Reads the content of a string after its first quote. -/
def stringContent? (quote : Char) (cs : List Char) :
    Option (List Char × List Char) :=
  if cs.take 2 = [quote, quote] then longString quote (cs.drop 2)
  else shortString quote cs

/-- Where the scan of a formatted string stands. -/
inductive FieldPart where
  /-- In text, outside of fields. -/
  | text
  /-- In an expression, with this many brackets open and the expression so far
  reversed. -/
  | expression (brackets : Nat) (reversed : List Char)
  /-- In a string that stands in an expression. -/
  | inner (quote : Char) (brackets : Nat) (reversed : List Char)
  /-- After the mark of a conversion, which is a small letter. -/
  | conversion
  /-- After a conversion, before the closing brace or a format. -/
  | converted
  /-- In a format, which is text that may hold fields. -/
  | format

/-- The expression without the equals sign that may end it. -/
def fieldExpression (reversed : List Char) : List Char :=
  match reversed.dropWhile Text.isBlank with
  | '=' :: rest =>
    if rest.head?.any fun c => "=!<>".toList.contains c then reversed.reverse
    else rest.reverse
  | _ => reversed.reverse

/-- The expressions in the replacement fields of a formatted string; none where
a brace is not matched. The stack holds what encloses the present part. Every
turn consumes a character, which bounds the fuel. -/
def fieldsOf :
    (fuel : Nat) → FieldPart → List FieldPart → List Char →
      Option (List (List Char))
  | 0, _, _, _ => none
  | _ + 1, .text, [], [] => some []
  | _ + 1, _, _, [] => none
  | fuel + 1, part, stack, c :: rest =>
    match part with
    | .text | .format =>
      if c = '{' then
        match rest with
        | '{' :: after => fieldsOf fuel part stack after
        | _ => fieldsOf fuel (.expression 0 []) (part :: stack) rest
      else if c = '}' then
        match part, stack, rest with
        | .format, outer :: stack, _ => fieldsOf fuel outer stack rest
        | .text, _, '}' :: after => fieldsOf fuel part stack after
        | _, _, _ => none
      else fieldsOf fuel part stack rest
    | .inner quote brackets reversed =>
      if c = quote then
        fieldsOf fuel (.expression brackets (c :: reversed)) stack rest
      else fieldsOf fuel (.inner quote brackets (c :: reversed)) stack rest
    | .expression brackets reversed =>
      if c = '\'' || c = '"' then
        fieldsOf fuel (.inner c brackets (c :: reversed)) stack rest
      else if "([\x7b".toList.contains c then
        fieldsOf fuel (.expression (brackets + 1) (c :: reversed)) stack rest
      else if brackets = 0 then
        let close (next : FieldPart) (stack : List FieldPart) :=
          (fieldsOf fuel next stack rest).map (fieldExpression reversed :: ·)
        if c = '}' then
          match stack with
          | outer :: stack => close outer stack
          | [] => none
        else if c = ':' then close .format stack
        else if c = '!' && rest.head? ≠ some '=' then close .conversion stack
        else fieldsOf fuel (.expression 0 (c :: reversed)) stack rest
      else if ")]\x7d".toList.contains c then
        fieldsOf fuel (.expression (brackets - 1) (c :: reversed)) stack rest
      else fieldsOf fuel (.expression brackets (c :: reversed)) stack rest
    | .conversion =>
      if 'a' ≤ c && c ≤ 'z' then fieldsOf fuel .converted stack rest else none
    | .converted =>
      if c = '}' then
        match stack with
        | outer :: stack => fieldsOf fuel outer stack rest
        | [] => none
      else if c = ':' then fieldsOf fuel .format stack rest
      else if Text.isBlank c then fieldsOf fuel .converted stack rest
      else none

/-- The token of a string with the given marks and content. -/
def stringToken? (marks content : List Char) : Option Token :=
  if marks.any fun c => "fFtT".toList.contains c then
    (fieldsOf (content.length + 1) .text [] content).map .string
  else some (.string [])

/-! ## Numbers, words and marks -/

/-- Skips decimal digits, each run of which may end with one underscore. -/
def skipDigits (cs : List Char) : List Char :=
  go false cs
where
  /-- Skips on; an underscore counts only right after a digit. -/
  go (afterDigit : Bool) : List Char → List Char
    | [] => []
    | c :: rest =>
      if c.isDigit then go true rest
      else if c = '_' && afterDigit then go false rest
      else c :: rest

/-- Skips digits of a class, each run of which may start with one underscore. -/
def skipDigitsOf (isDigit : Char → Bool) : List Char → List Char
  | '_' :: d :: rest =>
    if isDigit d then skipDigitsOf isDigit rest else '_' :: d :: rest
  | c :: rest => if isDigit c then skipDigitsOf isDigit rest else c :: rest
  | [] => []

def skipExponent (cs : List Char) : List Char :=
  match cs with
  | c :: rest =>
    if c = 'e' || c = 'E' then
      let digits := match rest with
        | s :: r => if s = '+' || s = '-' then r else s :: r
        | [] => []
      if digits.head?.any Char.isDigit then skipDigits digits else cs
    else cs
  | [] => cs

/-- Skips the letter that may end a number. -/
def skipNumberMark (letters : String) (cs : List Char) : List Char :=
  match cs with
  | c :: rest => if letters.toList.contains c then rest else cs
  | [] => cs

/-- A hexadecimal digit of either case. -/
def isHexadecimal (c : Char) : Bool :=
  c.isDigit || ('a' ≤ c && c ≤ 'f') || ('A' ≤ c && c ≤ 'F')

/-- The digits that may follow a zero and the letter of a base. -/
def digitsOfBase? (letter : Char) : Option (Char → Bool) :=
  if letter = 'x' || letter = 'X' then some isHexadecimal
  else if letter = 'o' || letter = 'O' then some fun c => '0' ≤ c && c ≤ '7'
  else if letter = 'b' || letter = 'B' then some fun c => c == '0' || c == '1'
  else none

/-- Skips a whole number with a base, where the text starts with one. -/
def skipBased? : List Char → Option (List Char)
  | '0' :: letter :: digits => do
    let isDigit ← digitsOfBase? letter
    let rest := skipDigitsOf isDigit digits
    if rest.length < digits.length then some (skipNumberMark "lL" rest)
    else none
  | _ => none

def skipDecimal (cs : List Char) : List Char :=
  match skipDigits cs with
  | '.' :: rest =>
    let fraction :=
      if rest.head?.any Char.isDigit then skipDigits rest else rest
    skipNumberMark "jJlL" (skipExponent fraction)
  | rest => skipNumberMark "jJlL" (skipExponent rest)

def skipNumber? (cs : List Char) : Option (List Char) :=
  match skipBased? cs with
  | some rest => some rest
  | none =>
    match cs with
    | '.' :: d :: rest =>
      if d.isDigit then
        some (skipNumberMark "jJlL" (skipExponent (skipDigits (d :: rest))))
      else none
    | c :: _ => if c.isDigit then some (skipDecimal cs) else none
    | [] => none

def startsWord (c : Char) : Bool :=
  c == '_' || Text.isLetter c

def continuesWord (c : Char) : Bool :=
  c == '_' || Text.isLetterOrNumeral c

/-- The marks, longer ones first. -/
def marks : List String :=
  ["**=", "//=", ">>=", "<<=", "...", "!=", "->", ":=", "**", "//", "<<", ">>",
    "<=", ">=", "==", "<>", "+=", "-=", "*=", "/=", "%=", "@=", "&=", "|=",
    "^=", "+", "-", "*", "/", "%", "@", "&", "|", "^", "~", "<", ">", "(", ")",
    "[", "]", "\x7b", "\x7d", ",", ":", ".", ";", "="]

/-- Splits off the mark that the text starts with. -/
def mark? (cs : List Char) : Option (String × List Char) :=
  (marks.find? fun m => cs.take m.length = m.toList).map fun m =>
    (m, cs.drop m.length)

/-! ## Lines -/

/-- A character that separates tokens without ending a line. -/
def isSpace (c : Char) : Bool :=
  Text.isBlank c || [0xfeff, 0x2060, 0x200b].contains c.toNat

/-- The width of the indentation that a line starts with, and the rest of the
line. -/
def indentation : (width : Nat) → List Char → Nat × List Char
  | width, ' ' :: rest => indentation (width + 1) rest
  | width, '\t' :: rest => indentation (width / 8 * 8 + 8) rest
  | _, '\r' :: rest => (0, '\r' :: rest)
  | width, cs => (width, cs)

/-- Adapts the open indentations to a new width; the marks for what is opened or
closed are returned. -/
def reindent (width : Nat) : List Nat → Option (List Token × List Nat)
  | [] => if width = 0 then some ([], []) else some ([.indent], [width])
  | top :: outer =>
    if width = top then some ([], top :: outer)
    else if top < width then some ([.indent], width :: top :: outer)
    else if outer.isEmpty && width ≠ 0 then none
    else
      (reindentDown width outer).map fun (ts, open') => (.dedent :: ts, open')
where
  /-- Closes indentations until one of the given width is reached. -/
  reindentDown (width : Nat) : List Nat → Option (List Token × List Nat)
    | [] => if width = 0 then some ([], []) else none
    | top :: outer =>
      if width = top then some ([], top :: outer)
      else if top < width then none
      else
        (reindentDown width outer).map fun (ts, open') => (.dedent :: ts, open')

/-- The place of the scan within the line structure. -/
structure Place where
  /-- The number of open brackets. -/
  brackets : Nat := 0
  /-- The widths of open indentations, the innermost first. -/
  indents : List Nat := []
  /-- The next character starts a line. -/
  lineStart : Bool := true

/-- Splits source text into tokens; none where a character fits no token. Each
turn of the scan consumes a character or leaves the start of a line, so twice
the length of the text is fuel enough. -/
def tokens : (fuel : Nat) → Place → List Char → Option (List Token)
  | 0, _, _ => none
  | _ + 1, p, [] =>
    some ((if p.lineStart then [] else [.newline]) ++
      p.indents.map fun _ => .dedent)
  | fuel + 1, p, c :: rest =>
    if p.lineStart && p.brackets = 0 then
      let (width, line) := indentation 0 (c :: rest)
      match line with
      | [] => tokens fuel p []
      | d :: after =>
        if d = '\n' then tokens fuel p after
        else if d = '#' then tokens fuel p (line.dropWhile (· != '\n'))
        else if isSpace d then tokens fuel p after
        else do
          let (ts, indents) ← reindent width p.indents
          let more ←
            tokens fuel { p with indents := indents, lineStart := false } line
          some (ts ++ more)
    else if c = '\n' then
      if p.brackets = 0 then
        (tokens fuel { p with lineStart := true } rest).map (.newline :: ·)
      else tokens fuel p rest
    else if isSpace c then tokens fuel p rest
    else if c = '#' then tokens fuel p (rest.dropWhile (· != '\n'))
    else if c = '\\' then
      match rest with
      | '\n' :: after => tokens fuel p after
      | '\r' :: '\n' :: after => tokens fuel p after
      | _ => none
    else
      match stringStart? (c :: rest) with
      | some (stringMarks, quote, after) => do
        let (content, after) ← stringContent? quote after
        let token ← stringToken? stringMarks content
        let more ← tokens fuel p after
        some (token :: more)
      | none =>
        match skipNumber? (c :: rest) with
        | some after => (tokens fuel p after).map (.number :: ·)
        | none =>
          if startsWord c then
            let word := c :: rest.takeWhile continuesWord
            (tokens fuel p (rest.dropWhile continuesWord)).map
              (.word (String.ofList word) :: ·)
          else do
            let (m, after) ← mark? (c :: rest)
            let brackets :=
              if ["(", "[", "\x7b"].contains m then p.brackets + 1
              else if [")", "]", "\x7d"].contains m then p.brackets - 1
              else p.brackets
            let more ← tokens fuel { p with brackets := brackets } after
            some (.mark m :: more)

def tokensOf? (cs : List Char) : Option (List Token) :=
  tokens (2 * cs.length + 2) {} cs

end Source
end Concord
