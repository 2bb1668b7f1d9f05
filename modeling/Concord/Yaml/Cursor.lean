import Concord.Text.Blank

/-!
# Cursors in YAML text

A cursor is what remains of a text, with the line and the column it has reached.
Columns decide the structure of block collections, so every step over a
character keeps them.
-/

namespace Concord
namespace Yaml

/-! ## Characters -/

/-- The character may stand in a YAML text. -/
def isAllowed (c : Char) : Bool :=
  c == '\t' || c == '\n' || c == '\r' ||
    Text.inRanges
    [(0x20, 0x7e), (0x85, 0x85), (0xa0, 0xd7ff), (0xe000, 0xfffd),
    (0x10000, 0x10ffff)] c

/-- A blank or a tab. -/
def isBlank (c : Char) : Bool :=
  c == ' ' || c == '\t'

/-- A line break: line feed, carriage return, next line, line or paragraph
separator. -/
def isBreak (c : Char) : Bool :=
  c == '\n' || c == '\r' || c.toNat == 0x85 || c.toNat == 0x2028 ||
    c.toNat == 0x2029

/-- A blank or a line break. -/
def isSpace (c : Char) : Bool :=
  isBlank c || isBreak c

/-- A character of a name: an ASCII letter or digit, `_` or `-`. -/
def isWordChar (c : Char) : Bool :=
  c.isAlphanum || c == '_' || c == '-'

/-- A character that opens, closes or separates flow collections. -/
def isFlowIndicator (c : Char) : Bool :=
  c == ',' || c == '[' || c == ']' || c == '{' || c == '}'

/-- The text is at its end or at a blank or line break. -/
def atSpace : List Char → Bool
  | [] => true
  | c :: _ => isSpace c

def atLineEnd : List Char → Bool
  | [] => true
  | c :: _ => isBreak c

/-! ## Cursors -/

/-- A place in a text. -/
structure Cursor where
  rest : List Char
  index : Nat := 0
  line : Nat := 0
  column : Nat := 0

namespace Cursor

/-- Steps over `n` characters of one line. -/
def advance (c : Cursor) (n : Nat) : Cursor :=
  { c with rest := c.rest.drop n, index := c.index + n, column := c.column + n }

/-- Steps over the characters with a property. -/
def skipWhile (c : Cursor) (p : Char → Bool) : Cursor :=
  c.advance (c.rest.takeWhile p).length

/-- Steps over the rest of the line. -/
def skipToLineEnd (c : Cursor) : Cursor :=
  c.skipWhile fun ch => !isBreak ch

/-- Steps over a line break, if there is one, and gives the text it stands for:
a line feed, except that line and paragraph separators stand for themselves. -/
def takeBreak (c : Cursor) : List Char × Cursor :=
  let next (n : Nat) (rest : List Char) : Cursor :=
    { rest := rest, index := c.index + n, line := c.line + 1, column := 0 }
  match c.rest with
  | '\r' :: '\n' :: rest => (['\n'], next 2 rest)
  | ch :: rest =>
    if ch.toNat = 0x2028 || ch.toNat = 0x2029 then ([ch], next 1 rest)
    else if isBreak ch then (['\n'], next 1 rest)
    else ([], c)
  | [] => ([], c)

/-- The next character is `ch`. -/
def sees (c : Cursor) (ch : Char) : Bool :=
  c.rest.head? == some ch

/-- The cursor stands on a document marker: three times `mark` at the start of a
line, then a space. -/
def seesMarker (c : Cursor) (mark : Char) : Bool :=
  c.column == 0 && c.rest.take 3 == [mark, mark, mark] &&
    atSpace (c.rest.drop 3)

/-- The cursor stands on the marker of the start or the end of a document. -/
def seesDocumentMarker (c : Cursor) : Bool :=
  c.seesMarker '-' || c.seesMarker '.'

end Cursor
end Yaml
end Concord
