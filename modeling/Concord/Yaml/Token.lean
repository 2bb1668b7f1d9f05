import Concord.Yaml.Scalar

/-!
# YAML tokens

`Token.scan?` splits a YAML text into tokens. The indentation of block
collections becomes tokens that open and close them, and a key without an
indicator is recognised when its colon is met: the text that started there is
remembered as a possible key, on one line and for at most 1024 characters.
-/

namespace Concord
namespace Yaml

/-- A token of a YAML text. -/
inductive Token where
  | version (major minor : Nat)
  | tagHandle (handle replacement : String)
  | documentStart
  | documentEnd
  | blockSequenceStart
  | blockMappingStart
  | blockEnd
  | flowSequenceStart
  | flowSequenceEnd
  | flowMappingStart
  | flowMappingEnd
  | blockEntry
  | flowEntry
  | key
  | value
  | alias (name : String)
  | anchor (name : String)
  | tag (handle suffix : String)
  | scalar (text : String) (style : ScalarStyle)
  deriving DecidableEq, Inhabited

/-- A place where a key without an indicator may have started. -/
structure PossibleKey where
  /-- No other reading of the text is left, so that a colon has to follow. -/
  required : Bool
  /-- How many tokens stand before the key. -/
  tokens : Nat
  index : Nat
  line : Nat
  column : Nat

/-- What is known between two tokens. -/
structure ScanState where
  cursor : Cursor
  /-- The tokens found, last one first. -/
  tokens : List Token := []
  /-- The column of the innermost block collection, or minus one. -/
  indent : Int := -1
  /-- The columns of the collections around it. -/
  outer : List Int := []
  /-- A key may start here. -/
  keyAllowed : Bool := true
  /-- The possible key of each open flow collection, innermost first, and of the
  block around them. -/
  keys : List (Option PossibleKey) := [none]

namespace ScanState

/-- The cursor is inside a flow collection. -/
def inFlow (s : ScanState) : Bool :=
  1 < s.keys.length

def push (s : ScanState) (t : Token) : ScanState :=
  { s with tokens := t :: s.tokens }

/-- Adds a token after the first `n` ones. -/
def insertAfter (s : ScanState) (n : Nat) (t : Token) : ScanState :=
  { s with tokens := s.tokens.insertIdx (s.tokens.length - n) t }

/-- Steps over `n` characters. -/
def advance (s : ScanState) (n : Nat) : ScanState :=
  { s with cursor := s.cursor.advance n }

/-! ## Possible keys -/

/-- Forgets the possible keys that began on an earlier line or too far back. -/
def dropStaleKeys? (s : ScanState) : Option ScanState := do
  let keys ← s.keys.mapM fun
    | none => some none
    | some k =>
      if k.line < s.cursor.line || k.index + 1024 < s.cursor.index then
        if k.required then none else some none
      else some (some k)
  some { s with keys := keys }

/-- Gives up the innermost possible key. -/
def dropKey? (s : ScanState) : Option ScanState :=
  match s.keys with
  | some k :: keys =>
    if k.required then none else some { s with keys := none :: keys }
  | _ => some s

/-- Remembers that a key may start here. -/
def noteKey? (s : ScanState) : Option ScanState :=
  if !s.keyAllowed then some s
  else do
    let s ← s.dropKey?
    let k : PossibleKey :=
      { required := !s.inFlow && s.indent == s.cursor.column
        tokens := s.tokens.length
        index := s.cursor.index
        line := s.cursor.line
        column := s.cursor.column }
    some { s with keys := some k :: s.keys.drop 1 }

/-! ## Indentation -/

/-- Opens a block collection at `column` if it is indented further than the one
around it; its token comes after the first `n` tokens. -/
def openBlock (s : ScanState) (column : Nat) (n : Nat) (t : Token) :
    ScanState :=
  if !s.inFlow && s.indent < column then
    { s with indent := column, outer := s.indent :: s.outer }.insertAfter n t
  else s

/-- Closes the block collections that are indented further than `column`. -/
def closeBlocks (s : ScanState) (column : Int) : ScanState :=
  if s.inFlow then s else go s.outer s
where
  /-- Closes collections while there are any. -/
  go : List Int → ScanState → ScanState
    | [], s => s
    | i :: outer, s =>
      if column < s.indent then
        go outer ({ s with indent := i, outer := outer }.push .blockEnd)
      else s

/-- Ends all blocks before a document marker or a directive. -/
def leaveDocument? (s : ScanState) : Option ScanState := do
  let s ← (s.closeBlocks (-1)).dropKey?
  some { s with keyAllowed := false }

/-! ## White space between tokens -/

/-- Steps over blanks, comments and line breaks. Tabs count as blanks only where
no key may start. -/
def skipGaps : (fuel : Nat) → ScanState → ScanState
  | 0, s => s
  | fuel + 1, s =>
    let c := s.cursor
    let c :=
      if c.column == 0 && c.rest.head?.any (·.toNat == 0xfeff) then c.advance 1
      else c
    let c := c.skipWhile fun ch =>
      ch == ' ' || ((s.inFlow || !s.keyAllowed) && ch == '\t')
    let c := if c.sees '#' then c.skipToLineEnd else c
    if c.rest.head?.any isBreak then
      skipGaps fuel { s with
        cursor := c.takeBreak.2, keyAllowed := s.keyAllowed || !s.inFlow }
    else { s with cursor := c }

/-! ## Tags, anchors and directives -/

/-- Reads bytes that are written as `%` and two hexadecimal digits each and that
make up one character. -/
def percentChar? (cs : List Char) : Option (Char × Nat) := do
  let byte? : List Char → Option Nat
    | '%' :: a :: b :: _ => Text.hexNumber? [a, b]
    | _ => none
  let first ← byte? cs
  let width :=
    if first < 0x80 then 1
    else if 0xc0 ≤ first && first < 0xe0 then 2
    else if 0xe0 ≤ first && first < 0xf0 then 3
    else if 0xf0 ≤ first && first < 0xf8 then 4
    else 0
  if width = 0 then none
  else
    let bytes ← (List.range width).mapM fun (i : Nat) => byte? (cs.drop (3 * i))
    let text ← String.fromUTF8? ⟨(bytes.map UInt8.ofNat).toArray⟩
    let char ← text.toList.head?
    some (char, 3 * width)

/-- A character of a tag; `verbatim` ones may also hold flow indicators. -/
def isTagChar (verbatim : Bool) (c : Char) : Bool :=
  isWordChar c || ";/?:@&=+$.!~*'()".toList.contains c ||
    (verbatim && ",[]".toList.contains c)

/-- Reads the characters of a tag; `read` is kept reversed. -/
def tagText? (verbatim : Bool) :
    (fuel : Nat) → (read : List Char) → Cursor → Option (List Char × Cursor)
  | 0, read, c => some (read.reverse, c)
  | fuel + 1, read, c =>
    match c.rest with
    | [] => some (read.reverse, c)
    | ch :: _ =>
      if ch == '%' then do
        let (char, n) ← percentChar? c.rest
        tagText? verbatim fuel (char :: read) (c.advance n)
      else if isTagChar verbatim ch then
        tagText? verbatim fuel (ch :: read) (c.advance 1)
      else some (read.reverse, c)

/-- Reads a tag handle: `!`, `!!` or a word between exclamation marks; or `!`
and a word. -/
def tagHandle? (c : Cursor) : Option (List Char × Cursor) :=
  if !c.sees '!' then none
  else
    let word := (c.rest.drop 1).takeWhile isWordChar
    let c := c.advance (1 + word.length)
    if c.sees '!' then some ('!' :: word ++ ['!'], c.advance 1)
    else some ('!' :: word, c)

def tag? (s : ScanState) : Option ScanState := do
  let s ← s.noteKey?
  let c := s.cursor
  let (handle, suffix, c) ←
    if c.rest.take 2 == ['!', '<'] then
      let (text, c) ← tagText? true (c.rest.length + 1) [] (c.advance 2)
      if text.isEmpty || !c.sees '>' then none else some ([], text, c.advance 1)
    else do
      let (handle, c) ← tagHandle? c
      if 1 < handle.length && handle.getLast? == some '!' then
        let (text, c) ← tagText? false (c.rest.length + 1) [] c
        if text.isEmpty then none else some (handle, text, c)
      else
        let (text, c) ←
          tagText? false (c.rest.length + 1) (handle.drop 1).reverse c
        if text.isEmpty then some ([], ['!'], c) else some (['!'], text, c)
  if atSpace c.rest || (s.inFlow && c.sees ',') then
    some ({ s with cursor := c, keyAllowed := false }.push
      (.tag (String.ofList handle) (String.ofList suffix)))
  else none

/-- Reads the name of an anchor or alias after its indicator. -/
def anchorName? (c : Cursor) : Option (String × Cursor) :=
  let name := (c.rest.drop 1).takeWhile isWordChar
  let c := c.advance (1 + name.length)
  if name.isEmpty then none
  else if atSpace c.rest ||
    c.rest.head?.any ("?:,]\x7d%@`".toList.contains ·) then
    some (String.ofList name, c)
  else none

/-- Reads a number of at most nine digits. -/
def versionNumber? (c : Cursor) : Option (Nat × Cursor) :=
  let digits := c.rest.takeWhile Char.isDigit
  if digits.isEmpty || 9 < digits.length then none
  else
    some (digits.foldl (fun n d => 10 * n + (d.toNat - '0'.toNat)) 0,
      c.advance digits.length)

/-- Reads a directive: the version, or a tag handle and what it stands for. -/
def directive? (s : ScanState) : Option ScanState := do
  let s ← s.leaveDocument?
  let c := s.cursor.advance 1
  let name := c.rest.takeWhile isWordChar
  let c := c.advance name.length
  if !atSpace c.rest then none
  else
    let c := c.skipWhile isBlank
    let (t, c) ←
      if name == "YAML".toList then
        let (major, c) ← versionNumber? c
        if !c.sees '.' then none
        else
          let (minor, c) ← versionNumber? (c.advance 1)
          some (Token.version major minor, c)
      else if name == "TAG".toList then
        let (handle, c) ← tagHandle? c
        if handle != ['!'] && handle.getLast? != some '!' then none
        else if !c.rest.head?.any isBlank then none
        else
          let c := c.skipWhile isBlank
          let (text, c) ← tagText? true (c.rest.length + 1) [] c
          if text.isEmpty || !atSpace c.rest then none
          else
            some (Token.tagHandle (String.ofList handle) (String.ofList text),
              c)
      else none
    let c := c.skipWhile isBlank
    let c := if c.sees '#' then c.skipToLineEnd else c
    if atLineEnd c.rest then some ({ s with cursor := c.takeBreak.2 }.push t)
    else none

/-! ## Tokens -/

/-- Reads the marker of the start or end of a document. -/
def marker? (s : ScanState) (t : Token) : Option ScanState := do
  let s ← s.leaveDocument?
  some ((s.advance 3).push t)

/-- Reads the bracket that opens a flow collection. -/
def openFlow? (s : ScanState) (t : Token) : Option ScanState := do
  let s ← s.noteKey?
  let s := { s with keys := none :: s.keys, keyAllowed := true }
  some ((s.advance 1).push t)

/-- Reads the bracket that closes a flow collection. -/
def closeFlow? (s : ScanState) (t : Token) : Option ScanState := do
  let s ← s.dropKey?
  let keys := if s.inFlow then s.keys.drop 1 else s.keys
  some (({ s with keys := keys, keyAllowed := false }.advance 1).push t)

/-- Reads the comma between the entries of a flow collection. -/
def flowEntry? (s : ScanState) : Option ScanState := do
  let s ← s.dropKey?
  some (({ s with keyAllowed := true }.advance 1).push .flowEntry)

/-- Reads the dash before an item of a block sequence. -/
def blockEntry? (s : ScanState) : Option ScanState := do
  if !s.inFlow && !s.keyAllowed then none
  else
    let s ←
      (s.openBlock s.cursor.column s.tokens.length .blockSequenceStart).dropKey?
    some (({ s with keyAllowed := true }.advance 1).push .blockEntry)

def keyIndicator? (s : ScanState) : Option ScanState := do
  if !s.inFlow && !s.keyAllowed then none
  else
    let s ←
      (s.openBlock s.cursor.column s.tokens.length .blockMappingStart).dropKey?
    some (({ s with keyAllowed := !s.inFlow }.advance 1).push .key)

/-- Reads the colon before a value: it makes a key of the text that was possibly
one. -/
def valueIndicator? (s : ScanState) : Option ScanState :=
  match s.keys with
  | some k :: keys =>
    let s :=
      (s.insertAfter k.tokens .key).openBlock k.column k.tokens
        .blockMappingStart
    some (({ s with keys := none :: keys, keyAllowed := false }.advance 1).push
      .value)
  | _ =>
    if s.inFlow then
      some (({ s with keyAllowed := false }.advance 1).push .value)
    else if !s.keyAllowed then none
    else
      let s := s.openBlock s.cursor.column s.tokens.length .blockMappingStart
      some (({ s with keyAllowed := true }.advance 1).push .value)

def anchor? (s : ScanState) (t : String → Token) : Option ScanState := do
  let s ← s.noteKey?
  let (name, c) ← anchorName? s.cursor
  some ({ s with cursor := c, keyAllowed := false }.push (t name))

def blockScalar? (s : ScanState) (style : ScalarStyle) : Option ScanState := do
  let s ← s.dropKey?
  let (text, c) ← blockText? (style == .folded) s.indent (s.cursor.advance 1)
  some ({ s with cursor := c, keyAllowed := true }.push
    (.scalar (String.ofList text) style))

def quotedScalar? (s : ScanState) (quote : Char) (style : ScalarStyle) :
    Option ScanState := do
  let s ← s.noteKey?
  let c := s.cursor.advance 1
  let (text, c) ← quotedText? quote (c.rest.length + 1) [] c
  some ({ s with cursor := c, keyAllowed := false }.push
    (.scalar (String.ofList text) style))

def plainScalar? (s : ScanState) : Option ScanState := do
  let s ← s.noteKey?
  let (text, broken, c) ←
    plainText? s.inFlow (s.indent + 1) (s.cursor.rest.length + 1) [] {} s.cursor
  some ({ s with cursor := c, keyAllowed := broken }.push
    (.scalar (String.ofList text) .plain))

/-- A plain scalar may start with the character, which stands before `next`. -/
def startsPlain (inFlow : Bool) (c : Char) (next : List Char) : Bool :=
  !(isSpace c || "-?:,[]\x7b\x7d#&*!|>'\"%@`".toList.contains c)
    || (c == '-' && !next.head?.any isBlank)
    || (!inFlow && (c == '?' || c == ':') && !atSpace next)

/-- Reads the token that starts with `ch`, which stands before `next`. -/
def token? (s : ScanState) (ch : Char) (next : List Char) : Option ScanState :=
  if s.cursor.column == 0 && ch == '%' then s.directive?
  else if s.cursor.seesMarker '-' then s.marker? .documentStart
  else if s.cursor.seesMarker '.' then s.marker? .documentEnd
  else if ch == '[' then s.openFlow? .flowSequenceStart
  else if ch == '{' then s.openFlow? .flowMappingStart
  else if ch == ']' then s.closeFlow? .flowSequenceEnd
  else if ch == '}' then s.closeFlow? .flowMappingEnd
  else if ch == ',' then s.flowEntry?
  else if ch == '-' && atSpace next then s.blockEntry?
  else if ch == '?' && (s.inFlow || atSpace next) then s.keyIndicator?
  else if ch == ':' && (s.inFlow || atSpace next) then s.valueIndicator?
  else if ch == '*' then s.anchor? .alias
  else if ch == '&' then s.anchor? .anchor
  else if ch == '!' then s.tag?
  else if ch == '|' && !s.inFlow then s.blockScalar? .literal
  else if ch == '>' && !s.inFlow then s.blockScalar? .folded
  else if ch == '\'' then s.quotedScalar? ch .singleQuoted
  else if ch == '"' then s.quotedScalar? ch .doubleQuoted
  else if startsPlain s.inFlow ch next then s.plainScalar?
  else none

def run? : (fuel : Nat) → ScanState → Option ScanState
  | 0, _ => none
  | fuel + 1, s => do
    let s ← (s.skipGaps (s.cursor.rest.length + 1)).dropStaleKeys?
    let s := s.closeBlocks s.cursor.column
    match s.cursor.rest with
    | [] => (s.closeBlocks (-1)).dropKey?
    | ch :: next => run? fuel (← s.token? ch next)

end ScanState

def Token.scan? (text : String) : Option (List Token) :=
  let cs := text.toList
  if cs.all isAllowed then
    (ScanState.run? (cs.length + 1) { cursor := { rest := cs } }).map fun s =>
      s.tokens.reverse
  else none

end Yaml
end Concord
