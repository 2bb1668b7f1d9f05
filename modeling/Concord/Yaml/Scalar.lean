import Concord.Numeral
import Concord.Yaml.Cursor

/-!
# The text of YAML scalars

The text of plain, quoted and block scalars. A line break inside a scalar is
folded: one break is a blank, more breaks lose the first one. Block scalars keep
or fold their breaks and end by a chomping rule.

The loops run on a fuel; each turn consumes a character, so the length of the
text is enough.
-/

namespace Concord
namespace Yaml

/-- How a scalar is written. -/
inductive ScalarStyle where
  | plain
  | singleQuoted
  | doubleQuoted
  | literal
  | folded
  deriving DecidableEq, Inhabited

/-! ## Folding -/

/-- The white space between two words of a scalar. -/
structure Gap where
  /-- Blanks before the first line break. -/
  blanks : List Char := []
  /-- A line break was met. -/
  broken : Bool := false
  firstBreak : List Char := []
  moreBreaks : List Char := []

namespace Gap

/-- What a gap becomes. -/
def folded (g : Gap) : List Char :=
  if !g.broken then g.blanks
  else if g.firstBreak.head? == some '\n' then
    if g.moreBreaks.isEmpty then [' '] else g.moreBreaks
  else g.firstBreak ++ g.moreBreaks

def addBreak (g : Gap) (b : List Char) : Gap :=
  if g.broken then { g with moreBreaks := g.moreBreaks ++ b }
  else
    { blanks := []
      broken := true
      firstBreak := b
      moreBreaks := g.moreBreaks }

/-- Reads blanks and line breaks. After a break a tab left of column `indent` is
refused. -/
def read? (indent : Int) : (fuel : Nat) → Gap → Cursor → Option (Gap × Cursor)
  | 0, g, c => some (g, c)
  | fuel + 1, g, c =>
    match c.rest with
    | [] => some (g, c)
    | ch :: _ =>
      if isBlank ch then
        if g.broken then
          if (c.column : Int) < indent && ch == '\t' then none
          else read? indent fuel g (c.advance 1)
        else
          read? indent fuel { g with blanks := g.blanks ++ [ch] } (c.advance 1)
      else if isBreak ch then
        let (b, c) := c.takeBreak
        read? indent fuel (g.addBreak b) c
      else some (g, c)

end Gap

/-! ## Plain scalars -/

/-- Splits off the characters of a plain scalar up to a space or an indicator.
In a flow collection a colon before a flow indicator is refused. -/
def plainRun? (inFlow : Bool) : List Char → Option (List Char)
  | [] => some []
  | c :: rest =>
    if isSpace c then some []
    else if inFlow && c == ':' &&
      rest.head?.any (fun d => isFlowIndicator d || d == '?') then none
    else if c == ':' && atSpace rest then some []
    else if inFlow && isFlowIndicator c then some []
    else (plainRun? inFlow rest).map (c :: ·)

/-- Reads the words of a plain scalar whose lines are indented to column
`indent` at least; `read` is kept reversed. Also gives whether the last thing
read was a line break. -/
def plainText? (inFlow : Bool) (indent : Int) :
    (fuel : Nat) → (read : List Char) → Gap → Cursor →
      Option (List Char × Bool × Cursor)
  | 0, read, g, c => some (read.reverse, g.broken, c)
  | fuel + 1, read, g, c => do
    if c.seesDocumentMarker || c.sees '#' then some (read.reverse, g.broken, c)
    else
      let run ← plainRun? inFlow c.rest
      let (read, g) :=
        if run.isEmpty then (read, g)
        else (run.reverse ++ (g.folded.reverse ++ read), {})
      let c := c.advance run.length
      if !c.rest.head?.any isSpace then some (read.reverse, g.broken, c)
      else
        let (g, c) ← Gap.read? indent (c.rest.length + 1) g c
        if !inFlow && (c.column : Int) < indent then
          some (read.reverse, g.broken, c)
        else plainText? inFlow indent fuel read g c

/-! ## Quoted scalars -/

/-- What a letter after a backslash stands for. -/
def escape? (c : Char) : Option Char :=
  if c = '0' then some (Char.ofNat 0)
  else if c = 'a' then some (Char.ofNat 7)
  else if c = 'b' then some (Char.ofNat 8)
  else if c = 't' || c = '\t' then some '\t'
  else if c = 'n' then some '\n'
  else if c = 'v' then some (Char.ofNat 11)
  else if c = 'f' then some (Char.ofNat 12)
  else if c = 'r' then some '\r'
  else if c = 'e' then some (Char.ofNat 0x1b)
  else if c = ' ' || c = '"' || c = '/' || c = '\\' then some c
  else if c = 'N' then some (Char.ofNat 0x85)
  else if c = '_' then some (Char.ofNat 0xa0)
  else if c = 'L' then some (Char.ofNat 0x2028)
  else if c = 'P' then some (Char.ofNat 0x2029)
  else none

/-- How many hexadecimal digits follow a letter after a backslash. -/
def escapeDigits? (c : Char) : Option Nat :=
  if c = 'x' then some 2
  else if c = 'u' then some 4
  else if c = 'U' then some 8
  else none

/-- Reads what follows a backslash, which is not a line break. -/
def readEscape? : List Char → Option (Char × Nat)
  | [] => none
  | c :: rest =>
    match escapeDigits? c with
    | some n =>
      if (rest.take n).length = n then
        (Text.hexChar? (rest.take n)).map (·, n + 1)
      else none
    | none => (escape? c).map (·, 1)

/-- Reads the characters of a quoted scalar up to a space or the quote; `read`
is kept reversed. Also gives whether it stopped after an escaped line break. -/
def quotedRun? (quote : Char) :
    (fuel : Nat) → (read : List Char) → Cursor →
      Option (List Char × Bool × Cursor)
  | 0, read, c => some (read, false, c)
  | fuel + 1, read, c =>
    match c.rest with
    | [] => some (read, false, c)
    | ch :: rest =>
      if isSpace ch then some (read, false, c)
      else if quote == '\'' && ch == '\'' && rest.head? == some '\'' then
        quotedRun? quote fuel ('\'' :: read) (c.advance 2)
      else if ch == quote then some (read, false, c)
      else if quote == '"' && ch == '\\' then
        if rest.head?.any isBreak then
          some (read, true, (c.advance 1).takeBreak.2)
        else do
          let (e, n) ← readEscape? rest
          quotedRun? quote fuel (e :: read) (c.advance (n + 1))
      else quotedRun? quote fuel (ch :: read) (c.advance 1)

/-- Reads a quoted scalar after its opening quote; `read` is kept reversed. -/
def quotedText? (quote : Char) :
    (fuel : Nat) → (read : List Char) → Cursor → Option (List Char × Cursor)
  | 0, _, _ => none
  | fuel + 1, read, c => do
    if c.seesDocumentMarker || c.rest.isEmpty then none
    else
      let (read, broken, c) ← quotedRun? quote (c.rest.length + 1) read c
      if c.sees quote then some (read.reverse, c.advance 1)
      else
        let (g, c) ← Gap.read? 0 (c.rest.length + 1) { broken := broken } c
        quotedText? quote fuel (g.folded.reverse ++ read) c

/-! ## Block scalars -/

/-- What happens to the line breaks at the end of a block scalar. -/
inductive Chomping where
  | strip
  | clip
  | keep
  deriving DecidableEq

/-- Reads the header of a block scalar: a chomping indicator and an indentation
in either order. -/
def blockHeader? (c : Cursor) : Option (Chomping × Nat × Cursor) :=
  let chomping? (c : Cursor) : Option Chomping :=
    if c.sees '+' then some .keep else if c.sees '-' then some .strip else none
  let digit? (c : Cursor) : Option Nat :=
    c.rest.head?.bind fun ch =>
      if ch.isDigit then some (ch.toNat - '0'.toNat) else none
  match chomping? c, digit? c with
  | some chomping, _ =>
    let c := c.advance 1
    match digit? c with
    | some n => if n = 0 then none else some (chomping, n, c.advance 1)
    | none => some (chomping, 0, c)
  | none, some n =>
    if n = 0 then none
    else
      let c := c.advance 1
      match chomping? c with
      | some chomping => some (chomping, n, c.advance 1)
      | none => some (.clip, n, c)
  | none, none => some (.clip, 0, c)

/-- Reads the indentation and the empty lines before a line of a block scalar.
While `indent` is zero it takes all blanks and gives the widest indentation
met. -/
def blockBreaks? (indent : Nat) :
    (fuel : Nat) → (widest : Nat) → (breaks : List Char) → Cursor →
      Option (Nat × List Char × Cursor)
  | 0, widest, breaks, c => some (widest, breaks, c)
  | fuel + 1, widest, breaks, c =>
    let width := (c.rest.takeWhile (· == ' ')).length
    let c :=
      c.advance (if indent = 0 then width else min width (indent - c.column))
    let widest := max widest c.column
    if (indent = 0 || c.column < indent) && c.sees '\t' then none
    else if c.rest.head?.any isBreak then
      let (b, c) := c.takeBreak
      blockBreaks? indent fuel widest (breaks ++ b) c
    else some (widest, breaks, c)

/-- The lines of a block scalar read so far. -/
structure BlockText where
  /-- The text, reversed. -/
  read : List Char := []
  /-- The break after the last line. -/
  lastBreak : List Char := []
  /-- The breaks of the empty lines after it. -/
  emptyLines : List Char := []
  /-- The last line starts with a blank. -/
  startedBlank : Bool := false

def blockLines? (fold : Bool) (indent : Nat) :
    (fuel : Nat) → BlockText → Cursor → Option (BlockText × Cursor)
  | 0, t, c => some (t, c)
  | fuel + 1, t, c => do
    if c.column ≠ indent || c.rest.isEmpty then some (t, c)
    else
      let startsBlank := c.rest.head?.any isBlank
      let join :=
        if fold && t.lastBreak.head? == some '\n' && !t.startedBlank &&
          !startsBlank then
          if t.emptyLines.isEmpty then [' '] else []
        else t.lastBreak
      let line := c.rest.takeWhile fun ch => !isBreak ch
      let read :=
        line.reverse ++ (t.emptyLines.reverse ++ (join.reverse ++ t.read))
      let (b, c) := (c.advance line.length).takeBreak
      let (_, breaks, c) ← blockBreaks? indent (c.rest.length + 1) 0 [] c
      blockLines? fold indent fuel
        { read := read
          lastBreak := b
          emptyLines := breaks
          startedBlank := startsBlank } c

/-- Reads a block scalar after its indicator, inside a block that is indented to
column `parent`. -/
def blockText? (fold : Bool) (parent : Int) (c : Cursor) :
    Option (List Char × Cursor) := do
  let (chomping, increment, c) ← blockHeader? c
  let c := c.skipWhile isBlank
  let c := if c.sees '#' then c.skipToLineEnd else c
  if !atLineEnd c.rest then none
  else
    let c := c.takeBreak.2
    let given : Nat :=
      if increment = 0 then 0
      else if 0 ≤ parent then parent.toNat + increment
      else increment
    let (widest, breaks, c) ← blockBreaks? given (c.rest.length + 1) 0 [] c
    let indent :=
      if given = 0 then max (max widest (parent + 1).toNat) 1 else given
    let (t, c) ←
      blockLines? fold indent (c.rest.length + 1) { emptyLines := breaks } c
    let ending :=
      match chomping with
      | .strip => []
      | .clip => t.lastBreak
      | .keep => t.lastBreak ++ t.emptyLines
    some (t.read.reverse ++ ending, c)

end Yaml
end Concord
