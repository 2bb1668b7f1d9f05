import Concord.Host.Script.Basic

/-!
# The tokens of a script

Words, operators and line ends. A word keeps which of its parts are quoted, and
the parameters and substitutions in it.
-/

namespace Concord
namespace Host

/-- A token of a script; words know their line. -/
inductive ScriptToken where
  | word (pieces : Word) (line : Nat)
  | operator (text : String)
  /-- A channel number right before a redirection. -/
  | channel (n : Nat)
  | lineEnd
  deriving DecidableEq, Inhabited

namespace ScriptToken

def endsWord (c : Char) : Bool :=
  " \t\n;&|<>()".toList.contains c

def startsName (c : Char) : Bool :=
  c.isAlpha || c == '_'

/-- The character goes on in the name of a variable. -/
def continuesName (c : Char) : Bool :=
  c.isAlphanum || c == '_'

/-- A parameter with a name of one character that is no letter. -/
def isSpecial (c : Char) : Bool :=
  "@*#?$!-0123456789".toList.contains c

def backquote : Char := Char.ofNat 0x60

/-- A text and what remains after it, or an error. -/
abbrev Scan (α : Type) := List Char → Except ScriptError (α × List Char)

/-! ## Enclosed text -/

/-- Takes the text up to the next `quote`, which is dropped. -/
def until? (quote : Char) (cs : List Char) : Option (List Char × List Char) :=
  match cs.dropWhile (· != quote) with
  | [] => none
  | _ :: rest => some (cs.takeWhile (· != quote), rest)

/-- What encloses the text being skipped. -/
inductive Enclosure where
  | paren
  | brace
  | single
  | double
  deriving DecidableEq

/-- Takes the text up to the end of the outermost enclosure, over nested ones;
`read` is kept reversed. -/
def enclosed (read : List Char) : List Enclosure → Scan (List Char)
  | [], rest => .ok (read.reverse, rest)
  | _ :: _, [] => .error .unterminatedQuote
  | top :: outer, c :: rest =>
    match top with
    | .single =>
      enclosed (c :: read) (if c = '\'' then outer else top :: outer) rest
    | _ =>
      if c = '\\' then
        match rest with
        | [] => .error .unterminatedQuote
        | d :: rest => enclosed (d :: c :: read) (top :: outer) rest
      else if c = '"' then
        enclosed (c :: read)
          (if top = .double then outer else .double :: top :: outer) rest
      else if c = '\'' && top ≠ .double then
        enclosed (c :: read) (.single :: top :: outer) rest
      else if c = '(' && top ≠ .double then
        enclosed (c :: read) (.paren :: top :: outer) rest
      else if c = '$' then
        match rest with
        | '(' :: rest =>
          enclosed ('(' :: c :: read) (.paren :: top :: outer) rest
        | '{' :: rest =>
          enclosed ('{' :: c :: read) (.brace :: top :: outer) rest
        | rest => enclosed (c :: read) (top :: outer) rest
      else if (c = ')' && top = .paren) || (c = '}' && top = .brace) then
        if outer.isEmpty then .ok (read.reverse, rest)
        else enclosed (c :: read) outer rest
      else enclosed (c :: read) (top :: outer) rest

def backquoted (read : List Char) : Scan (List Char)
  | [] => .error .unterminatedQuote
  | '\\' :: d :: rest =>
    if d = backquote || d = '\\' || d = '$' then backquoted (d :: read) rest
    else backquoted (d :: '\\' :: read) rest
  | c :: rest =>
    if c = backquote then .ok (read.reverse, rest)
    else backquoted (c :: read) rest

/-! ## Parameters -/

/-- The use of a parameter that follows its name between braces. -/
def paramUse? : List Char → Option ParamUse
  | [] => some .value
  | ':' :: '-' :: text => some (.default true (String.ofList text))
  | ':' :: '=' :: text => some (.assign true (String.ofList text))
  | ':' :: '+' :: text => some (.alternative true (String.ofList text))
  | ':' :: '?' :: text => some (.required true (String.ofList text))
  | '-' :: text => some (.default false (String.ofList text))
  | '=' :: text => some (.assign false (String.ofList text))
  | '+' :: text => some (.alternative false (String.ofList text))
  | '?' :: text => some (.required false (String.ofList text))
  | '%' :: '%' :: text => some (.dropEnd true (String.ofList text))
  | '%' :: text => some (.dropEnd false (String.ofList text))
  | '#' :: '#' :: text => some (.dropStart true (String.ofList text))
  | '#' :: text => some (.dropStart false (String.ofList text))
  | _ => none

def paramName (cs : List Char) : List Char × List Char :=
  match cs with
  | [] => ([], [])
  | c :: rest =>
    if startsName c then
      (cs.takeWhile continuesName, cs.dropWhile continuesName)
    else if c.isDigit then
      (cs.takeWhile Char.isDigit, cs.dropWhile Char.isDigit)
    else if isSpecial c then ([c], rest)
    else ([], cs)

def bracedParam (quoted : Bool) (body : List Char) : Except ScriptError Piece :=
  let length? : Option Piece :=
    match body with
    | '#' :: c :: rest =>
      let (name, rest) := paramName (c :: rest)
      if !name.isEmpty && rest.isEmpty then
        some (.param (String.ofList name) .length quoted)
      else none
    | _ => none
  match length? with
  | some piece => .ok piece
  | none =>
    let (name, rest) := paramName body
    match paramUse? rest with
    | some use =>
      if name.isEmpty then .error .badSubstitution
      else .ok (.param (String.ofList name) use quoted)
    | none => .error .badSubstitution

/-- Reads what follows a dollar sign. -/
def dollar (quoted : Bool) : Scan Piece
  | '(' :: '(' :: rest => do
    let (body, after) ← enclosed [] [.paren] ('(' :: rest)
    match body.reverse with
    | ')' :: inner =>
      if body.head? = some '(' then
        .ok (.number (String.ofList (inner.reverse.drop 1)) quoted, after)
      else .ok (.output (String.ofList body) quoted, after)
    | _ => .ok (.output (String.ofList body) quoted, after)
  | '(' :: rest => do
    let (body, rest) ← enclosed [] [.paren] rest
    .ok (.output (String.ofList body) quoted, rest)
  | '{' :: rest => do
    let (body, rest) ← enclosed [] [.brace] rest
    .ok (← bracedParam quoted body, rest)
  | cs =>
    match cs with
    | [] => .ok (.text "$" quoted, [])
    | c :: rest =>
      if startsName c then
        .ok (.param (String.ofList (cs.takeWhile continuesName)) .value quoted,
          cs.dropWhile continuesName)
      else if isSpecial c then .ok (.param c.toString .value quoted, rest)
      else .ok (.text "$" quoted, cs)

/-! ## Words -/

/-- Reads the pieces of a text in double quotes up to its end; pieces are kept
reversed. Without an end, as in a text given inside a script, it reads all. -/
def doubleQuoted (closed : Bool) : (fuel : Nat) → (read : Word) → Scan Word
  | 0, _, _ => .error .unterminatedQuote
  | fuel + 1, read, cs =>
    match cs with
    | [] => if closed then .error .unterminatedQuote else .ok (read.reverse, [])
    | '\\' :: '\n' :: rest => doubleQuoted closed fuel read rest
    | '\\' :: c :: rest =>
      if c = '$' || c = '"' || c = '\\' || c = backquote then
        doubleQuoted closed fuel (.text c.toString true :: read) rest
      else
        doubleQuoted closed fuel
          (.text (String.ofList ['\\', c]) true :: read) rest
    | '$' :: rest => do
      let (piece, rest) ← dollar true rest
      doubleQuoted closed fuel (piece :: read) rest
    | c :: rest =>
      if c = '"' && closed then .ok (read.reverse, rest)
      else if c = backquote then do
        let (body, rest) ← backquoted [] rest
        doubleQuoted closed fuel
          (.output (String.ofList body) true :: read) rest
      else
        let plain (d : Char) : Bool :=
          d != '\\' && d != '$' && d != backquote && (d != '"' || !closed)
        let run := c :: rest.takeWhile plain
        doubleQuoted closed fuel (.text (String.ofList run) true :: read)
          (rest.dropWhile plain)

/-- Reads the pieces of a word; pieces are kept reversed. -/
def wordPieces : (fuel : Nat) → (read : Word) → Scan Word
  | 0, _, _ => .error .unterminatedQuote
  | fuel + 1, read, cs =>
    match cs with
    | [] => .ok (read.reverse, [])
    | '\\' :: '\n' :: rest => wordPieces fuel read rest
    | '\\' :: c :: rest => wordPieces fuel (.text c.toString true :: read) rest
    | '\'' :: rest =>
      match until? '\'' rest with
      | none => .error .unterminatedQuote
      | some (text, rest) =>
        wordPieces fuel (.text (String.ofList text) true :: read) rest
    | '"' :: rest => do
      let (pieces, rest) ←
        doubleQuoted true (rest.length + 1) [.text "" true] rest
      wordPieces fuel (pieces.reverse ++ read) rest
    | '$' :: rest => do
      let (piece, rest) ← dollar false rest
      wordPieces fuel (piece :: read) rest
    | c :: rest =>
      if endsWord c then .ok (read.reverse, cs)
      else if c = backquote then do
        let (body, rest) ← backquoted [] rest
        wordPieces fuel (.output (String.ofList body) false :: read) rest
      else
        let plain (d : Char) : Bool :=
          !endsWord d && d != '\\' && d != '\'' && d != '"' && d != '$' &&
            d != backquote
        let run := c :: rest.takeWhile plain
        wordPieces fuel (.text (String.ofList run) false :: read)
          (rest.dropWhile plain)

/-! ## Tokens -/

/-- Operators, the longer ones first. -/
def operators : List String :=
  ["<<-", ";;", "&&", "||", ">>", "<<", ">&", "<&", ">|", "<>", ";", "&", "|",
    "<", ">", "(", ")"]

def operator? (cs : List Char) : Option (String × List Char) :=
  operators.findSome? fun op => (Text.after? op.toList cs).map fun rest =>
    (op, rest)

/-- How many lines end in a text. -/
def lineCount (cs : List Char) : Nat :=
  cs.countP (· == '\n')

/-- Takes lines up to one that is `delimiter`, and gives their text and what
comes after it. Tabs at the start of lines may be left out. -/
def documentText (dropTabs : Bool) (delimiter : List Char) :
    (fuel : Nat) → List Char → List Char × List Char
  | 0, cs => ([], cs)
  | fuel + 1, cs =>
    if cs.isEmpty then ([], [])
    else
      let (line, rest) := Text.cutAt '\n' cs
      let line := if dropTabs then line.dropWhile (· == '\t') else line
      if line = delimiter then ([], rest)
      else
        let (text, rest) := documentText dropTabs delimiter fuel rest
        (line ++ '\n' :: text, rest)

/-- Reads the delimiter of a document and the document, which starts on the next
line; what remains is the rest of this line and what follows the document. -/
def document (dropTabs : Bool) : Scan Word := fun cs => do
  let cs := cs.dropWhile fun c => c == ' ' || c == '\t'
  let (delimiter, rest) ← wordPieces (cs.length + 1) [] cs
  let isQuoted := delimiter.any fun
    | .text _ quoted => quoted
    | _ => false
  let name := delimiter.flatMap fun
    | .text s _ => s.toList
    | _ => []
  let (line, below) := Text.cutAt '\n' rest
  let (text, below) := documentText dropTabs name (below.length + 1) below
  let rest := line ++ '\n' :: below
  if isQuoted then .ok ([.text (String.ofList text) true], rest)
  else
    let (pieces, _) ← doubleQuoted false (text.length + 1) [] text
    .ok (pieces, rest)

/-- Reads all tokens from a line on. -/
def scan :
    (fuel : Nat) → (line : Nat) → List Char →
      Except ScriptError (List ScriptToken)
  | 0, _, _ => .ok []
  | fuel + 1, line, cs =>
    match cs with
    | [] => .ok []
    | '\\' :: '\n' :: rest => scan fuel (line + 1) rest
    | '\n' :: rest => do
      let more ← scan fuel (line + 1) rest
      .ok (.lineEnd :: more)
    | '#' :: rest => scan fuel line (rest.dropWhile (· != '\n'))
    | c :: rest =>
      if c = ' ' || c = '\t' then scan fuel line rest
      else
        match operator? cs with
        | some (op, rest) => do
          if op = "<<" || op = "<<-" then
            let (text, rest) ← document (op = "<<-") rest
            let more ← scan fuel line rest
            .ok (.operator "<<" :: .word text line :: more)
          else
            let more ← scan fuel line rest
            .ok (.operator op :: more)
        | none => do
          let digits := cs.takeWhile Char.isDigit
          let after := cs.dropWhile Char.isDigit
          if !digits.isEmpty &&
            (after.head? = some '<' || after.head? = some '>') then
            let n := digits.foldl (fun n d => 10 * n + (d.toNat - '0'.toNat)) 0
            let more ← scan fuel line after
            .ok (.channel n :: more)
          else
            let (pieces, rest) ← wordPieces (cs.length + 1) [] cs
            let used := cs.take (cs.length - rest.length)
            let more ← scan fuel (line + lineCount used) rest
            .ok (.word pieces line :: more)

def all (source : String) : Except ScriptError (List ScriptToken) :=
  let cs := source.toList
  scan (cs.length + 1) 1 cs

end ScriptToken
end Host
end Concord
