import Concord.Proofs.Value.Branches

/-!
# Reading by position

The same reader, as it walks over a text: it stands before a character, inside
some number of values, and writes down each of its moves and every other step
that has a precondition. Its loops end where the text tells them to. A run has
no outcome if a loop takes more than a given number of turns, or if values are
entered more often, one inside the other, than a given number of calls.
-/

namespace Concord
namespace Value

/-- Where a reader stands: before which character, and inside how many
values. -/
structure Place where
  pos : Nat
  depth : Nat

/-- A step of a reader. -/
inductive Event where
  /-- The reader moves to a place. -/
  | moves (place : Place)
  /-- One is taken from a counter. -/
  | decrements (counter : Nat)
  /-- The character before a position is looked at. -/
  | looksBack (pos : Nat)
  /-- The hexadecimal digits so far make up a number. -/
  | accumulates (number : Nat)
  /-- The characters between two positions are cut out. -/
  | cuts (start stop : Nat)
  /-- The reading of a value ends. -/
  | returns (started ended : Place) (success : Bool)

/-- The step meets its precondition in a text of a given length. -/
def Event.Safe (length : Nat) : Event → Prop
  | .moves place => place.pos ≤ length ∧ place.depth ≤ 512
  | .decrements counter => 0 < counter
  | .looksBack pos => 0 < pos
  | .accumulates number => number < 2 ^ 32
  | .cuts start stop => start ≤ stop ∧ stop ≤ length
  | .returns started ended success =>
    ended.depth = started.depth ∧ (success = true → started.pos < ended.pos)

/-- The place of a reader and its steps so far. -/
structure Record where
  place : Place
  events : List Event

namespace Record

/-- The record before the first character. -/
def start : Record where
  place := ⟨0, 0⟩
  events := [.moves ⟨0, 0⟩]

def noted (r : Record) (e : Event) : Record :=
  { r with events := r.events ++ [e] }

def moved (r : Record) (p : Place) : Record where
  place := p
  events := r.events ++ [.moves p]

end Record

/-- A computation of a reader. -/
abbrev Tracer := StateT Record Option

namespace Tracer

variable {α : Type}

def place : Tracer Place := do
  return (← get).place

def record (e : Event) : Tracer Unit :=
  modify (·.noted e)

/-- No other step changes the place. -/
def moveTo (p : Place) : Tracer Unit :=
  modify (·.moved p)

def advance (count : Nat) : Tracer Unit := do
  let p ← place
  moveTo { p with pos := p.pos + count }

variable (text : List Char)

/-! ## Characters -/

def peekAt (offset : Nat) : Tracer (Option Char) := do
  return text[(← place).pos + offset]?

def bump : Tracer (Option Char) := do
  let some c ← peekAt text 0 | return none
  advance 1
  return some c

/-- Moves over the next character if it satisfies `p`. -/
def eatIf (p : Char → Bool) : Tracer Bool := do
  let c? ← peekAt text 0
  if c?.any p then
    advance 1
    return true
  else return false

def eat (c : Char) : Tracer Bool :=
  eatIf text (· = c)

def skipWhile (p : Char → Bool) : (turns : Nat) → Tracer Unit
  | 0 => failure
  | turns + 1 => do
    if ← eatIf text p then skipWhile p turns else return ()

def skipBlanks (turns : Nat) : Tracer Unit :=
  skipWhile text Text.isBlank turns

def startsWith (word : List Char) : Tracer Bool := do
  return word.isPrefixOf (text.drop (← place).pos)

def cut (start stop : Nat) : Tracer (List Char) := do
  record (.cuts start stop)
  return (text.drop start).take (stop - start)

/-! ## Quoted text and text in angle brackets -/

def hexNumber : (digits number : Nat) → Tracer (Option Nat)
  | 0, number => return some number
  | digits + 1, number => do
    let some c ← bump text | return none
    let some d := Text.hexValue? c | return none
    record (.accumulates (16 * number + d))
    hexNumber digits (16 * number + d)

/-- Reads what follows a backslash. -/
def escaped (A : Alphabet α) : Tracer (Option α) := do
  let some e ← bump text | return none
  match A.marks.lookup e with
  | some digits =>
    let some n ← hexNumber text digits 0 | return none
    return A.ofCode? n
  | none => return A.ofChar? (simpleEscape e)

/-- Reads on after the first character of a plain or escaped one. -/
def letter (A : Alphabet α) (c : Char) : Tracer (Option α) :=
  if c = '\\' then escaped text A else return A.ofChar? c

def quoted (A : Alphabet α) (quote : Char) :
    (turns : Nat) → Tracer (Option (List α))
  | 0 => failure
  | turns + 1 => do
    let some c ← bump text | return none
    if c = quote then return some []
    else
      let some a ← letter text A c | return none
      let some as ← quoted A quote turns | return none
      return some (a :: as)

/-- Reads quoted bytes; the `b` before them was taken. -/
def bytesLiteral (turns : Nat) : Tracer (Option Value) := do
  let some quote ← bump text | return none
  let some bs ← quoted text Alphabet.bytes quote turns | return none
  return some (.bytes bs)

/-- Moves behind the bracket that closes the first one; gives whether there is
one. -/
def angle : (turns opened : Nat) → Tracer Bool
  | 0, _ => failure
  | turns + 1, opened => do
    let some c ← bump text | return false
    if c = '<' then angle turns (opened + 1)
    else if c = '>' then
      record (.decrements opened)
      if opened - 1 = 0 then return true else angle turns (opened - 1)
    else angle turns opened

/-- Reads text in angle brackets. -/
def bracketed (turns : Nat) : Tracer (Option Value) := do
  let start ← place
  if ← angle text turns 0 then
    let stop ← place
    let t ← cut text start.pos stop.pos
    return some (.verbatim (String.ofList t))
  else return none

/-! ## Numbers -/

/-- The character is a sign right after the mark of an exponent. -/
def isExponentSign (c : Char) : Tracer Bool := do
  if isSign c then
    let p ← place
    record (.looksBack p.pos)
    return text[p.pos - 1]?.any isExponentMark
  else return false

def numberRun : (turns : Nat) → Tracer Unit
  | 0 => failure
  | turns + 1 => do
    let some c ← peekAt text 0 | return ()
    if c.isDigit || c == '.' || isExponentMark c ||
      (← isExponentSign text c) then
      advance 1
      numberRun turns
    else return ()

def numberBody (turns : Nat) : Tracer Unit := do
  if (← startsWith text "inf".toList) || (← startsWith text "nan".toList) then
    advance 3
  else numberRun text turns

/-- Reads what follows the sign of a number that starts at `start`. -/
def unsignedNumber (turns start : Nat) : Tracer (Option Value) := do
  let unsigned ← place
  numberBody text turns
  let stop ← place
  if stop.pos = unsigned.pos then return none
  else
    let token ← cut text start stop.pos
    let imaginary ← eatIf text fun c => c = 'j' || c = 'J'
    return ofNumeral? imaginary (signOf token).1 (signOf token).2

def number (turns : Nat) : Tracer (Option Value) := do
  let start ← place
  let _ ← eatIf text isSign
  unsignedNumber text turns start.pos

/-- Reads the imaginary part of a complex number and the closing parenthesis. -/
def imaginary (turns : Nat) (re : Binary64) : Tracer (Option Value) := do
  let some v ← number text turns | return none
  let some im := imaginaryPart? v | return none
  skipBlanks text turns
  if ← eat text ')' then return some (.complex re im) else return none

/-! ## Containers

Each takes the computation that reads the values one level further in. -/

section Containers

variable (item : Tracer (Option Value))

def items (close : Char) : (turns : Nat) → Tracer (Option (List Value))
  | 0 => failure
  | turns + 1 => do
    skipBlanks text (turns + 1)
    if ← eat text close then return some []
    else
      let some v ← item | return none
      skipBlanks text (turns + 1)
      if ← eat text close then return some [v]
      else if ← eat text ',' then
        let some vs ← items close turns | return none
        return some (v :: vs)
      else return none

/-- Reads the entries of a dictionary that follow its first one. -/
def entries : (turns : Nat) → Tracer (Option (List (Value × Value)))
  | 0 => failure
  | turns + 1 => do
    skipBlanks text (turns + 1)
    if ← eat text '}' then return some []
    else if ← eat text ',' then
      skipBlanks text (turns + 1)
      if ← eat text '}' then return some []
      else
        let some k ← item | return none
        skipBlanks text (turns + 1)
        if ← eat text ':' then
          let some v ← item | return none
          let some es ← entries turns | return none
          return some ((k, v) :: es)
        else return none
    else return none

variable (turns : Nat)

/-- Reads what may follow the first value in parentheses. -/
def afterFirst (first : Value) : Tracer (Option Value) := do
  if ← eat text ')' then return some first
  else if ← eat text ',' then
    let some vs ← items text item ')' turns | return none
    return some (.tuple (first :: vs))
  else return none

def paren : Tracer (Option Value) := do
  advance 1
  skipBlanks text turns
  if ← eat text ')' then return some (.tuple [])
  else
    let negative := (← peekAt text 0) == some '-'
    let some first ← item | return none
    skipBlanks text turns
    let signed := (← peekAt text 0).any isSign
    match realPart? negative first, signed with
    | some re, true => imaginary text turns re
    | _, _ => afterFirst text item turns first

def brace : Tracer (Option Value) := do
  advance 1
  skipBlanks text turns
  if ← eat text '}' then return some (.dict [])
  else
    let some first ← item | return none
    skipBlanks text turns
    if ← eat text ':' then
      let some v ← item | return none
      let some es ← entries text item turns | return none
      return some (.dict ((first, v) :: es))
    else if ← eat text '}' then return some (.set [first])
    else if ← eat text ',' then
      let some vs ← items text item '}' turns | return none
      return some (.set (first :: vs))
    else return none

def name : Tracer (Option Value) := do
  let start ← place
  skipWhile text continuesName turns
  let stop ← place
  let callee ← cut text start.pos stop.pos
  if ← eat text '(' then
    let some args ← items text item ')' turns | return none
    return some (construct callee args)
  else return named? callee

def nested : Tracer (Option Value) := do
  skipBlanks text turns
  let some c ← peekAt text 0 | return none
  if c = '[' then
    advance 1
    let some vs ← items text item ']' turns | return none
    return some (.list vs)
  else if c = '(' then paren text item turns
  else if c = '{' then brace text item turns
  else if c = '<' then bracketed text turns
  else if isQuote c then
    advance 1
    let some cs ← quoted text Alphabet.chars c turns | return none
    return some (.str (String.ofList cs))
  else if c = 'b' && (← peekAt text 1).any isQuote then
    advance 1
    bytesLiteral text turns
  else if ← startsWith text "...".toList then
    advance 3
    return some .ellipsis
  else if c.isDigit || isSign c || c == '.' then number text turns
  else if startsName c then name text item turns
  else return none

end Containers

/-! ## Values -/

variable (turns : Nat)

/-- Reads a value one level further in. -/
def value : (calls : Nat) → Tracer (Option Value)
  | 0 => failure
  | calls + 1 => do
    let started ← place
    if started.depth ≥ nestingLimit then
      record (.returns started started false)
      return none
    else
      moveTo { started with depth := started.depth + 1 }
      let v? ← nested text (value calls) turns
      let inner ← place
      record (.decrements inner.depth)
      moveTo { inner with depth := inner.depth - 1 }
      let ended ← place
      record (.returns started ended v?.isSome)
      return v?

/-- Reads the whole text. -/
def whole (calls : Nat) : Tracer Value := do
  let some v ← value text turns calls | return .verbatim (String.ofList text)
  skipBlanks text turns
  let p ← place
  return if p.pos ≥ text.length then v else .verbatim (String.ofList text)

end Tracer
end Value
end Concord
