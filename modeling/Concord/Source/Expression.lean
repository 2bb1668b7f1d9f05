import Concord.Source.Token

/-!
# Python expressions

A recogniser for expressions. Each function skips one construct and gives the
tokens after it, or none where the construct is malformed. The fuel bounds the
depth of the descent.
-/

namespace Concord
namespace Source

/-- Words that cannot be used as names. -/
def reservedWords : List String :=
  ["False", "None", "True", "and", "as", "assert", "break", "class", "continue",
    "def", "del", "elif", "else", "except", "finally", "for", "from", "global",
    "if", "import", "in", "is", "lambda", "nonlocal", "not", "or", "pass",
    "raise", "return", "try", "while", "with", "yield"]

def isName (word : String) : Bool :=
  !reservedWords.contains word

def operatorMarks : List String :=
  ["+", "-", "*", "@", "/", "%", "//", "**", "|", "&", "^", "<<", ">>"]

def skipComparison? : List Token → Option (List Token)
  | .mark m :: rest =>
    if ["<", "<=", "==", "!=", ">=", ">", "<>"].contains m then some rest
    else none
  | .word "in" :: rest => some rest
  | .word "not" :: .word "in" :: rest => some rest
  | .word "is" :: .word "not" :: rest => some rest
  | .word "is" :: rest => some rest
  | _ => none

def skipMark (m : String) : List Token → Option (List Token)
  | .mark m' :: rest => if m = m' then some rest else none
  | _ => none

def startsComprehension : List Token → Bool
  | .word "for" :: _ => true
  | .word "async" :: .word "for" :: _ => true
  | _ => false

/-- The next argument has no star and no name. -/
def startsExpression : List Token → Bool
  | .mark "*" :: _ | .mark "**" :: _ | .word _ :: .mark "=" :: _ => false
  | _ => true

mutual

/-- An expression: a lambda, a named or conditional expression, or a combination
of operands. -/
def expression : (fuel : Nat) → List Token → Option (List Token)
  | 0, _ => none
  | n + 1, ts =>
    match ts with
    | .word "lambda" :: rest => lambdaRest n rest
    | .word x :: .mark ":=" :: rest =>
      if isName x then expression n rest else none
    | _ => do
      let rest ← logical n ts
      match rest with
      | .word "if" :: rest =>
        let rest ← logical n rest
        match rest with
        | .word "else" :: rest => expression n rest
        | _ => none
      | .word "as" :: rest => expression n rest
      | _ => some rest

def lambdaRest : (fuel : Nat) → List Token → Option (List Token)
  | 0, _ => none
  | n + 1, ts =>
    match ts with
    | .mark ":" :: rest => expression n rest
    | _ => do
      let rest ← parameter n ts
      match rest with
      | .mark ":" :: rest => expression n rest
      | .mark "," :: rest => lambdaRest n rest
      | _ => none

def parameter : (fuel : Nat) → List Token → Option (List Token)
  | 0, _ => none
  | n + 1, ts =>
    match ts with
    | .mark "*" :: .word x :: rest => if isName x then some rest else none
    | .mark "*" :: rest => some rest
    | .mark "/" :: rest => some rest
    | .mark "**" :: .word x :: rest => if isName x then some rest else none
    | .word x :: .mark "=" :: rest =>
      if isName x then expression n rest else none
    | .word x :: rest => if isName x then some rest else none
    | _ => none

/-- Operands joined by `and` and `or`. -/
def logical : (fuel : Nat) → List Token → Option (List Token)
  | 0, _ => none
  | n + 1, ts => do
    let rest ← negation n ts
    match rest with
    | .word "and" :: rest => logical n rest
    | .word "or" :: rest => logical n rest
    | _ => some rest

/-- An operand of `and` and `or`. -/
def negation : (fuel : Nat) → List Token → Option (List Token)
  | 0, _ => none
  | n + 1, ts =>
    match ts with
    | .word "not" :: rest => negation n rest
    | .word "lambda" :: rest => lambdaRest n rest
    | _ => comparison n ts

/-- Operands joined by comparison operators. -/
def comparison : (fuel : Nat) → List Token → Option (List Token)
  | 0, _ => none
  | n + 1, ts => do
    let rest ← arithmetic n ts
    match skipComparison? rest with
    | some rest => comparison n rest
    | none => some rest

/-- Operands joined by arithmetic operators. -/
def arithmetic : (fuel : Nat) → List Token → Option (List Token)
  | 0, _ => none
  | n + 1, ts => do
    let rest ← signed n ts
    match rest with
    | .mark m :: after =>
      if operatorMarks.contains m then arithmetic n after else some rest
    | _ => some rest

def signed : (fuel : Nat) → List Token → Option (List Token)
  | 0, _ => none
  | n + 1, ts =>
    match ts with
    | .mark "+" :: rest => signed n rest
    | .mark "-" :: rest => signed n rest
    | .mark "~" :: rest => signed n rest
    | .word "await" :: rest =>
      match signed n rest with
      | some rest => some rest
      | none => trailers n rest
    | _ => do
      let rest ← atom n ts
      trailers n rest

/-- Attributes, calls and subscripts after an operand. -/
def trailers : (fuel : Nat) → List Token → Option (List Token)
  | 0, _ => none
  | n + 1, ts =>
    match ts with
    | .mark "." :: .word x :: rest => if isName x then trailers n rest else none
    | .mark "." :: _ => none
    | .mark "(" :: rest => do
      let rest ← arguments n rest
      trailers n rest
    | .mark "[" :: rest => do
      let rest ← subscripts n rest
      trailers n rest
    | _ => some ts

/-- An operand without trailers. -/
def atom : (fuel : Nat) → List Token → Option (List Token)
  | 0, _ => none
  | n + 1, ts =>
    match ts with
    | .word x :: rest =>
      if isName x || ["True", "False", "None"].contains x then some rest
      else none
    | .number :: rest => some rest
    | .string fields :: rest =>
      if fields.all fun f => field n f then
        match rest with
        | .string _ :: _ => atom n rest
        | _ => some rest
      else none
    | .mark "..." :: rest => some rest
    | .mark "(" :: rest => parenthesis n rest
    | .mark "[" :: rest =>
      match rest with
      | .mark "]" :: rest => some rest
      | _ => collection n "]" rest
    | .mark "\x7b" :: rest => braces n rest
    | _ => none

/-- The expression in a replacement field of a formatted string. -/
def field : (fuel : Nat) → List Char → Bool
  | 0, _ => false
  | n + 1, cs =>
    match tokensOf? ('(' :: (cs ++ [')'])) with
    | some (.mark "(" :: ts) =>
      ts.head? ≠ some (.mark ")") && parenthesis n ts == some [.newline]
    | _ => false

/-- What follows an opening parenthesis. -/
def parenthesis : (fuel : Nat) → List Token → Option (List Token)
  | 0, _ => none
  | n + 1, ts =>
    match ts with
    | .mark ")" :: rest => some rest
    | .word "yield" :: rest => do
      let rest ← yieldRest n rest
      skipMark ")" rest
    | _ => collection n ")" ts

/-- What may follow `yield`. -/
def yieldRest : (fuel : Nat) → List Token → Option (List Token)
  | 0, _ => none
  | n + 1, ts =>
    match ts with
    | .word "from" :: rest => expression n rest
    | .mark ")" :: _ | .mark ";" :: _ | .newline :: _ => some ts
    | _ => do
      let rest ← element n ts
      match rest with
      | .mark "," :: rest => yieldRest n rest
      | _ => some rest

/-- An element of a collection: an expression, with a star or without. -/
def element : (fuel : Nat) → List Token → Option (List Token)
  | 0, _ => none
  | n + 1, ts =>
    match ts with
    | .mark "*" :: rest => expression n rest
    | _ => expression n ts

/-- One or more elements up to the closing bracket, or one with a
comprehension. -/
def collection :
    (fuel : Nat) → (close : String) → List Token → Option (List Token)
  | 0, _, _ => none
  | n + 1, close, ts => do
    let rest ← element n ts
    if startsComprehension rest && startsExpression ts then
      let rest ← comprehension n rest
      skipMark close rest
    else moreElements n close rest

/-- The elements after the first one, up to the closing bracket. -/
def moreElements :
    (fuel : Nat) → (close : String) → List Token → Option (List Token)
  | 0, _, _ => none
  | n + 1, close, ts =>
    match skipMark close ts with
    | some rest => some rest
    | none => do
      let rest ← skipMark "," ts
      match skipMark close rest with
      | some rest => some rest
      | none =>
        let rest ← element n rest
        moreElements n close rest

/-- What follows an opening brace: a dictionary or a set. -/
def braces : (fuel : Nat) → List Token → Option (List Token)
  | 0, _ => none
  | n + 1, ts =>
    match ts with
    | .mark "\x7d" :: rest => some rest
    | .mark "," :: .mark "\x7d" :: rest => some rest
    | .mark "**" :: rest => do
      let rest ← expression n rest
      morePairs n rest
    | .mark "*" :: _ => collection n "\x7d" ts
    | _ => do
      let rest ← expression n ts
      match rest with
      | .mark ":" :: rest =>
        let rest ← expression n rest
        if startsComprehension rest then
          let rest ← comprehension n rest
          skipMark "\x7d" rest
        else morePairs n rest
      | _ =>
        if startsComprehension rest then
          let rest ← comprehension n rest
          skipMark "\x7d" rest
        else moreElements n "\x7d" rest

/-- The pairs of a dictionary after the first one, up to the closing brace. -/
def morePairs : (fuel : Nat) → List Token → Option (List Token)
  | 0, _ => none
  | n + 1, ts =>
    match ts with
    | .mark "\x7d" :: rest => some rest
    | .mark "," :: .mark "\x7d" :: rest => some rest
    | .mark "," :: .mark "**" :: rest => do
      let rest ← expression n rest
      morePairs n rest
    | .mark "," :: rest => do
      let rest ← expression n rest
      let rest ← skipMark ":" rest
      let rest ← expression n rest
      morePairs n rest
    | _ => none

/-- The arguments of a call up to the closing parenthesis. A lone comma is an
empty list. -/
def arguments : (fuel : Nat) → List Token → Option (List Token)
  | 0, _ => none
  | n + 1, ts =>
    match ts with
    | .mark ")" :: rest => some rest
    | .mark "," :: .mark ")" :: rest => some rest
    | _ => do
      let rest ← argument n ts
      if startsComprehension rest && startsExpression ts then
        let rest ← comprehension n rest
        skipMark ")" rest
      else moreArguments n rest

/-- The arguments after the first one, up to the closing parenthesis. -/
def moreArguments : (fuel : Nat) → List Token → Option (List Token)
  | 0, _ => none
  | n + 1, ts =>
    match ts with
    | .mark ")" :: rest => some rest
    | .mark "," :: .mark ")" :: rest => some rest
    | .mark "," :: rest => do
      let rest ← argument n rest
      moreArguments n rest
    | _ => none

/-- One argument of a call. -/
def argument : (fuel : Nat) → List Token → Option (List Token)
  | 0, _ => none
  | n + 1, ts =>
    match ts with
    | .mark "*" :: rest => expression n rest
    | .mark "**" :: rest => expression n rest
    | .word x :: .mark "=" :: rest =>
      if isName x then expression n rest else none
    | _ => expression n ts

def subscripts : (fuel : Nat) → List Token → Option (List Token)
  | 0, _ => none
  | n + 1, ts => do
    let rest ← slice n ts
    match rest with
    | .mark "]" :: rest => some rest
    | .mark "," :: .mark "]" :: rest => some rest
    | .mark "," :: rest => subscripts n rest
    | _ => none

def slice : (fuel : Nat) → List Token → Option (List Token)
  | 0, _ => none
  | n + 1, ts =>
    match ts with
    | .mark ":" :: rest => sliceEnd n rest
    | _ => do
      let rest ← element n ts
      match rest with
      | .mark ":" :: rest => sliceEnd n rest
      | _ => some rest

/-- What may follow a colon in a slice. -/
def sliceEnd : (fuel : Nat) → List Token → Option (List Token)
  | 0, _ => none
  | n + 1, ts =>
    match ts with
    | .mark "]" :: _ => some ts
    | .mark "," :: _ => some ts
    | .mark ":" :: .mark "]" :: rest => some (.mark "]" :: rest)
    | .mark ":" :: .mark "," :: rest => some (.mark "," :: rest)
    | .mark ":" :: rest => expression n rest
    | _ => do
      let rest ← expression n ts
      match rest with
      | .mark ":" :: .mark "]" :: rest => some (.mark "]" :: rest)
      | .mark ":" :: .mark "," :: rest => some (.mark "," :: rest)
      | .mark ":" :: rest => expression n rest
      | _ => some rest

def comprehension : (fuel : Nat) → List Token → Option (List Token)
  | 0, _ => none
  | n + 1, ts =>
    match ts with
    | .word "async" :: rest => comprehension n rest
    | .word "for" :: rest => do
      let rest ← targets n rest
      match rest with
      | .word "in" :: rest =>
        let rest ← sources n rest
        comprehensionRest n rest
      | _ => none
    | _ => none

def comprehensionRest : (fuel : Nat) → List Token → Option (List Token)
  | 0, _ => none
  | n + 1, ts =>
    match ts with
    | .word "if" :: rest => do
      let rest ← clauseExpression n rest
      comprehensionRest n rest
    | _ => if startsComprehension ts then comprehension n ts else some ts

/-- What a comprehension clause runs over, separated by commas. -/
def sources : (fuel : Nat) → List Token → Option (List Token)
  | 0, _ => none
  | n + 1, ts => do
    let rest ← clauseExpression n ts
    match rest with
    | .mark "," :: rest =>
      match sources n rest with
      | some rest => some rest
      | none => some rest
    | _ => some rest

/-- An expression in a clause; an `if` without an `else` after it starts the
next clause. -/
def clauseExpression : (fuel : Nat) → List Token → Option (List Token)
  | 0, _ => none
  | n + 1, ts =>
    match expression n ts with
    | some rest => some rest
    | none => logical n ts

def targets : (fuel : Nat) → List Token → Option (List Token)
  | 0, _ => none
  | n + 1, ts => do
    let rest ← target n ts
    match rest with
    | .mark "," :: rest =>
      match targets n rest with
      | some rest => some rest
      | none => some rest
    | _ => some rest

/-- A target: a group of targets, or what can be assigned to. -/
def target : (fuel : Nat) → List Token → Option (List Token)
  | 0, _ => none
  | n + 1, ts =>
    let group (close : String) (rest : List Token) : Option (List Token) :=
      match skipMark close rest with
      | some rest => some rest
      | none => do
        let rest ← targets n rest
        skipMark close rest
    let grouped : Option (List Token) :=
      match ts with
      | .mark "(" :: rest => group ")" rest
      | .mark "[" :: rest => group "]" rest
      | .mark "*" :: rest => place n rest
      | _ => none
    match grouped with
    | some rest =>
      match rest with
      | .mark "." :: _ | .mark "(" :: _ | .mark "[" :: _ => place n ts
      | _ => some rest
    | none => place n ts

/-- What can be assigned to: a name, an attribute or a subscript. -/
def place : (fuel : Nat) → List Token → Option (List Token)
  | 0, _ => none
  | n + 1, ts => do
    let rest ← atom n ts
    let isWord : Bool := match ts with
      | .word x :: _ => isName x
      | _ => false
    placeRest n isWord rest

/-- What follows an operand that can be assigned to, or becomes so. -/
def placeRest :
    (fuel : Nat) → (assignable : Bool) → List Token → Option (List Token)
  | 0, _, _ => none
  | n + 1, assignable, ts =>
    match ts with
    | .mark "." :: .word x :: rest =>
      if isName x then placeRest n true rest else none
    | .mark "(" :: rest => do
      let rest ← arguments n rest
      placeRest n false rest
    | .mark "[" :: rest => do
      let rest ← subscripts n rest
      placeRest n true rest
    | _ => if assignable then some ts else none

end

end Source
end Concord
