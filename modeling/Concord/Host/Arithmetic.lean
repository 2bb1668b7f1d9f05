import Concord.Numeral

/-!
# Arithmetic in scripts

Whole-number expressions with variables. Division goes towards zero.
-/

namespace Concord
namespace Host
namespace Arithmetic

/-- A token of an expression. -/
inductive Token where
  | number (n : Int)
  | name (s : String)
  | operator (s : String)
  deriving DecidableEq

/-- The operators, the longer ones first. -/
def operators : List String :=
  ["<<", ">>", "<=", ">=", "==", "!=", "&&", "||", "+", "-", "*", "/", "%", "<",
    ">", "&", "|", "^", "!", "~", "(", ")", "?", ":"]

/-- How tightly a binary operator binds. -/
def precedence? (op : String) : Option Nat :=
  if op = "||" then some 1
  else if op = "&&" then some 2
  else if op = "|" then some 3
  else if op = "^" then some 4
  else if op = "&" then some 5
  else if op = "==" || op = "!=" then some 6
  else if ["<", ">", "<=", ">="].contains op then some 7
  else if op = "<<" || op = ">>" then some 8
  else if op = "+" || op = "-" then some 9
  else if ["*", "/", "%"].contains op then some 10
  else none

/-- What follows `start`, where the text begins with it. -/
def after? (start cs : List Char) : Option (List Char) :=
  if cs.take start.length = start then some (cs.drop start.length) else none

/-- The number that the digits of a base denote. -/
def based? (base : Nat) (ds : List Char) : Option Int :=
  if ds.isEmpty then none
  else
    (ds.foldlM (fun n d => (Text.hexValue? d).bind fun v =>
      if v < base then some (base * n + v) else none)
      0).map fun (n : Nat) => (n : Int)

def constant? : List Char → Option Int
  | '0' :: 'x' :: ds | '0' :: 'X' :: ds => based? 16 ds
  | ['0'] => some 0
  | '0' :: ds => based? 8 ds
  | ds => based? 10 ds

def tokens? : (fuel : Nat) → List Char → Option (List Token)
  | 0, _ => none
  | _ + 1, [] => some []
  | fuel + 1, c :: rest =>
    if c = ' ' || c = '\t' || c = '\n' || c = '$' then tokens? fuel rest
    else if c.isDigit then do
      let run := (c :: rest).takeWhile Char.isAlphanum
      let n ← constant? run
      let more ← tokens? fuel ((c :: rest).dropWhile Char.isAlphanum)
      some (.number n :: more)
    else if c.isAlpha || c = '_' then do
      let isPart (d : Char) : Bool := d.isAlphanum || d == '_'
      let more ← tokens? fuel ((c :: rest).dropWhile isPart)
      some (.name (String.ofList ((c :: rest).takeWhile isPart)) :: more)
    else do
      let (op, rest) ← operators.findSome? fun op =>
        (after? op.toList (c :: rest)).map fun rest => (op, rest)
      let more ← tokens? fuel rest
      some (.operator op :: more)

/-- One for true and zero for false. -/
def truth (b : Bool) : Int :=
  if b then 1 else 0

/-- The value of a binary operator; there is none for division by zero. -/
def operate? (op : String) (a b : Int) : Option Int :=
  if op = "+" then some (a + b)
  else if op = "-" then some (a - b)
  else if op = "*" then some (a * b)
  else if op = "/" then if b = 0 then none else some (a.tdiv b)
  else if op = "%" then if b = 0 then none else some (a.tmod b)
  else if op = "==" then some (truth (a == b))
  else if op = "!=" then some (truth (a != b))
  else if op = "<" then some (truth (a < b))
  else if op = ">" then some (truth (b < a))
  else if op = "<=" then some (truth (a ≤ b))
  else if op = ">=" then some (truth (b ≤ a))
  else if op = "&&" then some (truth (a != 0 && b != 0))
  else if op = "||" then some (truth (a != 0 || b != 0))
  else if op = "<<" then some (a * (Nat.pow 2 b.toNat : Nat))
  else if op = ">>" then some (a / (Nat.pow 2 b.toNat : Nat))
  else if op = "&" then some ((Int64.ofInt a &&& Int64.ofInt b).toInt)
  else if op = "|" then some ((Int64.ofInt a ||| Int64.ofInt b).toInt)
  else if op = "^" then some ((Int64.ofInt a ^^^ Int64.ofInt b).toInt)
  else none

/-- The value of a variable: a number, or nothing at all. -/
def variableValue? (lookup : String → Option String) (name : String) :
    Option Int :=
  match (lookup name).map String.toList with
  | none | some [] => some 0
  | some ('-' :: ds) => (constant? ds).map fun n => -n
  | some ds => constant? ds

mutual

def operand? (lookup : String → Option String) :
    (fuel : Nat) → List Token → Option (Int × List Token)
  | 0, _ => none
  | fuel + 1, tokens =>
    match tokens with
    | .number n :: rest => some (n, rest)
    | .name s :: rest => (variableValue? lookup s).map fun n => (n, rest)
    | .operator "-" :: rest =>
      (operand? lookup fuel rest).map fun (n, rest) => (-n, rest)
    | .operator "+" :: rest => operand? lookup fuel rest
    | .operator "!" :: rest =>
      (operand? lookup fuel rest).map fun (n, rest) => (truth (n == 0), rest)
    | .operator "~" :: rest =>
      (operand? lookup fuel rest).map fun (n, rest) => (-n - 1, rest)
    | .operator "(" :: rest => do
      let (n, rest) ← conditional? lookup fuel rest
      match rest with
      | .operator ")" :: rest => some (n, rest)
      | _ => none
    | _ => none

/-- The value of an operand and the binary operators after it that bind at least
as tightly as `least`. -/
def binary? (lookup : String → Option String) :
    (fuel : Nat) → (least : Nat) → List Token → Option (Int × List Token)
  | 0, _, _ => none
  | fuel + 1, least, tokens => do
    let (a, rest) ← operand? lookup fuel tokens
    binaryRest? lookup fuel least a rest

/-- The value of binary operators after a first operand. -/
def binaryRest? (lookup : String → Option String) :
    (fuel : Nat) → (least : Nat) → Int → List Token → Option (Int × List Token)
  | 0, _, _, _ => none
  | fuel + 1, least, a, tokens =>
    match tokens with
    | .operator op :: rest =>
      match (precedence? op).filter (least ≤ ·) with
      | some p => do
        let (b, rest) ← binary? lookup fuel (p + 1) rest
        binaryRest? lookup fuel least (← operate? op a b) rest
      | none => some (a, tokens)
    | _ => some (a, tokens)

def conditional? (lookup : String → Option String) :
    (fuel : Nat) → List Token → Option (Int × List Token)
  | 0, _ => none
  | fuel + 1, tokens => do
    let (a, rest) ← binary? lookup fuel 1 tokens
    match rest with
    | .operator "?" :: rest =>
      let (yes, rest) ← conditional? lookup fuel rest
      match rest with
      | .operator ":" :: rest =>
        let (no, rest) ← conditional? lookup fuel rest
        some (if a ≠ 0 then yes else no, rest)
      | _ => none
    | _ => some (a, rest)

end

def value? (lookup : String → Option String) (text : String) : Option Int := do
  let tokens ← tokens? (text.length + 1) text.toList
  if tokens.isEmpty then some 0
  else
    let (n, rest) ← conditional? lookup (8 * tokens.length + 8) tokens
    if rest.isEmpty then some n else none

end Arithmetic
end Host
end Concord
