import Concord.Host.Tool.Basic

/-!
# Conditions

The conditions that `test` and `[` decide: on texts, numbers and files.
-/

namespace Concord
namespace Host
namespace Condition

/-- A condition on one text; there is none for an unknown operator. -/
def unary? (d : Disk) (op arg : String) : Option Bool :=
  if op = "-n" then some (!arg.isEmpty)
  else if op = "-z" then some arg.isEmpty
  else if op = "-e" || op = "-r" || op = "-w" then some (d.exists? arg)
  else if op = "-f" then some (d.isFile arg)
  else if op = "-d" then some (d.isDirectory arg)
  else if op = "-x" then some (d.isDirectory arg)
  else if op = "-s" then
    some (match d.readBytes arg with
      | .ok bytes => 0 < bytes.size
      | .error fault => fault = .isDirectory)
  else if op = "-L" || op = "-h" || op = "-p" || op = "-S" || op = "-t" then
    some false
  else none

def binaryOperators : List String :=
  ["=", "==", "!=", "-eq", "-ne", "-lt", "-le", "-gt", "-ge"]

/-- A condition on two texts; there is none where a number is expected and not
given. -/
def binary? (a op b : String) : Option Bool :=
  if op = "=" || op = "==" then some (a == b)
  else if op = "!=" then some (a != b)
  else do
    let trim (s : String) : String := Text.trimmed s
    let x ← decimal? (trim a)
    let y ← decimal? (trim b)
    if op = "-eq" then some (x == y)
    else if op = "-ne" then some (x != y)
    else if op = "-lt" then some (x < y)
    else if op = "-le" then some (x ≤ y)
    else if op = "-gt" then some (y < x)
    else if op = "-ge" then some (y ≤ x)
    else none

mutual

/-- A condition without `-a` and `-o`. -/
def term? (d : Disk) : (fuel : Nat) → List String → Option (Bool × List String)
  | 0, _ => none
  | fuel + 1, args =>
    match args with
    | a :: op :: b :: rest =>
      if binaryOperators.contains op then
        (binary? a op b).map fun r => (r, rest)
      else if a = "!" then
        (term? d fuel (op :: b :: rest)).map fun (r, rest) => (!r, rest)
      else if a = "(" then do
        let (r, rest) ← any? d fuel (op :: b :: rest)
        match rest with
        | ")" :: rest => some (r, rest)
        | _ => none
      else
        match unary? d a op with
        | some r => some (r, b :: rest)
        | none => some (!a.isEmpty, op :: b :: rest)
    | ["!", a] => some (a.isEmpty, [])
    | [op, a] =>
      match unary? d op a with
      | some r => some (r, [])
      | none => none
    | [a] => some (!a.isEmpty, [])
    | [] => none

/-- Conditions joined by `-a`. -/
def all? (d : Disk) : (fuel : Nat) → List String → Option (Bool × List String)
  | 0, _ => none
  | fuel + 1, args => do
    let (a, rest) ← term? d fuel args
    match rest with
    | "-a" :: rest =>
      let (b, rest) ← all? d fuel rest
      some (a && b, rest)
    | _ => some (a, rest)

/-- Conditions joined by `-o`. -/
def any? (d : Disk) : (fuel : Nat) → List String → Option (Bool × List String)
  | 0, _ => none
  | fuel + 1, args => do
    let (a, rest) ← all? d fuel args
    match rest with
    | "-o" :: rest =>
      let (b, rest) ← any? d fuel rest
      some (a || b, rest)
    | _ => some (a, rest)

end

/-- The first text that stands for a number and is none. -/
def badNumber? : List String → Option String
  | a :: op :: b :: rest =>
    if ["-eq", "-ne", "-lt", "-le", "-gt", "-ge"].contains op then
      match [a, b].find? fun s => (decimal? (Text.trimmed s)).isNone with
      | some s => some s
      | none => badNumber? rest
    else badNumber? (op :: b :: rest)
  | _ => none

end Condition

/-- Decides a condition: status 0 for true, 1 for false, 2 for what is no
condition. -/
def test : Tool := fun c =>
  let args? : Option (List String) :=
    if c.name = "[" then
      if c.args.getLast? = some "]" then some c.args.dropLast else none
    else some c.args
  match args? with
  | none => c.refuse "missing ]" 2
  | some [] => { status := 1 }
  | some args =>
    match Condition.any? c.disk (4 * args.length + 4) args with
    | some (r, []) => { status := if r then 0 else 1 }
    | _ =>
      match Condition.badNumber? args with
      | some s => c.refuse ("Illegal number: " ++ s) 2
      | none => c.refuse (args.headD "" ++ ": unexpected operator") 2

end Host
end Concord
