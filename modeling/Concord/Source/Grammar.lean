import Concord.Source.Expression

/-!
# Well-formed Python source

A recogniser for the programs that snippets usually consist of: expressions,
assignments and `try` statements. Other statements it refuses. A run takes
its check as a parameter, and the command line passes this one.
-/

namespace Concord
namespace Source

/-- Elements separated by commas, as they stand in a statement. -/
def elements : (fuel : Nat) → List Token → Option (List Token)
  | 0, _ => none
  | n + 1, ts => do
    let rest ← element n ts
    match rest with
    | .mark "," :: .newline :: rest => some (.newline :: rest)
    | .mark "," :: rest => elements n rest
    | _ => some rest

/-- An expression statement, or an assignment to one or more targets. -/
def assignment : (fuel : Nat) → List Token → Option (List Token)
  | 0, _ => none
  | n + 1, ts =>
    match targets n ts with
    | some (.mark "=" :: rest) => assignment n rest
    | _ =>
      match ts with
      | .word "yield" :: rest => yieldRest n rest
      | _ => elements n ts

def simpleLine : (fuel : Nat) → List Token → Option (List Token)
  | 0, _ => none
  | n + 1, ts => do
    let rest ← assignment n ts
    match rest with
    | .newline :: rest => some rest
    | .mark ";" :: .newline :: rest => some rest
    | .mark ";" :: rest => simpleLine n rest
    | _ => none

mutual

def statement : (fuel : Nat) → List Token → Option (List Token)
  | 0, _ => none
  | n + 1, ts =>
    match ts with
    | .word "try" :: .mark ":" :: rest => do
      let rest ← suite n rest
      match rest with
      | .word "except" :: _ => handlers n rest
      | .word "finally" :: _ => handlers n rest
      | _ => none
    | _ => simpleLine n ts

/-- The clauses of a `try` statement after its first block. -/
def handlers : (fuel : Nat) → List Token → Option (List Token)
  | 0, _ => none
  | n + 1, ts =>
    match ts with
    | .word "except" :: .mark ":" :: rest => do
      let rest ← suite n rest
      handlers n rest
    | .word "except" :: rest => do
      let rest ← expression n rest
      let rest ← skipMark ":" rest
      let rest ← suite n rest
      handlers n rest
    | .word "else" :: .mark ":" :: rest => do
      let rest ← suite n rest
      handlers n rest
    | .word "finally" :: .mark ":" :: rest => suite n rest
    | _ => some ts

def suite : (fuel : Nat) → List Token → Option (List Token)
  | 0, _ => none
  | n + 1, ts =>
    match ts with
    | .newline :: .indent :: rest => block n rest
    | _ => simpleLine n ts

def block : (fuel : Nat) → List Token → Option (List Token)
  | 0, _ => none
  | n + 1, ts => do
    let rest ← statement n ts
    match rest with
    | .dedent :: rest => some rest
    | _ => block n rest

end

def program : (fuel : Nat) → List Token → Bool
  | 0, _ => false
  | n + 1, ts =>
    match ts with
    | [] => true
    | _ =>
      match statement n ts with
      | some rest => program n rest
      | none => false

/-- The text is a well-formed program. -/
def isWellFormed (source : String) : Bool :=
  let cs := source.toList
  match tokensOf? cs with
  | some ts => program (30 * (cs.length + 2)) ts
  | none => false

end Source
end Concord
