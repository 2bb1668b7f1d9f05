import Concord.Host.Script.Token

/-!
# Reading scripts

`Script.read` turns the text of a script into commands. Reserved words count
only where a command may start.
-/

namespace Concord
namespace Host
namespace Script

/-- The words that are not names of commands. -/
def reserved : List String :=
  ["if", "then", "elif", "else", "fi", "while", "until", "do", "done", "for",
    "in", "case", "esac", "\x7b", "\x7d", "!"]

def plainText? : ScriptToken → Option String
  | .word [.text s false] _ => some s
  | _ => none

def nextReserved? (tokens : List ScriptToken) : Option String :=
  (tokens.head?.bind plainText?).filter reserved.contains

/-- What is said of a token where it cannot stand. -/
def unexpected (expected : Option String) : List ScriptToken → ScriptError
  | [] => .endOfFile expected
  | .lineEnd :: _ => .unexpected "newline"
  | .operator op :: _ => .unexpected ("\"" ++ op ++ "\"")
  | .channel _ :: _ => .unexpected "redirection"
  | t :: _ =>
    match (plainText? t).filter reserved.contains with
    | some word => .unexpected ("\"" ++ word ++ "\"")
    | none => .unexpected "word"

/-- Takes a reserved word. -/
def expect (word : String) (tokens : List ScriptToken) :
    Except ScriptError (List ScriptToken) :=
  if nextReserved? tokens = some word then .ok (tokens.drop 1)
  else .error (unexpected (some word) tokens)

def skipLines (tokens : List ScriptToken) : List ScriptToken :=
  tokens.dropWhile (· = .lineEnd)

def endsList : List ScriptToken → Bool
  | [] => true
  | .operator op :: _ => op = ")" || op = ";;"
  | tokens =>
    match nextReserved? tokens with
    | some word =>
      ["then", "elif", "else", "fi", "do", "done", "esac", "\x7d"].contains word
    | none => false

/-- Joins commands in order. -/
def andThen (a b : Script) : Script :=
  if b = .nothing then a else .seq a b

/-! ## Simple commands -/

def assignment? (word : Word) : Option (String × Word) :=
  match word with
  | .text s false :: rest =>
    let cs := s.toList
    let name := cs.takeWhile ScriptToken.continuesName
    match cs.drop name.length with
    | '=' :: value =>
      if name.head?.any ScriptToken.startsName then
        some (String.ofList name,
          if value.isEmpty then rest
          else .text (String.ofList value) false :: rest)
      else none
    | _ => none
  | _ => none

/-- Reads a redirection after its channel, if one comes next. -/
def redirection? (given : Option Nat) (tokens : List ScriptToken) :
    Except ScriptError (Option (Redirect × List ScriptToken)) :=
  match tokens with
  | .operator op :: .word file _ :: rest =>
    let target : Option Nat :=
      match file with
      | [.text s false] => s.toNat?
      | _ => none
    if op = "<" then .ok (some (.read file, rest))
    else if op = "<<" then .ok (some (.document file, rest))
    else if op = ">" || op = ">|" then
      .ok (some (.write (given.getD 1) false file, rest))
    else if op = ">>" then .ok (some (.write (given.getD 1) true file, rest))
    else if op = ">&" then
      match target with
      | some other => .ok (some (.duplicate (given.getD 1) other, rest))
      | none =>
        if file = [.text "-" false] then
          .ok (some (.close (given.getD 1), rest))
        else .ok (some (.write (given.getD 1) false file, rest))
    else if op = "<&" then .ok (some (.close (given.getD 0), rest))
    else .ok none
  | .operator op :: rest =>
    if ["<", ">", ">|", ">>", ">&", "<&", "<<", "<>"].contains op then
      .error (unexpected none rest)
    else .ok none
  | _ => .ok none

/-- Reads a redirection, if one comes next. -/
def redirect? (tokens : List ScriptToken) :
    Except ScriptError (Option (Redirect × List ScriptToken)) :=
  match tokens with
  | .channel n :: rest => do
    match ← redirection? (some n) rest with
    | some found => .ok (some found)
    | none => .error (unexpected none rest)
  | _ => redirection? none tokens

def redirects : (fuel : Nat) → List ScriptToken →
    Except ScriptError (List Redirect × List ScriptToken)
  | 0, tokens => .ok ([], tokens)
  | fuel + 1, tokens => do
    match ← redirect? tokens with
    | none => .ok ([], tokens)
    | some (r, rest) =>
      let (more, rest) ← redirects fuel rest
      .ok (r :: more, rest)

def withRedirects (a : Script) (rs : List Redirect) : Script :=
  if rs.isEmpty then a else .redirected a rs

/-- The parts of a simple command. -/
structure SimpleParts where
  line : Option Nat := none
  assignments : List (String × Word) := []
  words : List Word := []
  redirects : List Redirect := []

def simpleParts : (fuel : Nat) → SimpleParts → List ScriptToken →
    Except ScriptError (SimpleParts × List ScriptToken)
  | 0, p, tokens => .ok (p, tokens)
  | fuel + 1, p, tokens => do
    match ← redirect? tokens with
    | some (r, rest) =>
      simpleParts fuel { p with redirects := p.redirects ++ [r] } rest
    | none =>
      match tokens with
      | .word w line :: rest =>
        let p := { p with line := some (p.line.getD line) }
        match if p.words.isEmpty then assignment? w else none with
        | some a =>
          simpleParts fuel { p with assignments := p.assignments ++ [a] } rest
        | none => simpleParts fuel { p with words := p.words ++ [w] } rest
      | _ => .ok (p, tokens)

def simpleCommand (tokens : List ScriptToken) :
    Except ScriptError (Script × List ScriptToken) := do
  let (p, rest) ← simpleParts (tokens.length + 1) {} tokens
  if p.assignments.isEmpty && p.words.isEmpty && p.redirects.isEmpty then
    .error (unexpected none tokens)
  else
    .ok (withRedirects (.simple (p.line.getD 1) p.assignments p.words)
      p.redirects, rest)

/-- Reads words up to the end of a command. -/
def plainWords : List ScriptToken → List Word × List ScriptToken
  | .word w _ :: rest =>
    let (ws, rest) := plainWords rest
    (w :: ws, rest)
  | rest => ([], rest)

def skipSemicolon : List ScriptToken → List ScriptToken
  | .operator ";" :: rest => rest
  | rest => rest

/-- Reads the patterns of an arm, which bars separate. -/
def patterns :
    (fuel : Nat) → List ScriptToken →
      Except ScriptError (List Word × List ScriptToken)
  | 0, tokens => .error (unexpected none tokens)
  | fuel + 1, tokens =>
    match tokens with
    | .word w _ :: .operator ")" :: rest => .ok ([w], rest)
    | .word w _ :: .operator "|" :: rest => do
      let (ws, rest) ← patterns fuel rest
      .ok (w :: ws, rest)
    | tokens => .error (unexpected (some ")") tokens)

/-! ## Commands -/

mutual

def commands :
    (fuel : Nat) → List ScriptToken →
      Except ScriptError (Script × List ScriptToken)
  | 0, tokens => .error (unexpected none tokens)
  | fuel + 1, tokens => do
    let tokens := skipLines tokens
    if endsList tokens then .ok (.nothing, tokens)
    else
      let (a, rest) ← chain fuel tokens
      match rest with
      | .operator ";" :: rest | .lineEnd :: rest =>
        let (b, rest) ← commands fuel rest
        .ok (andThen a b, rest)
      | .operator "&" :: rest =>
        let (b, rest) ← commands fuel rest
        .ok (andThen (.background a) b, rest)
      | _ =>
        if endsList rest then .ok (a, rest) else .error (unexpected none rest)

/-- Reads pipelines joined by `&&` and `||`. -/
def chain :
    (fuel : Nat) → List ScriptToken →
      Except ScriptError (Script × List ScriptToken)
  | 0, tokens => .error (unexpected none tokens)
  | fuel + 1, tokens => do
    let (a, rest) ← pipeline fuel tokens
    chainRest fuel a rest

/-- Reads what is joined to a pipeline. -/
def chainRest : (fuel : Nat) → Script → List ScriptToken →
    Except ScriptError (Script × List ScriptToken)
  | 0, _, tokens => .error (unexpected none tokens)
  | fuel + 1, a, tokens =>
    match tokens with
    | .operator "&&" :: rest => do
      let (b, rest) ← pipeline fuel (skipLines rest)
      chainRest fuel (.both a b) rest
    | .operator "||" :: rest => do
      let (b, rest) ← pipeline fuel (skipLines rest)
      chainRest fuel (.either a b) rest
    | _ => .ok (a, tokens)

def pipeline :
    (fuel : Nat) → List ScriptToken →
      Except ScriptError (Script × List ScriptToken)
  | 0, tokens => .error (unexpected none tokens)
  | fuel + 1, tokens => do
    if nextReserved? tokens = some "!" then
      let (a, rest) ← pipeline fuel (tokens.drop 1)
      .ok (.negate a, rest)
    else
      let (a, rest) ← command fuel tokens
      match rest with
      | .operator "|" :: rest =>
        let (b, rest) ← pipeline fuel (skipLines rest)
        .ok (.pipe a b, rest)
      | _ => .ok (a, rest)

def command :
    (fuel : Nat) → List ScriptToken →
      Except ScriptError (Script × List ScriptToken)
  | 0, tokens => .error (unexpected none tokens)
  | fuel + 1, tokens => do
    let compound (parsed :
    Except ScriptError (Script × List ScriptToken)) :
      Except ScriptError (Script × List ScriptToken) := do
      let (a, rest) ← parsed
      let (rs, rest) ← redirects (rest.length + 1) rest
      .ok (withRedirects a rs, rest)
    match tokens with
    | .operator "(" :: rest =>
      compound do
        let (a, rest) ← commands fuel rest
        match rest with
        | .operator ")" :: rest => .ok (.subshell a, rest)
        | _ => .error (unexpected (some ")") rest)
    | .word [.text name false] _ :: .operator "(" :: .operator ")" :: rest =>
      let (body, rest) ← command fuel (skipLines rest)
      .ok (.define name body, rest)
    | _ =>
      match nextReserved? tokens with
      | none => simpleCommand tokens
      | some "if" => compound (ifCommand fuel (tokens.drop 1))
      | some "while" => compound (loopCommand fuel false (tokens.drop 1))
      | some "until" => compound (loopCommand fuel true (tokens.drop 1))
      | some "for" => compound (forCommand fuel (tokens.drop 1))
      | some "case" => compound (caseCommand fuel (tokens.drop 1))
      | some "\x7b" =>
        compound do
          let (a, rest) ← commands fuel (tokens.drop 1)
          .ok (a, ← expect "\x7d" rest)
      | some _ => .error (unexpected none tokens)

/-- Reads a conditional after `if` or `elif`. -/
def ifCommand :
    (fuel : Nat) → List ScriptToken →
      Except ScriptError (Script × List ScriptToken)
  | 0, tokens => .error (unexpected none tokens)
  | fuel + 1, tokens => do
    let (test, rest) ← commands fuel tokens
    let (yes, rest) ← commands fuel (← expect "then" rest)
    match nextReserved? rest with
    | some "elif" =>
      let (no, rest) ← ifCommand fuel (rest.drop 1)
      .ok (.cond test yes no, rest)
    | some "else" =>
      let (no, rest) ← commands fuel (rest.drop 1)
      .ok (.cond test yes no, ← expect "fi" rest)
    | _ => .ok (.cond test yes .nothing, ← expect "fi" rest)

/-- Reads a loop after `while` or `until`. -/
def loopCommand : (fuel : Nat) → (whileFailing : Bool) → List ScriptToken →
    Except ScriptError (Script × List ScriptToken)
  | 0, _, tokens => .error (unexpected none tokens)
  | fuel + 1, whileFailing, tokens => do
    let (test, rest) ← commands fuel tokens
    let (body, rest) ← commands fuel (← expect "do" rest)
    .ok (.loop whileFailing test body, ← expect "done" rest)

/-- Reads a loop over words after `for`. -/
def forCommand :
    (fuel : Nat) → List ScriptToken →
      Except ScriptError (Script × List ScriptToken)
  | 0, tokens => .error (unexpected none tokens)
  | fuel + 1, tokens =>
    match tokens with
    | .word [.text name false] _ :: rest => do
      let rest := skipLines rest
      let (words, rest) :=
        if nextReserved? rest = some "in" then
          let (ws, rest) := plainWords (rest.drop 1)
          (some ws, rest)
        else (none, rest)
      let rest := skipLines (skipSemicolon rest)
      let (body, rest) ← commands fuel (← expect "do" rest)
      .ok (.forEach name words body, ← expect "done" rest)
    | _ => .error (unexpected none tokens)

/-- Reads a choice after `case`. -/
def caseCommand :
    (fuel : Nat) → List ScriptToken →
      Except ScriptError (Script × List ScriptToken)
  | 0, tokens => .error (unexpected none tokens)
  | fuel + 1, tokens =>
    match tokens with
    | .word subject _ :: rest => do
      let (arms, rest) ← caseArms fuel (← expect "in" (skipLines rest))
      .ok (.select subject arms, rest)
    | _ => .error (unexpected none tokens)

/-- Reads the arms of a choice and its end. -/
def caseArms :
    (fuel : Nat) → List ScriptToken →
      Except ScriptError (Script × List ScriptToken)
  | 0, tokens => .error (unexpected none tokens)
  | fuel + 1, tokens => do
    let tokens := skipLines tokens
    if nextReserved? tokens = some "esac" then .ok (.nothing, tokens.drop 1)
    else
      let tokens :=
        match tokens with
        | .operator "(" :: rest => rest
        | _ => tokens
      let (ps, rest) ← patterns (tokens.length + 1) tokens
      let (body, rest) ← commands fuel rest
      let rest := skipLines rest
      match rest with
      | .operator ";;" :: rest =>
        let (more, rest) ← caseArms fuel rest
        .ok (.arm ps body more, rest)
      | _ => .ok (.arm ps body .nothing, ← expect "esac" rest)

end

def read (source : String) : Except ScriptError Script := do
  let tokens ← ScriptToken.all source
  let (a, rest) ← commands (8 * tokens.length + 8) tokens
  if rest.isEmpty then .ok a else .error (unexpected none rest)

end Script
end Host
end Concord
