import Concord.Text.Lines

/-!
# Scripts

The commands of a shell script. Words are kept as pieces, which are expanded
when a command runs; the commands inside a substitution are kept as text until
then.
-/

namespace Concord
namespace Host

/-- What happens to the value of a parameter. -/
inductive ParamUse where
  | value
  | length
  /-- Another text where the parameter is unset, or where it is empty too. -/
  | default (orEmpty : Bool) (text : String)
  | assign (orEmpty : Bool) (text : String)
  /-- Another text where the parameter is set. -/
  | alternative (orEmpty : Bool) (text : String)
  | required (orEmpty : Bool) (text : String)
  /-- Without what a pattern matches at the start or the end. -/
  | dropStart (longest : Bool) (pattern : String)
  | dropEnd (longest : Bool) (pattern : String)
  deriving DecidableEq, Inhabited

/-- A piece of a word. -/
inductive Piece where
  | text (s : String) (quoted : Bool)
  | param (name : String) (use : ParamUse) (quoted : Bool)
  | output (script : String) (quoted : Bool)
  | number (expression : String) (quoted : Bool)
  deriving DecidableEq, Inhabited

/-- A word of a command. -/
abbrev Word := List Piece

/-- Where a redirection leads or comes from. -/
inductive Redirect where
  | read (file : Word)
  /-- The input is a text that stands in the script. -/
  | document (text : Word)
  | write (channel : Nat) (append : Bool) (file : Word)
  /-- One channel becomes what another one is. -/
  | duplicate (channel : Nat) (other : Nat)
  | close (channel : Nat)
  deriving DecidableEq, Inhabited

/-- A command of a script. -/
inductive Script where
  | nothing
  | simple (line : Nat) (assignments : List (String × Word)) (words : List Word)
  | seq (a b : Script)
  | both (a b : Script)
  | either (a b : Script)
  | negate (a : Script)
  | pipe (a b : Script)
  | background (a : Script)
  | subshell (a : Script)
  | redirected (a : Script) (redirects : List Redirect)
  | cond (test yes no : Script)
  /-- Repeats the body while the test succeeds, or while it fails. -/
  | loop (whileFailing : Bool) (test body : Script)
  | forEach (name : String) (words : Option (List Word)) (body : Script)
  | select (subject : Word) (arms : Script)
  /-- One arm of a `select`, and the arms after it. -/
  | arm (patterns : List Word) (body rest : Script)
  | define (name : String) (body : Script)
  deriving DecidableEq, Inhabited

/-- Why a script cannot be read. -/
inductive ScriptError where
  | unterminatedQuote
  | unexpected (token : String)
  | endOfFile (expected : Option String)
  | badSubstitution
  deriving DecidableEq

def ScriptError.message : ScriptError → String
  | .unterminatedQuote => "Syntax error: Unterminated quoted string"
  | .unexpected token => "Syntax error: " ++ token ++ " unexpected"
  | .endOfFile none => "Syntax error: end of file unexpected"
  | .endOfFile (some word) =>
    "Syntax error: end of file unexpected (expecting \"" ++ word ++ "\")"
  | .badSubstitution => "Bad substitution"

end Host
end Concord
