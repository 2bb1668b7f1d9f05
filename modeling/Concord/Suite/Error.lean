import Concord.Text.Printable

/-!
# Setup errors

Everything that can be wrong with suite files and with the configuration, and
how it is said.
-/

namespace Concord

/-- A reason why suites or a configuration cannot be used. -/
inductive SetupError where
  | unreadable (path reason : String)
  | unparsable (path : String)
  | unsupportedFormat (extension : String)
  | emptyFunctions (suite : String)
  | unsupportedArity (suite : String) (arity : Nat)
  | unknownTypeName (suite entry : String)
  | invalidBackend (name reason : String)
  | zeroJobs
  | noSuites (paths : List String)
  deriving DecidableEq

namespace SetupError

def message : SetupError → String
  | .unreadable path reason => "failed to read '" ++ path ++ "': " ++ reason
  | .unparsable path => "failed to parse '" ++ path ++ "'"
  | .unsupportedFormat extension =>
    "unsupported declaration format: " ++ extension ++
      " (expected json or yaml)"
  | .emptyFunctions suite => "suite '" ++ suite ++ "' declares no functions"
  | .unsupportedArity suite arity =>
    "suite '" ++ suite ++ "' declares unsupported arity " ++ toString arity
      ++ " (expected 1 or 2)"
  | .unknownTypeName suite entry =>
    "suite '" ++ suite ++ "' marks unknown type '" ++ entry ++
      "' as not implemented"
  | .invalidBackend name reason =>
    "invalid backend '" ++ name ++ "': " ++ reason
  | .zeroJobs => "concurrency limit must be at least 1"
  | .noSuites paths =>
    "no suite declarations found under [" ++
      ", ".intercalate (paths.map Text.quoted) ++ "]"

end SetupError
end Concord
