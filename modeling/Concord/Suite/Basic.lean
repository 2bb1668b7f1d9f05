import Concord.Case.Key
import Concord.Suite.Error

/-!
# Suites

A suite names the functions to check, the number of sampled arguments, and the
labels on which the target is known to differ. A declaration becomes a suite
when the matrix can produce each of its labels.
-/

namespace Concord

/-- A suite as it is written in a file. -/
structure Declaration where
  name : String
  functions : List String
  arity : Nat := 1
  notImplemented : List String := []
  deriving DecidableEq, Inhabited

/-- A suite that can be run. -/
structure Suite where
  name : String
  functions : List String
  arity : Arity
  registry : Registry := {}
  /-- The path of the file that declares the suite. -/
  source : Option String := none
  deriving DecidableEq, Inhabited

namespace Suite

/-- Registers labels as expected failures of every function. -/
def withNotImplemented (s : Suite) (labels : List String) : Suite :=
  { s with
    registry := labels.foldl
      (fun r label =>
        s.functions.foldl (fun r function => r.insert function label) r)
      s.registry }

/-- The suite that a declaration describes. It needs a function, a known arity,
and entries that are labels of the matrix. -/
def ofDeclaration (d : Declaration) (m : TypeMatrix) (source : Option String) :
    Except SetupError Suite :=
  if d.functions.isEmpty then .error (.emptyFunctions d.name)
  else
    match Arity.ofCount? d.arity with
    | none => .error (.unsupportedArity d.name d.arity)
    | some arity =>
      let labels := (m.caseKeys arity).map CaseKey.label
      match d.notImplemented.find? fun entry =>
        !labels.contains (normaliseEntry entry) with
      | some entry => .error (.unknownTypeName d.name entry)
      | none =>
        .ok ({ name := d.name
               functions := d.functions
               arity := arity
               source := source : Suite }.withNotImplemented d.notImplemented)

end Suite
end Concord
