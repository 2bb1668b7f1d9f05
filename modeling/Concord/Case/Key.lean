import Concord.Expectation
import Concord.Matrix.Basic

/-!
# Case keys

The keys of the cases of a function: one type, or an ordered pair of types, of
the matrix.
-/

namespace Concord

/-- The number of sampled arguments of a call. -/
inductive Arity where
  | one
  | two
  deriving DecidableEq, Inhabited

namespace Arity

def ofCount? : Nat → Option Arity
  | 1 => some .one
  | 2 => some .two
  | _ => none

def count : Arity → Nat
  | .one => 1
  | .two => 2

end Arity

/-- The names of the argument types of a case, in order. -/
structure CaseKey where
  types : List String
  deriving DecidableEq

namespace CaseKey

/-- The label of a case: the type names joined by underscores. -/
def label (k : CaseKey) : String :=
  "_".intercalate k.types

def testName (k : CaseKey) : String :=
  testMark ++ k.label

end CaseKey

/-- All keys over a matrix, in matrix order; for two arguments the first one
varies slowest. -/
def TypeMatrix.caseKeys (m : TypeMatrix) : Arity → List CaseKey
  | .one => m.typeNames.map fun a => ⟨[a]⟩
  | .two => m.typeNames.flatMap fun a => m.typeNames.map fun b => ⟨[a, b]⟩

end Concord
