import Concord.Suite.Basic

/-!
# Cases

A case applies a function of a suite to the samples of a key. Its identifier
names the suite, the case and the function; a filter selects the cases whose
identifier contains it.
-/

namespace Concord

/-- A function of a suite with the types of its arguments. -/
structure Case where
  suite : Suite
  function : String
  key : CaseKey

namespace Case

def name (c : Case) : String :=
  c.key.testName

/-- The identifier of a case. -/
def id (c : Case) : String :=
  c.suite.name ++ "." ++ c.name ++ "[" ++ c.function ++ "]"

def expectedFailure (c : Case) : Bool :=
  c.suite.registry.contains c.function c.key.label

end Case

/-- A filter admits an identifier that contains it; no filter admits all. -/
def admits (filter : Option String) (id : String) : Bool :=
  match filter with
  | none => true
  | some part => Text.contains id part

namespace Suite

/-- The cases of a suite, function by function and in the order of the keys. -/
def cases (s : Suite) (m : TypeMatrix) : List Case :=
  s.functions.flatMap fun function => (m.caseKeys s.arity).map fun key =>
    ⟨s, function, key⟩

/-- The cases of a suite that a filter admits. -/
def selectedCases (s : Suite) (m : TypeMatrix) (filter : Option String) :
    List Case :=
  (s.cases m).filter fun c => admits filter c.id

end Suite

/-- The identifiers of the cases that a run of the suites executes, in order. -/
def listCases (suites : List Suite) (m : TypeMatrix) (filter : Option String) :
    List String :=
  (suites.flatMap fun s =>
    s.functions.flatMap fun function =>
      (m.caseKeys s.arity).map fun key => (Case.mk s function key).id).filter
        (admits filter)

end Concord
