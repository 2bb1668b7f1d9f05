import Concord.Text.Lines
import Concord.Verdict

/-!
# Expected failures

A registry holds the pairs of a function and a case label on which the backends
are known to differ. It turns the verdict of a case into its outcome.
-/

namespace Concord

/-- The outcome of a case once expectations are taken into account. -/
inductive CaseOutcome where
  | pass
  | fail
  /-- A registered case on which the backends still differ. -/
  | expectedFailure
  /-- A registered case on which the backends agree by now. -/
  | unexpectedSuccess
  deriving DecidableEq

namespace CaseOutcome

def text : CaseOutcome → String
  | .pass => "ok"
  | .fail => "FAIL"
  | .expectedFailure => "expected failure"
  | .unexpectedSuccess => "unexpected success"

/-- The name of a case outcome in JSON. -/
def label : CaseOutcome → String
  | .pass => "pass"
  | .fail => "fail"
  | .expectedFailure => "expected_failure"
  | .unexpectedSuccess => "unexpected_success"

end CaseOutcome

/-- What stands before the label in the name of a case. -/
def testMark : String := "test_"

/-- The label that an entry names: `int` may also be spelled `test_int`. -/
def normaliseEntry (entry : String) : String :=
  match Text.after? testMark.toList entry.toList with
  | some rest => String.ofList rest
  | none => entry

/-- The expected failures, as pairs of a function and a label in increasing
order without repetition. -/
structure Registry where
  entries : List (String × String) := []
  deriving DecidableEq, Inhabited

namespace Registry

/-- The order of entries: by function, then by label. -/
def precedes (a b : String × String) : Bool :=
  a.1 < b.1 || (a.1 = b.1 && a.2 < b.2)

/-- Puts an entry at its place in an ordered list, once. -/
def insertEntry (entry : String × String) :
    List (String × String) → List (String × String)
  | [] => [entry]
  | e :: rest =>
    if entry = e then e :: rest
    else if precedes entry e then entry :: e :: rest
    else e :: insertEntry entry rest

/-- Registers a label of a function, in either spelling. -/
def insert (r : Registry) (function label : String) : Registry :=
  { entries := insertEntry (function, normaliseEntry label) r.entries }

/-- The label of the function, in either spelling, is registered. -/
def contains (r : Registry) (function label : String) : Bool :=
  r.entries.contains (function, normaliseEntry label)

def size (r : Registry) : Nat :=
  r.entries.length

/-- The outcome of a case with the given verdict. -/
def resolve (r : Registry) (function label : String) (verdict : Verdict) :
    CaseOutcome :=
  if r.contains function label then
    if verdict = .same then .unexpectedSuccess else .expectedFailure
  else if verdict.isAgreement then .pass else .fail

end Registry
end Concord
