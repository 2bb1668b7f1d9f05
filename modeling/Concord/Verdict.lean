import Concord.Outcome
import Concord.Value.Equivalent

/-!
# Verdicts

Two outcomes of the same call are compared. The verdicts are ordered from
agreement to divergence, and several samples together have the worst of their
verdicts.
-/

namespace Concord

/-- The result of comparing two outcomes. -/
inductive Verdict where
  | same
  | bothFailedAlike
  | bothFailedDifferently
  | different
  deriving DecidableEq

namespace Verdict

/-- The place of a verdict in the order from agreement to divergence. -/
def rank : Verdict → Nat
  | .same => 0
  | .bothFailedAlike => 1
  | .bothFailedDifferently => 2
  | .different => 3

def worse (a b : Verdict) : Verdict :=
  if a.rank < b.rank then b else a

/-- The worst of several verdicts; without any it is `same`. -/
def worst (vs : List Verdict) : Verdict :=
  vs.foldl worse .same

/-- The backends agree, by value or by the kind of failure. -/
def isAgreement : Verdict → Bool
  | .same | .bothFailedAlike => true
  | _ => false

def text : Verdict → String
  | .same => "match"
  | .bothFailedAlike => "both failed alike"
  | .bothFailedDifferently => "both failed differently"
  | .different => "mismatch"

def label : Verdict → String
  | .same => "match"
  | .bothFailedAlike => "both_failed_match"
  | .bothFailedDifferently => "both_failed_mismatch"
  | .different => "mismatch"

end Verdict

namespace Outcome

/-- Compares two outcomes. Values agree when their types have one name and the
printed values are equivalent; failures agree when they are of one kind. -/
def compare : Outcome → Outcome → Verdict
  | .value t p, .value t' p' =>
    if t = t' && (Value.read p).equivalent (Value.read p') then .same
    else .different
  | .failure k _, .failure k' _ =>
    if k = k' then .bothFailedAlike else .bothFailedDifferently
  | _, _ => .different

end Outcome
end Concord
