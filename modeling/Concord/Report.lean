import Concord.Run.Case

/-!
# Reports

The results of a run with their counts, as text and as JSON. The text has one
line for each case, then a passage for each case that needs attention, and
closes with the counts.
-/

namespace Concord

/-- The numbers of cases by outcome. -/
structure Summary where
  total : Nat := 0
  passed : Nat := 0
  failed : Nat := 0
  expectedFailures : Nat := 0
  unexpectedSuccesses : Nat := 0
  deriving DecidableEq

namespace Summary

/-- The counts with one more case that has the outcome. -/
def add (s : Summary) (outcome : CaseOutcome) : Summary :=
  let s := { s with total := s.total + 1 }
  match outcome with
  | .pass => { s with passed := s.passed + 1 }
  | .fail => { s with failed := s.failed + 1 }
  | .expectedFailure => { s with expectedFailures := s.expectedFailures + 1 }
  | .unexpectedSuccess =>
    { s with unexpectedSuccesses := s.unexpectedSuccesses + 1 }

def ofResults (results : List CaseResult) : Summary :=
  results.foldl (fun s r => s.add r.outcome) {}

/-- No case failed and, where that is asked for, none succeeded unexpectedly. -/
def isSuccess (s : Summary) (strict : Bool) : Bool :=
  s.failed = 0 && !(strict && 0 < s.unexpectedSuccesses)

def toJson (s : Summary) : Json :=
  .object [
    ("total", .int s.total), ("passed", .int s.passed),
    ("failed", .int s.failed),
    ("expected_failures", .int s.expectedFailures),
    ("unexpected_successes", .int s.unexpectedSuccesses)]

end Summary

/-- The results of a run of two named backends. -/
structure Report where
  reference : String
  target : String
  cases : List CaseResult

namespace Report

/-- The counts of a report. -/
def summary (r : Report) : Summary :=
  Summary.ofResults r.cases

def isSuccess (r : Report) (strict : Bool) : Bool :=
  r.summary.isSuccess strict

/-! ## Text -/

/-- A line of seventy equal characters. -/
def rule (c : Char) : String :=
  String.ofList (List.replicate 70 c)

/-- The name, the suite and the function of a case. -/
def heading (c : CaseResult) : String :=
  c.name ++ " (" ++ c.suite ++ ") [" ++ c.function ++ "]"

def caseLine (c : CaseResult) : String :=
  heading c ++ " ... " ++ c.outcome.text

/-- The lines about a sample on which the backends differ. -/
def sampleLines (r : Report) (s : SampleResult) : List String :=
  ["  " ++ s.call ++ ": " ++ s.verdict.text,
   "    reference (" ++ r.reference ++ "): " ++ s.reference.text,
   "    target (" ++ r.target ++ "): " ++ s.target.text]

/-- The lines that open a passage about a case. -/
def passageHead (label : String) (c : CaseResult) : List String :=
  ["", rule '=', label ++ ": " ++ heading c, rule '-']

/-- What is said of the types of a case that succeeded unexpectedly. -/
def successNote : String :=
  " is registered as not implemented but both backends agree on every sample"

/-- The passage about a case, empty if the case needs no attention. -/
def passage (r : Report) (c : CaseResult) : List String :=
  match c.outcome with
  | .fail => passageHead "FAIL" c ++ c.disagreements.flatMap r.sampleLines
  | .unexpectedSuccess =>
    passageHead "UNEXPECTED SUCCESS" c
      ++ ["  " ++ "_".intercalate c.types ++ successNote]
      ++ c.disagreements.flatMap r.sampleLines
  | .pass | .expectedFailure => []

/-- The counts that are not zero, in words. -/
def details (s : Summary) : List String :=
  (if 0 < s.failed then ["failures=" ++ toString s.failed] else [])
    ++ (if 0 < s.expectedFailures then
          ["expected failures=" ++ toString s.expectedFailures] else [])
    ++ (if 0 < s.unexpectedSuccesses then
          ["unexpected successes=" ++ toString s.unexpectedSuccesses] else [])

/-- The last line of the text. -/
def closingLine (s : Summary) (strict : Bool) : String :=
  let status := if s.isSuccess strict then "OK" else "FAILED"
  match details s with
  | [] => status
  | ds => status ++ " (" ++ ", ".intercalate ds ++ ")"

def textLines (r : Report) (strict : Bool) : List String :=
  r.cases.map caseLine
    ++ r.cases.flatMap r.passage
    ++ [rule '-',
        "Ran " ++ toString r.summary.total ++ " cases (" ++ r.reference ++
          " vs " ++ r.target ++ ")",
        "",
        closingLine r.summary strict]

/-- The report as text. -/
def text (r : Report) (strict : Bool) : String :=
  String.join ((r.textLines strict).map (· ++ "\n"))

/-! ## JSON -/

def sampleJson (s : SampleResult) : Json :=
  .object [
    ("call", .str s.call), ("verdict", .str s.verdict.label),
    ("reference", s.reference.toJson), ("target", s.target.toJson)]

def caseJson (c : CaseResult) : Json :=
  .object [
    ("suite", .str c.suite), ("function", .str c.function),
    ("name", .str c.name),
    ("id", .str c.id), ("types", Json.strings c.types),
    ("expected_failure", .bool c.expectedFailure),
    ("verdict", .str c.verdict.label),
    ("outcome", .str c.outcome.label),
    ("samples", .array (c.samples.map sampleJson)),
    ("duration_ms", .int c.durationMs)]

def toJson (r : Report) : Json :=
  .object [
    ("matrix_version", .int TypeMatrix.version),
    ("reference", .str r.reference),
    ("target", .str r.target), ("summary", r.summary.toJson),
    ("cases", .array (r.cases.map caseJson))]

end Report
end Concord
