import Concord.Json.Basic
import Concord.Text.Lines
import Concord.Value.Reader

/-!
# Outcomes

What a backend left behind is read as an outcome: a printed value, or a failure.
A snippet reports on a line of its own that starts with a marker; the last such
line counts, whatever else was printed.
-/

namespace Concord

/-- What one execution of a backend left behind. -/
structure Transcript where
  /-- None when a signal ended the process. -/
  exitCode : Option Int := none
  status : String := ""
  stdout : String := ""
  stderr : String := ""
  timedOut : Bool := false
  elapsedMs : Nat := 0
  deriving DecidableEq, Inhabited

/-- A transcript that ended normally after printing a text. -/
def Transcript.completed (stdout : String) : Transcript :=
  { exitCode := some 0, status := "exit status: 0", stdout := stdout }

/-- The ways in which an execution fails. -/
inductive FailureKind where
  | syntaxError
  /-- An exception of the named class escaped. -/
  | raised (exception : String)
  | crash
  | timeout
  deriving DecidableEq

namespace FailureKind

def text : FailureKind → String
  | .syntaxError => "syntax error"
  | .raised exception => "raised " ++ exception
  | .crash => "crash"
  | .timeout => "timeout"

def toJson : FailureKind → Json
  | .syntaxError => .object [("kind", .str "syntax")]
  | .raised exception =>
    .object [("kind", .str "raised"), ("exception", .str exception)]
  | .crash => .object [("kind", .str "crash")]
  | .timeout => .object [("kind", .str "timeout")]

end FailureKind

/-- The outcome of an execution. -/
inductive Outcome where
  /-- A value of the named type, as it was printed. -/
  | value (typeName printed : String)
  | failure (kind : FailureKind) (message : String)
  deriving DecidableEq

namespace Outcome

/-- The start of a line that reports an outcome. -/
def marker : String := "@@parity:"

/-- How many lines of error output are quoted. -/
def tailLength : Nat := 5

/-- The last lines of error output that are not blank, joined by bars. -/
def errorTail (stderr : String) : String :=
  let kept := (Text.lines stderr.toList).filter fun line =>
    !(Text.trimBlanks line).isEmpty
  " | ".intercalate ((kept.drop (kept.length - tailLength)).map String.ofList)

/-- Reads a report without its marker: a tag, a name and a payload, separated by
single spaces. -/
def ofReport (report : List Char) : Outcome :=
  let (tag, rest) := Text.cutAt ' ' report
  let (name, payload) := Text.cutAt ' ' rest
  if tag = "ok".toList && !name.isEmpty then
    .value (String.ofList name) (String.ofList payload)
  else if tag = "err".toList && !name.isEmpty then
    .failure (.raised (String.ofList name)) (String.ofList payload)
  else
    .failure .crash
      ("malformed outcome line: " ++ marker ++ String.ofList report)

/-- The last report in a text, without its marker and without white space at its
end. -/
def lastReport? (stdout : List Char) : Option (List Char) :=
  (Text.lines stdout).reverse.findSome? fun line =>
    Text.after? marker.toList (Text.dropTrailingBlanks line)

/-- The outcome that a transcript without a report shows. -/
def unreported (t : Transcript) : Outcome :=
  let tail := errorTail t.stderr
  if Text.contains t.stderr "SyntaxError" then .failure .syntaxError tail
  else
    let detail :=
      if t.exitCode = some 0 then "exited without reporting an outcome"
      else t.status
    .failure .crash (if tail.isEmpty then detail else detail ++ ": " ++ tail)

/-- The outcome that a transcript shows. -/
def ofTranscript (t : Transcript) : Outcome :=
  if t.timedOut then
    .failure .timeout ("no result after " ++ toString t.elapsedMs ++ "ms")
  else
    match lastReport? t.stdout.toList with
    | some report => ofReport report
    | none => unreported t

/-- The value that was printed. -/
def value? : Outcome → Option Value
  | .value _ printed => some (Value.read printed)
  | .failure .. => none

/-- The text that was printed for a value. -/
def printed? : Outcome → Option String
  | .value _ printed => some printed
  | .failure .. => none

def failureKind? : Outcome → Option FailureKind
  | .value .. => none
  | .failure kind _ => some kind

def isFailure (o : Outcome) : Bool :=
  o.failureKind?.isSome

def isTimeout (o : Outcome) : Bool :=
  o.failureKind? = some .timeout

def text : Outcome → String
  | .value typeName printed => typeName ++ " " ++ printed
  | .failure kind message =>
    if message.isEmpty then kind.text else kind.text ++ ": " ++ message

def toJson : Outcome → Json
  | .value typeName printed =>
    .object [("status", .str "value"), ("type_name", .str typeName),
      ("repr", .str printed)]
  | .failure kind message =>
    .object [("status", .str "failure"), ("kind", kind.toJson),
      ("message", .str message)]

end Outcome
end Concord
