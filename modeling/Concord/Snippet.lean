import Concord.Matrix.Basic
import Concord.Outcome

/-!
# Snippets

A snippet is a program of six lines that calls a function on samples and prints
one report of the result. A builder writes snippets and refuses those whose
source does not pass its check.
-/

namespace Concord

/-- A reason why no snippet can be built. -/
inductive SnippetError where
  /-- The sample, described here, has no literal. -/
  | unsupportedSample (typeName description : String)
  | invalidSource (function args : String)
  deriving DecidableEq

namespace SnippetError

def message : SnippetError → String
  | .unsupportedSample typeName description =>
    "sample of type '" ++ typeName ++ "' has no literal form: " ++ description
  | .invalidSource function args =>
    "generated snippet for " ++ function ++ "(" ++ args ++
      ") is not valid source"

end SnippetError

/-- A program that reports the result of a call. -/
structure Snippet where
  function : String
  samples : List Sample
  /-- The call, such as `bin(-5)`. -/
  call : String
  source : String

namespace Snippet

/-- The name that the snippet binds the result to. -/
def resultName : String := "__parity_result"

/-- The name that the snippet binds an exception to. -/
def errorName : String := "__parity_error"

/-- The line that prints a report with the given tag: the class of an object and
its text. -/
def reportLine (tag object text : String) : String :=
  "    print('" ++ Outcome.marker ++ tag ++ " ' + type(" ++ object ++
    ").__name__ + ' ' + "
    ++ text ++ "(" ++ object ++ ").replace('\\n', '\\\\n'))"

/-- The lines of the program that reports the result of a call. -/
def sourceLines (call : String) : List String :=
  ["try:",
   "    " ++ resultName ++ " = " ++ call,
   "except Exception as " ++ errorName ++ ":",
   reportLine "err" errorName "str",
   "else:",
   reportLine "ok" resultName "repr"]

/-- The program that reports the result of a call. -/
def sourceOf (call : String) : String :=
  String.join ((sourceLines call).map (· ++ "\n"))

end Snippet

def Sample.render (s : Sample) : Except SnippetError String :=
  match s.form with
  | .literal v =>
    match v.literal? with
    | some text => .ok text
    | none => .error (.unsupportedSample s.typeName v.describe)
  | .expression source => .ok source

/-- A builder of snippets; the check decides which sources are passed on. -/
structure SnippetBuilder where
  check : String → Bool

namespace SnippetBuilder

/-- The builder that passes on every source. -/
def unchecked : SnippetBuilder := ⟨fun _ => true⟩

/-- The snippet that calls a function on samples. -/
def build (b : SnippetBuilder) (function : String) (samples : List Sample) :
    Except SnippetError Snippet := do
  let texts ← samples.mapM Sample.render
  let args := ", ".intercalate texts
  let call := function ++ "(" ++ args ++ ")"
  let source := Snippet.sourceOf call
  if b.check source then
    .ok
      { function := function
        samples := samples
        call := call
        source := source }
  else .error (.invalidSource function args)

/-- The function that probes call. -/
def probeFunction : String := "repr"

/-- Builds a probe for each of the samples; `checked` were counted before. -/
def probeSamples (b : SnippetBuilder) (checked : Nat) (samples : List Sample) :
    Except SnippetError Nat :=
  samples.foldlM
    (fun checked s => (b.build probeFunction [s]).map fun _ => checked + 1)
    checked

/-- Builds a probe for each sample of a type. -/
def probeType (b : SnippetBuilder) (m : TypeMatrix) (checked : Nat)
    (typeName : String) : Except SnippetError Nat :=
  match m.samples? typeName with
  | some samples => b.probeSamples checked samples
  | none => .error (.unsupportedSample typeName "<missing>")

/-- Builds a probe for every sample of the matrix, type by type, and counts
them. -/
def probe (b : SnippetBuilder) (m : TypeMatrix) : Except SnippetError Nat :=
  m.typeNames.foldlM (b.probeType m) 0

end SnippetBuilder
end Concord
