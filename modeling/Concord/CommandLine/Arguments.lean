import Concord.Binary64.Decimal
import Concord.Config.File
import Concord.Numeral

/-!
# Arguments

The options of the program and what a list of arguments says about them. Long
options take their value as `--name value` or `--name=value`, short ones as
`-n value`, `-nvalue` or `-n=value`, and short options without a value may stand
together. An option is given at most once, except that paths of suites add up
and that verbosity is counted.

A value that follows its option in the next argument is looked at when the next
option begins, or at the end; an unknown argument in between is reported first.
-/

namespace Concord

/-- How a report is written. -/
inductive OutputFormat where
  | text
  | json
  deriving DecidableEq, Inhabited

/-- How much is told about a run besides its report. -/
inductive Verbosity where
  | quiet
  | normal
  | verbose
  | debug
  | trace
  deriving DecidableEq, Inhabited

/-- The verbosity that is asked for; quiet wins. -/
def Verbosity.ofFlags (verbose : Nat) (quiet : Bool) : Verbosity :=
  if quiet then .quiet
  else
    match verbose with
    | 0 => .normal
    | 1 => .verbose
    | 2 => .debug
    | _ => .trace

/-- What the arguments say. -/
structure Arguments where
  config : Option String := none
  suites : List String := []
  reference : Option String := none
  target : Option String := none
  timeoutMs : Option Nat := none
  jobs : Option Nat := none
  filter : Option String := none
  list : Bool := false
  outputFile : Option String := none
  format : OutputFormat := .text
  allowUnexpectedSuccess : Bool := false
  verbose : Nat := 0
  quiet : Bool := false
  deriving DecidableEq, Inhabited

/-- Why arguments cannot be understood; asking for help also ends the
reading. -/
inductive UsageError where
  | unknownArgument
  | invalidValue
  | valueValidation
  | argumentConflict
  | tooManyValues
  | helpRequested
  deriving DecidableEq

def UsageError.exitCode : UsageError → Nat
  | .helpRequested => 0
  | _ => 2

namespace Arguments

/-- An option of the program. -/
inductive Flag where
  | config
  | suites
  | reference
  | target
  | timeoutMs
  | jobs
  | filter
  | list
  | outputFile
  | format
  | allowUnexpectedSuccess
  | verbose
  | quiet
  | help
  deriving DecidableEq

namespace Flag

def longNames : List (String × Flag) :=
  [("config", .config), ("suites", .suites), ("reference", .reference),
    ("target", .target), ("timeout-ms", .timeoutMs), ("jobs", .jobs),
    ("filter", .filter), ("list", .list), ("output-file", .outputFile),
    ("format", .format), ("allow-unexpected-success", .allowUnexpectedSuccess),
    ("verbose", .verbose), ("quiet", .quiet), ("help", .help)]

def shortNames : List (Char × Flag) :=
  [('j', .jobs), ('O', .outputFile), ('f', .format), ('v', .verbose),
    ('q', .quiet), ('h', .help)]

def takesValue : Flag → Bool
  | .list | .allowUnexpectedSuccess | .verbose | .quiet | .help => false
  | _ => true

/-- The option may be given more than once. -/
def repeats : Flag → Bool
  | .suites | .verbose => true
  | _ => false

end Flag

/-! ## Values -/

/-- A path, which is not empty. -/
def path (value : String) : Except UsageError String :=
  if value.isEmpty then .error .invalidValue else .ok value

/-- A decimal number of at most 64 bits, with or without a plus sign. -/
def number (value : String) : Except UsageError Nat :=
  let digits :=
    match value.toList with
    | '+' :: rest => rest
    | cs => cs
  if digits.isEmpty || !digits.all Char.isDigit then .error .valueValidation
  else
    let n := Decimal.ofDigits digits
    if Width.fitsUnsigned 64 n then .ok n else .error .valueValidation

def outputFormat (value : String) : Except UsageError OutputFormat :=
  if value = "text" then .ok .text
  else if value = "json" then .ok .json
  else .error .invalidValue

def setValue (a : Arguments) (flag : Flag) (value : String) :
    Except UsageError Arguments :=
  match flag with
  | .config => (path value).map fun p => { a with config := some p }
  | .suites => (path value).map fun p => { a with suites := a.suites ++ [p] }
  | .reference => .ok { a with reference := some value }
  | .target => .ok { a with target := some value }
  | .timeoutMs => (number value).map fun n => { a with timeoutMs := some n }
  | .jobs => (number value).map fun n => { a with jobs := some n }
  | .filter => .ok { a with filter := some value }
  | .outputFile => (path value).map fun p => { a with outputFile := some p }
  | .format => (outputFormat value).map fun f => { a with format := f }
  | _ => .ok a

def setFlag (a : Arguments) (flag : Flag) : Except UsageError Arguments :=
  match flag with
  | .list => .ok { a with list := true }
  | .allowUnexpectedSuccess => .ok { a with allowUnexpectedSuccess := true }
  | .verbose => .ok { a with verbose := min 255 (a.verbose + 1) }
  | .quiet => .ok { a with quiet := true }
  | .help => .error .helpRequested
  | _ => .ok a

/-! ## Reading -/

/-- What was read so far. -/
structure Progress where
  args : Arguments := {}
  /-- The options given so far. -/
  given : List Flag := []
  /-- An option whose value, if it has come, was not looked at yet. -/
  pending : Option (Flag × Option String) := none

namespace Progress

/-- Notes that an option is given. -/
def note (p : Progress) (flag : Flag) : Except UsageError Progress :=
  if p.given.contains flag && !flag.repeats then .error .argumentConflict
  else .ok { p with given := flag :: p.given }

/-- Gives an option its value. -/
def assign (p : Progress) (flag : Flag) (value : String) :
    Except UsageError Progress := do
  let p ← p.note flag
  let args ← p.args.setValue flag value
  .ok { p with args := args }

/-- Looks at the value of the pending option, which has to have come. -/
def settle (p : Progress) : Except UsageError Progress :=
  match p.pending with
  | none => .ok p
  | some (_, none) => .error .invalidValue
  | some (flag, some value) => { p with pending := none }.assign flag value

/-- Reads an option without a value. -/
def raise (p : Progress) (flag : Flag) : Except UsageError Progress := do
  let p ← p.settle
  let p ← p.note flag
  let args ← p.args.setFlag flag
  .ok { p with args := args }

/-- Reads an option with a value, which is attached or comes next. -/
def expect (p : Progress) (flag : Flag) (attached : Option String) :
    Except UsageError Progress := do
  let p ← p.settle
  match attached with
  | some value => p.assign flag value
  | none => .ok { p with pending := some (flag, none) }

/-- Reads a long option, without its dashes. -/
def long (p : Progress) (text : List Char) : Except UsageError Progress :=
  let name := text.takeWhile (· != '=')
  let value : Option String :=
    match text.dropWhile (· != '=') with
    | [] => none
    | _ :: rest => some (String.ofList rest)
  match Flag.longNames.lookup (String.ofList name) with
  | none => .error .unknownArgument
  | some flag =>
    if flag.takesValue then p.expect flag value
    else if value.isSome then .error .tooManyValues
    else p.raise flag

/-- Reads short options, without their dash. -/
def short (p : Progress) : List Char → Except UsageError Progress
  | [] => .ok p
  | c :: rest =>
    match Flag.shortNames.lookup c with
    | none => .error .unknownArgument
    | some flag =>
      if flag.takesValue then
        match rest with
        | [] => p.expect flag none
        | '=' :: value => p.expect flag (some (String.ofList value))
        | value => p.expect flag (some (String.ofList value))
      else do
        let p ← p.raise flag
        p.short rest

/-- Reads an argument that is no option: it can only be the value of the option
before it. -/
def word (p : Progress) (text : String) : Except UsageError Progress :=
  match p.pending with
  | some (flag, none) => .ok { p with pending := some (flag, some text) }
  | _ => .error .unknownArgument

/-- Reads the arguments one after another. After two dashes nothing may
follow. -/
def all (p : Progress) : List String → Except UsageError Progress
  | [] => p.settle
  | text :: rest =>
    match text.toList with
    | ['-', '-'] => if rest.isEmpty then p.settle else .error .unknownArgument
    | '-' :: '-' :: name => do
      let p ← p.long name
      p.all rest
    | '-' :: c :: cs => do
      let p ← p.short (c :: cs)
      p.all rest
    | _ => do
      let p ← p.word text
      p.all rest

end Progress

/-- What a list of arguments says. -/
def read (argv : List String) : Except UsageError Arguments :=
  (Progress.all {} argv).map Progress.args

/-! ## Checking -/

/-- Why understood arguments cannot be used. -/
inductive Problem where
  | missingPath (path : String)
  | oddPath (path : String)
  | zeroJobs
  | zeroTimeout
  | nothingToRun
  deriving DecidableEq

def Problem.message : Problem → String
  | .missingPath path => "Path does not exist: " ++ path
  | .oddPath path => "Path is neither a file nor a directory: " ++ path
  | .zeroJobs => "--jobs must be at least 1"
  | .zeroTimeout => "--timeout-ms must be positive"
  | .nothingToRun => "Nothing to run: pass --config or --suites"

/-- A file or directory stands at the path. -/
def checkPath (d : Disk) (path : String) : Except Problem Unit :=
  match d.find? path with
  | none => .error (.missingPath path)
  | some t =>
    if t.isFile || t.isDirectory then .ok () else .error (.oddPath path)

/-- The paths exist, the limits are positive and there is something to run. -/
def validate (a : Arguments) (d : Disk) : Except Problem Unit := do
  (a.config.toList ++ a.suites).forM (checkPath d)
  if a.jobs = some 0 then .error .zeroJobs
  else if a.timeoutMs = some 0 then .error .zeroTimeout
  else if a.config.isNone && a.suites.isEmpty then .error .nothingToRun
  else .ok ()

/-! ## Configuration -/

/-- Why there is no configuration. -/
inductive ConfigProblem where
  | load (path : String) (error : SetupError)
  | override (error : SetupError)
  deriving DecidableEq

def ConfigProblem.message : ConfigProblem → String
  | .load path error => "Cannot load config: " ++ path ++ ": " ++ error.message
  | .override error => error.message

/-- The configuration with what the arguments say put over it. -/
def overrideConfig (a : Arguments) (c : Config) : Except SetupError Config := do
  let reference ← match a.reference with
    | none => .ok c.reference
    | some line => CommandBackend.ofCommandLine "reference" line
  let target ← match a.target with
    | none => .ok c.target
    | some line => (CommandBackend.ofCommandLine "target" line).map some
  .ok { c with
    reference := reference
    target := target
    timeoutMs := a.timeoutMs.getD c.timeoutMs
    jobs := a.jobs.getD c.jobs
    suites := if a.suites.isEmpty then c.suites else a.suites
    failOnUnexpectedSuccess :=
      c.failOnUnexpectedSuccess && !a.allowUnexpectedSuccess }

/-- The configuration of a run. -/
def resolve (a : Arguments) (d : Disk) : Except ConfigProblem Config := do
  let c ← match a.config with
    | none => .ok {}
    | some path => (Config.load d path).mapError (.load path)
  (a.overrideConfig c).mapError .override

end Arguments
end Concord
