import Concord.Config.Basic
import Concord.Document.Reading
import Concord.Suite.File

/-!
# Configuration files

A configuration is read from YAML or JSON, by the extension of its file. Fields
without a meaning and fields given twice are refused. Relative paths of suites
are taken from the directory of the file.
-/

namespace Concord

namespace SnippetInput

def ofName? (name : String) : Option SnippetInput :=
  if name = "file" then some .file
  else if name = "stdin" then some .stdin else none

end SnippetInput

namespace CommandBackend

def fieldNames : List String :=
  ["name", "command", "args", "input", "env"]

/-- Sets a variable among others in order of their names. -/
def setVariable (name value : String) :
    List (String × String) → List (String × String)
  | [] => [(name, value)]
  | (n, v) :: rest =>
    if name = n then (name, value) :: rest
    else if name < n then (name, value) :: (n, v) :: rest
    else (n, v) :: setVariable name value rest

/-- Reads a field, or takes its default where it is not given. -/
def fieldOr {α β : Type} (fields : List (String × α)) (name : String)
    (default : β) (read? : α → Option β) : Option β :=
  match fields.lookup name with
  | none => some default
  | some a => read? a

def texts? {α : Type} (r : Reading α) (a : α) : Option (List String) :=
  (r.items? a).bind fun items => items.mapM r.text?

/-- Reads variables; the last value of a name counts. -/
def variables? {α : Type} (r : Reading α) (a : α) :
    Option (List (String × String)) := do
  let entries ← r.entries? a
  let texts ← entries.mapM fun (name, v) => (r.text? v).map (name, ·)
  some (texts.foldl (fun env (name, value) => setVariable name value env) [])

/-- Reads a backend. -/
def read? {α : Type} (r : Reading α) (a : α) : Option CommandBackend := do
  let fields ← r.record? fieldNames a
  let name ← (fields.lookup "name").bind r.text?
  let command ← (fields.lookup "command").bind r.text?
  let args ← fieldOr fields "args" [] (texts? r)
  let input ← fieldOr fields "input" .file fun a =>
    (r.choice? a).bind SnippetInput.ofName?
  let env ← fieldOr fields "env" [] (variables? r)
  some { name, command, args, input, env }

end CommandBackend

namespace Config

def fieldNames : List String :=
  ["reference", "target", "timeout_ms", "jobs", "retry_timeouts",
    "fail_on_unexpected_success", "suites"]

/-- Reads a configuration. -/
def read? {α : Type} (r : Reading α) (a : α) : Option Config := do
  let default : Config := {}
  let fields ← r.record? fieldNames a
  let field {β : Type} := @CommandBackend.fieldOr α β fields
  let reference ← field "reference" default.reference (CommandBackend.read? r)
  let target ← field "target" none fun a =>
    if r.isMissing a then some none else (CommandBackend.read? r a).map some
  let timeoutMs ← field "timeout_ms" default.timeoutMs r.number?
  let jobs ← field "jobs" default.jobs r.number?
  let retryTimeouts ← field "retry_timeouts" true r.flag?
  let failOnUnexpectedSuccess ← field "fail_on_unexpected_success" true r.flag?
  let suites ← field "suites" [] (CommandBackend.texts? r)
  some
    { reference, target, timeoutMs, jobs, retryTimeouts,
      failOnUnexpectedSuccess, suites }

/-- The configuration in a YAML text; a text without a document gives the
defaults. -/
def readYaml? (text : String) : Option Config :=
  if (Text.trimBlanks text.toList).isEmpty then some {}
  else
    match Yaml.Node.read? text with
    | none => none
    | some none => some {}
    | some (some root) => read? Reading.yaml root

def readJson? (text : String) : Option Config :=
  (Json.read? text).bind (read? Reading.json)

def ofText? : Format → String → Option Config
  | .yaml => readYaml?
  | .json => readJson?

/-- The configuration with the paths of its suites taken from the directory of
its file. -/
def relocate (c : Config) (path : String) : Config :=
  match Path.parent? path with
  | none => c
  | some base => { c with suites := c.suites.map (Path.join base) }

/-- The configuration in a file. -/
def load (d : Disk) (path : String) : Except SetupError Config := do
  let text ← Suite.readFile d path
  let format ← Format.ofPath path
  match ofText? format text with
  | none => .error (.unparsable path)
  | some c => .ok (c.relocate path)

end Config
end Concord
