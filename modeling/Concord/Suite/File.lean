import Concord.Document.Content
import Concord.FileTree
import Concord.Suite.Basic

/-!
# Suite files

A suite file holds a list of declarations, a map whose `suites` is such a list,
or one declaration; the first of these shapes that fits is taken. A declaration
is a map, or a list of its fields in order. Fields of a map that have no meaning
are ignored; those that have one come at most once.
-/

namespace Concord

namespace Content

def text? : Content → Option String
  | .str s => some s
  | _ => none

def texts? : Content → Option (List String)
  | .list items => items.mapM text?
  | _ => none

/-- A whole number from 0 to 255. -/
def byte? : Content → Option Nat
  | .int n => if 0 ≤ n && n < 256 then some n.toNat else none
  | _ => none

/-- The field that a key names: by its name, or by its place among `names`. A
key of another kind is refused; a key without a field gives nothing. -/
def fieldOfKey? (names : List String) : Content → Option (Option String)
  | .str s => some (if names.contains s then some s else none)
  | .int n => if 0 ≤ n then some names[n.toNat]? else none
  | _ => none

/-- The fields of a map, each of which may come once. -/
def fields? (names : List String) :
    List (Content × Content) → Option (List (String × Content))
  | [] => some []
  | (key, value) :: rest => do
    let field ← fieldOfKey? names key
    let fields ← fields? names rest
    match field with
    | none => some fields
    | some name =>
      if (fields.lookup name).isSome then none
      else some ((name, value) :: fields)

/-- The fields of a list, by their places. -/
def placedFields? (names : List String) (items : List Content) :
    Option (List (String × Content)) :=
  if items.length ≤ names.length then some (names.zip items) else none

end Content

namespace Declaration

def fieldNames : List String :=
  ["name", "functions", "arity", "not_implemented"]

/-- Reads a field, or takes its default. -/
def fieldOr {α : Type} (read? : Content → Option α) (default : α)
    (value : Option Content) : Option α :=
  match value with
  | none => some default
  | some c => read? c

def ofFields? (fields : List (String × Content)) : Option Declaration := do
  let name ← (← fields.lookup "name").text?
  let functions ← (← fields.lookup "functions").texts?
  let arity ← fieldOr Content.byte? 1 (fields.lookup "arity")
  let notImplemented ←
    fieldOr Content.texts? [] (fields.lookup "not_implemented")
  some { name, functions, arity, notImplemented }

def ofContent? : Content → Option Declaration
  | .map entries => (Content.fields? fieldNames entries).bind ofFields?
  | .list items => (Content.placedFields? fieldNames items).bind ofFields?
  | _ => none

def listOfContent? : Content → Option (List Declaration)
  | .list items => items.mapM ofContent?
  | _ => none

/-- The declarations under `suites`. -/
def wrappedOfContent? : Content → Option (List Declaration)
  | .map entries => do
    let fields ← Content.fields? ["suites"] entries
    listOfContent? (← fields.lookup "suites")
  | _ => none

/-- The declarations of a file. -/
def allOfContent? (c : Content) : Option (List Declaration) :=
  (listOfContent? c).or
    ((wrappedOfContent? c).or ((ofContent? c).map fun d => [d]))

end Declaration

/-- The notation of a file. -/
inductive Format where
  | yaml
  | json
  deriving DecidableEq

/-- The notation that the extension of a path stands for. -/
def Format.ofPath (path : String) : Except SetupError Format :=
  let extension := (Path.extension? path).getD ""
  if extension = "yaml" || extension = "yml" then .ok .yaml
  else if extension = "json" then .ok .json
  else .error (.unsupportedFormat extension)

def Format.content? : Format → String → Option Content
  | .yaml => Content.readYaml?
  | .json => Content.readJson?

namespace Suite

/-- The text of a file of the setup. -/
def readFile (d : Disk) (path : String) : Except SetupError String :=
  (d.readText path).mapError fun fault => .unreadable path fault.message

/-- The suites that a file declares. -/
def loadFile (d : Disk) (m : TypeMatrix) (path : String) :
    Except SetupError (List Suite) := do
  let text ← readFile d path
  let format ← Format.ofPath path
  match (format.content? text).bind Declaration.allOfContent? with
  | none => .error (.unparsable path)
  | some declarations =>
    declarations.mapM fun decl => Suite.ofDeclaration decl m (some path)

end Suite
end Concord
