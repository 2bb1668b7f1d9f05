import Concord.Json.Reader
import Concord.Yaml.Node

/-!
# Reading documents by kind

How a document in some notation is read where a text, a number, a list or a
record is expected. JSON values have to be of that kind, but a record may also
be a list of its fields in order. A YAML scalar is a text however it is written,
and a missing YAML value is an empty list or map.
-/

namespace Concord

/-- Ways to read an `α` as what is expected. -/
structure Reading (α : Type) where
  text? : α → Option String
  flag? : α → Option Bool
  /-- A whole number of at most 64 bits. -/
  number? : α → Option Nat
  items? : α → Option (List α)
  entries? : α → Option (List (String × α))
  /-- The fields that are there, of a record with the given fields. -/
  record? : (names : List String) → α → Option (List (String × α))
  /-- One of several names. -/
  choice? : α → Option String
  /-- The value is missing where it may be. -/
  isMissing : α → Bool

namespace Reading

/-- Known fields, each at most once. -/
def checkFields? {α : Type} (names : List String) (fields : List (String × α)) :
    Option (List (String × α)) :=
  let given := fields.map Prod.fst
  if given.all names.contains && given.eraseDups.length == given.length then
    some fields
  else none

/-! ## JSON -/

/-- The values of an object or array as a record. -/
def jsonRecord? (names : List String) : Json → Option (List (String × Json))
  | .object fields => checkFields? names fields
  | .array items =>
    if items.length ≤ names.length then some (names.zip items) else none
  | _ => none

/-- Reading JSON. -/
def json : Reading Json where
  text? j := match j with | .str s => some s | _ => none
  flag? j := match j with | .bool b => some b | _ => none
  number? j :=
    match j with | .int n => if 0 ≤ n then some n.toNat else none | _ => none
  items? j := match j with | .array items => some items | _ => none
  entries? j := match j with | .object fields => some fields | _ => none
  record? := jsonRecord?
  choice? j :=
    match j with
    | .str s => some s
    | .object [(name, .null)] => some name
    | _ => none
  isMissing j := match j with | .null => true | _ => false

/-! ## YAML -/

def scalarText? : Yaml.Node → Option String
  | .scalar _ text _ => some text
  | _ => none

/-- The text of a scalar that may be a number or a truth value: a plain one, or
a literal block with the standard tag for it. -/
def typedText? (tagName : String) : Yaml.Node → Option String
  | .scalar tag text style =>
    if style == .plain ||
      (style == .literal && tag == some ("tag:yaml.org,2002:" ++ tagName)) then
      some text
    else none
  | _ => none

/-- A number without a minus sign. -/
def unsigned? (text : String) : Option Nat :=
  if text.toList.head? == some '-' then none
  else
    (Yaml.Node.wholeText? text).bind fun n =>
      if Width.fitsUnsigned 64 n then some n.toNat else none

def isEmptyNode : Yaml.Node → Bool
  | .scalar _ text style => text.isEmpty && style == .plain
  | _ => false

/-- The entries of a mapping whose keys are scalars. -/
def nodeEntries? : Yaml.Node → Option (List (String × Yaml.Node))
  | .mapping _ entries => entries.mapM fun (k, v) => (scalarText? k).map (·, v)
  | n => if isEmptyNode n then some [] else none

/-- The text is empty or a spelling of null. -/
def isAbsentText (text : String) : Bool :=
  text.isEmpty || Yaml.Node.isNullText text

/-- A name: the text of a scalar, or its own tag before a missing value. -/
def nodeChoice? : Yaml.Node → Option String
  | .scalar (some tag) text style =>
    match tag.toList with
    | '!' :: name =>
      if style == .plain && isAbsentText text then
        some (if name.isEmpty then "!" else String.ofList name)
      else none
    | _ => some text
  | n => scalarText? n

/-- A missing value: an empty plain scalar, or null. -/
def isMissingNode : Yaml.Node → Bool
  | .scalar none text style => style == .plain && isAbsentText text
  | .scalar (some tag) text style =>
    style == .plain && tag == "tag:yaml.org,2002:null" &&
      Yaml.Node.isNullText text
  | _ => false

/-- Reading YAML. -/
def yaml : Reading Yaml.Node where
  text? := scalarText?
  flag? n := (typedText? "bool" n).bind Yaml.Node.boolText?
  number? n := (typedText? "int" n).bind unsigned?
  items? n :=
    match n with
    | .sequence _ items => some items
    | n => if isEmptyNode n then some [] else none
  entries? := nodeEntries?
  record? names n := (nodeEntries? n).bind (checkFields? names)
  choice? := nodeChoice?
  isMissing := isMissingNode

end Reading
end Concord
