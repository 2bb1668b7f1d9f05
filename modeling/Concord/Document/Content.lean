import Concord.Json.Reader
import Concord.Numeral
import Concord.Yaml.Node

/-!
# The content of a document

What a JSON or YAML document says, without its notation. In YAML a plain scalar
is a missing value, a truth value, a number or text by its spelling; a standard
tag can ask for one of these; other tags have no content.
-/

namespace Concord

/-- The content of a document. -/
inductive Content where
  | null
  | bool (b : Bool)
  | int (n : Int)
  | float
  | str (s : String)
  | list (items : List Content)
  | map (entries : List (Content × Content))
  deriving Inhabited

namespace Content

/-! ## JSON -/

mutual

def ofJson : Json → Content
  | .null => .null
  | .bool b => .bool b
  | .int n => .int n
  | .float _ => .float
  | .str s => .str s
  | .array items => .list (ofJsonItems items)
  | .object fields => .map (ofJsonFields fields)

def ofJsonItems : List Json → List Content
  | [] => []
  | j :: rest => ofJson j :: ofJsonItems rest

def ofJsonFields : List (String × Json) → List (Content × Content)
  | [] => []
  | (name, j) :: rest => (.str name, ofJson j) :: ofJsonFields rest

end

/-! ## YAML -/

/-- The start of the standard tags. -/
def standardTag (name : String) : String :=
  "tag:yaml.org,2002:" ++ name

/-- A tag of the document's own. -/
def isLocalTag (tag : Option String) : Bool :=
  tag.any fun t => t.toList.head? == some '!'

/-- A whole number as content: 64 bits are a number, up to 128 bits have no
content, and `beyond` takes the larger ones. -/
def ofWhole? (n : Int) (beyond : Option Content) : Option Content :=
  if Width.fitsSigned 64 n || Width.fitsUnsigned 64 n then some (.int n)
  else if Width.fitsSigned 128 n || Width.fitsUnsigned 128 n then none
  else beyond

def ofPlain? (text : String) : Option Content :=
  let otherwise : Content :=
    if !Yaml.Node.hasLeadingZero text.toList && Yaml.Node.isFloatText text then
      .float
    else .str text
  if text.isEmpty || Yaml.Node.isNullText text then some .null
  else
    match Yaml.Node.boolText? text, Yaml.Node.wholeText? text with
    | some b, _ => some (.bool b)
    | none, some n => ofWhole? n (some otherwise)
    | none, none => some otherwise

def ofScalar? (tag : Option String) (text : String) (style : Yaml.ScalarStyle) :
    Option Content :=
  if isLocalTag tag then none
  else if tag == some (standardTag "bool") then
    (Yaml.Node.boolText? text).map .bool
  else if tag == some (standardTag "int") then
    (Yaml.Node.wholeText? text).bind fun n => ofWhole? n none
  else if tag == some (standardTag "float") then
    if Yaml.Node.isFloatText text then some .float else none
  else if tag == some (standardTag "null") then
    if Yaml.Node.isNullText text then some .null else none
  else if tag.isNone && style == .plain then ofPlain? text
  else some (.str text)

mutual

def ofNode? : Yaml.Node → Option Content
  | .scalar tag text style => ofScalar? tag text style
  | .sequence tag items =>
    if isLocalTag tag then none else (ofItems? items).map .list
  | .mapping tag entries =>
    if isLocalTag tag then none else (ofEntries? entries).map .map

def ofItems? : List Yaml.Node → Option (List Content)
  | [] => some []
  | n :: rest => do
    let c ← ofNode? n
    let cs ← ofItems? rest
    some (c :: cs)

def ofEntries? :
    List (Yaml.Node × Yaml.Node) → Option (List (Content × Content))
  | [] => some []
  | (k, v) :: rest => do
    let key ← ofNode? k
    let value ← ofNode? v
    let es ← ofEntries? rest
    some ((key, value) :: es)

end

/-! ## Reading -/

def readJson? (text : String) : Option Content :=
  (Json.read? text).map ofJson

/-- The content of a YAML text; a text without a document has the content
null. -/
def readYaml? (text : String) : Option Content := do
  match ← Yaml.Node.read? text with
  | none => some .null
  | some root => ofNode? root

end Content
end Concord
