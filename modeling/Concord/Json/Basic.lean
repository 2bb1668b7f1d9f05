import Concord.Binary64.Shortest

/-!
# JSON

JSON values and their compact and indented text. The fields of an object keep
their order.
-/

namespace Concord

namespace Layout

/-- Numbers in JSON text: positional from `0.00001` up to below `10 ^ 16`,
always with a point or an exponent. -/
def json : Layout :=
  { lowest := -5, highest := 16, plusSign := true, tie := .toEven }

end Layout

/-- A JSON value. Numbers are whole numbers or floats. -/
inductive Json where
  | null
  | bool (b : Bool)
  | int (n : Int)
  | float (x : Binary64)
  | str (s : String)
  | array (items : List Json)
  | object (fields : List (String × Json))
  deriving Inhabited

namespace Json

/-- An array of strings. -/
def strings (ss : List String) : Json :=
  .array (ss.map .str)

def twoHexDigits (n : Nat) : String :=
  let digit (d : Nat) : Char :=
    if d < 10 then Char.ofNat (48 + d) else Char.ofNat (87 + d)
  String.ofList [digit (n / 16), digit (n % 16)]

/-- A character inside a JSON string. -/
def escapedChar (c : Char) : String :=
  if c = '"' then "\\\""
  else if c = '\\' then "\\\\"
  else if c = '\n' then "\\n"
  else if c = '\r' then "\\r"
  else if c = '\t' then "\\t"
  else if c.toNat = 0x08 then "\\b"
  else if c.toNat = 0x0c then "\\f"
  else if c.toNat < 0x20 then "\\u00" ++ twoHexDigits c.toNat
  else c.toString

def quotedString (s : String) : String :=
  "\"" ++ String.join (s.toList.map escapedChar) ++ "\""

/-- A float; one that is not finite is null. -/
def floatText (x : Binary64) : String :=
  match Layout.json.render? x with
  | some text => String.ofList text
  | none => "null"

mutual

/-- The text without any white space. -/
def compact : Json → String
  | .null => "null"
  | .bool b => if b then "true" else "false"
  | .int n => toString n
  | .float x => floatText x
  | .str s => quotedString s
  | .array items => "[" ++ ",".intercalate (compactItems items) ++ "]"
  | .object fields => "\x7b" ++ ",".intercalate (compactFields fields) ++ "\x7d"

def compactItems : List Json → List String
  | [] => []
  | v :: rest => compact v :: compactItems rest

def compactFields : List (String × Json) → List String
  | [] => []
  | (name, v) :: rest =>
    (quotedString name ++ ":" ++ compact v) :: compactFields rest

end

def lineBreak (level : Nat) : String :=
  "\n" ++ String.ofList (List.replicate (2 * level) ' ')

/-- Parts between brackets, each on a line of its own one level further in. -/
def block (opening closing : String) (level : Nat) (parts : List String) :
    String :=
  if parts.isEmpty then opening ++ closing
  else
    opening ++ lineBreak (level + 1) ++
      ("," ++ lineBreak (level + 1)).intercalate parts
    ++ lineBreak level ++ closing

mutual

/-- The text with every item and field on a line of its own. -/
def indented (level : Nat) : Json → String
  | .null => "null"
  | .bool b => if b then "true" else "false"
  | .int n => toString n
  | .float x => floatText x
  | .str s => quotedString s
  | .array items => block "[" "]" level (indentedItems (level + 1) items)
  | .object fields =>
    block "\x7b" "\x7d" level (indentedFields (level + 1) fields)

def indentedItems (level : Nat) : List Json → List String
  | [] => []
  | v :: rest => indented level v :: indentedItems level rest

def indentedFields (level : Nat) : List (String × Json) → List String
  | [] => []
  | (name, v) :: rest =>
    (quotedString name ++ ": " ++ indented level v) :: indentedFields level rest

end

/-- The text with every item and field on a line of its own. -/
def pretty (v : Json) : String :=
  indented 0 v

end Json
end Concord
