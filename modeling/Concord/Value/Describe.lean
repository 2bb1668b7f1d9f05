import Concord.Text.Printable
import Concord.Value.Literal

/-!
# Descriptions of values

A value described by its kind and its parts, for messages about values that have
no literal.
-/

namespace Concord
namespace Value

def describeNumber (x : Binary64) : String :=
  match Layout.literal.render? x, x with
  | some text, _ => String.ofList text
  | none, .infinite true => "-inf"
  | none, .infinite false => "inf"
  | none, _ => "NaN"

def bracketed (texts : List String) : String :=
  "[" ++ ", ".intercalate texts ++ "]"

def describeBytes (bs : List UInt8) : String :=
  bracketed (bs.map fun b => toString b.toNat)

mutual

/-- The description of a value. -/
def describe : Value → String
  | .null => "None"
  | .notImplemented => "NotImplemented"
  | .ellipsis => "Ellipsis"
  | .bool true => "Bool(true)"
  | .bool false => "Bool(false)"
  | .int n => "Int(" ++ String.ofList (intText n.toInt) ++ ")"
  | .float x => "Float(" ++ describeNumber x ++ ")"
  | .complex re im =>
    "Complex \x7b re: " ++ describeNumber re ++ ", im: " ++
      describeNumber im ++ " \x7d"
  | .str s => "Str(" ++ Text.quoted s ++ ")"
  | .bytes bs => "Bytes(" ++ describeBytes bs ++ ")"
  | .byteArray bs => "ByteArray(" ++ describeBytes bs ++ ")"
  | .list items => "List(" ++ bracketed (describeItems items) ++ ")"
  | .tuple items => "Tuple(" ++ bracketed (describeItems items) ++ ")"
  | .set items => "Set(" ++ bracketed (describeItems items) ++ ")"
  | .frozenSet items => "FrozenSet(" ++ bracketed (describeItems items) ++ ")"
  | .dict entries => "Dict(" ++ bracketed (describeEntries entries) ++ ")"
  | .call callee args =>
    "Call \x7b callee: " ++ Text.quoted callee ++ ", args: " ++
      bracketed (describeItems args)
      ++ " \x7d"
  | .verbatim text => "Opaque(" ++ Text.quoted text ++ ")"

def describeItems : List Value → List String
  | [] => []
  | v :: rest => describe v :: describeItems rest

def describeEntries : List (Value × Value) → List String
  | [] => []
  | (k, v) :: rest =>
    ("(" ++ describe k ++ ", " ++ describe v ++ ")") :: describeEntries rest

end

end Value
end Concord
