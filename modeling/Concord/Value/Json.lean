import Concord.Json.Basic
import Concord.Value.Basic

/-!
# Values in JSON

A value is an object with its kind and, unless the kind says all, its content.
-/

namespace Concord
namespace Value

/-- An object with a kind and a content. -/
def taggedJson (kind : String) (content : Json) : Json :=
  .object [("kind", .str kind), ("value", content)]

def bytesJson (bs : List UInt8) : Json :=
  .array (bs.map fun b => .int b.toNat)

mutual

def toJson : Value → Json
  | .null => .object [("kind", .str "none")]
  | .notImplemented => .object [("kind", .str "not_implemented")]
  | .ellipsis => .object [("kind", .str "ellipsis")]
  | .bool b => taggedJson "bool" (.bool b)
  | .int n => taggedJson "int" (.int n.toInt)
  | .float x => taggedJson "float" (.float x)
  | .complex re im =>
    taggedJson "complex" (.object [("re", .float re), ("im", .float im)])
  | .str s => taggedJson "str" (.str s)
  | .bytes bs => taggedJson "bytes" (bytesJson bs)
  | .byteArray bs => taggedJson "byte_array" (bytesJson bs)
  | .list items => taggedJson "list" (.array (itemsToJson items))
  | .tuple items => taggedJson "tuple" (.array (itemsToJson items))
  | .set items => taggedJson "set" (.array (itemsToJson items))
  | .frozenSet items => taggedJson "frozen_set" (.array (itemsToJson items))
  | .dict entries => taggedJson "dict" (.array (entriesToJson entries))
  | .call callee args =>
    taggedJson "call"
      (.object [("callee", .str callee), ("args", .array (itemsToJson args))])
  | .verbatim text => taggedJson "opaque" (.str text)

def itemsToJson : List Value → List Json
  | [] => []
  | v :: rest => toJson v :: itemsToJson rest

/-- Dictionary entries in JSON, each as an array of two. -/
def entriesToJson : List (Value × Value) → List Json
  | [] => []
  | (k, v) :: rest => .array [toJson k, toJson v] :: entriesToJson rest

end

end Value
end Concord
