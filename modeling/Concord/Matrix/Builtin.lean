import Concord.Matrix.Basic

/-!
# The built-in matrix

Samples of sixteen types, chosen for edge behaviour: zero and negative numbers,
signed zeros, and empty containers.
-/

namespace Concord
namespace TypeMatrix

/-- The float nearest to a decimal with the given coefficient and exponent. -/
def decimalFloat (negative : Bool) (coefficient : Nat) (exponent : Int) :
    Binary64 :=
  (Decimal.mk coefficient exponent).toBinary64 negative

def asciiBytes (s : String) : List UInt8 :=
  s.toList.map fun c => UInt8.ofNat c.toNat

def builtin : TypeMatrix :=
  let literals (name : String) (vs : List Value) :=
    (name, vs.map (Sample.ofValue name))
  let expressions (name : String) (sources : List String) :=
    (name, sources.map (Sample.ofExpression name))
  let text (s : String) : Value := .str s
  let whole (n : Int) : Value := .int (Int64.ofInt n)
  let fraction : Value := .float (decimalFloat false 23456 (-4))
  ofDeclarations [
      literals "bool" [.bool true, .bool false],
      expressions "bytearray" ["bytearray()", "bytearray(1)",
        "bytearray([1, 2, 3])"],
      literals "bytes"
        [.bytes [], .bytes (asciiBytes "This is another string of bytes")],
      literals "complex" [
        .complex Binary64.zero (Binary64.ofInt 1),
        .complex (Binary64.ofInt 1) (Binary64.ofInt 2),
        .complex Binary64.zero (Binary64.ofInt (-5))],
      literals "dict" [
        .dict [],
        .dict [(text "a", whole 1), (text "c", fraction),
          (text "d", text "another")]],
      literals "float" [
        fraction, .float Binary64.zero, .float (decimalFloat true 314159 (-5)),
        .float Binary64.negZero],
      expressions "frozenset"
        ["frozenset()", "frozenset(\x7b1, 2.3456, 'another'\x7d)"],
      literals "int" [whole 3, whole 0, whole (-5)],
      literals "list" [.list [], .list [whole 3, whole 4, whole 5]],
      literals "None" [.null],
      literals "NotImplemented" [.notImplemented],
      expressions "range" ["range(0)", "range(5)", "range(2, 7, 2)"],
      ("set", [
        Sample.ofExpression "set" "set()",
        Sample.ofValue "set" (.set [whole 1, fraction, text "another"])]),
      expressions "slice" ["slice(0)", "slice(1, 5, 2)"],
      literals "str" [text "", text "This is another string"],
      literals "tuple" [.tuple [], .tuple [whole 1, whole 2]]]

end TypeMatrix
end Concord
