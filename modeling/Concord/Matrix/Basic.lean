import Concord.Value.Describe
import Concord.Value.Json

/-!
# Samples and the type matrix

A matrix lists sample values for each of a number of named types, in the order
in which the types were last declared. A sample is a value with a literal or an
expression that constructs it.
-/

namespace Concord

/-- How a sample is written in a program. -/
inductive SampleForm where
  | literal (v : Value)
  | expression (source : String)
  deriving Inhabited

/-- A sample of a named type. -/
structure Sample where
  typeName : String
  form : SampleForm
  deriving Inhabited

namespace Sample

/-- A sample written by its literal. -/
def ofValue (typeName : String) (v : Value) : Sample :=
  { typeName := typeName, form := .literal v }

/-- A sample written as an expression. -/
def ofExpression (typeName source : String) : Sample :=
  { typeName := typeName, form := .expression source }

def toJson (s : Sample) : Json :=
  let form := match s.form with
    | .literal v => Json.object [("form", .str "literal"), ("value", v.toJson)]
    | .expression source =>
      Json.object [("form", .str "expr"), ("value", .str source)]
  .object [("type_name", .str s.typeName), ("value", form)]

end Sample

/-- The samples of each type, in order of declaration. -/
structure TypeMatrix where
  entries : List (String × List Sample) := []
  deriving Inhabited

namespace TypeMatrix

def empty : TypeMatrix := {}

/-- Declares the samples of a type. A type that was declared before moves to the
end. -/
def declare (m : TypeMatrix) (typeName : String) (samples : List Sample) :
    TypeMatrix :=
  { entries :=
      m.entries.filter (fun e => e.1 ≠ typeName) ++ [(typeName, samples)] }

def ofDeclarations (declarations : List (String × List Sample)) : TypeMatrix :=
  declarations.foldl (fun m d => m.declare d.1 d.2) empty

/-- The names of the types in order. -/
def typeNames (m : TypeMatrix) : List String :=
  m.entries.map Prod.fst

def size (m : TypeMatrix) : Nat :=
  m.entries.length

/-- The type was declared. -/
def contains (m : TypeMatrix) (typeName : String) : Bool :=
  m.entries.any fun e => e.1 = typeName

/-- The samples of a type, if it was declared. -/
def samples? (m : TypeMatrix) (typeName : String) : Option (List Sample) :=
  (m.entries.find? fun e => e.1 = typeName).map Prod.snd

/-- The version of the built-in matrix. -/
def version : Nat := 1

end TypeMatrix
end Concord
