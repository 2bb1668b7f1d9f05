import Concord.Text.Blank

/-!
# Lines and parts of text

Splitting text into lines and at a separator, and looking for one text inside
another.
-/

namespace Concord
namespace Text

def dropCarriageReturn (cs : List Char) : List Char :=
  if cs.getLast? = some '\r' then cs.dropLast else cs

/-- The lines of a text. A line ends with a line feed, which may follow a
carriage return and may be missing after the last line. -/
def lines (cs : List Char) : List (List Char) :=
  go [] cs
where
  /-- Collects lines; the line being read is kept reversed. -/
  go (line : List Char) : List Char → List (List Char)
    | [] => if line.isEmpty then [] else [line.reverse]
    | c :: rest =>
      if c = '\n' then dropCarriageReturn line.reverse :: go [] rest
      else go (c :: line) rest

/-- The parts before and after the first `separator`; the second is empty where
there is none. -/
def cutAt (separator : Char) (cs : List Char) : List Char × List Char :=
  (cs.takeWhile (· != separator), (cs.dropWhile (· != separator)).drop 1)

/-- What follows `start`, where the text begins with it. -/
def after? : (start : List Char) → List Char → Option (List Char)
  | [], cs => some cs
  | _ :: _, [] => none
  | s :: start, c :: cs => if s = c then after? start cs else none

def occursIn (part : List Char) : List Char → Bool
  | [] => part.isEmpty
  | c :: rest => (after? part (c :: rest)).isSome || occursIn part rest

/-- `occursIn` on strings. -/
def contains (whole part : String) : Bool :=
  occursIn part.toList whole.toList

/-- The text with `new` in place of every occurrence of `part`, which is not
empty; occurrences are found from the left and do not overlap. -/
def replaceAll (part new : List Char) (cs : List Char) : List Char :=
  go 0 cs
where
  /-- Leaves out the first `skip` characters, which belong to an occurrence. -/
  go : (skip : Nat) → List Char → List Char
    | _, [] => []
    | skip + 1, _ :: rest => go skip rest
    | 0, c :: rest =>
      if (after? part (c :: rest)).isSome then new ++ go (part.length - 1) rest
      else c :: go 0 rest

end Text
end Concord
