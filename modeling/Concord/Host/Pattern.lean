import Concord.Host.Regex

/-!
# Patterns for names

Patterns in which `*` stands for any text, `?` for one character, and brackets
for one of several. Quoted characters stand for themselves.
-/

namespace Concord
namespace Host

/-- An element of a pattern. -/
inductive PatternItem where
  | literal (c : Char)
  | one
  | many
  | oneOf (negated : Bool) (ranges : List (Char × Char))
  deriving DecidableEq

/-- A pattern. -/
abbrev Pattern := List PatternItem

namespace Pattern

/-- The bracket expression that starts an unquoted text, and what remains. -/
def bracket? (cs : List (Char × Bool)) :
    Option (PatternItem × List (Char × Bool)) :=
  let (negated, body) :=
    match cs with
    | ('!', false) :: rest | ('^', false) :: rest => (true, rest)
    | cs => (false, cs)
  match Regex.readRanges? (body.length + 1) true (body.map Prod.fst) with
  | none => none
  | some (ranges, rest) =>
    some (.oneOf negated ranges, body.drop (body.length - rest.length))

/-- The pattern of a text in which some characters are quoted. -/
def ofMarked : (fuel : Nat) → List (Char × Bool) → Pattern
  | 0, _ => []
  | _ + 1, [] => []
  | fuel + 1, (c, quoted) :: rest =>
    if quoted then .literal c :: ofMarked fuel rest
    else if c = '*' then .many :: ofMarked fuel rest
    else if c = '?' then .one :: ofMarked fuel rest
    else if c = '[' then
      match bracket? rest with
      | some (item, rest) => item :: ofMarked fuel rest
      | none => .literal c :: ofMarked fuel rest
    else .literal c :: ofMarked fuel rest

/-- The pattern stands for more than one text. -/
def isOpen (p : Pattern) : Bool :=
  p.any fun
    | .literal _ => false
    | _ => true

def accepts : Pattern → List Char → Bool
  | [], cs => cs.isEmpty
  | .many :: ps, cs =>
    accepts ps cs ||
      match cs with
      | [] => false
      | _ :: rest => accepts (.many :: ps) rest
  | .literal _ :: _, [] | .one :: _, [] | .oneOf _ _ :: _, [] => false
  | .literal c :: ps, d :: rest => c = d && accepts ps rest
  | .one :: ps, _ :: rest => accepts ps rest
  | .oneOf negated ranges :: ps, d :: rest =>
    ((ranges.any fun r => r.1 ≤ d && d ≤ r.2) != negated) && accepts ps rest
termination_by p cs => (p.length, cs.length)

/-- What remains of a text without what the pattern matches at its start; the
longest or the shortest match counts. -/
def dropStart (p : Pattern) (longest : Bool) (cs : List Char) : List Char :=
  let sizes := List.range (cs.length + 1)
  let sizes := if longest then sizes.reverse else sizes
  match sizes.find? fun (n : Nat) => p.accepts (cs.take n) with
  | some n => cs.drop n
  | none => cs

/-- What remains of a text without what the pattern matches at its end. -/
def dropEnd (p : Pattern) (longest : Bool) (cs : List Char) : List Char :=
  let sizes := List.range (cs.length + 1)
  let sizes := if longest then sizes else sizes.reverse
  match sizes.find? fun (n : Nat) => p.accepts (cs.drop n) with
  | some n => cs.take n
  | none => cs

end Pattern
end Host
end Concord
