import Concord.Text.Lines

/-!
# Regular expressions

Basic and extended regular expressions on single lines. A match is described by
the places at which it can end; the basic notation also knows `\?`, `\+` and
`\|`.
-/

namespace Concord
namespace Host

/-- A regular expression. -/
inductive Regex where
  | nothing
  | any
  | char (c : Char)
  | oneOf (negated : Bool) (ranges : List (Char × Char))
  | lineStart
  | lineEnd
  | seq (a b : Regex)
  | either (a b : Regex)
  | many (a : Regex)
  deriving Inhabited

namespace Regex

/-- A place in a line: whether it is the start, and what follows. -/
abbrev Place := Bool × List Char

/-- The places reachable by repeated steps, each of which consumes something. -/
def closure (step : Place → List Place) : (fuel : Nat) → Place → List Place
  | 0, p => [p]
  | fuel + 1, p =>
    p :: ((step p).filter fun q => q.2.length < p.2.length).flatMap
      (closure step fuel)

/-- The places at which a match from a place can end. -/
def ends : Regex → Place → List Place
  | .nothing, p => [p]
  | .any, (_, _ :: rest) => [(false, rest)]
  | .any, (_, []) => []
  | .char c, (_, d :: rest) => if c = d then [(false, rest)] else []
  | .char _, (_, []) => []
  | .oneOf negated ranges, (_, d :: rest) =>
    if (ranges.any fun r => r.1 ≤ d && d ≤ r.2) != negated then [(false, rest)]
    else []
  | .oneOf _ _, (_, []) => []
  | .lineStart, p => if p.1 then [p] else []
  | .lineEnd, p => if p.2.isEmpty then [p] else []
  | .seq a b, p => (ends a p).flatMap (ends b)
  | .either a b, p => ends a p ++ ends b p
  | .many a, p => closure (ends a) p.2.length p

/-- The longest match at a place: what follows it. -/
def longest? (r : Regex) (p : Place) : Option (List Char) :=
  (r.ends p).foldl (fun best q =>
    match best with
    | none => some q.2
    | some rest => if q.2.length < rest.length then some q.2 else best) none

/-- The expression matches somewhere in the rest of a line. -/
def matchesFrom (r : Regex) : (atStart : Bool) → List Char → Bool
  | atStart, [] => !(r.ends (atStart, [])).isEmpty
  | atStart, c :: rest =>
    !(r.ends (atStart, c :: rest)).isEmpty || matchesFrom r false rest

/-- The expression matches somewhere in a line. -/
def occursIn (r : Regex) (line : List Char) : Bool :=
  r.matchesFrom true line

/-- An expression between `low` and `high` times, or at least `low` times. -/
def times (a : Regex) (low : Nat) : (high : Option Nat) → Regex
  | none => (List.replicate low a).foldr .seq (.many a)
  | some high =>
    let optional :=
      (List.range (high - low)).foldl
        (fun r _ => .either (.seq a r) .nothing) .nothing
    (List.replicate low a).foldr .seq optional

/-! ## Reading -/

/-- The ranges of a class such as `digit`. -/
def classRanges (name : String) : List (Char × Char) :=
  if name = "digit" then [('0', '9')]
  else if name = "alpha" then [('a', 'z'), ('A', 'Z')]
  else if name = "alnum" then [('a', 'z'), ('A', 'Z'), ('0', '9')]
  else if name = "upper" then [('A', 'Z')]
  else if name = "lower" then [('a', 'z')]
  else if name = "space" then [('\t', '\r'), (' ', ' ')]
  else if name = "blank" then [('\t', '\t'), (' ', ' ')]
  else if name = "punct" then
    [('!', '/'), (':', '@'), ('[', Char.ofNat 0x60), ('{', '~')]
  else if name = "xdigit" then [('0', '9'), ('a', 'f'), ('A', 'F')]
  else if name = "print" then [(' ', '~')]
  else []

/-- Reads the ranges of a bracket expression up to its end. A closing bracket
that comes first is one of the characters. -/
def readRanges? :
    (fuel : Nat) → (first : Bool) → List Char →
      Option (List (Char × Char) × List Char)
  | 0, _, _ => none
  | fuel + 1, first, cs =>
    match cs with
    | [] => none
    | '[' :: ':' :: rest =>
      let name := rest.takeWhile (· != ':')
      match rest.dropWhile (· != ':') with
      | ':' :: ']' :: rest => do
        let (ranges, rest) ← readRanges? fuel false rest
        some (classRanges (String.ofList name) ++ ranges, rest)
      | _ => none
    | c :: rest =>
      if c = ']' && !first then some ([], rest)
      else
        match rest with
        | '-' :: d :: after =>
          if d = ']' then do
            let (ranges, rest) ← readRanges? fuel false rest
            some ((c, c) :: ranges, rest)
          else do
            let (ranges, rest) ← readRanges? fuel false after
            some ((c, d) :: ranges, rest)
        | _ => do
          let (ranges, rest) ← readRanges? fuel false rest
          some ((c, c) :: ranges, rest)

/-- A sign of the notation: an operator or a character that stands for
itself. -/
inductive Sign where
  | plain (c : Char)
  | any
  | bracket (negated : Bool) (ranges : List (Char × Char))
  | start
  | finish
  | group
  | groupEnd
  | bar
  | star
  | plus
  | optional
  | counted (low : Nat) (high : Option Nat)
  deriving DecidableEq

/-- Reads the counts of a repetition, up to its closing brace. -/
def counts? (cs : List Char) : Option (Nat × Option Nat) :=
  let number (ds : List Char) : Nat :=
    ds.foldl (fun n d => 10 * n + (d.toNat - '0'.toNat)) 0
  let low := cs.takeWhile Char.isDigit
  match cs.dropWhile Char.isDigit with
  | [] => if low.isEmpty then none else some (number low, some (number low))
  | ',' :: high =>
    if !high.all Char.isDigit then none
    else some (number low, if high.isEmpty then none else some (number high))
  | _ => none

/-- The signs of an expression. In the basic notation a backslash makes
operators, in the extended one it takes their meaning away. -/
def signs? (extended : Bool) : (fuel : Nat) → List Char → Option (List Sign)
  | 0, _ => none
  | fuel + 1, cs => do
    let cons (s : Sign) (rest : List Char) : Option (List Sign) := do
      let more ← signs? extended fuel rest
      some (s :: more)
    let operator? (c : Char) (rest : List Char) :
        Option (Option (Sign × List Char)) :=
      if c = '(' then some (some (.group, rest))
      else if c = ')' then some (some (.groupEnd, rest))
      else if c = '|' then some (some (.bar, rest))
      else if c = '+' then some (some (.plus, rest))
      else if c = '?' then some (some (.optional, rest))
      else if c = '{' then
        let body := rest.takeWhile (· != '}')
        let counts := if extended then body else body.dropLast
        match counts? counts, rest.dropWhile (· != '}') with
        | some (low, high), _ :: rest => some (some (.counted low high, rest))
        | _, _ => none
      else some none
    match cs with
    | [] => some []
    | '\\' :: c :: rest =>
      if extended then cons (.plain c) rest
      else
        match operator? c rest with
        | none => none
        | some (some (s, rest)) => cons s rest
        | some none => cons (.plain c) rest
    | '.' :: rest => cons .any rest
    | '*' :: rest => cons .star rest
    | '^' :: rest => cons .start rest
    | '$' :: rest => cons .finish rest
    | '[' :: '^' :: rest =>
      let (ranges, rest) ← readRanges? (rest.length + 1) true rest
      cons (.bracket true ranges) rest
    | '[' :: rest =>
      let (ranges, rest) ← readRanges? (rest.length + 1) true rest
      cons (.bracket false ranges) rest
    | c :: rest =>
      if extended then
        match operator? c rest with
        | none => none
        | some (some (s, rest)) => cons s rest
        | some none => cons (.plain c) rest
      else cons (.plain c) rest

/-- Applies the repetitions that follow an expression. -/
def repeated : (fuel : Nat) → Regex → List Sign → Regex × List Sign
  | 0, r, signs => (r, signs)
  | fuel + 1, r, signs =>
    match signs with
    | .star :: rest => repeated fuel (.many r) rest
    | .plus :: rest => repeated fuel (.seq r (.many r)) rest
    | .optional :: rest => repeated fuel (.either r .nothing) rest
    | .counted low high :: rest => repeated fuel (r.times low high) rest
    | _ => (r, signs)

def endsAlternative : List Sign → Bool
  | [] => true
  | s :: _ => s = .groupEnd || s = .bar

mutual

/-- Reads one element of a sequence. Anchors are operators at the ends of an
alternative only. -/
def element? (extended : Bool) :
    (fuel : Nat) → (first : Bool) → List Sign → Option (Regex × List Sign)
  | 0, _, _ => none
  | fuel + 1, first, signs =>
    match signs with
    | [] => none
    | .plain c :: rest => some (.char c, rest)
    | .any :: rest => some (.any, rest)
    | .bracket negated ranges :: rest => some (.oneOf negated ranges, rest)
    | .start :: rest =>
      some (if extended || first then .lineStart else .char '^', rest)
    | .finish :: rest =>
      some
        (if extended || endsAlternative rest then .lineEnd else .char '$', rest)
    | .group :: rest => do
      let (r, rest) ← alternatives? extended fuel rest
      match rest with
      | .groupEnd :: rest => some (r, rest)
      | _ => none
    | .star :: rest => if first then some (.char '*', rest) else none
    | _ => none

/-- Reads a sequence of repeated elements. -/
def sequence? (extended : Bool) :
    (fuel : Nat) → (first : Bool) → List Sign → Option (Regex × List Sign)
  | 0, _, _ => none
  | fuel + 1, first, signs =>
    if endsAlternative signs then some (.nothing, signs)
    else do
      let (r, rest) ← element? extended fuel first signs
      let (r, rest) := repeated (rest.length + 1) r rest
      let (s, rest) ← sequence? extended fuel false rest
      some (.seq r s, rest)

def alternatives? (extended : Bool) :
    (fuel : Nat) → List Sign → Option (Regex × List Sign)
  | 0, _ => none
  | fuel + 1, signs => do
    let (r, rest) ← sequence? extended fuel true signs
    match rest with
    | .bar :: rest =>
      let (s, rest) ← alternatives? extended fuel rest
      some (.either r s, rest)
    | _ => some (r, rest)

end

/-- The expression that a text writes down. -/
def read? (extended : Bool) (text : List Char) : Option Regex := do
  let signs ← signs? extended (text.length + 1) text
  let (r, rest) ← alternatives? extended (4 * signs.length + 4) signs
  if rest.isEmpty then some r else none

/-- The expression that matches a text itself. -/
def ofText (text : List Char) : Regex :=
  text.foldr (fun c r => .seq (.char c) r) .nothing

/-- The expression that takes letters of either case. -/
def ignoreCase : Regex → Regex
  | .char c =>
    if c.isAlpha then .either (.char c.toLower) (.char c.toUpper) else .char c
  | .oneOf negated ranges =>
    let lower := ranges.map fun r => (r.1.toLower, r.2.toLower)
    let upper := ranges.map fun r => (r.1.toUpper, r.2.toUpper)
    .oneOf negated (ranges ++ lower ++ upper)
  | .seq a b => .seq a.ignoreCase b.ignoreCase
  | .either a b => .either a.ignoreCase b.ignoreCase
  | .many a => .many a.ignoreCase
  | r => r

end Regex
end Host
end Concord
