import Concord.Host.Regex
import Concord.Host.Tool.Basic

/-!
# Filters

Tools that read bytes or lines and print some of them, or a count.
-/

namespace Concord
namespace Host

/-- The pieces of some bytes that end with a line feed. -/
def withLineFeeds (bytes : Bytes) : List Bytes :=
  let lines := byteLines bytes
  if bytes.getLast? = some lineFeed then lines.map (· ++ [lineFeed])
  else lines.dropLast.map (· ++ [lineFeed]) ++ lines.getLast?.toList

/-- A number in a column. -/
def column (width n : Nat) : Bytes :=
  let digits := toString n
  Text.toBytes (String.ofList (List.replicate (width - digits.length) ' ') ++
    digits)

/-- Prints its files one after another, and may number their lines. -/
def cat : Tool := fun c =>
  let (options, files) := splitOptions c.args
  c.overFiles files 1 fun read =>
    let bytes := read.flatMap Prod.snd
    if options.contains 'n' then
      (((withLineFeeds bytes).zipIdx 1).flatMap fun (line, n) =>
        column 6 n ++ 9 :: line, 0)
    else (bytes, 0)

/-! ## Counting -/

def wordCount (bytes : Bytes) : Nat :=
  (Text.words (Text.ofBytes bytes)).length

/-- Counts lines, words, characters and bytes. -/
def wc : Tool := fun c =>
  let (options, files) := splitOptions c.args
  let options := if options.isEmpty then ['l', 'w', 'c'] else options
  let counts (bytes : Bytes) : List Nat :=
    (if options.contains 'l' then [bytes.countP (· == lineFeed)] else [])
      ++ (if options.contains 'w' then [wordCount bytes] else [])
      ++ (if options.contains 'm' then [(Text.ofBytes bytes).length] else [])
      ++ (if options.contains 'c' then [bytes.length] else [])
  c.overFiles files 1 fun read =>
    let rows := read.map fun (f, bytes) =>
      (counts bytes, if files.isEmpty then "" else " " ++ f)
    let total := read.flatMap Prod.snd
    let rows :=
      if 1 < read.length then rows ++ [(counts total, " total")] else rows
    let width :=
      if options.length = 1 && rows.length ≤ 1 then 1
      else if ToolCall.usesInput files then 7
      else (toString total.length).length
    let cell (n : Nat) : String :=
      let digits := toString n
      String.ofList (List.replicate (width - digits.length) ' ') ++ digits
    let line (row : List Nat × String) : String :=
      " ".intercalate (row.1.map cell) ++ row.2 ++ "\n"
    (Text.toBytes (String.join (rows.map line)), 0)

/-! ## Characters -/

/-- The bytes that a set of characters stands for. -/
def byteSet : (fuel : Nat) → List Char → List UInt8
  | 0, _ => []
  | _ + 1, [] => []
  | fuel + 1, '[' :: ':' :: rest =>
    let name := String.ofList (rest.takeWhile (· != ':'))
    let ranges := Regex.classRanges name
    let isMember (b : Nat) : Bool :=
      ranges.any fun r => r.1.toNat ≤ b && b ≤ r.2.toNat
    ((List.range 128).filter isMember).map UInt8.ofNat
      ++ byteSet fuel ((rest.dropWhile (· != ':')).drop 2)
  | fuel + 1, '\\' :: c :: rest =>
    let isOctal (c : Char) : Bool := '0' ≤ c && c ≤ '7'
    if isOctal c then
      let digits := ((c :: rest).take 3).takeWhile isOctal
      let n := digits.foldl (fun n d => 8 * n + (d.toNat - '0'.toNat)) 0
      UInt8.ofNat n :: byteSet fuel ((c :: rest).drop digits.length)
    else
      let b : Nat :=
        if c = 'n' then 10
        else if c = 't' then 9
        else if c = 'r' then 13
        else if c = 'f' then 12
        else if c = 'v' then 11
        else if c = 'a' then 7
        else if c = 'b' then 8
        else c.toNat
      UInt8.ofNat b :: byteSet fuel rest
  | fuel + 1, c :: '-' :: d :: rest =>
    ((List.range (d.toNat + 1 - c.toNat)).map fun (i : Nat) =>
      UInt8.ofNat (c.toNat + i))
      ++ byteSet fuel rest
  | fuel + 1, c :: rest => Text.toBytes c.toString ++ byteSet fuel rest

/-- Replaces, deletes or squeezes characters. -/
def tr : Tool := fun c =>
  let (options, sets) := splitOptions c.args
  let set (s : String) : List UInt8 := byteSet (s.length + 1) s.toList
  let complement := options.contains 'c' || options.contains 'C'
  match sets with
  | [] => c.refuse "missing operand" 1
  | first :: more =>
    let given := set first
    let isMember (b : UInt8) : Bool := given.contains b != complement
    let wanted := set (more.headD "")
    let replaced :=
      if options.contains 'd' then c.input.filter fun b => !isMember b
      else if wanted.isEmpty then c.input
      else
        c.input.map fun b =>
          if !isMember b then b
          else if complement then wanted.getLastD b
          else (wanted[given.idxOf b]?).getD (wanted.getLastD b)
    let squeezed : List UInt8 :=
      if !options.contains 's' then []
      else if wanted.isEmpty then given
      else wanted
    let out := replaced.foldl (fun (read : List UInt8) b =>
      if read.head? = some b && squeezed.contains b then read else b :: read) []
    { out := out.reverse, readsInput := true }

/-! ## Lines -/

/-- The numeric value at the start of a line. -/
def leadingNumber (line : Bytes) : Int :=
  let cs := (Text.ofBytes line).dropWhile (· == ' ')
  let (negative, cs) :=
    match cs with
    | '-' :: rest => (true, rest)
    | cs => (false, cs)
  let n :=
    (cs.takeWhile Char.isDigit).foldl
      (fun n d => 10 * n + (d.toNat - '0'.toNat)) 0
  if negative then -(n : Int) else n

def bytesLe : Bytes → Bytes → Bool
  | [], _ => true
  | _ :: _, [] => false
  | a :: as, b :: bs => a < b || (a == b && bytesLe as bs)

/-- Keeps the first of equal neighbours. -/
def dropEqualNeighbours : List Bytes → List Bytes
  | [] => []
  | [l] => [l]
  | l :: m :: rest =>
    if l = m then dropEqualNeighbours (m :: rest)
    else l :: dropEqualNeighbours (m :: rest)

def sortLines : Tool := fun c =>
  let (options, files) := splitOptions c.args
  let le (a b : Bytes) : Bool :=
    if options.contains 'n' then
      let x := leadingNumber a
      let y := leadingNumber b
      x < y || (x == y && bytesLe a b)
    else bytesLe a b
  c.overFiles files 2 fun read =>
    let sorted := (read.flatMap fun (_, bytes) => byteLines bytes).mergeSort le
    let sorted :=
      if options.contains 'u' then dropEqualNeighbours sorted else sorted
    (joinLines (if options.contains 'r' then sorted.reverse else sorted), 0)

def countEqualNeighbours : List Bytes → List (Nat × Bytes)
  | [] => []
  | line :: rest =>
    match countEqualNeighbours rest with
    | (n, other) :: more =>
      if line = other then (n + 1, line) :: more
      else (1, line) :: (n, other) :: more
    | [] => [(1, line)]

/-- Drops lines that are equal to the line before, and may print how many there
were. -/
def uniq : Tool := fun c =>
  let (options, files) := splitOptions c.args
  c.overFiles files 1 fun read =>
    let counted :=
      countEqualNeighbours (read.flatMap fun (_, bytes) => byteLines bytes)
    let kept := counted.filter fun (n, _) =>
      (!options.contains 'd' || 1 < n) && (!options.contains 'u' || n = 1)
    let shown := kept.map fun (n, line) =>
      if options.contains 'c' then column 7 n ++ 32 :: line else line
    (joinLines shown, 0)

/-- How much of its input a tool keeps: a number, and whether it counts
bytes. -/
def amount (args : List String) : Int × Bool × List String :=
  match args with
  | "-n" :: n :: rest => ((decimal? n).getD 10, false, rest)
  | "-c" :: n :: rest => ((decimal? n).getD 0, true, rest)
  | arg :: rest =>
    match arg.toList with
    | '-' :: 'n' :: ds => ((decimal? (String.ofList ds)).getD 10, false, rest)
    | '-' :: 'c' :: ds => ((decimal? (String.ofList ds)).getD 0, true, rest)
    | '-' :: d :: ds =>
      if d.isDigit then
        ((decimal? (String.ofList (d :: ds))).getD 10, false, rest)
      else (10, false, arg :: rest)
    | _ => (10, false, arg :: rest)
  | [] => (10, false, [])

/-- Prints the first lines or bytes. -/
def head : Tool := fun c =>
  let (n, bytes, files) := amount c.args
  c.overFiles files 1 fun read =>
    let all := read.flatMap Prod.snd
    (if bytes then all.take n.toNat
      else ((withLineFeeds all).take n.toNat).flatten, 0)

/-- Prints the last lines or bytes, or those from a place on. -/
def tail : Tool := fun c =>
  let fromStart := c.args.any fun a => (Text.after? ['+'] a.toList).isSome
  let (n, bytes, files) := amount c.args
  c.overFiles files 1 fun read =>
    let all := read.flatMap Prod.snd
    let lines := withLineFeeds all
    let n := n.toNat
    let rest {α : Type} (xs : List α) : List α :=
      if fromStart then xs.drop (n - 1) else xs.drop (xs.length - n)
    (if bytes then rest all else (rest lines).flatten, 0)

/-! ## Searching -/

/-- What a search asks for. -/
structure Search where
  options : List Char := []
  patterns : List String := []
  files : List String := []

def Search.ofArgs : (fuel : Nat) → Search → List String → Search
  | 0, s, _ => s
  | _ + 1, s, [] => s
  | _ + 1, s, "--" :: rest => { s with files := s.files ++ rest }
  | fuel + 1, s, "-e" :: p :: rest =>
    ofArgs fuel { s with patterns := s.patterns ++ [p] } rest
  | fuel + 1, s, arg :: rest =>
    match arg.toList with
    | '-' :: c :: cs =>
      ofArgs fuel { s with options := s.options ++ c :: cs } rest
    | _ => ofArgs fuel { s with files := s.files ++ [arg] } rest

def Search.regex? (s : Search) (pattern : String) : Option Regex :=
  let cs := pattern.toList
  let r? := if s.options.contains 'F' then some (Regex.ofText cs)
    else Regex.read? (s.options.contains 'E') cs
  let r? := r?.map fun r =>
    if s.options.contains 'x' then .seq .lineStart (.seq r .lineEnd) else r
  r?.map fun r => if s.options.contains 'i' then r.ignoreCase else r

/-- The parts of a line that match, from left to right. -/
def matchedParts (r : Regex) : (fuel : Nat) → Regex.Place → List (List Char)
  | 0, _ => []
  | fuel + 1, (atStart, cs) =>
    match cs with
    | [] => []
    | _ :: rest =>
      match r.longest? (atStart, cs) with
      | some after =>
        if after.length < cs.length then
          cs.take (cs.length - after.length) ::
            matchedParts r fuel (false, after)
        else matchedParts r fuel (false, rest)
      | none => matchedParts r fuel (false, rest)

/-- Prints or counts the lines that match. -/
def grep : Tool := fun c =>
  let s := Search.ofArgs (c.args.length + 1) {} c.args
  let s :=
    if s.patterns.isEmpty then
      { s with patterns := s.files.take 1, files := s.files.drop 1 }
    else s
  let has (o : Char) : Bool := s.options.contains o
  if s.patterns.isEmpty then c.refuse "missing pattern" 2
  else
    match (s.patterns.flatMap fun p => (p.splitOn "\n")).mapM s.regex? with
    | none => c.refuse "Invalid regular expression" 2
    | some regexes =>
      let selects (line : Bytes) : Bool :=
        (regexes.any fun r => r.occursIn (Text.ofBytes line)) != has 'v'
      let result := c.overFiles s.files 2 fun read =>
        let named (f : String) : Bytes :=
          if (1 < s.files.length && !has 'h') || has 'H' then
            Text.toBytes (f ++ ":")
          else []
        let hits : List (String × List (Bytes × Nat)) :=
          read.map fun (f, bytes) =>
          (f, (byteLines bytes).zipIdx.filter fun hit => selects hit.1)
        let line (f : String) (hit : Bytes × Nat) : List Bytes :=
          let number :=
            if has 'n' then Text.toBytes (toString (hit.2 + 1) ++ ":") else []
          if has 'o' then
            (regexes.flatMap fun r =>
              let text := Text.ofBytes hit.1
              matchedParts r (text.length + 1) (true, text)).map fun part =>
                named f ++ number ++ Text.toBytes (String.ofList part)
          else [named f ++ number ++ hit.1]
        let out :=
          if has 'q' then []
          else if has 'c' then
            hits.map fun (f, hs) => named f ++ Text.toBytes (toString hs.length)
          else if has 'l' then
            (hits.filter fun (_, hs) => !hs.isEmpty).map fun (f, _) =>
              Text.toBytes f
          else hits.flatMap fun (f, hs) => hs.flatMap (line f)
        (joinLines out, if hits.any (fun hit => !hit.2.isEmpty) then 0 else 1)
      if has 's' then { result with err := [] } else result

def seq : Tool := fun c =>
  let range (first step last : Int) : ToolResult :=
    if step = 0 then c.refuse "invalid Zero increment value" 1
    else
      let count := ((last - first) / step + 1).toNat
      let numbers :=
        (List.range count).map fun (i : Nat) => toString (first + step * i)
      { out := Text.toBytes (String.join (numbers.map (· ++ "\n"))) }
  match c.args.mapM decimal? with
  | some [last] => range 1 1 last
  | some [first, last] => range first 1 last
  | some [first, step, last] => range first step last
  | _ => c.refuse "invalid argument" 1

end Host
end Concord
