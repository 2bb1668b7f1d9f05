/-!
# Ranges of code points, and blanks

Properties of characters are given as lists of closed ranges of code points.
White space is the Unicode property *White_Space*: tab to carriage return,
space, next line, no-break space and the spaces and separators of the general
punctuation. Trimming and splitting work on lists of characters, where their
laws are those of `List.dropWhile`.
-/

namespace Concord
namespace Text

/-- The character's code point lies in one of the closed ranges. -/
def inRanges (ranges : List (Nat × Nat)) (c : Char) : Bool :=
  ranges.any fun r => r.1 ≤ c.toNat && c.toNat ≤ r.2

/-! ## White space -/

/-- Code points with the property White_Space. -/
def blankRanges : List (Nat × Nat) :=
    [(0x9, 0xd), (0x20, 0x20), (0x85, 0x85), (0xa0, 0xa0), (0x1680, 0x1680),
    (0x2000, 0x200a), (0x2028, 0x2029), (0x202f, 0x202f), (0x205f, 0x205f),
    (0x3000, 0x3000)]

/-- The character is white space. -/
def isBlank (c : Char) : Bool :=
  inRanges blankRanges c

/-- The text without the white space it starts with. -/
def skipBlanks (cs : List Char) : List Char :=
  cs.dropWhile isBlank

/-- The text without the white space it ends with. -/
def dropTrailingBlanks (cs : List Char) : List Char :=
  (cs.reverse.dropWhile isBlank).reverse

/-- The text without white space at either end. -/
def trimBlanks (cs : List Char) : List Char :=
  dropTrailingBlanks (skipBlanks cs)

/-- `trimBlanks` on strings. -/
def trimmed (s : String) : String :=
  String.ofList (trimBlanks s.toList)

/-- The maximal runs of characters that are not white space, in order. -/
def words (cs : List Char) : List (List Char) :=
  go [] cs
where
  /-- Collects words; the word being read is kept reversed. -/
  go (word : List Char) : List Char → List (List Char)
    | [] => if word.isEmpty then [] else [word.reverse]
    | c :: rest =>
      if isBlank c then
        if word.isEmpty then go [] rest else word.reverse :: go [] rest
      else go (c :: word) rest

end Text
end Concord
