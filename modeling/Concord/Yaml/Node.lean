import Concord.Binary64.Decimal
import Concord.Yaml.Event

/-!
# YAML nodes

A YAML document as a tree, with each alias replaced by what its anchor marks.
`Node.read?` reads a text with at most one document. Collections stand at most
`nestingLimit` deep within each other, aliases included, and all aliases
together are followed at most a hundred times as often as the document has
events.
-/

namespace Concord
namespace Yaml

/-- A node of a document. -/
inductive Node where
  | scalar (tag : Option String) (text : String) (style : ScalarStyle)
  | sequence (tag : Option String) (items : List Node)
  | mapping (tag : Option String) (entries : List (Node × Node))
  deriving Inhabited

namespace Node

/-- How many collections may stand within each other. -/
def nestingLimit : Nat := 128

/-! ## Anchors -/

/-- The anchors met so far. An anchor's number is the number of different names
before it. -/
structure Anchors where
  numbers : List (String × Nat) := []
  /-- The number of events before the node of each number, last one first. -/
  places : List (Nat × Nat) := []

/-- Marks the node after `place` events. -/
def Anchors.mark (a : Anchors) (anchor : Option String) (place : Nat) :
    Anchors :=
  match anchor with
  | none => a
  | some name =>
    let n := a.numbers.length
    { numbers := (name, n) :: a.numbers.filter (·.1 != name)
      places := (n, place) :: a.places }

/-- Replaces the names in aliases by the numbers of their anchors, which have to
come first. -/
def numberAliases? : (place : Nat) → Anchors → List (Event String) →
    Option (List (Event Nat) × Anchors)
  | _, a, [] => some ([], a)
  | place, a, e :: rest => do
    let (e', a) ←
      match e with
      | .alias name => (a.numbers.lookup name).map fun n => (Event.alias n, a)
      | .scalar anchor tag text style =>
        some (.scalar none tag text style, a.mark anchor place)
      | .sequenceStart anchor tag =>
        some (.sequenceStart none tag, a.mark anchor place)
      | .mappingStart anchor tag =>
        some (.mappingStart none tag, a.mark anchor place)
      | .sequenceEnd => some (.sequenceEnd, a)
      | .mappingEnd => some (.mappingEnd, a)
    let (rest, a) ← numberAliases? (place + 1) a rest
    some (e' :: rest, a)

/-! ## Trees -/

/-- A document whose aliases can be followed. -/
structure Linked where
  events : List (Event Nat)
  places : List (Nat × Nat)

/-- The events from an anchor on. -/
def Linked.at? (d : Linked) (anchor : Nat) : Option (List (Event Nat)) :=
  (d.places.lookup anchor).map d.events.drop

/-- How often aliases may be followed. -/
def Linked.followLimit (d : Linked) : Nat :=
  100 * d.events.length

/-- The events that remain, and how often an alias was followed. -/
abbrev Progress := List (Event Nat) × Nat

/-- Reads the items of a sequence and its end. -/
def items? (node : Progress → Option (Node × Progress)) :
    (fuel : Nat) → Progress → Option (List Node × Progress)
  | 0, _ => none
  | _ + 1, (.sequenceEnd :: rest, followed) => some ([], rest, followed)
  | fuel + 1, p => do
    let (n, p) ← node p
    let (ns, p) ← items? node fuel p
    some (n :: ns, p)

/-- Reads the entries of a mapping and its end. -/
def entries? (node : Progress → Option (Node × Progress)) :
    (fuel : Nat) → Progress → Option (List (Node × Node) × Progress)
  | 0, _ => none
  | _ + 1, (.mappingEnd :: rest, followed) => some ([], rest, followed)
  | fuel + 1, p => do
    let (k, p) ← node p
    let (v, p) ← node p
    let (es, p) ← entries? node fuel p
    some ((k, v) :: es, p)

/-- Reads a node that is no alias; `inner?` reads the nodes inside it, if there
may be any. -/
def content? (inner? : Option (Progress → Option (Node × Progress))) :
    Progress → Option (Node × Progress)
  | (.scalar _ tag text style :: rest, followed) =>
    some (.scalar tag text style, rest, followed)
  | (.sequenceStart _ tag :: rest, followed) => do
    let inner ← inner?
    let (items, p) ← items? inner (rest.length + 1) (rest, followed)
    some (.sequence tag items, p)
  | (.mappingStart _ tag :: rest, followed) => do
    let inner ← inner?
    let (entries, p) ← entries? inner (rest.length + 1) (rest, followed)
    some (.mapping tag entries, p)
  | _ => none

def follow? (d : Linked)
    (inner? : Option (Progress → Option (Node × Progress))) :
    Progress → Option (Node × Progress)
  | (.alias anchor :: rest, followed) => do
    let target ← d.at? anchor
    if followed < d.followLimit then
      let (n, _, followed) ← content? inner? (target, followed + 1)
      some (n, rest, followed)
    else none
  | p => content? inner? p

/-- Reads a node with at most `levels` collections within each other. -/
def tree? (d : Linked) : (levels : Nat) → Progress → Option (Node × Progress)
  | 0, p => follow? d none p
  | levels + 1, p => follow? d (some (tree? d levels)) p

/-- The root of the document with the given events. -/
def ofEvents? (events : List (Event String)) : Option Node := do
  let (events, anchors) ← numberAliases? 0 {} events
  let (root, rest, _) ←
    tree? { events := events, places := anchors.places }
      nestingLimit (events, 0)
  if rest.isEmpty then some root else none

/-- The root of the document in a text, or nothing for a text without a
document. -/
def read? (text : String) : Option (Option Node) := do
  let tokens ← Token.scan? text
  let events ← Event.ofTokens? tokens
  if events.isEmpty then some none else (ofEvents? events).map some

/-! ## Plain scalars -/

/-- The text of a missing value. -/
def isNullText (text : String) : Bool :=
  text == "null" || text == "Null" || text == "NULL" || text == "~"

/-- The truth value that a text denotes. -/
def boolText? (text : String) : Option Bool :=
  if text == "true" || text == "True" || text == "TRUE" then some true
  else if text == "false" || text == "False" || text == "FALSE" then some false
  else none

/-- The value of a digit in a base up to sixteen. -/
def digitValue? (base : Nat) (c : Char) : Option Nat :=
  (Text.hexValue? c).filter (· < base)

def digitsNumber? (base : Nat) (cs : List Char) : Option Nat :=
  if cs.isEmpty then none
  else cs.foldlM (fun n c => (digitValue? base c).map (base * n + ·)) 0

/-- Digits with a leading zero, which are text and not a number. -/
def hasLeadingZero (cs : List Char) : Bool :=
  let cs :=
    match cs with
    | '-' :: rest | '+' :: rest => rest
    | cs => cs
  1 < cs.length && cs.head? == some '0' && (cs.drop 1).all Char.isDigit

/-- The number that digits denote after an optional sign for their base. -/
def basedNumber? : List Char → Option Nat
  | '0' :: 'x' :: digits => digitsNumber? 16 digits
  | '0' :: 'o' :: digits => digitsNumber? 8 digits
  | '0' :: 'b' :: digits => digitsNumber? 2 digits
  | _ => none

/-- The whole number that a text denotes: decimal without leading zeros, or in
base 16, 8 or 2. -/
def wholeText? (text : String) : Option Int :=
  let cs := text.toList
  let magnitude? (digits : List Char) : Option Nat :=
    (basedNumber? digits).or
      (if hasLeadingZero cs then none else digitsNumber? 10 digits)
  match cs with
  | '-' :: digits => (magnitude? digits).map fun n => -(n : Int)
  | '+' :: digits => (magnitude? digits).map fun n => (n : Int)
  | digits => (magnitude? digits).map fun n => (n : Int)

def isSign (c : Char) : Bool :=
  c == '+' || c == '-'

/-- The text denotes a float: an infinity, a NaN or a finite decimal. -/
def isFloatText (text : String) : Bool :=
  let cs := text.toList
  let unsigned :=
    match cs with
    | '+' :: rest => rest
    | cs => cs
  let infinities := [".inf", ".Inf", ".INF"]
  let nans := [".nan", ".NaN", ".NAN"]
  !(cs.head? == some '+' && unsigned.head?.any isSign)
    && (infinities.contains (String.ofList unsigned)
      || (infinities.map ("-" ++ ·)).contains text
      || nans.contains text
      || (Binary64.read? unsigned).any Binary64.isFinite)

end Node
end Yaml
end Concord
