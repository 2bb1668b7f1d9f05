import Concord.Yaml.Token

/-!
# YAML events

The structure of a YAML document as a flat list: scalars, aliases, and the start
and end of each collection. `Event.ofTokens?` gives the events of a text with at
most one document; a text without one has no events.
-/

namespace Concord
namespace Yaml

/-- A step through a document. Aliases refer to anchors by an `α`. -/
inductive Event (α : Type) where
  | alias (target : α)
  | scalar (anchor tag : Option String) (text : String) (style : ScalarStyle)
  | sequenceStart (anchor tag : Option String)
  | sequenceEnd
  | mappingStart (anchor tag : Option String)
  | mappingEnd
  deriving DecidableEq, Inhabited

namespace Event

/-- A missing value is an empty plain scalar. -/
def absent : Event String :=
  .scalar none none "" .plain

/-! ## Tags -/

/-- The texts that tag handles stand for. -/
abbrev Handles := List (String × String)

/-- The handles that every document has. -/
def defaultHandles : Handles :=
  [("!", "!"), ("!!", "tag:yaml.org,2002:")]

/-- The tag written as a handle and a suffix. -/
def tagText? (handles : Handles) (handle suffix : String) : Option String :=
  if handle.isEmpty then some suffix
  else (handles.lookup handle).map (· ++ suffix)

/-- Splits off an anchor and a tag, which may stand before a node in either
order. -/
def properties? (handles : Handles) :
    List Token → Option (Option String × Option String × List Token)
  | .anchor a :: .tag h s :: rest =>
    (tagText? handles h s).map fun t => (some a, some t, rest)
  | .tag h s :: .anchor a :: rest =>
    (tagText? handles h s).map fun t => (some a, some t, rest)
  | .anchor a :: rest => some (some a, none, rest)
  | .tag h s :: rest => (tagText? handles h s).map fun t => (none, some t, rest)
  | rest => some (none, none, rest)

/-! ## Nodes -/

/-- The events found so far, last one first, and the tokens that remain. -/
abbrev Progress := List (Event String) × List Token

/-- Where a node stands. -/
inductive Context where
  | block
  /-- A block in which a sequence need not be indented. -/
  | mappingItem
  | flow
  deriving DecidableEq

/-- The next token closes or separates the items of a collection, so that no
node can follow. -/
def endsItem (ends : List Token) : List Token → Bool
  | [] => false
  | t :: _ => ends.contains t

mutual

def node? (handles : Handles) :
    (fuel : Nat) → Context → Progress → Option Progress
  | 0, _, _ => none
  | _ + 1, _, (out, .alias name :: rest) => some (.alias name :: out, rest)
  | fuel + 1, context, (out, tokens) => do
    let (anchor, tag, rest) ← properties? handles tokens
    match rest with
    | .scalar text style :: rest =>
      let tag := if tag == some "!" then none else tag
      some (.scalar anchor tag text style :: out, rest)
    | .flowSequenceStart :: rest =>
      flowSequence? handles fuel true (.sequenceStart anchor tag :: out, rest)
    | .flowMappingStart :: rest =>
      flowMapping? handles fuel true (.mappingStart anchor tag :: out, rest)
    | .blockEntry :: _ =>
      if context == .mappingItem then
        flatSequence? handles fuel (.sequenceStart anchor tag :: out, rest)
      else if anchor.isSome || tag.isSome then
        some (.scalar anchor tag "" .plain :: out, rest)
      else none
    | .blockSequenceStart :: after =>
      if context != .flow then
        blockSequence? handles fuel (.sequenceStart anchor tag :: out, after)
      else if anchor.isSome || tag.isSome then
        some (.scalar anchor tag "" .plain :: out, rest)
      else none
    | .blockMappingStart :: after =>
      if context != .flow then
        blockMapping? handles fuel (.mappingStart anchor tag :: out, after)
      else if anchor.isSome || tag.isSome then
        some (.scalar anchor tag "" .plain :: out, rest)
      else none
    | _ =>
      if anchor.isSome || tag.isSome then
        some (.scalar anchor tag "" .plain :: out, rest)
      else none

/-- Reads a node, or nothing before one of the tokens `ends`. -/
def item? (handles : Handles) (ends : List Token) :
    (fuel : Nat) → Context → Progress → Option Progress
  | 0, _, _ => none
  | fuel + 1, context, (out, tokens) =>
    if endsItem ends tokens then some (absent :: out, tokens)
    else node? handles fuel context (out, tokens)

/-- Reads the items of an indented sequence. -/
def blockSequence? (handles : Handles) :
    (fuel : Nat) → Progress → Option Progress
  | 0, _ => none
  | fuel + 1, (out, tokens) =>
    match tokens with
    | .blockEntry :: rest => do
      let p ← item? handles [.blockEntry, .blockEnd] fuel .block (out, rest)
      blockSequence? handles fuel p
    | .blockEnd :: rest => some (.sequenceEnd :: out, rest)
    | _ => none

/-- Reads the items of a sequence that stands at the column of the mapping
around it. -/
def flatSequence? (handles : Handles) :
    (fuel : Nat) → Progress → Option Progress
  | 0, _ => none
  | fuel + 1, (out, tokens) =>
    match tokens with
    | .blockEntry :: rest => do
      let p ←
        item? handles [.blockEntry, .key, .value, .blockEnd] fuel .block
          (out, rest)
      flatSequence? handles fuel p
    | _ => some (.sequenceEnd :: out, tokens)

/-- Reads the entries of an indented mapping. -/
def blockMapping? (handles : Handles) :
    (fuel : Nat) → Progress → Option Progress
  | 0, _ => none
  | fuel + 1, (out, tokens) =>
    match tokens with
    | .key :: rest => do
      let p ←
        item? handles [.key, .value, .blockEnd] fuel .mappingItem (out, rest)
      blockValue? handles fuel p
    | .blockEnd :: rest => some (.mappingEnd :: out, rest)
    | _ => none

/-- Reads the value of an entry and the entries after it. -/
def blockValue? (handles : Handles) : (fuel : Nat) → Progress → Option Progress
  | 0, _ => none
  | fuel + 1, (out, tokens) =>
    match tokens with
    | .value :: rest => do
      let p ←
        item? handles [.key, .value, .blockEnd] fuel .mappingItem (out, rest)
      blockMapping? handles fuel p
    | _ => blockMapping? handles fuel (absent :: out, tokens)

/-- Reads the items of a sequence in brackets; all but the first one follow a
comma. -/
def flowSequence? (handles : Handles) :
    (fuel : Nat) → (first : Bool) → Progress → Option Progress
  | 0, _, _ => none
  | fuel + 1, first, (out, tokens) => do
    match tokens with
    | .flowSequenceEnd :: rest => some (.sequenceEnd :: out, rest)
    | _ =>
      let tokens ←
        match first, tokens with
        | true, _ => some tokens
        | false, .flowEntry :: rest => some rest
        | false, _ => none
      match tokens with
      | .flowSequenceEnd :: rest => some (.sequenceEnd :: out, rest)
      | .key :: rest =>
        let p ← flowPair? handles fuel (.mappingStart none none :: out, rest)
        flowSequence? handles fuel false p
      | _ =>
        let p ← node? handles fuel .flow (out, tokens)
        flowSequence? handles fuel false p

/-- Reads a key and a value that are an item of a sequence in brackets. -/
def flowPair? (handles : Handles) : (fuel : Nat) → Progress → Option Progress
  | 0, _ => none
  | fuel + 1, (out, tokens) => do
    let (out, tokens) ←
      if endsItem [.value, .flowEntry, .flowSequenceEnd] tokens then
        some (absent :: out, tokens.drop 1)
      else node? handles fuel .flow (out, tokens)
    let (out, tokens) ←
      match tokens with
      | .value :: rest =>
        item? handles [.flowEntry, .flowSequenceEnd] fuel .flow (out, rest)
      | _ => some (absent :: out, tokens)
    some (.mappingEnd :: out, tokens)

/-- Reads the entries of a mapping in braces; all but the first one follow a
comma. -/
def flowMapping? (handles : Handles) :
    (fuel : Nat) → (first : Bool) → Progress → Option Progress
  | 0, _, _ => none
  | fuel + 1, first, (out, tokens) => do
    match tokens with
    | .flowMappingEnd :: rest => some (.mappingEnd :: out, rest)
    | _ =>
      let tokens ←
        match first, tokens with
        | true, _ => some tokens
        | false, .flowEntry :: rest => some rest
        | false, _ => none
      match tokens with
      | .flowMappingEnd :: rest => some (.mappingEnd :: out, rest)
      | .key :: rest =>
        let (out, tokens) ←
          item? handles [.value, .flowEntry, .flowMappingEnd] fuel .flow
            (out, rest)
        let p ←
          match tokens with
          | .value :: rest =>
            item? handles [.flowEntry, .flowMappingEnd] fuel .flow (out, rest)
          | _ => some (absent :: out, tokens)
        flowMapping? handles fuel false p
      | _ =>
        let (out, tokens) ← node? handles fuel .flow (out, tokens)
        flowMapping? handles fuel false (absent :: out, tokens)

end

/-! ## Documents -/

/-- Reads the directives before a document: at most one version, which is 1.1 or
1.2, and each handle at most once. -/
def directives? :
    (version : Bool) → Handles → List Token → Option (Handles × List Token)
  | version, handles, .version major minor :: rest =>
    if version || major ≠ 1 || (minor ≠ 1 && minor ≠ 2) then none
    else directives? true handles rest
  | version, handles, .tagHandle handle replacement :: rest =>
    if (handles.lookup handle).isSome then none
    else directives? version (handles ++ [(handle, replacement)]) rest
  | _, handles, rest => some (handles, rest)

/-- The token starts a document or a directive, or ends a document. -/
def isDocumentToken : Token → Bool
  | .version _ _ | .tagHandle _ _ | .documentStart | .documentEnd => true
  | _ => false

/-- Reads the content of a document whose start is marked. -/
def content? (handles : Handles) (fuel : Nat) (tokens : List Token) :
    Option Progress :=
  match tokens with
  | [] => some ([absent], [])
  | t :: _ =>
    if isDocumentToken t then some ([absent], tokens)
    else node? handles fuel .block ([], tokens)

def ofTokens? (tokens : List Token) : Option (List (Event String)) := do
  let fuel := 4 * tokens.length + 8
  if tokens.isEmpty then some []
  else
    let (given, rest) ← directives? false [] tokens
    let (out, rest) ←
      match rest with
      | .documentStart :: rest => content? (given ++ defaultHandles) fuel rest
      | _ =>
        if rest.length = tokens.length then
          node? defaultHandles fuel .block ([], rest)
        else none
    if (rest.dropWhile (· == .documentEnd)).isEmpty then some out.reverse
    else none

end Event
end Yaml
end Concord
