import Concord.Host.Arithmetic
import Concord.Host.Pattern
import Concord.Host.Script.Reader
import Concord.Host.Session

/-!
# Expansion of words

Words become arguments: parameters and substitutions are replaced, what they
give outside quotes is split at white space, and patterns outside quotes become
the names they match.
-/

namespace Concord
namespace Host

/-- Where a character of an expanded word comes from. -/
inductive Origin where
  /-- From the script itself. -/
  | literal
  /-- From an expansion outside quotes. -/
  | expanded
  | quoted
  deriving DecidableEq

/-- A sign of an expanded word. -/
inductive Glyph where
  | char (c : Char) (origin : Origin)
  /-- Here one argument ends and the next one begins. -/
  | boundary
  /-- Empty quotes, which make an argument even if it is empty. -/
  | mark
  deriving DecidableEq

namespace Glyph

def ofText (origin : Origin) (text : String) : List Glyph :=
  text.toList.map fun c => .char c origin

def ofQuoted (text : String) : List Glyph :=
  .mark :: ofText .quoted text

def text (glyphs : List Glyph) : String :=
  String.ofList (glyphs.filterMap fun
    | .char c _ => some c
    | .boundary => some ' '
    | .mark => none)

/-- The characters of glyphs, with those marked that are quoted. -/
def marked (glyphs : List Glyph) : List (Char × Bool) :=
  glyphs.filterMap fun
    | .char c origin => some (c, origin = .quoted)
    | _ => none

/-- The pattern that glyphs write down. -/
def pattern (glyphs : List Glyph) : Pattern :=
  let cs := marked glyphs
  Pattern.ofMarked (cs.length + 1) cs

def isSeparator (c : Char) : Bool :=
  c == ' ' || c == '\t' || c == '\n'

/-- Splits glyphs into fields; the field being read is kept reversed, and is
missing between fields. -/
def fields (field : Option (List Glyph)) : List Glyph → List (List Glyph)
  | [] => (field.map List.reverse).toList
  | .boundary :: rest => (field.map List.reverse).toList ++ fields none rest
  | .mark :: rest => fields (some (.mark :: field.getD [])) rest
  | .char c origin :: rest =>
    if origin = .expanded && isSeparator c then
      (field.map List.reverse).toList ++ fields none rest
    else fields (some (.char c origin :: field.getD [])) rest

/-- The names in the working directory that a field matches, or the field
itself. -/
def names (d : Disk) (field : List Glyph) : List String :=
  let p := pattern field
  let matched :=
    if !p.isOpen then []
    else
      match d.find? "." with
      | some (.directory entries) =>
        (shownNames (p.head? = some (.literal '.')) entries).filter fun n =>
          p.accepts n.toList
      | _ => []
  if matched.isEmpty then [text field] else matched

end Glyph

/-! ## Pieces -/

def dropLineFeeds (cs : List Char) : List Char :=
  (cs.reverse.dropWhile (· == '\n')).reverse

def runText (self : Script → Run Unit) (source : String) : Run Unit :=
  match Script.read source with
  | .ok script => self script
  | .error e => do
    Run.complain e.message
    throw (.exited 2)

/-- What a script prints, without line feeds at its end. -/
def outputOf (self : Script → Run Unit) (source : String) : Run String := do
  let (chunks, ended) ← Run.captured (Run.inSubshell (runText self source))
  Run.replay (chunks.filter fun c => c.channel = .err)
  Run.resume ended
  return String.ofList (dropLineFeeds (Text.ofBytes (Run.bytesOf .out chunks)))

/-- The text of pieces in which only simple parameters and substitutions
occur. -/
def plainPieces (self : Script → Run Unit) : Word → Run (List Glyph)
  | [] => return []
  | piece :: rest => do
    let s ← get
    let glyphs ← match piece with
      | .text t quoted =>
        pure (Glyph.ofText (if quoted then .quoted else .literal) t)
      | .param name _ _ =>
        pure (Glyph.ofText .quoted ((s.parameter? name).getD ""))
      | .output source _ => do
          pure (Glyph.ofText .quoted (← outputOf self source))
      | .number e _ =>
        pure (Glyph.ofText .quoted
          (toString ((Arithmetic.value? s.parameter? e).getD 0)))
    return glyphs ++ (← plainPieces self rest)

/-- The text that stands in place of a parameter. -/
def substitute (self : Script → Run Unit) (source : String) : Run String := do
  match ScriptToken.doubleQuoted false (source.length + 1) [] source.toList with
  | .ok (pieces, _) => return Glyph.text (← plainPieces self pieces)
  | .error _ => return source

/-- The pattern that stands after a parameter. -/
def patternOf (self : Script → Run Unit) (source : String) : Run Pattern := do
  match ScriptToken.wordPieces (source.length + 1) [] source.toList with
  | .ok (pieces, _) => return Glyph.pattern (← plainPieces self pieces)
  | .error _ => return []

/-- The value of a parameter as it is used. -/
def useParam (self : Script → Run Unit) (name : String) (use : ParamUse) :
    Run String := do
  let s ← get
  let value := s.parameter? name
  let missing (orEmpty : Bool) : Bool :=
    match value with
    | none => true
    | some v => orEmpty && v.isEmpty
  let plain : Run String :=
    match value with
    | some v => pure v
    | none =>
      if s.strictNames && name ≠ "@" && name ≠ "*" then do
        Run.complain (name ++ ": parameter not set")
        throw (.exited 2)
      else pure ""
  match use with
  | .value => plain
  | .length => return toString (← plain).length
  | .default orEmpty text =>
    if missing orEmpty then substitute self text else plain
  | .assign orEmpty text =>
    if missing orEmpty then do
      let v ← substitute self text
      Run.assign name v
      return v
    else plain
  | .alternative orEmpty text =>
    if missing orEmpty then return "" else substitute self text
  | .required orEmpty text =>
    if missing orEmpty then do
      let said ← substitute self text
      Run.complain (name ++ ": " ++
        (if said.isEmpty then "parameter not set" else said))
      throw (.exited 2)
    else plain
  | .dropStart longest source =>
    let p ← patternOf self source
    return String.ofList (p.dropStart longest (← plain).toList)
  | .dropEnd longest source =>
    let p ← patternOf self source
    return String.ofList (p.dropEnd longest (← plain).toList)

def allParams (quoted : Bool) (params : List String) : List Glyph :=
  let one (p : String) : List Glyph :=
    if quoted then Glyph.ofQuoted p else Glyph.ofText .expanded p
  ((params.map one).intersperse [.boundary]).flatten

def expandPiece (self : Script → Run Unit) (piece : Piece) :
    Run (List Glyph) := do
  let result (quoted : Bool) (text : String) : List Glyph :=
    if quoted then Glyph.ofQuoted text else Glyph.ofText .expanded text
  match piece with
  | .text t quoted =>
    return if quoted then Glyph.ofQuoted t else Glyph.ofText .literal t
  | .param name use quoted =>
    let s ← get
    if use = .value && (name = "@" || (name = "*" && !quoted)) then
      return allParams quoted s.params
    else return result quoted (← useParam self name use)
  | .output source quoted => return result quoted (← outputOf self source)
  | .number e quoted =>
    let s ← get
    match Arithmetic.value? s.parameter? e with
    | some n => return result quoted (toString n)
    | none => do
      Run.complain ("arithmetic expression: expecting primary: \"" ++ e ++ "\"")
      throw (.exited 2)

def expandPieces (self : Script → Run Unit) : Word → Run (List Glyph)
  | [] => return []
  | piece :: rest => do
    let glyphs ← expandPiece self piece
    return glyphs ++ (← expandPieces self rest)

/-- The word is all parameters in quotes and nothing else. -/
def isQuotedParams (word : Word) : Bool :=
  word.any (fun p => p = .param "@" .value true)
    && word.all fun p => p = .param "@" .value true || p = .text "" true

/-- The text of a word that is one argument. -/
def expandText (self : Script → Run Unit) (word : Word) : Run String :=
  return Glyph.text (← expandPieces self word)

def expandWord (self : Script → Run Unit) (word : Word) :
    Run (List String) := do
  let glyphs ← expandPieces self word
  let s ← get
  if isQuotedParams word && s.params.isEmpty then return []
  else return (Glyph.fields none glyphs).flatMap (Glyph.names s.disk)

def expandWords (self : Script → Run Unit) : List Word → Run (List String)
  | [] => return []
  | word :: rest => do
    let args ← expandWord self word
    return args ++ (← expandWords self rest)

end Host
end Concord
