import Concord.FileTree
import Concord.Text.Lossy

/-!
# Tools

A tool is a program of the host. What it prints, how it ends, how long it takes
and what it leaves on the disk depend on its arguments, its input and the disk.
-/

namespace Concord
namespace Host

/-- Bytes that a program reads or writes. -/
abbrev Bytes := List UInt8

/-- How a tool is called. -/
structure ToolCall where
  name : String
  args : List String
  input : Bytes
  disk : Disk
  env : List (String × String) := []

/-- What a tool does. -/
structure ToolResult where
  out : Bytes := []
  err : Bytes := []
  status : Nat := 0
  /-- The tool has read its input to the end. -/
  readsInput : Bool := false
  durationMs : Nat := 0
  /-- The disk, if the tool has changed it. -/
  disk : Option Disk := none

/-- A program of the host. -/
abbrev Tool := ToolCall → ToolResult

namespace ToolCall

def complaint (c : ToolCall) (text : String) : Bytes :=
  Text.toBytes (c.name ++ ": " ++ text ++ "\n")

/-- A call that cannot be carried out. -/
def refuse (c : ToolCall) (text : String) (status : Nat) : ToolResult :=
  { err := c.complaint text, status := status }

/-- The contents of the files named, or the input where there is no file or a
dash. -/
def contents (c : ToolCall) (files : List String) :
    List (String × Except FileFault Bytes) :=
  let files := if files.isEmpty then ["-"] else files
  files.map fun f =>
    if f = "-" then (f, .ok c.input)
    else (f, (c.disk.readBytes f).map ByteArray.toList)

/-- The files named include the input. -/
def usesInput (files : List String) : Bool :=
  files.isEmpty || files.contains "-"

/-- The result of a tool that handles all its files together, with a complaint
on each that cannot be read. -/
def overFiles (c : ToolCall) (files : List String) (failure : Nat)
    (act : List (String × Bytes) → Bytes × Nat) : ToolResult :=
  let read := c.contents files
  let good := read.filterMap fun (f, r) =>
    match r with
    | .ok bytes => some (f, bytes)
    | .error _ => none
  let bad := read.filterMap fun (f, r) =>
    match r with
    | .ok _ => none
    | .error fault => some (c.complaint (f ++ ": " ++ fault.text))
  let (out, status) := act good
  { out := out
    err := bad.flatten
    status := if bad.isEmpty then status else failure
    readsInput := usesInput files }

end ToolCall

def lineFeed : UInt8 := 10

/-- The lines of some bytes, without their line feeds. -/
def byteLines (bytes : Bytes) : List Bytes :=
  go [] bytes
where
  /-- Collects lines; the line being read is kept reversed. -/
  go (line : Bytes) : Bytes → List Bytes
    | [] => if line.isEmpty then [] else [line.reverse]
    | b :: rest =>
      if b = lineFeed then line.reverse :: go [] rest else go (b :: line) rest

def joinLines (lines : List Bytes) : Bytes :=
  lines.flatMap fun l => l ++ [lineFeed]

/-- Splits options off: letters after a dash, up to the first other argument or
two dashes. -/
def splitOptions : List String → List Char × List String
  | [] => ([], [])
  | arg :: rest =>
    match arg.toList with
    | ['-', '-'] => ([], rest)
    | '-' :: c :: cs =>
      let (options, rest) := splitOptions rest
      (c :: cs ++ options, rest)
    | _ => ([], arg :: rest)

/-- The whole number that a text writes down. -/
def decimal? (text : String) : Option Int :=
  let number? (ds : List Char) : Option Nat :=
    if ds.isEmpty || !ds.all Char.isDigit then none
    else some (ds.foldl (fun n d => 10 * n + (d.toNat - '0'.toNat)) 0)
  match text.toList with
  | '-' :: ds => (number? ds).map fun n => -(n : Int)
  | '+' :: ds => (number? ds).map fun n => (n : Int)
  | ds => (number? ds).map fun n => (n : Int)

end Host
end Concord
