import Concord.Host.Tool.Basic

/-!
# Tools on files and paths

Listing, making and removing files, the parts of a path, and waiting.
-/

namespace Concord
namespace Host

/-- The path without slashes at its end; the root stays. -/
def basename : Tool := fun c =>
  match (splitOptions c.args).2 with
  | [] => c.refuse "missing operand" 1
  | path :: more =>
    let path := Disk.dropSlashes path
    let name := if path = "/" then "/" else ((Path.parts path).getLast?).getD ""
    let ending := more.headD ""
    let stem :=
      if name ≠ ending && name.endsWith ending then
        (name.toList.take (name.length - ending.length))
      else name.toList
    { out := Text.toBytes (String.ofList stem ++ "\n") }

/-- The directory part of a path. -/
def dirname : Tool := fun c =>
  match (splitOptions c.args).2 with
  | [] => c.refuse "missing operand" 1
  | path :: _ =>
    let path := Disk.dropSlashes path
    let before := (path.toList.reverse.dropWhile (· != '/')).reverse
    let result :=
      if path = "/" then "/"
      else if before.isEmpty then "."
      else Disk.dropSlashes (String.ofList before)
    { out := Text.toBytes (result ++ "\n") }

/-- The names in a directory that a listing shows, in order. -/
def shownNames (all : Bool) (entries : List (String × FileTree)) :
    List String :=
  let names := (entries.map Prod.fst).mergeSort fun a b => a < b || a == b
  names.filter fun n => all || n.toList.head? != some '.'

def ls : Tool := fun c =>
  let (options, paths) := splitOptions c.args
  let all := options.contains 'a' || options.contains 'A'
  let paths := if paths.isEmpty then ["."] else paths
  let missing := paths.filter fun p => !c.disk.exists? p
  let files := paths.filter fun p =>
    (c.disk.find? p).any fun t => !t.isDirectory || options.contains 'd'
  let directories := paths.filterMap fun p =>
    match c.disk.find? p with
    | some (.directory entries) =>
      if options.contains 'd' then none else some (p, entries)
    | _ => none
  let complaints := missing.map fun p =>
    c.complaint ("cannot access '" ++ p ++ "': No such file or directory")
  let dots := if options.contains 'a' then [".", ".."] else []
  let blocks := directories.map fun (p, entries) =>
    (if 1 < paths.length then [p ++ ":"] else []) ++ dots ++
      shownNames all entries
  let fileBlock :=
    if files.isEmpty then [] else [files.mergeSort fun a b => a < b || a == b]
  let text :=
    "\n".intercalate ((fileBlock ++ blocks).map fun lines =>
      String.join (lines.map (· ++ "\n")))
  { out := Text.toBytes text
    err := complaints.flatten
    status := if missing.isEmpty then 0 else 2 }

/-- Prints the working directory. -/
def pwd : Tool := fun c =>
  { out :=
      Text.toBytes ("/" ++ "/".intercalate c.disk.workingDirectory ++ "\n") }

/-- Carries out a change for every path; a fault gives a complaint. -/
def changeAll (c : ToolCall) (paths : List String) (verb : String)
    (change : Disk → String → Except FileFault Disk) : ToolResult :=
  paths.foldl (fun r p =>
    let d := r.disk.getD c.disk
    match change d p with
    | .ok d => { r with disk := some d }
    | .error fault =>
      { r with
        err := r.err ++ c.complaint (verb ++ " '" ++ p ++ "': " ++ fault.text)
        status := 1 }) { disk := some c.disk }

def mkdir : Tool := fun c =>
  let (options, paths) := splitOptions c.args
  changeAll c paths "cannot create directory" fun d p =>
    if options.contains 'p' then d.makePath p else d.makeDirectory p

/-- Makes empty files where there are none. -/
def touch : Tool := fun c =>
  changeAll c (splitOptions c.args).2 "cannot touch" fun d p =>
    if d.exists? p then .ok d else d.write p ByteArray.empty

def rm : Tool := fun c =>
  let (options, paths) := splitOptions c.args
  let recursive := options.contains 'r' || options.contains 'R'
  changeAll c paths "cannot remove" fun d p =>
    match d.find? p with
    | none => if options.contains 'f' then .ok d else .error .notFound
    | some t =>
      if t.isDirectory && !recursive then .error .isDirectory else d.remove p

/-- Writes its input to files and prints it. -/
def tee : Tool := fun c =>
  let (options, paths) := splitOptions c.args
  let r := changeAll c paths "cannot write" fun d p =>
    let old :=
      if options.contains 'a' then
        ((d.readBytes p).toOption.getD ByteArray.empty).toList
      else []
    d.write p ⟨(old ++ c.input).toArray⟩
  { r with out := c.input, readsInput := true }

/-! ## Waiting -/

/-- The milliseconds that a number of seconds, minutes, hours or days with
decimals stands for. -/
def duration? (text : String) : Option Nat :=
  let cs := text.toList
  let (number, unit) : List Char × Nat :=
    match cs.getLast? with
    | some 's' => (cs.dropLast, 1000)
    | some 'm' => (cs.dropLast, 60000)
    | some 'h' => (cs.dropLast, 3600000)
    | some 'd' => (cs.dropLast, 86400000)
    | _ => (cs, 1000)
  let whole := number.takeWhile Char.isDigit
  let value (ds : List Char) : Nat :=
    ds.foldl (fun n d => 10 * n + (d.toNat - '0'.toNat)) 0
  match number.dropWhile Char.isDigit with
  | [] => if whole.isEmpty then none else some (value whole * unit)
  | '.' :: decimals =>
    if (whole.isEmpty && decimals.isEmpty) || !decimals.all Char.isDigit then
      none
    else
      some (value whole * unit +
        value decimals * unit / Nat.pow 10 decimals.length)
  | _ => none

/-- Waits for the sum of its arguments. -/
def sleep : Tool := fun c =>
  let hint := "\nTry 'sleep --help' for more information."
  match c.args.mapM duration? with
  | none =>
    let bad := (c.args.find? fun a => (duration? a).isNone).getD ""
    c.refuse ("invalid time interval '" ++ bad ++ "'" ++ hint) 1
  | some [] => c.refuse ("missing operand" ++ hint) 1
  | some ds => { durationMs := ds.foldl (· + ·) 0 }

def printenv : Tool := fun c =>
  let lines :=
    if c.args.isEmpty then c.env.map fun (n, v) => n ++ "=" ++ v
    else c.args.filterMap fun n => c.env.lookup n
  { out := Text.toBytes (String.join (lines.map (· ++ "\n")))
    status := if lines.length < c.args.length then 1 else 0 }

end Host
end Concord
