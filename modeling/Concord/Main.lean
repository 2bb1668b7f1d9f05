import Concord.CommandLine.Program
import Concord.Config.File
import Concord.Source.Grammar

/-!
# Command line

Reads the files that the arguments name into a disk, runs the program on it,
prints what it prints and writes its output file.
-/

namespace Concord
namespace Main

/-- Copies the file or the directory tree at a path to a disk. -/
partial def loadTree (d : Disk) (path : String) : IO Disk := do
  let place ← IO.FS.realPath path
  if ← place.isDir then
    let mut disk := (d.makePath path).toOption.getD d
    for entry in ← place.readDir do
      disk ← loadTree disk (Path.join path entry.fileName)
    return disk
  else if ← place.pathExists then
    if d.exists? path then return d
    let content ← IO.FS.readBinFile place
    return (d.writeWithParents path content).toOption.getD d
  else return d

/-- Copies what stands at a path, if anything does. -/
def load (d : Disk) (path : String) : IO Disk :=
  try loadTree d path catch _ => return d

/-- Marks what stands at a path, without its content. -/
def mark (d : Disk) (path : String) : IO Disk := do
  try
    let place ← IO.FS.realPath path
    if ← place.isDir then return (d.makePath path).toOption.getD d
    else if d.exists? path || !(← place.pathExists) then return d
    else return (d.write path ByteArray.empty).toOption.getD d
  catch _ => return d

/-- The disk with all that the arguments name. -/
def diskFor (argv : List String) : IO Disk := do
  let here := (← IO.currentDir).toString
  let d := (Disk.fresh.makePath here).toOption.getD Disk.fresh
  let d := { d with workingDirectory := (d.locate here).toOption.getD [] }
  match Arguments.read argv with
  | .error _ => return d
  | .ok a =>
    let d ← (a.config.toList ++ a.suites).foldlM load d
    let d ← ((a.resolve d).toOption.elim [] Config.suites).foldlM load d
    let parents := a.outputFile.toList.flatMap fun path =>
      [(Path.parent? path).getD "", path]
    parents.foldlM mark d

def writeOutput (path : String) (content : ByteArray) : IO Unit := do
  match (Path.parent? path).filter (!·.isEmpty) with
  | some parent => IO.FS.createDirAll parent
  | none => pure ()
  IO.FS.writeBinFile path content

end Main
end Concord

/-- Runs the program. -/
def main (argv : List String) : IO UInt32 := do
  let disk ← Concord.Main.diskFor argv
  let builder : Concord.SnippetBuilder := ⟨Concord.Source.isWellFormed⟩
  let result := Concord.Program.run builder argv disk
  let output :=
    (Concord.Arguments.read argv).toOption.bind Concord.Arguments.outputFile
  match output with
  | none => pure ()
  | some path =>
    match result.disk.readBytes path with
    | .ok content =>
      if result.exitCode < 2 then Concord.Main.writeOutput path content
      else pure ()
    | .error _ => pure ()
  IO.print result.stdout
  IO.eprint result.stderr
  return result.exitCode.toUInt32
