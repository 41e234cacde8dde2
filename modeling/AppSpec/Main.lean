import AppSpec.CommandLine.Program
import AppSpec.Disk.Standard

/-!
# The command line program

Takes in the files of the project and of the current directory, runs the program on them, writes back
what it changed, and prints what it printed.
-/

namespace AppSpec.Main

/-- How deep directories are taken in. -/
def maxDepth : Nat := 64

/-- A file counts as a program when it names an interpreter. -/
def isScript (content : ByteArray) : Bool :=
  (content.extract 0 2).toList == [35, 33]

def placeOf (path : String) : Place :=
  (FilePath.components path).filterMap fun
    | .name s => some s
    | _ => none

/-- Takes in a directory and all below it, `depth` levels deep. -/
def takeIn (d : Disk) (path : String) : Nat → IO Disk
  | 0 => return d
  | depth + 1 => do
    let mut d := d.withDirectory (placeOf path)
    for entry in ← (← IO.FS.realPath path).readDir do
      let child := FilePath.join path entry.fileName
      if ← entry.path.isDir then
        d ← takeIn d child depth
      else if ← entry.path.pathExists then
        let content ← IO.FS.readBinFile child
        d := d.withFile (placeOf child) content (isScript content)
    return d

/-- The root that the arguments name. -/
def rootOf (arguments : List String) : String :=
  match CommandLine.Command.ofArguments? arguments with
  | .ok (.build root _ _ _ _) | .ok (.check root) => root
  | _ => "."

/-- The system's programs, the current directory, and the files of the project. -/
def readDisk (arguments : List String) : IO Disk := do
  let here ← IO.FS.realPath "."
  let d := Disk.standard.withDirectory (placeOf here.toString)
  let d := { d with here := placeOf here.toString }
  let root ← IO.FS.realPath (rootOf arguments)
  if ← root.isDir then takeIn d root.toString maxDepth else return d

/-- Writes back one place unless it is as it was. -/
def writeBack (before : Disk) (place : Place) (n : Node) : IO Unit := do
  if before.node? place != some n then
    let path := Shell.placeText place
    match n with
    | .directory => IO.FS.createDirAll path
    | .file content _ => IO.FS.writeBinFile path content
    | .utility _ => return ()

/-- Takes away the files that are there no longer. -/
def takeAway (after : Disk) (place : Place) (n : Node) : IO Unit := do
  match n, after.node? place with
  | .file _ _, none => IO.FS.removeFile (Shell.placeText place)
  | _, _ => return ()

end AppSpec.Main

open AppSpec in
def main (arguments : List String) : IO UInt32 := do
  let before ← Main.readDisk arguments
  let ending := CommandLine.run before arguments
  for (place, n) in ending.disk.nodes do
    Main.writeBack before place n
  for (place, n) in before.nodes do
    Main.takeAway ending.disk place n
  IO.print ending.output.out
  IO.eprint ending.output.err
  return UInt32.ofNat ending.exit
