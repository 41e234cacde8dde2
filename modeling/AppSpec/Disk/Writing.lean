import AppSpec.Disk.Basic

/-!
# Writing files

A file is written only when its content would change, and the directories above it are made.
-/

namespace AppSpec

/-- Why a file could not be written. -/
inductive WriteFault where
  | directory (path : String) (cause : DiskFault)
  | file (path : String) (cause : DiskFault)
deriving DecidableEq, Repr, Inhabited

def WriteFault.text : WriteFault → String
  | .directory path cause => "failed to create '" ++ path ++ "': " ++ cause.text
  | .file path cause => "failed to write '" ++ path ++ "': " ++ cause.text

namespace Disk

/-- The file holds that very text. -/
def holds (d : Disk) (path content : String) : Bool :=
  match d.readText path with
  | .ok s => s == content
  | .error _ => false

/-- Makes the directory that a file is to be in. -/
def makeParent (d : Disk) (path : String) : Except WriteFault Unit × Disk :=
  match FilePath.directory? path with
  | none => (.ok (), d)
  | some above =>
    let (result, d) := d.makeDirectories above
    (result.mapError (.directory above), d)

/-- Puts text into a file; directories that were made for it stay even if that fails. -/
def writeText (d : Disk) (path content : String) : Except WriteFault Unit × Disk :=
  match d.makeParent path with
  | (.error fault, d) => (.error fault, d)
  | (.ok (), d) =>
    match d.writeBytes path content.toUTF8 with
    | .ok d => (.ok (), d)
    | .error cause => (.error (.file path cause), d)

/-- Writes the text unless the file holds it already, and says whether it wrote. -/
def update (d : Disk) (path content : String) : Except WriteFault Bool × Disk :=
  if d.holds path content then (.ok false, d)
  else
    let (result, d) := d.writeText path content
    (result.map fun _ => true, d)

end Disk

end AppSpec
