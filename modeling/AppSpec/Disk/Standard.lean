import AppSpec.Shell.Utility

/-!
# The system's own files

The directories and programs that every disk has.
-/

namespace AppSpec.Disk

/-- A disk that holds the system's programs. -/
def standard : Disk :=
  { nodes := [(["bin"], .directory), (["usr"], .directory), (["usr", "bin"], .directory),
      (["tmp"], .directory), (["dev"], .directory),
      (["dev", "null"], .file ByteArray.empty false)] ++
      Utility.all.flatMap fun u =>
        [(["bin", u.name], .utility u), (["usr", "bin", u.name], .utility u)] }

/-- Makes a place and those above it directories. -/
def withDirectory (d : Disk) (place : Place) : Disk :=
  (List.range place.length).foldl (fun d n =>
    match d.node? (place.take (n + 1)) with
    | some .directory => d
    | _ => d.put (place.take (n + 1)) .directory) d

/-- Puts a file at a place, with the directories above it. -/
def withFile (d : Disk) (place : Place) (content : ByteArray) (executable : Bool) : Disk :=
  (d.withDirectory place.dropLast).put place (.file content executable)

end AppSpec.Disk
