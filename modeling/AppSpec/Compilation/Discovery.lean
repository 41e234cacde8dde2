import AppSpec.Dialect
import AppSpec.Disk.Basic

/-!
# Discovery

The specification files of a project are the files directly inside its flows directory whose names
end in the name of a dialect. The directory is scanned for one dialect after the other, and what the
scans find is put in the order of the bytes of the file names.
-/

namespace AppSpec

/-- A specification file. -/
structure Source where
  path : String
  dialect : Dialect
deriving DecidableEq, Repr, Inhabited

namespace Source

/-- The order in which files are merged: that of their names, and of their paths if these are the
same. -/
def order : Source → Source → Ordering :=
  compareLex (compareOn fun s => FilePath.fileName? s.path) fun s t => FilePath.order s.path t.path

def le (s t : Source) : Bool :=
  (order s t).isLE

end Source

def Dialect.suffix (d : Dialect) : String := "." ++ d.name

/-- What a look into the flows directory gives. -/
inductive Discovery where
  /-- There is no such directory. -/
  | absent
  | found (sources : List Source)
  /-- The names in the directory cannot be read. -/
  | unreadable (reason : String)
deriving DecidableEq, Repr, Inhabited

namespace Discovery

def sources : Discovery → List Source
  | .found sources => sources
  | .absent | .unreadable _ => []

def missing : Discovery → Bool
  | .absent => true
  | .found _ | .unreadable _ => false

/-- Goes on by one piece of a path; the current directory itself is left out of what follows it, and
an empty piece right behind it leads nowhere. -/
def descend (seen : String) (piece : String) : Option String :=
  if seen == "." then (if piece == "" then none else some piece)
  else some (FilePath.join seen piece)

/-- How a listing names a directory: without doubled slashes and without a point in front. -/
def listedAs? (dir : String) : Option String :=
  match FilePath.pieces dir with
  | "" :: rest => rest.foldlM descend "/"
  | pieces => pieces.foldlM descend "."

/-- The path of a listed name. -/
def pathIn (dir name : String) : String :=
  if dir == "." then name else FilePath.join dir name

def isFile : Node → Bool
  | .file _ _ | .utility _ => true
  | .directory => false

/-- The files of a listing whose names end in the suffix of the dialect. -/
def scan (listed : String) (listing : List (String × Node)) (δ : Dialect) : List Source :=
  (listing.filter fun entry => isFile entry.2 && δ.suffix.toList.isSuffixOf entry.1.toList).map
    fun entry => ⟨pathIn listed entry.1, δ⟩

/-- Scans the listing for one dialect after the other and sorts what was found. -/
def collect (listed : String) (dialects : List Dialect) (listing : List (String × Node)) :
    List Source :=
  (dialects.flatMap (scan listed listing)).mergeSort Source.le

/-- What is told of a directory whose names cannot be read. -/
def unreadableText (listed : String) (cause : DiskFault) : String :=
  "failed to read flows directory entry: attempting to read `" ++ listed ++
    "` resulted in an error: " ++ cause.text

def run (d : Disk) (dir : String) : Discovery :=
  match d.find dir with
  | .ok (place, .directory) =>
    match listedAs? dir with
    | none => .found []
    | some listed =>
      match d.list place with
      | .error cause => .unreadable (unreadableText listed cause)
      | .ok listing => .found (collect listed Dialect.all listing)
  | _ => .absent

end Discovery

end AppSpec
