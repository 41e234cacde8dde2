import AppSpec.Disk.Fault
import AppSpec.FilePath

/-!
# Disks

A disk is a finite set of files and directories, each at a place: the list of names that lead to it
from the top. A path is walked from the top or from the directory one is in, and every directory on
the way has to be there.
-/

namespace AppSpec

/-- A program that the system brings along. -/
inductive Utility where
  | basename
  | cat
  | copy
  | dirname
  | echo
  | env
  | fail
  | head
  | list
  | makeDirectory
  | move
  | printf
  | pwd
  | remove
  | shell
  | sleep
  | succeed
  | tail
  | test
  | touch
  | wordCount
deriving DecidableEq, Repr, Inhabited

inductive Node where
  | directory
  | file (content : ByteArray) (executable : Bool)
  | utility (program : Utility)
deriving Inhabited

namespace Node

def decEq : (a b : Node) → Decidable (a = b)
  | .directory, .directory => isTrue rfl
  | .file ⟨bs⟩ x, .file ⟨cs⟩ y =>
    if h : bs = cs ∧ x = y then isTrue (by rw [h.1, h.2]) else isFalse (by simpa using h)
  | .utility u, .utility v =>
    if h : u = v then isTrue (by rw [h]) else isFalse (by simpa using h)
  | .directory, .file _ _ | .directory, .utility _ | .file _ _, .directory | .file _ _, .utility _
  | .utility _, .directory | .utility _, .file _ _ => isFalse (by simp)

instance : DecidableEq Node := decEq

end Node

/-- The names that lead from the top to a file or directory. -/
abbrev Place := List String

structure Disk where
  nodes : List (Place × Node) := []
  /-- The directory from which relative paths are walked. -/
  here : Place := []
  /-- The directories whose names the system does not tell, and why. -/
  unreadable : List (Place × DiskFault) := []
deriving DecidableEq, Inhabited

namespace Disk

def node? (d : Disk) : Place → Option Node
  | [] => some .directory
  | place => d.nodes.lookup place

def putIn (place : Place) (n : Node) : List (Place × Node) → List (Place × Node)
  | [] => [(place, n)]
  | e :: rest => if e.1 = place then (place, n) :: rest else e :: putIn place n rest

def put (d : Disk) (place : Place) (n : Node) : Disk :=
  { d with nodes := putIn place n d.nodes }

/-- Succeeds at a directory. -/
def enter (d : Disk) (place : Place) : Except DiskFault Place :=
  match d.node? place with
  | some .directory => .ok place
  | some _ => .error .notADirectory
  | none => .error .notFound

/-- Walks on by one component; the last name that is walked need not be there. -/
def step (d : Disk) (place : Place) : FilePath.Component → Except DiskFault Place
  | .root => .ok []
  | .current => d.enter place
  | .parent => (d.enter place).map List.dropLast
  | .name s => (d.enter place).map fun p => p ++ [s]

def walk (d : Disk) (place : Place) (cs : List FilePath.Component) : Except DiskFault Place :=
  cs.foldlM d.step place

/-- The place of a path whose last name need not be there. -/
def locate (d : Disk) (path : String) : Except DiskFault Place :=
  if path == "" then .error .notFound
  else if path.toList.contains '\x00' then .error .badName
  else d.walk d.here (FilePath.components path)

/-- What a path names. -/
def find (d : Disk) (path : String) : Except DiskFault (Place × Node) := do
  let place ← d.locate path
  match d.node? place with
  | none => throw .notFound
  | some .directory => return (place, .directory)
  | some n => if FilePath.endsInDirectory path then throw .notADirectory else return (place, n)

def isDirectory (d : Disk) (path : String) : Bool :=
  match d.find path with
  | .ok (_, .directory) => true
  | _ => false

def isFile (d : Disk) (path : String) : Bool :=
  match d.find path with
  | .ok (_, .file _ _) | .ok (_, .utility _) => true
  | _ => false

def readBytes (d : Disk) (path : String) : Except DiskFault ByteArray := do
  match ← d.find path with
  | (_, .file content _) => return content
  | (_, .utility _) => return ByteArray.empty
  | (_, .directory) => throw .isADirectory

def readText (d : Disk) (path : String) : Except DiskFault String := do
  match String.fromUTF8? (← d.readBytes path) with
  | some s => return s
  | none => throw .notText

/-- The names in a directory in the order of their bytes, with what they name. -/
def children (d : Disk) (place : Place) : List (String × Node) :=
  let found := d.nodes.filterMap fun e =>
    match e.1.getLast? with
    | some name => if e.1.dropLast = place then some (name, e.2) else none
    | none => none
  found.mergeSort fun a b => decide (a.1 ≤ b.1)

/-- What a directory holds, if the system tells the names in it. -/
def list (d : Disk) (place : Place) : Except DiskFault (List (String × Node)) :=
  match d.unreadable.lookup place with
  | some cause => .error cause
  | none => .ok (d.children place)

/-- Makes one directory in a directory that is there. -/
def makeDirectory (d : Disk) (path : String) : Except DiskFault Disk := do
  let place ← d.locate path
  match d.node? place with
  | some _ => throw .exists
  | none =>
    match (FilePath.pieces path).getLast? with
    | some "." => throw .notFound
    | _ => return d.put place .directory

/-- A path and the directories above it, the path first. -/
def lineageOf (path : String) : Nat → List String
  | 0 => []
  | n + 1 =>
    match FilePath.directory? path with
    | some above => path :: lineageOf above n
    | none => [path]

/-- A path and the directories above it; there are no more than the path has components. -/
def lineage (path : String) : List String :=
  lineageOf path (FilePath.components path).length

/-- A directory that could not be made may have been there. -/
def settle (d : Disk) (path : String) (fault : DiskFault) : Except DiskFault Unit :=
  if d.isDirectory path then .ok () else .error fault

/-- Makes the first of the directories, making those behind it when they are missing. What was made
stays even if that fails. -/
def makeAll (d : Disk) : List String → Except DiskFault Unit × Disk
  | [] => (.ok (), d)
  | path :: above =>
    match d.makeDirectory path with
    | .ok d => (.ok (), d)
    | .error .notFound =>
      match makeAll d above with
      | (.error fault, d) => (.error fault, d)
      | (.ok (), d) =>
        match d.makeDirectory path with
        | .ok d => (.ok (), d)
        | .error fault => (d.settle path fault, d)
    | .error fault => (d.settle path fault, d)

/-- Makes a directory and all directories above it. -/
def makeDirectories (d : Disk) (path : String) : Except DiskFault Unit × Disk :=
  d.makeAll (lineage path)

/-- Puts content into the file of a path; its directory has to be there. -/
def writeBytes (d : Disk) (path : String) (content : ByteArray) : Except DiskFault Disk := do
  let place ← d.locate path
  match d.node? place with
  | some .directory => throw .isADirectory
  | some (.file _ executable) =>
    if FilePath.endsInDirectory path then throw .isADirectory
    else return d.put place (.file content executable)
  | some (.utility _) => throw .denied
  | none =>
    if FilePath.endsInDirectory path then throw .isADirectory
    else return d.put place (.file content false)

/-- Takes away a place and all below it. -/
def removeTree (d : Disk) (place : Place) : Disk :=
  { d with
    nodes := d.nodes.filter fun e => !place.isPrefixOf e.1
    unreadable := d.unreadable.filter fun e => !place.isPrefixOf e.1 }

def remove (d : Disk) (path : String) : Except DiskFault Disk := do
  let (place, _) ← d.find path
  return d.removeTree place

/-- The files at and below a place, as paths from there, in the order of their bytes. -/
def filesBelow (d : Disk) (place : Place) : List String :=
  let found := d.nodes.filterMap fun e =>
    match e.2 with
    | .directory => none
    | _ =>
      if place.isPrefixOf e.1 then some ("/".intercalate (e.1.drop place.length)) else none
  found.mergeSort fun a b => decide (a ≤ b)

end Disk

end AppSpec
