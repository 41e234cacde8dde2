import AppSpec.Value.Decidable
import AppSpec.Value.Entries
import AppSpec.Value.Mapping

/-!
# Settings

A setting is a named entry of a mapping with a default. It is taken as it stands, as text or as a
flag, and what cannot be taken so counts as absent. Some settings may also be spelled in camel case;
that spelling wins when both are there.
-/

namespace AppSpec

/-- How a setting is read, and its default. -/
inductive Reading where
  | value (default : Value)
  | text (default : String)
  | flag (default : Bool)
deriving DecidableEq, Repr, Inhabited

structure Setting where
  name : String
  reading : Reading
  /-- A second spelling, which is looked at first. -/
  spelling : Option String := none
deriving DecidableEq, Repr, Inhabited

/-- Named values in a fixed order. -/
abbrev Record := List (String × Value)

namespace Setting

def emptyMap : Value := .map []

def emptyList : Value := .list []

def find? (s : Setting) (m : Value.Mapping) : Option Value :=
  match s.spelling with
  | some other => (m.get? other).or (m.get? s.name)
  | none => m.get? s.name

def read (s : Setting) (m : Value.Mapping) : Value :=
  match s.reading with
  | .value default => (s.find? m).getD default
  | .text default => .string (((s.find? m).bind Value.scalarText?).getD default)
  | .flag default => .bool (((s.find? m).bind Value.asBool?).getD default)

def readAll (ss : List Setting) (m : Value.Mapping) : Record :=
  ss.map fun s => (s.name, s.read m)

/-- A setting that may also be spelled as `camel`. -/
def feature (camel name : String) (reading : Reading) : Setting :=
  ⟨name, reading, some camel⟩

end Setting

def Record.toValue (r : Record) : Value :=
  .map (r.map fun e => (.string e.1, e.2))

def Entries.toValue (e : Entries Value) : Value :=
  .map (e.toList.map fun e => (.string e.1, e.2))

end AppSpec
