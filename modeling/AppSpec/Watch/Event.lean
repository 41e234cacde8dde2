import AppSpec.Dialect

/-!
# File events

Which events of a watched directory count as a change of a specification file.
-/

namespace AppSpec.Watch

inductive EventKind where
  | any
  | access
  | create
  | modify
  | remove
  | other
deriving DecidableEq, Repr, Inhabited

/-- Creating, modifying and removing a file change it. -/
def EventKind.isChange : EventKind → Bool
  | .create | .modify | .remove => true
  | .any | .access | .other => false

structure Event where
  kind : EventKind
  paths : List String
deriving DecidableEq, Repr, Inhabited

/-- A specification file directly inside the directory. -/
def isWatched (dir path : String) : Bool :=
  FilePath.parent? path == some (FilePath.components dir) && (Dialect.ofPath? path).isSome

/-- The first changed specification file of an event. -/
def Event.changed? (e : Event) (dir : String) : Option String :=
  if e.kind.isChange then e.paths.find? (isWatched dir) else none

end AppSpec.Watch
