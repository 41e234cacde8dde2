/-!
# Keyed entries

Data under text keys in the order in which the keys first came. Putting a value under a present key
replaces the value and keeps the place; erasing closes the gap.
-/

namespace AppSpec

structure Entries (α : Type) where
  toList : List (String × α) := []
deriving DecidableEq, Repr, Inhabited

namespace Entries

variable {α : Type}

def empty : Entries α := ⟨[]⟩

def keys (e : Entries α) : List String :=
  e.toList.map Prod.fst

def size (e : Entries α) : Nat :=
  e.toList.length

def isEmpty (e : Entries α) : Bool :=
  e.toList.isEmpty

def get? (e : Entries α) (key : String) : Option α :=
  e.toList.lookup key

def contains (e : Entries α) (key : String) : Bool :=
  e.toList.any (·.1 == key)

def putIn (key : String) (value : α) : List (String × α) → List (String × α)
  | [] => [(key, value)]
  | (k, v) :: rest => if k == key then (key, value) :: rest else (k, v) :: putIn key value rest

def put (e : Entries α) (key : String) (value : α) : Entries α :=
  ⟨putIn key value e.toList⟩

def erase (e : Entries α) (key : String) : Entries α :=
  ⟨e.toList.filter (·.1 != key)⟩

def ofList (l : List (String × α)) : Entries α :=
  l.foldl (fun e (k, v) => e.put k v) empty

end Entries

end AppSpec
