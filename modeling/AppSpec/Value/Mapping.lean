import AppSpec.Value.Basic

/-!
# Reading and changing mappings

A text key finds the entry whose key is that very text; a tagged key is never found by text.
-/

namespace AppSpec.Value

namespace Mapping

/-- The key is the text itself, not a tagged one. -/
def isKey (key : String) : Value → Bool
  | .string s => s == key
  | _ => false

def get? (m : Mapping) (key : String) : Option Value :=
  (m.find? fun e => isKey key e.1).map Prod.snd

def contains (m : Mapping) (key : String) : Bool :=
  m.any fun e => isKey key e.1

/-- Puts a value under a text key, in place if the key is there. -/
def put : Mapping → String → Value → Mapping
  | [], key, value => [(.string key, value)]
  | e :: rest, key, value =>
    if isKey key e.1 then (e.1, value) :: rest else e :: put rest key value

/-- Puts a value under any key, in place if an equal key is there. -/
def insert : Mapping → Value → Value → Mapping
  | [], key, value => [(key, value)]
  | e :: rest, key, value =>
    if e.1.same key then (e.1, value) :: rest else e :: insert rest key value

/-- Takes out the entry at `index`, the last entry moving into its place. -/
def swapErase (m : Mapping) (index : Nat) : Mapping :=
  match m.getLast? with
  | none => []
  | some last =>
    if index + 1 < m.length then (m.set index last).dropLast
    else if index + 1 = m.length then m.dropLast
    else m

/-- Takes out a text key, the last entry moving into its place. -/
def swapRemove (m : Mapping) (key : String) : Mapping :=
  match m.findIdx? fun e => isKey key e.1 with
  | some index => m.swapErase index
  | none => m

def textOr (m : Mapping) (key default : String) : String :=
  ((m.get? key).bind scalarText?).getD default

def boolOr (m : Mapping) (key : String) (default : Bool) : Bool :=
  ((m.get? key).bind asBool?).getD default

end Mapping

end AppSpec.Value
