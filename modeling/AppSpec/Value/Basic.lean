import AppSpec.Double.Layout

/-!
# Values

The values a specification file is made of. A mapping is the list of its entries in authored
order, and any value may be a key. A tag wraps the value it stands on, and most readers look
through it.
-/

namespace AppSpec

inductive Value where
  | null
  | bool (b : Bool)
  | int (n : Int)
  | float (x : Double)
  | string (s : String)
  | list (items : List Value)
  | map (entries : List (Value × Value))
  | tagged (tag : String) (content : Value)
deriving Repr, Inhabited

namespace Value

abbrev Mapping := List (Value × Value)

/-- The value under all its tags. -/
def untag : Value → Value
  | .tagged _ v => v.untag
  | v => v

def asString? (v : Value) : Option String :=
  match v.untag with
  | .string s => some s
  | _ => none

def asBool? (v : Value) : Option Bool :=
  match v.untag with
  | .bool b => some b
  | _ => none

def asMap? (v : Value) : Option Mapping :=
  match v.untag with
  | .map entries => some entries
  | _ => none

/-- The text of a scalar; null, lists and mappings have none. -/
def scalarText? : Value → Option String
  | .string s => some s
  | .int n => some (toString n)
  | .float x => some (Double.Layout.specification.text x)
  | .bool b => some (if b then "true" else "false")
  | .tagged _ v => v.scalarText?
  | .null | .list _ | .map _ => none

/-- What a message calls a value. -/
def kindName : Value → String
  | .null => "nothing"
  | .bool _ => "a boolean"
  | .int _ | .float _ => "a number"
  | .string _ => "a string"
  | .list _ => "a list"
  | .map _ => "a mapping"
  | .tagged _ _ => "a tagged value"

mutual

/-- Equal as keys: floats compare as numbers, and mappings without regard to order. -/
def same : Value → Value → Bool
  | .null, .null => true
  | .bool a, .bool b => a == b
  | .int a, .int b => a == b
  | .float a, .float b => a.sameNumber b
  | .string a, .string b => a == b
  | .list as, .list bs => sameItems as bs
  | .map as, .map bs => as.length == bs.length && sameEntries as bs
  | .tagged s a, .tagged t b => s == t && same a b
  | _, _ => false

def sameItems : List Value → List Value → Bool
  | [], [] => true
  | a :: as, b :: bs => same a b && sameItems as bs
  | _, _ => false

/-- Each entry has an equal one on the right. -/
def sameEntries : List (Value × Value) → List (Value × Value) → Bool
  | [], _ => true
  | (k, v) :: rest, bs => bs.any (fun e => same k e.1 && same v e.2) && sameEntries rest bs

end

def isNull : Value → Bool
  | .null => true
  | _ => false

end Value

end AppSpec
