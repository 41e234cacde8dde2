import AppSpec.Toml.Scalar

/-!
# Tables of configuration text

Statements fill tables. A header may open a table that so far was only implied by the headers of its
children; a table written out, built by dotted keys or written between braces is closed to it.
-/

namespace AppSpec.Toml

/-- How a table came to be. -/
inductive Origin where
  | written
  | implied
  | dotted
  | braces
deriving DecidableEq, Repr, Inhabited

inductive Node where
  | scalar (s : Scalar) (span : Span)
  | array (items : List Node) (ofTables : Bool) (span : Span)
  | table (entries : List (String × Node)) (origin : Origin) (span : Span)
deriving Repr, Inhabited

def Node.span : Node → Span
  | .scalar _ s => s
  | .array _ _ s => s
  | .table _ _ s => s

def Node.typeName : Node → String
  | .scalar s _ =>
    match s with
    | .string _ => "string"
    | .integer _ | .overflow false => "integer"
    | .float _ | .overflow true => "float"
    | .boolean _ => "boolean"
    | .datetime => "datetime"
  | .array _ _ _ => "array"
  | .table _ .braces _ => "inline table"
  | .table _ _ _ => "table"

abbrev Fields := List (String × Node)

namespace Fields

def set (key : String) (n : Node) : Fields → Fields
  | [] => [(key, n)]
  | (k, m) :: rest => if k = key then (key, n) :: rest else (k, m) :: set key n rest

end Fields

/-- A key with its place. -/
structure Key where
  name : String
  span : Span
deriving Repr, Inhabited

/-- Changes the fields at the end of a path, which is laid where it is missing. -/
def changeAt (dotted : Bool) (change : Origin → Fields → Except Fault Fields) :
    List Key → Origin → Fields → Except Fault Fields
  | [], origin, f => change origin f
  | key :: path, _, f =>
    match f.lookup key.name with
    | none => do
      let origin := if dotted then Origin.dotted else Origin.implied
      let inner ← changeAt dotted change path origin []
      return Fields.set key.name (.table inner origin key.span) f
    | some (.table inner origin span) =>
      if origin = .braces then .error ⟨.notATable "inline table", key.span⟩
      else if dotted && origin = .written then .error ⟨.duplicateKey, key.span⟩
      else do
        let inner ← changeAt dotted change path origin inner
        return Fields.set key.name (.table inner origin span) f
    | some (.array items true span) =>
      match items.getLast? with
      | some (.table inner origin s) => do
        let inner ← changeAt dotted change path origin inner
        return Fields.set key.name (.array (items.dropLast ++ [.table inner origin s]) true span) f
      | _ => .error ⟨.notATable "array", key.span⟩
    | some other => .error ⟨.notATable other.typeName, key.span⟩

def decodeKeys (keys : List RawKey) : Except Fault (List Key) :=
  keys.mapM fun k => k.decode.map fun name => ⟨name, k.span⟩

/-- Puts a value under a key with points; tables built so and others do not mix. -/
def assign (keys : List Key) (n : Node) (origin : Origin) (f : Fields) : Except Fault Fields :=
  match keys.getLast? with
  | none => .ok f
  | some key =>
    let path := keys.dropLast
    changeAt (!path.isEmpty) (fun origin f =>
      if (origin == .dotted) == path.isEmpty then .error ⟨.duplicateKey, key.span⟩
      else if (f.lookup key.name).isSome then .error ⟨.duplicateKey, key.span⟩
      else .ok (Fields.set key.name n f)) path origin f

mutual

def RawValue.node : RawValue → Except Fault Node
  | .scalar text quoting span => (decodeScalar text quoting span).map fun s => .scalar s span
  | .array items span => do return .array (← itemNodes items) false span
  | .braces entries span => do return .table (← entryFields [] entries) .braces span

def itemNodes : List RawValue → Except Fault (List Node)
  | [] => .ok []
  | v :: rest => do
    let n ← v.node
    return n :: (← itemNodes rest)

def entryFields (f : Fields) : List (List RawKey × RawValue) → Except Fault Fields
  | [] => .ok f
  | (keys, v) :: rest => do
    let keys ← decodeKeys keys
    let n ← v.node
    entryFields (← assign keys n .written f) rest

end

/-- The table that is being filled and where it will stand. -/
structure Opened where
  isArray : Bool
  path : List Key
  key : Key
  span : Span

structure Builder where
  root : Fields := []
  current : Fields := []
  opened : Option Opened := none

/-- Puts the table that was being filled where it belongs. -/
def Builder.close (b : Builder) : Except Fault Fields :=
  match b.opened with
  | none => .ok b.current
  | some o =>
    let table := Node.table b.current .written o.span
    changeAt false (fun _ f =>
      if !o.isArray then .ok (Fields.set o.key.name table f)
      else
        match f.lookup o.key.name with
        | none => .ok (Fields.set o.key.name (.array [table] true o.span) f)
        | some (.array items true span) =>
          .ok (Fields.set o.key.name (.array (items ++ [table]) true span) f)
        | some _ => .error ⟨.duplicateKey, o.key.span⟩) o.path .written b.root

/-- What a table opened by a header already holds. -/
def Opened.fields (o : Opened) (root : Fields) : Except Fault Fields := do
  let f ← fieldsAt o.path root
  match f.lookup o.key.name with
  | none => return []
  | some (.table inner .implied _) =>
    if o.isArray then throw ⟨.duplicateKey, o.key.span⟩ else return inner
  | some (.array _ true _) =>
    if o.isArray then return [] else throw ⟨.duplicateKey, o.key.span⟩
  | some _ => throw ⟨.duplicateKey, o.key.span⟩
where
  /-- The fields at the end of a path, empty where it is missing. -/
  fieldsAt : List Key → Fields → Except Fault Fields
    | [], f => .ok f
    | key :: path, f =>
      match f.lookup key.name with
      | none => .ok []
      | some (.table inner origin _) =>
        if origin = .braces then .error ⟨.notATable "inline table", key.span⟩
        else fieldsAt path inner
      | some (.array items true _) =>
        match items.getLast? with
        | some (.table inner _ _) => fieldsAt path inner
        | _ => .error ⟨.notATable "array", key.span⟩
      | some other => .error ⟨.notATable other.typeName, key.span⟩

def Builder.add (b : Builder) : Statement → Except Fault Builder
  | .assignment keys v => do
    let keys ← decodeKeys keys
    let n ← v.node
    return { b with current := ← assign keys n .written b.current }
  | .header isArray keys span => do
    let root ← b.close
    let keys ← decodeKeys keys
    match keys.getLast? with
    | none => return { root := root, current := [], opened := b.opened }
    | some key =>
      let o : Opened := ⟨isArray, keys.dropLast, key, span⟩
      let current ← o.fields root
      return { root := root, current := current, opened := some o }

/-- The table of a whole text. -/
def parse (text : String) : Except Fault Fields := do
  let ss ← statements text.toList
  let b ← ss.foldlM Builder.add {}
  b.close

end AppSpec.Toml
