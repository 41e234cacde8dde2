import AppSpec.Yaml.Event
import AppSpec.Yaml.Implicit
import AppSpec.Text.Quoted

/-!
# From events to a value

An alias stands for a copy of the node it names, a local tag is kept, and a key may come once in a
mapping. Collections may be nested 128 deep, and aliases may be followed a hundred times for each
event of the text.
-/

namespace AppSpec.Yaml

inductive ReadProblem where
  | syntaxFault (f : Fault)
  | endOfText
  | secondDocument
  | tooDeep
  | tooManyAliases
  | unknownAnchor
  | wideInteger (n : Int)
  | wrongScalar (text expected : String)
  | emptyTag
  | duplicateKey (key : Value)
deriving Repr, Inhabited

/-- A problem, its path in the text and its place, so far as it has them. -/
structure ReadError where
  problem : ReadProblem
  path : Option String := none
  place : Option Mark := none
deriving Repr, Inhabited

def duplicateText : Value → String
  | .null => "with null key"
  | .bool b => "with key \x60" ++ (if b then "true" else "false") ++ "\x60"
  | .int n => "with key " ++ toString n
  | .float x => "with key " ++ Double.Layout.specification.text x
  | .string s => "with key " ++ Text.quoted s
  | .list _ | .map _ | .tagged _ _ => "in YAML map"

def ReadProblem.text : ReadProblem → String
  | .syntaxFault f => f.text
  | .endOfText => "EOF while parsing a value"
  | .secondDocument => "deserializing from YAML containing more than one document is not supported"
  | .tooDeep => "recursion limit exceeded"
  | .tooManyAliases => "repetition limit exceeded"
  | .unknownAnchor => "unknown anchor"
  | .wideInteger n =>
    "invalid type: integer \x60" ++ toString n ++ "\x60 as " ++ (if n < 0 then "i128" else "u128") ++
      ", expected any YAML value"
  | .wrongScalar text expected =>
    "invalid value: string " ++ Text.quoted text ++ ", expected " ++ expected
  | .emptyTag => "empty YAML tag is not allowed"
  | .duplicateKey key => "duplicate entry " ++ duplicateText key

def ReadError.text (e : ReadError) : String :=
  match e.problem with
  | .syntaxFault f => f.text
  | problem =>
    let path := match e.path with
      | some p => if p == "." then "" else p ++ ": "
      | none => ""
    let place := match e.place with
      | some m => if m.isStart then "" else " at " ++ m.text
      | none => ""
    path ++ problem.text ++ place

/-- Where an error points to, if anywhere. -/
def ReadError.mark? (e : ReadError) : Option Mark :=
  match e.problem with
  | .syntaxFault f => some f.place
  | _ => e.place

def ReadError.ofFault (f : Fault) : ReadError :=
  { problem := .syntaxFault f }

/-! ## One document -/

/-- A node of a document; an alias holds the number of the anchor it names. -/
inductive Item where
  | alias (anchor : Nat)
  | scalar (tag : Option (List UInt8)) (text : List Char) (style : ScalarStyle)
  | listStart (tag : Option (List UInt8))
  | listEnd
  | mapStart (tag : Option (List UInt8))
  | mapEnd
  | absent
deriving Repr, Inhabited

/-- The items of one document, where its anchors stand, and what cut it short. -/
structure Document where
  items : Array (Item × Mark) := #[]
  /-- The item that bears each anchor number. -/
  anchored : List (Nat × Nat) := []
  error : Option ReadError := none

/-- Anchor names with their numbers: a name is numbered by how many names came before it. -/
abbrev Anchors := List (List Char × Nat)

def Anchors.number (a : Anchors) (name : List Char) : Nat × Anchors :=
  let n := a.length
  (n, (name, n) :: a.filter (·.1 != name))

def Document.add (d : Document) (i : Item) (m : Mark) : Document :=
  { d with items := d.items.push (i, m) }

def Document.addNode (d : Document) (a : Anchors) (anchor : Option (List Char)) (i : Item) (m : Mark) :
    Document × Anchors :=
  match anchor with
  | none => (d.add i m, a)
  | some name =>
    let (n, a) := a.number name
    ({ d with anchored := (n, d.items.size) :: d.anchored }.add i m, a)

/-- Collects a document; what follows it is left. -/
def collectDocument (fault : Option Fault) :
    List (Event × Mark) → Anchors → Document → Document × Option (List (Event × Mark))
  | [], _, d => ({ d with error := fault.map ReadError.ofFault }, none)
  | (e, m) :: rest, a, d =>
    match e with
    | .streamEnd => (if d.items.isEmpty then d.add .absent m else d, none)
    | .documentStart => collectDocument fault rest a d
    | .documentEnd => (d, some rest)
    | .alias name =>
      match a.lookup name with
      | some n => collectDocument fault rest a (d.add (.alias n) m)
      | none => ({ d with error := some { problem := .unknownAnchor, place := some m } }, some rest)
    | .scalar anchor tag text style =>
      let (d, a) := d.addNode a anchor (.scalar tag text style) m
      collectDocument fault rest a d
    | .listStart anchor tag =>
      let (d, a) := d.addNode a anchor (.listStart tag) m
      collectDocument fault rest a d
    | .listEnd => collectDocument fault rest a (d.add .listEnd m)
    | .mapStart anchor tag =>
      let (d, a) := d.addNode a anchor (.mapStart tag) m
      collectDocument fault rest a d
    | .mapEnd => collectDocument fault rest a (d.add .mapEnd m)

/-! ## Scalars -/

def standardTag (kind : String) : List UInt8 :=
  ("tag:yaml.org,2002:" ++ kind).toUTF8.toList

/-- The name of a local tag: the text after its sign, or the sign alone. -/
def localTag? (tag : Option (List UInt8)) : Option String :=
  match tag with
  | some (0x21 :: rest) =>
    let octets := if rest.isEmpty then [0x21] else rest
    String.fromUTF8? (octets.toByteArray)
  | _ => none

/-- A tag's name without a second sign in front. -/
def tagName (s : String) : String :=
  match s.toList with
  | '!' :: c :: rest => String.ofList (c :: rest)
  | _ => s

def plainValue (text : List Char) : Except ReadProblem Value :=
  if text.isEmpty || isNullText text then .ok .null
  else
    match boolOfText? text with
    | some b => .ok (.bool b)
    | none =>
      match integerOfText text with
      | .value n => .ok (.int n)
      | .wide n => .error (.wideInteger n)
      | .other =>
        match if isPaddedNumber text then none else floatOfText? text with
        | some x => .ok (.float x)
        | none => .ok (.string (String.ofList text))

/-- The value of a scalar; inside a local tag a tag of its own is not looked at. -/
def scalarValue (tag : Option (List UInt8)) (text : List Char) (style : ScalarStyle)
    (insideTag : Bool) : Except ReadProblem Value :=
  let s := String.ofList text
  match if insideTag then none else tag with
  | none => if style = .plain then plainValue text else .ok (.string s)
  | some t =>
    if t == standardTag "bool" then
      match boolOfText? text with
      | some b => .ok (.bool b)
      | none => .error (.wrongScalar s "a boolean")
    else if t == standardTag "int" then
      match integerOfText text with
      | .value n => .ok (.int n)
      | .wide n => .error (.wideInteger n)
      | .other => .error (.wrongScalar s "an integer")
    else if t == standardTag "float" then
      match floatOfText? text with
      | some x => .ok (.float x)
      | none => .error (.wrongScalar s "a float")
    else if t == standardTag "null" then
      if isNullText text then .ok .null else .error (.wrongScalar s "null")
    else if t.head? == some 0x21 && style = .plain then plainValue text
    else .ok (.string s)

/-! ## Nodes -/

/-- The way from the root of a document to a node. -/
inductive Path where
  | root
  | item (parent : Path) (index : Nat)
  | entry (parent : Path) (key : String)
  | copy (parent : Path)
  | unknown (parent : Path)

def Path.text : Path → String
  | .root => "."
  | .item p i => p.text ++ "[" ++ toString i ++ "]"
  | .entry .root k => k
  | .entry p k => p.text ++ "." ++ k
  | .copy p => p.text
  | .unknown .root => "?"
  | .unknown p => p.text ++ ".?"

/-- The next item to read and how many aliases have been followed. -/
structure Progress where
  index : Nat := 0
  jumps : Nat := 0

def Document.item (d : Document) (i : Nat) : Except ReadError (Item × Mark) :=
  match d.items[i]? with
  | some x => .ok x
  | none => .error (d.error.getD { problem := .endOfText })

def problemAt (p : ReadProblem) (path : Path) (m : Mark) : ReadError :=
  { problem := p, path := some path.text, place := some m }

/-- The text by which a path names the key that comes next, if it is a scalar. -/
def keyPath (path : Path) : Item → Path
  | .scalar _ text _ => .entry path (String.ofList text)
  | _ => .unknown path

mutual

/-- Reads a node. `insideTag` tells that it is the content of a local tag. -/
def readNode (d : Document) : Nat → Path → Nat → Bool → Progress → Except ReadError (Value × Progress)
  | 0, _, _, _, _ => .error { problem := .endOfText }
  | fuel + 1, path, depth, insideTag, p => do
    let (item, m) ← d.item p.index
    let next := { p with index := p.index + 1 }
    match item with
    | .alias n =>
      let jumps := p.jumps + 1
      if d.items.size * 100 < jumps then throw { problem := .tooManyAliases }
      let target := (d.anchored.lookup n).getD d.items.size
      let (v, q) ← readNode d fuel (.copy path) depth false { index := target, jumps := jumps }
      return (v, { next with jumps := q.jumps })
    | .absent => return (.null, next)
    | .listEnd | .mapEnd => throw { problem := .endOfText }
    | .scalar tag text style =>
      match if insideTag then none else localTag? tag with
      | some name => tagged d fuel path depth name m p
      | none =>
        match scalarValue tag text style insideTag with
        | .ok v => return (v, next)
        | .error e => throw (problemAt e path m)
    | .listStart tag =>
      match if insideTag then none else localTag? tag with
      | some name => tagged d fuel path depth name m p
      | none =>
        match depth with
        | 0 => throw { problem := .tooDeep, place := some m }
        | depth + 1 =>
          let (items, q) ← readItems d fuel path depth 0 next
          return (.list items, q)
    | .mapStart tag =>
      match if insideTag then none else localTag? tag with
      | some name => tagged d fuel path depth name m p
      | none =>
        match depth with
        | 0 => throw { problem := .tooDeep, place := some m }
        | depth + 1 =>
          let (entries, q) ← readEntries d fuel path m depth insideTag [] next
          return (.map entries, q)

/-- A node under a local tag. -/
def tagged (d : Document) :
    Nat → Path → Nat → String → Mark → Progress → Except ReadError (Value × Progress)
  | 0, _, _, _, _, _ => .error { problem := .endOfText }
  | fuel + 1, path, depth, name, m, p =>
    if name.isEmpty then .error (problemAt .emptyTag path m)
    else do
      let (v, q) ← readNode d fuel path depth true p
      return (.tagged (tagName name) v, q)

def readItems (d : Document) : Nat → Path → Nat → Nat → Progress → Except ReadError (List Value × Progress)
  | 0, _, _, _, _ => .error { problem := .endOfText }
  | fuel + 1, path, depth, index, p => do
    let (item, _) ← d.item p.index
    match item with
    | .listEnd => return ([], { p with index := p.index + 1 })
    | _ =>
      let (v, p) ← readNode d fuel (.item path index) depth false p
      let (rest, p) ← readItems d fuel path depth (index + 1) p
      return (v :: rest, p)

/-- Entries after `before`, which are reversed. A key is checked before its value is read. -/
def readEntries (d : Document) :
    Nat → Path → Mark → Nat → Bool → List (Value × Value) → Progress →
      Except ReadError (List (Value × Value) × Progress)
  | 0, _, _, _, _, _, _ => .error { problem := .endOfText }
  | fuel + 1, path, start, depth, insideTag, before, p => do
    let (item, _) ← d.item p.index
    match item with
    | .mapEnd => return (before.reverse, { p with index := p.index + 1 })
    | _ =>
      let (key, p) ← readNode d fuel path depth insideTag p
      if let some (first, _) := before.find? (·.1.same key) then
        throw (problemAt (.duplicateKey first) path start)
      let (value, p) ← readNode d fuel (keyPath path item) depth false p
      readEntries d fuel path start depth insideTag ((key, value) :: before) p

end

/-- The value of a text with at most one document. -/
def read (text : String) : Except ReadError Value := do
  let reading := readEvents text.toList
  let (d, rest) := collectDocument reading.fault reading.events [] {}
  let (v, _) ← readNode d (140 * (d.items.size + 3)) .root 128 false {}
  if let some e := d.error then throw e
  match rest with
  | none => return v
  | some [(.streamEnd, _)] => return v
  | some _ => throw { problem := .secondDocument }

end AppSpec.Yaml
