import AppSpec.Yaml.TokenStream

/-!
# Events

A text as a sequence of scalars, aliases and the beginnings and ends of collections. The grammar is a
pushdown automaton: what is expected next, and what is expected after the construct at hand ends.
When a fault stops it, the events before the fault stand.
-/

namespace AppSpec.Yaml

inductive Event where
  | streamEnd
  | documentStart
  | documentEnd
  | alias (name : List Char)
  | scalar (anchor : Option (List Char)) (tag : Option (List UInt8)) (text : List Char)
      (style : ScalarStyle)
  | listStart (anchor : Option (List Char)) (tag : Option (List UInt8))
  | listEnd
  | mapStart (anchor : Option (List Char)) (tag : Option (List UInt8))
  | mapEnd
deriving Repr, Inhabited

/-- What the grammar expects next. -/
inductive Expected where
  | firstDocument
  | document
  | content
  | documentEnd
  | blockNode
  | blockEntryFirst
  | blockEntry
  | indentlessEntry
  | blockKeyFirst
  | blockKey
  | blockValue
  | flowItemFirst
  | flowItem
  | pairKey
  | pairValue
  | pairEnd
  | flowKeyFirst
  | flowKey
  | flowValue
  | flowEmptyValue
  | nothing
deriving DecidableEq, Repr, Inhabited

structure Grammar where
  tokens : TokenStream
  expected : Expected := .firstDocument
  /-- What follows the constructs that are open, the innermost first. -/
  pending : List Expected := []
  /-- Where the open collections began. -/
  opened : List Mark := []
  handles : List (List Char × List UInt8) := []

abbrev Step := Except Fault ((Event × Mark) × Grammar)

namespace Grammar

def peek (g : Grammar) : Except Fault (Placed × Grammar) := do
  let (t, s) ← g.tokens.peek
  return (t, { g with tokens := s })

def drop (g : Grammar) : Grammar :=
  { g with tokens := g.tokens.drop }

/-- Goes on with what is pending. -/
def resume (g : Grammar) : Grammar :=
  { g with expected := g.pending.headD .nothing, pending := g.pending.tail }

def expecting (g : Grammar) (e : Expected) : Grammar :=
  { g with expected := e }

def later (g : Grammar) (e : Expected) : Grammar :=
  { g with pending := e :: g.pending }

def fail (problem : Problem) (place : Mark) : Fault :=
  { problem := problem, place := place }

def failIn (problem : Problem) (place : Mark) (construct : Construct) (start : Mark) : Fault :=
  { problem := problem, place := place, around := some (construct, start) }

/-- The start of the innermost open collection. -/
def openMark (g : Grammar) : Mark :=
  g.opened.headD {}

def emptyScalar (mark : Mark) : Event × Mark :=
  (.scalar none none [] .plain, mark)

/-- Closes the collection at hand. -/
def finish (g : Grammar) (e : Event) (t : Placed) : Step :=
  .ok ((e, t.start), { g.resume.drop with opened := g.opened.tail })

def addHandle (g : Grammar) (handle : List Char) (start : List UInt8) : Grammar :=
  if g.handles.any (·.1 == handle) then g
  else { g with handles := g.handles ++ [(handle, start)] }

/-- Directives before a document; `versioned` tells that a version directive has come. -/
def directives : Nat → Bool → Grammar → Except Fault Grammar
  | 0, _, g => .ok g
  | fuel + 1, versioned, g => do
    let (t, g) ← g.peek
    match t.token with
    | .versionDirective major minor =>
      if versioned then throw (fail .duplicateVersion t.start)
      if major != 1 || (minor != 1 && minor != 2) then throw (fail .incompatibleVersion t.start)
      directives fuel true g.drop
    | .tagDirective handle start =>
      if g.handles.any (·.1 == handle) then throw (fail .duplicateTagHandle t.start)
      directives fuel versioned (g.addHandle handle start).drop
    | _ =>
      return (g.addHandle ['!'] (charOctets '!')).addHandle ['!', '!']
        ("tag:yaml.org,2002:".toUTF8.toList)

/-- Past extra document end indicators. -/
def skipDocumentEnds : Nat → Grammar → Except Fault (Placed × Grammar)
  | 0, g => g.peek
  | fuel + 1, g => do
    let (t, g) ← g.peek
    if t.token = .documentEnd then skipDocumentEnds fuel g.drop else return (t, g)

def documentStart (g : Grammar) (first : Bool) : Step := do
  let (t, g) ← if first then g.peek else skipDocumentEnds (g.tokens.size + 1) g
  match t.token with
  | .streamEnd => return ((.streamEnd, t.start), g.drop.expecting .nothing)
  | .versionDirective _ _ | .tagDirective _ _ | .documentStart => explicitDocument t g
  | _ =>
    if first then
      let g ← directives (g.tokens.size + 1) false g
      return ((.documentStart, t.start), (g.later .documentEnd).expecting .blockNode)
    else explicitDocument t g
where
  explicitDocument (t : Placed) (g : Grammar) : Step := do
    let g ← directives (g.tokens.size + 1) false g
    let (marker, g) ← g.peek
    if marker.token ≠ .documentStart then throw (fail .missingDocumentStart marker.start)
    return ((.documentStart, t.start), (g.later .documentEnd).drop.expecting .content)

def documentEnd (g : Grammar) : Step := do
  let (t, g) ← g.peek
  let g := if t.token = .documentEnd then g.drop else g
  return ((.documentEnd, t.start), { g with handles := [], expected := .document })

/-- The properties in front of a node. -/
structure Properties where
  anchor : Option (List Char) := none
  tag : Option (List Char × List UInt8 × Mark) := none
  start : Mark

/-- An anchor and a tag in either order, each at most once. -/
def properties (g : Grammar) : Except Fault (Properties × Placed × Grammar) := do
  let (t, g) ← g.peek
  match t.token with
  | .anchor name =>
    let (u, g) ← g.drop.peek
    match u.token with
    | .tag handle suffix =>
      let (v, g) ← g.drop.peek
      return (⟨some name, some (handle, suffix, u.start), t.start⟩, v, g)
    | _ => return (⟨some name, none, t.start⟩, u, g)
  | .tag handle suffix =>
    let (u, g) ← g.drop.peek
    match u.token with
    | .anchor name =>
      let (v, g) ← g.drop.peek
      return (⟨some name, some (handle, suffix, t.start), t.start⟩, v, g)
    | _ => return (⟨none, some (handle, suffix, t.start), t.start⟩, u, g)
  | _ => return (⟨none, none, t.start⟩, t, g)

/-- The whole tag: its handle stands for the text that a directive gave it. -/
def resolveTag (g : Grammar) (p : Properties) : Except Fault (Option (List UInt8)) :=
  match p.tag with
  | none => .ok none
  | some ([], suffix, _) => .ok (some suffix)
  | some (handle, suffix, mark) =>
    match g.handles.lookup handle with
    | some start => .ok (some (start ++ suffix))
    | none => .error (failIn .undefinedTagHandle mark .node p.start)

/-- A node; a list without indentation may stand only where `indentless` allows it. -/
def node (g : Grammar) (block indentless : Bool) : Step := do
  let (t, g) ← g.peek
  match t.token with
  | .alias name => return ((.alias name, t.start), g.resume.drop)
  | _ =>
    let (p, t, g) ← g.properties
    let tag ← g.resolveTag p
    let place := p.start
    match t.token, block with
    | .scalar text style, _ => return ((.scalar p.anchor tag text style, place), g.resume.drop)
    | .flowSequenceStart, _ => return ((.listStart p.anchor tag, place), g.expecting .flowItemFirst)
    | .flowMappingStart, _ => return ((.mapStart p.anchor tag, place), g.expecting .flowKeyFirst)
    | .blockSequenceStart, true =>
      return ((.listStart p.anchor tag, place), g.expecting .blockEntryFirst)
    | .blockMappingStart, true => return ((.mapStart p.anchor tag, place), g.expecting .blockKeyFirst)
    | other, _ =>
      if indentless && other = .blockEntry then
        return ((.listStart p.anchor tag, place), g.expecting .indentlessEntry)
      else if p.anchor.isSome || tag.isSome then
        return ((.scalar p.anchor tag [] .plain, place), g.resume)
      else
        throw (failIn .missingNode t.start (if block then .blockNode else .flowNode) p.start)

def content (g : Grammar) : Step := do
  let (t, g) ← g.peek
  match t.token with
  | .versionDirective _ _ | .tagDirective _ _ | .documentStart | .documentEnd | .streamEnd =>
    return (emptyScalar t.start, g.resume)
  | _ => g.node true false

/-- Takes the token that opens a collection. -/
def enter (g : Grammar) : Except Fault Grammar := do
  let (t, g) ← g.peek
  return { g.drop with opened := t.start :: g.opened }

def blockEntry (g : Grammar) : Step := do
  let (t, g) ← g.peek
  match t.token with
  | .blockEntry =>
    let (u, g) ← g.drop.peek
    match u.token with
    | .blockEntry | .blockEnd => return (emptyScalar t.stop, g.expecting .blockEntry)
    | _ => (g.later .blockEntry).node true false
  | .blockEnd => g.finish .listEnd t
  | _ => throw (failIn .missingDash t.start .blockCollection g.openMark)

def indentlessEntry (g : Grammar) : Step := do
  let (t, g) ← g.peek
  match t.token with
  | .blockEntry =>
    let (u, g) ← g.drop.peek
    match u.token with
    | .blockEntry | .key | .value | .blockEnd =>
      return (emptyScalar t.stop, g.expecting .indentlessEntry)
    | _ => (g.later .indentlessEntry).node true false
  | _ => return ((.listEnd, t.start), g.resume)

/-- The node after a key or value sign of a block mapping, empty before the next sign. -/
def blockPart (g : Grammar) (sign : Placed) (next : Expected) : Step := do
  let (u, g) ← g.drop.peek
  match u.token with
  | .key | .value | .blockEnd => return (emptyScalar sign.stop, g.expecting next)
  | _ => (g.later next).node true true

def blockKey (g : Grammar) : Step := do
  let (t, g) ← g.peek
  match t.token with
  | .key => g.blockPart t .blockValue
  | .blockEnd => g.finish .mapEnd t
  | _ => throw (failIn .missingKey t.start .blockMapping g.openMark)

def blockValue (g : Grammar) : Step := do
  let (t, g) ← g.peek
  match t.token with
  | .value => g.blockPart t .blockKey
  | _ => return (emptyScalar t.start, g.expecting .blockKey)

/-- Past the comma between two items, if one has to come. -/
def separator (g : Grammar) (first : Bool) (close : Token) (problem : Problem)
    (construct : Construct) : Except Fault (Placed × Grammar) := do
  let (t, g) ← g.peek
  if first || t.token = close then return (t, g)
  if t.token = .flowEntry then g.drop.peek
  else throw (failIn problem t.start construct g.openMark)

def flowItem (g : Grammar) (first : Bool) : Step := do
  let (t, g) ← g.separator first .flowSequenceEnd .missingCommaOrBracket .flowSequence
  match t.token with
  | .flowSequenceEnd => g.finish .listEnd t
  | .key => return ((.mapStart none none, t.start), g.drop.expecting .pairKey)
  | _ => (g.later .flowItem).node false false

def pairKey (g : Grammar) : Step := do
  let (t, g) ← g.peek
  match t.token with
  | .value | .flowEntry | .flowSequenceEnd =>
    return (emptyScalar t.stop, g.drop.expecting .pairValue)
  | _ => (g.later .pairValue).node false false

def pairValue (g : Grammar) : Step := do
  let (t, g) ← g.peek
  if t.token = .value then
    let (u, g) ← g.drop.peek
    match u.token with
    | .flowEntry | .flowSequenceEnd => return (emptyScalar u.start, g.expecting .pairEnd)
    | _ => (g.later .pairEnd).node false false
  else return (emptyScalar t.start, g.expecting .pairEnd)

def pairEnd (g : Grammar) : Step := do
  let (t, g) ← g.peek
  return ((.mapEnd, t.start), g.expecting .flowItem)

def flowKey (g : Grammar) (first : Bool) : Step := do
  let (t, g) ← g.separator first .flowMappingEnd .missingCommaOrBrace .flowMapping
  match t.token with
  | .flowMappingEnd => g.finish .mapEnd t
  | .key =>
    let (u, g) ← g.drop.peek
    match u.token with
    | .value | .flowEntry | .flowMappingEnd =>
      return (emptyScalar u.start, g.expecting .flowValue)
    | _ => (g.later .flowValue).node false false
  | _ => (g.later .flowEmptyValue).node false false

def flowValue (g : Grammar) : Step := do
  let (t, g) ← g.peek
  if t.token = .value then
    let (u, g) ← g.drop.peek
    match u.token with
    | .flowEntry | .flowMappingEnd => return (emptyScalar u.start, g.expecting .flowKey)
    | _ => (g.later .flowKey).node false false
  else return (emptyScalar t.start, g.expecting .flowKey)

def flowEmptyValue (g : Grammar) : Step := do
  let (t, g) ← g.peek
  return (emptyScalar t.start, g.expecting .flowKey)

def next (g : Grammar) : Step :=
  match g.expected with
  | .firstDocument => g.documentStart true
  | .document => g.documentStart false
  | .content => g.content
  | .documentEnd => g.documentEnd
  | .blockNode => g.node true false
  | .blockEntryFirst => do (← g.enter).blockEntry
  | .blockEntry => g.blockEntry
  | .indentlessEntry => g.indentlessEntry
  | .blockKeyFirst => do (← g.enter).blockKey
  | .blockKey => g.blockKey
  | .blockValue => g.blockValue
  | .flowItemFirst => do (← g.enter).flowItem true
  | .flowItem => g.flowItem false
  | .pairKey => g.pairKey
  | .pairValue => g.pairValue
  | .pairEnd => g.pairEnd
  | .flowKeyFirst => do (← g.enter).flowKey true
  | .flowKey => g.flowKey false
  | .flowValue => g.flowValue
  | .flowEmptyValue => g.flowEmptyValue
  | .nothing => .ok ((.streamEnd, {}), g)

end Grammar

/-- What was read, and the fault that ended it. -/
structure Reading where
  events : List (Event × Mark)
  fault : Option Fault

/-- Reads events until the end of the stream or a fault; `events` holds those read, reversed. -/
def readEventsFrom : Nat → List (Event × Mark) → Grammar → Reading
  | 0, events, _ => ⟨events.reverse, none⟩
  | fuel + 1, events, g =>
    match g.next with
    | .error fault => ⟨events.reverse, some fault⟩
    | .ok ((.streamEnd, mark), _) => ⟨((.streamEnd, mark) :: events).reverse, none⟩
    | .ok (event, g) => readEventsFrom fuel (event :: events) g

def isAllowedChar (c : Char) : Bool :=
  let n := c.toNat
  n == 9 || n == 0xA || n == 0xD || (0x20 ≤ n && n ≤ 0x7E) || n == 0x85 ||
    (0xA0 ≤ n && n ≤ 0xD7FF) || (0xE000 ≤ n && n ≤ 0xFFFD) || 0x10000 ≤ n

/-- How many bytes stand before the first character that no text may hold. -/
def forbiddenOffset? : List Char → Nat → Option Nat
  | [], _ => none
  | c :: rest, offset =>
    if isAllowedChar c then forbiddenOffset? rest (offset + c.utf8Size) else some offset

/-- The events of a text. A byte order mark at its beginning is not part of it. -/
def readEvents (cs : List Char) : Reading :=
  let (cs, skipped) := match cs with
    | '\uFEFF' :: rest => (rest, 3)
    | _ => (cs, 0)
  match forbiddenOffset? cs skipped with
  | some offset => ⟨[], some { problem := .controlCharacter, place := {}, offset := offset }⟩
  | none =>
    let g : Grammar := { tokens := TokenStream.ofText cs }
    match g.peek with
    | .error fault => ⟨[], some fault⟩
    | .ok (_, g) => readEventsFrom (16 * cs.length + 64) [] g.drop

end AppSpec.Yaml
