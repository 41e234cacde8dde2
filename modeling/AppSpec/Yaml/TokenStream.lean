import AppSpec.Yaml.ScalarText

/-!
# The token stream

Tokens are read on demand. Where a key might begin is remembered, so that a colon on the same line
can still put a key token, and the start of a mapping, in front of what was read since. Indentation
opens and closes block collections; inside brackets it has no meaning.
-/

namespace AppSpec.Yaml

/-- A place where a key without a question mark may begin. -/
structure SimpleKey where
  possible : Bool := false
  /-- The key opens a line of the enclosing block, so a colon has to come. -/
  required : Bool := false
  tokenNumber : Nat := 0
  mark : Mark := {}
deriving Repr, Inhabited

structure TokenStream where
  cursor : Cursor
  started : Bool := false
  /-- Tokens read and not yet taken. -/
  queue : List Placed := []
  taken : Nat := 0
  keyAllowed : Bool := false
  /-- One candidate for each open bracket, the innermost first, and one for the block context. -/
  candidates : List SimpleKey := []
  indent : Int := -1
  indents : List Int := []
  flowDepth : Nat := 0
  /-- How many characters the whole text has. -/
  size : Nat

namespace TokenStream

def ofText (cs : List Char) : TokenStream :=
  { cursor := { rest := cs }, size := cs.length }

def inFlow (s : TokenStream) : Bool :=
  s.flowDepth != 0

def enqueue (s : TokenStream) (t : Token) (start stop : Mark) : TokenStream :=
  { s with queue := s.queue ++ [⟨t, start, stop⟩] }

/-- Puts a token in front of the one with this number. -/
def insertAt (s : TokenStream) (number : Nat) (t : Token) (mark : Mark) : TokenStream :=
  { s with queue := s.queue.insertIdx (number - s.taken) ⟨t, mark, mark⟩ }

def failAt (s : TokenStream) (problem : Problem) : Fault :=
  { problem := problem, place := s.cursor.mark }

def missingColon (s : TokenStream) (key : SimpleKey) : Fault :=
  s.cursor.fault .missingColon .simpleKey key.mark

/-- A candidate lapses at the end of its line and after 1024 characters. -/
def isStale (s : TokenStream) (key : SimpleKey) : Bool :=
  key.possible &&
    (key.mark.line < s.cursor.mark.line || key.mark.index + 1024 < s.cursor.mark.index)

def dropStale (s : TokenStream) : Except Fault TokenStream :=
  match s.candidates.reverse.find? fun k => s.isStale k && k.required with
  | some k => .error (s.missingColon k)
  | none =>
    .ok { s with candidates := s.candidates.map fun k =>
            if s.isStale k then { k with possible := false } else k }

/-- Gives up the innermost candidate. -/
def dropCandidate (s : TokenStream) : Except Fault TokenStream :=
  match s.candidates with
  | k :: rest =>
    if k.possible && k.required then .error (s.missingColon k)
    else .ok { s with candidates := { k with possible := false } :: rest }
  | [] => .ok s

/-- Remembers that a key may begin here. -/
def saveCandidate (s : TokenStream) : Except Fault TokenStream :=
  if !s.keyAllowed then .ok s
  else do
    let key : SimpleKey :=
      { possible := true
        required := !s.inFlow && s.indent == s.cursor.mark.column
        tokenNumber := s.taken + s.queue.length
        mark := s.cursor.mark }
    let s ← s.dropCandidate
    return { s with candidates := key :: s.candidates.tail }

/-- Opens a block collection if the column is deeper than the current one. -/
def openBlock (s : TokenStream) (column : Nat) (number : Option Nat) (t : Token) (mark : Mark) :
    TokenStream :=
  if s.inFlow || (column : Int) ≤ s.indent then s
  else
    let s := { s with indents := s.indent :: s.indents, indent := column }
    match number with
    | some n => s.insertAt n t mark
    | none => s.enqueue t mark mark

/-- Closes the block collections that are deeper than the column. -/
def closeBlocks (column : Int) : List Int → TokenStream → TokenStream
  | [], s => s
  | outer :: rest, s =>
    if s.inFlow || s.indent ≤ column then s
    else
      let s := s.enqueue .blockEnd s.cursor.mark s.cursor.mark
      closeBlocks column rest { s with indent := outer, indents := rest }

def closeTo (s : TokenStream) (column : Int) : TokenStream :=
  closeBlocks column s.indents s

/-- Past blanks, comments and line breaks. A tab is blank only where no key may begin. -/
def skipToToken : Nat → TokenStream → TokenStream
  | 0, s => s
  | fuel + 1, s =>
    let c := s.cursor
    let c := if c.mark.column == 0 && c.has 0 (· == '\uFEFF') then c.next else c
    let c := c.skipWhile fun x => x == ' ' || ((s.inFlow || !s.keyAllowed) && x == '\t')
    let c := if c.has 0 (· == '#') then c.skipWhile (!isBreak ·) else c
    if c.has 0 isBreak then
      skipToToken fuel
        { s with cursor := c.skipLine, keyAllowed := s.keyAllowed || !s.inFlow }
    else { s with cursor := c }

/-- Takes a token of `length` characters at the cursor. -/
def emit (s : TokenStream) (t : Token) (length : Nat) : TokenStream :=
  let after := s.cursor.skip length
  { s.enqueue t s.cursor.mark after.mark with cursor := after }

/-- Adds a token that a scanner has read. -/
def push (s : TokenStream) (r : Placed × Cursor) : TokenStream :=
  { s with queue := s.queue ++ [r.1], cursor := r.2 }

def fetchStart (s : TokenStream) : TokenStream :=
  { s.enqueue .streamStart s.cursor.mark s.cursor.mark with
    started := true, keyAllowed := true, candidates := [{}] }

def fetchEnd (s : TokenStream) : Except Fault TokenStream := do
  let m := s.cursor.mark
  let m := if m.column != 0 then { m with line := m.line + 1, column := 0 } else m
  let s := { s with cursor := { s.cursor with mark := m } }
  let s ← (s.closeTo (-1)).dropCandidate
  return { s with keyAllowed := false }.enqueue .streamEnd m m

def fetchDirective (s : TokenStream) : Except Fault TokenStream := do
  let s ← (s.closeTo (-1)).dropCandidate
  return { s with keyAllowed := false }.push (← scanDirective s.cursor)

def fetchDocumentIndicator (s : TokenStream) (t : Token) : Except Fault TokenStream := do
  let s ← (s.closeTo (-1)).dropCandidate
  return { s with keyAllowed := false }.emit t 3

def fetchFlowStart (s : TokenStream) (t : Token) : Except Fault TokenStream := do
  let s ← s.saveCandidate
  return { s with keyAllowed := true, flowDepth := s.flowDepth + 1,
                  candidates := {} :: s.candidates }.emit t 1

def fetchFlowEnd (s : TokenStream) (t : Token) : Except Fault TokenStream := do
  let s ← s.dropCandidate
  let candidates := if s.inFlow then s.candidates.tail else s.candidates
  return { s with keyAllowed := false, flowDepth := s.flowDepth - 1,
                  candidates := candidates }.emit t 1

def fetchFlowEntry (s : TokenStream) : Except Fault TokenStream := do
  let s ← s.dropCandidate
  return { s with keyAllowed := true }.emit .flowEntry 1

def fetchBlockEntry (s : TokenStream) : Except Fault TokenStream := do
  if !s.inFlow && !s.keyAllowed then throw (s.failAt .blockEntryNotAllowed)
  let m := s.cursor.mark
  let s ← (s.openBlock m.column none .blockSequenceStart m).dropCandidate
  return { s with keyAllowed := true }.emit .blockEntry 1

def fetchKey (s : TokenStream) : Except Fault TokenStream := do
  if !s.inFlow && !s.keyAllowed then throw (s.failAt .keyNotAllowed)
  let m := s.cursor.mark
  let s ← (s.openBlock m.column none .blockMappingStart m).dropCandidate
  return { s with keyAllowed := !s.inFlow }.emit .key 1

def fetchValue (s : TokenStream) : Except Fault TokenStream := do
  match s.candidates with
  | k :: rest =>
    if k.possible then
      let s := s.insertAt k.tokenNumber .key k.mark
      let s := s.openBlock k.mark.column (some k.tokenNumber) .blockMappingStart k.mark
      return { s with keyAllowed := false,
                      candidates := { k with possible := false } :: rest }.emit .value 1
  | [] => pure ()
  if !s.inFlow && !s.keyAllowed then throw (s.failAt .valueNotAllowed)
  let m := s.cursor.mark
  let s := s.openBlock m.column none .blockMappingStart m
  return { s with keyAllowed := !s.inFlow }.emit .value 1

def fetchName (s : TokenStream) (isAlias : Bool) : Except Fault TokenStream := do
  let s ← s.saveCandidate
  return { s with keyAllowed := false }.push (← scanName isAlias s.cursor)

def fetchTag (s : TokenStream) : Except Fault TokenStream := do
  let s ← s.saveCandidate
  return { s with keyAllowed := false }.push (← scanTag s.inFlow s.cursor)

def fetchBlockScalar (s : TokenStream) (literal : Bool) : Except Fault TokenStream := do
  let s ← s.dropCandidate
  return { s with keyAllowed := true }.push (← scanBlock literal s.indent s.cursor)

def fetchQuoted (s : TokenStream) (single : Bool) : Except Fault TokenStream := do
  let s ← s.saveCandidate
  return { s with keyAllowed := false }.push (← scanQuoted single s.cursor)

def fetchPlain (s : TokenStream) : Except Fault TokenStream := do
  let s ← s.saveCandidate
  let (token, broken, c) ← scanPlain s.inFlow s.indent s.cursor
  return { s with keyAllowed := broken }.push (token, c)

/-- A character that no plain scalar begins with, save before a further character of it. -/
def isIndicator (c : Char) : Bool :=
  "-?:,[]\x7b\x7d#&*!|>'\"%@\x60".contains c

/-- Reads the token that begins at the cursor. -/
def fetchHere (s : TokenStream) (x : Char) : Except Fault TokenStream :=
  let c := s.cursor
  if c.mark.column == 0 && x == '%' then s.fetchDirective
  else if c.atDocumentIndicator '-' then s.fetchDocumentIndicator .documentStart
  else if c.atDocumentIndicator '.' then s.fetchDocumentIndicator .documentEnd
  else if x == '[' then s.fetchFlowStart .flowSequenceStart
  else if x == '{' then s.fetchFlowStart .flowMappingStart
  else if x == ']' then s.fetchFlowEnd .flowSequenceEnd
  else if x == '}' then s.fetchFlowEnd .flowMappingEnd
  else if x == ',' then s.fetchFlowEntry
  else if x == '-' && c.isOpenAt 1 then s.fetchBlockEntry
  else if x == '?' && (s.inFlow || c.isOpenAt 1) then s.fetchKey
  else if x == ':' && (s.inFlow || c.isOpenAt 1) then s.fetchValue
  else if x == '*' then s.fetchName true
  else if x == '&' then s.fetchName false
  else if x == '!' then s.fetchTag
  else if x == '|' && !s.inFlow then s.fetchBlockScalar true
  else if x == '>' && !s.inFlow then s.fetchBlockScalar false
  else if x == '\'' then s.fetchQuoted true
  else if x == '"' then s.fetchQuoted false
  else if !(isBlankChar x || isBreak x || isIndicator x) || x == '-' ||
      (!s.inFlow && (x == '?' || x == ':')) then s.fetchPlain
  else .error (c.fault .noToken .nextToken c.mark)

/-- Reads one more token, and the ends of blocks before it. -/
def fetch (s : TokenStream) : Except Fault TokenStream := do
  if !s.started then return s.fetchStart
  let s := skipToToken (s.size + 1) s
  let s ← s.dropStale
  let s := s.closeTo s.cursor.mark.column
  match s.cursor.head? with
  | none => s.fetchEnd
  | some x => s.fetchHere x

/-- The first token of the queue might still get a key token in front of it. -/
def headIsOpen (s : TokenStream) : Bool :=
  s.candidates.any fun k => k.possible && k.tokenNumber == s.taken

def fill : Nat → TokenStream → Except Fault TokenStream
  | 0, s => .ok s
  | fuel + 1, s =>
    if s.queue.isEmpty then do fill fuel (← s.fetch)
    else do
      let s ← s.dropStale
      if s.headIsOpen then fill fuel (← s.fetch) else return s

/-- The next token, with the stream that still holds it. -/
def peek (s : TokenStream) : Except Fault (Placed × TokenStream) := do
  let s ← fill (s.size + 3) s
  match s.queue with
  | t :: _ => return (t, s)
  | [] => return (⟨.streamEnd, s.cursor.mark, s.cursor.mark⟩, s)

def drop (s : TokenStream) : TokenStream :=
  { s with queue := s.queue.tail, taken := s.taken + 1 }

end TokenStream

end AppSpec.Yaml
