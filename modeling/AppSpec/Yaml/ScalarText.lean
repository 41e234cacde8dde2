import AppSpec.Yaml.Token

/-!
# The text of a scalar

Plain, quoted and block scalars. Between two pieces of text on different lines a single line break
reads as a space and further ones as themselves; in a block scalar the indicator after its sign
says what becomes of the breaks at the end.
-/

namespace AppSpec.Yaml

/-- Blanks and line breaks between two pieces of a scalar. -/
structure Gap where
  /-- A line break has been passed. -/
  broken : Bool := false
  blanks : List Char := []
  firstBreak : List Char := []
  moreBreaks : List Char := []
deriving Repr, Inhabited

/-- What a gap contributes to the text. -/
def Gap.text (g : Gap) : List Char :=
  if !g.broken then g.blanks
  else if g.firstBreak == ['\n'] then
    if g.moreBreaks.isEmpty then [' '] else g.moreBreaks
  else g.firstBreak ++ g.moreBreaks

def Gap.addBreak (g : Gap) (b : List Char) : Gap :=
  if g.broken then { g with moreBreaks := g.moreBreaks ++ b }
  else { broken := true, firstBreak := b }

def Gap.addBlank (g : Gap) (c : Char) : Gap :=
  if g.broken then g else { g with blanks := g.blanks ++ [c] }

/-- Past blanks and breaks; `tabLimit` is the column before which a tab may not begin a line. -/
def scanGap (tabLimit : Option (Nat × Mark)) : Nat → Gap → Cursor → Except Fault (Gap × Cursor)
  | 0, g, c => .ok (g, c)
  | fuel + 1, g, c =>
    match c.head? with
    | none => .ok (g, c)
    | some x =>
      if isBlankChar x then
        match tabLimit with
        | some (limit, start) =>
          if g.broken && c.mark.column < limit && x == '\t' then
            .error (c.fault .tabViolation .plainScalar start)
          else scanGap tabLimit fuel (g.addBlank x) c.next
        | none => scanGap tabLimit fuel (g.addBlank x) c.next
      else if isBreak x then scanGap tabLimit fuel (g.addBreak c.breakText) c.skipLine
      else .ok (g, c)

/-! ## Quoted scalars -/

/-- The character that a one-letter escape stands for. -/
def simpleEscape? : Char → Option Char
  | '0' => some '\x00'
  | 'a' => some '\x07'
  | 'b' => some '\x08'
  | 't' | '\t' => some '\t'
  | 'n' => some '\n'
  | 'v' => some '\x0B'
  | 'f' => some '\x0C'
  | 'r' => some '\r'
  | 'e' => some '\x1B'
  | ' ' => some ' '
  | '"' => some '"'
  | '/' => some '/'
  | '\\' => some '\\'
  | 'N' => some '\u0085'
  | '_' => some '\u00A0'
  | 'L' => some '\u2028'
  | 'P' => some '\u2029'
  | _ => none

/-- How many hexadecimal digits follow the letter of a numeric escape. -/
def hexEscapeLength? : Char → Option Nat
  | 'x' => some 2
  | 'u' => some 4
  | 'U' => some 8
  | _ => none

def hexNumber? (cs : List Char) : Option Nat :=
  cs.foldlM (fun n c => (hexValue? c).map (n * 16 + ·)) 0

/-- The escape at the cursor, which stands on the backslash. -/
def scanEscape (start : Mark) (c : Cursor) : Except Fault (Char × Cursor) :=
  match c.at? 1 with
  | none => .error (c.fault .unknownEscape .quotedEscape start)
  | some x =>
    match simpleEscape? x, hexEscapeLength? x with
    | some y, _ => .ok (y, c.skip 2)
    | none, none => .error (c.fault .unknownEscape .quotedEscape start)
    | none, some length =>
      let c := c.skip 2
      let digits := c.rest.take length
      match hexNumber? digits with
      | none => .error (c.fault .missingHexDigit .quotedEscape start)
      | some n =>
        if digits.length < length then .error (c.fault .missingHexDigit .quotedEscape start)
        else if (0xD800 ≤ n && n ≤ 0xDFFF) || 0x10FFFF < n then
          .error (c.fault .escapeOutOfRange .quotedEscape start)
        else .ok (Char.ofNat n, c.skip length)

/-- The pieces of a quoted scalar up to the closing quote; `text` holds what is read, reversed. -/
def scanQuotedFrom (single : Bool) (start : Mark) :
    Nat → List Char → Cursor → Except Fault (List Char × Cursor)
  | 0, text, c => .ok (text.reverse, c)
  | fuel + 1, text, c =>
    if c.atAnyDocumentIndicator then
      .error (c.fault .documentIndicator .quotedScalar start)
    else
      match c.rest with
      | [] => .error (c.fault .endOfStream .quotedScalar start)
      | x :: rest =>
        if isBlankChar x || isBreak x then do
          let (gap, c) ← scanGap none c.rest.length {} c
          scanQuotedFrom single start fuel (gap.text.reverse ++ text) c
        else if single then
          if x == '\'' then
            match rest with
            | '\'' :: _ => scanQuotedFrom single start fuel ('\'' :: text) (c.skip 2)
            | _ => .ok (text.reverse, c.next)
          else scanQuotedFrom single start fuel (x :: text) c.next
        else if x == '"' then .ok (text.reverse, c.next)
        else if x == '\\' then
          if c.has 1 isBreak then do
            let (gap, c) ← scanGap none c.rest.length { broken := true } c.next.skipLine
            scanQuotedFrom single start fuel (gap.text.reverse ++ text) c
          else do
            let (y, c) ← scanEscape start c
            scanQuotedFrom single start fuel (y :: text) c
        else scanQuotedFrom single start fuel (x :: text) c.next

def scanQuoted (single : Bool) (c : Cursor) : Except Fault (Placed × Cursor) := do
  let (text, after) ← scanQuotedFrom single c.mark (c.rest.length + 1) [] c.next
  return (⟨.scalar text .quoted, c.mark, after.mark⟩, after)

/-! ## Plain scalars -/

def isFlowMark (c : Char) : Bool :=
  c == ',' || c == '[' || c == ']' || c == '{' || c == '}'

/-- The unbroken run of a plain scalar's characters. -/
def scanPlainRun (inFlow : Bool) (start : Mark) :
    Nat → List Char → Cursor → Except Fault (List Char × Cursor)
  | 0, text, c => .ok (text, c)
  | fuel + 1, text, c =>
    match c.head? with
    | none => .ok (text, c)
    | some x =>
      if isBlankChar x || isBreak x then .ok (text, c)
      else if inFlow && x == ':' && c.has 1 (fun y => isFlowMark y || y == '?') then
        .error (c.fault .unexpectedColon .plainScalar start)
      else if (x == ':' && c.isOpenAt 1) || (inFlow && isFlowMark x) then .ok (text, c)
      else scanPlainRun inFlow start fuel (x :: text) c.next

/-- A plain scalar's text reversed, its end, whether a line break came last, and the cursor. -/
structure PlainText where
  text : List Char
  stop : Mark
  broken : Bool
  after : Cursor

def scanPlainFrom (inFlow : Bool) (indent : Int) (start : Mark) :
    Nat → PlainText → Gap → Except Fault PlainText
  | 0, p, _ => .ok p
  | fuel + 1, p, gap =>
    let c := p.after
    if c.atAnyDocumentIndicator || c.has 0 (· == '#') then .ok p
    else do
      let (run, after) ← scanPlainRun inFlow start c.rest.length [] c
      let p : PlainText :=
        if run.isEmpty then { p with after := after }
        else ⟨run ++ gap.text.reverse ++ p.text, after.mark, false, after⟩
      let gap := if run.isEmpty then gap else {}
      if !after.has 0 fun x => isBlankChar x || isBreak x then return p
      let (gap, after) ← scanGap (some (indent.toNat, start)) after.rest.length gap after
      let p := { p with broken := gap.broken, after := after }
      if !inFlow && (after.mark.column : Int) < indent then return p
      scanPlainFrom inFlow indent start fuel p gap

/-- A plain scalar, and whether it ended after a line break. -/
def scanPlain (inFlow : Bool) (indent : Int) (c : Cursor) :
    Except Fault (Placed × Bool × Cursor) := do
  let p ← scanPlainFrom inFlow (indent + 1) c.mark (c.rest.length + 1) ⟨[], c.mark, false, c⟩ {}
  return (⟨.scalar p.text.reverse .plain, c.mark, p.stop⟩, p.broken, p.after)

/-! ## Block scalars -/

inductive Chomping where
  | strip
  | clip
  | keep
deriving DecidableEq, Repr, Inhabited

def chomping? (c : Cursor) : Option Chomping :=
  match c.head? with
  | some '+' => some .keep
  | some '-' => some .strip
  | _ => none

def scanIncrement (start : Mark) (c : Cursor) : Except Fault (Option Nat × Cursor) :=
  match c.head? with
  | some x =>
    if x == '0' then .error (c.fault .zeroIndentation .blockScalar start)
    else if x.isDigit then .ok (some (x.toNat - '0'.toNat), c.next)
    else .ok (none, c)
  | none => .ok (none, c)

/-- The indicators after a block scalar's sign, in either order. -/
def scanBlockHeader (start : Mark) (c : Cursor) :
    Except Fault ((Chomping × Option Nat) × Cursor) := do
  match chomping? c with
  | some chomping =>
    let (increment, c) ← scanIncrement start c.next
    return ((chomping, increment), c)
  | none =>
    let (increment, c) ← scanIncrement start c
    match increment, chomping? c with
    | some _, some chomping => return ((chomping, increment), c.next)
    | _, _ => return ((.clip, increment), c)

/-- Past indentation and empty lines; gives the breaks, the widest indentation and the end. -/
def scanBlockBreaks (indent : Nat) (start : Mark) :
    Nat → List Char → Nat → Mark → Cursor → Except Fault (List Char × Nat × Mark × Cursor)
  | 0, breaks, widest, stop, c => .ok (breaks, widest, stop, c)
  | fuel + 1, breaks, widest, stop, c =>
    let room := if indent == 0 then c.rest.length else indent - c.mark.column
    let c := c.skip ((c.rest.take room).takeWhile (· == ' ')).length
    let widest := max widest c.mark.column
    if (indent == 0 || c.mark.column < indent) && c.has 0 (· == '\t') then
      .error (c.fault .tabIndentation .blockScalar start)
    else if c.has 0 isBreak then
      let after := c.skipLine
      scanBlockBreaks indent start fuel (breaks ++ c.breakText) widest after.mark after
    else .ok (breaks, widest, stop, c)

/-- The lines read so far of a block scalar. -/
structure BlockText where
  /-- What is read, reversed. -/
  text : List Char := []
  /-- The break that ended the last line. -/
  lastBreak : List Char := []
  /-- The breaks of the empty lines after it. -/
  emptyLines : List Char := []
  /-- The last line began with a blank. -/
  indented : Bool := false
  stop : Mark

def scanBlockLines (literal : Bool) (indent : Nat) (start : Mark) :
    Nat → BlockText → Cursor → Except Fault (BlockText × Cursor)
  | 0, b, c => .ok (b, c)
  | fuel + 1, b, c =>
    if c.mark.column != indent || c.isAtEnd then .ok (b, c)
    else do
      let indented := c.has 0 isBlankChar
      let joint :=
        if !literal && b.lastBreak == ['\n'] && !b.indented && !indented then
          if b.emptyLines.isEmpty then [' '] else b.emptyLines
        else b.lastBreak ++ b.emptyLines
      let (line, c) := c.takeWhile (!isBreak ·)
      let (lastBreak, c) := if c.isAtEnd then ([], c) else (c.breakText, c.skipLine)
      let (emptyLines, _, stop, c) ← scanBlockBreaks indent start (c.rest.length + 1) [] 0 c.mark c
      scanBlockLines literal indent start fuel
        ⟨line.reverse ++ joint.reverse ++ b.text, lastBreak, emptyLines, indented, stop⟩ c

def scanBlock (literal : Bool) (parent : Int) (c : Cursor) : Except Fault (Placed × Cursor) := do
  let start := c.mark
  let ((chomping, increment), c) ← scanBlockHeader start c.next
  let c := c.skipToLineEnd
  if !c.atBreakOrEnd then throw (c.fault .commentOrBreak .blockScalar start)
  let c := if c.isAtEnd then c else c.skipLine
  let given := match increment with
    | some n => (max parent 0).toNat + n
    | none => 0
  let (breaks, widest, stop, c) ← scanBlockBreaks given start (c.rest.length + 1) [] 0 c.mark c
  let indent := if given == 0 then max widest (max (parent + 1) 1).toNat else given
  let (b, c) ← scanBlockLines literal indent start (c.rest.length + 1)
    { emptyLines := breaks, stop := stop } c
  let tail := match chomping with
    | .strip => []
    | .clip => b.lastBreak
    | .keep => b.lastBreak ++ b.emptyLines
  return (⟨.scalar (b.text.reverse ++ tail) .block, start, b.stop⟩, c)

end AppSpec.Yaml
