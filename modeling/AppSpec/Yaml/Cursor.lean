import AppSpec.Yaml.Error

/-!
# The cursor

The characters still to be read and the place of the first of them. A line break of two characters
counts as one; the end of the text counts as blank where a token has to end.
-/

namespace AppSpec.Yaml

structure Cursor where
  rest : List Char
  mark : Mark := {}
deriving Repr, Inhabited

def isBreak (c : Char) : Bool :=
  c == '\n' || c == '\r' || c == '\u0085' || c == '\u2028' || c == '\u2029'

def isBlankChar (c : Char) : Bool :=
  c == ' ' || c == '\t'

/-- A letter, a digit, a dash or an underscore. -/
def isWordChar (c : Char) : Bool :=
  c.isAlphanum || c == '-' || c == '_'

def hexValue? (c : Char) : Option Nat :=
  if c.isDigit then some (c.toNat - '0'.toNat)
  else if 'a' ≤ c && c ≤ 'f' then some (c.toNat - 'a'.toNat + 10)
  else if 'A' ≤ c && c ≤ 'F' then some (c.toNat - 'A'.toNat + 10)
  else none

namespace Cursor

def head? (c : Cursor) : Option Char :=
  c.rest.head?

def at? (c : Cursor) (n : Nat) : Option Char :=
  c.rest[n]?

/-- The character `n` places ahead satisfies `p`; the end of the text does not. -/
def has (c : Cursor) (n : Nat) (p : Char → Bool) : Bool :=
  (c.at? n).any p

/-- The character `n` places ahead satisfies `p` or there is none. -/
def hasOrEnds (c : Cursor) (n : Nat) (p : Char → Bool) : Bool :=
  (c.at? n).all p

def isAtEnd (c : Cursor) : Bool :=
  c.rest.isEmpty

/-- A blank, a line break or the end, `n` places ahead. -/
def isOpenAt (c : Cursor) (n : Nat) : Bool :=
  c.hasOrEnds n fun x => isBlankChar x || isBreak x

def atBreakOrEnd (c : Cursor) : Bool :=
  c.hasOrEnds 0 isBreak

def skip (c : Cursor) (n : Nat) : Cursor :=
  { rest := c.rest.drop n
    mark := { c.mark with index := c.mark.index + n, column := c.mark.column + n } }

def next (c : Cursor) : Cursor :=
  c.skip 1

/-- Past the line break that stands here. -/
def skipLine (c : Cursor) : Cursor :=
  let length := match c.rest with
    | '\r' :: '\n' :: _ => 2
    | _ => 1
  { rest := c.rest.drop length
    mark := { index := c.mark.index + length, line := c.mark.line + 1, column := 0 } }

/-- The text that stands for the line break here: a line feed, or the separator itself. -/
def breakText (c : Cursor) : List Char :=
  match c.rest with
  | '\u2028' :: _ => ['\u2028']
  | '\u2029' :: _ => ['\u2029']
  | _ => ['\n']

def takeWhile (c : Cursor) (p : Char → Bool) : List Char × Cursor :=
  let taken := c.rest.takeWhile p
  (taken, c.skip taken.length)

def skipWhile (c : Cursor) (p : Char → Bool) : Cursor :=
  (c.takeWhile p).2

/-- Past blanks and a comment, up to the end of the line. -/
def skipToLineEnd (c : Cursor) : Cursor :=
  let c := c.skipWhile isBlankChar
  if c.has 0 (· == '#') then c.skipWhile (!isBreak ·) else c

/-- A document indicator stands here, alone on its line or before a blank. -/
def atDocumentIndicator (c : Cursor) (dash : Char) : Bool :=
  c.mark.column == 0 && c.rest.take 3 == [dash, dash, dash] && c.isOpenAt 3

def atAnyDocumentIndicator (c : Cursor) : Bool :=
  c.atDocumentIndicator '-' || c.atDocumentIndicator '.'

/-- The fault `problem` at the cursor, inside `construct` begun at `start`. -/
def fault (c : Cursor) (problem : Problem) (construct : Construct) (start : Mark) : Fault :=
  { problem := problem, place := c.mark, around := some (construct, start) }

end Cursor

end AppSpec.Yaml
