import AppSpec.Text.Blank
import AppSpec.Text.Span

/-!
# Comment lines

A line whose first character that is not blank is `#` is a comment and is taken out before a file is
read. The places where the other lines began are kept, so that a line and column of the remaining
text can be found again in the file.
-/

namespace AppSpec.Document

def isComment (line : List Char) : Bool :=
  (Text.trimStart line).head? == some '#'

/-- Each line with the byte at which it begins, the first one at `offset`. -/
def placeLines : Nat → List (List Char) → List (Nat × List Char)
  | _, [] => []
  | offset, line :: rest => (offset, line) :: placeLines (offset + Text.byteLength line) rest

/-- The lines that are no comments, with their places in the file. -/
def survivingLines (cs : List Char) : List (Nat × List Char) :=
  (placeLines 0 (Text.lines cs)).filter fun l => !isComment l.2

def stripChars (cs : List Char) : List Char :=
  (survivingLines cs).flatMap Prod.snd

def stripComments (s : String) : String :=
  String.ofList (stripChars s.toList)

/-- The line without the line feed that ends it. -/
def lineContent (line : List Char) : List Char :=
  line.takeWhile (· != '\n')

/-- The byte of the file at a line and column of the remaining text, both counted from one. A column
past the line's end is its end, a line past the last one the end of the file. -/
def fileOffset (cs : List Char) (line column : Nat) : Option Nat :=
  if line = 0 then none
  else
    match (survivingLines cs)[line - 1]? with
    | none => some (Text.byteLength cs)
    | some (start, text) => some (start + Text.byteLength ((lineContent text).take (column - 1)))

end AppSpec.Document
