/-!
# Shell tokens

A script is cut into words, marks and line ends. A word is made of pieces: text, quoted text,
variables and the output of commands.
-/

namespace AppSpec.Shell

inductive Piece where
  | plain (s : String)
  | quoted (s : String)
  /-- A variable with what stands for it when it is unset or empty. -/
  | parameter (name : String) (otherwise : String) (quoted : Bool)
  /-- The output of a script. -/
  | output (script : String) (quoted : Bool)
deriving DecidableEq, Repr, Inhabited

abbrev Word := List Piece

inductive Token where
  | word (w : Word)
  | mark (s : String)
  /-- A redirection of a stream: `<`, `>`, `>>`, or `>&` to another stream. -/
  | redirect (stream : Nat) (mark : String)
  | lineEnd
deriving DecidableEq, Repr, Inhabited

def isBlank (c : Char) : Bool := c == ' ' || c == '\t'

def isNameStart (c : Char) : Bool := c.isAlpha || c == '_'

def isNameChar (c : Char) : Bool := c.isAlphanum || c == '_'

def isSpecialName (c : Char) : Bool := "@*#?$!-".toList.contains c || c.isDigit

/-- The text up to the parenthesis that closes an open one, and what follows it. -/
def untilClosed : Nat → List Char → List Char × List Char
  | _, [] => ([], [])
  | depth, ')' :: rest =>
    match depth with
    | 0 => ([], rest)
    | n + 1 => let (inner, after) := untilClosed n rest; (')' :: inner, after)
  | depth, '(' :: rest => let (inner, after) := untilClosed (depth + 1) rest; ('(' :: inner, after)
  | depth, c :: rest => let (inner, after) := untilClosed depth rest; (c :: inner, after)

/-- A variable between braces, with its default. -/
def bracedVariable (inner : List Char) (quoted : Bool) : Piece :=
  let name := String.ofList (inner.takeWhile (· != ':'))
  match inner.dropWhile (· != ':') with
  | ':' :: '-' :: default => .parameter name (String.ofList default) quoted
  | _ => .parameter name "" quoted

/-- The piece behind a dollar sign and what follows it. -/
def dollar (quoted : Bool) : List Char → Piece × List Char
  | '(' :: rest =>
    let (inner, after) := untilClosed 0 rest
    (.output (String.ofList inner) quoted, after)
  | '\x7b' :: rest =>
    (bracedVariable (rest.takeWhile (· != '\x7d')) quoted, (rest.dropWhile (· != '\x7d')).drop 1)
  | c :: rest =>
    if isNameStart c then
      (.parameter (String.ofList (c :: rest.takeWhile isNameChar)) "" quoted,
        rest.dropWhile isNameChar)
    else if isSpecialName c then (.parameter c.toString "" quoted, rest)
    else (.quoted "$", c :: rest)
  | [] => (.quoted "$", [])

/-- The pieces inside double quotes and what follows them. -/
def insideQuotes : Nat → List Char → Word × List Char
  | 0, rest => ([], rest)
  | _, [] => ([], [])
  | _ + 1, '"' :: rest => ([], rest)
  | n + 1, '\\' :: c :: rest =>
    let text := if c == '\n' then ""
      else if c == '$' || c == '"' || c == '\\' || c == '\x60' then c.toString
      else String.ofList ['\\', c]
    let (pieces, after) := insideQuotes n rest
    (.quoted text :: pieces, after)
  | n + 1, '$' :: rest =>
    let (piece, after) := dollar true rest
    let (pieces, after) := insideQuotes n after
    (piece :: pieces, after)
  | n + 1, c :: rest =>
    let (pieces, after) := insideQuotes n rest
    (.quoted c.toString :: pieces, after)

/-- A character that ends a word. -/
def endsWord (c : Char) : Bool :=
  isBlank c || "\n;&|<>()".toList.contains c

/-- The pieces of a word and what follows it. -/
def readWord : Nat → List Char → Word × List Char
  | 0, rest => ([], rest)
  | _, [] => ([], [])
  | n + 1, '\'' :: rest =>
    let (pieces, after) := readWord n ((rest.dropWhile (· != '\'')).drop 1)
    (.quoted (String.ofList (rest.takeWhile (· != '\''))) :: pieces, after)
  | n + 1, '"' :: rest =>
    let (inner, after) := insideQuotes (rest.length + 1) rest
    let (pieces, after) := readWord n after
    (.quoted "" :: inner ++ pieces, after)
  | n + 1, '\\' :: c :: rest =>
    let (pieces, after) := readWord n rest
    (if c == '\n' then pieces else .quoted c.toString :: pieces, after)
  | n + 1, '$' :: rest =>
    let (piece, after) := dollar false rest
    let (pieces, after) := readWord n after
    (piece :: pieces, after)
  | n + 1, '\x60' :: rest =>
    let (pieces, after) := readWord n ((rest.dropWhile (· != '\x60')).drop 1)
    (.output (String.ofList (rest.takeWhile (· != '\x60'))) false :: pieces, after)
  | n + 1, c :: rest =>
    if endsWord c then ([], c :: rest)
    else
      let (pieces, after) := readWord n rest
      (.plain c.toString :: pieces, after)

/-- A redirection at the front, the number of its stream included. -/
def redirect? (cs : List Char) : Option (Token × List Char) :=
  let digits := cs.takeWhile Char.isDigit
  let stream (default : Nat) := ((String.ofList digits).toNat?).getD default
  match cs.dropWhile Char.isDigit with
  | '>' :: '>' :: rest => some (.redirect (stream 1) ">>", rest)
  | '>' :: '&' :: rest => some (.redirect (stream 1) ">&", rest)
  | '>' :: rest => some (.redirect (stream 1) ">", rest)
  | '<' :: rest => some (.redirect (stream 0) "<", rest)
  | _ => none

/-- A mark at the front. -/
def mark? : List Char → Option (String × List Char)
  | '&' :: '&' :: rest => some ("&&", rest)
  | '|' :: '|' :: rest => some ("||", rest)
  | '&' :: rest => some ("&", rest)
  | '|' :: rest => some ("|", rest)
  | ';' :: rest => some (";", rest)
  | '(' :: rest => some ("(", rest)
  | ')' :: rest => some (")", rest)
  | _ => none

/-- The tokens of a script, each with the number of its line. -/
def tokensFrom : Nat → Nat → List Char → List (Nat × Token)
  | 0, _, _ => []
  | _, _, [] => []
  | n + 1, line, c :: rest =>
    if isBlank c then tokensFrom n line rest
    else if c == '\n' then (line, .lineEnd) :: tokensFrom n (line + 1) rest
    else if c == '#' then tokensFrom n line (rest.dropWhile (· != '\n'))
    else if c == '\\' && rest.head? == some '\n' then tokensFrom n (line + 1) (rest.drop 1)
    else
      match redirect? (c :: rest) with
      | some (t, after) => (line, t) :: tokensFrom n line after
      | none =>
        match mark? (c :: rest) with
        | some (s, after) => (line, .mark s) :: tokensFrom n line after
        | none =>
          let (w, after) := readWord (rest.length + 2) (c :: rest)
          let passed := ((c :: rest).take (rest.length + 1 - after.length)).count '\n'
          (line, .word w) :: tokensFrom n (line + passed) after

def tokens (script : String) : List (Nat × Token) :=
  tokensFrom (script.length + 1) 1 script.toList

end AppSpec.Shell
