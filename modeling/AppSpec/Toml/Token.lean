import AppSpec.Toml.Fault

/-!
# Tokens of configuration text

Marks, strings, blanks and line ends; everything else is an atom, which ends at the next mark, blank
or line end. A string that is not closed ends with its line, or with the text if it may have many
lines.
-/

namespace AppSpec.Toml

inductive Quoting where
  | literal
  | basic
  | multilineLiteral
  | multilineBasic
deriving DecidableEq, Repr, Inhabited

inductive TokenKind where
  | dot
  | equals
  | comma
  | openBracket
  | closeBracket
  | openBrace
  | closeBrace
  | blank
  | comment
  | newline
  | string (q : Quoting)
  | atom
  | ending
deriving DecidableEq, Repr, Inhabited

structure Token where
  kind : TokenKind
  text : List Char
  start : Nat
deriving DecidableEq, Repr, Inhabited

def Token.span (t : Token) : Span :=
  ⟨t.start, Text.byteLength t.text⟩

def markKind? : Char → Option TokenKind
  | '.' => some .dot
  | '=' => some .equals
  | ',' => some .comma
  | '[' => some .openBracket
  | ']' => some .closeBracket
  | '{' => some .openBrace
  | '}' => some .closeBrace
  | _ => none

def isBlank (c : Char) : Bool :=
  c == ' ' || c == '\t'

/-- An atom goes on over quotes, whose opening one may have been forgotten. -/
def endsAtom (c : Char) : Bool :=
  (markKind? c).isSome || isBlank c || c == '#' || c == '\r' || c == '\n'

/-- How far a string on one line reaches: past the next quote, or to the line's end. -/
def literalLength : List Char → Nat
  | [] => 0
  | '\'' :: _ => 1
  | '\n' :: _ => 0
  | _ :: rest => literalLength rest + 1

def basicLength : List Char → Nat
  | [] => 0
  | '"' :: _ => 1
  | '\n' :: _ => 0
  | '\\' :: c :: rest =>
    if c = '\\' || c = '"' then basicLength rest + 2 else basicLength (c :: rest) + 1
  | _ :: rest => basicLength rest + 1

/-- Past three quotes, and up to two more that belong to the text. -/
def multilineLiteralLength : List Char → Nat
  | [] => 0
  | '\'' :: '\'' :: '\'' :: rest => 3 + min 2 (rest.takeWhile (· == '\'')).length
  | _ :: rest => multilineLiteralLength rest + 1

def multilineBasicLength : List Char → Nat
  | [] => 0
  | '"' :: '"' :: '"' :: rest => 3 + min 2 (rest.takeWhile (· == '"')).length
  | '\\' :: c :: rest =>
    if c = '\\' || c = '"' then multilineBasicLength rest + 2
    else multilineBasicLength (c :: rest) + 1
  | _ :: rest => multilineBasicLength rest + 1

/-- The kind and length of the token that begins with `c`. -/
def nextToken (c : Char) (rest : List Char) : TokenKind × Nat :=
  match markKind? c with
  | some kind => (kind, 1)
  | none =>
    if isBlank c then (.blank, 1 + (rest.takeWhile isBlank).length)
    else if c = '#' then
      (.comment, 1 + (rest.takeWhile fun x => x != '\n' && x != '\r').length)
    else if c = '\n' then (.newline, 1)
    else if c = '\r' then (.newline, if rest.head? == some '\n' then 2 else 1)
    else if c = '\'' then
      match rest with
      | '\'' :: '\'' :: more => (.string .multilineLiteral, 3 + multilineLiteralLength more)
      | _ => (.string .literal, 1 + literalLength rest)
    else if c = '"' then
      match rest with
      | '"' :: '"' :: more => (.string .multilineBasic, 3 + multilineBasicLength more)
      | _ => (.string .basic, 1 + basicLength rest)
    else (.atom, 1 + (rest.takeWhile (!endsAtom ·)).length)

def tokensFrom : Nat → Nat → List Char → List Token
  | _, start, [] => [⟨.ending, [], start⟩]
  | 0, start, _ => [⟨.ending, [], start⟩]
  | fuel + 1, start, c :: rest =>
    let (kind, length) := nextToken c rest
    let text := (c :: rest).take length
    ⟨kind, text, start⟩ :: tokensFrom fuel (start + Text.byteLength text) ((c :: rest).drop length)

/-- The tokens of a text; a byte order mark at its beginning is passed over. -/
def tokens (cs : List Char) : List Token :=
  match cs with
  | '\uFEFF' :: rest => tokensFrom rest.length 3 rest
  | _ => tokensFrom cs.length 0 cs

end AppSpec.Toml
