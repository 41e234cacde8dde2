import AppSpec.Shell.Token

/-!
# Shell commands

A script is one command, put together from simple ones by sequence, choice, pipes and loops.
-/

namespace AppSpec.Shell

/-- A stream is sent to or taken from a file, or sent where another one goes. -/
structure Redirect where
  stream : Nat
  mark : String
  target : Word
deriving DecidableEq, Repr, Inhabited

inductive Command where
  | skip
  | simple (line : Nat) (words : List Word) (redirects : List Redirect)
  | sequence (first second : Command)
  /-- The second runs when the first succeeds. -/
  | both (first second : Command)
  /-- The second runs when the first fails. -/
  | either (first second : Command)
  | pipe (first second : Command)
  | negate (c : Command)
  | branch (test yes no : Command)
  | loop (test body : Command) (untilTrue : Bool)
  | each (name : String) (words : List Word) (body : Command)
  | group (body : Command) (redirects : List Redirect) (apart : Bool)
deriving Repr, Inhabited

abbrev Tokens := List (Nat × Token)

def plainText? : Word → Option String
  | [] => some ""
  | .plain s :: rest => (plainText? rest).map fun t => s ++ t
  | _ :: _ => none

/-- The text of a word without quotes or variables. -/
def Token.plain? : Token → Option String
  | .word w => plainText? w
  | _ => none

def keyword? : Tokens → Option String
  | (_, t) :: _ => t.plain?
  | [] => none

/-- The words that end a list of commands. -/
def closers : List String := ["then", "else", "elif", "fi", "do", "done", "\x7d"]

def isClosed : Tokens → Bool
  | [] => true
  | (_, .mark ")") :: _ => true
  | ts =>
    match keyword? ts with
    | some s => closers.contains s
    | none => false

def skipLineEnds : Tokens → Tokens
  | (_, .lineEnd) :: rest => skipLineEnds rest
  | ts => ts

def skipSeparators : Tokens → Tokens
  | (_, .lineEnd) :: rest => skipSeparators rest
  | (_, .mark ";") :: rest => skipSeparators rest
  | (_, .mark "&") :: rest => skipSeparators rest
  | ts => ts

/-- Passes over a keyword. -/
def expect (word : String) (ts : Tokens) : Option Tokens :=
  match skipSeparators ts with
  | (_, t) :: rest => if t.plain? == some word then some rest else none
  | [] => none

/-- The words and redirections of a simple command. -/
def readSimple : Tokens → Option (List Word × List Redirect × Tokens)
  | (_, .word w) :: rest => do
    let (words, redirects, rest) ← readSimple rest
    return (w :: words, redirects, rest)
  | (_, .redirect stream mark) :: (_, .word target) :: rest => do
    let (words, redirects, rest) ← readSimple rest
    return (words, ⟨stream, mark, target⟩ :: redirects, rest)
  | (_, .redirect _ _) :: _ => none
  | ts => some ([], [], ts)

/-- The redirections behind a compound command. -/
def readRedirects : Tokens → Option (List Redirect × Tokens)
  | (_, .redirect stream mark) :: (_, .word target) :: rest => do
    let (redirects, rest) ← readRedirects rest
    return (⟨stream, mark, target⟩ :: redirects, rest)
  | (_, .redirect _ _) :: _ => none
  | ts => some ([], ts)

def words : Tokens → List Word × Tokens
  | (_, .word w) :: rest => let (ws, rest) := words rest; (w :: ws, rest)
  | ts => ([], ts)

mutual

def readCommand : Nat → Tokens → Option (Command × Tokens)
  | 0, _ => none
  | n + 1, ts =>
    match ts with
    | [] => none
    | (_, .mark "(") :: rest => do
      let (body, rest) ← readList n rest
      match skipSeparators rest with
      | (_, .mark ")") :: rest =>
        let (redirects, rest) ← readRedirects rest
        return (.group body redirects true, rest)
      | _ => none
    | (line, _) :: rest =>
      match keyword? ts with
      | some "if" => do
        let (c, rest) ← readBranch n rest
        let (redirects, rest) ← readRedirects rest
        return (.group c redirects false, rest)
      | some "while" => readLoop n rest false
      | some "until" => readLoop n rest true
      | some "for" => readEach n rest
      | some "\x7b" => do
        let (body, rest) ← readList n rest
        let rest ← expect "\x7d" rest
        let (redirects, rest) ← readRedirects rest
        return (.group body redirects false, rest)
      | _ => do
        let (words, redirects, rest) ← readSimple ts
        if words.isEmpty && redirects.isEmpty then none
        else return (.simple line words redirects, rest)

/-- What follows `if` or `elif`. -/
def readBranch : Nat → Tokens → Option (Command × Tokens)
  | 0, _ => none
  | n + 1, ts => do
    let (test, rest) ← readList n ts
    let rest ← expect "then" rest
    let (yes, rest) ← readList n rest
    match skipSeparators rest with
    | (_, t) :: rest =>
      match t.plain? with
      | some "fi" => return (.branch test yes .skip, rest)
      | some "else" =>
        let (no, rest) ← readList n rest
        let rest ← expect "fi" rest
        return (.branch test yes no, rest)
      | some "elif" =>
        let (no, rest) ← readBranch n rest
        return (.branch test yes no, rest)
      | _ => none
    | [] => none

def readLoop : Nat → Tokens → Bool → Option (Command × Tokens)
  | 0, _, _ => none
  | n + 1, ts, untilTrue => do
    let (test, rest) ← readList n ts
    let rest ← expect "do" rest
    let (body, rest) ← readList n rest
    let rest ← expect "done" rest
    let (redirects, rest) ← readRedirects rest
    return (.group (.loop test body untilTrue) redirects false, rest)

def readEach : Nat → Tokens → Option (Command × Tokens)
  | 0, _ => none
  | n + 1, ts => do
    let name ← keyword? ts
    let rest := ts.drop 1
    let (ws, rest) :=
      if keyword? rest == some "in" then words (rest.drop 1)
      else ([[.parameter "@" "" true]], rest)
    let rest ← expect "do" rest
    let (body, rest) ← readList n rest
    let rest ← expect "done" rest
    let (redirects, rest) ← readRedirects rest
    return (.group (.each name ws body) redirects false, rest)

/-- Commands joined by pipes, perhaps negated. -/
def readPipe : Nat → Tokens → Option (Command × Tokens)
  | 0, _ => none
  | n + 1, ts =>
    if keyword? ts == some "!" then do
      let (c, rest) ← readPipe n (ts.drop 1)
      return (.negate c, rest)
    else do
      let (c, rest) ← readCommand n ts
      match rest with
      | (_, .mark "|") :: rest =>
        let (c', rest) ← readPipe n (skipLineEnds rest)
        return (.pipe c c', rest)
      | _ => return (c, rest)

/-- What follows a pipe that has been read: further pipes joined by choice. -/
def readChoices : Nat → Command → Tokens → Option (Command × Tokens)
  | 0, _, _ => none
  | n + 1, c, ts =>
    match ts with
    | (_, .mark "&&") :: rest => do
      let (c', rest) ← readPipe n (skipLineEnds rest)
      readChoices n (.both c c') rest
    | (_, .mark "||") :: rest => do
      let (c', rest) ← readPipe n (skipLineEnds rest)
      readChoices n (.either c c') rest
    | _ => some (c, ts)

/-- Commands up to the word that ends their list. -/
def readList : Nat → Tokens → Option (Command × Tokens)
  | 0, _ => none
  | n + 1, ts =>
    let ts := skipSeparators ts
    if isClosed ts then some (.skip, ts)
    else do
      let (c, rest) ← readPipe n ts
      let (c, rest) ← readChoices n c rest
      match rest with
      | (_, .mark ";") :: _ | (_, .mark "&") :: _ | (_, .lineEnd) :: _ =>
        let (more, rest) ← readList n rest
        return (.sequence c more, rest)
      | _ => return (c, rest)

end

/-- The command that a script is. -/
def command? (script : String) : Option Command :=
  match readList (4 * script.length + 8) (tokens script) with
  | some (c, []) => some c
  | _ => none

end AppSpec.Shell
