import AppSpec.Value.Basic

/-!
# JSON text

A value as JSON, two blanks of indentation to a level. Keys have to be scalars; a tag becomes a
mapping with that one key, and a float without digits becomes null.
-/

namespace AppSpec.Json

/-- Why a value has no JSON text. -/
inductive Fault where
  | keyNotFinite
  | keyNotText
deriving DecidableEq, Repr, Inhabited

def Fault.text : Fault → String
  | .keyNotFinite => "float key must be finite (got NaN or +/-inf)"
  | .keyNotText => "key must be a string"

def hexDigit (n : Nat) : Char :=
  if n < 10 then Char.ofNat (48 + n) else Char.ofNat (87 + n)

def escape (c : Char) : List Char :=
  match c with
  | '"' => ['\\', '"']
  | '\\' => ['\\', '\\']
  | '\n' => ['\\', 'n']
  | '\r' => ['\\', 'r']
  | '\t' => ['\\', 't']
  | '\x08' => ['\\', 'b']
  | '\x0c' => ['\\', 'f']
  | c =>
    if c.toNat < 32 then ['\\', 'u', '0', '0', hexDigit (c.toNat / 16), hexDigit (c.toNat % 16)]
    else [c]

def quote (s : String) : String :=
  "\"" ++ String.ofList (s.toList.flatMap escape) ++ "\""

/-- The text of a scalar key. -/
def keyText? : Value → Except Fault String
  | .string s => .ok s
  | .int n => .ok (toString n)
  | .bool b => .ok (if b then "true" else "false")
  | .float x => if x.isFinite then .ok (Double.Layout.inventory.text x) else .error .keyNotFinite
  | .null | .list _ | .map _ | .tagged _ _ => .error .keyNotText

mutual

/-- The first key in the text's order that is none. -/
def fault? : Value → Option Fault
  | .list items => faultInItems? items
  | .map entries => faultInEntries? entries
  | .tagged _ v => fault? v
  | _ => none

def faultInItems? : List Value → Option Fault
  | [] => none
  | v :: rest =>
    match fault? v with
    | some f => some f
    | none => faultInItems? rest

def faultInEntries? : List (Value × Value) → Option Fault
  | [] => none
  | (k, v) :: rest =>
    match keyText? k with
    | .error f => some f
    | .ok _ =>
      match fault? v with
      | some f => some f
      | none => faultInEntries? rest

end

def newline (depth : Nat) : String :=
  "\n" ++ String.ofList (List.replicate (2 * depth) ' ')

/-- The text of a key; one that has none is left blank. -/
def keyText (k : Value) : String :=
  (keyText? k).toOption.getD ""

mutual

/-- The text of a value at a depth, its first line unindented. -/
def render (depth : Nat) : Value → String
  | .null => "null"
  | .bool b => if b then "true" else "false"
  | .int n => toString n
  | .float x => Double.Layout.inventory.text x
  | .string s => quote s
  | .list [] => "[]"
  | .list items => "[" ++ renderItems (depth + 1) items ++ newline depth ++ "]"
  | .map [] => "\x7b\x7d"
  | .map entries => "\x7b" ++ renderEntries (depth + 1) entries ++ newline depth ++ "\x7d"
  | .tagged tag v =>
    "\x7b" ++ newline (depth + 1) ++ quote ("!" ++ tag) ++ ": " ++ render (depth + 1) v ++
      newline depth ++ "\x7d"

def renderItems (depth : Nat) : List Value → String
  | [] => ""
  | [v] => newline depth ++ render depth v
  | v :: rest => newline depth ++ render depth v ++ "," ++ renderItems depth rest

def renderEntries (depth : Nat) : List (Value × Value) → String
  | [] => ""
  | [(k, v)] => newline depth ++ quote (keyText k) ++ ": " ++ render depth v
  | (k, v) :: rest =>
    newline depth ++ quote (keyText k) ++ ": " ++ render depth v ++ "," ++ renderEntries depth rest

end

/-- The JSON text of a value, if all its keys have one. -/
def text (v : Value) : Except Fault String :=
  match fault? v with
  | some f => .error f
  | none => .ok (render 0 v)

end AppSpec.Json
