import AppSpec.Toml.Token

/-!
# Statements of configuration text

A text is a list of statements: headers, which open a table, and assignments. Keys and values are
kept as they are written; a key or value that is missing where one has to stand is an empty one.
-/

namespace AppSpec.Toml

structure RawKey where
  text : List Char
  quoting : Option Quoting
  span : Span
deriving Repr, Inhabited

inductive RawValue where
  | scalar (text : List Char) (quoting : Option Quoting) (span : Span)
  | array (items : List RawValue) (span : Span)
  | braces (entries : List (List RawKey × RawValue)) (span : Span)
deriving Repr, Inhabited

inductive Statement where
  | header (isArray : Bool) (keys : List RawKey) (span : Span)
  | assignment (keys : List RawKey) (value : RawValue)
deriving Repr, Inhabited

def emptyKey (t : Token) : RawKey :=
  ⟨[], none, t.span.before⟩

def emptyScalar (t : Token) : RawValue :=
  .scalar [] none t.span.before

def keyOf? (t : Token) : Option RawKey :=
  match t.kind with
  | .atom => some ⟨t.text, none, t.span⟩
  | .string q => some ⟨t.text, some q, t.span⟩
  | _ => none

def skipBlank : List Token → List Token
  | t :: rest => if t.kind = .blank then rest else t :: rest
  | [] => []

/-- The keys after a first one, each behind a point, and whether the last one is there. -/
def dottedKeys : Nat → List Token → List RawKey × Bool × List Token
  | 0, ts => ([], true, ts)
  | fuel + 1, ts =>
    let ts := skipBlank ts
    match ts with
    | dot :: rest =>
      if dot.kind ≠ .dot then ([], true, ts)
      else
        match skipBlank rest with
        | t :: rest =>
          match keyOf? t with
          | some key =>
            let (keys, complete, rest) := dottedKeys fuel rest
            (key :: keys, complete, rest)
          | none =>
            if t.kind = .dot then
              let (keys, complete, rest) := dottedKeys fuel (t :: rest)
              (emptyKey t :: keys, complete, rest)
            else ([emptyKey t], false, t :: rest)
        | [] => ([], true, [])
    | [] => ([], true, [])

/-- The keys of a header. -/
def headerKeys (fuel : Nat) (ts : List Token) : List RawKey × Bool × List Token :=
  match skipBlank ts with
  | t :: rest =>
    match keyOf? t with
    | some key =>
      let (keys, complete, rest) := dottedKeys fuel rest
      (key :: keys, complete, rest)
    | none =>
      if t.kind = .dot then
        let (keys, complete, rest) := dottedKeys fuel (t :: rest)
        (emptyKey t :: keys, complete, rest)
      else ([emptyKey t], false, t :: rest)
  | [] => ([], false, [])

/-- The end of what was read of `ts` when `rest` is left, blanks at the end not counted. -/
def lastEnd (start : Span) (ts rest : List Token) : Span :=
  let read := (ts.take (ts.length - rest.length)).filter (·.kind ≠ .blank)
  match read.getLast? with
  | some t => t.span.after
  | none => start.after

def checkComment (t : Token) : Except Fault Unit :=
  go t.start t.text
where
  go : Nat → List Char → Except Fault Unit
    | _, [] => .ok ()
    | offset, c :: rest =>
      if c == '\t' || (c.toNat ≥ 0x20 && c.toNat ≠ 0x7F) then go (offset + c.utf8Size) rest
      else .error ⟨.commentCharacter, ⟨offset, 0⟩⟩

def checkNewline (t : Token) : Except Fault Unit :=
  if t.text = ['\r'] then .error ⟨.loneReturn, t.span.after⟩ else .ok ()

/-- What may follow on the line of a statement: a comment and the line's end. -/
def lineEnd : List Token → Except Fault (List Token)
  | [] => .ok []
  | t :: rest =>
    match t.kind with
    | .blank => lineEnd rest
    | .comment => do checkComment t; return rest
    | .newline => do checkNewline t; return rest
    | .ending => .ok (t :: rest)
    | _ => .error ⟨.trailingText, t.span.before⟩

def header (isArray : Bool) (opening : Span) (ts : List Token) :
    Except Fault (Statement × List Token) := do
  let (keys, complete, rest) := headerKeys ts.length ts
  match skipBlank rest with
  | t :: rest' =>
    if t.kind = .closeBracket then
      if !isArray then return (.header false keys (opening.append t.span), ← lineEnd rest')
      match rest' with
      | u :: rest'' =>
        if u.kind = .closeBracket then
          return (.header true keys (opening.append u.span), ← lineEnd rest'')
        else throw ⟨.unclosedArrayTable "]", t.span.after⟩
      | [] => throw ⟨.unclosedArrayTable "]", t.span.after⟩
    else if complete then
      let place := lastEnd opening ts rest
      throw ⟨if isArray then .unclosedArrayTable "]]" else .unclosedTable, place⟩
    else return (.header isArray keys opening, t :: rest')
  | [] => return (.header isArray keys opening, [])

/-- The rest of a scalar that is not quoted: atoms and points, with blanks between atoms. -/
def bareScalar : Nat → List Token → List Char × List Token
  | 0, ts => ([], ts)
  | fuel + 1, ts =>
    match ts with
    | t :: u :: rest =>
      if t.kind = .atom || t.kind = .dot then
        let (text, rest) := bareScalar fuel (u :: rest)
        (t.text ++ text, rest)
      else if t.kind = .blank && (u.kind = .atom || u.kind = .dot) then
        let (text, rest) := bareScalar fuel (u :: rest)
        (t.text ++ text, rest)
      else ([], ts)
    | _ => ([], ts)

/-- A scalar that begins with the token `t`. -/
def scalarFrom (t : Token) (rest : List Token) : RawValue × List Token :=
  match t.kind with
  | .string q => (.scalar t.text (some q) t.span, rest)
  | _ =>
    let (text, rest) := bareScalar rest.length rest
    let text := t.text ++ text
    (.scalar text none ⟨t.start, Text.byteLength text⟩, rest)

/-- How deep arrays and braces may be nested. -/
def maxDepth : Nat := 80

mutual

def value : Nat → Nat → List Token → Except Fault (RawValue × List Token)
  | 0, _, ts => .ok (.scalar [] none ⟨0, 0⟩, ts)
  | _, _, [] => .ok (.scalar [] none ⟨0, 0⟩, [])
  | fuel + 1, depth, t :: rest =>
    match t.kind with
    | .comment | .comma | .newline | .ending => .ok (emptyScalar t, t :: rest)
    | .equals => .error ⟨.extraEquals, t.span⟩
    | .closeBrace => .error ⟨.missingBrace, t.span.before⟩
    | .closeBracket => .error ⟨.missingBracket, t.span.before⟩
    | .openBrace =>
      if depth = 0 then .error ⟨.tooDeep, t.span⟩
      else braces fuel (depth - 1) t.span .key [] [] rest
    | .openBracket =>
      if depth = 0 then .error ⟨.tooDeep, t.span⟩
      else array fuel (depth - 1) t.span false [] rest
    | .string _ | .atom | .dot | .blank => .ok (scalarFrom t rest)

/-- The items of an array behind those in `before`, which are reversed. -/
def array : Nat → Nat → Span → Bool → List RawValue → List Token →
    Except Fault (RawValue × List Token)
  | 0, _, opening, _, before, ts => .ok (.array before.reverse opening, ts)
  | _, _, opening, _, before, [] => .ok (.array before.reverse opening, [])
  | fuel + 1, depth, opening, needsComma, before, t :: rest =>
    match t.kind with
    | .comment => do
      checkComment t
      array fuel depth opening needsComma before rest
    | .blank => array fuel depth opening needsComma before rest
    | .newline => do
      checkNewline t
      array fuel depth opening needsComma before rest
    | .ending => .error ⟨.unclosedArray, t.span⟩
    | .comma =>
      if needsComma then array fuel depth opening false before rest
      else .error ⟨.extraArrayComma, t.span⟩
    | .equals => .error ⟨.arrayEquals, t.span⟩
    | .closeBracket => .ok (.array before.reverse (opening.append t.span), rest)
    | .closeBrace => .error ⟨.missingBrace, t.span.before⟩
    | .openBracket | .openBrace | .string _ | .atom | .dot =>
      if needsComma then .error ⟨.missingArrayComma, t.span.before⟩
      else do
        let (item, rest) ← value fuel depth (t :: rest)
        array fuel depth opening true (item :: before) rest

/-- The entries between braces behind those in `before`, which are reversed; `keys` are those of the
entry at hand. -/
def braces : Nat → Nat → Span → Awaited → List RawKey → List (List RawKey × RawValue) →
    List Token → Except Fault (RawValue × List Token)
  | 0, _, opening, _, _, before, ts => .ok (.braces before.reverse opening, ts)
  | _, _, opening, _, _, before, [] => .ok (.braces before.reverse opening, [])
  | fuel + 1, depth, opening, awaited, keys, before, t :: rest =>
    match t.kind with
    | .comment => do
      checkComment t
      braces fuel depth opening awaited keys before rest
    | .blank => braces fuel depth opening awaited keys before rest
    | .newline => do
      checkNewline t
      braces fuel depth opening awaited keys before rest
    | .ending => .error ⟨.unclosedBraces, t.span⟩
    | .comma =>
      if awaited = .comma then braces fuel depth opening .key [] before rest
      else .error ⟨.extraEntryComma awaited, t.span.before⟩
    | .equals =>
      match awaited with
      | .key => braces fuel depth opening .value [emptyKey t] before rest
      | .equals => braces fuel depth opening .value keys before rest
      | _ => .error ⟨.extraAssignment awaited, t.span.before⟩
    | .closeBrace =>
      match awaited with
      | .equals => .error ⟨.missingAssignment awaited, t.span.before⟩
      | .value =>
        .ok (.braces ((keys, emptyScalar t) :: before).reverse (opening.append t.span), rest)
      | _ => .ok (.braces before.reverse (opening.append t.span), rest)
    | .closeBracket => .error ⟨.missingBracket, t.span.before⟩
    | .openBrace | .openBracket =>
      match awaited with
      | .value => do
        let (v, rest) ← value fuel depth (t :: rest)
        braces fuel depth opening .comma [] ((keys, v) :: before) rest
      | .equals => .error ⟨.missingAssignment awaited, t.span.before⟩
      | _ => .error ⟨.missingEntryKey awaited, t.span.before⟩
    | .string _ | .atom | .dot =>
      match awaited with
      | .key =>
        let (key, rest) := match keyOf? t with
          | some key => (key, rest)
          | none => (emptyKey t, t :: rest)
        let (more, _, rest) := dottedKeys rest.length rest
        braces fuel depth opening .equals (key :: more) before rest
      | .value => do
        let (v, rest) ← value fuel depth (t :: rest)
        braces fuel depth opening .comma [] ((keys, v) :: before) rest
      | .equals => .error ⟨.missingAssignment awaited, t.span.before⟩
      | .comma => .error ⟨.missingEntryComma awaited, t.span.before⟩

end

/-- The value behind an equals sign and the end of its line. -/
def assigned (keys : List RawKey) (ts : List Token) : Except Fault (Statement × List Token) := do
  let ts := skipBlank ts
  let (v, rest) ← value (2 * ts.length + 2) maxDepth ts
  return (.assignment keys v, ← lineEnd rest)

def keyAndValue (key : RawKey) (ts : List Token) : Except Fault (Statement × List Token) := do
  let (more, _, rest) := dottedKeys ts.length ts
  match skipBlank rest with
  | t :: rest =>
    if t.kind = .equals then assigned (key :: more) rest
    else throw ⟨.keyWithoutValue, t.span.before⟩
  | [] => throw ⟨.keyWithoutValue, ⟨0, 0⟩⟩

/-- The statements of a text behind those in `before`, which are reversed. -/
def statementsFrom : Nat → List Statement → List Token → Except Fault (List Statement)
  | 0, before, _ => .ok before.reverse
  | _, before, [] => .ok before.reverse
  | fuel + 1, before, t :: rest =>
    let add (r : Except Fault (Statement × List Token)) : Except Fault (List Statement) := do
      let (s, rest) ← r
      statementsFrom fuel (s :: before) rest
    match t.kind with
    | .openBracket =>
      match rest with
      | u :: more =>
        if u.kind = .openBracket then add (header true (t.span.append u.span) more)
        else add (header false t.span rest)
      | [] => add (header false t.span rest)
    | .closeBracket => .error ⟨.missingTableOpen, t.span.before⟩
    | .string q => add (keyAndValue ⟨t.text, some q, t.span⟩ rest)
    | .atom => add (keyAndValue ⟨t.text, none, t.span⟩ rest)
    | .equals => add (assigned [emptyKey t] rest)
    | .dot => add (keyAndValue (emptyKey t) (t :: rest))
    | .comma | .openBrace | .closeBrace => .error ⟨.invalidKey, t.span.before⟩
    | .blank => statementsFrom fuel before rest
    | .newline => do
      checkNewline t
      statementsFrom fuel before rest
    | .comment => do
      checkComment t
      statementsFrom fuel before rest
    | .ending => .ok before.reverse

def statements (cs : List Char) : Except Fault (List Statement) :=
  let ts := tokens cs
  statementsFrom ts.length [] ts

end AppSpec.Toml
