import AppSpec.Toml.Datetime
import AppSpec.Toml.Statement
import AppSpec.Double.Rounding

/-!
# Keys and scalars

What a written key or scalar stands for: the text of a quoted one, and a number, a boolean or a date
for a bare one. Spans are first counted from the beginning of the scalar.
-/

namespace AppSpec.Toml

inductive Scalar where
  | string (s : String)
  | integer (n : Int)
  | float (x : Double)
  | boolean (b : Bool)
  | datetime
  /-- A number that no type of number can hold. -/
  | overflow (isFloat : Bool)
deriving Repr, Inhabited

/-! ## Quoted text -/

def isTextChar (c : Char) : Bool :=
  c == '\t' || (c.toNat ≥ 0x20 && c.toNat ≠ 0x7F)

/-- The text less three quotes, or one, at its end; none if they are not there. -/
def dropClosing? (closing cs : List Char) : Option (List Char) :=
  if closing.isSuffixOf cs then some (cs.take (cs.length - closing.length)) else none

def dropFirstNewline : List Char → List Char
  | '\n' :: rest => rest
  | '\r' :: '\n' :: rest => rest
  | cs => cs

/-- A text with its escapes and the places of its characters. -/
def hexDigit? (c : Char) : Option Nat :=
  if c.isDigit then some (c.toNat - '0'.toNat)
  else if 'a' ≤ c && c ≤ 'f' then some (c.toNat - 'a'.toNat + 10)
  else if 'A' ≤ c && c ≤ 'F' then some (c.toNat - 'A'.toNat + 10)
  else none

/-- The character that `length` hexadecimal digits name. -/
def unicodeEscape (length offset : Nat) (cs : List Char) : Except Fault (Char × List Char) :=
  let digits := (cs.take length).takeWhile fun c => (hexDigit? c).isSome
  if digits.length < length then .error ⟨.shortEscape, ⟨offset, 0⟩⟩
  else
    let n := digits.foldl (fun n c => n * 16 + (hexDigit? c).getD 0) 0
    if n < 0xD800 || (0xDFFF < n && n ≤ 0x10FFFF) then .ok (Char.ofNat n, cs.drop length)
    else .error ⟨.badCodePoint, ⟨offset, 0⟩⟩

/-- The character behind a backslash. -/
def escape (offset : Nat) : List Char → Except Fault (Char × List Char)
  | [] => .error ⟨.badEscape, ⟨offset, 0⟩⟩
  | c :: rest =>
    match c with
    | 'b' => .ok ('\x08', rest)
    | 'e' => .ok ('\x1B', rest)
    | 'f' => .ok ('\x0C', rest)
    | 'n' => .ok ('\n', rest)
    | 'r' => .ok ('\r', rest)
    | 't' => .ok ('\t', rest)
    | 'x' => unicodeEscape 2 (offset + 1) rest
    | 'u' => unicodeEscape 4 (offset + 1) rest
    | 'U' => unicodeEscape 8 (offset + 1) rest
    | '\\' => .ok ('\\', rest)
    | '"' => .ok ('"', rest)
    | _ => .error ⟨.badEscape, ⟨offset, 0⟩⟩

/-- A backslash before the end of its line: blanks and line ends behind it are not text. -/
def isLineContinuation (cs : List Char) : Bool :=
  match cs.dropWhile isBlank with
  | '\n' :: _ | '\r' :: '\n' :: _ => true
  | _ => false

def isLineSpace (c : Char) : Bool :=
  isBlank c || c == '\n' || c == '\r'

def badRun (cs : List Char) : Nat :=
  Text.byteLength (cs.takeWhile fun c => !(isTextChar c || c == '\\'))

/-- Text in double quotes; `offset` is the place of `cs`. -/
def basicText (multiline : Bool) : Nat → Nat → List Char → Except Fault (List Char)
  | _, _, [] => .ok []
  | 0, _, _ => .ok []
  | fuel + 1, offset, c :: rest => do
    let expected := (if multiline then "printable characters, " else
      "non-double-quote visible characters, ") ++ "\x60\\\x60"
    if c = '\\' then
      if multiline && isLineContinuation rest then
        let skipped := rest.takeWhile isLineSpace
        basicText multiline fuel (offset + 1 + Text.byteLength skipped) (rest.drop skipped.length)
      else
        let (x, after) ← escape (offset + 1) rest
        let used := Text.byteLength rest - Text.byteLength after
        return x :: (← basicText multiline fuel (offset + 1 + used) after)
    else if multiline && c = '\n' then
      return c :: (← basicText multiline fuel (offset + 1) rest)
    else if multiline && c = '\r' then
      if rest.head? = some '\n' then return c :: (← basicText multiline fuel (offset + 1) rest)
      else throw ⟨.loneReturn, ⟨offset + 1, 0⟩⟩
    else if !isTextChar c then
      throw ⟨if multiline then .multilineBasic expected else .basicString expected,
        ⟨offset, badRun (c :: rest)⟩⟩
    else return c :: (← basicText multiline fuel (offset + c.utf8Size) rest)

/-- Text in single quotes. -/
def literalText (multiline : Bool) : Nat → List Char → Except Fault (List Char)
  | _, [] => .ok []
  | offset, c :: rest =>
    if multiline && c = '\n' then do return c :: (← literalText multiline (offset + 1) rest)
    else if multiline && c = '\r' then
      if rest.head? = some '\n' then do return c :: (← literalText multiline (offset + 1) rest)
      else .error ⟨.loneReturn, ⟨offset + 1, 0⟩⟩
    else if !isTextChar c then
      .error ⟨if multiline then .multilineLiteral "non-single-quote characters"
        else .literalString "non-single-quote visible characters", ⟨offset, 0⟩⟩
    else do return c :: (← literalText multiline (offset + c.utf8Size) rest)

def quotedText (q : Quoting) (cs : List Char) : Except Fault (List Char) :=
  let ending : Span := ⟨Text.byteLength cs, 0⟩
  match q with
  | .literal =>
    match dropClosing? ['\''] (cs.drop 1) with
    | some body => literalText false 1 body
    | none => .error ⟨.literalString "\x60'\x60", ending⟩
  | .basic =>
    match dropClosing? ['"'] (cs.drop 1) with
    | some body => basicText false body.length 1 body
    | none => .error ⟨.basicString "\x60\"\x60", ending⟩
  | .multilineLiteral =>
    let body := dropFirstNewline (cs.drop 3)
    match dropClosing? ['\'', '\'', '\''] body with
    | some body' => literalText true (Text.byteLength cs - Text.byteLength body) body'
    | none => .error ⟨.multilineLiteral "\x60'''\x60", ending⟩
  | .multilineBasic =>
    let body := dropFirstNewline (cs.drop 3)
    match dropClosing? ['"', '"', '"'] body with
    | some body' =>
      basicText true body'.length (Text.byteLength cs - Text.byteLength body) body'
    | none => .error ⟨.multilineBasic "\x60\"\"\"\x60", ending⟩

/-! ## Bare keys -/

def isKeyChar (c : Char) : Bool :=
  c.isAlphanum || c == '-' || c == '_'

def checkKey : Nat → List Char → Except Fault Unit
  | _, [] => .ok ()
  | offset, c :: rest =>
    if isKeyChar c then checkKey (offset + c.utf8Size) rest
    else .error ⟨.keyCharacter, ⟨offset, c.utf8Size⟩⟩

def bareKey (cs : List Char) : Except Fault (List Char) :=
  if cs.isEmpty then .error ⟨.emptyKey, ⟨0, 0⟩⟩
  else (checkKey 0 cs).map fun _ => cs

/-! ## Bare values -/

/-- A text that is no value; a closing quote at its end tells that the opening one is missing. -/
def notAValue (cs : List Char) : Fault :=
  let whole : Span := ⟨0, Text.byteLength cs⟩
  let endsWith (s : String) : Bool := s.toList.isSuffixOf cs
  if endsWith "'''" then ⟨.unopened "'''", ⟨0, 0⟩⟩
  else if endsWith "\"\"\"" then ⟨.unopened "\"\"\"", ⟨0, 0⟩⟩
  else if endsWith "'" then ⟨.unopened "'", ⟨0, 0⟩⟩
  else if endsWith "\"" then ⟨.unopened "\"", ⟨0, 0⟩⟩
  else ⟨.unquoted, whole⟩

inductive Radix where
  | decimal
  | hexadecimal
  | octal
  | binary
deriving DecidableEq, Repr

def Radix.base : Radix → Nat
  | .decimal => 10
  | .hexadecimal => 16
  | .octal => 8
  | .binary => 2

def Radix.name : Radix → String
  | .decimal => "integer"
  | .hexadecimal => "hexadecimal"
  | .octal => "octal"
  | .binary => "binary"

def Radix.letter : Radix → Char
  | .decimal => 'd'
  | .hexadecimal => 'x'
  | .octal => 'o'
  | .binary => 'b'

def Radix.isDigit (r : Radix) (c : Char) : Bool :=
  (hexDigit? c).any (· < r.base)

/-- Digits on both sides of every underscore; `start` is the place of the number. -/
def checkUnderscores (isDigit : Char → Bool) (start : Nat) (cs : List Char) : Except Fault Unit :=
  let wrong (i : Nat) : Except Fault Unit := .error ⟨.underscore, ⟨i, 1⟩⟩
  if cs.head? == some '_' then wrong 0
  else if cs.getLast? == some '_' then wrong (start + cs.length - 1)
  else go wrong start cs
where
  go (wrong : Nat → Except Fault Unit) : Nat → List Char → Except Fault Unit
    | offset, a :: '_' :: b :: rest =>
      if !isDigit a then wrong (offset + 1)
      else if !isDigit b then wrong (offset + 1)
      else go wrong (offset + 1) ('_' :: b :: rest)
    | offset, _ :: rest => go wrong (offset + 1) rest
    | _, [] => .ok ()

def withoutUnderscores (cs : List Char) : List Char :=
  cs.filter (· != '_')

/-- The integer of a run of digits; one of no digits is beyond every type. -/
def integerOf (negative : Bool) (base : Nat) (cs : List Char) : Scalar :=
  let digits := withoutUnderscores cs
  let n := digits.foldl (fun n c => n * base + (hexDigit? c).getD 0) 0
  if digits.isEmpty then .overflow false
  else if negative then (if n ≤ Nat.pow 2 127 then .integer (-n) else .overflow false)
  else if n < Nat.pow 2 128 then .integer n
  else .overflow false

/-- Digits and underscores at the beginning: how many, and what follows them. -/
def digitRun (cs : List Char) : Nat × List Char :=
  let run := cs.takeWhile fun c => c.isDigit || c == '_'
  ((run.filter Char.isDigit).length, cs.drop run.length)

/-- The digits of one part of a float. -/
def floatPart (part : String) (zeroAllowed : Bool) (offset : Nat) (cs : List Char) :
    Except Fault (Nat × List Char) :=
  let (count, rest) := digitRun cs
  if count = 0 then .error ⟨.missingDigits part, ⟨offset, 0⟩⟩
  else if 1 < count && cs.head? == some '0' && !zeroAllowed then .error ⟨.leadingZero, ⟨offset, 1⟩⟩
  else .ok (offset + (cs.length - rest.length), rest)

def checkFloat (start : Nat) (cs : List Char) : Except Fault Unit := do
  let (offset, rest) ← floatPart "mantissa" false start cs
  let (offset, rest) ← match rest with
    | '.' :: r => floatPart "fraction" true (offset + 1) r
    | _ => pure (offset, rest)
  let (offset, rest) ← match rest with
    | e :: r =>
      if e = 'e' || e = 'E' then
        match r with
        | s :: r' =>
          if s = '+' || s = '-' then floatPart "exponent" true (offset + 2) r'
          else floatPart "exponent" true (offset + 1) r
        | [] => floatPart "exponent" true (offset + 1) r
      else pure (offset, rest)
    | [] => pure (offset, rest)
  if !rest.isEmpty then throw ⟨.trailingFloat, ⟨offset, Text.byteLength rest⟩⟩

def float (negative : Bool) (start : Nat) (cs : List Char) : Except Fault Scalar := do
  checkFloat start cs
  checkUnderscores Char.isDigit start cs
  match Double.ofChars? (withoutUnderscores cs) with
  | some x =>
    if !x.isFinite then return .overflow true
    else return .float (if negative then x.negate else x)
  | none => return .overflow true

def integer (negative : Bool) (start : Nat) (cs : List Char) : Except Fault Scalar := do
  if cs.head? == some '0' && 1 < cs.length then throw ⟨.leadingZero, ⟨start, 1⟩⟩
  checkUnderscores Char.isDigit start cs
  return integerOf negative 10 cs

/-- A number or date that begins with a digit; `whole` is the scalar with its sign. -/
def number (negative : Bool) (whole : List Char) (start : Nat) (cs : List Char) :
    Except Fault Scalar :=
  match cs.dropWhile Char.isDigit with
  | [] => integer negative start cs
  | c :: rest =>
    if c = '-' || c = ':' then
      match Datetime.check whole with
      | .ok () => .ok .datetime
      | .error e => .error ⟨.datetime e.what e.expected, ⟨0, Text.byteLength whole⟩⟩
    else if (c :: rest).contains ' ' then .error (notAValue whole)
    else if (c :: rest).any fun x => x == '.' || x == 'e' || x == 'E' then float negative start cs
    else if c = '_' then
      if cs.all fun x => x.isDigit || x == '_' then integer negative start cs
      else .error (notAValue whole)
    else .error (notAValue whole)

/-- A number in another radix, behind its zero and letter. -/
def radixed (negative signed upper : Bool) (r : Radix) (start : Nat) (cs : List Char) :
    Except Fault Scalar := do
  if r = .decimal then throw ⟨.redundantRadix, ⟨start, 2⟩⟩
  if signed then throw ⟨.signedRadix, ⟨0, 1⟩⟩
  if upper then throw ⟨.upperRadix (String.ofList ['0', r.letter]), ⟨start, 2⟩⟩
  match cs.findIdx? fun c => !(r.isDigit c || c == '_') with
  | some i => throw ⟨.radixDigit r.name, ⟨start + 2 + Text.byteLength (cs.take i), 0⟩⟩
  | none => pure ()
  checkUnderscores r.isDigit (start + 2) cs
  return integerOf negative r.base cs

def radixOfLetter? (c : Char) : Option Radix :=
  if c = 'x' || c = 'X' then some .hexadecimal
  else if c = 'o' || c = 'O' then some .octal
  else if c = 'b' || c = 'B' then some .binary
  else if c = 'd' || c = 'D' then some .decimal
  else none

def zeroFirst (negative signed : Bool) (whole : List Char) (start : Nat) (cs : List Char) :
    Except Fault Scalar :=
  match cs with
  | '0' :: c :: rest =>
    match radixOfLetter? c with
    | some r => radixed negative signed c.isUpper r start rest
    | none => number negative whole start cs
  | _ => number negative whole start cs

/-- A word that stands for a value; `start` is its place behind a sign. -/
def symbol (whole : List Char) (start : Nat) (cs : List Char) (kind name : String) (s : Scalar) :
    Except Fault Scalar :=
  if cs = name.toList then .ok s
  else if whole.contains ' ' then .error (notAValue whole)
  else .error ⟨.notSymbol kind name, ⟨start, Text.byteLength cs⟩⟩

/-- A value behind a sign. -/
def signed (negative : Bool) (whole : List Char) (start : Nat) (cs : List Char) :
    Except Fault Scalar :=
  match cs with
  | [] => .error (notAValue whole)
  | c :: _ =>
    if c = '+' || c = '-' then .error ⟨.redundantSign, ⟨start, 1⟩⟩
    else if c = '0' then zeroFirst negative true whole start cs
    else if c = '.' then float negative start cs
    else if c.isDigit || c = '_' then number negative whole start cs
    else if c = 'i' || c = 'I' then
      symbol whole start cs "float" "inf"
        (.float (if negative then Double.negInfinity else Double.infinity))
    else if c = 'n' || c = 'N' then symbol whole start cs "float" "nan" (.float Double.nan)
    else .error (notAValue whole)

def bareValue (cs : List Char) : Except Fault Scalar :=
  match cs with
  | [] => .error (notAValue cs)
  | c :: rest =>
    if c = '+' || c = '-' then signed (c = '-') cs 1 rest
    else if c = '0' then zeroFirst false false cs 0 cs
    else if c = '.' then float false 0 cs
    else if c.isDigit || c = '_' then number false cs 0 cs
    else if c = 't' || c = 'T' then symbol cs 0 cs "boolean" "true" (.boolean true)
    else if c = 'f' || c = 'F' then symbol cs 0 cs "boolean" "false" (.boolean false)
    else if c = 'i' || c = 'I' then symbol cs 0 cs "float" "inf" (.float Double.infinity)
    else if c = 'n' || c = 'N' then symbol cs 0 cs "float" "nan" (.float Double.nan)
    else .error (notAValue cs)

/-- Moves a fault to where its scalar stands. -/
def shifted {α : Type} (span : Span) (r : Except Fault α) : Except Fault α :=
  r.mapError fun f => { f with span := f.span.shift span.start }

/-- The text of a key; one of several lines is refused whatever it holds. -/
def RawKey.decode (k : RawKey) : Except Fault String :=
  match k.quoting with
  | some .multilineLiteral => .error ⟨.multilineKey "literal", k.span⟩
  | some .multilineBasic => .error ⟨.multilineKey "basic", k.span⟩
  | some q => shifted k.span <| (quotedText q k.text).map String.ofList
  | none => shifted k.span <| (bareKey k.text).map String.ofList

def decodeScalar (text : List Char) (quoting : Option Quoting) (span : Span) : Except Fault Scalar :=
  shifted span <| match quoting with
    | some q => (quotedText q text).map fun cs => .string (String.ofList cs)
    | none => bareValue text

end AppSpec.Toml
