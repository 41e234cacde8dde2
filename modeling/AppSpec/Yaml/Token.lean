import AppSpec.Yaml.Cursor

/-!
# Tokens

The tokens of a specification text and the reading of the short ones: anchors, tags and directives.
A tag's suffix is kept as octets, since escapes in it spell octets.
-/

namespace AppSpec.Yaml

inductive ScalarStyle where
  | plain
  | quoted
  | block
deriving DecidableEq, Repr, Inhabited

inductive Token where
  | streamStart
  | streamEnd
  | versionDirective (major minor : Nat)
  | tagDirective (handle : List Char) (start : List UInt8)
  | documentStart
  | documentEnd
  | blockSequenceStart
  | blockMappingStart
  | blockEnd
  | flowSequenceStart
  | flowSequenceEnd
  | flowMappingStart
  | flowMappingEnd
  | blockEntry
  | flowEntry
  | key
  | value
  | alias (name : List Char)
  | anchor (name : List Char)
  | tag (handle : List Char) (suffix : List UInt8)
  | scalar (text : List Char) (style : ScalarStyle)
deriving DecidableEq, Repr, Inhabited

/-- A token with the places where it begins and ends. -/
structure Placed where
  token : Token
  start : Mark
  stop : Mark
deriving Repr, Inhabited

/-- An anchor or alias: its sign, a word, and then a blank or one of the marks that may follow. -/
def scanName (isAlias : Bool) (c : Cursor) : Except Fault (Placed × Cursor) :=
  let (name, after) := c.next.takeWhile isWordChar
  let ends := after.isOpenAt 0 || after.has 0 fun x => "?:,]\x7d%@\x60".contains x
  if name.isEmpty || !ends then
    .error (after.fault .missingName (if isAlias then .alias else .anchor) c.mark)
  else
    .ok (⟨if isAlias then .alias name else .anchor name, c.mark, after.mark⟩, after)

def isUriChar (verbatim : Bool) (c : Char) : Bool :=
  isWordChar c || ";/?:@&=+$.%!~*'()".contains c || (verbatim && ",[]".contains c)

/-- How many octets a character takes, by its first; none for an octet that cannot be first. -/
def octetCount (octet : Nat) : Nat :=
  if octet < 0x80 then 1
  else if octet < 0xC0 then 0
  else if octet < 0xE0 then 2
  else if octet < 0xF0 then 3
  else if octet < 0xF8 then 4
  else 0

def escapedOctet? (c : Cursor) : Option Nat :=
  match c.rest with
  | '%' :: h :: l :: _ => do
    let high ← hexValue? h
    let low ← hexValue? l
    return high * 16 + low
  | _ => none

/-- The `count` octets that must follow the first one of an escaped character. -/
def scanTrailingOctets (construct : Construct) (start : Mark) :
    Nat → Cursor → Except Fault (List UInt8 × Cursor)
  | 0, c => .ok ([], c)
  | count + 1, c =>
    match escapedOctet? c with
    | none => .error (c.fault .missingUriOctet construct start)
    | some octet =>
      if octet / 0x40 != 2 then .error (c.fault .trailingOctet construct start)
      else do
        let (octets, c) ← scanTrailingOctets construct start count (c.skip 3)
        return (UInt8.ofNat octet :: octets, c)

/-- The escaped octets of one character. -/
def scanEscapedOctets (construct : Construct) (start : Mark) (c : Cursor) :
    Except Fault (List UInt8 × Cursor) :=
  match escapedOctet? c with
  | none => .error (c.fault .missingUriOctet construct start)
  | some octet =>
    match octetCount octet with
    | 0 => .error (c.fault .leadingOctet construct start)
    | count + 1 => do
      let (octets, c) ← scanTrailingOctets construct start count (c.skip 3)
      return (UInt8.ofNat octet :: octets, c)

def charOctets (c : Char) : List UInt8 :=
  (String.singleton c).toUTF8.toList

def scanUriFrom (verbatim : Bool) (construct : Construct) (start : Mark) :
    Nat → Cursor → Except Fault (List UInt8 × Cursor)
  | 0, c => .ok ([], c)
  | fuel + 1, c =>
    match c.head? with
    | none => .ok ([], c)
    | some x =>
      if !isUriChar verbatim x then .ok ([], c)
      else do
        let (octets, c) ←
          if x == '%' then scanEscapedOctets construct start c
          else pure (charOctets x, c.next)
        let (more, c) ← scanUriFrom verbatim construct start fuel c
        return (octets ++ more, c)

/-- The text of a tag after `head`, whose first character is its sign and not part of the text. -/
def scanUri (verbatim directive : Bool) (head : List Char) (start : Mark) (c : Cursor) :
    Except Fault (List UInt8 × Cursor) := do
  let construct := if directive then Construct.tagDirectiveUri else Construct.tagUri
  let (octets, after) ← scanUriFrom verbatim construct start c.rest.length c
  if head.isEmpty && after.mark.index == c.mark.index then
    throw (after.fault .missingTagUri construct start)
  return (head.tail.flatMap charOctets ++ octets, after)

/-- A tag handle: `!`, or `!`, a word and perhaps another `!`. -/
def scanHandle (directive : Bool) (start : Mark) (c : Cursor) :
    Except Fault (List Char × Cursor) :=
  if !c.has 0 (· == '!') then
    .error (c.fault .missingBang (if directive then .tagDirectiveHandle else .tag) start)
  else
    let (word, after) := c.next.takeWhile isWordChar
    if after.has 0 (· == '!') then .ok ('!' :: word ++ ['!'], after.next)
    else if directive && !word.isEmpty then .error (after.fault .missingBang .tagDirectiveTail start)
    else .ok ('!' :: word, after)

/-- The handle and suffix of a tag: verbatim in angles, after a named handle, or local. -/
def scanTagParts (c : Cursor) : Except Fault ((List Char × List UInt8) × Cursor) := do
  let start := c.mark
  if c.has 1 (· == '<') then
    let (suffix, c) ← scanUri true false [] start (c.skip 2)
    if !c.has 0 (· == '>') then throw (c.fault .missingClosingAngle .tag start)
    return (([], suffix), c.next)
  else
    let (handle, c) ← scanHandle false start c
    if 2 ≤ handle.length && handle.getLast? == some '!' then
      let (suffix, c) ← scanUri false false [] start c
      return ((handle, suffix), c)
    else
      let (suffix, c) ← scanUri false false handle start c
      if suffix.isEmpty then return (([], charOctets '!'), c)
      else return ((['!'], suffix), c)

def scanTag (inFlow : Bool) (c : Cursor) : Except Fault (Placed × Cursor) := do
  let ((handle, suffix), after) ← scanTagParts c
  if !after.isOpenAt 0 && !(inFlow && after.has 0 (· == ',')) then
    throw (after.fault .blankOrBreak .tag c.mark)
  return (⟨.tag handle suffix, c.mark, after.mark⟩, after)

/-- A version number of at most nine digits. -/
def scanVersionNumber (start : Mark) (c : Cursor) : Except Fault (Nat × Cursor) :=
  let (digits, after) := c.takeWhile Char.isDigit
  if 9 < digits.length then .error ((c.skip 9).fault .longVersion .versionDirective start)
  else if digits.isEmpty then .error (c.fault .missingVersion .versionDirective start)
  else .ok (digits.foldl (fun n d => n * 10 + (d.toNat - '0'.toNat)) 0, after)

def scanVersion (start : Mark) (c : Cursor) : Except Fault (Token × Cursor) := do
  let (major, c) ← scanVersionNumber start (c.skipWhile isBlankChar)
  if !c.has 0 (· == '.') then throw (c.fault .digitOrPoint .versionDirective start)
  let (minor, c) ← scanVersionNumber start c.next
  return (.versionDirective major minor, c)

def scanTagDirective (start : Mark) (c : Cursor) : Except Fault (Token × Cursor) := do
  let (handle, c) ← scanHandle true start (c.skipWhile isBlankChar)
  if !c.has 0 isBlankChar then throw (c.fault .missingBlank .tagDirective start)
  let (uri, c) ← scanUri true true [] start (c.skipWhile isBlankChar)
  if !c.isOpenAt 0 then throw (c.fault .blankOrBreak .tagDirective start)
  return (.tagDirective handle uri, c)

/-- A directive with the rest of its line. -/
def scanDirective (c : Cursor) : Except Fault (Placed × Cursor) := do
  let start := c.mark
  let (name, c) := c.next.takeWhile isWordChar
  if name.isEmpty then throw (c.fault .missingDirectiveName .directive start)
  if !c.isOpenAt 0 then throw (c.fault .nonAlphabetic .directive start)
  let (token, c) ←
    if name == "YAML".toList then scanVersion start c
    else if name == "TAG".toList then scanTagDirective start c
    else throw (c.fault .unknownDirective .directive start)
  let stop := c.mark
  let c := c.skipToLineEnd
  if !c.atBreakOrEnd then throw (c.fault .commentOrBreak .directive start)
  return (⟨token, start, stop⟩, if c.isAtEnd then c else c.skipLine)

end AppSpec.Yaml
