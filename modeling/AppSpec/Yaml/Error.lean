/-!
# Faults of the text format

What can be wrong with a specification text, where, and in the middle of what. A position is left
out of the message when it is the very start of the text, and the position of the surrounding
construct also when it is the position of the fault.
-/

namespace AppSpec.Yaml

/-- A place in the text, counted in characters from zero. -/
structure Mark where
  index : Nat := 0
  line : Nat := 0
  column : Nat := 0
deriving DecidableEq, Repr, Inhabited

def Mark.isStart (m : Mark) : Bool :=
  m.line == 0 && m.column == 0

def Mark.text (m : Mark) : String :=
  "line " ++ toString (m.line + 1) ++ " column " ++ toString (m.column + 1)

def Mark.sameSpot (m n : Mark) : Bool :=
  m.line == n.line && m.column == n.column

inductive Problem where
  | controlCharacter
  | missingColon
  | blockEntryNotAllowed
  | keyNotAllowed
  | valueNotAllowed
  | noToken
  | missingDirectiveName
  | nonAlphabetic
  | unknownDirective
  | commentOrBreak
  | digitOrPoint
  | longVersion
  | missingVersion
  | missingBlank
  | blankOrBreak
  | missingName
  | missingClosingAngle
  | missingBang
  | missingTagUri
  | missingUriOctet
  | leadingOctet
  | trailingOctet
  | zeroIndentation
  | tabIndentation
  | documentIndicator
  | endOfStream
  | unknownEscape
  | missingHexDigit
  | escapeOutOfRange
  | unexpectedColon
  | tabViolation
  | missingStreamStart
  | missingDocumentStart
  | duplicateVersion
  | incompatibleVersion
  | duplicateTagHandle
  | undefinedTagHandle
  | missingNode
  | missingDash
  | missingKey
  | missingCommaOrBracket
  | missingCommaOrBrace
deriving DecidableEq, Repr, Inhabited

def Problem.text : Problem → String
  | .controlCharacter => "control characters are not allowed"
  | .missingColon => "could not find expected ':'"
  | .blockEntryNotAllowed => "block sequence entries are not allowed in this context"
  | .keyNotAllowed => "mapping keys are not allowed in this context"
  | .valueNotAllowed => "mapping values are not allowed in this context"
  | .noToken => "found character that cannot start any token"
  | .missingDirectiveName => "could not find expected directive name"
  | .nonAlphabetic => "found unexpected non-alphabetical character"
  | .unknownDirective => "found unknown directive name"
  | .commentOrBreak => "did not find expected comment or line break"
  | .digitOrPoint => "did not find expected digit or '.' character"
  | .longVersion => "found extremely long version number"
  | .missingVersion => "did not find expected version number"
  | .missingBlank => "did not find expected whitespace"
  | .blankOrBreak => "did not find expected whitespace or line break"
  | .missingName => "did not find expected alphabetic or numeric character"
  | .missingClosingAngle => "did not find the expected '>'"
  | .missingBang => "did not find expected '!'"
  | .missingTagUri => "did not find expected tag URI"
  | .missingUriOctet => "did not find URI escaped octet"
  | .leadingOctet => "found an incorrect leading UTF-8 octet"
  | .trailingOctet => "found an incorrect trailing UTF-8 octet"
  | .zeroIndentation => "found an indentation indicator equal to 0"
  | .tabIndentation => "found a tab character where an indentation space is expected"
  | .documentIndicator => "found unexpected document indicator"
  | .endOfStream => "found unexpected end of stream"
  | .unknownEscape => "found unknown escape character"
  | .missingHexDigit => "did not find expected hexadecimal number"
  | .escapeOutOfRange => "found invalid Unicode character escape code"
  | .unexpectedColon => "found unexpected ':'"
  | .tabViolation => "found a tab character that violates indentation"
  | .missingStreamStart => "did not find expected <stream-start>"
  | .missingDocumentStart => "did not find expected <document start>"
  | .duplicateVersion => "found duplicate %YAML directive"
  | .incompatibleVersion => "found incompatible YAML document"
  | .duplicateTagHandle => "found duplicate %TAG directive"
  | .undefinedTagHandle => "found undefined tag handle"
  | .missingNode => "did not find expected node content"
  | .missingDash => "did not find expected '-' indicator"
  | .missingKey => "did not find expected key"
  | .missingCommaOrBracket => "did not find expected ',' or ']'"
  | .missingCommaOrBrace => "did not find expected ',' or '\x7d'"

/-- The construct that was being read when a fault was met. -/
inductive Construct where
  | simpleKey
  | nextToken
  | directive
  | versionDirective
  | tagDirective
  | tagDirectiveHandle
  | anchor
  | alias
  | tag
  | tagUri
  | tagDirectiveUri
  | tagDirectiveTail
  | blockScalar
  | quotedScalar
  | quotedEscape
  | plainScalar
  | node
  | blockNode
  | flowNode
  | blockCollection
  | blockMapping
  | flowSequence
  | flowMapping
deriving DecidableEq, Repr, Inhabited

def Construct.text : Construct → String
  | .simpleKey => "while scanning a simple key"
  | .nextToken => "while scanning for the next token"
  | .directive => "while scanning a directive"
  | .versionDirective => "while scanning a %YAML directive"
  | .tagDirective => "while scanning a %TAG directive"
  | .tagDirectiveHandle => "while scanning a tag directive"
  | .anchor => "while scanning an anchor"
  | .alias => "while scanning an alias"
  | .tag => "while scanning a tag"
  | .tagUri => "while parsing a tag"
  | .tagDirectiveUri => "while parsing a %TAG directive"
  | .tagDirectiveTail => "while parsing a tag directive"
  | .blockScalar => "while scanning a block scalar"
  | .quotedScalar => "while scanning a quoted scalar"
  | .quotedEscape => "while parsing a quoted scalar"
  | .plainScalar => "while scanning a plain scalar"
  | .node => "while parsing a node"
  | .blockNode => "while parsing a block node"
  | .flowNode => "while parsing a flow node"
  | .blockCollection => "while parsing a block collection"
  | .blockMapping => "while parsing a block mapping"
  | .flowSequence => "while parsing a flow sequence"
  | .flowMapping => "while parsing a flow mapping"

structure Fault where
  problem : Problem
  place : Mark
  /-- Bytes before a character that the text may not hold. -/
  offset : Nat := 0
  around : Option (Construct × Mark) := none
deriving DecidableEq, Repr, Inhabited

def Fault.text (f : Fault) : String :=
  let place :=
    if !f.place.isStart then " at " ++ f.place.text
    else if f.offset != 0 then " at position " ++ toString f.offset
    else ""
  let around :=
    match f.around with
    | none => ""
    | some (construct, mark) =>
      ", " ++ construct.text ++
        (if !mark.isStart && !mark.sameSpot f.place then " at " ++ mark.text else "")
  f.problem.text ++ place ++ around

end AppSpec.Yaml
