import AppSpec.Text.Span

/-!
# Faults of configuration text

What can be wrong with the tables of a configuration file, and the stretch of it that is to blame.
-/

namespace AppSpec.Toml

/-- What a list of entries between braces waits for. -/
inductive Awaited where
  | key
  | equals
  | value
  | comma
deriving DecidableEq, Repr, Inhabited

def Awaited.text : Awaited → String
  | .key => "key"
  | .equals => "\x60=\x60"
  | .value => "value"
  | .comma => "\x60,\x60"

inductive Problem where
  | loneReturn
  | commentCharacter
  | unclosedTable
  | unclosedArrayTable (closing : String)
  | missingTableOpen
  | invalidKey
  | keyWithoutValue
  | trailingText
  | extraEquals
  | missingBrace
  | missingBracket
  | unclosedArray
  | extraArrayComma
  | arrayEquals
  | missingArrayComma
  | unclosedBraces
  | extraEntryComma (awaited : Awaited)
  | extraAssignment (awaited : Awaited)
  | missingEntryKey (awaited : Awaited)
  | missingAssignment (awaited : Awaited)
  | missingEntryValue (awaited : Awaited)
  | missingEntryComma (awaited : Awaited)
  | tooDeep
  | emptyKey
  | keyCharacter
  | multilineKey (kind : String)
  | unopened (quote : String)
  | unquoted
  | literalString (expected : String)
  | basicString (expected : String)
  | multilineLiteral (expected : String)
  | multilineBasic (expected : String)
  | badEscape
  | shortEscape
  | badCodePoint
  | notSymbol (kind symbol : String)
  | redundantSign
  | signedRadix
  | upperRadix (lower : String)
  | redundantRadix
  | radixDigit (kind : String)
  | leadingZero
  | underscore
  | missingDigits (part : String)
  | trailingFloat
  | datetime (what expected : Option String)
  | duplicateKey
  | notATable (kind : String)
deriving DecidableEq, Repr, Inhabited

def Problem.text : Problem → String
  | .loneReturn => "carriage return must be followed by newline, expected newline"
  | .commentCharacter => "invalid comment character, expected printable characters"
  | .unclosedTable => "unclosed table, expected \x60]\x60"
  | .unclosedArrayTable closing => "unclosed array table, expected \x60" ++ closing ++ "\x60"
  | .missingTableOpen => "missing table open, expected \x60[\x60"
  | .invalidKey => "invalid key, expected key"
  | .keyWithoutValue => "key with no value, expected \x60=\x60"
  | .trailingText => "unexpected key or value, expected newline, \x60#\x60"
  | .extraEquals => "extra \x60=\x60, expected nothing"
  | .missingBrace => "missing inline table opening, expected \x60\x7b\x60"
  | .missingBracket => "missing array opening, expected \x60[\x60"
  | .unclosedArray => "unclosed array, expected \x60]\x60"
  | .extraArrayComma => "extra comma in array, expected value"
  | .arrayEquals => "unexpected \x60=\x60 in array, expected value, \x60]\x60"
  | .missingArrayComma => "missing comma between array elements, expected \x60,\x60"
  | .unclosedBraces => "unclosed inline table, expected \x60\x7d\x60"
  | .extraEntryComma a => "extra comma in inline table, expected " ++ a.text
  | .extraAssignment a => "extra assignment between key-value pairs, expected " ++ a.text
  | .missingEntryKey a => "missing key for inline table element, expected " ++ a.text
  | .missingAssignment a => "missing assignment between key-value pairs, expected " ++ a.text
  | .missingEntryValue a => "missing value for inline table element, expected " ++ a.text
  | .missingEntryComma a => "missing comma between key-value pairs, expected " ++ a.text
  | .tooDeep => "cannot recurse further; max recursion depth met"
  | .emptyKey => "unquoted keys cannot be empty, expected letters, numbers, \x60-\x60, \x60_\x60"
  | .keyCharacter => "invalid unquoted key, expected letters, numbers, \x60-\x60, \x60_\x60"
  | .multilineKey kind =>
    "keys cannot be multi-line " ++ kind ++ " strings, expected basic string, literal string"
  | .unopened quote => "missing opening quote, expected \x60" ++ quote ++ "\x60"
  | .unquoted => "string values must be quoted, expected literal string"
  | .literalString e => "invalid literal string, expected " ++ e
  | .basicString e => "invalid basic string, expected " ++ e
  | .multilineLiteral e => "invalid multi-line literal string, expected " ++ e
  | .multilineBasic e => "invalid multi-line basic string, expected " ++ e
  | .badEscape =>
    "missing escaped value, expected \x60b\x60, \x60e\x60, \x60f\x60, \x60n\x60, \x60r\x60, " ++
      "\x60\\\x60, \x60\"\x60, \x60x\x60, \x60u\x60, \x60U\x60"
  | .shortEscape => "too few unicode value digits, expected unicode hexadecimal value"
  | .badCodePoint => "invalid value, expected unicode hexadecimal value"
  | .notSymbol kind symbol => "invalid " ++ kind ++ ", expected \x60" ++ symbol ++ "\x60"
  | .redundantSign => "redundant numeric sign, expected nothing"
  | .signedRadix => "integers with a radix cannot be signed, expected nothing"
  | .upperRadix lower => "radix must be lowercase, expected \x60" ++ lower ++ "\x60"
  | .redundantRadix => "redundant integer number prefix, expected nothing"
  | .radixDigit kind => "invalid " ++ kind ++ " number"
  | .leadingZero => "unexpected leading zero, expected nothing"
  | .underscore => "\x60_\x60 may only go between digits, expected nothing"
  | .missingDigits part => "invalid " ++ part ++ ", expected digits"
  | .trailingFloat => "invalid float, expected nothing"
  | .datetime what expected =>
    "invalid " ++ what.getD "datetime" ++
      (match expected with | some e => ", expected " ++ e | none => "")
  | .duplicateKey => "duplicate key"
  | .notATable kind => "cannot extend value of type " ++ kind ++ " with a dotted key"

structure Fault where
  problem : Problem
  span : Span
deriving DecidableEq, Repr, Inhabited

end AppSpec.Toml
