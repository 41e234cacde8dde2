import AppSpec.Text.CharacterTable

/-!
# Quoted text in messages

A text in double quotes, with quotes, backslashes, line breaks and every character that cannot be
shown written as an escape.
-/

namespace AppSpec.Text

def hexDigits (n : Nat) : String :=
  String.ofList (Nat.toDigits 16 n)

def escapeChar (c : Char) : String :=
  match c with
  | '\x00' => "\\0"
  | '\t' => "\\t"
  | '\r' => "\\r"
  | '\n' => "\\n"
  | '"' => "\\\""
  | '\\' => "\\\\"
  | c =>
    if 0x20 ≤ c.toNat && c.toNat < 0x7F then c.toString
    else if inRanges graphemeExtendRanges c || inRanges unprintableRanges c then
      "\\u\x7b" ++ hexDigits c.toNat ++ "\x7d"
    else c.toString

def quoted (s : String) : String :=
  "\"" ++ String.join (s.toList.map escapeChar) ++ "\""

end AppSpec.Text
