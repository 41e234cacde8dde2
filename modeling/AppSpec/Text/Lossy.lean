/-!
# Text from any bytes

Bytes that are no text become replacement characters, one for each longest piece that could have
begun a character.
-/

namespace AppSpec.Text

def replacement : Char := '\ufffd'

def isContinuation (b : UInt8) : Bool := 0x80 ≤ b && b < 0xC0

/-- The second byte may follow the first. -/
def isSecond (first second : UInt8) : Bool :=
  if first == 0xE0 then 0xA0 ≤ second && second < 0xC0
  else if first == 0xED then 0x80 ≤ second && second < 0xA0
  else if first == 0xF0 then 0x90 ≤ second && second < 0xC0
  else if first == 0xF4 then 0x80 ≤ second && second < 0x90
  else isContinuation second

def low (b : UInt8) : Nat := b.toNat % 64

def lossyChars : List UInt8 → List Char
  | [] => []
  | a :: rest =>
    if a < 0x80 then Char.ofNat a.toNat :: lossyChars rest
    else if 0xC2 ≤ a && a < 0xE0 then
      match rest with
      | b :: rest' =>
        if isSecond a b then Char.ofNat ((a.toNat % 32) * 64 + low b) :: lossyChars rest'
        else replacement :: lossyChars (b :: rest')
      | [] => [replacement]
    else if 0xE0 ≤ a && a < 0xF0 then
      match rest with
      | b :: c :: rest' =>
        if !isSecond a b then replacement :: lossyChars (b :: c :: rest')
        else if isContinuation c then
          Char.ofNat ((a.toNat % 16) * 4096 + low b * 64 + low c) :: lossyChars rest'
        else replacement :: lossyChars (c :: rest')
      | [b] => if isSecond a b then [replacement] else replacement :: lossyChars [b]
      | [] => [replacement]
    else if 0xF0 ≤ a && a < 0xF5 then
      match rest with
      | b :: c :: d :: rest' =>
        if !isSecond a b then replacement :: lossyChars (b :: c :: d :: rest')
        else if !isContinuation c then replacement :: lossyChars (c :: d :: rest')
        else if isContinuation d then
          Char.ofNat ((a.toNat % 8) * 262144 + low b * 4096 + low c * 64 + low d) ::
            lossyChars rest'
        else replacement :: lossyChars (d :: rest')
      | [b, c] =>
        if !isSecond a b then replacement :: lossyChars [b, c]
        else if isContinuation c then [replacement]
        else replacement :: lossyChars [c]
      | [b] => if isSecond a b then [replacement] else replacement :: lossyChars [b]
      | [] => [replacement]
    else replacement :: lossyChars rest

def lossy (bytes : ByteArray) : String :=
  String.ofList (lossyChars bytes.toList)

end AppSpec.Text
