import AppSpec.Value.Basic
import AppSpec.Double.Rounding

/-!
# The meaning of a plain scalar

A plain scalar is null, a boolean, an integer or a float if it is spelled like one, and text
otherwise. A number that begins with a zero and goes on in digits is text.
-/

namespace AppSpec.Yaml

def isNullText (s : List Char) : Bool :=
  s ∈ ["null".toList, "Null".toList, "NULL".toList, "~".toList]

def boolOfText? (s : List Char) : Option Bool :=
  if s ∈ ["true".toList, "True".toList, "TRUE".toList] then some true
  else if s ∈ ["false".toList, "False".toList, "FALSE".toList] then some false
  else none

def isSign (c : Char) : Bool :=
  c == '+' || c == '-'

def startsWithSign (s : List Char) : Bool :=
  s.head?.any isSign

/-- A zero followed by further digits only. -/
def isPaddedNumber (s : List Char) : Bool :=
  let s := if startsWithSign s then s.tail else s
  match s with
  | '0' :: d :: rest => d.isDigit && rest.all Char.isDigit
  | _ => false

def digitValue? (radix : Nat) (c : Char) : Option Nat :=
  let value :=
    if c.isDigit then c.toNat - '0'.toNat
    else if 'a' ≤ c && c ≤ 'z' then c.toNat - 'a'.toNat + 10
    else if 'A' ≤ c && c ≤ 'Z' then c.toNat - 'A'.toNat + 10
    else radix
  if value < radix then some value else none

/-- At least one digit of the radix and nothing else. -/
def naturalOfText? (radix : Nat) (s : List Char) : Option Nat :=
  if s.isEmpty then none
  else s.foldlM (fun n c => (digitValue? radix c).map (n * radix + ·)) 0

/-- The radix that a number's letters name, and the digits after them. -/
def radixOf? : List Char → Option (Nat × List Char)
  | '0' :: 'x' :: rest => some (16, rest)
  | '0' :: 'o' :: rest => some (8, rest)
  | '0' :: 'b' :: rest => some (2, rest)
  | _ => none

/-- A number without a minus sign, at most `limit`. -/
def unsignedOfText? (limit : Nat) (s : List Char) : Option Nat :=
  let digits := match s with
    | '+' :: rest => rest
    | _ => s
  let named :=
    match radixOf? digits with
    | some (radix, rest) => (naturalOfText? radix rest).filter (· ≤ limit)
    | none => none
  match named with
  | some n => some n
  | none =>
    if isPaddedNumber s then none else (naturalOfText? 10 digits).filter (· ≤ limit)

/-- A number with a minus sign, its magnitude at most `limit`. -/
def negativeOfText? (limit : Nat) (s : List Char) : Option Int :=
  match s with
  | '-' :: digits =>
    let named :=
      match radixOf? digits with
      | some (radix, rest) => (naturalOfText? radix rest).filter (· ≤ limit)
      | none => none
    match named with
    | some n => some (-n)
    | none =>
      if isPaddedNumber s then none
      else ((naturalOfText? 10 digits).filter (· ≤ limit)).map fun n => -(n : Int)
  | _ => none

/-- An integer in the range of values, one that is too wide for it, or neither. -/
inductive IntegerText where
  | value (n : Int)
  | wide (n : Int)
  | other

def integerOfText (s : List Char) : IntegerText :=
  match unsignedOfText? (Nat.pow 2 64 - 1) s with
  | some n => .value n
  | none =>
    match negativeOfText? (Nat.pow 2 63) s with
    | some n => .value n
    | none =>
      match unsignedOfText? (Nat.pow 2 128 - 1) s with
      | some n => .wide n
      | none =>
        match negativeOfText? (Nat.pow 2 127) s with
        | some n => .wide n
        | none => .other

/-- A decimal number in range, or one of the names of the values without digits. -/
def floatOfText? (s : List Char) : Option Double :=
  let (plus, digits) := match s with
    | '+' :: rest => (true, rest)
    | _ => (false, s)
  if plus && startsWithSign digits then none
  else if digits ∈ [".inf".toList, ".Inf".toList, ".INF".toList] then some Double.infinity
  else if s ∈ ["-.inf".toList, "-.Inf".toList, "-.INF".toList] then some Double.negInfinity
  else if s ∈ [".nan".toList, ".NaN".toList, ".NAN".toList] then some Double.nan
  else (Double.ofChars? digits).filter Double.isFinite

end AppSpec.Yaml
