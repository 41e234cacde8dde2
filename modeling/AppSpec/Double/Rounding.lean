import AppSpec.Double.Basic

/-!
# From decimal text to a double

A decimal is rounded to the nearest double, a tie going to the even mantissa. The arithmetic is
exact: the quotient of two naturals is scaled by a power of two and rounded once.
-/

namespace AppSpec.Double

/-- The quotient rounded to the nearest natural, ties to even. -/
def roundDiv (num den : Nat) : Nat :=
  let q := num / den
  let r := num % den
  if 2 * r < den then q else if den < 2 * r then q + 1 else q + q % 2

/-- The largest `e` with `2 ^ e ≤ num / den`. -/
def floorLog (num den : Nat) : Int :=
  let guess : Int := (num.log2 : Int) - (den.log2 : Int)
  let reached :=
    if 0 ≤ guess then den * Nat.pow 2 guess.toNat ≤ num else den ≤ num * Nat.pow 2 (-guess).toNat
  if reached then guess else guess - 1

/-- The double nearest to `num / den`. -/
def ofQuotient (num den : Nat) : Double :=
  if num = 0 then zero
  else
    let exponent := max (-1074) (floorLog num den - 52)
    let mantissa :=
      if 0 ≤ exponent then roundDiv num (den * Nat.pow 2 exponent.toNat)
      else roundDiv (num * Nat.pow 2 (-exponent).toNat) den
    let (mantissa, exponent) :=
      if mantissa = Nat.pow 2 53 then (Nat.pow 2 52, exponent + 1) else (mantissa, exponent)
    if 971 < exponent then infinity else ofParts mantissa exponent

/-- The double nearest to `digits * 10 ^ exponent`; magnitudes beyond all doubles are not computed. -/
def ofDecimal (digits : Nat) (exponent : Int) : Double :=
  let length : Int := (Nat.toDigits 10 digits).length
  if digits = 0 then zero
  else if 400 < exponent + length then infinity
  else if exponent + length < -400 then zero
  else if 0 ≤ exponent then ofQuotient (digits * Nat.pow 10 exponent.toNat) 1
  else ofQuotient digits (Nat.pow 10 (-exponent).toNat)

def digitsValue (cs : List Char) : Nat :=
  cs.foldl (fun n c => n * 10 + (c.toNat - '0'.toNat)) 0

/-- An exponent after the mantissa: a letter, an optional sign and at least one digit. -/
def exponentPart? : List Char → Option Int
  | [] => some 0
  | e :: rest =>
    if e = 'e' || e = 'E' then
      let (negative, digits) :=
        match rest with
        | '-' :: ds => (true, ds)
        | '+' :: ds => (false, ds)
        | ds => (false, ds)
      if digits.isEmpty || !digits.all Char.isDigit then none
      else some (if negative then -(digitsValue digits) else digitsValue digits)
    else none

/-- Digits with at most one point among or around them, then an optional exponent. -/
def ofUnsigned? (cs : List Char) : Option Double :=
  let whole := cs.takeWhile Char.isDigit
  let rest := cs.dropWhile Char.isDigit
  let (places, rest) :=
    match rest with
    | '.' :: r => (r.takeWhile Char.isDigit, r.dropWhile Char.isDigit)
    | r => ([], r)
  if whole.isEmpty && places.isEmpty then none
  else (exponentPart? rest).map fun e => ofDecimal (digitsValue (whole ++ places)) (e - places.length)

/-- A decimal number with an optional sign. -/
def ofChars? : List Char → Option Double
  | '-' :: cs => (ofUnsigned? cs).map negate
  | '+' :: cs => ofUnsigned? cs
  | cs => ofUnsigned? cs

end AppSpec.Double
