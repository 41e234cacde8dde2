/-!
# Double-precision numbers

A double is its 64-bit pattern. The finite ones are `mantissa * 2 ^ exponent` with a sign; nothing
here computes with them, so reading and writing decimal text is all there is to say about one.
-/

namespace AppSpec

structure Double where
  bits : UInt64
deriving DecidableEq, Repr, Inhabited

namespace Double

def infinity : Double := ⟨0x7FF0000000000000⟩
def negInfinity : Double := ⟨0xFFF0000000000000⟩
def nan : Double := ⟨0x7FF8000000000000⟩
def zero : Double := ⟨0⟩

def isNegative (x : Double) : Bool :=
  x.bits.toNat ≥ Nat.pow 2 63

def magnitude (x : Double) : Nat :=
  x.bits.toNat % Nat.pow 2 63

def isFinite (x : Double) : Bool :=
  x.magnitude < 0x7FF0000000000000

def isNaN (x : Double) : Bool :=
  x.magnitude > 0x7FF0000000000000

def isZero (x : Double) : Bool :=
  x.magnitude == 0

def negate (x : Double) : Double :=
  ⟨x.bits ^^^ 0x8000000000000000⟩

/-- Equal as numbers: both zeros are one number, and every NaN stands for the same one. -/
def sameNumber (x y : Double) : Bool :=
  (x.isNaN && y.isNaN) || (x.isZero && y.isZero) || x == y

/-- Mantissa and binary exponent of a finite double's absolute value. -/
def parts (x : Double) : Nat × Int :=
  let fraction := x.magnitude % Nat.pow 2 52
  let biased : Nat := x.magnitude / Nat.pow 2 52
  if biased = 0 then (fraction, -1074) else
    (fraction + Nat.pow 2 52, Int.ofNat biased - 1075)

/-- The double `mantissa * 2 ^ exponent` for a mantissa below `2 ^ 53`. -/
def ofParts (mantissa : Nat) (exponent : Int) : Double :=
  if mantissa < Nat.pow 2 52 then ⟨UInt64.ofNat mantissa⟩
  else ⟨UInt64.ofNat ((exponent + 1075).toNat * Nat.pow 2 52 + (mantissa - Nat.pow 2 52))⟩

end Double

end AppSpec
