/-!
# Versions

A version is three numbers below `2 ^ 32`. Its text is three decimal numbers between points; each
may carry a plus sign and leading zeros when read.
-/

namespace AppSpec

structure Version where
  major : UInt32
  minor : UInt32
  patch : UInt32
deriving DecidableEq, Repr, Inhabited

namespace Version

/-- The version of a project that names none. -/
def initial : Version := ⟨0, 1, 0⟩

def text (v : Version) : String :=
  toString v.major.toNat ++ "." ++ toString v.minor.toNat ++ "." ++ toString v.patch.toNat

/-- A decimal number below `2 ^ 32` with an optional plus sign. -/
def number? (cs : List Char) : Option UInt32 :=
  let digits := match cs with
    | '+' :: ds => ds
    | _ => cs
  if digits.isEmpty || !digits.all Char.isDigit then none
  else
    let n := digits.foldl (fun n d => n * 10 + (d.toNat - '0'.toNat)) 0
    if n < Nat.pow 2 32 then some (UInt32.ofNat n) else none

/-- The text before the first point and the text after it. -/
def splitPoint? (cs : List Char) : Option (List Char × List Char) :=
  match cs.dropWhile (· != '.') with
  | _ :: rest => some (cs.takeWhile (· != '.'), rest)
  | [] => none

def ofChars? (cs : List Char) : Option Version := do
  let (major, rest) ← splitPoint? cs
  let (minor, patch) ← splitPoint? rest
  return ⟨← number? major, ← number? minor, ← number? patch⟩

def ofText? (s : String) : Option Version :=
  ofChars? s.toList

def invalidText (s : String) : String :=
  "invalid version '" ++ s ++ "', expected 'X.Y.Z'"

/-- Versions are ordered by major, then minor, then patch number. -/
def le (a b : Version) : Bool :=
  if a.major != b.major then a.major < b.major
  else if a.minor != b.minor then a.minor < b.minor
  else a.patch ≤ b.patch

end Version

end AppSpec
