import AppSpec.Double.Shortest

/-!
# Layouts of a number

How the digits of a double are set out is a record: which exponents are written positionally, how
an exponent is marked, and what stands for the values without digits.
-/

namespace AppSpec.Double

structure Layout where
  lowest : Int
  highest : Int
  positiveSign : String
  nan : String
  infinity : String
  negInfinity : String

/-- Specification text: plain from `10 ^ -5` to below `10 ^ 16`. -/
def Layout.specification : Layout := ⟨-5, 15, "", ".nan", ".inf", "-.inf"⟩

/-- Inventory text has no names for the values without digits. -/
def Layout.inventory : Layout := ⟨-5, 15, "+", "null", "null", "null"⟩

/-- Messages never use an exponent. -/
def Layout.message : Layout := ⟨-400, 400, "", "NaN", "inf", "-inf"⟩

/-- Positional text with at least one digit on either side of the point. -/
def positional (digits : List Char) (leading : Int) : List Char :=
  if leading < 0 then
    '0' :: '.' :: (List.replicate (-leading - 1).toNat '0' ++ digits)
  else
    let wholeLength := leading.toNat + 1
    let whole := digits.take wholeLength ++ List.replicate (wholeLength - digits.length) '0'
    let places := digits.drop wholeLength
    whole ++ '.' :: (if places.isEmpty then ['0'] else places)

def scientific (l : Layout) (digits : List Char) (leading : Int) : List Char :=
  let mantissa :=
    match digits with
    | d :: [] => [d]
    | d :: ds => d :: '.' :: ds
    | [] => []
  mantissa ++ 'e' :: ((if 0 ≤ leading then l.positiveSign.toList else []) ++ (toString leading).toList)

def stripZeros (digits : List Char) : List Char :=
  (digits.reverse.dropWhile (· == '0')).reverse

def Layout.magnitudeChars (l : Layout) (x : Double) : List Char :=
  if x.isZero then ['0', '.', '0']
  else
    let d := x.shortest
    let all := Nat.toDigits 10 d.digits
    let leading : Int := d.exponent + all.length - 1
    let digits := stripZeros all
    if l.lowest ≤ leading && leading ≤ l.highest then positional digits leading
    else scientific l digits leading

def Layout.text (l : Layout) (x : Double) : String :=
  if x.isNaN then l.nan
  else if !x.isFinite then (if x.isNegative then l.negInfinity else l.infinity)
  else String.ofList ((if x.isNegative then ['-'] else []) ++ l.magnitudeChars x)

end AppSpec.Double
