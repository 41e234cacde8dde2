import AppSpec.Double.Basic

/-!
# The shortest decimal that reads back

The reals that round to a double form an interval around it. For one, two, and up to seventeen
digits the two neighbours of the value on that decimal grid are tried; the first grid with a hit
wins, and of two hits the nearer.
-/

namespace AppSpec.Double

/-- The decimal number `digits * 10 ^ exponent`. -/
structure Decimal where
  digits : Nat
  exponent : Int
deriving DecidableEq, Repr

/-- The interval of reals that round to a double, as multiples of `1 / den`. -/
structure Interval where
  low : Nat
  value : Nat
  high : Nat
  den : Nat
  closed : Bool

def interval (x : Double) : Interval :=
  let (m, q) := x.parts
  let up := if 2 ≤ q then Nat.pow 2 (q - 2).toNat else 1
  let den := if 2 ≤ q then 1 else Nat.pow 2 (2 - q).toNat
  let below := if m = Nat.pow 2 52 && -1074 < q then 1 else 2
  ⟨(4 * m - below) * up, 4 * m * up, (4 * m + 2) * up, den, m % 2 == 0⟩

/-- Is `digits * 10 ^ exponent` inside the interval? -/
def Interval.contains (i : Interval) (d : Decimal) : Bool :=
  let (n, low, high) :=
    if 0 ≤ d.exponent then (d.digits * Nat.pow 10 d.exponent.toNat * i.den, i.low, i.high)
    else
      let scale := Nat.pow 10 (-d.exponent).toNat
      (d.digits * i.den, i.low * scale, i.high * scale)
  if i.closed then low ≤ n && n ≤ high else low < n && n < high

/-- The exponent of the first digit of `num / den`, searched upward from `start`. -/
def leadingExponent (num den : Nat) : Nat → Int → Int
  | 0, e => e
  | fuel + 1, e =>
    let next := e + 1
    let reached :=
      if 0 ≤ next then den * Nat.pow 10 next.toNat ≤ num else den ≤ num * Nat.pow 10 (-next).toNat
    if reached then leadingExponent num den fuel next else e

/-- The neighbours of the value on the grid of multiples of `10 ^ exponent`, the nearer first. -/
def Interval.neighbours (i : Interval) (exponent : Int) : Decimal × Decimal :=
  let (num, den) :=
    if 0 ≤ exponent then (i.value, i.den * Nat.pow 10 exponent.toNat)
    else (i.value * Nat.pow 10 (-exponent).toNat, i.den)
  let below := num / den
  let rest := num % den
  let lowerFirst := 2 * rest < den || (2 * rest == den && below % 2 == 0)
  if lowerFirst then (⟨below, exponent⟩, ⟨below + 1, exponent⟩)
  else (⟨below + 1, exponent⟩, ⟨below, exponent⟩)

def Interval.search (i : Interval) (leading : Int) : Nat → Int → Decimal
  | 0, count => (i.neighbours (leading - count + 1)).1
  | fuel + 1, count =>
    let (first, second) := i.neighbours (leading - count + 1)
    if i.contains first then first
    else if i.contains second then second
    else i.search leading fuel (count + 1)

/-- The digits of a positive finite double. -/
def shortest (x : Double) : Decimal :=
  let i := x.interval
  let leading :=
    if i.den ≤ i.value then leadingExponent i.value i.den 330 0
    else leadingExponent i.value i.den 330 (-330)
  i.search leading 17 1

end AppSpec.Double
