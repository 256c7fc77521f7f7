import TierHeap.Number.Binary64
import TierHeap.Text.Digits

/-!
# The shortest decimal of a double

A double is written with the fewest digits that no other double is nearest to; of two such
decimals the nearer one is taken, and the even one of two equally near.
-/

namespace TierHeap.Binary64

/-- A positive decimal `digits * 10 ^ exponent`. -/
structure Decimal where
  digits : Nat
  exponent : Int
  deriving DecidableEq, Repr

/-- The power of ten of the leading digit of a positive quotient. -/
def leadingPower
    (num den : Nat) : Int :=
  if den ≤ num then
    ((Nat.toDigits 10 (num / den)).length : Int) - 1
  else
    let places := (Nat.toDigits 10 (den / num)).length
    if den ≤ num * Nat.pow 10 (places - 1) then -((places : Int) - 1) else -(places : Int)

/-- Compare `digits * 10 ^ exponent` with the quotient `num / den`, both cleared of
denominators. -/
def decimalSides
    (digits : Nat)
    (exponent : Int)
    (num den : Nat) : Nat × Nat :=
  (digits * Nat.pow 10 exponent.toNat * den, num * Nat.pow 10 (-exponent).toNat)

/-- The reals that are read as a given double, in quarters of its last place: from
`low` to `high`, the ends included for an even mantissa. -/
structure Rounding where
  low : Nat
  value : Nat
  high : Nat
  exponent : Int
  closed : Bool

/-- The reals that are read as the double. -/
def rounding (x : Binary64) : Rounding where
  low :=
    if x.mantissa = Nat.pow 2 52 ∧ leastExponent < x.exponent then
      4 * x.mantissa - 1
    else
      4 * x.mantissa - 2
  value := 4 * x.mantissa
  high := 4 * x.mantissa + 2
  exponent := x.exponent - 2
  closed := x.mantissa % 2 = 0

/-- The decimal lies among the reals of a rounding interval. -/
def Rounding.holds
    (interval : Rounding)
    (digits : Nat)
    (exponent : Int) : Bool :=
  let den := denominator interval.exponent
  let low := decimalSides digits exponent (numerator interval.low interval.exponent) den
  let high := decimalSides digits exponent (numerator interval.high interval.exponent) den
  if interval.closed then low.2 ≤ low.1 && high.1 ≤ high.2
  else low.2 < low.1 && high.1 < high.2

/-- A decimal of so many digits, or the next power of ten, which has one digit. -/
def carried
    (count digits : Nat)
    (exponent : Int) : Decimal :=
  if digits = Nat.pow 10 count then ⟨1, exponent + count⟩ else ⟨digits, exponent⟩

/-- The decimal with at most a given number of digits that is read as the double, if there is
one. -/
def decimalWith?
    (x : Binary64)
    (count : Nat) : Option Decimal :=
  let interval := x.rounding
  let num := numerator x.mantissa x.exponent
  let den := denominator x.exponent
  let exponent := leadingPower num den - (count : Int) + 1
  let lower := num * Nat.pow 10 (-exponent).toNat / (den * Nat.pow 10 exponent.toNat)
  let low := decimalSides lower exponent num den
  let high := decimalSides (lower + 1) exponent num den
  let below := low.2 - low.1
  let above := high.1 - high.2
  match interval.holds lower exponent, interval.holds (lower + 1) exponent with
  | false, false => none
  | true, false => some ⟨lower, exponent⟩
  | false, true => some (carried count (lower + 1) exponent)
  | true, true =>
      if below < above ∨ (below = above ∧ lower % 2 = 0) then some ⟨lower, exponent⟩
      else some (carried count (lower + 1) exponent)

/-- The shortest decimal of a nonzero double: the first digit count with a hit wins, and
seventeen digits always suffice. -/
def shortest (x : Binary64) : Decimal :=
  ((List.range 17).findSome? fun count => x.decimalWith? (count + 1)).getD ⟨0, 0⟩

/-- The powers of ten of the leading digit that are written without an exponent. -/
def positionalFrom : Int :=
  -5

/-- The powers of ten of the leading digit that are written without an exponent. -/
def positionalTo : Int :=
  15

/-- The size of a nonzero double: positional with a fraction while the leading digit is
between the bounds, and with a signed exponent beyond. -/
def sizeText (x : Binary64) : List Char :=
  let decimal := x.shortest
  let digits := Nat.toDigits 10 decimal.digits
  let leading : Int := decimal.exponent + (digits.length : Int) - 1
  if positionalFrom ≤ leading ∧ leading ≤ positionalTo then
    if 0 ≤ decimal.exponent then
      digits ++ List.replicate decimal.exponent.toNat '0' ++ ['.', '0']
    else if 0 ≤ leading then
      digits.take (leading.toNat + 1) ++ ['.'] ++ digits.drop (leading.toNat + 1)
    else
      ['0', '.'] ++ List.replicate (-leading - 1).toNat '0' ++ digits
  else
    let fraction := digits.drop 1
    digits.take 1 ++ (if fraction = [] then [] else '.' :: fraction) ++
      ['e', if leading < 0 then '-' else '+'] ++ Nat.toDigits 10 leading.natAbs

def text (x : Binary64) : String :=
  let size := if x.isZero then ['0', '.', '0'] else x.sizeText
  String.ofList (if x.negative then '-' :: size else size)

end TierHeap.Binary64
