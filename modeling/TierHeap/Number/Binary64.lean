/-!
# Double-precision numbers

A finite double is a sign, a mantissa below `2 ^ 53` and an exponent, and stands for
`mantissa * 2 ^ exponent`.  Arithmetic is exact rational arithmetic followed by one
rounding to the nearest double, a tie going to the even mantissa.
-/

namespace TierHeap

/-- A finite double: `mantissa * 2 ^ exponent`, negated or not.  Zero has a sign too. -/
structure Binary64 where
  negative : Bool
  mantissa : Nat
  exponent : Int
  deriving DecidableEq, Repr, Inhabited

namespace Binary64

def leastExponent : Int :=
  -1074

def greatestExponent : Int :=
  971

/-- Zero, with a sign. -/
def zero (negative : Bool) : Binary64 :=
  ⟨negative, 0, leastExponent⟩

def isZero (x : Binary64) : Bool :=
  x.mantissa == 0

def negate (x : Binary64) : Binary64 :=
  { x with negative := !x.negative }

/-- Numerator of the size of `mantissa * 2 ^ exponent`. -/
def numerator
    (mantissa : Nat)
    (exponent : Int) : Nat :=
  mantissa * Nat.pow 2 exponent.toNat

/-- Denominator of the size of `mantissa * 2 ^ exponent`. -/
def denominator (exponent : Int) : Nat :=
  Nat.pow 2 (-exponent).toNat

/-- Quotient rounded to the nearest whole number, a tie to the even one. -/
def roundDiv
    (num den : Nat) : Nat :=
  let low := num / den
  let rest := num % den
  if 2 * rest < den then low
  else if den < 2 * rest then low + 1
  else if low % 2 = 0 then low
  else low + 1

/-- The exponent that gives the quotient of two positive numbers a 53-bit mantissa, no
smaller than the least exponent. -/
def exponentOf
    (num den : Nat) : Int :=
  let guess : Int := (num.log2 : Int) - (den.log2 : Int)
  let reached : Bool :=
    if 0 ≤ guess then den * Nat.pow 2 guess.toNat ≤ num
    else den ≤ num * Nat.pow 2 (-guess).toNat
  let exponent := if reached then guess - 52 else guess - 53
  max exponent leastExponent

/-- The double nearest to a quotient of natural numbers, or `none` above the largest one. -/
def ofQuotient?
    (num den : Nat) : Option Binary64 :=
  if num = 0 then
    some (zero false)
  else
    let exponent := exponentOf num den
    let mantissa := roundDiv (num * denominator exponent) (den * Nat.pow 2 exponent.toNat)
    let (mantissa, exponent) :=
      if mantissa = Nat.pow 2 53 then (Nat.pow 2 52, exponent + 1) else (mantissa, exponent)
    if exponent ≤ greatestExponent then some ⟨false, mantissa, exponent⟩ else none

def ofNat? (n : Nat) : Option Binary64 :=
  ofQuotient? n 1

/-- Product of the sizes of two doubles, rounded; `none` on overflow. -/
def mulSize?
    (x y : Binary64) : Option Binary64 :=
  ofQuotient?
    (numerator x.mantissa x.exponent * numerator y.mantissa y.exponent)
    (denominator x.exponent * denominator y.exponent)

/-- Quotient of the sizes of two doubles, rounded; `none` on overflow. -/
def divSize?
    (x y : Binary64) : Option Binary64 :=
  ofQuotient?
    (numerator x.mantissa x.exponent * denominator y.exponent)
    (denominator x.exponent * numerator y.mantissa y.exponent)

/-- The double nearest to a power of ten that a double can hold. -/
def tenPower (power : Nat) : Binary64 :=
  (ofNat? (Nat.pow 10 power)).getD (zero false)

def greatestTenPower : Nat :=
  308

/-- Divide by ten to a power, in steps of at most the greatest power.  The steps end early
once nothing is left. -/
def divTenPower? : Nat → Nat → Binary64 → Option Binary64
  | 0, _, x => some x
  | fuel + 1, power, x =>
      if power ≤ greatestTenPower then
        divSize? x (tenPower power)
      else if x.isZero then
        some x
      else
        (divSize? x (tenPower greatestTenPower)).bind
          (divTenPower? fuel (power - greatestTenPower))

/-- The double that the decimal `digits * 10 ^ exponent` is read as: the digits are rounded
first and then scaled by powers of ten, one rounding each. -/
def ofDecimal?
    (digits : Nat)
    (exponent : Int) : Option Binary64 :=
  (ofNat? digits).bind fun start =>
    if exponent < 0 then
      divTenPower? (exponent.natAbs + 1) exponent.natAbs start
    else if exponent.toNat ≤ greatestTenPower then
      mulSize? start (tenPower exponent.toNat)
    else if start.isZero then
      some start
    else
      none

end Binary64

end TierHeap
