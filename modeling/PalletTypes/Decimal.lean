import PalletTypes.Binary64

/-!
# Decimal numbers and their rounding

A decimal is a whole number of digits scaled by a power of ten.  `nearest?`
rounds it correctly to a finite binary64 number, ties to even, if there is
one; `nearest` goes on to infinity.  Two comparisons of magnitudes come first,
so that the exact arithmetic only meets powers of a bounded size however large
the exponent is.
-/

namespace PalletTypes

/-- The number `digits * 10 ^ exponent`, negated if `negative`. -/
structure Decimal where
  negative : Bool
  digits : Nat
  exponent : Int
deriving DecidableEq, Repr

namespace Decimal

/-- The magnitude as a fraction, in multiples of `2 ^ -1074`. -/
def fraction (decimal : Decimal) : Nat × Nat :=
  let units := decimal.digits * Binary64.unitsOfOne
  if 0 ≤ decimal.exponent then
    (units * Nat.pow 10 decimal.exponent.toNat, 1)
  else
    (units, Nat.pow 10 (-decimal.exponent).toNat)

/-- The rank nearest to the magnitude. -/
def rank (decimal : Decimal) : Nat :=
  if decimal.digits = 0 then 0
  else if 1024 ≤ 3 * decimal.exponent then Binary64.infiniteRank
  else if decimal.digits.log2 + 1 + 3 * decimal.exponent ≤ -1075 then 0
  else Binary64.nearestRank decimal.fraction.1 decimal.fraction.2

/-- The nearest binary64 number, unless that is infinite. -/
def nearest? (decimal : Decimal) : Option Binary64 :=
  Binary64.ofRank? decimal.negative decimal.rank

def nearest (decimal : Decimal) : Binary64 :=
  decimal.nearest?.getD (Binary64.infinity decimal.negative)

def ofInt (number : Int) : Decimal :=
  { negative := decide (number < 0), digits := number.natAbs, exponent := 0 }

end Decimal

/-- The binary64 number nearest to an integer. -/
def Binary64.ofInt (number : Int) : Binary64 := (Decimal.ofInt number).nearest

end PalletTypes
