/-!
# Binary floating-point numbers

A binary64 number is a sign and a rank: its place among the non-negative
numbers in increasing order, which is also the word without its sign bit.
Every finite number is a whole multiple of the smallest positive one,
`2 ^ -1074`; `units` gives that multiple and `rankOf` goes back.  Because the
parity of the rank is the parity of the last binary digit, rounding a tie to
even is rounding it to an even rank.
-/

namespace PalletTypes

/-- A binary64 number, an infinity or one of the values that are no numbers. -/
structure Binary64 where
  negative : Bool
  rank : Fin 0x8000000000000000
deriving DecidableEq, Repr

namespace Binary64

/-- The rank of infinity; all smaller ranks are finite numbers. -/
def infiniteRank : Nat := 0x7FF0000000000000

/-- The number of ranks from one power of two to the next, `2 ^ 52`. -/
def binade : Nat := 0x10000000000000

/-- The number one as a multiple of `2 ^ -1074`. -/
def unitsOfOne : Nat := 1 <<< 1074

/-- Neither an infinity nor one of the values that are no numbers. -/
def IsFinite (number : Binary64) : Prop := number.rank.val < infiniteRank

instance (number : Binary64) : Decidable number.IsFinite :=
  inferInstanceAs (Decidable (_ < _))

/-- The non-negative number of a rank as a multiple of `2 ^ -1074`. -/
def units (rank : Nat) : Nat :=
  let shift := rank / binade - 1
  (rank - shift * binade) <<< shift

/-- The greatest rank whose number is at most `amount` times `2 ^ -1074`. -/
def rankOf (amount : Nat) : Nat :=
  let shift := amount.log2 - 52
  shift * binade + (amount >>> shift)

/-- The rank nearest to `numerator / denominator` times `2 ^ -1074`; of two
ranks equally near the even one. -/
def nearestRank (numerator denominator : Nat) : Nat :=
  let below := rankOf (numerator / denominator)
  let middle := (units below + units (below + 1)) * denominator
  if 2 * numerator < middle then below
  else if middle < 2 * numerator then below + 1
  else if below % 2 = 0 then below
  else below + 1

/-- The finite number with this sign and rank, if the rank is one. -/
def ofRank? (negative : Bool) (rank : Nat) : Option Binary64 :=
  if bound : rank < infiniteRank then
    some ⟨negative, ⟨rank, Nat.lt_trans bound (by decide)⟩⟩
  else
    none

/-- A number that is neither finite nor infinite. -/
def isUndefined (number : Binary64) : Bool := infiniteRank < number.rank.val

/-- The number as a whole multiple of `2 ^ -1074`. -/
def signedUnits (number : Binary64) : Int :=
  if number.negative then -(units number.rank : Int) else units number.rank

def truncate (number : Binary64) : Int := number.signedUnits.tdiv unitsOfOne

/-- The greatest integer that is not above the number. -/
def floor (number : Binary64) : Int := number.signedUnits.fdiv unitsOfOne

def zero : Binary64 := ⟨false, ⟨0, by decide⟩⟩

def infinity (negative : Bool) : Binary64 :=
  ⟨negative, ⟨infiniteRank, by decide⟩⟩

def undefined : Binary64 := ⟨false, ⟨0x7FF8000000000000, by decide⟩⟩

end Binary64

end PalletTypes
