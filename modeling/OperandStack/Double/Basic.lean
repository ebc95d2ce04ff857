import OperandStack.Decimal.Basic
import OperandStack.Double.Rounding

/-! # Numbers of double precision

Apart from their signs, the finite numbers of double precision form one ascending row that starts
with zero, and a number is held by its rank in this row. The row consists of equal parts. Within a
part neighbours are equally far apart; in the first two parts they are `2 ^ -1074` apart, and from
there on the distance doubles from part to part. The rank at which the row ends, where the next
number would be `2 ^ 1024`, stands for all that is larger.
-/

namespace OperandStack

namespace Double

/-- The numbers in one part of the row. -/
def partLength : Nat := 0x10000000000000

/-- The numbers in the whole row, and so the rank at which it ends. -/
def rowLength : Nat := 2047 * partLength

end Double

/-- A number of double precision, finite or infinite. The sign of a zero is kept. -/
structure Double where
  negative : Bool
  rank : Nat
  rank_le : rank ≤ Double.rowLength
deriving DecidableEq, Repr

namespace Double

/-- Tells whether the number is in the row. -/
def isFinite (number : Double) : Bool := number.rank < rowLength

/-- The sign in front of the number: nothing stands for plus. -/
def sign (number : Double) : String := if number.negative then "-" else ""

/-- The number counted in distances to its neighbour above. -/
def mantissa (number : Double) : Nat :=
  if number.rank < partLength then number.rank else partLength + number.rank % partLength

/-- The distance to the neighbour above, as a power of two. -/
def exponent (number : Double) : Int := (max (number.rank / partLength) 1 : Nat) - 1075

/-- The number without its sign; where the row has ended, the number that would come next. -/
def size (number : Double) : Rat := number.mantissa * Rat.zpow 2 number.exponent

/-- The number as a decimal, with all its digits. -/
def exact (number : Double) : Decimal :=
  ⟨number.negative,
    number.mantissa * Nat.pow 2 number.exponent.toNat * Nat.pow 5 (-number.exponent).toNat,
    (-number.exponent).toNat⟩

/-- The greatest power of two that is not above a number other than zero. -/
def binaryMagnitude (size : Rat) : Int :=
  let guess : Int := (size.num.natAbs.log2 : Int) - size.den.log2
  if Rat.zpow 2 guess ≤ size then guess else guess - 1

/-- The distance between the neighbours of a number, as a power of two: 53 binary digits are kept,
but none below `2 ^ -1074`. -/
def gridExponent (size : Rat) : Int := max (binaryMagnitude size - 52) (-1074)

/-- The rank nearest to a number, ties going to the even one, in a row without an end. Rounding up
to the end of a part gives the first rank of the next one. -/
def nearestRank (size : Rat) : Nat :=
  let exponent := gridExponent size
  if size = 0 then 0
  else (exponent + 1074).toNat * partLength + Tie.toEven.round (size / Rat.zpow 2 exponent)

/-- The nearest number of double precision, infinite where the row has ended. -/
def nearest (negative : Bool) (size : Rat) : Double :=
  ⟨negative, min (nearestRank size) rowLength, Nat.min_le_right ..⟩

/-- The number of double precision nearest to a decimal. -/
def ofDecimal (d : Decimal) : Double := nearest d.negative d.size

end Double

end OperandStack
