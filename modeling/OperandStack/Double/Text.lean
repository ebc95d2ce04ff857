import OperandStack.Decimal.Text
import OperandStack.Double.Shortest

/-! # The text of a number of double precision

A number is written by its fewest digits. In the positional style they all stand around the point;
in the compact style very large and very small numbers are written by a power of ten instead. An
infinite number is a word.
-/

namespace OperandStack.Double

/-- Ways to write a number. -/
structure Style where
  /-- Which of two texts a number halfway between them gets. -/
  tie : Tie
  /-- The powers of ten, from the least to the greatest, that the first digit of a number written
  around the point may stand for; `none` leaves it free. -/
  aroundPoint : Option (Int × Int)
deriving DecidableEq, Repr

/-- All digits stand around the point, and ties go up. -/
def Style.positional : Style := ⟨.up, none⟩

/-- Numbers whose first digit stands for a power of ten from -5 to 15 are written around the
point, and ties go to the even digit. -/
def Style.compact : Style := ⟨.toEven, some (-5, 15)⟩

/-- Tells whether a decimal is written around the point. -/
def Style.writesAroundPoint (style : Style) (d : Decimal) : Bool :=
  style.aroundPoint.all fun powers => powers.1 ≤ d.magnitude && d.magnitude ≤ powers.2

/-- The text of the number. -/
def text (style : Style) (number : Double) : String :=
  let d := number.shortest style.tie
  if !number.isFinite then number.sign ++ "inf"
  else if style.writesAroundPoint d then d.aroundPoint
  else d.withPower

end OperandStack.Double
