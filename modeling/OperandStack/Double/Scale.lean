import OperandStack.Double.Basic

/-! # Scaling by powers of ten

A number of double precision is scaled by multiplying it with a power of ten, or dividing it by
one, that is itself rounded to double precision; the result is rounded once more. Scaling far down
takes several such steps. The result may miss the nearest number by a few ranks.
-/

namespace OperandStack.Double

/-- The greatest power of ten of double precision. -/
def maxPower : Nat := 308

/-- The number of double precision nearest to a power of ten. -/
def powerOfTen (power : Nat) : Double := nearest false (Rat.zpow 10 power)

/-- Multiplies and rounds; the sign is that of the first factor. -/
def times (number factor : Double) : Double :=
  nearest number.negative (number.size * factor.size)

/-- Divides and rounds; the sign is that of the dividend. -/
def dividedBy (number divisor : Double) : Double :=
  nearest number.negative (number.size / divisor.size)

/-- Scales a finite number by a power of ten, or answers `none` where the result is infinite. Zero
stays what it is. -/
def scale? (number : Double) (power : Int) : Option Double :=
  if number.rank = 0 then some number
  else if maxPower < power then none
  else if 0 ≤ power then (some (number.times (powerOfTen power.toNat))).filter isFinite
  else if _far : power < -maxPower then
    (number.dividedBy (powerOfTen maxPower)).scale? (power + maxPower)
  else some (number.dividedBy (powerOfTen (-power).toNat))
termination_by (-power).toNat
decreasing_by
  simp only [maxPower] at _far ⊢
  omega

end OperandStack.Double
