import OperandStack.Double.Basic

/-! # The fewest digits

Many decimals round to the same number of double precision. The one with the fewest digits stands
for them; of several that one nearest to the number; and of two equally near ones the number's
writer takes one.
-/

namespace OperandStack.Double

/-- A decimal with `scale` digits after the point that rounds to the number, if there is one: a
neighbour of the number on that grid, the nearer one if both round to it. -/
def onGrid? (tie : Tie) (number : Double) (scale : Int) : Option Decimal :=
  let scaled := number.size * Rat.zpow 10 scale
  let below := wholePart scaled
  let nearer := tie.round scaled
  let farther := if nearer = below then below + 1 else below
  let candidates := [nearer, farther].map (Decimal.ofScaled number.negative · scale)
  candidates.find? fun candidate => ofDecimal candidate = number

/-- What stands for the number on a grid reads back as the number. -/
theorem ofDecimal_of_onGrid? {tie : Tie} {number : Double} {scale : Int} {d : Decimal}
    (found : number.onGrid? tie scale = some d) : ofDecimal d = number := by
  simpa using List.find?_some found

/-- The decimal with the fewest digits that rounds to a finite number. The coarsest grid tried has no
digit for the number's first one; seventeen digits tell all numbers apart. -/
def shortest (tie : Tie) (number : Double) : Decimal :=
  let exact := number.exact
  let grids := (List.range 19).map fun (step : Nat) => (step : Int) - 1 - exact.magnitude
  if number.rank = 0 then ⟨number.negative, 0, 0⟩
  else (grids.findSome? (number.onGrid? tie)).getD exact

end OperandStack.Double
