/-! # Rounding to whole numbers

A number that is not negative lies between two whole numbers and is rounded to the nearer one. A
number halfway between them is a tie, which goes up or to the even one.
-/

namespace OperandStack

/-- The greatest whole number not above a number that is not negative. -/
def wholePart (size : Rat) : Nat := size.floor.toNat

/-- Where ties go. -/
inductive Tie where
  /-- To the greater number. -/
  | up
  /-- To the even number. -/
  | toEven
deriving DecidableEq, Repr

/-- The whole number nearest to a number that is not negative. -/
def Tie.round (tie : Tie) (size : Rat) : Nat :=
  let below := wholePart size
  let twice := 2 * (size - below)
  if twice < 1 then below
  else if 1 < twice then below + 1
  else
    match tie with
    | up => below + 1
    | toEven => below + below % 2

/-- Rounding moves a number to one of its two neighbours. -/
theorem Tie.round_eq_or (tie : Tie) (size : Rat) :
    tie.round size = wholePart size ∨ tie.round size = wholePart size + 1 := by
  simp only [Tie.round]
  split
  · exact .inl rfl
  · split
    · exact .inr rfl
    · cases tie
      · exact .inr rfl
      · simp only
        omega

end OperandStack
