import OperandStack.Double.Scale
import OperandStack.Value

/-! # Plain numbers as they are written

A plain number is written with a sign, a whole part, and perhaps a fraction and a power of ten.
Without these two it is an integer if a 64-bit word holds it; every other number is one of double
precision. Its digits are read into one word while they fit, and the word is then rounded and
scaled.
-/

namespace OperandStack

/-- A number in base ten as it is written. -/
structure Literal where
  negative : Bool
  /-- The digits before the point. -/
  whole : List Char
  /-- The digits after the point, if there is one. -/
  fraction? : Option (List Char)
  /-- The power of ten, if one is given. -/
  power? : Option Int
deriving DecidableEq, Repr

namespace Literal

/-- The integer that the literal is. A word holds it with its sign or without one; a zero with a
minus sign is no integer, since an integer would lose the sign. -/
def integer? (literal : Literal) : Option Int :=
  let number := Nat.ofDigitChars 10 literal.whole 0
  if literal.fraction?.isSome || literal.power?.isSome then none
  else if !literal.negative then if number < UInt64.size then some number else none
  else if 0 < number ∧ number ≤ 0x8000000000000000 then some (-number)
  else none

/-- Reads digits behind those that a word holds until one does not fit. Gives the word and the
number of digits left. -/
def fill (word : Nat) : List Char → Nat × Nat
  | [] => (word, 0)
  | digit :: rest =>
    let longer := Nat.ofDigitChars 10 [digit] word
    if longer < UInt64.size then fill longer rest else (word, rest.length + 1)

/-- The number of double precision that the literal stands for. A digit that is left over counts
as a zero, and so do those after it; in the fraction the word gets a second chance. -/
def double? (literal : Literal) : Option Double :=
  let fraction := literal.fraction?.getD []
  let (start, skipped) := fill 0 literal.whole
  let (word, ignored) := fill start fraction
  let power := literal.power?.getD 0 + skipped + ignored - fraction.length
  (Double.nearest literal.negative word).scale? power

/-- The value of the literal, or `none` for a number that is too large. -/
def value? (literal : Literal) : Option Value :=
  match literal.integer? with
  | some number => some (.integer number)
  | none => literal.double?.map .double

end Literal

end OperandStack
