/-! # Decimals

A decimal is a sign, a whole coefficient, and the number of the coefficient's digits that stand
after the point. The sign of a zero is kept.
-/

namespace OperandStack

/-- The number `± coefficient / 10 ^ places`. -/
structure Decimal where
  negative : Bool
  coefficient : Nat
  places : Nat
deriving DecidableEq, Repr

namespace Decimal

/-- The number without its sign. -/
def size (d : Decimal) : Rat := d.coefficient * Rat.zpow 10 (-d.places)

/-- The coefficient's digits. -/
def digits (d : Decimal) : List Char := Nat.toDigits 10 d.coefficient

theorem isDigit_of_mem_toDigits {number : Nat} {c : Char} (member : c ∈ Nat.toDigits 10 number) :
    c.isDigit = true :=
  Nat.isDigit_of_mem_toDigits (by decide) (by decide) member

theorem head?_toDigits_ne_zero {number : Nat} (positive : 0 < number) :
    (Nat.toDigits 10 number).head? ≠ some '0' := by
  induction number using Nat.strongRecOn with
  | ind number ih =>
    rcases Nat.lt_or_ge number 10 with small | large
    · rw [Nat.toDigits_of_lt_base small, List.head?_cons, ne_eq, Option.some.injEq,
        Nat.digitChar_eq_zero]
      omega
    · have first := ih (number / 10) (by omega) (by omega)
      obtain ⟨digit, more, front⟩ :=
        List.exists_cons_of_ne_nil (Nat.toDigits_ne_nil : Nat.toDigits 10 (number / 10) ≠ [])
      rw [front] at first
      rw [Nat.toDigits_of_base_le (by decide) large, front]
      exact first

/-- The power of ten that the first digit stands for. -/
def magnitude (d : Decimal) : Int := (d.digits.length : Int) - 1 - d.places

/-- The decimal `± coefficient / 10 ^ scale`, for a scale of either sign. -/
def ofScaled (negative : Bool) (coefficient : Nat) (scale : Int) : Decimal :=
  ⟨negative, coefficient * Nat.pow 10 (-scale).toNat, scale.toNat⟩

end Decimal

end OperandStack
