import OperandStack.Decimal.Basic

/-! # The text of a decimal

A decimal is written around the point, with at least one digit on either side of it, or by its
digits and a power of ten. Neither form has further zeros at the end of its digits.
-/

namespace OperandStack.Decimal

/-- Digits without the zeros at their end. -/
def dropZeros (digits : List Char) : List Char :=
  (digits.reverse.dropWhile (· == '0')).reverse

/-- Digits without the zeros at their end, but never none. -/
def trim (digits : List Char) : List Char :=
  match dropZeros digits with
  | [] => ['0']
  | kept => kept

/-- The sign in front of a number: nothing stands for plus. -/
def sign (d : Decimal) : String := if d.negative then "-" else ""

/-- The digits with as many zeros in front that one of them stands before the point. -/
def padded (d : Decimal) : List Char :=
  List.replicate (d.places + 1 - d.digits.length) '0' ++ d.digits

/-- The digits before the point. -/
def whole (d : Decimal) : List Char := d.padded.take (d.padded.length - d.places)

/-- The digits after the point, all `places` of them. -/
def fraction (d : Decimal) : List Char := d.padded.drop (d.padded.length - d.places)

/-- The text with all digits around the point. -/
def aroundPoint (d : Decimal) : String :=
  d.sign ++ String.ofList d.whole ++ "." ++ String.ofList (trim d.fraction)

/-- The text by digits and a signed power of ten without padding, with a point only between
digits. -/
def withPower (d : Decimal) : String :=
  let power := (if d.magnitude < 0 then "-" else "+") ++ Nat.repr d.magnitude.natAbs
  let digits :=
    match trim d.digits with
    | first :: second :: more => first :: '.' :: second :: more
    | single => single
  d.sign ++ String.ofList digits ++ "e" ++ power

end OperandStack.Decimal
