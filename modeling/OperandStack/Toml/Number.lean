import OperandStack.Value

/-! # Numbers of TOML text

Integers are decimal with an optional sign, or hexadecimal, octal or binary after `0x`, `0o` or
`0b`; they fit a signed 64-bit word. Decimals have digits on both sides of a point and stand for
the nearest number of double precision, which may be minus infinity but not plus infinity. Single
underscores may stand between digits, and a number of more than one digit does not start with a
zero unless its base is given.

Numbers with an exponent, `inf` and `nan` in any sign, dates and times are valid TOML as well, but
outside the part that is read: a text that holds one is answered as malformed.
-/

namespace OperandStack.Toml

/-- Digits without the single underscores that may stand between them. -/
def ungroup (isDigit : Char → Bool) : List Char → Option (List Char)
  | [] => none
  | [c] => if isDigit c then some [c] else none
  | c :: '_' :: rest => if isDigit c then (ungroup isDigit rest).map (c :: ·) else none
  | c :: rest => if isDigit c then (ungroup isDigit rest).map (c :: ·) else none

/-- Tells whether a zero stands before further digits. -/
def hasLeadingZero : List Char → Bool
  | '0' :: _ :: _ => true
  | _ => false

/-- The decimal digits of a number that starts without a spare zero. -/
def decimalDigits? (chars : List Char) : Option (List Char) :=
  (ungroup Char.isDigit chars).filter fun digits => !hasLeadingZero digits

/-- The integers of a signed 64-bit word. -/
def fitsWord (number : Int) : Bool :=
  -0x8000000000000000 ≤ number && number < 0x8000000000000000

/-- An integer that fits the word, as a value. -/
def integer? (number : Int) : Option Value :=
  if fitsWord number then some (.integer number) else none

/-- A decimal integer after its sign. -/
def decimalInteger? (negative : Bool) (chars : List Char) : Option Value :=
  (decimalDigits? chars).bind fun digits =>
    let magnitude : Int := Nat.ofDigitChars 10 digits 0
    integer? (if negative then -magnitude else magnitude)

/-- A number of double precision as a value. Plus infinity is refused, minus infinity is not. -/
def double? (number : Double) : Option Value :=
  if number.isFinite || number.negative then some (.double number) else none

/-- A number with a point, after its sign. -/
def decimal? (negative : Bool) (chars : List Char) : Option Value :=
  (decimalDigits? (chars.takeWhile (· != '.'))).bind fun whole =>
    (ungroup Char.isDigit ((chars.dropWhile (· != '.')).drop 1)).bind fun fraction =>
      double? (.ofDecimal ⟨negative, Nat.ofDigitChars 10 (whole ++ fraction) 0, fraction.length⟩)

/-- A base that an integer may be written in, with its digits. -/
structure Base where
  radix : Nat
  isDigit : Char → Bool

/-- The base named by the letter after a zero. -/
def Base.ofLetter? (c : Char) : Option Base :=
  if c = 'x' then
    some ⟨16, fun d => d.isDigit || ('a' ≤ d && d ≤ 'f') || ('A' ≤ d && d ≤ 'F')⟩
  else if c = 'o' then some ⟨8, fun d => '0' ≤ d && d ≤ '7'⟩
  else if c = 'b' then some ⟨2, fun d => d == '0' || d == '1'⟩
  else none

/-- The value of a digit of any base. -/
def digitValue (d : Char) : Nat :=
  if d.isDigit then d.toNat - 48
  else if d.isLower then d.toNat - 87
  else d.toNat - 55

/-- An integer in a base of its own, after the base's letter. -/
def basedInteger? (base : Base) (chars : List Char) : Option Value :=
  (ungroup base.isDigit chars).bind fun digits =>
    integer? (digits.foldl (fun number d => base.radix * number + digitValue d) 0 : Nat)

/-- A number in base ten, after its sign. -/
def unsigned? (negative : Bool) (chars : List Char) : Option Value :=
  if chars.contains '.' then decimal? negative chars else decimalInteger? negative chars

/-- A number in base ten. -/
def signed? : List Char → Option Value
  | '-' :: rest => unsigned? true rest
  | '+' :: rest => unsigned? false rest
  | chars => unsigned? false chars

/-- The number that a word is. -/
def number? : List Char → Option Value
  | '0' :: letter :: rest =>
    match Base.ofLetter? letter with
    | some base => basedInteger? base rest
    | none => signed? ('0' :: letter :: rest)
  | chars => signed? chars

end OperandStack.Toml
