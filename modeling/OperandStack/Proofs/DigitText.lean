import OperandStack.Double.Text
import OperandStack.Proofs.FewestDigits

/-! # The text of a number

A number of double precision is written as the decimal that stands for it. `WrittenAs` says how: by
its digits around the point, or by its digits and the power of ten that the first of them stands
for. The digits are read as a whole number and scaled, so that the text is told from the number and
not from the way it is found.
-/

namespace OperandStack

namespace Decimal

/-- The number that digits give, the last of them standing for a power of ten. -/
def reading (digits : List Char) (last : Int) : Rat := Nat.ofDigitChars 10 digits 0 * 10 ^ last

/-- Tells that the digits before and after a point give a number. No zero stands at either end but
next to the point. -/
structure AroundPoint (size : Rat) (whole fraction : List Char) : Prop where
  isDigit : ∀ c ∈ whole ++ fraction, c.isDigit = true
  whole_ne_nil : whole ≠ []
  fraction_ne_nil : fraction ≠ []
  head : whole.head? = some '0' → whole = ['0']
  last : fraction.getLast? = some '0' → fraction = ['0']
  reads : reading (whole ++ fraction) (-fraction.length) = size

/-- Tells that digits, the first of them standing for a power of ten, give a number. No zero stands
at either end. -/
structure WithPower (size : Rat) (power : Int) (digits : List Char) : Prop where
  isDigit : ∀ c ∈ digits, c.isDigit = true
  ne_nil : digits ≠ []
  head : digits.head? ≠ some '0'
  last : digits.getLast? ≠ some '0'
  reads : reading digits (power - (digits.length - 1)) = size

/-! ## Zeros at the ends -/

theorem reading_append_zeros (digits : List Char) (count : Nat) (last : Int) :
    reading (digits ++ List.replicate count '0') last = reading digits (last + count) := by
  have ten : (10 : Rat) ≠ 0 := by norm_num
  rw [reading, reading, Nat.ofDigitChars_append, Nat.ofDigitChars_replicate_zero, zpow_add₀ ten,
    zpow_natCast]
  push_cast
  ring

theorem reading_digits (d : Decimal) : reading d.digits (-d.places) = d.size := by
  rw [reading, digits, Nat.ofDigitChars_ten_toDigits]
  rfl

theorem dropZeros_append (digits : List Char) : ∃ count,
    digits = dropZeros digits ++ List.replicate count '0' ∧
      digits.length = (dropZeros digits).length + count := by
  have zeros := List.eq_replicate_of_mem fun c (member : c ∈ digits.reverse.takeWhile (· == '0')) =>
    beq_iff_eq.mp (List.all_eq_true.mp List.all_takeWhile c member)
  have parts := digits.reverse.takeWhile_append_dropWhile (p := (· == '0'))
  rw [zeros] at parts
  have split : digits = dropZeros digits ++
      List.replicate (digits.reverse.takeWhile (· == '0')).length '0' := by
    rw [dropZeros, ← List.reverse_replicate, ← List.reverse_append, parts, List.reverse_reverse]
  refine ⟨_, split, ?_⟩
  rw [congrArg List.length split, List.length_append, List.length_replicate]

theorem getLast?_dropZeros (digits : List Char) : (dropZeros digits).getLast? ≠ some '0' := by
  intro zero
  rw [dropZeros, List.getLast?_reverse] at zero
  have kept := List.head?_dropWhile_not (· == '0') digits.reverse
  rw [zero] at kept
  cases kept

theorem mem_of_mem_dropZeros {digits : List Char} {c : Char} (member : c ∈ dropZeros digits) :
    c ∈ digits := by
  obtain ⟨count, split, _⟩ := dropZeros_append digits
  rw [split]
  exact List.mem_append_left _ member

theorem trim_cases (digits : List Char) :
    dropZeros digits = [] ∧ trim digits = ['0'] ∨
      dropZeros digits ≠ [] ∧ trim digits = dropZeros digits := by
  unfold trim
  split
  · exact .inl ⟨‹_›, rfl⟩
  · exact .inr ⟨‹_›, rfl⟩

theorem eq_or_mem_of_mem_trim {digits : List Char} {c : Char} (member : c ∈ trim digits) :
    c = '0' ∨ c ∈ digits := by
  rcases trim_cases digits with ⟨_, trimmed⟩ | ⟨_, trimmed⟩ <;> rw [trimmed] at member
  · exact .inl (List.mem_singleton.mp member)
  · exact .inr (mem_of_mem_dropZeros member)

/-- Zeros at the end of a fraction add nothing. -/
theorem reading_trim (whole fraction : List Char) :
    reading (whole ++ trim fraction) (-(trim fraction).length) =
      reading (whole ++ fraction) (-fraction.length) := by
  obtain ⟨count, split, length⟩ := dropZeros_append fraction
  have kept : reading (whole ++ fraction) (-fraction.length) =
      reading (whole ++ dropZeros fraction) (-(dropZeros fraction).length) := by
    rw [length, split, ← List.append_assoc, reading_append_zeros, ← split]
    congr 1
    push_cast
    ring
  rw [kept]
  rcases trim_cases fraction with ⟨nothing, trimmed⟩ | ⟨_, trimmed⟩
  · rw [trimmed, nothing, List.append_nil]
    exact reading_append_zeros whole 1 (-1)
  · rw [trimmed]

/-! ## Around the point -/

theorem whole_append_fraction (d : Decimal) : d.whole ++ d.fraction = d.padded :=
  List.take_append_drop ..

theorem length_padded (d : Decimal) : d.padded.length = max (d.places + 1) d.digits.length := by
  rw [padded, List.length_append, List.length_replicate]
  omega

theorem reading_padded (d : Decimal) : reading d.padded (-d.places) = d.size := by
  rw [← reading_digits, padded, reading, Nat.ofDigitChars_append, Nat.ofDigitChars_replicate_zero,
    Nat.mul_zero]
  rfl

theorem isDigit_of_mem_padded {d : Decimal} {c : Char} (member : c ∈ d.padded) :
    c.isDigit = true := by
  rcases List.mem_append.mp member with zero | digit
  · rw [List.eq_of_mem_replicate zero]
    rfl
  · exact isDigit_of_mem_toDigits digit

/-- One digit stands before the point if there are more places than digits, and then it is a
zero. Otherwise the first digit of the coefficient does. -/
theorem head?_whole (d : Decimal) (zero : d.whole.head? = some '0') : d.whole = ['0'] := by
  have length := d.length_padded
  rcases Nat.lt_or_ge d.places d.digits.length with long | short
  · have none : d.places + 1 - d.digits.length = 0 := by omega
    have same : d.padded = d.digits := by rw [padded, none, List.replicate_zero, List.nil_append]
    rw [whole, List.head?_take, if_neg (by omega), same] at zero
    rcases Nat.eq_zero_or_pos d.coefficient with nothing | positive
    · have digits : d.digits = ['0'] := by rw [digits, nothing]; rfl
      have places : d.places = 0 := by rw [digits, List.length_singleton] at long; omega
      rw [whole, same, digits, places]
      rfl
    · exact absurd zero (head?_toDigits_ne_zero positive)
  · have count : d.padded.length - d.places = 1 := by omega
    obtain ⟨zeros, many⟩ : ∃ zeros, d.places + 1 - d.digits.length = zeros + 1 :=
      ⟨d.places - d.digits.length, by omega⟩
    rw [whole, count, padded, many]
    rfl

theorem aroundPoint_digits (d : Decimal) : AroundPoint d.size d.whole (trim d.fraction) where
  isDigit c member := by
    rcases List.mem_append.mp member with before | after
    · exact isDigit_of_mem_padded (List.mem_of_mem_take before)
    · rcases eq_or_mem_of_mem_trim after with rfl | kept
      · rfl
      · exact isDigit_of_mem_padded (List.mem_of_mem_drop kept)
  whole_ne_nil nothing := by
    have length := congrArg List.length nothing
    rw [whole, List.length_take, length_padded, List.length_nil] at length
    omega
  fraction_ne_nil := by
    rcases trim_cases d.fraction with ⟨_, trimmed⟩ | ⟨some, trimmed⟩
    · rw [trimmed]
      exact List.cons_ne_nil _ _
    · rwa [trimmed]
  head := d.head?_whole
  last zero := by
    rcases trim_cases d.fraction with ⟨_, trimmed⟩ | ⟨_, trimmed⟩
    · exact trimmed
    · exact absurd (trimmed ▸ zero) (getLast?_dropZeros _)
  reads := by
    have places : d.fraction.length = d.places := by
      rw [fraction, List.length_drop, length_padded]
      omega
    rw [reading_trim, places, whole_append_fraction, reading_padded]

/-! ## With a power of ten -/

/-- The digits of a number other than zero start with the first one even without the zeros at their
end. -/
theorem trim_digits {d : Decimal} (positive : 0 < d.coefficient) :
    trim d.digits = dropZeros d.digits ∧ (dropZeros d.digits).head? = d.digits.head? := by
  have first : d.digits.head? ≠ some '0' := head?_toDigits_ne_zero positive
  obtain ⟨count, split, _⟩ := dropZeros_append d.digits
  rcases trim_cases d.digits with ⟨nothing, _⟩ | ⟨kept, trimmed⟩
  · -- Then there are zeros only, and at least one.
    rw [nothing, List.nil_append] at split
    cases count with
    | zero => exact absurd split Nat.toDigits_ne_nil
    | succ more => exact absurd (congrArg List.head? split) first
  · obtain ⟨digit, more, front⟩ := List.exists_cons_of_ne_nil kept
    rw [front] at split
    exact ⟨trimmed, by rw [front, split]; rfl⟩

theorem withPower_digits {d : Decimal} (positive : 0 < d.coefficient) :
    WithPower d.size d.magnitude (trim d.digits) := by
  obtain ⟨trimmed, same⟩ := trim_digits positive
  obtain ⟨count, split, length⟩ := dropZeros_append d.digits
  rw [trimmed]
  have head : (dropZeros d.digits).head? ≠ some '0' := same ▸ head?_toDigits_ne_zero positive
  refine ⟨fun c member => ?_, fun nothing => ?_, head, getLast?_dropZeros _, ?_⟩
  · exact isDigit_of_mem_toDigits (mem_of_mem_dropZeros member)
  · rw [nothing] at same
    exact Nat.toDigits_ne_nil (List.head?_eq_none_iff.mp same.symm)
  · have last : d.magnitude - ((dropZeros d.digits).length - 1) = -d.places + count := by
      rw [magnitude, length]
      push_cast
      ring
    rw [last, ← reading_append_zeros, ← split, reading_digits]

theorem toList_aroundPoint (d : Decimal) :
    d.aroundPoint.toList = d.sign.toList ++ (d.whole ++ '.' :: trim d.fraction) := by
  simp only [aroundPoint, String.toList_append, String.toList_ofList, List.append_assoc]
  rfl

theorem magnitude_zero (negative : Bool) : magnitude ⟨negative, 0, 0⟩ = 0 := by
  decide +revert

theorem aroundPoint_zero (negative : Bool) :
    (whole ⟨negative, 0, 0⟩, trim (fraction ⟨negative, 0, 0⟩)) = (['0'], ['0']) := by
  decide +revert

theorem toList_withPower {d : Decimal} {first : Char} {rest : List Char}
    (digits : trim d.digits = first :: rest) :
    d.withPower.toList =
      d.sign.toList ++ (first :: (if rest = [] then [] else '.' :: rest) ++
        'e' :: (if d.magnitude < 0 then '-' else '+') :: Nat.toDigits 10 d.magnitude.natAbs) := by
  have power : (if d.magnitude < 0 then "-" else "+" : String).toList =
      [if d.magnitude < 0 then '-' else '+'] := by
    split <;> rfl
  simp only [withPower, digits, String.toList_append, String.toList_ofList, Nat.toList_repr, power,
    List.append_assoc]
  cases rest <;> rfl

end Decimal

namespace Double

/-- The ways to write a number without its sign: one that has left the row is a word, zero is
`0.0`, and any other is the decimal that stands for it. Where the first digit of that decimal
stands for one of the powers `around`, all its digits are written around the point; for any other
power they are written with the power. -/
inductive SizeWrittenAs (tie : Tie) (around : Int → Prop) (number : Double) : List Char → Prop
  | infinite (ended : number.rank = rowLength) : SizeWrittenAs tie around number ['i', 'n', 'f']
  | zero (none : number.rank = 0) : SizeWrittenAs tie around number ['0', '.', '0']
  | aroundPoint {coefficient : Nat} {power first : Int} {whole fraction : List Char}
      (finite : number.rank < rowLength) (stands : StandsFor tie coefficient power number)
      (magnitude : 10 ^ first ≤ (coefficient * 10 ^ power : Rat) ∧
        (coefficient * 10 ^ power : Rat) < 10 ^ (first + 1))
      (style : around first)
      (digits : Decimal.AroundPoint (coefficient * 10 ^ power) whole fraction) :
      SizeWrittenAs tie around number (whole ++ '.' :: fraction)
  | withPower {coefficient : Nat} {power first : Int} {digit : Char} {more : List Char}
      (finite : number.rank < rowLength) (stands : StandsFor tie coefficient power number)
      (magnitude : 10 ^ first ≤ (coefficient * 10 ^ power : Rat) ∧
        (coefficient * 10 ^ power : Rat) < 10 ^ (first + 1))
      (style : ¬around first)
      (digits : Decimal.WithPower (coefficient * 10 ^ power) first (digit :: more)) :
      SizeWrittenAs tie around number
        (digit :: (if more = [] then [] else '.' :: more) ++
          'e' :: (if first < 0 then '-' else '+') :: Nat.toDigits 10 first.natAbs)

/-- The text of a number: nothing stands for plus. -/
def WrittenAs (tie : Tie) (around : Int → Prop) (number : Double) (text : String) : Prop :=
  ∃ size, SizeWrittenAs tie around number size ∧
    text.toList = (if number.negative then ['-'] else []) ++ size

/-- The powers of ten that the first digit of a number written around the point may stand for. -/
def Style.Around (style : Style) (first : Int) : Prop :=
  ∀ powers ∈ style.aroundPoint, powers.1 ≤ first ∧ first ≤ powers.2

theorem Style.writesAroundPoint_iff (style : Style) (d : Decimal) :
    style.writesAroundPoint d = true ↔ style.Around d.magnitude := by
  rw [writesAroundPoint, Option.all_eq_true]
  simp only [Bool.and_eq_true, decide_eq_true_eq]
  rfl

theorem toList_sign (number : Double) :
    number.sign.toList = if number.negative then ['-'] else [] := by
  rw [sign]
  split <;> rfl

theorem text_eq (style : Style) {number : Double} (finite : number.rank < rowLength) :
    number.text style =
      if style.writesAroundPoint (number.shortest style.tie) then
        (number.shortest style.tie).aroundPoint
      else (number.shortest style.tie).withPower := by
  rw [text, isFinite, decide_eq_true finite]
  rfl

theorem StandsFor.writtenAs {number : Double} {d : Decimal} {coefficient : Nat} {power : Int}
    (style : Style) (stands : StandsFor style.tie coefficient power number)
    (finite : number.rank < rowLength) (nonzero : 0 < number.rank) (sign : d.sign = number.sign)
    (size : d.size = coefficient * 10 ^ power) :
    number.WrittenAs style.tie style.Around
      (if style.writesAroundPoint d then d.aroundPoint else d.withPower) := by
  have positive : 0 < d.coefficient := by
    refine Decimal.coefficient_pos ?_
    rw [size]
    exact ((roundsTo_iff_between finite).mp stands.reads).pos nonzero
  have magnitude := Decimal.magnitude_spec positive
  rw [size] at magnitude
  split
  case isTrue inside =>
    have digits := d.aroundPoint_digits
    rw [size] at digits
    refine ⟨_, .aroundPoint finite stands magnitude
      ((style.writesAroundPoint_iff d).mp inside) digits, ?_⟩
    rw [Decimal.toList_aroundPoint, sign, toList_sign]
  case isFalse outside =>
    have digits := Decimal.withPower_digits positive
    rw [size] at digits
    obtain ⟨first, rest, front⟩ := List.exists_cons_of_ne_nil digits.ne_nil
    refine ⟨_, .withPower finite stands magnitude
      ((style.writesAroundPoint_iff d).not.mp outside) (front ▸ digits), ?_⟩
    rw [Decimal.toList_withPower front, sign, toList_sign]

/-- A number is written by the fewest digits that are read back as the number, if zero is written
around the point. -/
theorem writtenAs_text (style : Style) (zero : style.Around 0) (number : Double) :
    number.WrittenAs style.tie style.Around (number.text style) := by
  rcases Nat.lt_or_eq_of_le number.rank_le with finite | ended
  · rw [text_eq style finite]
    rcases Nat.eq_zero_or_pos number.rank with none | nonzero
    · have shortest : number.shortest style.tie = ⟨number.negative, 0, 0⟩ := by
        rw [shortest_eq, if_pos none]
      have around : style.Around (Decimal.magnitude ⟨number.negative, 0, 0⟩) := by
        rwa [Decimal.magnitude_zero]
      obtain ⟨whole, fraction⟩ := Prod.mk.inj (Decimal.aroundPoint_zero number.negative)
      rw [shortest, if_pos ((style.writesAroundPoint_iff _).mpr around)]
      refine ⟨_, .zero none, ?_⟩
      rw [Decimal.toList_aroundPoint, whole, fraction, ← toList_sign]
      rfl
    · obtain ⟨coefficient, power, shortest, stands⟩ := exists_standsFor finite nonzero style.tie
      have size := Decimal.size_ofScaled number.negative coefficient (-power)
      rw [← shortest, neg_neg] at size
      exact stands.writtenAs style finite nonzero (by rw [shortest]; rfl) size
  · refine ⟨_, .infinite ended, ?_⟩
    rw [text, isFinite, decide_eq_false (Nat.not_lt.mpr ended.ge), ← toList_sign]
    simp only [Bool.not_false, ↓reduceIte, String.toList_append]
    rfl

theorem writtenAs_positional (number : Double) :
    number.WrittenAs .up (fun _ => True) (number.text .positional) := by
  have around : Style.positional.Around = fun _ => True := by
    funext first
    simp [Style.Around, Style.positional]
  exact around ▸ writtenAs_text .positional (by rw [around]; trivial) number

theorem writtenAs_compact (number : Double) :
    number.WrittenAs .toEven (fun first => -5 ≤ first ∧ first ≤ 15) (number.text .compact) := by
  have around : Style.compact.Around = fun first => -5 ≤ first ∧ first ≤ 15 := by
    funext first
    simp [Style.Around, Style.compact]
  exact around ▸ writtenAs_text .compact (by rw [around]; decide) number

end Double

end OperandStack
