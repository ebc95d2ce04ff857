import OperandStack.Toml.Statement
import Mathlib.Data.List.Basic

/-! # How numbers are written

A number is written in digits, between which single underscores may stand, with a sign before them
or a base of its own. `WritesNumber` lists the ways; every one of them is read as the number meant.
-/

namespace OperandStack.Toml

/-! ## Groups of digits -/

/-- Digits in order, with single underscores between some of them. -/
inductive Grouped : List Char → List Char → Prop
  | single (digit : Char) : Grouped [digit] [digit]
  | next {digits text : List Char} (digit : Char) (rest : Grouped digits text) :
      Grouped (digit :: digits) (digit :: text)
  | apart {digits text : List Char} (digit : Char) (rest : Grouped digits text) :
      Grouped (digit :: digits) (digit :: '_' :: text)

namespace Grouped

variable {digits text : List Char}

theorem exists_head (grouped : Grouped digits text) :
    ∃ digit ∈ digits, ∃ rest, text = digit :: rest := by
  cases grouped with
  | single digit | next digit | apart digit => exact ⟨digit, List.mem_cons_self, _, rfl⟩

theorem mem_or_eq (grouped : Grouped digits text) {c : Char} (member : c ∈ text) :
    c ∈ digits ∨ c = '_' := by
  induction grouped with
  | single digit => exact .inl member
  | next digit _ ih =>
    rcases List.mem_cons.mp member with rfl | later
    · exact .inl List.mem_cons_self
    · exact (ih later).imp_left (List.mem_cons_of_mem _)
  | apart digit _ ih =>
    rcases List.mem_cons.mp member with rfl | later
    · exact .inl List.mem_cons_self
    · rcases List.mem_cons.mp later with rfl | last
      · exact .inr rfl
      · exact (ih last).imp_left (List.mem_cons_of_mem _)

/-- Grouped digits are read as the digits. -/
theorem ungroup_eq (grouped : Grouped digits text) (isDigit : Char → Bool)
    (apart : isDigit '_' = false) (valid : ∀ digit ∈ digits, isDigit digit = true) :
    ungroup isDigit text = some digits := by
  induction grouped with
  | single digit =>
    rw [ungroup, if_pos (valid digit List.mem_cons_self)]
  | next digit rest ih =>
    obtain ⟨second, member, more, rfl⟩ := rest.exists_head
    have further := ih fun other later => valid other (List.mem_cons_of_mem _ later)
    have noBreak : second ≠ '_' := by
      rintro rfl
      rw [valid '_' (List.mem_cons_of_mem _ member)] at apart
      cases apart
    rw [ungroup, if_pos (valid digit List.mem_cons_self), further, Option.map_some]
    · simp
    · intro _ same
      exact noBreak (List.cons.inj same).1
  | apart digit rest ih =>
    have further := ih fun other later => valid other (List.mem_cons_of_mem _ later)
    rw [ungroup, if_pos (valid digit List.mem_cons_self), further, Option.map_some]

end Grouped

/-! ## Decimal digits -/

/-- What a grouped decimal number is made of. -/
theorem Grouped.isDigit_or_eq {digits text : List Char} (grouped : Grouped digits text)
    (valid : ∀ digit ∈ digits, digit.isDigit = true) {c : Char} (member : c ∈ text) :
    c.isDigit = true ∨ c = '_' :=
  (grouped.mem_or_eq member).imp_left (valid c)

/-- The digits of a number start with a zero only if there is no further digit. -/
theorem hasLeadingZero_toDigits (number : Nat) :
    hasLeadingZero (Nat.toDigits 10 number) = false := by
  rcases Nat.eq_zero_or_pos number with rfl | positive
  · rfl
  · have first := Decimal.head?_toDigits_ne_zero positive
    generalize Nat.toDigits 10 number = digits at first ⊢
    unfold hasLeadingZero
    split
    · exact absurd rfl first
    · rfl

theorem decimalDigits?_of_grouped {number : Nat} {text : List Char}
    (grouped : Grouped (Nat.toDigits 10 number) text) :
    decimalDigits? text = some (Nat.toDigits 10 number) := by
  have digits := grouped.ungroup_eq Char.isDigit rfl fun _ => Decimal.isDigit_of_mem_toDigits
  rw [decimalDigits?, digits, Option.filter_some, hasLeadingZero_toDigits]
  rfl

/-! ## Numbers -/

/-- What may stand before a number in base ten. -/
inductive WritesSign : Bool → List Char → Prop
  | nothing : WritesSign false []
  | plus : WritesSign false ['+']
  | minus : WritesSign true ['-']

/-- The integer with a sign and a magnitude. -/
def signed (negative : Bool) (magnitude : Nat) : Int :=
  if negative then -magnitude else magnitude

/-- The integer that digits of a base stand for. -/
def Base.value (base : Base) (digits : List Char) : Int :=
  (digits.foldl (fun number digit => base.radix * number + digitValue digit) 0 : Nat)

/-- The number of double precision nearest to digits around a point. -/
def nearestDouble (negative : Bool) (whole : Nat) (fraction : List Char) : Double :=
  .ofDecimal ⟨negative, Nat.ofDigitChars 10 (Nat.toDigits 10 whole ++ fraction) 0, fraction.length⟩

/-- The ways of writing a number. -/
inductive WritesNumber : Value → List Char → Prop
  /-- A decimal integer of the signed 64-bit word, with its sign. -/
  | integer {negative : Bool} {magnitude : Nat} {sign text : List Char}
      (before : WritesSign negative sign) (grouped : Grouped (Nat.toDigits 10 magnitude) text)
      (fits : fitsWord (signed negative magnitude) = true) :
      WritesNumber (.integer (signed negative magnitude)) (sign ++ text)
  /-- An integer of the signed 64-bit word in a base of its own. -/
  | based {letter : Char} {base : Base} {digits text : List Char}
      (named : Base.ofLetter? letter = some base)
      (valid : ∀ digit ∈ digits, base.isDigit digit = true) (grouped : Grouped digits text)
      (fits : fitsWord (base.value digits) = true) :
      WritesNumber (.integer (base.value digits)) ('0' :: letter :: text)
  /-- A number with a point, other than one that is too large. -/
  | decimal {negative : Bool} {whole : Nat} {fraction sign wholeText fractionText : List Char}
      (before : WritesSign negative sign) (grouped : Grouped (Nat.toDigits 10 whole) wholeText)
      (valid : ∀ digit ∈ fraction, digit.isDigit = true)
      (fine : Grouped fraction fractionText)
      (readable : (nearestDouble negative whole fraction).isFinite = true ∨ negative = true) :
      WritesNumber (.double (nearestDouble negative whole fraction))
        (sign ++ (wholeText ++ '.' :: fractionText))

theorem WritesNumber.fitsWord {number : Int} {text : List Char}
    (written : WritesNumber (.integer number) text) : fitsWord number = true := by
  cases written with
  | integer _ _ fits | based _ _ _ fits => exact fits

/-! ## Reading numbers -/

/-- Letters of bases are no part of a number in base ten. -/
theorem ofLetter?_eq_none {c : Char} (plain : c.isDigit = true ∨ c = '_' ∨ c = '.') :
    Base.ofLetter? c = none := by
  have notX : c ≠ 'x' := by rintro rfl; revert plain; decide
  have notO : c ≠ 'o' := by rintro rfl; revert plain; decide
  have notB : c ≠ 'b' := by rintro rfl; revert plain; decide
  rw [Base.ofLetter?, if_neg notX, if_neg notO, if_neg notB]

theorem signed?_of_isDigit {first : Char} (digit : first.isDigit = true) (rest : List Char) :
    signed? (first :: rest) = unsigned? false (first :: rest) := by
  have notMinus : first ≠ '-' := by rintro rfl; revert digit; decide
  have notPlus : first ≠ '+' := by rintro rfl; revert digit; decide
  rw [signed?]
  · intro _ same
    exact notMinus (List.cons.inj same).1
  · intro _ same
    exact notPlus (List.cons.inj same).1

/-- A number in base ten is read by what stands after its sign. -/
theorem number?_of_sign {negative : Bool} {sign : List Char} (before : WritesSign negative sign)
    {first : Char} {rest : List Char} (digit : first.isDigit = true)
    (plain : ∀ c ∈ rest, c.isDigit = true ∨ c = '_' ∨ c = '.') :
    number? (sign ++ first :: rest) = unsigned? negative (first :: rest) := by
  cases before with
  | plus | minus => rfl
  | nothing =>
    rw [List.nil_append, ← signed?_of_isDigit digit]
    rcases rest with _ | ⟨second, more⟩
    · rw [number?]
      intro _ _ same
      cases same
    · by_cases zero : first = '0'
      · subst zero
        rw [number?, ofLetter?_eq_none (plain second List.mem_cons_self)]
      · rw [number?]
        intro _ _ same
        exact zero (List.cons.inj same).1

theorem integer?_of_fits {number : Int} (fits : fitsWord number = true) :
    integer? number = some (.integer number) := if_pos fits

theorem unsigned?_of_grouped {negative : Bool} {magnitude : Nat} {text : List Char}
    (grouped : Grouped (Nat.toDigits 10 magnitude) text)
    (fits : fitsWord (signed negative magnitude) = true) :
    unsigned? negative text = some (.integer (signed negative magnitude)) := by
  have noPoint : ¬text.contains '.' = true := by
    rw [List.contains_iff_mem]
    intro member
    have point := grouped.isDigit_or_eq (fun _ => Decimal.isDigit_of_mem_toDigits) member
    revert point
    decide
  rw [unsigned?, if_neg noPoint, decimalInteger?, decimalDigits?_of_grouped grouped,
    Option.bind_some, Nat.ofDigitChars_toDigits (by decide) (by decide)]
  exact integer?_of_fits fits

theorem unsigned?_of_point {negative : Bool} {whole : Nat}
    {fraction wholeText fractionText : List Char}
    (grouped : Grouped (Nat.toDigits 10 whole) wholeText)
    (valid : ∀ digit ∈ fraction, digit.isDigit = true) (fine : Grouped fraction fractionText)
    (readable : (nearestDouble negative whole fraction).isFinite = true ∨ negative = true) :
    unsigned? negative (wholeText ++ '.' :: fractionText) =
      some (.double (nearestDouble negative whole fraction)) := by
  have point : (wholeText ++ '.' :: fractionText).contains '.' = true := by simp
  have before : ∀ c ∈ wholeText, (c != '.') = true := by
    intro c member
    rw [bne_iff_ne]
    rintro rfl
    have digit := grouped.isDigit_or_eq (fun _ => Decimal.isDigit_of_mem_toDigits) member
    revert digit
    decide
  have first : (wholeText ++ '.' :: fractionText).takeWhile (· != '.') = wholeText := by
    rw [List.takeWhile_append_of_pos before, List.takeWhile_cons_of_neg (by decide),
      List.append_nil]
  have second : ((wholeText ++ '.' :: fractionText).dropWhile (· != '.')).drop 1 =
      fractionText := by
    rw [List.dropWhile_append_of_pos before, List.dropWhile_cons_of_neg (by decide)]
    rfl
  have digits := fine.ungroup_eq Char.isDigit rfl valid
  rw [unsigned?, if_pos point, decimal?, first, second, decimalDigits?_of_grouped grouped,
    Option.bind_some, digits, Option.bind_some]
  exact if_pos (Bool.or_eq_true_iff.mpr readable)

theorem basedInteger?_of_grouped {base : Base} {digits text : List Char}
    (apart : base.isDigit '_' = false) (valid : ∀ digit ∈ digits, base.isDigit digit = true)
    (grouped : Grouped digits text) (fits : fitsWord (base.value digits) = true) :
    basedInteger? base text = some (.integer (base.value digits)) := by
  rw [basedInteger?, grouped.ungroup_eq base.isDigit apart valid, Option.bind_some]
  exact integer?_of_fits fits

private theorem isAlphanum_iff (c : Char) :
    c.isAlphanum = true ↔ (65 ≤ c.toNat ∧ c.toNat ≤ 90) ∨ (97 ≤ c.toNat ∧ c.toNat ≤ 122) ∨
      (48 ≤ c.toNat ∧ c.toNat ≤ 57) := by
  have upper : c.isUpper = decide (65 ≤ c.val ∧ c.val ≤ 90) := rfl
  have lower : c.isLower = (decide (97 ≤ c.val) && decide (c.val ≤ 122)) := rfl
  have alpha : c.isAlpha = (c.isUpper || c.isLower) := rfl
  simp [Char.isAlphanum, alpha, upper, lower, Char.isDigit, UInt32.le_iff_toNat_le, or_assoc]

/-- The digits of a base are letters and digits. -/
theorem isAlphanum_of_isDigit {letter : Char} {base : Base}
    (named : Base.ofLetter? letter = some base) {digit : Char}
    (valid : base.isDigit digit = true) : digit.isAlphanum = true := by
  rw [isAlphanum_iff]
  unfold Base.ofLetter? at named
  split_ifs at named <;> obtain rfl := Option.some.inj named
  · simp [Char.isDigit, Char.le_def, UInt32.le_iff_toNat_le] at valid
    omega
  · simp [Char.le_def, UInt32.le_iff_toNat_le] at valid
    omega
  · simp at valid
    rcases valid with rfl | rfl <;> decide

/-- Whatever is written as a number is read as that number. -/
theorem number?_of_writes {value : Value} {text : List Char} (written : WritesNumber value text) :
    number? text = some value := by
  cases written with
  | integer before grouped fits =>
    obtain ⟨first, member, rest, rfl⟩ := grouped.exists_head
    have plain : ∀ c ∈ rest, c.isDigit = true ∨ c = '_' ∨ c = '.' := fun c later =>
      (grouped.isDigit_or_eq (fun _ => Decimal.isDigit_of_mem_toDigits)
        (List.mem_cons_of_mem _ later)).imp_right .inl
    rw [number?_of_sign before (Decimal.isDigit_of_mem_toDigits member) plain]
    exact unsigned?_of_grouped grouped fits
  | @based letter base digits text named valid grouped fits =>
    have apart : base.isDigit '_' = false := by
      rw [Bool.eq_false_iff]
      intro digit
      have alphanumeric := isAlphanum_of_isDigit named digit
      revert alphanumeric
      decide
    rw [number?, named]
    exact basedInteger?_of_grouped apart valid grouped fits
  | @decimal _ _ _ _ _ fractionText before grouped valid fine readable =>
    have read := unsigned?_of_point grouped valid fine readable
    obtain ⟨first, member, rest, rfl⟩ := grouped.exists_head
    have plain : ∀ c ∈ rest ++ '.' :: fractionText, c.isDigit = true ∨ c = '_' ∨ c = '.' := by
      intro c later
      rcases List.mem_append.mp later with inWhole | inTail
      · exact (grouped.isDigit_or_eq (fun _ => Decimal.isDigit_of_mem_toDigits)
          (List.mem_cons_of_mem _ inWhole)).imp_right .inl
      · rcases List.mem_cons.mp inTail with rfl | inFraction
        · exact .inr (.inr rfl)
        · exact (fine.isDigit_or_eq valid inFraction).imp_right .inl
    rw [List.cons_append] at read ⊢
    rw [number?_of_sign before (Decimal.isDigit_of_mem_toDigits member) plain, read]

/-! ## Numbers as words -/

theorem isWordChar_of_isAlphanum {c : Char} (alphanumeric : c.isAlphanum = true) :
    isWordChar c = true := by
  simp only [isWordChar, isKeyChar, alphanumeric, Bool.true_or]

theorem isWordChar_of_isDigit {c : Char} (digit : c.isDigit = true) : isWordChar c = true :=
  isWordChar_of_isAlphanum (by simp only [Char.isAlphanum, digit, Bool.or_true])

theorem WritesSign.isWordChar {negative : Bool} {sign : List Char}
    (before : WritesSign negative sign) {c : Char} (member : c ∈ sign) : isWordChar c = true := by
  cases before with
  | nothing => cases member
  | plus | minus =>
    obtain rfl := List.mem_singleton.mp member
    rfl

theorem Grouped.isWordChar {digits text : List Char} (grouped : Grouped digits text)
    (valid : ∀ digit ∈ digits, Toml.isWordChar digit = true) {c : Char} (member : c ∈ text) :
    Toml.isWordChar c = true := by
  rcases grouped.mem_or_eq member with digit | rfl
  · exact valid c digit
  · rfl

theorem isWordChar_of_ofLetter? {letter : Char} {base : Base}
    (named : Base.ofLetter? letter = some base) : isWordChar letter = true := by
  unfold Base.ofLetter? at named
  split_ifs at named with x o b
  · rw [x]; rfl
  · rw [o]; rfl
  · rw [b]; rfl

theorem WritesNumber.isWordChar {value : Value} {text : List Char}
    (written : WritesNumber value text) {c : Char} (member : c ∈ text) : isWordChar c = true := by
  cases written with
  | integer before grouped _ =>
    rcases List.mem_append.mp member with inSign | inDigits
    · exact before.isWordChar inSign
    · exact grouped.isWordChar
        (fun _ digit => isWordChar_of_isDigit (Decimal.isDigit_of_mem_toDigits digit)) inDigits
  | based named valid grouped _ =>
    rcases List.mem_cons.mp member with rfl | later
    · rfl
    · rcases List.mem_cons.mp later with rfl | inDigits
      · exact isWordChar_of_ofLetter? named
      · exact grouped.isWordChar (fun digit digits =>
          isWordChar_of_isAlphanum (isAlphanum_of_isDigit named (valid digit digits))) inDigits
  | decimal before grouped valid fine _ =>
    rcases List.mem_append.mp member with inSign | later
    · exact before.isWordChar inSign
    · rcases List.mem_append.mp later with inWhole | last
      · exact grouped.isWordChar
          (fun _ digit => isWordChar_of_isDigit (Decimal.isDigit_of_mem_toDigits digit)) inWhole
      · rcases List.mem_cons.mp last with rfl | inFraction
        · rfl
        · exact fine.isWordChar (fun digit digits => isWordChar_of_isDigit (valid digit digits))
            inFraction

/-- A number starts with a sign or a digit, and so is no truth value. -/
theorem WritesNumber.exists_head {value : Value} {text : List Char}
    (written : WritesNumber value text) :
    ∃ first rest, text = first :: rest ∧ first ≠ 't' ∧ first ≠ 'f' := by
  have digitHead : ∀ {number : Nat} {digitText : List Char} {negative : Bool} {sign : List Char},
      WritesSign negative sign → Grouped (Nat.toDigits 10 number) digitText → ∀ after,
        ∃ first rest, sign ++ (digitText ++ after) = first :: rest ∧ first ≠ 't' ∧ first ≠ 'f' := by
    intro number digitText negative sign before grouped after
    cases before with
    | plus | minus => exact ⟨_, _, rfl, by decide, by decide⟩
    | nothing =>
      obtain ⟨first, member, rest, rfl⟩ := grouped.exists_head
      have digit := Decimal.isDigit_of_mem_toDigits member
      refine ⟨first, rest ++ after, rfl, ?_, ?_⟩ <;> (rintro rfl; revert digit; decide)
  cases written with
  | integer before grouped _ => simpa using digitHead before grouped []
  | based => exact ⟨_, _, rfl, by decide, by decide⟩
  | decimal before grouped _ _ _ => exact digitHead before grouped _

theorem wordValue?_of_writes {value : Value} {text : List Char}
    (written : WritesNumber value text) : wordValue? text = some value := by
  obtain ⟨first, rest, shape, notT, notF⟩ := written.exists_head
  have notTrue : text ≠ ['t', 'r', 'u', 'e'] := by
    rw [shape]
    exact fun same => notT (List.cons.inj same).1
  have notFalse : text ≠ ['f', 'a', 'l', 's', 'e'] := by
    rw [shape]
    exact fun same => notF (List.cons.inj same).1
  rw [wordValue?, if_neg notTrue, if_neg notFalse, number?_of_writes written]

end OperandStack.Toml
