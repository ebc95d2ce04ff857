import OperandStack.Double.Basic
import Mathlib.Algebra.Order.Field.Power
import Mathlib.Algebra.Order.Field.Rat
import Mathlib.Order.Monotone.Basic
import Mathlib.Tactic.Linarith
import Mathlib.Tactic.Positivity
import Mathlib.Tactic.Ring

/-! # The nearest number of double precision

Halfway between neighbours in the row of numbers lie the midpoints. What is between the midpoints
around a number is nearest to that number, a midpoint itself belonging to the even one of its two
neighbours, and `nearestRank` finds the rank of this number. So rounding never turns the order of
two numbers around, and whatever is close enough to a number of the row rounds to it.
-/

namespace OperandStack

/-! ## Rounding to whole numbers -/

section Whole

variable {size : Rat}

theorem wholePart_le (nonneg : 0 ≤ size) : (wholePart size : Rat) ≤ size := by
  have floor : 0 ≤ size.floor := Rat.le_floor_iff.mpr nonneg
  have exact : ((size.floor.toNat : Int) : Rat) = size.floor :=
    congrArg Int.cast (Int.toNat_of_nonneg floor)
  exact_mod_cast exact.trans_le (Rat.floor_le size)

theorem lt_wholePart_add_one (size : Rat) : size < wholePart size + 1 := by
  have floor : (size.floor : Rat) ≤ ((size.floor.toNat : Int) : Rat) :=
    Int.cast_le.mpr (Int.self_le_toNat _)
  have above := Rat.lt_floor_add_one size
  push_cast at above floor
  rw [wholePart]
  linarith

/-- What rounding does on either side of the middle, and in the middle. -/
theorem Tie.round_cases (tie : Tie) (size : Rat) :
    (size < wholePart size + 1 / 2 ∧ tie.round size = wholePart size) ∨
    (wholePart size + 1 / 2 < size ∧ tie.round size = wholePart size + 1) ∨
    (size = wholePart size + 1 / 2 ∧
      tie.round size =
        match tie with
        | up => wholePart size + 1
        | toEven => wholePart size + wholePart size % 2) := by
  simp only [Tie.round]
  split_ifs with low high
  · exact .inl ⟨by linarith, rfl⟩
  · exact .inr (.inl ⟨by linarith, rfl⟩)
  · exact .inr (.inr ⟨by linarith, rfl⟩)

/-- Rounding moves a number by one half at most. -/
theorem Tie.abs_sub_round_le_half (tie : Tie) (nonneg : 0 ≤ size) :
    |size - tie.round size| ≤ 1 / 2 := by
  have low := wholePart_le nonneg
  have high := lt_wholePart_add_one size
  rcases tie.round_cases size with ⟨side, same⟩ | ⟨side, same⟩ | ⟨middle, same⟩
  · rw [same, abs_of_nonneg (by linarith)]
    linarith
  · rw [same, abs_of_nonpos (by push_cast; linarith)]
    push_cast
    linarith
  · rcases tie.round_eq_or size with down | up
    · rw [down, abs_of_nonneg (by linarith)]
      linarith
    · rw [up, abs_of_nonpos (by push_cast; linarith)]
      push_cast
      linarith

/-- A number in the middle is rounded to the even neighbour. -/
theorem Tie.toEven_round_even (nonneg : 0 ≤ size)
    (middle : |size - Tie.toEven.round size| = 1 / 2) : Tie.toEven.round size % 2 = 0 := by
  have low := wholePart_le nonneg
  have high := lt_wholePart_add_one size
  rcases Tie.toEven.round_cases size with ⟨side, same⟩ | ⟨side, same⟩ | ⟨_, same⟩
  · rw [same, abs_of_nonneg (by linarith)] at middle
    linarith
  · rw [same, abs_of_nonpos (by push_cast; linarith)] at middle
    push_cast at middle
    linarith
  · rw [same]
    dsimp only
    omega

end Whole

/-! ## The nearer of two numbers -/

section Nearer

variable {low high : Rat} (ordered : low < high) (size : Rat)

include ordered

theorem abs_sub_high_le_iff : |size - high| ≤ |size - low| ↔ (low + high) / 2 ≤ size := by
  rw [← sq_le_sq]
  constructor <;> intro side <;> nlinarith

theorem abs_sub_low_le_iff : |size - low| ≤ |size - high| ↔ size ≤ (low + high) / 2 := by
  rw [← sq_le_sq]
  constructor <;> intro side <;> nlinarith

theorem abs_sub_eq_iff : |size - low| = |size - high| ↔ size = (low + high) / 2 := by
  rw [le_antisymm_iff, le_antisymm_iff, abs_sub_low_le_iff ordered, abs_sub_high_le_iff ordered]

end Nearer

namespace Double

/-! ## The row -/

/-- The number at a rank, in a row without an end. -/
def rowSize (rank : Nat) : Rat :=
  (if rank < partLength then rank else partLength + rank % partLength : Nat) *
    2 ^ (((max (rank / partLength) 1 : Nat) : Int) - 1075)

theorem size_eq_rowSize (number : Double) : number.size = rowSize number.rank := rfl

/-- The first number of the next part is also the end of the part before it. -/
theorem rowSize_place {place count : Nat} (small : count ≤ 2 * partLength)
    (normal : place = 0 ∨ partLength ≤ count) :
    rowSize (place * partLength + count) = count * 2 ^ ((place : Int) - 1074) := by
  have length : partLength = 4503599627370496 := rfl
  rw [rowSize]
  rcases Nat.lt_or_ge count partLength with low | high
  · obtain rfl : place = 0 := normal.resolve_right (by omega)
    have exponent : max ((0 * partLength + count) / partLength) 1 = 1 := by
      rw [length] at low ⊢
      omega
    rw [exponent, if_pos (by omega), zero_mul, zero_add]
    norm_num
  · have notFirst : ¬place * partLength + count < partLength := by
      rw [length] at high ⊢
      omega
    rw [if_neg notFirst]
    rcases Nat.lt_or_ge count (2 * partLength) with inside | last
    · have exponent : max ((place * partLength + count) / partLength) 1 = place + 1 := by
        rw [length] at high inside ⊢
        omega
      have mantissa : partLength + (place * partLength + count) % partLength = count := by
        rw [length] at high inside ⊢
        omega
      rw [exponent, mantissa]
      congr 2
      push_cast
      ring
    · obtain rfl : count = 2 * partLength := Nat.le_antisymm small last
      have exponent : max ((place * partLength + 2 * partLength) / partLength) 1 = place + 2 := by
        rw [length]
        omega
      have mantissa :
          partLength + (place * partLength + 2 * partLength) % partLength = partLength := by
        rw [length]
        omega
      have next : (((place + 2 : Nat) : Int) - 1075) = ((place : Int) - 1074) + 1 := by
        push_cast
        ring
      rw [exponent, mantissa, next, zpow_add_one₀ (by norm_num)]
      push_cast
      ring

/-- A number and its neighbour above are multiples of their distance, one apart. -/
theorem exists_step (rank : Nat) : ∃ (count : Nat) (step : Rat), 0 < step ∧
    count < 2 * partLength ∧ (0 < rank → 0 < count) ∧ rowSize rank = count * step ∧
      rowSize (rank + 1) = (count + 1) * step := by
  have length : partLength = 4503599627370496 := rfl
  obtain ⟨place, count, small, normal, rfl⟩ : ∃ place count, count < 2 * partLength ∧
      (place = 0 ∨ partLength ≤ count) ∧ rank = place * partLength + count := by
    rcases Nat.lt_or_ge rank (2 * partLength) with first | later
    · exact ⟨0, rank, first, .inl rfl, by omega⟩
    · refine ⟨rank / partLength - 1, partLength + rank % partLength, ?_, ?_, ?_⟩ <;>
        (rw [length] at later ⊢; omega)
  refine ⟨count, 2 ^ ((place : Int) - 1074), by positivity, small, ?_,
    rowSize_place small.le normal, ?_⟩
  · rw [length] at normal ⊢
    omega
  · rw [Nat.add_assoc, rowSize_place small (normal.imp_right (Nat.le_succ_of_le ·))]
    push_cast
    rfl

theorem strictMono_rowSize : StrictMono rowSize := by
  refine strictMono_nat_of_lt_succ fun rank => ?_
  obtain ⟨count, step, positive, _, _, here, next⟩ := exists_step rank
  rw [here, next]
  linarith

theorem rowSize_lt_succ (rank : Nat) : rowSize rank < rowSize (rank + 1) :=
  strictMono_rowSize (Nat.lt_succ_self rank)

theorem rowSize_zero : rowSize 0 = 0 := by
  rw [rowSize]
  norm_num [partLength]

theorem rowSize_pos {rank : Nat} (positive : 0 < rank) : 0 < rowSize rank := by
  have above := strictMono_rowSize positive
  rwa [rowSize_zero] at above

theorem rowSize_nonneg (rank : Nat) : 0 ≤ rowSize rank := by
  have above := strictMono_rowSize.monotone (Nat.zero_le rank)
  rwa [rowSize_zero] at above

/-! ## Midpoints -/

/-- The middle between a number and its neighbour above. -/
def midpoint (rank : Nat) : Rat := (rowSize rank + rowSize (rank + 1)) / 2

theorem strictMono_midpoint : StrictMono midpoint := by
  refine strictMono_nat_of_lt_succ fun rank => ?_
  have first := rowSize_lt_succ rank
  have second := rowSize_lt_succ (rank + 1)
  rw [midpoint, midpoint]
  linarith

theorem rowSize_lt_midpoint (rank : Nat) : rowSize rank < midpoint rank := by
  have next := rowSize_lt_succ rank
  rw [midpoint]
  linarith

theorem midpoint_lt_rowSize (rank : Nat) : midpoint rank < rowSize (rank + 1) := by
  have next := rowSize_lt_succ rank
  rw [midpoint]
  linarith

/-- Tells that a number lies between the midpoints around the number at a rank. A midpoint itself
counts if the rank is even. -/
structure Between (size : Rat) (rank : Nat) : Prop where
  above : ∀ previous, previous + 1 = rank →
    midpoint previous < size ∨ midpoint previous = size ∧ rank % 2 = 0
  below : size < midpoint rank ∨ size = midpoint rank ∧ rank % 2 = 0

namespace Between

variable {size other : Rat} {rank : Nat}

theorem midpoint_le (between : Between size rank) {previous : Nat} (before : previous < rank) :
    midpoint previous ≤ size := by
  obtain ⟨last, rfl⟩ := Nat.exists_eq_succ_of_ne_zero (Nat.ne_of_gt (Nat.zero_lt_of_lt before))
  have next : midpoint last ≤ size :=
    (between.above last rfl).elim le_of_lt fun middle => middle.1.le
  exact (strictMono_midpoint.monotone (Nat.le_of_lt_succ before)).trans next

theorem le_midpoint (between : Between size rank) {later : Nat} (behind : rank ≤ later) :
    size ≤ midpoint later :=
  (between.below.elim le_of_lt fun middle => middle.1.le).trans
    (strictMono_midpoint.monotone behind)

/-- Greater numbers lie at greater ranks. -/
theorem rank_le {higher : Nat} (low : Between size rank) (high : Between other higher)
    (ordered : size ≤ other) : rank ≤ higher := by
  by_contra turned
  have before : higher < rank := Nat.lt_of_not_le turned
  have left := low.midpoint_le before
  have right := high.le_midpoint (Nat.le_refl higher)
  have here : midpoint higher = size := le_antisymm left (ordered.trans right)
  have there : other = midpoint higher := le_antisymm right (here.trans_le ordered)
  -- Both are the midpoint above `higher`, so it has one even neighbour too many.
  have even : higher % 2 = 0 := (high.below.resolve_left there.not_lt).2
  have next : higher + 1 = rank := by
    by_contra apart
    have further := low.midpoint_le (show higher + 1 < rank by omega)
    have increasing := strictMono_midpoint (Nat.lt_succ_self higher)
    rw [here] at increasing
    exact absurd further increasing.not_ge
  have odd := ((low.above higher next).resolve_left here.not_lt).2
  omega

theorem rank_eq {second : Nat} (first : Between size rank) (again : Between size second) :
    rank = second :=
  Nat.le_antisymm (first.rank_le again le_rfl) (again.rank_le first le_rfl)

/-- What lies between two numbers that round alike rounds as they do. -/
theorem of_le_of_le {low high : Rat} (first : Between low rank) (second : Between high rank)
    (above : low ≤ size) (below : size ≤ high) : Between size rank where
  above previous next := by
    rcases first.above previous next with strict | ⟨middle, even⟩
    · exact .inl (strict.trans_le above)
    · exact (above.lt_or_eq).imp (middle.trans_lt ·) fun same => ⟨middle.trans same, even⟩
  below := by
    rcases second.below with strict | ⟨middle, even⟩
    · exact .inl (below.trans_lt strict)
    · exact (below.lt_or_eq).imp (·.trans_eq middle) fun same => ⟨same.trans middle, even⟩

/-- No number of the row is nearer, and one that is as near leaves the even rank. -/
theorem abs_sub_le (between : Between size rank) (other : Nat) :
    |size - rowSize rank| ≤ |size - rowSize other| ∧
      (|size - rowSize rank| = |size - rowSize other| → other = rank ∨ rank % 2 = 0) := by
  rcases Nat.lt_trichotomy other rank with before | rfl | behind
  · have ordered := strictMono_rowSize before
    obtain ⟨previous, rfl⟩ :=
      Nat.exists_eq_succ_of_ne_zero (Nat.ne_of_gt (Nat.zero_lt_of_lt before))
    have lower := strictMono_rowSize.monotone (Nat.le_of_lt_succ before)
    have half : (rowSize other + rowSize (previous + 1)) / 2 ≤ midpoint previous := by
      rw [midpoint]
      linarith
    refine ⟨(abs_sub_high_le_iff ordered size).mpr
      (half.trans (between.midpoint_le (Nat.lt_succ_self previous))), fun same => .inr ?_⟩
    have middle := (abs_sub_eq_iff ordered size).mp same.symm
    exact ((between.above previous rfl).resolve_left (middle.trans_le half).not_gt).2
  · exact ⟨le_rfl, fun _ => .inl rfl⟩
  · have ordered := strictMono_rowSize behind
    have higher := strictMono_rowSize.monotone (Nat.succ_le_of_lt behind)
    have half : midpoint rank ≤ (rowSize rank + rowSize other) / 2 := by
      rw [midpoint]
      linarith
    refine ⟨(abs_sub_low_le_iff ordered size).mpr
      ((between.le_midpoint (Nat.le_refl rank)).trans half), fun same => .inr ?_⟩
    have middle := (abs_sub_eq_iff ordered size).mp same
    exact (between.below.resolve_left (half.trans_eq middle.symm).not_gt).2

theorem pos (between : Between size rank) (positive : 0 < rank) : 0 < size := by
  have middle := between.midpoint_le positive
  exact (rowSize_lt_midpoint 0).trans_le middle |>.trans_le' (rowSize_nonneg 0)

/-- What rounds to a number other than zero is not far above it. -/
theorem le_three_halves (between : Between size rank) (positive : 0 < rank) :
    size ≤ 3 / 2 * rowSize rank := by
  have middle := between.le_midpoint (Nat.le_refl rank)
  obtain ⟨count, step, _, _, counts, here, next⟩ := exists_step rank
  have one : (1 : Rat) ≤ count := by exact_mod_cast counts positive
  rw [midpoint, next, here] at middle
  rw [here]
  nlinarith

end Between

/-- What is nearer to a number than a fifty-fourth binary digit of it rounds to it. -/
theorem between_of_near {size : Rat} {rank : Nat} (positive : 0 < rank)
    (near : |size - rowSize rank| * 0x40000000000000 < rowSize rank) : Between size rank := by
  have bound : ((2 * partLength : Nat) : Rat) = 0x20000000000000 := by norm_num [partLength]
  constructor
  · rintro previous rfl
    obtain ⟨count, step, _, small, _, here, next⟩ := exists_step previous
    have within : ((count + 1 : Nat) : Rat) ≤ 0x20000000000000 :=
      (Nat.cast_le.mpr (Nat.succ_le_of_lt small)).trans_eq bound
    push_cast at within
    rw [next] at near
    have low := neg_abs_le (size - (count + 1) * step)
    rw [midpoint, here, next]
    exact .inl (by nlinarith)
  · obtain ⟨count, step, _, small, _, here, next⟩ := exists_step rank
    have within : (count : Rat) ≤ 0x20000000000000 := (Nat.cast_le.mpr small.le).trans_eq bound
    rw [here] at near
    have high := le_abs_self (size - count * step)
    rw [midpoint, here, next]
    exact .inl (by nlinarith)

/-! ## Rounding -/

theorem log2_spec {number : Nat} (nonzero : number ≠ 0) :
    (2 : Rat) ^ (number.log2 : Int) ≤ number ∧ (number : Rat) < 2 ^ ((number.log2 : Int) + 1) :=
  ⟨by exact_mod_cast Nat.log2_self_le nonzero, by exact_mod_cast Nat.lt_log2_self (n := number)⟩

/-- The logarithms of numerator and denominator tell that of a fraction up to one. -/
theorem log2_sub_log2_spec {upper lower : Nat} (upperNonzero : upper ≠ 0)
    (lowerNonzero : lower ≠ 0) :
    2 ^ ((upper.log2 : Int) - lower.log2 - 1) ≤ (upper / lower : Rat) ∧
      (upper / lower : Rat) < 2 ^ ((upper.log2 : Int) - lower.log2 + 1) := by
  obtain ⟨lowUpper, highUpper⟩ := log2_spec upperNonzero
  obtain ⟨lowLower, highLower⟩ := log2_spec lowerNonzero
  have two : (2 : Rat) ≠ 0 := by norm_num
  have positive : (0 : Rat) < lower := by exact_mod_cast Nat.pos_of_ne_zero lowerNonzero
  constructor
  · rw [le_div_iff₀ positive]
    calc (2 : Rat) ^ ((upper.log2 : Int) - lower.log2 - 1) * lower
        ≤ 2 ^ ((upper.log2 : Int) - lower.log2 - 1) * 2 ^ ((lower.log2 : Int) + 1) :=
        mul_le_mul_of_nonneg_left highLower.le (by positivity)
      _ = 2 ^ (upper.log2 : Int) := by
        rw [← zpow_add₀ two]
        congr 1
        ring
      _ ≤ upper := lowUpper
  · rw [div_lt_iff₀ positive]
    calc (upper : Rat) < 2 ^ ((upper.log2 : Int) + 1) := highUpper
      _ = 2 ^ ((upper.log2 : Int) - lower.log2 + 1) * 2 ^ (lower.log2 : Int) := by
        rw [← zpow_add₀ two]
        congr 1
        ring
      _ ≤ 2 ^ ((upper.log2 : Int) - lower.log2 + 1) * lower :=
        mul_le_mul_of_nonneg_left lowLower (by positivity)

/-- A power of two is not above the number, and the next power of two is. -/
theorem binaryMagnitude_spec {size : Rat} (positive : 0 < size) :
    2 ^ binaryMagnitude size ≤ size ∧ size < 2 ^ (binaryMagnitude size + 1) := by
  have numerator : ((size.num.natAbs : Int) : Rat) = size.num :=
    congrArg Int.cast (Int.natAbs_of_nonneg (Rat.num_pos.mpr positive).le)
  have quotient : (size.num.natAbs / size.den : Rat) = size := by
    rw [← Int.cast_natCast size.num.natAbs, numerator, Rat.num_div_den]
  have guess : binaryMagnitude size =
      if (2 : Rat) ^ ((size.num.natAbs.log2 : Int) - size.den.log2) ≤ size then
        (size.num.natAbs.log2 : Int) - size.den.log2
      else (size.num.natAbs.log2 : Int) - size.den.log2 - 1 := rfl
  obtain ⟨above, below⟩ :=
    log2_sub_log2_spec (Int.natAbs_ne_zero.mpr (Rat.num_pos.mpr positive).ne') size.den_nz
  rw [quotient] at above below
  rw [guess]
  split_ifs with enough
  · exact ⟨enough, below⟩
  · rw [sub_add_cancel]
    exact ⟨above, not_le.mp enough⟩

/-- The part of the row that a number falls into, with the distance of neighbours there. -/
theorem exists_place {size : Rat} (positive : 0 < size) :
    ∃ place : Nat, gridExponent size = (place : Int) - 1074 ∧
      size < (2 * partLength : Nat) * 2 ^ ((place : Int) - 1074) ∧
      (place = 0 ∨ partLength * 2 ^ ((place : Int) - 1074) ≤ size) := by
  obtain ⟨low, high⟩ := binaryMagnitude_spec positive
  have two : (2 : Rat) ≠ 0 := by norm_num
  have length : ((partLength : Nat) : Rat) = 2 ^ (52 : Int) := by norm_num [partLength]
  have double : ((2 * partLength : Nat) : Rat) = 2 ^ (53 : Int) := by norm_num [partLength]
  rw [length, double, gridExponent]
  rcases Int.le_total (-1074) (binaryMagnitude size - 52) with normal | tiny
  · have exponent : (((binaryMagnitude size + 1022).toNat : Int)) - 1074 =
        binaryMagnitude size - 52 := by omega
    refine ⟨(binaryMagnitude size + 1022).toNat, ?_, ?_, .inr ?_⟩
    · rw [exponent, max_eq_left normal]
    · rw [exponent, ← zpow_add₀ two]
      convert high using 2
      ring
    · rw [exponent, ← zpow_add₀ two]
      convert low using 2
      ring
  · refine ⟨0, max_eq_right tiny, ?_, .inl rfl⟩
    rw [← zpow_add₀ two]
    exact high.trans_le (zpow_le_zpow_right₀ (by norm_num) (by push_cast; omega))

theorem midpoint_place {place count : Nat} (small : count < 2 * partLength)
    (normal : place = 0 ∨ partLength ≤ count) :
    midpoint (place * partLength + count) =
      count * 2 ^ ((place : Int) - 1074) + 2 ^ ((place : Int) - 1074) / 2 := by
  rw [midpoint, Nat.add_assoc, rowSize_place small.le normal,
    rowSize_place small (normal.imp_right (Nat.le_succ_of_le ·))]
  push_cast
  ring

/-- A multiple of the distance of neighbours that is half a distance away at most is the number to
round to, in the part that a number falls into. -/
theorem between_of_multiple {place count : Nat} {size step : Rat}
    (stepIs : 2 ^ ((place : Int) - 1074) = step) (small : count ≤ 2 * partLength)
    (normal : place = 0 ∨ partLength ≤ count) (below : size < (2 * partLength : Nat) * step)
    (above : place = 0 ∨ partLength * step ≤ size) (near : |size - count * step| ≤ step / 2)
    (even : |size - count * step| = step / 2 → count % 2 = 0) :
    Between size (place * partLength + count) := by
  have positive : 0 < step := stepIs ▸ by positivity
  have here : rowSize (place * partLength + count) = count * step := by
    rw [rowSize_place small normal, stepIs]
  have parity : (place * partLength + count) % 2 = count % 2 := by
    rw [partLength]
    omega
  obtain ⟨low, high⟩ := abs_le.mp near
  constructor
  · intro previous next
    rw [parity]
    by_cases first : place ≠ 0 ∧ count = partLength
    · -- At the start of a part the neighbour below is nearer than those in the part.
      have start := midpoint_lt_rowSize previous
      rw [next, here, first.2] at start
      exact .inl (start.trans_le (above.resolve_left first.1))
    · obtain ⟨before, rfl⟩ : ∃ before, count = before + 1 := by
        refine Nat.exists_eq_succ_of_ne_zero ?_
        rw [partLength] at normal first next
        omega
      obtain rfl : previous = place * partLength + before := by omega
      rw [midpoint_place (by omega) (by omega), stepIs]
      push_cast at low even
      rcases low.eq_or_lt with tie | strict
      · refine .inr ⟨by linarith, even ?_⟩
        rw [← tie, abs_neg, abs_of_pos (by linarith)]
      · exact .inl (by linarith)
  · rw [parity]
    rcases small.lt_or_eq with inside | full
    · rw [midpoint_place inside normal, stepIs]
      rcases high.eq_or_lt with tie | strict
      · refine .inr ⟨by linarith, even ?_⟩
        rw [tie, abs_of_pos (by linarith)]
      · exact .inl (by linarith)
    · refine .inl (lt_trans ?_ (rowSize_lt_midpoint _))
      rwa [here, full]

/-- The rank within the part of the row that a number falls into. -/
theorem nearestRank_eq {size : Rat} (positive : 0 < size) {place : Nat}
    (exponent : gridExponent size = (place : Int) - 1074) :
    nearestRank size =
      place * partLength + Tie.toEven.round (size / 2 ^ ((place : Int) - 1074)) := by
  have unfolded : nearestRank size =
      if size = 0 then 0
      else (gridExponent size + 1074).toNat * partLength +
        Tie.toEven.round (size / 2 ^ gridExponent size) := rfl
  rw [unfolded, if_neg positive.ne', exponent, sub_add_cancel, Int.toNat_natCast]

/-- Rounding finds the number between whose midpoints a number lies. -/
theorem between_nearestRank {size : Rat} (nonneg : 0 ≤ size) :
    Between size (nearestRank size) := by
  rcases nonneg.eq_or_lt with rfl | positive
  · have zero : nearestRank 0 = 0 := rfl
    rw [zero]
    exact ⟨nofun, .inl (rowSize_zero ▸ rowSize_lt_midpoint 0)⟩
  obtain ⟨place, exponent, below, above⟩ := exists_place positive
  have rank := nearestRank_eq positive exponent
  have stepPos : (0 : Rat) < 2 ^ ((place : Int) - 1074) := by positivity
  generalize stepIs : (2 : Rat) ^ ((place : Int) - 1074) = step at rank below above stepPos
  have quotient : 0 ≤ size / step := by positivity
  have half := Tie.toEven.abs_sub_round_le_half quotient
  have even := Tie.toEven_round_even quotient
  generalize Tie.toEven.round (size / step) = count at rank half even
  have scaled : |size - count * step| = |size / step - count| * step := by
    rw [← abs_of_pos stepPos, ← abs_mul, abs_of_pos stepPos, sub_mul,
      div_mul_cancel₀ size stepPos.ne']
  have within := abs_le.mp half
  have small : count ≤ 2 * partLength := by
    have bound : size / step < (2 * partLength : Nat) := (div_lt_iff₀ stepPos).mpr below
    have cast : (count : Rat) < ((2 * partLength + 1 : Nat) : Rat) := by
      push_cast at bound ⊢
      linarith
    exact Nat.le_of_lt_succ (Nat.cast_lt.mp cast)
  have normal : place = 0 ∨ partLength ≤ count := by
    refine above.imp_right fun enough => ?_
    have bound : (partLength : Rat) ≤ size / step := (le_div_iff₀ stepPos).mpr enough
    have cast : (partLength : Rat) < ((count + 1 : Nat) : Rat) := by
      push_cast
      linarith
    exact Nat.le_of_lt_succ (Nat.cast_lt.mp cast)
  rw [rank]
  refine between_of_multiple stepIs small normal below above ?_ fun tie => even ?_
  · rw [scaled]
    nlinarith
  · rw [scaled] at tie
    nlinarith

theorem nearestRank_eq_iff {size : Rat} (nonneg : 0 ≤ size) (rank : Nat) :
    nearestRank size = rank ↔ Between size rank :=
  ⟨fun same => same ▸ between_nearestRank nonneg, (between_nearestRank nonneg).rank_eq⟩

/-! ## Nearest to all -/

/-- Tells that a number of double precision is nearest to a number, and has the even rank if
another one is as near. -/
def RoundsTo (size : Rat) (number : Double) : Prop :=
  ∀ other : Double, |size - number.size| ≤ |size - other.size| ∧
    (|size - number.size| = |size - other.size| → other.rank = number.rank ∨ number.rank % 2 = 0)

theorem roundsTo_iff_between {size : Rat} {number : Double} (finite : number.rank < rowLength) :
    RoundsTo size number ↔ Between size number.rank := by
  constructor
  · intro nearest
    constructor
    · intro previous next
      obtain ⟨closer, even⟩ := nearest ⟨false, previous, by omega⟩
      have ordered := rowSize_lt_succ previous
      rw [size_eq_rowSize, size_eq_rowSize, ← next] at closer even
      rcases ((abs_sub_high_le_iff ordered size).mp closer).lt_or_eq with strict | tie
      · exact .inl strict
      · have equal := (abs_sub_eq_iff ordered size).mpr tie.symm
        rw [← next]
        exact .inr ⟨tie, (even equal.symm).resolve_left (Nat.succ_ne_self previous).symm⟩
    · obtain ⟨closer, even⟩ := nearest ⟨false, number.rank + 1, finite⟩
      have ordered := rowSize_lt_succ number.rank
      rw [size_eq_rowSize, size_eq_rowSize] at closer even
      rcases ((abs_sub_low_le_iff ordered size).mp closer).lt_or_eq with strict | tie
      · exact .inl strict
      · have equal := (abs_sub_eq_iff ordered size).mpr tie
        exact .inr ⟨tie, (even equal).resolve_left (Nat.succ_ne_self _)⟩
  · intro between other
    exact between.abs_sub_le other.rank

/-- Reading a size with a number's sign gives the number if and only if the size rounds to it. -/
theorem nearest_eq_iff {size : Rat} (nonneg : 0 ≤ size) {number : Double}
    (finite : number.rank < rowLength) :
    nearest number.negative size = number ↔ RoundsTo size number := by
  rw [roundsTo_iff_between finite, ← nearestRank_eq_iff nonneg]
  obtain ⟨negative, rank, bound⟩ := number
  simp only [nearest, mk.injEq, true_and]
  dsimp only at finite
  omega

end Double

end OperandStack
