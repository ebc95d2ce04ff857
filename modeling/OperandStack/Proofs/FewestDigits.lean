import OperandStack.Double.Shortest
import OperandStack.Proofs.NearestRank
import Mathlib.Data.List.Basic
import Mathlib.Tactic.LinearCombination

/-! # The decimal that stands for a number

A decimal lies on the grid of the multiples of a power of ten. `StandsFor` says which decimal a
number of double precision is written as: one that rounds to the number, on the coarsest grid that
has such a decimal, and the nearest one there. On a grid where some multiple rounds to the number a
neighbour of the number does, so that the two neighbours are all that `shortest` has to try; and
with seventeen digits the nearer neighbour always does.
-/

namespace OperandStack

/-! ## Decimals -/

namespace Decimal

theorem size_ofScaled (negative : Bool) (coefficient : Nat) (scale : Int) :
    (ofScaled negative coefficient scale).size = coefficient * 10 ^ (-scale) := by
  have unfolded : (ofScaled negative coefficient scale).size =
      (coefficient * 10 ^ (-scale).toNat : Nat) * 10 ^ (-(scale.toNat : Int)) := rfl
  have ten : (10 : Rat) ≠ 0 := by norm_num
  have exponent : -scale = (-scale).toNat + -(scale.toNat : Int) := by omega
  rw [unfolded, exponent, zpow_add₀ ten, zpow_natCast, ← exponent, ← mul_assoc]
  push_cast
  rfl

theorem coefficient_pos {d : Decimal} (positive : 0 < d.size) : 0 < d.coefficient := by
  refine Nat.pos_of_ne_zero fun none => positive.ne' ?_
  rw [size, none, Nat.cast_zero, Rat.zero_mul]

/-- The first digit of a decimal tells how large it is. -/
theorem magnitude_spec {d : Decimal} (positive : 0 < d.coefficient) :
    10 ^ d.magnitude ≤ d.size ∧ d.size < 10 ^ (d.magnitude + 1) := by
  have ten : (10 : Rat) ≠ 0 := by norm_num
  have size : d.size = d.coefficient * 10 ^ (-(d.places : Int)) := rfl
  obtain ⟨count, length⟩ := Nat.exists_eq_succ_of_ne_zero
    (Nat.ne_of_gt (Nat.length_toDigits_pos (b := 10) (n := d.coefficient)))
  have magnitude : d.magnitude = count - d.places := by
    rw [Decimal.magnitude, digits, length]
    push_cast
    ring
  have high : d.coefficient < 10 ^ (count + 1) :=
    (Nat.length_toDigits_le_iff (by decide) (Nat.succ_pos count)).mp length.le
  have low : 10 ^ count ≤ d.coefficient := by
    rcases Nat.eq_zero_or_pos count with rfl | more
    · exact positive
    · by_contra small
      have shorter := (Nat.length_toDigits_le_iff (by decide) more).mpr (not_le.mp small)
      omega
  have lowCast : (10 : Rat) ^ (count : Int) ≤ d.coefficient := by exact_mod_cast low
  have highCast : (d.coefficient : Rat) < 10 ^ ((count : Int) + 1) := by exact_mod_cast high
  have unit : (0 : Rat) < 10 ^ (-(d.places : Int)) := by positivity
  have next : (count : Int) - d.places + 1 = (count + 1) + -d.places := by ring
  rw [size, magnitude, next, sub_eq_add_neg, zpow_add₀ ten, zpow_add₀ ten]
  exact ⟨mul_le_mul_of_nonneg_right lowCast unit.le, mul_lt_mul_of_pos_right highCast unit⟩

end Decimal

/-- A search through the first whole numbers ends at the first one that gives an answer. -/
theorem exists_first_of_findSome? {β : Type} {answer : Nat → Option β} {bound : Nat} {found : β}
    (search : (List.range bound).findSome? answer = some found) :
    ∃ first < bound, answer first = some found ∧ ∀ earlier < first, answer earlier = none := by
  obtain ⟨before, first, after, split, gives, missed⟩ := List.findSome?_eq_some_iff.mp search
  rw [List.range_eq_range', List.range'_eq_append_iff] at split
  obtain ⟨count, inside, rfl, rest⟩ := split
  obtain ⟨start, more, _⟩ := List.range'_eq_cons_iff.mp rest.symm
  refine ⟨first, by omega, gives, fun earlier before => missed earlier ?_⟩
  rw [List.mem_range'_1]
  omega

/-! ## Neighbours among the whole numbers -/

/-- Tells that of two whole numbers a number is equally near to, the first is to be taken. -/
def Tie.Prefers (tie : Tie) (taken other : Nat) : Prop :=
  match tie with
  | up => other < taken
  | toEven => taken % 2 = 0

/-- A number in the middle is rounded up if ties go up. -/
theorem Tie.lt_up_round {size : Rat} (nonneg : 0 ≤ size)
    (middle : |size - Tie.up.round size| = 1 / 2) : size < Tie.up.round size := by
  have low := wholePart_le nonneg
  rcases Tie.up.round_cases size with ⟨down, same⟩ | ⟨up, same⟩ | ⟨half, same⟩
  · rw [same, abs_of_nonneg (by linarith)] at middle
    linarith
  · rw [same]
    push_cast
    exact lt_wholePart_add_one size
  · rw [same]
    push_cast
    linarith

/-- Rounding finds the nearest whole number, and of two the one to be taken. -/
theorem Tie.abs_sub_round_le (tie : Tie) {size : Rat} (nonneg : 0 ≤ size) (other : Nat) :
    |size - tie.round size| ≤ |size - other| ∧
      (|size - tie.round size| = |size - other| →
        other = tie.round size ∨ tie.Prefers (tie.round size) other) := by
  rcases eq_or_ne other (tie.round size) with rfl | apart
  · exact ⟨le_rfl, fun _ => .inl rfl⟩
  have near := tie.abs_sub_round_le_half nonneg
  have one : (1 : Rat) ≤ |(other : Rat) - tie.round size| := by
    exact_mod_cast Int.one_le_abs (sub_ne_zero.mpr (Nat.cast_injective.ne apart))
  have triangle := abs_sub_le (other : Rat) size (tie.round size)
  rw [abs_sub_comm (other : Rat) size] at triangle
  refine ⟨by linarith, fun equal => .inr ?_⟩
  have middle : |size - tie.round size| = 1 / 2 := by linarith
  cases tie with
  | toEven => exact Tie.toEven_round_even nonneg middle
  | up =>
    have above := Tie.lt_up_round nonneg middle
    rw [abs_of_neg (by linarith)] at middle
    by_contra higher
    have next : ((Tie.up.round size + 1 : Nat) : Rat) ≤ other :=
      Nat.cast_le.mpr (Nat.lt_of_le_of_ne (Nat.le_of_not_lt higher) apart.symm)
    push_cast at next
    rw [abs_of_neg (by linarith), abs_of_neg (by linarith)] at equal
    linarith

/-- Of the whole numbers below a number the neighbour is the nearest. -/
theorem abs_sub_wholePart_le {size : Rat} (nonneg : 0 ≤ size) {other : Nat}
    (below : other ≤ wholePart size) :
    |size - wholePart size| ≤ |size - other| ∧
      (|size - wholePart size| = |size - other| → other = wholePart size) := by
  have low := wholePart_le nonneg
  have cast : (other : Rat) ≤ wholePart size := Nat.cast_le.mpr below
  rw [abs_of_nonneg (by linarith), abs_of_nonneg (by linarith)]
  exact ⟨by linarith, fun equal => Nat.cast_injective (R := Rat) (by linarith)⟩

/-- Of the whole numbers above a number the neighbour is the nearest. -/
theorem abs_sub_wholePart_add_one_le {size : Rat} {other : Nat}
    (above : wholePart size + 1 ≤ other) :
    |size - (wholePart size + 1 : Nat)| ≤ |size - other| ∧
      (|size - (wholePart size + 1 : Nat)| = |size - other| → other = wholePart size + 1) := by
  have high := lt_wholePart_add_one size
  have cast : ((wholePart size + 1 : Nat) : Rat) ≤ other := Nat.cast_le.mpr above
  push_cast at cast ⊢
  rw [abs_of_nonpos (by linarith), abs_of_nonpos (by linarith)]
  refine ⟨by linarith, fun equal => Nat.cast_injective (R := Rat) ?_⟩
  push_cast
  linarith

namespace Double

theorem size_exact (number : Double) : number.exact.size = number.size := by
  have unfolded : number.exact.size =
      (number.mantissa * 2 ^ number.exponent.toNat * 5 ^ (-number.exponent).toNat : Nat) *
        10 ^ (-((-number.exponent).toNat : Int)) := rfl
  have size : number.size = number.mantissa * 2 ^ number.exponent := rfl
  have exponent : number.exponent =
      number.exponent.toNat + -((-number.exponent).toNat : Int) := by omega
  have ten : (10 : Rat) = 2 * 5 := by norm_num
  have cancel (places : Nat) : (5 : Rat) ^ places * (5 : Rat) ^ (-(places : Int)) = 1 := by
    rw [zpow_neg, zpow_natCast, mul_inv_cancel₀ (by positivity)]
  rw [unfolded, size, exponent, zpow_add₀ (by norm_num), zpow_natCast, ← exponent, ten,
    mul_zpow]
  push_cast
  linear_combination (number.mantissa : Rat) * 2 ^ number.exponent.toNat *
    2 ^ (-((-number.exponent).toNat : Int)) * cancel (-number.exponent).toNat

/-! ## Grids -/

/-- Tells that `coefficient * 10 ^ power` is the decimal to write for a number other than zero. -/
structure StandsFor (tie : Tie) (coefficient : Nat) (power : Int) (number : Double) : Prop where
  reads : RoundsTo (coefficient * 10 ^ power) number
  /-- No multiple of a greater power of ten rounds to the number. -/
  coarsest : ∀ (other : Nat) (greater : Int), RoundsTo (other * 10 ^ greater) number →
    greater ≤ power
  /-- No other multiple of the power that rounds to the number is nearer, and if one is as near,
  this one is to be taken. -/
  closest : ∀ other : Nat, RoundsTo (other * 10 ^ power) number →
    |number.size - coefficient * 10 ^ power| ≤ |number.size - other * 10 ^ power| ∧
      (|number.size - coefficient * 10 ^ power| = |number.size - other * 10 ^ power| →
        other = coefficient ∨ tie.Prefers coefficient other)

section Grid

variable {number : Double} (finite : number.rank < rowLength) (nonzero : 0 < number.rank)

include finite

theorem ofDecimal_ofScaled_iff (coefficient : Nat) (scale : Int) :
    ofDecimal (.ofScaled number.negative coefficient scale) = number ↔
      RoundsTo (coefficient * 10 ^ (-scale)) number := by
  have sign : (Decimal.ofScaled number.negative coefficient scale).negative = number.negative := rfl
  rw [ofDecimal, sign, Decimal.size_ofScaled]
  exact nearest_eq_iff (by positivity) finite

include nonzero

/-- What lies between a number and something that rounds to it rounds to it as well. -/
theorem roundsTo_of_between {size far : Rat} (reads : RoundsTo far number)
    (inside : number.size ≤ size ∧ size ≤ far ∨ far ≤ size ∧ size ≤ number.size) :
    RoundsTo size number := by
  have self : Between number.size number.rank := between_of_near nonzero (by
    rw [size_eq_rowSize, sub_self, abs_zero, zero_mul]
    exact rowSize_pos nonzero)
  rw [roundsTo_iff_between finite] at reads ⊢
  rcases inside with ⟨low, high⟩ | ⟨low, high⟩
  · exact self.of_le_of_le reads low high
  · exact reads.of_le_of_le self low high

variable {unit multiple : Rat} (unitPos : 0 < unit) (scaled : number.size = multiple * unit)
  {other : Nat} (reads : RoundsTo (other * unit) number)

include unitPos scaled reads

/-- With a multiple below a number its neighbour below rounds to it. -/
theorem roundsTo_wholePart (nonneg : 0 ≤ multiple) (below : other ≤ wholePart multiple) :
    RoundsTo (wholePart multiple * unit) number := by
  have first : (other : Rat) ≤ wholePart multiple := Nat.cast_le.mpr below
  refine roundsTo_of_between finite nonzero reads (.inr ⟨?_, ?_⟩)
  · exact mul_le_mul_of_nonneg_right first unitPos.le
  · rw [scaled]
    exact mul_le_mul_of_nonneg_right (wholePart_le nonneg) unitPos.le

/-- With a multiple above a number its neighbour above rounds to it. -/
theorem roundsTo_wholePart_add_one (above : wholePart multiple + 1 ≤ other) :
    RoundsTo ((wholePart multiple + 1 : Nat) * unit) number := by
  have last : ((wholePart multiple + 1 : Nat) : Rat) ≤ other := Nat.cast_le.mpr above
  refine roundsTo_of_between finite nonzero reads (.inl ⟨?_, ?_⟩)
  · rw [scaled]
    have high := lt_wholePart_add_one multiple
    exact mul_le_mul_of_nonneg_right (by push_cast; exact high.le) unitPos.le
  · exact mul_le_mul_of_nonneg_right last unitPos.le

end Grid

/-! ## Trying a grid -/

theorem shortest_eq (tie : Tie) (number : Double) :
    number.shortest tie =
      if number.rank = 0 then ⟨number.negative, 0, 0⟩
      else ((List.range 19).findSome? fun (step : Nat) =>
        number.onGrid? tie (step - 1 - number.exact.magnitude)).getD number.exact := by
  rw [shortest]
  simp only [List.findSome?_map, Function.comp_def]

theorem magnitude_exact {number : Double} (nonzero : 0 < number.rank) :
    10 ^ number.exact.magnitude ≤ number.size ∧
      number.size < 10 ^ (number.exact.magnitude + 1) := by
  have positive : 0 < number.size := size_eq_rowSize number ▸ rowSize_pos nonzero
  rw [← size_exact] at positive ⊢
  exact Decimal.magnitude_spec (Decimal.coefficient_pos positive)

section Trying

variable {tie : Tie} {number : Double} {scale : Int}

section Neighbours

variable {multiple : Rat} (multipleIs : number.size * 10 ^ scale = multiple)

include multipleIs

/-- The nearer neighbour of the number is tried on a grid, and then the farther one. -/
theorem onGrid?_eq (tie : Tie) :
    number.onGrid? tie scale =
      ([tie.round multiple,
        if tie.round multiple = wholePart multiple then wholePart multiple + 1
        else wholePart multiple].map (Decimal.ofScaled number.negative · scale)).find?
          fun candidate => ofDecimal candidate = number := by
  rw [← multipleIs]
  rfl

theorem onGrid?_cases {d : Decimal} (found : number.onGrid? tie scale = some d) :
    ∃ taken, d = .ofScaled number.negative taken scale ∧
      (taken = tie.round multiple ∨
        ofDecimal (.ofScaled number.negative (tie.round multiple) scale) ≠ number ∧
          (tie.round multiple = wholePart multiple ∧ taken = wholePart multiple + 1 ∨
            tie.round multiple = wholePart multiple + 1 ∧ taken = wholePart multiple)) := by
  rw [onGrid?_eq multipleIs, List.map_cons, List.map_cons, List.find?_cons_eq_some,
    List.find?_cons_eq_some] at found
  rcases found with ⟨_, rfl⟩ | ⟨missed, ⟨_, rfl⟩ | ⟨_, nothing⟩⟩
  · exact ⟨_, rfl, .inl rfl⟩
  · refine ⟨_, rfl, .inr ⟨by simpa using missed, ?_⟩⟩
    rcases tie.round_eq_or multiple with down | up
    · exact .inl ⟨down, if_pos down⟩
    · exact .inr ⟨up, if_neg (by omega)⟩
  · cases nothing

theorem ofDecimal_ne_of_onGrid? (nothing : number.onGrid? tie scale = none) {taken : Nat}
    (neighbour : taken = wholePart multiple ∨ taken = wholePart multiple + 1) :
    ofDecimal (.ofScaled number.negative taken scale) ≠ number := by
  rw [onGrid?_eq multipleIs, List.find?_eq_none] at nothing
  have fails := nothing (.ofScaled number.negative taken scale) (List.mem_map_of_mem (by
    rw [List.mem_pair]
    rcases tie.round_eq_or multiple with down | up
    · rw [if_pos down, down]
      exact neighbour
    · rw [if_neg (by omega), up]
      exact neighbour.symm))
  simpa using fails

end Neighbours

theorem size_eq_mul (number : Double) (scale : Int) :
    number.size = number.size * 10 ^ scale * 10 ^ (-scale) := by
  rw [mul_assoc, ← zpow_add₀ (by norm_num), add_neg_cancel, zpow_zero, mul_one]

variable (finite : number.rank < rowLength) (nonzero : 0 < number.rank)

include finite nonzero

/-- Where neither neighbour rounds to the number, nothing on the grid does. -/
theorem not_roundsTo_of_onGrid? (nothing : number.onGrid? tie scale = none) (other : Nat) :
    ¬RoundsTo (other * 10 ^ (-scale)) number := by
  intro reads
  have unitPos : (0 : Rat) < 10 ^ (-scale) := by positivity
  have scaled := size_eq_mul number scale
  have nonneg : 0 ≤ number.size * 10 ^ scale :=
    mul_nonneg (size_eq_rowSize number ▸ rowSize_nonneg _) (by positivity)
  have missed {taken : Nat}
      (neighbour : taken = wholePart (number.size * 10 ^ scale) ∨
        taken = wholePart (number.size * 10 ^ scale) + 1) :
      ¬RoundsTo (taken * 10 ^ (-scale)) number :=
    (ofDecimal_ofScaled_iff finite _ _).not.mp (ofDecimal_ne_of_onGrid? rfl nothing neighbour)
  rcases Nat.lt_or_ge (wholePart (number.size * 10 ^ scale)) other with above | below
  · exact missed (.inr rfl)
      (roundsTo_wholePart_add_one finite nonzero unitPos scaled reads above)
  · exact missed (.inl rfl) (roundsTo_wholePart finite nonzero unitPos scaled reads nonneg below)

/-- What is found on a grid rounds to the number, and is the nearest there to do so. -/
theorem closest_of_onGrid? {d : Decimal} (found : number.onGrid? tie scale = some d) :
    ∃ taken : Nat, d = .ofScaled number.negative taken scale ∧
      RoundsTo (taken * 10 ^ (-scale)) number ∧
      ∀ other : Nat, RoundsTo (other * 10 ^ (-scale)) number →
        |number.size - taken * 10 ^ (-scale)| ≤ |number.size - other * 10 ^ (-scale)| ∧
          (|number.size - taken * 10 ^ (-scale)| = |number.size - other * 10 ^ (-scale)| →
            other = taken ∨ tie.Prefers taken other) := by
  obtain ⟨taken, rfl, choice⟩ := onGrid?_cases rfl found
  refine ⟨taken, rfl, (ofDecimal_ofScaled_iff finite _ _).mp (ofDecimal_of_onGrid? found), ?_⟩
  intro other reads
  have unitPos : (0 : Rat) < 10 ^ (-scale) := by positivity
  have scaled := size_eq_mul number scale
  have nonneg : 0 ≤ number.size * 10 ^ scale :=
    mul_nonneg (size_eq_rowSize number ▸ rowSize_nonneg _) (by positivity)
  generalize number.size * 10 ^ scale = multiple at choice scaled nonneg
  have distance (count : Nat) :
      |number.size - count * 10 ^ (-scale)| = |multiple - count| * 10 ^ (-scale) := by
    rw [scaled, ← sub_mul, abs_mul, abs_of_pos unitPos]
  suffices near : |multiple - taken| ≤ |multiple - other| ∧
      (|multiple - taken| = |multiple - other| → other = taken ∨ tie.Prefers taken other) by
    rw [distance, distance]
    exact ⟨mul_le_mul_of_nonneg_right near.1 unitPos.le,
      fun equal => near.2 (mul_right_cancel₀ unitPos.ne' equal)⟩
  rcases choice with rfl | ⟨missed, ⟨down, rfl⟩ | ⟨up, rfl⟩⟩
  · exact tie.abs_sub_round_le nonneg other
  · -- The neighbour below does not round to the number, so nothing below it does.
    rw [down, ne_eq, ofDecimal_ofScaled_iff finite] at missed
    have above : wholePart multiple + 1 ≤ other := Nat.lt_of_not_le fun below =>
      missed (roundsTo_wholePart finite nonzero unitPos scaled reads nonneg below)
    exact (abs_sub_wholePart_add_one_le above).imp_right (.inl <| · ·)
  · rw [up, ne_eq, ofDecimal_ofScaled_iff finite] at missed
    have below : other ≤ wholePart multiple := Nat.le_of_not_lt fun above =>
      missed (roundsTo_wholePart_add_one finite nonzero unitPos scaled reads above)
    exact (abs_sub_wholePart_le nonneg below).imp_right (.inl <| · ·)

/-! ## All grids -/

/-- On a grid with the seventeenth digit the nearer neighbour rounds to the number. -/
theorem onGrid?_ne_none {power : Int} (large : 10 ^ power ≤ number.size) :
    number.onGrid? tie (16 - power) ≠ none := by
  intro nothing
  refine not_roundsTo_of_onGrid? finite nonzero nothing
    (tie.round (number.size * 10 ^ (16 - power))) ?_
  have positive : 0 < number.size := size_eq_rowSize number ▸ rowSize_pos nonzero
  have scaled := size_eq_mul number (16 - power)
  have half := tie.abs_sub_round_le_half
    (show 0 ≤ number.size * 10 ^ (16 - power) by positivity)
  have unit : (10 : Rat) ^ (-(16 - power)) * 0x2386f26fc10000 = 10 ^ power := by
    have digits : (0x2386f26fc10000 : Rat) = 10 ^ (16 : Int) := by norm_num
    rw [digits, ← zpow_add₀ (by norm_num)]
    congr 1
    ring
  have unitPos : (0 : Rat) < 10 ^ (-(16 - power)) := by positivity
  generalize number.size * 10 ^ (16 - power) = multiple at scaled half ⊢
  generalize (10 : Rat) ^ (-(16 - power)) = step at scaled unit unitPos ⊢
  rw [roundsTo_iff_between finite]
  apply between_of_near nonzero
  rw [← size_eq_rowSize, abs_sub_comm]
  have error :
      |number.size - tie.round multiple * step| = |multiple - tie.round multiple| * step := by
    rw [scaled, ← sub_mul, abs_mul, abs_of_pos unitPos]
  rw [error]
  nlinarith

/-- Powers of ten that are far above a number have no multiple that rounds to it. -/
theorem not_roundsTo_of_far {power : Int} (far : 10 * number.size < 10 ^ power) (other : Nat) :
    ¬RoundsTo (other * 10 ^ power) number := by
  intro reads
  rw [roundsTo_iff_between finite] at reads
  have positive : 0 < number.size := size_eq_rowSize number ▸ rowSize_pos nonzero
  have bound := reads.le_three_halves nonzero
  have above := reads.pos nonzero
  rw [← size_eq_rowSize] at bound
  have one : (1 : Rat) ≤ other := by
    rcases Nat.eq_zero_or_pos other with rfl | counts
    · rw [Nat.cast_zero, zero_mul] at above
      exact absurd above (lt_irrefl _)
    · exact_mod_cast counts
  nlinarith

/-- The decimal that a number other than zero is written as stands for it. -/
theorem exists_standsFor (tie : Tie) : ∃ (coefficient : Nat) (power : Int),
    number.shortest tie = .ofScaled number.negative coefficient (-power) ∧
      StandsFor tie coefficient power number := by
  obtain ⟨low, high⟩ := magnitude_exact nonzero
  rw [shortest_eq, if_neg nonzero.ne']
  generalize number.exact.magnitude = magnitude at low high
  cases search : (List.range 19).findSome? fun (step : Nat) =>
      number.onGrid? tie (step - 1 - magnitude) with
  | none =>
    have missed := List.findSome?_eq_none_iff.mp search 17 (List.mem_range.mpr (by decide))
    exact absurd missed (onGrid?_ne_none finite nonzero low)
  | some d =>
    obtain ⟨step, _, found, missed⟩ := exists_first_of_findSome? search
    obtain ⟨taken, same, reads, closest⟩ := closest_of_onGrid? finite nonzero found
    refine ⟨taken, -(step - 1 - magnitude), ?_, reads, ?_, closest⟩
    · rw [Option.getD_some, neg_neg, same]
    · intro other greater readsOther
      by_contra coarser
      rcases le_or_gt greater (magnitude + 1) with tried | far
      · -- The grid was tried before, in vain.
        have before : ((magnitude + 1 - greater).toNat : Int) - 1 - magnitude = -greater := by omega
        have vain := missed (magnitude + 1 - greater).toNat (by omega)
        rw [before] at vain
        refine not_roundsTo_of_onGrid? finite nonzero vain other ?_
        rwa [neg_neg]
      · refine not_roundsTo_of_far finite nonzero ?_ other readsOther
        calc 10 * number.size < 10 * 10 ^ (magnitude + 1) := by linarith
          _ = 10 ^ (1 + (magnitude + 1)) := (zpow_one_add₀ (by norm_num) _).symm
          _ ≤ 10 ^ greater := zpow_le_zpow_right₀ (by norm_num) (by omega)

end Trying

/-- The decimal that stands for a number has the fewest digits of all that round to it. -/
theorem StandsFor.length_digits_le {tie : Tie} {number : Double} {coefficient : Nat} {power : Int}
    (stands : StandsFor tie coefficient power number) (finite : number.rank < rowLength)
    {other : Nat} {exponent : Int} (reads : RoundsTo (other * 10 ^ exponent) number) :
    (Nat.toDigits 10 coefficient).length ≤ (Nat.toDigits 10 other).length := by
  have ten : (10 : Rat) ≠ 0 := by norm_num
  obtain ⟨count, length⟩ : ∃ count, (Nat.toDigits 10 other).length = count := ⟨_, rfl⟩
  have counts : 0 < count := length ▸ Nat.length_toDigits_pos
  have small := (Nat.length_toDigits_le_iff (by decide) counts).mp length.le
  rw [length]
  by_contra longer
  rw [Nat.length_toDigits_le_iff (by decide) counts, not_lt] at longer
  -- The power of ten between the two decimals rounds to the number and is coarser than both.
  have between : RoundsTo ((1 : Nat) * 10 ^ (count + power)) number := by
    have shift : (10 : Rat) ^ (count + power) = (10 ^ count : Nat) * 10 ^ power := by
      rw [zpow_add₀ ten, zpow_natCast]
      push_cast
      rfl
    have first := stands.reads
    rw [roundsTo_iff_between finite] at first reads ⊢
    rw [Nat.cast_one, one_mul, shift]
    refine reads.of_le_of_le first ?_ ?_
    · have coarser := zpow_le_zpow_right₀ (show (1 : Rat) ≤ 10 by norm_num)
        (stands.coarsest _ _ ((roundsTo_iff_between finite).mpr reads))
      exact mul_le_mul (Nat.cast_le.mpr small.le) coarser (by positivity) (by positivity)
    · exact mul_le_mul_of_nonneg_right (Nat.cast_le.mpr longer) (by positivity)
  have bound := stands.coarsest _ _ between
  omega

end Double

end OperandStack
