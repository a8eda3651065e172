/-
Which numbers a decimal stands for. The magnitudes of doubles in ascending order
are numbered by their words, and between two neighbours there is a bound that
divides the reals that round to the one from those that round to the other. The
bound itself belongs to the one with the even significand. So a decimal in the
interval of two numbers is in that of one number, and the shortest decimal of a
number is in its interval.
-/
import CallGuard.Number.Shortest
import Mathlib.Order.Monotone.Basic
import Mathlib.Tactic.Linarith
import Mathlib.Tactic.Ring

namespace CallGuard

/-- The decimal as a numerator over `10 ^ Binary64.decimalBias`. -/
def Decimal.numerator (d : Decimal) : Nat :=
  d.coefficient * 10 ^ (d.exponent + Binary64.decimalBias).toNat

namespace Binary64

theorem tenPower_pos : 0 < 10 ^ decimalBias := Nat.pow_pos (by decide)

/-! ### Magnitudes in ascending order -/

/-- The word of the magnitude: all bits but the sign. -/
def word (x : Binary64) : Nat := x.bits.toNat % 2 ^ 63

variable {x : Binary64} {numerator fuel count : Nat} {i : Interval}

theorem eq_of_word {y : Binary64} (words : x.word = y.word) (signs : x.isNegative = y.isNegative) :
    x = y := by
  have small := x.bits.toNat_lt
  have small' := y.bits.toNat_lt
  have signs : 2 ^ 63 ≤ x.bits.toNat ↔ 2 ^ 63 ≤ y.bits.toNat := by
    rw [← decide_eq_decide]
    exact signs
  unfold word at words
  have same : x.bits.toNat = y.bits.toNat := by omega
  cases x
  cases y
  exact congrArg mk (UInt64.toNat_inj.mp same)

/-- The significand of a word. -/
def wordSignificand (word : Nat) : Nat :=
  if word / 2 ^ 52 = 0 then word % 2 ^ 52 else 2 ^ 52 + word % 2 ^ 52

/-- The exponent of the last place of a word, biased by 1075. -/
def wordScale (word : Nat) : Nat := max (word / 2 ^ 52) 1

/-- How far below a word the interval goes that rounds to it, in quarters of the last place. -/
def wordGap (word : Nat) : Nat := if word % 2 ^ 52 = 0 ∧ 1 < word / 2 ^ 52 then 1 else 2

/-- Bounds of intervals are scaled by this power of two, so that they are whole. -/
def binaryBias : Nat := 1077

/-- The lower bound of the interval that rounds to a word, times `2 ^ binaryBias`. -/
def lower (word : Nat) : Nat := (4 * wordSignificand word - wordGap word) * 2 ^ wordScale word

/-- The upper bound of the interval that rounds to a word, times `2 ^ binaryBias`. -/
def upper (word : Nat) : Nat := (4 * wordSignificand word + 2) * 2 ^ wordScale word

theorem fraction_eq (x : Binary64) : x.fraction = x.word % 2 ^ 52 := by
  rw [fraction, word, Nat.one_shiftLeft]
  omega

theorem exponent_eq (x : Binary64) : x.exponent = x.word / 2 ^ 52 := by
  have small := x.bits.toNat_lt
  rw [exponent, word, Nat.one_shiftLeft, Nat.shiftRight_eq_div_pow]
  omega

theorem significand_eq (x : Binary64) : x.significand = wordSignificand x.word := by
  rw [significand, wordSignificand, exponent_eq, fraction_eq, Nat.one_shiftLeft]

theorem scale_eq (x : Binary64) : x.scale = wordScale x.word := by
  rw [scale, wordScale, exponent_eq]

/-- Above a word the next one begins. -/
theorem lower_succ (word : Nat) : lower (word + 1) = upper word := by
  unfold lower upper wordSignificand wordGap wordScale
  by_cases carries : word % 2 ^ 52 + 1 = 2 ^ 52
  · have fraction : (word + 1) % 2 ^ 52 = 0 := by omega
    have exponent : (word + 1) / 2 ^ 52 = word / 2 ^ 52 + 1 := by omega
    rw [fraction, exponent]
    by_cases subnormal : word / 2 ^ 52 = 0
    · rw [subnormal]
      simp only [Nat.zero_add, Nat.lt_irrefl, and_false, if_false, if_true, Nat.one_ne_zero,
        Nat.max_self, Nat.zero_max]
      omega
    · have normal : 1 ≤ word / 2 ^ 52 := by omega
      have last : word % 2 ^ 52 = 2 ^ 52 - 1 := by omega
      rw [if_neg (Nat.succ_ne_zero _), if_pos ⟨rfl, by omega⟩, if_neg subnormal,
        Nat.max_eq_left normal, Nat.max_eq_left (by omega), last,
        show 2 ^ (word / 2 ^ 52 + 1) = 2 * 2 ^ (word / 2 ^ 52) from Nat.pow_succ', ← Nat.mul_assoc]
      congr 1
  · have fraction : (word + 1) % 2 ^ 52 = word % 2 ^ 52 + 1 := by omega
    have exponent : (word + 1) / 2 ^ 52 = word / 2 ^ 52 := by omega
    rw [fraction, exponent, if_neg (show ¬ (word % 2 ^ 52 + 1 = 0 ∧ _) by omega)]
    split <;> congr 1

theorem lower_lt_upper (word : Nat) : lower word < upper word := by
  have positive : 0 < 2 ^ wordScale word := Nat.two_pow_pos _
  refine Nat.mul_lt_mul_of_pos_right ?_ positive
  omega

theorem lower_strictMono : StrictMono lower :=
  strictMono_nat_of_lt_succ fun word => (lower_lt_upper word).trans_eq (lower_succ word).symm

/-! ### What rounds to a number -/

/-- The decimal with the given numerator over `10 ^ decimalBias` rounds to the word. -/
def Rounds (word numerator : Nat) : Prop :=
  (lower word * 10 ^ decimalBias < numerator * 2 ^ binaryBias ∨
    word % 2 = 0 ∧ lower word * 10 ^ decimalBias = numerator * 2 ^ binaryBias) ∧
  (numerator * 2 ^ binaryBias < upper word * 10 ^ decimalBias ∨
    word % 2 = 0 ∧ numerator * 2 ^ binaryBias = upper word * 10 ^ decimalBias)

/-- A decimal rounds to one number only. -/
theorem Rounds.unique {word word' : Nat} (rounds : Rounds word numerator)
    (rounds' : Rounds word' numerator) : word = word' := by
  have ordered {word word' : Nat} (rounds : Rounds word numerator)
      (rounds' : Rounds word' numerator) : ¬ word < word' := by
    intro less
    have between : upper word ≤ lower word' :=
      (lower_succ word).symm.trans_le (lower_strictMono.monotone less)
    have scaled := Nat.mul_le_mul_right (10 ^ decimalBias) between
    have touching : upper word * 10 ^ decimalBias = lower word' * 10 ^ decimalBias ∧
        word % 2 = 0 ∧ word' % 2 = 0 := by
      obtain ⟨-, above⟩ := rounds
      obtain ⟨below, -⟩ := rounds'
      generalize numerator * 2 ^ binaryBias = middle at above below
      generalize upper word * 10 ^ decimalBias = left at above scaled ⊢
      generalize lower word' * 10 ^ decimalBias = right at below scaled ⊢
      omega
    have bounds : upper word = lower word' :=
      Nat.eq_of_mul_eq_mul_right tenPower_pos touching.1
    have next : word + 1 = word' := lower_strictMono.injective ((lower_succ word).trans bounds)
    omega
  have first := ordered rounds rounds'
  have second := ordered rounds' rounds
  omega

/-! ### Intervals -/

/-- The multiple of the unit of the interval is in it. -/
structure Interval.Holds (i : Interval) (point : Nat) : Prop where
  below : i.below < point ∨ i.closed = true ∧ i.below = point
  above : point < i.above ∨ i.closed = true ∧ point = i.above

/-- Multiples of the unit of an interval of numbers, in numbers. -/
theorem interval_unit (x : Binary64) : ∃ unit, 0 < unit ∧
    x.interval.below = (4 * x.significand - wordGap x.word) * unit ∧
    x.interval.value = 4 * x.significand * unit ∧
    x.interval.above = (4 * x.significand + 2) * unit ∧
    unit * 2 ^ binaryBias = x.interval.denominator * 2 ^ x.scale * 10 ^ decimalBias := by
  have power (exponent : Nat) : Nat.pow 10 exponent = 10 ^ exponent := rfl
  unfold interval
  dsimp only
  rw [power, Nat.one_shiftLeft, Nat.one_shiftLeft]
  refine ⟨(if 1077 ≤ x.scale then 2 ^ (x.scale - 1077) else 1) * 10 ^ decimalBias, ?_, ?_, rfl, rfl,
    ?_⟩
  · refine Nat.mul_pos ?_ tenPower_pos
    split
    · exact Nat.two_pow_pos _
    · decide
  · rw [wordGap, ← fraction_eq, ← exponent_eq]
  · split
    · rename_i large
      have places : x.scale - 1077 + binaryBias = x.scale := Nat.sub_add_cancel large
      rw [Nat.one_mul, Nat.mul_right_comm, ← Nat.pow_add, places]
    · rename_i small
      have places : 1077 - x.scale + x.scale = binaryBias := Nat.sub_add_cancel (by omega)
      rw [Nat.one_mul, ← Nat.pow_add, places, Nat.mul_comm]

theorem denominator_pos (x : Binary64) : 0 < x.interval.denominator := by
  dsimp only [interval]
  rw [Nat.one_shiftLeft]
  split
  · decide
  · exact Nat.two_pow_pos _

theorem significand_mod (x : Binary64) : x.significand % 2 = x.word % 2 := by
  rw [significand_eq, wordSignificand]
  split <;> omega

theorem closed_iff (x : Binary64) : x.interval.closed = true ↔ x.word % 2 = 0 := by
  show decide (x.significand % 2 = 0) = true ↔ _
  rw [decide_eq_true_eq, significand_mod]

/-- What is in the interval of a number rounds to it. -/
theorem rounds_of_holds (holds : x.interval.Holds (x.interval.denominator * numerator)) :
    Rounds x.word numerator := by
  obtain ⟨unit, -, below, -, above, units⟩ := x.interval_unit
  have lowerBound : x.interval.below * 2 ^ binaryBias =
      x.interval.denominator * (lower x.word * 10 ^ decimalBias) := by
    rw [below, lower, ← significand_eq, ← scale_eq, Nat.mul_assoc, units]
    ring
  have upperBound : x.interval.above * 2 ^ binaryBias =
      x.interval.denominator * (upper x.word * 10 ^ decimalBias) := by
    rw [above, upper, ← significand_eq, ← scale_eq, Nat.mul_assoc, units]
    ring
  have point : x.interval.denominator * numerator * 2 ^ binaryBias =
      x.interval.denominator * (numerator * 2 ^ binaryBias) := Nat.mul_assoc _ _ _
  -- Both sides of a comparison may be multiplied by the denominator and the power of two.
  have cross {a b c d : Nat} (left : a * 2 ^ binaryBias = x.interval.denominator * c)
      (right : b * 2 ^ binaryBias = x.interval.denominator * d) :
      (a < b → c < d) ∧ (a = b → c = d) := by
    have positive : 0 < 2 ^ binaryBias := Nat.two_pow_pos _
    constructor
    · intro less
      have scaled := Nat.mul_lt_mul_of_pos_right less positive
      rw [left, right] at scaled
      exact Nat.lt_of_mul_lt_mul_left scaled
    · rintro rfl
      exact Nat.eq_of_mul_eq_mul_left x.denominator_pos (left.symm.trans right)
  refine ⟨holds.below.imp (cross lowerBound point).1 ?_, holds.above.imp (cross point upperBound).1 ?_⟩
  · exact fun ⟨closed, same⟩ => ⟨x.closed_iff.mp closed, (cross lowerBound point).2 same⟩
  · exact fun ⟨closed, same⟩ => ⟨x.closed_iff.mp closed, (cross point upperBound).2 same⟩

/-! ### The shortest decimal -/

/-- A neighbour that is found is in the interval. -/
theorem Interval.holds_of_neighbour {step found : Nat} (below : i.below < i.value)
    (above : i.value < i.above) (positive : 0 < step) (hit : i.neighbour step = some found) :
    i.Holds (found * step) := by
  have floor : i.value / step * step ≤ i.value := Nat.div_mul_le_self _ _
  have ceiling : i.value < (i.value / step + 1) * step := by
    rw [Nat.mul_comm]
    exact Nat.lt_mul_div_succ i.value positive
  have lower (fits : (i.below < i.value / step * step || (i.closed && i.below == i.value / step * step)) = true) :
      i.Holds (i.value / step * step) := by
    simp only [Bool.or_eq_true, decide_eq_true_eq, Bool.and_eq_true, beq_iff_eq] at fits
    exact ⟨fits, .inl (by omega)⟩
  have upper (fits : ((i.value / step + 1) * step < i.above || (i.closed && (i.value / step + 1) * step == i.above)) = true) :
      i.Holds ((i.value / step + 1) * step) := by
    simp only [Bool.or_eq_true, decide_eq_true_eq, Bool.and_eq_true, beq_iff_eq] at fits
    exact ⟨.inl (by omega), fits⟩
  unfold neighbour at hit
  dsimp only at hit
  split at hit
  · rename_i both
    rw [Bool.and_eq_true] at both
    cases hit
    split
    · exact lower both.1
    · exact upper both.2
  · split at hit
    · rename_i fits
      cases hit
      exact lower fits
    · split at hit
      · rename_i fits
        cases hit
        exact upper fits
      · cases hit

/-- The decimal that a search comes to is in the interval, whether a grid had a hit or not. -/
theorem Interval.holds_of_search (positive : 0 < i.denominator) (below : i.below < i.value)
    (above : i.value < i.above) (fine : i.below < i.value / i.denominator * i.denominator)
    {places : Nat} (enough : count + fuel ≤ places + 1) :
    i.Holds (i.denominator * (i.search places fuel count).numerator) := by
  induction fuel generalizing count with
  | zero =>
    have floor : i.value / i.denominator * i.denominator ≤ i.value := Nat.div_mul_le_self _ _
    have numerator : (i.search places 0 count).numerator = i.value / i.denominator := by
      have exponent : (-(decimalBias : Int) + decimalBias).toNat = 0 := by omega
      rw [search, Decimal.numerator, exponent, Nat.pow_zero, Nat.mul_one]
    rw [numerator, Nat.mul_comm]
    exact ⟨.inl fine, .inl (floor.trans_lt above)⟩
  | succ fuel ih =>
    rw [search]
    cases hit : i.neighbour (i.denominator * 10 ^ (places - count)) with
    | none => exact ih (by omega)
    | some found =>
      have holds := holds_of_neighbour below above
        (Nat.mul_pos positive (Nat.pow_pos (by decide))) hit
      have numerator : (if found = 10 ^ count then (⟨1, (places : Int) - decimalBias⟩ : Decimal)
          else ⟨found, (places : Int) - count - decimalBias⟩).numerator =
            found * 10 ^ (places - count) := by
        split
        · rename_i power
          have exponent : ((places : Int) - decimalBias + decimalBias).toNat = places := by omega
          rw [Decimal.numerator, exponent, power, Nat.one_mul, ← Nat.pow_add]
          congr 1
          omega
        · have exponent : ((places : Int) - count - decimalBias + decimalBias).toNat =
              places - count := by omega
          rw [Decimal.numerator, exponent]
      show i.Holds (i.denominator * Decimal.numerator (if found = 10 ^ count then _ else _))
      rw [numerator, Nat.mul_left_comm]
      exact holds

/-- The exponent of a decimal that a search comes to is not below the bias. -/
theorem Interval.exponent_search (i : Interval) {places : Nat}
    (enough : count + fuel ≤ places + 1) :
    -(decimalBias : Int) ≤ (i.search places fuel count).exponent := by
  induction fuel generalizing count with
  | zero => exact Int.le_refl _
  | succ fuel ih =>
    rw [search]
    split
    · split
      · show -(decimalBias : Int) ≤ (places : Int) - decimalBias
        omega
      · show -(decimalBias : Int) ≤ (places : Int) - count - decimalBias
        omega
    · exact ih (by omega)

/-- The unit of an interval is large compared to its denominator. -/
theorem bias_large : 2 ^ binaryBias * 10 ^ 17 < 10 ^ decimalBias := by decide +kernel

theorem significand_pos (nonzero : x.isZero = false) : 0 < x.significand := by
  have nonzero : ¬ (x.exponent = 0 ∧ x.fraction = 0) := of_decide_eq_false nonzero
  unfold significand
  split
  · rename_i subnormal
    exact Nat.pos_of_ne_zero fun zero => nonzero ⟨subnormal, zero⟩
  · exact Nat.add_pos_left (by decide) _

theorem wordGap_pos (word : Nat) : 0 < wordGap word := by
  unfold wordGap
  split <;> decide

/-- What a search for a shortest decimal starts from. -/
structure Interval.Searchable (i : Interval) : Prop where
  positive : 0 < i.denominator
  below : i.below < i.value
  above : i.value < i.above
  fine : i.below < i.value / i.denominator * i.denominator
  places : 18 ≤ (Decimal.digits (i.value / i.denominator)).length

theorem searchable (nonzero : x.isZero = false) : x.interval.Searchable := by
  obtain ⟨unit, positive, below, value, above, units⟩ := x.interval_unit
  have denominator := x.denominator_pos
  have significand := significand_pos nonzero
  have gap := wordGap_pos x.word
  have large : x.interval.denominator * 10 ^ 17 < unit := by
    refine Nat.lt_of_mul_lt_mul_right (a := 2 ^ binaryBias) ?_
    calc x.interval.denominator * 10 ^ 17 * 2 ^ binaryBias
        = x.interval.denominator * (2 ^ binaryBias * 10 ^ 17) := by ring
      _ < x.interval.denominator * 10 ^ decimalBias :=
          Nat.mul_lt_mul_of_pos_left bias_large denominator
      _ ≤ x.interval.denominator * 2 ^ x.scale * 10 ^ decimalBias :=
          Nat.mul_le_mul_right _ (Nat.le_mul_of_pos_right _ (Nat.two_pow_pos _))
      _ = unit * 2 ^ binaryBias := units.symm
  have low : x.interval.below + unit ≤ x.interval.value := by
    rw [below, value, ← Nat.succ_mul]
    exact Nat.mul_le_mul_right unit (by omega)
  have high : x.interval.value + unit ≤ x.interval.above := by
    rw [above, value, ← Nat.succ_mul]
    exact Nat.mul_le_mul_right unit (by omega)
  have ceiling : x.interval.value < x.interval.value / x.interval.denominator *
      x.interval.denominator + x.interval.denominator := by
    rw [← Nat.succ_mul, Nat.mul_comm]
    exact Nat.lt_mul_div_succ _ denominator
  have unitLarge : x.interval.denominator < unit := by omega
  refine ⟨denominator, by omega, by omega, by omega, ?_⟩
  by_contra few
  have short : x.interval.value / x.interval.denominator < 10 ^ 17 :=
    (Nat.length_toDigits_le_iff (by decide) (by decide)).mp (by unfold Decimal.digits at few; omega)
  have small := (Nat.div_lt_iff_lt_mul denominator).mp short
  omega

theorem shortest_of_isZero (zero : x.isZero = true) : x.shortest = ⟨0, 0⟩ := by
  rw [shortest, if_pos zero]

theorem exists_search (nonzero : x.isZero = false) :
    ∃ places, 18 ≤ places ∧ x.shortest = x.interval.search places 17 1 := by
  refine ⟨_, (searchable nonzero).places, ?_⟩
  rw [shortest, if_neg (by rw [nonzero]; exact Bool.false_ne_true)]

/-- The shortest decimal of a number rounds to it. -/
theorem rounds_shortest (x : Binary64) : Rounds x.word x.shortest.numerator := by
  cases zero : x.isZero with
  | true =>
    have fields : x.exponent = 0 ∧ x.fraction = 0 := of_decide_eq_true zero
    have word : x.word = 0 := by
      rw [exponent_eq, fraction_eq] at fields
      omega
    have numerator : (⟨0, 0⟩ : Decimal).numerator = 0 := by rw [Decimal.numerator, Nat.zero_mul]
    have low : lower 0 = 0 := rfl
    have high : 0 < upper 0 := by decide
    rw [shortest_of_isZero zero, numerator, word, Rounds, low, Nat.zero_mul, Nat.zero_mul]
    refine ⟨.inr ⟨rfl, rfl⟩, .inl ?_⟩
    exact Nat.mul_pos high tenPower_pos
  | false =>
    have start := searchable zero
    obtain ⟨places, enough, found⟩ := exists_search zero
    rw [found]
    exact rounds_of_holds (Interval.holds_of_search start.positive start.below start.above
      start.fine (by omega))

theorem exponent_shortest (x : Binary64) : -(decimalBias : Int) ≤ x.shortest.exponent := by
  cases zero : x.isZero with
  | true =>
    rw [shortest_of_isZero zero]
    show -(decimalBias : Int) ≤ 0
    omega
  | false =>
    obtain ⟨places, enough, found⟩ := exists_search zero
    rw [found]
    exact Interval.exponent_search _ (by omega)

/-! ### Whole numbers -/

theorem ratio_eq (x : Binary64) :
    x.ratio = if 1075 ≤ x.scale then (x.significand * 2 ^ (x.scale - 1075), 1)
      else (x.significand, 2 ^ (1075 - x.scale)) := by
  rw [ratio, Nat.shiftLeft_eq, Nat.one_shiftLeft]

theorem ratio_pos (x : Binary64) : 0 < x.ratio.2 := by
  rw [ratio_eq]
  split
  · exact Nat.one_pos
  · exact Nat.two_pow_pos _

/-- What the ratio of a number is worth. -/
theorem ratio_scaled (x : Binary64) :
    x.ratio.1 * 2 ^ binaryBias = x.ratio.2 * (4 * x.significand * 2 ^ x.scale) := by
  have power (exponent : Nat) : 2 ^ (exponent + 2) = 4 * 2 ^ exponent := by
    rw [Nat.pow_add, Nat.mul_comm]
  rw [ratio_eq]
  split
  · rename_i large
    have places : x.scale - 1075 + binaryBias = x.scale + 2 := by
      show x.scale - 1075 + 1077 = x.scale + 2
      omega
    rw [Nat.mul_assoc, ← Nat.pow_add, places, power]
    ring
  · rename_i small
    have places : 1075 - x.scale + x.scale + 2 = binaryBias := by
      show 1075 - x.scale + x.scale + 2 = 1077
      omega
    rw [← places, power, Nat.pow_add]
    ring

/-- A number without fractional part is in its own interval. -/
theorem rounds_whole (whole : x.ratio.1 % x.ratio.2 = 0) :
    Rounds x.word (x.ratio.1 / x.ratio.2 * 10 ^ decimalBias) := by
  have exact : x.ratio.1 / x.ratio.2 * 2 ^ binaryBias = 4 * x.significand * 2 ^ x.scale := by
    refine Nat.eq_of_mul_eq_mul_left x.ratio_pos ?_
    rw [← x.ratio_scaled, ← Nat.mul_assoc, Nat.mul_div_cancel' (Nat.dvd_of_mod_eq_zero whole)]
  have scaled : x.ratio.1 / x.ratio.2 * 10 ^ decimalBias * 2 ^ binaryBias =
      4 * x.significand * 2 ^ x.scale * 10 ^ decimalBias := by
    rw [Nat.mul_right_comm, exact]
  have positive := Nat.two_pow_pos x.scale
  have gap := wordGap_pos x.word
  rw [Rounds, scaled, lower, upper, ← significand_eq, ← scale_eq]
  refine ⟨?_, .inl ?_⟩
  · rcases Nat.eq_zero_or_pos x.significand with zero | nonzero
    · rw [zero]
      simp only [Nat.mul_zero, Nat.zero_sub, Nat.zero_mul]
      exact .inr ⟨by rw [← significand_mod, zero], trivial⟩
    · refine .inl (Nat.mul_lt_mul_of_pos_right (Nat.mul_lt_mul_of_pos_right ?_ positive)
        tenPower_pos)
      omega
  · refine Nat.mul_lt_mul_of_pos_right (Nat.mul_lt_mul_of_pos_right ?_ positive) tenPower_pos
    omega

/-- A number has no fractional part if a whole number is in its interval. -/
theorem whole_of_rounds {number : Nat} (rounds : Rounds x.word (number * 10 ^ decimalBias)) :
    x.ratio.1 % x.ratio.2 = 0 := by
  have cancel {a b : Nat} (less : a * 10 ^ decimalBias ≤ b * 10 ^ decimalBias) : a ≤ b :=
    Nat.le_of_mul_le_mul_right less tenPower_pos
  have low : lower x.word ≤ number * 2 ^ binaryBias := by
    refine cancel ?_
    rw [Nat.mul_right_comm]
    exact rounds.1.elim Nat.le_of_lt fun ends => ends.2.le
  have high : number * 2 ^ binaryBias ≤ upper x.word := by
    refine cancel ?_
    rw [Nat.mul_right_comm]
    exact rounds.2.elim Nat.le_of_lt fun ends => ends.2.le
  rw [lower, ← significand_eq, ← scale_eq] at low
  rw [upper, ← significand_eq, ← scale_eq] at high
  by_cases large : 1075 ≤ x.scale
  · rw [ratio_eq, if_pos large]
    exact Nat.mod_one _
  · have places : binaryBias = 1075 - x.scale + 2 + x.scale := by
      show 1077 = 1075 - x.scale + 2 + x.scale
      omega
    have power : 2 ^ (1075 - x.scale + 2) = 4 * 2 ^ (1075 - x.scale) := by
      rw [Nat.pow_add, Nat.mul_comm]
    rw [places, Nat.pow_add, ← Nat.mul_assoc] at low high
    have low := Nat.le_of_mul_le_mul_right low (Nat.two_pow_pos _)
    have high := Nat.le_of_mul_le_mul_right high (Nat.two_pow_pos _)
    rw [power, Nat.mul_left_comm] at low high
    have gap : wordGap x.word ≤ 2 := by
      unfold wordGap
      split <;> decide
    have exact : x.significand = number * 2 ^ (1075 - x.scale) := by omega
    rw [ratio_eq, if_neg large, exact]
    exact Nat.mul_mod_left _ _

end Binary64

end CallGuard
