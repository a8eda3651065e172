/-
Literals that are written the same can stand in for each other, as long as each
class and each instance in them is the only one that is written so. The digits
of a number tell which number it is: a decimal rounds to one number only, and a
float is always written with a point where an integer has none. What is not a
number equals nothing, so it does not matter which one it is.
-/
import CallGuard.Proofs.Resemblance
import CallGuard.Proofs.Rounding
import CallGuard.Proofs.Twin
import Mathlib.Data.List.TakeWhile

namespace CallGuard

open List Decimal Binary64

/-! ### Reading digits -/

namespace Decimal

/-- The digits with a point, as a numerator over `10 ^ decimalBias`. -/
def read (chars : List Char) : Nat :=
  let places := (chars.dropWhile (· != '.')).tail
  Nat.ofDigitChars 10 (chars.takeWhile (· != '.') ++ places) 0 *
    10 ^ (decimalBias - places.length)

theorem ofDigitChars_zeros (zeros number : Nat) :
    Nat.ofDigitChars 10 (replicate zeros '0') number = number * 10 ^ zeros := by
  induction zeros generalizing number with
  | zero => exact (Nat.mul_one number).symm
  | succ zeros ih =>
    rw [replicate_succ, Nat.ofDigitChars_cons, ih, Nat.pow_succ, Nat.sub_self, Nat.add_zero]
    ring

theorem isDigit_ne_point {c : Char} (digit : c.isDigit = true) : (c != '.') = true := by
  rw [bne_iff_ne]
  rintro rfl
  cases digit

theorem read_whole {chars : List Char} (digits : ∀ c ∈ chars, c.isDigit = true) :
    read chars = Nat.ofDigitChars 10 chars 0 * 10 ^ decimalBias := by
  have all : ∀ c ∈ chars, (c != '.') = true := fun c member => isDigit_ne_point (digits c member)
  have taken : chars.takeWhile (· != '.') = chars := takeWhile_eq_self_iff.mpr all
  have dropped : chars.dropWhile (· != '.') = [] := dropWhile_eq_nil_iff.mpr all
  rw [read, taken, dropped, tail_nil, append_nil, length_nil, Nat.sub_zero]

theorem read_pointed {before after : List Char} (digits : ∀ c ∈ before, c.isDigit = true) :
    read (before ++ '.' :: after) = Nat.ofDigitChars 10 (before ++ after) 0 *
      10 ^ (decimalBias - after.length) := by
  have all : ∀ c ∈ before, (c != '.') = true := fun c member => isDigit_ne_point (digits c member)
  have taken : (before ++ '.' :: after).takeWhile (· != '.') = before := by
    rw [takeWhile_append_of_pos all]
    simp
  have dropped : (before ++ '.' :: after).dropWhile (· != '.') = '.' :: after := by
    rw [dropWhile_append_of_pos all]
    simp
  rw [read, taken, dropped, tail_cons]

/-- The digits of a decimal can be read back. -/
theorem read_positional {d : Decimal} (fits : -(decimalBias : Int) ≤ d.exponent) :
    read d.positional = d.numerator := by
  obtain ⟨coefficient, exponent⟩ := d
  have digit : ∀ c ∈ digits coefficient, c.isDigit = true :=
    fun c member => Nat.isDigit_of_mem_toDigits (by decide) (by decide) member
  have zero (zeros : Nat) : ∀ c ∈ replicate zeros '0', c.isDigit = true :=
    fun c member => eq_of_mem_replicate member ▸ rfl
  have number : Nat.ofDigitChars 10 (digits coefficient) 0 = coefficient :=
    Nat.ofDigitChars_toDigits (by decide) (by decide)
  cases exponent with
  | ofNat zeros =>
    have places : ((zeros : Int) + decimalBias).toNat = zeros + decimalBias := by
      omega
    show read (if coefficient = 0 then ['0'] else digits coefficient ++ replicate zeros '0') =
      coefficient * 10 ^ ((zeros : Int) + decimalBias).toNat
    rw [places]
    split
    · rename_i none
      have nothing : Nat.ofDigitChars 10 ['0'] 0 = 0 := rfl
      rw [none, read_whole (by decide), nothing, Nat.zero_mul, Nat.zero_mul]
    · have all : ∀ c ∈ digits coefficient ++ replicate zeros '0', c.isDigit = true :=
        fun c member => (mem_append.mp member).elim (digit c) (zero zeros c)
      rw [read_whole all, Nat.ofDigitChars_append, number, ofDigitChars_zeros, Nat.pow_add,
        Nat.mul_assoc]
  | negSucc decimals =>
    have few : decimals + 1 ≤ decimalBias := by
      have fits : -(decimalBias : Int) ≤ Int.negSucc decimals := fits
      omega
    have places : (Int.negSucc decimals + decimalBias).toNat =
        decimalBias - (decimals + 1) := by omega
    show read (pointed (decimals + 1) (digits coefficient)) =
      coefficient * 10 ^ (Int.negSucc decimals + decimalBias).toNat
    rw [places, pointed]
    generalize padding : decimals + 1 + 1 - (digits coefficient).length = zeros
    have all : ∀ c ∈ replicate zeros '0' ++ digits coefficient, c.isDigit = true :=
      fun c member => (mem_append.mp member).elim (zero zeros c) (digit c)
    have value : Nat.ofDigitChars 10 (replicate zeros '0' ++ digits coefficient) 0 =
        coefficient := by
      rw [Nat.ofDigitChars_append, ofDigitChars_zeros, Nat.zero_mul, number]
    have size : decimals + 1 ≤ (replicate zeros '0' ++ digits coefficient).length := by
      rw [length_append, length_replicate]
      omega
    rw [read_pointed fun c member => all c (mem_of_mem_take member), take_append_drop,
      value, length_drop, Nat.sub_sub_self size]

/-- A point is written exactly if there are decimal places. -/
theorem point_mem_positional {d : Decimal} : '.' ∈ d.positional ↔ d.exponent < 0 := by
  obtain ⟨coefficient, exponent⟩ := d
  cases exponent with
  | ofNat zeros =>
    refine ⟨fun member => ?_,
      fun negative => absurd negative (Int.not_lt.mpr (Int.natCast_nonneg zeros))⟩
    have digit : ∀ c ∈ (⟨coefficient, .ofNat zeros⟩ : Decimal).positional, c.isDigit = true := by
      show ∀ c ∈ (if coefficient = 0 then ['0'] else _), c.isDigit = true
      split
      · decide
      · intro c member
        rcases mem_append.mp member with digit | zero
        · exact Value.isDigit_of_mem_digits digit
        · exact eq_of_mem_replicate zero ▸ rfl
    cases digit '.' member
  | negSucc decimals =>
    exact ⟨fun _ => Int.negSucc_lt_zero decimals, fun _ => mem_append_right _ mem_cons_self⟩

/-- Digits behind a sign, if there is one. -/
def signed (negative : Bool) (chars : List Char) : List Char :=
  if negative then '-' :: chars else chars

/-- A signed decimal can be told from its text. -/
theorem signed_positional_inj {negative negative' : Bool} {d d' : Decimal}
    (same : signed negative d.positional = signed negative' d'.positional) :
    negative = negative' ∧ d.positional = d'.positional := by
  have unsigned (d d' : Decimal) : '-' :: d.positional ≠ d'.positional := by
    intro same
    have sign : '-' ∈ d'.positional := same ▸ mem_cons_self
    rcases Value.mem_positional sign with digit | point
    · cases digit
    · cases point
  cases negative <;> cases negative'
  · exact ⟨rfl, same⟩
  · exact absurd same.symm (unsigned d' d)
  · exact absurd same (unsigned d d')
  · exact ⟨rfl, (cons.inj same).2⟩

end Decimal

/-! ### Numbers -/

namespace Binary64

/-- The decimal is one that the number is written as: it rounds to the number. -/
structure WrittenAs (x : Binary64) (d : Decimal) (chars : List Char) : Prop where
  text : chars = signed x.isNegative d.positional
  fits : -(decimalBias : Int) ≤ d.exponent
  rounds : Rounds x.word d.numerator

/-- A text tells which number was written. -/
theorem WrittenAs.unique {x y : Binary64} {d d' : Decimal} {chars : List Char}
    (written : x.WrittenAs d chars) (written' : y.WrittenAs d' chars) : x = y := by
  obtain ⟨signs, digits⟩ := signed_positional_inj (written.text.symm.trans written'.text)
  have numerators : d.numerator = d'.numerator := by
    rw [← read_positional written.fits, digits, read_positional written'.fits]
  have rounds := written'.rounds
  rw [← numerators] at rounds
  exact eq_of_word (written.rounds.unique rounds) signs

theorem writtenAs_text {x : Binary64} (number : x.isNaN = false) (finite : x.isInfinite = false) :
    x.WrittenAs x.shortest x.text.toList where
  text := by simp [text, number, finite, signed]
  fits := x.exponent_shortest
  rounds := x.rounds_shortest

/-- A whole number with one decimal place. -/
theorem positional_whole (number : Nat) :
    (⟨10 * number, -1⟩ : Decimal).positional = digits number ++ ['.', '0'] := by
  show pointed 1 (digits (10 * number)) = _
  rcases Nat.eq_zero_or_pos number with rfl | positive
  · rfl
  · have shifted : digits (10 * number) = digits number ++ ['0'] :=
      (Nat.toDigits_append_toDigits (b := 10) (d := 0) (by decide) positive (by decide)).symm
    have size : 0 < (digits number).length :=
      length_pos_iff.mpr Nat.toDigits_ne_nil
    have padding : 1 + 1 - (digits number ++ ['0']).length = 0 := by
      rw [length_append]
      show 1 + 1 - ((digits number).length + 1) = 0
      omega
    rw [shifted, pointed, padding]
    simp

theorem numerator_whole (number : Nat) :
    (⟨10 * number, -1⟩ : Decimal).numerator = number * 10 ^ decimalBias := by
  have place : 1 ≤ decimalBias := by decide
  have exponent : (-1 + (decimalBias : Int)).toNat + 1 = decimalBias := by omega
  show 10 * number * 10 ^ (-1 + (decimalBias : Int)).toNat = _
  rw [Nat.mul_comm 10, Nat.mul_assoc, ← Nat.pow_succ', Nat.succ_eq_add_one, exponent]

variable {x : Binary64}

/-- A number whose decimal has no places has no fractional part. -/
theorem whole_of_exponent (nonnegative : 0 ≤ x.shortest.exponent) :
    x.ratio.1 % x.ratio.2 = 0 := by
  have rounds := x.rounds_shortest
  have split : x.shortest.numerator =
      x.shortest.coefficient * 10 ^ x.shortest.exponent.toNat * 10 ^ decimalBias := by
    have exponent : (x.shortest.exponent + decimalBias).toNat =
        x.shortest.exponent.toNat + decimalBias := by omega
    rw [numerator, exponent, Nat.pow_add, Nat.mul_assoc]
  rw [split] at rounds
  exact whole_of_rounds rounds

/-- A finite float is written with a point. -/
theorem exists_writtenAs (number : x.isNaN = false) (finite : x.isInfinite = false) :
    ∃ d : Decimal, d.exponent < 0 ∧ x.WrittenAs d (Value.floatText x).toList := by
  have isFinite : x.isFinite = true := by
    simp only [isNaN, isInfinite, decide_eq_false_iff_not] at number finite
    exact decide_eq_true fun largest => number ⟨largest, fun zero => finite ⟨largest, zero⟩⟩
  have integral : x.isIntegral = true ↔ x.ratio.1 % x.ratio.2 = 0 := by
    rw [isIntegral, isFinite, Bool.true_and, beq_iff_eq]
  unfold Value.floatText
  split
  · rename_i whole
    refine ⟨⟨10 * (x.ratio.1 / x.ratio.2), -1⟩, (by decide : (-1 : Int) < 0), ?_, ?_, ?_⟩
    · rw [positional_whole, wholeText, String.toList_ofList]
      rfl
    · show -(decimalBias : Int) ≤ -1
      decide
    · rw [numerator_whole]
      exact rounds_whole (integral.mp whole)
  · rename_i fractional
    refine ⟨x.shortest, ?_, writtenAs_text number finite⟩
    by_contra nonnegative
    exact fractional (integral.mpr (whole_of_exponent (Int.not_lt.mp nonnegative)))

/-- Infinities are told apart by their sign. -/
theorem eq_of_isInfinite {x y : Binary64} (infinite : x.isInfinite = true)
    (infinite' : y.isInfinite = true) (signs : x.isNegative = y.isNegative) : x = y := by
  have fields : x.exponent = 2047 ∧ x.fraction = 0 := of_decide_eq_true infinite
  have fields' : y.exponent = 2047 ∧ y.fraction = 0 := of_decide_eq_true infinite'
  rw [exponent_eq, fraction_eq] at fields fields'
  exact eq_of_word (by omega) signs

/-- A way to write numbers: finite ones as decimals that round to them. -/
structure Writing (write : Binary64 → List Char) : Prop where
  nan : ∀ x : Binary64, x.isNaN = true → write x = ['N', 'a', 'N']
  infinite : ∀ x : Binary64, x.isNaN = false → x.isInfinite = true →
    write x = signed x.isNegative ['i', 'n', 'f']
  finite : ∀ x : Binary64, x.isNaN = false → x.isInfinite = false → ∃ d, x.WrittenAs d (write x)

theorem WrittenAs.mem {d : Decimal} {chars : List Char} {c : Char}
    (written : x.WrittenAs d chars) (member : c ∈ chars) :
    c.isDigit = true ∨ c = '.' ∨ c = '-' := by
  rw [written.text, signed] at member
  exact (Value.isNumeral_signed (Value.isNumeral_positional d) x.isNegative).2 c member

/-- Texts of numbers tell them apart, unless they are not-a-numbers. -/
theorem Writing.eq {write : Binary64 → List Char} (writes : Writing write) {x y : Binary64}
    (number : x.isNaN = false) (same : write x = write y) : x = y := by
  have letter {x : Binary64} (number : x.isNaN = false) (finite : x.isInfinite = false) {c : Char}
      (letter : ¬ (c.isDigit = true ∨ c = '.' ∨ c = '-')) : c ∉ write x := by
    obtain ⟨d, written⟩ := writes.finite x number finite
    exact fun member => letter (written.mem member)
  have infinity {x : Binary64} (number : x.isNaN = false) (infinite : x.isInfinite = true) :
      'i' ∈ write x ∧ 'a' ∉ write x := by
    rw [writes.infinite x number infinite]
    cases x.isNegative <;> decide
  have number' : y.isNaN = false := by
    by_contra nan
    have member : 'a' ∈ write x := by
      rw [same, writes.nan y (Bool.not_eq_false _ ▸ nan)]
      decide
    cases infinite : x.isInfinite with
    | true => exact (infinity number infinite).2 member
    | false => exact letter number infinite (by decide) member
  cases infinite : x.isInfinite with
  | true =>
    cases infinite' : y.isInfinite with
    | true =>
      rw [writes.infinite x number infinite, writes.infinite y number' infinite'] at same
      refine eq_of_isInfinite infinite infinite' ?_
      cases negative : x.isNegative <;> cases negative' : y.isNegative <;>
        first
        | rfl
        | rw [negative, negative'] at same
          cases same
    | false =>
      exact absurd (same ▸ (infinity number infinite).1) (letter number' infinite' (by decide))
  | false =>
    cases infinite' : y.isInfinite with
    | true =>
      exact absurd (same.symm ▸ (infinity number' infinite').1) (letter number infinite (by decide))
    | false =>
      obtain ⟨d, written⟩ := writes.finite x number infinite
      obtain ⟨d', written'⟩ := writes.finite y number' infinite'
      exact written.unique (same ▸ written')

theorem writing_text : Writing fun x => x.text.toList where
  nan _ := Value.text_of_isNaN
  infinite _ := Value.text_of_isInfinite
  finite x number finite := ⟨x.shortest, writtenAs_text number finite⟩

theorem floatText_of_exponent (largest : x.exponent = 2047) :
    Value.floatText x = x.text := by
  have unusual : x.isFinite = false := decide_eq_false fun differ => differ largest
  rw [Value.floatText, isIntegral, unusual]
  rfl

theorem writing_floatText : Writing fun x => (Value.floatText x).toList where
  nan x nan := by
    have fields : x.exponent = 2047 ∧ x.fraction ≠ 0 := of_decide_eq_true nan
    rw [floatText_of_exponent fields.1, Value.text_of_isNaN nan]
  infinite x number infinite := by
    have fields : x.exponent = 2047 ∧ x.fraction = 0 := of_decide_eq_true infinite
    rw [floatText_of_exponent fields.1, Value.text_of_isInfinite number infinite, signed]
  finite x number finite := (exists_writtenAs number finite).imp fun _ written => written.2

end Binary64

/-! ### Words -/

namespace Value

theorem toList_int (number : Int) : (toString number).toList =
    signed (decide (number < 0)) (⟨number.natAbs, 0⟩ : Decimal).positional := by
  have digits (n : Nat) : (⟨n, 0⟩ : Decimal).positional = Nat.toDigits 10 n := by
    show (if n = 0 then ['0'] else digits n ++ replicate 0 '0') = _
    split
    · rename_i zero
      rw [zero]
      rfl
    · exact append_nil _
  rw [digits]
  cases number with
  | ofNat n => exact Nat.toList_repr
  | negSucc n =>
    show ("-" ++ (n + 1).repr).toList = _
    rw [String.toList_append, Nat.toList_repr, decide_eq_true (Int.negSucc_lt_zero n)]
    rfl

theorem int_eq_of_toString {m n : Int} (same : (toString m).toList = (toString n).toList) :
    m = n := by
  rw [toList_int, toList_int] at same
  obtain ⟨signs, digits⟩ := signed_positional_inj same
  have fits : -(decimalBias : Int) ≤ 0 := by decide
  have numerators : (⟨m.natAbs, 0⟩ : Decimal).numerator = (⟨n.natAbs, 0⟩ : Decimal).numerator := by
    rw [← read_positional fits, digits, read_positional fits]
  have sizes : m.natAbs = n.natAbs :=
    Nat.eq_of_mul_eq_mul_right (Nat.pow_pos (by decide)) numerators
  rw [decide_eq_decide] at signs
  omega

/-- An integer is not written like a float. -/
theorem toString_ne_floatText (number : Int) (x : Binary64) :
    (toString number).toList ≠ (floatText x).toList := by
  intro same
  have numeral := isNumeral_int number
  rw [same] at numeral
  have letter {c : Char} (letter : ¬ (c.isDigit = true ∨ c = '.' ∨ c = '-')) :
      c ∉ (floatText x).toList := fun member => letter (numeral.2 c member)
  have point : '.' ∉ (floatText x).toList := by
    rw [← same, toList_int, signed]
    have whole : '.' ∉ (⟨number.natAbs, 0⟩ : Decimal).positional :=
      fun member => absurd (point_mem_positional.mp member) (Int.lt_irrefl 0)
    split
    · exact not_mem_cons_of_ne_of_not_mem (by decide) whole
    · exact whole
  have writing := writing_floatText
  cases nan : x.isNaN with
  | true => exact letter (c := 'a') (by decide) (writing.nan x nan ▸ by decide)
  | false =>
    cases infinite : x.isInfinite with
    | true =>
      refine letter (c := 'i') (by decide) ?_
      rw [writing.infinite x nan infinite]
      cases x.isNegative <;> decide
    | false =>
      obtain ⟨d, places, written⟩ := exists_writtenAs nan infinite
      refine point ?_
      rw [written.text, signed]
      have member := point_mem_positional.mpr places
      split
      · exact mem_cons_of_mem _ member
      · exact member

/-- The words for values that are not numbers. -/
def specialWords : List (List Char) :=
  [['N', 'o', 'n', 'e'], ['T', 'r', 'u', 'e'], ['F', 'a', 'l', 's', 'e']]

theorem specialWords_unlike :
    ∀ word ∈ specialWords, ¬ IsNumeral word ∧ word ∉ unusualNumbers := by
  show ∀ word ∈ specialWords,
    ¬ (word ≠ [] ∧ ∀ c ∈ word, c.isDigit = true ∨ c = '.' ∨ c = '-') ∧ word ∉ unusualNumbers
  decide

theorem toString_not_special (number : Int) : (toString number).toList ∉ specialWords :=
  fun member => (specialWords_unlike _ member).1 (isNumeral_int number)

theorem floatText_not_special (x : Binary64) : (floatText x).toList ∉ specialWords := by
  intro member
  rcases floatText_cases x with unusual | numeral
  · exact (specialWords_unlike _ member).2 unusual
  · exact (specialWords_unlike _ member).1 numeral

variable {chars : List Char} {c' : Class} {entries entries' : List (Value × Value)}
  {items items' values : List Value}

variable {a b : Value}

/-- Values that consist of one word, other than not-a-numbers, are equal if the words are. -/
theorem equal_of_word (word : a.word? = some chars) (word' : b.word? = some chars)
    (number : ∀ x, a = float x → x.isNaN = false) :
    a.equal b = true := by
  rw [equal_iff]
  cases a with
  | null =>
    cases word
    cases b with
    | null => exact .null
    | bool truth => cases truth <;> cases word'
    | int n => exact absurd (Option.some.inj word' ▸ by decide) (toString_not_special n)
    | float y => exact absurd (Option.some.inj word' ▸ by decide) (floatText_not_special y)
    | _ => cases word'
  | bool truth =>
    have special : chars ∈ specialWords := by
      cases word
      cases truth <;> decide
    cases b with
    | null => cases truth <;> cases word <;> cases word'
    | bool truth' => cases truth <;> cases truth' <;> cases word <;> first | exact .bool _ | cases word'
    | int n => exact absurd (Option.some.inj word' ▸ special) (toString_not_special n)
    | float y => exact absurd (Option.some.inj word' ▸ special) (floatText_not_special y)
    | _ => cases word'
  | int m =>
    cases word
    cases b with
    | null => exact absurd (Option.some.inj word' ▸ by decide) (toString_not_special m)
    | bool truth =>
      refine absurd ?_ (toString_not_special m)
      rw [← Option.some.inj word']
      cases truth <;> decide
    | int n =>
      obtain rfl := int_eq_of_toString (Option.some.inj word')
      exact .int n
    | float y => exact absurd (Option.some.inj word').symm (toString_ne_floatText m y)
    | _ => cases word'
  | float x =>
    cases word
    cases b with
    | null => exact absurd (Option.some.inj word' ▸ by decide) (floatText_not_special x)
    | bool truth =>
      refine absurd ?_ (floatText_not_special x)
      rw [← Option.some.inj word']
      cases truth <;> decide
    | int n => exact absurd (Option.some.inj word') (toString_ne_floatText n x)
    | float y =>
      obtain rfl := writing_floatText.eq (number x rfl) (Option.some.inj word').symm
      exact .float (eq_self_iff.mpr (number x rfl))
    | _ => cases word'
  | _ => cases word

/-! ### Complex numbers -/

/-- Signs, which come only in front of the two parts of a complex number. -/
def isSign (c : Char) : Bool := decide (c ∈ ['+', '-'])

/-- The text of a number other than a not-a-number: a sign, if it is negative, and the rest. -/
theorem exists_body {x : Binary64} (number : x.isNaN = false) :
    ∃ body, x.text.toList = signed x.isNegative body ∧ body ≠ [] ∧
      (∀ c ∈ body, isSign c = false ∧ c ≠ 'a') ∧
      x.signedText.toList = (if x.isNegative then '-' else '+') :: body := by
  have texts : ∃ body, x.text.toList = signed x.isNegative body ∧ body ≠ [] ∧
      ∀ c ∈ body, isSign c = false ∧ c ≠ 'a' := by
    cases infinite : x.isInfinite with
    | true => exact ⟨['i', 'n', 'f'], text_of_isInfinite number infinite, by decide, by decide⟩
    | false =>
      refine ⟨x.shortest.positional, (writtenAs_text number infinite).text,
        positional_ne_nil _, fun c member => ?_⟩
      rcases mem_positional member with digit | rfl
      · constructor
        · by_contra sign
          have known : c ∈ ['+', '-'] := of_decide_eq_true (Bool.eq_true_of_not_eq_false sign)
          have others : ∀ other ∈ ['+', '-'], other.isDigit = false := by decide
          cases digit.symm.trans (others c known)
        · rintro rfl
          cases digit
      · decide
  obtain ⟨body, text, nonempty, unsigned⟩ := texts
  refine ⟨body, text, nonempty, unsigned, ?_⟩
  unfold signedText
  rw [number, Bool.false_or]
  cases negative : x.isNegative with
  | true =>
    rw [negative] at text
    exact text
  | false =>
    rw [negative] at text
    rw [if_neg Bool.false_ne_true, String.toList_append, text]
    rfl

/-- What stands before the first sign can be told from what follows. -/
theorem split_at_sign {before before' after after' : List Char} {c c' : Char}
    (unsigned : ∀ c ∈ before, isSign c = false) (unsigned' : ∀ c ∈ before', isSign c = false)
    (sign : isSign c = true) (sign' : isSign c' = true)
    (same : before ++ c :: after = before' ++ c' :: after') :
    before = before' ∧ c = c' ∧ after = after' := by
  have front {before after : List Char} {c : Char} (unsigned : ∀ c ∈ before, isSign c = false)
      (sign : isSign c = true) :
      (before ++ c :: after).takeWhile (fun c => !isSign c) = before := by
    rw [takeWhile_append_of_pos fun c member => by rw [unsigned c member]; rfl]
    simp [sign]
  have fronts : before = before' := by
    rw [← front unsigned sign, same, front unsigned' sign']
  subst fronts
  exact ⟨rfl, cons.inj (append_cancel_left same)⟩

theorem signed_inj {negative negative' : Bool} {body body' rest rest' : List Char}
    (unsigned : ∀ c ∈ body, isSign c = false) (unsigned' : ∀ c ∈ body', isSign c = false)
    (nonempty : body ≠ []) (nonempty' : body' ≠ [])
    (same : signed negative body ++ rest = signed negative' body' ++ rest') :
    negative = negative' ∧ body ++ rest = body' ++ rest' := by
  have differ {body body' rest rest' : List Char} (unsigned : ∀ c ∈ body', isSign c = false)
      (nonempty : body' ≠ []) : '-' :: body ++ rest ≠ body' ++ rest' := by
    intro same
    cases body' with
    | nil => exact nonempty rfl
    | cons first more =>
      have sign := unsigned first mem_cons_self
      rw [← (cons.inj same).1] at sign
      cases sign
  cases negative <;> cases negative'
  · exact ⟨rfl, same⟩
  · exact absurd same.symm (differ unsigned nonempty)
  · exact absurd same (differ unsigned' nonempty')
  · exact ⟨rfl, (cons.inj same).2⟩

/-- A not-a-number can be told from the word that it is part of. -/
theorem mem_complexWord_iff {x y : Binary64} :
    'a' ∈ complexWord x y ↔ x.isNaN = true ∨ y.isNaN = true := by
  have texts (x : Binary64) : ('a' ∈ x.text.toList ↔ x.isNaN = true) ∧
      ('a' ∈ x.signedText.toList ↔ x.isNaN = true) := by
    cases nan : x.isNaN with
    | true =>
      have text : x.signedText.toList = ['N', 'a', 'N'] := by
        rw [signedText, nan, Bool.true_or, if_pos rfl, text_of_isNaN nan]
      rw [text_of_isNaN nan, text]
      decide
    | false =>
      obtain ⟨body, text, -, unsigned, signedText⟩ := exists_body nan
      have plain : 'a' ∉ body := fun member => (unsigned 'a' member).2 rfl
      rw [text, signedText, signed]
      cases x.isNegative <;> simp [plain]
  rw [complexWord, mem_append, mem_append, (texts x).1, (texts y).2]
  simp

/-- The two parts of a complex number can be told from its word. -/
theorem eq_of_complexWord {x y x' y' : Binary64} (number : x.isNaN = false)
    (number' : y.isNaN = false) (same : complexWord x y = complexWord x' y') :
    x = x' ∧ y = y' := by
  have numbers : x'.isNaN = false ∧ y'.isNaN = false := by
    have plain : ¬ 'a' ∈ complexWord x' y' := by
      rw [← same, mem_complexWord_iff, number, number']
      decide
    rw [mem_complexWord_iff, not_or, Bool.not_eq_true, Bool.not_eq_true] at plain
    exact plain
  obtain ⟨real, text, nonempty, unsigned, -⟩ := exists_body number
  obtain ⟨real', text', nonempty', unsigned', -⟩ := exists_body numbers.1
  obtain ⟨imaginary, imaginaryText, -, -, signedText⟩ := exists_body number'
  obtain ⟨imaginary', imaginaryText', -, -, signedText'⟩ := exists_body numbers.2
  have sign (negative : Bool) : isSign (if negative then '-' else '+') = true := by
    cases negative <;> decide
  rw [complexWord, complexWord, append_assoc, append_assoc, text, text', signedText,
    signedText', cons_append, cons_append] at same
  obtain ⟨signs, rest⟩ := signed_inj (fun c member => (unsigned c member).1)
    (fun c member => (unsigned' c member).1) nonempty nonempty' same
  obtain ⟨reals, signs', imaginaries⟩ := split_at_sign (fun c member => (unsigned c member).1)
    (fun c member => (unsigned' c member).1) (sign _) (sign _) rest
  constructor
  · refine writing_text.eq number ?_
    rw [text, text', signs, reals]
  · have negatives : y.isNegative = y'.isNegative := by
      revert signs'
      cases y.isNegative <;> cases y'.isNegative <;> decide
    refine writing_text.eq number' ?_
    rw [imaginaryText, imaginaryText', negatives, append_cancel_right imaginaries]

/-! ### Values that are written the same -/

theorem not_equal_nan {x : Binary64} (missing : x.isNaN = true) (value : Value) :
    value.equal (float x) = false ∧ (float x).equal value = false := by
  constructor <;> rw [← Bool.not_eq_true, equal_iff] <;> rintro (_ | _ | _ | same) <;>
    simp [eq, missing] at same

/-- Values that consist of the same word are equal, or both are not numbers. -/
theorem equal_or_nan_of_word (word : a.word? = some chars)
    (word' : b.word? = some chars) :
    a.equal b = true ∨ ∃ x y, a = float x ∧ b = float y ∧ x.isNaN = true ∧ y.isNaN = true := by
  by_cases number : ∀ x, a = float x → x.isNaN = false
  · exact .inl (equal_of_word word word' number)
  · push Not at number
    obtain ⟨x, rfl, missing⟩ := number
    have missing : x.isNaN = true := Bool.eq_true_of_not_eq_false missing
    have never := (not_equal_nan missing b).1
    by_cases number' : ∀ y, b = float y → y.isNaN = false
    · cases never.symm.trans (equal_of_word word' word number')
    · push Not at number'
      obtain ⟨y, rfl, missing'⟩ := number'
      exact .inr ⟨x, y, rfl, rfl, missing, Bool.eq_true_of_not_eq_false missing'⟩

/-- Every class and every instance in the value has a legible name and is what its text stands
for. -/
def Told (named : String → Value) (value : Value) : Prop :=
  ∀ inner : Value, inner.Inside value →
    match inner with
    | classObject c => c.Legible ∧ named (classObject c).text = classObject c
    | object identity c => c.Legible ∧ named (object identity c).text = object identity c
    | _ => True

variable {named : String → Value}

theorem Told.part {part value : Value} (told : value.Told named) (member : part ∈ value.parts) :
    part.Told named :=
  fun inner inside => told inner (.part member inside)

theorem Told.legible {value : Value} (told : value.Told named) : value.Legible := by
  intro inner inside
  have told := told inner inside
  cases inner with
  | classObject | object => exact told.1
  | _ => trivial

theorem eq_of_told_class {c : Class} (told : (classObject c).Told named)
    (told' : (classObject c').Told named) (same : c.qualname = c'.qualname) :
    classObject c = classObject c' := by
  have texts : (classObject c).text = (classObject c').text := by rw [text, text, same]
  rw [← (told _ .self).2, texts, (told' _ .self).2]

theorem eq_of_told_object {i j : Nat} {c : Class} (told : (object i c).Told named)
    (told' : (object j c').Told named) (same : c.qualname = c'.qualname) :
    object i c = object j c' := by
  have texts : (object i c).text = (object j c').text := by rw [text, text, same]
  rw [← (told _ .self).2, texts, (told' _ .self).2]

/-- What equals a complex number is made of numbers. -/
theorem numbers_of_equal_complex {value : Value} {x y : Binary64}
    (same : value.equal (complex x y) = true ∨ (complex x y).equal value = true) :
    x.isNaN = false ∧ y.isNaN = false := by
  rcases same with same | same <;> cases equal_iff.mp same with
  | complex real imaginary =>
    simp only [eq, Bool.and_eq_true, Bool.not_eq_true'] at real imaginary
    simp [real, imaginary]

/-- Entries are linked if their keys and their contents are. -/
theorem forall₂_of_map {linked : Value → Value → Prop}
    (keys : List.Forall₂ linked (entries.map Prod.fst) (entries'.map Prod.fst))
    (contents : List.Forall₂ linked (entries.map Prod.snd) (entries'.map Prod.snd)) :
    List.Forall₂ (fun entry entry' => linked entry.1 entry'.1 ∧ linked entry.2 entry'.2) entries
      entries' := by
  induction entries generalizing entries' with
  | nil =>
    cases entries' with
    | nil => exact .nil
    | cons => cases keys
  | cons entry entries ih =>
    cases entries' with
    | nil => cases keys
    | cons entry' entries' =>
      obtain _ | ⟨key, keys⟩ := keys
      obtain _ | ⟨content, contents⟩ := contents
      exact .cons ⟨key, content⟩ (ih keys contents)

theorem keys_inside {identity : Nat} (key : Value) (member : key ∈ entries.map Prod.fst) :
    key ∈ (dict identity entries).parts := by
  obtain ⟨entry, inEntries, rfl⟩ := mem_map.mp member
  exact mem_parts_of_key inEntries

theorem contents_inside {identity : Nat} (content : Value)
    (member : content ∈ entries.map Prod.snd) : content ∈ (dict identity entries).parts := by
  obtain ⟨entry, inEntries, rfl⟩ := mem_map.mp member
  exact mem_parts_of_entry inEntries

/-- The second value equals what the first one equals. -/
def Replaces (a b : Value) : Prop :=
  ∀ value : Value, (value.equal a = true → value.equal b = true) ∧
    (a.equal value = true → b.equal value = true)

theorem replaces_of_equal (same : a.equal b = true) (same' : b.equal a = true) :
    a.Replaces b :=
  fun _ => ⟨fun link => equal_trans link same, fun link => equal_trans same' link⟩

/-- Items can be replaced in lists that are equal item by item. -/
theorem forall₂_replaces (links : List.Forall₂ Replaces items items') :
    (List.Forall₂ (fun a b => equal a b = true) values items →
      List.Forall₂ (fun a b => equal a b = true) values items') ∧
    (List.Forall₂ (fun a b => equal a b = true) items values →
      List.Forall₂ (fun a b => equal a b = true) items' values) := by
  constructor <;> intro each
  · refine forall₂_transfer each (forall₂_same.mpr fun _ _ => rfl) links ?_
    rintro value _ _ item item' rfl link same
    exact (link value).1 same
  · refine forall₂_transfer each links (forall₂_same.mpr fun _ _ => rfl) ?_
    rintro item _ item' value _ link rfl same
    exact (link value).2 same

/-- Items can be replaced where each item has to have an equal one. -/
theorem contained_replaces (links : List.Forall₂ Replaces items items') :
    ((∀ a ∈ values, ∃ b ∈ items, equal a b = true) → ∀ a ∈ values, ∃ b ∈ items', equal a b = true) ∧
    ((∀ a ∈ items, ∃ b ∈ values, equal a b = true) →
      ∀ a ∈ items', ∃ b ∈ values, equal a b = true) := by
  refine ⟨fun each value member => ?_, fun each item' member => ?_⟩
  · obtain ⟨item, inItems, same⟩ := each value member
    obtain ⟨item', inItems', link⟩ := exists_linked_right links inItems
    exact ⟨item', inItems', (link value).1 same⟩
  · obtain ⟨item, inItems, link⟩ := exists_linked_left links member
    obtain ⟨value, inValues, same⟩ := each item inItems
    exact ⟨value, inValues, (link value).2 same⟩

/-- Of two values that are put together in the same way, from things that their texts tell, one can
replace the other. -/
theorem Resembles.replaces (resembles : Resembles a b) (told : a.Told named)
    (told' : b.Told named) : a.Replaces b := by
  induction a using induction_parts generalizing b with
  | step a ih =>
    have each {items items' : List Value} (inside : ∀ item ∈ items, item ∈ a.parts)
        (inside' : ∀ item ∈ items', item ∈ b.parts) (links : List.Forall₂ Resembles items items') :
        List.Forall₂ Replaces items items' :=
      forall₂_imp_of_mem links fun item member item' member' link =>
        ih item (inside item member) link (told.part (inside item member))
          (told'.part (inside' item' member'))
    cases resembles with
    | word word word' =>
      rcases equal_or_nan_of_word word word' with same | ⟨x, y, rfl, rfl, missing, -⟩
      · rcases equal_or_nan_of_word word' word with same' | ⟨x, y, rfl, rfl, missing, -⟩
        · exact replaces_of_equal same same'
        · rw [(not_equal_nan missing _).1] at same
          cases same
      · intro value
        rw [(not_equal_nan missing value).1, (not_equal_nan missing value).2]
        exact ⟨nofun, nofun⟩
    | @complex x y x' y' words =>
      intro value
      constructor <;> intro same
      · obtain ⟨real, imaginary⟩ := numbers_of_equal_complex (.inl same)
        obtain ⟨rfl, rfl⟩ := eq_of_complexWord real imaginary words
        exact same
      · obtain ⟨real, imaginary⟩ := numbers_of_equal_complex (.inr same)
        obtain ⟨rfl, rfl⟩ := eq_of_complexWord real imaginary words
        exact same
    | str i j text =>
      exact replaces_of_equal (equal_iff.mpr (.str i j text)) (equal_iff.mpr (.str j i text))
    | bytes i j data =>
      exact replaces_of_equal (equal_iff.mpr (.bytes i j data)) (equal_iff.mpr (.bytes j i data))
    | list links | tuple links =>
      have links := each (fun _ => id) (fun _ => id) links
      refine fun value => ⟨fun same => ?_, fun same => ?_⟩ <;>
        (rw [equal_iff] at same ⊢; cases same; rename_i pairs; constructor)
      · exact (forall₂_replaces links).1 pairs
      · exact (forall₂_replaces links).2 pairs
    | set links | frozenset links =>
      have links := each (fun _ => id) (fun _ => id) links
      refine fun value => ⟨fun same => ?_, fun same => ?_⟩ <;>
        (rw [equal_iff] at same ⊢; cases same; rename_i size inside; constructor)
      · exact size.trans links.length_eq
      · exact (contained_replaces links).1 inside
      · exact links.length_eq.symm.trans size
      · exact (contained_replaces links).2 inside
    | dict keys contents =>
      have links := forall₂_of_map (each keys_inside keys_inside keys)
        (each contents_inside contents_inside contents)
      refine fun value => ⟨fun same => ?_, fun same => ?_⟩
      · cases equal_iff.mp same with
        | dict size inside =>
          refine equal_iff.mpr (.dict (size.trans links.length_eq) fun found member => ?_)
          obtain ⟨entry, inEntries, key, content⟩ := inside found member
          obtain ⟨entry', inEntries', link⟩ := exists_linked_right links inEntries
          exact ⟨entry', inEntries', (link.1 _).1 key, (link.2 _).1 content⟩
      · cases equal_iff.mp same with
        | dict size inside =>
          refine equal_iff.mpr (.dict (links.length_eq.symm.trans size) fun entry' member => ?_)
          obtain ⟨entry, inEntries, link⟩ := exists_linked_left links member
          obtain ⟨found, inFound, key, content⟩ := inside entry inEntries
          exact ⟨found, inFound, (link.1 _).2 key, (link.2 _).2 content⟩
    | classObject same =>
      rw [eq_of_told_class told told' same]
      exact fun _ => ⟨id, id⟩
    | object same =>
      rw [eq_of_told_object told told' same]
      exact fun _ => ⟨id, id⟩

theorem built_of_word {value : Value} (word : value.word? = some chars) :
    value.Built := by
  cases value with
  | null | bool | int | float => exact built_of_parts trivial nofun
  | _ => cases word

theorem looselyEqual_nan {x : Binary64} (missing : x.isNaN = true) (value : Value) :
    value.looselyEqual (float x) = false := by
  unfold looselyEqual
  split
  · rename_i counted
    cases counted
    simp [eq, missing]
  · rename_i counted
    cases counted
  · exact (not_equal_nan missing _).1

/-- Values of one class that are put together in the same way, from things that their texts tell,
are alike. -/
theorem Resembles.alike (resembles : Resembles a b) (resembles' : Resembles b a)
    (told : a.Told named) (told' : b.Told named) (kinds : a.kind = b.kind) : a.Alike b := by
  have right (value : Value) : value.equal a = value.equal b := Bool.eq_iff_iff.mpr
    ⟨(resembles.replaces told told' value).1, (resembles'.replaces told' told value).1⟩
  have left (value : Value) : a.equal value = b.equal value := Bool.eq_iff_iff.mpr
    ⟨(resembles.replaces told told' value).2, (resembles'.replaces told' told value).2⟩
  refine ⟨kinds, left, right, fun value => ?_⟩
  cases resembles with
  | word word word' =>
    rcases equal_or_nan_of_word word word' with same | ⟨x, y, rfl, rfl, missing, missing'⟩
    · exact isLiteral_congr (built_of_word word) same kinds
    · rw [isLiteral, isLiteral, looselyEqual_nan missing, looselyEqual_nan missing', kinds]
  | complex | str | bytes | list | tuple | set | frozenset | dict | classObject | object =>
    rw [isLiteral, isLiteral, kinds]
    congr 1
    exact looselyEqual_congr nofun nofun nofun nofun rfl rfl right

theorem lookupsIn_eq (each : List.Forall₂ (fun a b : Value => a.lookups = b.lookups) items items') :
    lookupsIn items = lookupsIn items' := by
  induction each with
  | nil => rfl
  | cons head _ ih => rw [lookupsIn, lookupsIn, head, ih]

theorem lookupsInEntries_eq
    (each : List.Forall₂ (fun a b : Value × Value => a.1.lookups = b.1.lookups ∧
      a.2.lookups = b.2.lookups) entries entries') :
    lookupsInEntries entries = lookupsInEntries entries' := by
  induction each with
  | nil => rfl
  | cons head _ ih =>
    rw [lookupsInEntries, lookupsInEntries, head.1, head.2, ih]

/-- Values that are put together in the same way, from things that their texts tell, look up the
same names. -/
theorem Resembles.lookups_eq (resembles : Resembles a b) (told : a.Told named)
    (told' : b.Told named) : a.lookups = b.lookups := by
  induction a using induction_parts generalizing b with
  | step a ih =>
    have each {items items' : List Value} (inside : ∀ item ∈ items, item ∈ a.parts)
        (inside' : ∀ item ∈ items', item ∈ b.parts) (links : List.Forall₂ Resembles items items') :
        List.Forall₂ (fun a b : Value => a.lookups = b.lookups) items items' :=
      forall₂_imp_of_mem links fun item member item' member' link =>
        ih item (inside item member) link (told.part (inside item member))
          (told'.part (inside' item' member'))
    cases resembles with
    | word word word' =>
      have none {value : Value} {chars : List Char} (word : value.word? = some chars) :
          value.lookups = [] := by
        cases value with
        | null | bool | int | float => rfl
        | _ => cases word
      rw [none word, none word']
    | complex | str | bytes => rfl
    | list links | tuple links | set links | frozenset links =>
      exact lookupsIn_eq (each (fun _ => id) (fun _ => id) links)
    | dict keys contents =>
      exact lookupsInEntries_eq (forall₂_of_map (each keys_inside keys_inside keys)
        (each contents_inside contents_inside contents))
    | classObject same => rw [eq_of_told_class told told' same]
    | object same => rw [eq_of_told_object told told' same]

/-- Literals of one class that are written the same are twins if their texts tell what is in
them. -/
theorem twin_of_text {a b : Value} (told : a.Told named) (told' : b.Told named)
    (kinds : a.kind = b.kind) (texts : a.text = b.text) : a.Twin True b where
  alike := (resembles_of_text told.legible told'.legible texts).alike
    (resembles_of_text told'.legible told.legible texts.symm) told told' kinds
  lookups name := by
    rw [(resembles_of_text told.legible told'.legible texts).lookups_eq told told']
  text := texts
  code _ := (resembles_of_text told.legible told'.legible texts).code_eq told.legible told'.legible

end Value

end CallGuard
