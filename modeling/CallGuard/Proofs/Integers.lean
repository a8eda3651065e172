/-
Integers as they are written in a literal: in base ten, or with a zero and a
letter for the base before the digits, with underscores before digits or after
those of base ten, and with or without a minus sign. Such a text is read up to
its last character, as the number that its digits stand for if that fits into 64
bits with a sign, and is refused otherwise.
-/
import Mathlib.Data.Nat.Digits.Defs
import CallGuard.Proofs.Phrasing
import CallGuard.Proofs.Resolution

namespace CallGuard

open List

/-! ### How integers are written -/

/-- A digit of some base, with or without an underscore before it. -/
structure Digit (base : Nat) where
  value : Fin base
  upper : Bool
  underscored : Bool

namespace Digit

variable {base : Nat}

/-- The character of a digit. -/
def spelled (upper : Bool) (value : Nat) : Char :=
  if upper then value.digitChar.toUpper else value.digitChar

def char (digit : Digit base) : Char := spelled digit.upper digit.value

def text (digit : Digit base) : List Char :=
  if digit.underscored then ['_', digit.char] else [digit.char]

/-- The number that digits stand for, the last of which counts units. -/
def number (digits : List (Digit base)) : Nat :=
  Nat.ofDigits base (digits.map fun digit => digit.value.val).reverse

end Digit

/-- The bases that a letter announces. -/
inductive Radix where
  | hexadecimal
  | octal
  | binary

namespace Radix

def base : Radix → Nat
  | hexadecimal => 16
  | octal => 8
  | binary => 2

def letter (upper : Bool) : Radix → Char
  | hexadecimal => if upper then 'X' else 'x'
  | octal => if upper then 'O' else 'o'
  | binary => if upper then 'B' else 'b'

theorem base_le (radix : Radix) : radix.base ≤ 16 := by cases radix <;> decide

end Radix

/-- An integer without a sign, as it is written. The first of the digits without a base has no
underscore before it, but there may be one behind the last of them. -/
inductive IntegerToken where
  | decimal (first : Digit 10) (rest : List (Digit 10)) (trailing : Bool)
  | based (radix : Radix) (upper : Bool) (first : Digit radix.base) (rest : List (Digit radix.base))

namespace IntegerToken

/-- The underscore behind the last digit, if there is one. -/
def ending (trailing : Bool) : List Char := if trailing then ['_'] else []

def text : IntegerToken → List Char
  | decimal first rest trailing => first.char :: (rest.flatMap Digit.text ++ ending trailing)
  | based radix upper first rest => '0' :: radix.letter upper :: (first :: rest).flatMap Digit.text

def value : IntegerToken → Nat
  | decimal first rest _ => Digit.number (first :: rest)
  | based _ _ first rest => Digit.number (first :: rest)

/-- The text with a minus sign before it or without one. -/
def signedText (negative : Bool) (token : IntegerToken) : List Char :=
  if negative then '-' :: token.text else token.text

def signedValue (negative : Bool) (token : IntegerToken) : Int :=
  if negative then -token.value else token.value

example : (based .hexadecimal true ⟨⟨15, by decide⟩, false, true⟩
    [⟨⟨14, by decide⟩, true, false⟩]).signedText true = "-0X_fE".toList := by
  decide

example : (decimal ⟨1, false, false⟩ [⟨2, false, true⟩] true).text = "1_2_".toList := by decide

end IntegerToken

/-! ### The numbers of digits -/

namespace Digit

variable {base : Nat} (digit : Digit base)

theorem hexValue?_char (small : base ≤ 16) : Text.hexValue? digit.char = some digit.value.val := by
  have each : ∀ (upper : Bool) (value : Fin 16),
      Text.hexValue? (spelled upper value) = some value.val := by decide
  exact each digit.upper (digit.value.castLE small)

theorem char_ne_underscore (small : base ≤ 16) : digit.char ≠ '_' := by
  intro same
  have known := digit.hexValue?_char small
  rw [same] at known
  cases known

theorem filter_flatMap_text (small : base ≤ 16) (digits : List (Digit base)) :
    (digits.flatMap text).filter (· ≠ '_') = digits.map char := by
  rw [filter_flatMap, map_eq_flatMap]
  refine flatMap_congr fun digit _ => ?_
  have plain := digit.char_ne_underscore small
  unfold text
  split <;> simp [plain]

theorem numberOfDigits?_eq (small : base ≤ 16) (first : Digit base) (rest : List (Digit base)) :
    Hint.numberOfDigits? base ((first :: rest).map char) = some (number (first :: rest)) := by
  have all (digits : List (Digit base)) (start : Nat) :
      (digits.map char).foldlM (fun number c => (Hint.digitValue? base c).map (base * number + ·))
        start = some (digits.foldl (fun number digit => base * number + digit.value) start) := by
    induction digits generalizing start with
    | nil => rfl
    | cons digit digits ih =>
      have known : Hint.digitValue? base digit.char = some digit.value.val := by
        rw [Hint.digitValue?, digit.hexValue?_char small]
        exact if_pos (decide_eq_true digit.value.isLt)
      rw [map_cons, foldlM_cons, known]
      exact ih _
  have positional (digits : List (Digit base)) :
      number digits = digits.foldl (fun number digit => base * number + digit.value) 0 := by
    rw [number, Nat.ofDigits_eq_foldr, foldr_reverse, foldl_map]
    simp [Nat.add_comm]
  rw [positional]
  exact all (first :: rest) 0

end Digit

namespace Lexeme

open Text

theorem opens_of_isDigit {c : Char} (digit : c.isDigit = true) : opens c = true := by
  rw [opens, Char.isAlphanum, digit, Bool.or_true, Bool.true_or]

theorem not_startsWord_of_isDigit {c : Char} (digit : c.isDigit = true) :
    startsWord c = false := by
  have letterless : c.isAlpha = false := by
    cases letter : c.isAlpha with
    | false => rfl
    | true => cases digit.symm.trans (not_isDigit_of_isAlpha letter)
  have small : c.toNat < 128 := by
    simp only [Char.isDigit, Bool.and_eq_true, decide_eq_true_eq, UInt32.le_iff_toNat_le] at digit
    have nine : '9'.val.toNat = 57 := rfl
    rw [Char.toNat]
    omega
  rw [startsWord, if_pos small, letterless, beq_false_of_ne (ne_of_kind digit rfl)]
  rfl

theorem opening?_of_isDigit {c : Char} (digit : c.isDigit = true) (rest : List Char) :
    opening? (c :: rest) = none := by
  have unmarked : ¬ isStringMark c = true := by
    have each : ∀ mark ∈ ['f', 'F', 'r', 'R', 'b', 'B', 'u', 'U'], mark.isDigit = false := by decide
    intro marked
    cases digit.symm.trans (each c (contains_iff_mem.mp marked))
  rw [opening?, takeWhile_cons_of_neg unmarked, dropWhile_cons_of_neg unmarked]
  split
  · rename_i same
    exact absurd (cons.inj same).1 (ne_of_kind digit rfl)
  · rename_i same
    exact absurd (cons.inj same).1 (ne_of_kind digit rfl)
  · rename_i same
    cases same
    refine if_neg ?_
    rintro (same | same | same)
    all_goals exact absurd same (ne_of_kind digit rfl)
  · rename_i same
    cases same

end Lexeme

/-! ### Reading numbers -/

namespace IntegerToken

open Hint Lexeme Grammar

theorem isDigit_char (digit : Digit 10) : digit.char.isDigit = true := by
  have each : ∀ (upper : Bool) (value : Fin 10), (Digit.spelled upper value).isDigit = true := by
    decide
  exact each digit.upper digit.value

theorem baseAndDigits_decimal (digits : List (Digit 10)) :
    baseAndDigits (digits.map Digit.char) = (10, digits.map Digit.char) := by
  have each : ∀ (upper : Bool) (value : Fin 10), ∀ letter ∈ ['x', 'o', 'b'],
      (Digit.spelled upper value).toLower ≠ letter := by decide
  unfold baseAndDigits
  split
  · rename_i letter more same
    obtain ⟨digit, -, rfl⟩ := mem_map.mp (show letter ∈ digits.map Digit.char by simp [same])
    have other : ∀ letter ∈ ['x', 'o', 'b'], digit.char.toLower ≠ letter :=
      each digit.upper digit.value
    simp only [forall_mem_cons] at other
    rw [if_neg other.1, if_neg other.2.1, if_neg other.2.2.1]
  · rfl

/-- The base and the digits without underscores give the value of a token. -/
theorem exists_baseAndDigits (token : IntegerToken) : ∃ base digits,
    baseAndDigits (token.text.filter (· ≠ '_')) = (base, digits) ∧
      numberOfDigits? base digits = some token.value := by
  cases token with
  | decimal first rest trailing =>
    refine ⟨10, (first :: rest).map Digit.char, ?_, Digit.numberOfDigits?_eq (by decide) first rest⟩
    have behind : (ending trailing).filter (· ≠ '_') = [] := by cases trailing <;> rfl
    rw [text, filter_cons_of_pos (by simpa using first.char_ne_underscore (by decide)),
      filter_append, Digit.filter_flatMap_text (by decide), behind, append_nil]
    exact baseAndDigits_decimal (first :: rest)
  | based radix upper first rest =>
    refine ⟨radix.base, (first :: rest).map Digit.char, ?_,
      Digit.numberOfDigits?_eq (Radix.base_le radix) first rest⟩
    have plain : (text (based radix upper first rest)).filter (· ≠ '_') =
        '0' :: radix.letter upper :: (first :: rest).map Digit.char := by
      rw [← Digit.filter_flatMap_text (Radix.base_le radix), text]
      cases radix <;> cases upper <;> rfl
    rw [plain]
    cases radix <;> cases upper <;> rfl

/-- A token is read as its value if that fits into 64 bits, and refused otherwise. -/
theorem readInteger_text (negative : Bool) (token : IntegerToken) :
    readInteger negative token.text =
      let number := token.signedValue negative
      if -2 ^ 63 ≤ number ∧ number < 2 ^ 63 then pure (.int number)
      else throw (.unreadable (.outOfRange
        (String.ofList ((token.signedText negative).filter (· ≠ '_'))))) := by
  obtain ⟨base, digits, split, known⟩ := token.exists_baseAndDigits
  have read : integer? negative (token.text.filter (· ≠ '_')) =
      if -2 ^ 63 ≤ token.signedValue negative ∧ token.signedValue negative < 2 ^ 63 then
        some (token.signedValue negative) else none := by
    rw [integer?, split]
    show (numberOfDigits? base digits).bind _ = _
    rw [known]
    cases negative with
    | false =>
      show (if token.value < 2 ^ 63 then some (token.value : Int) else none) = _
      refine if_congr ?_ rfl rfl
      show _ ↔ -2 ^ 63 ≤ (token.value : Int) ∧ (token.value : Int) < 2 ^ 63
      omega
    | true =>
      show (if token.value ≤ 2 ^ 63 then some (-token.value : Int) else none) = _
      refine if_congr ?_ rfl rfl
      show _ ↔ -2 ^ 63 ≤ -(token.value : Int) ∧ -(token.value : Int) < 2 ^ 63
      omega
  have plain : (token.signedText negative).filter (· ≠ '_') =
      if negative then '-' :: token.text.filter (· ≠ '_') else token.text.filter (· ≠ '_') := by
    cases negative <;> rfl
  rw [readInteger, read, plain]
  dsimp only
  by_cases fits : -2 ^ 63 ≤ token.signedValue negative ∧ token.signedValue negative < 2 ^ 63
  · rw [if_pos fits, if_pos fits]
  · rw [if_neg fits, if_neg fits]

/-! ### Numbers as lexemes -/

variable {rest : List Char}

theorem skipDigits_flatMap (digits : List (Digit 10)) (trailing : Bool) (stops : Stops rest) :
    skipDigits false (digits.flatMap Digit.text ++ (ending trailing ++ rest)) = rest := by
  induction digits with
  | nil => cases trailing <;> cases stops <;> rfl
  | cons digit digits ih =>
    have known := isDigit_char digit
    rw [flatMap_cons, append_assoc, Digit.text]
    split
    · rw [cons_append, skipDigits, if_neg (by decide), if_pos (by decide),
        singleton_append, skipDigits, if_pos known, ih]
    · rw [singleton_append, skipDigits, if_pos known, ih]

theorem based?_decimal (c : Char) (digits : List (Digit 10)) (trailing : Bool)
    (stops : Stops rest) :
    based? (c :: (digits.flatMap Digit.text ++ (ending trailing ++ rest))) = none := by
  have each : ∀ (upper : Bool) (value : Fin 10),
      (baseDigits? (Digit.spelled upper value)).isNone = true := by decide
  have plain {letter : Char} {more : List Char}
      (same : digits.flatMap Digit.text ++ (ending trailing ++ rest) = letter :: more) :
      baseDigits? letter = none := by
    cases digits with
    | nil => cases trailing <;> cases stops <;> cases same <;> rfl
    | cons digit digits =>
      rw [flatMap_cons, Digit.text] at same
      split at same <;> cases same
      · rfl
      · exact Option.isNone_iff_eq_none.mp (each digit.upper digit.value)
  unfold based?
  split
  · rename_i same
    rw [plain (cons.inj same).2]
    rfl
  · rfl

theorem skipBased_flatMap {base : Nat} {isDigit : Char → Bool} (small : base ≤ 16)
    (known : ∀ digit : Digit base, isDigit digit.char = true)
    (others : isDigit ',' = false ∧ isDigit ']' = false)
    (digits : List (Digit base)) (stops : Stops rest) :
    skipBased isDigit (digits.flatMap Digit.text ++ rest) = rest := by
  induction digits with
  | nil => cases stops <;> simp [skipBased, others]
  | cons digit digits ih =>
    rw [flatMap_cons, append_assoc, Digit.text]
    split
    · simp [skipBased, known, ih]
    · simp [skipBased, known, ih, digit.char_ne_underscore small]

theorem exists_baseDigits? (radix : Radix) (upper : Bool) : ∃ isDigit,
    baseDigits? (radix.letter upper) = some isDigit ∧
      (∀ digit : Digit radix.base, isDigit digit.char = true) ∧
      isDigit ',' = false ∧ isDigit ']' = false := by
  have hexadecimal : ∀ (upper : Bool) (value : Fin 16),
      (Text.hexValue? (Digit.spelled upper value)).isSome = true := by decide
  have octal : ∀ (upper : Bool) (value : Fin 8),
      (decide ('0' ≤ Digit.spelled upper value) && decide (Digit.spelled upper value ≤ '7')) =
        true := by decide
  have binary : ∀ (upper : Bool) (value : Fin 2),
      (Digit.spelled upper value == '0' || Digit.spelled upper value == '1') = true := by decide
  cases radix with
  | hexadecimal =>
    exact ⟨_, by cases upper <;> rfl, fun digit => hexadecimal digit.upper digit.value, rfl, rfl⟩
  | octal =>
    exact ⟨_, by cases upper <;> rfl, fun digit => octal digit.upper digit.value, rfl, rfl⟩
  | binary =>
    exact ⟨_, by cases upper <;> rfl, fun digit => binary digit.upper digit.value, rfl, rfl⟩

/-- A token is read as a whole number up to its last character. -/
theorem number?_text (token : IntegerToken) (stops : Stops rest) :
    number? (token.text ++ rest) = some (false, rest) := by
  cases token with
  | decimal first digits trailing =>
    have unbased := based?_decimal first.char digits trailing stops
    have read := skipDigits_flatMap digits trailing stops
    rw [text, cons_append, append_assoc]
    generalize digits.flatMap Digit.text ++ (ending trailing ++ rest) = more at unbased read ⊢
    have read : digits? (first.char :: more) = some rest := by
      rw [digits?, if_pos (isDigit_char first), read]
    have whole : fractional? (first.char :: more) = none := by
      unfold fractional?
      rw [read]
      cases stops <;> rfl
    rw [number?, whole, unbased, read]
    cases stops <;> rfl
  | based radix upper first digits =>
    obtain ⟨isDigit, announced, known, others⟩ := exists_baseDigits? radix upper
    have skipped := skipBased_flatMap (Radix.base_le radix) known others (first :: digits) stops
    have whole (more : List Char) : fractional? ('0' :: radix.letter upper :: more) = none := by
      cases radix <;> cases upper <;> rfl
    have shorter : rest.length < ((first :: digits).flatMap Digit.text ++ rest).length := by
      have filled : 0 < first.text.length := by
        rw [Digit.text]
        split <;> exact Nat.succ_pos _
      rw [flatMap_cons, length_append, length_append]
      omega
    have read : based? ('0' :: radix.letter upper ::
        ((first :: digits).flatMap Digit.text ++ rest)) = some rest := by
      rw [based?, announced]
      show (if (skipBased isDigit _).length < _ then
        some (skipOne ['l', 'L'] (skipBased isDigit _)) else none) = _
      rw [skipped, if_pos shorter]
      cases stops <;> rfl
    rw [text, cons_append, cons_append, number?, whole, read]

theorem exists_digit (token : IntegerToken) :
    ∃ c more, token.text = c :: more ∧ c.isDigit = true := by
  cases token with
  | decimal first _ _ => exact ⟨_, _, rfl, isDigit_char first⟩
  | based => exact ⟨_, _, rfl, rfl⟩

theorem atom_text (token : IntegerToken) (stops : Stops rest) {fuel : Nat} {bracketed : Bool} :
    atom (fuel + 1) bracketed (token.text ++ rest) = some (.integer token.text, rest) := by
  obtain ⟨c, more, shown, digit⟩ := token.exists_digit
  have unquoted : opening? (token.text ++ rest) = none := by
    rw [shown]
    exact opening?_of_isDigit digit _
  unfold atom
  rw [unquoted, token.number?_text stops]
  show some (Term.integer (between (token.text ++ rest) rest), rest) = _
  rw [between_append]

theorem begins_text (token : IntegerToken) (rest : List Char) :
    Begins (token.text ++ rest) ∧ sign? (token.text ++ rest) = none := by
  obtain ⟨c, more, shown, digit⟩ := token.exists_digit
  rw [shown]
  exact ⟨.of_wordless (opens_of_isDigit digit) (not_startsWord_of_isDigit digit) _,
    sign?_of_ne (ne_of_kind digit rfl) (ne_of_kind digit rfl) (ne_of_kind digit rfl) _⟩

/-- The term that a token with a sign or without one is read as. -/
def term (negative : Bool) (token : IntegerToken) : Term :=
  if negative then .unary (token.signedText true) "-" (.integer token.text)
  else .integer token.text

theorem readLiteral_term (negative : Bool) (token : IntegerToken) :
    readLiteral (token.term negative) = readInteger negative token.text := by
  cases negative <;> rfl

theorem phrase_term (negative : Bool) (token : IntegerToken) :
    Phrase (token.signedText negative) (token.term negative) := by
  cases negative with
  | false =>
    obtain ⟨c, more, shown, -⟩ := token.exists_digit
    have nonempty : token.text ≠ [] := shown ▸ cons_ne_nil c more
    exact .of_atom nonempty (fun {rest} _ => (token.begins_text rest).1)
      (fun rest => (token.begins_text rest).2) fun stops => token.atom_text stops
  | true =>
    have begins (rest : List Char) : Begins ('-' :: token.text ++ rest) := .of_wordless rfl rfl _
    refine ⟨fun {rest} _ => begins rest, fun {fuel bracketed rest} enough stops => ?_⟩
    have enough : 8 * (token.text.length + 1) ≤ fuel := enough
    obtain ⟨less, rfl⟩ : ∃ less, fuel = less + 7 := ⟨fuel - 7, by omega⟩
    obtain ⟨inner, unsigned⟩ := token.begins_text rest
    have read : primary (less + 4) bracketed 20 (token.text ++ rest) =
        some (.integer token.text, rest) := by
      refine primary_of_operand inner stops 20 ?_
      rw [operand_of_atom inner unsigned (token.atom_text stops)]
      exact applied_of_stops stops
    refine expression_of_operand (begins rest) stops ?_
    rw [operand]
    show (primary (less + 4) bracketed 20 (token.text ++ rest)).bind _ = _
    rw [read]
    show some (Term.unary (between ('-' :: token.text ++ rest) rest) "-" (.integer token.text),
      rest) = _
    rw [between_append]
    rfl

/-! ### Literals -/

theorem exists_text_eq (n : Nat) :
    ∃ token : IntegerToken, token.text = Nat.toDigits 10 n ∧ token.value = n := by
  suffices plain : ∃ first rest, (decimal first rest false).text = Nat.toDigits 10 n ∧
      (decimal first rest false).value = n by
    obtain ⟨first, rest, known⟩ := plain
    exact ⟨decimal first rest false, known⟩
  induction n using Nat.strongRecOn with
  | ind n ih =>
    by_cases small : n < 10
    · rw [Nat.toDigits_of_lt_base small]
      exact ⟨⟨⟨n, small⟩, false, false⟩, [], rfl, Nat.ofDigits_singleton⟩
    · rw [Nat.toDigits_of_base_le (by decide) (Nat.le_of_not_lt small)]
      obtain ⟨first, rest, shown, known⟩ := ih (n / 10) (by omega)
      refine ⟨first, rest ++ [⟨⟨n % 10, by omega⟩, false, false⟩], ?_, ?_⟩
      · rw [← shown, text, text, flatMap_append, ending, if_neg Bool.false_ne_true, append_nil,
          append_nil]
        rfl
      · rw [value, Digit.number] at known ⊢
        rw [← cons_append, map_append, reverse_append, map_singleton,
          reverse_singleton, singleton_append, Nat.ofDigits_cons, known]
        exact Nat.mod_add_div n 10

/-- The text of an integer is one of those that stand for it. -/
theorem exists_signedText_eq (number : Int) : ∃ negative, ∃ token : IntegerToken,
    (Value.int number).text.toList = token.signedText negative ∧
      token.signedValue negative = number := by
  cases number with
  | ofNat n =>
    obtain ⟨token, shown, known⟩ := exists_text_eq n
    exact ⟨false, token, Nat.toList_repr.trans shown.symm, congrArg Int.ofNat known⟩
  | negSucc n =>
    obtain ⟨token, shown, known⟩ := exists_text_eq (n + 1)
    refine ⟨true, token, ?_, ?_⟩
    · show ("-" ++ (n + 1).repr).toList = '-' :: token.text
      rw [String.toList_append, Nat.toList_repr, shown]
      rfl
    · show -(token.value : Int) = Int.negSucc n
      rw [known]
      rfl

end IntegerToken

end CallGuard
