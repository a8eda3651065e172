/-
What a parser of hints has to do. The texts that hints are made of are given
rule by rule, each with its term, and a parser will do for reading hints if it
takes each of them for that one term. The grammar here is such a parser. What
is read is stated about any of them, so nothing else that a parser does matters
for it. An integer in a literal is read as its number, or refused.
-/
import CallGuard.Proofs.Integers

namespace CallGuard

open List Lexeme

namespace Grammar

/-- The texts that hints are made of, with the terms they stand for. -/
inductive Derives : List Char → Term → Prop
  | word {name : String} (member : name ∈ Hint.words) : Derives name.toList (ofWord name)
  | quoted (bytes : Bool) {quote : Char} (quotes : quote = '\'' ∨ quote = '"')
    {units : List (List Char)} (each : ∀ unit ∈ units, StringUnit quote unit) :
    Derives (mark bytes ++ quote :: (units.flatten ++ [quote]))
      (.quoted (mark bytes ++ quote :: (units.flatten ++ [quote])))
  | integer (negative : Bool) (token : IntegerToken) :
    Derives (token.signedText negative) (token.term negative)
  | unit : Derives "()".toList (.tuple "()".toList true true)
  | dots : Derives "...".toList .ellipsis
  | subscripted {name : String} (member : name ∈ Hint.words)
    (named : name ∉ ["None", "True", "False"]) {parts : List String} {terms : List Term}
    (nonempty : parts ≠ []) (paired : parts.length = terms.length)
    (each : ∀ part term, (part, term) ∈ parts.zip terms → Derives part.toList term) :
    Derives (Hint.subscripted name parts).toList
      (.subscript (Hint.subscripted name parts).toList (.name name.toList) terms)

/-- What reading hints asks of a parser. -/
def Parses (parse : List Char → Option Outline) : Prop :=
  ∀ piece term, Derives piece term → parse piece = some (.single term)

/-! ### The grammar -/

variable {piece : List Char} {term : Term}

theorem exists_phrases {parts : List String} {terms : List Term} (nonempty : parts ≠ [])
    (paired : parts.length = terms.length)
    (each : ∀ part term, (part, term) ∈ parts.zip terms → Phrase part.toList term) :
    ∃ first others term more, parts = first :: others ∧ terms = term :: more ∧
      Phrase first.toList term ∧ List.Forall₂ Phrase (others.map String.toList) more := by
  obtain ⟨first, others, rfl⟩ := exists_cons_of_ne_nil nonempty
  cases terms with
  | nil => cases paired
  | cons term more =>
    refine ⟨first, others, term, more, rfl, rfl, each _ _ mem_cons_self, ?_⟩
    rw [forall₂_map_left_iff, forall₂_iff_zip]
    exact ⟨Nat.succ.inj paired, fun found => each _ _ (mem_cons_of_mem _ found)⟩

theorem Derives.phrase (derives : Derives piece term) : Phrase piece term := by
  induction derives with
  | word member =>
    obtain ⟨worded, free, -⟩ := Hint.worded_of_mem member
    exact phrase_of_worded worded free
  | quoted _ quotes each => exact phrase_of_units quotes each
  | integer negative token => exact token.phrase_term negative
  | unit => exact phrase_of_unit
  | dots => exact phrase_of_dots
  | subscripted member named nonempty paired _ ih =>
    obtain ⟨worded, free, -⟩ := Hint.worded_of_mem member
    obtain ⟨_, _, _, _, rfl, rfl, phrase, phrases⟩ := exists_phrases nonempty paired ih
    rw [← Hint.ofWord_eq named]
    exact phrase_of_subscripted worded free phrase phrases

/-- Only two texts begin with the word of a statement about types: the word by itself and with parts
between brackets. Neither is one. -/
theorem Derives.outline_eq (derives : Derives piece term) :
    outline piece = some (.single term) := by
  refine outline_of_phrase derives.phrase fun fuel after enough found => ?_
  cases derives with
  | word member =>
    have first := (Hint.worded_of_mem member).1.leadingWord?_eq (.stops .nil)
    rw [append_nil, found] at first
    cases first
    exact looseStatement?_nil
  | quoted _ quotes each =>
    rw [leadingWord?_of_opening (opening?_of_units quotes each .nil)] at found
    cases found
  | integer negative token =>
    cases negative with
    | false =>
      obtain ⟨c, more, shown, digit⟩ := token.exists_digit
      rw [IntegerToken.signedText, if_neg Bool.false_ne_true, shown,
        leadingWord?_eq_none (not_startsWord_of_isDigit digit)] at found
      cases found
    | true => cases found
  | unit => cases found
  | dots => cases found
  | @subscripted name member named parts terms nonempty paired each =>
    obtain ⟨first, others, _, _, rfl, rfl, phrase, phrases⟩ :=
      exists_phrases nonempty paired fun _ _ found => (each _ _ found).phrase
    have shown := toList_subscripted name first others []
    rw [append_nil] at shown
    rw [shown, (Hint.worded_of_mem member).1.leadingWord?_eq (.opens _)] at found
    cases found
    have length := congrArg length shown
    simp only [length_append, length_cons] at length
    exact looseStatement?_of_listed phrase phrases (by rw [length_append]; omega)

theorem parses_outline : Parses outline := fun _ _ derives => derives.outline_eq

end Grammar

/-! ### Literals with one value -/

open Grammar

namespace Hint

variable {parse : List Char → Option Outline} {text : String} {term : Term}

theorem readWith_eq (parses : Parses parse) (derives : Derives text.toList term) (scope : Scope) :
    readWith parse scope text = ofTerm scope term := by
  rw [readWith, parses _ _ derives]

/-- A literal with one value is read as that value. -/
theorem readWith_literal_eq (parses : Parses parse) (derives : Derives text.toList term)
    (scope : Scope) :
    readWith parse scope ("Literal[" ++ text ++ "]") =
      readLiteral term >>= fun value => pure (literal [value]) := by
  have member : "Literal" ∈ words := by decide
  have whole : Derives (subscripted "Literal" [text]).toList
      (.subscript (subscripted "Literal" [text]).toList (.name "Literal".toList) [term]) := by
    refine .subscripted member (by decide) (cons_ne_nil _ _) rfl fun part other found => ?_
    cases mem_singleton.mp found
    exact derives
  have proper := (worded_of_mem member).2.2
  have designated : designation? "Literal" = some .literal := rfl
  have shown : subscripted "Literal" [text] = "Literal[" ++ text ++ "]" := rfl
  rw [← shown, readWith_eq parses whole, ofTerm, proper, subscript, designated]
  simp

end Hint

open Hint

namespace IntegerToken

/-- An integer in a literal, in any base and with or without a minus sign, is read as the number it
stands for if that lies between the least and the greatest of 64 bits. All others are refused. -/
theorem read_integer_literal (scope : Scope) (negative : Bool) (token : IntegerToken)
    (world : World) :
    let number := token.signedValue negative
    let reading :=
      Hint.read scope ("Literal[" ++ String.ofList (token.signedText negative) ++ "]")
    if -2 ^ 63 ≤ number ∧ number < 2 ^ 63 then
      reading.Ends world (.literal [.int number]) world
    else
      reading.Fails world (.unreadable (.outOfRange
        (String.ofList ((token.signedText negative).filter (· ≠ '_'))))) world := by
  intro number reading
  have derives :
      Derives (String.ofList (token.signedText negative)).toList (token.term negative) := by
    rw [String.toList_ofList]
    exact .integer negative token
  have read : reading =
      readInteger negative token.text >>= fun value => pure (.literal [value]) := by
    rw [← readLiteral_term]
    exact readWith_literal_eq parses_outline derives scope
  rw [read, readInteger_text]
  dsimp only
  by_cases fits : -2 ^ 63 ≤ number ∧ number < 2 ^ 63
  · rw [if_pos fits, if_pos fits]
    rfl
  · rw [if_neg fits, if_neg fits]
    rfl

end IntegerToken

end CallGuard
