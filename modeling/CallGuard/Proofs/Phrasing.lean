/-
How the text of a hint is read as a term. Names, numbers, quoted texts and what
stands between square brackets each are read up to their last character, as
long as a comma, a closing bracket or nothing follows. The fuel that is asked
for grows with the text, and there is more of it than the text needs.
-/
import Mathlib.Data.List.TakeWhile
import CallGuard.Hint.Reading
import CallGuard.Proofs.Resemblance

namespace CallGuard

open Text List

/-! ### What may follow a phrase -/

namespace Lexeme

/-- Nothing, a comma or a closing bracket. -/
inductive Stops : List Char → Prop
  | nil : Stops []
  | comma (rest : List Char) : Stops (',' :: rest)
  | bracket (rest : List Char) : Stops (']' :: rest)

theorem between_append (piece rest : List Char) : between (piece ++ rest) rest = piece := by
  rw [between, length_append, Nat.add_sub_cancel, take_left]

namespace Stops

variable {rest : List Char}

theorem skipGap_eq (stops : Stops rest) : skipGap rest = rest := by cases stops <;> rfl

theorem ahead_eq (stops : Stops rest) (bracketed : Bool) : ahead bracketed rest = rest := by
  cases stops <;> cases bracketed <;> rfl

theorem opening?_eq (stops : Stops rest) : opening? rest = none := by cases stops <;> rfl

theorem word?_eq (stops : Stops rest) : word? rest = none := by cases stops <;> rfl

theorem comparison?_eq (stops : Stops rest) : Grammar.comparison? rest = none := by
  cases stops <;> rfl

theorem operator?_eq (stops : Stops rest) (floor : Nat) : Grammar.operator? floor rest = none := by
  cases stops <;> rfl

theorem startsComprehension_eq (stops : Stops rest) : Grammar.startsComprehension rest = false := by
  cases stops <;> rfl

end Stops

end Lexeme

/-! ### First characters -/

namespace Lexeme

variable {c d : Char}

theorem ne_of_kind {kind : Char → Bool} (here : kind c = true) (there : kind d = false) :
    c ≠ d := by
  rintro rfl
  cases here.symm.trans there

/-- The characters that hints, literal values and lists begin with. -/
def opens (c : Char) : Bool := c.isAlphanum || ['\'', '"', '-', '(', '[', '.'].contains c

/-- No gap begins with such a character. -/
theorem gap_of_opens (first : opens c = true) (rest : List Char) :
    gap (c :: rest) = ⟨none, false, c :: rest⟩ := by
  have noSpace : isSpacing c = false := by
    have each : ∀ number ∈ [0x09, 0x0c, 0x0d, 0x20, 0xfeff, 0x2060, 0x200b],
        opens (Char.ofNat number) = false := by decide
    cases spacing : isSpacing c with
    | false => rfl
    | true =>
      have other := each c.toNat (contains_iff_mem.mp spacing)
      rw [Char.ofNat_toNat] at other
      cases first.symm.trans other
  have noBackslash : c ≠ '\\' := ne_of_kind first rfl
  have noBreak : c ≠ '\n' := ne_of_kind first rfl
  have noComment : c ≠ '#' := ne_of_kind first rfl
  rw [gap]
  unfold gapFrom
  split <;> simp_all

theorem afterSymbol?_eq_none {symbol : String} {more : List Char}
    (shown : symbol.toList = d :: more) (differ : c ≠ d) (rest : List Char) :
    afterSymbol? symbol (c :: rest) = none := by
  rw [afterSymbol?]
  cases read : symbol? (c :: rest) with
  | none => rfl
  | some found =>
    obtain ⟨found, after⟩ := found
    refine if_neg ?_
    rintro rfl
    rw [symbol?] at read
    obtain ⟨other, -, hit⟩ := exists_of_findSome?_eq_some read
    split at hit
    · rename_i starts
      cases hit
      rw [shown, isPrefixOf_cons_cons, Bool.and_eq_true, beq_iff_eq] at starts
      exact differ starts.1.symm
    · cases hit

theorem leadingWord?_eq_none (wordless : startsWord c = false) (rest : List Char) :
    Grammar.leadingWord? (c :: rest) = none := by
  rw [Grammar.leadingWord?, word?, wordless]
  exact ite_self none

end Lexeme

/-! ### From atoms to expressions -/

namespace Grammar

open Lexeme

/-- The words that begin something else than a name. -/
def reserved : List String :=
  ["not", "lambda", "await", "yield", "async", "print", "pass", "break", "continue", "return",
    "raise", "del", "assert", "global", "nonlocal", "import", "from", "if", "while", "for", "with",
    "try", "def", "class"]

/-- An operand begins here, and nothing that gives a value to a name. -/
structure Begins (start : List Char) : Prop where
  first : ∃ c more, start = c :: more ∧ opens c = true
  unnamed : ∀ bracketed, namedValue? bracketed start = none
  unreserved : ∀ word rest, leadingWord? start = some (word, rest) → word ∉ reserved

namespace Begins

variable {start : List Char}

theorem gap_eq (begins : Begins start) : gap start = ⟨none, false, start⟩ := by
  obtain ⟨c, more, rfl, first⟩ := begins.first
  exact gap_of_opens first more

theorem skipGap_eq (begins : Begins start) : skipGap start = start := by
  rw [skipGap, begins.gap_eq]

theorem ne_cons (begins : Begins start) {c : Char} (other : opens c = false) (more : List Char) :
    start ≠ c :: more := by
  obtain ⟨d, more', rfl, first⟩ := begins.first
  intro same
  exact ne_of_kind first other (cons.inj same).1

theorem unstarred (begins : Begins start) : afterSymbol? "*" start = none := by
  obtain ⟨c, more, rfl, first⟩ := begins.first
  exact afterSymbol?_eq_none rfl (ne_of_kind first rfl) more

theorem of_wordless {c : Char} (first : opens c = true) (wordless : startsWord c = false)
    (more : List Char) : Begins (c :: more) := by
  have nothing := leadingWord?_eq_none wordless more
  refine ⟨⟨c, more, rfl, first⟩, fun bracketed => ?_, fun word rest found => ?_⟩
  · rw [namedValue?, nothing]
    rfl
  · cases nothing.symm.trans found

end Begins

variable {fuel : Nat} {bracketed : Bool} {start rest : List Char} {term : Term}

theorem applied_of_stops (stops : Stops rest) :
    applied (fuel + 1) bracketed start term rest = some (term, rest) := by
  rw [applied, stops.ahead_eq]
  cases stops <;> rfl

theorem binaries_of_stops (stops : Stops rest) (floor : Nat) :
    binaries (fuel + 1) bracketed floor start term rest = some (term, rest) := by
  rw [binaries, stops.ahead_eq, stops.operator?_eq]

theorem operators_of_stops (stops : Stops rest) (floor : Nat) :
    operators (fuel + 1) bracketed floor start true term rest = some (term, rest) := by
  rw [operators, stops.ahead_eq]
  simp only [stops.comparison?_eq, stops.word?_eq, ite_self]

theorem primary_of_operand (begins : Begins start) (stops : Stops rest) (floor : Nat)
    (read : operand (fuel + 1) bracketed start = some (term, rest)) :
    primary (fuel + 2) bracketed floor start = some (term, rest) := by
  rw [primary, begins.skipGap_eq, read]
  exact binaries_of_stops stops floor

theorem expression_of_operand (begins : Begins start) (stops : Stops rest)
    (read : operand (fuel + 1) bracketed start = some (term, rest)) :
    expression (fuel + 3) bracketed 0 start = some (term, rest) := by
  rw [expression, begins.skipGap_eq]
  simp only [begins.unnamed]
  split
  · rename_i found
    exact absurd (by decide) (begins.unreserved _ _ found)
  · rename_i found
    exact absurd (by decide) (begins.unreserved _ _ found)
  · rw [primary_of_operand begins stops 14 read]
    exact operators_of_stops stops 0

/-- An atom is an operand together with what is applied to it. -/
theorem operand_of_atom (begins : Begins start) (unsigned : sign? start = none)
    (read : atom fuel bracketed start = some (term, rest)) :
    operand (fuel + 1) bracketed start = applied fuel bracketed start term rest := by
  rw [operand, unsigned, begins.unstarred]
  dsimp only
  split
  · rename_i found
    exact absurd (by decide) (begins.unreserved _ _ found)
  · rw [read]
    rfl

/-- A text that is read as a term wherever it may end. -/
structure Phrase (piece : List Char) (term : Term) : Prop where
  begins : ∀ {rest : List Char}, Stops rest → Begins (piece ++ rest)
  reads : ∀ {fuel : Nat} {bracketed : Bool} {rest : List Char}, 8 * piece.length ≤ fuel →
    Stops rest → expression fuel bracketed 0 (piece ++ rest) = some (term, rest)

theorem Phrase.of_atom {piece : List Char} {term : Term} (nonempty : piece ≠ [])
    (begins : ∀ {rest : List Char}, Stops rest → Begins (piece ++ rest))
    (unsigned : ∀ rest, sign? (piece ++ rest) = none)
    (read : ∀ {fuel : Nat} {bracketed : Bool} {rest : List Char}, Stops rest →
      atom (fuel + 2) bracketed (piece ++ rest) = some (term, rest)) : Phrase piece term := by
  refine ⟨begins, fun {fuel bracketed rest} enough stops => ?_⟩
  have long : 0 < piece.length := length_pos_iff.mpr nonempty
  obtain ⟨less, rfl⟩ : ∃ less, fuel = less + 5 := ⟨fuel - 5, by omega⟩
  refine expression_of_operand (begins stops) stops ?_
  rw [operand_of_atom (begins stops) (unsigned _) (read stops)]
  exact applied_of_stops stops

end Grammar

/-! ### Names -/

namespace Lexeme

variable {c : Char}

theorem isAlpha_iff :
    c.isAlpha = true ↔ 65 ≤ c.toNat ∧ c.toNat ≤ 90 ∨ 97 ≤ c.toNat ∧ c.toNat ≤ 122 := by
  show (decide ('A'.val ≤ c.val ∧ c.val ≤ 'Z'.val) ||
    (decide ('a'.val ≤ c.val) && decide (c.val ≤ 'z'.val))) = true ↔ _
  simp only [Bool.or_eq_true, Bool.and_eq_true, decide_eq_true_eq, UInt32.le_iff_toNat_le]
  exact Iff.rfl

theorem small_of_isAlpha (letter : c.isAlpha = true) : c.toNat < 128 := by
  rw [isAlpha_iff] at letter
  omega

theorem opens_of_isAlpha (letter : c.isAlpha = true) : opens c = true := by
  rw [opens, Char.isAlphanum, letter, Bool.true_or, Bool.true_or]

theorem startsWord_of_isAlpha (letter : c.isAlpha = true) : startsWord c = true := by
  rw [startsWord, if_pos (small_of_isAlpha letter), letter, Bool.true_or]

theorem continuesWord_of_isAlpha (letter : c.isAlpha = true) :
    continuesWord c = true := by
  rw [continuesWord, if_pos (small_of_isAlpha letter), Char.isAlphanum, letter, Bool.true_or,
    Bool.true_or]

theorem not_isDigit_of_isAlpha (letter : c.isAlpha = true) : c.isDigit = false := by
  rw [isAlpha_iff] at letter
  have above : ¬ c.val ≤ '9'.val := by
    rw [UInt32.le_iff_toNat_le]
    show ¬ c.toNat ≤ 57
    omega
  rw [Char.isDigit, decide_eq_false above, Bool.and_false]

/-- What may follow a name. -/
inductive Follows : List Char → Prop
  | stops {rest : List Char} (stops : Stops rest) : Follows rest
  | opens (rest : List Char) : Follows ('[' :: rest)

namespace Follows

variable {rest : List Char}

theorem ahead_eq (follows : Follows rest) (bracketed : Bool) : ahead bracketed rest = rest := by
  cases follows with
  | stops stops => exact stops.ahead_eq bracketed
  | opens rest => cases bracketed <;> rfl

theorem afterSymbol?_eq (follows : Follows rest) : afterSymbol? ":=" rest = none := by
  cases follows with
  | stops stops => cases stops <;> rfl
  | opens rest => rfl

theorem ends (follows : Follows rest) : ∀ c ∈ rest.head?, continuesWord c = false := by
  cases follows with
  | stops stops => cases stops <;> rintro _ ⟨⟩ <;> rfl
  | opens rest =>
    rintro _ ⟨⟩
    rfl

end Follows

/-- A word of letters, not all of which can stand before a quote. -/
structure Worded (name : String) : Prop where
  nonempty : name.toList ≠ []
  letters : ∀ c ∈ name.toList, c.isAlpha = true
  unmarked : ∃ c ∈ name.toList, isStringMark c = false

namespace Worded

variable {name : String} {rest : List Char}

theorem exists_cons (worded : Worded name) :
    ∃ c letters, name.toList = c :: letters ∧ c.isAlpha = true ∧
      ∀ d ∈ letters, d.isAlpha = true := by
  cases shown : name.toList with
  | nil => exact absurd shown worded.nonempty
  | cons c letters =>
    have each := worded.letters
    rw [shown] at each
    exact ⟨c, letters, rfl, forall_mem_cons.mp each⟩

theorem word?_eq (worded : Worded name) (ends : ∀ c ∈ rest.head?, continuesWord c = false) :
    word? (name.toList ++ rest) = some (name, rest) := by
  obtain ⟨c, letters, shown, first, others⟩ := worded.exists_cons
  have all : ∀ d ∈ letters, continuesWord d = true :=
    fun d member => continuesWord_of_isAlpha (others d member)
  have stop : rest.takeWhile continuesWord = [] ∧ rest.dropWhile continuesWord = rest := by
    cases rest with
    | nil => exact ⟨rfl, rfl⟩
    | cons d rest =>
      have other := ends d rfl
      exact ⟨takeWhile_cons_of_neg (by simp [other]), dropWhile_cons_of_neg (by simp [other])⟩
  rw [shown, cons_append, word?, if_pos (startsWord_of_isAlpha first),
    takeWhile_append_of_pos all, dropWhile_append_of_pos all, stop.1, stop.2,
    append_nil, ← shown, String.ofList_toList]

theorem opening?_eq (worded : Worded name) (rest : List Char) :
    opening? (name.toList ++ rest) = none := by
  obtain ⟨marked, found, unmarked⟩ := worded.unmarked
  obtain ⟨c, more, shown⟩ : ∃ c more, name.toList.dropWhile isStringMark = c :: more := by
    refine exists_cons_of_ne_nil fun empty => ?_
    have all := dropWhile_eq_nil_iff.mp empty marked found
    cases all.symm.trans unmarked
  have letter : c.isAlpha = true := by
    refine worded.letters c ((dropWhile_sublist isStringMark).subset ?_)
    rw [shown]
    exact mem_cons_self
  have after : (name.toList ++ rest).dropWhile isStringMark = c :: (more ++ rest) := by
    rw [dropWhile_append, shown]
    rfl
  rw [opening?, after]
  split
  · rename_i same
    exact absurd (cons.inj same).1 (ne_of_kind letter rfl)
  · rename_i same
    exact absurd (cons.inj same).1 (ne_of_kind letter rfl)
  · rename_i same
    cases same
    refine if_neg ?_
    rintro (same | same | same)
    all_goals exact absurd same (ne_of_kind letter rfl)
  · rename_i same
    cases same

theorem number?_eq (worded : Worded name) (rest : List Char) :
    number? (name.toList ++ rest) = none := by
  obtain ⟨c, letters, shown, first, -⟩ := worded.exists_cons
  have noDigit := not_isDigit_of_isAlpha first
  rw [shown, cons_append, number?, fractional?, digits?, noDigit, based?]
  · rfl
  · intro letter more same
    exact absurd (cons.inj same).1 (ne_of_kind first rfl)
  · intro more same
    exact absurd (cons.inj same).1 (ne_of_kind first rfl)

theorem leadingWord?_eq (worded : Worded name) (follows : Follows rest) :
    Grammar.leadingWord? (name.toList ++ rest) = some (name, rest) := by
  rw [Grammar.leadingWord?, worded.opening?_eq]
  exact worded.word?_eq follows.ends

theorem sign?_eq (worded : Worded name) (rest : List Char) :
    Grammar.sign? (name.toList ++ rest) = none := by
  obtain ⟨c, letters, shown, first, -⟩ := worded.exists_cons
  rw [shown, cons_append]
  unfold Grammar.sign?
  split
  · rename_i same
    exact absurd (cons.inj same).1 (ne_of_kind first rfl)
  · rename_i same
    exact absurd (cons.inj same).1 (ne_of_kind first rfl)
  · rename_i same
    exact absurd (cons.inj same).1 (ne_of_kind first rfl)
  · rfl

theorem begins (worded : Worded name) (follows : Follows rest) (free : name ∉ Grammar.reserved) :
    Grammar.Begins (name.toList ++ rest) := by
  have found := worded.leadingWord?_eq follows
  refine ⟨?_, fun bracketed => ?_, fun word after other => ?_⟩
  · obtain ⟨c, letters, shown, first, -⟩ := worded.exists_cons
    exact ⟨c, letters ++ rest, by rw [shown, cons_append], opens_of_isAlpha first⟩
  · rw [Grammar.namedValue?, found]
    show (if _ then none else afterSymbol? ":=" (ahead bracketed rest)) = none
    rw [follows.ahead_eq, follows.afterSymbol?_eq, ite_self]
  · cases found.symm.trans other
    exact free

theorem atom_eq (worded : Worded name) (follows : Follows rest) {fuel : Nat} {bracketed : Bool} :
    Grammar.atom (fuel + 1) bracketed (name.toList ++ rest) = some (Grammar.ofWord name, rest) := by
  obtain ⟨c, letters, shown, first, -⟩ := worded.exists_cons
  have other (d : Char) (more : List Char) (mark : d.isAlpha = false)
      (same : name.toList ++ rest = d :: more) : False := by
    rw [shown] at same
    exact ne_of_kind first mark (cons.inj same).1
  rw [Grammar.atom, worded.opening?_eq, worded.number?_eq]
  · show Option.map _ (word? _) = _
    rw [worded.word?_eq follows.ends]
    rfl
  all_goals
    intro more same
    exact other _ _ rfl same

end Worded

end Lexeme

namespace Grammar

open Lexeme

variable {name : String}

theorem phrase_of_worded (worded : Worded name) (free : name ∉ reserved) :
    Phrase name.toList (ofWord name) :=
  .of_atom worded.nonempty (fun stops => worded.begins (.stops stops) free) worded.sign?_eq
    fun stops => worded.atom_eq (.stops stops)

/-! ### What stands between brackets -/

/-- The pieces of a list after its first one, each with its comma. -/
def continued (pieces : List (List Char)) : List Char :=
  pieces.flatMap fun piece => ',' :: ' ' :: piece

theorem toList_listed (first : String) (others : List String) :
    (Hint.listed (first :: others)).toList =
      first.toList ++ continued (others.map String.toList) := by
  rw [Hint.listed, String.toList_intercalate, map_cons]
  generalize first.toList = piece
  induction others generalizing piece with
  | nil => simp [continued]
  | cons second others ih =>
    rw [map_cons, intercalate_cons_cons, ih, append_assoc]
    rfl

theorem stops_continued (pieces : List (List Char)) (rest : List Char) :
    Stops (continued pieces ++ ']' :: rest) := by
  cases pieces with
  | nil => exact .bracket rest
  | cons piece pieces => exact .comma _

variable {fuel : Nat} {bracketed : Bool} {pieces : List (List Char)} {terms : List Term}

variable {term : Term} {rest start : List Char}

variable {piece : List Char}

theorem Phrase.slice_eq (phrase : Phrase piece term) (stops : Stops rest)
    (enough : 8 * piece.length ≤ fuel) :
    slice (fuel + 1) (piece ++ rest) = some (term, rest) := by
  have begins := phrase.begins stops
  rw [slice, begins.skipGap_eq]
  dsimp only
  split
  · rename_i same
    exact absurd same (begins.ne_cons rfl _)
  · rw [phrase.reads enough stops]
    dsimp only [Option.bind_eq_bind, Option.bind_some]
    rw [stops.skipGap_eq]
    cases stops <;> rfl

theorem Phrase.element_eq (phrase : Phrase piece term) (stops : Stops rest)
    (enough : 8 * piece.length ≤ fuel) (here : skipGap start = piece ++ rest) :
    element (fuel + 1) start = some (term, rest) := by
  have begins := phrase.begins stops
  rw [element, here, begins.unstarred]
  dsimp only
  split
  · rename_i found
    exact absurd (by decide) (begins.unreserved _ _ found)
  · exact phrase.reads enough stops

theorem continued_cons (piece : List Char) (pieces : List (List Char)) (rest : List Char) :
    continued (piece :: pieces) ++ rest = ',' :: ' ' :: (piece ++ (continued pieces ++ rest)) := by
  rw [continued, flatMap_cons, append_assoc]
  rfl

theorem subscripts_of_phrases (phrase : Phrase piece term)
    (phrases : List.Forall₂ Phrase pieces terms)
    (enough : 8 * (piece ++ continued pieces).length + 2 ≤ fuel) (rest : List Char) :
    subscripts fuel (piece ++ (continued pieces ++ ']' :: rest)) = some (term :: terms, rest) := by
  induction phrases generalizing piece term fuel with
  | nil =>
    rw [length_append] at enough
    obtain ⟨less, rfl⟩ : ∃ less, fuel = less + 2 := ⟨fuel - 2, by omega⟩
    rw [subscripts, phrase.slice_eq (stops_continued [] rest) (by omega)]
    rfl
  | @cons second term' pieces terms next others ih =>
    have stops := stops_continued (second :: pieces) rest
    have begins := next.begins (stops_continued pieces rest)
    have space : skipGap (' ' :: (second ++ (continued pieces ++ ']' :: rest))) =
        second ++ (continued pieces ++ ']' :: rest) := begins.skipGap_eq
    have length := congrArg length (continued_cons second pieces [])
    simp only [append_nil, length_append, length_cons] at length enough
    obtain ⟨less, rfl⟩ : ∃ less, fuel = less + 2 := ⟨fuel - 2, by omega⟩
    rw [subscripts, phrase.slice_eq stops (by omega)]
    dsimp only [Option.bind_eq_bind, Option.bind_some]
    rw [stops.skipGap_eq, continued_cons]
    split
    case h_1 same => exact absurd (head_eq_of_cons_eq same) (by decide)
    case h_3 other => exact absurd rfl (other _)
    case h_2 same =>
      cases same
      rw [space]
      split
      · rename_i same
        exact absurd same (begins.ne_cons rfl _)
      · rw [ih next (by rw [length_append]; omega)]
        rfl

theorem elements_of_phrases (phrases : List.Forall₂ Phrase pieces terms)
    (enough : 8 * (continued pieces).length + 2 ≤ fuel) (rest : List Char) :
    elements fuel ']' (continued pieces ++ ']' :: rest) = some (terms, rest) := by
  induction phrases generalizing fuel with
  | nil =>
    obtain ⟨less, rfl⟩ : ∃ less, fuel = less + 2 := ⟨fuel - 2, by omega⟩
    rw [elements]
    rfl
  | @cons piece term pieces terms phrase others ih =>
    have stops := stops_continued pieces rest
    have begins := phrase.begins stops
    have space : skipGap (' ' :: (piece ++ (continued pieces ++ ']' :: rest))) =
        piece ++ (continued pieces ++ ']' :: rest) := begins.skipGap_eq
    have length := congrArg length (continued_cons piece pieces [])
    simp only [append_nil, length_append, length_cons] at length
    obtain ⟨less, rfl⟩ : ∃ less, fuel = less + 2 := ⟨fuel - 2, by omega⟩
    have read : element (less + 1) (' ' :: (piece ++ (continued pieces ++ ']' :: rest))) = _ :=
      phrase.element_eq stops (by omega) space
    rw [elements, (stops_continued (piece :: pieces) rest).skipGap_eq, continued_cons]
    dsimp only
    rw [if_neg (by decide), if_pos rfl, space]
    obtain ⟨c, more, shown, first⟩ := begins.first
    rw [shown]
    dsimp only
    rw [if_neg (ne_of_kind first rfl), ← shown, read]
    dsimp only [Option.bind_eq_bind, Option.bind_some]
    rw [ih (by omega)]
    rfl

theorem toList_subscripted (name first : String) (others : List String) (rest : List Char) :
    (Hint.subscripted name (first :: others)).toList ++ rest =
      name.toList ++ '[' :: (first.toList ++
        (continued (others.map String.toList) ++ ']' :: rest)) := by
  simp [Hint.subscripted, String.toList_append, toList_listed]

theorem applied_of_subscripts {after : List Char}
    (inside : subscripts fuel after = some (terms, rest)) :
    applied (fuel + 1) bracketed start term ('[' :: after) =
      applied fuel bracketed start (.subscript (between start rest) term terms) rest := by
  rw [applied, (Follows.opens _).ahead_eq]
  show (subscripts fuel after).bind _ = _
  rw [inside]
  rfl

/-- A name with phrases between brackets is read as such. -/
theorem phrase_of_subscripted {name : String} (worded : Worded name) (free : name ∉ reserved)
    {first : String} {others : List String} (phrase : Phrase first.toList term)
    (phrases : List.Forall₂ Phrase (others.map String.toList) terms) :
    Phrase (Hint.subscripted name (first :: others)).toList
      (.subscript (Hint.subscripted name (first :: others)).toList (ofWord name)
        (term :: terms)) := by
  have shown := toList_subscripted name first others
  have begins {rest : List Char} (stops : Stops rest) :
      Begins ((Hint.subscripted name (first :: others)).toList ++ rest) := by
    rw [shown]
    exact worded.begins (.opens _) free
  refine ⟨begins, fun {fuel bracketed rest} enough stops => ?_⟩
  have length := congrArg length (shown [])
  simp only [append_nil, length_append, length_cons, length_nil] at length
  obtain ⟨less, rfl⟩ : ∃ less, fuel = less + 5 := ⟨fuel - 5, by omega⟩
  refine expression_of_operand (begins stops) stops ?_
  have read : atom (less + 2) bracketed ((Hint.subscripted name (first :: others)).toList ++ rest) =
      some (ofWord name, '[' :: (first.toList ++
        (continued (others.map String.toList) ++ ']' :: rest))) := by
    rw [shown]
    exact worded.atom_eq (.opens _)
  have unsigned : sign? ((Hint.subscripted name (first :: others)).toList ++ rest) = none := by
    rw [shown]
    exact worded.sign?_eq _
  have inside : subscripts (less + 1) (first.toList ++
      (continued (others.map String.toList) ++ ']' :: rest)) = some (term :: terms, rest) :=
    subscripts_of_phrases phrase phrases (by rw [length_append]; omega) rest
  rw [operand_of_atom (begins stops) unsigned read, applied_of_subscripts inside, between_append]
  exact applied_of_stops stops

theorem listDisplay_of_phrases (phrase : Phrase piece term)
    (phrases : List.Forall₂ Phrase pieces terms)
    (enough : 8 * (piece ++ continued pieces).length + 3 ≤ fuel) (rest : List Char) :
    ∃ list, listDisplay fuel start (piece ++ (continued pieces ++ ']' :: rest)) =
      some (list, rest) := by
  rw [length_append] at enough
  obtain ⟨less, rfl⟩ : ∃ less, fuel = less + 2 := ⟨fuel - 2, by omega⟩
  have stops := stops_continued pieces rest
  have begins := phrase.begins stops
  rw [listDisplay, begins.skipGap_eq]
  split
  · rename_i same
    exact absurd same (begins.ne_cons rfl _)
  · rw [phrase.element_eq stops (by omega) begins.skipGap_eq]
    dsimp only [Option.bind_eq_bind, Option.bind_some]
    rw [stops.skipGap_eq, stops.startsComprehension_eq, elements_of_phrases phrases (by omega)]
    exact ⟨_, rfl⟩

/-- Phrases between brackets are a list where no name stands before them. -/
theorem expression_of_listed (phrase : Phrase piece term)
    (phrases : List.Forall₂ Phrase pieces terms)
    (enough : 8 * (piece ++ continued pieces).length + 8 ≤ fuel) :
    ∃ list, expression fuel bracketed 0 ('[' :: (piece ++ (continued pieces ++ [']']))) =
      some (list, []) := by
  obtain ⟨less, rfl⟩ : ∃ less, fuel = less + 5 := ⟨fuel - 5, by omega⟩
  obtain ⟨list, display⟩ : ∃ list, listDisplay (less + 1) ('[' :: (piece ++ (continued pieces ++
      [']']))) (piece ++ (continued pieces ++ [']'])) = some (list, []) :=
    listDisplay_of_phrases phrase phrases (by omega) []
  have begins : Begins ('[' :: (piece ++ (continued pieces ++ [']']))) := .of_wordless rfl rfl _
  have read : atom (less + 2) bracketed ('[' :: (piece ++ (continued pieces ++ [']']))) =
      some (list, []) := by
    rw [atom]
    exact display
  refine ⟨list, expression_of_operand begins .nil ?_⟩
  rw [operand_of_atom begins rfl read]
  exact applied_of_stops .nil

/-! ### Texts with one phrase -/

section Outline

variable {piece : List Char} {term : Term}

theorem Phrase.begins_alone (phrase : Phrase piece term) : Begins piece := by
  have begins := phrase.begins .nil
  rwa [append_nil] at begins

theorem Phrase.listed_eq (phrase : Phrase piece term) (enough : 8 * piece.length ≤ fuel) :
    listed (fuel + 1) false piece = some ([term], []) := by
  have begins := phrase.begins_alone
  have read : expression fuel false 0 piece = some (term, []) := by
    rw [← append_nil piece]
    exact phrase.reads enough .nil
  rw [listed, begins.skipGap_eq]
  dsimp only
  split
  · rename_i found
    exact absurd (by decide) (begins.unreserved _ _ found)
  · rw [read]
    rfl

theorem Phrase.expressionStatement_eq (phrase : Phrase piece term)
    (enough : 8 * piece.length ≤ fuel) :
    expressionStatement (fuel + 1) piece = some (some term, []) := by
  rw [expressionStatement, phrase.begins_alone.skipGap_eq, phrase.listed_eq enough]
  rfl

theorem Phrase.clauseStart?_eq (phrase : Phrase piece term) : clauseStart? false piece = none := by
  rw [clauseStart?]
  cases read : leadingWord? piece with
  | none => rfl
  | some found =>
    obtain ⟨word, after⟩ := found
    have other := phrase.begins_alone.unreserved word after read
    simp only [reserved, mem_cons, not_mem_nil, or_false, not_or] at other
    simp [clause?, other]

theorem Phrase.simpleStatement_eq (phrase : Phrase piece term)
    (enough : 8 * piece.length ≤ fuel)
    (plain : ∀ after, leadingWord? piece = some ("type", after) →
      looseStatement? (fuel + 1) "type" after = none) :
    simpleStatement (fuel + 1) piece = some (some term, []) := by
  have statement := phrase.expressionStatement_eq enough
  rw [simpleStatement, phrase.begins_alone.skipGap_eq]
  dsimp only
  cases read : leadingWord? piece with
  | none => exact statement
  | some found =>
    obtain ⟨word, after⟩ := found
    have other := phrase.begins_alone.unreserved word after read
    simp only [reserved, mem_cons, not_mem_nil, or_false, not_or] at other
    have free : isKeyword word = false := by simp [isKeyword, other]
    have finished : isOver [] = true := rfl
    dsimp only
    rw [free, statement]
    by_cases same : word = "type"
    · subst same
      simp [plain after read, finished]
    · simp [same, other, finished]

/-- A text with a single phrase in it, unless it begins with a statement about types. -/
theorem outline_of_phrase (phrase : Phrase piece term)
    (plain : ∀ fuel after, 8 * piece.length ≤ fuel → leadingWord? piece = some ("type", after) →
      looseStatement? (fuel + 1) "type" after = none) : outline piece = some (.single term) := by
  have begins := phrase.begins_alone
  obtain ⟨less, enough, fuel⟩ : ∃ less, 8 * piece.length ≤ less ∧
      16 * (piece.length + 4) = less + 3 := ⟨16 * (piece.length + 4) - 3, by omega, by omega⟩
  have line : simpleStatements (less + 2) .empty piece = some (.single term, []) := by
    rw [simpleStatements, phrase.simpleStatement_eq enough (plain less · enough)]
    rfl
  rw [outline, fuel, statements, begins.gap_eq]
  simp only [Option.isSome_none, Bool.false_eq_true, if_false]
  split
  · obtain ⟨_, _, same, -⟩ := begins.first
    cases same
  · obtain ⟨_, _, same, first⟩ := begins.first
    cases same
    cases first
  · rw [phrase.clauseStart?_eq, line]
    rfl

theorem expression_nil (floor : Nat) : expression fuel bracketed floor [] = none := by
  cases fuel with
  | zero => rw [expression]
  | succ fuel =>
    have noAtom (fuel : Nat) : atom fuel bracketed [] = none := by
      cases fuel with
      | zero => rw [atom]
      | succ fuel => simp [atom, opening?, number?, fractional?, digits?, based?, word?]
    have noOperand (fuel : Nat) : operand fuel bracketed [] = none := by
      cases fuel with
      | zero => rw [operand]
      | succ fuel =>
        rw [operand]
        show (atom fuel bracketed []).bind _ = none
        rw [noAtom]
        rfl
    have noPrimary : primary fuel bracketed 14 [] = none := by
      cases fuel with
      | zero => rw [primary]
      | succ fuel =>
        rw [primary]
        show (operand fuel bracketed []).bind _ = none
        rw [noOperand]
        rfl
    rw [expression]
    show (primary fuel bracketed 14 []).bind _ = none
    rw [noPrimary]
    rfl

/-- Neither the class of classes by itself nor what it takes is a statement about types. -/
theorem looseStatement?_nil : looseStatement? fuel "type" [] = none := by
  show (expression fuel false 0 []).bind _ = none
  rw [expression_nil]
  rfl

theorem looseStatement?_of_listed (phrase : Phrase piece term)
    (phrases : List.Forall₂ Phrase pieces terms)
    (enough : 8 * (piece ++ continued pieces).length + 8 ≤ fuel) :
    looseStatement? fuel "type" ('[' :: (piece ++ (continued pieces ++ [']']))) = none := by
  obtain ⟨list, read⟩ : ∃ list, expression fuel false 0 ('[' :: (piece ++ (continued pieces ++
      [']']))) = some (list, []) := expression_of_listed phrase phrases enough
  show (expression fuel false 0 _).bind _ = none
  rw [read]
  rfl

end Outline

/-! ### Quoted texts -/

theorem sign?_of_ne {c : Char} (minus : c ≠ '-') (plus : c ≠ '+') (tilde : c ≠ '~')
    (rest : List Char) : sign? (c :: rest) = none := by
  unfold sign?
  split <;> simp_all

end Grammar

namespace Lexeme

/-- The mark before a string that stands for bytes; other strings have none. -/
def mark : Bool → List Char
  | false => []
  | true => ['b']

/-- A string between single or double quotes, with the mark for bytes or without one. -/
def plainOpening (bytes : Bool) (quote : Char) : Opening := ⟨false, bytes, false, quote, false⟩

/-- The characters of a string that is passed over in one step. -/
def Passed (bytes : Bool) (quote : Char) (unit : List Char) : Prop :=
  ∀ mayBreak rest, ∃ mayBreak', advance (plainOpening bytes quote) mayBreak (unit ++ rest) =
    .inside mayBreak' rest

variable {bytes : Bool}

variable {quote : Char} {units : List (List Char)}

/-- What the inside of a string is made of: a character that stands for itself, or an escape. -/
inductive StringUnit (quote : Char) : List Char → Prop
  | plain {c : Char} (zero : c ≠ '\x00') (backslash : c ≠ '\\') (other : c ≠ quote)
    (lineEnd : c ≠ '\n') : StringUnit quote [c]
  | pair {letter : Char} (known : letter ∈ ['\\', 'n', 'r', 't', quote]) :
    StringUnit quote ['\\', letter]
  | byNumber (n : Nat) : StringUnit quote ('\\' :: 'x' :: hexByte n)

theorem passed_byNumber (quote : Char) (n : Nat) :
    Passed bytes quote ('\\' :: 'x' :: hexByte n) := by
  have digit (n : Nat) : (hexValue? (Nat.digitChar (n % 16))).isSome = true := by
    rw [(hexValue?_digitChar (n % 16) (Nat.mod_lt n (by decide))).1]
    rfl
  intro mayBreak rest
  have counted : escapeLength ('x' :: hexByte n ++ rest) = 3 := by
    show (if escapeLength.hexDigits 2 (hexByte n ++ rest) then 3 else 0) = 3
    have both : escapeLength.hexDigits 2 (hexByte n ++ rest) = true := by
      rw [escapeLength.hexDigits, hexByte]
      simp [digit]
    rw [both]
    rfl
  refine ⟨true, ?_⟩
  have step : advance (plainOpening bytes quote) mayBreak ('\\' :: 'x' :: hexByte n ++ rest) =
      .inside true (('x' :: hexByte n ++ rest).drop (escapeLength ('x' :: hexByte n ++ rest))) := by
    cases bytes <;> rfl
  rw [step, counted]
  rfl

theorem StringUnit.passed (quotes : quote = '\'' ∨ quote = '"') {unit : List Char}
    (inside : StringUnit quote unit) : Passed bytes quote unit := by
  cases inside with
  | @plain c zero backslash other lineEnd =>
    intro mayBreak rest
    refine ⟨false, ?_⟩
    have other : c ≠ (plainOpening bytes quote).quote := other
    rw [singleton_append, advance, if_neg zero, if_neg backslash, if_neg other]
    exact if_neg fun ends => lineEnd ends.1
  | pair known =>
    refine fun _ _ => ⟨true, ?_⟩
    simp only [mem_cons, not_mem_nil, or_false] at known
    rcases quotes with rfl | rfl <;> rcases known with rfl | rfl | rfl | rfl | rfl <;>
      cases bytes <;> rfl
  | byNumber n => exact passed_byNumber quote n

theorem StringUnit.of_escapedAs {c : Char} {unit : List Char} (escapes : EscapedAs quote c unit) :
    StringUnit quote unit := by
  cases escapes with
  | byNumber => exact .byNumber c.toNat
  | plain noBackslash noQuote visible =>
    have other {d : Char} (control : isControl d = true) : c ≠ d := by
      rintro rfl
      exact Bool.false_ne_true (visible.symm.trans control)
    exact .plain (other rfl) noBackslash noQuote (other rfl)
  | pair known => exact .pair (mem_map_of_mem (f := Prod.fst) known)

theorem StringUnit.exists_cons (quotes : quote = '\'' ∨ quote = '"') {unit : List Char}
    (inside : StringUnit quote unit) : ∃ c more, unit = c :: more ∧ c ≠ quote := by
  have backslash : '\\' ≠ quote := by rcases quotes with rfl | rfl <;> decide
  cases inside with
  | plain _ _ other _ => exact ⟨_, _, rfl, other⟩
  | pair => exact ⟨_, _, rfl, backslash⟩
  | byNumber => exact ⟨_, _, rfl, backslash⟩

theorem closing?_of_units (quotes : quote = '\'' ∨ quote = '"')
    (each : ∀ unit ∈ units, StringUnit quote unit) {fuel : Nat}
    (enough : units.flatten.length + 1 ≤ fuel) (mayBreak : Bool) (rest : List Char) :
    closing? (plainOpening bytes quote) fuel mayBreak (units.flatten ++ quote :: rest) =
      some rest := by
  induction units generalizing fuel mayBreak with
  | nil =>
    obtain ⟨less, rfl⟩ : ∃ less, fuel = less + 1 := ⟨fuel - 1, by omega⟩
    rcases quotes with rfl | rfl <;> rfl
  | cons unit units ih =>
    rw [forall_mem_cons] at each
    obtain ⟨c, more, shown, -⟩ := each.1.exists_cons quotes
    have length := congrArg length shown
    rw [length_cons] at length
    rw [flatten_cons, length_append] at enough
    obtain ⟨less, rfl⟩ : ∃ less, fuel = less + 1 := ⟨fuel - 1, by omega⟩
    obtain ⟨mayBreak', step⟩ := each.1.passed quotes mayBreak (units.flatten ++ quote :: rest)
    rw [flatten_cons, append_assoc, closing?, step]
    exact ih each.2 (by omega) mayBreak'

/-- Only one quote opens a string, even an empty one. -/
theorem ne_tripled (quotes : quote = '\'' ∨ quote = '"')
    (each : ∀ unit ∈ units, StringUnit quote unit) {rest : List Char} (stops : Stops rest)
    (more : List Char) :
    units.flatten ++ quote :: rest ≠ quote :: quote :: more := by
  cases units with
  | nil =>
    rcases quotes with rfl | rfl <;> cases stops <;> exact fun same => by cases same
  | cons unit units =>
    obtain ⟨c, more', rfl, other⟩ := (each unit mem_cons_self).exists_cons quotes
    exact fun same => other (cons.inj same).1

theorem opening?_of_units (quotes : quote = '\'' ∨ quote = '"')
    (each : ∀ unit ∈ units, StringUnit quote unit) {rest : List Char} (stops : Stops rest) :
    opening? (mark bytes ++ quote :: (units.flatten ++ quote :: rest)) =
      some (plainOpening bytes quote, units.flatten ++ quote :: rest) := by
  have single := ne_tripled quotes each stops
  have unmarked : ¬ isStringMark quote = true := by rcases quotes with rfl | rfl <;> decide
  generalize units.flatten ++ quote :: rest = tail at single
  have marked : ∀ c ∈ mark bytes, isStringMark c = true := by cases bytes <;> decide
  rw [opening?, takeWhile_append_of_pos marked, dropWhile_append_of_pos marked,
    takeWhile_cons_of_neg unmarked, dropWhile_cons_of_neg unmarked, append_nil]
  split
  · rename_i same
    cases same
    exact absurd rfl (single _)
  · rename_i same
    cases same
    exact absurd rfl (single _)
  · rename_i same
    cases same
    rw [if_pos (quotes.imp id Or.inl)]
    cases bytes <;> rfl
  · rename_i same
    cases same

end Lexeme

namespace Grammar

open Lexeme

variable {bytes : Bool}

/-- What is a string is no word. -/
theorem leadingWord?_of_opening {start rest : List Char} {opening : Opening}
    (string : opening? start = some (opening, rest)) : leadingWord? start = none := by
  rw [leadingWord?, string]
  rfl

theorem Begins.of_opening {start rest : List Char} {opening : Opening}
    (first : ∃ c more, start = c :: more ∧ opens c = true)
    (string : opening? start = some (opening, rest)) : Begins start := by
  have nothing := leadingWord?_of_opening string
  refine ⟨first, fun bracketed => ?_, fun word rest found => ?_⟩
  · rw [namedValue?, nothing]
    rfl
  · cases nothing.symm.trans found

/-- A string, perhaps with the mark for bytes, is read up to its closing quote. -/
theorem phrase_of_units {quote : Char} (quotes : quote = '\'' ∨ quote = '"')
    {units : List (List Char)} (each : ∀ unit ∈ units, StringUnit quote unit) :
    Phrase (mark bytes ++ quote :: (units.flatten ++ [quote]))
      (.quoted (mark bytes ++ quote :: (units.flatten ++ [quote]))) := by
  have shown (rest : List Char) : mark bytes ++ quote :: (units.flatten ++ [quote]) ++ rest =
      mark bytes ++ quote :: (units.flatten ++ quote :: rest) := by simp
  have apart : ∀ rest, (∃ c more, mark bytes ++ quote :: rest = c :: more ∧ opens c = true) ∧
      sign? (mark bytes ++ quote :: rest) = none := by
    rcases quotes with rfl | rfl <;> cases bytes <;> exact fun _ => ⟨⟨_, _, rfl, rfl⟩, rfl⟩
  refine .of_atom (by simp) (fun {rest} stops => ?_) (fun rest => ?_)
    fun {fuel bracketed rest} stops => ?_
  · rw [shown]
    exact .of_opening (apart _).1 (opening?_of_units quotes each stops)
  · rw [shown]
    exact (apart _).2
  have closed : stringEnd (fuel + 1) (plainOpening bytes quote) (units.flatten ++ quote :: rest) =
      some rest := by
    rw [stringEnd]
    exact closing?_of_units quotes each (by rw [length_append]; omega) true rest
  unfold atom
  rw [shown, opening?_of_units quotes each stops]
  dsimp only
  rw [closed, ← shown]
  show moreStrings _ _ _ (.quoted (between _ rest)) _ = _
  rw [between_append, moreStrings, stops.ahead_eq, stops.opening?_eq]

/-! ### What only tuples take -/

theorem phrase_of_unit : Phrase "()".toList (.tuple "()".toList true true) := by
  refine .of_atom (by decide) (fun _ => .of_wordless rfl rfl _) (fun _ => rfl)
    fun {fuel bracketed rest} _ => ?_
  unfold atom
  show group (fuel + 1) ("()".toList ++ rest) (')' :: rest) = _
  rw [group]
  show some (Term.tuple (between ("()".toList ++ rest) rest) true true, rest) = _
  rw [between_append]

theorem phrase_of_dots : Phrase "...".toList .ellipsis := by
  refine .of_atom (by decide) (fun _ => .of_wordless rfl rfl _) (fun _ => rfl)
    fun {fuel bracketed rest} _ => ?_
  unfold atom
  rfl

end Grammar

/-! ### Words with a meaning -/

namespace Hint

open Lexeme Grammar

/-- A word that can stand for a hint or a value. -/
def isWord (name : String) : Bool :=
  !name.toList.isEmpty && name.toList.all Char.isAlpha &&
    name.toList.any (fun c => !isStringMark c) && !reserved.contains name &&
    (properName name.toList == name)

/-- The words that hints and the values of literals are written with. -/
def words : List String := ["True", "False"] ++ designations.map Prod.fst

theorem isWord_of_mem : ∀ name ∈ words, isWord name = true := by decide +kernel

variable {name : String}

theorem worded_of_mem (member : name ∈ words) :
    Worded name ∧ name ∉ reserved ∧ properName name.toList = name := by
  have known := isWord_of_mem name member
  simp only [isWord, Bool.and_eq_true, Bool.not_eq_true', all_eq_true, any_eq_true,
    beq_iff_eq, isEmpty_eq_false_iff, contains_eq_mem, decide_eq_false_iff_not] at known
  obtain ⟨⟨⟨⟨nonempty, letters⟩, unmarked⟩, free⟩, proper⟩ := known
  exact ⟨⟨nonempty, letters, unmarked⟩, free, proper⟩

theorem ofWord_eq (named : name ∉ ["None", "True", "False"]) :
    ofWord name = .name name.toList := by
  simp only [mem_cons, not_mem_nil, or_false, not_or] at named
  rw [ofWord, if_neg named.1, if_neg named.2.1, if_neg named.2.2]

end Hint

end CallGuard
