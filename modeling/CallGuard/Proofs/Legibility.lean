/-
What can be read off a written value. A value as text is a sequence of words,
brackets, commas, quoted texts and names between angle brackets, and scanning
the text gives them back. This holds as long as the names of classes do not look
like something else: a name with an angle bracket, a quote or, in a built-in
class, a point can be mistaken.
-/
import CallGuard.Check.Code
import CallGuard.Proofs.Equality

namespace CallGuard

open List

/-! ### Deciding about members -/

section Members

variable {Item : Type} (holds : Item → Prop) [DecidablePred holds]

-- Characters are finitely many, but what is said of those in a list is decided by going through the
-- list and not through all of them.
instance (priority := 1100) decidableForallMember (items : List Item) :
    Decidable (∀ item ∈ items, holds item) :=
  List.decidableBAll holds items

instance (priority := 1100) decidableExistsMember (items : List Item) :
    Decidable (∃ item ∈ items, holds item) :=
  List.decidableBEx holds items

instance (priority := 1100) decidableForallFound (found : Option Item) :
    Decidable (∀ item ∈ found, holds item) :=
  Option.decidableForallMem found

instance (priority := 1100) decidableExistsFound (found : Option Item) :
    Decidable (∃ item ∈ found, holds item) :=
  Option.decidableExistsMem found

end Members

/-! ### Escapes -/

namespace Text

/-- What can stand for a character between quotes: the character, a backslash and a letter, or its
number. -/
inductive EscapedAs (quote : Char) : Char → List Char → Prop
  | plain {c : Char} (noBackslash : c ≠ '\\') (noQuote : c ≠ quote)
    (visible : isControl c = false) : EscapedAs quote c [c]
  | pair {c letter : Char} (known : (letter, c) ∈
      [('\\', '\\'), ('n', '\n'), ('r', '\r'), ('t', '\t'), (quote, quote)]) :
    EscapedAs quote c ['\\', letter]
  | byNumber {c : Char} (small : c.toNat < 256) : EscapedAs quote c (escapedByNumber c)

theorem escapedAs_escaped (quote c : Char) : EscapedAs quote c (escaped quote c) := by
  unfold escaped
  -- Five characters are written with a letter.
  iterate 5
    split
    · next same => exact .pair (by simp [same])
  split
  · next control =>
    simp only [isControl, Bool.or_eq_true, Bool.and_eq_true, decide_eq_true_eq] at control
    exact .byNumber (by omega)
  · next visible => exact .plain ‹_› ‹_› (Bool.eq_false_iff.mpr visible)

theorem escapedAs_escapedWithoutBraces (c : Char) :
    EscapedAs '\'' c (escapedWithoutBraces c) := by
  unfold escapedWithoutBraces
  split
  · next brace => exact .byNumber (by rcases brace with rfl | rfl <;> decide)
  · exact escapedAs_escaped _ c

end Text

/-! ### Scanning -/

/-- A piece of a written value. -/
inductive Token where
  | word (chars : List Char)
  | mark (c : Char)
  | quoted (quote : Char) (body : List Char)
  | angled (body : List Char)

namespace Token

/-- Brackets, and what stands between items. -/
def marks : List Char := [',', ' ', ':', '(', ')', '[', ']', '{', '}']

def isMark (c : Char) : Bool := marks.contains c

/-- Whether a character can stand in a word. -/
def isPlain (c : Char) : Bool := !(marks ++ ['\'', '"', '<']).contains c

/-- Where in a token the scan is, with what it has read of it. -/
inductive Place where
  | word (chars : List Char)
  | quoted (quote : Char) (body : List Char)
  /-- After a backslash. -/
  | escape (quote : Char) (body : List Char)
  | angled (body : List Char)

/-- The word that has been read, if any. -/
def ofWord : List Char → List Token
  | [] => []
  | chars => [.word chars]

/-- The tokens of a text from a place on. -/
def scan : Place → List Char → List Token
  | .word chars, [] => ofWord chars
  | .word chars, c :: rest =>
    if isMark c then ofWord chars ++ .mark c :: scan (.word []) rest
    else if c = '\'' ∨ c = '"' then ofWord chars ++ scan (.quoted c []) rest
    else if c = '<' then ofWord chars ++ scan (.angled []) rest
    else scan (.word (chars ++ [c])) rest
  | .quoted quote body, c :: rest =>
    if c = '\\' then scan (.escape quote (body ++ [c])) rest
    else if c = quote then .quoted quote body :: scan (.word []) rest
    else scan (.quoted quote (body ++ [c])) rest
  | .escape quote body, c :: rest => scan (.quoted quote (body ++ [c])) rest
  | .angled body, c :: rest =>
    if c = '>' then .angled body :: scan (.word []) rest
    else scan (.angled (body ++ [c])) rest
  | _, [] => []

/-- The text is at its end or goes on with a mark. -/
def Stops (rest : List Char) : Prop := ∀ c ∈ rest.head?, isMark c = true

theorem stops_cons {c : Char} (marks : isMark c = true) (rest : List Char) : Stops (c :: rest) := by
  rintro _ ⟨⟩
  exact marks

theorem scan_mark {c : Char} (marks : isMark c = true) (rest : List Char) :
    scan (.word []) (c :: rest) = .mark c :: scan (.word []) rest := by
  rw [scan, if_pos marks]
  rfl

theorem scan_plain {chars : List Char} (plain : ∀ c ∈ chars, isPlain c = true)
    (before rest : List Char) :
    scan (.word before) (chars ++ rest) = scan (.word (before ++ chars)) rest := by
  induction chars generalizing before with
  | nil => rw [nil_append, append_nil]
  | cons c chars ih =>
    obtain ⟨head, tail⟩ := forall_mem_cons.mp plain
    have apart : c ∉ marks ++ ['\'', '"', '<'] := by simpa [isPlain] using head
    have noMark : ¬ isMark c = true := fun marked =>
      apart (mem_append_left _ (contains_iff_mem.mp marked))
    have noQuote : ¬ (c = '\'' ∨ c = '"') := by
      rintro (rfl | rfl) <;> exact apart (mem_append_right _ (by decide))
    have noAngle : c ≠ '<' := by
      rintro rfl
      exact apart (mem_append_right _ (by decide))
    rw [cons_append, scan, if_neg noMark, if_neg noQuote, if_neg noAngle,
      ih tail, append_assoc, singleton_append]

theorem scan_stops {rest : List Char} (stops : Stops rest) (chars : List Char) :
    scan (.word chars) rest = ofWord chars ++ scan (.word []) rest := by
  cases rest with
  | nil => exact (append_nil _).symm
  | cons c rest =>
    have marks : isMark c = true := stops c rfl
    rw [scan_mark marks, scan, if_pos marks]

/-- A word up to where the text stops. -/
theorem scan_word {chars rest : List Char} (plain : ∀ c ∈ chars, isPlain c = true)
    (some : chars ≠ []) (stops : Stops rest) :
    scan (.word []) (chars ++ rest) = .word chars :: scan (.word []) rest := by
  rw [scan_plain plain, nil_append, scan_stops stops]
  cases chars with
  | nil => exact absurd rfl some
  | cons c chars => rfl

/-! ### Quoted texts and names -/

/-- A text that can stand between quotes: a backslash comes with another character. -/
inductive Bodied (quote : Char) : List Char → Prop
  | nil : Bodied quote []
  | plain {c : Char} {rest : List Char} (noBackslash : c ≠ '\\') (noQuote : c ≠ quote)
    (body : Bodied quote rest) : Bodied quote (c :: rest)
  | escaped {c : Char} {rest : List Char} (body : Bodied quote rest) :
    Bodied quote ('\\' :: c :: rest)

variable {quote : Char} {body : List Char}

theorem Bodied.append {first second : List Char} (body : Bodied quote first)
    (body' : Bodied quote second) : Bodied quote (first ++ second) := by
  induction body with
  | nil => exact body'
  | plain noBackslash noQuote _ ih =>
    exact .plain noBackslash noQuote ih
  | escaped _ ih => exact .escaped ih

theorem bodied_flatMap {Item : Type} {items : List Item} {write : Item → List Char}
    (each : ∀ item, Bodied quote (write item)) : Bodied quote (items.flatMap write) := by
  induction items with
  | nil => exact .nil
  | cons first rest ih => exact (each first).append ih

theorem scan_bodied (bodied : Bodied quote body)
    (before rest : List Char) :
    scan (.quoted quote before) (body ++ rest) = scan (.quoted quote (before ++ body)) rest := by
  induction bodied generalizing before with
  | nil => rw [nil_append, append_nil]
  | @plain c body noBackslash noQuote _ ih =>
    rw [cons_append, scan, if_neg noBackslash, if_neg noQuote, ih, append_assoc, singleton_append]
  | @escaped c body _ ih =>
    rw [cons_append, scan, if_pos rfl, cons_append, scan, ih, append_assoc, append_assoc]
    rfl

theorem scan_quoted (bodied : Bodied quote body)
    (noBackslash : quote ≠ '\\') (rest : List Char) :
    scan (.quoted quote []) (body ++ quote :: rest) =
      .quoted quote body :: scan (.word []) rest := by
  rw [scan_bodied bodied, scan, if_neg noBackslash, if_pos rfl, nil_append]

theorem scan_angled (clear : '>' ∉ body) (before rest : List Char) :
    scan (.angled before) (body ++ '>' :: rest) =
      .angled (before ++ body) :: scan (.word []) rest := by
  induction body generalizing before with
  | nil => rw [nil_append, append_nil, scan, if_pos rfl]
  | cons c body ih =>
    obtain ⟨head, tail⟩ := ne_and_not_mem_of_not_mem_cons clear
    rw [cons_append, scan, if_neg head.symm, ih tail, append_assoc, singleton_append]

theorem hexDigit_plain (n : Nat) (small : n < 16) :
    Nat.digitChar n ≠ '\\' ∧ Nat.digitChar n ≠ '\'' ∧ Nat.digitChar n ≠ '"' := by
  decide +revert

theorem bodied_byNumber (quotes : quote = '\'' ∨ quote = '"') (n : Nat) :
    Bodied quote ('\\' :: 'x' :: Text.hexByte n) := by
  have digit (n : Nat) (small : n < 16) : Nat.digitChar n ≠ '\\' ∧ Nat.digitChar n ≠ quote := by
    obtain ⟨noBackslash, noQuote, noQuote'⟩ := hexDigit_plain n small
    exact ⟨noBackslash, by rcases quotes with rfl | rfl <;> assumption⟩
  obtain ⟨noBackslash, noQuote⟩ := digit (n / 16 % 16) (Nat.mod_lt _ (by decide))
  obtain ⟨noBackslash', noQuote'⟩ := digit (n % 16) (Nat.mod_lt _ (by decide))
  exact .escaped (.plain noBackslash noQuote (.plain noBackslash' noQuote' .nil))

theorem bodied_of_escapedAs {quote c : Char} {unit : List Char}
    (quotes : quote = '\'' ∨ quote = '"') (escapes : Text.EscapedAs quote c unit) :
    Bodied quote unit := by
  cases escapes with
  | plain noBackslash noQuote => exact .plain noBackslash noQuote .nil
  | pair => exact .escaped .nil
  | byNumber => exact bodied_byNumber quotes _

theorem quoteFor_eq (text : List Char) :
    Text.quoteFor text = '\'' ∨ Text.quoteFor text = '"' := by
  unfold Text.quoteFor
  split
  · exact .inr rfl
  · exact .inl rfl

theorem toNat_ofNat_byte {n : Nat} (small : n < 256) : (Char.ofNat n).toNat = n := by
  have valid : n.isValidChar := .inl (Nat.lt_trans small (by decide))
  rw [Char.ofNat, dif_pos valid]
  rfl

theorem bodied_byteText (byte : UInt8) : Bodied '\'' (Value.byteText byte) := by
  unfold Value.byteText
  dsimp only
  split
  · rename_i printable
    obtain ⟨-, -, noQuote, noBackslash⟩ := printable
    have number := toNat_ofNat_byte (n := byte.toNat) byte.toNat_lt
    refine .plain (fun same => noBackslash ?_) (fun same => noQuote ?_) .nil
    · rw [← number, same]
      rfl
    · rw [← number, same]
      rfl
  · exact bodied_byNumber (.inl rfl) _

end Token

/-! ### The tokens of a value -/

namespace Value

open Token

/-- Items with commas between them. -/
def listed (items : List (List Token)) : List Token := [.mark ',', .mark ' '].intercalate items

/-- A tuple; a single item keeps its comma. -/
def tupleTokens : List (List Token) → List Token
  | [item] => .mark '(' :: item ++ [.mark ',', .mark ')']
  | items => .mark '(' :: listed items ++ [.mark ')']

/-- A set; the empty one has no brackets. -/
def setTokens : List (List Token) → List Token
  | [] => [.word ['s', 'e', 't'], .mark '(', .mark ')']
  | items => .mark '{' :: listed items ++ [.mark '}']

/-- The word that a value consists of. -/
def word? : Value → Option (List Char)
  | null => some ['N', 'o', 'n', 'e']
  | bool truth => some (if truth then ['T', 'r', 'u', 'e'] else ['F', 'a', 'l', 's', 'e'])
  | int number => some (toString number).toList
  | float number => some (floatText number).toList
  | _ => none

/-- The word between the brackets of a complex number. -/
def complexWord (real imaginary : Binary64) : List Char :=
  real.text.toList ++ imaginary.signedText.toList ++ ['j']

mutual
/-- The tokens of a written value. -/
def tokens : Value → List Token
  | complex real imaginary => [.mark '(', .word (complexWord real imaginary), .mark ')']
  | str _ text =>
    [.quoted (Text.quoteFor text.toList)
      (text.toList.flatMap (Text.escaped (Text.quoteFor text.toList)))]
  | bytes _ data => [.word ['b'], .quoted '\'' (data.flatMap byteText)]
  | list _ items => .mark '[' :: listed (tokensOf items) ++ [.mark ']']
  | tuple _ items => tupleTokens (tokensOf items)
  | set _ items => setTokens (tokensOf items)
  | frozenset _ items =>
    .word ['f', 'r', 'o', 'z', 'e', 'n', 's', 'e', 't'] :: .mark '(' :: .mark '{' ::
      listed (tokensOf items) ++ [.mark '}', .mark ')']
  | dict _ entries => .mark '{' :: listed (entryTokensOf entries) ++ [.mark '}']
  | classObject described => [.angled ("class '" ++ described.qualname ++ "'").toList]
  | object _ kind => [.angled (kind.qualname ++ " object").toList]
  | value => value.word?.toList.map .word

/-- The tokens of the items of a container. -/
def tokensOf : List Value → List (List Token)
  | [] => []
  | value :: rest => tokens value :: tokensOf rest

/-- The tokens of the entries of a dictionary. -/
def entryTokensOf : List (Value × Value) → List (List Token)
  | [] => []
  | (key, value) :: rest =>
    (tokens key ++ .mark ':' :: .mark ' ' :: tokens value) :: entryTokensOf rest
end

theorem tokensOf_eq_map (items : List Value) : tokensOf items = items.map tokens := by
  induction items with
  | nil => rfl
  | cons first rest ih => rw [tokensOf, ih, map_cons]

theorem entryTokensOf_eq_map (entries : List (Value × Value)) :
    entryTokensOf entries =
      entries.map fun entry => tokens entry.1 ++ .mark ':' :: .mark ' ' :: tokens entry.2 := by
  induction entries with
  | nil => rfl
  | cons first rest ih =>
    rw [entryTokensOf, ih, map_cons]

theorem texts_eq_map (items : List Value) : texts items = items.map text := by
  induction items with
  | nil => rfl
  | cons first rest ih => rw [texts, ih, map_cons]

theorem entryTexts_eq_map (entries : List (Value × Value)) :
    entryTexts entries = entries.map fun entry => entry.1.text ++ ": " ++ entry.2.text := by
  induction entries with
  | nil => rfl
  | cons first rest ih => rw [entryTexts, ih, map_cons]

/-! ### Words -/

/-- A word of digits, signs and points. -/
def IsNumeral (chars : List Char) : Prop :=
  chars ≠ [] ∧ ∀ c ∈ chars, c.isDigit = true ∨ c = '.' ∨ c = '-'

theorem isPlain_of_isDigit {c : Char} (digit : c.isDigit = true) : isPlain c = true := by
  by_contra special
  have listed : c ∈ marks ++ ['\'', '"', '<'] := by
    rw [isPlain, Bool.not_eq_true, Bool.not_eq_false'] at special
    exact contains_iff_mem.mp special
  have notDigit : ∀ other ∈ marks ++ ['\'', '"', '<'], other.isDigit = false := by decide
  rw [notDigit c listed] at digit
  cases digit

theorem isDigit_of_mem_digits {n : Nat} {c : Char} (member : c ∈ Decimal.digits n) :
    c.isDigit = true :=
  Nat.isDigit_of_mem_toDigits (by decide) (by decide) member

/-- Digits and zeros with at most a point among them. -/
theorem mem_positional {d : Decimal} {c : Char} (member : c ∈ d.positional) :
    c.isDigit = true ∨ c = '.' := by
  have zero {n : Nat} (member : c ∈ replicate n '0') : c.isDigit = true :=
    eq_of_mem_replicate member ▸ rfl
  unfold Decimal.positional at member
  split at member
  · split at member
    · exact .inl (mem_singleton.mp member ▸ rfl)
    · exact .inl ((mem_append.mp member).elim isDigit_of_mem_digits zero)
  · have padded {n places : Nat} (inside : c ∈ replicate places '0' ++ Decimal.digits n) :
        c.isDigit = true := (mem_append.mp inside).elim zero isDigit_of_mem_digits
    rcases mem_append.mp member with before | after
    · exact .inl (padded (mem_of_mem_take before))
    · rcases mem_cons.mp after with point | after
      · exact .inr point
      · exact .inl (padded (mem_of_mem_drop after))

theorem positional_ne_nil (d : Decimal) : d.positional ≠ [] := by
  unfold Decimal.positional
  split
  · split
    · exact cons_ne_nil _ _
    · exact append_ne_nil_of_left_ne_nil Nat.toDigits_ne_nil _
  · exact append_ne_nil_of_right_ne_nil _ (cons_ne_nil _ _)

theorem isNumeral_positional (d : Decimal) : IsNumeral d.positional :=
  ⟨positional_ne_nil d, fun _ member => (mem_positional member).imp_right .inl⟩

variable {chars : List Char} {x : Binary64} {value : Value}

theorem isNumeral_signed (numeral : IsNumeral chars) (negative : Bool) :
    IsNumeral (if negative then '-' :: chars else chars) := by
  split
  · exact ⟨cons_ne_nil _ _, forall_mem_cons.mpr ⟨.inr (.inr rfl), numeral.2⟩⟩
  · exact numeral

theorem isNumeral_digits (n : Nat) : IsNumeral (Nat.toDigits 10 n) :=
  ⟨Nat.toDigits_ne_nil, fun _ member => .inl (isDigit_of_mem_digits member)⟩

theorem isNumeral_int (number : Int) : IsNumeral (toString number).toList := by
  cases number with
  | ofNat n => exact (Nat.toList_repr (n := n)).symm ▸ isNumeral_digits n
  | negSucc n =>
    have text : (toString (Int.negSucc n)).toList = '-' :: Nat.toDigits 10 (n + 1) := by
      show ("-" ++ (n + 1).repr).toList = _
      rw [String.toList_append, Nat.toList_repr]
      rfl
    rw [text]
    exact isNumeral_signed (isNumeral_digits (n + 1)) true

/-- The words for numbers that are not finite. -/
def unusualNumbers : List (List Char) := [['N', 'a', 'N'], ['i', 'n', 'f'], ['-', 'i', 'n', 'f']]

theorem text_of_isNaN (unusual : x.isNaN = true) : x.text.toList = ['N', 'a', 'N'] := by
  rw [Binary64.text, if_pos unusual]
  rfl

theorem text_of_isInfinite (number : x.isNaN = false) (unusual : x.isInfinite = true) :
    x.text.toList = if x.isNegative then ['-', 'i', 'n', 'f'] else ['i', 'n', 'f'] := by
  simp [Binary64.text, number, unusual]

theorem isNumeral_text (number : x.isNaN = false) (finite : x.isInfinite = false) :
    IsNumeral x.text.toList := by
  have text : x.text.toList =
      if x.isNegative then '-' :: x.shortest.positional else x.shortest.positional := by
    simp [Binary64.text, number, finite]
  rw [text]
  exact isNumeral_signed (isNumeral_positional _) _

theorem text_cases (x : Binary64) :
    x.text.toList ∈ unusualNumbers ∨ IsNumeral x.text.toList := by
  cases number : x.isNaN with
  | true => exact .inl (by rw [text_of_isNaN number]; decide)
  | false =>
    cases finite : x.isInfinite with
    | true =>
      rw [text_of_isInfinite number finite]
      exact .inl (by cases x.isNegative <;> decide)
    | false => exact .inr (isNumeral_text number finite)

theorem isNumeral_wholeText (x : Binary64) : IsNumeral x.wholeText.toList := by
  unfold Binary64.wholeText
  rw [String.toList_ofList]
  refine isNumeral_signed ⟨append_ne_nil_of_left_ne_nil Nat.toDigits_ne_nil _, ?_⟩ _
  intro c member
  rcases mem_append.mp member with digit | ending
  · exact .inl (isDigit_of_mem_digits digit)
  · have allowed : ∀ c ∈ ['.', '0'], c.isDigit = true ∨ c = '.' ∨ c = '-' := by decide
    exact allowed c ending

theorem isNumeral_floatText (number : x.isNaN = false) (finite : x.isInfinite = false) :
    IsNumeral (floatText x).toList := by
  unfold floatText
  split
  · exact isNumeral_wholeText x
  · exact isNumeral_text number finite

theorem floatText_cases (x : Binary64) :
    (floatText x).toList ∈ unusualNumbers ∨ IsNumeral (floatText x).toList := by
  unfold floatText
  split
  · exact .inr (isNumeral_wholeText x)
  · exact text_cases x

/-- A word is one of a few, or a numeral. -/
theorem word?_cases (word : value.word? = some chars) :
    chars ∈ ['N', 'o', 'n', 'e'] :: ['T', 'r', 'u', 'e'] :: ['F', 'a', 'l', 's', 'e'] ::
      unusualNumbers ∨ IsNumeral chars := by
  cases value with
  | null =>
    cases word
    exact .inl (by decide)
  | bool truth =>
    cases word
    exact .inl (by cases truth <;> decide)
  | int number =>
    cases word
    exact .inr (isNumeral_int number)
  | float number =>
    cases word
    refine (floatText_cases number).imp_left fun unusual => ?_
    exact mem_cons_of_mem _ (mem_cons_of_mem _ (mem_cons_of_mem _ unusual))
  | complex | str | bytes | list | tuple | set | frozenset | dict | classObject | object =>
    cases word

theorem IsNumeral.plain (numeral : IsNumeral chars) :
    ∀ c ∈ chars, isPlain c = true := by
  intro c member
  rcases numeral.2 c member with digit | rfl | rfl
  · exact isPlain_of_isDigit digit
  · decide
  · decide

theorem word?_plain (word : value.word? = some chars) :
    chars ≠ [] ∧ ∀ c ∈ chars, isPlain c = true := by
  rcases word?_cases word with listed | numeral
  · have plain : ∀ word ∈ ['N', 'o', 'n', 'e'] :: ['T', 'r', 'u', 'e'] ::
        ['F', 'a', 'l', 's', 'e'] :: unusualNumbers,
        word ≠ [] ∧ ∀ c ∈ word, isPlain c = true := by decide
    exact plain chars listed
  · exact ⟨numeral.1, numeral.plain⟩

theorem text_plain (x : Binary64) : ∀ c ∈ x.text.toList, isPlain c = true := by
  rcases text_cases x with listed | numeral
  · have plain : ∀ word ∈ unusualNumbers, ∀ c ∈ word, isPlain c = true := by decide
    exact plain _ listed
  · exact numeral.plain

/-- The word of a complex number consists of the texts of its parts, a plus sign and a letter. -/
theorem forall_mem_complexWord {kind : Char → Bool} (marks : kind '+' = true ∧ kind 'j' = true)
    (each : ∀ x : Binary64, ∀ c ∈ x.text.toList, kind c = true) (real imaginary : Binary64) :
    ∀ c ∈ complexWord real imaginary, kind c = true := by
  have signed : ∀ c ∈ imaginary.signedText.toList, kind c = true := by
    unfold Binary64.signedText
    split
    · exact each imaginary
    · rw [String.toList_append]
      exact forall_mem_cons.mpr ⟨marks.1, each imaginary⟩
  intro c member
  rcases mem_append.mp member with parts | last
  · exact (mem_append.mp parts).elim (each real c) (signed c)
  · rw [mem_singleton.mp last, marks.2]

/-! ### Reading a written value -/

end Value

/-- The name of the class has no angle bracket and no quote in it, and the name of a built-in class
no point. -/
structure Class.Legible (c : Class) : Prop where
  noAngle : '>' ∉ c.qualname.toList
  noQuote : '\'' ∉ c.qualname.toList
  noPoint : c.home = builtinHome → '.' ∉ c.name.toList

namespace Value

open Token

/-- The classes that a value names by itself are legible. -/
def NamesLegibly : Value → Prop
  | classObject c | object _ c => c.Legible
  | _ => True

/-- All classes that are named in a value are legible. -/
def Legible (value : Value) : Prop := ∀ inner : Value, inner.Inside value → inner.NamesLegibly

theorem Legible.part {part value : Value} (legible : value.Legible)
    (member : part ∈ value.parts) : part.Legible :=
  fun inner inside => legible inner (.part member inside)

/-- Followed by a text that stops it, the text is scanned into the tokens. -/
def Written (text : List Char) (tokens : List Token) : Prop :=
  ∀ rest, Stops rest → scan (.word []) (text ++ rest) = tokens ++ scan (.word []) rest

theorem written_listed {texts : List (List Char)} {tokens : List (List Token)}
    (each : List.Forall₂ Written texts tokens) :
    Written ([',', ' '].intercalate texts) (listed tokens) := by
  induction each with
  | nil =>
    intro rest _
    rfl
  | @cons text token texts tokens head tail ih =>
    cases tail with
    | nil => simpa [listed] using head
    | @cons text' token' texts tokens _ _ =>
      intro rest stops
      have following := ih rest stops
      have comma : isMark ',' = true := by decide
      have blank : isMark ' ' = true := by decide
      rw [intercalate_cons_cons, listed, intercalate_cons_cons]
      simp only [append_assoc, cons_append, nil_append]
      rw [head _ (stops_cons comma _), scan_mark comma, scan_mark blank, following, listed]

theorem written_nil : Written [] [] := fun _ _ => rfl

theorem written_between (opening closing : Char) {text : List Char} {tokens : List Token}
    (marks : isMark opening = true) (marks' : isMark closing = true) (inside : Written text tokens) :
    Written (opening :: text ++ [closing]) (.mark opening :: tokens ++ [.mark closing]) := by
  intro rest _
  simp only [cons_append, append_assoc, nil_append]
  rw [scan_mark marks, inside _ (stops_cons marks' _), scan_mark marks']

theorem written_word (chars : List Char) (plain : ∀ c ∈ chars, isPlain c = true)
    (some : chars ≠ []) : Written chars [.word chars] :=
  fun _ stops => scan_word plain some stops

/-- A text that starts with a mark may follow another one. -/
theorem Written.append {first second : List Char} {tokens tokens' : List Token} {c : Char}
    (written : Written first tokens) (marks : isMark c = true)
    (written' : Written (c :: second) tokens') :
    Written (first ++ c :: second) (tokens ++ tokens') := by
  intro rest stops
  rw [append_assoc, append_assoc, cons_append, written _ (stops_cons marks _),
    ← cons_append, written' rest stops]

theorem written_mark {text : List Char} {tokens : List Token} {c : Char} (marks : isMark c = true)
    (written : Written text tokens) : Written (c :: text) (.mark c :: tokens) := by
  intro rest stops
  rw [cons_append, scan_mark marks, written rest stops, cons_append]

theorem written_str (identity : Nat) (content : String) :
    Written (text (str identity content)).toList (tokens (str identity content)) := by
  intro rest _
  have quotes := quoteFor_eq content.toList
  have bodied : Bodied (Text.quoteFor content.toList)
      (content.toList.flatMap (Text.escaped (Text.quoteFor content.toList))) :=
    bodied_flatMap fun c => bodied_of_escapedAs quotes (Text.escapedAs_escaped _ c)
  have noBackslash : Text.quoteFor content.toList ≠ '\\' := by
    rcases quotes with same | same <;> rw [same] <;> decide
  have noMark : ¬ isMark (Text.quoteFor content.toList) = true := by
    rcases quotes with same | same <;> rw [same] <;> decide
  rw [text, Text.quoted, String.toList_ofList, tokens]
  simp only [cons_append, append_assoc, nil_append]
  rw [scan, if_neg noMark, if_pos quotes, scan_quoted bodied noBackslash]
  rfl

theorem written_bytes (identity : Nat) (data : List UInt8) :
    Written (text (bytes identity data)).toList (tokens (bytes identity data)) := by
  intro rest _
  have bodied : Bodied '\'' (data.flatMap byteText) := bodied_flatMap bodied_byteText
  rw [text, bytesText, String.toList_ofList, tokens]
  simp only [cons_append, append_assoc, nil_append]
  rw [scan, if_neg (by decide), if_neg (by decide), if_neg (by decide), scan, if_neg (by decide),
    if_pos (.inl rfl), scan_quoted bodied (by decide)]
  rfl

theorem written_angled {body : List Char} (clear : '>' ∉ body) :
    Written ('<' :: body ++ ['>']) [.angled body] := by
  intro rest _
  simp only [cons_append, append_assoc, nil_append]
  rw [scan, if_neg (by decide), if_neg (by decide), if_pos rfl, scan_angled clear]
  rfl

/-- Scanning a written value gives its tokens, if the names of classes in it are legible. -/
theorem written_text {value : Value} (legible : value.Legible) :
    Written value.text.toList value.tokens := by
  induction value using induction_parts with
  | step value ih =>
    have parts (part : Value) (member : part ∈ value.parts) : Written part.text.toList part.tokens :=
      ih part member (legible.part member)
    have items (items : List Value) (inside : ∀ item ∈ items, item ∈ value.parts) :
        Written (", ".intercalate (texts items)).toList (listed (tokensOf items)) := by
      rw [String.toList_intercalate, texts_eq_map, tokensOf_eq_map]
      refine written_listed ?_
      rw [map_map, forall₂_map_left_iff, forall₂_map_right_iff, forall₂_same]
      exact fun item member => parts item (inside item member)
    have word {chars : List Char} (word : value.word? = some chars) : Written chars [.word chars] :=
      written_word chars (word?_plain word).2 (word?_plain word).1
    cases value with
    | null => exact word rfl
    | bool truth => cases truth <;> exact word rfl
    | int number => exact word rfl
    | float number => exact word rfl
    | complex real imaginary =>
      have written : Written (complexWord real imaginary) [.word (complexWord real imaginary)] :=
        written_word _ (forall_mem_complexWord (by decide) text_plain real imaginary)
          (by simp [complexWord])
      have between := written_between '(' ')' (by decide) (by decide) written
      simpa [text, complexText, complexWord, tokens] using between
    | str identity content => exact written_str identity content
    | bytes identity data => exact written_bytes identity data
    | list identity contents =>
      have inside := items contents fun _ => id
      have between := written_between '[' ']' (by decide) (by decide) inside
      simpa [text, enclosed, tokens] using between
    | tuple identity contents =>
      rcases contents with _ | ⟨first, _ | ⟨second, rest⟩⟩
      · have between := written_between '(' ')' (by decide) (by decide) written_nil
        simpa [text, texts, tupleText, enclosed, tokens, tokensOf, tupleTokens, listed] using between
      · have single : Written (first.text.toList ++ [',']) (first.tokens ++ [.mark ',']) :=
          (parts first mem_cons_self).append (by decide) (written_mark (by decide) written_nil)
        have between := written_between '(' ')' (by decide) (by decide) single
        simpa [text, texts, tupleText, tokens, tokensOf, tupleTokens] using between
      · have inside := items (first :: second :: rest) fun _ => id
        have between := written_between '(' ')' (by decide) (by decide) inside
        simpa [text, texts, tupleText, enclosed, tokens, tokensOf, tupleTokens] using between
    | set identity contents =>
      cases contents with
      | nil =>
        have brackets := written_between '(' ')' (by decide) (by decide) written_nil
        have empty := (written_word ['s', 'e', 't'] (by decide) (by decide)).append (by decide)
          brackets
        simpa [text, texts, setText, tokens, tokensOf, setTokens] using empty
      | cons first rest =>
        have inside := items (first :: rest) fun _ => id
        have between := written_between '{' '}' (by decide) (by decide) inside
        simpa [text, texts, setText, enclosed, tokens, tokensOf, setTokens] using between
    | frozenset identity contents =>
      have inside := items contents fun _ => id
      have between := written_between '(' ')' (by decide) (by decide)
        (written_between '{' '}' (by decide) (by decide) inside)
      have all := (written_word ['f', 'r', 'o', 'z', 'e', 'n', 's', 'e', 't'] (by decide)
        (by decide)).append (by decide) between
      simpa [text, enclosed, tokens] using all
    | dict identity entries =>
      have inside : Written (", ".intercalate (entryTexts entries)).toList
          (listed (entryTokensOf entries)) := by
        rw [String.toList_intercalate, entryTexts_eq_map, entryTokensOf_eq_map]
        refine written_listed ?_
        rw [map_map, forall₂_map_left_iff, forall₂_map_right_iff, forall₂_same]
        intro entry member
        have key := parts entry.1 (mem_parts_of_key member)
        have content := parts entry.2 (mem_parts_of_entry member)
        have written := key.append (c := ':') (by decide)
          (written_mark (by decide) (written_mark (c := ' ') (by decide) content))
        simpa using written
      have between := written_between '{' '}' (by decide) (by decide) inside
      simpa [text, enclosed, tokens] using between
    | classObject described =>
      have clear : '>' ∉ ("class '" ++ described.qualname ++ "'").toList := by
        have name : '>' ∉ described.qualname.toList := (legible _ .self).noAngle
        simp [name]
      simpa [text, tokens] using written_angled clear
    | object identity kind =>
      have clear : '>' ∉ (kind.qualname ++ " object").toList := by
        have name : '>' ∉ kind.qualname.toList := (legible _ .self).noAngle
        simp [name]
      simpa [text, tokens] using written_angled clear

end Value

end CallGuard
