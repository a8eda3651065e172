/-
Values that are written the same resemble each other: they are put together in
the same way from the same words, texts and names of classes. The tokens of one
value are never the start of those of another, so the tokens of a container can
be divided among its items in one way only. Values that resemble each other are
the same as expressions.
-/
import CallGuard.Proofs.Legibility
import CallGuard.Proofs.Sameness

namespace CallGuard

open List

/-! ### Reading back what is escaped -/

namespace Text

theorem hexValue?_digitChar (n : Nat) (small : n < 16) :
    hexValue? (Nat.digitChar n) = some n ∧ Nat.digitChar n ≠ '+' := by
  decide +revert

theorem charOfHex?_hexByte {n : Nat} (small : n < 256) :
    charOfHex? (Nat.digitChar (n / 16 % 16)) (Nat.digitChar (n % 16)) = some (Char.ofNat n) := by
  obtain ⟨high, noPlus⟩ := hexValue?_digitChar (n / 16 % 16) (Nat.mod_lt _ (by decide))
  obtain ⟨low, -⟩ := hexValue?_digitChar (n % 16) (Nat.mod_lt _ (by decide))
  have whole : 16 * (n / 16 % 16) + n % 16 = n := by omega
  rw [charOfHex?, if_neg noPlus, high, low]
  exact congrArg (fun n => some (Char.ofNat n)) whole

theorem unescape_byNumber {n : Nat} (small : n < 256) (rest : List Char) :
    unescape ('\\' :: 'x' :: hexByte n ++ rest) = Char.ofNat n :: unescape rest := by
  rw [hexByte]
  simp only [cons_append, nil_append]
  rw [unescape, charOfHex?_hexByte small]

theorem unescape_plain {c : Char} (noBackslash : c ≠ '\\') (rest : List Char) :
    unescape (c :: rest) = c :: unescape rest := by
  conv => lhs; unfold unescape
  split <;> simp_all

theorem EscapedAs.unescape {quote c : Char} {unit : List Char} (escapes : EscapedAs quote c unit)
    (quotes : quote = '\'' ∨ quote = '"') (rest : List Char) :
    unescape (unit ++ rest) = c :: Text.unescape rest := by
  cases escapes with
  | plain noBackslash => exact unescape_plain noBackslash rest
  | byNumber small => rw [escapedByNumber, unescape_byNumber small, Char.ofNat_toNat]
  | pair known =>
    simp only [mem_cons, not_mem_nil, or_false, Prod.mk.injEq] at known
    rcases known with ⟨rfl, rfl⟩ | ⟨rfl, rfl⟩ | ⟨rfl, rfl⟩ | ⟨rfl, rfl⟩ | ⟨rfl, rfl⟩
    · rfl
    · rfl
    · rfl
    · rfl
    · rcases quotes with rfl | rfl <;> rfl

/-- A text is read back from what stands for its characters. -/
theorem unescape_flatMap {quote : Char} (quotes : quote = '\'' ∨ quote = '"')
    {write : Char → List Char} (escapes : ∀ c, EscapedAs quote c (write c)) (text : List Char) :
    unescape (text.flatMap write) = text := by
  induction text with
  | nil => rfl
  | cons c text ih =>
    rw [flatMap_cons, (escapes c).unescape quotes, ih]

theorem unescape_byteText (byte : UInt8) (rest : List Char) :
    unescape (Value.byteText byte ++ rest) = Char.ofNat byte.toNat :: unescape rest := by
  unfold Value.byteText
  dsimp only
  split
  · next printable =>
    obtain ⟨-, -, -, noBackslash⟩ := printable
    refine unescape_plain (fun same => noBackslash ?_) rest
    rw [← Token.toNat_ofNat_byte byte.toNat_lt, same]
    rfl
  · exact unescape_byNumber byte.toNat_lt rest

theorem unescape_flatMap_byteText (data : List UInt8) :
    unescape (data.flatMap Value.byteText) = data.map fun byte => Char.ofNat byte.toNat := by
  induction data with
  | nil => rfl
  | cons byte data ih =>
    rw [flatMap_cons, unescape_byteText, ih, map_cons]

theorem ofNat_toNat_injective {byte byte' : UInt8}
    (same : Char.ofNat byte.toNat = Char.ofNat byte'.toNat) : byte = byte' := by
  refine UInt8.toNat_inj.mp ?_
  rw [← Token.toNat_ofNat_byte byte.toNat_lt, same, Token.toNat_ofNat_byte byte'.toNat_lt]

theorem flatMap_byteText_injective {data data' : List UInt8}
    (same : data.flatMap Value.byteText = data'.flatMap Value.byteText) : data = data' := by
  have read := congrArg unescape same
  rw [unescape_flatMap_byteText, unescape_flatMap_byteText] at read
  exact map_injective_iff.mpr (fun _ _ => ofNat_toNat_injective) read

end Text

/-! ### Values that are written the same -/

namespace Value

open Token

/-- Values that are put together in the same way from the same words, texts and names of classes. -/
inductive Resembles : Value → Value → Prop
  | word {a b : Value} {chars : List Char} (word : a.word? = some chars)
    (word' : b.word? = some chars) : Resembles a b
  | complex {x y x' y' : Binary64} (same : complexWord x y = complexWord x' y') :
    Resembles (complex x y) (complex x' y')
  | str (i j : Nat) (text : String) : Resembles (str i text) (str j text)
  | bytes (i j : Nat) (data : List UInt8) : Resembles (bytes i data) (bytes j data)
  | list {i j : Nat} {items items' : List Value} (each : List.Forall₂ Resembles items items') :
    Resembles (list i items) (list j items')
  | tuple {i j : Nat} {items items' : List Value} (each : List.Forall₂ Resembles items items') :
    Resembles (tuple i items) (tuple j items')
  | set {i j : Nat} {items items' : List Value} (each : List.Forall₂ Resembles items items') :
    Resembles (set i items) (set j items')
  | frozenset {i j : Nat} {items items' : List Value}
    (each : List.Forall₂ Resembles items items') : Resembles (frozenset i items) (frozenset j items')
  | dict {i j : Nat} {entries entries' : List (Value × Value)}
    (keys : List.Forall₂ Resembles (entries.map Prod.fst) (entries'.map Prod.fst))
    (contents : List.Forall₂ Resembles (entries.map Prod.snd) (entries'.map Prod.snd)) :
    Resembles (dict i entries) (dict j entries')
  | classObject {c c' : Class} (same : c.qualname = c'.qualname) :
    Resembles (classObject c) (classObject c')
  | object {i j : Nat} {c c' : Class} (same : c.qualname = c'.qualname) :
    Resembles (object i c) (object j c')

/-- The first token of a written value. -/
def opening : Value → Token
  | complex _ _ | tuple _ _ => .mark '('
  | list _ _ => .mark '['
  | set _ (_ :: _) | dict _ _ => .mark '{'
  | str _ text => .quoted (Text.quoteFor text.toList)
      (text.toList.flatMap (Text.escaped (Text.quoteFor text.toList)))
  | classObject described => .angled ("class '" ++ described.qualname ++ "'").toList
  | object _ kind => .angled (kind.qualname ++ " object").toList
  | bytes _ _ => .word ['b']
  | set _ [] => .word ['s', 'e', 't']
  | frozenset _ _ => .word ['f', 'r', 'o', 'z', 'e', 'n', 's', 'e', 't']
  | value => .word (value.word?.getD [])

theorem tokens_eq_cons (value : Value) : ∃ rest, value.tokens = value.opening :: rest := by
  cases value with
  | null | bool | int | float | complex | str | bytes | list | frozenset | dict | classObject
  | object => exact ⟨_, rfl⟩
  | tuple _ items => rcases items with _ | ⟨_, _ | _⟩ <;> exact ⟨_, rfl⟩
  | set _ items => cases items <;> exact ⟨_, rfl⟩

variable {rest rest' : List Token} {items : List Value} {value : Value} {chars : List Char}

theorem opening_eq {a b : Value}
    (same : a.tokens ++ rest = b.tokens ++ rest') : a.opening = b.opening := by
  obtain ⟨tokens, first⟩ := tokens_eq_cons a
  obtain ⟨tokens', first'⟩ := tokens_eq_cons b
  rw [first, first'] at same
  exact (cons.inj same).1

/-- No value starts with what ends a list or stands between items. -/
theorem opening_ne (value : Value) {c : Char} (closes : c ∈ [',', ':', ')', ']', '}']) :
    value.opening ≠ .mark c := by
  intro same
  have opens : c ∈ ['(', '[', '{'] := by
    unfold opening at same
    split at same <;> cases same <;> decide
  have apart : ∀ c ∈ ['(', '[', '{'], c ∉ [',', ':', ')', ']', '}'] := by decide
  exact apart c opens closes

/-! ### Lists with commas -/

theorem listed_cons_cons (first second : List Token) (rest : List (List Token)) :
    listed (first :: second :: rest) =
      first ++ .mark ',' :: .mark ' ' :: listed (second :: rest) := by
  simp [listed]

theorem listed_singleton (item : List Token) : listed [item] = item := by simp [listed]

/-- After its first item a list ends or goes on with a comma. -/
theorem listed_cons (first : List Token) (rest : List (List Token)) :
    ∃ tokens, listed (first :: rest) = first ++ tokens ∧ ∀ token ∈ tokens.head?, token = .mark ',' := by
  cases rest with
  | nil => exact ⟨[], by rw [listed_singleton, append_nil], by simp⟩
  | cons second rest => exact ⟨_, listed_cons_cons first second rest, by simp⟩

/-- If the items of two lists with commas can be read back, so can the lists. -/
theorem forall₂_of_listed {Left Right : Type} {linked : Left → Right → Prop}
    {write : Left → List Token} {write' : Right → List Token} {close close' : Char}
    (closes : close ∈ [')', ']', '}']) (closes' : close' ∈ [')', ']', '}'])
    {lefts : List Left} {rights : List Right}
    (opens : ∀ left ∈ lefts, ∃ value : Value, ∃ rest, write left = value.opening :: rest)
    (opens' : ∀ right ∈ rights, ∃ value : Value, ∃ rest, write' right = value.opening :: rest)
    (each : ∀ left ∈ lefts, ∀ right ∈ rights, ∀ rest rest',
      write left ++ rest = write' right ++ rest' → linked left right ∧ rest = rest')
    (same : listed (lefts.map write) ++ .mark close :: rest =
      listed (rights.map write') ++ .mark close' :: rest') :
    List.Forall₂ linked lefts rights ∧ close = close' ∧ rest = rest' := by
  have ends {close : Char} (closes : close ∈ [')', ']', '}']) :
      close ∈ [',', ':', ')', ']', '}'] := mem_cons_of_mem _ (mem_cons_of_mem _ closes)
  have noComma {close : Char} (closes : close ∈ [')', ']', '}']) : close ≠ ',' := by
    rintro rfl
    revert closes
    decide
  -- The empty list ends at once, and no other one does.
  have first {Item : Type} {write : Item → List Token} {item : Item} (items : List Item)
      (opens : ∃ value : Value, ∃ rest, write item = value.opening :: rest) {close : Char}
      (closes : close ∈ [')', ']', '}']) {tokens rest : List Token}
      (same : listed ((item :: items).map write) ++ tokens = .mark close :: rest) : False := by
    obtain ⟨value, following, start⟩ := opens
    obtain ⟨others, split, -⟩ := listed_cons (write item) (items.map write)
    rw [map_cons, split, start] at same
    exact opening_ne value (ends closes) (cons.inj same).1
  induction lefts generalizing rights with
  | nil =>
    cases rights with
    | nil =>
      obtain ⟨mark, following⟩ := cons.inj same
      exact ⟨.nil, Token.mark.inj mark, following⟩
    | cons right rights => exact (first rights (opens' right mem_cons_self) closes same.symm).elim
  | cons left lefts ih =>
    cases rights with
    | nil => exact (first lefts (opens left mem_cons_self) closes' same).elim
    | cons right rights =>
      have heads := each left mem_cons_self right mem_cons_self
      cases lefts with
      | nil =>
        cases rights with
        | nil =>
          rw [map_singleton, map_singleton, listed_singleton, listed_singleton] at same
          obtain ⟨link, following⟩ := heads _ _ same
          obtain ⟨mark, following⟩ := cons.inj following
          exact ⟨.cons link .nil, Token.mark.inj mark, following⟩
        | cons right' rights =>
          rw [map_singleton, listed_singleton, map_cons, map_cons, listed_cons_cons,
            append_assoc] at same
          have following := (heads _ _ same).2
          exact (noComma closes (Token.mark.inj (cons.inj following).1)).elim
      | cons left' lefts =>
        cases rights with
        | nil =>
          rw [map_singleton, listed_singleton, map_cons, map_cons, listed_cons_cons,
            append_assoc] at same
          have following := (heads _ _ same).2
          exact (noComma closes' (Token.mark.inj (cons.inj following).1).symm).elim
        | cons right' rights =>
          rw [map_cons, map_cons, listed_cons_cons, append_assoc, map_cons,
            map_cons, listed_cons_cons, append_assoc] at same
          obtain ⟨link, following⟩ := heads _ _ same
          have following := (cons.inj (cons.inj following).2).2
          obtain ⟨links, mark, following⟩ := ih
            (fun item member => opens item (mem_cons_of_mem _ member))
            (fun item member => opens' item (mem_cons_of_mem _ member))
            (fun item member other member' =>
              each item (mem_cons_of_mem _ member) other (mem_cons_of_mem _ member'))
            following
          exact ⟨.cons link links, mark, following⟩

/-- A value as it is read back from its tokens: what follows them is found, too. -/
def ReadBack (value : Value) : Prop :=
  ∀ other : Value, other.Legible → ∀ rest rest', value.tokens ++ rest = other.tokens ++ rest' →
    Resembles value other ∧ rest = rest'

theorem forall₂_of_itemTokens {items items' : List Value} {close close' : Char}
    (closes : close ∈ [')', ']', '}']) (closes' : close' ∈ [')', ']', '}'])
    (each : ∀ item ∈ items, item.ReadBack) (legible : ∀ item ∈ items', item.Legible)
    (same : listed (tokensOf items) ++ .mark close :: rest =
      listed (tokensOf items') ++ .mark close' :: rest') :
    List.Forall₂ Resembles items items' ∧ close = close' ∧ rest = rest' := by
  rw [tokensOf_eq_map, tokensOf_eq_map] at same
  refine forall₂_of_listed closes closes' (fun item _ => ⟨item, tokens_eq_cons item⟩)
    (fun item _ => ⟨item, tokens_eq_cons item⟩) ?_ same
  exact fun item member other member' => each item member other (legible other member')

theorem forall₂_of_entryTokens {entries entries' : List (Value × Value)}
    (each : ∀ entry ∈ entries, entry.1.ReadBack ∧ entry.2.ReadBack)
    (legible : ∀ entry ∈ entries', entry.1.Legible ∧ entry.2.Legible)
    (same : listed (entryTokensOf entries) ++ .mark '}' :: rest =
      listed (entryTokensOf entries') ++ .mark '}' :: rest') :
    List.Forall₂ (fun entry entry' => Resembles entry.1 entry'.1 ∧ Resembles entry.2 entry'.2)
      entries entries' ∧ rest = rest' := by
  have opens (entry : Value × Value) : ∃ value : Value, ∃ rest,
      tokens entry.1 ++ .mark ':' :: .mark ' ' :: tokens entry.2 = value.opening :: rest := by
    obtain ⟨rest, start⟩ := tokens_eq_cons entry.1
    exact ⟨entry.1, _, by rw [start, cons_append]⟩
  rw [entryTokensOf_eq_map, entryTokensOf_eq_map] at same
  have read : ∀ entry ∈ entries, ∀ entry' ∈ entries', ∀ rest rest' : List Token,
      tokens entry.1 ++ .mark ':' :: .mark ' ' :: tokens entry.2 ++ rest =
        tokens entry'.1 ++ .mark ':' :: .mark ' ' :: tokens entry'.2 ++ rest' →
      (Resembles entry.1 entry'.1 ∧ Resembles entry.2 entry'.2) ∧ rest = rest' := by
    intro entry member entry' member' rest rest' same
    simp only [append_assoc, cons_append] at same
    obtain ⟨key, following⟩ := (each entry member).1 _ (legible entry' member').1 _ _ same
    obtain ⟨content, following⟩ := (each entry member).2 _ (legible entry' member').2 _ _
      (cons.inj (cons.inj following).2).2
    exact ⟨⟨key, content⟩, following⟩
  obtain ⟨links, -, following⟩ := forall₂_of_listed (by decide) (by decide)
    (fun entry _ => opens entry) (fun entry _ => opens entry) read same
  exact ⟨links, following⟩

/-- Entries cannot be mistaken for items: a colon follows the first key. -/
theorem itemTokens_ne_entryTokens {item : Value}
    {entries : List (Value × Value)}
    (apart : ∀ entry ∈ entries, ∀ rest rest', item.tokens ++ rest = entry.1.tokens ++ rest' →
      rest = rest') (rest rest' : List Token) :
    listed (tokensOf (item :: items)) ++ .mark '}' :: rest ≠
      listed (entryTokensOf entries) ++ .mark '}' :: rest' := by
  intro same
  obtain ⟨others, split, comma⟩ := listed_cons item.tokens (tokensOf items)
  rw [tokensOf, split, append_assoc] at same
  rcases entries with _ | ⟨⟨key, content⟩, entries⟩
  · obtain ⟨following, start⟩ := tokens_eq_cons item
    rw [start] at same
    exact opening_ne item (by decide) (cons.inj same).1
  · obtain ⟨others', split', -⟩ :=
      listed_cons (key.tokens ++ .mark ':' :: .mark ' ' :: content.tokens) (entryTokensOf entries)
    rw [entryTokensOf, split'] at same
    simp only [append_assoc, cons_append] at same
    have following := apart (key, content) mem_cons_self _ _ same
    cases others with
    | nil => exact absurd (Token.mark.inj (cons.inj following).1) (by decide)
    | cons token others =>
      rw [comma token rfl] at following
      exact absurd (Token.mark.inj (cons.inj following).1) (by decide)

/-! ### What the first token tells -/

theorem eq_of_opening_square (start : value.opening = .mark '[') :
    ∃ i items, value = list i items := by
  unfold opening at start
  split at start <;> simp at start ⊢

theorem eq_of_opening_round (start : value.opening = .mark '(') :
    (∃ x y, value = complex x y) ∨ ∃ i items, value = tuple i items := by
  unfold opening at start
  split at start <;> simp at start ⊢

theorem eq_of_opening_brace (start : value.opening = .mark '{') :
    (∃ i first rest, value = set i (first :: rest)) ∨ ∃ i entries, value = dict i entries := by
  unfold opening at start
  split at start <;> simp at start ⊢

theorem eq_of_opening_quoted {quote : Char} {body : List Char}
    (start : value.opening = .quoted quote body) : ∃ i text, value = str i text := by
  unfold opening at start
  split at start <;> simp at start ⊢

theorem eq_of_opening_angled {body : List Char}
    (start : value.opening = .angled body) :
    (∃ c, value = classObject c) ∨ ∃ i c, value = object i c := by
  unfold opening at start
  split at start <;> simp at start ⊢

/-- The words that more tokens of a value follow. -/
theorem eq_of_opening_word
    (start : value.opening = .word chars) :
    value.word? = some chars ∨ (∃ i data, value = bytes i data) ∨ (∃ i, value = set i []) ∨
      ∃ i items, value = frozenset i items := by
  cases value with
  | null | bool | int | float => exact .inl (congrArg some (Token.word.inj start))
  | bytes => simp
  | frozenset => simp
  | set _ items =>
    cases items with
    | nil => simp
    | cons => simp [opening] at start
  | complex | str | list | tuple | dict | classObject | object => simp [opening] at start

theorem tokens_of_word (word : value.word? = some chars) :
    value.tokens = [.word chars] := by
  cases value with
  | null | bool | int | float =>
    cases word
    rfl
  | complex | str | bytes | list | tuple | set | frozenset | dict | classObject | object =>
    cases word

/-- The words that are the whole of a value are not those that more of a value follows. -/
theorem word?_unlike (word : value.word? = some chars) :
    chars ∉ [['b'], ['s', 'e', 't'], ['f', 'r', 'o', 'z', 'e', 'n', 's', 'e', 't']] := by
  intro reserved
  rcases word?_cases word with listed | numeral
  · have apart : ∀ chars ∈ ['N', 'o', 'n', 'e'] :: ['T', 'r', 'u', 'e'] ::
        ['F', 'a', 'l', 's', 'e'] :: unusualNumbers,
        chars ∉ [['b'], ['s', 'e', 't'], ['f', 'r', 'o', 'z', 'e', 'n', 's', 'e', 't']] := by
      decide
    exact apart chars listed reserved
  · have letter : ∀ chars ∈ [['b'], ['s', 'e', 't'], ['f', 'r', 'o', 'z', 'e', 'n', 's', 'e', 't']],
        ∃ c ∈ chars, ¬ (c.isDigit = true ∨ c = '.' ∨ c = '-') := by decide
    obtain ⟨c, member, noNumeral⟩ := letter chars reserved
    exact noNumeral (numeral.2 c member)

/-! ### Reading a value back -/

theorem readBack_word (word : value.word? = some chars) :
    value.ReadBack := by
  intro other _ rest rest' same
  have start := opening_eq same
  rw [tokens_of_word word] at same
  have opening : value.opening = .word chars := by
    obtain ⟨_, tokens⟩ := tokens_eq_cons value
    rw [tokens_of_word word] at tokens
    exact (cons.inj tokens).1.symm
  rw [opening] at start
  have unlike := word?_unlike word
  rcases eq_of_opening_word start.symm with word' | ⟨_, _, rfl⟩ | ⟨_, rfl⟩ | ⟨_, _, rfl⟩
  · rw [tokens_of_word word'] at same
    exact ⟨.word word word', (cons.inj same).2⟩
  all_goals
    rw [Token.word.inj start] at unlike
    simp at unlike

/-- What follows the comma after the first item of a tuple. -/
def tupleTail : List (List Token) → List Token
  | [] => [.mark ')']
  | items => .mark ' ' :: listed items ++ [.mark ')']

/-- The first item of a tuple has a comma after it, also if it is the only one. -/
theorem tupleTokens_cons (first : List Token) (rest : List (List Token)) :
    tupleTokens (first :: rest) = .mark '(' :: (first ++ .mark ',' :: tupleTail rest) := by
  cases rest with
  | nil => rfl
  | cons second rest =>
    have whole : tupleTokens (first :: second :: rest) =
      .mark '(' :: listed (first :: second :: rest) ++ [.mark ')'] := rfl
    rw [whole, listed_cons_cons]
    simp [tupleTail]

theorem complexTokens_ne_tupleTokens (x y : Binary64) (items : List Value)
    (rest rest' : List Token) :
    tokens (complex x y) ++ rest ≠ tupleTokens (tokensOf items) ++ rest' := by
  intro same
  rcases items with _ | ⟨item, items⟩
  · cases (cons.inj (cons.inj same).2).1
  · obtain ⟨following, start⟩ := tokens_eq_cons item
    rw [tokensOf, tupleTokens_cons, cons_append, append_assoc] at same
    have inside : .word (complexWord x y) :: .mark ')' :: rest =
        item.tokens ++ (.mark ',' :: tupleTail (tokensOf items) ++ rest') := (cons.inj same).2
    rw [start] at inside
    have word := (cons.inj inside).1.symm
    rw [← start] at inside
    -- What follows the word is a closing bracket here, and nothing of the kind there.
    rcases eq_of_opening_word word with word | ⟨_, _, rfl⟩ | ⟨_, rfl⟩ | ⟨_, _, rfl⟩
    · rw [tokens_of_word word] at inside
      exact absurd (Token.mark.inj (cons.inj (cons.inj inside).2).1) (by decide)
    · cases (cons.inj (cons.inj inside).2).1
    · exact absurd (Token.mark.inj (cons.inj (cons.inj inside).2).1) (by decide)
    · exact absurd (Token.mark.inj (cons.inj (cons.inj inside).2).1) (by decide)

theorem readBack_complex (x y : Binary64) : (complex x y).ReadBack := by
  intro other _ rest rest' same
  rcases eq_of_opening_round (opening_eq same).symm with ⟨x', y', rfl⟩ | ⟨_, items, rfl⟩
  · obtain ⟨word, following⟩ := cons.inj (cons.inj same).2
    exact ⟨.complex (Token.word.inj word), (cons.inj following).2⟩
  · exact absurd same (complexTokens_ne_tupleTokens x y items rest rest')

theorem readBack_str (i : Nat) (text : String) : (str i text).ReadBack := by
  intro other _ rest rest' same
  obtain ⟨j, text', rfl⟩ := eq_of_opening_quoted (opening_eq same).symm
  obtain ⟨token, following⟩ := cons.inj same
  obtain ⟨quote, body⟩ := Token.quoted.inj token
  rw [← quote] at body
  have content := congrArg Text.unescape body
  rw [Text.unescape_flatMap (quoteFor_eq _) (Text.escapedAs_escaped _),
    Text.unescape_flatMap (quoteFor_eq _) (Text.escapedAs_escaped _)] at content
  rw [String.toList_inj.mp content]
  exact ⟨.str i j text', following⟩

theorem readBack_bytes (i : Nat) (data : List UInt8) : (bytes i data).ReadBack := by
  intro other _ rest rest' same
  have start := (opening_eq same).symm
  rcases eq_of_opening_word start with word | ⟨j, data', rfl⟩ | ⟨_, rfl⟩ | ⟨_, _, rfl⟩
  · exact absurd mem_cons_self (word?_unlike word)
  · obtain ⟨token, following⟩ := cons.inj (cons.inj same).2
    rw [Text.flatMap_byteText_injective (Token.quoted.inj token).2]
    exact ⟨.bytes i j data', following⟩
  · simp [opening] at start
  · simp [opening] at start

variable {i : Nat}

theorem readBack_list (each : ∀ item ∈ items, item.ReadBack) :
    (list i items).ReadBack := by
  intro other legible rest rest' same
  obtain ⟨j, items', rfl⟩ := eq_of_opening_square (opening_eq same).symm
  have inside : listed (tokensOf items) ++ .mark ']' :: rest =
      listed (tokensOf items') ++ .mark ']' :: rest' := by
    simpa [tokens] using same
  obtain ⟨links, -, following⟩ := forall₂_of_itemTokens (by decide) (by decide) each
    (fun item member => legible.part member) inside
  exact ⟨.list links, following⟩

theorem forall₂_of_tupleTail {items items' : List Value} (each : ∀ item ∈ items, item.ReadBack)
    (legible : ∀ item ∈ items', item.Legible)
    (same : tupleTail (tokensOf items) ++ rest = tupleTail (tokensOf items') ++ rest') :
    List.Forall₂ Resembles items items' ∧ rest = rest' := by
  rcases items with _ | ⟨first, items⟩ <;> rcases items' with _ | ⟨first', items'⟩
  · exact ⟨.nil, (cons.inj same).2⟩
  · exact absurd (Token.mark.inj (cons.inj same).1) (by decide)
  · exact absurd (Token.mark.inj (cons.inj same).1) (by decide)
  · have inside : listed (tokensOf (first :: items)) ++ .mark ')' :: rest =
        listed (tokensOf (first' :: items')) ++ .mark ')' :: rest' := by
      simpa [tokensOf, tupleTail] using same
    obtain ⟨links, -, following⟩ :=
      forall₂_of_itemTokens (by decide) (by decide) each legible inside
    exact ⟨links, following⟩

theorem readBack_tuple (each : ∀ item ∈ items, item.ReadBack) :
    (tuple i items).ReadBack := by
  intro other legible rest rest' same
  rcases eq_of_opening_round (opening_eq same).symm with ⟨x, y, rfl⟩ | ⟨j, items', rfl⟩
  · exact absurd same.symm (complexTokens_ne_tupleTokens x y items rest' rest)
  have legible (item : Value) (member : item ∈ items') : item.Legible := legible.part member
  have bracket (item : Value) (items : List Value) (rest rest' : List Token) :
      tupleTokens (tokensOf (item :: items)) ++ rest ≠ tupleTokens (tokensOf []) ++ rest' := by
    intro same
    obtain ⟨following, start⟩ := tokens_eq_cons item
    rw [tokensOf, tokensOf, tupleTokens_cons, start] at same
    exact opening_ne item (by decide) (cons.inj (cons.inj same).2).1
  rw [tokens, tokens] at same
  rcases items with _ | ⟨first, items⟩ <;> rcases items' with _ | ⟨first', items'⟩
  · exact ⟨.tuple .nil, (cons.inj (cons.inj same).2).2⟩
  · exact absurd same.symm (bracket first' items' rest' rest)
  · exact absurd same (bracket first items rest rest')
  · rw [tokensOf, tokensOf, tupleTokens_cons, tupleTokens_cons] at same
    simp only [cons_append, append_assoc] at same
    obtain ⟨link, following⟩ := each first mem_cons_self first'
      (legible first' mem_cons_self) _ _ (cons.inj same).2
    obtain ⟨links, following⟩ := forall₂_of_tupleTail
      (fun item member => each item (mem_cons_of_mem _ member))
      (fun item member => legible item (mem_cons_of_mem _ member)) (cons.inj following).2
    exact ⟨.tuple (.cons link links), following⟩

theorem readBack_set (each : ∀ item ∈ items, item.ReadBack) :
    (set i items).ReadBack := by
  intro other legible rest rest' same
  have start := (opening_eq same).symm
  cases items with
  | nil =>
    rcases eq_of_opening_word start with word | ⟨_, _, rfl⟩ | ⟨j, rfl⟩ | ⟨_, _, rfl⟩
    · exact absurd (mem_cons_of_mem _ mem_cons_self) (word?_unlike word)
    · simp [opening] at start
    · exact ⟨.set .nil, (cons.inj (cons.inj (cons.inj same).2).2).2⟩
    · simp [opening] at start
  | cons first items =>
    rcases eq_of_opening_brace start with ⟨j, first', items', rfl⟩ | ⟨j, entries, rfl⟩
    · have inside : listed (tokensOf (first :: items)) ++ .mark '}' :: rest =
          listed (tokensOf (first' :: items')) ++ .mark '}' :: rest' := by
        simpa [tokens, tokensOf, setTokens] using same
      obtain ⟨links, -, following⟩ := forall₂_of_itemTokens (by decide) (by decide) each
        (fun item member => legible.part member) inside
      exact ⟨.set links, following⟩
    · have inside : listed (tokensOf (first :: items)) ++ .mark '}' :: rest =
          listed (entryTokensOf entries) ++ .mark '}' :: rest' := by
        simpa [tokens, tokensOf, setTokens] using same
      refine absurd inside (itemTokens_ne_entryTokens (fun entry member rest rest' same => ?_) _ _)
      exact (each first mem_cons_self entry.1 (legible.part (mem_parts_of_key member)) _ _ same).2

theorem readBack_frozenset (each : ∀ item ∈ items, item.ReadBack) :
    (frozenset i items).ReadBack := by
  intro other legible rest rest' same
  have start := (opening_eq same).symm
  rcases eq_of_opening_word start with word | ⟨_, _, rfl⟩ | ⟨_, rfl⟩ | ⟨j, items', rfl⟩
  · exact absurd (mem_cons_of_mem _ (mem_cons_of_mem _ mem_cons_self)) (word?_unlike word)
  · simp [opening] at start
  · simp [opening] at start
  · have inside : listed (tokensOf items) ++ .mark '}' :: (.mark ')' :: rest) =
        listed (tokensOf items') ++ .mark '}' :: (.mark ')' :: rest') := by
      simpa [tokens] using same
    obtain ⟨links, -, following⟩ := forall₂_of_itemTokens (by decide) (by decide) each
      (fun item member => legible.part member) inside
    exact ⟨.frozenset links, (cons.inj following).2⟩

theorem readBack_dict {entries : List (Value × Value)}
    (each : ∀ entry ∈ entries, entry.1.ReadBack ∧ entry.2.ReadBack) :
    (dict i entries).ReadBack := by
  intro other legible rest rest' same
  rcases eq_of_opening_brace (opening_eq same).symm with ⟨j, item, items, rfl⟩ | ⟨j, entries', rfl⟩
  · have inside : listed (entryTokensOf entries) ++ .mark '}' :: rest =
        listed (tokensOf (item :: items)) ++ .mark '}' :: rest' := by
      simpa [tokens, tokensOf, setTokens] using same
    refine absurd inside.symm (itemTokens_ne_entryTokens (fun entry member rest rest' same => ?_) _ _)
    exact ((each entry member).1 item (legible.part mem_cons_self) _ _ same.symm).2.symm
  · have inside : listed (entryTokensOf entries) ++ .mark '}' :: rest =
        listed (entryTokensOf entries') ++ .mark '}' :: rest' := by
      simpa [tokens] using same
    obtain ⟨links, following⟩ := forall₂_of_entryTokens each
      (fun entry member => ⟨legible.part (mem_parts_of_key member),
        legible.part (mem_parts_of_entry member)⟩) inside
    refine ⟨.dict ?_ ?_, following⟩
    · rw [forall₂_map_left_iff, forall₂_map_right_iff]
      exact links.imp fun _ _ both => both.1
    · rw [forall₂_map_left_iff, forall₂_map_right_iff]
      exact links.imp fun _ _ both => both.2

theorem readBack_classObject (c : Class) : (classObject c).ReadBack := by
  intro other legible rest rest' same
  have start := opening_eq same
  rcases eq_of_opening_angled start.symm with ⟨c', rfl⟩ | ⟨j, c', rfl⟩
  · have name : c.qualname = c'.qualname := String.toList_inj.mp (by simpa [opening] using start)
    exact ⟨.classObject name, (cons.inj same).2⟩
  · -- Only the name of a class object stands in quotes.
    have noQuote : '\'' ∉ c'.qualname.toList := (legible _ .self).noQuote
    have quote : '\'' ∈ (c'.qualname ++ " object").toList := by
      rw [← Token.angled.inj start]
      simp
    simp [noQuote] at quote

theorem readBack_object {c : Class} (legible : (object i c).Legible) :
    (object i c).ReadBack := by
  intro other _ rest rest' same
  have start := opening_eq same
  rcases eq_of_opening_angled start.symm with ⟨c', rfl⟩ | ⟨j, c', rfl⟩
  · have noQuote : '\'' ∉ c.qualname.toList := (legible _ .self).noQuote
    have quote : '\'' ∈ (c.qualname ++ " object").toList := by
      rw [Token.angled.inj start]
      simp
    simp [noQuote] at quote
  · have name : c.qualname = c'.qualname := String.toList_inj.mp (by simpa [opening] using start)
    exact ⟨.object name, (cons.inj same).2⟩

/-- The tokens of a legible value tell what it resembles, whatever follows them. -/
theorem readBack (legible : value.Legible) : value.ReadBack := by
  induction value using induction_parts with
  | step value ih =>
    have parts (part : Value) (member : part ∈ value.parts) : part.ReadBack :=
      ih part member (legible.part member)
    cases value with
    | null | bool | int | float => exact readBack_word rfl
    | complex x y => exact readBack_complex x y
    | str i text => exact readBack_str i text
    | bytes i data => exact readBack_bytes i data
    | list i items => exact readBack_list parts
    | tuple i items => exact readBack_tuple parts
    | set i items => exact readBack_set parts
    | frozenset i items => exact readBack_frozenset parts
    | dict i entries =>
      exact readBack_dict fun entry member =>
        ⟨parts _ (mem_parts_of_key member), parts _ (mem_parts_of_entry member)⟩
    | classObject c => exact readBack_classObject c
    | object i c => exact readBack_object legible

/-- Legible values that are written the same resemble each other. -/
theorem resembles_of_text {a b : Value} (legible : a.Legible) (legible' : b.Legible)
    (same : a.text = b.text) : Resembles a b := by
  have tokens := written_text legible [] (by simp [Stops])
  have tokens' := written_text legible' [] (by simp [Stops])
  rw [same, tokens'] at tokens
  exact (readBack legible b legible' _ _ tokens.symm).1

/-! ### Expressions -/

/-- A word as an expression. -/
def wordCode (chars : List Char) : String :=
  if chars = ['N', 'a', 'N'] then "float('nan')"
  else if chars = ['i', 'n', 'f'] then "float('inf')"
  else if chars = ['-', 'i', 'n', 'f'] then "float('-inf')"
  else String.ofList chars

theorem IsNumeral.wordCode_eq (numeral : IsNumeral chars) :
    wordCode chars = String.ofList chars := by
  have letter : ∀ chars ∈ unusualNumbers,
      ∃ c ∈ chars, ¬ (c.isDigit = true ∨ c = '.' ∨ c = '-') := by decide
  have usual : chars ∉ unusualNumbers := by
    intro unusual
    obtain ⟨c, member, noNumeral⟩ := letter chars unusual
    exact noNumeral (numeral.2 c member)
  simp only [unusualNumbers, mem_cons, not_mem_nil, or_false, not_or] at usual
  rw [wordCode, if_neg usual.1, if_neg usual.2.1, if_neg usual.2.2]

theorem floatCode_eq (x : Binary64) : floatCode x = wordCode (floatText x).toList := by
  have whole (finite : x.isFinite = false) : floatText x = x.text := by
    simp [floatText, Binary64.isIntegral, finite]
  cases number : x.isNaN with
  | true =>
    have finite : x.isFinite = false := by
      simp only [Binary64.isNaN, decide_eq_true_eq] at number
      simp [Binary64.isFinite, number.1]
    rw [whole finite, text_of_isNaN number, floatCode, if_pos number]
    rfl
  | false =>
    have notNumber : ¬ x.isNaN = true := by simp [number]
    rw [floatCode, if_neg notNumber]
    cases infinite : x.isInfinite with
    | true =>
      have finite : x.isFinite = false := by
        simp only [Binary64.isInfinite, decide_eq_true_eq] at infinite
        simp [Binary64.isFinite, infinite.1]
      rw [whole finite, text_of_isInfinite number infinite]
      cases x.isNegative <;> rfl
    | false =>
      rw [(isNumeral_floatText number infinite).wordCode_eq, String.ofList_toList]
      rfl

theorem code_of_word (word : value.word? = some chars) :
    value.code = wordCode chars := by
  cases value with
  | null =>
    cases word
    rfl
  | bool truth =>
    cases word
    cases truth <;> rfl
  | int number =>
    cases word
    rw [(isNumeral_int number).wordCode_eq, String.ofList_toList]
    rfl
  | float number =>
    cases word
    exact floatCode_eq number
  | complex | str | bytes | list | tuple | set | frozenset | dict | classObject | object =>
    cases word

end Value

/-- Legible classes with the same name are the same in expressions. -/
theorem Class.code_eq {c c' : Class} (legible : c.Legible) (legible' : c'.Legible)
    (same : c.qualname = c'.qualname) : c.code = c'.code := by
  have point (c : Class) (other : c.home ≠ builtinHome) : '.' ∈ c.qualname.toList := by
    rw [qualname, if_neg other]
    simp
  have name (c : Class) (builtin : c.home = builtinHome) : c.qualname = c.name := by
    rw [qualname, if_pos builtin]
  unfold code
  split <;> split
  · next builtin builtin' => rw [← name c builtin, ← name c' builtin', same]
  · next builtin other =>
    refine absurd (point c' other) ?_
    rw [← same, name c builtin]
    exact legible.noPoint builtin
  · next other builtin =>
    refine absurd (point c other) ?_
    rw [same, name c' builtin]
    exact legible'.noPoint builtin
  · rw [same]

namespace Value

theorem codes_eq_map (items : List Value) : codes items = items.map code := by
  induction items with
  | nil => rfl
  | cons first rest ih => rw [codes, ih, map_cons]

theorem entryCodes_eq_zipWith (entries : List (Value × Value)) :
    entryCodes entries = zipWith (fun key value => key ++ ": " ++ value)
      ((entries.map Prod.fst).map code) ((entries.map Prod.snd).map code) := by
  induction entries with
  | nil => rfl
  | cons first rest ih => rw [entryCodes, ih]; rfl

/-- Values that resemble each other are the same as expressions. -/
theorem Resembles.code_eq {a b : Value} (resembles : Resembles a b) (legible : a.Legible)
    (legible' : b.Legible) : a.code = b.code := by
  induction a using induction_parts generalizing b with
  | step a ih =>
    have items {items items' : List Value} (each : List.Forall₂ Resembles items items')
        (inside : ∀ item ∈ items, item ∈ a.parts) (inside' : ∀ item ∈ items', item ∈ b.parts) :
        items.map code = items'.map code := by
      rw [← forall₂_eq_eq_eq, forall₂_map_left_iff, forall₂_map_right_iff]
      refine forall₂_imp_of_mem each fun item member item' member' link => ?_
      exact ih item (inside item member) link (legible.part (inside item member))
        (legible'.part (inside' item' member'))
    cases resembles with
    | word word word' => rw [code_of_word word, code_of_word word']
    | @complex x y x' y' same =>
      have text (x y : Binary64) : complexText x y = "(" ++ String.ofList (complexWord x y) ++ ")" :=
        String.toList_inj.mp (by simp [complexText, complexWord])
      exact (text x y).trans (same ▸ (text x' y').symm)
    | str | bytes => rfl
    | list each | tuple each | set each | frozenset each =>
      rw [code, code, codes_eq_map, codes_eq_map, items each (fun _ => id) fun _ => id]
    | @dict i j entries entries' keys contents =>
      have key (entries : List (Value × Value)) :
          ∀ value ∈ entries.map Prod.fst, value ∈ (Value.dict i entries).parts := by
        intro value member
        obtain ⟨entry, inside, rfl⟩ := mem_map.mp member
        exact mem_parts_of_key inside
      have content (entries : List (Value × Value)) :
          ∀ value ∈ entries.map Prod.snd, value ∈ (Value.dict i entries).parts := by
        intro value member
        obtain ⟨entry, inside, rfl⟩ := mem_map.mp member
        exact mem_parts_of_entry inside
      rw [code, code, entryCodes_eq_zipWith, entryCodes_eq_zipWith,
        items keys (key entries) (key entries'), items contents (content entries) (content entries')]
    | classObject same => exact Class.code_eq (legible _ .self) (legible' _ .self) same
    | object same => rw [code, code, text, text, same]

end Value

end CallGuard
