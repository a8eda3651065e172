/-
What a look through a text finds. A pattern is not found in a text, whatever
comes after it, if it clashes with each rest of the text. Quoted texts end with
a quote and have no other one that is not escaped; so a pattern without quotes is
found there only if it is in the text that is quoted, and the start of a look-up
only if that text ends like one. What is looked up is read back as it was
written.
-/
import CallGuard.Source.Verify
import CallGuard.Proofs.Resemblance
import CallGuard.Proofs.Regularity

namespace CallGuard

open List Text

namespace Text

/-! ### Patterns that are not found -/

/-- Whether the two texts differ at some place that both have. -/
def clashes : List Char → List Char → Bool
  | a :: pattern, b :: text => a != b || clashes pattern text
  | _, _ => false

/-- Whether the pattern clashes with each rest of the text. -/
def avoids (pattern : List Char) : List Char → Bool
  | [] => true
  | c :: rest => clashes pattern (c :: rest) && avoids pattern rest

variable {pattern text : List Char}

theorem clashes_append (clash : clashes pattern text = true)
    (more : List Char) : clashes pattern (text ++ more) = true := by
  induction pattern generalizing text with
  | nil => cases clash
  | cons a pattern ih =>
    cases text with
    | nil => cases clash
    | cons b text =>
      rw [clashes, Bool.or_eq_true] at clash
      rw [cons_append, clashes, Bool.or_eq_true]
      exact clash.imp_right ih

theorem avoids_append {pattern first second : List Char} (avoid : avoids pattern first = true)
    (avoid' : avoids pattern second = true) : avoids pattern (first ++ second) = true := by
  induction first with
  | nil => exact avoid'
  | cons c rest ih =>
    rw [avoids, Bool.and_eq_true] at avoid
    rw [cons_append, avoids, Bool.and_eq_true]
    exact ⟨clashes_append avoid.1 second, ih avoid.2⟩

theorem not_prefix_of_clashes (clash : clashes pattern text = true) :
    pattern.isPrefixOf text = false := by
  induction pattern generalizing text with
  | nil => cases clash
  | cons a pattern ih =>
    cases text with
    | nil => cases clash
    | cons b text =>
      rw [clashes, Bool.or_eq_true, bne_iff_ne] at clash
      rw [isPrefixOf]
      rcases clash with differs | clash
      · rw [beq_false_of_ne differs, Bool.false_and]
      · rw [ih clash, Bool.and_false]

/-- Texts that do not clash agree up to the end of one of them. -/
theorem prefix_of_not_clashes (agree : clashes pattern text = false) :
    pattern <+: text ∨ text <+: pattern := by
  induction pattern generalizing text with
  | nil => exact .inl nil_prefix
  | cons a pattern ih =>
    cases text with
    | nil => exact .inr nil_prefix
    | cons b text =>
      rw [clashes, Bool.or_eq_false_iff, bne_eq_false_iff_eq] at agree
      rw [agree.1, cons_prefix_cons, cons_prefix_cons]
      exact (ih agree.2).imp (⟨rfl, ·⟩) (⟨rfl, ·⟩)

theorem occurs_of_avoids (avoid : avoids pattern text = true)
    (rest : List Char) : occurs pattern (text ++ rest) = occurs pattern rest := by
  induction text with
  | nil => rfl
  | cons c text ih =>
    rw [avoids, Bool.and_eq_true] at avoid
    rw [cons_append, occurs, ← cons_append,
      not_prefix_of_clashes (clashes_append avoid.1 rest), ih avoid.2,
      Bool.false_or]

theorem occurs_iff_infix (pattern text : List Char) :
    occurs pattern text = true ↔ pattern <:+: text := by
  induction text with
  | nil => rw [occurs, List.isEmpty_iff, List.infix_nil]
  | cons c text ih =>
    rw [occurs, Bool.or_eq_true, isPrefixOf_iff_prefix, ih, infix_cons_iff]

/-- A pattern is not found in a text without its first character. -/
theorem avoids_of_not_mem {start : Char} (pattern : List Char) {text : List Char}
    (missing : start ∉ text) : avoids (start :: pattern) text = true := by
  induction text with
  | nil => rfl
  | cons c text ih =>
    obtain ⟨differs, missing⟩ := not_or.mp (mem_cons.not.mp missing)
    rw [avoids, clashes, bne_iff_ne.mpr differs, ih missing]
    rfl

theorem avoids_iff_tails :
    avoids pattern text = true ↔
      ∀ before c rest, text = before ++ c :: rest → clashes pattern (c :: rest) = true := by
  induction text with
  | nil => exact ⟨fun _ before c rest split => by simp at split, fun _ => rfl⟩
  | cons d text ih =>
    rw [avoids, Bool.and_eq_true, ih]
    constructor
    · rintro ⟨here, later⟩ before c rest split
      cases before with
      | nil =>
        rw [← nil_append (c :: rest), ← split]
        exact here
      | cons e before => exact later before c rest (cons.inj split).2
    · intro each
      exact ⟨each [] d text rfl, fun before c rest split =>
        each (d :: before) c rest (congrArg (d :: ·) split)⟩

/-! ### Quoted texts -/

/-- A text that is followed by a quote, which the pattern does not have, avoids the pattern if the
pattern is not in it. -/
theorem avoids_closed {pattern body : List Char} (unquoted : '\'' ∉ pattern)
    (absent : ¬ pattern <:+: body) : avoids pattern (body ++ ['\'']) = true := by
  rw [avoids_iff_tails]
  intro before c rest split
  by_contra agree
  have filled : c :: rest ≠ [] := cons_ne_nil _ _
  have ends : (c :: rest).getLast? = some '\'' := by
    rw [← getLast?_append_of_ne_nil before filled, ← split, getLast?_concat]
  obtain ⟨inner, same⟩ := getLast?_eq_some_iff.mp ends
  rw [same, ← append_assoc] at split
  have inside := append_cancel_right split
  rw [Bool.not_eq_true, same] at agree
  rcases prefix_of_not_clashes agree with found | found
  · have short : pattern <+: inner := by
      rcases prefix_concat_iff.mp found with whole | short
      · exact absurd (whole ▸ mem_append_right _ mem_cons_self) unquoted
      · exact short
    refine absent ?_
    rw [inside]
    exact short.isInfix.trans (suffix_append _ _).isInfix
  · exact unquoted (found.subset (mem_append_right _ mem_cons_self))

/-- In the body of a quoted text a backslash stands before each quote. -/
theorem backslash_of_bodied {before rest : List Char}
    (bodied : Token.Bodied '\'' (before ++ '\'' :: rest)) : before.getLast? = some '\\' := by
  generalize whole : before ++ '\'' :: rest = body at bodied
  induction bodied generalizing before with
  | nil => simp at whole
  | @plain c body noBackslash noQuote _ ih =>
    cases before with
    | nil => exact absurd (cons.inj whole).1.symm noQuote
    | cons d before =>
      have later := ih (cons.inj whole).2
      cases before with
      | nil => cases later
      | cons e before => rwa [getLast?_cons_cons]
  | @escaped c body _ ih =>
    match before with
    | [] => exact absurd (cons.inj whole).1 (by decide)
    | [d] => rw [(cons.inj whole).1]; rfl
    | d :: e :: before =>
      have later := ih (cons.inj (cons.inj whole).2).2
      cases before with
      | nil => cases later
      | cons f before => rwa [getLast?_cons_cons, getLast?_cons_cons]

/-! ### Escapes -/

section Escaping

variable {Item : Type}

/-- Items are written as their characters or as escapes, in which the given character is not. -/
def Escaping (start : Char) (write : Item → List Char) (char : Item → Char) : Prop :=
  ∀ item, write item = [char item] ∨ ∃ rest, write item = '\\' :: rest ∧ start ∉ rest

variable {start : Char} {write : Item → List Char} {char : Item → Char}

variable {items : List Item}

variable {text : List Char}

theorem prefix_of_escaped (escaping : Escaping start write char)
    (clear : '\\' ∉ text) (found : text <+: items.flatMap write) :
    text <+: items.map char := by
  induction items generalizing text with
  | nil => exact found
  | cons item items ih =>
    cases text with
    | nil => exact nil_prefix
    | cons c text =>
      rw [flatMap_cons] at found
      obtain ⟨differs, clear⟩ := not_or.mp (mem_cons.not.mp clear)
      rcases escaping item with alone | ⟨rest, escaped, -⟩
      · rw [alone, singleton_append, cons_prefix_cons] at found
        rw [map_cons, cons_prefix_cons]
        exact ⟨found.1, ih clear found.2⟩
      · rw [escaped, cons_append, cons_prefix_cons] at found
        exact absurd found.1.symm differs

theorem flatMap_eq_map (escaping : Escaping start write char)
    (clear : '\\' ∉ items.flatMap write) : items.flatMap write = items.map char := by
  induction items with
  | nil => rfl
  | cons item items ih =>
    rw [flatMap_cons, mem_append, not_or] at clear
    rcases escaping item with alone | ⟨rest, escaped, -⟩
    · rw [flatMap_cons, alone, ih clear.2]
      rfl
    · exact absurd (escaped ▸ mem_cons_self) clear.1

/-- A text that starts with the character and has no backslash does not start inside an escape. -/
theorem split_of_escaped (escaping : Escaping start write char) (other : start ≠ '\\') {item : Item}
    {before text after : List Char} (whole : write item ++ after = before ++ start :: text) :
    before = [] ∨ ∃ later, before = write item ++ later := by
  rcases append_eq_append_iff.mp whole with ⟨later, split, -⟩ | ⟨later, split, tail⟩
  · exact .inr ⟨later, split⟩
  · cases later with
    | nil => exact .inr ⟨[], by rw [append_nil, split, append_nil]⟩
    | cons c later =>
      have same : start = c := (cons.inj tail).1
      subst same
      rcases escaping item with alone | ⟨rest, escaped, missing⟩
      · rw [alone] at split
        cases before with
        | nil => exact .inl rfl
        | cons d before => simp at split
      · rw [escaped] at split
        cases before with
        | nil => exact absurd (cons.inj split).1.symm other
        | cons d before =>
          refine absurd ?_ missing
          rw [(cons.inj split).2]
          exact mem_append_right _ mem_cons_self

theorem exists_kept (escaping : Escaping start write char) (other : start ≠ '\\')
    {before : List Char} (whole : before ++ start :: text = items.flatMap write) :
    ∃ skipped kept, items = skipped ++ kept ∧ start :: text = kept.flatMap write := by
  induction items generalizing before with
  | nil => simp at whole
  | cons item items ih =>
    rcases split_of_escaped escaping other (flatMap_cons.symm.trans whole.symm) with
      rfl | ⟨later, rfl⟩
    · exact ⟨[], _, rfl, whole⟩
    · rw [flatMap_cons, append_assoc] at whole
      obtain ⟨skipped, kept, rfl, shown⟩ := ih (append_cancel_left whole)
      exact ⟨item :: skipped, kept, rfl, shown⟩

theorem infix_of_escaped (escaping : Escaping start write char) (other : start ≠ '\\')
    (clear : '\\' ∉ start :: text)
    (found : start :: text <:+: items.flatMap write) : start :: text <:+: items.map char := by
  obtain ⟨before, after, whole⟩ := found
  rw [append_assoc] at whole
  obtain ⟨skipped, kept, rfl, shown⟩ := exists_kept escaping other whole
  rw [map_append]
  exact (prefix_of_escaped escaping clear ⟨after, shown⟩).isInfix.trans
    (suffix_append _ _).isInfix

theorem suffix_of_escaped (escaping : Escaping start write char) (other : start ≠ '\\')
    (clear : '\\' ∉ start :: text)
    (found : start :: text <:+ items.flatMap write) : start :: text <:+ items.map char := by
  obtain ⟨before, whole⟩ := found
  obtain ⟨skipped, kept, rfl, shown⟩ := exists_kept escaping other whole
  rw [shown, flatMap_eq_map escaping (shown ▸ clear), map_append]
  exact suffix_append _ _

end Escaping

theorem hexByte_ne (n : Nat) {c : Char} (known : c ∈ ['?', '_']) : c ∉ hexByte n := by
  have digits : ∀ digit < 16, ∀ c ∈ ['?', '_'], c ≠ Nat.digitChar digit := by decide
  intro member
  rcases mem_pair.mp member with same | same
  · exact digits _ (Nat.mod_lt _ (by decide)) c known same
  · exact digits _ (Nat.mod_lt _ (by decide)) c known same

theorem escaping_byNumber (n : Nat) {c : Char} (known : c ∈ ['?', '_']) :
    ∃ rest, '\\' :: 'x' :: hexByte n = '\\' :: rest ∧ c ∉ rest := by
  have other : ∀ c ∈ ['?', '_'], c ≠ 'x' := by decide
  exact ⟨_, rfl, fun member => (mem_cons.mp member).elim (other c known) (hexByte_ne n known)⟩

theorem escaping_text {c : Char} (known : c ∈ ['?', '_']) :
    Escaping c escapedWithoutBraces id := by
  intro given
  have escapes := escapedAs_escapedWithoutBraces given
  generalize escapedWithoutBraces given = unit at escapes ⊢
  cases escapes with
  | plain => exact .inl rfl
  | byNumber => exact .inr (escaping_byNumber _ known)
  | @pair letter listed =>
    have other : ∀ pair ∈ [('\\', '\\'), ('n', '\n'), ('r', '\r'), ('t', '\t'), ('\'', '\'')],
        ∀ c ∈ ['?', '_'], c ∉ [pair.1] := by decide
    exact .inr ⟨[letter], rfl, other _ listed c known⟩

theorem escaping_bytes {c : Char} (known : c ∈ ['?', '_']) :
    Escaping c Value.byteCode fun byte => Char.ofNat byte.toNat := by
  intro byte
  unfold Value.byteCode
  split
  · exact .inr (escaping_byNumber _ known)
  · unfold Value.byteText
    dsimp only
    split
    · exact .inl rfl
    · exact .inr (escaping_byNumber _ known)

/-! ### Texts that may be quoted -/

end Text

namespace Source

/-- What a look-up starts with, up to the name and its quote. -/
def lookupOpening : List Char := "__hc_registry[".toList

theorem lookupStart_eq : lookupStart = lookupOpening ++ ['\''] := by decide

/-- A quoted text leaves no hole and starts no look-up. -/
def isHarmless (text : List Char) : Bool :=
  !occurs nameHole.toList text && !lookupOpening.isSuffixOf text

/-- What is known of the texts that are quoted: whether none holds the hole for a name, and whether
none ends like the start of a look-up. -/
structure Promise where
  unnamed : Prop
  closed : Prop

/-- The promise is kept by a text. -/
structure Promise.Kept (promise : Promise) (text : List Char) : Prop where
  unnamed : promise.unnamed → ¬ nameHole.toList <:+: text
  closed : promise.closed → ¬ lookupOpening <:+ text

variable {promise : Promise}

/-- Harmless texts keep every promise. -/
theorem kept_of_isHarmless {text : List Char} (harmless : isHarmless text = true) :
    promise.Kept text := by
  rw [isHarmless, Bool.and_eq_true, Bool.not_eq_true', Bool.not_eq_true', ← Bool.not_eq_true,
    ← Bool.not_eq_true, occurs_iff_infix, isSuffixOf_iff_suffix] at harmless
  exact ⟨fun _ => harmless.1, fun _ => harmless.2⟩

theorem avoids_nameHole {body : List Char} (unnamed : ¬ nameHole.toList <:+: body) :
    avoids nameHole.toList ('\'' :: (body ++ ['\''])) = true := by
  have clash : clashes nameHole.toList ['\''] = true := by decide
  rw [avoids, avoids_closed (by decide) unnamed, Bool.and_true]
  exact clashes_append clash (body ++ ['\''])

/-- Inside a quoted text no look-up starts. -/
theorem avoids_lookupStart {body : List Char} (bodied : Token.Bodied '\'' body)
    (closed : ¬ lookupOpening <:+ body) :
    avoids lookupStart ('\'' :: (body ++ ['\''])) = true := by
  have clash : clashes lookupStart ['\''] = true := by decide
  rw [avoids, Bool.and_eq_true]
  refine ⟨clashes_append clash (body ++ ['\'']), avoids_iff_tails.mpr ?_⟩
  intro before c rest split
  by_contra agree
  have ends : (c :: rest).getLast? = some '\'' := by
    rw [← getLast?_append_of_ne_nil before (cons_ne_nil _ _), ← split, getLast?_concat]
  obtain ⟨inner, same⟩ := getLast?_eq_some_iff.mp ends
  rw [same, ← append_assoc] at split
  have inside : body = before ++ inner := append_cancel_right split
  rw [Bool.not_eq_true, same, lookupStart_eq] at agree
  have whole (equal : lookupOpening = inner) : False := closed ⟨before, by rw [equal, inside]⟩
  rcases prefix_of_not_clashes agree with found | found
  · rcases prefix_concat_iff.mp found with equal | ⟨after, short⟩
    · exact whole (append_cancel_right equal)
    · -- The quote of the look-up would stand in the body, after a bracket.
      rw [inside, ← short, append_assoc, ← append_assoc, singleton_append] at bodied
      have backslash := backslash_of_bodied bodied
      rw [getLast?_append_of_ne_nil before (by decide)] at backslash
      exact absurd backslash (by decide)
  · rcases prefix_concat_iff.mp found with equal | short
    · exact whole (append_cancel_right equal).symm
    · have quote := short.subset (mem_append_right inner mem_cons_self)
      exact absurd quote (by decide)

/-- A quoted text keeps a promise if what is quoted does, whichever characters are escaped. -/
theorem Promise.Kept.escaped {Item : Type} {write : Item → List Char} {char : Item → Char}
    (escaping : ∀ c ∈ ['?', '_'], Text.Escaping c write char) {items : List Item}
    (kept : promise.Kept (items.map char)) : promise.Kept (items.flatMap write) := by
  have hole : nameHole.toList = '?' :: "|PITH_ROOT_NAME`^".toList := by decide
  have opening : lookupOpening = '_' :: "_hc_registry[".toList := by decide
  refine ⟨fun promised found => kept.unnamed promised ?_,
    fun promised found => kept.closed promised ?_⟩
  · rw [hole] at found ⊢
    exact infix_of_escaped (escaping '?' (by decide)) (by decide) (by decide) found
  · rw [opening] at found ⊢
    exact suffix_of_escaped (escaping '_' (by decide)) (by decide) (by decide) found

theorem Promise.Kept.text {text : List Char} (kept : promise.Kept text) :
    promise.Kept (text.flatMap escapedWithoutBraces) := by
  rw [← map_id text] at kept
  exact kept.escaped fun _ known => escaping_text known

theorem Promise.Kept.bytes {data : List UInt8}
    (kept : promise.Kept (data.map fun byte => Char.ofNat byte.toNat)) :
    promise.Kept (data.flatMap Value.byteCode) :=
  kept.escaped fun _ known => escaping_bytes known

end Source

/-! ### Reading back what is looked up -/

namespace Text

theorem readQuoted_byNumber {n : Nat} (small : n < 256) (rest : List Char) :
    readQuoted ('\\' :: 'x' :: hexByte n ++ rest) = Char.ofNat n :: readQuoted rest := by
  rw [hexByte]
  simp only [cons_append, nil_append]
  rw [readQuoted, charOfHex?_hexByte small]

theorem readQuoted_plain {c : Char} (noBackslash : c ≠ '\\') (noQuote : c ≠ '\'')
    (rest : List Char) : readQuoted (c :: rest) = c :: readQuoted rest := by
  conv => lhs; unfold readQuoted
  split <;> simp_all

theorem EscapedAs.readQuoted {c : Char} {unit : List Char} (escapes : EscapedAs '\'' c unit)
    (rest : List Char) : readQuoted (unit ++ rest) = c :: readQuoted rest := by
  cases escapes with
  | plain noBackslash noQuote => exact readQuoted_plain noBackslash noQuote rest
  | byNumber small => rw [escapedByNumber, readQuoted_byNumber small, Char.ofNat_toNat]
  | pair known =>
    simp only [mem_cons, not_mem_nil, or_false, Prod.mk.injEq] at known
    rcases known with ⟨rfl, rfl⟩ | ⟨rfl, rfl⟩ | ⟨rfl, rfl⟩ | ⟨rfl, rfl⟩ | ⟨rfl, rfl⟩ <;> rfl

/-- A quoted text is read back as it was. -/
theorem readQuoted_flatMap (text rest : List Char) :
    readQuoted (text.flatMap escapedWithoutBraces ++ '\'' :: rest) = text := by
  induction text with
  | nil => rfl
  | cons c text ih =>
    rw [flatMap_cons, append_assoc, (escapedAs_escapedWithoutBraces c).readQuoted, ih]

end Text

end CallGuard
