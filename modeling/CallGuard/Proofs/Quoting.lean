/-
Quoted texts that are read back. Whatever the text, both ways to quote it give a
body in which no quote is bare and no line ends, and the body stands for the
text. A name that is looked up is read back as it is written too, at whatever
place of whatever source: the start of one look-up never reaches into another.
-/
import CallGuard.Proofs.Lookups
import Mathlib.Data.List.Infix

namespace CallGuard

open List

namespace Text

/-- The written text is a body between two quotes that stands for the given text. A quote of that
kind in the body comes after a backslash that belongs to it, and no line ends there. -/
def Quotes (quote : Char) (written text : String) : Prop :=
  ∃ body, written.toList = quote :: (body ++ [quote]) ∧ Token.Bodied quote body ∧
    '\n' ∉ body ∧ '\r' ∉ body ∧ unescape body = text.toList

variable {quote c : Char} {unit : List Char}

theorem EscapedAs.visible (escapes : EscapedAs quote c unit) (quotes : quote = '\'' ∨ quote = '"') :
    ∀ d ∈ unit, isControl d = false := by
  cases escapes with
  | plain _ _ visible => exact forall_mem_singleton.mpr visible
  | pair known =>
    simp only [mem_cons, not_mem_nil, or_false, Prod.mk.injEq] at known
    rcases known with ⟨rfl, -⟩ | ⟨rfl, -⟩ | ⟨rfl, -⟩ | ⟨rfl, -⟩ | ⟨rfl, -⟩
    · decide
    · decide
    · decide
    · decide
    · rcases quotes with rfl | rfl <;> decide
  | byNumber =>
    have digit (n : Nat) : isControl (Nat.digitChar (n % 16)) = false := by
      have digits : ∀ n < 16, isControl (Nat.digitChar n) = false := by decide
      exact digits _ (Nat.mod_lt n (by decide))
    simp [escapedByNumber, hexByte, digit]
    decide

theorem quotes_ofList (quotes : quote = '\'' ∨ quote = '"') {write : Char → List Char}
    (escapes : ∀ c, EscapedAs quote c (write c)) (text : String) :
    Quotes quote (String.ofList (quote :: text.toList.flatMap write ++ [quote])) text := by
  have visible {d : Char} (control : isControl d = true) : d ∉ text.toList.flatMap write := by
    intro member
    obtain ⟨c, -, member⟩ := mem_flatMap.mp member
    exact Bool.false_ne_true (((escapes c).visible quotes d member).symm.trans control)
  exact ⟨_, String.toList_ofList,
    Token.bodied_flatMap fun c => Token.bodied_of_escapedAs quotes (escapes c),
    visible rfl, visible rfl, unescape_flatMap quotes escapes _⟩

end Text

namespace Source

/-- A look-up that starts before another one does not reach into it. -/
theorem prefix_of_prefix_append {before source : List Char} (filled : before ≠ [])
    (starts : lookupStart <+: source) (found : lookupStart <+: before ++ source) :
    lookupStart <+: before := by
  rcases prefix_or_prefix_of_prefix found (prefix_append before source) with whole | ⟨rest, split⟩
  · exact whole
  · rw [← split, prefix_append_right_inj] at found
    cases rest with
    | nil => rw [← split, append_nil]
    | cons d rest =>
      have apart : ∀ n ∈ range' 1 14, (lookupStart.drop n).isPrefixOf lookupStart = false := by
        decide
      have lengths := congrArg length split
      rw [length_append, length_cons, show lookupStart.length = 15 by decide] at lengths
      have none := apart before.length
        (mem_range'_1.mpr ⟨length_pos_iff.mpr filled, by omega⟩)
      have tail : lookupStart.drop before.length = d :: rest := by rw [← split, drop_left]
      have overlap : d :: rest <+: lookupStart :=
        prefix_of_prefix_length_le found starts (tail ▸ (drop_suffix _ _).length_le)
      rw [tail, Bool.eq_false_iff, ne_eq, isPrefixOf_iff_prefix] at none
      exact absurd overlap none

/-- As many names are looked up in what comes before a look-up as look-ups start there. -/
theorem exists_lookedUp_append {source : List Char} (starts : lookupStart <+: source)
    (before : List Char) : ∃ earlier, lookedUp (before ++ source) = earlier ++ lookedUp source ∧
      earlier.length = before.tails.countP lookupStart.isPrefixOf := by
  induction before with
  | nil => exact ⟨[], rfl, by decide⟩
  | cons c before ih =>
    obtain ⟨earlier, looked, counted⟩ := ih
    have same : lookupStart.isPrefixOf (c :: before ++ source) =
        lookupStart.isPrefixOf (c :: before) := by
      rw [Bool.eq_iff_iff, isPrefixOf_iff_prefix, isPrefixOf_iff_prefix]
      exact ⟨prefix_of_prefix_append (cons_ne_nil _ _) starts, fun found =>
        found.trans (prefix_append _ _)⟩
    rw [tails, countP_cons, ← same, cons_append, lookedUp, looked, ← counted]
    split
    · exact ⟨_ :: earlier, rfl, rfl⟩
    · exact ⟨earlier, rfl, rfl⟩

end Source

/-- Both ways to quote a text are undone by reading the body, and a name that is looked up
anywhere in a source is found there, after those whose look-ups start before it. -/
theorem quoting_undone (text : String) :
    Text.Quotes (Text.quoteFor text.toList) (Text.quoted text) text ∧
      Text.Quotes '\'' (Text.quotedWithoutBraces text) text ∧
      ∀ before after : List Char,
        (Source.lookedUp (before ++ (lookupCode text).toList ++ after))[
          before.tails.countP Source.lookupStart.isPrefixOf]? = some text := by
  refine ⟨Text.quotes_ofList (Token.quoteFor_eq _) (Text.escapedAs_escaped _) text,
    Text.quotes_ofList (.inl rfl) Text.escapedAs_escapedWithoutBraces text, fun before after => ?_⟩
  obtain ⟨earlier, looked, counted⟩ := Source.exists_lookedUp_append
    ⟨_, (Source.lookupCode_append text after).symm⟩ before
  rw [append_assoc, looked, Source.lookedUp_lookupCode, ← counted,
    getElem?_append_right (Nat.le_refl _), Nat.sub_self]
  rfl

end CallGuard
