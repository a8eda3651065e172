/-
The scripts of checks are regular. Every word, mark and number of them is one of
generated code, every quoted text is closed where it seems to be, words do not
run into each other, and no brace opens a hole, whatever texts and values a hint
brings in. Only classes must be what they seem: a class that has the home of the
built-in ones is named without a look-up, so it must be one of them.
-/
import CallGuard.Proofs.Composition

namespace CallGuard

open Script List

/-! ### Quoted texts -/

namespace Text

/-- Characters of quoted texts are no braces and end no line. -/
theorem hexByte_clear (n : Nat) (c : Char) (member : c ∈ hexByte n) : c ∉ ['{', '}', '\n'] := by
  have clear : ∀ digit < 16, Nat.digitChar digit ∉ ['{', '}', '\n'] := by decide
  rcases mem_pair.mp member with rfl | rfl
  · exact clear _ (Nat.mod_lt _ (by decide))
  · exact clear _ (Nat.mod_lt _ (by decide))

theorem byNumber_clear (n : Nat) (c : Char) (member : c ∈ '\\' :: 'x' :: hexByte n) :
    c ∉ ['{', '}', '\n'] := by
  rcases mem_cons.mp member with rfl | member
  · decide
  · rcases mem_cons.mp member with rfl | member
    · decide
    · exact hexByte_clear n c member

theorem escapedWithoutBraces_clear (given c : Char) (member : c ∈ escapedWithoutBraces given) :
    c ∉ ['{', '}', '\n'] := by
  unfold escapedWithoutBraces at member
  split at member
  · exact byNumber_clear _ c member
  · next brace =>
    generalize written : escaped '\'' given = unit at member
    cases written ▸ escapedAs_escaped '\'' given with
    | byNumber => exact byNumber_clear _ c member
    | plain _ _ visible =>
      rw [mem_singleton.mp member]
      obtain ⟨opening, closing⟩ := not_or.mp brace
      simp only [mem_cons, not_mem_nil, or_false, not_or]
      exact ⟨opening, closing, fun same => absurd (same ▸ visible) (by decide)⟩
    | pair known =>
      have clear : ∀ pair ∈ [('\\', '\\'), ('n', '\n'), ('r', '\r'), ('t', '\t'), ('\'', '\'')],
          ∀ c ∈ ['\\', pair.1], c ∉ ['{', '}', '\n'] := by decide
      exact clear _ known c member

theorem bodied_escapedWithoutBraces (c : Char) : Token.Bodied '\'' (escapedWithoutBraces c) :=
  Token.bodied_of_escapedAs (.inl rfl) (escapedAs_escapedWithoutBraces c)

end Text

theorem Value.byteCode_clear (byte : UInt8) (c : Char) (member : c ∈ byteCode byte) :
    c ∉ ['{', '}', '\n'] := by
  unfold byteCode at member
  split at member
  · exact Text.byNumber_clear _ c member
  · rename_i brace
    unfold byteText at member
    dsimp only at member
    split at member
    · rename_i printable
      rw [mem_singleton.mp member]
      have number := Token.toNat_ofNat_byte byte.toNat_lt
      have differs {other : Char} (different : byte.toNat ≠ other.toNat) :
          Char.ofNat byte.toNat ≠ other := fun same => different (same ▸ number.symm)
      have byteDiffers {other : UInt8} (different : byte ≠ other) :
          byte.toNat ≠ other.toNat := fun same => different (UInt8.toNat_inj.mp same)
      simp only [mem_cons, not_mem_nil, or_false, not_or]
      refine ⟨differs (byteDiffers (not_or.mp brace).1), differs (byteDiffers (not_or.mp brace).2),
        differs fun same => ?_⟩
      rw [same] at printable
      exact absurd printable.1 (by decide)
    · exact Text.byNumber_clear _ c member

theorem Value.bodied_byteCode (byte : UInt8) : Token.Bodied '\'' (byteCode byte) := by
  unfold byteCode
  split
  · exact Token.bodied_byNumber (.inl rfl) _
  · exact Token.bodied_byteText byte

/-! ### Pieces of scripts -/

namespace Script

theorem regular_append {first second : Script} (regular : first.Regular)
    (regular' : second.Regular) (apart : second.startsName = false) :
    (first ++ second).Regular := by
  induction first with
  | done => exact regular'
  | piece first rest ih =>
    obtain ⟨regularFirst, apartFirst, regular⟩ := regular
    refine ⟨regularFirst, fun name => ?_, ih regular⟩
    cases rest with
    | done => exact apart
    | piece _ _ => exact apartFirst name
    | group _ _ _ => rfl
    | line _ _ => rfl
  | group bracket inner rest _ ih =>
    exact ⟨regular.1, regular.2.1, ih regular.2.2⟩
  | line level rest ih => exact ih regular

theorem regular_word {text : String} (known : text ∈ Piece.words) : (word text).Regular :=
  ⟨known, fun _ => rfl, trivial⟩

theorem regular_mark {text : String} (known : text ∈ Piece.marks) {rest : Script}
    (regular : rest.Regular) : (mark text ++ rest).Regular :=
  ⟨known, nofun, regular⟩

theorem regular_group {bracket : Bracket} {inner rest : Script} (other : bracket ≠ .curly)
    (regularInner : inner.Regular) (regular : rest.Regular) : (group bracket inner rest).Regular :=
  ⟨fun curly => absurd curly other, regularInner, regular⟩

theorem mem_words : ∀ text ∈ ["True", "False", "None", "is", "and", "or", "for", "in", "all", "len",
    "isinstance", "issubclass", "b", "__hc_registry", "__hc_random_int", "sample", "sample_items",
    "items", "check_forward_ref", "float", "set", "frozenset", "type", "dict", "tuple"],
      text ∈ Piece.words := by
  decide +kernel

theorem regular_quote {Item : Type} {items : List Item} {write : Item → List Char}
    (bodied : ∀ item, Token.Bodied '\'' (write item))
    (clear : ∀ item, ∀ c ∈ write item, c ∉ ['{', '}', '\n']) :
    (piece (.quote (items.flatMap write)) done).Regular := by
  have outside {c : Char} (special : c ∈ ['{', '}', '\n']) : c ∉ items.flatMap write := by
    intro member
    obtain ⟨item, -, member⟩ := mem_flatMap.mp member
    exact clear item c member special
  exact ⟨⟨Token.bodied_flatMap bodied, outside (by decide), outside (by decide)⟩, nofun, trivial⟩

theorem regular_quoted (text : String) : (quoted text).Regular :=
  regular_quote Text.bodied_escapedWithoutBraces Text.escapedWithoutBraces_clear

theorem regular_lookup (name : String) : (lookup name).Regular :=
  ⟨mem_words _ (by decide), fun _ => rfl, regular_group (by decide) (regular_quoted name) trivial⟩

theorem regular_numeral (number : Nat) : (numeral number).Regular :=
  ⟨⟨Nat.toDigits_ne_nil, fun c member => by
    rw [Piece.isNumeric, Text.isDigit_of_mem_toDigits c member, Bool.true_or]⟩, fun _ => rfl,
    trivial⟩

theorem regular_bound (number : Nat) : (bound number).Regular := ⟨trivial, fun _ => rfl, trivial⟩

theorem regular_index (slot : Nat) : (group .square (numeral slot) done).Regular :=
  regular_group (by decide) (regular_numeral slot) trivial

/-- Scripts with a mark between them. -/
theorem regular_joined {first second : Script} {text : String} (regular : first.Regular)
    (known : text ∈ Piece.marks) (regular' : second.Regular) :
    (first ++ mark text ++ second).Regular := by
  rw [append_assoc]
  exact regular_append regular (regular_mark known regular') rfl

theorem inline_regular : Inline fun _ script => script.Regular where
  nothing := trivial
  word known := by
    have listed : ∀ text ∈ Piece.common, text ∈ Piece.words := by decide +kernel
    exact regular_word (listed _ known)
  numeral filled numeric := ⟨⟨filled, numeric⟩, fun _ => rfl, trivial⟩
  special _ := regular_quoted _
  joined := regular_joined
  group regular opens inside := regular_append regular ⟨opens, inside, trivial⟩ rfl

end Script

/-! ### Values and checks -/

theorem Class.regular_script {c : Class} (standard : c.Standard) : c.script.Regular := by
  unfold script
  split
  · rename_i home
    exact regular_word (mem_append_right _ (mem_map_of_mem (standard home)))
  · exact regular_lookup _

theorem Class.regular_scriptOf {classes : List Class} (standard : ∀ c ∈ classes, c.Standard) :
    (scriptOf classes).Regular :=
  inline_regular.classes fun c member => regular_script (standard c member)

/-- The script of a value is regular. -/
theorem Value.regular_script {value : Value} (standard : value.Standard) :
    value.script.Regular := by
  refine inline_script inline_regular standard fun part inside named => ?_
  cases part with
  | str _ text => exact regular_quoted text
  | bytes _ data =>
    exact regular_append (regular_word (mem_words _ (by decide)))
      (regular_quote bodied_byteCode byteCode_clear) rfl
  | classObject c => exact Class.regular_script (standard c inside)
  | object identity kind => exact regular_lookup _
  | _ => cases named

theorem composed_regular : Vocabulary.standard.Composed fun _ script => script.Regular where
  toInline := inline_regular
  line _ regular regular' := regular_append regular regular' rfl
  control known := by
    have listed : ∀ text ∈ ["all", "for", randomName], text ∈ Piece.words := by decide +kernel
    exact regular_word (listed _ known)
  method known inside := by
    have listed : ∀ text ∈ Piece.methods, text ∈ Piece.words := by decide +kernel
    exact regular_joined (regular_word (mem_words _ (by decide))) (by decide)
      (regular_append (regular_word (listed _ known))
        (regular_group (by decide) inside trivial) rfl)
  ofClass := Class.regular_script
  ofLiteral standard := ⟨Value.regular_script standard.1, Class.regular_script standard.2⟩
  lookup _ := regular_lookup _
  quoted _ := regular_quoted _

/-- The script of a check is regular. -/
theorem Check.regular_script {check : Check} (standard : check.Standard) {subject : Script}
    (regular : subject.Regular) (first level : Nat) :
    (check.script subject first level).Regular :=
  composed_script composed_regular standard regular first level
    fun number _ _ => regular_bound number

end CallGuard
