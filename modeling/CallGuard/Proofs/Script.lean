/-
Generated code, piece by piece. A script is made of words, marks, numbers,
quoted texts and the names of values, with brackets around parts of it and line
breaks in it. Written out with markers for the names, the script of a check is
the text of the check; so putting texts with markers into one another, and names
in place of markers in the end, is to put scripts into one another. Whatever is
to be shown of generated code is shown of scripts.
-/
import CallGuard.Fragment
import CallGuard.Proofs.Legibility
import Mathlib.Algebra.Group.Nat.Defs

namespace CallGuard

open List Text

/-! ### Replacing in texts -/

namespace Text

variable {pattern replacement : List Char} {replace : Nat → List Char}

/-- Text without the first character of a pattern stays as it is. -/
theorem replaceFrom_pass {start : Char} {chars : List Char} (clear : start ∉ chars)
    (rest : List Char) : replaceFrom (start :: pattern) replacement 0 (chars ++ rest) =
      chars ++ replaceFrom (start :: pattern) replacement 0 rest := by
  induction chars with
  | nil => rfl
  | cons c chars ih =>
    obtain ⟨differs, clear⟩ := not_or.mp (mem_cons.not.mp clear)
    rw [List.cons_append, replaceFrom, isPrefixOf, beq_false_of_ne differs, Bool.false_and,
      if_neg Bool.false_ne_true, ih clear, List.cons_append]

theorem replaceFrom_skip (chars rest : List Char) :
    replaceFrom pattern replacement chars.length (chars ++ rest) =
      replaceFrom pattern replacement 0 rest := by
  induction chars with
  | nil => rfl
  | cons c chars ih =>
    rw [List.cons_append, length_cons, replaceFrom]
    exact ih

/-- A pattern is replaced where it stands. -/
theorem replaceFrom_here (start : Char) (rest : List Char) :
    replaceFrom (start :: pattern) replacement 0 (start :: pattern ++ rest) =
      replacement ++ replaceFrom (start :: pattern) replacement 0 rest := by
  have here : (start :: pattern).isPrefixOf (start :: pattern ++ rest) = true :=
    List.isPrefixOf_iff_prefix.mpr (prefix_append _ _)
  rw [List.cons_append] at here ⊢
  rw [replaceFrom, if_pos here, length_cons, Nat.add_sub_cancel, replaceFrom_skip]

theorem mapMarkersFrom_skip (chars rest : List Char) :
    mapMarkersFrom replace chars.length (chars ++ rest) = mapMarkersFrom replace 0 rest := by
  induction chars with
  | nil => rfl
  | cons c chars ih =>
    rw [List.cons_append, length_cons, mapMarkersFrom]
    exact ih

theorem valueMarker_chars : valueMarker.toList = ['{', 'p', 'i', 't', 'h', '}'] := by decide

theorem markerStart_chars : markerStart.toList = ['{', 'p', 'i', 't', 'h', '_'] := by decide

theorem marker_chars (number : Nat) :
    (marker number).toList = '{' :: 'p' :: 'i' :: 't' :: 'h' :: '_' ::
      (Nat.toDigits 10 number ++ ['}']) := by
  rw [marker, String.toList_append, String.toList_append, markerStart_chars]
  show _ ++ number.repr.toList ++ _ = _
  rw [Nat.toList_repr]
  rfl

variable {number : Nat}

theorem isDigit_of_mem_toDigits (c : Char) (member : c ∈ Nat.toDigits 10 number) :
    c.isDigit = true :=
  Nat.isDigit_of_mem_toDigits (by decide) (by decide) member

/-- What holds of the ten digits holds of every digit. -/
theorem forall_digits (Holds : Char → Prop)
    (each : ∀ code ∈ range' 48 10, Holds (Char.ofNat code)) (c : Char)
    (digit : c.isDigit = true) : Holds c := by
  rw [Char.isDigit, Bool.and_eq_true, decide_eq_true_eq, decide_eq_true_eq] at digit
  have known := each c.toNat (mem_range'_1.mpr ⟨digit.1, Nat.lt_succ_of_le digit.2⟩)
  rwa [Char.ofNat_toNat] at known

/-- No marker starts with anything but a brace. -/
theorem markerAt_of_ne {c : Char} (differs : '{' ≠ c) (rest : List Char) :
    markerAt (c :: rest) = none := by
  rw [markerAt, markerStart_chars, isPrefixOf, beq_false_of_ne differs]
  rfl

theorem mapMarkersFrom_pass {chars : List Char} (clear : '{' ∉ chars) (rest : List Char) :
    mapMarkersFrom replace 0 (chars ++ rest) = chars ++ mapMarkersFrom replace 0 rest := by
  induction chars with
  | nil => rfl
  | cons c chars ih =>
    obtain ⟨differs, clear⟩ := not_or.mp (mem_cons.not.mp clear)
    rw [List.cons_append, mapMarkersFrom, markerAt_of_ne differs]
    exact congrArg _ (ih clear)

/-- A brace without a `p` after it starts no marker. -/
theorem mapMarkersFrom_brace {rest : List Char} (unmarked : rest.head? ≠ some 'p') :
    mapMarkersFrom replace 0 ('{' :: rest) = '{' :: mapMarkersFrom replace 0 rest := by
  have none : markerAt ('{' :: rest) = none := by
    cases rest with
    | nil => rfl
    | cons c rest =>
      have differs : 'p' ≠ c := fun same => unmarked (congrArg some same.symm)
      rw [markerAt, markerStart_chars, isPrefixOf, isPrefixOf, beq_false_of_ne differs]
      rfl
  rw [mapMarkersFrom, none]

theorem mapMarkersFrom_value (rest : List Char) :
    mapMarkersFrom replace 0 (valueMarker.toList ++ rest) =
      valueMarker.toList ++ mapMarkersFrom replace 0 rest := by
  have none : markerAt (valueMarker.toList ++ rest) = none := by
    rw [valueMarker_chars]
    rfl
  have clear : '{' ∉ ['p', 'i', 't', 'h', '}'] := by decide
  rw [valueMarker_chars] at none ⊢
  rw [List.cons_append, mapMarkersFrom, ← List.cons_append, none]
  exact congrArg _ (mapMarkersFrom_pass clear rest)

/-- The digits of a marker: some decimal digits for a number of at most 64 bits. -/
structure Numeric (digits : List Char) (number : Nat) : Prop where
  filled : digits ≠ []
  decimal : ∀ c ∈ digits, c.isDigit = true
  value : numberOfDigits digits = number
  small : number < 2 ^ 64

theorem markerAt_numeric {digits : List Char} (numeric : Numeric digits number)
    (rest : List Char) : markerAt (markerStart.toList ++ (digits ++ '}' :: rest)) =
      some (number, markerStart.toList.length + digits.length + 1) := by
  obtain ⟨filled, decimal, rfl, small⟩ := numeric
  have read : (digits ++ '}' :: rest).takeWhile Char.isDigit = digits := by
    rw [takeWhile_append_of_pos decimal, takeWhile_cons, if_neg (by decide), append_nil]
  rw [markerAt]
  simp only [List.isPrefixOf_iff_prefix.mpr (prefix_append _ _), if_true, drop_left, read,
    isEmpty_eq_false_iff.mpr filled, Bool.false_or, decide_eq_true_eq, Nat.one_shiftLeft,
    Nat.not_le.mpr small, if_false]

theorem markerAt_marker (small : number < 2 ^ 64) (rest : List Char) :
    markerAt ((marker number).toList ++ rest) = some (number, (marker number).toList.length) := by
  have text (rest : List Char) : (marker number).toList ++ rest =
      markerStart.toList ++ (Nat.toDigits 10 number ++ '}' :: rest) := by
    rw [marker_chars, markerStart_chars]
    simp only [List.cons_append, nil_append, List.append_assoc]
  have value : numberOfDigits (Nat.toDigits 10 number) = number :=
    Nat.ofDigitChars_toDigits (by decide) (by decide)
  rw [text, markerAt_numeric ⟨Nat.toDigits_ne_nil, isDigit_of_mem_toDigits, value, small⟩,
    ← append_nil (marker number).toList, text, length_append, length_append, length_cons]
  rfl

theorem mapMarkersFrom_marker (small : number < 2 ^ 64) (rest : List Char) :
    mapMarkersFrom replace 0 ((marker number).toList ++ rest) =
      replace number ++ mapMarkersFrom replace 0 rest := by
  have found := markerAt_marker small rest
  rw [marker_chars] at found ⊢
  rw [List.cons_append] at found ⊢
  rw [mapMarkersFrom, found]
  show replace number ++ mapMarkersFrom replace _ _ = _
  rw [length_cons, Nat.add_sub_cancel, mapMarkersFrom_skip]

theorem replaceFrom_brace {rest : List Char} (unmarked : rest.head? ≠ some 'p') :
    replaceFrom valueMarker.toList replacement 0 ('{' :: rest) =
      '{' :: replaceFrom valueMarker.toList replacement 0 rest := by
  rw [valueMarker_chars]
  cases rest with
  | nil => rfl
  | cons c rest =>
    have differs : 'p' ≠ c := fun same => unmarked (congrArg some same.symm)
    rw [replaceFrom, isPrefixOf, isPrefixOf, beq_false_of_ne differs]
    rfl

theorem replaceFrom_marker (number : Nat) (rest : List Char) :
    replaceFrom valueMarker.toList replacement 0 ((marker number).toList ++ rest) =
      (marker number).toList ++ replaceFrom valueMarker.toList replacement 0 rest := by
  have clear : '{' ∉ 'p' :: 'i' :: 't' :: 'h' :: '_' :: (Nat.toDigits 10 number ++ ['}']) := by
    simp only [mem_cons, mem_append, not_mem_nil, or_false, not_or]
    refine ⟨by decide, by decide, by decide, by decide, by decide, fun member => ?_, by decide⟩
    cases isDigit_of_mem_toDigits _ member
  rw [marker_chars, valueMarker_chars, List.cons_append, replaceFrom]
  exact congrArg ('{' :: ·) (replaceFrom_pass clear rest)

end Text

/-! ### Scripts -/

/-- The brackets of generated code. -/
inductive Bracket where
  | round
  | square
  | curly
  deriving DecidableEq

namespace Bracket

def opening : Bracket → Char
  | round => '('
  | square => '['
  | curly => '{'

def closing : Bracket → Char
  | round => ')'
  | square => ']'
  | curly => '}'

end Bracket

/-- A piece of generated code. -/
inductive Piece where
  | word (text : String)
  | mark (text : String)
  | numeral (chars : List Char)
  /-- What stands between two quotes. -/
  | quote (body : List Char)
  /-- The value under test. -/
  | value
  /-- A name bound by a loop. -/
  | bound (number : Nat)

/-- Generated code. -/
inductive Script where
  | done
  | piece (first : Piece) (rest : Script)
  | group (bracket : Bracket) (inner rest : Script)
  /-- The rest stands on a line of its own, indented by a number of levels. -/
  | line (level : Nat) (rest : Script)

/-- A piece with the given names for the value under test and for what loops bind. -/
def Piece.print (value : List Char) (naming : Nat → List Char) : Piece → List Char
  | word text => text.toList
  | mark text => text.toList
  | numeral chars => chars
  | quote body => '\'' :: body ++ ['\'']
  | .value => value
  | bound number => naming number

namespace Script

/-- The text of a script. -/
def print (value : List Char) (naming : Nat → List Char) : Script → List Char
  | done => []
  | piece first rest => first.print value naming ++ print value naming rest
  | group bracket inner rest =>
    bracket.opening :: (print value naming inner ++ bracket.closing :: print value naming rest)
  | line level rest => '\n' :: (List.replicate (4 * level) ' ' ++ print value naming rest)

def append : Script → Script → Script
  | done, after => after
  | piece first rest, after => piece first (append rest after)
  | group bracket inner rest, after => group bracket inner (append rest after)
  | line level rest, after => line level (append rest after)

instance : Append Script := ⟨append⟩

@[simp] theorem done_append (after : Script) : done ++ after = after := rfl

@[simp] theorem piece_append (first : Piece) (rest after : Script) :
    piece first rest ++ after = piece first (rest ++ after) := rfl

@[simp] theorem group_append (bracket : Bracket) (inner rest after : Script) :
    group bracket inner rest ++ after = group bracket inner (rest ++ after) := rfl

@[simp] theorem line_append (level : Nat) (rest after : Script) :
    line level rest ++ after = line level (rest ++ after) := rfl

@[simp] theorem append_done (script : Script) : script ++ done = script := by
  induction script with
  | done => rfl
  | piece first rest ih => rw [piece_append, ih]
  | group bracket inner rest _ ih => rw [group_append, ih]
  | line level rest ih => rw [line_append, ih]

theorem append_assoc (first second third : Script) :
    first ++ second ++ third = first ++ (second ++ third) := by
  induction first with
  | done => rfl
  | piece first rest ih => simp only [piece_append, ih]
  | group bracket inner rest _ ih => simp only [group_append, ih]
  | line level rest ih => simp only [line_append, ih]

@[simp] theorem print_append (value : List Char) (naming : Nat → List Char)
    (first second : Script) :
    (first ++ second).print value naming =
      first.print value naming ++ second.print value naming := by
  induction first with
  | done => rfl
  | piece first rest ih => simp [print, ih]
  | group bracket inner rest _ ih => simp [print, ih]
  | line level rest ih => simp [print, ih]

/-! ### Scripts inside others -/

end Script

/-- A piece inside a larger script: the value under test is the one given there, and the names of
loops are numbered on from there. -/
def Piece.place (subject : Script) (taken : Nat) : Piece → Script
  | .value => subject
  | bound number => .piece (.bound (number + taken)) .done
  | first => .piece first .done

namespace Script

/-- A script inside a larger one. -/
def place : Script → Script → Nat → Script
  | done, _, _ => done
  | piece first rest, subject, taken => first.place subject taken ++ rest.place subject taken
  | group bracket inner rest, subject, taken =>
    group bracket (inner.place subject taken) (rest.place subject taken)
  | line level rest, subject, taken => line level (rest.place subject taken)

@[simp] theorem place_append (subject : Script) (taken : Nat) (first second : Script) :
    (first ++ second).place subject taken =
      first.place subject taken ++ second.place subject taken := by
  induction first with
  | done => rfl
  | piece first rest ih => simp [place, ih, append_assoc]
  | group bracket inner rest _ ih => simp [place, ih]
  | line level rest ih => simp [place, ih]

/-- To place a script is to write it with other names. -/
theorem print_place (value : List Char) (naming : Nat → List Char) (subject : Script) (taken : Nat)
    (script : Script) :
    (script.place subject taken).print value naming =
      script.print (subject.print value naming) fun number => naming (number + taken) := by
  induction script with
  | done => rfl
  | piece first rest ih =>
    rw [place, print_append, ih]
    cases first <;> simp [Piece.place, print, Piece.print]
  | group bracket inner rest inside ih =>
    simp only [place, print, inside, ih]
  | line level rest ih => simp only [place, print, ih]

/-! ### Regular scripts -/

end Script

namespace Piece

/-- The words of generated code. -/
def words : List String :=
  ["True", "False", "None", "is", "and", "or", "for", "in", "all", "len", "isinstance",
    "issubclass", "b", "__hc_registry", "__hc_random_int", "sample", "sample_items", "items",
    "check_forward_ref"] ++ Class.builtins.map Class.name

/-- What stands between words. -/
def marks : List String := [", ", ",", ": ", " ", " == ", "."]

/-- The characters of numbers. -/
def isNumeric (c : Char) : Bool :=
  c.isDigit || ['.', '-', '+', 'N', 'a', 'i', 'n', 'f', 'j'].contains c

/-- Words and marks are those of generated code, numbers have only their characters, and quotes are
closed where they seem to be and keep braces and line ends out. -/
def Regular : Piece → Prop
  | word text => text ∈ words
  | mark text => text ∈ marks
  | numeral chars => chars ≠ [] ∧ ∀ c ∈ chars, isNumeric c = true
  | quote body => Token.Bodied '\'' body ∧ '{' ∉ body ∧ '\n' ∉ body
  | _ => True

/-- Whether a piece is a word, a number or a name, which may not run into another. -/
def isName : Piece → Bool
  | mark _ | quote _ => false
  | _ => true

end Piece

namespace Script

/-- Whether a script starts with a word, a number or a name. -/
def startsName : Script → Bool
  | piece first _ => first.isName
  | _ => false

/-- Whether a script may follow an opening brace without being taken for a hole. -/
def opens : Script → Bool
  | done => true
  | piece (.word text) _ => text != "all" && text != "and"
  | piece (.numeral chars) _ => chars.head?.any fun c => c.isDigit || c == '-' || c == '.'
  | piece (.quote _) _ => true
  | group _ _ _ => true
  | _ => false

/-- Every piece is regular, names do not run into each other, and braces open no holes. -/
def Regular : Script → Prop
  | done => True
  | piece first rest =>
    first.Regular ∧ (first.isName = true → rest.startsName = false) ∧ rest.Regular
  | group bracket inner rest =>
    (bracket = .curly → inner.opens = true) ∧ inner.Regular ∧ rest.Regular
  | line _ rest => rest.Regular

/-- The numbers of the names that loops bind, as they occur. -/
def numbers : Script → List Nat
  | done => []
  | piece (.bound number) rest => number :: rest.numbers
  | piece _ rest => rest.numbers
  | group _ inner rest => inner.numbers ++ rest.numbers
  | line _ rest => rest.numbers

end Script

theorem Piece.clear_of_regular {piece : Piece} (regular : piece.Regular) {value : List Char}
    {naming : Nat → List Char} (named : piece ≠ .value) (fixed : ∀ number, piece ≠ .bound number) :
    '{' ∉ piece.print value naming := by
  cases piece with
  | word text =>
    have clear : ∀ word ∈ words, '{' ∉ word.toList := by decide +kernel
    exact clear text regular
  | mark text =>
    have clear : ∀ mark ∈ marks, '{' ∉ mark.toList := by decide +kernel
    exact clear text regular
  | numeral chars =>
    intro member
    exact absurd (regular.2 _ member) (by decide)
  | quote body =>
    have clear := regular.2.1
    simp [print, clear]
  | value => exact absurd rfl named
  | bound number => exact absurd rfl (fixed number)

namespace Script

variable {value : List Char} {naming : Nat → List Char}

variable {script : Script}

/-- What follows an opening brace does not start like a marker. -/
theorem head?_of_opens (regular : script.Regular) (opens : script.opens = true)
    (rest : List Char) : (script.print value naming ++ '}' :: rest).head? ≠ some 'p' := by
  cases script with
  | done => exact (by decide : some '}' ≠ some 'p')
  | piece first later =>
    cases first with
    | word text =>
      have starts : ∀ word ∈ Piece.words, ∃ c ∈ word.toList.head?, c ≠ 'p' := by decide +kernel
      obtain ⟨c, found, differs⟩ := starts text regular.1
      simp only [print, Piece.print, head?_append, Option.mem_def.mp found, Option.some_or]
      exact fun same => differs (Option.some.inj same)
    | numeral chars =>
      cases chars with
      | nil => cases opens
      | cons c chars =>
        rintro ⟨⟩
        cases opens
    | quote body => exact (by decide : some '\'' ≠ some 'p')
    | mark text => cases opens
    | value => cases opens
    | bound number => cases opens
  | group bracket inner later =>
    have differs : some bracket.opening ≠ some 'p' := by cases bracket <;> decide
    exact differs
  | line level later => cases opens

theorem clear_line (level : Nat) : '{' ∉ '\n' :: replicate (4 * level) ' ' := by
  intro member
  rcases mem_cons.mp member with same | member
  · exact absurd same (by decide)
  · exact absurd (eq_of_mem_replicate member) (by decide)

/-- What goes through a text and only stops at braces with a `p` after them leaves the rest of a
script alone. -/
theorem pass_print {change : List Char → List Char}
    (clear : ∀ {chars : List Char}, '{' ∉ chars → ∀ rest, change (chars ++ rest) =
      chars ++ change rest)
    (brace : ∀ {rest : List Char}, rest.head? ≠ some 'p' → change ('{' :: rest) =
      '{' :: change rest)
    {value' : List Char} (values : ∀ rest, change (value ++ rest) = value' ++ change rest)
    {naming' : Nat → List Char} (regular : script.Regular)
    (names : ∀ number ∈ script.numbers, ∀ rest,
      change (naming number ++ rest) = naming' number ++ change rest) (rest : List Char) :
    change (script.print value naming ++ rest) = script.print value' naming' ++ change rest := by
  induction script generalizing rest with
  | done => rfl
  | piece first later ih =>
    obtain ⟨regularFirst, -, regular⟩ := regular
    rw [print, print, List.append_assoc, List.append_assoc]
    cases first with
    | value => exact (values _).trans (congrArg _ (ih regular names rest))
    | bound number =>
      obtain ⟨named, names⟩ := forall_mem_cons.mp names
      exact (named _).trans (congrArg _ (ih regular names rest))
    | word _ | mark _ | numeral _ | quote _ =>
      refine (clear (Piece.clear_of_regular regularFirst nofun nofun) _).trans ?_
      exact congrArg _ (ih regular names rest)
  | group bracket inner later inside ih =>
    obtain ⟨opens, regularInner, regular⟩ := regular
    obtain ⟨namesInner, names⟩ := forall_mem_append.mp names
    have opening (after : List Char) : change (bracket.opening ::
        (inner.print value naming ++ bracket.closing :: after)) = bracket.opening ::
          change (inner.print value naming ++ bracket.closing :: after) := by
      cases bracket with
      | curly => exact brace (head?_of_opens regularInner (opens rfl) after)
      | round => exact @clear ['('] (by decide) _
      | square => exact @clear ['['] (by decide) _
    have closing (after : List Char) :
        change (bracket.closing :: after) = bracket.closing :: change after := by
      refine @clear [bracket.closing] ?_ _
      cases bracket <;> decide
    simp only [print, List.cons_append, List.append_assoc, opening, closing,
      inside regularInner namesInner, ih regular names]
  | line level later ih =>
    rw [print, print, ← List.cons_append, ← List.cons_append, List.append_assoc, List.append_assoc,
      clear (clear_line level), ih regular names]

/-- A script with markers for all names. -/
def marked (script : Script) : List Char :=
  script.print valueMarker.toList fun number => (marker number).toList

/-- Markers of a regular script are replaced where they stand, and nothing else is. -/
theorem mapMarkersFrom_marked (replace : Nat → List Char)
    (regular : script.Regular) (small : ∀ number ∈ script.numbers, number < 2 ^ 64) :
    mapMarkersFrom replace 0 script.marked =
      script.print valueMarker.toList replace := by
  have names : ∀ number ∈ script.numbers, ∀ rest,
      mapMarkersFrom replace 0 ((marker number).toList ++ rest) =
        replace number ++ mapMarkersFrom replace 0 rest :=
    fun number member => mapMarkersFrom_marker (small number member)
  have passed := pass_print mapMarkersFrom_pass mapMarkersFrom_brace
    mapMarkersFrom_value regular names []
  rw [append_nil] at passed
  exact passed.trans (append_nil _)

/-- The value under test is put where its marker stands, and nothing else is changed. -/
theorem replaceFrom_print (value : List Char) (regular : script.Regular)
    (names : ∀ number ∈ script.numbers, '{' ∉ naming number ∨
      ∃ other, naming number = (marker other).toList) :
    replaceFrom valueMarker.toList value 0
      (script.print valueMarker.toList naming) = script.print value naming := by
  have clear {chars : List Char} (clear : '{' ∉ chars) (rest : List Char) :
      replaceFrom valueMarker.toList value 0 (chars ++ rest) =
        chars ++ replaceFrom valueMarker.toList value 0 rest := by
    rw [valueMarker_chars]
    exact replaceFrom_pass clear rest
  have values (rest : List Char) :
      replaceFrom valueMarker.toList value 0 (valueMarker.toList ++ rest) =
        value ++ replaceFrom valueMarker.toList value 0 rest := by
    rw [valueMarker_chars]
    exact replaceFrom_here '{' rest
  have kept : ∀ number ∈ script.numbers, ∀ rest,
      replaceFrom valueMarker.toList value 0 (naming number ++ rest) =
        naming number ++ replaceFrom valueMarker.toList value 0 rest := by
    intro number member rest
    rcases names number member with plain | ⟨other, marked⟩
    · exact clear plain rest
    · rw [marked]
      exact replaceFrom_marker other rest
  have passed := pass_print clear replaceFrom_brace values regular kept []
  rw [append_nil] at passed
  exact passed.trans (append_nil _)

end Script

/-- To embed the text of a script is to place the script. -/
theorem embedCode_marked {code value : String} {script subject : Script}
    (written : code.toList = script.marked) (regular : script.Regular)
    (small : ∀ number ∈ script.numbers, number < 2 ^ 64) (taken : Nat)
    (named : value.toList = subject.marked) :
    (embedCode taken value code).toList = (script.place subject taken).marked := by
  have shifted : (shiftMarkers taken code).toList = script.print valueMarker.toList
      fun number => (marker (number + taken)).toList := by
    by_cases none : taken = 0
    · subst none
      rw [shiftMarkers, if_pos rfl, written]
      rfl
    · rw [shiftMarkers, if_neg none, mapMarkers, String.toList_ofList, written]
      exact Script.mapMarkersFrom_marked _ regular small
  rw [embedCode, fillValue, replaceAll, String.toList_ofList, shifted, named,
    Script.replaceFrom_print _ regular fun number _ => .inr ⟨_, rfl⟩]
  exact (Script.print_place _ _ subject taken script).symm

/-- The name that a guard gives to what a loop binds. -/
def localName (number : Nat) : List Char := ("__hc_pith_" ++ toString number).toList

theorem localName_clear (number : Nat) : '{' ∉ localName number := by
  rw [localName, String.toList_append]
  show '{' ∉ _ ++ number.repr.toList
  rw [Nat.toList_repr, mem_append, not_or]
  exact ⟨by decide, fun member => absurd (isDigit_of_mem_toDigits _ member) (by decide)⟩

/-- The text of a fragment with names in place of markers. -/
theorem Fragment.render_eq {fragment : Fragment} {script : Script}
    (written : fragment.code.toList = script.marked) (regular : script.Regular)
    (small : ∀ number ∈ script.numbers, number < 2 ^ 64) (value : String) (offset : Nat) :
    (fragment.render value offset).toList =
      script.print value.toList fun number => localName (number + offset) := by
  rw [render, fillValue, replaceAll, String.toList_ofList, nameMarkers,
    mapMarkers, String.toList_ofList, written, Script.mapMarkersFrom_marked _ regular small]
  exact Script.replaceFrom_print _ regular fun number _ => .inl (localName_clear _)

end CallGuard
