/-
Scripts put together. The script of a check is made of words, numbers, quoted
texts and look-ups, which are joined by marks, put in brackets and laid out on
lines. What holds of these, and of every script put together from scripts that
it holds of, holds of the scripts of all values and checks. It may go by the
names that a script looks up: each part adds its own, and those of the whole are
the names that the check says it looks up.
-/
import CallGuard.Proofs.Transcription

namespace CallGuard

open Script
open List hiding append_assoc lookup

/-! ### Standard classes -/

/-- A class whose home is that of the built-in ones is one of them. -/
def Class.Standard (c : Class) : Prop := c.home = builtinHome → c ∈ builtins

/-- All classes that are named inside a value are standard. -/
def Value.Standard (value : Value) : Prop :=
  ∀ c : Class, (classObject c).Inside value → c.Standard

theorem Value.Standard.part {part value : Value} (standard : value.Standard)
    (member : part ∈ value.parts) : part.Standard :=
  fun c inside => standard c (.part member inside)

/-! ### Vocabularies -/

/-- The classes, literals and texts that something is written with. -/
structure Vocabulary where
  classes : Class → Prop
  literals : Value → Prop
  texts : String → Prop
  builtin : ∀ c ∈ Class.builtins, classes c

/-- Standard classes and literals with such classes, and any texts. -/
def Vocabulary.standard : Vocabulary :=
  ⟨Class.Standard, fun value => value.Standard ∧ value.kind.Standard, fun _ => True,
    fun _ known _ => known⟩

/-- The slots that parts are for. -/
def Parts.slots : Parts → List Nat
  | .nil => []
  | .cons slot _ rest => slot :: rest.slots

mutual
/-- All that a check is written with belongs to the vocabulary, and entries have two sides. -/
def Check.Within (words : Vocabulary) : Check → Prop
  | .instanceOf classes => ∀ c ∈ classes, words.classes c
  | .classObject base => ∀ c ∈ base, words.classes c
  | .structural protocol => words.texts protocol.name
  | .oneOf values => ∀ value ∈ values, words.literals value
  | .anyOf parts => parts.Within words
  | .eachItem container item _ => words.classes container ∧ item.Within words
  | .eachEntry sides _ => sides.Within words ∧ ∀ slot ∈ sides.slots, slot < 2
  | .tupleOf _ items => items.Within words
  | .validated inner validators =>
    inner.Within words ∧ ∀ validator ∈ validators, words.texts validator.text
  | .deferred reference _ => words.texts reference.name
  | _ => True

def Parts.Within (words : Vocabulary) : Parts → Prop
  | .nil => True
  | .cons _ check rest => check.Within words ∧ rest.Within words
end

/-- All classes that a check names are standard, and entries have two sides. -/
abbrev Check.Standard (check : Check) : Prop := check.Within .standard

abbrev Parts.Standard (parts : Parts) : Prop := parts.Within .standard

variable {words : Vocabulary}

mutual
theorem Check.Within.standard (classes : ∀ c, words.classes c → c.Standard)
    (literals : ∀ value, words.literals value → value.Standard ∧ value.kind.Standard) :
    ∀ {check : Check}, check.Within words → check.Standard
  | .always, _ | .isNull, _ | .structural _, _ | .deferred _ _, _ => trivial
  | .instanceOf _, within | .classObject _, within => fun c member => classes c (within c member)
  | .oneOf _, within => fun value member => literals value (within value member)
  | .anyOf _, within | .tupleOf _ _, within => Parts.Within.standard classes literals within
  | .eachItem _ _ _, within =>
    ⟨classes _ within.1, Check.Within.standard classes literals within.2⟩
  | .eachEntry _ _, within => ⟨Parts.Within.standard classes literals within.1, within.2⟩
  | .validated _ _, within =>
    ⟨Check.Within.standard classes literals within.1, fun _ _ => trivial⟩

theorem Parts.Within.standard (classes : ∀ c, words.classes c → c.Standard)
    (literals : ∀ value, words.literals value → value.Standard ∧ value.kind.Standard) :
    ∀ {parts : Parts}, parts.Within words → parts.Standard
  | .nil, _ => trivial
  | .cons _ _ _, within =>
    ⟨Check.Within.standard classes literals within.1,
      Parts.Within.standard classes literals within.2⟩
end

/-! ### Numbers -/

namespace Value

theorem isNumeric_of_isNumeral {chars : List Char} (numeral : IsNumeral chars) :
    ∀ c ∈ chars, Piece.isNumeric c = true := by
  intro c member
  rcases numeral.2 c member with digit | rfl | rfl
  · rw [Piece.isNumeric, digit, Bool.true_or]
  · rfl
  · rfl

theorem isNumeric_text (x : Binary64) : ∀ c ∈ x.text.toList, Piece.isNumeric c = true := by
  rcases text_cases x with listed | numeral
  · have numeric : ∀ word ∈ unusualNumbers, ∀ c ∈ word, Piece.isNumeric c = true := by decide
    exact numeric _ listed
  · exact isNumeric_of_isNumeral numeral

/-! ### What may follow a brace -/

theorem opens_numeral {chars : List Char} (numeral : IsNumeral chars) (after : Script) :
    (piece (.numeral chars) done ++ after).opens = true := by
  obtain ⟨filled, digits⟩ := numeral
  cases chars with
  | nil => exact absurd rfl filled
  | cons c rest =>
    show (c.isDigit || c == '-' || c == '.') = true
    rcases digits c mem_cons_self with digit | rfl | rfl
    · rw [digit]
      rfl
    · rfl
    · rfl

/-- A value may stand after an opening brace. -/
theorem opens_script {value : Value} (standard : value.Standard) (after : Script) :
    (value.script ++ after).opens = true := by
  cases value with
  | null | str | bytes | list | frozenset | dict | object | complex => rfl
  | bool truth =>
    cases truth with
    | false => exact (by decide : ("False" != "all" && "False" != "and") = true)
    | true => exact (by decide : ("True" != "all" && "True" != "and") = true)
  | int number => exact opens_numeral (isNumeral_int number) after
  | float number =>
    rw [script, floatScript]
    split
    · rfl
    · split
      · rfl
      · exact opens_numeral
          (isNumeral_floatText (Bool.eq_false_iff.mpr ‹_›) (Bool.eq_false_iff.mpr ‹_›)) after
  | tuple _ items =>
    unfold script tupleScript
    split <;> rfl
  | set _ items =>
    unfold script setScript
    split <;> rfl
  | classObject c =>
    rw [script, Class.script]
    split
    · rename_i home
      have names : ∀ c ∈ Class.builtins, (c.name != "all" && c.name != "and") = true := by decide
      exact names c (standard c .self home)
    · rfl

theorem opens_series {scripts : List Script}
    (each : ∀ script ∈ scripts, ∀ after : Script, (script ++ after).opens = true) :
    (series scripts).opens = true := by
  cases scripts with
  | nil => rfl
  | cons first rest =>
    have opens := each first mem_cons_self
    cases rest with
    | nil =>
      have alone := opens done
      rwa [append_done] at alone
    | cons second rest =>
      rw [series, append_assoc]
      exact opens _

theorem scripts_eq_map (items : List Value) : scripts items = items.map script := by
  induction items with
  | nil => rfl
  | cons first rest ih => rw [scripts, ih, map_cons]

theorem entryScripts_eq_map (entries : List (Value × Value)) : entryScripts entries =
    entries.map fun entry => entry.1.script ++ mark ": " ++ entry.2.script := by
  induction entries with
  | nil => rfl
  | cons first rest ih => rw [entryScripts, ih, map_cons]

theorem lookupsIn_eq_flatMap (items : List Value) : lookupsIn items = items.flatMap lookups := by
  induction items with
  | nil => rfl
  | cons first rest ih => rw [lookupsIn, ih, flatMap_cons]

theorem lookupsInEntries_eq_flatMap (entries : List (Value × Value)) : lookupsInEntries entries =
    entries.flatMap fun entry => entry.1.lookups ++ entry.2.lookups := by
  induction entries with
  | nil => rfl
  | cons first rest ih =>
    rw [lookupsInEntries, ih, flatMap_cons]

end Value

/-! ### Scripts on one line -/

/-- The words that stand for themselves. -/
def Piece.common : List String :=
  ["True", "False", "None", "is", "and", "or", "in", "len", "isinstance", "issubclass", "b", "items",
    "float", "set", "frozenset", "type", "dict", "tuple"]

/-- What holds of scripts on one line, with the names that they look up, if it holds of what they are
put together from. -/
structure Script.Inline (Holds : List String → Script → Prop) : Prop where
  nothing : Holds [] done
  word {text : String} : text ∈ Piece.common → Holds [] (word text)
  numeral {chars : List Char} : chars ≠ [] → (∀ c ∈ chars, Piece.isNumeric c = true) →
    Holds [] (piece (.numeral chars) done)
  special {text : String} : text ∈ ["nan", "-inf", "inf"] → Holds [] (quoted text)
  joined {names names' : List String} {first second : Script} {text : String} :
    Holds names first → text ∈ Piece.marks → Holds names' second →
    Holds (names ++ names') (first ++ mark text ++ second)
  group {names names' : List String} {first inner : Script} {bracket : Bracket} :
    Holds names first → (bracket = .curly → inner.opens = true) → Holds names' inner →
    Holds (names ++ names') (first ++ group bracket inner done)

variable {Holds : List String → Script → Prop} {names names' : List String}
  {listed : List (List String)}

namespace Script.Inline

variable (inline : Inline Holds) {subject inner described : Script} {scripts terms : List Script}

include inline

theorem enclosed {bracket : Bracket} (opens : bracket = .curly → inner.opens = true)
    (inside : Holds names inner) : Holds names (.group bracket inner done) :=
  inline.group inline.nothing opens inside

theorem call {function : String} (known : function ∈ Piece.common) (inside : Holds names inner) :
    Holds names (Script.call function inner) :=
  inline.group (inline.word known) nofun inside

theorem isInstance (tested : Holds names subject) (named : Holds names' described) :
    Holds (names ++ names') (Script.isInstance subject described) :=
  inline.call (by decide) (inline.joined tested (by decide) named)

theorem size (number : Nat) : Holds [] (Script.numeral number) :=
  inline.numeral Nat.toDigits_ne_nil fun c member => by
    rw [Piece.isNumeric, Text.isDigit_of_mem_toDigits c member, Bool.true_or]

theorem index (tested : Holds names subject) (slot : Nat) :
    Holds names (subject ++ .group .square (Script.numeral slot) done) := by
  have whole := inline.group tested (nofun : Bracket.square = .curly → _) (inline.size slot)
  rwa [append_nil] at whole

theorem series (each : List.Forall₂ Holds listed scripts) :
    Holds listed.flatten (Script.series scripts) := by
  induction each with
  | nil => exact inline.nothing
  | cons head tail ih =>
    cases tail with
    | nil =>
      rw [flatten_singleton]
      exact head
    | cons _ _ => exact inline.joined head (by decide) ih

theorem alternatives (each : List.Forall₂ Holds listed terms) :
    Holds listed.flatten (Value.alternatives terms) := by
  induction each with
  | nil => exact inline.nothing
  | cons head tail ih =>
    cases tail with
    | nil =>
      rw [flatten_singleton]
      exact head
    | cons _ _ =>
      have started := inline.joined head (by decide : " " ∈ Piece.marks)
        (inline.word (by decide : "or" ∈ Piece.common))
      rw [append_nil] at started
      exact inline.joined started (by decide) ih

omit inline in
theorem forall₂_map {Item : Type} {items : List Item} {lists : Item → List String}
    {write : Item → Script} (each : ∀ item ∈ items, Holds (lists item) (write item)) :
    List.Forall₂ Holds (items.map lists) (items.map write) :=
  forall₂_map_left_iff.mpr (forall₂_map_right_iff.mpr (forall₂_same.mpr each))

theorem classes {classes : List Class} (each : ∀ c ∈ classes, Holds c.lookups c.script) :
    Holds (classes.flatMap Class.lookups) (Class.scriptOf classes) := by
  match classes with
  | [] => exact inline.enclosed nofun inline.nothing
  | [c] =>
    rw [flatMap_singleton]
    exact each c mem_cons_self
  | first :: second :: rest =>
    exact inline.enclosed nofun (inline.series (forall₂_map each))

theorem float (x : Binary64) : Holds [] (Value.floatScript x) := by
  unfold Value.floatScript
  split
  · exact inline.call (by decide) (inline.special (by decide))
  · split
    · refine inline.call (by decide) (inline.special ?_)
      split <;> decide
    · have numeral := Value.isNumeral_floatText (Bool.eq_false_iff.mpr ‹_›)
        (Bool.eq_false_iff.mpr ‹_›)
      exact inline.numeral numeral.1 (Value.isNumeric_of_isNumeral numeral)

theorem literal (tested : Holds [] subject) {value : Value}
    (written : Holds value.lookups value.script)
    (kind : Holds value.kind.lookups value.kind.script) :
    Holds (value.lookups ++ value.kind.lookups) (Value.literalScript subject value) := by
  have equal := inline.joined (inline.joined tested (by decide : " == " ∈ Piece.marks) written)
    (by decide : " " ∈ Piece.marks) (inline.word (by decide : "and" ∈ Piece.common))
  rw [append_nil] at equal
  exact inline.enclosed nofun (inline.joined equal (by decide) (inline.isInstance tested kind))

theorem literals (tested : Holds [] subject) {values : List Value}
    (each : ∀ value ∈ values, Holds value.lookups value.script ∧
      Holds value.kind.lookups value.kind.script) :
    Holds (values.flatMap fun value => value.lookups ++ value.kind.lookups)
      (Value.literalsScript subject values) := by
  have written (value : Value) (member : value ∈ values) :=
    inline.literal tested (each value member).1 (each value member).2
  match values with
  | [] => exact inline.enclosed nofun inline.nothing
  | [value] =>
    rw [flatMap_singleton]
    exact written value mem_cons_self
  | first :: second :: rest =>
    exact inline.enclosed nofun (inline.alternatives (forall₂_map written))

end Script.Inline

/-- Whether a value is written as a quoted text or as the name of something. -/
def Value.isNamed : Value → Bool
  | str _ _ | bytes _ _ | classObject _ | object _ _ => true
  | _ => false

/-- What holds of the scripts of all texts and names inside a value holds of the script of the
value. -/
theorem Value.inline_script (inline : Inline Holds) {given : Value} (standard : given.Standard)
    (each : ∀ part : Value, part.Inside given → part.isNamed = true →
      Holds part.lookups part.script) : Holds given.lookups given.script := by
  induction given using induction_parts with
  | step given ih =>
    have written (part : Value) (member : part ∈ given.parts) : Holds part.lookups part.script :=
      ih part member (standard.part member) fun inner inside => each inner (.part member inside)
    have listed {items : List Value} (inside : ∀ item ∈ items, item ∈ given.parts) :
        Holds (lookupsIn items) (series (scripts items)) := by
      rw [lookupsIn_eq_flatMap, scripts_eq_map]
      exact inline.series (Inline.forall₂_map fun item member => written item (inside item member))
    have opens {items : List Value} (inside : ∀ item ∈ items, item ∈ given.parts) :
        (series (scripts items)).opens = true := by
      rw [scripts_eq_map]
      exact opens_series (forall_mem_map.mpr fun item member =>
        opens_script (standard.part (inside item member)))
    cases given with
    | null => exact inline.word (by decide)
    | bool truth =>
      cases truth with
      | false => exact inline.word (by decide)
      | true => exact inline.word (by decide)
    | int number =>
      exact inline.numeral (isNumeral_int number).1 (isNumeric_of_isNumeral (isNumeral_int number))
    | float number => exact inline.float number
    | complex real imaginary =>
      have filled : complexWord real imaginary ≠ [] := append_ne_nil_of_right_ne_nil _ nofun
      exact inline.enclosed nofun (inline.numeral filled
        (forall_mem_complexWord (by decide) isNumeric_text real imaginary))
    | str _ _ | bytes _ _ | classObject _ | object _ _ => exact each _ .self rfl
    | list _ items => exact inline.enclosed nofun (listed fun _ => id)
    | tuple _ items =>
      match items with
      | [item] =>
        have single := inline.joined (written item mem_cons_self)
          (by decide : "," ∈ Piece.marks) inline.nothing
        rw [append_done] at single
        exact inline.enclosed nofun single
      | [] | _ :: _ :: _ => exact inline.enclosed nofun (listed fun _ => id)
    | set _ items =>
      match items with
      | [] => exact inline.call (by decide) inline.nothing
      | _ :: _ => exact inline.enclosed (fun _ => opens fun _ => id) (listed fun _ => id)
    | frozenset _ items =>
      exact inline.call (by decide)
        (inline.enclosed (fun _ => opens fun _ => id) (listed fun _ => id))
    | dict _ entries =>
      rw [lookups, script, lookupsInEntries_eq_flatMap, entryScripts_eq_map]
      refine inline.enclosed (fun _ => opens_series (forall_mem_map.mpr
        fun entry member after => ?_)) (inline.series (Inline.forall₂_map fun entry member => ?_))
      · rw [append_assoc, append_assoc]
        exact opens_script (standard.part (mem_parts_of_key member)) _
      · exact inline.joined (written _ (mem_parts_of_key member)) (by decide)
          (written _ (mem_parts_of_entry member))

/-! ### Scripts on several lines -/

/-- The functions that the registry has. -/
def Piece.methods : List String := ["sample", "sample_items", "check_forward_ref"]

/-- What holds of scripts, with the names that they look up, if it holds of what they are put together
from. -/
structure Script.Composed (Holds : List String → Script → Prop) : Prop extends Inline Holds where
  line {names names' : List String} {first rest : Script} (level : Nat) :
    Holds names first → Holds names' rest → Holds (names ++ names') (first ++ line level rest)
  control {text : String} : text ∈ ["all", "for", randomName] → Holds [] (Script.word text)
  method {text : String} {names : List String} {inner : Script} : text ∈ Piece.methods →
    Holds names inner → Holds names (Script.word registryName ++ mark "." ++ Script.call text inner)

namespace Script.Composed

variable (composed : Composed Holds) {subject suffix : Script} {terms : List Script}
  {connective : String}

include composed

theorem conditions (known : connective ∈ Piece.common) (level : Nat)
    (each : List.Forall₂ Holds listed terms) {before : Script} (start : Holds names before) :
    Holds (names ++ listed.flatten) (before ++ Script.conditions level connective terms) := by
  induction each generalizing names before with
  | nil => exact composed.line 0 start composed.nothing
  | cons head tail ih =>
    cases tail with
    | nil =>
      rw [flatten_singleton]
      exact composed.line level start head
    | cons _ _ =>
      have whole := ih (composed.line level start
        (composed.joined head (by decide : " " ∈ Piece.marks) (composed.word known)))
      rw [append_nil, List.append_assoc, Script.append_assoc] at whole
      exact whole

theorem bracketed (known : connective ∈ Piece.common) (level : Nat)
    (each : List.Forall₂ Holds listed terms) :
    Holds listed.flatten (Script.bracketed level connective terms) := by
  have lines := composed.line level (composed.conditions known (level + 1) each composed.nothing)
    composed.nothing
  rw [append_nil] at lines
  exact composed.enclosed nofun lines

theorem loop (level : Nat) {container bound contents : Script} (tested : Holds [] subject)
    (named : Holds names container) (binds : Holds [] bound)
    (each : List.Forall₂ Holds listed terms) (runs : Holds [] contents) :
    Holds (names ++ listed.flatten) (Script.loop level subject container bound terms contents) := by
  have test := composed.joined (composed.isInstance tested named) (by decide : " " ∈ Piece.marks)
    (composed.word (by decide : "and" ∈ Piece.common))
  have clause := composed.joined (composed.joined (composed.joined
    (composed.control (by decide : "for" ∈ _)) (by decide : " " ∈ Piece.marks) binds)
    (by decide : " " ∈ Piece.marks) (composed.word (by decide : "in" ∈ Piece.common)))
    (by decide : " " ∈ Piece.marks) runs
  have body := composed.line (level + 1) (composed.line (level + 2) (composed.conditions
    (by decide : "and" ∈ Piece.common) (level + 2) each composed.nothing) clause) composed.nothing
  have all : Holds _ (Script.call "all" _) :=
    composed.group (composed.control (by decide)) nofun body
  have whole := composed.line level (composed.line (level + 1)
    (composed.line (level + 1) composed.nothing test) all) composed.nothing
  simp only [nil_append, append_nil] at whole
  exact composed.enclosed nofun whole

theorem sampling (sampling : Sampling) (tested : Holds [] subject)
    (whole : Holds [] (subject ++ suffix)) {method : String} (known : method ∈ Piece.methods) :
    Holds [] (sampling.script subject method suffix) := by
  have sampled (count : Nat) := composed.method known (composed.joined (composed.joined tested
    (by decide : ", " ∈ Piece.marks) (composed.control (by decide : randomName ∈ _)))
    (by decide : ", " ∈ Piece.marks) (composed.size count))
  cases sampling with
  | full => exact whole
  | one => exact sampled 1
  | count number => exact sampled number

end Script.Composed

/-- What holds of scripts put together, and of everything in a vocabulary. -/
structure Vocabulary.Composed (words : Vocabulary) (Holds : List String → Script → Prop) : Prop
    extends Script.Composed Holds where
  ofClass {c : Class} : words.classes c → Holds c.lookups c.script
  ofLiteral {value : Value} : words.literals value →
    Holds value.lookups value.script ∧ Holds value.kind.lookups value.kind.script
  lookup {text : String} : words.texts text → Holds [text] (lookup text)
  quoted {text : String} : words.texts text → Holds [] (quoted text)

mutual
/-- What holds of everything in a vocabulary holds of the script of a check that is written with it,
about a subject and with bound names of which it holds, too. -/
theorem Check.composed_script (composed : words.Composed Holds) :
    ∀ {check : Check}, check.Within words → ∀ {subject : Script},
    Holds [] subject → ∀ first level,
    (∀ number, first ≤ number → number < first + check.locals → Holds [] (bound number)) →
    Holds check.lookups (check.script subject first level)
  | .always, _, _, _, _, _, _ => composed.word (by decide)
  | .isNull, _, _, tested, _, _, _ =>
    composed.joined (composed.joined tested (by decide) (composed.word (by decide))) (by decide)
      (composed.word (by decide))
  | .instanceOf _, within, _, tested, _, _, _ =>
    composed.isInstance tested (composed.classes fun c member => composed.ofClass (within c member))
  | .classObject none, _, _, tested, _, _, _ =>
    composed.isInstance tested (composed.word (by decide))
  | .classObject (some base), within, _, tested, _, _, _ =>
    composed.enclosed nofun (composed.joined (composed.joined
      (composed.isInstance tested (composed.word (by decide))) (by decide)
      (composed.word (by decide))) (by decide) (composed.call (by decide)
        (composed.joined tested (by decide) (composed.ofClass (within base rfl)))))
  | .structural _, within, _, tested, _, _, _ =>
    composed.isInstance tested (composed.lookup within)
  | .oneOf _, within, _, tested, _, _, _ =>
    composed.literals tested fun value member => composed.ofLiteral (within value member)
  | .anyOf parts, within, _, tested, first, level, binds => by
    obtain ⟨listed, each, names⟩ :=
      Parts.composed_scripts composed within (fun _ _ => tested) first (level + 1) binds
    rw [Check.lookups, ← names]
    exact composed.bracketed (by decide) level each
  | .eachItem container item sampling, within, _, tested, first, level, binds => by
    rw [Check.locals] at binds
    have own : Holds [] (bound first) := binds first (Nat.le_refl _) (by omega)
    have inner := Check.composed_script composed within.2 own (first + 1) (level + 2)
      fun number above below => binds number (by omega) (by omega)
    have whole := composed.loop level tested (composed.ofClass within.1) own (.cons inner .nil)
      (composed.sampling sampling tested (by rwa [append_done])
        (by decide : "sample" ∈ Piece.methods))
    rwa [flatten_singleton] at whole
  | .eachEntry sides sampling, within, _, tested, first, level, binds => by
    rw [Check.locals] at binds
    have own (slot : Nat) (side : slot < 2) : Holds [] (bound (first + slot)) :=
      binds _ (by omega) (by omega)
    obtain ⟨listed, each, names⟩ := Parts.composed_scripts composed within.1
      (fun slot member => own slot (within.2 slot member)) (first + 2) (level + 2)
      fun number above below => binds number (by omega) (by omega)
    have entries := composed.joined tested (by decide : "." ∈ Piece.marks)
      (composed.call (by decide : "items" ∈ Piece.common) composed.nothing)
    rw [Script.append_assoc] at entries
    rw [Check.lookups, ← names]
    exact composed.loop level tested (composed.word (by decide))
      (composed.joined (own 0 (by decide)) (by decide) (own 1 (by decide))) each
      (composed.sampling sampling tested entries (by decide))
  | .tupleOf size items, within, subject, tested, first, level, binds => by
    obtain ⟨listed, each, names⟩ := Parts.composed_scripts composed within
      (fun slot _ => composed.index tested slot) first (level + 1) binds
    have length := composed.joined (composed.call (by decide : "len" ∈ Piece.common) tested)
      (by decide : " == " ∈ Piece.marks) (composed.size size)
    have test := composed.isInstance tested (composed.word (by decide : "tuple" ∈ Piece.common))
    have whole := composed.bracketed (by decide : "and" ∈ Piece.common) level
      (.cons test (.cons length each))
    rw [Check.lookups, ← names]
    exact whole
  | .validated inner validators, within, subject, tested, first, level, binds => by
    have checked := Check.composed_script composed within.1 tested first (level + 1) binds
    have validated : List.Forall₂ Holds (validators.map fun validator => [validator.text])
        (validators.map (Validator.script subject)) :=
      Inline.forall₂_map fun validator member =>
        composed.group (composed.lookup (within.2 validator member)) nofun tested
    have names : (validators.map fun validator => [validator.text]).flatten =
        validators.map Validator.text := flatMap_pure_eq_map _ validators
    rw [Check.lookups, ← names, Check.script]
    split
    · rename_i always
      have none : inner.lookups = [] := by
        cases inner with
        | always => rfl
        | _ => cases always
      rw [none]
      exact composed.bracketed (by decide) level validated
    · exact composed.bracketed (by decide) level (.cons checked validated)
  | .deferred _ _, within, _, tested, _, _, _ =>
    composed.method (by decide) (composed.joined (composed.joined (composed.quoted within)
      (by decide) tested) (by decide) (composed.control (by decide)))

theorem Parts.composed_scripts (composed : words.Composed Holds) :
    ∀ {parts : Parts}, parts.Within words → ∀ {subjects : Nat → Script}, (∀ slot ∈ parts.slots, Holds [] (subjects slot)) →
    ∀ first level,
    (∀ number, first ≤ number → number < first + parts.locals → Holds [] (bound number)) →
    ∃ listed, List.Forall₂ Holds listed (parts.scripts subjects first level) ∧
      listed.flatten = parts.lookups
  | .nil, _, _, _, _, _, _ => ⟨[], .nil, rfl⟩
  | .cons slot check rest, within, _, tested, first, level, binds => by
    rw [Parts.locals] at binds
    obtain ⟨head, tail⟩ := forall_mem_cons.mp tested
    obtain ⟨listed, each, names⟩ := Parts.composed_scripts composed within.2 tail
      (first + check.locals) level fun number above below => binds number (by omega) (by omega)
    exact ⟨_, .cons (Check.composed_script composed within.1 head first level
      fun number above below => binds number above (by omega)) each,
      by rw [flatten_cons, names, Parts.lookups]⟩
end

end CallGuard
