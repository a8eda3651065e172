/-
The lines of a check. The text of a check is on one line, or it is in brackets,
with lines in between that start neither tests nor blocks. So where such a text
stands in a test, the test is the only one there, and it opens one block only.
-/
import CallGuard.Proofs.Layout
import CallGuard.Proofs.Rendering

namespace CallGuard

open Script
open List hiding append_assoc lookup

namespace Source

/-! ### Quiet lines -/

/-- Whether the text starts neither a comment nor a test, whatever comes after it. -/
def startsCode : List Char → Bool
  | [] => false
  | [c] => !Text.isBlank c && c != '#' && c != 'i'
  | c :: d :: _ => !Text.isBlank c && c != '#' && !(c == 'i' && d == 'f')

/-- Whether the text opens no block, with no blanks at its end. -/
def endsCode (text : List Char) : Bool := text.getLast?.any fun c => !Text.isBlank c && c != ':'

/-- Text that may stand on a line of its own. -/
structure Plain (text : List Char) : Prop where
  flat : '\n' ∉ text
  starts : startsCode text = true
  ends : endsCode text = true

/-- The line is no test and opens no block. -/
def Quiet (row : List Char) : Prop := '\n' ∉ row ∧ ∀ role ∈ role? row, role.isQuiet = true

/-- The text adds lines that are no tests and open no blocks. -/
def Calm (text : List Char) : Prop :=
  ∃ rows : List (List Char), text = rows.flatMap ('\n' :: ·) ∧ ∀ row ∈ rows, Quiet row

variable {text : List Char}

theorem startsCode_append (starts : startsCode text = true)
    (more : List Char) : startsCode (text ++ more) = true := by
  match text, more with
  | [c], [] => exact starts
  | [c], d :: _ =>
    rw [startsCode, Bool.and_eq_true] at starts
    show (!Text.isBlank c && c != '#' && !(c == 'i' && d == 'f')) = true
    rw [starts.1, beq_false_of_ne (bne_iff_ne.mp starts.2)]
    rfl
  | _ :: _ :: _, _ => exact starts

theorem endsCode_append (ends : endsCode text = true) (before : List Char) :
    endsCode (before ++ text) = true := by
  cases text with
  | nil => cases ends
  | cons c rest => rwa [endsCode, getLast?_append_of_ne_nil _ (cons_ne_nil _ _)]

theorem flat_indent (level : Nat) : '\n' ∉ replicate (4 * level) ' ' := by
  intro member
  exact absurd (eq_of_mem_replicate member) (by decide)

theorem unindented_indent (level : Nat) (starts : startsCode text = true) :
    unindented (replicate (4 * level) ' ' ++ text) = text := by
  have blank : ∀ c ∈ replicate (4 * level) ' ', Text.isBlank c = true := by
    intro c member
    rw [eq_of_mem_replicate member]
    decide
  rw [unindented, dropWhile_append_of_pos blank]
  rcases text with _ | ⟨c, _ | ⟨d, rest⟩⟩
  · rfl
  all_goals
    simp only [startsCode, Bool.and_eq_true, Bool.not_eq_true'] at starts
    rw [dropWhile_cons, if_neg (by rw [starts.1.1]; exact Bool.false_ne_true)]

/-- Such text is no test. -/
theorem not_test_of_startsCode (starts : startsCode text = true) :
    "if not ".toList.isPrefixOf text = false := by
  have word : "if not ".toList = ['i', 'f', ' ', 'n', 'o', 't', ' '] := by decide
  rw [word]
  match text with
  | [c] => exact Bool.and_false _
  | c :: d :: rest =>
    simp only [startsCode, Bool.and_eq_true, Bool.not_eq_true'] at starts
    show ('i' == c && ('f' == d && _)) = false
    rw [← Bool.and_assoc, BEq.comm, @BEq.comm _ _ _ 'f', starts.2, Bool.false_and]

theorem Plain.quiet (plain : Plain text) (level : Nat) :
    Quiet (replicate (4 * level) ' ' ++ text) := by
  refine ⟨fun member => (mem_append.mp member).elim (flat_indent level) plain.flat, ?_⟩
  intro found member
  rw [role?, Option.mem_def] at member
  split at member
  · cases member
    have opens : opensBlock (replicate (4 * level) ' ' ++ text) = false := by
      obtain ⟨last, found, solid⟩ := (Option.any_eq_true _ _).mp plain.ends
      obtain ⟨before, rfl⟩ := getLast?_eq_some_iff.mp found
      rw [Bool.and_eq_true, Bool.not_eq_true', bne_iff_ne] at solid
      rw [← List.append_assoc, opensBlock_concat _ solid.1]
      exact beq_false_of_ne solid.2
    have tests : begins "if not " (replicate (4 * level) ' ' ++ text) = false := by
      rw [begins, unindented_indent level plain.starts, not_test_of_startsCode plain.starts]
    rw [Role.isQuiet, role, opens, tests]
    rfl
  · cases member

theorem quiet_nil : Quiet [] := ⟨nofun, nofun⟩

theorem Calm.append {text text' : List Char} (calm : Calm text) (calm' : Calm text') :
    Calm (text ++ text') := by
  obtain ⟨rows, rfl, quiet⟩ := calm
  obtain ⟨rows', rfl, quiet'⟩ := calm'
  exact ⟨rows ++ rows', flatMap_append.symm, forall_mem_append.mpr ⟨quiet, quiet'⟩⟩

theorem calm_row {row : List Char} (quiet : Quiet row) : Calm ('\n' :: row) :=
  ⟨[row], (append_nil _).symm, forall_mem_singleton.mpr quiet⟩

/-- Quiet lines are lines. -/
theorem Calm.ruled (calm : Calm text) :
    ∃ roles, Ruled text roles ∧ ∀ role ∈ roles, role.isQuiet = true := by
  obtain ⟨rows, rfl, quiet⟩ := calm
  refine ⟨rows.filterMap role?, ⟨rows, rfl, fun row member => (quiet row member).1, rfl⟩, ?_⟩
  intro role member
  obtain ⟨row, inside, found⟩ := mem_filterMap.mp member
  exact (quiet row inside).2 role found

/-- Text at the given level: on one line, or in brackets with quiet lines in between. -/
inductive Laid (level : Nat) : List Char → Prop
  | single {text : List Char} (plain : Plain text) : Laid level text
  | several {text : List Char} (calm : Calm text) :
    Laid level ('(' :: (text ++ '\n' :: (replicate (4 * level) ' ' ++ [')'])))

theorem plain_opening : Plain ['('] := ⟨by decide, by decide, by decide⟩

theorem plain_closing : Plain [')'] := ⟨by decide, by decide, by decide⟩

theorem Plain.append {text suffix : List Char} (plain : Plain text) (flat : '\n' ∉ suffix)
    (ends : suffix = [] ∨ endsCode suffix = true) : Plain (text ++ suffix) := by
  refine ⟨fun member => (mem_append.mp member).elim plain.flat flat,
    startsCode_append plain.starts _, ?_⟩
  rcases ends with rfl | ends
  · rw [append_nil]
    exact plain.ends
  · exact endsCode_append ends text

/-- Such text on new lines, with something after it on the last one. -/
theorem Laid.calm {level : Nat} {text : List Char} (laid : Laid level text) (suffix : List Char)
    (flat : '\n' ∉ suffix) (ends : suffix = [] ∨ endsCode suffix = true) :
    Calm ('\n' :: (replicate (4 * level) ' ' ++ (text ++ suffix))) := by
  cases laid with
  | single plain => exact calm_row ((plain.append flat ends).quiet level)
  | @several text calm =>
    have opening : Calm ('\n' :: (replicate (4 * level) ' ' ++ ['('])) :=
      calm_row (plain_opening.quiet level)
    have closing : Calm ('\n' :: (replicate (4 * level) ' ' ++ ([')'] ++ suffix))) :=
      calm_row ((plain_closing.append flat ends).quiet level)
    have whole := (opening.append calm).append closing
    simpa only [cons_append, List.append_assoc, nil_append] using whole

end Source

open Source

/-! ### Scripts on one line -/

namespace Script

variable {value : List Char} {naming : Nat → List Char}

theorem flat_of_fixed {script : Script} (fixed : script.Fixed) (regular : script.Regular) :
    '\n' ∉ script.print value naming := by
  induction script with
  | done => nofun
  | piece first rest ih =>
    obtain ⟨regularFirst, -, regular⟩ := regular
    have later (fixed : rest.Fixed) := ih fixed regular
    rw [print, mem_append, not_or]
    cases first with
    | value | bound => exact fixed.elim
    | word text =>
      have flat : ∀ word ∈ Piece.words, '\n' ∉ word.toList := by decide +kernel
      exact ⟨flat text regularFirst, later fixed⟩
    | mark text =>
      have flat : ∀ mark ∈ Piece.marks, '\n' ∉ mark.toList := by decide +kernel
      exact ⟨flat text regularFirst, later fixed⟩
    | numeral chars =>
      refine ⟨fun member => ?_, later fixed⟩
      exact absurd (regularFirst.2 _ member) (by decide)
    | quote body =>
      have flat := regularFirst.2.2
      exact ⟨by simp [Piece.print, flat], later fixed⟩
  | group bracket inner rest inside ih =>
    have edges : '\n' ≠ bracket.opening ∧ '\n' ≠ bracket.closing := by cases bracket <;> decide
    simp only [print, mem_cons, mem_append, not_or]
    exact ⟨edges.1, inside fixed.1 regular.2.1, edges.2, ih fixed.2 regular.2.2⟩
  | line => exact fixed.elim

end Script

namespace Source

/-- Text in round brackets, after a word or after nothing. -/
theorem plain_round {before inner : List Char} (flatBefore : '\n' ∉ before)
    (starts : startsCode (before ++ ['(']) = true) (flat : '\n' ∉ inner) :
    Plain (before ++ '(' :: (inner ++ [')'])) := by
  refine ⟨by simp [flatBefore, flat], ?_, ?_⟩
  · have longer := startsCode_append starts (inner ++ [')'])
    rwa [List.append_assoc] at longer
  · have ends : endsCode [')'] = true := by decide
    have longer := endsCode_append ends (before ++ '(' :: inner)
    rwa [List.append_assoc] at longer

variable {value : List Char} {naming : Nat → List Char}

variable {subject : Script} {connective : String} {terms : List Script}

theorem plain_isInstance {described : Script} (flat : '\n' ∉ subject.print value naming)
    (flat' : '\n' ∉ described.print value naming) :
    Plain ((isInstance subject described).print value naming) := by
  rw [isInstance, print_call]
  refine plain_round (by decide) (by decide) ?_
  rw [print_append, print_append, print_mark]
  simp [flat, flat']

theorem calm_conditions (level : Nat) (known : connective ∈ ["and", "or"])
    (each : ∀ term ∈ terms, Laid level (term.print value naming)) :
    Calm ((conditions level connective terms).print value naming) := by
  have words : ∀ word ∈ ["and", "or"], '\n' ∉ " ".toList ++ word.toList ∧
      endsCode (" ".toList ++ word.toList) = true := by decide
  obtain ⟨flat, ends⟩ := words connective known
  induction terms with
  | nil => exact calm_row quiet_nil
  | cons first rest ih =>
    obtain ⟨head, tail⟩ := forall_mem_cons.mp each
    cases rest with
    | nil =>
      have alone := head.calm [] not_mem_nil (.inl rfl)
      rw [append_nil] at alone
      exact alone
    | cons second rest =>
      rw [conditions, print_append]
      refine Calm.append ?_ (ih tail)
      have line := head.calm _ flat (.inr ends)
      simpa only [print, print_append, print_mark, print_word, append_assoc] using line

theorem laid_bracketed (level : Nat) (known : connective ∈ ["and", "or"])
    (each : ∀ term ∈ terms, Laid (level + 1) (term.print value naming)) :
    Laid level ((Script.bracketed level connective terms).print value naming) := by
  have laid := @Laid.several level _ (calm_conditions (level + 1) known each)
  simpa only [Script.bracketed, print_group, print_append, print, Bracket.opening, Bracket.closing,
    List.append_assoc, append_nil, cons_append] using laid

theorem laid_loop (level : Nat) {container names contents : Script}
    (flat : '\n' ∉ subject.print value naming) (flatContainer : '\n' ∉ container.print value naming)
    (flatNames : '\n' ∉ names.print value naming)
    (each : ∀ term ∈ terms, Laid (level + 2) (term.print value naming))
    (flatContents : '\n' ∉ contents.print value naming)
    (ends : endsCode (contents.print value naming) = true) :
    Laid level ((loop level subject container names terms contents).print value naming) := by
  have isContainer : Laid (level + 1) _ := .single (plain_isInstance flat flatContainer)
  have tested := isContainer.calm " and".toList (by decide) (.inr (by decide))
  have opening : Plain "all(".toList := ⟨by decide, by decide, by decide⟩
  have conditions := calm_conditions (level + 2) (by decide : "and" ∈ ["and", "or"]) each
  have run : Plain ("for ".toList ++ (names.print value naming ++ (" in ".toList ++
      contents.print value naming))) := by
    refine ⟨by simp [flatNames, flatContents], startsCode_append (by decide) _, ?_⟩
    exact endsCode_append (endsCode_append (endsCode_append ends _) _) _
  have lines := (((tested.append (calm_row (opening.quiet (level + 1)))).append conditions).append
    (calm_row (run.quiet (level + 2)))).append (calm_row (plain_closing.quiet (level + 1)))
  have laid := @Laid.several level _ lines
  simpa [loop, print, Bracket.opening, Bracket.closing] using laid

end Source

/-! ### Checks -/

namespace Value

variable {value : List Char} {naming : Nat → List Char}

theorem plain_literalScript {subject : Script} (flat : '\n' ∉ subject.print value naming)
    {literal : Value} (standard : literal.Standard) (kind : literal.kind.Standard) :
    Plain ((literalScript subject literal).print value naming) := by
  have flatLiteral : '\n' ∉ literal.script.print value naming :=
    flat_of_fixed literal.fixed_script (regular_script standard)
  have flatKind : '\n' ∉ literal.kind.script.print value naming :=
    flat_of_fixed literal.kind.fixed_script (Class.regular_script kind)
  refine @plain_round [] _ not_mem_nil (by decide) ?_
  simp only [print_append, print_mark, print_word, print_isInstance, mem_append, not_or]
  simpa [flat, flatLiteral] using flatKind

theorem flat_alternatives {terms : List Script}
    (each : ∀ term ∈ terms, '\n' ∉ term.print value naming) :
    '\n' ∉ (alternatives terms).print value naming := by
  induction terms with
  | nil => exact not_mem_nil
  | cons first rest ih =>
    obtain ⟨head, tail⟩ := forall_mem_cons.mp each
    cases rest with
    | nil => exact head
    | cons second rest =>
      have later := ih tail
      rw [alternatives]
      simp only [print_append, print_mark, print_word, mem_append, not_or]
      simp [head, later]

theorem plain_literalsScript {subject : Script} (flat : '\n' ∉ subject.print value naming)
    {literals : List Value} (standard : ∀ literal ∈ literals, literal.Standard ∧ literal.kind.Standard) :
    Plain ((literalsScript subject literals).print value naming) := by
  have each : ∀ term ∈ literals.map (literalScript subject), Plain (term.print value naming) :=
    forall_mem_map.mpr fun literal member =>
      plain_literalScript flat (standard literal member).1 (standard literal member).2
  unfold literalsScript
  split
  · rename_i term single
    exact each term (single ▸ mem_cons_self)
  · exact @plain_round [] _ not_mem_nil (by decide)
      (flat_alternatives fun term member => (each term member).flat)

end Value

namespace Source

variable {value : List Char} {naming : Nat → List Char}

theorem plain_method {method : String} (flatMethod : '\n' ∉ method.toList) {arguments : Script}
    (flat : '\n' ∉ arguments.print value naming) :
    Plain ((word registryName ++ mark "." ++ call method arguments).print value naming) := by
  have text : (word registryName ++ mark "." ++ call method arguments).print value naming =
      (registryName.toList ++ (".".toList ++ method.toList)) ++
        '(' :: (arguments.print value naming ++ [')']) := by
    simp only [print_append, print_word, print_mark, print_call, List.append_assoc]
  rw [text]
  refine plain_round ?_ ?_ flat
  · simp only [mem_append, not_or]
    exact ⟨by decide, by decide, flatMethod⟩
  · rw [List.append_assoc]
    exact startsCode_append (by decide) _

theorem flat_numeral (number : Nat) : '\n' ∉ (numeral number).print value naming :=
  flat_of_fixed trivial (regular_numeral number)

theorem endsCode_numeral (number : Nat) :
    endsCode ((numeral number).print value naming) = true := by
  have digits := Text.forall_digits (fun c => (!Text.isBlank c && c != ':') = true) (by decide)
  rw [print_numeral]
  show endsCode number.repr.toList = true
  rw [Nat.toList_repr, endsCode, Option.any_eq_true]
  have filled : Nat.toDigits 10 number ≠ [] := Nat.toDigits_ne_nil
  refine ⟨_, getLast?_eq_some_getLast filled, ?_⟩
  exact digits _ (Text.isDigit_of_mem_toDigits _ (getLast_mem filled))

theorem flat_quoted (text : String) : '\n' ∉ (quoted text).print value naming :=
  flat_of_fixed trivial (regular_quoted text)

theorem flat_joined {first second : Script} {text : String} (flat : '\n' ∉ first.print value naming)
    (known : text ∈ Piece.marks) (flat' : '\n' ∉ second.print value naming) :
    '\n' ∉ (first ++ mark text ++ second).print value naming := by
  have marks : ∀ mark ∈ Piece.marks, '\n' ∉ mark.toList := by decide +kernel
  simp only [print_append, print_mark, mem_append, not_or]
  exact ⟨⟨flat, marks text known⟩, flat'⟩

theorem flat_word {text : String} (known : text ∈ Piece.words) :
    '\n' ∉ (word text).print value naming :=
  flat_of_fixed trivial (regular_word known)

end Source

variable {value : List Char} {naming : Nat → List Char} {subject : Script}

/-- The part of a container that a loop runs over is named on one line. -/
theorem Sampling.plain_script (sampling : Sampling) (suffix : Script)
    (plain : Plain (subject.print value naming)) {method : String}
    (flatMethod : '\n' ∉ method.toList) (flat : '\n' ∉ suffix.print value naming)
    (ends : suffix.print value naming = [] ∨ endsCode (suffix.print value naming) = true) :
    Plain ((sampling.script subject method suffix).print value naming) := by
  have sampled (count : Nat) : '\n' ∉ (subject ++ mark ", " ++ word randomName ++ mark ", " ++
      numeral count).print value naming :=
    flat_joined (flat_joined plain.flat (by decide) (flat_word (mem_words _ (by decide))))
      (by decide) (flat_numeral count)
  cases sampling with
  | full =>
    rw [script, print_append]
    exact plain.append flat ends
  | one => exact plain_method flatMethod (sampled 1)
  | count number => exact plain_method flatMethod (sampled number)

/-- The call of a validator is on one line. -/
theorem Validator.plain_script (validator : Validator) (flat : '\n' ∉ subject.print value naming) :
    Plain ((validator.script subject).print value naming) := by
  have flatLookup : '\n' ∉ (lookup validator.text).print value naming :=
    flat_of_fixed ⟨trivial, trivial⟩ (regular_lookup _)
  rw [script, print_append]
  refine plain_round flatLookup ?_ flat
  show startsCode ("__hc_registry".toList ++ _ ++ ['(']) = true
  rw [List.append_assoc]
  exact startsCode_append (by decide) _

variable {value : List Char} {naming : Nat → List Char}

mutual
/-- A check is on one line, or in brackets with quiet lines in between. -/
theorem Check.laid_script (named : ∀ number, Plain (naming number)) :
    ∀ {check : Check}, check.Standard →
    ∀ {subject : Script}, Plain (subject.print value naming) → ∀ first level,
      Laid level ((check.script subject first level).print value naming)
  | .always, _, _, _, _, _ => by
    rw [Check.script, print_word]
    exact .single ⟨by decide, by decide, by decide⟩
  | .isNull, _, subject, plain, _, _ => by
    have text : (subject ++ mark " " ++ word "is" ++ mark " " ++ word "None").print value naming =
        subject.print value naming ++ " is None".toList := by
      simp only [print_append, print_mark, print_word, append_assoc]
      rfl
    rw [Check.script, text]
    exact .single (plain.append (by decide) (.inr (by decide)))
  | .instanceOf classes, standard, _, plain, _, _ =>
    .single (plain_isInstance plain.flat (flat_of_fixed (Class.fixed_scriptOf classes)
      (Class.regular_scriptOf standard)))
  | .classObject none, _, _, plain, _, _ =>
    .single (plain_isInstance plain.flat (flat_word (mem_words _ (by decide))))
  | .classObject (some base), standard, subject, plain, _, _ => by
    have flatBase : '\n' ∉ base.script.print value naming :=
      flat_of_fixed base.fixed_script (Class.regular_script (standard base rfl))
    have flatCall : '\n' ∉ (call "issubclass" (subject ++ mark ", " ++ base.script)).print value
        naming := by
      rw [print_call]
      have inner := flat_joined plain.flat (by decide : ", " ∈ Piece.marks) flatBase
      simp only [mem_append, mem_cons, not_or]
      exact ⟨by decide, by decide, inner, by decide, not_mem_nil⟩
    exact .single (@plain_round [] _ not_mem_nil (by decide) (flat_joined (flat_joined
        (plain_isInstance plain.flat (flat_word (mem_words _ (by decide)))).flat (by decide)
        (flat_word (mem_words _ (by decide)))) (by decide) flatCall))
  | .structural _, _, _, plain, _, _ =>
    .single (plain_isInstance plain.flat (flat_of_fixed ⟨trivial, trivial⟩ (regular_lookup _)))
  | .oneOf _, standard, _, plain, _, _ => .single (Value.plain_literalsScript plain.flat standard)
  | .anyOf parts, standard, _, plain, first, level =>
    laid_bracketed level (by decide)
      (Parts.laid_scripts named standard (fun _ => plain) first (level + 1))
  | .eachItem container item sampling, standard, _, plain, first, level => by
    have flatContainer : '\n' ∉ container.script.print value naming :=
      flat_of_fixed container.fixed_script (Class.regular_script standard.1)
    have plainName : Plain ((bound first).print value naming) := by
      rw [print_bound]
      exact named first
    have run := sampling.plain_script done plain (by decide : '\n' ∉ "sample".toList)
      not_mem_nil (.inl rfl)
    exact laid_loop level plain.flat flatContainer plainName.flat
      (forall_mem_singleton.mpr (Check.laid_script named standard.2 plainName _ _)) run.flat
      run.ends
  | .eachEntry sides sampling, standard, _, plain, first, level => by
    have plainName (number : Nat) : Plain ((bound number).print value naming) := by
      rw [print_bound]
      exact named number
    have entries : (mark "." ++ call "items" done).print value naming = ".items()".toList := by
      rw [print_append, print_mark, print_call]
      rfl
    have run := sampling.plain_script (mark "." ++ call "items" done) plain
      (by decide : '\n' ∉ "sample_items".toList) (by rw [entries]; decide)
      (.inr (by rw [entries]; decide))
    exact laid_loop level plain.flat (flat_word (mem_words _ (by decide)))
      (flat_joined (plainName first).flat (by decide) (plainName (first + 1)).flat)
      (Parts.laid_scripts named standard.1 (fun slot => plainName (first + slot)) (first + 2)
        (level + 2)) run.flat run.ends
  | .tupleOf size items, standard, subject, plain, first, level => by
    have counted :
        Plain ((call "len" subject ++ mark " == " ++ numeral size).print value naming) := by
      have flat : '\n' ∉ (mark " == " ++ numeral size).print value naming :=
        @flat_joined value naming done _ " == " not_mem_nil (by decide) (flat_numeral size)
      rw [append_assoc, print_append, print_call]
      refine (plain_round (by decide) (by decide) plain.flat).append flat (.inr ?_)
      rw [print_append]
      exact endsCode_append (endsCode_numeral size) _
    have indexed (slot : Nat) :
        Plain ((subject ++ group .square (numeral slot) done).print value naming) := by
      rw [print_append]
      refine plain.append (flat_of_fixed ⟨trivial, trivial⟩ (regular_index slot)) (.inr ?_)
      rw [print_group]
      exact endsCode_append (by decide : endsCode [']'] = true) ('[' :: _)
    refine laid_bracketed level (by decide) (forall_mem_cons.mpr ⟨.single ?_,
      forall_mem_cons.mpr ⟨.single counted,
        Parts.laid_scripts named standard indexed first (level + 1)⟩⟩)
    exact plain_isInstance plain.flat (flat_word (mem_words _ (by decide)))
  | .validated inner validators, standard, subject, plain, first, level => by
    have checked : ∀ term ∈ if inner.isAlways then [] else
        [inner.script subject first (level + 1)], Laid (level + 1) (term.print value naming) := by
      split
      · nofun
      · exact forall_mem_singleton.mpr
          (Check.laid_script named standard.1 plain first (level + 1))
    exact laid_bracketed level (by decide) (forall_mem_append.mpr ⟨checked,
      forall_mem_map.mpr fun validator _ => .single (validator.plain_script plain.flat)⟩)
  | .deferred reference _, _, _, plain, _, _ =>
    .single (plain_method (by decide) (flat_joined (flat_joined (flat_quoted _) (by decide)
      plain.flat) (by decide) (flat_word (mem_words _ (by decide)))))

theorem Parts.laid_scripts (named : ∀ number, Plain (naming number)) :
    ∀ {parts : Parts}, parts.Standard →
    ∀ {subjects : Nat → Script}, (∀ slot, Plain ((subjects slot).print value naming)) →
      ∀ first level, ∀ script ∈ parts.scripts subjects first level,
        Laid level (script.print value naming)
  | .nil, _, _, _, _, _ => nofun
  | .cons slot _ _, standard, _, plain, first, level =>
    forall_mem_cons.mpr ⟨Check.laid_script named standard.1 (plain slot) first level,
      Parts.laid_scripts named standard.2 plain _ level⟩
end

end CallGuard
