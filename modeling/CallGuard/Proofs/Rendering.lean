/-
Generated code as scripts. To put the text of a part into that of the whole is to
place the script of the part in that of the whole: parts keep their form, and
their names are numbered on from those taken so far. So the text of a check is
the check written directly with markers for names, and in a guard, where names
stand in place of markers, it is the check written directly with names that are
numbered from the first free one on.
-/
import CallGuard.Proofs.Printing
import CallGuard.Proofs.Regularity

namespace CallGuard

open Script List Text Check

/-! ### Scripts without names -/

namespace Script

/-- Neither the value under test nor a bound name is in a script, and it is all on one line. -/
def Fixed : Script → Prop
  | done => True
  | piece .value _ | piece (.bound _) _ => False
  | piece _ rest => rest.Fixed
  | group _ inner rest => inner.Fixed ∧ rest.Fixed
  | line _ _ => False

theorem fixed_append {first second : Script} (fixed : first.Fixed) (fixed' : second.Fixed) :
    (first ++ second).Fixed := by
  induction first with
  | done => exact fixed'
  | piece first rest ih =>
    cases first with
    | value | bound => exact fixed.elim
    | word | mark | numeral | quote => exact ih fixed
  | group bracket inner rest _ ih =>
    exact ⟨fixed.1, ih fixed.2⟩
  | line => exact fixed.elim

theorem fixed_series {scripts : List Script} (each : ∀ script ∈ scripts, script.Fixed) :
    (series scripts).Fixed := by
  induction scripts with
  | nil => trivial
  | cons first rest ih =>
    obtain ⟨head, tail⟩ := forall_mem_cons.mp each
    cases rest with
    | nil => exact head
    | cons second rest =>
      exact fixed_append (fixed_append head trivial) (ih tail)

theorem place_of_fixed {script : Script} (fixed : script.Fixed) (subject : Script) (taken : Nat) :
    script.place subject taken = script := by
  induction script with
  | done => rfl
  | piece first rest ih =>
    cases first with
    | value | bound => exact fixed.elim
    | word | mark | numeral | quote =>
      rw [place, ih fixed]
      rfl
  | group bracket inner rest inside ih =>
    rw [place, inside fixed.1, ih fixed.2]
  | line => exact fixed.elim

theorem numbers_of_fixed {script : Script} (fixed : script.Fixed) : script.numbers = [] := by
  induction script with
  | done => rfl
  | piece first rest ih =>
    cases first with
    | value | bound => exact fixed.elim
    | word | mark | numeral | quote => exact ih fixed
  | group bracket inner rest inside ih =>
    rw [numbers, inside fixed.1, ih fixed.2]
    rfl
  | line => exact fixed.elim

end Script

theorem Class.fixed_script (c : Class) : c.script.Fixed := by
  unfold script
  split
  · trivial
  · exact ⟨trivial, trivial⟩

theorem Class.fixed_scriptOf (classes : List Class) : (scriptOf classes).Fixed := by
  have each : ∀ script ∈ classes.map Class.script, script.Fixed :=
    forall_mem_map.mpr fun c _ => c.fixed_script
  unfold scriptOf
  split
  · rename_i name single
    exact each name (single ▸ mem_cons_self)
  · exact ⟨fixed_series each, trivial⟩

theorem Value.fixed_script (value : Value) : value.script.Fixed := by
  induction value using induction_parts with
  | step value ih =>
    have each {items : List Value} (inside : ∀ item ∈ items, item ∈ value.parts) :
        ∀ script ∈ scripts items, script.Fixed := by
      rw [scripts_eq_map]
      exact forall_mem_map.mpr fun item member => ih item (inside item member)
    cases value with
    | null | bool | int | str | bytes => trivial
    | complex | object => exact ⟨trivial, trivial⟩
    | float number =>
      unfold script floatScript
      split
      · exact ⟨trivial, trivial⟩
      · split
        · exact ⟨trivial, trivial⟩
        · trivial
    | list _ items => exact ⟨fixed_series (each fun _ => id), trivial⟩
    | tuple _ items =>
      have each := each fun _ => id
      unfold script tupleScript
      split
      · rename_i item single
        exact ⟨fixed_append (each item (single ▸ mem_cons_self)) trivial, trivial⟩
      · exact ⟨fixed_series each, trivial⟩
    | set _ items =>
      unfold script setScript
      split
      · exact ⟨trivial, trivial⟩
      · exact ⟨fixed_series (each fun _ => id), trivial⟩
    | frozenset _ items => exact ⟨⟨fixed_series (each fun _ => id), trivial⟩, trivial⟩
    | dict _ entries =>
      rw [script, entryScripts_eq_map]
      refine ⟨fixed_series (forall_mem_map.mpr fun entry member => ?_), trivial⟩
      exact fixed_append (fixed_append (ih _ (mem_parts_of_key member)) trivial)
        (ih _ (mem_parts_of_entry member))
    | classObject c => exact c.fixed_script

/-! ### Checks inside others -/

namespace Script

variable {subject : Script} {taken : Nat}

@[simp] theorem place_word (text : String) : (word text).place subject taken = word text := rfl

@[simp] theorem place_mark (text : String) : (mark text).place subject taken = mark text := rfl

@[simp] theorem place_numeral (number : Nat) :
    (numeral number).place subject taken = numeral number := rfl

@[simp] theorem place_quoted (text : String) :
    (quoted text).place subject taken = quoted text := rfl

@[simp] theorem place_lookup (name : String) :
    (lookup name).place subject taken = lookup name := rfl

@[simp] theorem place_tested : tested.place subject taken = subject := append_done subject

@[simp] theorem place_bound (number : Nat) :
    (bound number).place subject taken = bound (number + taken) := rfl

@[simp] theorem place_done : done.place subject taken = done := rfl

@[simp] theorem place_line (level : Nat) (rest : Script) :
    (line level rest).place subject taken = line level (rest.place subject taken) := rfl

@[simp] theorem place_group (bracket : Bracket) (inner rest : Script) :
    (group bracket inner rest).place subject taken =
      group bracket (inner.place subject taken) (rest.place subject taken) := rfl

@[simp] theorem place_call (function : String) (inner : Script) :
    (call function inner).place subject taken = call function (inner.place subject taken) := rfl

@[simp] theorem place_isInstance (value described : Script) :
    (isInstance value described).place subject taken =
      isInstance (value.place subject taken) (described.place subject taken) := by
  simp [isInstance]

@[simp] theorem place_conditions (level : Nat) (connective : String) (terms : List Script) :
    (conditions level connective terms).place subject taken =
      conditions level connective (terms.map fun term => term.place subject taken) := by
  induction terms with
  | nil => rfl
  | cons first rest ih =>
    cases rest with
    | nil => rfl
    | cons second rest =>
      rw [conditions, place_append, ih]
      simp [conditions]

@[simp] theorem place_bracketed (level : Nat) (connective : String) (terms : List Script) :
    (Script.bracketed level connective terms).place subject taken =
      Script.bracketed level connective (terms.map fun term => term.place subject taken) := by
  simp [Script.bracketed]

@[simp] theorem place_loop (level : Nat) (value container names : Script) (terms : List Script)
    (contents : Script) :
    (loop level value container names terms contents).place subject taken =
      loop level (value.place subject taken) (container.place subject taken)
        (names.place subject taken) (terms.map fun term => term.place subject taken)
        (contents.place subject taken) := by
  simp [loop]

end Script

theorem Value.place_literalScript (subject value : Script) (taken : Nat) (literal : Value) :
    (literalScript value literal).place subject taken =
      literalScript (value.place subject taken) literal := by
  simp [literalScript, place_of_fixed literal.fixed_script,
    place_of_fixed literal.kind.fixed_script]

theorem Value.place_alternatives (subject : Script) (taken : Nat) (terms : List Script) :
    (alternatives terms).place subject taken =
      alternatives (terms.map fun term => term.place subject taken) := by
  induction terms with
  | nil => rfl
  | cons first rest ih =>
    cases rest with
    | nil => rfl
    | cons second rest =>
      rw [alternatives, place_append, ih]
      simp [alternatives]

theorem Value.place_literalsScript (subject value : Script) (taken : Nat) (literals : List Value) :
    (literalsScript value literals).place subject taken =
      literalsScript (value.place subject taken) literals := by
  unfold literalsScript
  match literals with
  | [] => rfl
  | [literal] => exact place_literalScript subject value taken literal
  | first :: second :: rest =>
    have each : ∀ literal ∈ rest, (literalScript value literal).place subject taken =
        literalScript (value.place subject taken) literal :=
      fun literal _ => place_literalScript subject value taken literal
    simp only [map_cons, place_group, place_done, place_alternatives, place_literalScript,
      map_map]
    exact congrArg (fun terms => group .round (alternatives (_ :: _ :: terms)) done)
      (map_congr_left each)

theorem Sampling.place_script (sampling : Sampling) (subject value : Script) (taken : Nat)
    (method : String) (suffix : Script) :
    (sampling.script value method suffix).place subject taken =
      sampling.script (value.place subject taken) method (suffix.place subject taken) := by
  cases sampling <;> simp [script]

theorem Validator.place_script (subject value : Script) (taken : Nat) (validator : Validator) :
    (validator.script value).place subject taken = validator.script (value.place subject taken) := by
  simp [script]

mutual
/-- Inside a larger script, a check is about the subject there, and its names are numbered on from
those taken there. -/
theorem Check.place_script (subject : Script) (taken : Nat) : ∀ (check : Check) (value : Script)
    (first level : Nat), (check.script value first level).place subject taken =
      check.script (value.place subject taken) (first + taken) level
  | .always, _, _, _ => rfl
  | .isNull, _, _, _ => by simp [script]
  | .instanceOf classes, _, _, _ => by simp [script, place_of_fixed (Class.fixed_scriptOf classes)]
  | .classObject none, _, _, _ => by simp [script]
  | .classObject (some base), _, _, _ => by simp [script, place_of_fixed base.fixed_script]
  | .structural _, _, _, _ => by simp [script]
  | .oneOf values, value, _, _ => Value.place_literalsScript subject value taken values
  | .anyOf parts, value, first, level => by
    simp [Check.script, Parts.place_scripts subject taken parts]
  | .eachItem container item sampling, value, first, level => by
    simp [Check.script, place_of_fixed container.fixed_script, Sampling.place_script,
      Check.place_script subject taken item, Nat.add_right_comm]
  | .eachEntry sides sampling, value, first, level => by
    simp [script, Sampling.place_script, Parts.place_scripts subject taken sides,
      Nat.add_right_comm]
  | .tupleOf size items, value, first, level => by
    simp [script, Parts.place_scripts subject taken items]
  | .validated inner validators, value, first, level => by
    simp only [script, place_bracketed, map_append, map_map]
    congr 2
    split
    · rfl
    · simp [Check.place_script subject taken inner]
  | .deferred _ _, _, _, _ => by simp [Check.script]

theorem Parts.place_scripts (subject : Script) (taken : Nat) : ∀ (parts : Parts)
    (values : Nat → Script) (first level : Nat),
    ((parts.scripts values first level).map fun script => script.place subject taken) =
      parts.scripts (fun slot => (values slot).place subject taken) (first + taken) level
  | .nil, _, _, _ => rfl
  | .cons slot check rest, values, first, level => by
    rw [Parts.scripts, Parts.scripts, map_cons, Check.place_script subject taken check,
      Parts.place_scripts subject taken rest, Nat.add_right_comm]
end

/-! ### The names of a check -/

namespace Script

@[simp] theorem numbers_append (first second : Script) :
    (first ++ second).numbers = first.numbers ++ second.numbers := by
  induction first with
  | done => rfl
  | piece first rest ih =>
    cases first with
    | bound number => exact congrArg (number :: ·) ih
    | word | mark | numeral | quote | value => exact ih
  | group bracket inner rest _ ih =>
    rw [group_append, numbers, numbers, ih, List.append_assoc]
  | line level rest ih => exact ih

theorem composed_numbers (allowed : Nat → Prop) :
    Vocabulary.standard.Composed fun _ script => ∀ number ∈ script.numbers, allowed number where
  nothing := forall_mem_nil _
  word _ := forall_mem_nil _
  numeral _ _ := forall_mem_nil _
  special _ := forall_mem_nil _
  joined given _ given' := by
    rw [numbers_append, numbers_append]
    rw [forall_mem_append, forall_mem_append]
    exact ⟨⟨given, forall_mem_nil _⟩, given'⟩
  group given _ given' := by
    rw [numbers_append, numbers, numbers, append_nil]
    exact forall_mem_append.mpr ⟨given, given'⟩
  line _ given given' := by
    rw [numbers_append]
    exact forall_mem_append.mpr ⟨given, given'⟩
  control _ := forall_mem_nil _
  method _ given := by
    rw [call, numbers_append, numbers_append, numbers_append, numbers, numbers, append_nil]
    exact given
  ofClass _ := by
    rw [numbers_of_fixed (Class.fixed_script _)]
    exact forall_mem_nil _
  ofLiteral _ := by
    rw [numbers_of_fixed (Value.fixed_script _), numbers_of_fixed (Class.fixed_script _)]
    exact ⟨forall_mem_nil _, forall_mem_nil _⟩
  lookup _ := forall_mem_nil _
  quoted _ := forall_mem_nil _

end Script

/-- The names of a check are those of its subject and as many as it binds, numbered from the first
one on. -/
theorem Check.numbers_script {allowed : Nat → Prop} {check : Check} (standard : check.Standard)
    {subject : Script} {first : Nat} (level : Nat)
    (given : ∀ number ∈ subject.numbers, allowed number)
    (free : ∀ number, first ≤ number → number < first + check.locals → allowed number) :
    ∀ number ∈ (check.script subject first level).numbers, allowed number :=
  composed_script (composed_numbers allowed) standard given first level
    fun number above below => forall_mem_singleton.mpr (free number above below)

/-! ### The texts of checks -/

namespace Script

theorem marked_tested : tested.marked = valueMarker.toList := print_tested _ _

theorem marked_bound (number : Nat) : (bound number).marked = (marker number).toList :=
  print_bound _ (fun number => (marker number).toList) number

theorem regular_tested : tested.Regular := ⟨trivial, fun _ => rfl, trivial⟩

end Script

/-- The text of a part put into a larger text is the part written about its own value, with names
numbered on from those taken so far. -/
theorem Check.embedCode_eq_written {check : Check} (standard : check.Standard)
    (small : check.locals ≤ 2 ^ 64) {level : Nat}
    (written : check.code level = check.written marker valueMarker 0 level)
    {subject : Script} {text : String} (named : subject.marked = text.toList) (taken : Nat) :
    embedCode taken text (check.code level) = check.written marker text taken level := by
  have scripted : (check.code level).toList = (check.script tested 0 level).marked := by
    rw [written]
    exact (check.print_script marked_tested 0 level).symm
  have below : ∀ number ∈ (check.script tested 0 level).numbers, number < 2 ^ 64 :=
    numbers_script standard level nofun fun number _ inside => by omega
  have placed := check.place_script subject taken tested 0 level
  rw [place_tested, Nat.zero_add] at placed
  rw [← String.toList_inj, embedCode_marked scripted
    (regular_script standard regular_tested 0 level) below taken named.symm, placed]
  exact check.print_script named taken level

mutual
/-- The text of a check is the check written directly, with markers for the value under test and for
what loops bind. -/
theorem Check.code_eq_written : ∀ {check : Check}, check.Standard → check.locals ≤ 2 ^ 64 →
    ∀ level, check.code level = check.written marker valueMarker 0 level
  | .always, _, _, _ | .isNull, _, _, _ | .instanceOf _, _, _, _ | .classObject none, _, _, _
  | .classObject (some _), _, _, _ | .structural _, _, _, _ | .oneOf _, _, _, _
  | .deferred _ _, _, _, _ => rfl
  | .anyOf parts, standard, small, level =>
    congrArg (bracketed level "or")
      (Parts.codes_eq_written standard small (fun _ => marked_tested) 0 (level + 1))
  | .eachItem container item sampling, standard, small, level => by
    rw [Check.locals] at small
    have inside := Check.embedCode_eq_written standard.2 (by omega)
      (Check.code_eq_written standard.2 (by omega) (level + 2)) (marked_bound 0) 1
    exact congrArg (fun text => loopCode level container.code (marker 0) [text]
      (sampling.code "sample" "")) inside
  | .eachEntry sides sampling, standard, small, level => by
    rw [locals] at small
    have shown : (fun slot => marker (0 + slot)) = marker :=
      funext fun slot => by rw [Nat.zero_add]
    have inside : sides.codes (level + 2) 2 marker = sides.written marker
        (fun slot => marker (0 + slot)) 2 (level + 2) := by
      rw [shown]
      exact Parts.codes_eq_written standard.1 (by omega) marked_bound 2 (level + 2)
    exact congrArg (fun texts => loopCode level "dict" (marker 0 ++ ", " ++ marker 1) texts
      (sampling.code "sample_items" ".items()")) inside
  | .tupleOf size items, standard, small, level => by
    have named (slot : Nat) : (tested ++ group .square (numeral slot) done).marked =
        (valueMarker ++ "[" ++ toString slot ++ "]").toList := by
      simp only [marked, print_append, print_group, print_tested, print_numeral, Bracket.opening,
        Bracket.closing, String.toList_append, String.reduceToList, List.append_assoc,
        List.cons_append, List.nil_append]
    exact congrArg (fun texts => bracketed level "and" (("isinstance(" ++ valueMarker ++
      ", tuple)") :: ("len(" ++ valueMarker ++ ") == " ++ toString size) :: texts))
        (Parts.codes_eq_written standard small named 0 (level + 1))
  | .validated inner validators, standard, small, level => by
    have small : inner.locals ≤ 2 ^ 64 := small
    have inside := Check.embedCode_eq_written standard.1 small
      (Check.code_eq_written standard.1 small (level + 1)) marked_tested 0
    exact congrArg (fun text => bracketed level "and" ((if inner.isAlways then [] else [text]) ++
      validators.map validatorCode)) inside

theorem Parts.codes_eq_written : ∀ {parts : Parts}, parts.Standard → parts.locals ≤ 2 ^ 64 →
    ∀ {subjects : Nat → Script} {texts : Nat → String},
    (∀ slot, (subjects slot).marked = (texts slot).toList) → ∀ taken level,
      parts.codes level taken texts = parts.written marker texts taken level
  | .nil, _, _, _, _, _, _, _ => rfl
  | .cons slot check rest, standard, small, _, _, named, taken, level => by
    rw [Parts.locals] at small
    have here := Check.embedCode_eq_written standard.1 (by omega)
      (Check.code_eq_written standard.1 (by omega) level) (named slot) taken
    exact congrArg₂ cons here
      (Parts.codes_eq_written standard.2 (by omega) named (taken + check.locals) level)
end

/-- In a guard, a check is written as its script, with names numbered from the first free one
on. -/
theorem Fragment.render_script {fragment : Fragment} (standard : fragment.check.Standard)
    (small : fragment.check.locals ≤ 2 ^ 64) (value : String) (offset : Nat) :
    (fragment.render value offset).toList =
      (fragment.check.script tested offset fragment.level).print value.toList localName := by
  have written : fragment.code.toList = (fragment.check.script tested 0 fragment.level).marked := by
    rw [Fragment.code, code_eq_written standard small]
    exact (fragment.check.print_script marked_tested 0 fragment.level).symm
  have below : ∀ number ∈ (fragment.check.script tested 0 fragment.level).numbers,
      number < 2 ^ 64 :=
    numbers_script standard fragment.level nofun fun number _ inside => by omega
  have placed := fragment.check.place_script tested offset tested 0 fragment.level
  rw [place_tested, Nat.zero_add] at placed
  rw [Fragment.render_eq written (regular_script standard regular_tested 0 _) below,
    ← placed, print_place, print_tested]

/-- In a guard, a check is written directly. -/
theorem Fragment.render_eq_written {fragment : Fragment} (standard : fragment.check.Standard)
    (small : fragment.check.locals ≤ 2 ^ 64) (value : String) (offset : Nat) :
    fragment.render value offset =
      fragment.check.written Direct.numbered value offset fragment.level := by
  rw [← String.toList_inj, render_script standard small]
  exact fragment.check.print_script (print_tested _ _) offset fragment.level

end CallGuard
