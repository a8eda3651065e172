/-
Checks written directly. Here the text of a check is written from the outside in:
the value under test comes with its text, what loops bind is named as it is met,
by the next number that is free, and nothing is put into a text that stands
already. The script of a check is a plan of this text, whatever names are given
to the value under test and to what loops bind.
-/
import CallGuard.Proofs.Transcription

namespace CallGuard

open Script List

/-! ### Texts -/

namespace Direct

/-- The name that a guard gives to what a loop binds. -/
def numbered (number : Nat) : String := "__hc_pith_" ++ toString number

/-- The test for an instance. -/
def instanceTest (subject described : String) : String :=
  "isinstance(" ++ subject ++ ", " ++ described ++ ")"

/-- The classes of a test for an instance. -/
def classNames (classes : List Class) : String :=
  match classes.map Class.code with
  | [name] => name
  | names => Value.enclosed "(" ")" names

/-- The test for one literal value. -/
def literalTest (subject : String) (value : Value) : String :=
  "(" ++ subject ++ " == " ++ value.code ++ " and isinstance(" ++ subject ++ ", " ++
    value.kind.code ++ "))"

/-- The test for one of several literal values. -/
def literalTests (subject : String) (values : List Value) : String :=
  match values.map (literalTest subject) with
  | [term] => term
  | terms => "(" ++ " or ".intercalate terms ++ ")"

/-- The part of a container that a loop runs over. -/
def contents (subject : String) (sampling : Sampling) (method suffix : String) : String :=
  let sampled (count : Nat) :=
    registryName ++ "." ++ method ++ "(" ++ subject ++ ", " ++ randomName ++ ", " ++
      toString count ++ ")"
  match sampling with
  | .full => subject ++ suffix
  | .one => sampled 1
  | .count number => sampled number

/-- The call of a validator. -/
def validation (subject : String) (validator : Validator) : String :=
  lookupCode validator.text ++ "(" ++ subject ++ ")"

/-- The test of a container and of its contents. -/
def loop (level : Nat) (subject container names : String) (conditions : List String)
    (contents : String) : String :=
  let inner := indentation (level + 1)
  let inmost := indentation (level + 2)
  "(\n" ++ inner ++ "isinstance(" ++ subject ++ ", " ++ container ++ ") and\n" ++
    inner ++ "all(\n" ++
    " and\n".intercalate (conditions.map fun condition => inmost ++ condition) ++ "\n" ++
    inmost ++ "for " ++ names ++ " in " ++ contents ++ "\n" ++ inner ++ ")\n" ++
    indentation level ++ ")"

end Direct

open Direct

mutual
/-- The text of a check of the subject at a level of indentation, where `first` is the first number
that is free for the names of loops. -/
def Check.written (naming : Nat → String) : Check → String → Nat → Nat → String
  | .always, _, _, _ => "True"
  | .isNull, subject, _, _ => subject ++ " is None"
  | .instanceOf classes, subject, _, _ => instanceTest subject (classNames classes)
  | .classObject none, subject, _, _ => "isinstance(" ++ subject ++ ", type)"
  | .classObject (some base), subject, _, _ =>
    "(isinstance(" ++ subject ++ ", type) and issubclass(" ++ subject ++ ", " ++ base.code ++ "))"
  | .structural protocol, subject, _, _ => instanceTest subject (lookupCode protocol.name)
  | .oneOf values, subject, _, _ => literalTests subject values
  | .anyOf parts, subject, first, level =>
    bracketed level "or" (parts.written naming (fun _ => subject) first (level + 1))
  | .eachItem container item sampling, subject, first, level =>
    loop level subject container.code (naming first)
      [item.written naming (naming first) (first + 1) (level + 2)]
      (contents subject sampling "sample" "")
  | .eachEntry sides sampling, subject, first, level =>
    loop level subject "dict" (naming first ++ ", " ++ naming (first + 1))
      (sides.written naming (fun slot => naming (first + slot)) (first + 2) (level + 2))
      (contents subject sampling "sample_items" ".items()")
  | .tupleOf size items, subject, first, level =>
    bracketed level "and" (("isinstance(" ++ subject ++ ", tuple)") ::
      ("len(" ++ subject ++ ") == " ++ toString size) ::
      items.written naming (fun slot => subject ++ "[" ++ toString slot ++ "]") first (level + 1))
  | .validated inner validators, subject, first, level =>
    bracketed level "and"
      ((if inner.isAlways then [] else [inner.written naming subject first (level + 1)]) ++
        validators.map (validation subject))
  | .deferred reference _, subject, _, _ =>
    registryName ++ ".check_forward_ref(" ++ Text.quotedWithoutBraces reference.name ++ ", " ++
      subject ++ ", " ++ randomName ++ ")"

/-- The texts of parts, each about the value that its slot stands for and with numbers past those of
the parts before it. -/
def Parts.written (naming : Nat → String) : Parts → (Nat → String) → Nat → Nat → List String
  | .nil, _, _, _ => []
  | .cons slot check rest, subjects, first, level =>
    check.written naming (subjects slot) first level ::
      rest.written naming subjects (first + check.locals) level
end

/-! ### Pieces of scripts -/

namespace Script

variable {value : List Char} {naming : Nat → List Char}

@[simp] theorem print_tested (value : List Char) (naming : Nat → List Char) :
    tested.print value naming = value := append_nil _

@[simp] theorem print_bound (value : List Char) (naming : Nat → List Char) (number : Nat) :
    (bound number).print value naming = naming number := append_nil _

theorem print_line (value : List Char) (naming : Nat → List Char) (level : Nat) (rest : Script) :
    (line level rest).print value naming =
      '\n' :: ((indentation level).toList ++ rest.print value naming) := by
  rw [indentation, String.toList_ofList]
  rfl

theorem print_isInstance (value : List Char) (naming : Nat → List Char)
    (subject described : Script) :
    (isInstance subject described).print value naming = "isinstance(".toList ++
      (subject.print value naming ++ ", ".toList ++ described.print value naming ++ [')']) := by
  simp [isInstance]

theorem print_instanceTest {subject described : Script} {text name : String}
    (tests : subject.print value naming = text.toList)
    (describes : described.print value naming = name.toList) :
    (isInstance subject described).print value naming = (instanceTest text name).toList := by
  rw [print_isInstance, tests, describes, instanceTest]
  simp only [String.toList_append, String.reduceToList, cons_append, nil_append]

variable {terms : List Script} {texts : List String}

theorem print_indented (level : Nat)
    (same : terms.map (print value naming) = texts.map String.toList) :
    (terms.map fun term => (indentation level).toList ++ term.print value naming) =
      (texts.map fun text => indentation level ++ text).map String.toList :=
  calc (terms.map fun term => (indentation level).toList ++ term.print value naming)
    _ = (terms.map (print value naming)).map ((indentation level).toList ++ ·) := by
      rw [map_map]
      rfl
    _ = (texts.map fun text => indentation level ++ text).map String.toList := by
      rw [same, map_map, map_map]
      exact map_congr_left fun text _ => String.toList_append.symm

theorem print_bracketed (level : Nat) (connective : String)
    (same : terms.map (print value naming) = texts.map String.toList) :
    (Script.bracketed level connective terms).print value naming =
      (CallGuard.bracketed level connective texts).toList := by
  rw [Script.bracketed, print_group, print_append, print_conditions, print_line,
    print_indented (level + 1) same, CallGuard.bracketed]
  simp [Bracket.opening, Bracket.closing, print]

/-- A loop is written as such if its pieces are. -/
theorem print_loop (level : Nat) {subject container names contents : Script}
    {text containerText namesText contentsText : String}
    (tests : subject.print value naming = text.toList)
    (described : container.print value naming = containerText.toList)
    (named : names.print value naming = namesText.toList)
    (same : terms.map (print value naming) = texts.map String.toList)
    (run : contents.print value naming = contentsText.toList) :
    (Script.loop level subject container names terms contents).print value naming =
      (Direct.loop level text containerText namesText texts contentsText).toList := by
  have ended : (done : Script).print value naming = [] := rfl
  simp only [Script.loop, print_group, print_append, print_call, print_line, print_isInstance,
    tests, described, print_conditions, print_indented _ same, print_word, print_mark, named, run,
    ended]
  delta Direct.loop
  simp only [String.toList_append, String.toList_intercalate, Bracket.opening, Bracket.closing,
    String.reduceToList, List.cons_append, List.nil_append, List.append_assoc, List.append_nil]

end Script

section

variable {value : List Char} {naming : Nat → List Char}

theorem Class.print_scriptOf (classes : List Class) :
    (scriptOf classes).print value naming = (classNames classes).toList := by
  rcases classes with _ | ⟨only, _ | ⟨second, rest⟩⟩
  · rfl
  · exact only.print_script _ _
  · have same : ((only :: second :: rest).map Class.script).map (print value naming) =
        ((only :: second :: rest).map Class.code).map String.toList := by
      rw [map_map, map_map]
      exact map_congr_left fun c _ => c.print_script _ _
    refine (Value.print_enclosed .round same).trans ?_
    show _ = (Value.enclosed "(" ")" ((only :: second :: rest).map Class.code)).toList
    rw [Value.enclosed]
    simp only [String.toList_append, String.reduceToList, Bracket.opening, Bracket.closing,
      cons_append, nil_append]

variable {subject : Script} {text : String}

namespace Value

theorem print_literalScript (tests : subject.print value naming = text.toList) (literal : Value) :
    (literalScript subject literal).print value naming = (literalTest text literal).toList := by
  simp only [literalScript, literalTest, print_group, print_append, tests, print_mark, print_word,
    print_isInstance, print_script, Class.print_script, String.toList_append, String.reduceToList,
    Bracket.opening, Bracket.closing, List.cons_append, List.nil_append, List.append_assoc]

theorem print_alternatives (terms : List Script) :
    (alternatives terms).print value naming =
      " or ".toList.intercalate (terms.map (print value naming)) := by
  induction terms with
  | nil => rfl
  | cons first rest ih =>
    cases rest with
    | nil => simp [alternatives]
    | cons second rest =>
      rw [alternatives, print_append, ih]
      simp only [map_cons]
      rw [intercalate_cons_cons]
      simp

theorem print_literalsScript (tests : subject.print value naming = text.toList)
    (literals : List Value) :
    (literalsScript subject literals).print value naming = (literalTests text literals).toList := by
  have same : (literals.map (literalScript subject)).map (print value naming) =
      (literals.map (literalTest text)).map String.toList := by
    rw [map_map, map_map]
    exact map_congr_left fun literal _ => print_literalScript tests literal
  rcases literals with _ | ⟨only, _ | ⟨second, rest⟩⟩
  · show ['(', ')'] = ("(" ++ " or ".intercalate [] ++ ")").toList
    rfl
  · exact print_literalScript tests only
  · show '(' :: ((alternatives ((only :: second :: rest).map (literalScript subject))).print
      value naming ++ [')']) =
        ("(" ++ " or ".intercalate ((only :: second :: rest).map (literalTest text)) ++ ")").toList
    rw [print_alternatives, same, String.toList_append, String.toList_append,
      String.toList_intercalate]
    rfl

end Value

theorem Sampling.print_script (tests : subject.print value naming = text.toList)
    (sampling : Sampling) (method : String) {suffix : Script} {suffixText : String}
    (written : suffix.print value naming = suffixText.toList) :
    (sampling.script subject method suffix).print value naming =
      (contents text sampling method suffixText).toList := by
  cases sampling <;>
    simp only [script, contents, print_append, tests, print_word, print_mark, print_call,
      print_numeral, written, String.toList_append, String.reduceToList, List.cons_append,
      List.nil_append, List.append_assoc]

theorem Validator.print_script (tests : subject.print value naming = text.toList)
    (validator : Validator) :
    (validator.script subject).print value naming = (validation text validator).toList := by
  simp only [script, validation, print_append, print_lookup, print_group, tests,
    String.toList_append, String.reduceToList, Bracket.opening, Bracket.closing, List.cons_append,
    List.nil_append, List.append_assoc]

theorem Validator.print_scripts (tests : subject.print value naming = text.toList)
    (validators : List Validator) :
    (validators.map (Validator.script subject)).map (print value naming) =
      (validators.map (validation text)).map String.toList := by
  rw [map_map, map_map]
  exact map_congr_left fun validator _ => validator.print_script tests

end

/-! ### Scripts of checks -/

/-- Names for what loops bind, as lists of characters. -/
def lettered (naming : Nat → String) (number : Nat) : List Char := (naming number).toList

variable {value : List Char} {naming : Nat → String}

mutual
/-- Printing the script of a check is to write the check directly. -/
theorem Check.print_script : ∀ (check : Check) {subject : Script} {text : String},
    subject.print value (lettered naming) = text.toList → ∀ first level,
      (check.script subject first level).print value (lettered naming) =
        (check.written naming text first level).toList
  | .always, _, _, _, _, _ => print_word _
  | .isNull, subject, text, tests, _, _ => by
    show (subject ++ mark " " ++ word "is" ++ mark " " ++ word "None").print value _ =
      (text ++ " is None").toList
    simp only [print_append, tests, print_mark, print_word, String.toList_append,
      String.reduceToList, List.append_assoc, List.cons_append, List.nil_append]
  | .instanceOf classes, _, _, tests, _, _ => print_instanceTest tests (Class.print_scriptOf classes)
  | .classObject none, subject, text, tests, _, _ => by
    show (isInstance subject (word "type")).print value _ =
      ("isinstance(" ++ text ++ ", type)").toList
    simp only [print_isInstance, tests, print_word, String.toList_append, String.reduceToList,
      List.append_assoc, List.cons_append, List.nil_append]
  | .classObject (some base), subject, text, tests, _, _ => by
    show (group .round (isInstance subject (word "type") ++ mark " " ++ word "and" ++ mark " " ++
        call "issubclass" (subject ++ mark ", " ++ base.script)) done).print value _ =
      ("(isinstance(" ++ text ++ ", type) and issubclass(" ++ text ++ ", " ++ base.code ++
        "))").toList
    simp only [print_group, print_append, print_isInstance, print_call, tests, print_mark,
      print_word, Class.print_script, Bracket.opening, Bracket.closing, String.toList_append,
      String.reduceToList, List.append_assoc, List.cons_append, List.nil_append]
  | .structural protocol, _, _, tests, _, _ => print_instanceTest tests (print_lookup protocol.name)
  | .oneOf values, _, _, tests, _, _ => Value.print_literalsScript tests values
  | .anyOf parts, _, _, tests, first, level =>
    print_bracketed level "or" (Parts.print_scripts parts (fun _ => tests) first (level + 1))
  | .eachItem container item sampling, _, _, tests, first, level => by
    have named : (bound first).print value (lettered naming) = (naming first).toList :=
      print_bound _ _ first
    have inside := Check.print_script item named (first + 1) (level + 2)
    exact print_loop level tests (container.print_script _ _) named
      (congrArg (fun text => [text]) inside) (sampling.print_script tests "sample" rfl)
  | .eachEntry sides sampling, _, _, tests, first, level => by
    have named (slot : Nat) : (bound (first + slot)).print value (lettered naming) =
        (naming (first + slot)).toList := print_bound _ _ _
    have both : (bound first ++ mark ", " ++ bound (first + 1)).print value (lettered naming) =
        (naming first ++ ", " ++ naming (first + 1)).toList := by
      simp [lettered]
    have entries : (mark "." ++ call "items" done).print value (lettered naming) =
        ".items()".toList := by
      rw [print_append, print_mark, print_call]
      rfl
    exact print_loop level tests (print_word _) both
      (Parts.print_scripts sides named (first + 2) (level + 2))
      (sampling.print_script tests "sample_items" entries)
  | .tupleOf size items, subject, text, tests, first, level => by
    have tuple : (isInstance subject (word "tuple")).print value (lettered naming) =
        ("isinstance(" ++ text ++ ", tuple)").toList := by
      simp [print_isInstance, tests]
    have counted : (call "len" subject ++ mark " == " ++ numeral size).print value
        (lettered naming) = ("len(" ++ text ++ ") == " ++ toString size).toList := by
      simp [tests]
    have named (slot : Nat) : (subject ++ group .square (numeral slot) done).print value
        (lettered naming) = (text ++ "[" ++ toString slot ++ "]").toList := by
      simp [tests, Bracket.opening, Bracket.closing]
    exact print_bracketed level "and" (congrArg₂ _ tuple (congrArg₂ _ counted
      (Parts.print_scripts items named first (level + 1))))
  | .validated inner validators, _, _, tests, first, level => by
    have inside := Check.print_script inner tests first (level + 1)
    refine print_bracketed level "and" ?_
    rw [map_append, map_append]
    refine congrArg₂ _ ?_ (Validator.print_scripts tests validators)
    split
    · rfl
    · exact congrArg (fun text => [text]) inside
  | .deferred reference _, subject, text, tests, _, _ => by
    show (word registryName ++ mark "." ++ call "check_forward_ref" (quoted reference.name ++
        mark ", " ++ subject ++ mark ", " ++ word randomName)).print value _ =
      (registryName ++ ".check_forward_ref(" ++ Text.quotedWithoutBraces reference.name ++ ", " ++
        text ++ ", " ++ randomName ++ ")").toList
    simp only [print_append, print_call, tests, print_mark, print_word, print_quoted,
      String.toList_append, String.reduceToList, List.append_assoc, List.cons_append,
      List.nil_append]

theorem Parts.print_scripts : ∀ (parts : Parts) {subjects : Nat → Script} {texts : Nat → String},
    (∀ slot, (subjects slot).print value (lettered naming) = (texts slot).toList) →
      ∀ first level, (parts.scripts subjects first level).map (print value (lettered naming)) =
        (parts.written naming texts first level).map String.toList
  | .nil, _, _, _, _, _ => rfl
  | .cons slot check rest, _, _, named, first, level =>
    congrArg₂ cons (Check.print_script check (named slot) first level)
      (Parts.print_scripts rest named (first + check.locals) level)
end

end CallGuard
