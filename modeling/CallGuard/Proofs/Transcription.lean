/-
The scripts of checks. The script of a check follows its text: what is tested is
named by a subject, and the names that loops bind are numbered from a given
number on, so that the parts of a check bind different names. Written with
markers, the script is the text of the check; in a guard, where names stand in
place of the markers, it is the script of the check of the argument, with names
numbered from the first free one on.
-/
import CallGuard.Proofs.Script

namespace CallGuard

namespace Script

def word (text : String) : Script := piece (.word text) done

def mark (text : String) : Script := piece (.mark text) done

def numeral (number : Nat) : Script := piece (.numeral (Nat.toDigits 10 number)) done

def quoted (text : String) : Script :=
  piece (.quote (text.toList.flatMap Text.escapedWithoutBraces)) done

/-- The value under test. -/
def tested : Script := piece .value done

def bound (number : Nat) : Script := piece (.bound number) done

/-- The look-up of a name. -/
def lookup (name : String) : Script := word registryName ++ group .square (quoted name) done

/-- The call of a function. -/
def call (function : String) (inner : Script) : Script := word function ++ group .round inner done

/-- Scripts with commas between them. -/
def series : List Script → Script
  | [] => done
  | [only] => only
  | first :: second :: rest => first ++ mark ", " ++ series (second :: rest)

/-- Conditions on lines of their own; where there are none, an empty line stands. -/
def conditions (level : Nat) (connective : String) : List Script → Script
  | [] => line 0 done
  | [only] => line level only
  | first :: second :: rest =>
    line level (first ++ mark " " ++ word connective) ++
      conditions level connective (second :: rest)

/-- Conditions between brackets. -/
def bracketed (level : Nat) (connective : String) (terms : List Script) : Script :=
  group .round (conditions (level + 1) connective terms ++ line level done) done

/-- The test for an instance. -/
def isInstance (subject described : Script) : Script :=
  call "isinstance" (subject ++ mark ", " ++ described)

/-- The test of a container and of its contents. -/
def loop (level : Nat) (subject container names : Script) (terms : List Script)
    (contents : Script) : Script :=
  group .round
    (line (level + 1) (isInstance subject container ++ mark " " ++ word "and") ++
      line (level + 1) (call "all"
        (conditions (level + 2) "and" terms ++
          line (level + 2) (word "for" ++ mark " " ++ names ++ mark " " ++ word "in" ++ mark " " ++
            contents) ++
          line (level + 1) done)) ++
      line level done) done

end Script

open Script

def Class.script (c : Class) : Script :=
  if c.home = builtinHome then word c.name else lookup c.qualname

namespace Value

def floatScript (x : Binary64) : Script :=
  if x.isNaN then call "float" (quoted "nan")
  else if x.isInfinite then call "float" (quoted (if x.isNegative then "-inf" else "inf"))
  else piece (.numeral (floatText x).toList) done

def tupleScript : List Script → Script
  | [item] => group .round (item ++ mark ",") done
  | items => group .round (series items) done

def setScript : List Script → Script
  | [] => call "set" done
  | items => group .curly (series items) done

mutual
/-- The script of a value. -/
def script : Value → Script
  | str _ text => quoted text
  | bytes _ data => word "b" ++ piece (.quote (data.flatMap byteCode)) done
  | float number => floatScript number
  | list _ items => group .square (series (scripts items)) done
  | tuple _ items => tupleScript (scripts items)
  | set _ items => setScript (scripts items)
  | frozenset _ items => call "frozenset" (group .curly (series (scripts items)) done)
  | dict _ entries => group .curly (series (entryScripts entries)) done
  | classObject described => described.script
  | object identity kind => lookup (text (object identity kind))
  | null => word "None"
  | bool truth => word (if truth then "True" else "False")
  | int number => piece (.numeral (toString number).toList) done
  | complex real imaginary =>
    group .round (piece (.numeral (complexWord real imaginary)) done) done

def scripts : List Value → List Script
  | [] => []
  | value :: rest => script value :: scripts rest

def entryScripts : List (Value × Value) → List Script
  | [] => []
  | (key, value) :: rest => (script key ++ mark ": " ++ script value) :: entryScripts rest
end

/-- The test for one literal value. -/
def literalScript (subject : Script) (value : Value) : Script :=
  group .round (subject ++ mark " == " ++ value.script ++ mark " " ++ word "and" ++ mark " " ++
    subject.isInstance value.kind.script) done

/-- Alternatives on one line. -/
def alternatives : List Script → Script
  | [] => done
  | [only] => only
  | first :: second :: rest =>
    first ++ mark " " ++ word "or" ++ mark " " ++ alternatives (second :: rest)

/-- The test for one of several literal values. -/
def literalsScript (subject : Script) (values : List Value) : Script :=
  match values.map (literalScript subject) with
  | [term] => term
  | terms => group .round (alternatives terms) done

end Value

/-- The classes of a test for an instance. -/
def Class.scriptOf (classes : List Class) : Script :=
  match classes.map Class.script with
  | [name] => name
  | names => group .round (series names) done

/-- The part of a container that a loop runs over. -/
def Sampling.script (sampling : Sampling) (subject : Script) (method : String) (suffix : Script) :
    Script :=
  let sampled (count : Nat) :=
    word registryName ++ mark "." ++ call method
      (subject ++ mark ", " ++ word randomName ++ mark ", " ++ numeral count)
  match sampling with
  | .full => subject ++ suffix
  | .one => sampled 1
  | .count number => sampled number

def Validator.script (subject : Script) (validator : Validator) : Script :=
  lookup validator.text ++ group .round subject done

mutual
/-- The script of a check of the subject, with names numbered from `first` on. -/
def Check.script : Check → Script → Nat → Nat → Script
  | .always, _, _, _ => word "True"
  | .isNull, subject, _, _ => subject ++ mark " " ++ word "is" ++ mark " " ++ word "None"
  | .instanceOf classes, subject, _, _ => isInstance subject (Class.scriptOf classes)
  | .classObject none, subject, _, _ => isInstance subject (word "type")
  | .classObject (some base), subject, _, _ =>
    group .round (isInstance subject (word "type") ++ mark " " ++ word "and" ++ mark " " ++
      call "issubclass" (subject ++ mark ", " ++ base.script)) done
  | .structural protocol, subject, _, _ => isInstance subject (lookup protocol.name)
  | .oneOf values, subject, _, _ => Value.literalsScript subject values
  | .anyOf parts, subject, first, level =>
    Script.bracketed level "or" (parts.scripts (fun _ => subject) first (level + 1))
  | .eachItem container item sampling, subject, first, level =>
    loop level subject container.script (bound first)
      [item.script (bound first) (first + 1) (level + 2)] (sampling.script subject "sample" done)
  | .eachEntry sides sampling, subject, first, level =>
    loop level subject (word "dict") (bound first ++ mark ", " ++ bound (first + 1))
      (sides.scripts (fun slot => bound (first + slot)) (first + 2) (level + 2))
      (sampling.script subject "sample_items" (mark "." ++ call "items" done))
  | .tupleOf size items, subject, first, level =>
    Script.bracketed level "and" (isInstance subject (word "tuple") ::
      (call "len" subject ++ mark " == " ++ numeral size) ::
      items.scripts (fun slot => subject ++ group .square (numeral slot) done) first (level + 1))
  | .validated inner validators, subject, first, level =>
    Script.bracketed level "and" ((if inner.isAlways then [] else [inner.script subject first (level + 1)]) ++
      validators.map (Validator.script subject))
  | .deferred reference _, subject, _, _ =>
    word registryName ++ mark "." ++ call "check_forward_ref"
      (quoted reference.name ++ mark ", " ++ subject ++ mark ", " ++ word randomName)

def Parts.scripts : Parts → (Nat → Script) → Nat → Nat → List Script
  | .nil, _, _, _ => []
  | .cons slot check rest, subjects, first, level =>
    check.script (subjects slot) first level ::
      rest.scripts subjects (first + check.locals) level
end

/-! ### The texts of scripts -/

namespace Script

variable {value : List Char} {naming : Nat → List Char}

@[simp] theorem print_word (text : String) : (word text).print value naming = text.toList :=
  List.append_nil _

@[simp] theorem print_mark (text : String) : (mark text).print value naming = text.toList :=
  List.append_nil _

@[simp] theorem print_numeral (number : Nat) :
    (numeral number).print value naming = (toString number).toList :=
  (List.append_nil _).trans Nat.toList_repr.symm

@[simp] theorem print_quoted (text : String) :
    (quoted text).print value naming = (Text.quotedWithoutBraces text).toList := by
  rw [Text.quotedWithoutBraces, String.toList_ofList]
  exact List.append_nil _

@[simp] theorem print_group (bracket : Bracket) (inner : Script) :
    (group bracket inner done).print value naming =
      bracket.opening :: (inner.print value naming ++ [bracket.closing]) := rfl

@[simp] theorem print_lookup (name : String) :
    (lookup name).print value naming = (lookupCode name).toList := by
  simp [lookup, lookupCode, Bracket.opening, Bracket.closing]

@[simp] theorem print_call (function : String) (inner : Script) :
    (call function inner).print value naming =
      function.toList ++ '(' :: (inner.print value naming ++ [')']) := by
  simp [call, Bracket.opening, Bracket.closing]

theorem print_series (scripts : List Script) : (series scripts).print value naming =
    [',', ' '].intercalate (scripts.map (print value naming)) := by
  induction scripts with
  | nil => rfl
  | cons first rest ih =>
    cases rest with
    | nil => simp [series]
    | cons second rest =>
      rw [series, print_append, print_append, ih, List.map_cons, List.map_cons,
        List.map_cons, List.intercalate_cons_cons, print_mark]
      rfl

theorem print_conditions (level : Nat) (connective : String) (terms : List Script) :
    (conditions level connective terms).print value naming =
      '\n' :: (' ' :: connective.toList ++ ['\n']).intercalate
        (terms.map fun term => (indentation level).toList ++ term.print value naming) := by
  have indents : (indentation level).toList = List.replicate (4 * level) ' ' :=
    String.toList_ofList
  induction terms with
  | nil => rfl
  | cons first rest ih =>
    cases rest with
    | nil => simp [conditions, print, indents]
    | cons second rest =>
      rw [conditions, print_append, ih]
      simp only [List.map_cons]
      rw [List.intercalate_cons_cons]
      simp [print, indents]

end Script

@[simp] theorem Class.print_script (value : List Char) (naming : Nat → List Char) (c : Class) :
    c.script.print value naming = c.code.toList := by
  unfold script code
  split <;> simp

namespace Value

variable {value : List Char} {naming : Nat → List Char}

theorem print_floatScript (x : Binary64) :
    (floatScript x).print value naming = (floatCode x).toList := by
  unfold floatScript floatCode
  split
  · rw [print_call, print_quoted]
    decide
  · split
    · rw [print_call, print_quoted]
      split <;> decide
    · exact List.append_nil _

variable {texts : List String}

theorem print_enclosed (bracket : Bracket) {scripts : List Script}
    (same : scripts.map (print value naming) = texts.map String.toList) :
    (group bracket (series scripts) done).print value naming =
      bracket.opening :: ((", ".intercalate texts).toList ++ [bracket.closing]) := by
  rw [print_group, print_series, same, String.toList_intercalate]
  rfl

theorem print_tupleScript {scripts : List Script}
    (same : scripts.map (print value naming) = texts.map String.toList) :
    (tupleScript scripts).print value naming = (tupleText texts).toList := by
  unfold tupleScript tupleText
  split
  · rename_i item
    obtain ⟨text, rfl, printed⟩ := List.map_eq_singleton_iff.mp same.symm
    simp [printed, Bracket.opening, Bracket.closing]
  · rename_i other
    split
    · rename_i text
      obtain ⟨item, rfl, -⟩ := List.map_eq_singleton_iff.mp same
      exact absurd rfl (other item)
    · rw [print_enclosed .round same, enclosed]
      simp [Bracket.opening, Bracket.closing]

theorem print_setScript {scripts : List Script}
    (same : scripts.map (print value naming) = texts.map String.toList) :
    (setScript scripts).print value naming = (setText texts).toList := by
  unfold setScript setText
  split
  · rw [List.map_eq_nil_iff.mp same.symm, print_call]
    rfl
  · rename_i other
    split
    · exact absurd (List.map_eq_nil_iff.mp same) other
    · rw [print_enclosed .curly same, enclosed]
      simp [Bracket.opening, Bracket.closing]

mutual
theorem print_script : ∀ given : Value, given.script.print value naming = given.code.toList
  | str _ text => print_quoted text
  | bytes _ data => by simp [script, code, print, Piece.print]
  | float number => print_floatScript number
  | list _ items => by
    rw [script, code, print_enclosed .square (print_scripts items), enclosed]
    simp [Bracket.opening, Bracket.closing]
  | tuple _ items => print_tupleScript (print_scripts items)
  | set _ items => print_setScript (print_scripts items)
  | frozenset _ items => by
    rw [script, code, print_call, print_enclosed .curly (print_scripts items), enclosed]
    simp [Bracket.opening, Bracket.closing]
  | dict _ entries => by
    rw [script, code, print_enclosed .curly (print_entryScripts entries), enclosed]
    simp [Bracket.opening, Bracket.closing]
  | classObject described => described.print_script value naming
  | object identity kind => print_lookup _
  | null => print_word _
  | bool truth => by
    rw [script, code, text, print_word]
  | int number => List.append_nil _
  | complex real imaginary => by
    rw [script, code, text, complexText, print_group]
    simp [print, Piece.print, complexWord, Bracket.opening, Bracket.closing]

theorem print_scripts : ∀ items : List Value,
    (scripts items).map (print value naming) = (codes items).map String.toList
  | [] => rfl
  | first :: rest => by
    rw [scripts, codes, List.map_cons, List.map_cons, print_script first, print_scripts rest]

theorem print_entryScripts : ∀ entries : List (Value × Value),
    (entryScripts entries).map (print value naming) = (entryCodes entries).map String.toList
  | [] => rfl
  | (key, content) :: rest => by
    rw [entryScripts, entryCodes, List.map_cons, List.map_cons, print_entryScripts rest]
    simp [print_script key, print_script content]
end

end Value

end CallGuard
