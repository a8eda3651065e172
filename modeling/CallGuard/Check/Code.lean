/-
The text of a check as an expression. The value under test is the value marker,
and names that the expression binds are numbered markers. The text of a part is
put into that of the whole by moving its markers past those taken so far and
putting the part's own value in place of the value marker. Whatever is not a
built-in class is looked up by name; the names are collected beside the text.
-/
import CallGuard.Check
import CallGuard.Text.Marker

namespace CallGuard

/-! ### Names and indentation -/

/-- The name under which generated code finds everything it looks up. -/
def registryName : String := "__hc_registry"

/-- The name of the integer drawn for the call. -/
def randomName : String := "__hc_random_int"

/-- The look-up of a name. -/
def lookupCode (name : String) : String :=
  registryName ++ "[" ++ Text.quotedWithoutBraces name ++ "]"

/-- Indentation by a number of levels. -/
def indentation (level : Nat) : String := String.ofList (List.replicate (4 * level) ' ')

namespace Class

/-- How generated code names a class. -/
def code (c : Class) : String := if c.home = builtinHome then c.name else lookupCode c.qualname

/-- The names that are looked up for a class. -/
def lookups (c : Class) : List String := if c.home = builtinHome then [] else [c.qualname]

end Class

/-! ### Literal values -/

namespace Value

/-- A byte inside a byte string, braces given by number. -/
def byteCode (byte : UInt8) : List Char :=
  if byte = 123 ∨ byte = 125 then '\\' :: 'x' :: Text.hexByte byte.toNat else byteText byte

/-- A float as an expression. -/
def floatCode (x : Binary64) : String :=
  if x.isNaN then "float('nan')"
  else if x.isInfinite then if x.isNegative then "float('-inf')" else "float('inf')"
  else floatText x

mutual
/-- A value as an expression. -/
def code : Value → String
  | str _ text => Text.quotedWithoutBraces text
  | bytes _ data => String.ofList ('b' :: '\'' :: data.flatMap byteCode ++ ['\''])
  | float number => floatCode number
  | list _ items => enclosed "[" "]" (codes items)
  | tuple _ items => tupleText (codes items)
  | set _ items => setText (codes items)
  | frozenset _ items => enclosed "frozenset(\x7b" "\x7d)" (codes items)
  | dict _ entries => enclosed "\x7b" "\x7d" (entryCodes entries)
  | classObject described => described.code
  | object identity kind => lookupCode (text (object identity kind))
  | null => text null
  | bool truth => text (bool truth)
  | int number => text (int number)
  | complex real imaginary => text (complex real imaginary)

/-- The items of a container as expressions. -/
def codes : List Value → List String
  | [] => []
  | value :: rest => code value :: codes rest

/-- The entries of a dictionary as pairs of expressions. -/
def entryCodes : List (Value × Value) → List String
  | [] => []
  | (key, value) :: rest => (code key ++ ": " ++ code value) :: entryCodes rest
end

mutual
/-- The names that are looked up for a value. -/
def lookups : Value → List String
  | list _ items | tuple _ items | set _ items | frozenset _ items => lookupsIn items
  | dict _ entries => lookupsInEntries entries
  | classObject described => described.lookups
  | object identity kind => [text (object identity kind)]
  | _ => []

/-- The names that are looked up for the items of a container. -/
def lookupsIn : List Value → List String
  | [] => []
  | value :: rest => lookups value ++ lookupsIn rest

/-- The names that are looked up for the entries of a dictionary. -/
def lookupsInEntries : List (Value × Value) → List String
  | [] => []
  | (key, value) :: rest => lookups key ++ lookups value ++ lookupsInEntries rest
end

end Value

/-! ### Expressions -/

/-- An expression put into a larger one that has bound `taken` names so far. -/
def embedCode (taken : Nat) (value code : String) : String :=
  Text.fillValue value (Text.shiftMarkers taken code)

/-- Conditions in lines of their own, between brackets. -/
def bracketed (level : Nat) (connective : String) (conditions : List String) : String :=
  "(\n" ++ (" " ++ connective ++ "\n").intercalate
      (conditions.map fun condition => indentation (level + 1) ++ condition) ++
    "\n" ++ indentation level ++ ")"

/-- The test for an instance of one of the classes. -/
def instanceCode (classes : List Class) : String :=
  let names := classes.map Class.code
  let described := match names with
    | [name] => name
    | names => Value.enclosed "(" ")" names
  "isinstance(" ++ Text.valueMarker ++ ", " ++ described ++ ")"

/-- The test for one literal value. -/
def literalCode (value : Value) : String :=
  "(" ++ Text.valueMarker ++ " == " ++ value.code ++ " and isinstance(" ++ Text.valueMarker ++
    ", " ++ value.kind.code ++ "))"

/-- The test for one of several literal values. -/
def literalsCode (values : List Value) : String :=
  match values.map literalCode with
  | [term] => term
  | terms => "(" ++ " or ".intercalate terms ++ ")"

/-- The call of a validator. -/
def validatorCode (validator : Validator) : String :=
  lookupCode validator.text ++ "(" ++ Text.valueMarker ++ ")"

/-- The part of a container that a loop runs over: items, or entries by the given suffix. -/
def Sampling.code (sampling : Sampling) (method suffix : String) : String :=
  let sampled (count : Nat) :=
    registryName ++ "." ++ method ++ "(" ++ Text.valueMarker ++ ", " ++ randomName ++ ", " ++
      toString count ++ ")"
  match sampling with
  | .full => Text.valueMarker ++ suffix
  | .one => sampled 1
  | .count number => sampled number

/-- The test of a container of the given class and of its contents, which a loop binds to names. -/
def loopCode (level : Nat) (container names : String) (conditions : List String)
    (contents : String) : String :=
  let inner := indentation (level + 1)
  let inmost := indentation (level + 2)
  "(\n" ++ inner ++ "isinstance(" ++ Text.valueMarker ++ ", " ++ container ++ ") and\n" ++
    inner ++ "all(\n" ++
    " and\n".intercalate (conditions.map fun condition => inmost ++ condition) ++ "\n" ++
    inmost ++ "for " ++ names ++ " in " ++ contents ++ "\n" ++ inner ++ ")\n" ++
    indentation level ++ ")"

mutual
/-- The number of names that an expression binds. -/
def Check.locals : Check → Nat
  | .anyOf parts => parts.locals
  | .eachItem _ item _ => 1 + item.locals
  | .eachEntry sides _ => 2 + sides.locals
  | .tupleOf _ items => items.locals
  | .validated inner _ => inner.locals
  | _ => 0

/-- The number of names that the parts bind together. -/
def Parts.locals : Parts → Nat
  | .nil => 0
  | .cons _ check rest => check.locals + rest.locals
end

mutual
/-- The expression of a check, indented by a number of levels. -/
def Check.code : Check → Nat → String
  | .always, _ => "True"
  | .isNull, _ => Text.valueMarker ++ " is None"
  | .instanceOf classes, _ => instanceCode classes
  | .classObject none, _ => "isinstance(" ++ Text.valueMarker ++ ", type)"
  | .classObject (some base), _ =>
    "(isinstance(" ++ Text.valueMarker ++ ", type) and issubclass(" ++ Text.valueMarker ++ ", " ++
      base.code ++ "))"
  | .structural protocol, _ =>
    "isinstance(" ++ Text.valueMarker ++ ", " ++ lookupCode protocol.name ++ ")"
  | .oneOf values, _ => literalsCode values
  | .anyOf parts, level =>
    bracketed level "or" (parts.codes (level + 1) 0 fun _ => Text.valueMarker)
  | .eachItem container item sampling, level =>
    loopCode level container.code (Text.marker 0)
      [embedCode 1 (Text.marker 0) (item.code (level + 2))] (sampling.code "sample" "")
  | .eachEntry sides sampling, level =>
    loopCode level "dict" (Text.marker 0 ++ ", " ++ Text.marker 1)
      (sides.codes (level + 2) 2 Text.marker) (sampling.code "sample_items" ".items()")
  | .tupleOf size items, level =>
    bracketed level "and"
      (("isinstance(" ++ Text.valueMarker ++ ", tuple)") ::
        ("len(" ++ Text.valueMarker ++ ") == " ++ toString size) ::
        items.codes (level + 1) 0 fun slot => Text.valueMarker ++ "[" ++ toString slot ++ "]")
  | .validated inner validators, level =>
    bracketed level "and"
      ((if inner.isAlways then []
        else [embedCode 0 Text.valueMarker (inner.code (level + 1))]) ++
        validators.map validatorCode)
  | .deferred reference _, _ =>
    registryName ++ ".check_forward_ref(" ++ Text.quotedWithoutBraces reference.name ++ ", " ++
      Text.valueMarker ++ ", " ++ randomName ++ ")"

/-- The expressions of parts in a larger one that has bound `taken` names so far, each about the
value that its slot stands for. -/
def Parts.codes : Parts → Nat → Nat → (Nat → String) → List String
  | .nil, _, _, _ => []
  | .cons slot check rest, level, taken, value =>
    embedCode taken (value slot) (check.code level) ::
      rest.codes level (taken + check.locals) value
end

mutual
/-- Whether an expression uses the integer drawn for the call. -/
def Check.needsRandom : Check → Bool
  | .anyOf parts => parts.needsRandom
  | .eachItem _ item sampling => item.needsRandom || sampling.isRandom
  | .eachEntry sides sampling => sides.needsRandom || sampling.isRandom
  | .tupleOf _ items => items.needsRandom
  | .validated inner _ => inner.needsRandom
  | .deferred _ _ => true
  | _ => false

/-- Whether some part uses the integer drawn for the call. -/
def Parts.needsRandom : Parts → Bool
  | .nil => false
  | .cons _ check rest => check.needsRandom || rest.needsRandom
end

mutual
/-- The names that an expression looks up. -/
def Check.lookups : Check → List String
  | .instanceOf classes => classes.flatMap Class.lookups
  | .classObject (some base) => base.lookups
  | .structural protocol => [protocol.name]
  | .oneOf values => values.flatMap fun value => value.lookups ++ value.kind.lookups
  | .anyOf parts => parts.lookups
  | .eachItem container item _ => container.lookups ++ item.lookups
  | .eachEntry sides _ => sides.lookups
  | .tupleOf _ items => items.lookups
  | .validated inner validators => inner.lookups ++ validators.map Validator.text
  | _ => []

/-- The names that the parts look up. -/
def Parts.lookups : Parts → List String
  | .nil => []
  | .cons _ check rest => check.lookups ++ rest.lookups
end

end CallGuard
