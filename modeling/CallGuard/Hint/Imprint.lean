/-
When two hints are the same, and the imprint by which hints are filed. Hints
are compared part by part: classes, protocols, validators and scopes by
identity, literal values as values of one class. The imprint of a hint is the
sequence of marks that are fed to a hash; it goes by the text of literal values
and does not count them, so it can differ for hints that are the same and agree
for hints that are not.
-/
import CallGuard.Hint.Text

namespace CallGuard.Hint

/-! ### Equality -/

/-- Whether two lists of validators are the same, one by one. -/
def sameValidators (left right : List Validator) : Bool :=
  left.length == right.length &&
    (left.zip right).all fun pair => pair.1.serial == pair.2.serial

/-- Whether two lists of literal values are equal, one by one, and of the same classes. -/
def sameValues (left right : List Value) : Bool :=
  left.length == right.length &&
    (left.zip right).all fun pair => pair.1 == pair.2 && pair.1.kind == pair.2.kind

mutual
/-- Whether two hints are the same. References are the same if they name the same thing. -/
def same : Hint → Hint → Bool
  | any, any | null, null | never, never => true
  | instanceOf a, instanceOf b => a == b
  | union a, union b => sameList a b
  | generic origin a aliased, generic origin' b aliased' =>
    origin == origin' && sameList a b && aliased == aliased'
  | tuple a variadic aliased, tuple b variadic' aliased' =>
    sameList a b && variadic == variadic' && aliased == aliased'
  | structural a, structural b => a == b
  | reference a, reference b => a.name == b.name && a.scope == b.scope
  | annotated a validators, annotated b validators' =>
    same a b && sameValidators validators validators'
  | literal a, literal b => sameValues a b
  | unknown a, unknown b => a == b
  | _, _ => false

/-- Whether two lists of hints are the same, one by one. -/
def sameList : List Hint → List Hint → Bool
  | [], [] => true
  | a :: as, b :: bs => same a b && sameList as bs
  | _, _ => false
end

instance : BEq Hint := ⟨same⟩

/-! ### Imprints -/

/-- One mark of an imprint. -/
inductive Mark where
  | variant (number : Nat)
  | count (number : Nat)
  | flag (on : Bool)
  | origin (origin : Origin)
  | name (text : String)
  | identity (serial : Nat)
  | kind (c : Class)
  | protocol (protocol : Protocol)
  | scope (scope : Scope)
  deriving DecidableEq

/-- A literal value leaves its class and its text. -/
def valueImprint (value : Value) : List Mark := [.kind value.kind, .name value.text]

mutual
/-- The imprint of a hint. -/
def imprint : Hint → List Mark
  | any => [.variant 0]
  | null => [.variant 1]
  | instanceOf c => [.variant 2, .kind c]
  | union members => .variant 3 :: .count members.length :: imprints members
  | generic origin arguments aliased =>
    .variant 4 :: .origin origin :: .count arguments.length :: imprints arguments ++ [.flag aliased]
  | tuple items variadic aliased =>
    .variant 5 :: .count items.length :: imprints items ++ [.flag variadic, .flag aliased]
  | structural protocol => [.variant 6, .protocol protocol]
  | reference target => [.variant 7, .name target.name, .scope target.scope]
  | annotated inner validators =>
    .variant 8 :: imprint inner ++ validators.map fun validator => .identity validator.serial
  | literal values => .variant 9 :: values.flatMap valueImprint
  | never => [.variant 10]
  | unknown description => [.variant 11, .name description]

/-- The imprints of a list of hints, one after the other. -/
def imprints : List Hint → List Mark
  | [] => []
  | hint :: rest => imprint hint ++ imprints rest
end

end CallGuard.Hint
