/-
The shape of a hint: what has to be checked for it. Nested unions are flattened
and repetitions dropped, a union with one member is that member, and a union
that admits everything asks for nothing. A hint that cannot be checked, at
whatever depth, makes every union around it uncheckable as well.
-/
import CallGuard.Hint.Imprint

namespace CallGuard

/-- Why a hint cannot be checked. -/
inductive Obstacle where
  | notHint (description : String)
  | variadicItems
  | noValidators
  | noLiterals
  | arity (origin : Origin) (given : Nat)
  | notClass (argument : Hint)
  | misplacedNever

def Obstacle.message : Obstacle → String
  | notHint description => description ++ " is not a type hint"
  | variadicItems => "tuple[T, ...] takes exactly one item hint"
  | noValidators => "Annotated requires at least one validator"
  | noLiterals => "Literal requires at least one value"
  | arity origin given =>
    origin.aliasName ++ " takes " ++ toString origin.arity ++ " type argument(s), got " ++
      toString given
  | notClass argument => "type[" ++ argument.text ++ "] must name a class"
  | misplacedNever => "NoReturn is only valid as the whole return hint"

/-- What has to be checked for a hint. Hints for contents that admit everything are left out. -/
inductive Shape where
  | unsupported (obstacle : Obstacle)
  | ignorable
  | null
  | instanceOf (c : Class)
  | union (members : List Hint)
  | sequence (container : Class) (item : Option Hint)
  | mapping (key value : Option Hint)
  | fixedTuple (items : List Hint)
  | subclassOf (base : Option Class)
  | structural (protocol : Protocol)
  | reference (target : Reference)
  | annotated (inner : Hint) (validators : List Validator)
  | literal (values : List Value)
  | never

namespace Hint

/-! ### Obstacles -/

/-- What keeps a generic from being checked, apart from its arguments. -/
def genericObstacle (origin : Origin) (arguments : List Hint) : Option Obstacle :=
  if arguments ≠ [] ∧ arguments.length ≠ origin.arity then
    some (.arity origin arguments.length)
  else
    match origin, arguments with
    | .type, [instanceOf _] | .type, [any] => none
    | .type, [argument] => some (.notClass argument)
    | _, _ => none

/-- What keeps a hint from being checked, apart from the hints inside it. -/
def ownObstacle : Hint → Option Obstacle
  | unknown description => some (.notHint description)
  | never => some .misplacedNever
  | generic origin arguments _ => genericObstacle origin arguments
  | tuple items true _ => if items.length = 1 then none else some .variadicItems
  | annotated _ [] => some .noValidators
  | literal [] => some .noLiterals
  | _ => none

mutual
/-- The first thing that keeps a hint, or a hint inside it, from being checked. -/
def obstacle : Hint → Option Obstacle
  | union members => firstObstacle members
  | generic origin arguments _ =>
    (genericObstacle origin arguments).orElse fun _ => firstObstacle arguments
  | tuple items variadic _ =>
    if variadic ∧ items.length ≠ 1 then some .variadicItems else firstObstacle items
  | annotated _ [] => some .noValidators
  | annotated inner (_ :: _) => obstacle inner
  | hint => ownObstacle hint

/-- The first obstacle in a list of hints. -/
def firstObstacle : List Hint → Option Obstacle
  | [] => none
  | hint :: rest => (obstacle hint).orElse fun _ => firstObstacle rest
end

/-! ### Unions -/

mutual
/-- The members of a union and of the unions inside it; any other hint by itself. -/
def leaves : Hint → List Hint
  | union members => leavesOf members
  | hint => [hint]

/-- The leaves of a list of hints, one after the other. -/
def leavesOf : List Hint → List Hint
  | [] => []
  | hint :: rest => leaves hint ++ leavesOf rest
end

/-- The hints of a list in order of first appearance, repetitions dropped. -/
def distinct (hints : List Hint) : List Hint :=
  hints.foldl (fun kept hint => if kept.any (· == hint) then kept else kept ++ [hint]) []

/-- Whether a hint other than a union admits every value. -/
def admitsAll : Hint → Bool
  | any => true
  | instanceOf c => c == .object
  | _ => false

/-- Whether a hint admits every value. An empty union does; a union with an uncheckable member
does not. -/
def isIgnorable : Hint → Bool
  | union members =>
    (firstObstacle members).isNone &&
      ((leavesOf members).isEmpty || (leavesOf members).any admitsAll)
  | hint => hint.admitsAll

/-- A hint unless it admits every value. -/
def checkable (hint : Hint) : Option Hint := if hint.isIgnorable then none else some hint

/-! ### Shapes -/

/-- The shape of a generic with the right number of arguments. -/
def genericShape : Origin → List Hint → Shape
  | .dict, [key, value] => .mapping key.checkable value.checkable
  | .dict, _ => .mapping none none
  | .type, [instanceOf c] => .subclassOf (if c = .object then none else some c)
  | .type, _ => .subclassOf none
  | origin, [item] => .sequence origin.kind item.checkable
  | origin, _ => .sequence origin.kind none

/-- The shape of a hint that is not a union. -/
def leafShape (hint : Hint) : Shape :=
  match hint.ownObstacle, hint with
  | _, never => .never
  | some obstacle, _ => .unsupported obstacle
  | none, any => .ignorable
  | none, null => .null
  | none, instanceOf c => if c = .object then .ignorable else .instanceOf c
  | none, generic origin arguments _ => genericShape origin arguments
  | none, tuple [item] true _ => .sequence .tuple item.checkable
  | none, tuple items _ _ => .fixedTuple items
  | none, structural protocol => .structural protocol
  | none, reference target => .reference target
  | none, annotated inner validators => .annotated inner validators
  | none, literal values => .literal values
  | none, unknown _ => .ignorable
  | none, union _ => .ignorable

/-- The shape of a union, given its distinct leaves. -/
def unionShape : List Hint → Shape
  | [] => .ignorable
  | [only] => only.leafShape
  | members => .union members

/-- The shape of a hint. -/
def shape : Hint → Shape
  | union members =>
    match firstObstacle members with
    | some obstacle => .unsupported obstacle
    | none =>
      if (leavesOf members).any admitsAll then .ignorable
      else unionShape (distinct (leavesOf members))
  | hint => hint.leafShape

end Hint

end CallGuard
