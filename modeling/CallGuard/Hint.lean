/-
Type hints: what a caller promises about a value. A hint is a tree of classes,
containers, unions, literals, protocols and validated hints; it may also refer
to another hint by a name that is looked up in a scope when the hint is first
used. Classes, protocols, validators and scopes are told apart by the serial
number they were made with.
-/
import CallGuard.Value

namespace CallGuard

/-! ### What hints mention -/

/-- A structural requirement: the members a class has to have. -/
structure Protocol where
  serial : Nat
  name : String
  members : List String
  deriving DecidableEq

/-- A named predicate on values. -/
structure Validator where
  serial : Nat
  name : String
  accepts : Value → Bool

/-- A place where names are bound to hints. -/
structure Scope where
  serial : Nat
  name : String
  deriving DecidableEq

/-- A name to be looked up in a scope. All copies of a reference share one cell, which keeps the
hint that the first successful look-up found. -/
structure Reference where
  cell : Nat
  name : String
  scope : Scope
  deriving DecidableEq

/-- The containers that take hints for their contents, and the class of class objects. -/
inductive Origin where
  | list | set | frozenset | dict | type
  deriving DecidableEq

/-- A type hint. `aliased` marks generics and tuples written with their older, capitalised names. -/
inductive Hint where
  | any
  | null
  | instanceOf (c : Class)
  | union (members : List Hint)
  | generic (origin : Origin) (arguments : List Hint) (aliased : Bool)
  | tuple (items : List Hint) (variadic aliased : Bool)
  | structural (protocol : Protocol)
  | reference (target : Reference)
  | annotated (inner : Hint) (validators : List Validator)
  | literal (values : List Value)
  | never
  | unknown (description : String)

/-! ### Protocols -/

namespace Protocol

/-- The members that a class lacks, in the order the protocol lists them. -/
def missing (protocol : Protocol) (c : Class) : List String :=
  protocol.members.filter fun member => !c.hasMember member

/-- Whether a class has all the members. -/
def isSatisfiedBy (protocol : Protocol) (c : Class) : Bool :=
  protocol.members.all fun member => c.hasMember member

/-- The protocols that every scope knows, each asking for one member. -/
def builtins : List Protocol :=
  [⟨0, "SupportsInt", ["__int__"]⟩, ⟨1, "SupportsFloat", ["__float__"]⟩,
    ⟨2, "SupportsComplex", ["__complex__"]⟩, ⟨3, "SupportsBytes", ["__bytes__"]⟩,
    ⟨4, "SupportsAbs", ["__abs__"]⟩, ⟨5, "SupportsIndex", ["__index__"]⟩,
    ⟨6, "SupportsRound", ["__round__"]⟩, ⟨7, "Sized", ["__len__"]⟩,
    ⟨8, "Iterable", ["__iter__"]⟩]

def builtin? (name : String) : Option Protocol :=
  builtins.find? fun protocol => protocol.name == name

end Protocol

/-! ### Origins -/

namespace Origin

/-- The class of the values of an origin. -/
def kind : Origin → Class
  | list => .list
  | set => .set
  | frozenset => .frozenset
  | dict => .dict
  | type => .type

/-- The number of hints an origin takes if it takes any. -/
def arity : Origin → Nat
  | dict => 2
  | _ => 1

/-- The older, capitalised name. -/
def aliasName : Origin → String
  | list => "List"
  | set => "Set"
  | frozenset => "FrozenSet"
  | dict => "Dict"
  | type => "Type"

def name : Origin → String
  | list => "list"
  | set => "set"
  | frozenset => "frozenset"
  | dict => "dict"
  | type => "type"

end Origin

namespace Hint

/-! ### Building hints -/

/-- A hint or nothing. -/
def optional (hint : Hint) : Hint := union [hint, null]

/-- The same hint under the older name of its container. Other hints have none. -/
def withAlias : Hint → Hint
  | generic origin arguments _ => generic origin arguments true
  | tuple items variadic _ => tuple items variadic true
  | hint => hint

/-- Whether a hint is written with an older name. -/
def isAlias : Hint → Bool
  | generic _ _ aliased => aliased
  | tuple _ _ aliased => aliased
  | _ => false

/-- The hints directly inside a hint, in order. -/
def children : Hint → List Hint
  | union members => members
  | generic _ arguments _ => arguments
  | tuple items _ _ => items
  | annotated inner _ => [inner]
  | _ => []

end Hint

end CallGuard
