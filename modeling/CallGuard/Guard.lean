/-
Guards: the checks that are run around a call. A plan says which arguments are
checked against which hint and what happens to the result. A guard draws at
most one integer per call, checks the arguments in the order of the parameters,
makes the call if they all fit, and checks the result.
-/
import CallGuard.Cause
import CallGuard.Source

namespace CallGuard

/-! ### Arguments -/

/-- The arguments of a call; keyword arguments come in the order in which they were passed. -/
structure Arguments where
  positional : List Value
  keywords : List (String × Value)

namespace Arguments

/-- Adds a keyword argument, in place of an earlier one with the same name. -/
def putKeyword (name : String) (value : Value) : List (String × Value) → List (String × Value)
  | [] => [(name, value)]
  | (name', value') :: rest =>
    if name' = name then (name', value) :: rest else (name', value') :: putKeyword name value rest

/-- Arguments with the given values; the last value of a repeated keyword counts. -/
def ofLists (positional : List Value) (keywords : List (String × Value)) : Arguments :=
  ⟨positional, keywords.foldl (fun kept keyword => putKeyword keyword.1 keyword.2 kept) []⟩

/-- The argument passed under a name. -/
def keyword? (arguments : Arguments) (name : String) : Option Value :=
  arguments.keywords.lookup name

/-- The argument at a position or, failing that, under a name. -/
def get? (arguments : Arguments) (index : Nat) (name : String) : Option Value :=
  arguments.positional[index]?.or (arguments.keyword? name)

end Arguments

/-! ### Plans -/

/-- The check of one parameter. The index is its position among the positional parameters; for a
variadic one it is the first position that it collects. -/
structure ParameterCheck where
  name : String
  kind : ParameterKind
  index : Nat
  hint : Hint
  fragment : Fragment

/-- What happens to the result of a call. -/
inductive ResultCheck where
  | unchecked
  /-- Returning at all is a violation. -/
  | never
  | checked (hint : Hint) (fragment : Fragment)

/-- What a guard does. -/
structure Plan where
  parameters : List ParameterCheck
  result : ResultCheck
  needsRandom : Bool

/-- Whether a plan checks nothing. -/
def Plan.isIdle (plan : Plan) : Bool :=
  plan.parameters.isEmpty && plan.result matches .unchecked

/-- The arguments that a parameter takes. -/
def ParameterCheck.taken (check : ParameterCheck) (arguments : Arguments) : List Value :=
  match check.kind with
  | .positionalOnly => arguments.positional[check.index]?.toList
  | .positionalOrKeyword => (arguments.get? check.index check.name).toList
  | .keywordOnly => (arguments.keyword? check.name).toList
  | .variadicPositional => arguments.positional.drop check.index
  | .variadicKeyword => []

/-! ### Guards -/

/-- A plan with the settings it was made under and what is kept for the curious. -/
structure Guard where
  plan : Plan
  settings : Settings
  source : Option String
  hints : Option (List (String × Hint))
  warnings : List Warning

namespace Guard

/-- The name by which reports call the result. -/
def resultName : String := "return"

/-- Fails with the report on a value that did not fit. -/
def reject {Result : Type} (guard : Guard) (function : String) (site : Site) (name : String)
    (hint : Hint) (value : Value) (random : UInt32) : Action Result := do
  throw (.violation (← report guard.settings function site name hint value random))

/-- Checks one argument of a parameter. -/
def checkArgument (guard : Guard) (function : String) (check : ParameterCheck) (random : UInt32)
    (value : Value) : Action Unit := do
  if ← check.fragment.check.verdict value random then pure ()
  else guard.reject function .parameter check.name check.hint value random

/-- Checks the result of a call. -/
def checkResult (guard : Guard) (function : String) (random : UInt32) (value : Value) :
    Action Value := do
  match guard.plan.result with
  | .unchecked => return value
  | .never => guard.reject function .result resultName .never value random
  | .checked hint fragment =>
    if ← fragment.check.verdict value random then return value
    else guard.reject function .result resultName hint value random

/-- A call of the named function under a guard. -/
def call (guard : Guard) (function : String) (arguments : Arguments) (proceed : Action Value) :
    Action Value := do
  let random ← if guard.plan.needsRandom then Action.draw guard.settings.source else pure 0
  guard.plan.parameters.forM fun check =>
    (check.taken arguments).forM (guard.checkArgument function check random)
  guard.checkResult function random (← proceed)

end Guard

end CallGuard
