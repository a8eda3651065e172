/-
Functions: a signature and a body. The body is either given or that of a guard
around another function. Copies of a function with a changed signature share
its body, and functions count as the same if they do.
-/
import CallGuard.Guard

namespace CallGuard

/-- A function. The number is the identity of its body. -/
inductive Function where
  | plain (signature : Signature) (identity : Nat) (body : Arguments → Action Value)
  | guarded (signature : Signature) (identity : Nat) (guard : Guard) (inner : Function)

namespace Function

def signature : Function → Signature
  | plain signature _ _ => signature
  | guarded signature _ _ _ => signature

/-- The identity of the body. -/
def identity : Function → Nat
  | plain _ identity _ => identity
  | guarded _ identity _ _ => identity

/-- The same function under another signature. -/
def withSignature (signature : Signature) : Function → Function
  | plain _ identity body => plain signature identity body
  | guarded _ identity guard inner => guarded signature identity guard inner

/-- The guard around a guarded function. -/
def guard? : Function → Option Guard
  | plain _ _ _ => none
  | guarded _ _ guard _ => some guard

/-- The function that is guarded. -/
def inner? : Function → Option Function
  | plain _ _ _ => none
  | guarded _ _ _ inner => some inner

/-- Whether two functions share their body. -/
def isSame (left right : Function) : Bool := left.identity == right.identity

/-- Calls a function. -/
def call : Function → Arguments → Action Value
  | plain _ _ body, arguments => body arguments
  | guarded _ _ guard inner, arguments =>
    guard.call inner.signature.qualname arguments (inner.call arguments)

/-! ### Descriptions -/

/-- An optional hint in a summary. -/
def optionalText (hint : Option Hint) : String :=
  match hint with
  | none => "None"
  | some hint => "Some(" ++ hint.text ++ ")"

/-- A parameter in a summary. -/
def parameterSummary (parameter : Parameter) : String :=
  "Param \x7b name: " ++ Text.spelled parameter.name ++ ", kind: " ++ parameter.kind.label ++
    ", hint: " ++ optionalText parameter.hint ++ " \x7d"

/-- A summary of a function. -/
def summary (function : Function) : String :=
  let signature := function.signature
  "Function \x7b qualname: " ++ Text.spelled signature.qualname ++ ", params: [" ++
    ", ".intercalate (signature.parameters.map parameterSummary) ++ "], returns: " ++
    optionalText signature.returns ++ ", is_wrapper: " ++ toString function.guard?.isSome ++ " \x7d"

end Function

end CallGuard
