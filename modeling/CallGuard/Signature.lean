/-
Signatures of functions, and which of them can be guarded: parameters have
distinct names that are identifiers and not reserved, stand in the order of
their kinds with at most one variadic parameter of each kind, and keyword
arguments beyond the declared ones cannot be checked.
-/
import CallGuard.Failure
import CallGuard.Text.Letter

namespace CallGuard

/-- What is known about a function without running it. -/
structure Signature where
  name : String
  /-- The name with that of what the function belongs to. -/
  qualname : String
  description : Option String
  /-- The scope that the function is defined in. -/
  scope : Scope
  parameters : List Parameter
  returns : Option Hint

namespace Parameter

/-- Why a parameter may not have its name after parameters with the given ones. -/
def nameFault? (parameter : Parameter) (taken : List String) : Option NameFault :=
  if !Text.isIdentifier parameter.name then some .notIdentifier
  else if reservedStart.toList.isPrefixOf parameter.name.toList then some .reserved
  else if taken.contains parameter.name then some .duplicate
  else none

/-- Why a parameter may not stand after one of the given kind. -/
def placeFault? (parameter : Parameter) (previous : Option ParameterKind) :
    Option ParameterFault :=
  match previous with
  | none => none
  | some previous =>
    if parameter.kind.rank < previous.rank ∨ (parameter.kind = previous ∧ previous.isVariadic) then
      some (.order parameter.kind previous)
    else none

/-- Why the hint of a parameter cannot be checked. -/
def hintFault? (parameter : Parameter) : Option ParameterFault :=
  if parameter.kind = .variadicKeyword then
    (parameter.hint.bind Hint.checkable).map .uncheckable
  else none

end Parameter

namespace Signature

/-- Checks the rest of a signature after parameters with the given names, the last of the given
kind. -/
def validateFrom (function : String) :
    List String → Option ParameterKind → List Parameter → Except Failure Unit
  | _, _, [] => .ok ()
  | taken, previous, parameter :: rest =>
    match parameter.nameFault? taken with
    | some fault => .error (.parameterName function parameter.name fault)
    | none =>
      match (parameter.placeFault? previous).orElse fun _ => parameter.hintFault? with
      | some fault => .error (.malformedParameter function parameter.name fault)
      | none => validateFrom function (parameter.name :: taken) (some parameter.kind) rest

/-- Checks whether a function with this signature can be guarded. -/
def validate (signature : Signature) : Except Failure Unit :=
  validateFrom signature.qualname [] none signature.parameters

/-- Whether there is a hint that does not admit everything. -/
def needsChecking (signature : Signature) : Bool :=
  (signature.parameters.filterMap Parameter.hint).any (fun hint => !hint.isIgnorable) ||
    signature.returns.any fun hint => !hint.isIgnorable

end Signature

end CallGuard
