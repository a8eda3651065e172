/-
Violations: a value that does not fit its hint, with what a reader of the
message wants to know about it.
-/
import CallGuard.Value.Text
import CallGuard.Text.Width

namespace CallGuard

/-- A value as text, cut to what fits on a line. -/
def Value.shown (value : Value) : String := Text.truncate value.text

/-- Where a value was found not to fit. -/
inductive Site where
  | parameter
  | result
  deriving DecidableEq

/-- A value that does not fit its hint. -/
structure Violation where
  site : Site
  /-- The qualified name of the function. -/
  function : String
  /-- The name of the parameter, or `return`. -/
  name : String
  value : Value
  hint : String
  cause : String
  /-- The value, then the values inside it that do not fit, from the outside in. -/
  culprits : List Value

def Violation.message (violation : Violation) : String :=
  let subject := match violation.site with
    | .parameter => "parameter " ++ violation.name ++ "="
    | .result => "return "
  "Function " ++ violation.function ++ "() " ++ subject ++ violation.value.shown ++
    " violates type hint " ++ violation.hint ++ ", as " ++ violation.cause ++ "."

end CallGuard
