/-
How hints are written: names with the hints they take between square brackets.
-/
import CallGuard.Hint
import CallGuard.Text.Spelled
import CallGuard.Value.Text

namespace CallGuard

/-- A validator as it stands in a hint. -/
def Validator.text (validator : Validator) : String := "Is[" ++ validator.name ++ "]"

/-- A summary of a protocol. -/
def Protocol.summary (protocol : Protocol) : String :=
  "Protocol \x7b name: " ++ Text.spelled protocol.name ++ ", members: " ++
    Text.spelledList "[" "]" protocol.members ++ " \x7d"

namespace Hint

/-- Written parts with commas between them. -/
def listed (parts : List String) : String := ", ".intercalate parts

/-- A name with what it takes between brackets. -/
def subscripted (name : String) (parts : List String) : String := name ++ "[" ++ listed parts ++ "]"

mutual
/-- A hint as text. -/
def text : Hint → String
  | any => "Any"
  | null => "None"
  | instanceOf c => c.qualname
  | union members => subscripted "Union" (texts members)
  | generic origin arguments aliased =>
    let name := if aliased then origin.aliasName else origin.name
    match arguments with
    | [] => name
    | arguments => subscripted name (texts arguments)
  | tuple items variadic aliased =>
    let inside := match items with
      | [] => ["()"]
      | items => texts items
    subscripted (if aliased then "Tuple" else "tuple")
      (if variadic then inside ++ ["..."] else inside)
  | structural protocol => protocol.name
  | reference target => "'" ++ target.name ++ "'"
  | annotated inner validators =>
    subscripted "Annotated" (text inner :: validators.map Validator.text)
  | literal values => subscripted "Literal" (values.map Value.text)
  | never => "NoReturn"
  | unknown description => "<opaque " ++ description ++ ">"

/-- The hints of a list as texts. -/
def texts : List Hint → List String
  | [] => []
  | hint :: rest => text hint :: texts rest
end

end Hint

end CallGuard
