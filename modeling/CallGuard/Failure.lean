/-
Everything that can go wrong, as causes; the wording of each is given once,
here.
-/
import CallGuard.Hint.Shape
import CallGuard.Parameter
import CallGuard.Violation

namespace CallGuard

/-! ### Hint text -/

/-- What the text of a hint should have had in some place. -/
inductive Wanted where
  | hint | name | bar | literal | string | plainString | closedString

def Wanted.message : Wanted → String
  | hint => "a hint"
  | name => "a name"
  | bar => "'|' between hints"
  | literal => "a literal value"
  | string => "a string"
  | plainString => "a plain string"
  | closedString => "a terminated string"

/-- Why a text is not a hint. -/
inductive TextFault where
  | notExpression (text : String)
  | empty
  | notSingle
  | unexpected (wanted : Wanted) (kind text : String)
  | outOfRange (number : String)
  | takesNoArguments (name : String)
  | misplacedEllipsis
  | bareUnion
  | optionalArity
  | bareLiteral
  | annotatedAsText

def TextFault.message : TextFault → String
  | notExpression text => Text.spelled text ++ " is not a valid hint expression"
  | empty => "empty hint"
  | notSingle => "a hint is a single expression"
  | unexpected wanted kind text =>
    "expected " ++ wanted.message ++ ", found " ++ kind ++ " " ++ Text.spelled text
  | outOfRange number => "integer literal " ++ number ++ " out of range"
  | takesNoArguments name => name ++ " takes no type arguments"
  | misplacedEllipsis => "'...' is only valid as tuple[T, ...]"
  | bareUnion => "Union requires type arguments"
  | optionalArity => "Optional takes exactly one argument"
  | bareLiteral => "Literal requires at least one value"
  | annotatedAsText => "Annotated validators cannot be spelled as text"

/-! ### Signatures -/

/-- Names that start like this are kept for generated code. -/
def reservedStart : String := "__hc_"

/-- Why a parameter may not have its name. -/
inductive NameFault where
  | notIdentifier
  | reserved
  | duplicate

def NameFault.message : NameFault → String
  | notIdentifier => "not an identifier"
  | reserved => "names prefixed by " ++ Text.spelled reservedStart ++ " are reserved"
  | duplicate => "duplicate parameter"

/-- Why a parameter may not stand where it does. -/
inductive ParameterFault where
  | order (kind previous : ParameterKind)
  | uncheckable (hint : Hint)

def ParameterFault.message : ParameterFault → String
  | order kind previous => kind.label ++ " parameter follows " ++ previous.label ++ " parameter"
  | uncheckable hint => "variadic keyword parameter hint " ++ hint.text ++ " cannot be checked"

/-! ### Generated source -/

/-- What should never happen to generated source. -/
inductive SourceFault where
  | placeholder (text : String)
  | emptyBlock (line : String)
  | openCheck (line : String)
  | noExit
  | unboundName (name : String)
  | uncheckableReport (hint : Hint) (obstacle : Obstacle)
  | noRule (hint : Hint)

def SourceFault.message : SourceFault → String
  | placeholder text => "unsubstituted placeholder " ++ Text.spelled text
  | emptyBlock line => "block " ++ Text.spelled line ++ " has no body"
  | openCheck line => "check " ++ Text.spelled line ++ " is not closed by a raise"
  | noExit => "wrapper neither returns nor raises"
  | unboundName name => "registry name " ++ Text.spelled name ++ " is never bound"
  | uncheckableReport hint obstacle =>
    "reporting against unsupported hint " ++ hint.text ++ ": " ++ obstacle.message
  | noRule hint => "no synthesis rule for " ++ hint.text

/-! ### Failures -/

/-- The way from a hint to one inside it: what the hint is for, the hint, and the number of each
child on the way. -/
structure Position where
  label : String
  root : Hint
  path : List Nat

def Position.message (position : Position) : String :=
  position.label ++ " " ++ position.root.text ++
    String.join (position.path.map fun index => "[" ++ toString index ++ "]")

/-- What went wrong. -/
inductive Failure where
  /-- A hint that cannot be checked. -/
  | unsupported (hint : Hint) (position : Position) (obstacle : Obstacle)
  /-- A parameter that stands in the wrong place. -/
  | malformedParameter (function parameter : String) (fault : ParameterFault)
  /-- A text that is not a hint. -/
  | unreadable (fault : TextFault)
  /-- A parameter with a name it may not have. -/
  | parameterName (function parameter : String) (fault : NameFault)
  /-- A reference to a name that is not bound. -/
  | unresolved (name scope : String)
  /-- A value that does not fit its hint. -/
  | violation (found : Violation)
  /-- Generated source that should not have come about. -/
  | internal (fault : SourceFault) (source : String)
  /-- An error raised by the function itself. -/
  | raised (message : String)

namespace Failure

def message : Failure → String
  | unsupported hint position obstacle =>
    "Unsupported type hint " ++ hint.text ++ " at " ++ position.message ++ ": " ++ obstacle.message
  | malformedParameter function parameter fault =>
    "Function " ++ function ++ "() parameter " ++ parameter ++ " malformed: " ++ fault.message
  | unreadable fault => "Hint parse error: " ++ fault.message
  | parameterName function parameter fault =>
    "Function " ++ function ++ "() parameter name " ++ Text.spelled parameter ++ " invalid: " ++
      fault.message
  | unresolved name scope =>
    "Forward reference " ++ Text.spelled name ++ " unresolvable in module " ++ Text.spelled scope
  | violation found => found.message
  | internal fault source => "Internal error: " ++ fault.message ++ "\n" ++ source
  | raised message => message

/-- Whether the failure is about a declaration and not about a call. -/
def isDeclarative : Failure → Bool
  | unsupported .. | malformedParameter .. | unreadable _ | parameterName .. => true
  | _ => false

end Failure

end CallGuard
