/-
Parameters of a function: a name, the way arguments reach it, and perhaps a
hint.
-/
import CallGuard.Hint.Text

namespace CallGuard

/-- How arguments reach a parameter, in the order in which parameters have to be declared. -/
inductive ParameterKind where
  | positionalOnly
  | positionalOrKeyword
  | variadicPositional
  | keywordOnly
  | variadicKeyword
  deriving DecidableEq

namespace ParameterKind

/-- The place of a kind in the order of declaration. -/
def rank : ParameterKind → Nat
  | positionalOnly => 0
  | positionalOrKeyword => 1
  | variadicPositional => 2
  | keywordOnly => 3
  | variadicKeyword => 4

theorem rank_injective {kind kind' : ParameterKind} (same : kind.rank = kind'.rank) :
    kind = kind' := by
  cases kind <;> cases kind' <;> first | rfl | cases same

/-- Whether parameters of this kind take any number of arguments. -/
def isVariadic : ParameterKind → Bool
  | variadicPositional | variadicKeyword => true
  | _ => false

/-- Whether parameters of this kind take one positional argument. -/
def takesPosition : ParameterKind → Bool
  | positionalOnly | positionalOrKeyword => true
  | _ => false

def label : ParameterKind → String
  | positionalOnly => "PositionalOnly"
  | positionalOrKeyword => "PositionalOrKeyword"
  | variadicPositional => "VarPositional"
  | keywordOnly => "KeywordOnly"
  | variadicKeyword => "VarKeyword"

end ParameterKind

/-- A declared parameter. -/
structure Parameter where
  name : String
  kind : ParameterKind
  hint : Option Hint

end CallGuard
