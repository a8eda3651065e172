/-
Terms: the expressions that the text of a hint is made of, before they are read
as hints. Only the expressions that a hint can use keep their parts; of the
others the kind and the text are kept, for a message that says what was found.
-/

namespace CallGuard

/-- An expression. Every term keeps the text it was read from. -/
inductive Term where
  | name (text : List Char)
  | member (text : List Char)
  | subscript (text : List Char) (value : Term) (arguments : List Term)
  /-- A string of any kind, with its marks and quotes. -/
  | quoted (text : List Char)
  | integer (text : List Char)
  | null
  | truth (value : Bool)
  | ellipsis
  | binary (text : List Char) (operator : String) (left right : Term)
  | unary (text : List Char) (operator : String) (argument : Term)
  | parenthesized (text : List Char) (inner : Term)
  /-- `isEmpty` if nothing at all stands between the parentheses, `assignable` if it only has parts
  that can be assigned to. -/
  | tuple (text : List Char) (isEmpty assignable : Bool)
  | other (text : List Char) (kind : String) (assignable : Bool)

namespace Term

/-- The text a term was read from. -/
def text : Term → List Char
  | name text | member text | subscript text _ _ | quoted text | integer text => text
  | null => "None".toList
  | truth true => "True".toList
  | truth false => "False".toList
  | ellipsis => "...".toList
  | binary text _ _ _ | unary text _ _ | parenthesized text _ => text
  | tuple text _ _ | other text _ _ => text

/-- What a term is called in messages. -/
def kind : Term → String
  | name _ => "identifier"
  | member _ => "attribute"
  | subscript .. => "subscript"
  | quoted _ => "string"
  | integer _ => "integer"
  | null => "none"
  | truth true => "true"
  | truth false => "false"
  | ellipsis => "ellipsis"
  | binary .. => "binary_operator"
  | unary .. => "unary_operator"
  | parenthesized .. => "parenthesized_expression"
  | tuple .. => "tuple"
  | other _ kind _ => kind

/-- Whether a value can be assigned to a term. -/
def isAssignable : Term → Bool
  | name _ | member _ | subscript .. => true
  | parenthesized _ inner => inner.isAssignable
  | tuple _ _ assignable | other _ _ assignable => assignable
  | _ => false

/-- Whether a term may follow a star wherever an operand may stand. -/
def isPlace : Term → Bool
  | name _ | member _ | subscript .. => true
  | _ => false

end Term

end CallGuard
