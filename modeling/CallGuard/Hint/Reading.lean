/-
Reading hints. A text is read as a term first, and the term as a hint: names
that everyone knows mean what they say, other names are looked up in the scope
the hint is read in, and a name that is not bound there, or is quoted, becomes
a reference to be looked up later.
-/
import CallGuard.Hint.Grammar
import CallGuard.World

namespace CallGuard.Hint

/-- The failure that a term is not what was wanted in its place. -/
def unexpected (wanted : Wanted) (term : Term) : Failure :=
  .unreadable (.unexpected wanted term.kind (String.ofList term.text))

/-! ### Names -/

/-- What a name that everyone knows stands for. -/
inductive Designation where
  /-- A hint that takes no arguments. -/
  | plain (hint : Hint)
  | container (origin : Origin) (aliased : Bool)
  | tuple (aliased : Bool)
  | union
  | optional
  | literal
  | annotated

/-- The names that everyone knows. -/
def designations : List (String × Designation) :=
  [("Any", .plain .any), ("None", .plain .null), ("NoneType", .plain .null),
    ("NoReturn", .plain .never), ("Never", .plain .never),
    ("object", .plain (.instanceOf .object)), ("int", .plain (.instanceOf .int)),
    ("bool", .plain (.instanceOf .bool)), ("float", .plain (.instanceOf .float)),
    ("complex", .plain (.instanceOf .complex)), ("str", .plain (.instanceOf .str)),
    ("bytes", .plain (.instanceOf .bytes)),
    ("list", .container .list false), ("List", .container .list true),
    ("set", .container .set false), ("Set", .container .set true),
    ("frozenset", .container .frozenset false), ("FrozenSet", .container .frozenset true),
    ("dict", .container .dict false), ("Dict", .container .dict true),
    ("type", .container .type false), ("Type", .container .type true),
    ("tuple", .tuple false), ("Tuple", .tuple true), ("Union", .union), ("Optional", .optional),
    ("Literal", .literal), ("Annotated", .annotated)] ++
    Protocol.builtins.map fun protocol => (protocol.name, .plain (.structural protocol))

def designation? (name : String) : Option Designation := designations.lookup name

/-- A name without blanks and without the module that the common names come from. -/
def properName (text : List Char) : String :=
  let name := Text.removeBlanks text
  let home := "typing.".toList
  String.ofList (if home.isPrefixOf name then name.drop home.length else name)

/-- A new reference. -/
def newReference (scope : Scope) (name : String) : Action Hint := do
  pure (.reference ⟨← Action.fresh, name, scope⟩)

/-- What a name means in a scope: what it is bound to, or a new reference. -/
def found (scope : Scope) (name : String) : Action Hint := do
  match ← Action.lookup scope name with
  | some hint => pure hint
  | none => newReference scope name

/-- The hint that a name without arguments stands for. -/
def bare (scope : Scope) (name : String) : Action Hint :=
  match designation? name with
  | some (.plain hint) => pure hint
  | some (.container origin aliased) => pure (.generic origin [] aliased)
  | some (.tuple _) => pure (.instanceOf .tuple)
  | some .union => throw (.unreadable .bareUnion)
  | some .optional => throw (.unreadable .optionalArity)
  | some .literal => throw (.unreadable .bareLiteral)
  | some .annotated => throw (.unreadable .annotatedAsText)
  | none => found scope name

/-! ### Strings and integers -/

/-- The text between the quotes of a string, and whether it stands for bytes. -/
def stringBody (text : List Char) : Except Wanted (List Char × Bool) :=
  let isQuote := fun c : Char => c == '\'' || c == '"'
  let marks := (text.takeWhile fun c => !isQuote c).map Char.toLower
  match text.dropWhile fun c => !isQuote c with
  | [] => .error .string
  | quote :: rest =>
    if marks.contains 'f' then .error .plainString
    else
      let delimiter :=
        if [quote, quote].isPrefixOf rest then [quote, quote, quote] else [quote]
      let inside := (quote :: rest).drop delimiter.length
      if delimiter.isSuffixOf inside then
        let body := inside.take (inside.length - delimiter.length)
        .ok (if marks.contains 'r' then body else Text.unescape body, marks.contains 'b')
      else .error .closedString

/-- The value of a digit of some base. -/
def digitValue? (base : Nat) (c : Char) : Option Nat :=
  (Text.hexValue? c).filter (· < base)

/-- The number that digits stand for; there has to be one. -/
def numberOfDigits? (base : Nat) (digits : List Char) : Option Nat :=
  if digits.isEmpty then none
  else digits.foldlM (fun number c => (digitValue? base c).map (base * number + ·)) 0

/-- The base of a number written without underscores, and its digits. -/
def baseAndDigits (text : List Char) : Nat × List Char :=
  match text with
  | '0' :: letter :: digits =>
    if letter.toLower = 'x' then (16, digits)
    else if letter.toLower = 'o' then (8, digits)
    else if letter.toLower = 'b' then (2, digits)
    else (10, text)
  | _ => (10, text)

/-- The integer that a text stands for, if it fits into 64 bits. -/
def integer? (negative : Bool) (text : List Char) : Option Int := do
  let (base, digits) := baseAndDigits text
  let number ← numberOfDigits? base digits
  if negative then if number ≤ 1 <<< 63 then some (-number) else none
  else if number < 1 <<< 63 then some number else none

/-- An integer, with or without a minus sign before it. -/
def readInteger (negative : Bool) (text : List Char) : Action Value :=
  let plain := text.filter (· ≠ '_')
  match integer? negative plain with
  | some number => pure (.int number)
  | none =>
    throw (.unreadable (.outOfRange (String.ofList (if negative then '-' :: plain else plain))))

/-- A value written in a literal hint. -/
def readLiteral (term : Term) : Action Value :=
  match term with
  | .integer text => readInteger false text
  | .unary _ "-" (.integer text) => readInteger true text
  | .quoted text =>
    match stringBody text with
    | .error wanted => throw (unexpected wanted term)
    | .ok (body, false) => do pure (.str (← Action.fresh) (String.ofList body))
    | .ok (body, true) => do
      pure (.bytes (← Action.fresh) (String.ofList body).toUTF8.toList)
  | .truth value => pure (.bool value)
  | .null => pure .null
  | _ => throw (unexpected .literal term)

/-! ### Terms -/

/-- Whether a term is three dots. -/
def isEllipsis : Term → Bool
  | .ellipsis => true
  | _ => false

mutual
/-- The hint that a term stands for. -/
def ofTerm (scope : Scope) (term : Term) : Action Hint :=
  match term with
  | .name text | .member text => bare scope (properName text)
  | .subscript _ (.name text) arguments => subscript scope (properName text) arguments
  | .subscript _ (.member text) arguments => subscript scope (properName text) arguments
  | .subscript _ value _ => throw (unexpected .name value)
  | .null => pure .null
  | .quoted text =>
    match stringBody text with
    | .error wanted => throw (unexpected wanted term)
    | .ok (body, _) => newReference scope (String.ofList body)
  | .binary _ operator left right =>
    if operator = "|" then do
      let before ← alternatives scope left
      let after ← alternatives scope right
      pure (.union (before ++ after))
    else throw (unexpected .bar term)
  | .parenthesized _ inner => ofTerm scope inner
  | _ => throw (unexpected .hint term)
termination_by (sizeOf term, 0)

/-- The hints with bars between them, left to right. Parentheses keep a union together. -/
def alternatives (scope : Scope) (term : Term) : Action (List Hint) :=
  match term with
  | .binary _ operator left right =>
    if operator = "|" then do
      let before ← alternatives scope left
      let after ← alternatives scope right
      pure (before ++ after)
    else throw (unexpected .bar term)
  | other => do pure [← ofTerm scope other]
termination_by (sizeOf term, 1)

/-- The hint that a name with arguments stands for. -/
def subscript (scope : Scope) (name : String) (arguments : List Term) : Action Hint :=
  match designation? name with
  | some (.plain _) => throw (.unreadable (.takesNoArguments name))
  | some (.container origin aliased) => do
    pure (.generic origin (← ofTerms scope arguments) aliased)
  | some (.tuple aliased) =>
    match arguments with
    | [.tuple _ true _] => pure (.tuple [] false aliased)
    | [item, .ellipsis] =>
      if isEllipsis item then throw (.unreadable .misplacedEllipsis)
      else do pure (.tuple [← ofTerm scope item] true aliased)
    | items =>
      if items.any isEllipsis then throw (.unreadable .misplacedEllipsis)
      else do pure (.tuple (← ofTerms scope items) false aliased)
  | some .union => do pure (.union (← ofTerms scope arguments))
  | some .optional =>
    match arguments with
    | [argument] => do pure (optional (← ofTerm scope argument))
    | _ => throw (.unreadable .optionalArity)
  | some .literal => do pure (.literal (← arguments.mapM readLiteral))
  | some .annotated => throw (.unreadable .annotatedAsText)
  | none => do
    let _ ← found scope name
    throw (.unreadable (.takesNoArguments name))
termination_by (sizeOf arguments, 1)

/-- The hints that terms stand for, left to right. -/
def ofTerms (scope : Scope) (terms : List Term) : Action (List Hint) :=
  match terms with
  | [] => pure []
  | term :: rest => do
    let hint ← ofTerm scope term
    let hints ← ofTerms scope rest
    pure (hint :: hints)
termination_by (sizeOf terms, 0)
end

/-- The hint that a text stands for, which a parser divides into terms. -/
def readWith (parse : List Char → Option Grammar.Outline) (scope : Scope) (text : String) :
    Action Hint :=
  match parse text.toList with
  | none => throw (.unreadable (.notExpression text))
  | some .empty => throw (.unreadable .empty)
  | some .several => throw (.unreadable .notSingle)
  | some (.single term) => ofTerm scope term

/-- The hint that a text stands for. -/
def read (scope : Scope) (text : String) : Action Hint := readWith Grammar.outline scope text

end CallGuard.Hint
