/-
The grammar of hint text: which texts are well formed, and which terms they
hold. It covers whole expressions and the outline of a text as a sequence of
statements, because a text that holds anything else than one expression is told
apart from a text that holds no expression at all.

Line ends count only outside of brackets and only where a statement could be
over. A reader that says `bracketed` is told whether it stands inside brackets.
All readers take some fuel, which bounds the number of steps; `outline` gives
them more than any text needs.
-/
import CallGuard.Hint.Lexeme
import CallGuard.Hint.Term

namespace CallGuard.Grammar

open Lexeme

/-! ### Operators -/

/-- How tightly an operator between two operands binds. -/
def tightness? (operator : String) : Option Nat :=
  if operator = "|" then some 14
  else if operator = "&" then some 15
  else if operator = "^" then some 16
  else if operator = "<<" ∨ operator = ">>" then some 17
  else if operator = "+" ∨ operator = "-" then some 18
  else if ["*", "@", "/", "%", "//"].contains operator then some 19
  else if operator = "**" then some 21
  else none

/-- How tightly the right operand has to bind. Only powers group to the right. -/
def rightTightness (operator : String) (tightness : Nat) : Nat :=
  if operator = "**" then tightness else tightness + 1

/-- An operator between two operands that binds at least as tightly as asked. -/
def operator? (floor : Nat) (text : List Char) : Option (String × Nat × List Char) := do
  let (operator, rest) ← symbol? text
  let tightness ← tightness? operator
  if floor ≤ tightness then some (operator, tightness, rest) else none

/-- A comparison. -/
def comparison? (text : List Char) : Option (List Char) :=
  match symbol? text with
  | some (symbol, rest) =>
    if ["<", "<=", "==", "!=", ">=", ">", "<>"].contains symbol then some rest else none
  | none =>
    match word? text with
    | some ("in", rest) => some rest
    | some ("is", rest) => some ((afterWord? "not" (skipGap rest)).getD rest)
    | some ("not", rest) => afterWord? "in" (skipGap rest)
    | _ => none

/-- A sign before an operand. -/
def sign? : List Char → Option (String × List Char)
  | '-' :: rest => some ("-", rest)
  | '+' :: rest => some ("+", rest)
  | '~' :: rest => some ("~", rest)
  | _ => none

/-- The words that go on with an expression and never begin an operand. -/
def isJoining (word : String) : Bool :=
  ["and", "or", "not", "in", "is", "if", "else", "as", "for", "from"].contains word

/-- Whether an operand begins here. -/
def startsOperand (text : List Char) : Bool :=
  (opening? text).isSome || (number? text).isSome ||
    match word? text with
    | some (word, _) => !isJoining word
    | none =>
      match symbol? text with
      | some (symbol, _) =>
        ["(", "[", "\x7b", "-", "+", "~", "*", "..."].contains symbol
      | none => false

/-- Whether an expression begins here. -/
def startsExpression (text : List Char) : Bool :=
  startsOperand text || (afterWord? "not" text).isSome

/-- A word at the start of an expression, unless it is the beginning of a string. -/
def leadingWord? (text : List Char) : Option (String × List Char) :=
  if (opening? text).isSome then none else word? text

/-- The text after a name and the sign that gives it a value inside an expression. -/
def namedValue? (bracketed : Bool) (text : List Char) : Option (List Char) := do
  let (word, rest) ← leadingWord? text
  if ["None", "True", "False"].contains word then none
  else afterSymbol? ":=" (ahead bracketed rest)

/-- The text after a keyword argument's name and its sign. -/
def keywordArgument? (text : List Char) : Option (List Char) := do
  let (_, rest) ← leadingWord? text
  afterSymbol? "=" (skipGap rest)

/-- Whether a comprehension begins here. -/
def startsComprehension (text : List Char) : Bool :=
  match word? text with
  | some ("for", _) => true
  | some ("async", rest) => (afterWord? "for" (skipGap rest)).isSome
  | _ => false

/-- The name, constant or other word that stands for an operand. -/
def ofWord (word : String) : Term :=
  if word = "None" then .null
  else if word = "True" then .truth true
  else if word = "False" then .truth false
  else .name word.toList

/-! ### Expressions -/

mutual

/-- An expression whose operators bind at least as tightly as `floor`: a conditional is at 1, an
alias at 2, `or` at 10, `and` at 11, `not` at 12 and comparisons at 13. -/
def expression : Nat → (bracketed : Bool) → (floor : Nat) → List Char → Option (Term × List Char)
  | 0, _, _, _ => none
  | fuel + 1, bracketed, floor, text =>
    let start := skipGap text
    match namedValue? bracketed start with
    | some rest => do
      let (_, rest) ← expression fuel bracketed 0 rest
      some (.other (between start rest) "named_expression" false, rest)
    | none =>
      match leadingWord? start with
      | some ("not", rest) => do
        let (_, rest) ← expression fuel bracketed 12 rest
        operators fuel bracketed floor start false
          (.other (between start rest) "not_operator" false) rest
      | some ("lambda", rest) => do
        let rest ← parameters fuel ':' rest
        let (_, rest) ← expression fuel bracketed 0 rest
        some (.other (between start rest) "lambda" false, rest)
      | _ => do
        let (term, rest) ← primary fuel bracketed 14 start
        operators fuel bracketed floor start true term rest

/-- What may follow an operand on the level of expressions. A comparison needs a primary expression
on its left. -/
def operators : Nat → (bracketed : Bool) → (floor : Nat) → (start : List Char) →
    (isPrimary : Bool) → Term → List Char → Option (Term × List Char)
  | 0, _, _, _, _, _, _ => none
  | fuel + 1, bracketed, floor, start, isPrimary, left, text =>
    let next := ahead bracketed text
    match if isPrimary && floor ≤ 13 then comparison? next else none with
    | some rest => do
      let (_, rest) ← primary fuel bracketed 14 rest
      let rest ← comparisons fuel bracketed rest
      operators fuel bracketed floor start false
        (.other (between start rest) "comparison_operator" false) rest
    | none =>
      match word? next with
      | some ("or", rest) =>
        if floor ≤ 10 then do
          let (_, rest) ← expression fuel bracketed 11 rest
          operators fuel bracketed floor start false
            (.other (between start rest) "boolean_operator" false) rest
        else some (left, text)
      | some ("and", rest) =>
        if floor ≤ 11 then do
          let (_, rest) ← expression fuel bracketed 12 rest
          operators fuel bracketed floor start false
            (.other (between start rest) "boolean_operator" false) rest
        else some (left, text)
      | some ("if", rest) =>
        if floor ≤ 1 then do
          let (_, rest) ← expression fuel true 0 rest
          let rest ← afterWord? "else" (skipGap rest)
          let (_, rest) ← expression fuel bracketed 1 rest
          operators fuel bracketed floor start false
            (.other (between start rest) "conditional_expression" false) rest
        else some (left, text)
      | some ("as", rest) =>
        if floor ≤ 2 then do
          let (_, rest) ← expression fuel bracketed 3 rest
          operators fuel bracketed floor start false
            (.other (between start rest) "as_pattern" false) rest
        else some (left, text)
      | _ => some (left, text)

/-- The further operands of a chain of comparisons. -/
def comparisons : Nat → (bracketed : Bool) → List Char → Option (List Char)
  | 0, _, _ => none
  | fuel + 1, bracketed, text =>
    match comparison? (ahead bracketed text) with
    | some rest => do
      let (_, rest) ← primary fuel bracketed 14 rest
      comparisons fuel bracketed rest
    | none => some text

/-- A primary expression whose operators bind at least as tightly as `floor`. -/
def primary : Nat → (bracketed : Bool) → (floor : Nat) → List Char → Option (Term × List Char)
  | 0, _, _, _ => none
  | fuel + 1, bracketed, floor, text => do
    let start := skipGap text
    let (term, rest) ← operand fuel bracketed start
    binaries fuel bracketed floor start term rest

/-- The operators and operands that follow a primary expression. -/
def binaries : Nat → (bracketed : Bool) → (floor : Nat) → (start : List Char) → Term →
    List Char → Option (Term × List Char)
  | 0, _, _, _, _, _ => none
  | fuel + 1, bracketed, floor, start, left, text =>
    match operator? floor (ahead bracketed text) with
    | some (operator, tightness, rest) => do
      let (right, rest) ← primary fuel bracketed (rightTightness operator tightness) rest
      binaries fuel bracketed floor start (.binary (between start rest) operator left right) rest
    | none => some (left, text)

/-- An operand: an atom with what is applied to it, or an operand with a sign before it. -/
def operand : Nat → (bracketed : Bool) → List Char → Option (Term × List Char)
  | 0, _, _ => none
  | fuel + 1, bracketed, text =>
    match sign? text with
    | some (sign, rest) => do
      let (argument, rest) ← primary fuel bracketed 20 rest
      some (.unary (between text rest) sign argument, rest)
    | none =>
      match afterSymbol? "*" text with
      | some rest => do
        let (term, rest) ← operand fuel bracketed (skipGap rest)
        if term.isPlace then some (.other (between text rest) "list_splat" true, rest) else none
      | none =>
        match leadingWord? text with
        | some ("await", rest) =>
          if startsOperand (ahead bracketed rest) then do
            let (_, rest) ← primary fuel bracketed 20 rest
            some (.other (between text rest) "await" false, rest)
          else applied fuel bracketed text (.name "await".toList) rest
        | _ => do
          let (term, rest) ← atom fuel bracketed text
          applied fuel bracketed text term rest

/-- Attributes, subscripts and calls after an operand. -/
def applied :
    Nat → (bracketed : Bool) → (start : List Char) → Term → List Char → Option (Term × List Char)
  | 0, _, _, _, _ => none
  | fuel + 1, bracketed, start, left, text =>
    match ahead bracketed text with
    | '.' :: rest => do
      let (_, rest) ← word? (skipGap rest)
      applied fuel bracketed start (.member (between start rest)) rest
    | '[' :: rest => do
      let (arguments, rest) ← subscripts fuel rest
      applied fuel bracketed start (.subscript (between start rest) left arguments) rest
    | '(' :: rest => do
      let rest ← callArguments fuel rest
      applied fuel bracketed start (.other (between start rest) "call" false) rest
    | _ => some (left, text)

/-- What can be an operand by itself. -/
def atom : Nat → (bracketed : Bool) → List Char → Option (Term × List Char)
  | 0, _, _ => none
  | fuel + 1, bracketed, text =>
    match opening? text with
    | some (opening, rest) => do
      let rest ← stringEnd fuel opening rest
      moreStrings fuel bracketed text (.quoted (between text rest)) rest
    | none =>
      match number? text with
      | some (true, rest) => some (.other (between text rest) "float" false, rest)
      | some (false, rest) => some (.integer (between text rest), rest)
      | none =>
        match text with
        | '(' :: rest => group fuel text rest
        | '[' :: rest => listDisplay fuel text rest
        | '{' :: rest => braces fuel text rest
        | '.' :: '.' :: '.' :: rest => some (.ellipsis, rest)
        | _ => (word? text).map fun (word, rest) => (ofWord word, rest)

/-- Strings that follow a string and make one with it. -/
def moreStrings :
    Nat → (bracketed : Bool) → (start : List Char) → Term → List Char → Option (Term × List Char)
  | 0, _, _, _, _ => none
  | fuel + 1, bracketed, start, left, text =>
    match opening? (ahead bracketed text) with
    | some (opening, rest) => do
      let rest ← stringEnd fuel opening rest
      let all := between start rest
      moreStrings fuel bracketed start (.other all "concatenated_string" false) rest
    | none => some (left, text)

/-- What is left after a string, given its beginning. -/
def stringEnd : Nat → Opening → List Char → Option (List Char)
  | 0, _, _ => none
  | fuel + 1, opening, text =>
    if opening.format then formatEnd fuel opening true text
    else closing? opening (text.length + 1) true text

/-- The same for a string with expressions between braces. -/
def formatEnd : Nat → Opening → (mayBreak : Bool) → List Char → Option (List Char)
  | 0, _, _, _ => none
  | fuel + 1, opening, mayBreak, text =>
    match text with
    | '{' :: '{' :: rest | '}' :: '}' :: rest => formatEnd fuel opening true rest
    | '}' :: _ => none
    | '{' :: rest => do
      let rest ← replacement fuel rest
      formatEnd fuel opening true rest
    | text =>
      match advance opening mayBreak text with
      | .closed rest => some rest
      | .inside mayBreak rest => formatEnd fuel opening mayBreak rest
      | .failed => none

/-- An expression between braces, up to and with the closing one. -/
def replacement : Nat → List Char → Option (List Char)
  | 0, _ => none
  | fuel + 1, text => do
    let (_, rest) ← listed fuel true text
    let rest := skipGap rest
    let rest := (afterSymbol? "=" rest).getD rest
    let rest := match skipGap rest with
      | '!' :: rest => ((word? rest).map Prod.snd).getD rest
      | rest => rest
    match skipGap rest with
    | '}' :: rest => some rest
    | ':' :: rest => formatSpecification fuel rest
    | _ => none

/-- How an expression between braces is to be shown, up to and with the closing brace. -/
def formatSpecification : Nat → List Char → Option (List Char)
  | 0, _ => none
  | fuel + 1, text =>
    match text with
    | '}' :: rest => some rest
    | '{' :: rest => do
      let rest ← replacement fuel rest
      formatSpecification fuel rest
    | c :: rest => if c = '\n' then none else formatSpecification fuel rest
    | [] => none

/-- A part of a display: an expression, an unpacked one, or a yield. -/
def element : Nat → List Char → Option (Term × List Char)
  | 0, _ => none
  | fuel + 1, text =>
    let start := skipGap text
    match afterSymbol? "*" start with
    | some rest => do
      let (term, rest) ← expression fuel true 0 rest
      some (.other (between start rest) "list_splat" term.isPlace, rest)
    | none =>
      match leadingWord? start with
      | some ("yield", rest) => do
        let rest ← yielded fuel true rest
        some (.other (between start rest) "yield" false, rest)
      | _ => expression fuel true 0 start

/-- The further parts of a display, after a part, up to and with the closing bracket. -/
def elements : Nat → (closing : Char) → List Char → Option (List Term × List Char)
  | 0, _, _ => none
  | fuel + 1, closing, text =>
    match skipGap text with
    | [] => none
    | c :: rest =>
      if c = closing then some ([], rest)
      else if c = ',' then
        match skipGap rest with
        | [] => none
        | c :: after =>
          if c = closing then some ([], after)
          else do
            let (first, rest) ← element fuel rest
            let (others, rest) ← elements fuel closing rest
            some (first :: others, rest)
      else none

/-- What stands after an opening parenthesis: a tuple, a generator, or one expression. -/
def group : Nat → (start : List Char) → List Char → Option (Term × List Char)
  | 0, _, _ => none
  | fuel + 1, start, text =>
    match (gap text).rest with
    | ')' :: rest =>
      some (.tuple (between start rest) (gap text).comment.isNone true, rest)
    | inside => do
      let (first, rest) ← element fuel inside
      let next := skipGap rest
      if startsComprehension next then
        let rest ← comprehension fuel next
        match skipGap rest with
        | ')' :: rest => some (.other (between start rest) "generator_expression" false, rest)
        | _ => none
      else
        match next with
        | ')' :: rest =>
          let inner := match (gap text).comment with
            | some comment => .other comment "comment" false
            | none => first
          some (.parenthesized (between start rest) inner, rest)
        | _ =>
          let (others, rest) ← elements fuel ')' next
          some (.tuple (between start rest) false ((first :: others).all Term.isAssignable), rest)

/-- What stands after an opening square bracket that begins an operand. -/
def listDisplay : Nat → (start : List Char) → List Char → Option (Term × List Char)
  | 0, _, _ => none
  | fuel + 1, start, text =>
    match skipGap text with
    | ']' :: rest => some (.other (between start rest) "list" true, rest)
    | inside => do
      let (first, rest) ← element fuel inside
      let next := skipGap rest
      if startsComprehension next then
        let rest ← comprehension fuel next
        match skipGap rest with
        | ']' :: rest => some (.other (between start rest) "list_comprehension" false, rest)
        | _ => none
      else
        let (others, rest) ← elements fuel ']' next
        some (.other (between start rest) "list" ((first :: others).all Term.isAssignable), rest)

/-- What stands after an opening brace: a set or a dictionary. -/
def braces : Nat → (start : List Char) → List Char → Option (Term × List Char)
  | 0, _, _ => none
  | fuel + 1, start, text =>
    match skipGap text with
    | '}' :: rest => some (.other (between start rest) "dictionary" false, rest)
    | ',' :: rest =>
      match skipGap rest with
      | '}' :: rest => some (.other (between start rest) "dictionary" false, rest)
      | _ => none
    | '*' :: '*' :: rest => do
      let (_, rest) ← primary fuel true 14 rest
      let rest ← entries fuel rest
      some (.other (between start rest) "dictionary" false, rest)
    | inside => do
      let (_, rest) ← element fuel inside
      match skipGap rest with
      | ':' :: rest =>
        let (_, rest) ← expression fuel true 0 rest
        let next := skipGap rest
        if startsComprehension next then
          let rest ← comprehension fuel next
          match skipGap rest with
          | '}' :: rest => some (.other (between start rest) "dictionary_comprehension" false, rest)
          | _ => none
        else
          let rest ← entries fuel next
          some (.other (between start rest) "dictionary" false, rest)
      | next =>
        if startsComprehension next then
          let rest ← comprehension fuel next
          match skipGap rest with
          | '}' :: rest => some (.other (between start rest) "set_comprehension" false, rest)
          | _ => none
        else
          let (_, rest) ← elements fuel '}' next
          some (.other (between start rest) "set" false, rest)

/-- The further entries of a dictionary, after an entry, up to and with the closing brace. -/
def entries : Nat → List Char → Option (List Char)
  | 0, _ => none
  | fuel + 1, text =>
    match skipGap text with
    | '}' :: rest => some rest
    | ',' :: rest =>
      match skipGap rest with
      | '}' :: rest => some rest
      | '*' :: '*' :: rest => do
        let (_, rest) ← primary fuel true 14 rest
        entries fuel rest
      | rest => do
        let (_, rest) ← expression fuel true 0 rest
        match skipGap rest with
        | ':' :: rest =>
          let (_, rest) ← expression fuel true 0 rest
          entries fuel rest
        | _ => none
    | _ => none

/-- The clauses of a comprehension. -/
def comprehension : Nat → List Char → Option (List Char)
  | 0, _ => none
  | fuel + 1, text =>
    let start := skipGap text
    match word? start with
    | some ("async", rest) => do
      let rest ← afterWord? "for" (skipGap rest)
      let rest ← forClause fuel rest
      comprehension fuel rest
    | some ("for", rest) => do
      let rest ← forClause fuel rest
      comprehension fuel rest
    | some ("if", rest) => do
      let (_, rest) ← expression fuel true 2 rest
      comprehension fuel rest
    | _ => some text

/-- The targets and the sources of a loop. -/
def forClause : Nat → List Char → Option (List Char)
  | 0, _ => none
  | fuel + 1, text => do
    let rest ← targets fuel text
    let rest ← afterWord? "in" (skipGap rest)
    sources fuel rest

/-- The sources of a loop inside a comprehension. -/
def sources : Nat → List Char → Option (List Char)
  | 0, _ => none
  | fuel + 1, text => do
    let (_, rest) ← expression fuel true 2 text
    match skipGap rest with
    | ',' :: next =>
      if startsOperand (skipGap next) then sources fuel next else some next
    | _ => some rest

/-- The targets of a loop. -/
def targets : Nat → List Char → Option (List Char)
  | 0, _ => none
  | fuel + 1, text => do
    let (target, rest) ← operand fuel true (skipGap text)
    if !target.isAssignable then none
    else
      match skipGap rest with
      | ',' :: next => if startsOperand (skipGap next) then targets fuel next else some next
      | _ => some rest

/-- What is subscripted: at least one expression or slice, up to and with the closing bracket. -/
def subscripts : Nat → List Char → Option (List Term × List Char)
  | 0, _ => none
  | fuel + 1, text => do
    let (first, rest) ← slice fuel text
    match skipGap rest with
    | ']' :: rest => some ([first], rest)
    | ',' :: rest =>
      match skipGap rest with
      | ']' :: rest => some ([first], rest)
      | rest =>
        let (others, rest) ← subscripts fuel rest
        some (first :: others, rest)
    | _ => none

/-- An expression or a slice. -/
def slice : Nat → List Char → Option (Term × List Char)
  | 0, _ => none
  | fuel + 1, text =>
    let start := skipGap text
    match start with
    | ':' :: rest => sliceEnd fuel start true rest
    | _ => do
      let (term, rest) ← expression fuel true 0 start
      match skipGap rest with
      | ':' :: rest => sliceEnd fuel start true rest
      | _ => some (term, rest)

/-- A slice after its first or second colon. -/
def sliceEnd : Nat → (start : List Char) → (isFirst : Bool) → List Char → Option (Term × List Char)
  | 0, _, _, _ => none
  | fuel + 1, start, isFirst, text =>
    match skipGap text with
    | ':' :: rest => if isFirst then sliceEnd fuel start false rest else none
    | ']' :: _ | ',' :: _ => some (.other (between start text) "slice" false, text)
    | next => do
      let (_, rest) ← expression fuel true 0 next
      match skipGap rest with
      | ':' :: rest => if isFirst then sliceEnd fuel start false rest else none
      | _ => some (.other (between start rest) "slice" false, rest)

/-- The arguments of a call, up to and with the closing parenthesis. -/
def callArguments : Nat → List Char → Option (List Char)
  | 0, _ => none
  | fuel + 1, text =>
    match skipGap text with
    | ')' :: rest => some rest
    | ',' :: rest =>
      match skipGap rest with
      | ')' :: rest => some rest
      | _ => none
    | rest => do
      let rest ← argument fuel rest
      let next := skipGap rest
      if startsComprehension next then
        let rest ← comprehension fuel next
        match skipGap rest with
        | ')' :: rest => some rest
        | _ => none
      else moreArguments fuel next

/-- One argument of a call. -/
def argument : Nat → List Char → Option (List Char)
  | 0, _ => none
  | fuel + 1, text =>
    let start := skipGap text
    match start with
    | '*' :: '*' :: rest => do
      let (_, rest) ← expression fuel true 0 rest
      some rest
    | '*' :: rest => do
      let (_, rest) ← expression fuel true 0 rest
      some rest
    | _ => do
      let (_, rest) ← expression fuel true 0 ((keywordArgument? start).getD start)
      some rest

/-- The further arguments of a call. -/
def moreArguments : Nat → List Char → Option (List Char)
  | 0, _ => none
  | fuel + 1, text =>
    match skipGap text with
    | ')' :: rest => some rest
    | ',' :: rest =>
      match skipGap rest with
      | ')' :: rest => some rest
      | rest => do
        let rest ← argument fuel rest
        moreArguments fuel rest
    | _ => none

/-- Parameters up to and with a closing character, with their defaults and, between parentheses,
their hints. -/
def parameters : Nat → (closing : Char) → List Char → Option (List Char)
  | 0, _, _ => none
  | fuel + 1, closing, text =>
    match skipGap text with
    | [] => none
    | c :: rest =>
      if c = closing then some rest
      else do
        let rest ← parameter fuel (closing = ')') (c :: rest)
        match skipGap rest with
        | [] => none
        | c :: rest =>
          if c = closing then some rest
          else if c = ',' then parameters fuel closing rest
          else none

/-- One parameter. -/
def parameter : Nat → (mayHint : Bool) → List Char → Option (List Char)
  | 0, _, _ => none
  | fuel + 1, mayHint, text => do
    let start := skipGap text
    let rest ← match start with
      | '*' :: '*' :: rest => do
        let (_, rest) ← word? (skipGap rest)
        some rest
      | '*' :: rest => some (((word? (skipGap rest)).map Prod.snd).getD rest)
      | '/' :: rest => some rest
      | '(' :: rest => parameters fuel ')' rest
      | _ => do
        let (_, rest) ← word? start
        some rest
    let rest ← match skipGap rest with
      | ':' :: hint =>
        if mayHint then do
          let (_, rest) ← element fuel hint
          some rest
        else some rest
      | _ => some rest
    match afterSymbol? "=" (skipGap rest) with
    | some rest => do
      let (_, rest) ← expression fuel true 0 rest
      some rest
    | none => some rest

/-- One or more expressions with commas between them, and perhaps one at the end. -/
def listed : Nat → (bracketed : Bool) → List Char → Option (List Term × List Char)
  | 0, _, _ => none
  | fuel + 1, bracketed, text => do
    let start := skipGap text
    let (first, rest) ← match leadingWord? start with
      | some ("yield", rest) => do
        let rest ← yielded fuel bracketed rest
        some (.other (between start rest) "yield" false, rest)
      | _ => expression fuel bracketed 0 start
    match ahead bracketed rest with
    | ',' :: next =>
      if startsExpression (ahead bracketed next) then
        let (others, rest) ← listed fuel bracketed next
        some (first :: others, rest)
      else some ([first], next)
    | _ => some ([first], rest)

/-- What is yielded, if anything. -/
def yielded : Nat → (bracketed : Bool) → List Char → Option (List Char)
  | 0, _, _ => none
  | fuel + 1, bracketed, text =>
    let next := ahead bracketed text
    match word? next with
    | some ("from", rest) => do
      let (_, rest) ← expression fuel bracketed 0 rest
      some rest
    | _ =>
      if startsExpression next then do
        let (_, rest) ← listed fuel bracketed next
        some rest
      else some text

end

/-! ### Simple statements -/

/-- The signs that assign the result of an operation. -/
def isAugmenting (symbol : String) : Bool :=
  ["+=", "-=", "*=", "/=", "@=", "//=", "%=", "**=", ">>=", "<<=", "&=", "^=", "|="].contains symbol

/-- What is assigned, perhaps by a chain of assignments. -/
def assigned : Nat → List Char → Option (List Char)
  | 0, _ => none
  | fuel + 1, text => do
    let (terms, rest) ← listed fuel false text
    match symbol? (ahead false rest) with
    | some (symbol, next) =>
      if symbol = "=" ∨ isAugmenting symbol then
        if terms.all Term.isAssignable then assigned fuel next else none
      else some rest
    | none => some rest

/-- A statement made of expressions: the term it is, unless it is several. -/
def expressionStatement (fuel : Nat) (text : List Char) : Option (Option Term × List Char) := do
  let start := skipGap text
  let (terms, rest) ← listed fuel false start
  match symbol? (ahead false rest) with
  | some (symbol, next) =>
    if symbol = "=" ∨ isAugmenting symbol then
      if terms.all Term.isAssignable then do
        let rest ← assigned fuel next
        let kind := if symbol = "=" then "assignment" else "augmented_assignment"
        some (some (.other (between start rest) kind false), rest)
      else none
    else if symbol = ":" then
      if terms.all Term.isAssignable then do
        let (_, rest) ← expression fuel false 0 next
        match afterSymbol? "=" (ahead false rest) with
        | some next =>
          let rest ← assigned fuel next
          some (some (.other (between start rest) "assignment" false), rest)
        | none => some (some (.other (between start rest) "assignment" false), rest)
      else none
    else some (sole terms, rest)
  | none => some (sole terms, rest)
where
  sole : List Term → Option Term
    | [term] => some term
    | _ => none

/-- Nothing, or a list of expressions. -/
def optionalExpressions (fuel : Nat) (text : List Char) : Option (List Char) :=
  if startsExpression (ahead false text) then (listed fuel false text).map Prod.snd else some text

/-- Words with dots between them. -/
def dottedName : Nat → List Char → Option (List Char)
  | 0, _ => none
  | fuel + 1, text => do
    let (_, rest) ← word? (skipGap text)
    match ahead false rest with
    | '.' :: rest => dottedName fuel rest
    | _ => some rest

/-- What is imported, up to the closing parenthesis if there is one. -/
def importedNames : Nat → (bracketed : Bool) → List Char → Option (List Char)
  | 0, _, _ => none
  | fuel + 1, bracketed, text => do
    let rest ← dottedName fuel text
    let rest ← match afterWord? "as" (ahead bracketed rest) with
      | some rest => (word? (skipGap rest)).map Prod.snd
      | none => some rest
    match ahead bracketed rest with
    | ',' :: rest =>
      match bracketed, skipGap rest with
      | true, ')' :: rest => some rest
      | _, _ => importedNames fuel bracketed rest
    | ')' :: after => if bracketed then some after else some rest
    | _ => if bracketed then none else some rest

/-- What stands behind `from`. -/
def importSource (fuel : Nat) (text : List Char) : Option (List Char) := do
  let dots := skipGap text
  let afterDots := dots.dropWhile fun c => c = '.' || isSpacing c
  let rest ←
    if dots.head? = some '.' ∧ (afterWord? "import" afterDots).isSome then some afterDots
    else dottedName fuel afterDots
  let rest ← afterWord? "import" (ahead false rest)
  match ahead false rest with
  | '*' :: rest => some rest
  | '(' :: rest => importedNames fuel true rest
  | _ => importedNames fuel false rest

/-- Names with commas between them. -/
def names : Nat → List Char → Option (List Char)
  | 0, _ => none
  | fuel + 1, text => do
    let (_, rest) ← word? (skipGap text)
    match ahead false rest with
    | ',' :: rest => names fuel rest
    | _ => some rest

/-- Whether a simple statement is over. -/
def isOver (text : List Char) : Bool :=
  match ahead false text with
  | [] => true
  | c :: _ => c = ';'

/-- A statement that a keyword begins. -/
def keywordStatement? (fuel : Nat) (word : String) (text : List Char) : Option (List Char) :=
  if ["pass", "break", "continue"].contains word then some text
  else if word = "return" ∨ word = "raise" then do
    let rest ← optionalExpressions fuel text
    match if word = "raise" then afterWord? "from" (ahead false rest) else none with
    | some rest => (expression fuel false 0 rest).map Prod.snd
    | none => some rest
  else if word = "del" ∨ word = "assert" then (listed fuel false text).map Prod.snd
  else if word = "global" ∨ word = "nonlocal" then names fuel text
  else if word = "import" then importedNames fuel false text
  else if word = "from" then importSource fuel text
  else none

/-- The words that begin a statement and can also be names. -/
def looseStatement? (fuel : Nat) (word : String) (text : List Char) : Option (List Char) :=
  if word = "print" then
    match afterSymbol? ">>" (ahead false text) with
    | some rest => (listed fuel false rest).map Prod.snd
    | none => (listed fuel false text).map Prod.snd
  else if word = "exec" then (listed fuel false text).map Prod.snd
  else if word = "type" then do
    let (_, rest) ← expression fuel false 0 text
    let rest ← afterSymbol? "=" (ahead false rest)
    (expression fuel false 0 rest).map Prod.snd
  else none

/-- The keywords of simple statements. -/
def isKeyword (word : String) : Bool :=
  ["pass", "break", "continue", "return", "raise", "del", "assert", "global", "nonlocal", "import",
    "from"].contains word

/-- One simple statement: the term it is, if it is one. -/
def simpleStatement (fuel : Nat) (text : List Char) : Option (Option Term × List Char) :=
  let start := skipGap text
  match leadingWord? start with
  | none => expressionStatement fuel start
  | some (word, rest) =>
    if isKeyword word then (keywordStatement? fuel word rest).map fun rest => (none, rest)
    else
      let loose := do
        let rest ← looseStatement? fuel word rest
        if isOver rest then some (none, rest) else none
      let plain := do
        let (term, rest) ← expressionStatement fuel start
        if isOver rest then some (term, rest) else none
      if word = "type" ∨ (word = "print" ∧ (afterSymbol? ">>" (ahead false rest)).isSome) then
        loose.or plain
      else plain.or loose

/-! ### Statements -/

/-- What a text holds. -/
inductive Outline where
  | empty
  | single (term : Term)
  | several

/-- Simple statements on one line: the term they are if they are one term. The second argument
says what came before them. -/
def simpleStatements : Nat → Outline → List Char → Option (Outline × List Char)
  | 0, _, _ => none
  | fuel + 1, before, text => do
    let (term, rest) ← simpleStatement fuel text
    let outline := match before, term with
      | .empty, some term => .single term
      | _, _ => .several
    match ahead false rest with
    | [] => some (outline, rest)
    | ';' :: rest =>
      if (ahead false rest).isEmpty then some (outline, rest)
      else simpleStatements fuel outline rest
    | _ => none

/-- The kinds of clauses that have other statements inside. -/
inductive Clause where
  | condition | loop | context | attempt | handler | otherwise | function | kind
  deriving DecidableEq

/-- The clause that a word begins; `inside` allows those that go on with a statement. -/
def clause? (inside : Bool) (word : String) : Option Clause :=
  if word = "if" ∨ word = "while" then some .condition
  else if word = "for" then some .loop
  else if word = "with" then some .context
  else if word = "try" then some .attempt
  else if word = "def" then some .function
  else if word = "class" then some .kind
  else if !inside then none
  else if word = "elif" then some .condition
  else if word = "except" ∨ word = "finally" then some .handler
  else if word = "else" then some .otherwise
  else none

/-- The head of a clause, up to its colon. -/
def clauseHead (fuel : Nat) (clause : Clause) (text : List Char) : Option (List Char) :=
  match clause with
  | .attempt | .otherwise => some text
  | .condition => (expression fuel false 0 text).map Prod.snd
  | .loop => do
    let rest ← targets fuel text
    let rest ← afterWord? "in" (skipGap rest)
    (listed fuel false rest).map Prod.snd
  | .context => (listed fuel false text).map Prod.snd
  | .handler => optionalExpressions fuel text
  | .function => do
    let (_, rest) ← word? (skipGap text)
    match skipGap rest with
    | '(' :: rest =>
      let rest ← parameters fuel ')' rest
      match afterSymbol? "->" (skipGap rest) with
      | some rest => (expression fuel false 0 rest).map Prod.snd
      | none => some rest
    | _ => none
  | .kind => do
    let (_, rest) ← word? (skipGap text)
    match skipGap rest with
    | '(' :: rest => callArguments fuel rest
    | _ => some rest

/-- The clause at the start of a text, and what is left after its first words. -/
def clauseStart? (inside : Bool) (text : List Char) : Option (Clause × List Char) := do
  let (word, rest) ← leadingWord? text
  if word = "async" then
    let (word, rest) ← word? (skipGap rest)
    if ["def", "for", "with"].contains word then some (← clause? inside word, rest) else none
  else some (← clause? inside word, rest)

/-- How far the statements of a text have got. -/
structure Standing where
  outline : Outline
  /-- Whether a clause has come that others can go on with. -/
  inside : Bool
  /-- Whether an attempt still lacks its handler. -/
  attempting : Bool
  /-- Whether decorators wait for what they decorate. -/
  decorated : Bool

namespace Standing

/-- Whether the text may end here. -/
def mayEnd (standing : Standing) : Bool := !standing.attempting && !standing.decorated

/-- Whether a clause may come next. -/
def allows (standing : Standing) (clause : Clause) : Bool :=
  !standing.decorated || clause = .function || clause = .kind

/-- How things stand after a clause. -/
def after (standing : Standing) (clause : Clause) : Standing :=
  { outline := .several
    inside := true
    attempting := clause = .attempt || (standing.attempting && clause ≠ .handler)
    decorated := false }

end Standing

/-- All statements of a text. Where the lines of a block begin does not matter here. -/
def statements : Nat → Standing → List Char → Option Outline
  | 0, _, _ => none
  | fuel + 1, standing, text =>
    let found := gap text
    let standing :=
      if found.comment.isSome then { standing with outline := .several } else standing
    match found.rest with
    | [] => if standing.mayEnd then some standing.outline else none
    | '@' :: rest => do
      let (_, rest) ← expression fuel false 0 rest
      if (ahead false rest).isEmpty then
        statements fuel { standing with outline := .several, decorated := true } rest
      else none
    | start =>
      match clauseStart? standing.inside start with
      | some (clause, rest) => do
        let rest ← if standing.allows clause then clauseHead fuel clause rest else none
        match skipGap rest with
        | ':' :: rest =>
          if (ahead false rest).isEmpty then statements fuel (standing.after clause) rest
          else
            let (_, rest) ← simpleStatements fuel .several rest
            statements fuel (standing.after clause) rest
        | _ => none
      | none =>
        if standing.decorated then none
        else do
          let (outline, rest) ← simpleStatements fuel standing.outline start
          statements fuel { standing with outline } rest

/-- What a text holds, or nothing if it is not well formed. -/
def outline (text : List Char) : Option Outline :=
  statements (16 * (text.length + 4)) ⟨.empty, false, false, false⟩ text

end CallGuard.Grammar
