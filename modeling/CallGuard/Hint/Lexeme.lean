/-
The smallest parts of the text of a hint: the gaps between lexemes, words,
symbols, numbers, and strings without anything to evaluate in them. Each reader
takes the remaining text and returns what is left of it.
-/
import CallGuard.Text.Quoted
import CallGuard.Text.Word

namespace CallGuard.Lexeme

open Text

/-- What was read from a text, given what is left of it. -/
def between (start rest : List Char) : List Char := start.take (start.length - rest.length)

/-! ### Gaps -/

/-- What stands before a lexeme: the first comment, whether a line ends, and the text after it. -/
structure Gap where
  comment : Option (List Char)
  broken : Bool
  rest : List Char

/-- Spaces, and the characters without width that count as such. -/
def isSpacing (c : Char) : Bool :=
  [0x09, 0x0c, 0x0d, 0x20, 0xfeff, 0x2060, 0x200b].contains c.toNat

/-- As `gap`, after a comment and a line end have been seen or not, and with a number of characters
that are still part of a comment. -/
def gapFrom (comment : Option (List Char)) (broken : Bool) : Nat → List Char → Gap
  | _, [] => ⟨comment, broken, []⟩
  | inside + 1, _ :: rest => gapFrom comment broken inside rest
  | 0, '\\' :: '\n' :: rest => gapFrom comment broken 0 rest
  | 0, '\\' :: '\r' :: '\n' :: rest => gapFrom comment broken 0 rest
  | 0, c :: rest =>
    if c = '\n' then gapFrom comment true 0 rest
    else if c = '#' then
      let body := rest.takeWhile (· ≠ '\n')
      gapFrom (comment.or (some (c :: body))) broken body.length rest
    else if isSpacing c then gapFrom comment broken 0 rest
    else ⟨comment, broken, c :: rest⟩

/-- The gap at the start of a text: spaces, line ends, comments, and line ends hidden by a
backslash. -/
def gap (text : List Char) : Gap := gapFrom none false 0 text

/-- The text after a gap in which line ends do not count. -/
def skipGap (text : List Char) : List Char := (gap text).rest

/-- The text after a gap, or nothing where a line ends outside of brackets. -/
def ahead (bracketed : Bool) (text : List Char) : List Char :=
  let found := gap text
  if found.broken && !bracketed then [] else found.rest

/-! ### Words and symbols -/

/-- A word at the start of a text. -/
def word? : List Char → Option (String × List Char)
  | [] => none
  | c :: rest =>
    if startsWord c then
      some (String.ofList (c :: rest.takeWhile continuesWord), rest.dropWhile continuesWord)
    else none

/-- The text after a given word at its start. -/
def afterWord? (expected : String) (text : List Char) : Option (List Char) := do
  let (found, rest) ← word? text
  if found = expected then some rest else none

/-- All symbols, longer ones first. -/
def symbols : List String :=
  ["**=", "//=", ">>=", "<<=", "...", "**", "//", ">>", "<<", "<=", ">=", "==", "!=", "<>", "->",
    "+=", "-=", "*=", "/=", "@=", "%=", "&=", "^=", "|=", ":=", "+", "-", "*", "/", "%", "@", "&",
    "|", "^", "~", "<", ">", "(", ")", "[", "]", "\x7b", "\x7d", ",", ":", ".", ";", "="]

/-- The longest symbol at the start of a text. -/
def symbol? (text : List Char) : Option (String × List Char) :=
  symbols.findSome? fun symbol =>
    if symbol.toList.isPrefixOf text then some (symbol, text.drop symbol.length) else none

/-- The text after a given symbol at its start. -/
def afterSymbol? (expected : String) (text : List Char) : Option (List Char) := do
  let (found, rest) ← symbol? text
  if found = expected then some rest else none

/-! ### Numbers -/

/-- What is left after digits with single underscores behind them. -/
def skipDigits (afterUnderscore : Bool) : List Char → List Char
  | [] => []
  | c :: rest =>
    if c.isDigit then skipDigits false rest
    else if c = '_' ∧ ¬ afterUnderscore then skipDigits true rest
    else c :: rest

/-- As `skipDigits`, with at least one digit. -/
def digits? : List Char → Option (List Char)
  | [] => none
  | c :: rest => if c.isDigit then some (skipDigits false rest) else none

/-- What is left after digits of some base with single underscores before them. -/
def skipBased (isDigit : Char → Bool) : List Char → List Char
  | [] => []
  | '_' :: c :: rest => if isDigit c then skipBased isDigit rest else '_' :: c :: rest
  | c :: rest => if isDigit c then skipBased isDigit rest else c :: rest

/-- The digits of the base that a letter after a zero announces. -/
def baseDigits? (letter : Char) : Option (Char → Bool) :=
  if letter = 'x' ∨ letter = 'X' then some fun c => (hexValue? c).isSome
  else if letter = 'o' ∨ letter = 'O' then some fun c => '0' ≤ c && c ≤ '7'
  else if letter = 'b' ∨ letter = 'B' then some fun c => c == '0' || c == '1'
  else none

/-- What is left after one of the given letters, if it is there. -/
def skipOne (letters : List Char) : List Char → List Char
  | [] => []
  | c :: rest => if letters.contains c then rest else c :: rest

/-- A whole number written with a base. -/
def based? : List Char → Option (List Char)
  | '0' :: letter :: rest => do
    let isDigit ← baseDigits? letter
    let after := skipBased isDigit rest
    if after.length < rest.length then some (skipOne ['l', 'L'] after) else none
  | _ => none

/-- An exponent. -/
def exponent? : List Char → Option (List Char)
  | c :: rest => if c = 'e' ∨ c = 'E' then digits? (skipOne ['+', '-'] rest) else none
  | [] => none

/-- A number with a point or an exponent, without the letter that may follow it. -/
def fractional? (text : List Char) : Option (List Char) :=
  match digits? text with
  | some ('.' :: rest) =>
    let after := (digits? rest).getD rest
    some ((exponent? after).getD after)
  | some rest => exponent? rest
  | none =>
    match text with
    | '.' :: rest => (digits? rest).map fun after => (exponent? after).getD after
    | _ => none

/-- A number: whether it has a point or an exponent, and what is left after it. -/
def number? (text : List Char) : Option (Bool × List Char) :=
  match fractional? text with
  | some rest => some (true, skipOne ['l', 'L', 'j', 'J'] rest)
  | none =>
    match based? text with
    | some rest => some (false, rest)
    | none => (digits? text).map fun rest => (false, skipOne ['l', 'L', 'j', 'J'] rest)

/-! ### Strings -/

/-- How a string begins. -/
structure Opening where
  raw : Bool
  bytes : Bool
  format : Bool
  quote : Char
  triple : Bool

/-- The letters that may stand before the opening quote. -/
def isStringMark (c : Char) : Bool := ['f', 'F', 'r', 'R', 'b', 'B', 'u', 'U'].contains c

/-- The beginning of a string. -/
def opening? (text : List Char) : Option (Opening × List Char) :=
  let marks := text.takeWhile isStringMark
  let opening := Opening.mk (marks.any fun c => c == 'r' || c == 'R')
    (marks.any fun c => c == 'b' || c == 'B') (marks.any fun c => c == 'f' || c == 'F')
  match text.dropWhile isStringMark with
  | '\'' :: '\'' :: '\'' :: rest => some (opening '\'' true, rest)
  | '"' :: '"' :: '"' :: rest => some (opening '"' true, rest)
  | c :: rest => if c = '\'' ∨ c = '"' ∨ c = '\x60' then some (opening c false, rest) else none
  | [] => none

/-- The number of characters that belong to a backslash before them; none if it stands for
itself. -/
def escapeLength : List Char → Nat
  | 'u' :: rest => if hexDigits 4 rest then 5 else 0
  | 'U' :: rest => if hexDigits 8 rest then 9 else 0
  | 'x' :: rest => if hexDigits 2 rest then 3 else 0
  | 'N' :: '{' :: rest =>
    let name := rest.takeWhile (· ≠ '}')
    if name.isEmpty || name.length == rest.length then 0 else name.length + 3
  | '\r' :: '\n' :: _ => 2
  | c :: rest =>
    if ['\n', '\'', '"', 'a', 'b', 'f', 'r', 'n', 't', 'v', '\\'].contains c then 1
    else if c.isDigit ∧ ((rest.take 2).filter Char.isDigit).length = 2 then 3
    else 0
  | [] => 0
where
  hexDigits (count : Nat) (text : List Char) : Bool :=
    ((text.take count).filter fun c => (hexValue? c).isSome).length == count

/-- The same where backslashes stand for themselves but still protect a quote or a line end. -/
def rawEscapeLength (quote : Char) (text : List Char) : Nat :=
  match text with
  | c :: rest => if c = quote ∨ c = '\\' then 1 + lineEnd rest else lineEnd (c :: rest)
  | [] => 0
where
  lineEnd : List Char → Nat
    | '\r' :: '\n' :: _ => 2
    | '\r' :: _ | '\n' :: _ => 1
    | _ => 0

/-- One step through a string: it ends, or goes on, in which case it is also known whether a line
end may come next. -/
inductive Progress where
  | closed (rest : List Char)
  | inside (mayBreak : Bool) (rest : List Char)
  | failed

/-- Steps over the next character of a string, or over an escape. -/
def advance (opening : Opening) (mayBreak : Bool) : List Char → Progress
  | [] => .failed
  | c :: rest =>
    if c = '\x00' then .failed
    else if c = '\\' then
      if opening.raw then .inside mayBreak (rest.drop (rawEscapeLength opening.quote rest))
      else if opening.bytes && (rest.take 1).any (fun c => ['N', 'u', 'U'].contains c) then
        .inside false (rest.drop 2)
      else .inside true (rest.drop (escapeLength rest))
    else if c = opening.quote then
      if !opening.triple then .closed rest
      else
        let more := (rest.takeWhile (· = c)).length
        if 2 ≤ more then .closed (rest.drop 2) else .inside true (rest.drop more)
    else if c = '\n' ∧ ¬ mayBreak ∧ ¬ opening.triple then .failed
    else .inside false rest

/-- What is left after the end of a string. -/
def closing? (opening : Opening) : Nat → Bool → List Char → Option (List Char)
  | 0, _, _ => none
  | fuel + 1, mayBreak, text =>
    match advance opening mayBreak text with
    | .closed rest => some rest
    | .inside mayBreak rest => closing? opening fuel mayBreak rest
    | .failed => none

end CallGuard.Lexeme
