/-
Quoted text: a string written between quotes, with a backslash before whatever
cannot stand there as itself. There are two writers, one that picks the quote
and one that always takes a single quote and also hides braces, so that a
quoted text can never be mistaken for a placeholder. There are two readers: one
for the body between two quotes, one that finds the closing quote by itself.
-/
import CallGuard.Text.Blank

namespace CallGuard.Text

/-! ### Writing -/

/-- A number below 256 as two hexadecimal digits. -/
def hexByte (n : Nat) : List Char := [Nat.digitChar (n / 16 % 16), Nat.digitChar (n % 16)]

/-- A character below 256 by its number. -/
def escapedByNumber (c : Char) : List Char := '\\' :: 'x' :: hexByte c.toNat

/-- A character as it stands between two quotes of the given kind. -/
def escaped (quote c : Char) : List Char :=
  if c = '\\' then ['\\', '\\']
  else if c = '\n' then ['\\', 'n']
  else if c = '\r' then ['\\', 'r']
  else if c = '\t' then ['\\', 't']
  else if c = quote then ['\\', c]
  else if isControl c then escapedByNumber c
  else [c]

/-- The quote a text is written with: a double one if it has single quotes and no double ones. -/
def quoteFor (text : List Char) : Char := if '\'' ∈ text ∧ '"' ∉ text then '"' else '\''

/-- A text between quotes. -/
def quoted (text : String) : String :=
  let chars := text.toList
  let quote := quoteFor chars
  String.ofList (quote :: chars.flatMap (escaped quote) ++ [quote])

/-- As `escaped` for single quotes, with braces given by number. -/
def escapedWithoutBraces (c : Char) : List Char :=
  if c = '{' ∨ c = '}' then escapedByNumber c else escaped '\'' c

/-- A text between single quotes, free of braces. -/
def quotedWithoutBraces (text : String) : String :=
  String.ofList ('\'' :: text.toList.flatMap escapedWithoutBraces ++ ['\''])

/-! ### Reading -/

/-- The value of a hexadecimal digit in either case. -/
def hexValue? (c : Char) : Option Nat :=
  if '0' ≤ c ∧ c ≤ '9' then some (c.toNat - '0'.toNat)
  else if 'a' ≤ c ∧ c ≤ 'f' then some (c.toNat - 'a'.toNat + 10)
  else if 'A' ≤ c ∧ c ≤ 'F' then some (c.toNat - 'A'.toNat + 10)
  else none

/-- The character with a number of two hexadecimal digits; a plus sign may stand for the first. -/
def charOfHex? (high low : Char) : Option Char :=
  if high = '+' then (hexValue? low).map Char.ofNat
  else do
    let upper ← hexValue? high
    let lower ← hexValue? low
    pure (Char.ofNat (16 * upper + lower))

/-- The text that the body of a quoted text stands for. Escapes that mean nothing are kept. -/
def unescape : List Char → List Char
  | [] => []
  | '\\' :: 'n' :: rest => '\n' :: unescape rest
  | '\\' :: 'r' :: rest => '\r' :: unescape rest
  | '\\' :: 't' :: rest => '\t' :: unescape rest
  | '\\' :: '0' :: rest => '\x00' :: unescape rest
  | '\\' :: '\\' :: rest => '\\' :: unescape rest
  | '\\' :: '\'' :: rest => '\'' :: unescape rest
  | '\\' :: '"' :: rest => '"' :: unescape rest
  | '\\' :: 'x' :: high :: low :: rest =>
    match charOfHex? high low with
    | some c => c :: unescape rest
    | none => '\\' :: 'x' :: high :: low :: unescape rest
  | ['\\', 'x', digit] =>
    match hexValue? digit with
    | some n => [Char.ofNat n]
    | none => ['\\', 'x', digit]
  | c :: rest => c :: unescape rest

/-- The text up to the closing single quote, or up to the end where there is none. Escapes that
mean nothing lose their backslash. -/
def readQuoted : List Char → List Char
  | [] => []
  | '\'' :: _ => []
  | '\\' :: 'n' :: rest => '\n' :: readQuoted rest
  | '\\' :: 'r' :: rest => '\r' :: readQuoted rest
  | '\\' :: 't' :: rest => '\t' :: readQuoted rest
  | '\\' :: 'x' :: rest =>
    match rest with
    | high :: low :: rest =>
      match charOfHex? high low with
      | some c => c :: readQuoted rest
      | none => readQuoted rest
    | [digit] => (hexValue? digit).toList.map Char.ofNat
    | [] => []
  | '\\' :: c :: rest => c :: readQuoted rest
  | ['\\'] => []
  | c :: rest => c :: readQuoted rest

end CallGuard.Text
