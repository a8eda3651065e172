/-
Documents: values and settings as they are written in files and on the command
line, that is, as JSON. A document keeps the members of an object in the order
they were written in, repeated ones included. Integers are kept as such if they
fit into 64 bits, with or without a sign; all other numbers are read as
double-precision ones, by one multiplication or division with a power of ten.
-/
import CallGuard.Number.Binary64
import CallGuard.Text.Quoted

namespace CallGuard

inductive Document where
  | null
  | bool (truth : Bool)
  | integer (number : Int)
  | float (number : Binary64)
  | string (chars : String)
  | list (items : List Document)
  | object (members : List (String × Document))
  deriving Inhabited

namespace Document

/-! ### Numbers -/

/-- Whether a digit at the end of a number takes it beyond 64 bits. -/
def overflows (number digit : Nat) : Bool := 1 <<< 64 ≤ 10 * number + digit

/-- The value of a decimal digit. -/
def digit? (c : Char) : Option Nat := if c.isDigit then some (c.toNat - '0'.toNat) else none

/-- Digits after a number: the number with those that fit into 64 bits, how many came after them,
and the rest. -/
def wholePart (number dropped : Nat) : List Char → Nat × Nat × List Char
  | [] => (number, dropped, [])
  | c :: rest =>
    match digit? c with
    | none => (number, dropped, c :: rest)
    | some digit =>
      if dropped = 0 ∧ !overflows number digit then wholePart (10 * number + digit) 0 rest
      else wholePart number (dropped + 1) rest

/-- Digits after the point, in the same way: the number, how many digits it has taken up, and the
rest. Once a digit does not fit, all others are dropped. -/
def decimalPart (number taken : Nat) : List Char → Nat × Nat × List Char
  | [] => (number, taken, [])
  | c :: rest =>
    match digit? c with
    | none => (number, taken, c :: rest)
    | some digit =>
      if overflows number digit then (number, taken, rest.dropWhile Char.isDigit)
      else decimalPart (10 * number + digit) (taken + 1) rest

/-- The power of ten nearest to the given one that is a double-precision number. -/
def powerOfTen (exponent : Nat) : Nat × Nat :=
  (Binary64.ofRatio false (Nat.pow 10 exponent) 1).ratio

/-- A number times a power of ten; nothing if it is too large. A power too small for
double precision is applied in several divisions, after which little is left of any number. -/
def scaled : Nat → Binary64 → Int → Option Binary64
  | 0, number, _ => some number
  | divisions + 1, number, exponent =>
    if exponent.natAbs ≤ 308 then
      if 0 ≤ exponent then
        let product := number.scaleUp (powerOfTen exponent.natAbs)
        if product.isInfinite then none else some product
      else some (number.scaleDown (powerOfTen exponent.natAbs))
    else if number.isZero then some number
    else if 0 ≤ exponent then none
    else scaled divisions (number.scaleDown (powerOfTen 308)) (exponent + 308)

/-- The number with the given digits and power of ten. -/
def floating (negative : Bool) (number : Nat) (exponent : Int) : Option Document := do
  let magnitude ← scaled 4 (Binary64.ofInt number) exponent
  some (float (if negative then magnitude.neg else magnitude))

/-- The number without a point or an exponent. -/
def whole (negative : Bool) (number : Nat) : Document :=
  if !negative then integer number
  else if 0 < number ∧ number ≤ 1 <<< 63 then integer (-number)
  else float (Binary64.ofInt number).neg

/-- The exponent behind its letter. -/
def exponentPart (text : List Char) : Option (Int × List Char) :=
  let (negative, text) := match text with
    | '+' :: rest => (false, rest)
    | '-' :: rest => (true, rest)
    | _ => (false, text)
  let digits := text.takeWhile Char.isDigit
  if digits.isEmpty then none
  else
    let exponent : Nat := digits.foldl (fun number c => 10 * number + (digit? c).getD 0) 0
    some (if negative then -exponent else exponent, text.drop digits.length)

/-- A number from its exponent on. -/
def withExponent (negative : Bool) (number : Nat) (exponent : Int) (text : List Char) :
    Option (Document × List Char) :=
  match text with
  | 'e' :: rest | 'E' :: rest => do
    let (more, rest) ← exponentPart rest
    some (← floating negative number (exponent + more), rest)
  | _ => do some (← floating negative number exponent, text)

/-- A number without its sign. -/
def magnitude (negative : Bool) (text : List Char) : Option (Document × List Char) := do
  let (number, dropped, rest) ← match text with
    | '0' :: rest => if (rest.take 1).any Char.isDigit then none else some (0, 0, rest)
    | c :: _ => if c.isDigit then some (wholePart 0 0 text) else none
    | [] => none
  match rest with
  | '.' :: decimals =>
    if (decimals.take 1).any Char.isDigit then
      let (number, taken, rest) := decimalPart number 0 decimals
      withExponent negative number (dropped - taken : Int) rest
    else none
  | 'e' :: _ | 'E' :: _ => withExponent negative number dropped rest
  | _ =>
    if dropped = 0 then some (whole negative number, rest)
    else withExponent negative number dropped rest

/-! ### Strings -/

/-- A number of four hexadecimal digits. -/
def hexUnit? : List Char → Option (Nat × List Char)
  | a :: b :: c :: d :: rest => do
    let a ← Text.hexValue? a
    let b ← Text.hexValue? b
    let c ← Text.hexValue? c
    let d ← Text.hexValue? d
    some (((a * 16 + b) * 16 + c) * 16 + d, rest)
  | _ => none

/-- A character given by its number, or by two numbers if the first is the first half of a pair. -/
def numberedChar? (text : List Char) : Option (Char × List Char) := do
  let (unit, rest) ← hexUnit? text
  if 0xdc00 ≤ unit ∧ unit < 0xe000 then none
  else if 0xd800 ≤ unit ∧ unit < 0xdc00 then
    match rest with
    | '\\' :: 'u' :: rest => do
      let (low, rest) ← hexUnit? rest
      if 0xdc00 ≤ low ∧ low < 0xe000 then
        some (Char.ofNat (0x10000 + (unit - 0xd800) * 0x400 + (low - 0xdc00)), rest)
      else none
    | _ => none
  else some (Char.ofNat unit, rest)

/-- The character that a letter after a backslash stands for. -/
def escaped? (c : Char) : Option Char :=
  if c = '"' ∨ c = '\\' ∨ c = '/' then some c
  else if c = 'b' then some '\x08'
  else if c = 'f' then some '\x0c'
  else if c = 'n' then some '\n'
  else if c = 'r' then some '\r'
  else if c = 't' then some '\t'
  else none

/-- The characters up to the closing quote. -/
def chars : Nat → List Char → Option (List Char × List Char)
  | 0, _ => none
  | fuel + 1, text =>
    match text with
    | [] => none
    | '"' :: rest => some ([], rest)
    | '\\' :: 'u' :: rest => do
      let (c, rest) ← numberedChar? rest
      let (more, rest) ← chars fuel rest
      some (c :: more, rest)
    | '\\' :: c :: rest => do
      let c ← escaped? c
      let (more, rest) ← chars fuel rest
      some (c :: more, rest)
    | c :: rest =>
      if c.toNat < 32 ∨ c = '\\' then none
      else do
        let (more, rest) ← chars fuel rest
        some (c :: more, rest)

/-- A text between double quotes as documents have it. -/
def quoted (text : String) : String :=
  String.ofList ('"' :: text.toList.flatMap escapedChar ++ ['"'])
where
  escapedChar (c : Char) : List Char :=
    if c = '"' then ['\\', '"']
    else if c = '\\' then ['\\', '\\']
    else if c = '\x08' then ['\\', 'b']
    else if c = '\x0c' then ['\\', 'f']
    else if c = '\n' then ['\\', 'n']
    else if c = '\r' then ['\\', 'r']
    else if c = '\t' then ['\\', 't']
    else if c.toNat < 32 then '\\' :: 'u' :: '0' :: '0' :: Text.hexByte c.toNat
    else [c]

/-! ### Reading -/

def isSpace (c : Char) : Bool := c == ' ' || c == '\n' || c == '\t' || c == '\r'

def skipSpaces (text : List Char) : List Char := text.dropWhile isSpace

/-- Lists and objects may be nested this deep. -/
def maxDepth : Nat := 127

/-- The text after a given word. -/
def afterWord? (word : String) (text : List Char) : Option (List Char) :=
  if word.toList.isPrefixOf text then some (text.drop word.length) else none

mutual

/-- A document at the start of a text. `depth` more levels may be opened. -/
def value : Nat → (depth : Nat) → List Char → Option (Document × List Char)
  | 0, _, _ => none
  | fuel + 1, depth, text =>
    match skipSpaces text with
    | 'n' :: rest => (afterWord? "ull" rest).map fun rest => (null, rest)
    | 't' :: rest => (afterWord? "rue" rest).map fun rest => (bool true, rest)
    | 'f' :: rest => (afterWord? "alse" rest).map fun rest => (bool false, rest)
    | '-' :: rest => magnitude true rest
    | '"' :: rest => do
      let (found, rest) ← chars (rest.length + 1) rest
      some (string (String.ofList found), rest)
    | '[' :: rest =>
      if depth = 0 then none
      else
        match skipSpaces rest with
        | ']' :: rest => some (list [], rest)
        | rest => do
          let (found, rest) ← items fuel (depth - 1) rest
          some (list found, rest)
    | '{' :: rest =>
      if depth = 0 then none
      else
        match skipSpaces rest with
        | '}' :: rest => some (object [], rest)
        | rest => do
          let (found, rest) ← members fuel (depth - 1) rest
          some (object found, rest)
    | rest => magnitude false rest

/-- The items of a list, up to and with the closing bracket. -/
def items : Nat → (depth : Nat) → List Char → Option (List Document × List Char)
  | 0, _, _ => none
  | fuel + 1, depth, text => do
    let (first, rest) ← value fuel depth text
    match skipSpaces rest with
    | ']' :: rest => some ([first], rest)
    | ',' :: rest =>
      let (others, rest) ← items fuel depth rest
      some (first :: others, rest)
    | _ => none

/-- The members of an object, up to and with the closing brace. -/
def members : Nat → (depth : Nat) → List Char → Option (List (String × Document) × List Char)
  | 0, _, _ => none
  | fuel + 1, depth, text =>
    match skipSpaces text with
    | '"' :: rest => do
      let (name, rest) ← chars (rest.length + 1) rest
      match skipSpaces rest with
      | ':' :: rest =>
        let (first, rest) ← value fuel depth rest
        match skipSpaces rest with
        | '}' :: rest => some ([(String.ofList name, first)], rest)
        | ',' :: rest =>
          let (others, rest) ← members fuel depth rest
          some ((String.ofList name, first) :: others, rest)
        | _ => none
      | _ => none
    | _ => none

end

/-- The document that a text holds, with nothing but spaces around it. -/
def read? (text : String) : Option Document := do
  let chars := text.toList
  let (found, rest) ← value (2 * chars.length + 2) maxDepth chars
  if (skipSpaces rest).isEmpty then some found else none

end Document

end CallGuard
