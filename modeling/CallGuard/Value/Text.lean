/-
How values are written: numbers by their digits, texts and byte strings in
quotes, containers as their items between brackets, classes and instances by
the name of the class.
-/
import CallGuard.Value
import CallGuard.Number.Shortest
import CallGuard.Text.Quoted

namespace CallGuard.Value

/-- A byte inside a byte string. -/
def byteText (byte : UInt8) : List Char :=
  let n := byte.toNat
  if 32 ≤ n ∧ n ≤ 126 ∧ n ≠ 39 ∧ n ≠ 92 then [Char.ofNat n] else '\\' :: 'x' :: Text.hexByte n

/-- A byte string in quotes. -/
def bytesText (data : List UInt8) : String :=
  String.ofList ('b' :: '\'' :: data.flatMap byteText ++ ['\''])

/-- A float: whole numbers with one decimal place, others with their shortest digits. -/
def floatText (x : Binary64) : String := if x.isIntegral then x.wholeText else x.text

/-- A complex number as the sum of its two parts. -/
def complexText (real imaginary : Binary64) : String :=
  "(" ++ real.text ++ imaginary.signedText ++ "j)"

/-- Written items between brackets, with commas. -/
def enclosed (opening closing : String) (items : List String) : String :=
  opening ++ ", ".intercalate items ++ closing

/-- A written tuple; a single item keeps its comma. -/
def tupleText : List String → String
  | [item] => "(" ++ item ++ ",)"
  | items => enclosed "(" ")" items

/-- A written set; the empty one has no brackets. -/
def setText : List String → String
  | [] => "set()"
  | items => enclosed "\x7b" "\x7d" items

mutual
/-- A value as text. -/
def text : Value → String
  | null => "None"
  | bool truth => if truth then "True" else "False"
  | int number => toString number
  | float number => floatText number
  | complex real imaginary => complexText real imaginary
  | str _ text => Text.quoted text
  | bytes _ data => bytesText data
  | list _ items => enclosed "[" "]" (texts items)
  | tuple _ items => tupleText (texts items)
  | set _ items => setText (texts items)
  | frozenset _ items => enclosed "frozenset(\x7b" "\x7d)" (texts items)
  | dict _ entries => enclosed "\x7b" "\x7d" (entryTexts entries)
  | classObject described => "<class '" ++ described.qualname ++ "'>"
  | object _ kind => "<" ++ kind.qualname ++ " object>"

/-- The items of a container as texts. -/
def texts : List Value → List String
  | [] => []
  | value :: rest => text value :: texts rest

/-- The entries of a dictionary as texts. -/
def entryTexts : List (Value × Value) → List String
  | [] => []
  | (key, value) :: rest => (text key ++ ": " ++ text value) :: entryTexts rest
end

end CallGuard.Value
