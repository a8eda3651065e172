/-
Text in double quotes for messages: everything without a visible form of its
own is spelled out, so that the reader of a message sees each character.
-/
import CallGuard.Text.Printable

namespace CallGuard.Text

/-- A character by its number in hexadecimal, between braces. -/
def spelledByNumber (c : Char) : List Char :=
  '\\' :: 'u' :: '{' :: Nat.toDigits 16 c.toNat ++ ['}']

/-- A character as it stands in a message. -/
def spelledChar (c : Char) : List Char :=
  if c = '\x00' then ['\\', '0']
  else if c = '\t' then ['\\', 't']
  else if c = '\r' then ['\\', 'r']
  else if c = '\n' then ['\\', 'n']
  else if c = '"' ∨ c = '\\' then ['\\', c]
  else if isPrintable c then [c]
  else spelledByNumber c

/-- A text in double quotes with everything invisible spelled out. -/
def spelled (text : String) : String :=
  String.ofList ('"' :: text.toList.flatMap spelledChar ++ ['"'])

/-- Several texts, spelled out one by one between two brackets. -/
def spelledList (opening closing : String) (texts : List String) : String :=
  opening ++ ", ".intercalate (texts.map spelled) ++ closing

end CallGuard.Text
