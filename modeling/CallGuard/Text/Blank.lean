/-
Blank characters: spaces, tabs and line ends of all scripts.
-/
import CallGuard.Text.CodeSet

namespace CallGuard.Text

/-- The code points with the property White_Space. -/
def blanks : CodeSet := .mk #[
  0x9, 0xe, 0x20, 0x21, 0x85, 0x86, 0xa0, 0xa1, 0x1680, 0x1681, 0x2000, 0x200b, 0x2028, 0x202a,
  0x202f, 0x2030, 0x205f, 0x2060, 0x3000, 0x3001]

def isBlank (c : Char) : Bool := blanks.contains c

/-- The text without the blanks at its two ends. -/
def trimBlanks (text : String) : String :=
  String.ofList (((text.toList.dropWhile isBlank).reverse.dropWhile isBlank).reverse)

/-- The text without any blanks. -/
def removeBlanks (text : List Char) : List Char := text.filter fun c => !isBlank c

/-- Control characters: the first 32 code points, and those from 127 to 159. -/
def isControl (c : Char) : Bool := c.toNat < 32 || (127 ≤ c.toNat && c.toNat < 160)

end CallGuard.Text
