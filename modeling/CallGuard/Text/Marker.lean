/-
Markers for names that are not chosen yet. A text with a hole for a value has
the value's marker where it goes, and numbered markers for the names it binds
itself. Putting such texts together means renumbering the markers of one so
that they stay clear of those of another; in the end each marker becomes a name.
-/
import CallGuard.Text.Replace

namespace CallGuard.Text

/-- The marker for the value under test. -/
def valueMarker : String := "\x7bpith\x7d"

/-- What a numbered marker starts with. -/
def markerStart : String := "\x7bpith_"

/-- The marker with the given number. -/
def marker (number : Nat) : String := markerStart ++ toString number ++ "\x7d"

/-- The natural number that a list of decimal digits stands for. -/
def numberOfDigits (digits : List Char) : Nat :=
  digits.foldl (fun number digit => 10 * number + (digit.toNat - '0'.toNat)) 0

/-- The number and the length of the marker that a text starts with. Numbers of more than 64 bits
make no marker. -/
def markerAt (text : List Char) : Option (Nat × Nat) :=
  let start := markerStart.toList
  if start.isPrefixOf text then
    let after := text.drop start.length
    let digits := after.takeWhile Char.isDigit
    match after.drop digits.length with
    | '}' :: _ =>
      if digits.isEmpty || 1 <<< 64 ≤ numberOfDigits digits then none
      else some (numberOfDigits digits, start.length + digits.length + 1)
    | _ => none
  else none

/-- Replaces markers by what their numbers stand for, after skipping some characters. -/
def mapMarkersFrom (replacement : Nat → List Char) : Nat → List Char → List Char
  | _, [] => []
  | 0, c :: rest =>
    match markerAt (c :: rest) with
    | some (number, length) => replacement number ++ mapMarkersFrom replacement (length - 1) rest
    | none => c :: mapMarkersFrom replacement 0 rest
  | skip + 1, _ :: rest => mapMarkersFrom replacement skip rest

/-- The text with each marker replaced by what its number stands for. -/
def mapMarkers (replacement : Nat → String) (text : String) : String :=
  String.ofList (mapMarkersFrom (fun number => (replacement number).toList) 0 text.toList)

/-- Moves all marker numbers up. -/
def shiftMarkers (amount : Nat) (text : String) : String :=
  if amount = 0 then text else mapMarkers (fun number => marker (number + amount)) text

/-- Turns markers into names, numbered from `offset` on. -/
def nameMarkers (offset : Nat) (text : String) : String :=
  mapMarkers (fun number => "__hc_pith_" ++ toString (number + offset)) text

/-- Puts a text in place of the value marker. -/
def fillValue (value text : String) : String := replaceAll valueMarker value text

end CallGuard.Text
