/-
A last look at the source of a guard before it is used: no hole is left, every
block has a body, every test raises a violation, the function comes to an end,
and whatever is looked up by name is there.
-/
import CallGuard.Source

namespace CallGuard.Source

/-- The holes that may not be left. -/
def holes : List String :=
  [Text.valueMarker, Text.markerStart, nameHole, hole "arg_index", hole "arg_name",
    hole "func_name", hole "random_int_if_any"]

/-- The first hole that is left. -/
def leftHole? (source : List Char) : Option SourceFault :=
  (holes.find? fun left => Text.occurs left.toList source).map .placeholder

/-! ### Lines -/

/-- The lines of a text after the characters in `current`, which are held in reverse. -/
def linesFrom (current : List Char) : List Char → List (List Char)
  | [] => if current.isEmpty then [] else [current.reverse]
  | '\n' :: rest => current.reverse :: linesFrom [] rest
  | c :: rest => linesFrom (c :: current) rest

/-- A line without its indentation. -/
def unindented (line : List Char) : List Char := line.dropWhile Text.isBlank

/-- A line without the blanks at its end. -/
def closed (line : List Char) : List Char := (line.reverse.dropWhile Text.isBlank).reverse

/-- The number of bytes a line is indented by. -/
def indent (line : List Char) : Nat :=
  (line.takeWhile Text.isBlank).foldl (fun bytes c => bytes + c.utf8Size) 0

/-- Whether a line opens a block. -/
def opensBlock (line : List Char) : Bool := (closed line).getLast? == some ':'

/-- Whether a line starts with the given words. -/
def begins (words : String) (line : List Char) : Bool := words.toList.isPrefixOf (unindented line)

/-- The lines that are not blank and no comments. -/
def codeLines (source : List Char) : List (List Char) :=
  (linesFrom [] source).filter fun line =>
    match unindented line with
    | [] => false
    | c :: _ => c != '#'

/-- The line after the first one that opens a block. -/
def blockBody? : List (List Char) → Option (List Char)
  | [] => none
  | line :: rest => if opensBlock line then rest.head? else blockBody? rest

/-- The first block without a body or test without a raise. -/
def blockFault? : List (List Char) → Option SourceFault
  | [] => none
  | line :: rest =>
    let shown := String.ofList (closed (unindented line))
    if opensBlock line && !(rest.head?.any fun next => indent line < indent next) then
      some (.emptyBlock shown)
    else if begins "if not " line && !(blockBody? (line :: rest)).any (begins "raise ") then
      some (.openCheck shown)
    else blockFault? rest

/-- Whether some line leaves the function. -/
def hasExit (lines : List (List Char)) : Bool :=
  lines.any fun line => indent line == 4 && (begins "return " line || begins "raise " line)

/-! ### Names -/

/-- What a look-up starts with, up to the opening quote of the name. -/
def lookupStart : List Char := (registryName ++ "['").toList

/-- The names that a source looks up, in order. -/
def lookedUp : List Char → List String
  | [] => []
  | c :: rest =>
    if lookupStart.isPrefixOf (c :: rest) then
      String.ofList (Text.readQuoted ((c :: rest).drop lookupStart.length)) :: lookedUp rest
    else lookedUp rest

/-- The first name that is looked up and not there. -/
def unboundName? (source : List Char) (requires : List String) : Option SourceFault :=
  ((lookedUp source).find? fun name => !requires.contains name).map .unboundName

/-- Checks the source of a guard that may look up the given names. -/
def verify (source : String) (requires : List String) : Except Failure Unit :=
  let chars := source.toList
  let lines := codeLines chars
  let fault? := (leftHole? chars).or <| (blockFault? lines).or <|
    (if hasExit lines then none else some .noExit).or (unboundName? chars requires)
  match fault? with
  | some fault => .error (.internal fault source)
  | none => .ok ()

end CallGuard.Source
