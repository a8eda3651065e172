/-
Options on a command line. An option has a long name and perhaps a letter, and
always takes a value: the next argument, unless that looks like an option, or
what stands behind an equals sign or directly behind the letter.
-/

namespace CallGuard.Command

/-- What an option is called. -/
structure OptionName where
  long : String
  letter : Option Char

/-- Whether an argument is an option and not a value. A hyphen alone is a value. -/
def looksLikeOption (argument : String) : Bool :=
  match argument.toList with
  | '-' :: _ :: _ => true
  | _ => false

/-- An option with the value that comes in the same argument, if any; nothing if there is no such
option. -/
def optionOf? (names : List OptionName) (argument : List Char) :
    Option (OptionName × Option (List Char)) :=
  match argument with
  | '-' :: '-' :: body => do
    let long := String.ofList (body.takeWhile (· ≠ '='))
    let name ← names.find? fun name => name.long == long
    match body.dropWhile (· ≠ '=') with
    | [] => some (name, none)
    | _ :: value => some (name, some value)
  | '-' :: letter :: body => do
    let name ← names.find? fun name => name.letter == some letter
    match body with
    | [] => some (name, none)
    | '=' :: value => some (name, some value)
    | value => some (name, some value)
  | _ => none

/-- The options at the start of a command line, by their long names, and the arguments from the
first one on that is none. Nothing if an option is unknown or lacks its value. -/
def options? (names : List OptionName) : List String → Option (List (String × String) × List String)
  | [] => some ([], [])
  | [argument] =>
    if argument = "--" then some ([], [])
    else if looksLikeOption argument then do
      let (name, value) ← optionOf? names argument.toList
      some ([(name.long, String.ofList (← value))], [])
    else some ([], [argument])
  | argument :: next :: rest =>
    if looksLikeOption argument then do
      let (name, value) ← optionOf? names argument.toList
      match value with
      | some value => do
        let (more, rest) ← options? names (next :: rest)
        some ((name.long, String.ofList value) :: more, rest)
      | none =>
        if looksLikeOption next then none
        else do
          let (more, rest) ← options? names rest
          some ((name.long, next) :: more, rest)
    else some ([], argument :: next :: rest)

/-- All values given for an option. -/
def values (given : List (String × String)) (name : String) : List String :=
  (given.filter fun option => option.1 == name).map Prod.snd

/-- The value of an option that may be given once; nothing if it is given more often. -/
def single? (given : List (String × String)) (name : String) : Option (Option String) :=
  match values given name with
  | [] => some none
  | [value] => some (some value)
  | _ => none

/-- A number of at most 64 bits, perhaps with a plus sign. -/
def seed? (text : String) : Option UInt64 :=
  let digits := match text.toList with
    | '+' :: digits => digits
    | digits => digits
  if digits.isEmpty || digits.any (fun c => !c.isDigit) then none
  else
    let number : Nat := digits.foldl (fun number c => 10 * number + (c.toNat - '0'.toNat)) 0
    if number < 1 <<< 64 then some (.ofNat number) else none

end CallGuard.Command
