/-
Settings in documents. An object names some of the settings, a list gives them
in their order; what is not given stays as it is by default. Members with other
names mean nothing, and a setting may not be given twice.
-/
import CallGuard.Document
import CallGuard.Settings

namespace CallGuard

/-- How many items of a container are looked at: a word, or an object with the word as its only
member. -/
def Sampling.ofDocument? : Document → Option Sampling
  | .string "one" | .object [("one", .null)] => some .one
  | .string "full" | .object [("full", .null)] => some .full
  | .object [("count", .integer number)] => if 0 ≤ number then some (.count number.toNat) else none
  | _ => none

namespace Settings

/-- The settings that a document can give, by name. -/
def fields : List String := ["strict", "sample", "warn_on_deprecated_hints", "is_debug"]

/-- Settings with one of them given by a document. -/
def withField (settings : Settings) (name : String) (given : Document) : Option Settings :=
  match given with
  | .bool truth =>
    if name = "strict" then some { settings with strict := truth }
    else if name = "warn_on_deprecated_hints" then some { settings with warnsOfAliases := truth }
    else if name = "is_debug" then some { settings with keepsSource := truth }
    else none
  | given =>
    if name = "sample" then
      (Sampling.ofDocument? given).map fun sampling => { settings with sampling }
    else none

/-- Settings with some of them given by a document. -/
def ofDocument? (settings : Settings) : Document → Option Settings
  | .object members =>
    let given := members.filter fun member => fields.contains member.1
    if (given.map Prod.fst).Nodup then
      given.foldlM (fun settings member => settings.withField member.1 member.2) settings
    else none
  | .list items =>
    if items.length ≤ fields.length then
      (fields.zip items).foldlM (fun settings member => settings.withField member.1 member.2)
        settings
    else none
  | _ => none

/-- Settings with some of them given by a text. -/
def read? (settings : Settings) (text : String) : Option Settings := do
  settings.ofDocument? (← Document.read? text)

end Settings

end CallGuard
