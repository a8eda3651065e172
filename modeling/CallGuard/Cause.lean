/-
Why a value does not fit a hint. The search follows the shape of the hint as
the check does, looks at the same items, and gives the first thing that is
wrong, with the values on the way to it. Of the members of a union, one whose
container fits but whose contents do not is the best explanation.
-/
import CallGuard.Fragment

namespace CallGuard

/-- A value in an explanation: its class and what it looks like. -/
def Value.described (value : Value) : String :=
  match value with
  | .null => "None"
  | value => value.kind.name ++ " " ++ value.shown

/-- Classes as alternatives. -/
def Class.alternatives (classes : List Class) : String :=
  let names := classes.map Class.qualname
  match names.getLast? with
  | none => ""
  | some last =>
    if names.length = 1 then last else ", ".intercalate names.dropLast ++ " or " ++ last

/-- Why a value does not fit, and the values inside it that do not, from the outside in. -/
structure Cause where
  text : String
  culprits : List Value

namespace Cause

/-- A cause in the value itself. -/
def leaf (text : String) : Option Cause := some ⟨text, []⟩

/-- A cause inside an item of the value. -/
def nested (place : String) (item : Value) (inner : Cause) : Cause :=
  ⟨place ++ " " ++ inner.text, item :: inner.culprits⟩

/-- Why a value is not an instance of a class. -/
def ofInstance (settings : Settings) (c : Class) (value : Value) : Option Cause :=
  let accepted := settings.accepted c
  if accepted.any value.isInstance then none
  else leaf (value.described ++ " not instance of " ++ Class.alternatives accepted)

/-- Why a value is not a class object as wanted. -/
def ofClassObject (base : Option Class) (value : Value) : Option Cause :=
  if value.isClassObject base then none
  else
    match value, base with
    | .classObject _, some base =>
      leaf (value.described ++ " not subclass of " ++ base.qualname)
    | _, _ => leaf (value.described ++ " not class")

/-- Why a value lacks members of a protocol. -/
def ofProtocol (protocol : Protocol) (value : Value) : Action (Option Cause) := do
  if ← Action.ask protocol value.kind then return none
  else
    return leaf (value.described ++ " not instance of protocol " ++ protocol.name ++ " (missing " ++
      ", ".intercalate (protocol.missing value.kind) ++ ")")

/-- Why a value is none of the literals of a hint. -/
def ofLiterals (hint : Hint) (values : List Value) (value : Value) : Option Cause :=
  if values.any value.isLiteral then none
  else leaf (value.described ++ " != any of " ++ hint.text)

/-- Which validator rejects a value. -/
def ofValidators (validators : List Validator) (value : Value) : Option Cause :=
  (validators.find? fun validator => !validator.accepts value).bind fun validator =>
    leaf (value.described ++ " violates validator " ++ validator.text)

/-- Runs the searches in the members of a union. Nothing if one of them finds nothing; otherwise the
first cause that lies inside the value, if there is one. -/
def ofSearches (best : Option Cause) :
    List (Action (Option Cause)) → Action (Option (Option Cause))
  | [] => return some best
  | search :: rest => do
    match ← search with
    | none => return none
    | some cause =>
      ofSearches (if best.isNone && !cause.culprits.isEmpty then some cause else best) rest

/-- Why a value does not fit a union, given the searches in its members. -/
def ofUnion (members : List Hint) (value : Value) (searches : List (Action (Option Cause))) :
    Action (Option Cause) := do
  match ← ofSearches none searches with
  | none => return none
  | some (some cause) => return some cause
  | some none =>
    return leaf (value.described ++ " not " ++ ", ".intercalate (members.map Hint.text))

/-- What the search finds for shapes that have no parts to be searched. -/
def ofLeaf (settings : Settings) (hint : Hint) (shape : Shape) (value : Value) :
    Action (Option Cause) :=
  match shape with
  | .unsupported obstacle => throw (.internal (.uncheckableReport hint obstacle) "")
  | .never => return leaf (value.described ++ " returned despite NoReturn")
  | .null => return if value matches .null then none else leaf (value.described ++ " not None")
  | .instanceOf c => return ofInstance settings c value
  | .sequence container _ => return ofInstance settings container value
  | .mapping _ _ => return ofInstance settings .dict value
  | .fixedTuple _ => return ofInstance settings .tuple value
  | .subclassOf base => return ofClassObject base value
  | .structural protocol => ofProtocol protocol value
  | .literal values => return ofLiterals hint values value
  | _ => return none

/-- The cause below the last level, where only outermost containers were checked. -/
def findShallow (settings : Settings) (hint : Hint) (value : Value) : Action (Option Cause) :=
  match _shaped : hint.shape with
  | .annotated inner _ => findShallow settings inner value
  | .union members =>
    ofUnion members value (members.attach.map fun ⟨member, _⟩ => findShallow settings member value)
  | shape => ofLeaf settings hint shape value
termination_by sizeOf hint
decreasing_by
  · exact Hint.sizeOf_lt_of_shape_annotated _shaped
  · rename_i found
    exact Hint.sizeOf_lt_of_shape_union _shaped found

/-- The cause for which a value does not fit a hint that may go down the given number of levels. -/
def findWithin (settings : Settings) (random : UInt32) :
    Nat → Hint → Value → Action (Option Cause)
  | 0, hint, value => findShallow settings hint value
  | levels + 1, hint, value =>
    let find := findWithin settings random levels
    match hint.shape with
    | .union members => ofUnion members value (members.map fun member => find member value)
    | .sequence container (some item) =>
      match ofInstance settings container value with
      | some cause => return some cause
      | none =>
        (settings.sampling.pick (value.items?.getD []) random).findSomeM? fun (index, content) => do
          return (← find item content).map
            (nested (container.name ++ " index " ++ toString index ++ " item") content)
    | .mapping key entry =>
      match ofInstance settings .dict value with
      | some cause => return some cause
      | none =>
        (settings.sampling.pick (value.entries?.getD []) random).findSomeM?
          fun (_, (contentKey, content)) => do
            let inKey ← match key with
              | none => pure none
              | some hint => find hint contentKey
            match inKey, entry with
            | some cause, _ => return some (nested "dict key" contentKey cause)
            | none, none => return none
            | none, some hint =>
              return (← find hint content).map
                (nested ("dict key " ++ contentKey.shown ++ " value") content)
    | .fixedTuple items =>
      match ofInstance settings .tuple value with
      | some cause => return some cause
      | none =>
        let contents := value.items?.getD []
        if contents.length ≠ items.length then
          return leaf (value.described ++ " length " ++ toString contents.length ++ " != " ++
            toString items.length)
        else
          (items.zip contents).zipIdx.findSomeM? fun ((item, content), index) => do
            return (← find item content).map
              (nested ("tuple index " ++ toString index ++ " item") content)
    | .reference target => do find (← Action.resolve target) value
    | .annotated inner validators => do
      match ← find inner value with
      | some cause => return some cause
      | none => return ofValidators validators value
    | shape => ofLeaf settings hint shape value

/-- The cause for which a value does not fit a hint. -/
def find (settings : Settings) (random : UInt32) (hint : Hint) (value : Value) :
    Action (Option Cause) :=
  findWithin settings random (maxDepth + 1) hint value

end Cause

/-- The violation by a value that did not fit its hint when the given integer was drawn. -/
def report (settings : Settings) (function : String) (site : Site) (name : String) (hint : Hint)
    (value : Value) (random : UInt32) : Action Violation := do
  let cause := (← Cause.find settings random hint value).getD
    ⟨value.described ++ " failed a check no cause was found for", []⟩
  Action.note .debug "report"
    (function ++ "() " ++ name ++ " violated " ++ hint.text ++ ": " ++ cause.text)
  return ⟨site, function, name, value, hint.text, cause.text, value :: cause.culprits⟩

end CallGuard
