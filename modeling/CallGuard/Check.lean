/-
Checks: the questions that are asked about a value to see whether it fits a
hint. A check is a tree of tests; its verdict on a value depends on the integer
drawn for the call, which decides the items of containers that are looked at,
and on the world, in which references are looked up.
-/
import CallGuard.World

namespace CallGuard

mutual
/-- A question about a value. -/
inductive Check where
  /-- Nothing is asked. -/
  | always
  | isNull
  /-- Whether the value is an instance of one of the classes. -/
  | instanceOf (classes : List Class)
  /-- Whether the value is a class object, of a class derived from `base` if there is one. -/
  | classObject (base : Option Class)
  | structural (protocol : Protocol)
  /-- Whether the value equals one of the values and is an instance of its class. -/
  | oneOf (values : List Value)
  /-- Whether some part holds of the value. -/
  | anyOf (parts : Parts)
  /-- Whether the value is an instance of the container and the check holds of its items. -/
  | eachItem (container : Class) (item : Check) (sampling : Sampling)
  /-- Whether the value is a dictionary and the parts hold of its entries: the part with slot 0 of
  the keys, that with slot 1 of the values. -/
  | eachEntry (sides : Parts) (sampling : Sampling)
  /-- Whether the value is a tuple of this size and each part holds of the item in its slot. -/
  | tupleOf (size : Nat) (items : Parts)
  /-- Whether the check holds of the value and all validators accept it. -/
  | validated (inner : Check) (validators : List Validator)
  /-- Whatever a reference turns out to ask. -/
  | deferred (reference : Reference) (follow : Value → UInt32 → Action Bool)

/-- Checks with the slot that each is for. -/
inductive Parts where
  | nil
  | cons (slot : Nat) (check : Check) (rest : Parts)
end

/-- The parts given by a list. -/
def Parts.ofList : List (Nat × Check) → Parts
  | [] => nil
  | (slot, check) :: rest => cons slot check (ofList rest)

/-- Whether a value equals a literal and is an instance of the literal's class. -/
def Value.isLiteral (value literal : Value) : Bool :=
  value.looselyEqual literal && value.isInstance literal.kind

/-- Whether a value is a class object, of a class derived from `base` if there is one. -/
def Value.isClassObject (value : Value) (base : Option Class) : Bool :=
  match value, base with
  | classObject _, none => true
  | classObject c, some base => c.isSubclassOf base
  | _, _ => false

mutual
/-- The verdict of a check on a value. -/
def Check.verdict : Check → Value → UInt32 → Action Bool
  | .always, _, _ => pure true
  | .isNull, value, _ => pure (value matches .null)
  | .instanceOf classes, value, _ => pure (classes.any value.isInstance)
  | .classObject base, value, _ => pure (value.isClassObject base)
  | .structural protocol, value, _ => Action.ask protocol value.kind
  | .oneOf values, value, _ => pure (values.any value.isLiteral)
  | .anyOf parts, value, random => parts.someHolds value random
  | .eachItem container item sampling, value, random =>
    if value.isInstance container then
      (sampling.pick (value.items?.getD []) random).allM fun picked =>
        item.verdict picked.2 random
    else pure false
  | .eachEntry sides sampling, value, random =>
    match value.entries? with
    | none => pure false
    | some entries =>
      (sampling.pick entries random).allM fun picked =>
        sides.allHold (fun slot => some (if slot = 0 then picked.2.1 else picked.2.2)) random
  | .tupleOf size items, value, random =>
    let contents := value.items?.getD []
    if value.isInstance .tuple && contents.length == size then
      items.allHold (fun slot => contents[slot]?) random
    else pure false
  | .validated inner validators, value, random => do
    if ← inner.verdict value random then
      pure (validators.all fun validator => validator.accepts value)
    else pure false
  | .deferred _ follow, value, random => follow value random

/-- Whether some part holds of the value; later parts are not asked. -/
def Parts.someHolds : Parts → Value → UInt32 → Action Bool
  | .nil, _, _ => pure false
  | .cons _ check rest, value, random => do
    if ← check.verdict value random then pure true else rest.someHolds value random

/-- Whether each part holds of the value in its slot; after one that does not, no more are asked. -/
def Parts.allHold : Parts → (Nat → Option Value) → UInt32 → Action Bool
  | .nil, _, _ => pure true
  | .cons slot check rest, contents, random => do
    match contents slot with
    | none => rest.allHold contents random
    | some value =>
      if ← check.verdict value random then rest.allHold contents random else pure false
end

namespace Check

/-- Whether nothing is asked. -/
def isAlways : Check → Bool
  | always => true
  | _ => false

end Check

end CallGuard
