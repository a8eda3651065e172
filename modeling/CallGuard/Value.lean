/-
Values. Texts, byte strings, containers and instances are objects, and each
carries the number it was made with: two objects made at different times are
different objects even if they are equal. Sets and dictionaries are lists
without repetition in the order of first appearance; `set`, `frozenset` and
`dict` build them from any list.
-/
import CallGuard.Class
import CallGuard.Number.Binary64

namespace CallGuard

/-- A value. The first field of an object is its identity. -/
inductive Value where
  | null
  | bool (truth : Bool)
  | int (number : Int)
  | float (number : Binary64)
  | complex (real imaginary : Binary64)
  | str (identity : Nat) (text : String)
  | bytes (identity : Nat) (data : List UInt8)
  | list (identity : Nat) (items : List Value)
  | tuple (identity : Nat) (items : List Value)
  | set (identity : Nat) (items : List Value)
  | frozenset (identity : Nat) (items : List Value)
  | dict (identity : Nat) (entries : List (Value × Value))
  | classObject (described : Class)
  | object (identity : Nat) (kind : Class)
  deriving Inhabited

namespace Value

/-! ### Classes -/

/-- The class of a value. -/
def kind : Value → Class
  | null => .noneType
  | bool _ => .bool
  | int _ => .int
  | float _ => .float
  | complex _ _ => .complex
  | str _ _ => .str
  | bytes _ _ => .bytes
  | list _ _ => .list
  | tuple _ _ => .tuple
  | set _ _ => .set
  | frozenset _ _ => .frozenset
  | dict _ _ => .dict
  | classObject _ => .type
  | object _ kind => kind

/-- Whether the class of a value is derived from the given one. -/
def isInstance (value : Value) (c : Class) : Bool := value.kind.isSubclassOf c

/-! ### Contents -/

/-- The items of a list, tuple, set or frozenset. -/
def items? : Value → Option (List Value)
  | list _ items | tuple _ items | set _ items | frozenset _ items => some items
  | _ => none

/-- The entries of a dictionary. -/
def entries? : Value → Option (List (Value × Value))
  | dict _ entries => some entries
  | _ => none

/-- The number of characters, bytes, items or entries. -/
def length? : Value → Option Nat
  | str _ text => some text.length
  | bytes _ data => some data.length
  | list _ items | tuple _ items | set _ items | frozenset _ items => some items.length
  | dict _ entries => some entries.length
  | _ => none

/-! ### Equality -/

mutual
/-- Equality of values of one kind: numbers as numbers, sets whatever the order of their items,
dictionaries whatever the order of their entries, instances and class objects by identity. -/
def equal : Value → Value → Bool
  | null, null => true
  | bool a, bool b => a == b
  | int a, int b => a == b
  | float a, float b => a.eq b
  | complex a b, complex c d => a.eq c && b.eq d
  | str _ a, str _ b => a == b
  | bytes _ a, bytes _ b => a == b
  | list _ a, list _ b => equalItems a b
  | tuple _ a, tuple _ b => equalItems a b
  | set _ a, set _ b => a.length == b.length && containedIn a b
  | frozenset _ a, frozenset _ b => a.length == b.length && containedIn a b
  | dict _ a, dict _ b => a.length == b.length && entriesContainedIn a b
  | classObject a, classObject b => a == b
  | object a c, object b d => a == b && c == d
  | _, _ => false

/-- Equality of two lists of values, item by item. -/
def equalItems : List Value → List Value → Bool
  | [], [] => true
  | a :: as, b :: bs => equal a b && equalItems as bs
  | _, _ => false

/-- Whether each value of the first list has an equal one in the second. Among values made by their
constructors it makes no difference which is compared with which. -/
def containedIn : List Value → List Value → Bool
  | [], _ => true
  | a :: as, others => others.any (fun b => equal a b) && containedIn as others

/-- Whether each entry of the first list has one with equal key and equal value in the second. -/
def entriesContainedIn : List (Value × Value) → List (Value × Value) → Bool
  | [], _ => true
  | (key, value) :: rest, others =>
    others.any (fun other => equal key other.1 && equal value other.2) &&
      entriesContainedIn rest others
end

instance : BEq Value := ⟨equal⟩

/-- A truth value as the number it counts as; other values as themselves. -/
def counted : Value → Value
  | bool truth => int (if truth then 1 else 0)
  | value => value

/-- Equality across numbers: truth values count as 0 and 1, and an integer equals a float if it
rounds to it. -/
def looselyEqual (a b : Value) : Bool :=
  match a.counted, b.counted with
  | int n, float x | float x, int n => (Binary64.ofInt n).eq x
  | a, b => a == b

/-- Whether two values are one and the same: objects by identity, floats by their bits, other
values by equality. -/
def isSame : Value → Value → Bool
  | str a _, str b _ => a == b
  | bytes a _, bytes b _ => a == b
  | list a _, list b _ => a == b
  | tuple a _, tuple b _ => a == b
  | set a _, set b _ => a == b
  | frozenset a _, frozenset b _ => a == b
  | dict a _, dict b _ => a == b
  | classObject a, classObject b => a == b
  | object a _, object b _ => a == b
  | float a, float b => a == b
  | a, b => a == b

/-! ### Sets and dictionaries -/

/-- The values of a list in order of first appearance, equal ones dropped. -/
def distinct (values : List Value) : List Value :=
  values.foldl (fun kept value => if kept.any (· == value) then kept else kept ++ [value]) []

/-- Puts an entry in place of the first one with an equal key, or at the end. -/
def putEntry (key value : Value) : List (Value × Value) → List (Value × Value)
  | [] => [(key, value)]
  | (key', value') :: rest =>
    if key' == key then (key', value) :: rest else (key', value') :: putEntry key value rest

/-- A set of the given values. -/
def ofSet (identity : Nat) (values : List Value) : Value := set identity (distinct values)

/-- A frozenset of the given values. -/
def ofFrozenset (identity : Nat) (values : List Value) : Value :=
  frozenset identity (distinct values)

/-- A dictionary with the given entries; of entries with equal keys the last gives the value and
the first the place. -/
def ofEntries (identity : Nat) (entries : List (Value × Value)) : Value :=
  dict identity (entries.foldl (fun kept entry => putEntry entry.1 entry.2 kept) [])

end Value

end CallGuard
