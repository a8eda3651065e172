/-
Classes of values. A class has a name, the module it lives in, the classes it
is derived from and the members it adds to theirs. Two classes made at
different times are different even if they look alike, so each carries the
serial number it was made with. Every class is a subclass of `object`, without
naming it as a base and without inheriting its members.
-/

namespace CallGuard

/-- A class. The bases come in declaration order. -/
structure Class where
  serial : Nat
  name : String
  home : String
  bases : List Class
  members : List String

namespace Class

/-! ### Equality -/

mutual
/-- Whether two classes are the same. -/
def same : Class → Class → Bool
  | ⟨serial, name, home, bases, members⟩, ⟨serial', name', home', bases', members'⟩ =>
    serial == serial' && name == name' && home == home' && members == members' &&
      sameBases bases bases'

/-- Whether two lists of classes are the same. -/
def sameBases : List Class → List Class → Bool
  | [], [] => true
  | first :: rest, first' :: rest' => same first first' && sameBases rest rest'
  | _, _ => false
end

mutual
theorem same_iff : ∀ left right : Class, same left right = true ↔ left = right
  | ⟨serial, name, home, bases, members⟩, ⟨serial', name', home', bases', members'⟩ => by
    simp only [same, Bool.and_eq_true, beq_iff_eq, mk.injEq, sameBases_iff bases bases']
    constructor
    · rintro ⟨⟨⟨⟨rfl, rfl⟩, rfl⟩, rfl⟩, rfl⟩
      exact ⟨rfl, rfl, rfl, rfl, rfl⟩
    · rintro ⟨rfl, rfl, rfl, rfl, rfl⟩
      exact ⟨⟨⟨⟨rfl, rfl⟩, rfl⟩, rfl⟩, rfl⟩

theorem sameBases_iff : ∀ left right : List Class, sameBases left right = true ↔ left = right
  | [], [] => by simp [sameBases]
  | [], _ :: _ => by simp [sameBases]
  | _ :: _, [] => by simp [sameBases]
  | first :: rest, first' :: rest' => by
    simp only [sameBases, Bool.and_eq_true, same_iff first first', sameBases_iff rest rest',
      List.cons.injEq]
end

instance : DecidableEq Class := fun left right => decidable_of_iff _ (same_iff left right)

/-! ### Names -/

/-- The module of the built-in classes. -/
def builtinHome : String := "builtins"

/-- The name of the class, after that of its module unless it is a built-in one. -/
def qualname (c : Class) : String :=
  if c.home = builtinHome then c.name else c.home ++ "." ++ c.name

/-! ### The built-in classes -/

/-- A built-in class. -/
def builtin (serial : Nat) (name : String) (bases : List Class) (members : List String) : Class :=
  ⟨serial, name, builtinHome, bases, members⟩

def object : Class := builtin 0 "object" [] ["__repr__", "__hash__"]

def noneType : Class := builtin 1 "NoneType" [] []

def int : Class :=
  builtin 2 "int" [] ["__abs__", "__float__", "__int__", "__round__", "__index__"]

def bool : Class := builtin 3 "bool" [int] []

def float : Class := builtin 4 "float" [] ["__abs__", "__float__", "__int__", "__round__"]

def complex : Class := builtin 5 "complex" [] ["__abs__", "__complex__"]

def str : Class := builtin 6 "str" [] ["__len__", "__iter__", "__contains__", "__getitem__"]

def bytes : Class :=
  builtin 7 "bytes" [] ["__len__", "__iter__", "__contains__", "__getitem__", "__bytes__"]

def list : Class := builtin 8 "list" [] ["__len__", "__iter__", "__contains__", "__getitem__"]

def tuple : Class := builtin 9 "tuple" [] ["__len__", "__iter__", "__contains__", "__getitem__"]

def dict : Class := builtin 10 "dict" [] ["__len__", "__iter__", "__contains__", "__getitem__"]

def set : Class := builtin 11 "set" [] ["__len__", "__iter__", "__contains__"]

def frozenset : Class :=
  builtin 12 "frozenset" [] ["__len__", "__iter__", "__contains__", "__hash__"]

/-- The class of class objects. -/
def type : Class := builtin 13 "type" [] ["__call__"]

def builtins : List Class :=
  [object, noneType, int, bool, float, complex, str, bytes, list, tuple, dict, set, frozenset, type]

/-- Serial numbers from here on are free for other classes. -/
def firstSerial : Nat := builtins.length

/-! ### Inheritance -/

mutual
/-- Whether the class is `other`, or derived from it, or `other` is `object`. -/
def isSubclassOf : Class → Class → Bool
  | c@⟨_, _, _, bases, _⟩, other => c == other || other == object || anySubclassOf bases other

/-- Whether some class of the list is a subclass of `other`. -/
def anySubclassOf : List Class → Class → Bool
  | [], _ => false
  | first :: rest, other => isSubclassOf first other || anySubclassOf rest other
end

mutual
/-- Whether the class or one it is derived from has a member of this name. -/
def hasMember : Class → String → Bool
  | ⟨_, _, _, bases, members⟩, member => members.contains member || anyHasMember bases member

/-- Whether some class of the list has a member of this name. -/
def anyHasMember : List Class → String → Bool
  | [], _ => false
  | first :: rest, member => hasMember first member || anyHasMember rest member
end

end Class

end CallGuard
