/-
What classes have from their bases. Subclassing and membership are recursions of
their own over the bases of a class. Both come down to the classes that a class
is derived from, base by base: it has the members of each of them, and it is a
subclass of each of them and of `object`. So subclassing is a preorder, and
members are passed on to subclasses and protocols stay satisfied. The one
exception is `object`, which is no base of the classes that do not name it: they
are subclasses of it without having its members.
-/
import CallGuard.Hint
import Mathlib.Logic.Relation

namespace CallGuard

namespace Class

/-! ### Bases -/

theorem sizeOf_lt_of_mem_bases {base c : Class} (member : base ∈ c.bases) :
    sizeOf base < sizeOf c := by
  have smaller := List.sizeOf_lt_of_mem member
  obtain ⟨serial, name, home, bases, members⟩ := c
  simp only [mk.sizeOf_spec] at smaller ⊢
  omega

/-- What holds of a class as soon as it holds of its bases holds of every class. -/
theorem induction_bases {motive : Class → Prop}
    (step : ∀ c, (∀ base ∈ c.bases, motive base) → motive c) (c : Class) : motive c :=
  step c fun base _ => induction_bases step base
termination_by sizeOf c
decreasing_by
  rename_i member
  exact sizeOf_lt_of_mem_bases member

/-- The class is the other one or is derived from it through named bases. -/
def Derives : Class → Class → Prop := Relation.ReflTransGen fun c base => base ∈ c.bases

variable {c other : Class}

theorem derives_iff :
    c.Derives other ↔ c = other ∨ ∃ base ∈ c.bases, base.Derives other := by
  rw [Derives, Relation.ReflTransGen.cases_head_iff]

theorem derives_object_iff {c : Class} : object.Derives c ↔ c = object := by
  rw [derives_iff, eq_comm]
  exact or_iff_left nofun

/-! ### Subclasses -/

theorem anySubclassOf_iff {classes : List Class} {other : Class} :
    anySubclassOf classes other = true ↔ ∃ c ∈ classes, c.isSubclassOf other = true := by
  induction classes with
  | nil => simp [anySubclassOf]
  | cons first rest ih => simp [anySubclassOf, ih]

theorem isSubclassOf_step :
    c.isSubclassOf other = true ↔
      c = other ∨ other = object ∨ ∃ base ∈ c.bases, base.isSubclassOf other = true := by
  rw [← anySubclassOf_iff]
  obtain ⟨serial, name, home, bases, members⟩ := c
  simp only [isSubclassOf, Bool.or_eq_true, beq_iff_eq, or_assoc]

/-- A class is a subclass of `object` and of whatever it is derived from. -/
theorem isSubclassOf_iff :
    c.isSubclassOf other = true ↔ other = object ∨ c.Derives other := by
  induction c using induction_bases with
  | step c ih =>
    rw [isSubclassOf_step, derives_iff, or_left_comm]
    by_cases isObject : other = object
    · exact iff_of_true (.inl isObject) (.inl isObject)
    · refine or_congr_right (or_congr_right (exists_congr fun base => ?_))
      refine and_congr_right fun member => ?_
      rw [ih base member]
      exact or_iff_right isObject

/-! ### Members -/

theorem anyHasMember_iff {classes : List Class} {member : String} :
    anyHasMember classes member = true ↔ ∃ c ∈ classes, c.hasMember member = true := by
  induction classes with
  | nil => simp [anyHasMember]
  | cons first rest ih => simp [anyHasMember, ih]

theorem hasMember_step {c : Class} {member : String} :
    c.hasMember member = true ↔
      member ∈ c.members ∨ ∃ base ∈ c.bases, base.hasMember member = true := by
  rw [← anyHasMember_iff]
  obtain ⟨serial, name, home, bases, members⟩ := c
  simp only [hasMember, Bool.or_eq_true, List.contains_iff_mem]

/-- Members are passed on from one base to the next. -/
theorem Derives.hasMember (derives : c.Derives other) {member : String}
    (has : other.hasMember member = true) : c.hasMember member = true := by
  induction derives using Relation.ReflTransGen.head_induction_on with
  | refl => exact has
  | head isBase _ inherited => exact hasMember_step.mpr (.inr ⟨_, isBase, inherited⟩)

end Class

theorem Protocol.isSatisfiedBy_iff {protocol : Protocol} {c : Class} :
    protocol.isSatisfiedBy c = true ↔ ∀ member ∈ protocol.members, c.hasMember member = true :=
  List.all_eq_true

namespace Class

/-! ### What subclasses have -/

theorem isSubclassOf_trans {a b c : Class} (first : a.isSubclassOf b = true)
    (second : b.isSubclassOf c = true) : a.isSubclassOf c = true := by
  rw [isSubclassOf_iff] at first second ⊢
  rcases second with isObject | second
  · exact .inl isObject
  · rcases first with rfl | first
    · exact .inl (derives_object_iff.mp second)
    · exact .inr (first.trans second)

/-- Every class is a subclass of itself, and subclasses of subclasses are subclasses. A subclass has
all members of the class and satisfies all protocols that the class satisfies, unless the class is
`object` and not among those that the subclass is derived from. -/
theorem subclasses_inherit (a b c : Class) :
    a.isSubclassOf a = true ∧
    (a.isSubclassOf b = true → b.isSubclassOf c = true → a.isSubclassOf c = true) ∧
    (a.isSubclassOf b = true → (b = object → a.Derives object) →
      (∀ member, b.hasMember member = true → a.hasMember member = true) ∧
        ∀ protocol : Protocol, protocol.isSatisfiedBy b = true →
          protocol.isSatisfiedBy a = true) := by
  refine ⟨isSubclassOf_iff.mpr (.inr .refl), isSubclassOf_trans, fun subclass named => ?_⟩
  have derives : a.Derives b := by
    rcases isSubclassOf_iff.mp subclass with rfl | derives
    · exact named rfl
    · exact derives
  refine ⟨fun member => derives.hasMember, fun protocol satisfied => ?_⟩
  rw [Protocol.isSatisfiedBy_iff] at satisfied ⊢
  exact fun member listed => derives.hasMember (satisfied member listed)

/-- A class with two bases that are both derived from one class has the members of that one. -/
theorem subclasses_inherit_twice :
    let root : Class := ⟨100, "Fish", "pond", [], ["swim"]⟩
    let left : Class := ⟨101, "Cod", "pond", [root], []⟩
    let right : Class := ⟨102, "Eel", "pond", [root, bool], ["twist"]⟩
    let bottom : Class := ⟨103, "Hybrid", "pond", [left, right], []⟩
    let protocol : Protocol := ⟨104, "SupportsSwim", ["swim"]⟩
    bottom.isSubclassOf right = true ∧ right.isSubclassOf root = true ∧
      bottom.isSubclassOf root = true ∧ root.hasMember "swim" = true ∧
      bottom.hasMember "swim" = true ∧ protocol.isSatisfiedBy bottom = true := by
  intro root left right bottom protocol
  have first : bottom.isSubclassOf right = true := by decide
  have second : right.isSubclassOf root = true := by decide
  have third := (subclasses_inherit bottom right root).2.1 first second
  have named : root ≠ object := by decide
  obtain ⟨members, protocols⟩ := (subclasses_inherit bottom root root).2.2 third (absurd · named)
  exact ⟨first, second, third, by decide, members "swim" (by decide), protocols protocol (by decide)⟩

/-- Integers are objects, but only objects are known to have a hash. -/
theorem object_not_inherited :
    let hashable : Protocol := ⟨100, "Hashable", ["__hash__"]⟩
    int.isSubclassOf object = true ∧
      object.hasMember "__hash__" = true ∧ int.hasMember "__hash__" = false ∧
      hashable.isSatisfiedBy object = true ∧ hashable.isSatisfiedBy int = false := by
  decide

end Class

end CallGuard
