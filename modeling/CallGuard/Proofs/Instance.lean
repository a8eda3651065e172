/-
Tests for instances. Whether a value is an instance of one of several classes
is one question, however many classes pass for each of them. The containers of
shapes are classes that nothing else passes for. An instance of `dict` is a
dictionary and an instance of `NoneType` is null unless it is an instance of a
class derived from these; a value is ordinary if there is no such instance in
it.
-/
import CallGuard.Proofs.Equality
import CallGuard.Proofs.Structure

namespace CallGuard

/-! ### Classes -/

theorem Class.isSubclassOf_object (c : Class) : c.isSubclassOf .object = true := by
  obtain ⟨serial, name, home, bases, members⟩ := c
  simp [isSubclassOf]

namespace Settings

variable (settings : Settings)

/-- Whether a value is an instance of a class or of one that passes for it. -/
def admits (c : Class) (value : Value) : Bool := (settings.accepted c).any value.isInstance

theorem instanceCheck_verdict (classes : List Class) (value : Value) (random : UInt32) :
    (settings.instanceCheck classes).verdict value random =
      pure (classes.any fun c => settings.admits c value) := by
  have same : ((classes.flatMap settings.accepted).eraseDups).any value.isInstance =
      classes.any fun c => settings.admits c value := by
    rw [Bool.eq_iff_iff]
    simp only [admits, List.any_eq_true, List.mem_eraseDups, List.mem_flatMap]
    constructor
    · rintro ⟨c, ⟨base, member, passes⟩, holds⟩
      exact ⟨base, member, c, passes, holds⟩
    · rintro ⟨base, member, c, passes, holds⟩
      exact ⟨c, ⟨base, member, passes⟩, holds⟩
  rw [instanceCheck, Check.verdict, same]

theorem admits_object (value : Value) : settings.admits .object value = true := by
  refine List.any_eq_true.mpr ⟨.object, ?_, Class.isSubclassOf_object _⟩
  unfold accepted
  split <;> decide

theorem admits_eq_isInstance {c : Class} (notFloat : c ≠ .float) (notComplex : c ≠ .complex)
    (value : Value) : settings.admits c value = value.isInstance c := by
  rw [admits, accepted, if_neg notFloat, if_neg notComplex, ite_self]
  exact Bool.or_false _

end Settings

/-! ### Plain classes and containers -/

namespace Hint

theorem forall₂_of_mapM_plainClass {members : List Hint} {classes : List Class}
    (plain : members.mapM Hint.plainClass? = some classes) :
    List.Forall₂ (fun member c => member.plainClass? = some c) members classes := by
  induction members generalizing classes with
  | nil =>
    cases plain
    exact .nil
  | cons first rest ih =>
    rw [List.mapM_cons] at plain
    obtain ⟨c, head, plain⟩ := Option.bind_eq_some_iff.mp plain
    obtain ⟨others, tail, plain⟩ := Option.bind_eq_some_iff.mp plain
    cases plain
    exact .cons head (ih tail)

variable {container : Class} {item : Option Hint} {hint : Hint}

theorem container_of_genericShape {origin : Origin} {arguments : List Hint}
    (shaped : genericShape origin arguments = .sequence container item) :
    container ∈ [Class.list, .set, .frozenset, .tuple] := by
  unfold genericShape at shaped
  split at shaped <;> cases shaped <;> cases origin <;> first | decide | contradiction

theorem container_of_leafShape (shaped : hint.leafShape = .sequence container item) :
    container ∈ [Class.list, .set, .frozenset, .tuple] := by
  unfold leafShape at shaped
  split at shaped
  case h_6 => exact container_of_genericShape shaped
  case h_7 =>
    cases shaped
    decide
  case h_5 => split at shaped <;> cases shaped
  all_goals cases shaped

/-- The shapes of containers are those of lists, sets, frozensets and tuples. -/
theorem container_of_shape (shaped : hint.shape = .sequence container item) :
    container ∈ [Class.list, .set, .frozenset, .tuple] := by
  unfold shape at shaped
  split at shaped
  · split at shaped
    · cases shaped
    · split at shaped
      · cases shaped
      · unfold unionShape at shaped
        split at shaped
        · cases shaped
        · exact container_of_leafShape shaped
        · cases shaped
  · exact container_of_leafShape shaped

end Hint

theorem Settings.admits_container (settings : Settings) {container : Class}
    (known : container ∈ [Class.list, .set, .frozenset, .tuple]) (value : Value) :
    settings.admits container value = value.isInstance container := by
  refine settings.admits_eq_isInstance ?_ ?_ value
  · rintro rfl
    exact absurd known (by decide)
  · rintro rfl
    exact absurd known (by decide)

/-! ### Ordinary values -/

namespace Value

/-- No instance of a class derived from the given one is inside the value. -/
def FreeOf (c : Class) (value : Value) : Prop :=
  ∀ identity kind, (object identity kind).Inside value → kind.isSubclassOf c = false

variable {c : Class} {inner outer value : Value}

theorem FreeOf.inside (free : outer.FreeOf c) (inside : inner.Inside outer) : inner.FreeOf c :=
  fun identity kind deeper => free identity kind (deeper.trans inside)

theorem FreeOf.part {part : Value} (free : value.FreeOf c) (member : part ∈ value.parts) :
    part.FreeOf c :=
  free.inside (.part member .self)

theorem freeOf_of_parts (noObject : ∀ identity kind, value ≠ object identity kind)
    (parts : ∀ part ∈ value.parts, part.FreeOf c) : value.FreeOf c := by
  intro identity kind inside
  cases inside with
  | self => exact absurd rfl (noObject identity kind)
  | part member deeper => exact parts _ member identity kind deeper

theorem FreeOf.isInstance_dict (free : value.FreeOf .dict) :
    value.isInstance .dict = value.entries?.isSome := by
  cases value with
  | object identity kind => exact free identity kind .self
  | _ => rfl

theorem FreeOf.isInstance_noneType_iff (free : value.FreeOf .noneType) :
    value.isInstance .noneType = true ↔ value = .null := by
  cases value with
  | null => exact iff_of_true rfl rfl
  | object identity kind =>
    exact iff_of_false (Bool.eq_false_iff.mp (free identity kind .self)) nofun
  | _ => exact iff_of_false nofun nofun

/-- No instance of a class derived from `dict` or `NoneType` is inside the value. -/
def Ordinary (value : Value) : Prop := value.FreeOf .dict ∧ value.FreeOf .noneType

theorem Ordinary.inside (ordinary : outer.Ordinary) (inside : inner.Inside outer) :
    inner.Ordinary :=
  ⟨ordinary.1.inside inside, ordinary.2.inside inside⟩

theorem Ordinary.part {part : Value} (ordinary : value.Ordinary) (member : part ∈ value.parts) :
    part.Ordinary :=
  ordinary.inside (.part member .self)

theorem ordinary_of_parts (noObject : ∀ identity kind, value ≠ object identity kind)
    (parts : ∀ part ∈ value.parts, part.Ordinary) : value.Ordinary :=
  ⟨freeOf_of_parts noObject fun part member => (parts part member).1,
    freeOf_of_parts noObject fun part member => (parts part member).2⟩

/-! ### Contents -/

theorem mem_parts_of_items {item : Value} (member : item ∈ value.items?.getD []) :
    item ∈ value.parts := by
  cases value with
  | list _ items | tuple _ items | set _ items | frozenset _ items => exact member
  | _ => cases member

theorem mem_parts_of_entries {entries : List (Value × Value)}
    (found : value.entries? = some entries) {entry : Value × Value} (member : entry ∈ entries) :
    entry.1 ∈ value.parts ∧ entry.2 ∈ value.parts := by
  cases value with
  | dict identity entries' =>
    cases found
    exact ⟨mem_parts_of_key member, mem_parts_of_entry member⟩
  | _ => cases found

end Value

namespace Sampling

variable {Item : Type} {sampling : Sampling} {items : List Item} {random : UInt32}
  {picked : Nat × Item}

theorem getElem?_of_mem_pick (member : picked ∈ sampling.pick items random) :
    items[picked.1]? = some picked.2 := by
  obtain ⟨index, -, found⟩ := List.mem_filterMap.mp member
  obtain ⟨item, located, rfl⟩ := Option.map_eq_some_iff.mp found
  rwa [List.getElem?_toArray] at located

theorem mem_of_mem_pick (member : picked ∈ sampling.pick items random) : picked.2 ∈ items :=
  List.mem_of_getElem? (getElem?_of_mem_pick member)

end Sampling

end CallGuard
