/-
Checks are exact. The meaning of a hint is read off the hint as it is written:
unions are not flattened, nothing is left out and nothing is cut short. The
check of a hint without references that nests no deeper than checks go says of
every ordinary value just what the meaning says, for every drawn integer, as
long as no empty union is lost in flattening. Checks misjudge values where an
empty union is lost, and they misjudge instances of classes derived from `dict`
and `NoneType`.
-/
import CallGuard.Proofs.Union

namespace CallGuard

open List

/-- Whether a test holds of the items of a list that are looked at. -/
def Settings.everySampled {Item : Type} (settings : Settings) (random : UInt32) (items : List Item)
    (test : Item → Bool) : Bool :=
  (settings.sampling.indices items.length random).all fun index => (items[index]?).all test

namespace Hint

/-! ### The meaning of a hint -/

mutual
/-- Whether a value fits a hint, part by part, where `random` decides which items are looked at. -/
def fits (settings : Settings) (random : UInt32) : Hint → Value → Bool
  | any, _ => true
  | null, value => (value matches .null)
  | instanceOf c, value => settings.admits c value
  | union [], _ => true
  | union (first :: rest), value =>
    fits settings random first value || someFits settings random rest value
  | generic .dict [key, entry] _, value =>
    value.isInstance .dict &&
      settings.everySampled random (value.entries?.getD []) fun content =>
        fits settings random key content.1 && fits settings random entry content.2
  | generic .type [instanceOf c] _, value => value.isClassObject (some c)
  | generic .type _ _, value => value.isClassObject none
  | generic origin [item] _, value =>
    value.isInstance origin.kind &&
      settings.everySampled random (value.items?.getD []) fun content =>
        fits settings random item content
  | generic origin _ _, value => value.isInstance origin.kind
  | tuple [item] true _, value =>
    value.isInstance .tuple &&
      settings.everySampled random (value.items?.getD []) fun content =>
        fits settings random item content
  | tuple items _ _, value =>
    value.isInstance .tuple && eachFits settings random items (value.items?.getD [])
  | structural protocol, value => protocol.isSatisfiedBy value.kind
  | annotated inner validators, value =>
    fits settings random inner value && validators.all fun validator => validator.accepts value
  | literal values, value => values.any fun literal => value.isLiteral literal
  | reference _, _ | never, _ | unknown _, _ => false

/-- Whether a value fits one of the hints of a list. -/
def someFits (settings : Settings) (random : UInt32) : List Hint → Value → Bool
  | [], _ => false
  | hint :: rest, value => fits settings random hint value || someFits settings random rest value

/-- Whether values fit hints, one by one. -/
def eachFits (settings : Settings) (random : UInt32) : List Hint → List Value → Bool
  | [], [] => true
  | hint :: hints, value :: values =>
    fits settings random hint value && eachFits settings random hints values
  | _, _ => false
end

variable {settings : Settings} {random : UInt32} {value : Value}

variable {hints hints' arguments : List Hint} {origin : Origin} {aliased : Bool}

theorem someFits_iff :
    someFits settings random hints value = true ↔
      ∃ hint ∈ hints, fits settings random hint value = true := by
  induction hints with
  | nil => simp [someFits]
  | cons first rest ih => simp [someFits, ih]

variable {members : List Hint} {hint : Hint}

theorem fits_union_iff (nonempty : members ≠ []) :
    fits settings random (union members) value = true ↔
      ∃ member ∈ members, fits settings random member value = true := by
  obtain ⟨first, rest, rfl⟩ := exists_cons_of_ne_nil nonempty
  simp [fits, someFits_iff]

theorem eachFits_iff {values : List Value} :
    eachFits settings random hints values = true ↔
      List.Forall₂ (fun hint value => fits settings random hint value = true) hints values := by
  induction hints generalizing values with
  | nil => cases values <;> simp [eachFits]
  | cons first rest ih =>
    cases values <;> simp [eachFits, ih]

theorem everySampled_iff {Item : Type} {items : List Item} {test : Item → Bool} :
    settings.everySampled random items test = true ↔
      ∀ picked ∈ settings.sampling.pick items random, test picked.2 = true := by
  unfold Settings.everySampled Sampling.pick
  simp only [all_eq_true, mem_filterMap, size_toArray, getElem?_toArray,
    Option.all_eq_true, Option.map_eq_some_iff]
  constructor
  · rintro all picked ⟨index, inIndices, item, located, rfl⟩
    exact all index inIndices item located
  · intro all index inIndices item located
    exact all (index, item) ⟨index, inIndices, item, located, rfl⟩

/-- Everything fits a hint that admits everything. -/
theorem fits_of_isIgnorable (ignorable : hint.isIgnorable = true) :
    fits settings random hint value = true := by
  induction hint using induction_children with
  | step hint ih =>
    cases hint with
    | any => rfl
    | instanceOf c =>
      have all : c = .object := beq_iff_eq.mp ignorable
      rw [fits, all]
      exact settings.admits_object value
    | union members =>
      by_cases nonempty : members = []
      · rw [nonempty, fits]
      · obtain ⟨member, inMembers, ignorable⟩ := exists_isIgnorable_member nonempty ignorable
        exact (fits_union_iff nonempty).mpr ⟨member, inMembers, ih member inMembers ignorable⟩
    | _ => cases ignorable

/-! ### Hints that are alike mean the same -/

variable {meaning : Reference → Option Hint}

theorem someFits_congr
    (each : List.Forall₂ (fun a b => fits settings random a = fits settings random b)
      hints hints') :
    someFits settings random hints value = someFits settings random hints' value := by
  induction each with
  | nil => rfl
  | cons head _ ih => rw [someFits, someFits, head, ih]

theorem eachFits_congr {values : List Value}
    (each : List.Forall₂ (fun a b => fits settings random a = fits settings random b)
      hints hints') :
    eachFits settings random hints values = eachFits settings random hints' values := by
  induction each generalizing values with
  | nil => rfl
  | cons head _ ih =>
    cases values with
    | nil => rfl
    | cons value values => rw [eachFits, eachFits, head, ih]

theorem fits_fixedTuple (items : List Hint) (aliased : Bool) :
    fits settings random (tuple items false aliased) value =
      (value.isInstance .tuple && eachFits settings random items (value.items?.getD [])) := by
  rcases items with _ | ⟨_, _ | _⟩ <;> rfl

theorem fits_generic_congr {arguments' : List Hint} (each : List.Forall₂
      (fun a b => Alike meaning a b ∧ fits settings random a = fits settings random b)
      arguments arguments') :
    fits settings random (generic origin arguments aliased) value =
      fits settings random (generic origin arguments' aliased) value := by
  rcases each with _ | ⟨⟨link, head⟩, _ | ⟨⟨_, second⟩, _ | ⟨_, _⟩⟩⟩
  · cases origin <;> rfl
  · cases origin with
    | type => cases link <;> rfl
    | dict | list | set | frozenset => simp only [fits, head]
  · cases origin with
    | dict => simp only [fits, head, second]
    | type => cases link <;> rfl
    | list | set | frozenset => rfl
  · cases origin with
    | type => cases link <;> rfl
    | dict | list | set | frozenset => rfl

theorem Alike.fits_eq {a b : Hint} (alike : Alike meaning a b) :
    fits settings random a = fits settings random b := by
  induction a using induction_children generalizing b with
  | step a ih =>
    have children : List.Forall₂
        (fun a b => Alike meaning a b ∧ fits settings random a = fits settings random b)
        a.children b.children :=
      forall₂_imp_of_mem alike.children fun child member _ _ link => ⟨link, ih child member link⟩
    funext value
    cases alike with
    | any | null | never | instanceOf _ | structural _ | unknown _ | reference _ => rfl
    | union _ =>
      rcases children.imp fun _ _ link => link.2 with _ | ⟨head, tail⟩
      · rfl
      · rw [fits, fits, head, someFits_congr tail]
    | generic _ => exact fits_generic_congr children
    | @tuple items items' variadic aliased _ =>
      have each : List.Forall₂ (fun a b => fits settings random a = fits settings random b)
          items items' := children.imp fun _ _ link => link.2
      cases variadic with
      | false => rw [fits_fixedTuple, fits_fixedTuple, eachFits_congr each]
      | true =>
        rcases each with _ | ⟨head, _ | ⟨second, rest⟩⟩
        · rfl
        · rw [fits, fits, head]
        · exact congrArg (value.isInstance .tuple && ·)
            (eachFits_congr (.cons head (.cons second rest)))
    | annotated _ each =>
      rcases children with _ | ⟨head, -⟩
      rw [fits, fits, head.2, Validator.all_accepts_eq each]
    | literal each => exact Value.any_isLiteral_eq each

/-! ### Shapes mean what their hints mean -/

theorem holds_sequence_iff {container : Class} (item : Hint)
    (known : container ∈ [Class.list, .set, .frozenset, .tuple]) :
    (Shape.sequence container item.checkable).Holds settings random meaning
        (fun hint content => fits settings random hint content = true) value ↔
      (value.isInstance container && settings.everySampled random (value.items?.getD [])
        fun content => fits settings random item content) = true := by
  rw [Bool.and_eq_true, everySampled_iff]
  unfold checkable
  split
  · rename_i ignorable
    rw [Shape.Holds, settings.admits_container known]
    exact ⟨fun holds => ⟨holds, fun _ _ => fits_of_isIgnorable ignorable⟩, And.left⟩
  · exact Iff.rfl

theorem holds_mapping_iff (key entry : Hint) (ordinary : value.Ordinary) :
    (Shape.mapping key.checkable entry.checkable).Holds settings random meaning
        (fun hint content => fits settings random hint content = true) value ↔
      (value.isInstance .dict && settings.everySampled random (value.entries?.getD [])
        fun content =>
          fits settings random key content.1 && fits settings random entry content.2) = true := by
  have meant : (value.isInstance .dict && settings.everySampled random (value.entries?.getD [])
      fun content => fits settings random key content.1 && fits settings random entry content.2) =
        true ↔
      ∃ entries, value.entries? = some entries ∧
        ∀ picked ∈ settings.sampling.pick entries random,
          fits settings random key picked.2.1 = true ∧
            fits settings random entry picked.2.2 = true := by
    rw [Bool.and_eq_true, ordinary.1.isInstance_dict, everySampled_iff]
    cases value.entries? <;> simp
  rw [meant]
  unfold checkable
  by_cases first : key.isIgnorable = true
  · by_cases second : entry.isIgnorable = true
    · rw [if_pos first, if_pos second, Shape.Holds,
        settings.admits_eq_isInstance (by decide) (by decide), ordinary.1.isInstance_dict,
        Option.isSome_iff_exists]
      refine exists_congr fun entries => (and_iff_left ?_).symm
      exact fun _ _ => ⟨fits_of_isIgnorable first, fits_of_isIgnorable second⟩
    · rw [if_pos first, if_neg second]
      simp [Shape.Holds, fits_of_isIgnorable first]
  · by_cases second : entry.isIgnorable = true
    · rw [if_neg first, if_pos second]
      simp [Shape.Holds, fits_of_isIgnorable second]
    · rw [if_neg first, if_neg second]
      simp [Shape.Holds]

theorem holds_fixedTuple_iff (items : List Hint) :
    (Shape.fixedTuple items).Holds settings random meaning
        (fun hint content => fits settings random hint content = true) value ↔
      (value.isInstance .tuple && eachFits settings random items (value.items?.getD [])) =
        true := by
  rw [Bool.and_eq_true, eachFits_iff, Shape.Holds]
  refine and_congr_right fun _ => ⟨fun each => each.imp ?_, fun each => each.imp fun _ _ => .inr⟩
  rintro item content (ignorable | holds)
  · exact fits_of_isIgnorable ignorable
  · exact holds

theorem holds_subclassOf_iff (c : Class) :
    (Shape.subclassOf (if c = .object then none else some c)).Holds settings random meaning
        (fun hint content => fits settings random hint content = true) value ↔
      value.isClassObject (some c) = true := by
  split
  · rename_i all
    rw [all, Shape.Holds]
    cases value with
    | classObject described => exact iff_of_true rfl described.isSubclassOf_object
    | _ => exact iff_of_false Bool.false_ne_true Bool.false_ne_true
  · exact Iff.rfl

theorem holds_genericShape_iff (own : genericObstacle origin arguments = none)
    (ordinary : value.Ordinary) :
    (genericShape origin arguments).Holds settings random meaning
        (fun hint content => fits settings random hint content = true) value ↔
      fits settings random (generic origin arguments aliased) value = true := by
  have bare (c : Class) (notFloat : c ≠ .float) (notComplex : c ≠ .complex) :
      settings.admits c value = true ↔ value.isInstance c = true := by
    rw [settings.admits_eq_isInstance notFloat notComplex]
  rcases arguments with _ | ⟨first, _ | ⟨second, _ | ⟨third, rest⟩⟩⟩
  · cases origin with
    | type => exact Iff.rfl
    | dict | list | set | frozenset => exact bare _ (by decide) (by decide)
  · cases origin with
    | dict => simp [genericObstacle, Origin.arity] at own
    | list | set | frozenset => exact holds_sequence_iff first (by decide)
    | type =>
      cases first with
      | any => exact Iff.rfl
      | instanceOf c => exact holds_subclassOf_iff c
      | _ => cases own
  · cases origin with
    | dict => exact holds_mapping_iff first second ordinary
    | _ => simp [genericObstacle, Origin.arity] at own
  · cases origin <;> simp [genericObstacle, Origin.arity] at own

/-- The shape of a hint other than a union or a reference holds of a value that fits the hint. -/
theorem holds_leafShape_iff (isLeaf : hint.IsLeaf)
    (noReference : ∀ target, hint ≠ reference target) (supported : hint.obstacle = none)
    (ordinary : value.Ordinary) :
    hint.leafShape.Holds settings random meaning
        (fun hint content => fits settings random hint content = true) value ↔
      fits settings random hint value = true := by
  have own := (obstacle_eq_none_iff.mp supported).1
  cases hint with
  | union members => exact absurd rfl (isLeaf members)
  | reference target => exact absurd rfl (noReference target)
  | unknown _ | never => cases own
  | any => exact iff_of_true trivial rfl
  | null =>
    show value = .null ↔ _
    cases value <;> simp [fits]
  | instanceOf c =>
    by_cases all : c = .object
    · rw [all, fits]
      exact iff_of_true trivial (settings.admits_object value)
    · have shaped : (instanceOf c).leafShape = .instanceOf c := if_neg all
      rw [shaped]
      exact Iff.rfl
  | generic origin arguments aliased =>
    unfold leafShape
    rw [own]
    exact holds_genericShape_iff own ordinary
  | tuple items variadic aliased =>
    cases variadic with
    | false =>
      rw [leafShape_fixedTuple, fits_fixedTuple]
      exact holds_fixedTuple_iff items
    | true =>
      rcases items with _ | ⟨item, _ | _⟩
      · cases own
      · exact holds_sequence_iff item (by decide)
      · simp [ownObstacle] at own
  | structural protocol => exact Iff.rfl
  | annotated inner validators =>
    cases validators with
    | nil => cases own
    | cons first rest =>
      rw [fits, Bool.and_eq_true, all_eq_true]
      exact Iff.rfl
  | literal values =>
    cases values with
    | nil => cases own
    | cons first rest => exact Iff.rfl

theorem admits_iff_fits_of_plainClass {c : Class} (plain : hint.plainClass? = some c)
    (ordinary : value.Ordinary) :
    settings.admits c value = true ↔ fits settings random hint value = true := by
  cases hint with
  | instanceOf c' =>
    cases plain
    exact Iff.rfl
  | null =>
    cases plain
    rw [settings.admits_eq_isInstance (by decide) (by decide), ordinary.2.isInstance_noneType_iff]
    cases value <;> simp [fits]
  | _ => cases plain

/-! ### Hints with exact checks -/

/-- Nothing but its depth keeps the check of a hint from being exact: it can be checked, refers to
nothing, is made well, and loses no empty union. -/
structure Clear (predicates : Nat → Value → Bool) (hint : Hint) : Prop where
  supported : hint.obstacle = none
  closed : ∀ target, ¬ (reference target).Inside hint
  made : hint.WellMade predicates
  absorbing : hint.Absorbing

variable {predicates : Nat → Value → Bool}

theorem Clear.inside {inner outer : Hint} (clear : outer.Clear predicates)
    (inside : inner.Inside outer) : inner.Clear predicates where
  supported := inside.obstacle_eq_none clear.supported
  closed target deeper := clear.closed target (deeper.trans inside)
  made := clear.made.inside inside
  absorbing := clear.absorbing.inside inside

/-- A hint is clear if its children are and nothing in the hint itself speaks against it. -/
theorem clear_of_children {hint : Hint} (own : hint.ownObstacle = none)
    (noReference : ∀ target, hint ≠ reference target)
    (built : ∀ values, hint = literal values → ∀ value ∈ values, value.Built)
    (faithful : ∀ inner validators, hint = annotated inner validators →
      ∀ validator ∈ validators, validator.accepts = predicates validator.serial)
    (absorbing : ∀ members, hint = union members → ∀ member ∈ members,
      member.isIgnorable = true → hint.isIgnorable = true)
    (children : ∀ child ∈ hint.children, child.Clear predicates) : hint.Clear predicates where
  supported := obstacle_eq_none_iff.mpr ⟨own, fun child member => (children child member).supported⟩
  closed target inside := by
    cases inside with
    | self => exact noReference target rfl
    | child member deeper => exact (children _ member).closed target deeper
  made.built values inside := by
    cases inside with
    | self => exact built values rfl
    | child member deeper => exact (children _ member).made.built values deeper
  made.faithful inner validators inside := by
    cases inside with
    | self => exact faithful inner validators rfl
    | child member deeper => exact (children _ member).made.faithful inner validators deeper
  absorbing members inside := by
    cases inside with
    | self => exact absorbing members rfl
    | child member deeper => exact (children _ member).absorbing members deeper

theorem clear_instanceOf (c : Class) : (instanceOf c).Clear predicates :=
  clear_of_children rfl (by rintro _ ⟨⟩) (by rintro _ ⟨⟩) (by rintro _ _ ⟨⟩) (by rintro _ ⟨⟩)
    (forall_mem_nil _)

theorem clear_null : null.Clear predicates :=
  clear_of_children rfl (by rintro _ ⟨⟩) (by rintro _ ⟨⟩) (by rintro _ _ ⟨⟩) (by rintro _ ⟨⟩)
    (forall_mem_nil _)

theorem clear_generic (own : genericObstacle origin arguments = none)
    (each : ∀ argument ∈ arguments, argument.Clear predicates) :
    (generic origin arguments aliased).Clear predicates :=
  clear_of_children own (by rintro _ ⟨⟩) (by rintro _ ⟨⟩) (by rintro _ _ ⟨⟩) (by rintro _ ⟨⟩) each

theorem clear_union (own : (union members).ownObstacle = none)
    (asking : ∀ member ∈ members, member.isIgnorable = false)
    (each : ∀ member ∈ members, member.Clear predicates) : (union members).Clear predicates := by
  refine clear_of_children own (by rintro _ ⟨⟩) (by rintro _ ⟨⟩) (by rintro _ _ ⟨⟩) ?_ each
  rintro _ ⟨⟩ member inMembers ignorable
  rw [asking member inMembers] at ignorable
  cases ignorable

/-- A union that does not admit everything means one of its distinct leaves. -/
theorem Clear.fits_union_iff_distinct
    (clear : (union members).Clear predicates) (asks : (union members).isIgnorable = false) :
    fits settings random (union members) value = true ↔
      ∃ leaf ∈ distinct (leavesOf members), fits settings random leaf value = true := by
  have leaves := exists_leaf_iff (fun hint => fits settings random hint value = true)
    (fun _ nonempty => fits_union_iff nonempty) clear.absorbing asks
  rw [leaves, Hint.leaves]
  refine exists_mem_distinct_iff fun a inLeaves b inLeaves' same holds => ?_
  have made := clear.inside (mem_leavesOf inLeaves).1
  have made' := clear.inside (mem_leavesOf inLeaves').1
  have alike : Alike (fun _ => none) b a :=
    alike_of_same made'.made made.made (fun _ _ _ _ _ _ => rfl) same
  rw [alike.fits_eq]
  exact holds

theorem distinct_ne_nil (nonempty : hints ≠ []) : distinct hints ≠ [] := by
  obtain ⟨first, rest, rfl⟩ := exists_cons_of_ne_nil nonempty
  obtain ⟨kept, member, -⟩ := exists_mem_distinct (mem_cons_self (a := first) (l := rest))
  exact ne_nil_of_mem member

/-- The shape of a hint holds of an ordinary value just if the value fits the hint. -/
theorem Clear.holds_shape_iff (clear : hint.Clear predicates)
    (ordinary : value.Ordinary) :
    hint.shape.Holds settings random meaning
        (fun hint content => fits settings random hint content = true) value ↔
      fits settings random hint value = true := by
  have leaf {inner : Hint} (inside : inner.Inside hint) (isLeaf : inner.IsLeaf) :
      inner.leafShape.Holds settings random meaning
          (fun hint content => fits settings random hint content = true) value ↔
        fits settings random inner value = true := by
    refine holds_leafShape_iff isLeaf ?_ (clear.inside inside).supported ordinary
    rintro target rfl
    exact clear.closed target inside
  rcases hint.isLeaf_or_union with isLeaf | ⟨members, rfl⟩
  · rw [isLeaf.shape_eq]
    exact leaf .self isLeaf
  · rcases shape_union clear.supported with ⟨shaped, ignorable⟩ | ⟨shaped, asks⟩
    · rw [shaped]
      exact iff_of_true trivial (fits_of_isIgnorable ignorable)
    · have kept (hint : Hint) (member : hint ∈ distinct (leavesOf members)) :=
        mem_leavesOf (mem_of_mem_distinct member)
      have nonempty : leavesOf members ≠ [] := by
        intro empty
        rw [isIgnorable_of_leaves clear.supported (.inl empty)] at asks
        cases asks
      rw [shaped, clear.fits_union_iff_distinct asks]
      constructor
      · refine of_holds_unionShape (distinct_ne_nil nonempty) (fun hint member => ?_) ?_
        · exact (leaf (kept hint member).1 (kept hint member).2.1).mp
        · exact fun hint _ c plain => (admits_iff_fits_of_plainClass plain ordinary).mp
      · refine fun found => holds_unionShape (fun hint member => ?_) ?_ found
        · exact (leaf (kept hint member).1 (kept hint member).2.1).mpr
        · exact fun hint _ c plain => (admits_iff_fits_of_plainClass plain ordinary).mpr

end Hint

/-! ### Exactness -/

namespace Settings

open CallGuard.Action

variable {settings : Settings} {random : UInt32} {value : Value}
  {meaning : Reference → Option Hint} {predicates : Nat → Value → Bool}

theorem between_checkWithin {levels : Nat} {path : List Nat} {hint : Hint} {check : Check}
    (clear : hint.Clear predicates) (bounded : hint.height < levels)
    (made : settings.checkWithin levels path hint = .ok check) (ordinary : value.Ordinary) :
    Between meaning (check.verdict value random) (hint.fits settings random value = true)
      (hint.fits settings random value = true) := by
  induction levels generalizing path hint check value with
  | zero => exact absurd bounded (Nat.not_lt_zero _)
  | succ levels ih =>
    refine (between_makes (makes_of_checkWithin made) ?_ ?_).weaken
      (clear.holds_shape_iff ordinary).mp (clear.holds_shape_iff ordinary).mpr
    · intro part member path check content made within
      obtain ⟨inside, lower⟩ := Hint.mem_parts member
      exact ih (clear.inside inside) (by omega) made (ordinary.inside within)
    · intro target shaped
      exact absurd (Hint.inside_of_shape_reference shaped) (clear.closed target)

/-- The check of a clear hint that nests no deeper than checks go gives the verdict that the
meaning of the hint gives, on every ordinary value, with every drawn integer and in every world. -/
theorem exists_exact_check {hint : Hint} (settings : Settings) (clear : hint.Clear predicates)
    (bounded : hint.height ≤ maxDepth) :
    ∃ check, settings.check hint = .ok check ∧
      ∀ (value : Value) (random : UInt32) (before : World), value.Ordinary →
        ∃ after, (check.verdict value random).Ends before (hint.fits settings random value)
          after := by
  obtain ⟨check, made⟩ := settings.exists_checkWithin (maxDepth + 1) [] clear.supported
  refine ⟨check, made, fun value random before ordinary => ?_⟩
  have between : Between before.denotes (check.verdict value random) _ _ :=
    between_checkWithin clear (Nat.lt_succ_of_le bounded) made ordinary
  obtain ⟨answer, after, ended, -, bounds⟩ := between before rfl
  have same : answer = hint.fits settings random value :=
    Bool.eq_iff_iff.mpr ⟨bounds.1, bounds.2⟩
  exact ⟨after, same ▸ ended⟩

/-- The check of a dictionary from texts to lists of integers and gaps. -/
theorem exists_exact_check_of_table :
    let settings : Settings := ⟨true, .one, true, false, ⟨100, .fixed 0⟩⟩
    let hint : Hint := .generic .dict [.instanceOf .str,
      .generic .list [.union [.instanceOf .int, .null]] false] false
    hint.Clear (fun _ _ => true) ∧ hint.height ≤ maxDepth ∧
      ∃ check, settings.check hint = .ok check ∧
        ∀ (value : Value) (random : UInt32) (before : World), value.Ordinary →
          ∃ after, (check.verdict value random).Ends before (hint.fits settings random value)
            after := by
  intro settings hint
  have union : (Hint.union [.instanceOf .int, .null]).Clear fun _ _ => true :=
    Hint.clear_union rfl (by decide) (List.forall_mem_cons.mpr
      ⟨Hint.clear_instanceOf .int, List.forall_mem_singleton.mpr Hint.clear_null⟩)
  have list : (Hint.generic .list [.union [.instanceOf .int, .null]] false).Clear
      fun _ _ => true := Hint.clear_generic rfl (List.forall_mem_singleton.mpr union)
  have clear : hint.Clear fun _ _ => true :=
    Hint.clear_generic rfl (List.forall_mem_cons.mpr
      ⟨Hint.clear_instanceOf .str, List.forall_mem_singleton.mpr list⟩)
  exact ⟨clear, by decide, exists_exact_check settings clear (by decide)⟩

/-- The check of a hint says the opposite of what the hint means, whatever integer is drawn. -/
def Misjudges (settings : Settings) (hint : Hint) (value : Value) : Prop :=
  ∃ check, settings.check hint = .ok check ∧
    ∀ random before,
      (check.verdict value random).Ends before (!hint.fits settings random value) before

/-- An empty union inside another one is lost, an instance of a class derived from `dict` is not
taken for a dictionary, and an instance of a class derived from `NoneType` is taken for null. -/
theorem misjudged_values :
    (∀ settings : Settings,
      settings.Misjudges (.union [.instanceOf .int, .union []]) (.str 0 "a")) ∧
    (∀ settings : Settings,
      settings.Misjudges (.generic .dict [.instanceOf .str, .instanceOf .int] false)
        (.object 0 ⟨100, "Derived", "module", [.dict], []⟩)) ∧
    ∀ settings : Settings,
      settings.Misjudges (.union [.instanceOf .int, .null])
        (.object 0 ⟨100, "Derived", "module", [.noneType], []⟩) := by
  refine ⟨fun settings => ?_, fun settings => ?_, fun settings => ?_⟩ <;>
    obtain ⟨strict, sampling, warns, keeps, source⟩ := settings <;>
    cases strict <;> cases sampling <;> exact ⟨_, rfl, fun _ _ => rfl⟩

end Settings

end CallGuard
