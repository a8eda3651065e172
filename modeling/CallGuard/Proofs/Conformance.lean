/-
Checks let conforming values pass. A value conforms to a hint if all of it is
as the hint says: all items and not only those that are looked at, at every
depth and not only down to the last level, and through references to whatever
their names are bound to, which may lead back to where they started. Looking at
some items only, stopping at a depth and putting off what references ask can
each only let more values pass. So a value that conforms is never rejected, as
long as the references that can be reached are bound to hints that can be
checked and no empty union is lost in flattening.
-/
import CallGuard.Proofs.Union

namespace CallGuard

open List

namespace Hint

/-! ### Conforming values -/

/-- The values that are in all of their parts as a hint says. -/
inductive Conforms (settings : Settings) (world : World) : Hint → Value → Prop
  | any {value : Value} : Conforms settings world any value
  | null : Conforms settings world null .null
  | instanceOf {c : Class} {value : Value} (holds : settings.admits c value = true) :
    Conforms settings world (instanceOf c) value
  | emptyUnion {value : Value} : Conforms settings world (union []) value
  | union {member : Hint} {members : List Hint} {value : Value} (found : member ∈ members)
    (inside : Conforms settings world member value) : Conforms settings world (union members) value
  | bare {origin : Origin} {aliased : Bool} {value : Value} (container : origin ≠ .type)
    (holds : value.isInstance origin.kind = true) :
    Conforms settings world (generic origin [] aliased) value
  | items {origin : Origin} {item : Hint} {aliased : Bool} {value : Value}
    (container : origin ≠ .type ∧ origin ≠ .dict) (holds : value.isInstance origin.kind = true)
    (each : ∀ content ∈ value.items?.getD [], Conforms settings world item content) :
    Conforms settings world (generic origin [item] aliased) value
  | entries {key entry : Hint} {aliased : Bool} {identity : Nat} {contents : List (Value × Value)}
    (keys : ∀ content ∈ contents, Conforms settings world key content.1)
    (values : ∀ content ∈ contents, Conforms settings world entry content.2) :
    Conforms settings world (generic .dict [key, entry] aliased) (.dict identity contents)
  | variadicTuple {item : Hint} {aliased : Bool} {value : Value}
    (holds : value.isInstance .tuple = true)
    (each : ∀ content ∈ value.items?.getD [], Conforms settings world item content) :
    Conforms settings world (tuple [item] true aliased) value
  | fixedTuple {items : List Hint} {aliased : Bool} {value : Value}
    (holds : value.isInstance .tuple = true)
    (each : List.Forall₂ (Conforms settings world) items (value.items?.getD [])) :
    Conforms settings world (tuple items false aliased) value
  | classObject {described : Class} {aliased : Bool} :
    Conforms settings world (generic .type [] aliased) (.classObject described)
  | anyClassObject {described : Class} {aliased : Bool} :
    Conforms settings world (generic .type [Hint.any] aliased) (.classObject described)
  | subclass {described base : Class} {aliased : Bool}
    (derived : described.isSubclassOf base = true) :
    Conforms settings world (generic .type [.instanceOf base] aliased) (.classObject described)
  | structural {protocol : Protocol} {value : Value}
    (holds : protocol.isSatisfiedBy value.kind = true) :
    Conforms settings world (structural protocol) value
  | annotated {inner : Hint} {validators : List Validator} {value : Value}
    (inside : Conforms settings world inner value)
    (accepted : ∀ validator ∈ validators, validator.accepts value = true) :
    Conforms settings world (annotated inner validators) value
  | literal {listed : Value} {values : List Value} {value : Value} (found : listed ∈ values)
    (holds : value.isLiteral listed = true) : Conforms settings world (literal values) value
  | reference {target : Reference} {hint : Hint} {value : Value}
    (bound : world.binding? target.scope target.name = some hint)
    (inside : Conforms settings world hint value) :
    Conforms settings world (reference target) value

variable {settings : Settings} {world : World} {value : Value}

theorem conforms_union_iff {members : List Hint} (nonempty : members ≠ []) :
    Conforms settings world (union members) value ↔
      ∃ member ∈ members, Conforms settings world member value := by
  constructor
  · intro conforms
    cases conforms with
    | emptyUnion => exact absurd rfl nonempty
    | union found inside => exact ⟨_, found, inside⟩
  · rintro ⟨member, found, inside⟩
    exact .union found inside

/-! ### Hints that are alike have the same conforming values -/

theorem Alike.conforms {meaning : Reference → Option Hint} {a b : Hint}
    (alike : Alike meaning a b) (conforms : Conforms settings world a value) :
    Conforms settings world b value := by
  induction a using induction_children generalizing b value with
  | step a ih =>
    cases conforms with
    | any =>
      cases alike
      exact .any
    | null =>
      cases alike
      exact .null
    | instanceOf holds =>
      cases alike
      exact .instanceOf holds
    | emptyUnion =>
      cases alike with | union each =>
      cases each
      exact .emptyUnion
    | union found inside =>
      cases alike with | union each =>
      obtain ⟨member', found', link⟩ := exists_linked_right each found
      exact .union found' (ih _ found link inside)
    | bare container holds =>
      cases alike with | generic each =>
      cases each
      exact .bare container holds
    | items container holds each =>
      cases alike with | generic links =>
      cases links with | cons link rest =>
      cases rest
      exact .items container holds fun content member =>
        ih _ mem_cons_self link (each content member)
    | entries keys values =>
      cases alike with | generic links =>
      cases links with | cons first rest =>
      cases rest with | cons second rest =>
      cases rest
      refine .entries (fun content member => ?_) fun content member => ?_
      · exact ih _ mem_cons_self first (keys content member)
      · exact ih _ (mem_cons_of_mem _ mem_cons_self) second (values content member)
    | variadicTuple holds each =>
      cases alike with | tuple links =>
      cases links with | cons link rest =>
      cases rest
      exact .variadicTuple holds fun content member =>
        ih _ mem_cons_self link (each content member)
    | fixedTuple holds each =>
      cases alike with | tuple links =>
      refine .fixedTuple holds (forall₂_transfer each links
        (forall₂_same.mpr fun content _ => (rfl : content = content)) ?_)
      rintro item member item' content _ link rfl inside
      exact ih item member link inside
    | classObject =>
      cases alike with | generic links =>
      cases links
      exact .classObject
    | anyClassObject =>
      cases alike with | generic links =>
      cases links with | cons link rest =>
      cases link
      cases rest
      exact .anyClassObject
    | subclass derived =>
      cases alike with | generic links =>
      cases links with | cons link rest =>
      cases link
      cases rest
      exact .subclass derived
    | structural holds =>
      cases alike
      exact .structural holds
    | annotated inside accepted =>
      cases alike with | annotated link links =>
      refine .annotated (ih _ mem_cons_self link inside) ?_
      intro validator' member'
      obtain ⟨validator, member, same⟩ := exists_linked_left links member'
      rw [← same.2]
      exact accepted validator member
    | literal found holds =>
      cases alike with | literal links =>
      obtain ⟨listed', found', link⟩ := exists_linked_right links found
      exact .literal found' (link.isLiteral value ▸ holds)
    | reference bound inside =>
      cases alike with | reference link =>
      rw [link.1, link.2.1] at bound
      exact .reference bound inside

/-! ### What can be reached -/

/-- The hints that can be reached from a hint, by going inside and by following references. -/
inductive Reaches (world : World) (start : Hint) : Hint → Prop
  | self : Reaches world start start
  | child {child hint : Hint} (reached : Reaches world start hint)
    (member : child ∈ hint.children) : Reaches world start child
  | follow {target : Reference} {hint : Hint} (reached : Reaches world start (reference target))
    (bound : world.binding? target.scope target.name = some hint) : Reaches world start hint

theorem Reaches.trans {start middle last : Hint} (first : Reaches world start middle)
    (second : Reaches world middle last) : Reaches world start last := by
  induction second with
  | self => exact first
  | child _ member ih => exact .child ih member
  | follow _ bound ih => exact .follow ih bound

theorem Inside.reaches {inner outer : Hint} (inside : inner.Inside outer) :
    Reaches world outer inner := by
  induction inside with
  | self => exact .self
  | child member _ ih =>
    exact Reaches.trans (.child .self member) ih

/-- A hint that can be checked wherever it leads: each reference that can be reached is bound to a
hint that can be checked and has not been resolved to another one. Literals and validators are made
well, and no empty union is lost. -/
structure Grounded (predicates : Nat → Value → Bool) (world : World) (hint : Hint) : Prop where
  supported : hint.obstacle = none
  bound : ∀ target, Reaches world hint (reference target) →
    ∃ found, world.binding? target.scope target.name = some found ∧ found.obstacle = none ∧
      (world.referent? target = none ∨ world.referent? target = some found)
  built : ∀ values, Reaches world hint (literal values) → ∀ value ∈ values, value.Built
  faithful : ∀ inner validators, Reaches world hint (annotated inner validators) →
    ∀ validator ∈ validators, validator.accepts = predicates validator.serial
  absorbing : ∀ members, Reaches world hint (union members) → ∀ member ∈ members,
    member.isIgnorable = true → (union members).isIgnorable = true

namespace Grounded

variable {predicates : Nat → Value → Bool} {hint : Hint}

theorem obstacle_eq_none (grounded : hint.Grounded predicates world) {reached : Hint}
    (reaches : Reaches world hint reached) : reached.obstacle = none := by
  induction reaches with
  | self => exact grounded.supported
  | child _ member ih =>
    exact (obstacle_eq_none_iff.mp ih).2 _ member
  | follow reaches bound _ =>
    obtain ⟨found, bound', supported, -⟩ := grounded.bound _ reaches
    cases bound.symm.trans bound'
    exact supported

theorem reached (grounded : hint.Grounded predicates world) {reached : Hint}
    (reaches : Reaches world hint reached) : reached.Grounded predicates world where
  supported := grounded.obstacle_eq_none reaches
  bound target further := grounded.bound target (reaches.trans further)
  built values further := grounded.built values (reaches.trans further)
  faithful inner validators further := grounded.faithful inner validators (reaches.trans further)
  absorbing members further := grounded.absorbing members (reaches.trans further)

theorem wellMade (grounded : hint.Grounded predicates world) : hint.WellMade predicates where
  built values inside := grounded.built values inside.reaches
  faithful inner validators inside := grounded.faithful inner validators inside.reaches

theorem denotes (grounded : hint.Grounded predicates world) {target : Reference}
    (reaches : Reaches world hint (.reference target)) :
    world.denotes target = world.binding? target.scope target.name := by
  obtain ⟨found, bound, -, resolved⟩ := grounded.bound target reaches
  unfold World.denotes
  rcases resolved with unresolved | known
  · rw [unresolved, Option.none_or]
  · rw [known, bound, Option.some_or]

theorem univocal (grounded : hint.Grounded predicates world) {a b : Hint}
    (first : Reaches world hint a) (second : Reaches world hint b) :
    Univocal world.denotes a b := by
  intro target target' inside inside' names scopes
  rw [grounded.denotes (first.trans inside.reaches),
    grounded.denotes (second.trans inside'.reaches), names, scopes]

end Grounded

/-! ### Shapes hold of conforming values -/

variable {random : UInt32}

theorem holds_sequence_of_conforms {container : Class} {item : Hint}
    (holds : value.isInstance container = true)
    (each : ∀ content ∈ value.items?.getD [], Conforms settings world item content) :
    (Shape.sequence container item.checkable).Holds settings random world.denotes
      (Conforms settings world) value := by
  unfold checkable
  split
  · exact Settings.admits_of_isInstance holds
  · exact ⟨holds, fun picked member => each picked.2 (Sampling.mem_of_mem_pick member)⟩

theorem holds_mapping_of_conforms {key entry : Hint} {identity : Nat}
    {contents : List (Value × Value)}
    (keys : ∀ content ∈ contents, Conforms settings world key content.1)
    (values : ∀ content ∈ contents, Conforms settings world entry content.2) :
    (Shape.mapping key.checkable entry.checkable).Holds settings random world.denotes
      (Conforms settings world) (.dict identity contents) := by
  have side {part whole : Hint} (member : part ∈ whole.checkable) : part = whole :=
    (checkable_eq_some member).1
  have both : ∀ picked ∈ settings.sampling.pick contents random,
      (∀ hint ∈ key.checkable, Conforms settings world hint picked.2.1) ∧
        ∀ hint ∈ entry.checkable, Conforms settings world hint picked.2.2 := by
    intro picked member
    have inContents := Sampling.mem_of_mem_pick member
    refine ⟨fun hint found => ?_, fun hint found => ?_⟩
    · exact side found ▸ keys picked.2 inContents
    · exact side found ▸ values picked.2 inContents
  generalize key.checkable = key' at both
  generalize entry.checkable = entry' at both
  cases key' with
  | some _ => exact ⟨contents, rfl, both⟩
  | none =>
    cases entry' with
    | some _ => exact ⟨contents, rfl, both⟩
    | none => exact Settings.admits_of_isInstance rfl

variable {predicates : Nat → Value → Bool}

theorem holds_leafShape_of_conforms {hint : Hint} (grounded : hint.Grounded predicates world)
    (isLeaf : hint.IsLeaf) (conforms : Conforms settings world hint value) :
    hint.leafShape.Holds settings random world.denotes (Conforms settings world) value := by
  have own := (obstacle_eq_none_iff.mp grounded.supported).1
  cases conforms with
  | any => exact trivial
  | null => exact rfl
  | @instanceOf c _ holds =>
    by_cases all : c = .object
    · rw [all]
      exact trivial
    · have shaped : (instanceOf c).leafShape = .instanceOf c := if_neg all
      rw [shaped]
      exact holds
  | emptyUnion => exact absurd rfl (isLeaf _)
  | union _ _ => exact absurd rfl (isLeaf _)
  | @bare origin _ _ container holds =>
    cases origin with
    | type => exact absurd rfl container
    | dict | list | set | frozenset => exact Settings.admits_of_isInstance holds
  | @items origin _ _ _ container holds each =>
    cases origin with
    | type => exact absurd rfl container.1
    | dict => exact absurd rfl container.2
    | list | set | frozenset => exact holds_sequence_of_conforms holds each
  | entries keys values => exact holds_mapping_of_conforms keys values
  | variadicTuple holds each => exact holds_sequence_of_conforms holds each
  | fixedTuple holds each =>
    rw [leafShape_fixedTuple]
    exact ⟨holds, each.imp fun _ _ => .inr⟩
  | classObject => exact rfl
  | anyClassObject => exact rfl
  | @subclass described base _ derived =>
    show (Shape.subclassOf (if base = .object then none else some base)).Holds _ _ _ _ _
    split
    · exact rfl
    · exact derived
  | structural holds => exact holds
  | @annotated inner validators _ inside accepted =>
    cases validators with
    | nil => cases own
    | cons first rest => exact ⟨inside, accepted⟩
  | @literal listed values _ found holds =>
    cases values with
    | nil => cases own
    | cons first rest => exact any_eq_true.mpr ⟨listed, found, holds⟩
  | reference bound inside => exact ⟨_, (grounded.denotes .self).trans bound, inside⟩

/-- The shape of a hint holds of every value that conforms to the hint. -/
theorem Grounded.holds_shape {hint : Hint} (grounded : hint.Grounded predicates world)
    (conforms : Conforms settings world hint value) :
    hint.shape.Holds settings random world.denotes (Conforms settings world) value := by
  rcases hint.isLeaf_or_union with isLeaf | ⟨members, rfl⟩
  · rw [isLeaf.shape_eq]
    exact holds_leafShape_of_conforms grounded isLeaf conforms
  · rcases shape_union grounded.supported with ⟨shaped, ignorable⟩ | ⟨shaped, asks⟩
    · rw [shaped]
      exact trivial
    · have reaches {leaf : Hint} (member : leaf ∈ leavesOf members) :
          Reaches world (union members) leaf := (mem_leavesOf member).1.reaches
      have absorbing : (union members).Absorbing :=
        fun inner inside => grounded.absorbing inner inside.reaches
      have respected : ∀ a ∈ leavesOf members, ∀ b ∈ leavesOf members, b.same a = true →
          Conforms settings world a value → Conforms settings world b value := by
        intro a first b second same holds
        have alike : Alike world.denotes b a :=
          alike_of_same (grounded.reached (reaches second)).wellMade
            (grounded.reached (reaches first)).wellMade
            (grounded.univocal (reaches second) (reaches first)) same
        exact alike.symm.conforms holds
      have found := (exists_leaf_iff (fun hint => Conforms settings world hint value)
        (fun _ nonempty => conforms_union_iff nonempty) absorbing asks).mp conforms
      rw [shaped]
      refine holds_unionShape (fun hint member inside => ?_) (fun hint member c plain inside => ?_)
        ((exists_mem_distinct_iff respected).mp found)
      · have inLeaves := mem_of_mem_distinct member
        exact holds_leafShape_of_conforms (grounded.reached (reaches inLeaves))
          (mem_leavesOf inLeaves).2.1 inside
      · cases inside with
        | instanceOf holds =>
          cases plain
          exact holds
        | null =>
          cases plain
          exact Settings.admits_of_isInstance rfl
        | _ => cases plain

end Hint

/-! ### No conforming value is rejected -/

namespace Settings

open CallGuard.Action Hint

variable {settings : Settings} {world : World} {predicates : Nat → Value → Bool} {random : UInt32}
  {value : Value}

theorem returns_shallowCheck {path : List Nat} {hint : Hint} {check : Check}
    (grounded : hint.Grounded predicates world)
    (made : settings.shallowCheck path hint = .ok check) :
    Returns world.denotes (check.verdict value random) fun answer =>
      Conforms settings world hint value → answer = true := by
  refine (returns_makesShallow (makesShallow_of_shallowCheck made) ?_).weaken
    fun answer passes conforms => passes (grounded.holds_shape conforms)
  intro part member path check made
  have smaller := (mem_parts member).2
  exact returns_shallowCheck (grounded.reached (mem_parts member).1.reaches) made
termination_by hint.height

/-- At every level, the check of a grounded hint comes to a verdict and lets conforming values
pass. -/
theorem returns_checkWithin {levels : Nat} {path : List Nat} {hint : Hint} {check : Check}
    (grounded : hint.Grounded predicates world)
    (made : settings.checkWithin levels path hint = .ok check) :
    Returns world.denotes (check.verdict value random) fun answer =>
      Conforms settings world hint value → answer = true := by
  induction levels generalizing path hint check value with
  | zero => exact returns_shallowCheck grounded made
  | succ levels ih =>
    have bounds : Between world.denotes (check.verdict value random)
        (hint.shape.Holds settings random world.denotes (fun _ _ => True) value)
        (hint.shape.Holds settings random world.denotes (Conforms settings world) value) := by
      refine between_makes (makes_of_checkWithin made) ?_ ?_
      · intro part member path check content made _
        exact (ih (grounded.reached (mem_parts member).1.reaches) made).weaken
          fun answer passes => ⟨fun _ => trivial, passes⟩
      · intro target shaped
        have reaches : Reaches world hint (.reference target) :=
          (inside_of_shape_reference shaped).reaches
        obtain ⟨found, bound, supported, -⟩ := grounded.bound target reaches
        have denoted : world.denotes target = some found := (grounded.denotes reaches).trans bound
        obtain ⟨check, made⟩ := settings.exists_checkWithin levels [] supported
        refine returns_bind (returns_resolve denoted) fun hint same => ?_
        rw [same, made]
        refine (ih (grounded.reached (.follow reaches bound)) made).weaken
          fun answer passes => ⟨fun _ => ⟨found, denoted, trivial⟩, ?_⟩
        rintro ⟨hint', denoted', conforms⟩
        cases denoted.symm.trans denoted'
        exact passes conforms
    exact Returns.weaken bounds fun answer known conforms =>
      known.2 (grounded.holds_shape conforms)

/-- Whatever conforms to a grounded hint passes its check, with every drawn integer. -/
theorem exists_check_passing_conforming {hint : Hint} (settings : Settings)
    (grounded : hint.Grounded predicates world) :
    ∃ check, settings.check hint = .ok check ∧
      ∀ (value : Value) (random : UInt32), Conforms settings world hint value →
        ∃ after, (check.verdict value random).Ends world true after := by
  obtain ⟨check, made⟩ := settings.exists_checkWithin (maxDepth + 1) [] grounded.supported
  refine ⟨check, made, fun value random conforms => ?_⟩
  have returns : Returns world.denotes (check.verdict value random) fun answer =>
      Conforms settings world hint value → answer = true := returns_checkWithin grounded made
  obtain ⟨answer, after, ended, -, passes⟩ := returns world rfl
  rw [passes conforms] at ended
  exact ⟨after, ended⟩

theorem reached_from_nestedIntegers {hint : Hint}
    (reaches : Reaches nestedWorld (.reference nestedIntegers) hint) :
    hint = .reference nestedIntegers ∨ hint = nestedHint ∨ hint = .instanceOf .int ∨
      hint = .generic .list [.reference nestedIntegers] false := by
  induction reaches with
  | self => exact .inl rfl
  | child _ member ih =>
    rcases ih with rfl | rfl | rfl | rfl <;> simp [children, nestedHint] at member
    · exact .inr (.inr member)
    · exact .inl member
  | follow _ bound ih =>
    rcases ih with same | same | same | same <;> cases same
    cases bound
    exact .inr (.inl rfl)

theorem nestedIntegers_grounded :
    (Hint.reference nestedIntegers).Grounded (fun _ _ => true) nestedWorld where
  supported := rfl
  bound target reaches := by
    rcases reached_from_nestedIntegers reaches with same | same | same | same <;> cases same
    exact ⟨nestedHint, rfl, rfl, .inl rfl⟩
  built values reaches := by
    rcases reached_from_nestedIntegers reaches with same | same | same | same <;> cases same
  faithful inner validators reaches := by
    rcases reached_from_nestedIntegers reaches with same | same | same | same <;> cases same
  absorbing members reaches member inMembers ignorable := by
    rcases reached_from_nestedIntegers reaches with same | same | same | same <;> cases same
    simp only [mem_cons, not_mem_nil, or_false] at inMembers
    rcases inMembers with rfl | rfl <;> cases ignorable

/-- Lists of integers and of such lists pass, whatever the settings and the drawn integer. -/
theorem exists_check_passing_nested_lists :
    let settings : Settings := ⟨true, .count 2, true, false, ⟨102, .cycle [1, 2]⟩⟩
    (Hint.reference nestedIntegers).Grounded (fun _ _ => true) nestedWorld ∧
      Conforms settings nestedWorld (.reference nestedIntegers)
        (.list 0 [.int 1, .list 1 [], .list 2 [.int 2]]) ∧
      ∃ check, settings.check (.reference nestedIntegers) = .ok check ∧
        ∀ (value : Value) (random : UInt32),
          Conforms settings nestedWorld (.reference nestedIntegers) value →
            ∃ after, (check.verdict value random).Ends nestedWorld true after := by
  intro settings
  have integer (n : Int) :
      Conforms settings nestedWorld (.reference nestedIntegers) (.int n) :=
    .reference rfl (.union List.mem_cons_self (.instanceOf rfl))
  have list (identity : Nat) (contents : List Value)
      (each : ∀ content ∈ contents, Conforms settings nestedWorld (.reference nestedIntegers)
        content) :
      Conforms settings nestedWorld (.reference nestedIntegers) (.list identity contents) :=
    .reference rfl (.union (List.mem_cons_of_mem _ List.mem_cons_self)
      (.items ⟨nofun, nofun⟩ rfl each))
  refine ⟨nestedIntegers_grounded, list _ _ ?_,
    exists_check_passing_conforming settings nestedIntegers_grounded⟩
  simp [integer, list]

/-- An empty union is lost inside another one, and values that conform to it are rejected. -/
theorem conforming_value_rejected :
    let hint : Hint := .union [.instanceOf .int, .union []]
    (∀ settings world, Conforms settings world hint (.str 0 "a")) ∧
      ∀ (settings : Settings) (world : World) (random : UInt32),
        ∃ check, settings.check hint = .ok check ∧
          (check.verdict (.str 0 "a") random).Ends world false world := by
  refine ⟨fun settings world => ?_, fun settings world random => ?_⟩
  · exact .union (List.mem_cons_of_mem _ List.mem_cons_self) .emptyUnion
  · obtain ⟨strict, sampling, warns, keeps, source⟩ := settings
    cases strict <;> exact ⟨_, rfl, rfl⟩

end Settings

end CallGuard
