/-
What samples can find. A check fails because of certain items: one in each
container that it goes down into, and some in each member of a union. If all
items are looked at, the check fails as soon as there are such items. If one item
of each container is looked at, one drawn integer picks them all, and the check
fails just if the places of such items are what the integer leaves modulo the
lengths of their containers. By the Chinese remainder theorem there is such an
integer if the places agree modulo the common divisors of the lengths, so a
single container never hides anything; containers inside one another may.
-/
import CallGuard.Proofs.Congruence
import CallGuard.Proofs.Verdict
import CallGuard.Proofs.Window
import Mathlib.Data.Nat.Factorization.Basic
import Mathlib.Data.Nat.ModEq

namespace CallGuard

open List Parts Sampling

/-! ### Spots -/

/-- A place in a container of the given length. -/
structure Spot where
  position : Nat
  length : Nat

/-- The item in the spot is looked at. -/
def Sampling.LooksAt (sampling : Sampling) (random : UInt32) (spot : Spot) : Prop :=
  spot.position ∈ sampling.indices spot.length random

namespace Sampling

variable {random : UInt32} {spot : Spot}

theorem mem_pick_iff {Item : Type} {sampling : Sampling} {items : List Item} {picked : Nat × Item} :
    picked ∈ sampling.pick items random ↔
      items[picked.1]? = some picked.2 ∧ sampling.LooksAt random ⟨picked.1, items.length⟩ := by
  obtain ⟨index, item⟩ := picked
  simp only [pick, LooksAt, mem_filterMap, size_toArray, getElem?_toArray,
    Option.map_eq_some_iff, Prod.mk.injEq]
  constructor
  · rintro ⟨_, looked, _, located, rfl, rfl⟩
    exact ⟨located, looked⟩
  · rintro ⟨located, looked⟩
    exact ⟨index, looked, item, located, rfl, rfl⟩

theorem looksAt_full :
    full.LooksAt random spot ↔ spot.position < spot.length :=
  (indices_perm rfl).mem_iff.trans mem_range

theorem looksAt_one :
    one.LooksAt random spot ↔
      spot.position < spot.length ∧ random.toNat % spot.length = spot.position := by
  simp only [LooksAt, indices, size, start, isRandom, mem_map, mem_range]
  constructor
  · rintro ⟨step, small, same⟩
    have nonempty : 0 < spot.length := by omega
    obtain rfl : step = 0 := by omega
    simp only [if_true, Nat.add_zero, Nat.mod_mod] at same
    exact ⟨same ▸ Nat.mod_lt _ nonempty, same⟩
  · rintro ⟨small, same⟩
    exact ⟨0, by omega, by simp [same, Nat.mod_eq_of_lt small]⟩

end Sampling

/-! ### Failures -/

mutual
/-- The check fails on the value already if no items but those in the given spots are looked at. -/
def Check.FailsAt (seen : Spot → Prop) : Check → Value → Prop
  | .always, _ => False
  | .isNull, value => value ≠ .null
  | .instanceOf classes, value => classes.any value.isInstance = false
  | .classObject base, value => value.isClassObject base = false
  | .structural protocol, value => protocol.isSatisfiedBy value.kind = false
  | .oneOf values, value => values.any value.isLiteral = false
  | .anyOf parts, value => parts.NoneHolds seen value
  | .eachItem container item _, value =>
    value.isInstance container = false ∨
      ∃ position content, (value.items?.getD [])[position]? = some content ∧
        seen ⟨position, (value.items?.getD []).length⟩ ∧ item.FailsAt seen content
  | .eachEntry sides _, value =>
    value.entries? = none ∨
      ∃ position content, (value.entries?.getD [])[position]? = some content ∧
        seen ⟨position, (value.entries?.getD []).length⟩ ∧
        sides.SomeFails seen fun slot => some (if slot = 0 then content.1 else content.2)
  | .tupleOf size items, value =>
    (value.isInstance .tuple && (value.items?.getD []).length == size) = false ∨
      items.SomeFails seen fun slot => (value.items?.getD [])[slot]?
  | .validated inner validators, value =>
    inner.FailsAt seen value ∨ (validators.all fun validator => validator.accepts value) = false
  | .deferred _ _, _ => False

/-- Every part fails on the value. -/
def Parts.NoneHolds (seen : Spot → Prop) : Parts → Value → Prop
  | .nil, _ => True
  | .cons _ check rest, value => check.FailsAt seen value ∧ rest.NoneHolds seen value

/-- Some part fails on the value in its slot. -/
def Parts.SomeFails (seen : Spot → Prop) : Parts → (Nat → Option Value) → Prop
  | .nil, _ => False
  | .cons slot check rest, contents =>
    (∃ value, contents slot = some value ∧ check.FailsAt seen value) ∨ rest.SomeFails seen contents
end

section Monotony

variable {seen seen' : Spot → Prop}

mutual
/-- A check that fails still fails if more items are looked at. -/
theorem Check.FailsAt.mono
    (more : ∀ spot : Spot, spot.position < spot.length → seen spot → seen' spot) :
    ∀ {check : Check} {value : Value}, check.FailsAt seen value → check.FailsAt seen' value
  | .always, _, fails | .isNull, _, fails | .instanceOf _, _, fails | .classObject _, _, fails
  | .structural _, _, fails | .oneOf _, _, fails | .deferred _ _, _, fails => fails
  | .anyOf _, _, fails => Parts.NoneHolds.mono more fails
  | .eachItem _ _ _, _, fails => by
    refine fails.imp_right ?_
    rintro ⟨position, content, located, looked, fails⟩
    have inside := (List.getElem?_eq_some_iff.mp located).1
    exact ⟨position, content, located, more _ inside looked, Check.FailsAt.mono more fails⟩
  | .eachEntry _ _, _, fails => by
    refine fails.imp_right ?_
    rintro ⟨position, content, located, looked, fails⟩
    have inside := (List.getElem?_eq_some_iff.mp located).1
    exact ⟨position, content, located, more _ inside looked, Parts.SomeFails.mono more fails⟩
  | .tupleOf _ _, _, fails => fails.imp_right (Parts.SomeFails.mono more)
  | .validated _ _, _, fails => fails.imp_left (Check.FailsAt.mono more)

theorem Parts.NoneHolds.mono
    (more : ∀ spot : Spot, spot.position < spot.length → seen spot → seen' spot) :
    ∀ {parts : Parts} {value : Value}, parts.NoneHolds seen value → parts.NoneHolds seen' value
  | .nil, _, fail => fail
  | .cons _ _ _, _, fail => ⟨Check.FailsAt.mono more fail.1, Parts.NoneHolds.mono more fail.2⟩

theorem Parts.SomeFails.mono
    (more : ∀ spot : Spot, spot.position < spot.length → seen spot → seen' spot) :
    ∀ {parts : Parts} {contents : Nat → Option Value},
      parts.SomeFails seen contents → parts.SomeFails seen' contents
  | .nil, _, fails => fails
  | .cons _ _ _, _, fails => by
    refine fails.imp ?_ (Parts.SomeFails.mono more)
    rintro ⟨value, located, fails⟩
    exact ⟨value, located, Check.FailsAt.mono more fails⟩
end

end Monotony

/-! ### How many items a failure takes -/

mutual
/-- The number of spots that a failure takes at most. -/
def Check.reach : Check → Nat
  | .anyOf parts => parts.totalReach
  | .eachItem _ item _ => item.reach + 1
  | .eachEntry sides _ => sides.largestReach + 1
  | .tupleOf _ items => items.largestReach
  | .validated inner _ => inner.reach
  | _ => 0

/-- The sum over all parts. -/
def Parts.totalReach : Parts → Nat
  | .nil => 0
  | .cons _ check rest => check.reach + rest.totalReach

/-- The maximum over all parts. -/
def Parts.largestReach : Parts → Nat
  | .nil => 0
  | .cons _ check rest => max check.reach rest.largestReach
end

/-- The spot is one of a container in the value. -/
def Spot.In (spot : Spot) (value : Value) : Prop :=
  spot.position < spot.length ∧ ∃ inner : Value, inner.Inside value ∧
    (spot.length = (inner.items?.getD []).length ∨ spot.length = (inner.entries?.getD []).length)

variable {value : Value} {check : Check} {random : UInt32}

theorem Spot.In.outer {spot : Spot} {part : Value} (within : spot.In part)
    (inside : part.Inside value) : spot.In value := by
  obtain ⟨small, inner, deeper, size⟩ := within
  exact ⟨small, inner, deeper.trans inside, size⟩

/-- So many spots are enough for a failure. -/
def Spot.Suffice (number : Nat) (seen : Spot → Prop) (value : Value)
    (fails : (Spot → Prop) → Prop) : Prop :=
  ∃ spots : List Spot, spots.length ≤ number ∧ (∀ spot ∈ spots, seen spot ∧ spot.In value) ∧
    fails (· ∈ spots)

section Spots

variable {seen : Spot → Prop} {number number' : Nat} {value : Value}
  {fails fails' : (Spot → Prop) → Prop}

open Spot

theorem Spot.suffice_none (holds : fails (· ∈ [])) : Suffice number seen value fails :=
  ⟨[], Nat.zero_le _, nofun, holds⟩

theorem Spot.Suffice.weaken (suffice : Suffice number seen value fails) (fewer : number ≤ number')
    (weaker : ∀ spots : List Spot, fails (· ∈ spots) → fails' (· ∈ spots)) :
    Suffice number' seen value fails' := by
  obtain ⟨spots, size, each, holds⟩ := suffice
  exact ⟨spots, size.trans fewer, each, weaker spots holds⟩

theorem Spot.Suffice.outer {part : Value} (suffice : Suffice number seen part fails)
    (inside : part.Inside value) : Suffice number seen value fails := by
  obtain ⟨spots, size, each, holds⟩ := suffice
  exact ⟨spots, size, fun spot member => ⟨(each spot member).1, (each spot member).2.outer inside⟩,
    holds⟩

/-- One more spot. -/
theorem Spot.Suffice.step (suffice : Suffice number seen value fails) {spot : Spot}
    (looked : seen spot) (within : spot.In value)
    (combine : ∀ spots : List Spot, fails (· ∈ spots) → fails' (· ∈ spot :: spots)) :
    Suffice (number + 1) seen value fails' := by
  obtain ⟨spots, size, each, holds⟩ := suffice
  exact ⟨spot :: spots, Nat.succ_le_succ size, forall_mem_cons.mpr ⟨⟨looked, within⟩, each⟩,
    combine spots holds⟩

mutual
/-- A check fails because of not more spots than it reaches. -/
theorem Check.FailsAt.suffice : ∀ {check : Check} {value : Value}, check.FailsAt seen value →
    Suffice check.reach seen value fun seen => check.FailsAt seen value
  | .always, _, fails | .isNull, _, fails | .instanceOf _, _, fails | .classObject _, _, fails
  | .structural _, _, fails | .oneOf _, _, fails | .deferred _ _, _, fails => suffice_none fails
  | .anyOf _, _, fails => Parts.NoneHolds.suffice fails
  | .eachItem container item sampling, value, fails => by
    rcases fails with other | ⟨position, content, located, looked, fails⟩
    · exact suffice_none (.inl other)
    · have inside : content.Inside value :=
        .part (Value.mem_parts_of_items (mem_of_getElem? located)) .self
      have small := (List.getElem?_eq_some_iff.mp located).1
      refine ((Check.FailsAt.suffice fails).outer inside).step looked
        ⟨small, value, .self, .inl rfl⟩ fun spots fails => ?_
      exact .inr ⟨position, content, located, mem_cons_self,
        fails.mono fun _ _ => mem_cons_of_mem _⟩
  | .eachEntry sides sampling, value, fails => by
    rcases fails with other | ⟨position, content, located, looked, fails⟩
    · exact suffice_none (.inl other)
    · have small := (List.getElem?_eq_some_iff.mp located).1
      have found : value.entries? = some (value.entries?.getD []) := by
        cases found : value.entries? with
        | none =>
          rw [found] at located
          cases located
        | some entries => rfl
      have inside := Value.mem_parts_of_entries found (mem_of_getElem? located)
      refine (Parts.SomeFails.suffice (fun slot part chosen => ?_) fails).step looked
        ⟨small, value, .self, .inr rfl⟩ fun spots fails => ?_
      · cases chosen
        split
        · exact .part inside.1 .self
        · exact .part inside.2 .self
      · exact .inr ⟨position, content, located, mem_cons_self,
          fails.mono fun _ _ => mem_cons_of_mem _⟩
  | .tupleOf size items, value, fails => by
    rcases fails with other | fails
    · exact suffice_none (.inl other)
    · refine (Parts.SomeFails.suffice (fun slot part chosen => ?_) fails).weaken (Nat.le_refl _)
        fun _ => .inr
      exact .part (Value.mem_parts_of_items (mem_of_getElem? chosen)) .self
  | .validated inner validators, value, fails => by
    rcases fails with fails | other
    · exact (Check.FailsAt.suffice fails).weaken (Nat.le_refl _) fun _ => .inl
    · exact suffice_none (.inr other)

theorem Parts.NoneHolds.suffice : ∀ {parts : Parts} {value : Value},
    parts.NoneHolds seen value →
      Suffice parts.totalReach seen value fun seen => parts.NoneHolds seen value
  | .nil, _, _ => suffice_none trivial
  | .cons _ _ _, _, fail => by
    obtain ⟨spots, size, each, fails⟩ := Check.FailsAt.suffice fail.1
    obtain ⟨spots', size', each', fails'⟩ := Parts.NoneHolds.suffice fail.2
    refine ⟨spots ++ spots', ?_, forall_mem_append.mpr ⟨each, each'⟩,
      fails.mono fun _ _ => mem_append_left _, fails'.mono fun _ _ => mem_append_right _⟩
    rw [length_append]
    exact Nat.add_le_add size size'

theorem Parts.SomeFails.suffice : ∀ {parts : Parts} {contents : Nat → Option Value} {value : Value},
    (∀ slot part, contents slot = some part → part.Inside value) →
      parts.SomeFails seen contents →
      Suffice parts.largestReach seen value fun seen => parts.SomeFails seen contents
  | .nil, _, _, _, fails => fails.elim
  | .cons _ _ _, _, _, within, fails => by
    rcases fails with ⟨part, located, fails⟩ | fails
    · exact ((Check.FailsAt.suffice fails).outer (within _ _ located)).weaken (Nat.le_max_left _ _)
        fun _ fails => .inl ⟨part, located, fails⟩
    · exact (Parts.SomeFails.suffice within fails).weaken (Nat.le_max_right _ _) fun _ => .inr
end

end Spots

/-! ### Verdicts -/

mutual
/-- The check with another sampling. -/
def Check.resampled (sampling : Sampling) : Check → Check
  | .anyOf parts => .anyOf (parts.resampled sampling)
  | .eachItem container item _ => .eachItem container (item.resampled sampling) sampling
  | .eachEntry sides _ => .eachEntry (sides.resampled sampling) sampling
  | .tupleOf size items => .tupleOf size (items.resampled sampling)
  | .validated inner validators => .validated (inner.resampled sampling) validators
  | check => check

def Parts.resampled (sampling : Sampling) : Parts → Parts
  | .nil => .nil
  | .cons slot check rest => .cons slot (check.resampled sampling) (rest.resampled sampling)
end

mutual
/-- No reference has to be followed. -/
def Check.IsDirect : Check → Prop
  | .anyOf parts => parts.AreDirect
  | .eachItem _ item _ => item.IsDirect
  | .eachEntry sides _ => sides.AreDirect
  | .tupleOf _ items => items.AreDirect
  | .validated inner _ => inner.IsDirect
  | .deferred _ _ => False
  | _ => True

def Parts.AreDirect : Parts → Prop
  | .nil => True
  | .cons _ check rest => check.IsDirect ∧ rest.AreDirect
end

section Verdicts

open CallGuard.Action

variable {meaning : Reference → Option Hint} {sampling : Sampling} {random : UInt32}

/-- The question is always answered, with no just if the condition holds. -/
def Action.Denies (meaning : Reference → Option Hint) (ask : Action Bool) (condition : Prop) :
    Prop :=
  Between meaning ask (¬ condition) (¬ condition)

variable {condition condition' : Prop} {ask ask' : Action Bool}

theorem denies_pure {answer : Bool} (same : condition ↔ answer = false) :
    Denies meaning (pure answer) condition := by
  have same' : ¬ condition ↔ answer = true := by rw [same, Bool.not_eq_false]
  exact between_pure same'.mpr same'.mp

theorem Action.Denies.congr (denies : Denies meaning ask condition)
    (same : condition ↔ condition') : Denies meaning ask condition' :=
  Between.weaken denies (mt same.mpr) (mt same.mp)

theorem denies_or (first : Denies meaning ask condition) (second : Denies meaning ask' condition') :
    Denies meaning (do if ← ask then ask' else pure false) (condition ∨ condition') :=
  (between_and first second).weaken not_or.mpr not_or.mp

theorem denies_and (first : Denies meaning ask condition)
    (second : Denies meaning ask' condition') :
    Denies meaning (do if ← ask then pure true else ask') (condition ∧ condition') :=
  (between_or first second).weaken not_and_or.mpr not_and_or.mp

theorem denies_ite {holds : Bool} (denies : Denies meaning ask condition) :
    Denies meaning (if holds then ask else pure false) (holds = false ∨ condition) := by
  refine (between_ite denies).weaken (fun both => ?_) fun neither => ?_
  · rw [not_or, Bool.not_eq_false]
    exact both
  · rwa [not_or, Bool.not_eq_false] at neither

/-- Some item that is looked at is denied. -/
theorem denies_pick {Item : Type} {items : List Item} {ask : Item → Action Bool}
    {condition : Item → Prop}
    (each : ∀ item ∈ items, Denies meaning (ask item) (condition item)) :
    Denies meaning ((sampling.pick items random).allM fun picked => ask picked.2)
      (∃ position item, items[position]? = some item ∧
        sampling.LooksAt random ⟨position, items.length⟩ ∧ condition item) := by
  have all : Between meaning ((sampling.pick items random).allM fun picked => ask picked.2) _ _ :=
    between_allM fun picked member => each picked.2 (mem_of_mem_pick member)
  refine all.weaken ?_ ?_
  · rintro none ⟨position, item, located, looked, fails⟩
    exact none (position, item) (mem_pick_iff.mpr ⟨located, looked⟩) fails
  · intro none picked member fails
    obtain ⟨located, looked⟩ := mem_pick_iff.mp member
    exact none ⟨picked.1, picked.2, located, looked, fails⟩

mutual
/-- A check fails because of items that are looked at. -/
theorem Check.denies_verdict : ∀ (check : Check) (_ : check.IsDirect) (value : Value),
    Denies meaning ((check.resampled sampling).verdict value random)
      (check.FailsAt (sampling.LooksAt random) value)
  | .always, _, _ => denies_pure (iff_of_false id Bool.true_eq_false.mp)
  | .isNull, _, value => denies_pure (by cases value <;> simp [Check.FailsAt])
  | .instanceOf _, _, _ | .classObject _, _, _ | .oneOf _, _, _ => denies_pure Iff.rfl
  | .structural protocol, _, value => by
    refine (returns_ask protocol value.kind).weaken fun answer known => ?_
    rw [known, Check.FailsAt, Bool.not_eq_false]
    exact ⟨id, id⟩
  | .anyOf parts, direct, value => Parts.denies_someHolds parts direct value
  | .eachItem _ item _, direct, value =>
    denies_ite (denies_pick fun content _ => Check.denies_verdict item direct content)
  | .eachEntry sides kept, direct, value => by
    show Denies meaning ((Check.eachEntry (sides.resampled sampling) sampling).verdict value random)
      ((Check.eachEntry sides kept).FailsAt (sampling.LooksAt random) value)
    rw [Check.verdict, Check.FailsAt]
    cases value.entries? with
    | none => exact denies_pure (iff_of_true (.inl rfl) rfl)
    | some entries =>
      have each (content : Value × Value) (_ : content ∈ entries) :=
        Parts.denies_allHold sides direct
          fun slot => some (if slot = 0 then content.1 else content.2)
      exact (denies_pick each).congr (or_iff_right nofun).symm
  | .tupleOf _ items, direct, value => denies_ite (Parts.denies_allHold items direct _)
  | .validated inner _, direct, value =>
    denies_or (Check.denies_verdict inner direct value) (denies_pure Iff.rfl)

theorem Parts.denies_someHolds : ∀ (parts : Parts) (_ : parts.AreDirect) (value : Value),
    Denies meaning ((parts.resampled sampling).someHolds value random)
      (parts.NoneHolds (sampling.LooksAt random) value)
  | .nil, _, _ => denies_pure (iff_of_true trivial rfl)
  | .cons _ check rest, direct, value =>
    denies_and (Check.denies_verdict check direct.1 value)
      (Parts.denies_someHolds rest direct.2 value)

theorem Parts.denies_allHold : ∀ (parts : Parts) (_ : parts.AreDirect)
    (contents : Nat → Option Value),
    Denies meaning ((parts.resampled sampling).allHold contents random)
      (parts.SomeFails (sampling.LooksAt random) contents)
  | .nil, _, _ => denies_pure (iff_of_false id Bool.true_eq_false.mp)
  | .cons slot check rest, direct, contents => by
    rw [resampled, allHold, Parts.SomeFails]
    cases located : contents slot with
    | none =>
      refine (Parts.denies_allHold rest direct.2 contents).congr (or_iff_right ?_).symm
      rintro ⟨_, impossible, _⟩
      cases impossible
    | some value =>
      refine (denies_or (Check.denies_verdict check direct.1 value)
        (Parts.denies_allHold rest direct.2 contents)).congr (or_congr_left ?_)
      exact ⟨fun fails => ⟨value, rfl, fails⟩, by rintro ⟨_, ⟨⟩, fails⟩; exact fails⟩
end

end Verdicts

/-! ### Checks under two samplings -/

namespace Settings

variable {settings : Settings} {sampling : Sampling}

variable {check : Check} {Item : Type} {levels : Nat} {hint : Hint}

theorem leafCheck_direct {shape : Shape} (found : settings.leafCheck shape = some check) :
    (∀ sampling, check.resampled sampling = check) ∧ check.IsDirect := by
  cases single_of_leafCheck found <;> exact ⟨fun _ => rfl, trivial⟩

theorem parts_direct {parts : List (Nat × Check)}
    (each : ∀ part ∈ parts, part.2.resampled sampling = part.2 ∧ part.2.IsDirect) :
    (ofList parts).resampled sampling = .ofList parts ∧ (ofList parts).AreDirect := by
  induction parts with
  | nil => exact ⟨rfl, trivial⟩
  | cons part rest ih =>
    obtain ⟨⟨same, direct⟩, tail⟩ := forall_mem_cons.mp each
    obtain ⟨others, directs⟩ := ih tail
    refine ⟨?_, direct, directs⟩
    rw [ofList, resampled, same, others]

/-- To look at items as the settings say, and to follow no reference, goes through whatever checks
of hints without references are put together from. -/
theorem direct_congruence : settings.Congruence settings (.same fun _ => False) fun check _ =>
    check.resampled settings.sampling = check ∧ check.IsDirect where
  compatible := Hint.compatible_same
  leaf shapes found :=
    ⟨_, leafCheck_eq_of_linked shapes ▸ found, (leafCheck_direct found).imp_left (· _)⟩
  anyOf each := (parts_direct fun _ member =>
    (exists_linked_right each member).elim fun _ found => found.2).imp_left (congrArg Check.anyOf)
  eachItem inside container := inside.imp_left (congrArg (Check.eachItem container · _))
  eachEntry each := (parts_direct fun _ member =>
    (exists_linked_right each member).elim fun _ found => found.2.2).imp_left
      (congrArg (Check.eachEntry · _))
  tupleOf each size := (parts_direct fun _ member =>
    (exists_linked_right each member).elim fun _ found => found.2.2).imp_left
      (congrArg (Check.tupleOf size))
  validated inside _ := inside.imp_left (congrArg (Check.validated · _))
  deferred link _ := link.2.elim

/-- The check of a hint without references follows none, and looks at items as the settings say. -/
theorem checkWithin_direct {path : List Nat}
    (closed : ∀ target, ¬ (Hint.reference target).Inside hint)
    (done : settings.checkWithin levels path hint = .ok check) :
    check.resampled settings.sampling = check ∧ check.IsDirect :=
  direct_congruence.checkWithin (Hint.linked_same closed) done done

theorem mapM_map_eq {Error Made Other : Type} {make : Item → Except Error Made}
    {make' : Item → Except Error Other} {change : Made → Other} {items : List Item}
    (each : ∀ item ∈ items, make' item = change <$> make item) :
    items.mapM make' = map change <$> items.mapM make := by
  induction items with
  | nil => rfl
  | cons first rest ih =>
    obtain ⟨head, tail⟩ := forall_mem_cons.mp each
    rw [mapM_cons, mapM_cons, head, ih tail]
    simp only [map_bind, bind_map_left, map_pure, map_cons]

theorem ofList_resampled (parts : List (Nat × Check)) :
    (ofList parts).resampled sampling =
      .ofList (parts.map fun part => (part.1, part.2.resampled sampling)) := by
  induction parts with
  | nil => rfl
  | cons part rest ih =>
    rw [map_cons, ofList, ofList, resampled, ih]

/-- Under another sampling, the check of a hint without references is the same but for the
sampling. -/
theorem checkWithin_resampled (settings : Settings) (sampling : Sampling) (path : List Nat)
    (closed : ∀ target, ¬ (Hint.reference target).Inside hint) (bounded : hint.height < levels) :
    { settings with sampling := sampling }.checkWithin levels path hint =
      Check.resampled sampling <$> settings.checkWithin levels path hint := by
  induction levels generalizing path hint with
  | zero => exact absurd bounded (Nat.not_lt_zero _)
  | succ levels ih =>
    have part (inner : Hint) (member : inner ∈ hint.shape.parts) (path : List Nat) :
        { settings with sampling := sampling }.checkWithin levels path inner =
          Check.resampled sampling <$> settings.checkWithin levels path inner := by
      obtain ⟨inside, lower⟩ := Hint.mem_parts member
      exact ih path (fun target deeper => closed target (deeper.trans inside)) (by omega)
    have numbered (items : List (Hint × Nat)) (known : ∀ item ∈ items, item.1 ∈ hint.shape.parts) :
        (items.mapM fun item => do
          return (item.2, ← { settings with sampling := sampling }.checkWithin levels
            (path ++ [item.2]) item.1)) =
          map (fun made => (made.1, made.2.resampled sampling)) <$> items.mapM fun item => do
            return (item.2, ← settings.checkWithin levels (path ++ [item.2]) item.1) := by
      refine mapM_map_eq fun item member => ?_
      rw [part item.1 (known item member)]
      simp only [map_bind, bind_map_left, map_pure]
    have leaves : { settings with sampling := sampling }.leafCheck hint.shape =
        settings.leafCheck hint.shape := leafCheck_congr rfl hint.shape
    rw [checkWithin, checkWithin, leaves]
    cases leaf : settings.leafCheck hint.shape with
    | some check => exact congrArg Except.ok ((leafCheck_direct leaf).1 sampling).symm
    | none =>
      dsimp only
      cases shaped : hint.shape with
      | unsupported _ | never | ignorable | null | instanceOf _ | subclassOf _ | structural _
      | literal _ => rfl
      | reference target => exact absurd (Hint.inside_of_shape_reference shaped) (closed target)
      | union members =>
        dsimp only
        rw [numbered members.zipIdx fun item member =>
          shaped ▸ fst_mem_of_mem_zipIdx member]
        simp only [map_bind, bind_map_left, map_pure, Check.resampled, ofList_resampled]
      | sequence container item =>
        cases item with
        | none =>
          rw [shaped] at leaf
          cases leaf
        | some item =>
          dsimp only
          rw [part item (shaped ▸ mem_cons_self)]
          simp only [map_bind, bind_map_left, map_pure, Check.resampled]
      | mapping key entry =>
        rcases key with _ | key <;> rcases entry with _ | entry
        · rfl
        · have second := part entry (shaped ▸ mem_cons_self)
          simp [filterMapM, filterMapM.loop, second, Check.resampled, ofList, resampled]
        · have first := part key (shaped ▸ mem_cons_self)
          simp [filterMapM, filterMapM.loop, first, Check.resampled, ofList, resampled]
        · have first := part key (shaped ▸ mem_cons_self)
          have second := part entry (shaped ▸ mem_cons_of_mem _ mem_cons_self)
          simp [filterMapM, filterMapM.loop, first, second, Check.resampled, ofList,
            resampled]
      | fixedTuple items =>
        dsimp only
        rw [numbered (items.zipIdx.filter _) fun item member =>
          shaped ▸ fst_mem_of_mem_zipIdx (mem_of_mem_filter member)]
        simp only [map_bind, bind_map_left, map_pure, Check.resampled, ofList_resampled]
      | annotated inner validators =>
        dsimp only
        rw [part inner (shaped ▸ mem_cons_self)]
        simp only [map_bind, bind_map_left, map_pure, Check.resampled]

end Settings

/-! ### Integers that pick given spots -/

namespace Spot

theorem gcd_lcm_dvd {a b c : Nat} (nonzero : a ≠ 0) (nonzero' : b ≠ 0) (nonzero'' : c ≠ 0) :
    c.gcd (a.lcm b) ∣ (c.gcd a).lcm (c.gcd b) := by
  have left : c.gcd a ≠ 0 := Nat.gcd_ne_zero_left nonzero''
  have right : c.gcd b ≠ 0 := Nat.gcd_ne_zero_left nonzero''
  rw [← Nat.factorization_le_iff_dvd (Nat.gcd_ne_zero_left nonzero'') (Nat.lcm_ne_zero left right),
    Nat.factorization_gcd nonzero'' (Nat.lcm_ne_zero nonzero nonzero'),
    Nat.factorization_lcm nonzero nonzero', Nat.factorization_lcm left right,
    Nat.factorization_gcd nonzero'' nonzero, Nat.factorization_gcd nonzero'' nonzero']
  intro prime
  simp only [Finsupp.inf_apply, Finsupp.sup_apply]
  omega

/-- The least common multiple of the lengths. -/
def period (spots : List Spot) : Nat := spots.foldr (fun spot period => spot.length.lcm period) 1

variable {spots : List Spot}

theorem length_dvd_period {spot : Spot} (member : spot ∈ spots) :
    spot.length ∣ period spots := by
  induction spots with
  | nil => cases member
  | cons first rest ih =>
    rcases mem_cons.mp member with rfl | member
    · exact Nat.dvd_lcm_left _ _
    · exact (ih member).trans (Nat.dvd_lcm_right _ _)

theorem period_ne_zero (nonempty : ∀ spot ∈ spots, spot.length ≠ 0) :
    period spots ≠ 0 := by
  induction spots with
  | nil => exact Nat.one_ne_zero
  | cons first rest ih =>
    obtain ⟨head, tail⟩ := forall_mem_cons.mp nonempty
    exact Nat.lcm_ne_zero head (ih tail)

/-- Numbers that agree modulo the common divisors of one length with each of the others agree
modulo the common divisor with their least common multiple. -/
theorem modEq_gcd_period {a b length : Nat} (nonzero : length ≠ 0)
    (nonempty : ∀ spot ∈ spots, spot.length ≠ 0)
    (each : ∀ spot ∈ spots, a ≡ b [MOD length.gcd spot.length]) :
    a ≡ b [MOD length.gcd (period spots)] := by
  induction spots with
  | nil =>
    rw [period, foldr_nil, Nat.gcd_one_right]
    exact Nat.modEq_one
  | cons first rest ih =>
    obtain ⟨head, tail⟩ := forall_mem_cons.mp each
    obtain ⟨head', tail'⟩ := forall_mem_cons.mp nonempty
    have later := ih tail' tail
    rw [Nat.modEq_iff_dvd, Int.natCast_dvd] at head later ⊢
    exact (gcd_lcm_dvd head' (period_ne_zero tail') nonzero).trans (Nat.lcm_dvd head later)

/-- The spots lie in their containers, their positions agree modulo the common divisors of the
lengths, and the lengths have a common multiple that is not too large. -/
structure Consistent (spots : List Spot) : Prop where
  inside : ∀ spot ∈ spots, spot.position < spot.length
  congruent : spots.Pairwise fun a b => a.position ≡ b.position [MOD a.length.gcd b.length]
  small : period spots ≤ 2 ^ 32

theorem exists_residue (inside : ∀ spot ∈ spots, spot.position < spot.length)
    (congruent : spots.Pairwise fun a b => a.position ≡ b.position [MOD a.length.gcd b.length]) :
    ∃ number, ∀ spot ∈ spots, number % spot.length = spot.position := by
  induction spots with
  | nil => exact ⟨0, nofun⟩
  | cons first rest ih =>
    obtain ⟨head, tail⟩ := forall_mem_cons.mp inside
    obtain ⟨agree, congruent⟩ := pairwise_cons.mp congruent
    obtain ⟨number, known⟩ := ih tail congruent
    have nonempty (spot : Spot) (member : spot ∈ rest) : spot.length ≠ 0 :=
      Nat.ne_zero_of_lt (tail spot member)
    have meets : first.position ≡ number [MOD first.length.gcd (period rest)] := by
      refine modEq_gcd_period (Nat.ne_zero_of_lt head) nonempty fun spot member => ?_
      have residue : number ≡ spot.position [MOD spot.length] := by
        rw [Nat.ModEq, known spot member, Nat.mod_eq_of_lt (tail spot member)]
      exact (agree spot member).trans (residue.of_dvd (Nat.gcd_dvd_right _ _)).symm
    obtain ⟨both, ours, theirs⟩ := Nat.chineseRemainder' meets
    refine ⟨both, forall_mem_cons.mpr ⟨Eq.trans ours (Nat.mod_eq_of_lt head), ?_⟩⟩
    intro spot member
    rw [← known spot member]
    exact theirs.of_dvd (length_dvd_period member)

theorem Consistent.exists_random (consistent : Consistent spots) :
    ∃ random : UInt32, ∀ spot ∈ spots, random.toNat % spot.length = spot.position := by
  obtain ⟨number, known⟩ := exists_residue consistent.inside consistent.congruent
  have positive : 0 < period spots := Nat.pos_of_ne_zero (period_ne_zero fun spot member =>
    Nat.ne_zero_of_lt (consistent.inside spot member))
  have small : number % period spots < 2 ^ 32 :=
    (Nat.mod_lt number positive).trans_le consistent.small
  refine ⟨.ofNat (number % period spots), fun spot member => ?_⟩
  rw [UInt32.toNat_ofNat_of_lt' small, Nat.mod_mod_of_dvd _ (length_dvd_period member)]
  exact known spot member

end Spot

/-! ### What samples find -/

/-- The check says no, in every world. -/
def Check.Rejects (check : Check) (value : Value) (random : UInt32) : Prop :=
  ∀ before : World, ∃ after, (check.verdict value random).Ends before false after

/-- No container in the value has more items than the limit. -/
def Value.Bounded (limit : Nat) (value : Value) : Prop :=
  ∀ inner : Value, inner.Inside value →
    (inner.items?.getD []).length ≤ limit ∧ (inner.entries?.getD []).length ≤ limit

theorem Check.IsDirect.rejects_iff (direct : check.IsDirect) (sampling : Sampling) (value : Value)
    (random : UInt32) :
    (check.resampled sampling).Rejects value random ↔
      check.FailsAt (sampling.LooksAt random) value := by
  have denies (before : World) : Action.Denies before.denotes
      ((check.resampled sampling).verdict value random) _ := check.denies_verdict direct value
  constructor
  · intro rejects
    obtain ⟨after, ended⟩ := rejects .initial
    obtain ⟨answer, after', ended', -, -, complete⟩ := denies .initial .initial rfl
    by_contra holds
    rw [complete holds] at ended'
    cases ended.symm.trans ended'
  · intro fails before
    obtain ⟨answer, after, ended, -, sound, -⟩ := denies before before rfl
    cases answer with
    | true => exact absurd fails (sound rfl)
    | false => exact ⟨after, ended⟩

/-- A check fails with the items that are looked at just if it does because of some of them. -/
theorem Check.failsAt_looksAt_iff {sampling : Sampling} :
    check.FailsAt (sampling.LooksAt random) value ↔
      ∃ spots : List Spot, spots.length ≤ check.reach ∧
        (∀ spot ∈ spots, sampling.LooksAt random spot ∧ spot.In value) ∧
        check.FailsAt (· ∈ spots) value := by
  refine ⟨FailsAt.suffice, ?_⟩
  rintro ⟨spots, -, looked, fails⟩
  exact fails.mono fun spot _ member => (looked spot member).1

theorem Check.failsAt_full_iff :
    check.FailsAt (full.LooksAt random) value ↔
      ∃ spots : List Spot, check.FailsAt (· ∈ spots) value := by
  constructor
  · intro fails
    obtain ⟨spots, -, -, fails⟩ := failsAt_looksAt_iff.mp fails
    exact ⟨spots, fails⟩
  · rintro ⟨spots, fails⟩
    exact fails.mono fun spot inside _ => looksAt_full.mpr inside

theorem Check.failsAt_one_iff :
    check.FailsAt (one.LooksAt random) value ↔
      ∃ spots : List Spot, check.FailsAt (· ∈ spots) value ∧
        ∀ spot ∈ spots, random.toNat % spot.length = spot.position := by
  constructor
  · intro fails
    obtain ⟨spots, -, looked, fails⟩ := failsAt_looksAt_iff.mp fails
    exact ⟨spots, fails, fun spot member => (looksAt_one.mp (looked spot member).1).2⟩
  · rintro ⟨spots, fails, picked⟩
    exact fails.mono fun spot inside member =>
      looksAt_one.mpr ⟨inside, picked spot member⟩

theorem Spot.In.length_le {spot : Spot} {limit : Nat} (within : spot.In value)
    (bounded : value.Bounded limit) : spot.length ≤ limit := by
  obtain ⟨-, inner, inside, size | size⟩ := within
  · exact size ▸ (bounded inner inside).1
  · exact size ▸ (bounded inner inside).2

/-- A single spot is consistent. -/
theorem Spot.consistent_of_length_le_one {spots : List Spot} (few : spots.length ≤ 1)
    (within : ∀ spot ∈ spots, spot.In value) (bounded : value.Bounded (2 ^ 32)) :
    Consistent spots := by
  rcases spots with _ | ⟨spot, _ | ⟨_, _⟩⟩
  · exact ⟨nofun, .nil, by decide⟩
  · have single := forall_mem_singleton.mp within
    refine ⟨forall_mem_singleton.mpr single.1, pairwise_singleton _ _, ?_⟩
    rw [period, foldr_cons, foldr_nil, Nat.lcm_one_right]
    exact single.length_le bounded
  · simp at few

namespace Settings

variable {hint : Hint}

theorem exists_resampled (settings : Settings) (supported : hint.obstacle = none)
    (closed : ∀ target, ¬ (Hint.reference target).Inside hint)
    (bounded : hint.height ≤ maxDepth) :
    ∃ full : Check, full.IsDirect ∧ full.resampled .full = full ∧
      ∀ sampling, { settings with sampling := sampling }.check hint =
        .ok (full.resampled sampling) := by
  have deep : hint.height < maxDepth + 1 := Nat.lt_succ_of_le bounded
  obtain ⟨full, made⟩ :=
    { settings with sampling := .full }.exists_checkWithin (maxDepth + 1) [] supported
  have resampled (sampling : Sampling) :
      { settings with sampling := sampling }.check hint = .ok (full.resampled sampling) := by
    have same : { settings with sampling := sampling }.check hint = Check.resampled sampling <$>
        { settings with sampling := .full }.checkWithin (maxDepth + 1) [] hint :=
      { settings with sampling := .full }.checkWithin_resampled sampling [] closed deep
    rw [same, made]
    rfl
  obtain ⟨kept, direct⟩ := checkWithin_direct closed made
  exact ⟨full, direct, kept, resampled⟩

/-- If all items are looked at, a check fails as soon as there are spots because of which it fails.
If one item of each container is looked at, it fails just if there are such spots that the drawn
integer picks. Any such spots that are consistent are picked by some integer, and so are those of a
check that never goes down into two containers. -/
theorem failures_sampled (settings : Settings) (supported : hint.obstacle = none)
    (closed : ∀ target, ¬ (Hint.reference target).Inside hint)
    (bounded : hint.height ≤ maxDepth) :
    ∃ full one, { settings with sampling := .full }.check hint = .ok full ∧
      { settings with sampling := .one }.check hint = .ok one ∧
      (∀ value random, full.Rejects value random ↔
        ∃ spots : List Spot, full.FailsAt (· ∈ spots) value) ∧
      (∀ value random, one.Rejects value random ↔
        ∃ spots : List Spot, full.FailsAt (· ∈ spots) value ∧
          ∀ spot ∈ spots, random.toNat % spot.length = spot.position) ∧
      (∀ value (spots : List Spot), full.FailsAt (· ∈ spots) value → Spot.Consistent spots →
        ∃ random, one.Rejects value random) ∧
      (full.reach ≤ 1 → ∀ value random, value.Bounded (2 ^ 32) → full.Rejects value random →
        ∃ random, one.Rejects value random) := by
  obtain ⟨full, direct, kept, made⟩ := settings.exists_resampled supported closed bounded
  have rejectsFull (value : Value) (random : UInt32) : full.Rejects value random ↔ _ :=
    kept ▸ direct.rejects_iff .full value random
  have rejectsOne (value : Value) (random : UInt32) :
      (full.resampled .one).Rejects value random ↔ _ :=
    (direct.rejects_iff .one value random).trans Check.failsAt_one_iff
  have found (value : Value) (spots : List Spot) (fails : full.FailsAt (· ∈ spots) value)
      (consistent : Spot.Consistent spots) :
      ∃ random, (full.resampled .one).Rejects value random := by
    obtain ⟨random, picked⟩ := consistent.exists_random
    exact ⟨random, (rejectsOne value random).mpr ⟨spots, fails, picked⟩⟩
  refine ⟨full, full.resampled .one, (made .full).trans (congrArg _ kept), made .one, ?_,
    rejectsOne, found, ?_⟩
  · exact fun value random => (rejectsFull value random).trans Check.failsAt_full_iff
  · intro narrow value random limited rejects
    obtain ⟨spots, few, within, fails⟩ :=
      Check.failsAt_looksAt_iff.mp ((rejectsFull value random).mp rejects)
    exact found value spots fails (Spot.consistent_of_length_le_one (few.trans narrow)
      (fun spot member => (within spot member).2) limited)

/-- Two lists of integers, of which one has a text at its end: five picks it. -/
theorem failures_sampled_of_nested_lists :
    let settings := Settings.standard ⟨102, .fixed 5⟩
    let hint : Hint := .generic .list [.integers] false
    let value : Value := .list 201 [.list 202 [.int 1, .int 2],
      .list 203 [.int 1, .int 2, .str 204 "a"]]
    hint.obstacle = none ∧ (∀ target, ¬ (Hint.reference target).Inside hint) ∧
      hint.height ≤ maxDepth ∧
      ∃ full one, { settings with sampling := .full }.check hint = .ok full ∧
        { settings with sampling := .one }.check hint = .ok one ∧
        full.FailsAt (· ∈ [⟨1, 2⟩, ⟨2, 3⟩]) value ∧ Spot.Consistent [⟨1, 2⟩, ⟨2, 3⟩] ∧
        ∃ random, one.Rejects value random := by
  intro settings hint value
  have closed (target : Reference) :
      ¬ (Hint.reference target).Inside (.generic .list [.integers] false) := by
    intro inside
    cases inside with
    | child member deeper =>
      cases List.mem_singleton.mp member
      rcases Hint.inside_integers deeper with same | same <;> cases same
  obtain ⟨full, one, made, made', -, -, found, -⟩ :=
    settings.failures_sampled (rfl : hint.obstacle = none) closed (by decide)
  have fails : full.FailsAt (· ∈ [⟨1, 2⟩, ⟨2, 3⟩]) value := by
    cases made
    refine .inr ⟨1, _, rfl, List.mem_cons_self, .inr ⟨2, _, rfl, ?_, rfl⟩⟩
    exact List.mem_cons_of_mem _ List.mem_cons_self
  have consistent : Spot.Consistent [⟨1, 2⟩, ⟨2, 3⟩] := ⟨by decide, by simp [Nat.ModEq], by decide⟩
  exact ⟨rfl, closed, by decide, full, one, made, made', fails, consistent,
    found value _ fails consistent⟩

/-- Two lists of two items each, of which the first has a text at its end. A check of all items
fails; one integer picks the same places in the outer and in the inner lists and never the text. -/
theorem sampling_misses_text :
    let settings := Settings.standard ⟨102, .fixed 5⟩
    let hint : Hint := .generic .list [.integers] false
    let value : Value := .list 201 [.list 202 [.int 1, .str 204 "a"], .list 203 [.int 1, .int 1]]
    ∃ full one, { settings with sampling := .full }.check hint = .ok full ∧
      { settings with sampling := .one }.check hint = .ok one ∧
      (∀ random, full.Rejects value random) ∧ ∀ random, ¬ one.Rejects value random := by
  intro settings hint value
  let inner : Check := .instanceOf [.int]
  let full : Check := .eachItem .list (.eachItem .list inner .full) .full
  have direct : full.IsDirect := trivial
  refine ⟨full, full.resampled .one, rfl, rfl, fun random => ?_, fun random rejects => ?_⟩
  · refine (direct.rejects_iff .full value random).mpr (Check.failsAt_full_iff.mpr
      ⟨[⟨0, 2⟩, ⟨1, 2⟩], .inr ⟨0, _, rfl, List.mem_cons_self, .inr ⟨1, _, rfl, ?_, rfl⟩⟩⟩)
    exact List.mem_cons_of_mem _ List.mem_cons_self
  · -- All lists have two items, so one place is looked at in all of them.
    rcases (direct.rejects_iff .one value random).mp rejects with
      other | ⟨place, outer, located, looked, fails⟩
    · cases other
    have picked : random.toNat % 2 = place := (Sampling.looksAt_one.mp looked).2
    match place, located with
    | 0, located | 1, located =>
      cases located
      rcases fails with other | ⟨place', content, located', looked', fails⟩
      · cases other
      have picked' : random.toNat % 2 = place' := (Sampling.looksAt_one.mp looked').2
      cases picked.symm.trans picked'
      cases located'
      cases fails

end Settings

end CallGuard
