/-
Two checks at once. The checks of linked hints, made under two settings, are put
together in the same way from the checks of linked parts, above the last level
and below it. So a relation between checks that goes through whatever they are
put together from holds between the two, once it holds between checks that have
no parts. What later files say about two checks at once, or about all checks,
they say by naming such a relation.
-/
import CallGuard.Proofs.Shape
import CallGuard.Proofs.Synthesis

namespace CallGuard

open List

/-! ### Linked hints -/

/-- Nothing is linked but to itself, and of references only those that are allowed. -/
abbrev Linkage.same (allowed : Reference → Prop) : Linkage :=
  ⟨fun a b => a = b ∧ allowed a, Eq, Eq⟩

namespace Hint

variable {linkage : Linkage} {allowed : Reference → Prop}

theorem linked_same {hint : Hint}
    (each : ∀ target, (reference target).Inside hint → allowed target) :
    Linked (.same allowed) hint hint := by
  have self : Linked (.same fun _ => True) hint hint :=
    linked_self (fun _ => ⟨rfl, trivial⟩) (fun _ => rfl) fun _ => rfl
  exact self.imp_inside (fun target _ inside _ link => ⟨link.1, each target inside⟩)
    (fun _ _ _ _ _ _ _ _ _ _ => id) fun _ _ _ _ _ _ _ _ => id

theorem compatible_same : Compatible (.same allowed) := by
  have alike {a b : Hint} (linked : Linked (.same allowed) a b) : Alike (fun _ => none) a b :=
    linked.imp (fun _ _ link => link.1 ▸ ⟨rfl, rfl, rfl⟩) (fun _ _ same => same ▸ ⟨rfl, rfl⟩)
      fun _ _ same => same ▸ .refl _
  intro a a' b b' first second
  exact Alike.same_eq (alike first) (alike second)

theorem Linked.plainClass?_eq {a b : Hint} (linked : Linked linkage a b) :
    a.plainClass? = b.plainClass? := by
  cases linked <;> rfl

variable {hints hints' : List Hint} (each : List.Forall₂ (Linked linkage) hints hints')

include each

theorem mapM_plainClass?_eq : hints.mapM plainClass? = hints'.mapM plainClass? := by
  induction each with
  | nil => rfl
  | cons head _ ih => rw [mapM_cons, mapM_cons, head.plainClass?_eq, ih]

/-- Linked hints stay so when the ignorable ones are left out and the places are kept. -/
theorem filter_zipIdx_linked :
    List.Forall₂ (fun item item' : Hint × Nat => Linked linkage item.1 item'.1 ∧ item.2 = item'.2)
      (hints.zipIdx.filter fun item => !item.1.isIgnorable)
      (hints'.zipIdx.filter fun item => !item.1.isIgnorable) := by
  have steps (start : Nat) : List.Forall₂ (fun item item' : Hint × Nat =>
        Linked linkage item.1 item'.1 ∧ item.2 = item'.2)
      ((hints.zipIdx start).filter fun item => !item.1.isIgnorable)
      ((hints'.zipIdx start).filter fun item => !item.1.isIgnorable) := by
    induction each generalizing start with
    | nil => exact .nil
    | cons head _ ih =>
      rw [zipIdx_cons, zipIdx_cons, filter_cons, filter_cons, head.isIgnorable_eq]
      split
      · exact .cons ⟨head, rfl⟩ (ih _)
      · exact ih _
  exact steps 0

end Hint

namespace Settings

variable {settings settings' : Settings} {linkage : Linkage} {related : Check → Check → Prop}
  {shape : Shape} {levels : Nat} {check check' : Check}

/-! ### Relations between checks -/

/-- The relation goes through whatever the checks of linked hints are put together from, those on
the left under the one settings and those on the right under the other. A reference is related if
what it may turn out to ask is. -/
structure Congruence (settings settings' : Settings) (linkage : Linkage)
    (related : Check → Check → Prop) : Prop where
  compatible : Hint.Compatible linkage
  leaf {shape shape' : Shape} {check : Check}
    (shapes : shape.Linked (Hint.Linked linkage) linkage shape')
    (found : settings.leafCheck shape = some check) :
    ∃ check', settings'.leafCheck shape' = some check' ∧ related check check'
  anyOf {parts parts' : List (Nat × Check)}
    (each : List.Forall₂ (fun part part' => related part.2 part'.2) parts parts') :
    related (.anyOf (.ofList parts)) (.anyOf (.ofList parts'))
  eachItem {check check' : Check} (inside : related check check') (container : Class) :
    related (.eachItem container check settings.sampling)
      (.eachItem container check' settings'.sampling)
  eachEntry {sides sides' : List (Nat × Check)}
    (each : List.Forall₂ (fun side side' => side.1 = side'.1 ∧ related side.2 side'.2)
      sides sides') :
    related (.eachEntry (.ofList sides) settings.sampling)
      (.eachEntry (.ofList sides') settings'.sampling)
  tupleOf {items items' : List (Nat × Check)}
    (each : List.Forall₂ (fun item item' => item.1 = item'.1 ∧ related item.2 item'.2)
      items items') (size : Nat) :
    related (.tupleOf size (.ofList items)) (.tupleOf size (.ofList items'))
  validated {check check' : Check} {validators validators' : List Validator}
    (inside : related check check')
    (each : List.Forall₂ linkage.validators validators validators') :
    related (.validated check validators) (.validated check' validators')
  deferred {levels : Nat} {target target' : Reference} (link : linkage.references target target')
    (later : ∀ {hint hint' : Hint} {check check' : Check}, Hint.Linked linkage hint hint' →
      settings.checkWithin levels [] hint = .ok check →
      settings'.checkWithin levels [] hint' = .ok check' → related check check') :
    related (.deferred target (settings.follow levels target))
      (.deferred target' (settings'.follow levels target'))

theorem Congruence.instanceCheck (congruence : settings.Congruence settings' linkage related)
    (c : Class) : related (settings.instanceCheck [c]) (settings'.instanceCheck [c]) := by
  obtain ⟨check', found, inside⟩ := congruence.leaf (.instanceOf c) rfl
  cases found
  exact inside

theorem Congruence.always (congruence : settings.Congruence settings' linkage related) :
    related .always .always := by
  obtain ⟨check', found, inside⟩ := congruence.leaf .ignorable rfl
  cases found
  exact inside

theorem leafCheck_eq_of_linked {allowed : Reference → Prop} {shape' : Shape}
    (shapes : shape.Linked (Hint.Linked (.same allowed)) (.same allowed) shape') :
    settings.leafCheck shape = settings.leafCheck shape' := by
  cases shapes with
  | union each => rw [leafCheck, leafCheck, Hint.mapM_plainClass?_eq each]
  | literal each =>
    cases forall₂_eq_eq_eq ▸ each
    rfl
  | sequence items => cases items <;> rfl
  | mapping keys entries => cases keys <;> cases entries <;> rfl
  | _ => rfl

/-! ### Below the last level -/

theorem MakesShallow.eq_of_leafCheck (makes : settings.MakesShallow shape check')
    (found : settings.leafCheck shape = some check) : check' = check := by
  cases makes with
  | leaf found' => exact Option.some.inj (found'.symm.trans found)
  | union mixed each =>
    rw [leafCheck, mixed] at found
    cases found
  | sequence | fixedTuple | annotated | reference => cases found
  | mapping key entry => rcases key with _ | _ <;> rcases entry with _ | _ <;> cases found; rfl

theorem Congruence.shallowCheck (congruence : settings.Congruence settings' linkage related)
    {path path' : List Nat} {a b : Hint} {check check' : Check} (link : Hint.Linked linkage a b)
    (made : settings.shallowCheck path a = .ok check)
    (made' : settings'.shallowCheck path' b = .ok check') : related check check' := by
  have makes := makesShallow_of_shallowCheck made
  have makes' := makesShallow_of_shallowCheck made'
  have shapes := link.shape congruence.compatible
  have lower {inner : Hint} (member : inner ∈ a.shape.parts) : inner.height < a.height :=
    (Hint.mem_parts member).2
  generalize a.shape = shape at makes shapes lower
  generalize b.shape = shape' at makes' shapes
  cases makes with
  | leaf found =>
    obtain ⟨other, found', inside⟩ := congruence.leaf shapes found
    rw [makes'.eq_of_leafCheck found']
    exact inside
  | union mixed each =>
    cases shapes with | union links =>
    cases makes' with
    | leaf found' =>
      rw [leafCheck, ← Hint.mapM_plainClass?_eq links, mixed] at found'
      cases found'
    | union mixed' each' =>
      refine congruence.anyOf (forall₂_transfer links each each' ?_)
      rintro member inMembers part member' part' ⟨_, made⟩ ⟨_, made'⟩ link
      have smaller := lower inMembers
      exact congruence.shallowCheck link made made'
  | sequence container item =>
    cases shapes with | sequence items =>
    cases items with | some _ =>
    cases makes' with
    | leaf found' => cases found'
    | sequence => exact congruence.instanceCheck container
  | mapping key entry =>
    cases shapes with | mapping keys entries =>
    cases makes' with
    | mapping => exact congruence.instanceCheck .dict
    | leaf found' =>
      cases keys <;> cases entries <;> cases found'
      exact congruence.instanceCheck .dict
  | fixedTuple items =>
    cases shapes with | fixedTuple _ =>
    cases makes' with
    | leaf found' => cases found'
    | fixedTuple => exact congruence.instanceCheck .tuple
  | annotated made =>
    cases shapes with | annotated inside _ =>
    cases makes' with
    | leaf found' => cases found'
    | annotated made' =>
      have smaller := lower mem_cons_self
      exact congruence.shallowCheck inside made made'
  | reference target =>
    cases shapes with | reference _ =>
    cases makes' with
    | leaf found' => cases found'
    | reference => exact congruence.always
termination_by a.height

/-! ### Above the last level -/

theorem Makes.eq_of_leafCheck (makes : settings.Makes levels shape check')
    (found : settings.leafCheck shape = some check) : check' = check := by
  cases makes with
  | leaf found' => exact Option.some.inj (found'.symm.trans found)
  | union mixed each =>
    rw [leafCheck, mixed] at found
    cases found
  | sequence | key | entry | both | fixedTuple | annotated | reference => cases found

/-- The checks of linked hints are related, at whatever level. -/
theorem Congruence.checkWithin (congruence : settings.Congruence settings' linkage related)
    {path path' : List Nat} {a b : Hint} (link : Hint.Linked linkage a b)
    (made : settings.checkWithin levels path a = .ok check)
    (made' : settings'.checkWithin levels path' b = .ok check') : related check check' := by
  induction levels generalizing a b path path' check check' with
  | zero => exact congruence.shallowCheck link made made'
  | succ levels ih =>
    have makes := makes_of_checkWithin made
    have makes' := makes_of_checkWithin made'
    have shapes := link.shape congruence.compatible
    clear made made'
    generalize a.shape = shape at makes shapes
    generalize b.shape = shape' at makes' shapes
    cases makes with
    | leaf found =>
      obtain ⟨other, found', inside⟩ := congruence.leaf shapes found
      rw [makes'.eq_of_leafCheck found']
      exact inside
    | union mixed each =>
      cases shapes with | union links =>
      cases makes' with
      | leaf found' =>
        rw [leafCheck, ← Hint.mapM_plainClass?_eq links, mixed] at found'
        cases found'
      | union mixed' each' =>
        refine congruence.anyOf (forall₂_transfer links each each' ?_)
        rintro member inMembers part member' part' ⟨_, made⟩ ⟨_, made'⟩ link
        exact ih link made made'
    | sequence made =>
      cases shapes with | sequence items =>
      cases items with | some link =>
      cases makes' with
      | leaf found' => cases found'
      | sequence made' => exact congruence.eachItem (ih link made made') _
    | key made =>
      cases shapes with | mapping keys entries =>
      cases keys with | some link =>
      cases entries with | none =>
      cases makes' with
      | leaf found' => cases found'
      | key made' => exact congruence.eachEntry (.cons ⟨rfl, ih link made made'⟩ .nil)
    | entry made =>
      cases shapes with | mapping keys entries =>
      cases keys with | none =>
      cases entries with | some link =>
      cases makes' with
      | leaf found' => cases found'
      | entry made' => exact congruence.eachEntry (.cons ⟨rfl, ih link made made'⟩ .nil)
    | both madeKey madeEntry =>
      cases shapes with | mapping keys entries =>
      cases keys with | some link =>
      cases entries with | some link' =>
      cases makes' with
      | leaf found' => cases found'
      | both madeKey' madeEntry' =>
        have inKey := ih link madeKey madeKey'
        have inEntry := ih link' madeEntry madeEntry'
        exact congruence.eachEntry (.cons ⟨rfl, inKey⟩ (.cons ⟨rfl, inEntry⟩ .nil))
    | fixedTuple each =>
      cases shapes with | fixedTuple links =>
      cases makes' with
      | leaf found' => cases found'
      | fixedTuple each' =>
        rw [links.length_eq]
        refine congruence.tupleOf
          (forall₂_transfer (Hint.filter_zipIdx_linked links) each each' ?_) _
        rintro item inItems part item' part' ⟨slot, _, made⟩ ⟨slot', _, made'⟩ ⟨link, places⟩
        exact ⟨slot.trans (places.trans slot'.symm), ih link made made'⟩
    | annotated made =>
      cases shapes with | annotated inside validators =>
      cases makes' with
      | leaf found' => cases found'
      | annotated made' => exact congruence.validated (ih inside made made') validators
    | reference target =>
      cases shapes with | reference link =>
      cases makes' with
      | leaf found' => cases found'
      | reference => exact congruence.deferred link ih

end Settings

end CallGuard
