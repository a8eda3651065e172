/-
What verdicts say. A check asks of a value what the shape of its hint asks, and
hands the parts over to the checks of the parts. If those lie between a
necessary and a sufficient condition, so does the verdict of the whole: it is
positive only if the shape holds of the value with the necessary conditions for
the parts, and whenever it does with the sufficient ones. Both conditions are
the same where a check is exact; the sufficient one alone matters where a check
may let values pass.
-/
import CallGuard.Proofs.Instance
import CallGuard.Proofs.Resolution
import CallGuard.Proofs.Shape
import CallGuard.Proofs.Synthesis

namespace CallGuard

open List

/-- What a shape asks of a value, where `fits` says what its parts ask and `random` decides which
items are looked at. Parts that admit everything are not asked. -/
def Shape.Holds (settings : Settings) (random : UInt32) (meaning : Reference → Option Hint)
    (fits : Hint → Value → Prop) : Shape → Value → Prop
  | .ignorable, _ => True
  | .null, value => value = .null
  | .instanceOf c, value => settings.admits c value = true
  | .union members, value =>
    match members.mapM Hint.plainClass? with
    | some classes => ∃ c ∈ classes, settings.admits c value = true
    | none => ∃ member ∈ members, fits member value
  | .sequence container none, value => settings.admits container value = true
  | .sequence container (some item), value =>
    value.isInstance container = true ∧
      ∀ picked ∈ settings.sampling.pick (value.items?.getD []) random, fits item picked.2
  | .mapping none none, value => settings.admits .dict value = true
  | .mapping key entry, value =>
    ∃ entries, value.entries? = some entries ∧
      ∀ picked ∈ settings.sampling.pick entries random,
        (∀ hint ∈ key, fits hint picked.2.1) ∧ ∀ hint ∈ entry, fits hint picked.2.2
  | .fixedTuple items, value =>
    value.isInstance .tuple = true ∧
      List.Forall₂ (fun item content => item.isIgnorable = true ∨ fits item content) items
        (value.items?.getD [])
  | .subclassOf base, value => value.isClassObject base = true
  | .structural protocol, value => protocol.isSatisfiedBy value.kind = true
  | .reference target, value => ∃ hint, meaning target = some hint ∧ fits hint value
  | .annotated inner validators, value =>
    fits inner value ∧ ∀ validator ∈ validators, validator.accepts value = true
  | .literal values, value => values.any value.isLiteral = true
  | .unsupported _, _ | .never, _ => False

namespace Action

variable {meaning : Reference → Option Hint}

/-! ### Rules for bounds -/

/-- The question is always answered; the answer is yes only if `may` holds, and whenever `must`
does. -/
def Between (meaning : Reference → Option Hint) (ask : Action Bool) (may must : Prop) : Prop :=
  Returns meaning ask fun answer => (answer = true → may) ∧ (must → answer = true)

variable {ask ask' : Action Bool} {may must may' must' : Prop} {holds : Bool}
  {parts : List (Nat × Check)}

theorem Between.weaken (between : Between meaning ask may must) (weaker : may → may')
    (stronger : must' → must) :
    Between meaning ask may' must' :=
  Returns.weaken between fun _ bounds => ⟨fun holds => weaker (bounds.1 holds),
    fun holds => bounds.2 (stronger holds)⟩

theorem between_pure (sound : holds = true → may) (complete : must → holds = true) :
    Between meaning (pure holds) may must :=
  returns_pure ⟨sound, complete⟩

theorem between_allM {Item : Type} {items : List Item} {ask : Item → Action Bool}
    {may must : Item → Prop}
    (each : ∀ item ∈ items, Between meaning (ask item) (may item) (must item)) :
    Between meaning (items.allM ask) (∀ item ∈ items, may item) (∀ item ∈ items, must item) := by
  refine (returns_allM each).weaken fun answer found => ⟨?_, ?_⟩
  · intro holds item member
    exact (found.1 holds item member).1 rfl
  · intro holds
    cases answer with
    | true => rfl
    | false =>
      obtain ⟨item, member, known⟩ := found.2 rfl
      exact known.2 (holds item member)

/-- Two questions of which the second is asked if the answer to the first is yes. -/
theorem between_and (first : Between meaning ask may must)
    (second : Between meaning ask' may' must') :
    Between meaning (do if ← ask then ask' else pure false) (may ∧ may') (must ∧ must') := by
  refine returns_bind first fun answer known => ?_
  cases answer with
  | true =>
    refine Returns.weaken second fun answer' known' => ⟨fun holds => ?_, fun holds => ?_⟩
    · exact ⟨known.1 rfl, known'.1 holds⟩
    · exact known'.2 holds.2
  | false => exact between_pure nofun fun holds => absurd (known.2 holds.1) Bool.false_ne_true

/-- Two questions of which the second is asked if the answer to the first is no. -/
theorem between_or (first : Between meaning ask may must)
    (second : Between meaning ask' may' must') :
    Between meaning (do if ← ask then pure true else ask') (may ∨ may') (must ∨ must') := by
  refine returns_bind first fun answer known => ?_
  cases answer with
  | true => exact between_pure (fun _ => .inl (known.1 rfl)) fun _ => rfl
  | false =>
    refine Returns.weaken second fun answer' known' => ⟨fun holds => .inr (known'.1 holds), ?_⟩
    rintro (holds | holds)
    · exact absurd (known.2 holds) Bool.false_ne_true
    · exact known'.2 holds

theorem Between.last (between : Between meaning ask may must) :
    Between meaning (do if ← ask then pure true else pure false) may must :=
  (between_and between (between_pure (fun _ => trivial) fun _ => rfl)).weaken And.left
    fun holds => ⟨holds, trivial⟩

theorem between_ite (between : Between meaning ask may must) :
    Between meaning (if holds then ask else pure false) (holds = true ∧ may)
      (holds = true ∧ must) := by
  cases holds with
  | true => exact between.weaken (fun bound => ⟨rfl, bound⟩) fun bound => bound.2
  | false => exact between_pure nofun fun bound => bound.1

/-! ### Parts -/

variable {random : UInt32} {value : Value}

theorem between_someHolds {members : List Hint} {may must : Hint → Prop}
    (each : List.Forall₂ (fun member part =>
      Between meaning (part.2.verdict value random) (may member) (must member)) members parts) :
    Between meaning ((Parts.ofList parts).someHolds value random) (∃ member ∈ members, may member)
      (∃ member ∈ members, must member) := by
  induction each with
  | nil => exact between_pure nofun fun ⟨_, member, _⟩ => nomatch member
  | cons head _ ih =>
    rw [Parts.ofList, Parts.someHolds]
    simp only [exists_mem_cons_iff]
    exact between_or head ih

/-- The parts of a tuple, each asked about the item in its slot. -/
theorem between_allHold {items : List Hint} {contents : List Value} {lookup : Nat → Option Value}
    {number : Nat} {good : Value → Prop} {may must : Hint → Value → Prop}
    (sizes : contents.length = items.length) (inside : ∀ content ∈ contents, good content)
    (located : ∀ index, lookup (number + index) = contents[index]?)
    (each : List.Forall₂ (fun item part => part.1 = item.2 ∧ ∀ content, good content →
        Between meaning (part.2.verdict content random) (may item.1 content) (must item.1 content))
      ((items.zipIdx number).filter fun item => !item.1.isIgnorable) parts) :
    Between meaning ((Parts.ofList parts).allHold lookup random)
      (List.Forall₂ (fun item content => item.isIgnorable = true ∨ may item content) items contents)
      (List.Forall₂ (fun item content => item.isIgnorable = true ∨ must item content) items
        contents) := by
  induction items generalizing contents parts number with
  | nil =>
    cases eq_nil_of_length_eq_zero sizes
    cases each
    exact between_pure (fun _ => .nil) fun _ => rfl
  | cons item items ih =>
    obtain ⟨content, contents, rfl⟩ := exists_cons_of_length_eq_add_one sizes
    obtain ⟨inside, others⟩ := forall_mem_cons.mp inside
    have first : lookup number = some content := located 0
    have later (index : Nat) : lookup (number + 1 + index) = contents[index]? := by
      rw [Nat.add_assoc, Nat.add_comm 1 index]
      exact located (index + 1)
    simp only [forall₂_cons]
    rw [zipIdx_cons] at each
    cases ignorable : item.isIgnorable with
    | true =>
      rw [filter_cons_of_neg (by simp [ignorable])] at each
      refine (ih (Nat.succ.inj sizes) others later each).weaken ?_ ?_
      · exact fun rest => ⟨.inl rfl, rest⟩
      · exact fun rest => rest.2
    | false =>
      rw [filter_cons_of_pos (by simp [ignorable])] at each
      cases each with | @cons _ made _ _ part more =>
      obtain ⟨slot, check⟩ := made
      obtain ⟨rfl, made⟩ := part
      rw [Parts.ofList, Parts.allHold, first]
      refine (between_and (made content inside)
        (ih (Nat.succ.inj sizes) others later more)).weaken ?_ ?_
      · exact fun both => ⟨.inr both.1, both.2⟩
      · exact fun both => ⟨both.1.resolve_left Bool.false_ne_true, both.2⟩

end Action

/-! ### Verdicts above the last level -/

namespace Settings

open CallGuard.Action

variable {settings : Settings} {random : UInt32} {meaning : Reference → Option Hint} {value : Value}
  {levels : Nat} {may must : Hint → Value → Prop}

theorem between_instanceCheck (classes : List Class) {wanted wanted' : Prop}
    (sound : (∃ c ∈ classes, settings.admits c value = true) → wanted)
    (complete : wanted' → ∃ c ∈ classes, settings.admits c value = true) :
    Between meaning ((settings.instanceCheck classes).verdict value random) wanted wanted' := by
  rw [instanceCheck_verdict]
  refine between_pure (fun holds => sound (any_eq_true.mp holds)) ?_
  exact fun holds => any_eq_true.mpr (complete holds)

variable {shape : Shape} {check : Check}

theorem between_leafCheck (found : settings.leafCheck shape = some check) :
    Between meaning (check.verdict value random) (shape.Holds settings random meaning may value)
      (shape.Holds settings random meaning must value) := by
  have single (c : Class) : (∃ c' ∈ [c], settings.admits c' value = true) ↔
      settings.admits c value = true := by simp
  cases shape with
  | unsupported _ | fixedTuple _ | reference _ | annotated _ _ | never => cases found
  | ignorable =>
    cases found
    exact between_pure (fun _ => trivial) fun _ => rfl
  | null =>
    cases found
    refine between_pure (fun holds => ?_) fun holds => ?_
    · cases value with
      | null => rfl
      | _ => cases holds
    · cases holds
      rfl
  | instanceOf c =>
    cases found
    exact between_instanceCheck [c] (single c).mp (single c).mpr
  | union members =>
    obtain ⟨classes, plain, rfl⟩ := Option.map_eq_some_iff.mp found
    simp only [Shape.Holds, plain]
    exact between_instanceCheck classes id id
  | sequence container item =>
    cases item with
    | some _ => cases found
    | none =>
      cases found
      exact between_instanceCheck [container] (single container).mp (single container).mpr
  | mapping key entry =>
    cases key with
    | some _ => cases found
    | none =>
      cases entry with
      | some _ => cases found
      | none =>
        cases found
        exact between_instanceCheck [.dict] (single .dict).mp (single .dict).mpr
  | subclassOf base =>
    cases found
    exact between_pure id id
  | structural protocol =>
    cases found
    refine (returns_ask protocol value.kind).weaken fun answer known => ?_
    rw [known]
    exact ⟨id, id⟩
  | literal values =>
    cases found
    exact between_pure id id

theorem between_entries {ask : Nat × Value × Value → Action Bool}
    {may must : Nat × Value × Value → Prop}
    (each : ∀ picked, picked.2.1 ∈ value.parts ∧ picked.2.2 ∈ value.parts →
      Between meaning (ask picked) (may picked) (must picked)) :
    Between meaning (match value.entries? with
        | none => pure false
        | some entries => (settings.sampling.pick entries random).allM ask)
      (∃ entries, value.entries? = some entries ∧
        ∀ picked ∈ settings.sampling.pick entries random, may picked)
      (∃ entries, value.entries? = some entries ∧
        ∀ picked ∈ settings.sampling.pick entries random, must picked) := by
  cases found : value.entries? with
  | none => exact between_pure nofun fun ⟨_, impossible, _⟩ => nomatch impossible
  | some entries =>
    refine (between_allM fun picked member => each picked (Value.mem_parts_of_entries found
      (Sampling.mem_of_mem_pick member))).weaken (fun all => ⟨entries, rfl, all⟩) ?_
    rintro ⟨_, same, all⟩
    cases same
    exact all

/-- The verdict of a check lies between what the shape asks with the bounds for its parts. -/
theorem between_makes (makes : settings.Makes levels shape check)
    (parts : ∀ part ∈ shape.parts, ∀ path check content,
      settings.checkWithin levels path part = .ok check → content.Inside value →
        Between meaning (check.verdict content random) (may part content) (must part content))
    (follows : ∀ target, shape = .reference target →
      Between meaning (settings.follow levels target value random)
        (∃ hint, meaning target = some hint ∧ may hint value)
        (∃ hint, meaning target = some hint ∧ must hint value)) :
    Between meaning (check.verdict value random) (shape.Holds settings random meaning may value)
      (shape.Holds settings random meaning must value) := by
  cases makes with
  | leaf found => exact between_leafCheck found
  | union mixed each =>
    simp only [Shape.Holds, mixed]
    refine between_someHolds (forall₂_imp_of_mem each fun member inMembers part _ made => ?_)
    obtain ⟨path, made⟩ := made
    exact parts member inMembers path part.2 value made .self
  | sequence made =>
    refine between_ite (between_allM fun picked member => ?_)
    have inside := Value.mem_parts_of_items (Sampling.mem_of_mem_pick member)
    exact parts _ mem_cons_self _ _ _ made (.part inside .self)
  | key made =>
    refine between_entries fun picked inside => ?_
    refine (parts _ mem_cons_self _ _ _ made (.part inside.1 .self)).last.weaken ?_ ?_
    · exact fun holds => ⟨by simpa using holds, by rintro _ ⟨⟩⟩
    · exact fun holds => holds.1 _ rfl
  | entry made =>
    refine between_entries fun picked inside => ?_
    refine (parts _ mem_cons_self _ _ _ made (.part inside.2 .self)).last.weaken ?_ ?_
    · exact fun holds => ⟨by rintro _ ⟨⟩, by simpa using holds⟩
    · exact fun holds => holds.2 _ rfl
  | both made made' =>
    refine between_entries fun picked inside => ?_
    have first := parts _ mem_cons_self _ _ _ made (.part inside.1 .self)
    have second := parts _ (mem_cons_of_mem _ mem_cons_self) _ _ _ made'
      (.part inside.2 .self)
    refine (between_and first second.last).weaken ?_ ?_
    · exact fun holds => ⟨by simpa using holds.1, by simpa using holds.2⟩
    · exact fun holds => ⟨holds.1 _ rfl, holds.2 _ rfl⟩
  | @fixedTuple items checks each =>
    rw [Check.verdict]
    by_cases sizes : (value.items?.getD []).length = items.length
    · have inside (content : Value) (member : content ∈ value.items?.getD []) :
          content.Inside value := .part (Value.mem_parts_of_items member) .self
      have each' : List.Forall₂ (fun item part => part.1 = item.2 ∧ ∀ content,
          content.Inside value → Between meaning (part.2.verdict content random)
            (may item.1 content) (must item.1 content))
          (items.zipIdx.filter fun item => !item.1.isIgnorable) checks := by
        refine forall₂_imp_of_mem each fun item member part _ made => ⟨made.1, ?_⟩
        obtain ⟨-, path, made⟩ := made
        have inItems := fst_mem_of_mem_zipIdx (mem_of_mem_filter member)
        exact fun content within => parts item.1 inItems path part.2 content made within
      refine (between_ite (between_allHold sizes inside (fun index => ?_) each')).weaken ?_ ?_
      · rw [Nat.zero_add]
      · exact fun holds => ⟨(Bool.and_eq_true_iff.mp holds.1).1, holds.2⟩
      · exact fun holds => ⟨Bool.and_eq_true_iff.mpr ⟨holds.1, beq_iff_eq.mpr sizes⟩, holds.2⟩
    · have fails : (value.isInstance .tuple && (value.items?.getD []).length == items.length) =
          false := by simp [sizes]
      rw [fails]
      exact between_pure (fun passes => absurd passes Bool.false_ne_true)
        fun holds => absurd holds.2.length_eq.symm sizes
  | annotated made =>
    exact between_and (parts _ mem_cons_self _ _ _ made .self)
      (between_pure all_eq_true.mp all_eq_true.mpr)
  | reference target => exact follows target rfl

/-! ### Verdicts below the last level -/

theorem admits_of_isInstance {c : Class} (holds : value.isInstance c = true) :
    settings.admits c value = true := by
  refine any_eq_true.mpr ⟨c, ?_, holds⟩
  unfold accepted
  split
  · exact mem_cons_self
  · split
    · exact mem_cons_self
    · split <;> exact mem_cons_self

/-- Below the last level, whatever the shape holds of passes. -/
theorem returns_makesShallow (makes : settings.MakesShallow shape check)
    (parts : ∀ part ∈ shape.parts, ∀ path check, settings.shallowCheck path part = .ok check →
      Returns meaning (check.verdict value random) fun answer => must part value → answer = true) :
    Returns meaning (check.verdict value random) fun answer =>
      shape.Holds settings random meaning must value → answer = true := by
  have single {c : Class} {wanted : Prop} (complete : wanted → value.isInstance c = true) :
      Returns meaning ((settings.instanceCheck [c]).verdict value random) fun answer =>
        wanted → answer = true := by
    have bounds : Between meaning ((settings.instanceCheck [c]).verdict value random) True wanted :=
      between_instanceCheck [c] (fun _ => trivial) fun holds =>
        ⟨c, mem_cons_self, admits_of_isInstance (complete holds)⟩
    exact Returns.weaken bounds fun _ known => known.2
  have leaf {shape : Shape} {check : Check} (found : settings.leafCheck shape = some check) :
      Returns meaning (check.verdict value random) fun answer =>
        shape.Holds settings random meaning must value → answer = true := by
    have bounds : Between meaning (check.verdict value random)
        (shape.Holds settings random meaning must value)
        (shape.Holds settings random meaning must value) := between_leafCheck found
    exact Returns.weaken bounds fun _ known => known.2
  cases makes with
  | leaf found => exact leaf found
  | @union members checks mixed each =>
    simp only [Shape.Holds, mixed]
    have bounds : List.Forall₂ (fun member (part : Nat × Check) =>
        Between meaning (part.2.verdict value random) True (must member value)) members checks := by
      refine forall₂_imp_of_mem each fun member inMembers part _ made => ?_
      obtain ⟨path, made⟩ := made
      exact (parts member inMembers path part.2 made).weaken
        fun _ complete => ⟨fun _ => trivial, complete⟩
    exact Returns.weaken (between_someHolds bounds) fun _ known => known.2
  | sequence container item => exact single fun holds => holds.1
  | mapping key entry =>
    have dictionary {entries : List (Value × Value)} (found : value.entries? = some entries) :
        value.isInstance .dict = true := by
      cases value with
      | dict _ _ => rfl
      | _ => cases found
    rcases key with _ | key <;> rcases entry with _ | entry
    · exact leaf rfl
    all_goals exact single fun ⟨_, found, _⟩ => dictionary found
  | fixedTuple items => exact single fun holds => holds.1
  | annotated made =>
    exact (parts _ mem_cons_self _ _ made).weaken fun _ complete holds => complete holds.1
  | reference target => exact returns_pure fun _ => rfl

end Settings

end CallGuard
