/-
Laxer settings. Settings are laxer than others if they look at fewer items of
each container or let more classes pass for a class. A check made under laxer
settings fails only because of items because of which the other check fails as
well, and it looks at no item that the other does not look at. So whatever
passes under some settings passes under laxer ones, whichever integer is drawn,
at whatever depth the hint nests. A count that no container in a value exceeds
is as good as looking at all items.
-/
import CallGuard.Proofs.Coverage

namespace CallGuard

open List

/-! ### Fewer items -/

namespace Sampling

variable {few many : Sampling} {random : UInt32} {spot : Spot}

theorem LooksAt.inside (looked : few.LooksAt random spot) : spot.position < spot.length :=
  lt_of_mem_indices looked

theorem LooksAt.mono (fewer : few ≤ many) (looked : few.LooksAt random spot) :
    many.LooksAt random spot := by
  by_cases all : many = full
  · rw [all, looksAt_full]
    exact looked.inside
  · exact (indices_leading fewer all).subset looked

/-- A count that is no less than the length takes in every place. -/
theorem looksAt_count {number : Nat} (inside : spot.position < spot.length)
    (enough : spot.length ≤ number) : (count number).LooksAt random spot := by
  have all : (count number).size spot.length = spot.length := Nat.min_eq_left enough
  exact (indices_perm all).mem_iff.mpr (mem_range.mpr inside)

end Sampling

/-! ### Checks that fail less often -/

/-- Wherever the check fails because of some items, the other one does so as well. -/
def Check.Relaxes (check other : Check) : Prop :=
  ∀ (seen : Spot → Prop) (value : Value), check.FailsAt seen value → other.FailsAt seen value

section Parts

variable {seen : Spot → Prop} {parts others : List (Nat × Check)}

theorem Parts.noneHolds_of_relaxes {value : Value}
    (each : List.Forall₂ (fun part other => part.2.Relaxes other.2) parts others)
    (fail : (Parts.ofList parts).NoneHolds seen value) :
    (Parts.ofList others).NoneHolds seen value := by
  induction each with
  | nil => trivial
  | cons head _ ih =>
    exact ⟨head seen value fail.1, ih fail.2⟩

theorem Parts.someFails_of_relaxes {contents : Nat → Option Value}
    (each : List.Forall₂ (fun part other => part.1 = other.1 ∧ part.2.Relaxes other.2) parts others)
    (fails : (Parts.ofList parts).SomeFails seen contents) :
    (Parts.ofList others).SomeFails seen contents := by
  induction each with
  | nil => exact fails
  | cons head _ ih =>
    obtain ⟨slots, relaxes⟩ := head
    rcases fails with ⟨value, located, fails⟩ | fails
    · exact .inl ⟨value, slots ▸ located, relaxes seen value fails⟩
    · exact .inr (ih fails)

end Parts

namespace Check

variable {check other : Check} {parts others : List (Nat × Check)} {sampling sampling' : Sampling}

theorem relaxes_refl (check : Check) : check.Relaxes check := fun _ _ => id

theorem relaxes_anyOf
    (each : List.Forall₂ (fun part other => part.2.Relaxes other.2) parts others) :
    (Check.anyOf (.ofList parts)).Relaxes (.anyOf (.ofList others)) :=
  fun _ _ => Parts.noneHolds_of_relaxes each

theorem Relaxes.eachItem (relaxes : check.Relaxes other) (container : Class) :
    (Check.eachItem container check sampling).Relaxes (.eachItem container other sampling') := by
  rintro seen value (outside | ⟨position, content, located, looked, fails⟩)
  · exact .inl outside
  · exact .inr ⟨position, content, located, looked, relaxes seen content fails⟩

theorem relaxes_eachEntry
    (each : List.Forall₂ (fun part other => part.1 = other.1 ∧ part.2.Relaxes other.2)
      parts others) :
    (Check.eachEntry (.ofList parts) sampling).Relaxes (.eachEntry (.ofList others) sampling') := by
  rintro seen value (outside | ⟨position, content, located, looked, fails⟩)
  · exact .inl outside
  · exact .inr ⟨position, content, located, looked, Parts.someFails_of_relaxes each fails⟩

theorem relaxes_tupleOf
    (each : List.Forall₂ (fun part other => part.1 = other.1 ∧ part.2.Relaxes other.2)
      parts others) (size : Nat) :
    (Check.tupleOf size (.ofList parts)).Relaxes (.tupleOf size (.ofList others)) :=
  fun _ _ fails => fails.imp_right (Parts.someFails_of_relaxes each)

theorem Relaxes.validated (relaxes : check.Relaxes other) (validators : List Validator) :
    (Check.validated check validators).Relaxes (.validated other validators) :=
  fun seen value fails => fails.imp_left (relaxes seen value)

end Check

/-! ### Checks under laxer settings -/

namespace Settings

variable {settings settings' : Settings}

/-- The settings take numbers no more strictly than the others. -/
def AtMostAsStrict (settings' settings : Settings) : Prop :=
  settings'.strict = settings.strict ∨ settings'.strict = false

theorem atMostAsStrict_resampled (settings : Settings) (sampling sampling' : Sampling) :
    { settings with sampling := sampling }.AtMostAsStrict { settings with sampling := sampling' } :=
  .inl rfl

theorem AtMostAsStrict.accepted_subset (laxer : settings'.AtMostAsStrict settings) (c : Class) :
    settings.accepted c ⊆ settings'.accepted c := by
  rcases laxer with same | lax
  · rw [accepted, accepted, same]
    exact List.Subset.refl _
  · rw [accepted, accepted, lax]
    cases settings.strict with
    | false => exact List.Subset.refl _
    | true =>
      intro c' member
      cases mem_singleton.mp member
      rw [if_neg Bool.false_ne_true]
      split
      · exact mem_cons_self
      · split <;> exact mem_cons_self

theorem AtMostAsStrict.instanceCheck (laxer : settings'.AtMostAsStrict settings)
    (classes : List Class) :
    (settings'.instanceCheck classes).Relaxes (settings.instanceCheck classes) := by
  intro seen value fails
  refine any_eq_false.mpr fun c member => any_eq_false.mp fails c ?_
  rw [mem_eraseDups, mem_flatMap] at member ⊢
  obtain ⟨base, inClasses, passes⟩ := member
  exact ⟨base, inClasses, laxer.accepted_subset base passes⟩

/-- Where a shape has a check by itself under the laxer settings, it has one that fails no less often
under the others. -/
theorem AtMostAsStrict.exists_leafCheck (laxer : settings'.AtMostAsStrict settings) {shape : Shape}
    {check' : Check} (found : settings'.leafCheck shape = some check') :
    ∃ check, settings.leafCheck shape = some check ∧ check'.Relaxes check := by
  cases shape with
  | unsupported _ | fixedTuple _ | reference _ | annotated _ _ | never => cases found
  | ignorable | null | subclassOf _ | structural _ | literal _ =>
    cases found
    exact ⟨_, rfl, Check.relaxes_refl _⟩
  | instanceOf c =>
    cases found
    exact ⟨_, rfl, laxer.instanceCheck [c]⟩
  | union members =>
    obtain ⟨classes, plain, rfl⟩ := Option.map_eq_some_iff.mp found
    exact ⟨_, Option.map_eq_some_iff.mpr ⟨classes, plain, rfl⟩, laxer.instanceCheck classes⟩
  | sequence container item =>
    cases item with
    | some _ => cases found
    | none =>
      cases found
      exact ⟨_, rfl, laxer.instanceCheck [container]⟩
  | mapping key entry =>
    rcases key with _ | _ <;> rcases entry with _ | _ <;> cases found
    exact ⟨_, rfl, laxer.instanceCheck [.dict]⟩

/-- That a check fails no more often goes through whatever checks are put together from, whatever
the samplings. References do not fail by themselves. -/
theorem AtMostAsStrict.congruence (laxer : settings'.AtMostAsStrict settings) :
    settings'.Congruence settings (.same fun _ => True) Check.Relaxes where
  compatible := Hint.compatible_same
  leaf shapes found := by
    rw [leafCheck_eq_of_linked shapes] at found
    exact laxer.exists_leafCheck found
  anyOf := Check.relaxes_anyOf
  eachItem := Check.Relaxes.eachItem
  eachEntry := Check.relaxes_eachEntry
  tupleOf := Check.relaxes_tupleOf
  validated relaxes same := by
    cases forall₂_eq_eq_eq ▸ same
    exact relaxes.validated _
  deferred _ _ := fun _ _ fails => fails

/-- Under settings that are no stricter, a check fails no more often, whatever the samplings. -/
theorem AtMostAsStrict.check (laxer : settings'.AtMostAsStrict settings) {hint : Hint}
    {check check' : Check} (made : settings.check hint = .ok check)
    (made' : settings'.check hint = .ok check') : check'.Relaxes check :=
  laxer.congruence.checkWithin (Hint.linked_same fun _ _ => trivial) made' made

end Settings

/-- If no container in the value exceeds the count, counting misses no failure. -/
theorem Check.FailsAt.counted {check : Check} {value : Value} {random : UInt32} {number : Nat}
    (fails : check.FailsAt (Sampling.full.LooksAt random) value) (bounded : value.Bounded number) :
    check.FailsAt ((Sampling.count number).LooksAt random) value := by
  obtain ⟨spots, -, looked, fails⟩ := failsAt_looksAt_iff.mp fails
  refine fails.mono fun spot inside member => ?_
  exact Sampling.looksAt_count inside ((looked spot member).2.length_le bounded)

/-! ### Answers -/

/-- The check gives the answer, in every world. -/
def Check.Answers (check : Check) (value : Value) (random : UInt32) (answer : Bool) : Prop :=
  ∀ before : World, ∃ after, (check.verdict value random).Ends before answer after

theorem Check.Answers.unique {check : Check} {value : Value} {random : UInt32}
    {answer answer' : Bool} (first : check.Answers value random answer)
    (second : check.Answers value random answer') : answer = answer' := by
  obtain ⟨after, ended⟩ := first .initial
  obtain ⟨after', ended'⟩ := second .initial
  exact (ended.unique ended').1

theorem Check.IsDirect.exists_answer {check : Check} {sampling : Sampling} (direct : check.IsDirect)
    (sampled : check.resampled sampling = check) (value : Value) (random : UInt32) :
    ∃ answer, check.Answers value random answer ∧
      (answer = false ↔ check.FailsAt (sampling.LooksAt random) value) := by
  have denies (before : World) : Action.Denies before.denotes
      ((check.resampled sampling).verdict value random) _ := check.denies_verdict direct value
  rw [sampled] at denies
  by_cases fails : check.FailsAt (sampling.LooksAt random) value
  · refine ⟨false, fun before => ?_, iff_of_true rfl fails⟩
    obtain ⟨answer, after, ended, -, sound, -⟩ := denies before before rfl
    cases answer with
    | true => exact absurd fails (sound rfl)
    | false => exact ⟨after, ended⟩
  · refine ⟨true, fun before => ?_, iff_of_false nofun fails⟩
    obtain ⟨answer, after, ended, -, -, complete⟩ := denies before before rfl
    cases complete fails
    exact ⟨after, ended⟩

namespace Settings

variable {hint : Hint}

/-- The check of a hint without references gives one answer, and it is no just if the check fails
because of items that are looked at. -/
theorem exists_answering_check (settings : Settings) (supported : hint.obstacle = none)
    (closed : ∀ target, ¬ (Hint.reference target).Inside hint) :
    ∃ check, settings.check hint = .ok check ∧ ∀ value random,
      ∃ answer, check.Answers value random answer ∧
        (answer = false ↔ check.FailsAt (settings.sampling.LooksAt random) value) := by
  obtain ⟨check, made⟩ := settings.exists_checkWithin (maxDepth + 1) [] supported
  obtain ⟨sampled, direct⟩ := checkWithin_direct closed made
  exact ⟨check, made, direct.exists_answer sampled⟩

/-- Settings that are laxer, in that they look at fewer items and are no stricter about numbers,
accept whatever others accept with the same integer. A count that no container in the value exceeds
gives the same answer as looking at all items. -/
theorem laxer_settings_accept_more (supported : hint.obstacle = none)
    (closed : ∀ target, ¬ (Hint.reference target).Inside hint) :
    (∀ settings settings' : Settings, settings'.sampling ≤ settings.sampling →
      settings'.AtMostAsStrict settings →
      ∃ check check', settings.check hint = .ok check ∧ settings'.check hint = .ok check' ∧
        ∀ value random, ∃ answer answer', check.Answers value random answer ∧
          check'.Answers value random answer' ∧ (answer = true → answer' = true)) ∧
    ∀ (settings : Settings) (number : Nat),
      ∃ counted full, { settings with sampling := .count number }.check hint = .ok counted ∧
        { settings with sampling := .full }.check hint = .ok full ∧
        ∀ value random, value.Bounded number → ∃ answer,
          counted.Answers value random answer ∧ full.Answers value random answer := by
  constructor
  · intro settings settings' fewer laxer
    obtain ⟨check, made, answers⟩ := settings.exists_answering_check supported closed
    obtain ⟨check', made', answers'⟩ := settings'.exists_answering_check supported closed
    refine ⟨check, check', made, made', fun value random => ?_⟩
    obtain ⟨answer, given, denied⟩ := answers value random
    obtain ⟨answer', given', denied'⟩ := answers' value random
    refine ⟨answer, answer', given, given', fun accepted => ?_⟩
    by_contra refused
    have fails' := denied'.mp (Bool.eq_false_iff.mpr refused)
    have fails : check.FailsAt (settings.sampling.LooksAt random) value :=
      laxer.check made made' _ value (fails'.mono fun _ _ => .mono fewer)
    rw [denied.mpr fails] at accepted
    cases accepted
  · intro settings number
    obtain ⟨counted, made, answers⟩ :=
      { settings with sampling := .count number }.exists_answering_check supported closed
    obtain ⟨full, made', answers'⟩ :=
      { settings with sampling := .full }.exists_answering_check supported closed
    refine ⟨counted, full, made, made', fun value random bounded => ?_⟩
    obtain ⟨answer, given, denied⟩ := answers value random
    obtain ⟨answer', given', denied'⟩ := answers' value random
    have same : answer = answer' := by
      rw [Bool.eq_iff_iff, ← not_iff_not, Bool.not_eq_true, Bool.not_eq_true, denied, denied']
      have relaxes : counted.Relaxes full :=
        (settings.atMostAsStrict_resampled _ _).check made' made
      have relaxes' : full.Relaxes counted :=
        (settings.atMostAsStrict_resampled _ _).check made made'
      constructor
      · intro fails
        exact relaxes _ value (fails.mono fun _ _ => .mono (Sampling.le_full _))
      · intro fails
        exact relaxes' _ value (fails.counted bounded)
    exact ⟨answer, given, same ▸ given'⟩

/-- A list of floats and gaps passes strictly and in full, so it passes leniently and in part; a
count of three takes in all of it. -/
theorem laxer_settings_accept_gaps :
    let settings : Settings := { standard ⟨102, .fixed 5⟩ with sampling := .full }
    let settings' : Settings := { settings with strict := false, sampling := .count 2 }
    let hint : Hint := .generic .list [.optional (.instanceOf .float)] false
    let value : Value := .list 201 [.float ⟨0x3ff8000000000000⟩, .null, .float ⟨0⟩]
    hint.obstacle = none ∧ (∀ target, ¬ (Hint.reference target).Inside hint) ∧
      settings'.sampling ≤ settings.sampling ∧ settings'.AtMostAsStrict settings ∧
      value.Bounded 3 ∧
      (∃ check check', settings.check hint = .ok check ∧ settings'.check hint = .ok check' ∧
        check.Answers value 7 true ∧ check'.Answers value 7 true) ∧
      ∃ counted, { settings with sampling := .count 3 }.check hint = .ok counted ∧
        counted.Answers value 7 true := by
  intro settings settings' hint value
  have closed (target : Reference) : ¬ (Hint.reference target).Inside
      (.generic .list [.optional (.instanceOf .float)] false) := by
    rintro (_ | ⟨member, deeper⟩)
    cases List.mem_singleton.mp member
    rcases deeper with _ | ⟨member, deeper⟩
    rcases List.mem_pair.mp member with rfl | rfl <;> rcases deeper with _ | ⟨⟨⟩, _⟩
  have fewer : settings'.sampling ≤ settings.sampling := Sampling.le_full _
  have bounded : value.Bounded 3 := by
    rintro inner (_ | ⟨member, deeper⟩)
    · exact ⟨Nat.le_refl 3, Nat.zero_le 3⟩
    · simp only [value, Value.parts, List.mem_cons, List.not_mem_nil, or_false] at member
      rcases member with rfl | rfl | rfl <;> rcases deeper with _ | ⟨⟨⟩, _⟩ <;>
        exact ⟨Nat.zero_le 3, Nat.zero_le 3⟩
  obtain ⟨monotone, exhaustive⟩ := laxer_settings_accept_more (rfl : hint.obstacle = none) closed
  obtain ⟨check, check', made, made', answers⟩ := monotone settings settings' fewer (.inr rfl)
  have accepted : check.Answers value 7 true := by
    cases made
    exact fun before => ⟨before, rfl⟩
  obtain ⟨answer, answer', given, given', implied⟩ := answers value 7
  cases given.unique accepted
  cases implied rfl
  obtain ⟨counted, full, madeCounted, madeFull, agree⟩ := exhaustive settings 3
  obtain ⟨answer, givenCounted, givenFull⟩ := agree value 7 bounded
  cases made.symm.trans madeFull
  cases givenFull.unique accepted
  exact ⟨rfl, closed, fewer, .inr rfl, bounded, ⟨check, check', made, made', accepted, given'⟩,
    counted, madeCounted, givenCounted⟩

end Settings

end CallGuard
