/-
Unions of plain classes. Instead of asking for one member after the other, the
check of such a union asks once for an instance of one of several classes. The
answer is the one that the members would give by themselves, whatever classes
pass for each of them and whatever repetitions were dropped, with one exception:
by itself, null asks for null and not for an instance of its class, so that an
instance of a class derived from it gets past the union but past no member.
-/
import CallGuard.Proofs.Union

namespace CallGuard

open List Hint

namespace Hint

/-! ### Plain hints -/

theorem obstacle_of_plainClass {hint : Hint} {c : Class} (plain : hint.plainClass? = some c) :
    hint.obstacle = none := by
  cases hint with
  | instanceOf _ | null => rfl
  | _ => cases plain

/-- Plain hints that are the same are equal. -/
theorem eq_of_same_plain {a b : Hint} {c : Class} (plain : a.plainClass? = some c)
    (same : a.same b = true) : a = b := by
  cases matches_of_same same with
  | instanceOf _ | null => rfl
  | _ => cases plain

/-- If the leaves of a hint can be checked, so can the hint. -/
theorem obstacle_of_leaves {hint : Hint} (clear : ∀ leaf ∈ hint.leaves, leaf.obstacle = none) :
    hint.obstacle = none := by
  induction hint using induction_children with
  | step hint ih =>
    rcases hint.isLeaf_or_union with isLeaf | ⟨members, rfl⟩
    · exact clear hint (isLeaf.leaves_eq ▸ mem_singleton_self hint)
    · rw [obstacle, firstObstacle_eq_none_iff]
      refine fun member inMembers => ih member inMembers fun leaf inLeaves => ?_
      exact clear leaf (mem_leavesOf_iff.mpr ⟨member, inMembers, inLeaves⟩)

/-- Among plain hints nothing but repetitions is dropped. -/
theorem mem_distinct_iff {hints : List Hint}
    (plain : ∀ hint ∈ hints, ∃ c, hint.plainClass? = some c) {hint : Hint} :
    hint ∈ distinct hints ↔ hint ∈ hints := by
  refine ⟨mem_of_mem_distinct, fun member => ?_⟩
  obtain ⟨kept, inDistinct, same⟩ := exists_mem_distinct member
  obtain ⟨c, isPlain⟩ := plain kept (mem_of_mem_distinct inDistinct)
  have equal : hint = kept := same.elim id fun same => (eq_of_same_plain isPlain same).symm
  exact equal ▸ inDistinct

theorem exists_mapM_plainClass {hints : List Hint}
    (plain : ∀ hint ∈ hints, ∃ c, hint.plainClass? = some c) :
    ∃ classes, hints.mapM plainClass? = some classes := by
  induction hints with
  | nil => exact ⟨[], rfl⟩
  | cons first rest ih =>
    obtain ⟨⟨c, head⟩, tail⟩ := forall_mem_cons.mp plain
    obtain ⟨classes, others⟩ := ih tail
    refine ⟨c :: classes, ?_⟩
    rw [mapM_cons, head, others]
    rfl

/-- What a plain hint asks of a value by itself: to be an instance of its class or of one that
passes for it, but nothing else than null passes for null. -/
def MetBy (settings : Settings) (hint : Hint) (value : Value) : Prop :=
  ∃ c, hint.plainClass? = some c ∧ settings.admits c value = true ∧ (hint = null → value = .null)

end Hint

namespace Settings

/-! ### Plain checks -/

/-- The check of the hint gives the answer, and nothing in the world matters or changes. -/
def Decides (settings : Settings) (hint : Hint) (value : Value) (random : UInt32) (answer : Bool) :
    Prop :=
  ∃ check, settings.check hint = .ok check ∧ check.verdict value random = pure answer

variable {hint : Hint}

theorem Decides.unique {settings : Settings} {value : Value} {random : UInt32}
    {answer answer' : Bool} (first : settings.Decides hint value random answer)
    (second : settings.Decides hint value random answer') : answer = answer' := by
  obtain ⟨check, made, given⟩ := first
  obtain ⟨check', made', given'⟩ := second
  cases made.symm.trans made'
  have outcomes := congrArg (fun action => (action.run.run World.initial).1)
    (given.symm.trans given')
  exact Except.ok.inj outcomes

theorem check_of_leafCheck {settings : Settings} {check : Check}
    (found : settings.leafCheck hint.shape = some check) : settings.check hint = .ok check := by
  rw [Settings.check, checkWithin, found]

theorem leafCheck_plain (settings : Settings) {c : Class}
    (plain : hint.plainClass? = some c) :
    ∃ check, settings.leafCheck hint.leafShape = some check ∧ ∀ value random,
      ∃ answer, check.verdict value random = pure answer ∧
        (answer = true ↔ hint.MetBy settings value) := by
  cases hint with
  | instanceOf c =>
    cases plain
    by_cases all : c = .object
    · refine ⟨.always, ?_, fun value random => ⟨true, rfl, iff_of_true rfl ?_⟩⟩
      · rw [all]
        rfl
      · exact ⟨c, rfl, all ▸ settings.admits_object value, nofun⟩
    · refine ⟨settings.instanceCheck [c], ?_, fun value random => ?_⟩
      · show settings.leafCheck (if c = .object then .ignorable else .instanceOf c) = _
        rw [if_neg all]
        rfl
      · refine ⟨_, settings.instanceCheck_verdict [c] value random, ?_⟩
        rw [any_cons, any_nil, Bool.or_false]
        refine ⟨fun admitted => ⟨c, rfl, admitted, nofun⟩, ?_⟩
        rintro ⟨_, ⟨⟩, admitted, -⟩
        exact admitted
  | null =>
    refine ⟨.isNull, rfl, fun value random => ⟨_, rfl, ?_⟩⟩
    cases value with
    | null => exact iff_of_true rfl ⟨.noneType, rfl, by
        rw [settings.admits_eq_isInstance (by decide) (by decide)]
        rfl, fun _ => rfl⟩
    | _ => exact iff_of_false nofun fun ⟨_, _, _, only⟩ => nomatch only rfl
  | _ => cases plain

/-- The check of a plain hint decides about every value. -/
theorem exists_decides_plain (settings : Settings) {c : Class}
    (plain : hint.plainClass? = some c) (value : Value) (random : UInt32) :
    ∃ answer, settings.Decides hint value random answer ∧
      (answer = true ↔ hint.MetBy settings value) := by
  have leaf : hint.IsLeaf := by
    rintro members rfl
    cases plain
  obtain ⟨check, found, answers⟩ := settings.leafCheck_plain plain
  obtain ⟨answer, given, met⟩ := answers value random
  rw [← leaf.shape_eq] at found
  exact ⟨answer, ⟨check, check_of_leafCheck found, given⟩, met⟩

theorem decides_true_iff (settings : Settings) {c : Class}
    (plain : hint.plainClass? = some c) (value : Value) (random : UInt32) :
    settings.Decides hint value random true ↔ hint.MetBy settings value := by
  obtain ⟨answer, decided, met⟩ := settings.exists_decides_plain plain value random
  rw [← met]
  exact ⟨fun accepted => decided.unique accepted, fun accepted => accepted ▸ decided⟩

/-- The single test for several classes asks whether one of them admits the value. -/
theorem any_admits_iff (settings : Settings) {hints : List Hint} {classes : List Class}
    (plain : hints.mapM plainClass? = some classes) (value : Value) :
    (classes.any fun c => settings.admits c value) = true ↔
      ∃ hint ∈ hints, ∃ c, hint.plainClass? = some c ∧ settings.admits c value = true := by
  have each := forall₂_of_mapM_plainClass plain
  rw [any_eq_true]
  constructor
  · rintro ⟨c, inClasses, admitted⟩
    obtain ⟨hint, member, isPlain⟩ := exists_linked_left each inClasses
    exact ⟨hint, member, c, isPlain, admitted⟩
  · rintro ⟨hint, member, c, isPlain, admitted⟩
    obtain ⟨c', inClasses, isPlain'⟩ := exists_linked_right each member
    cases isPlain.symm.trans isPlain'
    exact ⟨c, inClasses, admitted⟩

/-! ### Unions of plain classes -/

/-- A test for one of several classes gives what the plain hints that name them give by themselves,
except for instances of classes derived from that of null. -/
theorem any_admits_iff_metBy (settings : Settings) {hints : List Hint} {classes : List Class}
    (plain : hints.mapM plainClass? = some classes) (value : Value) :
    (classes.any fun c => settings.admits c value) = true ↔
      (∃ hint ∈ hints, hint.MetBy settings value) ∨
        .null ∈ hints ∧ value.isInstance .noneType = true ∧ value ≠ .null := by
  have nulls : settings.admits .noneType value = value.isInstance .noneType :=
    settings.admits_eq_isInstance (by decide) (by decide) value
  rw [settings.any_admits_iff plain]
  constructor
  · rintro ⟨hint, member, c, isPlain, admitted⟩
    by_cases met : hint = .null → value = .null
    · exact .inl ⟨hint, member, c, isPlain, admitted, met⟩
    · obtain ⟨rfl, other⟩ := Classical.not_imp.mp met
      cases isPlain
      exact .inr ⟨member, nulls ▸ admitted, other⟩
  · rintro (⟨hint, member, c, isPlain, admitted, -⟩ | ⟨member, derived, -⟩)
    · exact ⟨hint, member, c, isPlain, admitted⟩
    · exact ⟨.null, member, .noneType, rfl, nulls.trans derived⟩

/-- What the check of a union of plain hints looks like. The three cases are a union that admits
everything, a single leaf that is left of the union, and several leaves. -/
theorem leafCheck_union_of_plain (settings : Settings) {members : List Hint}
    (nonempty : leavesOf members ≠ [])
    (plain : ∀ leaf ∈ leavesOf members, ∃ c, leaf.plainClass? = some c) :
    ∃ check, settings.leafCheck (union members).shape = some check ∧
      (∀ kept, (union members).shape = .union kept → ∃ classes, check = .instanceOf classes) ∧
      ∀ value random, ∃ answer, check.verdict value random = pure answer ∧
        (answer = true ↔
          (∃ leaf ∈ leavesOf members, leaf.MetBy settings value) ∨
            (∃ kept, (union members).shape = .union kept) ∧
              .null ∈ leavesOf members ∧ value.isInstance .noneType = true ∧
              value ≠ .null) := by
  have supported : (union members).obstacle = none :=
    obstacle_of_leaves fun leaf inLeaves => by
      rw [leaves] at inLeaves
      exact obstacle_of_plainClass (plain leaf inLeaves).choose_spec
  rcases shape_union supported with ⟨shaped, ignorable⟩ | ⟨shaped, -⟩
  · rw [shaped]
    refine ⟨.always, rfl, nofun, fun value random => ⟨true, rfl, iff_of_true rfl (.inl ?_)⟩⟩
    rcases (leavesOf_isEmpty_or_any ignorable).2 with empty | all
    · exact absurd empty nonempty
    · obtain ⟨leaf, inLeaves, admitted⟩ := any_eq_true.mp all
      refine ⟨leaf, inLeaves, ?_⟩
      cases leaf with
      | instanceOf c =>
        refine ⟨c, rfl, ?_, nofun⟩
        rw [beq_iff_eq.mp (show (c == .object) = true from admitted)]
        exact settings.admits_object value
      | any => exact nomatch plain _ inLeaves
      | _ => cases admitted
  · have same (leaf : Hint) : leaf ∈ distinct (leavesOf members) ↔
        leaf ∈ leavesOf members := mem_distinct_iff plain
    rw [shaped]
    generalize distinct (leavesOf members) = left at same
    simp only [← same] at plain ⊢
    rcases left with _ | ⟨only, _ | ⟨second, rest⟩⟩
    · obtain ⟨leaf, inLeaves⟩ := exists_mem_of_ne_nil _ nonempty
      exact nomatch (same leaf).mpr inLeaves
    · obtain ⟨c, isPlain⟩ := plain only mem_cons_self
      obtain ⟨check, found, answers⟩ := settings.leafCheck_plain isPlain
      have notUnion (kept : List Hint) : unionShape [only] ≠ .union kept :=
        leafShape_ne_union only kept
      refine ⟨check, found, fun kept shaped => absurd shaped (notUnion kept),
        fun value random => ?_⟩
      obtain ⟨answer, given, met⟩ := answers value random
      refine ⟨answer, given, ?_⟩
      simp only [met, notUnion, exists_false, false_and, or_false, mem_singleton,
        exists_eq_left]
    · obtain ⟨classes, mapped⟩ := exists_mapM_plainClass plain
      rw [unionShape_of_two]
      refine ⟨settings.instanceCheck classes, ?_, fun _ _ => ⟨_, rfl⟩, fun value random => ?_⟩
      · rw [leafCheck, mapped]
        rfl
      · refine ⟨_, settings.instanceCheck_verdict classes value random, ?_⟩
        rw [settings.any_admits_iff_metBy mapped]
        have several : ∃ kept, Shape.union (only :: second :: rest) = .union kept := ⟨_, rfl⟩
        simp only [several, true_and]

/-- If all leaves of a union are plain, then the union and each leaf have checks that decide about
every value. If several are left of them, then the union has a single test for instances. The
union accepts what a leaf accepts and nothing else, except that a single test that stands for null
also accepts instances of classes derived from that of null. -/
theorem union_decides_like_leaves (settings : Settings) {members : List Hint}
    (nonempty : Hint.leavesOf members ≠ [])
    (plain : ∀ leaf ∈ Hint.leavesOf members, ∃ c, leaf.plainClass? = some c) :
    (∀ kept, (Hint.union members).shape = .union kept →
      ∃ classes, settings.check (.union members) = .ok (.instanceOf classes)) ∧
    ∀ value random,
      (∀ leaf ∈ Hint.leavesOf members, ∃ answer, settings.Decides leaf value random answer) ∧
      ∃ answer, settings.Decides (.union members) value random answer ∧
        (answer = true ↔
          (∃ leaf ∈ Hint.leavesOf members, settings.Decides leaf value random true) ∨
            (∃ kept, (Hint.union members).shape = .union kept) ∧
              .null ∈ Hint.leavesOf members ∧ value.isInstance .noneType = true ∧
              value ≠ .null) := by
  obtain ⟨check, found, single, answers⟩ := settings.leafCheck_union_of_plain nonempty plain
  have made := check_of_leafCheck found
  refine ⟨fun kept shaped => ?_, fun value random => ⟨fun leaf inLeaves => ?_, ?_⟩⟩
  · obtain ⟨classes, rfl⟩ := single kept shaped
    exact ⟨classes, made⟩
  · obtain ⟨c, isPlain⟩ := plain leaf inLeaves
    obtain ⟨answer, decided, -⟩ := settings.exists_decides_plain isPlain value random
    exact ⟨answer, decided⟩
  · obtain ⟨answer, given, accepts⟩ := answers value random
    have leaves : (∃ leaf ∈ Hint.leavesOf members, settings.Decides leaf value random true) ↔
        ∃ leaf ∈ Hint.leavesOf members, leaf.MetBy settings value :=
      exists_congr fun leaf => and_congr_right fun inLeaves =>
        settings.decides_true_iff (plain leaf inLeaves).choose_spec value random
    refine ⟨answer, ⟨check, made, given⟩, ?_⟩
    rw [leaves]
    exact accepts

theorem number_or_null_decided_like_leaves :
    let settings := { Settings.standard ⟨102, .fixed 0⟩ with strict := false }
    let members : List Hint := [.instanceOf .float, .union [.null, .instanceOf .float]]
    Hint.leavesOf members ≠ [] ∧
      (∀ leaf ∈ Hint.leavesOf members, ∃ c, leaf.plainClass? = some c) ∧
      (∃ classes, settings.check (.union members) = .ok (.instanceOf classes)) ∧
      settings.Decides (.instanceOf .float) (.int 3) 7 true ∧
      settings.Decides (.union members) (.int 3) 7 true := by
  intro settings members
  have leaves : Hint.leavesOf members = [.instanceOf .float, .null, .instanceOf .float] := by
    simp [members, Hint.leavesOf, Hint.leaves]
  have nonempty : Hint.leavesOf members ≠ [] := by
    rw [leaves]
    nofun
  have plain : ∀ leaf ∈ Hint.leavesOf members, ∃ c, leaf.plainClass? = some c := by
    rw [leaves]
    simp [Hint.plainClass?]
  obtain ⟨single, decides⟩ := settings.union_decides_like_leaves nonempty plain
  obtain ⟨-, answer, decided, accepts⟩ := decides (.int 3) 7
  have accepted : settings.Decides (.instanceOf .float) (.int 3) 7 true := ⟨_, rfl, rfl⟩
  have inLeaves : .instanceOf .float ∈ Hint.leavesOf members := leaves ▸ List.mem_cons_self
  cases accepts.mpr (.inl ⟨_, inLeaves, accepted⟩)
  exact ⟨nonempty, plain, single [.instanceOf .float, .null] (by rfl), accepted, decided⟩

/-- An instance of a class derived from that of null is accepted by the single test of a union with
null, but neither as null nor as an instance of the other class. -/
theorem derived_null_accepted_by_union_alone :
    let members : List Hint := [.instanceOf .int, .null]
    let value := Value.object 0 ⟨100, "Derived", "module", [.noneType], []⟩
    ∀ (settings : Settings) (random : UInt32),
      (∃ classes, settings.check (.union members) = .ok (.instanceOf classes)) ∧
        settings.Decides (.union members) value random true ∧
        ∀ leaf ∈ Hint.leavesOf members, settings.Decides leaf value random false := by
  intro members value settings random
  have leaves : Hint.leavesOf members = [.instanceOf .int, .null] := by
    simp [members, Hint.leavesOf, Hint.leaves]
  obtain ⟨strict, sampling, warns, keeps, source⟩ := settings
  rw [leaves, List.forall_mem_cons, List.forall_mem_singleton]
  cases strict <;> exact ⟨⟨_, rfl⟩, ⟨_, rfl, rfl⟩, ⟨_, rfl, rfl⟩, _, rfl, rfl⟩

end Settings

end CallGuard
