/-
Which hints have fragments. A hint without obstacles always has one, at whatever
depth it nests. A hint with an obstacle has none, as long as it does not nest
too deeply for all of it to be looked at: what the check of a hint does not look
at has no obstacle, whatever flattening, dropping and collapsing of unions there
was. A registry makes no difference to this, since hints that are the same are
built the same way.
-/
import CallGuard.Proofs.Refusal

namespace CallGuard

/-! ### What checks look at -/

namespace Hint

variable {hint child : Hint}

theorem obstacle_of_isIgnorable (ignorable : hint.isIgnorable = true) :
    hint.obstacle = none := by
  cases hint with
  | union members =>
    rw [obstacle]
    exact (leavesOf_isEmpty_or_any ignorable).1
  | any | instanceOf _ => rfl
  | _ => cases ignorable

theorem clear_or_mem_checkable (hint : Hint) :
    hint.obstacle = none ∨ hint ∈ hint.checkable.toList := by
  cases ignorable : hint.isIgnorable with
  | true => exact .inl (obstacle_of_isIgnorable ignorable)
  | false =>
    rw [checkable, ignorable]
    exact .inr List.mem_cons_self

/-- What the check of a generic does not look at has no obstacle. -/
theorem clear_or_mem_genericShape {origin : Origin} {arguments : List Hint}
    (own : genericObstacle origin arguments = none) (member : child ∈ arguments) :
    child.obstacle = none ∨ child ∈ (genericShape origin arguments).tested := by
  rcases arguments with _ | ⟨first, _ | ⟨second, _ | ⟨third, rest⟩⟩⟩
  · cases member
  · cases List.mem_singleton.mp member
    cases origin with
    | list | set | frozenset => exact child.clear_or_mem_checkable
    | dict => cases own
    | type => cases child <;> first | exact .inl rfl | cases own
  · cases origin with
    | dict =>
      rcases member with _ | ⟨_, _ | ⟨_, ⟨⟩⟩⟩
      · exact child.clear_or_mem_checkable.imp_right (List.mem_append_left _)
      · exact child.clear_or_mem_checkable.imp_right (List.mem_append_right _)
    | list | set | frozenset | type => cases own
  · cases origin <;> simp [genericObstacle, Origin.arity] at own

/-- What the check of a hint other than a union does not look at has no obstacle. -/
theorem clear_or_mem_tested (leaf : hint.IsLeaf) (own : hint.ownObstacle = none)
    (member : child ∈ hint.children) :
    child.obstacle = none ∨ child ∈ hint.leafShape.tested := by
  cases hint with
  | union members => exact absurd rfl (leaf members)
  | generic origin arguments aliased =>
    have shaped : (generic origin arguments aliased).leafShape = genericShape origin arguments := by
      unfold leafShape
      rw [own]
    rw [shaped]
    exact clear_or_mem_genericShape own member
  | tuple items variadic aliased =>
    cases variadic with
    | false =>
      rw [leafShape_fixedTuple]
      cases ignorable : child.isIgnorable with
      | true => exact .inl (obstacle_of_isIgnorable ignorable)
      | false => exact .inr (Shape.mem_tested member ignorable)
    | true =>
      rcases items with _ | ⟨item, _ | ⟨_, _⟩⟩
      · cases own
      · cases List.mem_singleton.mp member
        exact child.clear_or_mem_checkable
      · simp [ownObstacle] at own
  | annotated inner validators =>
    cases validators with
    | nil => cases own
    | cons _ _ => exact .inr member
  | any | null | instanceOf _ | structural _ | reference _ | literal _ | never | unknown _ =>
    cases member

/-- A hint has no obstacle if its shape says so and what its check looks at has none. -/
theorem obstacle_of_tested (notUnsupported : ∀ obstacle, hint.shape ≠ .unsupported obstacle)
    (notNever : hint.shape ≠ .never) (tested : ∀ part ∈ hint.shape.tested, part.obstacle = none) :
    hint.obstacle = none := by
  by_contra obstructed
  have leaf := isLeaf_of_obstacle obstructed notUnsupported
  rw [leaf.shape_eq] at notUnsupported notNever tested
  have own : hint.ownObstacle = none := by
    cases own : hint.ownObstacle with
    | none => rfl
    | some obstacle =>
      rcases leafShape_of_own own with shaped | ⟨shaped, -⟩
      · exact absurd shaped (notUnsupported obstacle)
      · exact absurd shaped notNever
  refine obstructed (obstacle_eq_none_iff.mpr ⟨own, fun child member => ?_⟩)
  rcases clear_or_mem_tested leaf own member with clear | looked
  · exact clear
  · exact tested child looked

end Hint

namespace Settings

variable {settings : Settings}

variable {levels : Nat} {shape : Shape} {check : Check}

theorem Makes.supported (makes : settings.Makes levels shape check) :
    (∀ obstacle, shape ≠ .unsupported obstacle) ∧ shape ≠ .never := by
  constructor
  · rintro obstacle rfl
    cases makes with | leaf found => cases found
  · rintro rfl
    cases makes with | leaf found => cases found

/-- The check of a shape other than a union is put together from checks of what it looks at. -/
theorem Makes.exists_of_mem_tested (makes : settings.Makes levels shape check)
    (single : ∀ members, shape ≠ .union members) {part : Hint} (member : part ∈ shape.tested) :
    ∃ path check, settings.checkWithin levels path part = .ok check := by
  cases makes with
  | leaf found =>
    cases shape with
    | union members => exact absurd rfl (single members)
    | sequence container item =>
      cases item with
      | none => cases member
      | some item => cases found
    | mapping key entry =>
      rcases key with _ | key <;> rcases entry with _ | entry
      · cases member
      all_goals cases found
    | fixedTuple _ | annotated _ _ => cases found
    | unsupported _ | ignorable | null | instanceOf _ | subclassOf _ | structural _ | reference _
    | literal _ | never => cases member
  | union _ _ => exact absurd rfl (single _)
  | sequence made | key made | entry made | annotated made =>
    cases List.mem_singleton.mp member
    exact ⟨_, _, made⟩
  | both made made' =>
    rcases member with _ | ⟨_, _ | ⟨_, ⟨⟩⟩⟩
    · exact ⟨_, _, made⟩
    · exact ⟨_, _, made'⟩
  | @fixedTuple items parts each =>
    obtain ⟨inItems, wanted⟩ := List.mem_filter.mp member
    obtain ⟨number, numbered⟩ := List.mem_iff_getElem?.mp inItems
    have kept : (part, number) ∈ items.zipIdx.filter fun item => !item.1.isIgnorable :=
      List.mem_filter.mpr ⟨List.mem_zipIdx_iff_getElem?.mpr numbered, wanted⟩
    obtain ⟨made, -, -, path, found⟩ := exists_linked_right each kept
    exact ⟨path, made.2, found⟩
  | reference _ => cases member

/-- A hint that has a check and does not nest too deeply has no obstacle. -/
theorem obstacle_of_checkWithin {path : List Nat} {hint : Hint} (lower : hint.height < levels)
    (made : settings.checkWithin levels path hint = .ok check) :
    hint.obstacle = none := by
  induction levels generalizing path hint check with
  | zero => cases lower
  | succ levels ih =>
    have makes := makes_of_checkWithin made
    obtain ⟨notUnsupported, notNever⟩ := makes.supported
    by_contra obstructed
    have leaf := Hint.isLeaf_of_obstacle obstructed notUnsupported
    have single (members : List Hint) : hint.shape ≠ .union members :=
      leaf.shape_eq ▸ Hint.leafShape_ne_union hint members
    refine obstructed (Hint.obstacle_of_tested notUnsupported notNever fun part looked => ?_)
    obtain ⟨path, check, found⟩ := makes.exists_of_mem_tested single looked
    have below := (Hint.mem_parts (Shape.mem_parts_of_mem_tested looked)).2
    exact ih (by omega) found

/-! ### Exactly the hints without obstacles -/

/-- Making a fragment succeeds for every hint without obstacles, at whatever depth it nests. For a
hint with one that does not nest deeper than checks go down, it fails because of a hint that cannot
be checked, also if the registry has been used before. -/
theorem fragment_made_iff_supported (settings : Settings) (label : String) (hint : Hint)
    (level : Nat) (registry : Registry) (world : World) :
    let outcome := ((settings.fragment label hint level).run.run ⟨registry, world⟩).1
    (hint.obstacle = none → ∃ fragment, outcome = .ok fragment) ∧
      ∀ validators, registry.Used validators → hint.height ≤ maxDepth → hint.obstacle ≠ none →
        ∃ found position obstacle, outcome = .error (.unsupported found position obstacle) := by
  intro outcome
  have given : outcome = ((settings.fragment label hint level).run.run ⟨registry, world⟩).1 := rfl
  have supplied := settings.supplies_fragment label hint level ⟨registry, world⟩
  generalize (settings.fragment label hint level).run.run ⟨registry, world⟩ = run at supplied given
  rw [given]
  constructor
  · intro supported
    cases supplied with
    | known | made => exact ⟨_, rfl⟩
    | refused _ unmade _ =>
      obtain ⟨check, made⟩ : ∃ check, settings.check hint = .ok check :=
        exists_checkWithin _ _ supported
      rw [made] at unmade
      cases unmade
  · intro validators used shallow obstructed
    cases supplied with
    | known found _ =>
      obtain ⟨twin, check, -, same, -, made, -⟩ := used.faithful.handed found
      have akin := (Hint.matches_of_same same).akin
      have clear : twin.obstacle = none :=
        obstacle_of_checkWithin (by rw [akin.height_eq]; omega) made
      exact absurd (akin.obstacle_eq_none clear) obstructed
    | refused _ unmade _ =>
      obtain ⟨found, way, obstacle, rfl, -, -⟩ := pointsInto_of_checkWithin unmade
      exact ⟨_, _, _, rfl⟩
    | made _ made _ => exact absurd (obstacle_of_checkWithin (by omega) made) obstructed

theorem deep_lists_made_and_misfit_refused :
    let settings := Settings.standard ⟨102, .fixed 0⟩
    let registry := setRegistry settings .int .str
    let make := fun hint => ((settings.fragment "x" hint 0).run.run ⟨registry, .initial⟩).1
    (∃ fragment, make (Hint.integers.inLists 100) = .ok fragment) ∧
      registry.Used (fun serial => ⟨serial, "even", fun _ => true⟩) ∧
      ∃ found position obstacle, make misfit = .error (.unsupported found position obstacle) := by
  intro settings registry make
  have used : registry.Used (fun serial => ⟨serial, "even", fun _ => true⟩) :=
    setRegistry_used settings (by decide)
  have deep : (Hint.integers.inLists 100).obstacle = none := by decide +kernel
  have lower : misfit.height ≤ maxDepth := by decide +kernel
  have obstructed : misfit.obstacle ≠ none := by decide +kernel
  exact ⟨(fragment_made_iff_supported settings "x" _ 0 registry .initial).1 deep, used,
    (fragment_made_iff_supported settings "x" _ 0 registry .initial).2 _ used lower obstructed⟩

end Settings

end CallGuard
