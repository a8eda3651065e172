/-
Hints inside hints. The parts that the shape of a hint leaves to be checked are
hints inside it and nest less deeply, whatever flattening, dropping of
repetitions and collapsing of unions there was on the way to the shape. A hint
can be checked if nothing inside it stands in the way, so the parts of one that
can be checked can be checked as well.
-/
import CallGuard.Fragment

namespace CallGuard

open List

namespace Hint

/-! ### Depth -/

/-- A hint inside another one, at whatever depth, or the other one itself. -/
inductive Inside (inner : Hint) : Hint → Prop
  | self : Inside inner inner
  | child {child hint : Hint} (member : child ∈ hint.children) (deeper : Inside inner child) :
    Inside inner hint

variable {inner outer leaf : Hint} {hints : List Hint}

theorem Inside.trans {middle : Hint} (first : inner.Inside middle) (second : middle.Inside outer) :
    inner.Inside outer := by
  induction second with
  | self => exact first
  | child member _ ih => exact .child member ih

/-- Lists of integers. -/
def integers : Hint := generic .list [instanceOf .int] false

theorem inside_instanceOf {c : Class} (inside : inner.Inside (instanceOf c)) :
    inner = instanceOf c := by
  cases inside with
  | self => rfl
  | child member => cases member

theorem inside_integers (inside : inner.Inside integers) :
    inner = integers ∨ inner = instanceOf .int := by
  cases inside with
  | self => exact .inl rfl
  | child member deeper =>
    cases mem_singleton.mp member
    exact .inr (inside_instanceOf deeper)

mutual
/-- How deeply hints nest inside a hint. -/
def height : Hint → Nat
  | union members => heightOf members
  | generic _ arguments _ => heightOf arguments
  | tuple items _ _ => heightOf items
  | annotated inner _ => inner.height + 1
  | _ => 0

/-- How deeply hints nest if the given ones are inside another. -/
def heightOf : List Hint → Nat
  | [] => 0
  | hint :: rest => max (hint.height + 1) (heightOf rest)
end

variable {hint : Hint}

theorem height_lt_heightOf (member : hint ∈ hints) :
    hint.height < heightOf hints := by
  induction hints with
  | nil => cases member
  | cons first rest ih =>
    rw [heightOf]
    rcases mem_cons.mp member with rfl | member
    · omega
    · have := ih member
      omega

theorem height_lt_of_mem_children {child hint : Hint} (member : child ∈ hint.children) :
    child.height < hint.height := by
  cases hint with
  | union members => exact height_lt_heightOf member
  | generic _ arguments _ => exact height_lt_heightOf member
  | tuple items _ _ => exact height_lt_heightOf member
  | annotated inner _ =>
    rw [mem_singleton.mp member, height]
    omega
  | any | null | instanceOf _ | structural _ | reference _ | literal _ | never | unknown _ =>
    cases member

theorem Inside.height_le (inside : inner.Inside outer) :
    inner.height ≤ outer.height := by
  induction inside with
  | self => exact Nat.le_refl _
  | child member _ ih =>
    have := height_lt_of_mem_children member
    omega

/-- What holds of a hint as soon as it holds of its children holds of every hint. -/
theorem induction_children {motive : Hint → Prop}
    (step : ∀ hint, (∀ child ∈ hint.children, motive child) → motive hint) (hint : Hint) :
    motive hint :=
  step hint fun child _ => induction_children step child
termination_by hint.height
decreasing_by
  rename_i member
  exact height_lt_of_mem_children member

/-! ### Obstacles -/

theorem firstObstacle_eq_none_iff :
    firstObstacle hints = none ↔ ∀ hint ∈ hints, hint.obstacle = none := by
  induction hints with
  | nil => simp [firstObstacle]
  | cons first rest ih =>
    rw [firstObstacle, forall_mem_cons, ← ih]
    cases first.obstacle <;> simp

/-- A hint can be checked if neither it nor one of its children stands in the way. -/
theorem obstacle_eq_none_iff :
    hint.obstacle = none ↔
      hint.ownObstacle = none ∧ ∀ child ∈ hint.children, child.obstacle = none := by
  cases hint with
  | union members => simp [obstacle, ownObstacle, children, firstObstacle_eq_none_iff]
  | generic origin arguments aliased =>
    rw [obstacle, ownObstacle, children, ← firstObstacle_eq_none_iff]
    cases genericObstacle origin arguments <;> simp
  | tuple items variadic aliased =>
    rw [obstacle, children, ← firstObstacle_eq_none_iff]
    cases variadic <;> by_cases single : items.length = 1 <;> simp [ownObstacle, single]
  | annotated inner validators =>
    cases validators <;> simp [obstacle, ownObstacle, children]
  | literal values => cases values <;> simp [obstacle, ownObstacle, children]
  | any | null | instanceOf _ | structural _ | reference _ | never | unknown _ =>
    simp [obstacle, ownObstacle, children]

theorem Inside.obstacle_eq_none (inside : inner.Inside outer) (supported : outer.obstacle = none) :
    inner.obstacle = none := by
  induction inside with
  | self => exact supported
  | child member _ ih =>
    exact ih ((obstacle_eq_none_iff.mp supported).2 _ member)

/-! ### Leaves -/

/-- A hint that is not a union. -/
def IsLeaf (hint : Hint) : Prop := ∀ members, hint ≠ union members

theorem isLeaf_or_union (hint : Hint) : hint.IsLeaf ∨ ∃ members, hint = union members := by
  cases hint with
  | union members => exact .inr ⟨members, rfl⟩
  | _ => exact .inl nofun

theorem IsLeaf.leaves_eq (leaf : hint.IsLeaf) : hint.leaves = [hint] := by
  cases hint with
  | union members => exact absurd rfl (leaf members)
  | _ => simp [leaves]

theorem IsLeaf.shape_eq (leaf : hint.IsLeaf) : hint.shape = hint.leafShape := by
  cases hint with
  | union members => exact absurd rfl (leaf members)
  | _ => rfl

theorem mem_leavesOf_iff :
    leaf ∈ leavesOf hints ↔ ∃ hint ∈ hints, leaf ∈ hint.leaves := by
  induction hints with
  | nil => simp [leavesOf]
  | cons first rest ih => simp [leavesOf, ih]

theorem mem_leaves (member : leaf ∈ hint.leaves) :
    leaf.Inside hint ∧ leaf.IsLeaf := by
  induction hint using induction_children with
  | step hint ih =>
    rcases hint.isLeaf_or_union with isLeaf | ⟨members, rfl⟩
    · rw [isLeaf.leaves_eq, mem_singleton] at member
      subst member
      exact ⟨.self, isLeaf⟩
    · rw [leaves, mem_leavesOf_iff] at member
      obtain ⟨inner, inMembers, inLeaves⟩ := member
      obtain ⟨inside, isLeaf⟩ := ih inner inMembers inLeaves
      exact ⟨.child inMembers inside, isLeaf⟩

/-- A leaf of a union is inside it and nests less deeply. -/
theorem mem_leavesOf {members : List Hint} (member : leaf ∈ leavesOf members) :
    leaf.Inside (union members) ∧ leaf.IsLeaf ∧ leaf.height < (union members).height := by
  obtain ⟨inner, inMembers, inLeaves⟩ := mem_leavesOf_iff.mp member
  obtain ⟨inside, isLeaf⟩ := mem_leaves inLeaves
  have lower : inner.height < (union members).height :=
    height_lt_of_mem_children (show inner ∈ (union members).children from inMembers)
  exact ⟨.child inMembers inside, isLeaf, Nat.lt_of_le_of_lt inside.height_le lower⟩

/-! ### Parts of shapes -/

theorem checkable_eq_some {hint found : Hint} (checked : hint.checkable = some found) :
    found = hint ∧ hint.isIgnorable = false := by
  unfold checkable at checked
  split at checked
  · cases checked
  · rename_i asked
    cases checked
    exact ⟨rfl, Bool.eq_false_iff.mpr asked⟩

end Hint

/-- The hints that a shape leaves to be checked. -/
def Shape.parts : Shape → List Hint
  | .union members => members
  | .sequence _ item => item.toList
  | .mapping key entry => key.toList ++ entry.toList
  | .fixedTuple items => items
  | .annotated inner _ => [inner]
  | _ => []

namespace Hint

variable {hint part : Hint} {target : Reference}

theorem mem_of_mem_checkable (member : part ∈ hint.checkable.toList) :
    part = hint :=
  (checkable_eq_some (Option.mem_toList.mp member)).1

theorem mem_children_of_genericShape {origin : Origin} {arguments : List Hint}
    (member : part ∈ (genericShape origin arguments).parts) : part ∈ arguments := by
  unfold genericShape at member
  split at member <;> simp only [Shape.parts, not_mem_nil, Option.toList_none,
    append_nil, mem_append] at member
  · rcases member with member | member
    · exact mem_of_mem_checkable member ▸ mem_cons_self
    · exact mem_of_mem_checkable member ▸ mem_cons_of_mem _ mem_cons_self
  · exact mem_of_mem_checkable member ▸ mem_cons_self

theorem mem_children_of_leafShape (member : part ∈ hint.leafShape.parts) :
    part ∈ hint.children := by
  unfold leafShape at member
  split at member
  case h_6 => exact mem_children_of_genericShape member
  case h_7 => exact mem_of_mem_checkable member ▸ mem_cons_self
  case h_8 => exact member
  case h_11 => exact member
  case h_5 => split at member <;> cases member
  all_goals cases member

/-- The parts of a shape are inside the hint and nest less deeply. -/
theorem mem_parts (member : part ∈ hint.shape.parts) :
    part.Inside hint ∧ part.height < hint.height := by
  rcases hint.isLeaf_or_union with isLeaf | ⟨members, rfl⟩
  · rw [isLeaf.shape_eq] at member
    have inChildren := mem_children_of_leafShape member
    exact ⟨.child inChildren .self, height_lt_of_mem_children inChildren⟩
  · rw [shape] at member
    split at member
    · cases member
    · split at member
      · cases member
      · unfold unionShape at member
        split at member
        · cases member
        · rename_i only single
          have inLeaves : only ∈ leavesOf members :=
            mem_of_mem_distinct (single ▸ mem_singleton_self only)
          obtain ⟨inside, -, lower⟩ := mem_leavesOf inLeaves
          have inChildren := mem_children_of_leafShape member
          exact ⟨(Inside.child inChildren .self).trans inside,
            Nat.lt_trans (height_lt_of_mem_children inChildren) lower⟩
        · obtain ⟨inside, -, lower⟩ := mem_leavesOf (mem_of_mem_distinct member)
          exact ⟨inside, lower⟩

/-- The parts of a hint that can be checked can be checked. -/
theorem obstacle_of_mem_parts (supported : hint.obstacle = none)
    (member : part ∈ hint.shape.parts) : part.obstacle = none :=
  (mem_parts member).1.obstacle_eq_none supported

theorem eq_of_leafShape_reference (shaped : hint.leafShape = .reference target) :
    hint = reference target := by
  unfold leafShape at shaped
  split at shaped
  case h_10 =>
    cases shaped
    rfl
  case h_6 =>
    unfold genericShape at shaped
    split at shaped <;> cases shaped
  case h_5 => split at shaped <;> cases shaped
  all_goals cases shaped

/-- A shape that is a reference comes from one inside the hint. -/
theorem inside_of_shape_reference (shaped : hint.shape = .reference target) :
    (reference target).Inside hint := by
  rcases hint.isLeaf_or_union with isLeaf | ⟨members, rfl⟩
  · rw [isLeaf.shape_eq] at shaped
    exact eq_of_leafShape_reference shaped ▸ .self
  · rw [shape] at shaped
    split at shaped
    · cases shaped
    · split at shaped
      · cases shaped
      · unfold unionShape at shaped
        split at shaped
        · cases shaped
        · rename_i only single
          have inLeaves : only ∈ leavesOf members :=
            mem_of_mem_distinct (single ▸ mem_singleton_self only)
          exact eq_of_leafShape_reference shaped ▸ (mem_leavesOf inLeaves).1
        · cases shaped

theorem leafShape_supported (own : hint.ownObstacle = none) :
    (∀ obstacle, hint.leafShape ≠ .unsupported obstacle) ∧ hint.leafShape ≠ .never := by
  unfold leafShape
  rw [own]
  split
  case h_1 => cases own
  case h_2 impossible _ => cases impossible
  case h_6 => unfold genericShape; split <;> simp
  case h_5 => split <;> simp
  all_goals simp

/-- The shape of a hint that can be checked says so. -/
theorem shape_supported (supported : hint.obstacle = none) :
    (∀ obstacle, hint.shape ≠ .unsupported obstacle) ∧ hint.shape ≠ .never := by
  rcases hint.isLeaf_or_union with isLeaf | ⟨members, rfl⟩
  · rw [isLeaf.shape_eq]
    exact leafShape_supported (obstacle_eq_none_iff.mp supported).1
  · rw [obstacle] at supported
    rw [shape, supported]
    dsimp only
    split
    · simp
    · unfold unionShape
      split
      · simp
      · rename_i only single
        have inLeaves : only ∈ leavesOf members :=
          mem_of_mem_distinct (single ▸ mem_singleton_self only)
        obtain ⟨inside, -, -⟩ := mem_leavesOf inLeaves
        have clear := inside.obstacle_eq_none (by rw [obstacle, supported])
        exact leafShape_supported (obstacle_eq_none_iff.mp clear).1
      · simp

end Hint

end CallGuard
