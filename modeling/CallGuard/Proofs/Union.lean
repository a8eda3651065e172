/-
What flattening a union keeps. A union holds if one of its members does, and a
member may be a union again. Taking its leaves instead of its members, and one
leaf for several that are the same, changes nothing, with one exception: an
empty union admits everything and has no leaves. Inside a union that admits
everything anyway this makes no difference; inside any other one the empty
union is lost.
-/
import CallGuard.Proofs.Verdict

namespace CallGuard

namespace Hint

/-! ### Unions inside unions -/

/-- A union inside the hint that has a member that admits everything admits everything itself. -/
def Absorbing (hint : Hint) : Prop :=
  ∀ members, (union members).Inside hint → ∀ member ∈ members, member.isIgnorable = true →
    (union members).isIgnorable = true

theorem Absorbing.inside {inner outer : Hint} (absorbing : outer.Absorbing)
    (inside : inner.Inside outer) : inner.Absorbing :=
  fun members deeper => absorbing members (deeper.trans inside)

theorem isIgnorable_of_leaves {hint : Hint} (supported : hint.obstacle = none)
    (leaves : hint.leaves = [] ∨ hint.leaves.any admitsAll = true) : hint.isIgnorable = true := by
  rcases hint.isLeaf_or_union with isLeaf | ⟨members, rfl⟩
  · rw [isLeaf.leaves_eq] at leaves
    have all : hint.admitsAll = true := by simpa using leaves
    cases hint with
    | union members => exact absurd rfl (isLeaf members)
    | _ => exact all
  · rw [obstacle] at supported
    rw [isIgnorable, supported]
    simpa [Hint.leaves] using leaves

/-- A union admits everything only if it is empty or a member admits everything. -/
theorem exists_isIgnorable_member {members : List Hint} (nonempty : members ≠ [])
    (ignorable : (union members).isIgnorable = true) :
    ∃ member ∈ members, member.isIgnorable = true := by
  obtain ⟨clear, leaves⟩ := leavesOf_isEmpty_or_any ignorable
  have supported (member : Hint) (inMembers : member ∈ members) : member.obstacle = none :=
    firstObstacle_eq_none_iff.mp clear member inMembers
  rcases leaves with empty | all
  · obtain ⟨first, rest, rfl⟩ := List.exists_cons_of_ne_nil nonempty
    have bare : first.leaves = [] := (List.append_eq_nil_iff.mp empty).1
    exact ⟨first, List.mem_cons_self,
      isIgnorable_of_leaves (supported first List.mem_cons_self) (.inl bare)⟩
  · obtain ⟨leaf, inLeaves, admitted⟩ := List.any_eq_true.mp all
    obtain ⟨member, inMembers, inLeaves⟩ := mem_leavesOf_iff.mp inLeaves
    exact ⟨member, inMembers, isIgnorable_of_leaves (supported member inMembers)
      (.inr (List.any_eq_true.mpr ⟨leaf, inLeaves, admitted⟩))⟩

/-- What holds of a union if and only if it holds of a member holds of a hint if and only if it
holds of a leaf, unless the hint admits everything. -/
theorem exists_leaf_iff (holds : Hint → Prop)
    (unions : ∀ members, members ≠ [] → (holds (union members) ↔ ∃ member ∈ members, holds member))
    {hint : Hint} (absorbing : hint.Absorbing) (asks : hint.isIgnorable = false) :
    holds hint ↔ ∃ leaf ∈ hint.leaves, holds leaf := by
  induction hint using induction_children with
  | step hint ih =>
    rcases hint.isLeaf_or_union with isLeaf | ⟨members, rfl⟩
    · rw [isLeaf.leaves_eq]
      simp
    · have nonempty : members ≠ [] := by
        rintro rfl
        cases asks
      have leaf (member : Hint) (inMembers : member ∈ members) :
          holds member ↔ ∃ leaf ∈ member.leaves, holds leaf := by
        refine ih member inMembers
          (absorbing.inside (.child inMembers .self)) (Bool.eq_false_iff.mpr fun ignorable => ?_)
        rw [absorbing members .self member inMembers ignorable] at asks
        cases asks
      rw [unions members nonempty, leaves]
      constructor
      · rintro ⟨member, inMembers, found⟩
        obtain ⟨inner, inLeaves, found⟩ := (leaf member inMembers).mp found
        exact ⟨inner, mem_leavesOf_iff.mpr ⟨member, inMembers, inLeaves⟩, found⟩
      · rintro ⟨inner, inLeaves, found⟩
        obtain ⟨member, inMembers, inLeaves⟩ := mem_leavesOf_iff.mp inLeaves
        exact ⟨member, inMembers, (leaf member inMembers).mpr ⟨inner, inLeaves, found⟩⟩

theorem exists_mem_distinct_iff {holds : Hint → Prop} {hints : List Hint}
    (respected : ∀ a ∈ hints, ∀ b ∈ hints, b.same a = true → holds a → holds b) :
    (∃ hint ∈ hints, holds hint) ↔ ∃ hint ∈ distinct hints, holds hint := by
  constructor
  · rintro ⟨hint, member, found⟩
    obtain ⟨kept, inDistinct, same⟩ := exists_mem_distinct member
    refine ⟨kept, inDistinct, ?_⟩
    rcases same with rfl | same
    · exact found
    · exact respected hint member kept (mem_of_mem_distinct inDistinct) same found
  · rintro ⟨hint, member, found⟩
    exact ⟨hint, mem_of_mem_distinct member, found⟩

/-! ### Shapes of unions -/

/-- A union that can be checked asks for nothing or for one of its distinct leaves. -/
theorem shape_union {members : List Hint} (supported : (union members).obstacle = none) :
    (union members).shape = .ignorable ∧ (union members).isIgnorable = true ∨
      (union members).shape = unionShape (distinct (leavesOf members)) ∧
        (union members).isIgnorable = false := by
  cases ignorable : (union members).isIgnorable with
  | true => exact .inl ⟨shape_of_isIgnorable ignorable, rfl⟩
  | false =>
    refine .inr ⟨?_, rfl⟩
    rw [obstacle] at supported
    have notAll : (leavesOf members).any admitsAll = false := by
      rw [isIgnorable, supported] at ignorable
      exact (Bool.or_eq_false_iff.mp ignorable).2
    rw [shape, supported]
    dsimp only
    rw [notAll]
    rfl

variable {settings : Settings} {random : UInt32} {meaning : Reference → Option Hint} {value : Value}
  {fits : Hint → Value → Prop}

theorem unionShape_of_two (first second : Hint) (rest : List Hint) :
    unionShape (first :: second :: rest) = .union (first :: second :: rest) := rfl

theorem holds_unionShape {kept : List Hint}
    (leaf : ∀ hint ∈ kept, fits hint value →
      hint.leafShape.Holds settings random meaning fits value)
    (plain : ∀ hint ∈ kept, ∀ c, hint.plainClass? = some c → fits hint value →
      settings.admits c value = true)
    (found : ∃ hint ∈ kept, fits hint value) :
    (unionShape kept).Holds settings random meaning fits value := by
  obtain ⟨hint, member, found⟩ := found
  rcases kept with _ | ⟨first, _ | ⟨second, rest⟩⟩
  · cases member
  · cases List.mem_singleton.mp member
    exact leaf hint member found
  · rw [unionShape_of_two, Shape.Holds]
    cases classes : (first :: second :: rest).mapM plainClass? with
    | none => exact ⟨hint, member, found⟩
    | some classes' =>
      obtain ⟨c, inClasses, isPlain⟩ :=
        exists_linked_right (forall₂_of_mapM_plainClass classes) member
      exact ⟨c, inClasses, plain hint member c isPlain found⟩

theorem of_holds_unionShape {kept : List Hint} (nonempty : kept ≠ [])
    (leaf : ∀ hint ∈ kept, hint.leafShape.Holds settings random meaning fits value →
      fits hint value)
    (plain : ∀ hint ∈ kept, ∀ c, hint.plainClass? = some c → settings.admits c value = true →
      fits hint value)
    (holds : (unionShape kept).Holds settings random meaning fits value) :
    ∃ hint ∈ kept, fits hint value := by
  rcases kept with _ | ⟨first, _ | ⟨second, rest⟩⟩
  · exact absurd rfl nonempty
  · exact ⟨first, List.mem_cons_self, leaf first List.mem_cons_self holds⟩
  · rw [unionShape_of_two, Shape.Holds] at holds
    cases classes : (first :: second :: rest).mapM plainClass? with
    | none =>
      rw [classes] at holds
      exact holds
    | some classes' =>
      rw [classes] at holds
      obtain ⟨c, inClasses, admitted⟩ := holds
      obtain ⟨hint, member, isPlain⟩ :=
        exists_linked_left (forall₂_of_mapM_plainClass classes) inClasses
      exact ⟨hint, member, plain hint member c isPlain admitted⟩

end Hint

end CallGuard
