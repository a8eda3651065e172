/-
The shapes of linked hints are linked. Flattening a union, dropping repetitions
and leaving out what admits everything go by what hints are like and not by
which ones they are, so two hints come out with the same parts at the same
places if what links them makes them alike. The file also says what flattening
and dropping keep: every leaf of a union is still there, or one that is the same.
-/
import CallGuard.Proofs.Sameness

namespace CallGuard

open List

/-- Shapes that are put together in the same way, with linked parts at the same places. -/
inductive Shape.Linked (linked : Hint → Hint → Prop) (linkage : Linkage) : Shape → Shape → Prop
  | unsupported (obstacle obstacle' : Obstacle) :
    Linked linked linkage (.unsupported obstacle) (.unsupported obstacle')
  | ignorable : Linked linked linkage .ignorable .ignorable
  | null : Linked linked linkage .null .null
  | instanceOf (c : Class) : Linked linked linkage (.instanceOf c) (.instanceOf c)
  | union {members members' : List Hint} (each : List.Forall₂ linked members members') :
    Linked linked linkage (.union members) (.union members')
  | sequence {container : Class} {item item' : Option Hint}
    (items : Option.Rel linked item item') :
    Linked linked linkage (.sequence container item) (.sequence container item')
  | mapping {key key' entry entry' : Option Hint} (keys : Option.Rel linked key key')
    (entries : Option.Rel linked entry entry') :
    Linked linked linkage (.mapping key entry) (.mapping key' entry')
  | fixedTuple {items items' : List Hint} (each : List.Forall₂ linked items items') :
    Linked linked linkage (.fixedTuple items) (.fixedTuple items')
  | subclassOf (base : Option Class) : Linked linked linkage (.subclassOf base) (.subclassOf base)
  | structural (protocol : Protocol) :
    Linked linked linkage (.structural protocol) (.structural protocol)
  | reference {target target' : Reference} (link : linkage.references target target') :
    Linked linked linkage (.reference target) (.reference target')
  | annotated {inner inner' : Hint} {validators validators' : List Validator}
    (inside : linked inner inner')
    (each : List.Forall₂ linkage.validators validators validators') :
    Linked linked linkage (.annotated inner validators) (.annotated inner' validators')
  | literal {values values' : List Value} (each : List.Forall₂ linkage.literals values values') :
    Linked linked linkage (.literal values) (.literal values')
  | never : Linked linked linkage .never .never

/-- Shapes that can stand in for each other. -/
abbrev Shape.Alike (meaning : Reference → Option Hint) : Shape → Shape → Prop :=
  Linked (Hint.Alike meaning) (.alike meaning)

namespace Hint

/-! ### Obstacles -/

variable {a b : Hint} {linkage : Linkage}

/-- Hints that are built the same way: they differ at most in the values of their literals, in their
validators and in what they refer to. -/
abbrev Akin : Hint → Hint → Prop := Linked ⟨fun _ _ => True, fun _ _ => True, fun _ _ => True⟩

theorem Linked.akin (linked : Linked linkage a b) : Akin a b :=
  linked.imp (fun _ _ _ => trivial) (fun _ _ _ => trivial) fun _ _ _ => trivial

theorem Akin.genericObstacle_eq_none {origin : Origin} {arguments arguments' : List Hint}
    (each : List.Forall₂ Akin arguments arguments')
    (own : genericObstacle origin arguments = none) : genericObstacle origin arguments' = none := by
  cases each with
  | nil => exact own
  | cons head tail =>
    have sizes := tail.length_eq
    cases origin with
    | type =>
      cases tail with
      | cons _ _ => simp [genericObstacle, Origin.arity] at own
      | nil => cases head <;> first | exact own | rfl | cases own
    | list | set | frozenset | dict => simpa [genericObstacle, sizes] using own

theorem Akin.ownObstacle_eq_none (akin : Akin a b) (own : a.ownObstacle = none) :
    b.ownObstacle = none := by
  cases akin with
  | generic each => exact genericObstacle_eq_none each own
  | @tuple items items' variadic aliased each =>
    cases variadic with
    | false => rfl
    | true => simpa [ownObstacle, each.length_eq] using own
  | annotated _ each | literal each =>
    cases each with
    | nil => exact own
    | cons _ _ => rfl
  | any | null | never | instanceOf _ | structural _ | union _ | unknown _ => exact own
  | reference _ => rfl

theorem Akin.obstacle_eq_none (akin : Akin a b) (clear : a.obstacle = none) :
    b.obstacle = none := by
  induction a using induction_children generalizing b with
  | step a ih =>
    obtain ⟨own, inside⟩ := obstacle_eq_none_iff.mp clear
    refine obstacle_eq_none_iff.mpr ⟨akin.ownObstacle_eq_none own, fun child' member' => ?_⟩
    obtain ⟨child, member, link⟩ := exists_linked_left akin.children member'
    exact ih child member link (inside child member)

theorem heightOf_eq {hints hints' : List Hint}
    (each : List.Forall₂ (fun a b => a.height = b.height) hints hints') :
    heightOf hints = heightOf hints' := by
  induction each with
  | nil => rfl
  | cons head _ ih => rw [heightOf, heightOf, head, ih]

theorem Akin.height_eq (akin : Akin a b) : a.height = b.height := by
  induction a using induction_children generalizing b with
  | step a ih =>
    have children : heightOf a.children = heightOf b.children :=
      heightOf_eq (forall₂_imp_of_mem akin.children
        fun child member _ _ link => ih child member link)
    cases akin with
    | union each | generic each | tuple each =>
      rw [height, height]
      exact children
    | annotated inside _ => rw [height, height, ih _ mem_cons_self inside]
    | any | null | never | instanceOf _ | structural _ | reference _ | literal _ | unknown _ =>
      simp only [height]

variable {hints hints' : List Hint}

theorem forall₂_akin (each : List.Forall₂ (Linked linkage) hints hints') :
    List.Forall₂ Akin hints hints' ∧ List.Forall₂ Akin hints' hints :=
  ⟨each.imp fun _ _ link => link.akin,
    .flip (each.imp fun _ _ link => link.akin.swap (fun _ _ => id) (fun _ _ => id) fun _ _ => id)⟩

theorem genericObstacle_eq_none_iff (origin : Origin)
    (each : List.Forall₂ (Linked linkage) hints hints') :
    genericObstacle origin hints = none ↔ genericObstacle origin hints' = none :=
  ⟨Akin.genericObstacle_eq_none (forall₂_akin each).1,
    Akin.genericObstacle_eq_none (forall₂_akin each).2⟩

theorem Akin.firstObstacle_eq_none (each : List.Forall₂ Akin hints hints')
    (clear : firstObstacle hints = none) : firstObstacle hints' = none := by
  rw [firstObstacle_eq_none_iff] at clear ⊢
  intro hint' member'
  obtain ⟨hint, member, link⟩ := exists_linked_left each member'
  exact link.obstacle_eq_none (clear hint member)

theorem firstObstacle_eq_none_congr (each : List.Forall₂ (Linked linkage) hints hints') :
    firstObstacle hints = none ↔ firstObstacle hints' = none :=
  ⟨Akin.firstObstacle_eq_none (forall₂_akin each).1,
    Akin.firstObstacle_eq_none (forall₂_akin each).2⟩

/-! ### Leaves of unions -/

theorem leavesOf_linked
    (leaves : ∀ hint ∈ hints, ∀ hint' ∈ hints', Linked linkage hint hint' →
      List.Forall₂ (Linked linkage) hint.leaves hint'.leaves)
    (each : List.Forall₂ (Linked linkage) hints hints') :
    List.Forall₂ (Linked linkage) (leavesOf hints) (leavesOf hints') := by
  induction each with
  | nil => exact .nil
  | cons head tail ih =>
    refine rel_append (leaves _ mem_cons_self _ mem_cons_self head)
      (ih fun hint member hint' member' => ?_)
    exact leaves hint (mem_cons_of_mem _ member) hint' (mem_cons_of_mem _ member')

theorem Linked.isLeaf (linked : Linked linkage a b) (isLeaf : a.IsLeaf) : b.IsLeaf := by
  rintro members rfl
  cases linked
  exact isLeaf _ rfl

theorem Linked.leaves (linked : Linked linkage a b) :
    List.Forall₂ (Linked linkage) a.leaves b.leaves := by
  induction a using induction_children generalizing b with
  | step a ih =>
    rcases a.isLeaf_or_union with isLeaf | ⟨members, rfl⟩
    · rw [isLeaf.leaves_eq, (linked.isLeaf isLeaf).leaves_eq]
      exact .cons linked .nil
    · cases linked with
      | union each =>
        exact leavesOf_linked (fun hint member _ _ link => ih hint member link) each

/-- Linked hints are the same as the same hints. -/
def Compatible (linkage : Linkage) : Prop :=
  ∀ {a a' b b' : Hint}, Linked linkage a a' → Linked linkage b b' → a.same b = a'.same b'

theorem distinct_linked (compatible : Compatible linkage)
    (each : List.Forall₂ (Linked linkage) hints hints') :
    List.Forall₂ (Linked linkage) (distinct hints) (distinct hints') := by
  have known {hint hint' : Hint} {kept kept' : List Hint} (head : Linked linkage hint hint')
      (before : List.Forall₂ (Linked linkage) kept kept') :
      kept.any (· == hint) = kept'.any (· == hint') := by
    induction before with
    | nil => rfl
    | cons first _ ih =>
      rw [any_cons, any_cons, ih]
      exact congrArg (· || _) (compatible first head)
  have steps (kept kept' : List Hint) (before : List.Forall₂ (Linked linkage) kept kept') :
      List.Forall₂ (Linked linkage)
        (hints.foldl (fun kept hint => if kept.any (· == hint) then kept else kept ++ [hint]) kept)
        (hints'.foldl (fun kept hint => if kept.any (· == hint) then kept else kept ++ [hint])
          kept') := by
    induction each generalizing kept kept' with
    | nil => exact before
    | cons head _ ih =>
      rw [foldl_cons, foldl_cons, known head before]
      refine ih _ _ ?_
      split
      · exact before
      · exact rel_append before (.cons head .nil)
  exact steps [] [] .nil

/-! ### Hints that admit everything -/

theorem Linked.admitsAll_eq (linked : Linked linkage a b) : a.admitsAll = b.admitsAll := by
  cases linked <;> rfl

theorem any_admitsAll_eq (each : List.Forall₂ (Linked linkage) hints hints') :
    hints.any admitsAll = hints'.any admitsAll := by
  induction each with
  | nil => rfl
  | cons head _ ih =>
    rw [any_cons, any_cons, head.admitsAll_eq, ih]

theorem Linked.isIgnorable_eq (linked : Linked linkage a b) : a.isIgnorable = b.isIgnorable := by
  cases linked with
  | @union members members' each =>
    have leaves := leavesOf_linked (fun _ _ _ _ link => link.leaves) each
    have clear : (firstObstacle members).isNone = (firstObstacle members').isNone := by
      rw [Bool.eq_iff_iff, Option.isNone_iff_eq_none, Option.isNone_iff_eq_none,
        firstObstacle_eq_none_congr each]
    have empty : (leavesOf members).isEmpty = (leavesOf members').isEmpty := by
      rw [Bool.eq_iff_iff, isEmpty_iff_length_eq_zero, isEmpty_iff_length_eq_zero,
        leaves.length_eq]
    rw [isIgnorable, isIgnorable, clear, empty, any_admitsAll_eq leaves]
  | any | null | never | instanceOf _ | structural _ | reference _ | literal _ | unknown _
  | generic _ | tuple _ | annotated _ _ => rfl

theorem Linked.checkable (linked : Linked linkage a b) :
    Option.Rel (Linked linkage) a.checkable b.checkable := by
  unfold Hint.checkable
  rw [linked.isIgnorable_eq]
  split
  · exact .none
  · exact .some linked

/-! ### Shapes -/

theorem genericShape_linked (origin : Origin)
    (each : List.Forall₂ (Linked linkage) hints hints') :
    (genericShape origin hints).Linked (Linked linkage) linkage (genericShape origin hints') := by
  rcases each with _ | ⟨head, _ | ⟨second, _ | ⟨_, _⟩⟩⟩
  · cases origin with
    | dict => exact .mapping .none .none
    | type => exact .subclassOf none
    | list | set | frozenset => exact .sequence .none
  · cases origin with
    | dict => exact .mapping .none .none
    | type => cases head <;> exact .subclassOf _
    | list | set | frozenset => exact .sequence head.checkable
  · cases origin with
    | dict => exact .mapping head.checkable second.checkable
    | type => cases head <;> exact .subclassOf none
    | list | set | frozenset => exact .sequence .none
  · cases origin with
    | dict => exact .mapping .none .none
    | type => cases head <;> exact .subclassOf none
    | list | set | frozenset => exact .sequence .none

theorem leafShape_fixedTuple (items : List Hint) (aliased : Bool) :
    (tuple items false aliased).leafShape = .fixedTuple items := by
  rcases items with _ | ⟨_, _ | _⟩ <;> rfl

theorem Linked.leafShape (linked : Linked linkage a b) :
    a.leafShape.Linked (Linked linkage) linkage b.leafShape := by
  cases linked with
  | any | union _ => exact .ignorable
  | null => exact .null
  | never => exact .never
  | instanceOf c =>
    unfold Hint.leafShape
    dsimp only [ownObstacle]
    split
    · exact .ignorable
    · exact .instanceOf c
  | structural protocol => exact .structural protocol
  | unknown description => exact .unsupported _ _
  | reference link => exact .reference link
  | annotated inside each =>
    cases each with
    | nil => exact .unsupported _ _
    | cons head tail => exact .annotated inside (.cons head tail)
  | literal each =>
    cases each with
    | nil => exact .unsupported _ _
    | cons head tail => exact .literal (.cons head tail)
  | @generic origin arguments arguments' aliased each =>
    have own := genericObstacle_eq_none_iff origin each
    unfold Hint.leafShape
    dsimp only [ownObstacle]
    cases clear : genericObstacle origin arguments with
    | none =>
      rw [own.mp clear]
      exact genericShape_linked origin each
    | some obstacle =>
      cases clear' : genericObstacle origin arguments' with
      | none => cases clear.symm.trans (own.mpr clear')
      | some obstacle' => exact .unsupported _ _
  | @tuple items items' variadic aliased each =>
    cases variadic with
    | false =>
      rw [leafShape_fixedTuple, leafShape_fixedTuple]
      exact .fixedTuple each
    | true =>
      rcases each with _ | ⟨head, _ | ⟨_, _⟩⟩
      · exact .unsupported _ _
      · exact .sequence head.checkable
      · exact .unsupported _ _

theorem unionShape_linked (each : List.Forall₂ (Linked linkage) hints hints') :
    (unionShape hints).Linked (Linked linkage) linkage (unionShape hints') := by
  rcases each with _ | ⟨head, _ | ⟨second, rest⟩⟩
  · exact .ignorable
  · exact head.leafShape
  · exact .union (.cons head (.cons second rest))

/-- Linked hints have linked shapes. -/
theorem Linked.shape (compatible : Compatible linkage) (linked : Linked linkage a b) :
    a.shape.Linked (Linked linkage) linkage b.shape := by
  rcases a.isLeaf_or_union with isLeaf | ⟨members, rfl⟩
  · rw [isLeaf.shape_eq, (linked.isLeaf isLeaf).shape_eq]
    exact linked.leafShape
  · cases linked with
    | @union _ members' each =>
      have own := firstObstacle_eq_none_congr each
      rw [Hint.shape, Hint.shape]
      cases clear : firstObstacle members with
      | some obstacle =>
        cases clear' : firstObstacle members' with
        | some obstacle' => exact .unsupported _ _
        | none => cases clear.symm.trans (own.mpr clear')
      | none =>
        have leaves := leavesOf_linked (fun _ _ _ _ link => link.leaves) each
        rw [own.mp clear]
        dsimp only
        rw [any_admitsAll_eq leaves]
        split
        · exact .ignorable
        · exact unionShape_linked (distinct_linked compatible leaves)

/-- Hints that are alike have shapes that are alike. -/
theorem Alike.shape {meaning : Reference → Option Hint} (alike : Alike meaning a b) :
    a.shape.Alike meaning b.shape :=
  Linked.shape Alike.same_eq alike

/-! ### What becomes of ignorable hints and of repetitions -/

theorem leavesOf_isEmpty_or_any {members : List Hint} (ignorable : (union members).isIgnorable) :
    firstObstacle members = none ∧
      (leavesOf members = [] ∨ (leavesOf members).any admitsAll = true) := by
  rw [isIgnorable, Bool.and_eq_true, Option.isNone_iff_eq_none, Bool.or_eq_true,
    List.isEmpty_iff] at ignorable
  exact ignorable

theorem shape_of_isIgnorable {hint : Hint} (ignorable : hint.isIgnorable = true) :
    hint.shape = .ignorable := by
  rcases hint.isLeaf_or_union with isLeaf | ⟨members, rfl⟩
  · rw [isLeaf.shape_eq]
    cases hint with
    | any => rfl
    | instanceOf c =>
      have all : c = .object := beq_iff_eq.mp ignorable
      rw [all]
      rfl
    | union members => exact absurd rfl (isLeaf members)
    | _ => cases ignorable
  · obtain ⟨clear, leaves⟩ := leavesOf_isEmpty_or_any ignorable
    rw [shape, clear]
    rcases leaves with empty | all
    · rw [empty]
      rfl
    · rw [all]
      rfl

/-- Of hints that are the same, one is kept. -/
theorem exists_mem_distinct {hint : Hint} {hints : List Hint} (member : hint ∈ hints) :
    ∃ kept ∈ distinct hints, hint = kept ∨ kept.same hint = true := by
  have steps : ∀ (rest before : List Hint),
      hint ∈ rest ∨ (∃ kept ∈ before, hint = kept ∨ kept.same hint = true) →
      ∃ kept ∈ rest.foldl
        (fun kept hint => if kept.any (· == hint) then kept else kept ++ [hint]) before,
        hint = kept ∨ kept.same hint = true := by
    intro rest
    induction rest with
    | nil =>
      rintro before (found | found)
      · cases found
      · exact found
    | cons first rest ih =>
      intro before found
      refine ih _ ?_
      dsimp only
      rcases found with found | ⟨kept, inBefore, same⟩
      · rcases mem_cons.mp found with rfl | found
        · refine .inr ?_
          split
          · rename_i contained
            obtain ⟨kept, inBefore, same⟩ := any_eq_true.mp contained
            exact ⟨kept, inBefore, .inr same⟩
          · exact ⟨hint, mem_append_right _ mem_cons_self, .inl rfl⟩
        · exact .inl found
      · refine .inr ⟨kept, ?_, same⟩
        split
        · exact inBefore
        · exact mem_append_left _ inBefore
  exact steps hints [] (.inl member)

end Hint

end CallGuard
