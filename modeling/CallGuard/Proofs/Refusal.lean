/-
What is said about hints that cannot be checked. A hint is refused because of a
culprit somewhere inside it, a hint that stands in the way by itself while
nothing inside it does, and the refusal says how to get there, child by child.
Down to the last level the way is complete. Below that level, where only the
outermost container of a hint counts, the steps out of validated hints are left
out of it, so that it may end before the culprit or lead nowhere.
-/
import CallGuard.Proofs.Transparency

namespace CallGuard

open List Hint Settings

namespace Hint

/-! ### Ways into a hint -/

/-- The hint that is reached through the children with the given numbers. -/
def descend : Hint → List Nat → Option Hint
  | hint, [] => some hint
  | hint, number :: way => hint.children[number]?.bind fun child => child.descend way

theorem descend_of_child {hint child : Hint} {number : Nat}
    (numbered : hint.children[number]? = some child) (way : List Nat) :
    hint.descend (number :: way) = child.descend way := by
  rw [descend, numbered, Option.bind_some]

theorem descend_annotated (inner : Hint) (validators : List Validator) (way : List Nat) :
    (annotated inner validators).descend (0 :: way) = inner.descend way :=
  descend_of_child rfl way

variable {found : Hint} {levels : Nat}

variable {hint : Hint} {way : List Nat}

/-- Every step goes to a hint that nests less deeply. -/
theorem height_of_descend (reached : hint.descend way = some found) :
    way.length + found.height ≤ hint.height := by
  induction way generalizing hint with
  | nil =>
    cases reached
    exact Nat.le_of_eq (Nat.zero_add _)
  | cons number way ih =>
    obtain ⟨child, numbered, deeper⟩ := Option.bind_eq_some_iff.mp reached
    have below := ih deeper
    have lower := height_lt_of_mem_children (mem_of_getElem? numbered)
    rw [length_cons]
    omega

/-! ### Culprits -/

/-- A hint that cannot be checked for the given reason, while all hints inside it can. -/
structure IsCulprit (hint : Hint) (obstacle : Obstacle) : Prop where
  shaped : hint.shape = .unsupported obstacle ∨
    hint.shape = .never ∧ obstacle = .misplacedNever
  clear : ∀ child ∈ hint.children, child.obstacle = none

theorem leafShape_of_own {obstacle : Obstacle}
    (own : hint.ownObstacle = some obstacle) :
    hint.leafShape = .unsupported obstacle ∨
      hint.leafShape = .never ∧ obstacle = .misplacedNever := by
  unfold leafShape
  rw [own]
  split
  case h_1 =>
    cases own
    exact .inr ⟨rfl, rfl⟩
  case h_2 same _ =>
    cases same
    exact .inl rfl
  all_goals contradiction

theorem isCulprit_of_own {obstacle : Obstacle}
    (own : hint.ownObstacle = some obstacle)
    (clear : ∀ child ∈ hint.children, child.obstacle = none) : hint.IsCulprit obstacle := by
  have leaf : hint.IsLeaf := by
    rintro members rfl
    cases own
  refine ⟨?_, clear⟩
  rw [leaf.shape_eq]
  exact leafShape_of_own own

/-- The culprit in a list is the one of the first hint with an obstacle. -/
theorem culpritIn_cases (number : Nat) (hints : List Hint) :
    (culpritIn number hints = none ∧ ∀ hint ∈ hints, hint.obstacle = none) ∨
      ∃ index child, hints[index]? = some child ∧ child.obstacle ≠ none ∧
        culpritIn number hints = some ((number + index) :: child.culprit.1, child.culprit.2) := by
  induction hints generalizing number with
  | nil => exact .inl ⟨by rw [culpritIn], nofun⟩
  | cons first rest ih =>
    rw [culpritIn]
    cases obstructed : first.obstacle with
    | some obstacle =>
      refine .inr ⟨0, first, rfl, ?_, rfl⟩
      rw [obstructed]
      nofun
    | none =>
      rcases ih (number + 1) with
        ⟨missing, clear⟩ | ⟨index, child, numbered, found⟩
      · exact .inl ⟨missing, forall_mem_cons.mpr ⟨obstructed, clear⟩⟩
      · refine .inr ⟨index + 1, child, numbered, ?_⟩
        rw [← Nat.add_right_comm, Nat.add_assoc] at found
        exact found

theorem culprit_eq (hint : Hint) : hint.culprit = (culpritIn 0 hint.children).getD ([], hint) := by
  cases hint with
  | union members | generic _ _ _ | tuple _ _ _ => rw [culprit, children]
  | annotated inner validators =>
    rw [culprit, children, culpritIn, culpritIn]
    split <;> rfl
  | any | null | instanceOf _ | structural _ | reference _ | literal _ | never | unknown _ =>
    rw [culprit, children, culpritIn, Option.getD_none]
    all_goals
      intros
      contradiction

/-- The way to the culprit of a hint with an obstacle leads to it. -/
theorem descend_culprit (obstructed : hint.obstacle ≠ none) :
    hint.descend hint.culprit.1 = some hint.culprit.2 ∧
      ∃ obstacle, hint.culprit.2.ownObstacle = some obstacle ∧
        hint.culprit.2.IsCulprit obstacle := by
  induction hint using induction_children with
  | step hint ih =>
    rw [culprit_eq]
    rcases culpritIn_cases 0 hint.children with
      ⟨missing, clear⟩ | ⟨index, child, numbered, blocked, found⟩
    · rw [missing, Option.getD_none]
      obtain ⟨obstacle, own⟩ : ∃ obstacle, hint.ownObstacle = some obstacle := by
        rw [← Option.ne_none_iff_exists']
        exact fun own => obstructed (obstacle_eq_none_iff.mpr ⟨own, clear⟩)
      exact ⟨rfl, obstacle, own, isCulprit_of_own own clear⟩
    · rw [found, Option.getD_some, Nat.zero_add, descend_of_child numbered]
      exact ih child (mem_of_getElem? numbered) blocked

/-! ### Ways as they are reported -/

/-- The way leads from a hint to one inside it if steps out of validated hints are put in after
the given number of levels. -/
def Located (levels : Nat) (hint : Hint) (way : List Nat) (found : Hint) : Prop :=
  ∃ skipped, hint.descend (way.take levels ++ (replicate skipped 0 ++ way.drop levels)) =
      some found ∧
    ∀ steps < skipped, levels ≤ way.length ∧ ∃ inner validators,
      hint.descend (way.take levels ++ replicate steps 0) = some (annotated inner validators)

theorem located_of_descend (levels : Nat)
    (reached : hint.descend way = some found) : hint.Located levels way found := by
  refine ⟨0, ?_, nofun⟩
  rw [replicate_zero, nil_append, take_append_drop]
  exact reached

theorem Located.of_child {hint child : Hint} {number : Nat}
    (numbered : hint.children[number]? = some child) (located : child.Located levels way found) :
    hint.Located (levels + 1) (number :: way) found := by
  obtain ⟨skipped, reached, each⟩ := located
  refine ⟨skipped, ?_, fun steps earlier => ?_⟩
  · rw [take_succ_cons, drop_succ_cons, cons_append, descend_of_child numbered]
    exact reached
  · obtain ⟨long, inner, validators, between⟩ := each steps earlier
    refine ⟨Nat.succ_le_succ long, inner, validators, ?_⟩
    rw [take_succ_cons, cons_append, descend_of_child numbered]
    exact between

theorem Located.of_validated {inner : Hint} (located : inner.Located 0 way found)
    (validators : List Validator) :
    (annotated inner validators).Located 0 way found := by
  obtain ⟨skipped, reached, each⟩ := located
  refine ⟨skipped + 1, ?_, fun steps earlier => ⟨Nat.zero_le _, ?_⟩⟩
  · exact (descend_annotated inner validators _).trans reached
  · cases steps with
    | zero => exact ⟨inner, validators, rfl⟩
    | succ steps =>
      obtain ⟨-, inner', validators', between⟩ := each steps (Nat.lt_of_succ_lt_succ earlier)
      exact ⟨inner', validators', (descend_annotated inner validators _).trans between⟩

/-- Where no validated hint stands right below the last level, the way is complete. -/
theorem Located.descend_eq (located : hint.Located levels way found)
    (plain : ∀ front inner validators, front.length = levels →
      hint.descend front ≠ some (annotated inner validators)) :
    hint.descend way = some found := by
  obtain ⟨skipped, reached, each⟩ := located
  cases skipped with
  | zero =>
    rw [replicate_zero, nil_append, take_append_drop] at reached
    exact reached
  | succ skipped =>
    obtain ⟨long, inner, validators, between⟩ := each 0 (Nat.succ_pos skipped)
    rw [replicate_zero, append_nil] at between
    exact absurd between (plain _ inner validators (length_take_of_le long))

end Hint

/-! ### What refusals point at -/

/-- The refusal of a hint points at a culprit inside it; the way there goes on from the given
one. -/
def Refusal.PointsInto (refusal : Refusal) (levels : Nat) (path : List Nat) (hint : Hint) : Prop :=
  ∃ found way obstacle, refusal = .unsupported found (path ++ way) obstacle ∧
    found.IsCulprit obstacle ∧ hint.Located levels way found

variable {refusal : Refusal}

theorem Refusal.PointsInto.of_child {levels number : Nat} {path : List Nat}
    {hint child : Hint} (numbered : hint.children[number]? = some child)
    (points : refusal.PointsInto levels (path ++ [number]) child) :
    refusal.PointsInto (levels + 1) path hint := by
  obtain ⟨found, way, obstacle, rfl, culprit, located⟩ := points
  refine ⟨found, number :: way, obstacle, ?_, culprit, located.of_child numbered⟩
  rw [append_assoc, singleton_append]

theorem Refusal.PointsInto.of_validated {path : List Nat} {inner : Hint}
    (points : refusal.PointsInto 0 path inner) (validators : List Validator) :
    refusal.PointsInto 0 path (.annotated inner validators) := by
  obtain ⟨found, way, obstacle, named, culprit, located⟩ := points
  exact ⟨found, way, obstacle, named, culprit, located.of_validated validators⟩

theorem Hint.pointsInto_refusal {hint : Hint} (obstructed : hint.obstacle ≠ none) (levels : Nat)
    (path : List Nat) (obstacle : Obstacle) :
    (hint.refusal path obstacle).PointsInto levels path hint := by
  obtain ⟨reached, own, ownObstacle, culprit⟩ := descend_culprit obstructed
  refine ⟨hint.culprit.2, hint.culprit.1, own, ?_, culprit, located_of_descend levels reached⟩
  rw [refusal, ownObstacle, Option.getD_some]

/-! ### Making things one by one, and failing -/

section Failing

variable {Error Item Made : Type} {make : Item → Except Error Made} {failure : Error}

theorem bind_eq_error {Other : Type} {first : Except Error Made} {next : Made → Except Error Other}
    (failed : (first >>= next) = .error failure) :
    first = .error failure ∨ ∃ made, first = .ok made ∧ next made = .error failure := by
  cases first with
  | error _ =>
    cases failed
    exact .inl rfl
  | ok made => exact .inr ⟨made, rfl, failed⟩

theorem error_of_bind_pure {Other : Type} {first : Except Error Made} {give : Made → Other}
    (failed : (first >>= fun made => pure (give made)) = .error failure) :
    first = .error failure := by
  rcases bind_eq_error failed with failed | ⟨_, -, done⟩
  · exact failed
  · cases done

theorem exists_of_mapM_eq_error {items : List Item} (failed : items.mapM make = .error failure) :
    ∃ item ∈ items, make item = .error failure := by
  induction items with
  | nil => cases failed
  | cons first rest ih =>
    rw [mapM_cons] at failed
    rcases bind_eq_error failed with here | ⟨_, -, failed⟩
    · exact ⟨first, mem_cons_self, here⟩
    · obtain ⟨item, member, made⟩ := ih (error_of_bind_pure failed)
      exact ⟨item, mem_cons_of_mem _ member, made⟩

theorem exists_of_filterMapM_eq_error {find : Item → Except Error (Option Made)} {items : List Item}
    (failed : items.filterMapM find = .error failure) :
    ∃ item ∈ items, find item = .error failure := by
  have loop (kept : List Made) : filterMapM.loop find items kept = .error failure →
        ∃ item ∈ items, find item = .error failure := by
    clear failed
    induction items generalizing kept with
    | nil => nofun
    | cons first rest ih =>
      intro failed
      rcases bind_eq_error failed with here | ⟨result, -, failed⟩
      · exact ⟨first, mem_cons_self, here⟩
      · obtain ⟨item, member, found⟩ : ∃ item ∈ rest, find item = .error failure := by
          cases result with
          | none => exact ih kept failed
          | some found => exact ih (found :: kept) failed
        exact ⟨item, mem_cons_of_mem _ member, found⟩
  exact loop [] failed

end Failing

/-! ### Parts of shapes by their numbers -/

/-- The hints that a shape leaves to be checked, with their numbers. -/
def Shape.numbered : Shape → List (Hint × Nat)
  | .union members => members.zipIdx
  | .sequence _ item => item.toList.zipIdx
  | .mapping key entry => key.toList.zipIdx ++ entry.toList.zipIdx 1
  | .fixedTuple items => items.zipIdx
  | .annotated inner _ => [(inner, 0)]
  | _ => []

namespace Hint

variable {hint part : Hint} {number : Nat}

theorem mem_zipIdx_checkable {start : Nat}
    (member : (part, number) ∈ hint.checkable.toList.zipIdx start) :
    part = hint ∧ number = start := by
  unfold checkable at member
  split at member
  · cases member
  · cases mem_singleton.mp member
    exact ⟨rfl, rfl⟩

/-- In the shape of a hint other than a union, the parts have the numbers of the children. -/
theorem children_of_mem_numbered (member : (part, number) ∈ hint.leafShape.numbered) :
    hint.children[number]? = some part := by
  unfold leafShape at member
  split at member
  case h_6 origin arguments _ _ =>
    unfold genericShape at member
    split at member
    case h_1 key entry =>
      rcases mem_append.mp member with member | member
      · obtain ⟨rfl, rfl⟩ := mem_zipIdx_checkable member
        rfl
      · obtain ⟨rfl, rfl⟩ := mem_zipIdx_checkable member
        rfl
    case h_5 item _ _ =>
      obtain ⟨rfl, rfl⟩ := mem_zipIdx_checkable member
      rfl
    all_goals cases member
  case h_7 =>
    obtain ⟨rfl, rfl⟩ := mem_zipIdx_checkable member
    rfl
  case h_8 => exact mem_zipIdx_iff_getElem?.mp member
  case h_11 =>
    cases mem_singleton.mp member
    rfl
  case h_5 => split at member <;> cases member
  all_goals cases member

theorem eq_of_leafShape_never (shaped : hint.leafShape = .never) : hint = never := by
  unfold leafShape at shaped
  split at shaped
  case h_1 => rfl
  case h_6 => unfold genericShape at shaped; split at shaped <;> cases shaped
  case h_5 => split at shaped <;> cases shaped
  all_goals cases shaped

theorem eq_of_leafShape_annotated {inner : Hint} {validators : List Validator}
    (shaped : hint.leafShape = .annotated inner validators) :
    hint = annotated inner validators := by
  unfold leafShape at shaped
  split at shaped
  case h_11 =>
    cases shaped
    rfl
  case h_6 => unfold genericShape at shaped; split at shaped <;> cases shaped
  case h_5 => split at shaped <;> cases shaped
  all_goals cases shaped

/-- A union with an obstacle is of no shape but the one that says so. -/
theorem isLeaf_of_obstacle (obstructed : hint.obstacle ≠ none)
    (other : ∀ obstacle, hint.shape ≠ .unsupported obstacle) : hint.IsLeaf := by
  rintro members rfl
  rw [obstacle] at obstructed
  obtain ⟨first, found⟩ := Option.ne_none_iff_exists'.mp obstructed
  exact other first (by rw [shape, found])

/-- Only the hint for functions that do not return has the shape that says so. -/
theorem eq_of_shape_never (shaped : hint.shape = .never) : hint = never := by
  have obstructed : hint.obstacle ≠ none := fun supported => (shape_supported supported).2 shaped
  have leaf := isLeaf_of_obstacle obstructed fun obstacle other => by
    rw [shaped] at other
    cases other
  rw [leaf.shape_eq] at shaped
  exact eq_of_leafShape_never shaped

theorem refusal_of_shape_never (shaped : hint.shape = .never) (path : List Nat) :
    Refusal.unsupported hint path .misplacedNever = hint.refusal path .misplacedNever := by
  rw [eq_of_shape_never shaped]
  show _ = Refusal.unsupported never (path ++ []) .misplacedNever
  rw [append_nil]

end Hint

/-! ### Refusals -/

namespace Settings

variable {settings : Settings}

variable {levels : Nat} {path : List Nat} {hint : Hint} {refusal : Refusal}

/-- A hint is refused if nothing can be done about it, or because one of its parts is. -/
theorem refused_of_checkWithin
    (refused : settings.checkWithin (levels + 1) path hint = .error refusal) :
    (∃ obstacle, refusal = hint.refusal path obstacle) ∨
      ∃ part number, (part, number) ∈ hint.shape.numbered ∧
        settings.checkWithin levels (path ++ [number]) part = .error refusal := by
  rw [checkWithin] at refused
  cases leaf : settings.leafCheck hint.shape with
  | some found =>
    rw [leaf] at refused
    cases refused
  | none =>
    rw [leaf] at refused
    generalize shaped : hint.shape = shape at refused leaf ⊢
    cases shape with
    | unsupported obstacle =>
      cases refused
      exact .inl ⟨obstacle, rfl⟩
    | never =>
      cases refused
      exact .inl ⟨_, refusal_of_shape_never shaped path⟩
    | ignorable | null | instanceOf _ | subclassOf _ | structural _ | literal _ => cases leaf
    | union members =>
      obtain ⟨⟨part, number⟩, member, failed⟩ :=
        exists_of_mapM_eq_error (error_of_bind_pure refused)
      exact .inr ⟨part, number, member, error_of_bind_pure failed⟩
    | sequence container item =>
      cases item with
      | none => cases leaf
      | some item => exact .inr ⟨item, 0, mem_cons_self, error_of_bind_pure refused⟩
    | mapping key entry =>
      obtain ⟨⟨side, number⟩, member, failed⟩ :=
        exists_of_filterMapM_eq_error (error_of_bind_pure refused)
      cases side with
      | none => cases failed
      | some part =>
        refine .inr ⟨part, number, ?_, error_of_bind_pure failed⟩
        rcases member with _ | ⟨_, _ | ⟨_, ⟨⟩⟩⟩
        · exact mem_append_left _ mem_cons_self
        · exact mem_append_right _ mem_cons_self
    | fixedTuple items =>
      obtain ⟨⟨part, number⟩, member, failed⟩ :=
        exists_of_mapM_eq_error (error_of_bind_pure refused)
      exact .inr ⟨part, number, (mem_filter.mp member).1, error_of_bind_pure failed⟩
    | annotated inner validators =>
      exact .inr ⟨inner, 0, mem_cons_self, error_of_bind_pure refused⟩
    | reference target => cases refused

theorem refused_of_shallowCheck (refused : settings.shallowCheck path hint = .error refusal) :
    (∃ obstacle, refusal = hint.refusal path obstacle) ∨
      (∃ inner validators, hint.shape = .annotated inner validators ∧
        settings.shallowCheck path inner = .error refusal) ∨
      ∃ members, hint.shape = .union members := by
  rw [shallowCheck] at refused
  cases leaf : settings.leafCheck hint.shape with
  | some found =>
    rw [leaf] at refused
    cases refused
  | none =>
    rw [leaf] at refused
    dsimp only at refused
    split at refused
    case h_1 obstacle shaped =>
      cases refused
      exact .inl ⟨obstacle, rfl⟩
    case h_2 shaped =>
      cases refused
      exact .inl ⟨_, refusal_of_shape_never shaped path⟩
    case h_6 inner validators shaped => exact .inr (.inl ⟨inner, validators, shaped, refused⟩)
    case h_7 members shaped => exact .inr (.inr ⟨members, shaped⟩)
    all_goals cases refused

/-- What is said about a hint below the last level. -/
theorem pointsInto_of_shallowCheck {path : List Nat} {hint : Hint} {refusal : Refusal}
    (refused : settings.shallowCheck path hint = .error refusal) :
    refusal.PointsInto 0 path hint := by
  have obstructed : hint.obstacle ≠ none := by
    intro supported
    obtain ⟨check, made⟩ : ∃ check, settings.shallowCheck path hint = .ok check :=
      exists_shallowCheck path supported
    rw [made] at refused
    cases refused
  rcases refused_of_shallowCheck refused with
    ⟨obstacle, rfl⟩ | ⟨inner, validators, shaped, deeper⟩ | ⟨members, shaped⟩
  · exact pointsInto_refusal obstructed 0 path obstacle
  · have leaf := isLeaf_of_obstacle obstructed (by rw [shaped]; nofun)
    have smaller := sizeOf_lt_of_shape_annotated shaped
    rw [leaf.shape_eq] at shaped
    cases eq_of_leafShape_annotated shaped
    exact (pointsInto_of_shallowCheck deeper).of_validated validators
  · have leaf := isLeaf_of_obstacle obstructed (by rw [shaped]; nofun)
    rw [leaf.shape_eq] at shaped
    exact absurd shaped (leafShape_ne_union hint members)
termination_by sizeOf hint

/-- What is said about a hint that is refused points at a culprit inside it. -/
theorem pointsInto_of_checkWithin
    (refused : settings.checkWithin levels path hint = .error refusal) :
    refusal.PointsInto levels path hint := by
  induction levels generalizing path hint with
  | zero => exact pointsInto_of_shallowCheck refused
  | succ levels ih =>
    have obstructed : hint.obstacle ≠ none := by
      intro supported
      obtain ⟨check, made⟩ : ∃ check, settings.checkWithin (levels + 1) path hint = .ok check :=
        exists_checkWithin (levels + 1) path supported
      rw [made] at refused
      cases refused
    rcases refused_of_checkWithin refused with
      ⟨obstacle, rfl⟩ | ⟨part, number, member, deeper⟩
    · exact pointsInto_refusal obstructed _ path obstacle
    · have leaf := isLeaf_of_obstacle obstructed fun obstacle shaped => by
        rw [shaped] at member
        cases member
      rw [leaf.shape_eq] at member
      exact (ih deeper).of_child (children_of_mem_numbered member)

/-- If making a fragment fails because of a hint that cannot be checked, then that hint is a culprit
inside the given one, and the position names the given hint and the way there. The way is complete
unless a validated hint stands right below the last level; then steps out of validated hints may be
missing at that place. -/
theorem refusal_points_at_culprit {settings : Settings} {label : String} {hint : Hint} {level : Nat}
    {workshop : Workshop} {found : Hint} {position : Position} {obstacle : Obstacle}
    (refused : ((settings.fragment label hint level).run.run workshop).1 =
      .error (.unsupported found position obstacle)) :
    position.message = label ++ " " ++ hint.text ++
        String.join (position.path.map fun number => "[" ++ toString number ++ "]") ∧
      found.IsCulprit obstacle ∧
      hint.Located (maxDepth + 1) position.path found ∧
      ((∀ way inner validators, way.length = maxDepth + 1 →
          hint.descend way ≠ some (.annotated inner validators)) →
        hint.descend position.path = some found) := by
  have supplied := settings.supplies_fragment label hint level workshop
  generalize (settings.fragment label hint level).run.run workshop = outcome at supplied refused
  cases supplied with
  | known | made => cases refused
  | @refused refusal _ _ unmade _ =>
    obtain ⟨found, way, obstacle, rfl, culprit, located⟩ := pointsInto_of_checkWithin unmade
    cases refused
    exact ⟨rfl, culprit, located, located.descend_eq⟩

/-- Integers or lists of something that is not a hint. -/
def misfit : Hint := .union [.instanceOf .int, .generic .list [.unknown "42"] false]

theorem refusal_points_at_item_of_member :
    let outcome := ((Settings.standard ⟨102, .fixed 0⟩).fragment "parameter x:" misfit 0).run.run
      ⟨.empty, .initial⟩
    ∃ position, outcome.1 = .error (.unsupported (.unknown "42") position (.notHint "42")) ∧
      position.message = "parameter x: Union[int, list[<opaque 42>]][1][0]" ∧
      misfit.descend position.path = some (.unknown "42") ∧
      (Hint.unknown "42").IsCulprit (.notHint "42") := by
  intro outcome
  have refused : outcome.1 =
      .error (.unsupported (.unknown "42") ⟨"parameter x:", misfit, [1, 0]⟩ (.notHint "42")) :=
    fragment_empty _ _ _ _ _
  obtain ⟨message, culprit, -, complete⟩ := refusal_points_at_culprit refused
  refine ⟨_, refused, ?_, complete fun way inner validators long reached => ?_, culprit⟩
  · rw [message]
    decide +kernel
  · have below := Hint.height_of_descend reached
    have lower : misfit.height = 2 := by decide +kernel
    rw [long, lower, maxDepth] at below
    omega

end Settings

/-! ### Ways that are not complete -/

/-- A hint inside the given number of lists. -/
def Hint.inLists : Nat → Hint → Hint
  | 0, hint => hint
  | depth + 1, hint => .generic .list [inLists depth hint] false

theorem Hint.descend_inLists (depth : Nat) (hint : Hint) :
    (hint.inLists depth).descend (replicate depth 0) = some hint := by
  induction depth with
  | zero => rfl
  | succ depth ih => exact (descend_of_child rfl _).trans ih

theorem Hint.isIgnorable_inLists (depth : Nat) {hint : Hint} (asks : hint.isIgnorable = false) :
    (hint.inLists depth).isIgnorable = false := by
  cases depth with
  | zero => exact asks
  | succ depth => rfl

/-- What is inside as many lists as there are levels is looked at below the last one. -/
theorem Settings.checkWithin_inLists (settings : Settings) (levels : Nat) (path : List Nat)
    {hint : Hint} (asks : hint.isIgnorable = false)
    (refused : settings.shallowCheck (path ++ replicate levels 0) hint = .error refusal) :
    settings.checkWithin levels path (hint.inLists levels) = .error refusal := by
  induction levels generalizing path with
  | zero =>
    rw [replicate_zero, append_nil] at refused
    exact refused
  | succ levels ih =>
    have shaped : (hint.inLists (levels + 1)).shape =
        .sequence .list (some (hint.inLists levels)) := by
      show Shape.sequence .list (hint.inLists levels).checkable = _
      rw [checkable, isIgnorable_inLists levels asks]
      rfl
    have deeper : settings.checkWithin levels (path ++ [0]) (hint.inLists levels) =
        .error refusal :=
      ih (path ++ [0]) (by
        rw [append_assoc, singleton_append]
        exact refused)
    rw [checkWithin, shaped]
    show (settings.checkWithin levels (path ++ [0]) (hint.inLists levels) >>= _) = _
    rw [deeper]
    rfl

/-- Something that is not a hint, with a validator. -/
def validatedMisfit : Hint := .annotated (.unknown "42") [⟨104, "ok", fun _ => true⟩]

/-- A validated hint right below the last level hides a step of the way: the way that is given for
what cannot be checked ends at the validated hint, which is no culprit itself. -/
theorem way_ends_before_culprit :
    let hint := validatedMisfit.inLists (maxDepth + 1)
    let way := List.replicate (maxDepth + 1) 0
    let outcome := ((Settings.standard ⟨102, .fixed 0⟩).fragment "parameter x:" hint 0).run.run
      ⟨.empty, .initial⟩
    outcome.1 =
        .error (.unsupported (.unknown "42") ⟨"parameter x:", hint, way⟩ (.notHint "42")) ∧
      hint.descend way = some validatedMisfit ∧
      validatedMisfit.text ≠ (Hint.unknown "42").text ∧
      ∀ obstacle, ¬ validatedMisfit.IsCulprit obstacle := by
  intro hint way outcome
  refine ⟨?_, Hint.descend_inLists _ _, by decide +kernel, ?_⟩
  · have refused : (Settings.standard ⟨102, .fixed 0⟩).check hint =
        .error (.unsupported (.unknown "42") way (.notHint "42")) := by
      refine Settings.checkWithin_inLists _ _ _ rfl ?_
      rw [Settings.shallowCheck]
      show Settings.shallowCheck _ way (.unknown "42") = _
      rw [Settings.shallowCheck]
      rfl
    show (Settings.fragment _ "parameter x:" hint 0 |>.run.run ⟨.empty, .initial⟩).1 = _
    rw [Settings.fragment_empty, refused]
    rfl
  · rintro obstacle ⟨shaped | ⟨shaped, -⟩, -⟩ <;> cases shaped

end CallGuard
