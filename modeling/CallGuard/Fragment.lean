/-
From hints to checks. The check of a hint follows its shape; a union of plain
classes becomes a single test. Hints may nest, and refer to each other, without
end, so a check goes down a bounded number of levels, through references too;
below that only the outermost container of a hint is tested. A fragment is a
check with its text and with what there is to say about the hint.
-/
import CallGuard.Check.Code

namespace CallGuard

/-! ### Hints that cannot be checked -/

/-- Why there is no check. -/
inductive Refusal where
  /-- A hint that cannot be checked, and how to get there. -/
  | unsupported (hint : Hint) (path : List Nat) (obstacle : Obstacle)
  /-- A hint of a shape that checks are not made for. -/
  | noRule (hint : Hint)

/-- The failure that a refusal amounts to, for a hint with the given label. -/
def Refusal.failure (refusal : Refusal) (label : String) (root : Hint) : Failure :=
  match refusal with
  | .unsupported hint path obstacle => .unsupported hint ⟨label, root, path⟩ obstacle
  | .noRule hint => .internal (.noRule hint) ""

theorem Refusal.failure_ne_violation (refusal : Refusal) (label : String) (root : Hint)
    (violation : Violation) : refusal.failure label root ≠ .violation violation := by
  cases refusal <;> nofun

namespace Hint

mutual
/-- The innermost first hint with an obstacle, and the way to it. -/
def culprit : Hint → List Nat × Hint
  | union members => (culpritIn 0 members).getD ([], union members)
  | generic origin arguments aliased =>
    (culpritIn 0 arguments).getD ([], generic origin arguments aliased)
  | tuple items variadic aliased => (culpritIn 0 items).getD ([], tuple items variadic aliased)
  | annotated inner validators =>
    if inner.obstacle.isSome then (0 :: (culprit inner).1, (culprit inner).2)
    else ([], annotated inner validators)
  | hint => ([], hint)

/-- The culprit of the first hint of a list that has one; the list starts at the given number. -/
def culpritIn : Nat → List Hint → Option (List Nat × Hint)
  | _, [] => none
  | number, hint :: rest =>
    if hint.obstacle.isSome then some (number :: (culprit hint).1, (culprit hint).2)
    else culpritIn (number + 1) rest
end

/-- The refusal of a hint that has an obstacle somewhere inside. -/
def refusal (hint : Hint) (path : List Nat) (obstacle : Obstacle) : Refusal :=
  .unsupported hint.culprit.2 (path ++ hint.culprit.1) (hint.culprit.2.ownObstacle.getD obstacle)

/-! ### Checks without parts -/

/-- The class that a plain hint names. -/
def plainClass? : Hint → Option Class
  | instanceOf c => some c
  | null => some .noneType
  | _ => none

end Hint

/-- The test for an instance of one of the classes, or of one that passes for it. -/
def Settings.instanceCheck (settings : Settings) (classes : List Class) : Check :=
  .instanceOf (classes.flatMap settings.accepted).eraseDups

/-- The check for a shape that has no parts to be checked. -/
def Settings.leafCheck (settings : Settings) : Shape → Option Check
  | .ignorable => some .always
  | .null => some .isNull
  | .instanceOf c => some (settings.instanceCheck [c])
  | .union members => (members.mapM Hint.plainClass?).map settings.instanceCheck
  | .sequence container none => some (settings.instanceCheck [container])
  | .mapping none none => some (settings.instanceCheck [.dict])
  | .subclassOf base => some (.classObject base)
  | .structural protocol => some (.structural protocol)
  | .literal values => some (.oneOf values)
  | _ => none

/-! ### Sizes -/

namespace Hint

mutual
theorem sizeOf_le_of_mem_leaves : ∀ (hint : Hint) {leaf : Hint}, leaf ∈ hint.leaves →
    sizeOf leaf ≤ sizeOf hint
  | union members, leaf, member => by
    have smaller := sizeOf_lt_of_mem_leavesOf members (by simpa [leaves] using member)
    simp only [union.sizeOf_spec]
    omega
  | any, leaf, member | null, leaf, member | instanceOf _, leaf, member
  | generic _ _ _, leaf, member | tuple _ _ _, leaf, member | structural _, leaf, member
  | reference _, leaf, member | annotated _ _, leaf, member | literal _, leaf, member
  | never, leaf, member | unknown _, leaf, member => by
    simp only [leaves, List.mem_singleton] at member
    simp [member]

theorem sizeOf_lt_of_mem_leavesOf : ∀ (hints : List Hint) {leaf : Hint}, leaf ∈ leavesOf hints →
    sizeOf leaf < sizeOf hints
  | [], _, member => by simp [leavesOf] at member
  | first :: rest, leaf, member => by
    simp only [leavesOf, List.mem_append] at member
    simp only [List.cons.sizeOf_spec]
    rcases member with member | member
    · have := sizeOf_le_of_mem_leaves first member
      omega
    · have := sizeOf_lt_of_mem_leavesOf rest member
      omega
end

theorem mem_of_mem_distinct {hint : Hint} {hints : List Hint} (member : hint ∈ distinct hints) :
    hint ∈ hints := by
  have kept : ∀ (rest before : List Hint), hint ∈ rest.foldl
      (fun kept hint => if kept.any (· == hint) then kept else kept ++ [hint]) before →
      hint ∈ before ∨ hint ∈ rest := by
    intro rest
    induction rest with
    | nil => exact fun _ found => .inl found
    | cons first rest ih =>
      intro before found
      rcases ih _ found with found | found
      · dsimp only at found
        split at found
        · exact .inl found
        · rcases List.mem_append.mp found with found | found
          · exact .inl found
          · exact .inr (List.mem_singleton.mp found ▸ List.mem_cons_self)
      · exact .inr (List.mem_cons_of_mem _ found)
  simpa using kept hints [] member

/-- Generics ask for containers or class objects. -/
theorem genericShape_ne (origin : Origin) (arguments : List Hint) :
    (∀ inner validators, genericShape origin arguments ≠ .annotated inner validators) ∧
      ∀ members, genericShape origin arguments ≠ .union members := by
  unfold genericShape
  split <;> simp

theorem sizeOf_lt_of_leafShape_annotated {hint inner : Hint} {validators : List Validator}
    (shaped : hint.leafShape = .annotated inner validators) : sizeOf inner < sizeOf hint := by
  unfold leafShape at shaped
  split at shaped
  case h_11 =>
    simp only [Shape.annotated.injEq] at shaped
    simp only [annotated.sizeOf_spec, shaped.1]
    omega
  case h_6 => exact absurd shaped ((genericShape_ne _ _).1 _ _)
  case h_5 => split at shaped <;> simp at shaped
  all_goals simp at shaped

theorem leafShape_ne_union (hint : Hint) (members : List Hint) :
    hint.leafShape ≠ .union members := by
  intro shaped
  unfold leafShape at shaped
  split at shaped
  case h_6 => exact absurd shaped ((genericShape_ne _ _).2 _)
  case h_5 => split at shaped <;> simp at shaped
  all_goals simp at shaped

/-- The members of a flattened union are smaller than the hint. -/
theorem sizeOf_lt_of_shape_union {hint member : Hint} {members : List Hint}
    (shaped : hint.shape = .union members) (found : member ∈ members) :
    sizeOf member < sizeOf hint := by
  unfold shape at shaped
  split at shaped
  · rename_i given
    split at shaped
    · simp at shaped
    · split at shaped
      · simp at shaped
      · unfold unionShape at shaped
        split at shaped
        · simp at shaped
        · exact absurd shaped (leafShape_ne_union _ _)
        · simp only [Shape.union.injEq] at shaped
          subst shaped
          have := sizeOf_lt_of_mem_leavesOf given (mem_of_mem_distinct found)
          simp only [union.sizeOf_spec]
          omega
  · exact absurd shaped (leafShape_ne_union _ _)

/-- The hint inside a validated one is smaller than the hint. -/
theorem sizeOf_lt_of_shape_annotated {hint inner : Hint} {validators : List Validator}
    (shaped : hint.shape = .annotated inner validators) : sizeOf inner < sizeOf hint := by
  unfold shape at shaped
  split at shaped
  · rename_i given
    split at shaped
    · simp at shaped
    · split at shaped
      · simp at shaped
      · unfold unionShape at shaped
        split at shaped
        · simp at shaped
        · rename_i only distinctLeaves
          have inside : only ∈ leavesOf given :=
            mem_of_mem_distinct (by rw [distinctLeaves]; exact List.mem_singleton_self only)
          have := sizeOf_lt_of_mem_leavesOf given inside
          have := sizeOf_lt_of_leafShape_annotated shaped
          simp only [union.sizeOf_spec]
          omega
        · simp at shaped
  · exact sizeOf_lt_of_leafShape_annotated shaped

end Hint

/-! ### Checks of the outermost container only -/

/-- The check of a hint below the last level: containers without their contents, validated hints
without their validators, references not at all. -/
def Settings.shallowCheck (settings : Settings) (path : List Nat) (hint : Hint) :
    Except Refusal Check :=
  match settings.leafCheck hint.shape with
  | some check => .ok check
  | none =>
    match _shaped : hint.shape with
    | .unsupported obstacle => .error (hint.refusal path obstacle)
    | .never => .error (.unsupported hint path .misplacedNever)
    | .sequence container _ => .ok (settings.instanceCheck [container])
    | .mapping _ _ => .ok (settings.instanceCheck [.dict])
    | .fixedTuple _ => .ok (settings.instanceCheck [.tuple])
    | .annotated inner _ => settings.shallowCheck path inner
    | .union members => do
      let parts ← members.attach.mapM fun ⟨member, _⟩ => do
        return (0, ← settings.shallowCheck path member)
      return .anyOf (.ofList parts)
    | _ => .ok .always
termination_by sizeOf hint
decreasing_by
  · exact Hint.sizeOf_lt_of_shape_annotated _shaped
  · rename_i found
    exact Hint.sizeOf_lt_of_shape_union _shaped found

/-! ### Checks -/

/-- The number of levels that checks go down. -/
def maxDepth : Nat := 32

/-- The check of a hint that may go down the given number of levels. -/
def Settings.checkWithin (settings : Settings) : Nat → List Nat → Hint → Except Refusal Check
  | 0, path, hint => settings.shallowCheck path hint
  | levels + 1, path, hint =>
    match settings.leafCheck hint.shape with
    | some check => .ok check
    | none =>
      match hint.shape with
      | .unsupported obstacle => .error (hint.refusal path obstacle)
      | .never => .error (.unsupported hint path .misplacedNever)
      | .union members => do
        let parts ← members.zipIdx.mapM fun (member, number) => do
          return (number, ← settings.checkWithin levels (path ++ [number]) member)
        return .anyOf (.ofList parts)
      | .sequence container (some item) => do
        return .eachItem container (← settings.checkWithin levels (path ++ [0]) item)
          settings.sampling
      | .mapping key value => do
        let parts ← ([(key, 0), (value, 1)] : List (Option Hint × Nat)).filterMapM
          fun (side, number) => do
            match side with
            | none => return none
            | some hint =>
              return some (number, ← settings.checkWithin levels (path ++ [number]) hint)
        return .eachEntry (.ofList parts) settings.sampling
      | .fixedTuple items => do
        let parts ← (items.zipIdx.filter fun (item, _) => !item.isIgnorable).mapM
          fun (item, number) => do
            return (number, ← settings.checkWithin levels (path ++ [number]) item)
        return .tupleOf items.length (.ofList parts)
      | .annotated inner validators => do
        return .validated (← settings.checkWithin levels (path ++ [0]) inner) validators
      | .reference target =>
        .ok (.deferred target fun value random => do
          let hint ← Action.resolve target
          match settings.checkWithin levels [] hint with
          | .ok check => check.verdict value random
          | .error refusal =>
            throw (refusal.failure ("forward reference '" ++ target.name ++ "' ->") hint))
      | _ => .error (.noRule hint)

/-- The check of a hint. -/
def Settings.check (settings : Settings) (hint : Hint) : Except Refusal Check :=
  settings.checkWithin (maxDepth + 1) [] hint

/-! ### Remarks -/

/-- What is noticed on the way through a hint. -/
inductive Remark where
  /-- A hint written with an older name. -/
  | aliased (hint : Hint)
  /-- A hint below the last level. -/
  | cut (hint : Hint)
  /-- A hint that cannot be checked, where the way ends. -/
  | refused

namespace Hint

/-- The remark on a hint with an older name. -/
def aliasRemark (hint : Hint) : List Remark := if hint.isAlias then [.aliased hint] else []

/-- The remarks on a hint below the last level. -/
def shallowRemarks (hint : Hint) : List Remark :=
  .cut hint ::
    match _shaped : hint.shape with
    | .unsupported _ | .never => [.refused]
    | .annotated inner _ => inner.shallowRemarks
    | .union members =>
      if (members.mapM plainClass?).isSome then []
      else members.attach.flatMap fun ⟨member, _⟩ => member.shallowRemarks
    | _ => []
termination_by sizeOf hint
decreasing_by
  · exact sizeOf_lt_of_shape_annotated _shaped
  · rename_i found
    exact sizeOf_lt_of_shape_union _shaped found

/-- The remarks on a hint that may go down the given number of levels, in the order in which the
check is made. -/
def remarksWithin : Nat → Hint → List Remark
  | 0, hint => hint.aliasRemark ++ hint.shallowRemarks
  | levels + 1, hint =>
    hint.aliasRemark ++
      match hint.shape with
      | .unsupported _ | .never => [.refused]
      | .union members =>
        if (members.mapM plainClass?).isSome then [] else members.flatMap (remarksWithin levels)
      | .sequence _ item => item.toList.flatMap (remarksWithin levels)
      | .mapping key value => (key.toList ++ value.toList).flatMap (remarksWithin levels)
      | .fixedTuple items =>
        (items.filter fun item => !item.isIgnorable).flatMap (remarksWithin levels)
      | .annotated inner _ => remarksWithin levels inner
      | _ => []

/-- The remarks on a hint up to the first one that cannot be checked. -/
def remarks (hint : Hint) : List Remark :=
  (remarksWithin (maxDepth + 1) hint).takeWhile fun remark => !remark matches .refused

end Hint

/-! ### Fragments -/

/-- Something to say about a hint that does not keep it from being checked. -/
structure Warning where
  hint : String
  message : String
  deriving DecidableEq

def Warning.text (warning : Warning) : String := warning.hint ++ ": " ++ warning.message

/-- The warnings about a hint. -/
def Settings.warnings (settings : Settings) (hint : Hint) : List Warning :=
  if settings.warnsOfAliases then
    hint.remarks.filterMap fun
      | .aliased hint =>
        some ⟨hint.text, "deprecated typing alias; use the builtin generic instead"⟩
      | _ => none
  else []

/-- A check with the level of its text and the warnings about its hint. -/
structure Fragment where
  check : Check
  level : Nat
  warnings : List Warning

namespace Fragment

/-- The text of the check, with markers. -/
def code (fragment : Fragment) : String := fragment.check.code fragment.level

/-- The number of names that the text binds. -/
def locals (fragment : Fragment) : Nat := fragment.check.locals

/-- The names that the text looks up, in order. -/
def requires (fragment : Fragment) : List String :=
  fragment.check.lookups.eraseDups.mergeSort fun left right => decide (left ≤ right)

/-- The text of the check of a given value, with names numbered from `offset` on. -/
def render (fragment : Fragment) (value : String) (offset : Nat) : String :=
  Text.fillValue value (Text.nameMarkers offset fragment.code)

/-- A summary of the fragment. -/
def summary (fragment : Fragment) : String :=
  "Fragment \x7b code: " ++ Text.spelled fragment.code ++ ", locals: " ++
    toString fragment.locals ++ ", needs_random: " ++ toString fragment.check.needsRandom ++
    ", requires: " ++ Text.spelledList "\x7b" "\x7d" fragment.requires ++ " \x7d"

end Fragment

end CallGuard
