/-
Checks and searches as they go, each step granted by a clock. Names may be bound
to hints that refer to themselves or to each other, and a reference is followed
wherever it leads, so a check or a search might go on forever: then it is cut off
however many steps are granted. The clock says nothing else. It is the depth,
counted on the way down, that stops references from being followed; below the
last level it no longer grows, and there the hint gets smaller with each step. So
every check and every search comes to an end once enough steps are granted, as
the verdict and the search with a bounded number of levels do, and never follows
more than one reference for each level, one inside the other.
-/
import CallGuard.Proofs.Agreement

namespace CallGuard

open List

/-! ### Courses -/

/-- A step that may fail and may also be cut off. Along with the world goes the largest number of
references that have been followed one inside the other. -/
abbrev Course (Result : Type) := ExceptT Failure (StateT (World × Nat) Option) Result

namespace Course

variable {Result Other Item : Type} {limit : Nat}

/-- What has used up all steps it was granted. -/
def cutOff : Course Result := ExceptT.mk fun _ => none

/-- A step that comes to an end and follows no reference. -/
def ofAction (action : Action Result) : Course Result :=
  ExceptT.mk fun state =>
    let (outcome, later) := action.run.run state.1
    some (outcome, later, state.2)

/-- Looks up a reference inside the given number of others. -/
def follow (outer : Nat) (target : Reference) : Course Hint := do
  modify fun state => (state.1, max state.2 (outer + 1))
  ofAction (Action.resolve target)

/-- Once enough steps are granted, the course comes to the same end as the action. As long as no
more than `limit` references were followed one inside the other before, no more are. -/
def Completes (limit : Nat) (course : Nat → Course Result) (action : Action Result) : Prop :=
  ∀ world deepest, deepest ≤ limit → ∃ deepest' ≤ limit, ∃ enough, ∀ granted, enough ≤ granted →
    (course granted).run.run (world, deepest) =
      some ((action.run.run world).1, (action.run.run world).2, deepest')

theorem completes_ofAction (action : Action Result) :
    Completes limit (fun _ => ofAction action) action :=
  fun _ deepest few => ⟨deepest, few, 0, fun _ _ => rfl⟩

theorem completes_pure (value : Result) : Completes limit (fun _ => pure value) (pure value) :=
  fun _ deepest few => ⟨deepest, few, 0, fun _ _ => rfl⟩

theorem completes_throw (failure : Failure) :
    Completes limit (fun _ => (throw failure : Course Result)) (throw failure) :=
  fun _ deepest few => ⟨deepest, few, 0, fun _ _ => rfl⟩

/-- What comes to an end after one step comes to an end. -/
theorem completes_succ {course : Nat → Course Result} {action : Action Result}
    (completes : Completes limit (fun granted => course (granted + 1)) action) :
    Completes limit course action := by
  intro world deepest few
  obtain ⟨deepest', few', enough, ends⟩ := completes world deepest few
  refine ⟨deepest', few', enough + 1, fun granted more => ?_⟩
  obtain ⟨rest, rfl⟩ := Nat.exists_eq_add_of_le more
  rw [Nat.add_right_comm]
  exact ends _ (Nat.le_add_right _ _)

theorem completes_bind {course : Nat → Course Other} {action : Action Other}
    {next : Nat → Other → Course Result} {next' : Other → Action Result}
    (first : Completes limit course action)
    (rest : ∀ value, Completes limit (fun granted => next granted value) (next' value)) :
    Completes limit (fun granted => course granted >>= next granted) (action >>= next') := by
  intro world deepest few
  obtain ⟨middle, few, enough, ends⟩ := first world deepest few
  simp only [ExceptT.run_bind, StateT.run_bind]
  rcases ended : action.run.run world with ⟨failure | value, later⟩
  · refine ⟨middle, few, enough, fun granted more => ?_⟩
    rw [ends granted more, ended]
    rfl
  · obtain ⟨deepest', few', enough', ends'⟩ := rest value later middle few
    refine ⟨deepest', few', max enough enough', fun granted more => ?_⟩
    rw [ends granted (Nat.le_trans (Nat.le_max_left _ _) more), ended]
    exact ends' granted (Nat.le_trans (Nat.le_max_right _ _) more)

theorem completes_follow {outer : Nat} (target : Reference) (inside : outer < limit) :
    Completes limit (fun _ => follow outer target) (Action.resolve target) :=
  fun _ deepest few =>
    ⟨max deepest (outer + 1), Nat.max_le.mpr ⟨few, inside⟩, 0, fun _ _ => rfl⟩

variable {items : List Item} {ask : Nat → Item → Course Bool}

theorem completes_foldlM {step : Nat → Other → Item → Course Other}
    {step' : Other → Item → Action Other}
    (each : ∀ kept, ∀ item ∈ items,
      Completes limit (fun granted => step granted kept item) (step' kept item)) (kept : Other) :
    Completes limit (fun granted => items.foldlM (step granted) kept)
      (items.foldlM step' kept) := by
  induction items generalizing kept with
  | nil => exact completes_pure kept
  | cons first rest ih =>
    simp only [foldlM_cons]
    exact completes_bind (each kept first mem_cons_self) fun kept =>
      ih (fun kept item member => each kept item (mem_cons_of_mem _ member)) kept

theorem completes_allM
    {ask' : Item → Action Bool}
    (each : ∀ item ∈ items, Completes limit (fun granted => ask granted item) (ask' item)) :
    Completes limit (fun granted => items.allM (ask granted)) (items.allM ask') := by
  induction items with
  | nil => exact completes_pure true
  | cons first rest ih =>
    rw [forall_mem_cons] at each
    simp only [allM_cons]
    refine completes_bind each.1 fun answer => ?_
    cases answer with
    | true => exact ih each.2
    | false => exact completes_pure false

theorem completes_anyM
    {ask' : Item → Action Bool}
    (each : ∀ item ∈ items, Completes limit (fun granted => ask granted item) (ask' item)) :
    Completes limit (fun granted => items.anyM (ask granted)) (items.anyM ask') := by
  induction items with
  | nil => exact completes_pure false
  | cons first rest ih =>
    rw [forall_mem_cons] at each
    simp only [anyM_cons]
    refine completes_bind each.1 fun answer => ?_
    cases answer with
    | true => exact completes_pure true
    | false => exact ih each.2

theorem completes_findSomeM? {search : Nat → Item → Course (Option Other)}
    {search' : Item → Action (Option Other)}
    (each : ∀ item ∈ items, Completes limit (fun granted => search granted item) (search' item)) :
    Completes limit (fun granted => items.findSomeM? (search granted))
      (items.findSomeM? search') := by
  induction items with
  | nil => exact completes_pure none
  | cons first rest ih =>
    rw [forall_mem_cons] at each
    simp only [findSomeM?_cons]
    refine completes_bind each.1 fun found => ?_
    cases found with
    | none => exact ih each.2
    | some other => exact completes_pure (some other)

end Course

/-! ### Checks -/

/-- The slots and checks as a list. -/
def Parts.toList : Parts → List (Nat × Check)
  | nil => []
  | cons slot check rest => (slot, check) :: rest.toList

/-- The course of a check that stands at the given depth and inside the given number of references.
What a reference asks is only found out when it is followed. -/
def Check.course (settings : Settings) (granted depth outer : Nat) (check : Check) (value : Value)
    (random : UInt32) : Course Bool :=
  match granted with
  | 0 => .cutOff
  | granted + 1 =>
    match check with
    | .anyOf parts =>
      parts.toList.anyM fun part => part.2.course settings granted (depth + 1) outer value random
    | .eachItem container item sampling =>
      if value.isInstance container then
        (sampling.pick (value.items?.getD []) random).allM fun picked =>
          item.course settings granted (depth + 1) outer picked.2 random
      else pure false
    | .eachEntry sides sampling =>
      match value.entries? with
      | none => pure false
      | some entries =>
        (sampling.pick entries random).allM fun picked => sides.toList.allM fun side =>
          side.2.course settings granted (depth + 1) outer
            (if side.1 = 0 then picked.2.1 else picked.2.2) random
    | .tupleOf size items =>
      let contents := value.items?.getD []
      if value.isInstance .tuple && contents.length == size then
        items.toList.allM fun item =>
          match contents[item.1]? with
          | none => pure true
          | some content => item.2.course settings granted (depth + 1) outer content random
      else pure false
    | .validated inner validators => do
      if ← inner.course settings granted (depth + 1) outer value random then
        pure (validators.all fun validator => validator.accepts value)
      else pure false
    | .deferred target _ => do
      let hint ← Course.follow outer target
      match settings.checkWithin (maxDepth - depth) [] hint with
      | .ok check => check.course settings granted (depth + 1) (outer + 1) value random
      | .error refusal =>
        throw (refusal.failure ("forward reference '" ++ target.name ++ "' ->") hint)
    | leaf => .ofAction (leaf.verdict value random)

namespace Parts

variable {parts : List (Nat × Check)}

theorem toList_ofList : (ofList parts).toList = parts := by
  induction parts with
  | nil => rfl
  | cons first rest ih => rw [ofList, toList, ih]

theorem someHolds_ofList (value : Value) (random : UInt32) :
    (ofList parts).someHolds value random =
      parts.anyM fun part => part.2.verdict value random := by
  induction parts with
  | nil => rfl
  | cons first rest ih =>
    rw [ofList, someHolds, ih, anyM_cons]

theorem allHold_ofList (contents : Nat → Option Value) (random : UInt32) :
    (ofList parts).allHold contents random = parts.allM fun part =>
      match contents part.1 with
      | none => pure true
      | some content => part.2.verdict content random := by
  induction parts with
  | nil => rfl
  | cons first rest ih =>
    rw [ofList, allHold, ih, allM_cons]
    cases contents first.1 with
    | none => rfl
    | some content =>
      refine bind_congr fun answer => ?_
      cases answer <;> rfl

end Parts

open Course

/-- At the given depth and inside the given number of references, the check comes to an end with its
verdict. -/
def Check.Complete (settings : Settings) (limit depth outer : Nat) (check : Check) : Prop :=
  ∀ value random, Completes limit
    (fun granted => check.course settings granted depth outer value random)
    (check.verdict value random)

namespace Check

variable {settings : Settings} {limit depth outer : Nat} {parts : List (Nat × Check)}

theorem complete_anyOf
    (each : ∀ part ∈ parts, part.2.Complete settings limit (depth + 1) outer) :
    (anyOf (.ofList parts)).Complete settings limit depth outer := by
  intro value random
  refine completes_succ ?_
  rw [verdict, Parts.someHolds_ofList]
  simp only [course, Parts.toList_ofList]
  exact completes_anyM fun part member => each part member value random

theorem complete_eachItem {item : Check} (container : Class) (sampling : Sampling)
    (inside : item.Complete settings limit (depth + 1) outer) :
    (eachItem container item sampling).Complete settings limit depth outer := by
  intro value random
  refine completes_succ ?_
  rw [verdict]
  simp only [course]
  cases value.isInstance container with
  | true => exact completes_allM fun picked _ => inside picked.2 random
  | false => exact completes_pure false

theorem complete_eachEntry (sampling : Sampling)
    (each : ∀ part ∈ parts, part.2.Complete settings limit (depth + 1) outer) :
    (eachEntry (.ofList parts) sampling).Complete settings limit depth outer := by
  intro value random
  refine completes_succ ?_
  rw [verdict]
  simp only [course]
  cases value.entries? with
  | none => exact completes_pure false
  | some entries =>
    refine completes_allM fun picked _ => ?_
    rw [Parts.allHold_ofList]
    simp only [Parts.toList_ofList]
    exact completes_allM fun part member => each part member _ random

theorem complete_tupleOf (size : Nat)
    (each : ∀ part ∈ parts, part.2.Complete settings limit (depth + 1) outer) :
    (tupleOf size (.ofList parts)).Complete settings limit depth outer := by
  intro value random
  refine completes_succ ?_
  rw [verdict]
  simp only [course, Parts.toList_ofList, Parts.allHold_ofList]
  cases value.isInstance .tuple && (value.items?.getD []).length == size with
  | false => exact completes_pure false
  | true =>
    refine completes_allM fun part member => ?_
    cases (value.items?.getD [])[part.1]? with
    | none => exact completes_pure true
    | some content => exact each part member content random

theorem complete_validated {inner : Check} (validators : List Validator)
    (inside : inner.Complete settings limit (depth + 1) outer) :
    (validated inner validators).Complete settings limit depth outer := by
  intro value random
  refine completes_succ ?_
  rw [verdict]
  simp only [course]
  refine completes_bind (inside value random) fun answer => ?_
  cases answer <;> exact completes_pure _

end Check

namespace Settings

variable {settings : Settings} {limit depth outer : Nat}

theorem complete_of_single {check : Check} (single : check.Single) :
    check.Complete settings limit depth outer := by
  intro value random
  refine completes_succ ?_
  cases single <;> (simp only [Check.course]; exact completes_ofAction _)

/-- Below the last level the hint gets smaller with each step, and no reference is followed. -/
theorem complete_of_shallowCheck {path : List Nat} {hint : Hint} {check : Check}
    (made : settings.shallowCheck path hint = .ok check) (depth : Nat) :
    check.Complete settings limit depth outer := by
  have makes := makesShallow_of_shallowCheck made
  have lower {inner : Hint} (member : inner ∈ hint.shape.parts) : inner.height < hint.height :=
    (Hint.mem_parts member).2
  generalize hint.shape = shape at makes lower
  cases makes with
  | leaf found => exact complete_of_single (single_of_leafCheck found)
  | union _ each =>
    refine Check.complete_anyOf fun part inParts => ?_
    obtain ⟨member, inMembers, path, made⟩ := exists_linked_left each inParts
    have smaller := lower inMembers
    exact complete_of_shallowCheck made _
  | sequence _ _ | mapping _ _ | fixedTuple _ => exact complete_of_single (.instanceOf _)
  | annotated made =>
    have smaller := lower mem_cons_self
    exact complete_of_shallowCheck made _
  | reference _ => exact complete_of_single .always
termination_by hint.height

/-- The levels that are left and the depth make up all levels, so a reference that is followed is
inside fewer than there are levels. -/
theorem complete_of_checkWithin {levels : Nat} {path : List Nat} {hint : Hint} {check : Check}
    (made : settings.checkWithin levels path hint = .ok check)
    (whole : levels + depth = maxDepth + 1) (inside : outer ≤ depth) :
    check.Complete settings (maxDepth + 1) depth outer := by
  induction levels generalizing depth outer path hint check with
  | zero => exact complete_of_shallowCheck made depth
  | succ levels ih =>
    have deeper {path : List Nat} {inner : Hint} {check : Check}
        (made : settings.checkWithin levels path inner = .ok check) :
        check.Complete settings (maxDepth + 1) (depth + 1) outer :=
      ih made (by omega) (by omega)
    have makes := makes_of_checkWithin made
    clear made
    generalize hint.shape = shape at makes
    cases makes with
    | leaf found => exact complete_of_single (single_of_leafCheck found)
    | union _ each =>
      refine Check.complete_anyOf fun part inParts => ?_
      obtain ⟨member, -, path, made⟩ := exists_linked_left each inParts
      exact deeper made
    | sequence made => exact Check.complete_eachItem _ _ (deeper made)
    | key made | entry made =>
      exact Check.complete_eachEntry _ (forall_mem_singleton.mpr (deeper made))
    | both made made' =>
      exact Check.complete_eachEntry _
        (forall_mem_cons.mpr ⟨deeper made, forall_mem_singleton.mpr (deeper made')⟩)
    | fixedTuple each =>
      refine Check.complete_tupleOf _ fun part inParts => ?_
      obtain ⟨item, -, -, path, made⟩ := exists_linked_left each inParts
      exact deeper made
    | annotated made => exact Check.complete_validated _ (deeper made)
    | reference target =>
      have left : maxDepth - depth = levels := by omega
      intro value random
      refine completes_succ ?_
      rw [Check.verdict]
      simp only [Check.course, left]
      refine completes_bind (completes_follow target (by omega)) fun hint => ?_
      cases made : settings.checkWithin levels [] hint with
      | ok check => exact ih made (by omega) (by omega) value random
      | error refusal => exact completes_throw _

end Settings

/-! ### Searches -/

namespace Cause

/-- The better explanation of two. -/
def better (best : Option Cause) (cause : Cause) : Option Cause :=
  if best.isNone && !cause.culprits.isEmpty then some cause else best

/-- What the best explanation in the members of a union says about the union. -/
def ofBest (members : List Hint) (value : Value) : Option (Option Cause) → Option Cause
  | none => none
  | some (some cause) => some cause
  | some none => leaf (value.described ++ " not " ++ ", ".intercalate (members.map Hint.text))

/-- The course of a search at the given depth and inside the given number of references. -/
def course (settings : Settings) (random : UInt32) (granted depth outer : Nat) (hint : Hint)
    (value : Value) : Course (Option Cause) :=
  match granted with
  | 0 => .cutOff
  | granted + 1 =>
    if maxDepth < depth then
      match hint.shape with
      | .annotated inner _ => course settings random granted depth outer inner value
      | .union members => do
        return ofBest members value (← members.foldlM (fun best member => do
          match best with
          | none => return none
          | some best =>
            return (← course settings random granted depth outer member value).map (better best))
          (some none))
      | shape => .ofAction (ofLeaf settings hint shape value)
    else
      match hint.shape with
      | .union members => do
        return ofBest members value (← members.foldlM (fun best member => do
          match best with
          | none => return none
          | some best =>
            return (← course settings random granted (depth + 1) outer member value).map
              (better best)) (some none))
      | .sequence container (some item) =>
        match ofInstance settings container value with
        | some cause => return some cause
        | none =>
          (settings.sampling.pick (value.items?.getD []) random).findSomeM? fun picked => do
            return (← course settings random granted (depth + 1) outer item picked.2).map
              (nested (container.name ++ " index " ++ toString picked.1 ++ " item") picked.2)
      | .mapping key entry =>
        match ofInstance settings .dict value with
        | some cause => return some cause
        | none =>
          (settings.sampling.pick (value.entries?.getD []) random).findSomeM? fun picked => do
            let inKey ← match key with
              | none => pure none
              | some key => course settings random granted (depth + 1) outer key picked.2.1
            match inKey with
            | some cause => return some (nested "dict key" picked.2.1 cause)
            | none =>
              match entry with
              | none => return none
              | some entry =>
                return (← course settings random granted (depth + 1) outer entry picked.2.2).map
                  (nested ("dict key " ++ picked.2.1.shown ++ " value") picked.2.2)
      | .fixedTuple items =>
        match ofInstance settings .tuple value with
        | some cause => return some cause
        | none =>
          let contents := value.items?.getD []
          if contents.length ≠ items.length then
            return leaf (value.described ++ " length " ++ toString contents.length ++ " != " ++
              toString items.length)
          else
            (items.zip contents).zipIdx.findSomeM? fun picked => do
              return (← course settings random granted (depth + 1) outer picked.1.1 picked.1.2).map
                (nested ("tuple index " ++ toString picked.2 ++ " item") picked.1.2)
      | .reference target => do
        let hint ← Course.follow outer target
        course settings random granted (depth + 1) (outer + 1) hint value
      | .annotated inner validators => do
        match ← course settings random granted (depth + 1) outer inner value with
        | some cause => return some cause
        | none => return ofValidators validators value
      | shape => .ofAction (ofLeaf settings hint shape value)

variable {settings : Settings} {random : UInt32} {limit depth outer : Nat} {value : Value}

theorem ofSearches_eq (best : Option Cause) (searches : List (Action (Option Cause))) :
    ofSearches best searches = searches.foldlM (fun best search => do
      match best with
      | none => return none
      | some best => return (← search).map (better best)) (some best) := by
  have settled (searches : List (Action (Option Cause))) : searches.foldlM (fun best search => do
      match best with
      | none => return none
      | some best => return (← search).map (better best)) none =
        (pure none : Action (Option (Option Cause))) := by
    induction searches with
    | nil => rfl
    | cons first rest ih =>
      rw [foldlM_cons]
      exact ih
  induction searches generalizing best with
  | nil => rfl
  | cons first rest ih =>
    rw [ofSearches, foldlM_cons, bind_assoc]
    refine bind_congr fun found => ?_
    rw [pure_bind]
    cases found with
    | none => exact (settled rest).symm
    | some cause => exact ih _

/-- A union comes to an end if its members do. -/
theorem completes_union {Member : Type} {members : List Hint} {listed : List Member}
    {ask : Nat → Member → Course (Option Cause)} {ask' : Member → Action (Option Cause)}
    (each : ∀ member ∈ listed, Completes limit (fun granted => ask granted member) (ask' member)) :
    Completes limit (fun granted => do
      return ofBest members value (← listed.foldlM (fun best member => do
        match best with
        | none => return none
        | some best => return (← ask granted member).map (better best)) (some none)))
      (ofUnion members value (listed.map ask')) := by
  rw [ofUnion, ofSearches_eq, foldlM_map]
  refine completes_bind (completes_foldlM (fun best member inside => ?_) _) fun found => ?_
  · cases best with
    | none => exact completes_pure none
    | some best => exact completes_bind (each member inside) fun _ => completes_pure _
  · rcases found with _ | _ | cause <;> exact completes_pure _

/-- As for checks, the hint gets smaller with each step below the last level. -/
theorem completes_findShallow (below : maxDepth < depth) (hint : Hint) :
    Completes limit (fun granted => course settings random granted depth outer hint value)
      (findShallow settings hint value) := by
  refine completes_succ ?_
  simp only [course, if_pos below]
  cases shaped : hint.shape with
  | annotated inner validators =>
    rw [findShallow_annotated shaped]
    have smaller := Hint.sizeOf_lt_of_shape_annotated shaped
    exact completes_findShallow below inner
  | union members =>
    rw [findShallow_union shaped]
    refine completes_union fun member inMembers => ?_
    have smaller := Hint.sizeOf_lt_of_shape_union shaped inMembers
    exact completes_findShallow below member
  | _ =>
    rw [findShallow_leaf shaped (by rintro _ ⟨⟩) (by rintro _ _ ⟨⟩)]
    exact completes_ofAction _
termination_by sizeOf hint

/-- As for checks, the levels that are left and the depth make up all levels. -/
theorem completes_findWithin {levels : Nat} (whole : levels + depth = maxDepth + 1)
    (inside : outer ≤ depth) (hint : Hint) :
    Completes (maxDepth + 1) (fun granted => course settings random granted depth outer hint value)
      (findWithin settings random levels hint value) := by
  induction levels generalizing depth outer hint value with
  | zero => exact completes_findShallow (by omega) hint
  | succ levels ih =>
    have deeper (inner : Hint) (content : Value) : Completes (maxDepth + 1)
        (fun granted => course settings random granted (depth + 1) outer inner content)
        (findWithin settings random levels inner content) :=
      ih (by omega) (by omega) inner
    have above : ¬ maxDepth < depth := by omega
    refine completes_succ ?_
    rw [findWithin]
    simp only [course, if_neg above]
    cases shaped : hint.shape with
    | union members => exact completes_union fun member _ => deeper member value
    | sequence container item =>
      cases item with
      | none => exact completes_ofAction _
      | some item =>
        dsimp only
        cases ofInstance settings container value with
        | some cause => exact completes_pure _
        | none =>
          exact completes_findSomeM? fun picked _ =>
            completes_bind (deeper item picked.2) fun _ => completes_pure _
    | mapping key entry =>
      dsimp only
      cases ofInstance settings .dict value with
      | some cause => exact completes_pure _
      | none =>
        refine completes_findSomeM? fun picked _ => ?_
        cases key with
        | none =>
          simp only [pure_bind]
          cases entry with
          | none => exact completes_pure none
          | some entry =>
            exact completes_bind (deeper entry picked.2.2) fun _ => completes_pure _
        | some key =>
          refine completes_bind (deeper key picked.2.1) fun inKey => ?_
          cases inKey with
          | some cause => exact completes_pure _
          | none =>
            cases entry with
            | none => exact completes_pure none
            | some entry =>
              exact completes_bind (deeper entry picked.2.2) fun _ => completes_pure _
    | fixedTuple items =>
      dsimp only
      cases ofInstance settings .tuple value with
      | some cause => exact completes_pure _
      | none =>
        by_cases differs : (value.items?.getD []).length ≠ items.length
        · simp only [if_pos differs]
          exact completes_pure _
        · simp only [if_neg differs]
          exact completes_findSomeM? fun picked _ =>
            completes_bind (deeper picked.1.1 picked.1.2) fun _ => completes_pure _
    | reference target =>
      exact completes_bind (completes_follow target (by omega)) fun hint =>
        ih (by omega) (by omega) hint
    | annotated inner validators =>
      refine completes_bind (deeper inner value) fun found => ?_
      cases found <;> exact completes_pure _
    | _ => exact completes_ofAction _

end Cause

/-! ### Cycles -/

/-- Whatever names are bound to, also to hints that refer to themselves or to each other: granted
enough steps, the course of a check ends with its verdict, and that of a search with what the search
finds. Neither follows more than `maxDepth + 1` references one inside the other. -/
theorem Settings.cycles_end (settings : Settings) (hint : Hint) (value : Value) (random : UInt32)
    (world : World) :
    (∀ check, settings.check hint = .ok check → ∃ deepest ≤ maxDepth + 1, ∃ enough,
      ∀ granted, enough ≤ granted →
        (check.course settings granted 0 0 value random).run.run (world, 0) =
          some (((check.verdict value random).run.run world).1,
            ((check.verdict value random).run.run world).2, deepest)) ∧
    ∃ deepest ≤ maxDepth + 1, ∃ enough, ∀ granted, enough ≤ granted →
      (Cause.course settings random granted 0 0 hint value).run.run (world, 0) =
        some (((Cause.find settings random hint value).run.run world).1,
          ((Cause.find settings random hint value).run.run world).2, deepest) := by
  have searched : Completes (maxDepth + 1)
      (fun granted => Cause.course settings random granted 0 0 hint value)
      (Cause.findWithin settings random (maxDepth + 1) hint value) :=
    Cause.completes_findWithin (by rfl) (Nat.le_refl 0) hint
  refine ⟨fun check made => ?_, searched world 0 (Nat.zero_le _)⟩
  have complete : check.Complete settings (maxDepth + 1) 0 0 :=
    complete_of_checkWithin made rfl (Nat.le_refl 0)
  exact complete value random world 0 (Nat.zero_le _)

/-- A name that is bound to its own reference. -/
theorem Settings.cycles_end_of_own_reference :
    let target : Reference := ⟨0, "A", ⟨101, "main"⟩⟩
    let world := World.initial.define target.scope "A" (.reference target)
    let settings := Settings.standard ⟨102, .fixed 5⟩
    world.binding? target.scope target.name = some (.reference target) ∧
      ∃ check, settings.check (.reference target) = .ok check ∧ ∃ deepest ≤ maxDepth + 1,
        ∃ enough, ∀ granted, enough ≤ granted →
          (check.course settings granted 0 0 .null 7).run.run (world, 0) =
            some (((check.verdict .null 7).run.run world).1,
              ((check.verdict .null 7).run.run world).2, deepest) := by
  intro target world settings
  exact ⟨rfl, _, rfl, (settings.cycles_end (.reference target) .null 7 world).1 _ rfl⟩

end CallGuard
