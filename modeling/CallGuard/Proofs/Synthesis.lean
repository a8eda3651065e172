/-
What checks are made of. The check of a hint is given by the shape of the hint
and the checks of its parts; the file says so once for hints above the last
level and once for those below it, and later proofs go by that. Every hint in
which nothing stands in the way has a check, at whatever depth it nests.
-/
import CallGuard.Proofs.Structure
import Mathlib.Data.List.Forall2

namespace CallGuard

open List

/-! ### Making things one by one -/

section Making

variable {Error Item Made : Type} {make : Item → Except Error Made}

theorem bind_eq_ok {Other : Type} {first : Except Error Made} {next : Made → Except Error Other}
    {result : Other} (done : (first >>= next) = .ok result) :
    ∃ made, first = .ok made ∧ next made = .ok result := by
  cases first with
  | error failure => cases done
  | ok made => exact ⟨made, rfl, done⟩

theorem exists_bind_eq_ok {Other : Type} {first : Except Error Made}
    {next : Made → Except Error Other} (made : ∃ result, first = .ok result)
    (rest : ∀ result, ∃ other, next result = .ok other) :
    ∃ other, (first >>= next) = .ok other := by
  obtain ⟨result, rfl⟩ := made
  exact rest result

theorem forall₂_of_mapM {items : List Item} {made : List Made} (done : items.mapM make = .ok made) :
    List.Forall₂ (fun item result => make item = .ok result) items made := by
  induction items generalizing made with
  | nil =>
    cases done
    exact .nil
  | cons first rest ih =>
    rw [mapM_cons] at done
    obtain ⟨result, head, done⟩ := bind_eq_ok done
    obtain ⟨results, tail, done⟩ := bind_eq_ok done
    cases done
    exact .cons head (ih tail)

theorem exists_mapM_eq_ok {items : List Item}
    (each : ∀ item ∈ items, ∃ result, make item = .ok result) :
    ∃ made, items.mapM make = .ok made := by
  induction items with
  | nil => exact ⟨[], rfl⟩
  | cons first rest ih =>
    obtain ⟨result, head⟩ := each first mem_cons_self
    obtain ⟨results, tail⟩ :=
      ih fun item member => each item (mem_cons_of_mem _ member)
    refine ⟨result :: results, ?_⟩
    rw [mapM_cons, head, tail]
    rfl

theorem exists_filterMapM_eq_ok {find : Item → Except Error (Option Made)} {items : List Item}
    (each : ∀ item ∈ items, ∃ result, find item = .ok result) :
    ∃ made, items.filterMapM find = .ok made := by
  have loop (kept : List Made) : ∃ made, filterMapM.loop find items kept = .ok made := by
    induction items generalizing kept with
    | nil => exact ⟨kept.reverse, rfl⟩
    | cons first rest ih =>
      obtain ⟨head, tail⟩ := forall_mem_cons.mp each
      refine exists_bind_eq_ok head fun result => ?_
      cases result with
      | none => exact ih tail kept
      | some found => exact ih tail (found :: kept)
  exact loop []

end Making

/-- Checks without parts. -/
inductive Check.Single : Check → Prop
  | always : Single always
  | isNull : Single isNull
  | instanceOf (classes : List Class) : Single (instanceOf classes)
  | classObject (base : Option Class) : Single (classObject base)
  | structural (protocol : Protocol) : Single (structural protocol)
  | oneOf (values : List Value) : Single (oneOf values)

namespace Settings

variable {settings : Settings}

/-- A shape has a check by itself only if the check has no parts. -/
theorem single_of_leafCheck {shape : Shape} {check : Check}
    (found : settings.leafCheck shape = some check) : check.Single := by
  unfold leafCheck at found
  split at found
  case h_4 =>
    obtain ⟨classes, -, rfl⟩ := Option.map_eq_some_iff.mp found
    constructor
  case h_10 => cases found
  all_goals
    cases found
    constructor

/-! ### Checks above the last level -/

/-- What the check of a reference does: it looks the reference up and asks what the hint found
asks. -/
def follow (settings : Settings) (levels : Nat) (target : Reference) (value : Value)
    (random : UInt32) : Action Bool := do
  let hint ← Action.resolve target
  match settings.checkWithin levels [] hint with
  | .ok check => check.verdict value random
  | .error refusal => throw (refusal.failure ("forward reference '" ++ target.name ++ "' ->") hint)

/-- The checks that shapes give rise to, where parts may go down the given number of levels. -/
inductive Makes (settings : Settings) (levels : Nat) : Shape → Check → Prop
  | leaf {shape : Shape} {check : Check} (found : settings.leafCheck shape = some check) :
    Makes settings levels shape check
  | union {members : List Hint} {parts : List (Nat × Check)}
    (mixed : members.mapM Hint.plainClass? = none)
    (each : List.Forall₂ (fun member part =>
      ∃ path, settings.checkWithin levels path member = .ok part.2) members parts) :
    Makes settings levels (.union members) (.anyOf (.ofList parts))
  | sequence {container : Class} {item : Hint} {check : Check} {path : List Nat}
    (made : settings.checkWithin levels path item = .ok check) :
    Makes settings levels (.sequence container (some item))
      (.eachItem container check settings.sampling)
  | key {key : Hint} {check : Check} {path : List Nat}
    (made : settings.checkWithin levels path key = .ok check) :
    Makes settings levels (.mapping (some key) none)
      (.eachEntry (.ofList [(0, check)]) settings.sampling)
  | entry {entry : Hint} {check : Check} {path : List Nat}
    (made : settings.checkWithin levels path entry = .ok check) :
    Makes settings levels (.mapping none (some entry))
      (.eachEntry (.ofList [(1, check)]) settings.sampling)
  | both {key entry : Hint} {check check' : Check} {path path' : List Nat}
    (made : settings.checkWithin levels path key = .ok check)
    (made' : settings.checkWithin levels path' entry = .ok check') :
    Makes settings levels (.mapping (some key) (some entry))
      (.eachEntry (.ofList [(0, check), (1, check')]) settings.sampling)
  | fixedTuple {items : List Hint} {parts : List (Nat × Check)}
    (each : List.Forall₂ (fun item part =>
        part.1 = item.2 ∧ ∃ path, settings.checkWithin levels path item.1 = .ok part.2)
      (items.zipIdx.filter fun item => !item.1.isIgnorable) parts) :
    Makes settings levels (.fixedTuple items) (.tupleOf items.length (.ofList parts))
  | annotated {inner : Hint} {validators : List Validator} {check : Check} {path : List Nat}
    (made : settings.checkWithin levels path inner = .ok check) :
    Makes settings levels (.annotated inner validators) (.validated check validators)
  | reference (target : Reference) :
    Makes settings levels (.reference target) (.deferred target (settings.follow levels target))

theorem makes_of_checkWithin {levels : Nat} {path : List Nat} {hint : Hint} {check : Check}
    (made : settings.checkWithin (levels + 1) path hint = .ok check) :
    settings.Makes levels hint.shape check := by
  cases leaf : settings.leafCheck hint.shape with
  | some found =>
    rw [checkWithin, leaf] at made
    cases made
    exact .leaf leaf
  | none =>
    rw [checkWithin, leaf] at made
    cases shaped : hint.shape with
    | unsupported _ | never =>
      rw [shaped] at made
      cases made
    | ignorable | null | instanceOf _ | subclassOf _ | structural _ | literal _ =>
      rw [shaped] at leaf
      cases leaf
    | union members =>
      rw [shaped] at made leaf
      obtain ⟨parts, each, done⟩ := bind_eq_ok made
      cases done
      refine .union (Option.map_eq_none_iff.mp leaf) ?_
      rw [← zipIdx_map_fst 0 members, forall₂_map_left_iff]
      refine (forall₂_of_mapM each).imp fun item part pair => ?_
      obtain ⟨check, inside, done⟩ := bind_eq_ok pair
      cases done
      exact ⟨_, inside⟩
    | sequence container item =>
      rw [shaped] at made leaf
      cases item with
      | none => cases leaf
      | some item =>
        obtain ⟨inner, inside, done⟩ := bind_eq_ok made
        cases done
        exact .sequence inside
    | mapping key entry =>
      rw [shaped] at made leaf
      obtain ⟨parts, sides, done⟩ := bind_eq_ok made
      cases done
      rcases key with _ | key <;> rcases entry with _ | entry
      · cases leaf
      · obtain ⟨found, made, sides⟩ := bind_eq_ok sides
        cases made
        obtain ⟨found, made, sides⟩ := bind_eq_ok sides
        obtain ⟨check, inside, made⟩ := bind_eq_ok made
        cases made
        cases sides
        exact .entry inside
      · obtain ⟨found, made, sides⟩ := bind_eq_ok sides
        obtain ⟨check, inside, made⟩ := bind_eq_ok made
        cases made
        cases sides
        exact .key inside
      · obtain ⟨found, made, sides⟩ := bind_eq_ok sides
        obtain ⟨check, inside, made⟩ := bind_eq_ok made
        cases made
        obtain ⟨found, made, sides⟩ := bind_eq_ok sides
        obtain ⟨check, inside', made⟩ := bind_eq_ok made
        cases made
        cases sides
        exact .both inside inside'
    | fixedTuple items =>
      rw [shaped] at made
      obtain ⟨parts, each, done⟩ := bind_eq_ok made
      cases done
      refine .fixedTuple ((forall₂_of_mapM each).imp fun item part pair => ?_)
      obtain ⟨check, inside, done⟩ := bind_eq_ok pair
      cases done
      exact ⟨rfl, _, inside⟩
    | annotated inner validators =>
      rw [shaped] at made
      obtain ⟨check, inside, done⟩ := bind_eq_ok made
      cases done
      exact .annotated inside
    | reference target =>
      rw [shaped] at made
      cases made
      exact .reference target

/-! ### Checks below the last level -/

/-- The checks that shapes give rise to below the last level. -/
inductive MakesShallow (settings : Settings) : Shape → Check → Prop
  | leaf {shape : Shape} {check : Check} (found : settings.leafCheck shape = some check) :
    MakesShallow settings shape check
  | union {members : List Hint} {parts : List (Nat × Check)}
    (mixed : members.mapM Hint.plainClass? = none)
    (each : List.Forall₂ (fun member part =>
      ∃ path, settings.shallowCheck path member = .ok part.2) members parts) :
    MakesShallow settings (.union members) (.anyOf (.ofList parts))
  | sequence (container : Class) (item : Hint) :
    MakesShallow settings (.sequence container (some item)) (settings.instanceCheck [container])
  | mapping (key entry : Option Hint) :
    MakesShallow settings (.mapping key entry) (settings.instanceCheck [.dict])
  | fixedTuple (items : List Hint) :
    MakesShallow settings (.fixedTuple items) (settings.instanceCheck [.tuple])
  | annotated {inner : Hint} {validators : List Validator} {check : Check} {path : List Nat}
    (made : settings.shallowCheck path inner = .ok check) :
    MakesShallow settings (.annotated inner validators) check
  | reference (target : Reference) : MakesShallow settings (.reference target) .always

theorem makesShallow_of_shallowCheck {path : List Nat} {hint : Hint} {check : Check}
    (made : settings.shallowCheck path hint = .ok check) :
    settings.MakesShallow hint.shape check := by
  cases leaf : settings.leafCheck hint.shape with
  | some found =>
    rw [shallowCheck, leaf] at made
    cases made
    exact .leaf leaf
  | none =>
    rw [shallowCheck, leaf] at made
    dsimp only at made
    split at made
    case h_1 => cases made
    case h_2 => cases made
    case h_3 container item shaped =>
      cases made
      rw [shaped] at leaf ⊢
      cases item with
      | none => cases leaf
      | some item => exact .sequence container item
    case h_4 key entry shaped =>
      cases made
      rw [shaped]
      exact .mapping key entry
    case h_5 items shaped =>
      cases made
      rw [shaped]
      exact .fixedTuple items
    case h_6 inner validators shaped =>
      rw [shaped]
      exact .annotated made
    case h_7 members shaped =>
      obtain ⟨parts, each, done⟩ := bind_eq_ok made
      cases done
      rw [shaped] at leaf ⊢
      refine .union (Option.map_eq_none_iff.mp leaf) ?_
      rw [← attach_map_subtype_val members, forall₂_map_left_iff]
      refine (forall₂_of_mapM each).imp fun item part pair => ?_
      obtain ⟨check, inside, done⟩ := bind_eq_ok pair
      cases done
      exact ⟨_, inside⟩
    case h_8 =>
      cases made
      cases shaped : hint.shape with
      | reference target => exact .reference target
      | _ => simp_all [leafCheck]

/-! ### Checks exist -/

/-- A hint has a check below the last level if what its check is put together from has one. -/
theorem exists_shallowCheck_of_shape (path : List Nat) {hint : Hint}
    (notUnsupported : ∀ obstacle, hint.shape ≠ .unsupported obstacle)
    (notNever : hint.shape ≠ .never)
    (validated : ∀ inner validators, hint.shape = .annotated inner validators →
      ∃ check, settings.shallowCheck path inner = .ok check)
    (joined : ∀ members, hint.shape = .union members → members.mapM Hint.plainClass? = none →
      ∀ member ∈ members, ∃ check, settings.shallowCheck path member = .ok check) :
    ∃ check, settings.shallowCheck path hint = .ok check := by
  rw [shallowCheck]
  cases leaf : settings.leafCheck hint.shape with
  | some found => exact ⟨found, rfl⟩
  | none =>
    dsimp only
    split
    case h_1 obstacle shaped => exact absurd shaped (notUnsupported obstacle)
    case h_2 shaped => exact absurd shaped notNever
    case h_6 inner validators shaped => exact validated inner validators shaped
    case h_7 members shaped =>
      refine exists_bind_eq_ok (exists_mapM_eq_ok ?_) fun _ => ⟨_, rfl⟩
      rintro ⟨member, inMembers⟩ -
      rw [shaped] at leaf
      exact exists_bind_eq_ok
        (joined members shaped (Option.map_eq_none_iff.mp leaf) member inMembers) fun _ => ⟨_, rfl⟩
    all_goals exact ⟨_, rfl⟩

theorem exists_shallowCheck (path : List Nat) {hint : Hint} (supported : hint.obstacle = none) :
    ∃ check, settings.shallowCheck path hint = .ok check := by
  obtain ⟨notUnsupported, notNever⟩ := Hint.shape_supported supported
  refine exists_shallowCheck_of_shape path notUnsupported notNever ?_ ?_
  · intro inner validators shaped
    have inParts : inner ∈ hint.shape.parts := shaped ▸ mem_singleton_self inner
    exact exists_shallowCheck path (Hint.obstacle_of_mem_parts supported inParts)
  · intro members shaped _ member inMembers
    have inParts : member ∈ hint.shape.parts := shaped ▸ inMembers
    exact exists_shallowCheck path (Hint.obstacle_of_mem_parts supported inParts)
termination_by hint.height
decreasing_by
  all_goals exact (Hint.mem_parts inParts).2

end Settings

/-- The parts of a shape that its check looks at: not those parts of a tuple that admit
everything. -/
def Shape.tested : Shape → List Hint
  | .fixedTuple items => items.filter fun item => !item.isIgnorable
  | shape => shape.parts

theorem Shape.mem_parts_of_mem_tested {shape : Shape} {part : Hint} (member : part ∈ shape.tested) :
    part ∈ shape.parts := by
  cases shape with
  | fixedTuple items => exact (mem_filter.mp member).1
  | _ => exact member

theorem Shape.mem_tested {shape : Shape} {part : Hint} (member : part ∈ shape.parts)
    (wanted : part.isIgnorable = false) : part ∈ shape.tested := by
  cases shape with
  | fixedTuple items => exact mem_filter.mpr ⟨member, by rw [wanted]; rfl⟩
  | _ => exact member

namespace Settings

variable {settings : Settings}

/-- A hint has a check if the parts that the check looks at have one. -/
theorem exists_checkWithin_of_tested {levels : Nat} (path : List Nat) {hint : Hint}
    (notUnsupported : ∀ obstacle, hint.shape ≠ .unsupported obstacle)
    (notNever : hint.shape ≠ .never)
    (tested : ∀ path, ∀ inner ∈ hint.shape.tested,
      ∃ check, settings.checkWithin levels path inner = .ok check) :
    ∃ check, settings.checkWithin (levels + 1) path hint = .ok check := by
  rw [checkWithin]
  cases leaf : settings.leafCheck hint.shape with
  | some found => exact ⟨found, rfl⟩
  | none =>
    cases shaped : hint.shape with
    | unsupported obstacle => exact absurd shaped (notUnsupported obstacle)
    | never => exact absurd shaped notNever
    | ignorable | null | instanceOf _ | subclassOf _ | structural _ | literal _ =>
      rw [shaped] at leaf
      cases leaf
    | union members =>
      rw [shaped] at tested
      refine exists_bind_eq_ok (exists_mapM_eq_ok fun item member => ?_) fun _ => ⟨_, rfl⟩
      exact exists_bind_eq_ok (tested _ _ (fst_mem_of_mem_zipIdx member)) fun _ => ⟨_, rfl⟩
    | sequence container item =>
      rw [shaped] at tested leaf
      cases item with
      | none => cases leaf
      | some item => exact exists_bind_eq_ok (tested _ _ mem_cons_self) fun _ => ⟨_, rfl⟩
    | mapping key entry =>
      rw [shaped] at tested leaf
      refine exists_bind_eq_ok (exists_filterMapM_eq_ok ?_) fun _ => ⟨_, rfl⟩
      rw [forall_mem_cons, forall_mem_singleton]
      constructor
      · cases key with
        | none => exact ⟨none, rfl⟩
        | some key =>
          exact exists_bind_eq_ok (tested _ _ (mem_append_left _ mem_cons_self))
            fun _ => ⟨_, rfl⟩
      · cases entry with
        | none => exact ⟨none, rfl⟩
        | some entry =>
          exact exists_bind_eq_ok (tested _ _ (mem_append_right _ mem_cons_self))
            fun _ => ⟨_, rfl⟩
    | fixedTuple items =>
      rw [shaped] at tested
      refine exists_bind_eq_ok (exists_mapM_eq_ok fun item member => ?_) fun _ => ⟨_, rfl⟩
      obtain ⟨numbered, kept⟩ := mem_filter.mp member
      have inItems := fst_mem_of_mem_zipIdx numbered
      exact exists_bind_eq_ok (tested _ _ (mem_filter.mpr ⟨inItems, kept⟩)) fun _ => ⟨_, rfl⟩
    | annotated inner validators =>
      rw [shaped] at tested
      exact exists_bind_eq_ok (tested _ _ mem_cons_self) fun _ => ⟨_, rfl⟩
    | reference target => exact ⟨_, rfl⟩

/-- Every hint in which nothing stands in the way has a check. -/
theorem exists_checkWithin (levels : Nat) (path : List Nat) {hint : Hint}
    (supported : hint.obstacle = none) :
    ∃ check, settings.checkWithin levels path hint = .ok check := by
  induction levels generalizing path hint with
  | zero => exact exists_shallowCheck path supported
  | succ levels ih =>
    obtain ⟨notUnsupported, notNever⟩ := Hint.shape_supported supported
    refine exists_checkWithin_of_tested path notUnsupported notNever fun path inner member => ?_
    exact ih path (Hint.obstacle_of_mem_parts supported (Shape.mem_parts_of_mem_tested member))

/-! ### Settings that matter -/

section Congruence

variable {settings' : Settings}

theorem instanceCheck_congr (strict : settings.strict = settings'.strict) (classes : List Class) :
    settings.instanceCheck classes = settings'.instanceCheck classes := by
  have accepted : settings.accepted = settings'.accepted := by
    funext c
    rw [Settings.accepted, Settings.accepted, strict]
  rw [instanceCheck, instanceCheck, accepted]

theorem leafCheck_congr (strict : settings.strict = settings'.strict) (shape : Shape) :
    settings.leafCheck shape = settings'.leafCheck shape := by
  have instances : settings.instanceCheck = settings'.instanceCheck :=
    funext (instanceCheck_congr strict)
  unfold leafCheck
  rw [instances]

theorem shallowCheck_congr (strict : settings.strict = settings'.strict) (path : List Nat)
    (hint : Hint) : settings.shallowCheck path hint = settings'.shallowCheck path hint := by
  rw [shallowCheck, shallowCheck, leafCheck_congr strict]
  cases settings'.leafCheck hint.shape with
  | some check => rfl
  | none =>
    dsimp only
    split
    case h_3 => rw [instanceCheck_congr strict]
    case h_4 => rw [instanceCheck_congr strict]
    case h_5 => rw [instanceCheck_congr strict]
    case h_6 inner validators shaped =>
      have smaller := Hint.sizeOf_lt_of_shape_annotated shaped
      exact shallowCheck_congr strict path inner
    case h_7 members shaped =>
      have each : (fun member : { member // member ∈ members } => do
            return (0, ← settings.shallowCheck path member.1)) =
          (fun member => do return (0, ← settings'.shallowCheck path member.1)) := by
        funext member
        have smaller := Hint.sizeOf_lt_of_shape_union shaped member.2
        rw [shallowCheck_congr strict path member.1]
      exact congrArg (members.attach.mapM · >>= fun parts => pure (Check.anyOf (.ofList parts)))
        each
    all_goals rfl
termination_by sizeOf hint

theorem checkWithin_congr (strict : settings.strict = settings'.strict)
    (sampling : settings.sampling = settings'.sampling) (levels : Nat) (path : List Nat)
    (hint : Hint) :
    settings.checkWithin levels path hint = settings'.checkWithin levels path hint := by
  induction levels generalizing path hint with
  | zero => exact shallowCheck_congr strict path hint
  | succ levels ih =>
    have same : settings.checkWithin levels = settings'.checkWithin levels := by
      funext path hint
      exact ih path hint
    rw [checkWithin, checkWithin, leafCheck_congr strict, same, sampling]

/-- Checks depend on the settings only as far as the imprint for checks goes. -/
theorem check_congr (same : settings.checkImprint = settings'.checkImprint) (hint : Hint) :
    settings.check hint = settings'.check hint :=
  checkWithin_congr (congrArg Prod.fst same) (congrArg (fun imprint => imprint.2.1) same) _ _ hint

end Congruence

end Settings

end CallGuard
