/-
Checks and searches for a cause agree. The two are separate recursions over a
hint: one makes a tree of tests, the other goes through the hint and the value
once more. Whenever a check comes to a verdict on an ordinary value, the search
comes to an end as well, and it finds a cause if and only if the verdict was
negative. If only instances of classes derived from `dict` are excepted, a
search that comes to an end still finds a cause whenever the verdict was
negative. This holds at every depth, also below the last level, and through
references, and it holds for the search in a hint that is alike to the one that
the check was made for.
-/
import CallGuard.Proofs.Comparison
import CallGuard.Proofs.Instance
import CallGuard.Proofs.Shape
import CallGuard.Proofs.Synthesis

namespace CallGuard

open List

namespace Cause

variable {trusted faithful : Prop} {meaning : Reference → Option Hint} {settings : Settings}
  {random : UInt32} {value : Value}

open CallGuard.Action

/-! ### Searches without parts -/

theorem leaf_ne_none (text : String) : leaf text ≠ none := Option.some_ne_none _

variable {c : Class} {hint : Hint}

theorem ofInstance_eq_none_iff :
    ofInstance settings c value = none ↔ settings.admits c value = true := by
  rw [Settings.admits, ofInstance]
  split
  · exact iff_of_true rfl ‹_›
  · exact iff_of_false (leaf_ne_none _) ‹_›

theorem ofClassObject_eq_none_iff {base : Option Class} :
    ofClassObject base value = none ↔ value.isClassObject base = true := by
  unfold ofClassObject
  split
  · exact iff_of_true rfl ‹_›
  · refine iff_of_false ?_ ‹_›
    split <;> exact leaf_ne_none _

theorem ofLiterals_eq_none_iff {values : List Value} :
    ofLiterals hint values value = none ↔ values.any value.isLiteral = true := by
  rw [ofLiterals]
  split
  · exact iff_of_true rfl ‹_›
  · exact iff_of_false (leaf_ne_none _) ‹_›

theorem ofValidators_eq_none_iff {validators : List Validator} :
    ofValidators validators value = none ↔
      (validators.all fun validator => validator.accepts value) = true := by
  unfold ofValidators
  cases found : validators.find? fun validator => !validator.accepts value with
  | none =>
    refine iff_of_true rfl (all_eq_true.mpr fun validator member => ?_)
    simpa using find?_eq_none.mp found validator member
  | some validator =>
    refine iff_of_false (leaf_ne_none _) fun all => ?_
    have accepted := all_eq_true.mp all validator (mem_of_find?_eq_some found)
    have rejected := find?_some found
    rw [accepted] at rejected
    cases rejected

theorem instance_agrees (c : Class) :
    Agrees trusted faithful meaning ((settings.instanceCheck [c]).verdict value random)
      (pure (ofInstance settings c value)) := by
  rw [Settings.instanceCheck_verdict, any_cons, any_nil, Bool.or_false]
  exact agrees_pure ofInstance_eq_none_iff

variable {shape : Shape} {parts : List (Nat × Check)} {searches : List (Action (Option Cause))}

variable {check : Check} {member : Hint} {search : Hint → Action (Option Cause)}

/-- The check for a shape without parts agrees with the search in one that is alike. -/
theorem ofLeaf_agrees {shape' : Shape} (hint : Hint)
    (alike : shape.Alike meaning shape') (found : settings.leafCheck shape = some check)
    (notUnion : ∀ members, shape ≠ .union members) :
    Agrees trusted faithful meaning (check.verdict value random)
      (ofLeaf settings hint shape' value) := by
  cases alike with
  | unsupported _ _ | fixedTuple _ | reference _ | annotated _ _ | never => cases found
  | union each => exact absurd rfl (notUnion _)
  | ignorable =>
    cases found
    exact agrees_pure (iff_of_true rfl rfl)
  | null =>
    cases found
    refine agrees_pure ?_
    cases value with
    | null => exact iff_of_true rfl rfl
    | _ => exact iff_of_false (leaf_ne_none _) Bool.false_ne_true
  | instanceOf c =>
    cases found
    exact instance_agrees c
  | sequence items =>
    cases items with
    | none =>
      cases found
      exact instance_agrees _
    | some _ => cases found
  | mapping keys entries =>
    cases keys with
    | some _ => cases found
    | none =>
      cases entries with
      | none =>
        cases found
        exact instance_agrees .dict
      | some _ => cases found
  | subclassOf base =>
    cases found
    exact agrees_pure ofClassObject_eq_none_iff
  | structural protocol =>
    cases found
    refine agrees_ask fun answer => ?_
    cases answer with
    | true => exact returns_pure (iff_of_true rfl rfl)
    | false => exact returns_pure (iff_of_false (leaf_ne_none _) Bool.false_ne_true)
  | literal each =>
    cases found
    refine agrees_pure (ofLiterals_eq_none_iff.trans ?_)
    rw [Value.any_isLiteral_eq each]

/-! ### Searches in unions -/

/-- The searches in the members of a union agree with the checks of the members, asked until one
holds. -/
theorem ofSearches_agrees (each : List.Forall₂ (fun part search =>
      Agrees trusted faithful meaning (part.2.verdict value random) search) parts searches)
    (best : Option Cause) :
    Agrees trusted faithful meaning ((Parts.ofList parts).someHolds value random)
      (ofSearches best searches) := by
  induction each generalizing best with
  | nil => exact agrees_pure (iff_of_false (Option.some_ne_none _) Bool.false_ne_true)
  | cons head _ ih =>
    rw [Parts.ofList, Parts.someHolds, ofSearches]
    exact agrees_or head (fun cause => ih _) (ih best).asks (returns_pure rfl)

theorem ofUnion_agrees (each : List.Forall₂ (fun part search =>
      Agrees trusted faithful meaning (part.2.verdict value random) search) parts searches)
    (members : List Hint) :
    Agrees trusted faithful meaning ((Parts.ofList parts).someHolds value random)
      (ofUnion members value searches) := by
  refine (ofSearches_agrees each none).bind fun found => ?_
  rcases found with _ | _ | cause
  · exact returns_pure (iff_of_true rfl rfl)
  · exact returns_pure (iff_of_false (leaf_ne_none _) (Option.some_ne_none _))
  · exact returns_pure (iff_of_false (Option.some_ne_none _) (Option.some_ne_none _))

/-! ### Unions of plain classes -/

/-- One test for several classes comes to asking for one class after the other. -/
theorem instanceCheck_eq_someHolds (classes : List Class) :
    (settings.instanceCheck classes).verdict value random =
      (Parts.ofList (classes.map fun c => (0, settings.instanceCheck [c]))).someHolds value
        random := by
  rw [Settings.instanceCheck_verdict]
  induction classes with
  | nil => rfl
  | cons first rest ih =>
    rw [map_cons, Parts.ofList, Parts.someHolds, Settings.instanceCheck_verdict, pure_bind,
      ← ih, any_cons, any_cons, any_nil, Bool.or_false]
    cases settings.admits first value <;> rfl

theorem shape_of_plainClass (plain : member.plainClass? = some c) :
    member.shape = .ignorable ∨ member.shape = .null ∨ member.shape = .instanceOf c := by
  cases member with
  | null => exact .inr (.inl rfl)
  | instanceOf c' =>
    cases plain
    by_cases all : c = .object
    · exact .inl (if_pos all)
    · exact .inr (.inr (if_neg all))
  | _ => cases plain

theorem eq_of_plainClass {member member' : Hint}
    (alike : Hint.Alike meaning member member') (plain : member.plainClass? = some c) :
    member = member' := by
  cases alike with
  | null | instanceOf _ => rfl
  | _ => cases plain

theorem ofLeaf_plain (plain : member.plainClass? = some c)
    (nulls : faithful → value.FreeOf .noneType) :
    Agrees trusted faithful meaning ((settings.instanceCheck [c]).verdict value random)
      (ofLeaf settings member member.shape value) := by
  cases member with
  | instanceOf c' =>
    cases plain
    by_cases all : c = .object
    · rw [Settings.instanceCheck_verdict, all, any_cons, settings.admits_object]
      exact agrees_pure (iff_of_true rfl rfl)
    · have shaped : (Hint.instanceOf c).shape = .instanceOf c := if_neg all
      rw [shaped]
      exact instance_agrees c
  | null =>
    cases plain
    rw [Settings.instanceCheck_verdict, any_cons, any_nil, Bool.or_false,
      settings.admits_eq_isInstance (by decide) (by decide)]
    refine agrees_pure_of (fun nothing => ?_) fun known holds => ?_
    · cases value with
      | null => rfl
      | _ => exact absurd nothing (leaf_ne_none _)
    · rw [(nulls known).isInstance_noneType_iff.mp holds]
      rfl
  | _ => cases plain

/-- One test for all the classes of a union agrees with the searches in its members. -/
theorem ofUnion_plain {members members' : List Hint} {classes : List Class}
    (plain : members.mapM Hint.plainClass? = some classes)
    (alike : List.Forall₂ (Hint.Alike meaning) members members')
    (nulls : faithful → value.FreeOf .noneType)
    (searches : ∀ member c, member.plainClass? = some c →
      search member = ofLeaf settings member member.shape value) :
    Agrees trusted faithful meaning ((settings.instanceCheck classes).verdict value random)
      (ofUnion members' value (members'.map search)) := by
  rw [instanceCheck_eq_someHolds]
  refine ofUnion_agrees ?_ members'
  rw [forall₂_map_left_iff, forall₂_map_right_iff]
  refine forall₂_transfer (Hint.forall₂_of_mapM_plainClass plain) alike
    (forall₂_same.mpr fun c _ => (rfl : c = c)) ?_ |>.flip
  rintro member - member' c _ link rfl plain
  cases eq_of_plainClass link plain
  show Agrees trusted faithful meaning _ (search member)
  rw [searches member c plain]
  exact ofLeaf_plain plain nulls

/-! ### Below the last level -/

theorem findShallow_union {members : List Hint}
    (shaped : hint.shape = .union members) :
    findShallow settings hint value =
      ofUnion members value (members.map fun member => findShallow settings member value) := by
  rw [findShallow]
  split <;> simp_all

theorem findShallow_annotated {hint inner : Hint} {validators : List Validator}
    (shaped : hint.shape = .annotated inner validators) :
    findShallow settings hint value = findShallow settings inner value := by
  rw [findShallow]
  split <;> simp_all

theorem findShallow_leaf (shaped : hint.shape = shape)
    (notUnion : ∀ members, shape ≠ .union members)
    (notAnnotated : ∀ inner validators, shape ≠ .annotated inner validators) :
    findShallow settings hint value = ofLeaf settings hint shape value := by
  subst shaped
  rw [findShallow]
  split
  · exact absurd ‹_› (notAnnotated _ _)
  · exact absurd ‹_› (notUnion _)
  · rfl

theorem findShallow_plain (plain : member.plainClass? = some c) :
    findShallow settings member value = ofLeaf settings member member.shape value := by
  rcases shape_of_plainClass plain with shaped | shaped | shaped <;>
    rw [findShallow_leaf shaped nofun nofun, shaped]

/-- Below the last level, a check agrees with the search in a hint alike to its own. -/
theorem shallowCheck_agrees {path : List Nat} {twin hint : Hint} {check : Check}
    (alike : Hint.Alike meaning twin hint) (made : settings.shallowCheck path twin = .ok check)
    (nulls : faithful → value.FreeOf .noneType) :
    Agrees trusted faithful meaning (check.verdict value random)
      (findShallow settings hint value) := by
  have makes := Settings.makesShallow_of_shallowCheck made
  have shapes := alike.shape
  have parts {inner : Hint} (member : inner ∈ twin.shape.parts) : inner.height < twin.height :=
    (Hint.mem_parts member).2
  generalize twin.shape = shape at makes shapes parts
  generalize shaped : hint.shape = shape' at shapes
  cases makes with
  | leaf found =>
    have shapes' := shapes
    cases shapes with
    | union alikes =>
      obtain ⟨classes, plain, rfl⟩ := Option.map_eq_some_iff.mp found
      rw [findShallow_union shaped]
      exact ofUnion_plain plain alikes nulls fun _ _ => findShallow_plain
    | annotated _ _ => cases found
    | _ =>
      rw [findShallow_leaf shaped nofun nofun]
      exact ofLeaf_agrees hint shapes' found nofun
  | union mixed each =>
    cases shapes with | union alikes =>
    rw [findShallow_union shaped]
    refine ofUnion_agrees ?_ _
    rw [forall₂_map_right_iff]
    refine forall₂_transfer each alikes (forall₂_same.mpr fun part _ => (rfl : part = part)) ?_
      |>.flip
    rintro member inMembers member' part _ link rfl ⟨path, made⟩
    have smaller := parts inMembers
    exact shallowCheck_agrees link made nulls
  | sequence container item =>
    cases shapes
    rw [findShallow_leaf shaped nofun nofun]
    exact instance_agrees container
  | mapping key entry =>
    cases shapes
    rw [findShallow_leaf shaped nofun nofun]
    exact instance_agrees .dict
  | fixedTuple items =>
    cases shapes
    rw [findShallow_leaf shaped nofun nofun]
    exact instance_agrees .tuple
  | annotated made =>
    cases shapes with | annotated inside _ =>
    rw [findShallow_annotated shaped]
    have smaller := parts mem_cons_self
    exact shallowCheck_agrees inside made nulls
  | reference target =>
    cases shapes
    rw [findShallow_leaf shaped nofun nofun]
    exact agrees_pure (iff_of_true rfl rfl)
termination_by twin.height

/-! ### Above the last level -/

variable {levels : Nat}

theorem findWithin_leaf (shaped : hint.shape = shape)
    (found : settings.leafCheck shape = some check) (notUnion : ∀ members, shape ≠ .union members)
    (notMapping : ∀ key entry, shape ≠ .mapping key entry) :
    findWithin settings random (levels + 1) hint value = ofLeaf settings hint shape value := by
  rw [findWithin, shaped]
  cases shape with
  | union members => exact absurd rfl (notUnion members)
  | mapping key entry => exact absurd rfl (notMapping key entry)
  | sequence container item =>
    cases item with
    | none => rfl
    | some _ => cases found
  | fixedTuple _ | reference _ | annotated _ _ => cases found
  | _ => rfl

theorem findWithin_plain (plain : member.plainClass? = some c) :
    findWithin settings random levels member value = ofLeaf settings member member.shape value := by
  cases levels with
  | zero => exact findShallow_plain plain
  | succ levels =>
    rcases shape_of_plainClass plain with shaped | shaped | shaped <;>
      rw [findWithin_leaf shaped rfl nofun nofun, shaped]

/-- Nothing is found in a hint that admits everything. -/
theorem findWithin_of_isIgnorable (ignorable : hint.isIgnorable = true) :
    findWithin settings random levels hint value = pure none := by
  have shaped := Hint.shape_of_isIgnorable ignorable
  cases levels with
  | zero => exact findShallow_leaf shaped nofun nofun
  | succ levels => exact findWithin_leaf shaped rfl nofun nofun

/-- An instance test before other questions. -/
theorem guarded_agrees {ask : Action Bool} {search : Action (Option Cause)} {c : Class}
    {holds : Bool} (instances : settings.admits c value = holds)
    (agree : holds = true → Agrees trusted faithful meaning ask search) :
    Agrees trusted faithful meaning (if holds then ask else pure false)
      (match ofInstance settings c value with
        | some cause => pure (some cause)
        | none => search) := by
  subst instances
  cases found : ofInstance settings c value with
  | none =>
    have holds := ofInstance_eq_none_iff.mp found
    rw [if_pos holds]
    exact agree holds
  | some cause =>
    have fails : ¬ settings.admits c value = true := by
      rw [← ofInstance_eq_none_iff, found]
      exact Option.some_ne_none _
    rw [if_neg fails]
    exact agrees_pure (iff_of_false (Option.some_ne_none _) Bool.false_ne_true)

theorem nothing_agrees {Item Found : Type} {items : List Item}
    {search : Item → Action (Option Found)} (nothing : ∀ item, search item = pure none) :
    Agrees trusted faithful meaning (pure true) (items.findSomeM? search) := by
  induction items with
  | nil => exact agrees_pure (iff_of_true rfl rfl)
  | cons first rest ih =>
    rw [findSomeM?_cons, nothing, pure_bind]
    exact ih

theorem leafCheck_agrees (shapes : shape.Alike meaning hint.shape)
    (found : settings.leafCheck shape = some check) (nulls : faithful → value.FreeOf .noneType) :
    Agrees trusted faithful meaning (check.verdict value random)
      (findWithin settings random (levels + 1) hint value) := by
  generalize shaped : hint.shape = shape' at shapes
  have shapes' := shapes
  cases shapes with
  | unsupported _ _ | fixedTuple _ | reference _ | annotated _ _ | never => cases found
  | ignorable | null | instanceOf _ | subclassOf _ | structural _ | literal _ =>
    rw [findWithin_leaf shaped rfl (by rintro _ ⟨⟩) (by rintro _ _ ⟨⟩)]
    exact ofLeaf_agrees hint shapes' found (by rintro _ ⟨⟩)
  | union alikes =>
    obtain ⟨classes, plain, rfl⟩ := Option.map_eq_some_iff.mp found
    rw [findWithin, shaped]
    exact ofUnion_plain plain alikes nulls fun _ _ => findWithin_plain
  | sequence items =>
    cases items with
    | some _ => cases found
    | none =>
      rw [findWithin_leaf shaped rfl (by rintro _ ⟨⟩) (by rintro _ _ ⟨⟩)]
      exact ofLeaf_agrees hint shapes' found (by rintro _ ⟨⟩)
  | mapping keys entries =>
    cases keys with
    | some _ => cases found
    | none =>
      cases entries with
      | some _ => cases found
      | none =>
        cases found
        have verdict : (settings.instanceCheck [.dict]).verdict value random =
            if settings.admits .dict value then pure true else pure false := by
          rw [Settings.instanceCheck_verdict, any_cons, any_nil, Bool.or_false]
          cases settings.admits .dict value <;> rfl
        rw [findWithin, shaped, verdict]
        exact guarded_agrees rfl fun _ => nothing_agrees fun _ => pure_bind _ _

/-! ### Entries and items -/

theorem entries_agrees {ask : Nat × Value × Value → Action Bool}
    {search : Nat × Value × Value → Action (Option Cause)}
    (dictionaries : trusted ∨ faithful → value.FreeOf .dict)
    (each : ∀ picked, picked.2.1 ∈ value.parts ∧ picked.2.2 ∈ value.parts →
      Agrees trusted faithful meaning (ask picked) (search picked)) :
    Agrees trusted faithful meaning (match value.entries? with
        | none => pure false
        | some entries => (settings.sampling.pick entries random).allM ask)
      (match ofInstance settings .dict value with
        | some cause => pure (some cause)
        | none => (settings.sampling.pick (value.entries?.getD []) random).findSomeM? search) := by
  have instances := settings.admits_eq_isInstance (c := .dict) (by decide) (by decide) value
  cases found : value.entries? with
  | some entries =>
    have holds : value.isInstance .dict = true := by
      cases value with
      | dict identity contents => rfl
      | _ => cases found
    exact guarded_agrees (instances.trans holds) fun _ => agrees_allM fun picked member =>
      each picked (Value.mem_parts_of_entries found (Sampling.mem_of_mem_pick member))
  | none =>
    cases holds : value.isInstance .dict with
    | false =>
      show Agrees trusted faithful meaning (if false then pure true else pure false) _
      exact guarded_agrees (instances.trans holds) nofun
    | true =>
      -- An instance of a class derived from `dict`: rejected, and nothing is found.
      have derived : ¬ value.FreeOf .dict := by
        intro free
        rw [free.isInstance_dict, found] at holds
        cases holds
      refine agrees_of_quiet quiet_pure ?_ (fun known => derived (dictionaries (.inl known)))
        fun known => derived (dictionaries (.inr known))
      rw [ofInstance_eq_none_iff.mpr (instances.trans holds)]
      exact upholds_findSomeM? trivial fun picked member =>
        absurd (Sampling.mem_of_mem_pick member) not_mem_nil

/-- The part for the item in a slot is asked about that item; items that everything is admitted
for have no part. -/
theorem allHold_agrees (make : Hint → Check → Prop) (find : Hint → Value → Action (Option Cause))
    (describe : Nat → Value → Cause → Cause) {items items' : List Hint} {contents : List Value}
    {lookup : Nat → Option Value} {number : Nat}
    (alikes : List.Forall₂ (Hint.Alike meaning) items items')
    (sizes : contents.length = items'.length)
    (located : ∀ index, lookup (number + index) = contents[index]?)
    (each : List.Forall₂ (fun item part => part.1 = item.2 ∧ make item.1 part.2)
      ((items.zipIdx number).filter fun item => !item.1.isIgnorable) parts)
    (nothing : ∀ item content, item.isIgnorable = true → find item content = pure none)
    (agree : ∀ item item' check content, content ∈ contents → Hint.Alike meaning item item' →
      make item check →
        Agrees trusted faithful meaning (check.verdict content random) (find item' content)) :
    Agrees trusted faithful meaning ((Parts.ofList parts).allHold lookup random)
      (((items'.zip contents).zipIdx number).findSomeM? fun entry => do
        return (← find entry.1.1 entry.1.2).map (describe entry.2 entry.1.2)) := by
  induction alikes generalizing contents parts number with
  | nil =>
    cases each
    exact agrees_pure (iff_of_true rfl rfl)
  | @cons item item' rest rest' head _ ih =>
    obtain ⟨content, contents, rfl⟩ := exists_cons_of_length_eq_add_one sizes
    have first : lookup number = some content := located 0
    have later (index : Nat) : lookup (number + 1 + index) = contents[index]? := by
      rw [Nat.add_assoc, Nat.add_comm 1 index]
      exact located (index + 1)
    have agree' (item item' : Hint) (check : Check) (content' : Value)
        (member : content' ∈ contents) :=
      agree item item' check content' (mem_cons_of_mem _ member)
    rw [zip_cons_cons, zipIdx_cons, findSomeM?_cons]
    rw [zipIdx_cons] at each
    cases ignorable : item.isIgnorable with
    | true =>
      rw [filter_cons_of_neg (by simp [ignorable])] at each
      rw [nothing item' content (head.isIgnorable_eq ▸ ignorable)]
      exact ih (Nat.succ.inj sizes) later each agree'
    | false =>
      rw [filter_cons_of_pos (by simp [ignorable])] at each
      cases each with | @cons _ made _ _ part others =>
      obtain ⟨slot, check⟩ := made
      obtain ⟨rfl, made⟩ := part
      rw [Parts.ofList, Parts.allHold, first]
      refine agrees_and ((agree item item' check content mem_cons_self head made).map _)
        ?_ fun _ => returns_pure (Option.some_ne_none _)
      exact ih (Nat.succ.inj sizes) later others agree'

/-! ### References -/

/-- What a reference asks agrees with the search in the hint that it stands for. -/
theorem agrees_follow {target target' : Reference}
    (denoted : meaning target = meaning target') (quiet : ∀ hint, Quiet meaning (search hint))
    (agree : ∀ hint check, settings.checkWithin levels [] hint = .ok check →
      Agrees trusted faithful meaning (check.verdict value random) (search hint)) :
    Agrees trusted faithful meaning (settings.follow levels target value random)
      (do search (← resolve target')) := by
  have made {before after : World} {holds : Bool} (steady : before.denotes = meaning)
      (ended : (settings.follow levels target value random).Ends before holds after) :
      ∃ hint check middle, meaning target' = some hint ∧
        settings.checkWithin levels [] hint = .ok check ∧ middle.denotes = meaning ∧
          (check.verdict value random).Ends middle holds after := by
    obtain ⟨hint, middle, ended, rest⟩ := ends_bind.mp ended
    obtain ⟨found, steady'⟩ := ended.denotes
    rw [steady, denoted] at found
    cases made : settings.checkWithin levels [] hint with
    | error refusal =>
      rw [made] at rest
      exact absurd rest not_ends_throw
    | ok check =>
      rw [made] at rest
      exact ⟨hint, check, middle, found, made, steady'.trans steady, rest⟩
  refine ⟨quiet_bind (quiet_resolve target) fun hint => ?_,
    quiet_bind (quiet_resolve target') quiet, ?_, ?_⟩
  · cases made : settings.checkWithin levels [] hint with
    | error refusal => exact quiet_throw (refusal.failure_ne_violation _ _)
    | ok check => exact (agree hint check made).asks
  · intro known before before' after after' holds steady steady' ended ended'
    obtain ⟨hint, check, middle, found, made, steady, rest⟩ := made steady ended
    obtain ⟨hint', middle', ended', rest'⟩ := ends_bind.mp ended'
    obtain ⟨found', same⟩ := ended'.denotes
    rw [steady', found] at found'
    cases found'
    exact (agree hint check made).sound known steady (same.trans steady') rest rest'
  · intro known before after holds steady ended
    obtain ⟨hint, check, middle, found, made, steady, rest⟩ := made steady ended
    refine returns_bind (returns_resolve found) fun hint' same => ?_
    rw [same]
    exact (agree hint check made).complete known steady rest

/-! ### Agreement -/

/-- A check agrees with the search in a hint alike to its own, at every level. -/
theorem checkWithin_agrees {path : List Nat} {twin hint : Hint}
    (alike : Hint.Alike meaning twin hint)
    (made : settings.checkWithin levels path twin = .ok check) :
    Agrees (value.FreeOf .dict) value.Ordinary meaning (check.verdict value random)
      (findWithin settings random levels hint value) := by
  induction levels generalizing path twin hint check value with
  | zero => exact shallowCheck_agrees alike made And.right
  | succ levels ih =>
    have makes := Settings.makes_of_checkWithin made
    have shapes := alike.shape
    have known {container : Class} {item : Option Hint}
        (shaped : twin.shape = .sequence container item) := Hint.container_of_shape shaped
    have dictionaries : value.FreeOf .dict ∨ value.Ordinary → value.FreeOf .dict
      | .inl free => free
      | .inr ordinary => ordinary.1
    have inside {content : Value} {item item' : Hint} {path : List Nat} {check : Check}
        (inParts : content ∈ value.parts) (alike : Hint.Alike meaning item item')
        (made : settings.checkWithin levels path item = .ok check) :
        Agrees (value.FreeOf .dict) value.Ordinary meaning (check.verdict content random)
          (findWithin settings random levels item' content) :=
      (ih alike made).weaken (fun free => free.part inParts) fun ordinary => ordinary.part inParts
    generalize twin.shape = shape at makes shapes known
    clear made
    have shapes' := shapes
    generalize shaped : hint.shape = shape' at shapes
    cases makes with
    | leaf found => exact leafCheck_agrees shapes' found And.right
    | union mixed each =>
      cases shapes with | union alikes =>
      rw [findWithin, shaped]
      refine ofUnion_agrees ?_ _
      rw [forall₂_map_right_iff]
      refine forall₂_transfer each alikes
        (forall₂_same.mpr fun part _ => (rfl : part = part)) ?_ |>.flip
      rintro member inMembers member' part _ link rfl ⟨path, made⟩
      exact ih link made
    | sequence made =>
      cases shapes with | sequence items =>
      cases items with | some item =>
      rw [findWithin, shaped, Check.verdict]
      refine guarded_agrees (settings.admits_container (known rfl) value) fun _ => ?_
      refine agrees_allM fun picked member => ?_
      have inParts := Value.mem_parts_of_items (Sampling.mem_of_mem_pick member)
      exact (inside inParts item made).map _
    | key made =>
      cases shapes with | mapping keys entries =>
      cases keys with | some key =>
      cases entries
      rw [findWithin, shaped, Check.verdict]
      refine entries_agrees dictionaries fun picked inParts => ?_
      exact agrees_and (inside inParts.1 key made)
        (agrees_pure (iff_of_true rfl rfl)) fun _ => returns_pure (Option.some_ne_none _)
    | entry made =>
      cases shapes with | mapping keys entries =>
      cases entries with | some entry =>
      cases keys
      rw [findWithin, shaped, Check.verdict]
      refine entries_agrees dictionaries fun picked inParts => ?_
      dsimp only
      rw [pure_bind]
      exact ((inside inParts.2 entry made).map _).last
    | both made made' =>
      cases shapes with | mapping keys entries =>
      cases keys with | some key =>
      cases entries with | some entry =>
      rw [findWithin, shaped, Check.verdict]
      refine entries_agrees dictionaries fun picked inParts => ?_
      refine agrees_and (inside inParts.1 key made) ?_ fun _ => returns_pure (Option.some_ne_none _)
      exact ((inside inParts.2 entry made').map _).last
    | fixedTuple each =>
      cases shapes with | @fixedTuple _ items' alikes =>
      rw [findWithin, shaped, Check.verdict]
      simp only [Bool.and_eq_true, ite_and]
      refine guarded_agrees (settings.admits_container (by decide) value) fun _ => ?_
      rw [alikes.length_eq]
      by_cases sizes : (value.items?.getD []).length = items'.length
      · rw [if_pos (beq_iff_eq.mpr sizes), if_neg (not_not_intro sizes)]
        refine allHold_agrees
          (fun item check => ∃ path, settings.checkWithin levels path item = .ok check)
          (findWithin settings random levels)
          (fun index => nested ("tuple index " ++ toString index ++ " item"))
          alikes sizes (fun index => ?_) each (fun _ _ => findWithin_of_isIgnorable) ?_
        · rw [Nat.zero_add]
        · rintro item item' check content member link ⟨path, made⟩
          exact inside (Value.mem_parts_of_items member) link made
      · rw [if_neg (mt beq_iff_eq.mp sizes), if_pos sizes]
        exact agrees_pure (iff_of_false (leaf_ne_none _) Bool.false_ne_true)
    | annotated made =>
      cases shapes with | annotated inner each =>
      rw [findWithin, shaped, Check.verdict]
      refine agrees_and (ih inner made) ?_ fun cause => returns_pure (Option.some_ne_none _)
      refine agrees_pure (ofValidators_eq_none_iff.trans ?_)
      rw [Validator.all_accepts_eq each]
    | reference target =>
      cases shapes with | reference link =>
      rw [findWithin, shaped, Check.verdict]
      refine agrees_follow link.2.2 (findWithin_quiet levels) fun found check made => ?_
      exact ih (.refl found) made

/-- If the check of a hint comes to a verdict on an ordinary value, the search for a cause that is
made after it succeeds, and it finds a cause if and only if the verdict was negative. -/
theorem find_eq_none_iff_verdict {hint : Hint} {check : Check} {before after : World} {holds : Bool}
    (made : settings.check hint = .ok check) (ordinary : value.Ordinary)
    (ended : (check.verdict value random).Ends before holds after) :
    ∃ cause last, (find settings random hint value).Ends after cause last ∧
      (cause = none ↔ holds = true) := by
  have agree : Agrees (value.FreeOf .dict) value.Ordinary before.denotes
      (check.verdict value random) (find settings random hint value) :=
    checkWithin_agrees (.refl hint) made
  obtain ⟨cause, last, ended', -, same⟩ :=
    agree.complete ordinary rfl ended after (agree.asks.steady rfl ended)
  exact ⟨cause, last, ended', same⟩

theorem find_in_nested_list :
    let settings : Settings := ⟨true, .full, true, false, ⟨102, .fixed 0⟩⟩
    let value : Value := .list 0 [.int 1, .list 1 [.str 2 "a"]]
    ∃ check after, settings.check (.reference nestedIntegers) = .ok check ∧ value.Ordinary ∧
      (check.verdict value 0).Ends nestedWorld false after ∧
      ∃ cause last, (find settings 0 (.reference nestedIntegers) value).Ends after cause last ∧
        (cause = none ↔ false = true) := by
  intro settings value
  have inner : (Value.list 1 [.str 2 "a"]).Ordinary :=
    Value.ordinary_of_parts nofun
      (List.forall_mem_singleton.mpr (Value.ordinary_of_parts nofun nofun))
  have ordinary : value.Ordinary :=
    Value.ordinary_of_parts nofun (List.forall_mem_cons.mpr
      ⟨Value.ordinary_of_parts nofun nofun, List.forall_mem_singleton.mpr inner⟩)
  obtain ⟨check, made⟩ : ∃ check, settings.check (.reference nestedIntegers) = .ok check := ⟨_, rfl⟩
  have ended : ∃ after, (check.verdict value 0).Ends nestedWorld false after := by
    cases made
    exact ⟨_, rfl⟩
  obtain ⟨after, ended⟩ := ended
  exact ⟨check, after, made, ordinary, ended, find_eq_none_iff_verdict made ordinary ended⟩

end Cause

end CallGuard
