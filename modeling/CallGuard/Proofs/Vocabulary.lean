/-
The words of a check. A hint brings classes, literals and the names of protocols,
validators and references into its check, and nothing else comes in but built-in
classes. So if all that is inside a hint belongs to a vocabulary, then so does
all that its check is written with, and that of every hint that is the same.
-/
import CallGuard.Proofs.Regularity
import CallGuard.Proofs.Transparency

namespace CallGuard

open List

variable {words : Vocabulary}

/-! ### Hints and shapes -/

/-- What a hint itself brings in belongs to the vocabulary. -/
def Hint.OwnWithin (words : Vocabulary) : Hint → Prop
  | instanceOf c => words.classes c
  | structural protocol => words.texts protocol.name
  | reference target => words.texts target.name
  | annotated _ validators => ∀ validator ∈ validators, words.texts validator.text
  | literal values => ∀ value ∈ values, words.literals value
  | _ => True

/-- Everything inside the hint belongs to the vocabulary. -/
def Hint.Within (words : Vocabulary) (hint : Hint) : Prop :=
  ∀ inner : Hint, inner.Inside hint → inner.OwnWithin words

/-- What a shape itself brings into a check belongs to the vocabulary. -/
def Shape.Within (words : Vocabulary) : Shape → Prop
  | .instanceOf c => words.classes c
  | .union members => ∀ member ∈ members, member.OwnWithin words
  | .sequence container _ => words.classes container
  | .subclassOf base => ∀ c ∈ base, words.classes c
  | .structural protocol => words.texts protocol.name
  | .reference target => words.texts target.name
  | .annotated _ validators => ∀ validator ∈ validators, words.texts validator.text
  | .literal values => ∀ value ∈ values, words.literals value
  | _ => True

namespace Hint

theorem within_genericShape (origin : Origin) {arguments : List Hint}
    (each : ∀ argument ∈ arguments, argument.OwnWithin words) :
    (genericShape origin arguments).Within words := by
  have container : words.classes origin.kind := words.builtin _ (by cases origin <;> decide)
  unfold genericShape
  split
  · trivial
  · trivial
  · rename_i c
    have argument : words.classes c := each (instanceOf c) mem_cons_self
    intro base member
    split at member
    · cases member
    · cases member
      exact argument
  · exact nofun
  · exact container
  · exact container

theorem within_leafShape {hint : Hint} (own : hint.OwnWithin words)
    (children : ∀ child ∈ hint.children, child.OwnWithin words) :
    hint.leafShape.Within words := by
  unfold leafShape
  split
  case h_5 =>
    split
    · trivial
    · exact own
  case h_6 => exact within_genericShape _ children
  case h_7 => exact words.builtin _ (by decide)
  case h_9 | h_10 | h_11 | h_12 => exact own
  all_goals trivial

theorem Within.shape {hint : Hint} (within : hint.Within words) : hint.shape.Within words := by
  rcases hint.isLeaf_or_union with isLeaf | ⟨members, rfl⟩
  · rw [isLeaf.shape_eq]
    exact within_leafShape (within _ .self) fun child member => within child (.child member .self)
  · rw [Hint.shape]
    split
    · trivial
    · split
      · trivial
      · have inside (leaf : Hint) (member : leaf ∈ distinct (leavesOf members)) :
            leaf.Inside (union members) :=
          (mem_leavesOf (mem_of_mem_distinct member)).1
        unfold unionShape
        split
        · trivial
        · rename_i only single
          have here := inside only (single ▸ mem_cons_self)
          exact within_leafShape (within only here) fun child member =>
            within child (Inside.trans (.child member .self) here)
        · exact fun member found => within member (inside member found)

/-- The parts of a hint bring in no more than the hint. -/
theorem Within.part {hint inner : Hint} (within : hint.Within words)
    (member : inner ∈ hint.shape.parts) : inner.Within words :=
  fun deeper inside => within deeper (inside.trans (mem_parts member).1)

end Hint

/-! ### Checks -/

theorem Parts.within_ofList {parts : List (Nat × Check)}
    (each : ∀ part ∈ parts, part.2.Within words) : (ofList parts).Within words := by
  induction parts with
  | nil => trivial
  | cons part rest ih =>
    obtain ⟨head, tail⟩ := forall_mem_cons.mp each
    exact ⟨head, ih tail⟩

theorem Parts.slots_ofList (parts : List (Nat × Check)) :
    (ofList parts).slots = parts.map Prod.fst := by
  induction parts with
  | nil => rfl
  | cons part rest ih => exact congrArg (part.1 :: ·) ih

theorem Check.within_eachEntry {parts : List (Nat × Check)} (sampling : Sampling)
    (each : ∀ part ∈ parts, part.2.Within words) (slots : ∀ part ∈ parts, part.1 < 2) :
    (eachEntry (.ofList parts) sampling).Within words := by
  refine ⟨Parts.within_ofList each, ?_⟩
  rw [Parts.slots_ofList]
  exact forall_mem_map.mpr slots

namespace Settings

variable {settings : Settings}

theorem within_instanceCheck {classes : List Class} (each : ∀ c ∈ classes, words.classes c) :
    (settings.instanceCheck classes).Within words := by
  intro c member
  obtain ⟨given, known, member⟩ := mem_flatMap.mp (mem_eraseDups.mp member)
  have listed : c = given ∨ c ∈ [Class.float, Class.int] := by
    unfold Settings.accepted at member
    split at member
    · exact .inl (mem_singleton.mp member)
    · split at member
      · rcases mem_cons.mp member with same | member
        · exact .inl same
        · exact .inr (mem_cons_of_mem _ member)
      · split at member
        · rcases mem_cons.mp member with same | member
          · exact .inl same
          · exact .inr member
        · exact .inl (mem_singleton.mp member)
  rcases listed with rfl | number
  · exact each c known
  · have known : ∀ c ∈ [Class.float, Class.int], c ∈ Class.builtins := by decide
    exact words.builtin c (known c number)

theorem within_plainClasses {members : List Hint} {classes : List Class}
    (plain : members.mapM Hint.plainClass? = some classes)
    (each : ∀ member ∈ members, member.OwnWithin words) : ∀ c ∈ classes, words.classes c := by
  induction members generalizing classes with
  | nil =>
    cases plain
    nofun
  | cons member rest ih =>
    obtain ⟨head, tail⟩ := forall_mem_cons.mp each
    rw [mapM_cons] at plain
    obtain ⟨c, named, plain⟩ := Option.bind_eq_some_iff.mp plain
    obtain ⟨others, later, made⟩ := Option.bind_eq_some_iff.mp plain
    cases made
    refine forall_mem_cons.mpr ⟨?_, ih later tail⟩
    cases member with
    | instanceOf c' =>
      cases named
      exact head
    | null =>
      cases named
      exact words.builtin _ (by decide)
    | _ => cases named

theorem within_leafCheck {shape : Shape} {check : Check} (within : shape.Within words)
    (found : settings.leafCheck shape = some check) : check.Within words := by
  unfold leafCheck at found
  split at found
  case h_1 | h_2 =>
    cases found
    trivial
  case h_3 | h_5 =>
    cases found
    exact within_instanceCheck (forall_mem_singleton.mpr within)
  case h_4 =>
    obtain ⟨classes, plain, made⟩ := Option.map_eq_some_iff.mp found
    cases made
    exact within_instanceCheck (within_plainClasses plain within)
  case h_6 =>
    cases found
    exact within_instanceCheck (forall_mem_singleton.mpr (words.builtin _ (by decide)))
  case h_7 | h_8 | h_9 =>
    cases found
    exact within
  case h_10 => cases found

/-- Below the last level, the check of a hint is written with what the hint brings in. -/
theorem within_of_shallowCheck {path : List Nat} {hint : Hint} {check : Check}
    (within : hint.Within words) (made : settings.shallowCheck path hint = .ok check) :
    check.Within words := by
  have shapeWithin := within.shape
  have makes := makesShallow_of_shallowCheck made
  have part {inner : Hint} (member : inner ∈ hint.shape.parts) := within.part member
  generalize shaped : hint.shape = shape at makes shapeWithin
  rw [shaped] at part
  cases makes with
  | leaf found => exact within_leafCheck shapeWithin found
  | @union members parts mixed each =>
    refine Parts.within_ofList fun part' member => ?_
    obtain ⟨inner, inMembers, path, made⟩ := exists_linked_left each member
    exact within_of_shallowCheck (part inMembers) made
  | sequence container item =>
    exact within_instanceCheck (forall_mem_singleton.mpr shapeWithin)
  | mapping | fixedTuple =>
    exact within_instanceCheck (forall_mem_singleton.mpr (words.builtin _ (by decide)))
  | annotated made => exact within_of_shallowCheck (part mem_cons_self) made
  | reference target => trivial
termination_by hint.height
decreasing_by
  · exact (Hint.mem_parts (shaped ▸ inMembers)).2
  · exact (Hint.mem_parts (shaped ▸ mem_cons_self)).2

/-- The check of a hint is written with what the hint brings in. -/
theorem within_of_checkWithin {levels : Nat} {path : List Nat} {hint : Hint} {check : Check}
    (within : hint.Within words) (made : settings.checkWithin levels path hint = .ok check) :
    check.Within words := by
  induction levels generalizing path hint check with
  | zero => exact within_of_shallowCheck within made
  | succ levels ih =>
    have shapeWithin := within.shape
    have part {inner : Hint} (member : inner ∈ hint.shape.parts) := within.part member
    have makes := makes_of_checkWithin made
    clear made
    generalize hint.shape = shape at makes shapeWithin part
    cases makes with
    | leaf found => exact within_leafCheck shapeWithin found
    | union mixed each =>
      refine Parts.within_ofList fun part' member => ?_
      obtain ⟨inner, inMembers, path, made⟩ := exists_linked_left each member
      exact ih (part inMembers) made
    | sequence made => exact ⟨shapeWithin, ih (part mem_cons_self) made⟩
    | key made =>
      exact Check.within_eachEntry _ (forall_mem_singleton.mpr
        (ih (part mem_cons_self) made)) (by simp)
    | entry made =>
      exact Check.within_eachEntry _ (forall_mem_singleton.mpr
        (ih (part mem_cons_self) made)) (by simp)
    | both made made' =>
      refine Check.within_eachEntry _ (forall_mem_cons.mpr
        ⟨ih (part mem_cons_self) made, forall_mem_singleton.mpr
          (ih (part (mem_cons_of_mem _ mem_cons_self)) made')⟩) (by simp)
    | @fixedTuple items parts each =>
      refine Parts.within_ofList fun part' member => ?_
      obtain ⟨⟨item, slot⟩, inItems, -, path, made⟩ := exists_linked_left each member
      have inside := (mem_filter.mp inItems).1
      exact ih (part (fst_mem_of_mem_zipIdx inside)) made
    | annotated made => exact ⟨ih (part mem_cons_self) made, shapeWithin⟩
    | reference target => exact shapeWithin

end Settings

/-! ### Standard classes -/

/-- All classes that a hint names are standard. -/
def Hint.Standard (hint : Hint) : Prop := hint.Within .standard

/-! ### Hints that are the same -/

theorem Value.Standard.of_equal {value value' : Value} (standard : value'.Standard)
    (equal : value.equal value' = true) : value.Standard := by
  intro c inside
  obtain ⟨part, inside, link⟩ := Value.exists_inside_of_equal inside equal
  cases Value.equal_iff.mp link
  exact standard c inside

namespace Hint

variable {a b : Hint}

/-- What is inside a hint is the same as something inside every hint that is the same. -/
theorem Matches.exists_inside {inner : Hint} (inside : inner.Inside a) (matched : Matches a b) :
    ∃ inner', inner'.Inside b ∧ Matches inner inner' := by
  induction inside generalizing b with
  | self => exact ⟨b, .self, matched⟩
  | @child child hint member _ ih =>
    obtain ⟨child', member', link⟩ := exists_linked_right matched.children member
    obtain ⟨inner', inside', found⟩ := ih link
    exact ⟨inner', .child member' inside', found⟩

/-- What a hint brings in belongs to a vocabulary if that is so for a hint that is the same, as long as
equal literals, and validators with the same number, belong to it or not together. -/
theorem Within.of_same (within : b.Within words) (same : a.same b = true)
    (literals : ∀ {value value' : Value}, value.equal value' = true → value.kind = value'.kind →
      words.literals value' → words.literals value)
    (texts : ∀ {inner inner' : Hint} {given given' : List Validator},
      (annotated inner given).Inside a → (annotated inner' given').Inside b →
      ∀ validator ∈ given, ∀ validator' ∈ given', validator.serial = validator'.serial →
      words.texts validator'.text → words.texts validator.text) : a.Within words := by
  intro inner inside
  obtain ⟨inner', inside', link⟩ := (matches_of_same same).exists_inside inside
  have own := within inner' inside'
  cases link with
  | reference link =>
    show words.texts _
    rw [link.1]
    exact own
  | annotated _ each =>
    intro validator member
    obtain ⟨validator', member', serials⟩ := exists_linked_right each member
    exact texts inside inside' validator member validator' member' serials (own validator' member')
  | literal each =>
    intro value member
    obtain ⟨value', member', equal, kinds⟩ := exists_linked_right each member
    exact literals equal kinds (own value' member')
  | instanceOf | structural => exact own
  | _ => trivial

/-- A hint that is the same as one with standard classes has standard classes, too. -/
theorem Standard.of_same (standard : b.Standard) (same : a.same b = true) : a.Standard :=
  Within.of_same standard same (fun equal kinds own => ⟨own.1.of_equal equal, kinds ▸ own.2⟩)
    fun _ _ _ _ _ _ _ _ => trivial

end Hint

end CallGuard
