/-
Checks of twins can be exchanged. Nothing that is done with a check tells the
checks of two hints apart that are twins: their verdicts correspond, their
expressions bind as many names, need the drawn integer and look up the same
names, and they are written the same if the literals are legible. All of this
goes through whatever checks are put together from.
-/
import CallGuard.Proofs.Congruence
import CallGuard.Proofs.Twin

namespace CallGuard

open CallGuard.Action List Remark Parts

variable {similar : World → World → Prop} {legible : Prop}

/-! ### Names that literals look up -/

namespace Value

variable {name : String}

theorem mem_lookupsIn {items : List Value} :
    name ∈ lookupsIn items ↔ ∃ item ∈ items, name ∈ item.lookups := by
  induction items with
  | nil => simp [lookupsIn]
  | cons first rest ih => simp [lookupsIn, ih]

theorem mem_lookupsInEntries {entries : List (Value × Value)} :
    name ∈ lookupsInEntries entries ↔
      ∃ entry ∈ entries, name ∈ entry.1.lookups ∨ name ∈ entry.2.lookups := by
  induction entries with
  | nil => simp [lookupsInEntries]
  | cons first rest ih =>
    obtain ⟨key, content⟩ := first
    simp [lookupsInEntries, ih, or_assoc]

/-- Equal values look up the same names. -/
theorem mem_lookups_of_equal {a b : Value} (same : a.equal b = true) (member : name ∈ a.lookups) :
    name ∈ b.lookups := by
  induction a using induction_parts generalizing b with
  | step a ih =>
    have contained {items items' : List Value} (parts : ∀ item ∈ items, item ∈ a.parts)
        (each : ∀ item ∈ items, ∃ item' ∈ items', item.equal item' = true)
        (found : name ∈ lookupsIn items) : name ∈ lookupsIn items' := by
      obtain ⟨item, inItems, member⟩ := mem_lookupsIn.mp found
      obtain ⟨item', inItems', link⟩ := each item inItems
      exact mem_lookupsIn.mpr ⟨item', inItems', ih item (parts item inItems) link member⟩
    have matched := equal_iff.mp same
    cases matched with
    | null | bool | int | float | complex | str | bytes => cases member
    | classObject | object => exact member
    | list each | tuple each =>
      exact contained (fun _ => id) (fun _ inItems => exists_linked_right each inItems) member
    | set size each | frozenset size each => exact contained (fun _ => id) each member
    | dict size each =>
      obtain ⟨entry, inEntries, found⟩ := mem_lookupsInEntries.mp member
      obtain ⟨entry', inEntries', keys, contents⟩ := each entry inEntries
      refine mem_lookupsInEntries.mpr ⟨entry', inEntries', found.imp (fun found => ?_) fun found => ?_⟩
      · exact ih _ (mem_parts_of_key inEntries) keys found
      · exact ih _ (mem_parts_of_entry inEntries) contents found

end Value

/-! ### Checks that cannot be told apart -/

/-- Checks that cannot be told apart in worlds that are similar, nor by their expressions if the
literals are legible. -/
structure Check.Twin (similar : World → World → Prop) (legible : Prop) (a b : Check) : Prop where
  verdict : ∀ value random, Corresponds similar (a.verdict value random) (b.verdict value random)
  isAlways : a.isAlways = b.isAlways
  locals : a.locals = b.locals
  needsRandom : a.needsRandom = b.needsRandom
  lookups : ∀ name, name ∈ a.lookups ↔ name ∈ b.lookups
  code : legible → ∀ level, a.code level = b.code level

/-- A check is its own twin if its verdict corresponds to itself. -/
theorem Check.twin_self {check : Check}
    (verdict : ∀ value random,
      Corresponds similar (check.verdict value random) (check.verdict value random)) :
    check.Twin similar legible check :=
  ⟨verdict, rfl, rfl, rfl, fun _ => Iff.rfl, fun _ _ => rfl⟩

namespace Parts

variable {parts parts' : List (Nat × Check)}

section

variable (each : List.Forall₂ (fun part part' : Nat × Check => part.2.Twin similar legible part'.2)
  parts parts')
include each

theorem someHolds_corresponds (value : Value) (random : UInt32) :
    Corresponds similar ((ofList parts).someHolds value random)
      ((ofList parts').someHolds value random) := by
  induction each with
  | nil => exact corresponds_pure false
  | cons head _ ih =>
    exact corresponds_ite (head.verdict value random) (corresponds_pure true) ih

theorem locals_eq : (ofList parts).locals = (ofList parts').locals := by
  induction each with
  | nil => rfl
  | cons head _ ih =>
    rw [ofList, ofList, locals, locals, head.locals, ih]

theorem needsRandom_eq : (ofList parts).needsRandom = (ofList parts').needsRandom := by
  induction each with
  | nil => rfl
  | cons head _ ih =>
    rw [ofList, ofList, needsRandom, needsRandom, head.needsRandom, ih]

theorem mem_lookups_iff (name : String) :
    name ∈ (ofList parts).lookups ↔ name ∈ (ofList parts').lookups := by
  induction each with
  | nil => rfl
  | cons head _ ih =>
    rw [ofList, ofList, lookups, lookups, mem_append, mem_append, head.lookups name, ih]

end

theorem allHold_corresponds
    (each : List.Forall₂ (fun part part' : Nat × Check =>
      part.1 = part'.1 ∧ part.2.Twin similar legible part'.2) parts parts')
    (contents : Nat → Option Value) (random : UInt32) :
    Corresponds similar ((ofList parts).allHold contents random)
      ((ofList parts').allHold contents random) := by
  induction each with
  | nil => exact corresponds_pure true
  | @cons part part' _ _ head _ ih =>
    rw [ofList, ofList, allHold, allHold, head.1]
    cases contents part'.1 with
    | none => exact ih
    | some value =>
      exact corresponds_ite (head.2.verdict value random) ih (corresponds_pure false)

theorem codes_eq (written : legible) {value : Nat → String}
    (each : List.Forall₂ (fun part part' : Nat × Check =>
      value part.1 = value part'.1 ∧ part.2.Twin similar legible part'.2) parts parts')
    (level taken : Nat) :
    (ofList parts).codes level taken value = (ofList parts').codes level taken value := by
  induction each generalizing taken with
  | nil => rfl
  | cons head _ ih =>
    rw [ofList, ofList, codes, codes, head.1, head.2.code written, head.2.locals, ih]

end Parts

namespace Check

variable {a b : Check} {parts parts' : List (Nat × Check)}

theorem twin_oneOf {values values' : List Value}
    (each : List.Forall₂ (Value.Twin legible) values values') :
    (oneOf values).Twin similar legible (oneOf values') where
  verdict value random := by
    rw [verdict, verdict, Value.any_isLiteral_eq (each.imp fun _ _ link => link.alike)]
    exact corresponds_pure _
  isAlways := rfl
  locals := rfl
  needsRandom := rfl
  lookups name := by
    have found {lefts rights : List Value} (links : List.Forall₂ (Value.Twin legible) lefts rights)
        (member : name ∈ lefts.flatMap fun value => value.lookups ++ value.kind.lookups) :
        name ∈ rights.flatMap fun value => value.lookups ++ value.kind.lookups := by
      obtain ⟨left, inLefts, member⟩ := mem_flatMap.mp member
      obtain ⟨right, inRights, twin⟩ := exists_linked_right links inLefts
      refine mem_flatMap.mpr ⟨right, inRights, ?_⟩
      rw [mem_append, twin.alike.kind] at member
      exact mem_append.mpr (member.imp_left (twin.lookups name).mp)
    exact ⟨found each, found (List.Forall₂.flip (each.imp fun _ _ link => link.symm))⟩
  code written level := by
    have same : values.map literalCode = values'.map literalCode := by
      rw [← forall₂_eq_eq_eq, forall₂_map_left_iff, forall₂_map_right_iff]
      refine each.imp fun value value' link => ?_
      rw [literalCode, literalCode, link.code written, link.alike.kind]
    show literalsCode values = literalsCode values'
    rw [literalsCode, literalsCode, same]

theorem twin_anyOf
    (each : List.Forall₂ (fun part part' : Nat × Check => part.2.Twin similar legible part'.2)
      parts parts') :
    (anyOf (.ofList parts)).Twin similar legible (anyOf (.ofList parts')) where
  verdict := someHolds_corresponds each
  isAlways := rfl
  locals := locals_eq each
  needsRandom := needsRandom_eq each
  lookups := mem_lookups_iff each
  code written level := by
    have same : (ofList parts).codes (level + 1) 0 (fun _ => Text.valueMarker) =
        (ofList parts').codes (level + 1) 0 fun _ => Text.valueMarker :=
      codes_eq written (each.imp fun _ _ link => ⟨rfl, link⟩) _ _
    exact congrArg (bracketed level "or") same

theorem twin_eachItem (twin : a.Twin similar legible b) (container : Class) (sampling : Sampling) :
    (eachItem container a sampling).Twin similar legible (eachItem container b sampling) where
  verdict value random := by
    rw [verdict, verdict]
    split
    · exact corresponds_allM fun picked => twin.verdict picked.2 random
    · exact corresponds_pure false
  isAlways := rfl
  locals := by rw [locals, locals, twin.locals]
  needsRandom := by rw [needsRandom, needsRandom, twin.needsRandom]
  lookups name := by
    rw [lookups, lookups, mem_append, mem_append, twin.lookups name]
  code written level :=
    congrArg (fun item => loopCode level container.code (Text.marker 0)
      [embedCode 1 (Text.marker 0) item] (sampling.code "sample" "")) (twin.code written (level + 2))

theorem twin_eachEntry {sides sides' : List (Nat × Check)}
    (each : List.Forall₂ (fun side side' : Nat × Check =>
      side.1 = side'.1 ∧ side.2.Twin similar legible side'.2) sides sides')
    (sampling : Sampling) :
    (eachEntry (.ofList sides) sampling).Twin similar legible
      (eachEntry (.ofList sides') sampling) where
  verdict value random := by
    rw [verdict, verdict]
    split
    · exact corresponds_pure false
    · exact corresponds_allM fun picked => allHold_corresponds each _ random
  isAlways := rfl
  locals := by
    rw [locals, locals, locals_eq (each.imp fun _ _ link => link.2)]
  needsRandom := by
    rw [needsRandom, needsRandom, needsRandom_eq (each.imp fun _ _ link => link.2)]
  lookups := mem_lookups_iff (each.imp fun _ _ link => link.2)
  code written level := by
    have same : (ofList sides).codes (level + 2) 2 Text.marker =
        (ofList sides').codes (level + 2) 2 Text.marker :=
      codes_eq written (each.imp fun _ _ link => ⟨congrArg Text.marker link.1, link.2⟩) _ _
    exact congrArg (loopCode level "dict" _ · _) same

theorem twin_tupleOf
    (each : List.Forall₂ (fun part part' : Nat × Check =>
      part.1 = part'.1 ∧ part.2.Twin similar legible part'.2) parts parts') (size : Nat) :
    (tupleOf size (.ofList parts)).Twin similar legible (tupleOf size (.ofList parts')) where
  verdict value random := by
    rw [verdict, verdict]
    split
    · exact allHold_corresponds each _ random
    · exact corresponds_pure false
  isAlways := rfl
  locals := locals_eq (each.imp fun _ _ link => link.2)
  needsRandom := needsRandom_eq (each.imp fun _ _ link => link.2)
  lookups := mem_lookups_iff (each.imp fun _ _ link => link.2)
  code written level := by
    have same (value : Nat → String) : (ofList parts).codes (level + 1) 0 value =
          (ofList parts').codes (level + 1) 0 value :=
      codes_eq written (each.imp fun _ _ link => ⟨congrArg value link.1, link.2⟩) _ _
    exact congrArg (fun codes => bracketed level "and" (_ :: _ :: codes)) (same _)

theorem twin_validated (twin : a.Twin similar legible b) (validators : List Validator) :
    (validated a validators).Twin similar legible (validated b validators) where
  verdict value random :=
    corresponds_ite (twin.verdict value random) (corresponds_pure _) (corresponds_pure false)
  isAlways := rfl
  locals := twin.locals
  needsRandom := twin.needsRandom
  lookups name := by
    rw [lookups, lookups, mem_append, mem_append, twin.lookups name]
  code written level := by
    have inside : (if a.isAlways then [] else [embedCode 0 Text.valueMarker (a.code (level + 1))]) =
        if b.isAlways then [] else [embedCode 0 Text.valueMarker (b.code (level + 1))] := by
      rw [twin.isAlways, twin.code written]
    exact congrArg (fun codes => bracketed level "and" (codes ++ validators.map validatorCode)) inside

theorem twin_deferred {target target' : Reference} {follow follow' : Value → UInt32 → Action Bool}
    (names : target.name = target'.name)
    (corresponds : ∀ value random, Corresponds similar (follow value random) (follow' value random)) :
    (deferred target follow).Twin similar legible (deferred target' follow') where
  verdict := corresponds
  isAlways := rfl
  locals := rfl
  needsRandom := rfl
  lookups _ := Iff.rfl
  code _ _ :=
    congrArg (fun name => registryName ++ ".check_forward_ref(" ++ Text.quotedWithoutBraces name ++
      ", " ++ Text.valueMarker ++ ", " ++ randomName ++ ")") names

end Check

/-! ### Checks of twins -/

namespace Settings

variable {settings : Settings} {check check' : Check}

variable {shape : Shape} {levels : Nat}

theorem twin_of_leafCheck (similarity : Similarity similar)
    (found : settings.leafCheck shape = some check) : check.Twin similar legible check := by
  refine Check.twin_self fun value random => ?_
  cases single_of_leafCheck found with
  | structural protocol => exact similarity.ask protocol value.kind
  | _ => exact corresponds_pure _

/-- Where a shape has a check by itself, a twin has one that cannot be told apart from it. -/
theorem exists_leafCheck_twin (similarity : Similarity similar) {shape' : Shape}
    (twin : shape.Twin similar legible shape') (found : settings.leafCheck shape = some check) :
    ∃ check', settings.leafCheck shape' = some check' ∧ check.Twin similar legible check' := by
  have self : check.Twin similar legible check := twin_of_leafCheck similarity found
  cases twin with
  | unsupported | never | fixedTuple | annotated | reference => cases found
  | ignorable | null | instanceOf | subclassOf | structural => exact ⟨check, found, self⟩
  | union each =>
    rw [leafCheck, Hint.mapM_plainClass?_eq each] at found
    exact ⟨check, found, self⟩
  | sequence items =>
    cases items with
    | some => cases found
    | none => exact ⟨check, found, self⟩
  | mapping keys entries =>
    cases keys <;> cases entries
    case none.none => exact ⟨check, found, self⟩
    all_goals cases found
  | literal each =>
    cases found
    exact ⟨_, rfl, Check.twin_oneOf each⟩

/-- That checks cannot be told apart goes through whatever they are put together from. -/
theorem twin_congruence (similarity : Similarity similar) :
    settings.Congruence settings (.twin similar legible) (Check.Twin similar legible) where
  compatible first second := Hint.Alike.same_eq (Hint.Twin.alike first) (Hint.Twin.alike second)
  leaf := exists_leafCheck_twin similarity
  anyOf := Check.twin_anyOf
  eachItem inside container := Check.twin_eachItem inside container _
  eachEntry each := Check.twin_eachEntry each _
  tupleOf := Check.twin_tupleOf
  validated inside same := by
    cases forall₂_eq_eq_eq ▸ same
    exact Check.twin_validated inside _
  deferred {levels target target'} link later := by
    obtain ⟨names, -, corresponds⟩ := link
    refine Check.twin_deferred names fun value random => corresponds_bind corresponds ?_
    intro hint
    rw [names]
    cases made : settings.checkWithin levels [] hint with
    | ok check => exact (later (Hint.Twin.refl similarity hint) made made).verdict _ _
    | error refusal => exact corresponds_throw _

/-- The checks of twins cannot be told apart. -/
theorem twin_of_checkWithin (similarity : Similarity similar) {path path' : List Nat} {a b : Hint}
    (twin : a.Twin similar legible b) (made : settings.checkWithin levels path a = .ok check)
    (made' : settings.checkWithin levels path' b = .ok check') :
    check.Twin similar legible check' :=
  (twin_congruence similarity).checkWithin twin made made'

end Settings

/-! ### Checks of twins exist together -/

namespace Hint

theorem optional_twin {hint hint' : Option Hint}
    (twins : Option.Rel (Twin similar legible) hint hint') :
    List.Forall₂ (Twin similar legible) hint.toList hint'.toList := by
  cases twins with
  | none => exact .nil
  | some twin => exact .cons twin .nil

theorem filter_isIgnorable_twin {hints hints' : List Hint}
    (each : List.Forall₂ (Twin similar legible) hints hints') :
    List.Forall₂ (Twin similar legible) (hints.filter fun hint => !hint.isIgnorable)
      (hints'.filter fun hint => !hint.isIgnorable) := by
  induction each with
  | nil => exact .nil
  | cons head _ ih =>
    rw [filter_cons, filter_cons, head.isIgnorable_eq]
    split
    · exact .cons head ih
    · exact ih

end Hint

namespace Shape

variable {shape shape' : Shape}

theorem Twin.tested (twin : shape.Twin similar legible shape') :
    List.Forall₂ (Hint.Twin similar legible) shape.tested shape'.tested := by
  cases twin with
  | union each => exact each
  | sequence items => exact Hint.optional_twin items
  | mapping keys entries =>
    exact rel_append (Hint.optional_twin keys) (Hint.optional_twin entries)
  | fixedTuple each => exact Hint.filter_isIgnorable_twin each
  | annotated inside _ => exact .cons inside .nil
  | unsupported | ignorable | null | instanceOf | subclassOf | structural | reference | literal
  | never => exact .nil

/-- The shape gives rise to a check, as far as it goes by itself. -/
def Open (shape : Shape) : Prop := (∀ obstacle, shape ≠ .unsupported obstacle) ∧ shape ≠ .never

theorem Twin.open (twin : shape.Twin similar legible shape') (isOpen : shape.Open) :
    shape'.Open := by
  constructor
  · rintro obstacle rfl
    cases twin
    exact isOpen.1 _ rfl
  · rintro rfl
    cases twin
    exact isOpen.2 rfl

end Shape

namespace Settings

variable {settings : Settings} {check : Check}

variable {shape : Shape} {levels : Nat} {a b : Hint}

theorem open_of_leafCheck (found : settings.leafCheck shape = some check) :
    shape.Open := by
  constructor
  · rintro obstacle rfl
    cases found
  · rintro rfl
    cases found

theorem MakesShallow.open (makes : settings.MakesShallow shape check) :
    shape.Open := by
  cases makes with
  | leaf found => exact open_of_leafCheck found
  | _ => exact ⟨nofun, nofun⟩

theorem Makes.open (makes : settings.Makes levels shape check) :
    shape.Open := by
  cases makes with
  | leaf found => exact open_of_leafCheck found
  | _ => exact ⟨nofun, nofun⟩

/-- Unless the shape has a check by itself, the parts that its check looks at have checks. -/
theorem Makes.tested (makes : settings.Makes levels shape check)
    (bare : settings.leafCheck shape = none) {inner : Hint} (member : inner ∈ shape.tested) :
    ∃ path check, settings.checkWithin levels path inner = .ok check := by
  cases makes with
  | leaf found =>
    rw [found] at bare
    cases bare
  | union mixed each =>
    obtain ⟨part, -, path, made⟩ := exists_linked_right each member
    exact ⟨path, _, made⟩
  | sequence made | key made | entry made | annotated made =>
    cases mem_singleton.mp member
    exact ⟨_, _, made⟩
  | both made made' =>
    rcases mem_cons.mp member with rfl | member
    · exact ⟨_, _, made⟩
    · cases mem_singleton.mp member
      exact ⟨_, _, made'⟩
  | @fixedTuple items parts each =>
    obtain ⟨inItems, kept⟩ := mem_filter.mp member
    rw [← zipIdx_map_fst 0 items] at inItems
    obtain ⟨item, numbered, rfl⟩ := mem_map.mp inItems
    obtain ⟨part, -, -, path, made⟩ :=
      exists_linked_right each (mem_filter.mpr ⟨numbered, kept⟩)
    exact ⟨path, _, made⟩
  | reference => cases member

theorem exists_shallowCheck_of_twin (similarity : Similarity similar) {path : List Nat}
    (path' : List Nat) {a b : Hint} {check : Check} (twin : a.Twin similar legible b)
    (made : settings.shallowCheck path a = .ok check) :
    ∃ check', settings.shallowCheck path' b = .ok check' := by
  have makes := makesShallow_of_shallowCheck made
  have shapes := twin.shape
  obtain ⟨notUnsupported, notNever⟩ := shapes.open makes.open
  have lower {inner : Hint} (member : inner ∈ a.shape.parts) : inner.height < a.height :=
    (Hint.mem_parts member).2
  refine exists_shallowCheck_of_shape path' notUnsupported notNever ?_ ?_
  · intro inner' validators shaped
    rw [shaped] at shapes
    generalize a.shape = shape at makes shapes lower
    cases shapes with | annotated inside =>
    cases makes with
    | leaf found => cases found
    | annotated made =>
      have smaller := lower mem_cons_self
      exact exists_shallowCheck_of_twin similarity path' inside made
  · intro members' shaped mixed member' inMembers'
    rw [shaped] at shapes
    generalize a.shape = shape at makes shapes lower
    cases shapes with | union links =>
    cases makes with
    | leaf found =>
      rw [leafCheck, Hint.mapM_plainClass?_eq links, mixed] at found
      cases found
    | union _ each =>
      obtain ⟨member, inMembers, link⟩ := exists_linked_left links inMembers'
      obtain ⟨part, -, path, made⟩ := exists_linked_right each inMembers
      have smaller := lower inMembers
      exact exists_shallowCheck_of_twin similarity path' link made
termination_by a.height

theorem exists_checkWithin_of_twin (similarity : Similarity similar) {path : List Nat}
    (path' : List Nat) (twin : a.Twin similar legible b)
    (made : settings.checkWithin levels path a = .ok check) :
    ∃ check', settings.checkWithin levels path' b = .ok check' := by
  induction levels generalizing a b path path' check with
  | zero => exact exists_shallowCheck_of_twin similarity path' twin made
  | succ levels ih =>
    have makes := makes_of_checkWithin made
    have shapes := twin.shape
    cases leaf : settings.leafCheck a.shape with
    | some found =>
      obtain ⟨check', found', -⟩ := exists_leafCheck_twin similarity shapes leaf
      refine ⟨check', ?_⟩
      rw [checkWithin, found']
    | none =>
      obtain ⟨notUnsupported, notNever⟩ := shapes.open makes.open
      refine exists_checkWithin_of_tested path' notUnsupported notNever fun path' inner' member => ?_
      obtain ⟨inner, member, link⟩ := exists_linked_left shapes.tested member
      obtain ⟨path, check, made⟩ := makes.tested leaf member
      exact ih path' link made

/-- A twin of a hint that has a check has one, too, and they cannot be told apart. -/
theorem exists_twin_of_checkWithin (similarity : Similarity similar) {path : List Nat}
    (path' : List Nat) (twin : a.Twin similar legible b)
    (made : settings.checkWithin levels path a = .ok check) :
    ∃ check', settings.checkWithin levels path' b = .ok check' ∧
      check.Twin similar legible check' := by
  obtain ⟨check', made'⟩ := exists_checkWithin_of_twin similarity path' twin made
  exact ⟨check', made', twin_of_checkWithin similarity twin made made'⟩

end Settings

/-! ### Warnings of twins -/

/-- What is said about a hint in a remark: whether it is about an older name, and the hint as it is
written. -/
def Remark.said : Remark → Option (Bool × String)
  | aliased hint => some (true, hint.text)
  | cut hint => some (false, hint.text)
  | refused => none

namespace Hint

theorem shallowRemarks_eq (hint : Hint) :
    hint.shallowRemarks = .cut hint :: match hint.shape with
      | .unsupported _ | .never => [.refused]
      | .annotated inner _ => inner.shallowRemarks
      | .union members =>
        if (members.mapM plainClass?).isSome then [] else members.flatMap shallowRemarks
      | _ => [] := by
  rw [shallowRemarks]
  congr 1
  split <;> rename_i shaped <;> simp only [shaped]
  rw [flatMap_subtype (fun _ _ => rfl), unattach_attach]

variable {a b : Hint}

theorem flatMap_said_eq {hints hints' : List Hint} {remarks : Hint → List Remark}
    (each : List.Forall₂ (Twin similar legible) hints hints')
    (same : ∀ hint ∈ hints, ∀ hint', Twin similar legible hint hint' →
      (remarks hint).map said = (remarks hint').map said) :
    (hints.flatMap remarks).map said = (hints'.flatMap remarks).map said := by
  induction each with
  | nil => rfl
  | cons head _ ih =>
    rw [flatMap_cons, flatMap_cons, map_append, map_append, same _ mem_cons_self _ head,
      ih fun hint member => same hint (mem_cons_of_mem _ member)]

theorem Twin.shallowRemarks_said {a b : Hint} (twin : Twin similar legible a b) :
    a.shallowRemarks.map said = b.shallowRemarks.map said := by
  have shapes := twin.shape
  have lower {inner : Hint} (member : inner ∈ a.shape.parts) : inner.height < a.height :=
    (mem_parts member).2
  rw [shallowRemarks_eq, shallowRemarks_eq, map_cons, map_cons, said, said,
    twin.text_eq]
  congr 1
  generalize a.shape = shape at shapes lower ⊢
  generalize b.shape = shape' at shapes ⊢
  cases shapes with
  | annotated inside _ =>
    have smaller := lower mem_cons_self
    exact inside.shallowRemarks_said
  | union each =>
    dsimp only
    rw [mapM_plainClass?_eq each]
    split
    · rfl
    · refine flatMap_said_eq each fun hint member hint' link => ?_
      have smaller := lower member
      exact link.shallowRemarks_said
  | unsupported | never | ignorable | null | instanceOf | sequence | mapping | fixedTuple
  | subclassOf | structural | reference | literal => rfl
termination_by a.height

theorem Twin.aliasRemark_said (twin : Twin similar legible a b) :
    a.aliasRemark.map said = b.aliasRemark.map said := by
  unfold aliasRemark
  rw [twin.isAlias_eq]
  split
  · simp only [map_cons, said, twin.text_eq, map_nil]
  · rfl

theorem Twin.remarksWithin_said (levels : Nat) (twin : Twin similar legible a b) :
    (remarksWithin levels a).map said = (remarksWithin levels b).map said := by
  induction levels generalizing a b with
  | zero =>
    rw [remarksWithin, remarksWithin, map_append, map_append, twin.aliasRemark_said,
      twin.shallowRemarks_said]
  | succ levels ih =>
    have parts {hints hints' : List Hint}
        (each : List.Forall₂ (Twin similar legible) hints hints') :
        (hints.flatMap (remarksWithin levels)).map said =
          (hints'.flatMap (remarksWithin levels)).map said :=
      flatMap_said_eq each fun _ _ _ link => ih link
    have shapes := twin.shape
    rw [remarksWithin, remarksWithin, map_append, map_append, twin.aliasRemark_said]
    congr 1
    generalize a.shape = shape at shapes ⊢
    generalize b.shape = shape' at shapes ⊢
    cases shapes with
    | annotated inside _ => exact ih inside
    | union each =>
      dsimp only
      rw [mapM_plainClass?_eq each]
      split
      · rfl
      · exact parts each
    | sequence items => exact parts (optional_twin items)
    | mapping keys entries =>
      exact parts (rel_append (optional_twin keys) (optional_twin entries))
    | fixedTuple each => exact parts (filter_isIgnorable_twin each)
    | unsupported | never | ignorable | null | instanceOf | subclassOf | structural | reference
    | literal => rfl

theorem filterMap_takeWhile_eq {Found : Type} {keep : Remark → Bool}
    {pick : Remark → Option Found} {remarks remarks' : List Remark}
    (kept : ∀ remark remark' : Remark, remark.said = remark'.said → keep remark = keep remark')
    (picked : ∀ remark remark' : Remark, remark.said = remark'.said → pick remark = pick remark')
    (same : remarks.map said = remarks'.map said) :
    (remarks.takeWhile keep).filterMap pick = (remarks'.takeWhile keep).filterMap pick := by
  induction remarks generalizing remarks' with
  | nil => rw [map_eq_nil_iff.mp same.symm]
  | cons remark rest ih =>
    obtain ⟨remark', rest', rfl, head, tail⟩ := map_eq_cons_iff.mp same.symm
    rw [takeWhile_cons, takeWhile_cons, kept remark remark' head.symm]
    split
    · rw [filterMap_cons, filterMap_cons, picked remark remark' head.symm, ih tail.symm]
    · rfl

/-- There are the same warnings about twins. -/
theorem Twin.warnings_eq (twin : Twin similar legible a b) (settings : Settings) :
    settings.warnings a = settings.warnings b := by
  unfold Settings.warnings
  split
  · refine filterMap_takeWhile_eq ?_ ?_ (twin.remarksWithin_said _)
    · intro remark remark' same
      cases remark <;> cases remark' <;> first | rfl | cases same
    · intro remark remark' same
      cases remark <;> cases remark' <;> simp_all [said]
  · rfl

end Hint

end CallGuard
