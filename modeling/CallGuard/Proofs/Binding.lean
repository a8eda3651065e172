/-
Which argument is checked against which parameter. The parameters that take one
positional argument take the first arguments in their order, the variadic one
takes what is left over, and an argument passed by name goes to the parameter of
that name, unless that one has a positional argument already. A valid signature
has distinct names and its parameters in the order of their kinds, so every
argument goes to one parameter at most. The tests of a plan are exactly those of
the arguments against the parameters that they go to, in the order of
declaration.
-/
import CallGuard.Proofs.Assembling
import CallGuard.Proofs.Calling
import CallGuard.Proofs.Validity

namespace CallGuard

open List ParameterKind

/-! ### Where arguments go -/

/-- Where an argument stands in a call. -/
inductive Place where
  | position (index : Nat)
  | keyword (name : String)
  deriving DecidableEq

/-- The arguments of a call and where they stand, in order. -/
def Arguments.passed (arguments : Arguments) : List (Place × Value) :=
  (arguments.positional.zipIdx.map fun item => (.position item.2, item.1)) ++
    arguments.keywords.map fun item => (.keyword item.1, item.2)

namespace Signature

/-- The parameters that take one positional argument. -/
def positionals (parameters : List Parameter) : List Parameter :=
  parameters.filter (·.kind.takesPosition)

/-- The parameter that an argument goes to. -/
def receiver? (parameters : List Parameter) (arguments : Arguments) : Place → Option Parameter
  | .position index =>
    (positionals parameters)[index]?.or (parameters.find? (·.kind = .variadicPositional))
  | .keyword name =>
    let free := (positionals parameters).drop arguments.positional.length
    (free.filter (·.kind = .positionalOrKeyword) ++
      parameters.filter (·.kind = .keywordOnly)).find? (·.name = name)

/-- Whether an argument goes to the parameter. -/
def goesTo (parameters : List Parameter) (arguments : Arguments) (parameter : Parameter)
    (place : Place) : Bool :=
  (receiver? parameters arguments place).any (·.name = parameter.name)

/-- An argument that is to be checked against the hint of the parameter it goes to. -/
structure Inspection where
  parameter : Parameter
  hint : Hint
  place : Place
  value : Value

/-- The inspections of the arguments that go to one parameter. -/
def inspectionsOf (parameters : List Parameter) (arguments : Arguments) (parameter : Parameter) :
    List Inspection :=
  match parameter.hint.bind Hint.checkable with
  | none => []
  | some hint =>
    (arguments.passed.filter fun item => goesTo parameters arguments parameter item.1).map
      fun item => ⟨parameter, hint, item.1, item.2⟩

/-- The inspections of a call, in the order of the parameters. -/
def inspections (parameters : List Parameter) (arguments : Arguments) : List Inspection :=
  parameters.flatMap (inspectionsOf parameters arguments)

/-! ### Valid signatures -/

/-- The parameters have distinct names and stand in the order of their kinds. -/
structure Ordered (parameters : List Parameter) : Prop where
  names : (parameters.map Parameter.name).Nodup
  kinds : parameters.Pairwise fun earlier later => earlier.kind.Precedes later.kind

theorem ordered_of_validate {signature : Signature} (valid : signature.validate = .ok ()) :
    Ordered signature.parameters := by
  obtain ⟨-, names, kinds⟩ := wellFormed_iff.mp (wellFormed_of_validate valid)
  exact ⟨names, pairwise_map.mp kinds⟩

/-! ### Receivers -/

section Receiver

variable {before after : List Parameter} {parameter : Parameter} {arguments : Arguments}

variable {parameters : List Parameter}

theorem receiver?_mem {place : Place}
    (found : receiver? parameters arguments place = some parameter) : parameter ∈ parameters := by
  cases place with
  | position index =>
    rcases Option.or_eq_some_iff.mp found with positional | ⟨-, variadic⟩
    · exact mem_of_mem_filter (mem_of_getElem? positional)
    · exact mem_of_find?_eq_some variadic
  | keyword name =>
    rcases mem_append.mp (mem_of_find?_eq_some found) with free | only
    · exact mem_of_mem_filter (mem_of_mem_drop (mem_of_mem_filter free))
    · exact mem_of_mem_filter only

theorem Ordered.eq_of_name (ordered : Ordered parameters)
    {other : Parameter} (member : parameter ∈ parameters) (member' : other ∈ parameters)
    (same : parameter.name = other.name) : parameter = other :=
  inj_on_of_nodup_map ordered.names member member' same

/-- An argument goes to a parameter if it goes to one of that name. -/
theorem Ordered.goesTo_iff (ordered : Ordered parameters)
    (member : parameter ∈ parameters) (place : Place) :
    goesTo parameters arguments parameter place = true ↔
      receiver? parameters arguments place = some parameter := by
  rw [goesTo, Option.any_eq_true]
  constructor
  · rintro ⟨other, found, same⟩
    rw [found, ordered.eq_of_name (receiver?_mem found) member (of_decide_eq_true same)]
  · intro found
    exact ⟨parameter, found, decide_eq_true rfl⟩

theorem positionals_split (takes : parameter.kind.takesPosition = true) :
    positionals (before ++ parameter :: after) =
      positionals before ++ parameter :: positionals after := by
  rw [positionals, filter_append, filter_cons, if_pos takes]
  rfl

theorem Ordered.positionals_nodup (ordered : Ordered parameters) :
    (positionals parameters).Nodup :=
  (List.Nodup.of_map _ ordered.names).filter _

variable (ordered : Ordered (before ++ parameter :: after))

include ordered

theorem receiver?_position_of_takesPosition (takes : parameter.kind.takesPosition = true)
    (index : Nat) : receiver? (before ++ parameter :: after) arguments (.position index) =
      some parameter ↔ index = (positionals before).length := by
  have here : (positionals (before ++ parameter :: after))[(positionals before).length]? =
      some parameter := by
    rw [positionals_split takes, getElem?_append_right (Nat.le_refl _), Nat.sub_self]
    rfl
  rw [receiver?, Option.or_eq_some_iff]
  constructor
  · rintro (found | ⟨-, variadic⟩)
    · obtain ⟨bound, -⟩ := List.getElem?_eq_some_iff.mp found
      exact (getElem?_inj bound ordered.positionals_nodup).mp (found.trans here.symm)
    · have kind := find?_some variadic
      rw [decide_eq_true_iff] at kind
      rw [kind] at takes
      cases takes
  · rintro rfl
    exact .inl here

theorem positionals_of_variadic (variadic : parameter.kind = .variadicPositional) :
    positionals (before ++ parameter :: after) = positionals before := by
  have later : positionals after = [] := by
    refine filter_eq_nil_iff.mpr fun other member => ?_
    have precedes := (pairwise_cons.mp (pairwise_append.mp ordered.kinds).2.1).1 other member
    rw [variadic] at precedes
    generalize other.kind = kind at precedes
    cases kind with
    | positionalOnly => exact absurd precedes.1 (by decide)
    | positionalOrKeyword => exact absurd precedes.1 (by decide)
    | _ => exact Bool.false_ne_true
  rw [positionals, filter_append, filter_cons_of_neg (by rw [variadic]; decide)]
  show positionals before ++ positionals after = positionals before
  rw [later, append_nil]

theorem find?_variadic (variadic : parameter.kind = .variadicPositional) :
    (before ++ parameter :: after).find? (·.kind = .variadicPositional) = some parameter := by
  have earlier : before.find? (·.kind = .variadicPositional) = none := by
    refine find?_eq_none.mpr fun other member => ?_
    have precedes := (pairwise_append.mp ordered.kinds).2.2 other member parameter mem_cons_self
    intro kind
    rw [of_decide_eq_true kind, variadic] at precedes
    cases precedes.2 rfl
  rw [find?_append, earlier, find?_cons, decide_eq_true variadic]
  rfl

theorem receiver?_position_of_variadic (variadic : parameter.kind = .variadicPositional)
    (index : Nat) : receiver? (before ++ parameter :: after) arguments (.position index) =
      some parameter ↔ (positionals before).length ≤ index := by
  rw [receiver?, positionals_of_variadic ordered variadic, find?_variadic ordered variadic,
    Option.or_eq_some_iff]
  constructor
  · rintro (found | ⟨missing, -⟩)
    · have takes := (mem_filter.mp (mem_of_getElem? found)).2
      rw [variadic] at takes
      cases takes
    · exact getElem?_eq_none_iff.mp missing
  · exact fun past => .inr ⟨getElem?_eq_none_iff.mpr past, rfl⟩

theorem receiver?_keyword (name : String) :
    receiver? (before ++ parameter :: after) arguments (.keyword name) = some parameter ↔
      name = parameter.name ∧ (parameter.kind = .keywordOnly ∨
        parameter.kind = .positionalOrKeyword ∧
          arguments.positional.length ≤ (positionals before).length) := by
  constructor
  · intro found
    have named := find?_some found
    refine ⟨(of_decide_eq_true named).symm, ?_⟩
    rcases mem_append.mp (mem_of_find?_eq_some found) with free | only
    · obtain ⟨free, kind⟩ := mem_filter.mp free
      rw [decide_eq_true_iff] at kind
      refine .inr ⟨kind, Nat.le_of_not_lt fun taken => ?_⟩
      have distinct := ordered.positionals_nodup
      rw [positionals_split (by rw [kind]; rfl)] at free distinct
      rw [drop_append, drop_of_length_le (Nat.le_of_lt taken), nil_append] at free
      obtain ⟨count, more⟩ := Nat.exists_eq_add_of_lt taken
      have later : parameter ∈ positionals after := by
        rw [show arguments.positional.length - (positionals before).length = count + 1 by omega]
          at free
        exact mem_of_mem_drop free
      exact (nodup_cons.mp (nodup_append.mp distinct).2.1).1 later
    · exact .inl (of_decide_eq_true (mem_filter.mp only).2)
  · rintro ⟨named, kind⟩
    have member : parameter ∈ before ++ parameter :: after :=
      mem_append_right _ mem_cons_self
    have candidate : parameter ∈ ((positionals (before ++ parameter :: after)).drop
        arguments.positional.length).filter (·.kind = .positionalOrKeyword) ++
          (before ++ parameter :: after).filter (·.kind = .keywordOnly) := by
      rcases kind with only | ⟨kind, free⟩
      · exact mem_append_right _ (mem_filter.mpr ⟨member, decide_eq_true only⟩)
      · refine mem_append_left _ (mem_filter.mpr ⟨?_, decide_eq_true kind⟩)
        rw [positionals_split (by rw [kind]; rfl), drop_append, Nat.sub_eq_zero_of_le free]
        exact mem_append_right _ mem_cons_self
    obtain ⟨other, found⟩ : ∃ other, receiver? (before ++ parameter :: after) arguments
        (.keyword name) = some other := by
      refine Option.isSome_iff_exists.mp (find?_isSome.mpr ⟨parameter, candidate, ?_⟩)
      exact decide_eq_true named.symm
    have named' := find?_some found
    rw [found, ordered.eq_of_name (receiver?_mem found) member
      ((of_decide_eq_true named').trans named)]

omit ordered

end Receiver

/-! ### What parameters take -/

end Signature

namespace Arguments

theorem map_filter_passed (arguments : Arguments) (goes : Place → Bool) :
    (arguments.passed.filter fun item => goes item.1).map Prod.snd =
      ((arguments.positional.zipIdx.filter fun item => goes (.position item.2)).map Prod.fst) ++
        (arguments.keywords.filter fun item => goes (.keyword item.1)).map Prod.snd := by
  simp only [passed, filter_append, filter_map, map_append, map_map, Function.comp_def]

theorem filter_zipIdx_eq (values : List Value) (start index : Nat) :
    ((values.zipIdx start).filter fun item => item.2 = start + index).map Prod.fst =
      values[index]?.toList := by
  induction values generalizing start index with
  | nil => rfl
  | cons value rest ih =>
    rw [zipIdx_cons, filter_cons]
    cases index with
    | zero =>
      rw [if_pos (decide_eq_true (Nat.add_zero start).symm), map_cons]
      have none : (rest.zipIdx (start + 1)).filter (fun item => item.2 = start + 0) = [] := by
        refine filter_eq_nil_iff.mpr fun item member => ?_
        have past := le_snd_of_mem_zipIdx member
        rw [decide_eq_true_eq]
        omega
      rw [none]
      rfl
    | succ index =>
      rw [if_neg (by rw [decide_eq_true_eq]; omega)]
      have shifted := ih (start + 1) index
      rw [Nat.add_right_comm] at shifted
      exact shifted

theorem filter_zipIdx_le (values : List Value) (start index : Nat) :
    ((values.zipIdx start).filter fun item => start + index ≤ item.2).map Prod.fst =
      values.drop index := by
  induction index generalizing values start with
  | zero =>
    rw [filter_eq_self.mpr fun item member =>
      decide_eq_true (le_snd_of_mem_zipIdx member), zipIdx_map_fst, drop_zero]
  | succ index ih =>
    cases values with
    | nil => rfl
    | cons value rest =>
      rw [zipIdx_cons, filter_cons, if_neg (by rw [decide_eq_true_eq]; omega)]
      have shifted := ih rest (start + 1)
      rw [Nat.add_right_comm] at shifted
      exact shifted

theorem filter_keywords {keywords : List (String × Value)}
    (distinct : (keywords.map Prod.fst).Nodup) (name : String) :
    (keywords.filter fun item => item.1 = name).map Prod.snd = (keywords.lookup name).toList := by
  induction keywords with
  | nil => rfl
  | cons item rest ih =>
    obtain ⟨other, value⟩ := item
    obtain ⟨fresh, distinct⟩ := nodup_cons.mp distinct
    by_cases same : other = name
    · subst same
      have none : rest.filter (fun item => item.1 = other) = [] := by
        refine filter_eq_nil_iff.mpr fun item member => ?_
        rw [decide_eq_true_eq]
        rintro rfl
        exact fresh (mem_map.mpr ⟨item, member, rfl⟩)
      rw [filter_cons, if_pos (decide_eq_true rfl), none, lookup_cons_self]
      rfl
    · rw [filter_cons, if_neg (by simpa using same), lookup_cons, beq_false_of_ne (Ne.symm same)]
      exact ih distinct

end Arguments

namespace Signature

section Taking

variable {before after : List Parameter} {parameter : Parameter} {arguments : Arguments}
  (ordered : Ordered (before ++ parameter :: after))

include ordered

theorem goesTo_eq {place : Place} {chosen : Prop} [Decidable chosen]
    (received : receiver? (before ++ parameter :: after) arguments place = some parameter ↔ chosen) :
    goesTo (before ++ parameter :: after) arguments parameter place = decide chosen := by
  rw [Bool.eq_iff_iff, decide_eq_true_iff, ← received]
  exact ordered.goesTo_iff (mem_append_right _ mem_cons_self) place

theorem filter_keywords_goesTo (distinct : (arguments.keywords.map Prod.fst).Nodup) :
    (arguments.keywords.filter fun item =>
      goesTo (before ++ parameter :: after) arguments parameter (.keyword item.1)).map Prod.snd =
        if parameter.kind = .keywordOnly ∨ parameter.kind = .positionalOrKeyword ∧
          arguments.positional.length ≤ (positionals before).length
        then (arguments.keyword? parameter.name).toList else [] := by
  rw [filter_congr fun item _ => goesTo_eq ordered (receiver?_keyword ordered item.1)]
  split
  · rename_i takes
    simp only [takes, and_true]
    exact Arguments.filter_keywords distinct parameter.name
  · rename_i takes
    simp [takes]

theorem filter_positions_goesTo :
    (arguments.positional.zipIdx.filter fun item =>
      goesTo (before ++ parameter :: after) arguments parameter (.position item.2)).map Prod.fst =
        if parameter.kind.takesPosition then arguments.positional[(positionals before).length]?.toList
        else if parameter.kind = .variadicPositional then
          arguments.positional.drop (positionals before).length
        else [] := by
  split
  · rename_i takes
    rw [filter_congr fun item _ => goesTo_eq ordered
      (receiver?_position_of_takesPosition ordered takes item.2)]
    simpa using Arguments.filter_zipIdx_eq arguments.positional 0 (positionals before).length
  rename_i takes
  split
  · rename_i variadic
    rw [filter_congr fun item _ => goesTo_eq ordered
      (receiver?_position_of_variadic ordered variadic item.2)]
    simpa using Arguments.filter_zipIdx_le arguments.positional 0 (positionals before).length
  · rename_i variadic
    have never (index : Nat) : receiver? (before ++ parameter :: after) arguments
        (.position index) = some parameter ↔ False := by
      refine iff_false_intro fun found => ?_
      rcases Option.or_eq_some_iff.mp found with positional | ⟨-, found⟩
      · exact takes (mem_filter.mp (mem_of_getElem? positional)).2
      · have kind := find?_some found
        exact variadic (of_decide_eq_true kind)
    rw [filter_congr fun item _ => goesTo_eq ordered (never item.2)]
    simp

/-- The arguments that go to a parameter are those that a check of it takes. -/
theorem taken_eq (distinct : (arguments.keywords.map Prod.fst).Nodup) (hint : Hint)
    (fragment : Fragment) :
    (arguments.passed.filter fun item =>
      goesTo (before ++ parameter :: after) arguments parameter item.1).map Prod.snd =
        ParameterCheck.taken ⟨parameter.name, parameter.kind, (positionals before).length, hint,
          fragment⟩ arguments := by
  rw [arguments.map_filter_passed (goesTo (before ++ parameter :: after) arguments parameter),
    filter_positions_goesTo ordered, filter_keywords_goesTo ordered distinct, ParameterCheck.taken]
  cases kind : parameter.kind with
  | positionalOnly => simp [takesPosition]
  | positionalOrKeyword =>
    by_cases free : arguments.positional.length ≤ (positionals before).length
    · simp [takesPosition, Arguments.get?, free]
    · have given := getElem?_eq_getElem (Nat.lt_of_not_le free)
      simp [takesPosition, Arguments.get?, free, given]
  | variadicPositional => simp [takesPosition]
  | keywordOnly => simp [takesPosition]
  | variadicKeyword => simp [takesPosition]

end Taking

/-! ### The tests of a plan -/

/-- The test makes the inspection, with a fragment that is provided for its hint. -/
structure Performs (provided : Hint → Fragment → Prop) (inspection : Inspection)
    (test : ParameterCheck × Value) : Prop where
  name : test.1.name = inspection.parameter.name
  hint : test.1.hint = inspection.hint
  value : test.2 = inspection.value
  given : provided inspection.hint test.1.fragment

theorem positionals_length (before : List Parameter) (parameter : Parameter) :
    (positionals (before ++ [parameter])).length =
      parameter.kind.next (positionals before).length := by
  rw [positionals, filter_append, length_append, filter_singleton, ParameterKind.next, positionals]
  cases parameter.kind.takesPosition <;> rfl

variable {provided : Hint → Fragment → Prop} {arguments : Arguments}

theorem inspectionsOf_skipped {before after : List Parameter} {parameter : Parameter}
    (ordered : Ordered (before ++ parameter :: after))
    (distinct : (arguments.keywords.map Prod.fst).Nodup)
    (unchecked : parameter.hint.bind Hint.checkable = none ∨ parameter.kind = .variadicKeyword) :
    inspectionsOf (before ++ parameter :: after) arguments parameter = [] := by
  unfold inspectionsOf
  split
  · rfl
  · rename_i hint checkable
    rcases unchecked with unchecked | kind
    · cases checkable.symm.trans unchecked
    · have taken := taken_eq ordered distinct hint ⟨.always, 0, []⟩
      rw [kind] at taken
      rw [map_eq_nil_iff.mp taken, map_nil]

theorem ordered_assoc {before after : List Parameter} {parameter : Parameter}
    (ordered : Ordered (before ++ parameter :: after)) :
    Ordered ((before ++ [parameter]) ++ after) := by
  rw [append_assoc]
  exact ordered

theorem performs_of_planned {before rest : List Parameter} {checks : List ParameterCheck}
    (ordered : Ordered (before ++ rest)) (distinct : (arguments.keywords.map Prod.fst).Nodup)
    (planned : Planned provided (positionals before).length rest checks) :
    List.Forall₂ (Performs provided) (rest.flatMap (inspectionsOf (before ++ rest) arguments))
      (checks.flatMap fun check => (check.taken arguments).map (check, ·)) := by
  generalize starts : (positionals before).length = position at planned
  induction planned generalizing before with
  | nil => exact .nil
  | @skipped position parameter rest checks unchecked _ ih =>
    subst starts
    rw [flatMap_cons, inspectionsOf_skipped ordered distinct unchecked, nil_append]
    have later := ih (ordered_assoc ordered) (positionals_length before parameter)
    rw [append_assoc] at later
    exact later
  | @checked position parameter rest checks hint fragment checkable kind given _ ih =>
    subst starts
    have later := ih (ordered_assoc ordered) (positionals_length before parameter)
    rw [append_assoc] at later
    rw [flatMap_cons, flatMap_cons]
    refine rel_append ?_ later
    rw [← taken_eq ordered distinct hint fragment, inspectionsOf, checkable, map_map,
      forall₂_map_left_iff, forall₂_map_right_iff, forall₂_same]
    exact fun item _ => ⟨rfl, rfl, rfl, given⟩

/-- A valid signature with hints that can be checked is put together. The tests that a guard with its
plan makes of the arguments of a call are the inspections of the arguments, in order. If all of them
return true, the function inside is called, once and with the same arguments; otherwise the call
ends with the failure of the first that does not, and the function inside is not called. -/
theorem binds_arguments {bodies : Nat → Arguments → Action Value} {registry : Registry}
    (served : registry.Served (fun _ _ => True) bodies) (settings : Settings) {signature : Signature}
    (valid : signature.validate = .ok ())
    (supported : ¬ Refused settings signature.parameters signature.returns) (world : World)
    {arguments : Arguments} (distinct : (arguments.keywords.map Prod.fst).Nodup) :
    ∃ assembly after,
      (settings.assemble signature).run.run ⟨registry, world⟩ = (.ok assembly, after) ∧
      List.Forall₂ (Performs (settings.Provides fun _ => True))
        (inspections signature.parameters arguments) (assembly.plan.tests arguments) ∧
      ∀ guard : Guard, guard.plan = assembly.plan → ∀ number inner world,
        ∃ random start, guard.integer.Ends world random start ∧
          (∀ later, Passes random (assembly.plan.tests arguments) start later →
            ((Function.guarded signature number guard inner).call arguments).run.run world =
              (do guard.checkResult inner.signature.qualname random
                    (← inner.call arguments)).run.run later) ∧
          (∀ failure after, guard.Stops inner.signature.qualname random
            (assembly.plan.tests arguments) start failure after →
              ((Function.guarded signature number guard inner).call arguments).Fails world failure
                after) ∧
          ((∃ later, Passes random (assembly.plan.tests arguments) start later) ∨
            ∃ failure after, guard.Stops inner.signature.qualname random
              (assembly.plan.tests arguments) start failure after) := by
  have faithful := served.stocked_all.fragments
  have outcome := settings.assemble_upholds ⟨registry, world⟩ signature.trusted_all
    ⟨registry, world⟩ ⟨faithful, rfl, _, _, rfl⟩
  rcases run : (settings.assemble signature).run.run ⟨registry, world⟩ with
    ⟨failure | assembly, after⟩
  · rcases (outcome.2 failure after run).2 with invalid | refused
    · cases invalid.symm.trans valid
    · exact absurd refused supported
  · obtain ⟨checks, result, planned, -, rfl⟩ := (outcome.1 assembly after run).2.parts
    refine ⟨_, after, rfl, ?_, ?_⟩
    · rw [Plan.tests, Assembly.of_parameters]
      have ordered : Ordered ([] ++ signature.parameters) := ordered_of_validate valid
      exact performs_of_planned ordered distinct planned
    · intro guard plan number inner world
      obtain ⟨random, start, drawn, passes, stops, either⟩ :=
        guard.call_cases inner.signature.qualname arguments world
      rw [plan] at passes stops either
      exact ⟨random, start, drawn, fun later all => passes later all (inner.call arguments),
        fun failure after first => stops failure after first (inner.call arguments), either⟩

/-- A signature with parameters of all kinds. -/
def mixed : Signature where
  name := "f"
  qualname := "f"
  description := none
  scope := ⟨0, "module"⟩
  parameters := [⟨"a", .positionalOnly, some (.instanceOf .int)⟩, ⟨"b", .positionalOrKeyword, none⟩,
    ⟨"c", .positionalOrKeyword, some (.instanceOf .str)⟩,
    ⟨"more", .variadicPositional, some (.instanceOf .int)⟩,
    ⟨"k", .keywordOnly, some (.instanceOf .str)⟩, ⟨"others", .variadicKeyword, none⟩]
  returns := none

theorem binds_arguments_of_all_kinds :
    let settings := Settings.standard ⟨0, .fixed 0⟩
    let arguments : Arguments := .ofLists [.int 1, .null, .str 0 "s", .int 2, .int 3]
      [("j", .null), ("k", .str 1 "t")]
    (inspections mixed.parameters arguments).map (fun inspection =>
      (inspection.parameter.name, inspection.place)) =
        [("a", .position 0), ("c", .position 2), ("more", .position 3), ("more", .position 4),
          ("k", .keyword "k")] ∧
    mixed.validate = .ok () ∧ ¬ Refused settings mixed.parameters mixed.returns ∧
    ∃ assembly after,
      (settings.assemble mixed).run.run ⟨.empty, .initial⟩ = (.ok assembly, after) ∧
      List.Forall₂ (Performs (settings.Provides fun _ => True))
        (inspections mixed.parameters arguments) (assembly.plan.tests arguments) := by
  intro settings arguments
  have valid : mixed.validate = .ok () := rfl
  have supported : ¬ Refused settings mixed.parameters mixed.returns := by
    rintro (⟨parameter, member, hint, checkable, -, refusal, refused⟩ | ⟨_, ⟨⟩, _⟩)
    simp only [mixed, List.mem_cons, List.not_mem_nil, or_false] at member
    rcases member with rfl | rfl | rfl | rfl | rfl | rfl <;> cases checkable <;> cases refused
  have served : Registry.Served (fun _ _ => True) (fun _ _ => pure .null) .empty := .fresh
  have distinct : (arguments.keywords.map Prod.fst).Nodup := by decide
  obtain ⟨assembly, after, run, performed, -⟩ :=
    binds_arguments served settings valid supported .initial distinct
  exact ⟨by decide, valid, supported, assembly, after, run, performed⟩

end Signature

end CallGuard
