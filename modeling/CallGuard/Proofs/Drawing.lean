/-
Integers are drawn where they are needed. A check that says it can do without the
integer of a call comes to the same verdict whatever the integer is: what its
parts say about themselves it says too, and what is put off until a reference
has been looked up counts as needing one. A guard needs the integer as soon as
one of its checks does, and then it draws exactly one per call, from the source
of its settings; otherwise it draws none, and its calls do not depend on the
source.
-/
import CallGuard.Proofs.Redecoration

namespace CallGuard

open CallGuard.Action Making

/-! ### Checks -/

theorem Sampling.pick_eq_of_not_isRandom {sampling : Sampling} (fixed : sampling.isRandom = false)
    {Item : Type} (items : List Item) (random random' : UInt32) :
    sampling.pick items random = sampling.pick items random' := by
  have start : sampling.start items.toArray.size random =
      sampling.start items.toArray.size random' := by
    rw [Sampling.start, Sampling.start, fixed]
    rfl
  rw [pick, pick, indices, indices, start]

mutual
/-- The verdict of a check that does without the integer is the same for all integers. -/
theorem Check.verdict_eq_of_not_needsRandom : ∀ {check : Check}, check.needsRandom = false →
    ∀ (value : Value) (random random' : UInt32),
      check.verdict value random = check.verdict value random'
  | .always, _, _, _, _ | .isNull, _, _, _, _ | .instanceOf _, _, _, _, _
  | .classObject _, _, _, _, _ | .structural _, _, _, _, _ | .oneOf _, _, _, _, _ => rfl
  | .anyOf _, unneeded, value, random, random' =>
    Parts.someHolds_eq_of_not_needsRandom unneeded value random random'
  | .eachItem container item sampling, unneeded, value, random, random' => by
    obtain ⟨inside, fixed⟩ := Bool.or_eq_false_iff.mp unneeded
    rw [Check.verdict, Check.verdict, Sampling.pick_eq_of_not_isRandom fixed _ random random']
    simp only [Check.verdict_eq_of_not_needsRandom inside _ random random']
  | .eachEntry sides sampling, unneeded, value, random, random' => by
    obtain ⟨inside, fixed⟩ := Bool.or_eq_false_iff.mp unneeded
    rw [Check.verdict, Check.verdict]
    split
    · rfl
    · rw [Sampling.pick_eq_of_not_isRandom fixed _ random random']
      simp only [Parts.allHold_eq_of_not_needsRandom inside _ random random']
  | .tupleOf size items, unneeded, value, random, random' => by
    have inside : items.needsRandom = false := unneeded
    rw [Check.verdict, Check.verdict]
    simp only [Parts.allHold_eq_of_not_needsRandom inside _ random random']
  | .validated inner validators, unneeded, value, random, random' => by
    have inside : inner.needsRandom = false := unneeded
    rw [Check.verdict, Check.verdict,
      Check.verdict_eq_of_not_needsRandom inside value random random']

theorem Parts.someHolds_eq_of_not_needsRandom : ∀ {parts : Parts}, parts.needsRandom = false →
    ∀ (value : Value) (random random' : UInt32),
      parts.someHolds value random = parts.someHolds value random'
  | .nil, _, _, _, _ => rfl
  | .cons _ check rest, unneeded, value, random, random' => by
    obtain ⟨head, tail⟩ := Bool.or_eq_false_iff.mp unneeded
    rw [Parts.someHolds, Parts.someHolds,
      Check.verdict_eq_of_not_needsRandom head value random random',
      Parts.someHolds_eq_of_not_needsRandom tail value random random']

theorem Parts.allHold_eq_of_not_needsRandom : ∀ {parts : Parts}, parts.needsRandom = false →
    ∀ (contents : Nat → Option Value) (random random' : UInt32),
      parts.allHold contents random = parts.allHold contents random'
  | .nil, _, _, _, _ => rfl
  | .cons slot check rest, unneeded, contents, random, random' => by
    obtain ⟨head, tail⟩ := Bool.or_eq_false_iff.mp unneeded
    rw [Parts.allHold, Parts.allHold,
      Parts.allHold_eq_of_not_needsRandom tail contents random random']
    simp only [Check.verdict_eq_of_not_needsRandom head _ random random']
end

/-! ### Plans -/

/-- The plan needs the integer if a check of it does. -/
structure Plan.Declares (plan : Plan) : Prop where
  parameters : ∀ check ∈ plan.parameters,
    check.fragment.check.needsRandom = true → plan.needsRandom = true
  result : ∀ hint fragment, plan.result = .checked hint fragment →
    fragment.check.needsRandom = true → plan.needsRandom = true

theorem Draft.addParameters_needsRandom (draft : Draft) (checks : List ParameterCheck) :
    (draft.addParameters checks).needsRandom =
      (draft.needsRandom || checks.any fun check => check.fragment.check.needsRandom) := by
  induction checks generalizing draft with
  | nil => exact (Bool.or_false _).symm
  | cons check rest ih =>
    rw [List.any_cons, ← Bool.or_assoc]
    exact ih (draft.addParameter ((Source.bindArgument check.kind).getD "") check)

theorem Assembly.of_needsRandom (name : String) (checks : List ParameterCheck)
    (result : ResultCheck) : (of name checks result).plan.needsRandom =
      ((checks.any fun check => check.fragment.check.needsRandom) || match result with
        | .checked _ fragment => fragment.check.needsRandom
        | _ => false) := by
  have drafted := Draft.empty.addParameters_needsRandom checks
  rw [show Draft.empty.needsRandom = false from rfl, Bool.false_or] at drafted
  rw [← drafted]
  cases result with
  | unchecked | never => exact (Bool.or_false _).symm
  | checked hint fragment => rfl

theorem Assembly.of_declares (name : String) (checks : List ParameterCheck)
    (result : ResultCheck) : (of name checks result).plan.Declares := by
  constructor
  · intro check member needed
    rw [of_parameters] at member
    rw [of_needsRandom, List.any_eq_true.mpr ⟨check, member, needed⟩, Bool.true_or]
  · intro hint fragment checked needed
    obtain rfl : result = .checked hint fragment := checked
    rw [of_needsRandom]
    exact Bool.or_eq_true_iff.mpr (.inr needed)

/-! ### Calls -/

namespace Guard

variable {guard : Guard}

/-- How many integers a call under the guard draws from a source. -/
def due (guard : Guard) (source : IndexSource) : Nat :=
  if guard.plan.needsRandom = true ∧ source.serial = guard.settings.source.serial then 1 else 0

theorem integer_due (guard : Guard) (world : World) (source : IndexSource) :
    (guard.integer.run.run world).2.draws source = world.draws source + guard.due source := by
  unfold integer due
  cases guard.plan.needsRandom with
  | true =>
    rw [if_pos rfl, draws_after_draw]
    simp only [true_and]
  | false => rfl

theorem enter_due (inquiring : guard.plan.Inquiring) (function : String) (arguments : Arguments)
    (world : World) (source : IndexSource) :
    ((guard.enter function arguments).run.run world).2.draws source =
      world.draws source + guard.due source := by
  obtain ⟨random, start, drawn⟩ := guard.integer_ends world
  have first := guard.integer_due world source
  rw [enter, ExceptT.run_bind, StateT.run_bind, drawn]
  rw [drawn] at first
  have later := ((checks_draw source inquiring function arguments random).andThen fun _ =>
    draws_pure random).unchanged start source
  exact later.trans first

/-- The guard draws what is due before the call inside is made, and nothing after it. -/
theorem call_due (inquiring : guard.plan.Inquiring) (function : String) (arguments : Arguments)
    (proceed : Action Value) (world : World) :
    (∀ source, ((guard.call function arguments proceed).run.run world).2.draws source =
      world.draws source + guard.due source) ∨
    ∃ middle, (∀ source, middle.draws source = world.draws source + guard.due source) ∧
      ∀ source, ((guard.call function arguments proceed).run.run world).2.draws source =
        (proceed.run.run middle).2.draws source := by
  have before := enter_due inquiring function arguments world
  rw [call_eq_enter, ExceptT.run_bind, StateT.run_bind]
  rcases entered : (guard.enter function arguments).run.run world with ⟨failure | random, middle⟩
  · rw [entered] at before
    exact .inl before
  · rw [entered] at before
    refine .inr ⟨middle, before, fun source => ?_⟩
    show ((proceed >>= guard.checkResult function random).run.run middle).2.draws source = _
    rw [ExceptT.run_bind, StateT.run_bind]
    rcases proceed.run.run middle with ⟨failure | value, later⟩
    · rfl
    · exact (checkResult_draws source inquiring function random value).unchanged later source

end Guard

/-! ### Settings that differ in their source -/

namespace Cause

variable {settings settings' : Settings}

theorem ofInstance_congr (strict : settings.strict = settings'.strict) :
    ofInstance settings = ofInstance settings' := by
  funext c value
  rw [ofInstance, ofInstance, Settings.accepted, Settings.accepted, strict]

theorem ofLeaf_congr (strict : settings.strict = settings'.strict) :
    ofLeaf settings = ofLeaf settings' := by
  funext hint shape value
  unfold ofLeaf
  rw [ofInstance_congr strict]

theorem findShallow_congr (strict : settings.strict = settings'.strict) (hint : Hint)
    (value : Value) : findShallow settings hint value = findShallow settings' hint value := by
  rw [findShallow, findShallow, ofLeaf_congr strict]
  split
  case h_1 inner validators shaped =>
    have smaller := Hint.sizeOf_lt_of_shape_annotated shaped
    exact findShallow_congr strict inner value
  case h_2 members shaped =>
    have each : (fun member : { member // member ∈ members } =>
        findShallow settings member.1 value) =
        fun member => findShallow settings' member.1 value := by
      funext ⟨member, inMembers⟩
      have smaller := Hint.sizeOf_lt_of_shape_union shaped inMembers
      exact findShallow_congr strict member value
    exact congrArg (fun search => ofUnion members value (members.attach.map search)) each
  case h_3 => rfl
termination_by sizeOf hint

theorem findWithin_congr (strict : settings.strict = settings'.strict)
    (sampling : settings.sampling = settings'.sampling) (random : UInt32) (levels : Nat) :
    findWithin settings random levels = findWithin settings' random levels := by
  induction levels with
  | zero =>
    funext hint value
    exact findShallow_congr strict hint value
  | succ levels ih =>
    funext hint value
    rw [findWithin, findWithin, ih, ofInstance_congr strict, ofLeaf_congr strict, sampling]

end Cause

section Sources

variable {settings settings' : Settings} (same : settings.checkImprint = settings'.checkImprint)

include same

/-- Reports depend on the settings only as far as the imprint for checks goes. -/
theorem report_congr : report settings = report settings' := by
  have strict : settings.strict = settings'.strict := congrArg Prod.fst same
  have sampling : settings.sampling = settings'.sampling :=
    congrArg (fun imprint => imprint.2.1) same
  funext function site name hint value random
  rw [report, report, Cause.find, Cause.find, Cause.findWithin_congr strict sampling]

namespace Settings

theorem fragment_congr : settings.fragment = settings'.fragment := by
  funext label hint level
  rw [fragment, fragment, FragmentKey.of, FragmentKey.of, same, check_congr same,
    warnings_congr same]

theorem draftParameters_congr : settings.draftParameters = settings'.draftParameters := by
  funext position parameters draft
  induction parameters generalizing position draft with
  | nil => rfl
  | cons parameter rest ih =>
    rw [draftParameters, draftParameters, fragment_congr same]
    simp only [ih]

/-- Putting a guard together depends on the settings only as far as the imprint for checks goes. -/
theorem assemble_congr : settings.assemble = settings'.assemble := by
  funext signature
  have results : settings.draftResult = settings'.draftResult := by
    funext returns draft
    unfold draftResult
    rw [fragment_congr same]
  rw [assemble, assemble, draftParameters_congr same, results]

end Settings

/-- Calls under guards with one plan that needs no integer are the same. -/
theorem Guard.call_congr {guard guard' : Guard} (plans : guard.plan = guard'.plan)
    (ours : guard.settings = settings) (theirs : guard'.settings = settings')
    (unneeded : guard'.plan.needsRandom = false) : guard.call = guard'.call := by
  have rejects {Result : Type} : (guard.reject : _ → _ → _ → _ → _ → _ → Action Result) =
      guard'.reject := by
    funext function site name hint value random
    rw [reject, reject, ours, theirs, report_congr same]
  have arguments : guard.checkArgument = guard'.checkArgument := by
    funext function check random value
    rw [checkArgument, checkArgument, rejects]
  have results : guard.checkResult = guard'.checkResult := by
    funext function random value
    unfold checkResult
    rw [rejects, plans]
  have integers : guard.integer = guard'.integer := by
    rw [integer, integer, plans, if_neg (Bool.eq_false_iff.mp unneeded),
      if_neg (Bool.eq_false_iff.mp unneeded)]
  funext function given proceed
  rw [call_eq_enter, call_eq_enter, enter, enter, integers, plans, arguments, results]

end Sources

/-- Around the same function and with the same registry, settings with another source give a guard
with the same plan. -/
theorem Settings.compile_source (settings : Settings) (source : IndexSource) {function : Function}
    {workshop after : Workshop} {guarded : Function}
    (run : (settings.compile function).run.run workshop = (.ok guarded, after)) :
    ∃ number guard guard', guarded = .guarded function.signature number guard function ∧
      guard.settings = settings ∧
      (({ settings with source } : Settings).compile function).run.run workshop =
        (.ok (.guarded function.signature number guard' function), after) ∧
      guard'.settings = { settings with source } ∧ guard.plan = guard'.plan := by
  have imprints : settings.checkImprint = ({ settings with source } : Settings).checkImprint := rfl
  obtain ⟨assembly, middle, assembled, verified, run⟩ := verified_of_compile run
  rw [compile, ExceptT.run_bind, StateT.run_bind, ← assemble_congr imprints, assembled]
  show ∃ number guard guard', _ ∧ _ ∧
    (assembly.guard { settings with source } function).run.run middle = _ ∧ _
  rw [Assembly.guard, verified] at run ⊢
  cases kept : settings.keepsSource with
  | false =>
    rw [kept] at run
    cases run
    exact ⟨_, _, _, rfl, rfl, rfl, rfl, rfl⟩
  | true =>
    rw [kept] at run
    cases run
    exact ⟨_, _, _, rfl, rfl, rfl, rfl, rfl⟩

/-! ### Integers as needed -/

variable {bodies : Nat → Arguments → Action Value} {registry : Registry}

/-- A fragment that does without the integer comes to the same verdict for all integers. A guard
around a function needs the integer if one of its checks does. A call under it draws one from the
source of the settings if it is needed, and none otherwise, apart from what the function inside
draws. If it is not needed, the guard that is put together with another source behaves the same. -/
theorem Settings.integers_drawn_as_needed (employed : registry.Employed (fun _ => True) bodies)
    (settings : Settings) (world : World) :
    (∀ label hint level fragment after,
      (settings.fragment label hint level).run.run ⟨registry, world⟩ = (.ok fragment, after) →
      fragment.check.needsRandom = false → ∀ value random random',
        fragment.check.verdict value random = fragment.check.verdict value random') ∧
    ∀ signature identity guarded after,
      (settings.compile (.written bodies signature identity)).run.run ⟨registry, world⟩ =
        (.ok guarded, after) →
      ∃ number guard,
        guarded = .guarded signature number guard (.written bodies signature identity) ∧
        guard.settings = settings ∧ guard.plan.Declares ∧
        (∀ function arguments proceed before,
          let later := ((guard.call function arguments proceed).run.run before).2
          (∀ source, later.draws source = before.draws source + guard.due source) ∨
          ∃ middle, (∀ source, middle.draws source = before.draws source + guard.due source) ∧
            ∀ source, later.draws source = (proceed.run.run middle).2.draws source) ∧
        (guard.plan.needsRandom = false → ∀ source, ∃ guarded',
          (({ settings with source } : Settings).compile
            (.written bodies signature identity)).run.run ⟨registry, world⟩ =
              (.ok guarded', after) ∧
          ∀ arguments, guarded'.call arguments = guarded.call arguments) := by
  refine ⟨fun _ _ _ fragment _ _ unneeded => Check.verdict_eq_of_not_needsRandom unneeded, ?_⟩
  intro signature identity guarded after run
  have faithful := employed.stocked.fragments
  have encloses := ((settings.compile_upholds ⟨registry, world⟩ signature.trusted_all identity
    ⟨registry, world⟩ ⟨faithful, rfl, _, _, rfl⟩).1 guarded after run).2
  cases encloses with
  | @guarded number guard assembly fits plan under =>
    have inquiring : guard.plan.Inquiring := plan ▸ fits.inquiring
    obtain ⟨checks, result, -, -, rfl⟩ := fits.parts
    refine ⟨number, guard, rfl, under, plan ▸ Assembly.of_declares _ _ _, ?_, ?_⟩
    · exact fun function arguments proceed before =>
        Guard.call_due inquiring function arguments proceed before
    · intro unneeded source
      obtain ⟨number', guard', other, same, ours, run', theirs, plans⟩ :=
        settings.compile_source source run
      cases same
      refine ⟨_, run', fun arguments => ?_⟩
      have imprints : ({ settings with source } : Settings).checkImprint =
          settings.checkImprint := rfl
      rw [Function.call, Function.call, Guard.call_congr imprints plans.symm theirs ours unneeded]

/-- A guard for integers draws nothing, and one for lists of integers of which one item is looked at
draws one integer. -/
theorem Settings.integers_drawn_as_needed_for_lists :
    let bodies : Nat → Arguments → Action Value := fun _ _ => pure .null
    let settings := Settings.standard ⟨102, .fixed 5⟩
    ∃ guarded guarded' after after',
      (settings.compile (.written bodies (.taking (.instanceOf .int)) 103)).run.run
        ⟨.empty, .initial⟩ = (.ok guarded, after) ∧
      (settings.compile (.written bodies (.taking .integers) 103)).run.run
        ⟨.empty, .initial⟩ = (.ok guarded', after') ∧
      (∃ guard, guarded.guard? = some guard ∧ ∀ source, guard.due source = 0) ∧
      (∃ guard, guarded'.guard? = some guard ∧ guard.due settings.source = 1 ∧
        ∀ proceed before,
          let later := ((guard.call "f" ⟨[], []⟩ proceed).run.run before).2
          later.draws settings.source = before.draws settings.source + 1 ∨
          ∃ middle, middle.draws settings.source = before.draws settings.source + 1 ∧
            later.draws settings.source = (proceed.run.run middle).2.draws settings.source) ∧
      ∀ source, ∃ other,
        (({ settings with source } : Settings).compile
          (.written bodies (.taking (.instanceOf .int)) 103)).run.run ⟨.empty, .initial⟩ =
            (.ok other, after) ∧
        ∀ arguments, other.call arguments = guarded.call arguments := by
  intro bodies settings
  have employed : Registry.Employed (fun _ => True) bodies .empty := .fresh
  obtain ⟨number, guard, after, run, under, plan⟩ := settings.exists_compile_taking bodies
    (Signature.acceptable_int Validator.lenient) rfl rfl 103 .initial
  obtain ⟨number', guard', after', run', under', plan'⟩ := settings.exists_compile_taking bodies
    (Signature.acceptable_integers Validator.lenient) rfl rfl 103 .initial
  have unneeded : guard.plan.needsRandom = false := by
    rw [plan]
    rfl
  have one : guard'.due settings.source = 1 := by
    rw [Guard.due, plan', under']
    rfl
  have first := (settings.integers_drawn_as_needed employed .initial).2 _ _ _ after run
  have second := (settings.integers_drawn_as_needed employed .initial).2 _ _ _ after' run'
  obtain ⟨_, _, same, -, -, -, independent⟩ := first
  obtain ⟨_, _, same', -, -, draws, -⟩ := second
  cases same
  cases same'
  refine ⟨_, _, after, after', run, run', ⟨guard, rfl, fun source => ?_⟩,
    ⟨guard', rfl, one, fun proceed before => ?_⟩, independent unneeded⟩
  · rw [Guard.due, unneeded]
    rfl
  · rw [← one]
    refine (draws "f" ⟨[], []⟩ proceed before).imp (fun later => later _) ?_
    rintro ⟨middle, first, later⟩
    exact ⟨middle, first _, later _⟩

end CallGuard
