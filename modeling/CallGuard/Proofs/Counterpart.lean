/-
Guards that cannot be told apart. Two plans are counterparts if they check the
same arguments in the same order, with checks that are twins and with hints that
are written the same and searched for causes alike. Calls under guards with such
plans come to the same outcome, whatever function is inside, as long as the two
functions inside do.
-/
import CallGuard.Function
import CallGuard.Proofs.Inquiry

namespace CallGuard

open CallGuard.Action

variable {similar : World → World → Prop} {legible : Prop}

theorem Check.Twin.symm {a b : Check} (similarity : Similarity similar)
    (twin : a.Twin similar legible b) : b.Twin similar legible a :=
  ⟨fun value random => (twin.verdict value random).symm similarity, twin.isAlways.symm,
    twin.locals.symm, twin.needsRandom.symm, fun name => (twin.lookups name).symm,
    fun written level => (twin.code written level).symm⟩

theorem Check.Twin.trans {a b c : Check} (similarity : Similarity similar)
    (first : a.Twin similar legible b) (second : b.Twin similar legible c) :
    a.Twin similar legible c :=
  ⟨fun value random => (first.verdict value random).trans similarity (second.verdict value random),
    first.isAlways.trans second.isAlways, first.locals.trans second.locals,
    first.needsRandom.trans second.needsRandom,
    fun name => (first.lookups name).trans (second.lookups name),
    fun written level => (first.code written level).trans (second.code written level)⟩

/-- Hints that reports cannot tell apart. -/
structure Hint.Reported (similar : World → World → Prop) (settings : Settings) (a b : Hint) :
    Prop where
  text : a.text = b.text
  search : ∀ random value, Corresponds similar (Cause.find settings random a value)
    (Cause.find settings random b value)

theorem Hint.reported_self (similarity : Similarity similar) (settings : Settings) (hint : Hint) :
    hint.Reported similar settings hint :=
  ⟨rfl, fun _ _ => (Cause.findWithin_inquires _ hint).corresponds similarity⟩

/-- Twins are reported alike if they can be checked. -/
theorem Hint.Twin.reported (similarity : Similarity similar) {settings : Settings} {a b : Hint}
    (twin : a.Twin similar legible b) {check : Check} (made : settings.check a = .ok check) :
    a.Reported similar settings b :=
  ⟨twin.text_eq, fun _ value => Cause.findWithin_corresponds similarity twin made value⟩

/-! ### Plans -/

/-- Checks of one parameter that cannot be told apart. -/
structure ParameterCheck.Twin (similar : World → World → Prop) (settings : Settings)
    (a b : ParameterCheck) : Prop where
  name : a.name = b.name
  kind : a.kind = b.kind
  index : a.index = b.index
  hint : a.hint.Reported similar settings b.hint
  check : a.fragment.check.Twin similar True b.fragment.check

theorem ParameterCheck.Twin.taken_eq {settings : Settings}
    {check check' : ParameterCheck} (twin : check.Twin similar settings check')
    (arguments : Arguments) : check.taken arguments = check'.taken arguments := by
  rw [ParameterCheck.taken, ParameterCheck.taken, twin.kind, twin.index, twin.name]

/-- Checks of the result that cannot be told apart. -/
inductive ResultCheck.Twin (similar : World → World → Prop) (settings : Settings) :
    ResultCheck → ResultCheck → Prop
  | unchecked : Twin similar settings .unchecked .unchecked
  | never : Twin similar settings .never .never
  | checked {hint hint' : Hint} {fragment fragment' : Fragment}
    (hints : hint.Reported similar settings hint')
    (checks : fragment.check.Twin similar True fragment'.check) :
    Twin similar settings (.checked hint fragment) (.checked hint' fragment')

/-- Plans that cannot be told apart. -/
structure Plan.Twin (similar : World → World → Prop) (settings : Settings) (a b : Plan) :
    Prop where
  parameters : List.Forall₂ (ParameterCheck.Twin similar settings) a.parameters b.parameters
  result : a.result.Twin similar settings b.result
  needsRandom : a.needsRandom = b.needsRandom

/-! ### Calls under a guard -/

namespace Guard

variable {guard guard' : Guard}

theorem reject_corresponds {Result : Type} (similarity : Similarity similar)
    (settings : guard.settings = guard'.settings) (function : String) (site : Site) (name : String)
    {hint hint' : Hint} (hints : hint.Reported similar guard'.settings hint') (value : Value)
    (random : UInt32) :
    Corresponds similar (guard.reject function site name hint value random : Action Result)
      (guard'.reject function site name hint' value random) := by
  refine corresponds_bind ?_ fun violation => corresponds_throw (.violation violation)
  rw [settings]
  exact report_corresponds similarity hints.text function site name value
    (hints.search random value)

theorem checkArgument_corresponds (similarity : Similarity similar)
    (settings : guard.settings = guard'.settings) (function : String) {check check' : ParameterCheck}
    (twin : check.Twin similar guard'.settings check') (random : UInt32) (value : Value) :
    Corresponds similar (guard.checkArgument function check random value)
      (guard'.checkArgument function check' random value) := by
  refine corresponds_ite (twin.check.verdict value random) (corresponds_pure _) ?_
  rw [twin.name]
  exact reject_corresponds similarity settings function .parameter check'.name twin.hint value
    random

theorem checkResult_corresponds (similarity : Similarity similar)
    (settings : guard.settings = guard'.settings)
    (results : guard.plan.result.Twin similar guard'.settings guard'.plan.result)
    (function : String) (random : UInt32) (value : Value) :
    Corresponds similar (guard.checkResult function random value)
      (guard'.checkResult function random value) := by
  unfold checkResult
  generalize guard.plan.result = result at results ⊢
  generalize guard'.plan.result = result' at results ⊢
  cases results with
  | unchecked => exact corresponds_pure value
  | never =>
    exact reject_corresponds similarity settings function .result resultName
      (Hint.reported_self similarity _ _) value random
  | checked hints checks =>
    exact corresponds_ite (checks.verdict value random) (corresponds_pure value)
      (reject_corresponds similarity settings function .result resultName hints value random)

/-- Calls under guards with plans that cannot be told apart come to the same outcome if the calls
inside do. -/
theorem call_corresponds (similarity : Similarity similar)
    (settings : guard.settings = guard'.settings)
    (plans : guard.plan.Twin similar guard'.settings guard'.plan) (function : String)
    (arguments : Arguments) {proceed proceed' : Action Value}
    (inside : Corresponds similar proceed proceed') :
    Corresponds similar (guard.call function arguments proceed)
      (guard'.call function arguments proceed') := by
  have checked (random : UInt32) : Corresponds similar (guard.plan.parameters.forM fun check =>
        (check.taken arguments).forM (guard.checkArgument function check random))
      (guard'.plan.parameters.forM fun check =>
        (check.taken arguments).forM (guard'.checkArgument function check random)) := by
    refine corresponds_forM (plans.parameters.imp fun check check' twin => ?_)
    rw [twin.taken_eq arguments]
    exact corresponds_forM (List.forall₂_same.mpr fun value _ =>
      checkArgument_corresponds similarity settings function twin random value)
  have rest (random : UInt32) := corresponds_bind (checked random) fun _ =>
    corresponds_bind inside fun value =>
      checkResult_corresponds similarity settings plans.result function random value
  unfold call
  rw [plans.needsRandom, settings]
  cases guard'.plan.needsRandom with
  | true => exact corresponds_bind (similarity.draw _) rest
  | false => exact corresponds_bind (corresponds_pure 0) rest

end Guard

end CallGuard
