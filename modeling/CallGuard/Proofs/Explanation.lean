/-
Why calls end in violations. A guard rejects a value after its check said no and
reports what the search for a cause then finds. The check need not have been
made for the hint that is searched; it serves the hint if it was made for one
that is the same. Where references with one name in one scope stand for one
hint, the two are alike, the search finds a cause, and the violation is
explained. Values with instances of classes derived from `dict` are excepted.
-/
import CallGuard.Function
import CallGuard.Proofs.Agreement

namespace CallGuard

/-! ### Explained violations -/

/-- The violation was reported after a search that found the given cause, or nothing. -/
def Violation.Reports (violation : Violation) (found : Option Cause) : Prop :=
  ∃ (settings : Settings) (random : UInt32) (hint : Hint) (world middle after : World),
    (Cause.find settings random hint violation.value).Ends world found middle ∧
      (report settings violation.function violation.site violation.name hint violation.value
        random).Ends world violation after

/-- The violation was reported with a cause that a search found. -/
def Violation.Explained (violation : Violation) : Prop :=
  ∃ cause, violation.Reports (some cause) ∧ violation.cause = cause.text

/-- The failure is not a violation, or it is one that is explained, unless the value has an
instance of a class derived from `dict` in it. -/
def Failure.Justified (failure : Failure) : Prop :=
  ∀ violation, failure = .violation violation → violation.value.FreeOf .dict → violation.Explained

theorem Failure.justified_of_ne {failure : Failure}
    (other : ∀ violation, failure ≠ .violation violation) : failure.Justified :=
  fun violation same => absurd same (other violation)

namespace Action

variable {Result Other : Type} {agreed : (Reference → Option Hint) → Prop}

/-- Started where references stand for what is agreed, the action leaves them standing for what is
agreed, and the violations it ends in are explained. -/
def Explains (agreed : (Reference → Option Hint) → Prop) (action : Action Result) : Prop :=
  Upholds (fun world => agreed world.denotes) (fun _ => True) Failure.Justified action

theorem explains_bind {action : Action Other} {next : Other → Action Result}
    (first : Explains agreed action) (rest : ∀ value, Explains agreed (next value)) :
    Explains agreed (action >>= next) :=
  upholds_bind first fun value _ => rest value

theorem explains_of_steady {action : Action Result}
    (each : ∀ meaning, agreed meaning →
      Upholds (fun world => world.denotes = meaning) (fun _ => True) Failure.Justified action) :
    Explains agreed action := by
  intro before allowed
  obtain ⟨succeeds, fails⟩ := each before.denotes allowed before rfl
  refine ⟨fun result after ended => ?_, fun failure after failed => ?_⟩
  · have steady : after.denotes = before.denotes := (succeeds result after ended).1
    exact ⟨show agreed after.denotes from steady ▸ allowed, trivial⟩
  · obtain ⟨steady, justified⟩ := fails failure after failed
    have steady : after.denotes = before.denotes := steady
    exact ⟨show agreed after.denotes from steady ▸ allowed, justified⟩

theorem explains_of_quiet {action : Action Result} (quiet : ∀ meaning, Quiet meaning action) :
    Explains agreed action :=
  explains_of_steady fun meaning _ =>
    (quiet meaning).weaken (fun _ => id) fun _ => Failure.justified_of_ne

end Action

/-! ### Checks that serve a hint -/

/-- References with one name in one scope stand for one hint. -/
def Coherent (meaning : Reference → Option Hint) : Prop :=
  ∀ target target' : Reference, target.name = target'.name → target.scope = target'.scope →
    meaning target = meaning target'

/-- The check was made for the hint or for one that is the same. -/
structure Settings.Serves (settings : Settings) (predicates : Nat → Value → Bool) (hint : Hint)
    (check : Check) : Prop where
  made : hint.WellMade predicates
  twin : ∃ twin : Hint, twin.WellMade predicates ∧ settings.check twin = .ok check ∧
    (twin = hint ∨ twin.same hint = true)

/-- The checks of a plan serve their hints. -/
structure Plan.Serves (plan : Plan) (settings : Settings) (predicates : Nat → Value → Bool) :
    Prop where
  parameters : ∀ check ∈ plan.parameters,
    settings.Serves predicates check.hint check.fragment.check
  result : ∀ hint fragment, plan.result = .checked hint fragment →
    settings.Serves predicates hint fragment.check

section Serving

variable {settings : Settings} {predicates : Nat → Value → Bool} {hint : Hint} {check : Check}
  {meaning : Reference → Option Hint}

theorem Settings.Serves.agrees (serves : settings.Serves predicates hint check)
    (coherent : Coherent meaning) (value : Value) (random : UInt32) :
    Action.Agrees (value.FreeOf .dict) value.Ordinary meaning (check.verdict value random)
      (Cause.find settings random hint value) := by
  obtain ⟨twin, made, synthesized, same⟩ := serves.twin
  have alike : Hint.Alike meaning twin hint := by
    rcases same with rfl | same
    · exact .refl twin
    · refine Hint.alike_of_same made serves.made (fun target target' _ _ => ?_) same
      exact coherent target target'
  exact Cause.checkWithin_agrees alike synthesized

end Serving

/-! ### Reports -/

section Reports

open CallGuard.Action

variable {settings : Settings} {function name : String} {site : Site} {hint : Hint} {value : Value}
  {random : UInt32} {meaning : Reference → Option Hint}

theorem report_quiet : Quiet meaning (report settings function site name hint value random) :=
  quiet_bind (Cause.findWithin_quiet _ hint) fun _ =>
    quiet_bind (quiet_note .debug "report" _) fun _ => quiet_pure

/-- A report is about the value and gives the cause that was found, if one was. -/
theorem report_ends {before after : World} {violation : Violation}
    (ended : (report settings function site name hint value random).Ends before violation after) :
    ∃ found middle, (Cause.find settings random hint value).Ends before found middle ∧
      violation.value = value ∧ violation.Reports found ∧
      ∀ cause, found = some cause → violation.cause = cause.text := by
  have ended' := ended
  obtain ⟨found, middle, search, rest⟩ := ends_bind.mp ended
  obtain ⟨_, _, -, rest⟩ := ends_bind.mp rest
  obtain ⟨rfl, -⟩ := ends_pure.mp rest
  refine ⟨found, middle, search, rfl, ?_, ?_⟩
  · exact ⟨settings, random, hint, before, middle, after, search, ended'⟩
  · rintro cause rfl
    rfl

end Reports

/-! ### Guards -/

namespace Guard

open CallGuard.Action

variable {Result : Type} {guard : Guard} {predicates : Nat → Value → Bool}
  {agreed : (Reference → Option Hint) → Prop} {meaning : Reference → Option Hint}
  {function name : String} {site : Site} {hint : Hint} {value : Value} {random : UInt32}

/-- A rejection is justified if no search comes to nothing. -/
theorem reject_upholds
    (fruitful : value.FreeOf .dict → ∀ before after, before.denotes = meaning →
      ¬ (Cause.find guard.settings random hint value).Ends before none after) :
    Upholds (fun world => world.denotes = meaning) (fun _ => True) Failure.Justified
      (guard.reject function site name hint value random : Action Result) := by
  intro before steady
  refine ⟨fun result after ended => ?_, fun failure after failed => ?_⟩
  · obtain ⟨_, _, -, thrown⟩ := ends_bind.mp ended
    exact absurd thrown not_ends_throw
  · rcases fails_bind.mp failed with failed | ⟨violation, middle, ended, thrown⟩
    · exact ((report_quiet before steady).2 failure after failed).imp_right Failure.justified_of_ne
    · obtain ⟨rfl, rfl⟩ := fails_throw.mp thrown
      refine ⟨report_quiet.steady steady ended, ?_⟩
      rintro _ ⟨⟩ free
      obtain ⟨found, _, search, same, reports, given⟩ := report_ends ended
      rw [same] at free
      cases found with
      | none => exact absurd search (fruitful free before _ steady)
      | some cause => exact ⟨cause, reports, given cause rfl⟩

/-- What is done after a check that serves the hint, or the rejection by it, is justified. -/
theorem verdict_upholds {check : Check} {next : Action Result}
    (serves : guard.settings.Serves predicates hint check) (coherent : Coherent meaning)
    (passed : Upholds (fun world => world.denotes = meaning) (fun _ => True) Failure.Justified
      next) :
    Upholds (fun world => world.denotes = meaning) (fun _ => True) Failure.Justified (do
      if ← check.verdict value random then next
      else guard.reject function site name hint value random) := by
  have agree := serves.agrees coherent value random
  refine upholds_bind (agree.upholds.weaken (fun _ => id) fun _ => Failure.justified_of_ne)
    fun answer fruitful => ?_
  cases answer with
  | true => exact passed
  | false => exact reject_upholds (fruitful rfl)

theorem find_never : Cause.find guard.settings random .never value =
    pure (Cause.leaf (value.described ++ " returned despite NoReturn")) := rfl

theorem checkArgument_explains {check : ParameterCheck}
    (serves : guard.settings.Serves predicates check.hint check.fragment.check)
    (coherent : ∀ meaning, agreed meaning → Coherent meaning) :
    Explains agreed (guard.checkArgument function check random value) :=
  explains_of_steady fun meaning allowed =>
    verdict_upholds serves (coherent meaning allowed) (upholds_pure trivial)

theorem checkResult_explains (serves : guard.plan.Serves guard.settings predicates)
    (coherent : ∀ meaning, agreed meaning → Coherent meaning) :
    Explains agreed (guard.checkResult function random value) := by
  refine explains_of_steady fun meaning allowed => ?_
  unfold checkResult
  cases planned : guard.plan.result with
  | unchecked => exact upholds_pure trivial
  | never =>
    refine reject_upholds fun _ before after _ ended => ?_
    rw [find_never] at ended
    exact Option.some_ne_none _ (ends_pure.mp ended).1
  | checked hint fragment =>
    exact verdict_upholds (serves.result hint fragment planned) (coherent meaning allowed)
      (upholds_pure trivial)

/-- The violations that a guarded call ends in are explained if those are that the function inside
ends in. -/
theorem call_explains {arguments : Arguments} {proceed : Action Value}
    (serves : guard.plan.Serves guard.settings predicates)
    (coherent : ∀ meaning, agreed meaning → Coherent meaning)
    (inside : Explains agreed proceed) :
    Explains agreed (guard.call function arguments proceed) := by
  have rest (random : UInt32) : Explains agreed (do
      guard.plan.parameters.forM fun check =>
        (check.taken arguments).forM (guard.checkArgument function check random)
      guard.checkResult function random (← proceed)) := by
    refine explains_bind (upholds_forM fun check member => upholds_forM fun value _ => ?_)
      fun _ => explains_bind inside fun value => checkResult_explains serves coherent
    exact checkArgument_explains (serves.parameters check member) coherent
  unfold call
  split
  · exact explains_bind (explains_of_quiet fun _ => quiet_draw _) rest
  · exact explains_bind (upholds_pure trivial) rest

end Guard

/-! ### Functions -/

/-- The hints of a signature are made well. -/
structure Signature.WellMade (predicates : Nat → Value → Bool) (signature : Signature) : Prop where
  parameters : ∀ parameter ∈ signature.parameters, ∀ hint, parameter.hint = some hint →
    hint.WellMade predicates
  returns : ∀ hint, signature.returns = some hint → hint.WellMade predicates

namespace Function

variable {predicates : Nat → Value → Bool} {agreed : (Reference → Option Hint) → Prop}

/-- A body whose violations are explained, inside any number of guards with checks that serve their
hints. -/
inductive Sound (predicates : Nat → Value → Bool) (agreed : (Reference → Option Hint) → Prop) :
    Function → Prop
  | plain {signature : Signature} {identity : Nat} {body : Arguments → Action Value}
    (made : signature.WellMade predicates)
    (explains : ∀ arguments, Action.Explains agreed (body arguments)) :
    Sound predicates agreed (plain signature identity body)
  | guarded {signature : Signature} {identity : Nat} {guard : Guard} {inner : Function}
    (made : signature.WellMade predicates)
    (serves : guard.plan.Serves guard.settings predicates)
    (inside : Sound predicates agreed inner) :
    Sound predicates agreed (guarded signature identity guard inner)

theorem Sound.made {function : Function} (sound : Sound predicates agreed function) :
    function.signature.WellMade predicates := by
  cases sound with
  | plain made _ => exact made
  | guarded made _ _ => exact made

theorem Sound.withSignature {function : Function} {signature : Signature}
    (sound : Sound predicates agreed function) (made : signature.WellMade predicates) :
    Sound predicates agreed (function.withSignature signature) := by
  cases sound with
  | plain _ explains => exact .plain made explains
  | guarded _ serves inside => exact .guarded made serves inside

/-- The violations that calls of a sound function end in are explained. -/
theorem Sound.explains {function : Function} (sound : Sound predicates agreed function)
    (coherent : ∀ meaning, agreed meaning → Coherent meaning) (arguments : Arguments) :
    Action.Explains agreed (function.call arguments) := by
  induction sound with
  | plain _ explains => exact explains arguments
  | guarded _ serves _ ih =>
    exact Guard.call_explains serves coherent ih

end Function

end CallGuard
