/-
Which values are one and the same, and what becomes of them on their way through
a guard. Sameness is symmetric and transitive, and every value is the same as
itself except a complex number with a part that is not a number: floats are
compared by their bits and complex numbers as numbers. A guard hands on what the
function inside returned and reports what it rejected, without making either
anew. So a function that hands back what it was given still does so inside a
guard, and the first culprit of a violation is the rejected value.
-/
import CallGuard.Proofs.Redecoration
import CallGuard.Proofs.Trail

namespace CallGuard

/-! ### Sameness of values -/

namespace Value

/-- The two values are one and the same. -/
inductive Same : Value → Value → Prop
  | null : Same null null
  | bool (truth : Bool) : Same (bool truth) (bool truth)
  | int (number : Int) : Same (int number) (int number)
  | float (number : Binary64) : Same (float number) (float number)
  | complex {x y x' y' : Binary64} (real : x.eq x' = true) (imaginary : y.eq y' = true) :
    Same (complex x y) (complex x' y')
  | str (identity : Nat) (text text' : String) : Same (str identity text) (str identity text')
  | bytes (identity : Nat) (data data' : List UInt8) :
    Same (bytes identity data) (bytes identity data')
  | list (identity : Nat) (items items' : List Value) :
    Same (list identity items) (list identity items')
  | tuple (identity : Nat) (items items' : List Value) :
    Same (tuple identity items) (tuple identity items')
  | set (identity : Nat) (items items' : List Value) :
    Same (set identity items) (set identity items')
  | frozenset (identity : Nat) (items items' : List Value) :
    Same (frozenset identity items) (frozenset identity items')
  | dict (identity : Nat) (entries entries' : List (Value × Value)) :
    Same (dict identity entries) (dict identity entries')
  | classObject (described : Class) : Same (classObject described) (classObject described)
  | object (identity : Nat) (kind kind' : Class) : Same (object identity kind) (object identity kind')

theorem isSame_iff {a b : Value} : isSame a b = true ↔ Same a b := by
  constructor
  · intro same
    fun_cases isSame a b
    case case11 texts data lists tuples sets frozensets dicts classes objects floats =>
      -- Equality decides about nothing, truth values, integers and complex numbers.
      rw [isSame.eq_11 _ _ texts data lists tuples sets frozensets dicts classes objects floats]
        at same
      cases equal_iff.mp same with
      | null => exact .null
      | bool truth => exact .bool truth
      | int number => exact .int number
      | complex real imaginary => exact .complex real imaginary
      | float => exact (floats _ _ rfl rfl).elim
      | str => exact (texts _ _ _ _ rfl rfl).elim
      | bytes => exact (data _ _ _ _ rfl rfl).elim
      | list => exact (lists _ _ _ _ rfl rfl).elim
      | tuple => exact (tuples _ _ _ _ rfl rfl).elim
      | set => exact (sets _ _ _ _ rfl rfl).elim
      | frozenset => exact (frozensets _ _ _ _ rfl rfl).elim
      | dict => exact (dicts _ _ _ _ rfl rfl).elim
      | classObject => exact (classes _ _ rfl rfl).elim
      | object => exact (objects _ _ _ _ rfl rfl).elim
    all_goals
      rw [isSame] at same
      cases eq_of_beq same
      constructor
  · intro same
    cases same with
    | null => exact equal_iff.mpr .null
    | bool truth => exact equal_iff.mpr (.bool truth)
    | int number => exact equal_iff.mpr (.int number)
    | complex real imaginary => exact equal_iff.mpr (.complex real imaginary)
    | _ => exact beq_self_eq_true _

theorem isSame_symm {a b : Value} (same : isSame a b = true) : isSame b a = true := by
  refine isSame_iff.mpr ?_
  cases isSame_iff.mp same with
  | complex real imaginary => exact .complex (Binary64.eq_symm real) (Binary64.eq_symm imaginary)
  | _ => constructor

theorem isSame_trans {a b c : Value} (first : isSame a b = true) (second : isSame b c = true) :
    isSame a c = true := by
  refine isSame_iff.mpr ?_
  have second := isSame_iff.mp second
  cases isSame_iff.mp first with
  | complex real imaginary =>
    cases second with
    | complex real' imaginary' =>
      exact .complex (Binary64.eq_trans real real') (Binary64.eq_trans imaginary imaginary')
  | _ =>
    cases second
    constructor

/-- The value is not a complex number with a part that is not a number. -/
def Selfsame (value : Value) : Prop :=
  ∀ real imaginary, value = complex real imaginary → real.isNaN = false ∧ imaginary.isNaN = false

theorem isSame_self_iff {value : Value} : isSame value value = true ↔ value.Selfsame := by
  rw [isSame_iff]
  constructor
  · rintro same real imaginary rfl
    cases same with
    | complex real imaginary =>
      exact ⟨Binary64.eq_self_iff.mp real, Binary64.eq_self_iff.mp imaginary⟩
  · intro selfsame
    cases value with
    | complex real imaginary =>
      obtain ⟨isReal, isImaginary⟩ := selfsame real imaginary rfl
      exact .complex (Binary64.eq_self_iff.mpr isReal) (Binary64.eq_self_iff.mpr isImaginary)
    | _ => constructor

end Value

/-! ### The rejected value -/

/-- If the failure is a violation, its first culprit is the rejected value. -/
def Failure.Headed (failure : Failure) : Prop :=
  ∀ violation, failure = .violation violation → violation.culprits.head? = some violation.value

theorem Failure.headed_of_ne {failure : Failure}
    (other : ∀ violation, failure ≠ .violation violation) : failure.Headed :=
  fun violation same => absurd same (other violation)

namespace Action

variable {Result Other : Type}

/-- However the action ends, the result is as wanted, and the first culprit of a violation is the
rejected value. -/
def HandsOn (wanted : Result → Prop) (action : Action Result) : Prop :=
  Upholds (fun _ : World => True) wanted Failure.Headed action

theorem Inquires.handsOn {action : Action Result} (inquires : Inquires action) :
    HandsOn (fun _ => True) action := by
  intro before _
  have quiet := inquires.quiet before rfl
  exact ⟨fun _ _ _ => ⟨trivial, trivial⟩, fun failure after failed =>
    ⟨trivial, Failure.headed_of_ne (quiet.2 failure after failed).2⟩⟩

end Action

open CallGuard.Action

theorem report_headed {settings : Settings} {function name : String} {site : Site} {hint : Hint}
    {value : Value} {random : UInt32} {before after : World} {violation : Violation}
    (ended : (report settings function site name hint value random).Ends before violation after) :
    violation.value = value ∧ violation.culprits.head? = some value := by
  obtain ⟨-, same, cause, -, -, culprits⟩ := (report_tracing before trivial).1 violation after ended
  exact ⟨same, by rw [culprits, List.head?_cons]⟩

namespace Guard

variable {Result : Type} {guard : Guard} {function name : String} {site : Site} {hint : Hint}
  {value : Value} {random : UInt32}

theorem reject_handsOn {wanted : Result → Prop} :
    HandsOn wanted (guard.reject function site name hint value random : Action Result) := by
  intro before _
  refine ⟨fun result after ended => ?_, fun failure after failed => ⟨trivial, ?_⟩⟩
  · obtain ⟨_, _, -, thrown⟩ := ends_bind.mp ended
    exact absurd thrown not_ends_throw
  · rcases fails_bind.mp failed with failed | ⟨violation, middle, ended, thrown⟩
    · exact Failure.headed_of_ne ((report_quiet before rfl).2 failure after failed).2
    · obtain ⟨rfl, -⟩ := fails_throw.mp thrown
      rintro _ ⟨⟩
      obtain ⟨same, head⟩ := report_headed ended
      rw [head, same]

theorem verdict_handsOn {check : Check} {wanted : Result → Prop} {next : Action Result}
    (inquiring : check.Inquiring) (passed : HandsOn wanted next) :
    HandsOn wanted (do
      if ← check.verdict value random then next
      else guard.reject function site name hint value random) := by
  refine upholds_bind (inquiring value random).handsOn fun answer _ => ?_
  cases answer with
  | true => exact passed
  | false => exact reject_handsOn

theorem checkResult_handsOn (inquiring : guard.plan.Inquiring) :
    HandsOn (fun result => result = value) (guard.checkResult function random value) := by
  unfold checkResult
  cases planned : guard.plan.result with
  | unchecked => exact upholds_pure rfl
  | never => exact reject_handsOn
  | checked hint fragment =>
    exact verdict_handsOn (inquiring.result hint fragment planned) (upholds_pure rfl)

/-- What holds of the result of the call inside holds of the result of the call under the guard. -/
theorem call_handsOn {arguments : Arguments} {proceed : Action Value} {wanted : Value → Prop}
    (inquiring : guard.plan.Inquiring) (inside : HandsOn wanted proceed) :
    HandsOn wanted (guard.call function arguments proceed) := by
  rw [call_eq_enter, enter_eq_runTests]
  have drawn : HandsOn (fun _ => True) guard.integer := by
    intro before _
    obtain ⟨random, start, ended⟩ := guard.integer_ends before
    refine ⟨fun _ _ _ => ⟨trivial, trivial⟩, fun failure after failed => ?_⟩
    cases ended.symm.trans failed
  have admitted : HandsOn (fun _ => True) (do
      let random ← guard.integer
      guard.runTests function random (guard.plan.tests arguments)
      return random) := by
    refine upholds_bind drawn fun random _ => upholds_bind (upholds_forM ?_) fun _ _ =>
      upholds_pure trivial
    intro test member
    obtain ⟨check, planned, inside⟩ := List.mem_flatMap.mp member
    obtain ⟨value, -, rfl⟩ := List.mem_map.mp inside
    exact verdict_handsOn (inquiring.parameters check planned) (upholds_pure trivial)
  refine upholds_bind admitted fun random _ => upholds_bind inside fun value known => ?_
  refine (checkResult_handsOn inquiring).weaken ?_ fun _ => id
  rintro _ rfl
  exact known

end Guard

/-! ### Through a guard -/

section Guarded

variable {bodies : Nat → Arguments → Action Value} {registry : Registry} {settings : Settings}
  {signature : Signature} {number : Nat} {guarded : Function} {world : World} {after : Workshop}

/-- What holds of the results of a body holds of the results of the function that guarding it
gives. -/
theorem Settings.decorate_handsOn (employed : registry.Employed (fun _ => True) bodies)
    (run : (settings.decorate (.written bodies signature number)).run.run ⟨registry, world⟩ =
      (.ok guarded, after)) {arguments : Arguments} {wanted : Value → Prop}
    (inside : HandsOn wanted (bodies number arguments)) :
    HandsOn wanted (guarded.call arguments) := by
  cases Function.settled_of_decorate run with
  | unneeded _ same =>
    subst same
    exact inside
  | filed _ found =>
    have founded : (Function.written bodies signature number).Founded
        (fun _ signature => signature.Trusted fun _ => True) bodies := .written signature.trusted_all
    have stocked := (settings.decorate_stocked ⟨registry, world⟩ founded employed.stocked).1
    rw [run] at stocked
    obtain ⟨_, _, _, key, -, encloses⟩ := stocked.guards _ _ found
    obtain ⟨-, rfl, -⟩ := GuardKey.eq_of_of key
    cases encloses with
    | guarded _ fits plan _ => exact Guard.call_handsOn (plan ▸ fits.inquiring) inside

/-- Sameness is symmetric and transitive, and a value is the same as itself just if it is not a
complex number with a part that is not a number. A guarded function that hands back what it was
given returns that very value, and the first culprit of a violation is the rejected value itself;
so they are the same just if the value is the same as itself. -/
theorem Settings.identity_preserved (employed : registry.Employed (fun _ => True) bodies)
    (run : (settings.decorate (.written bodies signature number)).run.run ⟨registry, world⟩ =
      (.ok guarded, after)) :
    (∀ a b : Value, a.isSame b = true → b.isSame a = true) ∧
    (∀ a b c : Value, a.isSame b = true → b.isSame c = true → a.isSame c = true) ∧
    (∀ value : Value, value.isSame value = true ↔ value.Selfsame) ∧
    (∀ arguments value, bodies number arguments = pure value → ∀ before result later,
      (guarded.call arguments).Ends before result later →
        result = value ∧ (result.isSame value = true ↔ value.Selfsame)) ∧
    (∀ arguments,
      (∀ before failure later, (bodies number arguments).Fails before failure later →
        failure.Headed) →
      ∀ before failure later, (guarded.call arguments).Fails before failure later →
        failure.Headed) ∧
    ∀ settings function site name hint value random before violation later,
      (report settings function site name hint value random).Ends before violation later →
        violation.value = value ∧ violation.culprits.head? = some value ∧
          (value.isSame violation.value = true ↔ value.Selfsame) := by
  refine ⟨fun _ _ => Value.isSame_symm, fun _ _ _ => Value.isSame_trans,
    fun _ => Value.isSame_self_iff, ?_, ?_, ?_⟩
  · intro arguments value given before result later ended
    have inside : HandsOn (· = value) (bodies number arguments) := by
      rw [given]
      exact upholds_pure rfl
    obtain ⟨-, rfl⟩ := (decorate_handsOn employed run inside before trivial).1 result later ended
    exact ⟨rfl, Value.isSame_self_iff⟩
  · intro arguments headed before failure later failed
    have inside : HandsOn (fun _ => True) (bodies number arguments) := fun before _ =>
      ⟨fun _ _ _ => ⟨trivial, trivial⟩, fun failure later failed =>
        ⟨trivial, headed before failure later failed⟩⟩
    exact ((decorate_handsOn employed run inside before trivial).2 failure later failed).2
  · intro settings function site name hint value random before violation later ended
    obtain ⟨same, head⟩ := report_headed ended
    exact ⟨same, head, same ▸ Value.isSame_self_iff⟩

end Guarded

/-! ### Complex numbers -/

/-- A body that hands back its first argument. -/
def handingBack : Nat → Arguments → Action Value :=
  fun _ arguments => pure (arguments.positional.head?.getD .null)

/-- A guard that admits complex numbers in front of such a body. -/
theorem Settings.exists_guarded_complex :
    let settings := Settings.standard ⟨102, .fixed 5⟩
    ∃ guarded after,
      (settings.decorate (.written handingBack (.taking (.instanceOf .complex)) 103)).run.run
        ⟨.empty, .initial⟩ = (.ok guarded, after) ∧
      (∀ real imaginary world, (guarded.call ⟨[.complex real imaginary], []⟩).Ends world
        (.complex real imaginary) world) ∧
      ∃ violation later, (guarded.call ⟨[.str 104 "a"], []⟩).Fails .initial (.violation violation)
        later := by
  intro settings
  have acceptable : (Signature.taking (.instanceOf .complex)).Acceptable Validator.lenient :=
    Signature.acceptable_instanceOf Validator.lenient (by decide) (by decide)
  obtain ⟨number, guard, after, run, under, plan, -⟩ :=
    settings.exists_decorate_taking handingBack acceptable rfl rfl 103 .initial
  refine ⟨_, after, run, fun real imaginary world => ?_, ?_⟩
  · rw [Function.call, Guard.call_taking plan rfl]
    rfl
  · rw [Function.call, Guard.call_taking plan rfl, Guard.reject, under]
    exact ⟨_, _, rfl⟩

/-- A complex number comes back from behind a guard as the same one, and the first culprit of a
rejected text is the text. -/
theorem Settings.identity_preserved_for_complex :
    let settings := Settings.standard ⟨102, .fixed 5⟩
    let value : Value := .complex ⟨0x3FF0000000000000⟩ ⟨0⟩
    ∃ guarded after,
      (settings.decorate (.written handingBack (.taking (.instanceOf .complex)) 103)).run.run
        ⟨.empty, .initial⟩ = (.ok guarded, after) ∧
      (∃ result later, (guarded.call ⟨[value], []⟩).Ends .initial result later ∧
        result.isSame value = true) ∧
      ∃ violation later, (guarded.call ⟨[.str 104 "a"], []⟩).Fails .initial (.violation violation)
        later ∧ violation.culprits.head? = some violation.value := by
  intro settings value
  obtain ⟨guarded, after, run, returns, violation, later, failed⟩ := exists_guarded_complex
  obtain ⟨-, -, -, hands, headed, -⟩ := settings.identity_preserved .fresh run
  obtain ⟨-, same⟩ := hands ⟨[value], []⟩ value rfl .initial _ _ (returns _ _ .initial)
  refine ⟨guarded, after, run, ⟨_, _, returns _ _ .initial, same.mpr ?_⟩, violation, later, failed,
    headed _ ?_ .initial _ later failed violation rfl⟩
  · intro real imaginary same
    obtain ⟨rfl, rfl⟩ := Value.complex.inj same
    decide
  · rintro _ _ _ ⟨⟩

/-- A complex number with a part that is not a number is not the same as itself. It is returned from
behind a guard, and it is its own first culprit, and yet neither is the same as what was given. -/
theorem Settings.identity_lost :
    let settings := Settings.standard ⟨102, .fixed 5⟩
    let value : Value := .complex ⟨0x7FF8000000000000⟩ ⟨0⟩
    value.isSame value = false ∧
    (∃ guarded after result later,
      (settings.decorate (.written handingBack (.taking (.instanceOf .complex)) 103)).run.run
        ⟨.empty, .initial⟩ = (.ok guarded, after) ∧
      (guarded.call ⟨[value], []⟩).Ends .initial result later ∧ result.isSame value = false) ∧
    ∃ violation later culprit,
      (report settings "f" .parameter "x" (.instanceOf .int) value 0).Ends .initial violation later ∧
        violation.culprits.head? = some culprit ∧ culprit.isSame violation.value = false := by
  intro settings value
  obtain ⟨guarded, after, run, returns, -⟩ := exists_guarded_complex
  have differs : value.isSame value = false := by decide +kernel
  exact ⟨differs, ⟨guarded, after, _, _, run, returns _ _ .initial, differs⟩, _, _, _, rfl, rfl, differs⟩

end CallGuard
