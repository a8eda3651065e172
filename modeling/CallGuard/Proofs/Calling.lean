/-
Calls under a guard, step by step. A guard first admits the arguments: it draws
an integer if its plan needs one and asks the checks of the arguments in order.
Then the call inside is made, and the guard looks at what came of it. Admitting
draws at most one integer, from the source of the guard; the checks themselves
are inquiries and draw none.
-/
import CallGuard.Proofs.Asking
import CallGuard.Proofs.Making

namespace CallGuard

open CallGuard.Action

/-! ### Draws -/

namespace Action

variable {Result Other Item : Type} {source : IndexSource} {limit limit' : Nat}

/-- However the action ends, it draws at most the given number of integers, all of them from the
source. -/
def Draws (source : IndexSource) (limit : Nat) (action : Action Result) : Prop :=
  ∀ world, ∃ count ≤ limit, ∀ other : IndexSource, (action.run.run world).2.draws other =
    world.draws other + if other.serial = source.serial then count else 0

variable {action : Action Result}

theorem Draws.weaken (draws : Draws source limit action)
    (more : limit ≤ limit') : Draws source limit' action := by
  intro world
  obtain ⟨count, few, drawn⟩ := draws world
  exact ⟨count, Nat.le_trans few more, drawn⟩

theorem draws_of_drawn_eq
    (same : ∀ world, (action.run.run world).2.drawn = world.drawn) : Draws source 0 action := by
  refine fun world => ⟨0, Nat.le_refl _, fun other => ?_⟩
  rw [World.draws, World.draws, same world, ite_self, Nat.add_zero]

theorem draws_pure (value : Result) : Draws source 0 (pure value) := draws_of_drawn_eq fun _ => rfl

theorem draws_throw (failure : Failure) : Draws source 0 (throw failure : Action Result) :=
  draws_of_drawn_eq fun _ => rfl

theorem draws_after_draw (source other : IndexSource) (world : World) :
    ((draw source).run.run world).2.draws other =
      world.draws other + if other.serial = source.serial then 1 else 0 := by
  show ((world.drawn.set source.serial (world.draws source + 1)).get? other.serial).getD 0 = _
  by_cases same : other.serial = source.serial
  · rw [if_pos same, same, Table.get?_set_self, World.draws, World.draws, same]
    rfl
  · rw [if_neg same, Table.get?_set_other _ _ same]
    rfl

theorem draws_draw (source : IndexSource) : Draws source 1 (draw source) :=
  fun world => ⟨1, Nat.le_refl _, fun other => draws_after_draw source other world⟩

/-- What draws nothing leaves the numbers of draws as they are. -/
theorem Draws.unchanged (draws : Draws source 0 action) (world : World)
    (other : IndexSource) : (action.run.run world).2.draws other = world.draws other := by
  obtain ⟨count, none, drawn⟩ := draws world
  rw [drawn other, Nat.le_zero.mp none, ite_self, Nat.add_zero]

theorem draws_bind {action : Action Other} {next : Other → Action Result}
    (first : Draws source limit action) (rest : ∀ value, Draws source limit' (next value)) :
    Draws source (limit + limit') (action >>= next) := by
  intro world
  obtain ⟨count, few, drawn⟩ := first world
  rw [ExceptT.run_bind, StateT.run_bind]
  rcases run : action.run.run world with ⟨failure | value, middle⟩
  · rw [run] at drawn
    exact ⟨count, Nat.le_trans few (Nat.le_add_right _ _), drawn⟩
  · rw [run] at drawn
    obtain ⟨count', few', drawn'⟩ := rest value middle
    refine ⟨count + count', Nat.add_le_add few few', fun other => (drawn' other).trans ?_⟩
    rw [drawn other]
    split <;> omega

theorem Draws.andThen {action : Action Other} {next : Other → Action Result}
    (first : Draws source 0 action) (rest : ∀ value, Draws source limit (next value)) :
    Draws source limit (action >>= next) := by
  rw [← Nat.zero_add limit]
  exact draws_bind first rest

theorem draws_forM {items : List Item} {step : Item → Action PUnit}
    (each : ∀ item ∈ items, Draws source 0 (step item)) : Draws source 0 (items.forM step) := by
  induction items with
  | nil => exact draws_pure PUnit.unit
  | cons first rest ih =>
    obtain ⟨head, tail⟩ := List.forall_mem_cons.mp each
    exact head.andThen fun _ => ih tail

/-- Inquiries draw nothing. -/
theorem Inquires.draws (inquires : Inquires action) :
    Draws source 0 action := by
  refine draws_of_drawn_eq fun start => ?_
  have asks (protocol : Protocol) (c : Class) : Upholds (fun world => world.drawn = start.drawn)
      (fun _ => True) (fun _ => True) (Action.ask protocol c) := by
    refine upholds_of_after fun before same => ?_
    show World.drawn (if before.asked.contains (protocol, c) then before else _) = _
    split <;> exact same
  have resolves (reference : Reference) : Upholds (fun world => world.drawn = start.drawn)
      (fun _ => True) (fun _ => True) (Action.resolve reference) :=
    upholds_of_after fun before same =>
      after_resolve (fun world => world.drawn = start.drawn) reference same same fun _ _ => same
  exact ((inquires.upholds asks resolves fun _ _ => trivial).after start rfl).1

end Action

/-! ### Reports -/

theorem report_draws (settings : Settings) (source : IndexSource) (function : String) (site : Site)
    (name : String) (hint : Hint) (value : Value) (random : UInt32) :
    Draws source 0 (report settings function site name hint value random) :=
  (Cause.findWithin_inquires _ hint).draws.andThen fun _ =>
    (draws_of_drawn_eq fun _ => rfl).andThen fun _ => draws_pure _

namespace Guard

variable {guard : Guard}

theorem reject_draws {Result : Type} (source : IndexSource) (function : String) (site : Site)
    (name : String) (hint : Hint) (value : Value) (random : UInt32) :
    Draws source 0 (guard.reject function site name hint value random : Action Result) :=
  (report_draws _ _ _ _ _ _ _ _).andThen fun _ => draws_throw _

/-! ### Before and after the call -/

/-- The integer of a call under the guard; without need of one it is zero. -/
def integer (guard : Guard) : Action UInt32 :=
  if guard.plan.needsRandom then draw guard.settings.source else pure 0

/-- What a guard does before the call inside is made; the result is the integer of the call. -/
def enter (guard : Guard) (function : String) (arguments : Arguments) : Action UInt32 := do
  let random ← guard.integer
  guard.plan.parameters.forM fun check =>
    (check.taken arguments).forM (guard.checkArgument function check random)
  return random

/-- The call inside is made once, between admitting the arguments and looking at the result. -/
theorem call_eq_enter (function : String) (arguments : Arguments) (proceed : Action Value) :
    guard.call function arguments proceed = (do
      let random ← guard.enter function arguments
      guard.checkResult function random (← proceed)) := by
  unfold call enter integer
  split <;> simp only [bind_assoc, pure_bind]

theorem integer_draws (guard : Guard) : Draws guard.settings.source 1 guard.integer := by
  unfold integer
  split
  · exact draws_draw _
  · exact (draws_pure 0).weaken (Nat.zero_le 1)

theorem integer_ends (guard : Guard) (world : World) :
    ∃ random start, guard.integer.Ends world random start := by
  unfold integer
  split
  · exact ⟨_, _, rfl⟩
  · exact ⟨_, _, rfl⟩

end Guard

/-- All checks of the plan are inquiries. -/
structure Plan.Inquiring (plan : Plan) : Prop where
  parameters : ∀ check ∈ plan.parameters, check.fragment.check.Inquiring
  result : ∀ hint fragment, plan.result = .checked hint fragment → fragment.check.Inquiring

namespace Guard

variable {guard : Guard}

theorem checkArgument_draws (source : IndexSource) (function : String) {check : ParameterCheck}
    (inquiring : check.fragment.check.Inquiring) (random : UInt32) (value : Value) :
    Draws source 0 (guard.checkArgument function check random value) := by
  refine (inquiring value random).draws.andThen fun answer => ?_
  cases answer with
  | true => exact draws_pure ()
  | false => exact reject_draws source _ _ _ _ _ _

theorem checks_draw (source : IndexSource) (inquiring : guard.plan.Inquiring) (function : String)
    (arguments : Arguments) (random : UInt32) :
    Draws source 0 (guard.plan.parameters.forM fun check =>
      (check.taken arguments).forM (guard.checkArgument function check random)) :=
  draws_forM fun check member => draws_forM fun value _ =>
    checkArgument_draws source function (inquiring.parameters check member) random value

/-- Admitting arguments draws at most one integer, from the source of the guard. -/
theorem admit_draws (inquiring : guard.plan.Inquiring) (function : String)
    (arguments : Arguments) :
    Draws guard.settings.source 1 (guard.enter function arguments) := by
  exact draws_bind guard.integer_draws fun random =>
    (checks_draw _ inquiring function arguments random).andThen fun _ => draws_pure random

/-- Looking at the result draws nothing. -/
theorem checkResult_draws (source : IndexSource) (inquiring : guard.plan.Inquiring)
    (function : String) (random : UInt32) (value : Value) :
    Draws source 0 (guard.checkResult function random value) := by
  unfold checkResult
  split
  case h_1 => exact draws_pure value
  case h_2 => exact reject_draws source _ _ _ _ _ _
  case h_3 hint fragment result =>
    refine (inquiring.result hint fragment result value random).draws.andThen fun answer => ?_
    cases answer with
    | true => exact draws_pure value
    | false => exact reject_draws source _ _ _ _ _ _

/-! ### The course of the tests -/

end Guard

/-- The tests that a plan makes of the arguments of a call, one after the other. -/
def Plan.tests (plan : Plan) (arguments : Arguments) : List (ParameterCheck × Value) :=
  plan.parameters.flatMap fun check => (check.taken arguments).map (check, ·)

/-- All tests return true. -/
inductive Passes (random : UInt32) : List (ParameterCheck × Value) → World → World → Prop
  | nil (world : World) : Passes random [] world world
  | cons {check : ParameterCheck} {value : Value} {rest : List (ParameterCheck × Value)}
    {world middle later : World}
    (holds : (check.fragment.check.verdict value random).Ends world true middle)
    (others : Passes random rest middle later) :
    Passes random ((check, value) :: rest) world later

namespace Guard

variable {guard : Guard} {function : String} {random : UInt32}

/-- A test that does not return true and what comes of it: its own failure or, if it returns false,
the report on the value. -/
inductive Refuses (guard : Guard) (function : String) (random : UInt32) (check : ParameterCheck)
    (value : Value) (world : World) (failure : Failure) (after : World) : Prop
  | failed (fails : (check.fragment.check.verdict value random).Fails world failure after)
  | rejected {middle : World}
    (refused : (check.fragment.check.verdict value random).Ends world false middle)
    (reported : Action.Fails (guard.reject function .parameter check.name check.hint value random :
      Action Unit) middle failure after)

/-- The tests return true up to the first that does not, and the failure is that of this one. -/
def Stops (guard : Guard) (function : String) (random : UInt32)
    (tests : List (ParameterCheck × Value)) (world : World) (failure : Failure) (after : World) :
    Prop :=
  ∃ passed check value rest middle, tests = passed ++ (check, value) :: rest ∧
    Passes random passed world middle ∧
      guard.Refuses function random check value middle failure after

theorem reject_fails (function : String) (site : Site) (name : String) (hint : Hint) (value : Value)
    (random : UInt32) (world : World) : ∃ failure after,
      (guard.reject function site name hint value random : Action Unit).Fails world failure
        after := by
  rcases run : (report guard.settings function site name hint value random).run.run world with
    ⟨failure | violation, middle⟩
  · exact ⟨failure, middle, fails_bind.mpr (.inl run)⟩
  · exact ⟨.violation violation, middle,
      fails_bind.mpr (.inr ⟨violation, middle, run, fails_throw.mpr ⟨rfl, rfl⟩⟩)⟩

variable {check : ParameterCheck} {failure : Failure}

theorem checkArgument_ends {value : Value} {world later : World}
    (holds : (check.fragment.check.verdict value random).Ends world true later) :
    (guard.checkArgument function check random value).Ends world () later :=
  ends_bind.mpr ⟨true, later, holds, rfl⟩

theorem checkArgument_fails {value : Value} {world after : World}
    (refuses : guard.Refuses function random check value world failure after) :
    (guard.checkArgument function check random value).Fails world failure after := by
  cases refuses with
  | failed fails => exact fails_bind.mpr (.inl fails)
  | rejected refused reported => exact fails_bind.mpr (.inr ⟨false, _, refused, reported⟩)

/-- One test after the other. -/
def runTests (guard : Guard) (function : String) (random : UInt32)
    (tests : List (ParameterCheck × Value)) : Action Unit :=
  tests.forM fun test => guard.checkArgument function test.1 random test.2

variable {tests : List (ParameterCheck × Value)}

theorem runTests_ends {world later : World}
    (passes : Passes random tests world later) :
    (guard.runTests function random tests).Ends world () later := by
  induction passes with
  | nil world => rfl
  | cons holds _ ih =>
    exact ends_bind.mpr ⟨(), _, checkArgument_ends holds, ih⟩

theorem runTests_fails {world after : World}
    (stops : guard.Stops function random tests world failure after) :
    (guard.runTests function random tests).Fails world failure after := by
  obtain ⟨passed, check, value, rest, middle, rfl, passes, refuses⟩ := stops
  induction passes with
  | nil world => exact fails_bind.mpr (.inl (checkArgument_fails refuses))
  | cons holds _ ih =>
    exact fails_bind.mpr (.inr ⟨(), _, checkArgument_ends holds, ih refuses⟩)

theorem Stops.cons {value : Value}
    {world middle after : World}
    (holds : (check.fragment.check.verdict value random).Ends world true middle)
    (stops : guard.Stops function random tests middle failure after) :
    guard.Stops function random ((check, value) :: tests) world failure after := by
  obtain ⟨passed, check', value', rest, between, rfl, passes, refuses⟩ := stops
  exact ⟨(check, value) :: passed, check', value', rest, between, rfl, .cons holds passes, refuses⟩

theorem passes_or_stops (guard : Guard) (function : String) (random : UInt32)
    (tests : List (ParameterCheck × Value)) (world : World) :
    (∃ later, Passes random tests world later) ∨
      ∃ failure after, guard.Stops function random tests world failure after := by
  induction tests generalizing world with
  | nil => exact .inl ⟨world, .nil world⟩
  | cons test rest ih =>
    obtain ⟨check, value⟩ := test
    rcases run : (check.fragment.check.verdict value random).run.run world with
      ⟨failure | answer, middle⟩
    · exact .inr ⟨failure, middle, [], check, value, rest, world, rfl, .nil world, .failed run⟩
    · cases answer with
      | true =>
        refine (ih middle).imp ?_ ?_
        · rintro ⟨later, passes⟩
          exact ⟨later, .cons run passes⟩
        · rintro ⟨failure, after, stops⟩
          exact ⟨failure, after, stops.cons run⟩
      | false =>
        obtain ⟨failure, after, reported⟩ := guard.reject_fails function .parameter check.name
          check.hint value random middle
        exact .inr ⟨failure, after, [], check, value, rest, world, rfl, .nil world,
          .rejected run reported⟩

theorem enter_eq_runTests (function : String) (arguments : Arguments) :
    guard.enter function arguments = (do
      let random ← guard.integer
      guard.runTests function random (guard.plan.tests arguments)
      return random) := by
  have flattened (random : UInt32) : guard.runTests function random (guard.plan.tests arguments) =
      guard.plan.parameters.forM fun check =>
        (check.taken arguments).forM (guard.checkArgument function check random) := by
    unfold runTests Plan.tests
    induction guard.plan.parameters with
    | nil => rfl
    | cons check rest ih =>
      simp only [List.forM_eq_forM] at ih ⊢
      rw [List.flatMap_cons, List.forM_append, ih, List.forM_map, List.forM_cons]
  simp only [enter, flattened]

/-- Every call under a guard makes the tests of its plan. If they all return true the call inside is
made, once; otherwise the call ends with the failure of the first that does not, whatever is
inside. -/
theorem call_cases (guard : Guard) (function : String) (arguments : Arguments) (world : World) :
    ∃ random start, guard.integer.Ends world random start ∧
      (∀ later, Passes random (guard.plan.tests arguments) start later → ∀ proceed,
        (guard.call function arguments proceed).run.run world =
          (do guard.checkResult function random (← proceed)).run.run later) ∧
      (∀ failure after,
        guard.Stops function random (guard.plan.tests arguments) start failure after → ∀ proceed,
          (guard.call function arguments proceed).Fails world failure after) ∧
      ((∃ later, Passes random (guard.plan.tests arguments) start later) ∨ ∃ failure after,
        guard.Stops function random (guard.plan.tests arguments) start failure after) := by
  obtain ⟨random, start, drawn⟩ := guard.integer_ends world
  refine ⟨random, start, drawn, ?_, ?_, guard.passes_or_stops function random _ start⟩
  · intro later passes proceed
    have admitted : (guard.enter function arguments).Ends world random later := by
      rw [enter_eq_runTests]
      exact ends_bind.mpr ⟨random, start, drawn,
        ends_bind.mpr ⟨(), later, runTests_ends passes, rfl⟩⟩
    rw [call_eq_enter, ExceptT.run_bind, StateT.run_bind, admitted]
    rfl
  · intro failure after stops proceed
    rw [call_eq_enter, enter_eq_runTests]
    exact fails_bind.mpr (.inl (fails_bind.mpr (.inr ⟨random, start, drawn,
      fails_bind.mpr (.inl (runTests_fails stops))⟩)))

end Guard

end CallGuard
