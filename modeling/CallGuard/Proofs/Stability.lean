/-
Verdicts stay as they are. A check that has come to a verdict has resolved every
reference and asked every protocol on its way to it, and what is resolved or
asked is never forgotten: neither binding names anew nor running other checks
takes it back. So the check goes the same way again, comes to the same verdict
and finds nothing left to look up. This holds of every inquiry, since it holds of
questions and of look-ups.
-/
import CallGuard.Proofs.Asking
import CallGuard.Proofs.Making

namespace CallGuard

/-! ### Later worlds -/

/-- What references have been resolved to and what protocols have been asked in the one world is
still so in the other. -/
structure World.Before (earlier later : World) : Prop where
  resolved : ∀ reference hint, earlier.referent? reference = some hint →
    later.referent? reference = some hint
  asked : ∀ question ∈ earlier.asked, question ∈ later.asked

namespace World

theorem Before.refl (world : World) : world.Before world := ⟨fun _ _ => id, fun _ => id⟩

theorem Before.trans {first second third : World} (early : first.Before second)
    (late : second.Before third) : first.Before third where
  resolved reference hint found := late.resolved reference hint (early.resolved reference hint found)
  asked question member := late.asked question (early.asked question member)

theorem before_define (world : World) (scope : Scope) (name : String) (hint : Hint) :
    world.Before (world.define scope name hint) :=
  ⟨fun _ _ => id, fun _ => id⟩

/-- Resolving an open reference takes nothing back. -/
theorem before_resolved {world : World} {reference : Reference}
    (unresolved : world.referent? reference = none) (hint : Hint) :
    world.Before
      { world.consulted reference with resolved := world.resolved.set reference hint } where
  resolved other known found := by
    have differ : other ≠ reference := by
      rintro rfl
      rw [unresolved] at found
      cases found
    exact (Table.get?_set_other _ _ differ).trans found
  asked _ member := member

end World

namespace Action

variable {Result Other : Type}

/-! ### Actions that settle -/

/-- The action forgets nothing, however it ends. Once it has succeeded, it succeeds in every later
world with the same result and leaves that world as it is. -/
structure Settles (action : Action Result) : Prop where
  grows : ∀ start : World, Upholds start.Before (fun _ => True) (fun _ => True) action
  again : ∀ {before after later : World} {result : Result}, action.Ends before result after →
    after.Before later → action.Ends later result later

theorem settles_pure (value : Result) : Settles (pure value) where
  grows _ := upholds_pure trivial
  again ended _ := ends_pure.mpr ⟨(ends_pure.mp ended).1, rfl⟩

theorem settles_throw (failure : Failure) : Settles (throw failure : Action Result) where
  grows _ := upholds_throw trivial
  again ended _ := absurd ended not_ends_throw

theorem settles_bind {action : Action Other} {next : Other → Action Result}
    (first : Settles action) (rest : ∀ value, Settles (next value)) :
    Settles (action >>= next) where
  grows start := upholds_bind (first.grows start) fun value _ => (rest value).grows start
  again := by
    intro before after later result ended late
    obtain ⟨value, middle, ended, ended'⟩ := ends_bind.mp ended
    have between : middle.Before after :=
      (((rest value).grows middle middle (.refl middle)).1 result after ended').1
    exact ends_bind.mpr ⟨value, later, first.again ended (between.trans late),
      (rest value).again ended' late⟩

theorem settles_ask (protocol : Protocol) (c : Class) : Settles (ask protocol c) where
  grows start before grown := by
    refine ⟨fun answer after ended => ⟨?_, trivial⟩, fun failure after failed => by cases failed⟩
    cases ended
    refine grown.trans ?_
    split
    · exact .refl before
    · exact ⟨fun _ _ => id, fun _ => List.mem_cons_of_mem _⟩
  again := by
    intro before after later answer ended late
    -- The question is among those asked after the first time, so the second adds nothing.
    have known : (protocol, c) ∈ after.asked := by
      cases ended
      split
      · rename_i contained
        exact List.contains_iff_mem.mp contained
      · exact List.mem_cons_self
    have known' : later.asked.contains (protocol, c) = true :=
      List.contains_iff_mem.mpr (late.asked _ known)
    cases ended
    show (_, if later.asked.contains (protocol, c) then later else _) = (_, _)
    rw [if_pos known']

theorem settles_resolve (reference : Reference) : Settles (resolve reference) where
  grows start := upholds_of_after fun before grown => after_resolve start.Before reference grown
    (grown.trans ⟨fun _ _ => id, fun _ => id⟩)
    fun found hint => grown.trans (World.before_resolved found hint)
  again := by
    intro before after later hint ended late
    refine resolve_known (late.resolved reference hint ?_)
    cases found : before.referent? reference with
    | some known =>
      obtain ⟨rfl, rfl⟩ := ended.unique (resolve_known found)
      exact found
    | none =>
      cases bound : before.binding? reference.scope reference.name with
      | some known =>
        obtain ⟨rfl, rfl⟩ := ended.unique (resolve_bound found bound)
        exact Table.get?_set_self _ _ _
      | none => cases ended.symm.trans (resolve_unbound found bound)

theorem Inquires.settles {action : Action Result} (inquires : Inquires action) :
    Settles action := by
  induction inquires with
  | pure value => exact settles_pure value
  | throw => exact settles_throw _
  | ask protocol c => exact settles_ask protocol c
  | resolve reference => exact settles_resolve reference
  | bind _ _ firstHypothesis restHypothesis => exact settles_bind firstHypothesis restHypothesis

end Action

open CallGuard.Action

/-- Whatever the value and the integer drawn, the verdict settles. -/
def Check.Settled (check : Check) : Prop :=
  ∀ (value : Value) (random : UInt32), Settles (check.verdict value random)

/-- The verdicts of a check settle, at whatever depth and through whatever references. -/
theorem Settings.settled_of_checkWithin {settings : Settings} {levels : Nat} {path : List Nat}
    {hint : Hint} {check : Check} (made : settings.checkWithin levels path hint = .ok check) :
    check.Settled :=
  fun value random => (inquiring_of_checkWithin made value random).settles

/-! ### Fragments in use -/

/-- The world, the registries by number, and the fragments that there are. -/
structure Bench where
  world : World
  registries : Nat → Registry
  fragments : Fragment → Prop

namespace Bench

def initial : Bench := ⟨.initial, fun _ => .empty, fun _ => False⟩

/-- The bench after a fragment was asked for through the registry with the given number. -/
def request (bench : Bench) (number : Nat) (settings : Settings) (label : String) (hint : Hint)
    (level : Nat) : Bench :=
  let (outcome, workshop) :=
    (settings.fragment label hint level).run.run ⟨bench.registries number, bench.world⟩
  { world := workshop.world
    registries := fun other =>
      if other = number then workshop.registry else bench.registries other
    fragments := fun other => outcome = .ok other ∨ bench.fragments other }

/-- What can happen next: a name is bound, for the first time or anew, a fragment is asked for, or
one is evaluated. -/
inductive Step (bench : Bench) : Bench → Prop
  | define (scope : Scope) (name : String) (hint : Hint) :
    Step bench { bench with world := bench.world.define scope name hint }
  | request (number : Nat) (settings : Settings) (label : String) (hint : Hint) (level : Nat) :
    Step bench (bench.request number settings label hint level)
  | evaluate (fragment : Fragment) (known : bench.fragments fragment) (value : Value)
    (random : UInt32) :
    Step bench
      { bench with world := ((fragment.check.verdict value random).run.run bench.world).2 }

/-- Any number of steps. -/
inductive Run (bench : Bench) : Bench → Prop
  | done : Run bench bench
  | next {middle later : Bench} (run : Run bench middle) (step : Step middle later) :
    Run bench later

/-- All fragments there are, filed or handed out, have verdicts that settle. -/
structure Settled (bench : Bench) : Prop where
  filed : ∀ number key hint fragment,
    (key, hint, fragment) ∈ (bench.registries number).fragments → fragment.check.Settled
  known : ∀ fragment, bench.fragments fragment → fragment.check.Settled

variable {bench later : Bench}

theorem initial_settled : initial.Settled :=
  ⟨fun _ _ _ _ member => absurd member List.not_mem_nil, fun _ known => known.elim⟩

theorem before_noted {world later : World} (noted : world.Noted later) : world.Before later := by
  obtain ⟨journal, rfl⟩ := noted
  exact ⟨fun _ _ => id, fun _ => id⟩

theorem Settled.request (settled : bench.Settled) (number : Nat) (settings : Settings)
    (label : String) (hint : Hint) (level : Nat) :
    (bench.request number settings label hint level).Settled ∧
      bench.world.Before (bench.request number settings label hint level).world := by
  have supplies := settings.supplies_fragment label hint level
    ⟨bench.registries number, bench.world⟩
  unfold Bench.request
  generalize (settings.fragment label hint level).run.run _ = outcome at supplies ⊢
  -- Filing what is settled in one registry leaves all fragments settled.
  have replaced {registry : Registry} {world : World} {result : Except Failure Fragment}
      (filed : ∀ key hint fragment, (key, hint, fragment) ∈ registry.fragments →
        fragment.check.Settled)
      (known : ∀ fragment, result = .ok fragment → fragment.check.Settled) :
      Settled ⟨world, fun other => if other = number then registry else bench.registries other,
        fun other => result = .ok other ∨ bench.fragments other⟩ := by
    refine ⟨fun other key hint fragment member => ?_, fun fragment known' => ?_⟩
    · dsimp only at member
      split at member
      · exact filed key hint fragment member
      · exact settled.filed other key hint fragment member
    · exact known'.elim (known fragment) (settled.known fragment)
  cases supplies with
  | known found noted =>
    obtain ⟨twin, member, -⟩ := Registry.mem_of_fragment? found
    refine ⟨replaced (settled.filed number) ?_, before_noted noted⟩
    rintro _ ⟨⟩
    exact settled.filed number _ _ _ member
  | refused missing refused noted =>
    exact ⟨replaced (settled.filed number) nofun, before_noted noted⟩
  | made missing made noted =>
    have new : Check.Settled _ := Settings.settled_of_checkWithin made
    refine ⟨replaced (fun key hint fragment member => ?_) ?_, before_noted noted⟩
    · rcases Registry.mem_file member with same | old
      · cases same
        exact new
      · exact settled.filed number key hint fragment old
    · rintro _ ⟨⟩
      exact new

/-- A step leaves all fragments settled and takes nothing back that has been resolved or asked. -/
theorem Settled.step (settled : bench.Settled) (step : bench.Step later) :
    later.Settled ∧ bench.world.Before later.world := by
  cases step with
  | define scope name hint =>
    exact ⟨⟨settled.filed, settled.known⟩, bench.world.before_define scope name hint⟩
  | request number settings label hint level =>
    exact settled.request number settings label hint level
  | evaluate fragment known value random =>
    refine ⟨⟨settled.filed, settled.known⟩, ?_⟩
    exact (((settled.known fragment known value random).grows bench.world).after _ (.refl _)).1

theorem Settled.run (settled : bench.Settled) (run : bench.Run later) :
    later.Settled ∧ bench.world.Before later.world := by
  induction run with
  | done => exact ⟨settled, .refl _⟩
  | next _ step ih =>
    obtain ⟨settled', early⟩ := ih
    obtain ⟨settled'', late⟩ := settled'.step step
    exact ⟨settled'', early.trans late⟩

/-- Once a fragment has come to a verdict on a value with a drawn integer, then after whatever is
defined, asked for and evaluated it comes to the same verdict again, and it leaves the world as it
is: nothing is looked up. -/
theorem verdict_stable {fragment : Fragment} {value : Value} {random : UInt32} {holds : Bool}
    {after : World} (reached : initial.Run bench) (known : bench.fragments fragment)
    (ended : (fragment.check.verdict value random).Ends bench.world holds after)
    (run : Run { bench with world := after } later) :
    (fragment.check.verdict value random).Ends later.world holds later.world := by
  obtain ⟨settled, -⟩ := initial_settled.run reached
  have settles := settled.known fragment known value random
  have settled' : Settled { bench with world := after } := ⟨settled.filed, settled.known⟩
  exact settles.again ended (settled'.run run).2

/-- Nested lists of integers still pass after the name they are referred to by was bound to
something else. -/
theorem verdict_stable_after_rebinding :
    let bench := ({ initial with world := nestedWorld } : Bench).request 0
      ⟨true, .full, true, false, ⟨102, .fixed 0⟩⟩ "hint:" (.reference nestedIntegers) 0
    let value : Value := .list 0 [.int 1, .list 1 [.int 2]]
    ∃ fragment after, initial.Run bench ∧ bench.fragments fragment ∧
      (fragment.check.verdict value 0).Ends bench.world true after ∧
      let later := after.define nestedIntegers.scope nestedIntegers.name (.instanceOf .str)
      Run { bench with world := after } { bench with world := later } ∧
        (fragment.check.verdict value 0).Ends later true later := by
  intro bench value
  have reached : initial.Run bench :=
    .next (.next .done (.define _ _ _)) (.request 0 _ _ _ _)
  obtain ⟨fragment, after, known, ended⟩ : ∃ fragment after, bench.fragments fragment ∧
      (fragment.check.verdict value 0).Ends bench.world true after :=
    ⟨_, _, .inl rfl, rfl⟩
  have run := @Run.next { bench with world := after } _ _ .done
    (.define nestedIntegers.scope nestedIntegers.name (.instanceOf .str))
  exact ⟨fragment, after, reached, known, ended, run, verdict_stable reached known ended run⟩

end Bench

end CallGuard
