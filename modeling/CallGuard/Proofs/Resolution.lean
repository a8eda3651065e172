/-
What actions do as far as references are concerned. A reference stands for the
hint it has been resolved to or, until then, for the hint its name is bound to.
Looking a reference up settles which of the two it is and changes neither, so
the hints that references stand for are the same before and after every check
and every search for a cause. The file says what it means that an action ends
in a result, and gives the rules for actions that succeed wherever references
have a given meaning.
-/
import CallGuard.Cause

namespace CallGuard

/-! ### What references stand for -/

/-- What a reference stands for: the hint it has been resolved to or, until then, the hint its
name is bound to. -/
def World.denotes (world : World) (reference : Reference) : Option Hint :=
  (world.referent? reference).or (world.binding? reference.scope reference.name)

/-- Resolving an open reference to what its name is bound to leaves all references standing for
what they stood for. -/
theorem World.denotes_resolved (before after : World) (reference : Reference) (hint : Hint)
    (unresolved : before.referent? reference = none)
    (bound : before.binding? reference.scope reference.name = some hint)
    (resolved : after.resolved = before.resolved.set reference hint)
    (bindings : ∀ scope name, after.binding? scope name = before.binding? scope name) :
    after.denotes = before.denotes := by
  funext other
  unfold denotes referent?
  rw [resolved, bindings]
  by_cases same : other = reference
  · subst same
    rw [Table.get?_set_self, ← referent?, unresolved, bound]
    rfl
  · rw [Table.get?_set_other _ _ same]

/-- The world after an open reference was looked up, which counts and is noted. -/
def World.consulted (world : World) (reference : Reference) : World :=
  World.countLookup
    { world with
      journal := ⟨.trace, "hint", "resolving forward reference " ++ Text.spelled reference.name ++
        " in " ++ Text.spelled reference.scope.name⟩ :: world.journal }
    reference.scope

theorem World.binding?_consulted (world : World) (reference : Reference) (scope : Scope)
    (name : String) :
    (world.consulted reference).binding? scope name = world.binding? scope name :=
  World.binding?_countLookup _ _ _ _

namespace Action

variable {Result Other : Type}

/-! ### Ends of actions -/

/-- The action, started in one world, succeeds with the result and leaves the other world. -/
def Ends (action : Action Result) (before : World) (result : Result) (after : World) : Prop :=
  action.run.run before = (.ok result, after)

@[simp] theorem ends_pure {value result : Result} {before after : World} :
    Ends (pure value) before result after ↔ value = result ∧ before = after := by
  constructor
  · intro ended
    injection ended with results worlds
    injection results with same
    exact ⟨same, worlds⟩
  · rintro ⟨rfl, rfl⟩
    rfl

variable {before after : World} {next : Other → Action Result}

variable {action : Action Other}

theorem ends_bind
    {result : Result} :
    Ends (action >>= next) before result after ↔
      ∃ value middle, Ends action before value middle ∧ Ends (next value) middle result after := by
  unfold Ends
  rw [ExceptT.run_bind, StateT.run_bind]
  rcases action.run.run before with ⟨failure | value, middle⟩
  · constructor
    · intro ended
      cases ended
    · rintro ⟨_, _, ended, _⟩
      cases ended
  · constructor
    · intro ended
      exact ⟨value, middle, rfl, ended⟩
    · rintro ⟨_, _, ended, rest⟩
      cases ended
      exact rest

variable {failure : Failure} {world : World} {reference : Reference} {hint : Hint}

@[simp] theorem not_ends_throw {before after : World} {result : Result} :
    ¬ Ends (throw failure) before result after := by
  intro ended
  injection ended with results
  cases results

theorem Ends.unique {action : Action Result} {before after after' : World}
    {result result' : Result} (first : action.Ends before result after)
    (second : action.Ends before result' after') : result = result' ∧ after = after' := by
  injection first.symm.trans second with results worlds
  injection results with same
  exact ⟨same, worlds⟩

/-- The action, started in one world, fails and leaves the other world. -/
def Fails (action : Action Result) (before : World) (failure : Failure) (after : World) : Prop :=
  action.run.run before = (.error failure, after)

theorem fails_throw {raised : Failure} :
    Fails (throw raised : Action Result) before failure after ↔
      raised = failure ∧ before = after := by
  constructor
  · intro failed
    injection failed with results worlds
    injection results with same
    exact ⟨same, worlds⟩
  · rintro ⟨rfl, rfl⟩
    rfl

theorem fails_bind :
    Fails (action >>= next) before failure after ↔
      Fails action before failure after ∨
        ∃ value middle, Ends action before value middle ∧
          Fails (next value) middle failure after := by
  unfold Fails Ends
  rw [ExceptT.run_bind, StateT.run_bind]
  rcases action.run.run before with ⟨raised | value, middle⟩
  · constructor
    · intro failed
      cases failed
      exact .inl rfl
    · rintro (failed | ⟨_, _, ended, _⟩)
      · cases failed
        rfl
      · cases ended
  · constructor
    · intro failed
      exact .inr ⟨value, middle, rfl, failed⟩
    · rintro (failed | ⟨_, _, ended, rest⟩)
      · cases failed
      · cases ended
        exact rest

theorem ask_ends (protocol : Protocol) (c : Class) (before : World) :
    ∃ after, (ask protocol c).Ends before (protocol.isSatisfiedBy c) after ∧
      after.denotes = before.denotes := by
  refine ⟨_, rfl, ?_⟩
  split <;> rfl

/-! ### Resolving references -/

/-- A reference that has been resolved is not looked up. -/
theorem resolve_known (known : world.referent? reference = some hint) :
    (resolve reference).Ends world hint world := by
  unfold resolve
  refine ends_bind.mpr ⟨world, world, rfl, ?_⟩
  rw [known]
  rfl

theorem resolve_unbound (unresolved : world.referent? reference = none)
    (unbound : world.binding? reference.scope reference.name = none) :
    (resolve reference).Fails world (.unresolved reference.name reference.scope.name)
      (world.consulted reference) := by
  unfold resolve
  refine fails_bind.mpr (.inr ⟨world, world, rfl, ?_⟩)
  rw [unresolved]
  refine fails_bind.mpr (.inr ⟨(), _, rfl, ?_⟩)
  refine fails_bind.mpr (.inr ⟨none, world.consulted reference, ?_, rfl⟩)
  exact unbound ▸ rfl

theorem resolve_bound (unresolved : world.referent? reference = none)
    (bound : world.binding? reference.scope reference.name = some hint) :
    (resolve reference).Ends world hint
      { world.consulted reference with resolved := world.resolved.set reference hint } := by
  unfold resolve
  refine ends_bind.mpr ⟨world, world, rfl, ?_⟩
  rw [unresolved]
  refine ends_bind.mpr ⟨(), _, rfl, ?_⟩
  refine ends_bind.mpr ⟨some hint, world.consulted reference, ?_, rfl⟩
  exact bound ▸ rfl

/-- Resolving gives what the reference stands for. -/
theorem resolve_ends {before : World} (denoted : before.denotes reference = some hint) :
    ∃ after, (resolve reference).Ends before hint after ∧ after.denotes = before.denotes := by
  unfold World.denotes at denoted
  cases found : before.referent? reference with
  | some known =>
    rw [found] at denoted
    injection denoted with same
    exact ⟨before, same ▸ resolve_known found, rfl⟩
  | none =>
    rw [found, Option.none_or] at denoted
    exact ⟨_, resolve_bound found denoted, World.denotes_resolved before _ reference hint found
      denoted rfl fun _ _ => World.binding?_consulted before reference _ _⟩

/-- A reference that stands for nothing is not resolved. -/
theorem resolve_fails {before : World} (unbound : before.denotes reference = none) :
    ∃ after, (resolve reference).Fails before (.unresolved reference.name reference.scope.name)
      after ∧ after.denotes = before.denotes := by
  obtain ⟨found, missing⟩ := Option.or_eq_none_iff.mp unbound
  refine ⟨_, resolve_unbound found missing, funext fun other => ?_⟩
  unfold World.denotes World.referent?
  rw [World.binding?_consulted]
  rfl

theorem Ends.denotes (ended : (resolve reference).Ends before hint after) :
    before.denotes reference = some hint ∧ after.denotes = before.denotes := by
  cases denoted : before.denotes reference with
  | some known =>
    obtain ⟨after', ended', steady⟩ := resolve_ends denoted
    obtain ⟨rfl, rfl⟩ := ended.unique ended'
    exact ⟨rfl, steady⟩
  | none =>
    obtain ⟨_, failed, -⟩ := resolve_fails denoted
    cases failed.symm.trans ended

/-! ### Actions that succeed -/

/-- Wherever references stand for what `meaning` says, the action succeeds with a result as
wanted, and references still stand for the same. -/
def Returns (meaning : Reference → Option Hint) (action : Action Result)
    (wanted : Result → Prop) : Prop :=
  ∀ before : World, before.denotes = meaning →
    ∃ result after, action.Ends before result after ∧ after.denotes = meaning ∧ wanted result

variable {meaning : Reference → Option Hint}

theorem Returns.weaken {action : Action Result} {wanted wanted' : Result → Prop}
    (returns : Returns meaning action wanted) (weaker : ∀ result, wanted result → wanted' result) :
    Returns meaning action wanted' := by
  intro before steady
  obtain ⟨result, after, ended, steady', holds⟩ := returns before steady
  exact ⟨result, after, ended, steady', weaker result holds⟩

theorem returns_pure {value : Result} {wanted : Result → Prop} (holds : wanted value) :
    Returns meaning (pure value) wanted :=
  fun before steady => ⟨value, before, rfl, steady, holds⟩

theorem returns_bind
    {between : Other → Prop} {wanted : Result → Prop} (first : Returns meaning action between)
    (rest : ∀ value, between value → Returns meaning (next value) wanted) :
    Returns meaning (action >>= next) wanted := by
  intro before steady
  obtain ⟨value, middle, ended, steady, holds⟩ := first before steady
  obtain ⟨result, after, ended', steady', holds'⟩ := rest value holds middle steady
  exact ⟨result, after, ends_bind.mpr ⟨value, middle, ended, ended'⟩, steady', holds'⟩

theorem returns_ask (protocol : Protocol) (c : Class) :
    Returns meaning (ask protocol c) fun answer => answer = protocol.isSatisfiedBy c := by
  intro before steady
  obtain ⟨after, ended, same⟩ := ask_ends protocol c before
  exact ⟨_, after, ended, same.trans steady, rfl⟩

theorem returns_resolve (denoted : meaning reference = some hint) :
    Returns meaning (resolve reference) fun found => found = hint := by
  intro before steady
  obtain ⟨after, ended, same⟩ :=
    resolve_ends (show before.denotes reference = some hint by rw [steady, denoted])
  exact ⟨hint, after, ended, same.trans steady, rfl⟩

/-- What is known of each answer is known of all of them if they are all `true`, and of one that
is `false` otherwise. -/
theorem returns_allM {Item : Type} {items : List Item} {ask : Item → Action Bool}
    {wanted : Item → Bool → Prop}
    (each : ∀ item ∈ items, Returns meaning (ask item) (wanted item)) :
    Returns meaning (items.allM ask) fun answer =>
      (answer = true → ∀ item ∈ items, wanted item true) ∧
        (answer = false → ∃ item ∈ items, wanted item false) := by
  induction items with
  | nil => exact returns_pure ⟨fun _ _ member => absurd member List.not_mem_nil, nofun⟩
  | cons first rest ih =>
    rw [List.allM_cons]
    refine returns_bind (each first List.mem_cons_self) fun answer known => ?_
    cases answer with
    | true =>
      refine (ih fun item member =>
        each item (List.mem_cons_of_mem _ member)).weaken fun result found => ⟨?_, ?_⟩
      · intro holds item member
        rcases List.mem_cons.mp member with rfl | member
        · exact known
        · exact found.1 holds item member
      · intro fails
        obtain ⟨item, member, known⟩ := found.2 fails
        exact ⟨item, List.mem_cons_of_mem _ member, known⟩
    | false => exact returns_pure ⟨nofun, fun _ => ⟨first, List.mem_cons_self, known⟩⟩

end Action

/-! ### A hint that refers to itself -/

/-- A name for integers, lists of such integers, lists of such lists, and so on. -/
def nestedIntegers : Reference := ⟨100, "Nested", ⟨101, "module"⟩⟩

/-- What the name stands for. -/
def nestedHint : Hint :=
  .union [.instanceOf .int, .generic .list [.reference nestedIntegers] false]

/-- A world in which the name is bound and has not been looked up. -/
def nestedWorld : World :=
  World.initial.define nestedIntegers.scope nestedIntegers.name nestedHint

example : nestedWorld.denotes nestedIntegers = some nestedHint := rfl

end CallGuard
