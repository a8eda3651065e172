/-
Sessions: all that can happen around registries that are shared. Names are
bound, functions are written and copied, functions are guarded through any
registry, also with a source of one's own, and functions are called; bodies may
call the functions known by then and handle their failures. A session in which
references with one name in one scope always stand for one hint never reports a
violation without a cause, as long as the rejected value has no instance of a
class derived from `dict` in it. Neither condition can be dropped.
-/
import CallGuard.Proofs.Filing

namespace CallGuard

variable {predicates : Nat → Value → Bool} {agreed : (Reference → Option Hint) → Prop}

/-! ### Bodies -/

/-- What may be done with functions that are known: anything that leaves references standing for
what is agreed and does not come to a violation by itself, calls, one thing after another, and
something else after a failure. -/
inductive Scripted (agreed : (Reference → Option Hint) → Prop) (known : Function → Prop) :
    {Result : Type} → Action Result → Prop
  | own {Result : Type} {action : Action Result}
    (upholds : Upholds (fun world => agreed world.denotes) (fun _ => True)
      (fun failure => ∀ violation, failure ≠ .violation violation) action) :
    Scripted agreed known action
  | call {function : Function} (isKnown : known function) (arguments : Arguments) :
    Scripted agreed known (function.call arguments)
  | bind {Result Other : Type} {action : Action Other} {next : Other → Action Result}
    (first : Scripted agreed known action)
    (rest : ∀ value, Scripted agreed known (next value)) :
    Scripted agreed known (action >>= next)
  | handle {Result : Type} {action : Action Result} {handler : Failure → Action Result}
    (first : Scripted agreed known action)
    (rest : ∀ failure, Scripted agreed known (handler failure)) :
    Scripted agreed known (tryCatch action handler)

theorem Scripted.explains {known : Function → Prop} {Result : Type} {action : Action Result}
    (scripted : Scripted agreed known action)
    (each : ∀ function, known function → ∀ arguments,
      Action.Explains agreed (function.call arguments)) :
    Action.Explains agreed action := by
  induction scripted with
  | own upholds => exact upholds.weaken (fun _ => id) fun _ => Failure.justified_of_ne
  | call isKnown arguments => exact each _ isKnown arguments
  | bind _ _ first rest => exact Action.explains_bind first rest
  | handle _ _ first rest => exact upholds_tryCatch first rest

/-! ### Sessions -/

/-- The world, the registries by number, and the functions that there are. -/
structure Session where
  world : World
  registries : Nat → Registry
  functions : Function → Prop

namespace Session

def initial : Session := ⟨.initial, fun _ => .empty, fun _ => False⟩

/-- The session with one more function. -/
def add (session : Session) (function : Function) : Session :=
  { session with functions := fun other => other = function ∨ session.functions other }

/-- The session after work with a registry, which may have given a function. -/
def work (session : Session) (number : Nat) (making : Making Function) : Session :=
  let (outcome, workshop) := making.run.run ⟨session.registries number, session.world⟩
  { world := workshop.world
    registries := fun other =>
      if other = number then workshop.registry else session.registries other
    functions := fun other => outcome = .ok other ∨ session.functions other }

/-- A guard around a function with another source than the one that was put together. -/
def compile (settings : Settings) (function : Function) (source : String) (requires : List String) :
    Making Function := do
  let assembly ← settings.assemble function.signature
  { assembly with source := source, requires := requires }.guard settings function

/-- What can happen next. -/
inductive Step (predicates : Nat → Value → Bool) (agreed : (Reference → Option Hint) → Prop)
    (session : Session) : Session → Prop
  | define (scope : Scope) (name : String) (hint : Hint)
    (allowed : agreed (session.world.define scope name hint).denotes) :
    Step predicates agreed session { session with world := session.world.define scope name hint }
  | write (signature : Signature) (identity : Nat) (body : Arguments → Action Value)
    (made : signature.WellMade predicates)
    (scripted : ∀ arguments, Scripted agreed session.functions (body arguments)) :
    Step predicates agreed session (session.add (.plain signature identity body))
  | copy (function : Function) (signature : Signature) (known : session.functions function)
    (made : signature.WellMade predicates) :
    Step predicates agreed session (session.add (function.withSignature signature))
  | decorate (number : Nat) (settings : Settings) (function : Function)
    (known : session.functions function) :
    Step predicates agreed session (session.work number (settings.decorate function))
  | compile (number : Nat) (settings : Settings) (function : Function) (source : String)
    (requires : List String) (known : session.functions function) :
    Step predicates agreed session
      (session.work number (compile settings function source requires))
  | perform {Result : Type} (action : Action Result)
    (scripted : Scripted agreed session.functions action) :
    Step predicates agreed session { session with world := (action.run.run session.world).2 }

/-- The sessions that can come about. -/
inductive Reachable (predicates : Nat → Value → Bool)
    (agreed : (Reference → Option Hint) → Prop) : Session → Prop
  | initial (allowed : agreed World.initial.denotes) : Reachable predicates agreed .initial
  | next {session session' : Session} (reachable : Reachable predicates agreed session)
    (step : Step predicates agreed session session') : Reachable predicates agreed session'

/-! ### Sound sessions -/

/-- References stand for what is agreed, and all registries and functions are sound. -/
structure Sound (predicates : Nat → Value → Bool) (agreed : (Reference → Option Hint) → Prop)
    (session : Session) : Prop where
  steady : agreed session.world.denotes
  registries : ∀ number, (session.registries number).Sound predicates agreed
  functions : ∀ function, session.functions function → function.Sound predicates agreed

variable {session session' : Session}

theorem Sound.add (sound : session.Sound predicates agreed) {function : Function}
    (known : function.Sound predicates agreed) :
    (session.add function).Sound predicates agreed where
  steady := sound.steady
  registries := sound.registries
  functions := by
    rintro other (rfl | old)
    · exact known
    · exact sound.functions other old

theorem Sound.work (sound : session.Sound predicates agreed) (number : Nat)
    {making : Making Function}
    (keeps : making.Keeps predicates agreed (Function.Sound predicates agreed)) :
    (session.work number making).Sound predicates agreed := by
  obtain ⟨known, made⟩ := keeps.after ⟨session.registries number, session.world⟩
    ⟨sound.registries number, sound.steady⟩
  refine ⟨known.steady, fun other => ?_, ?_⟩
  · show Registry.Sound predicates agreed (if other = number then _ else _)
    split
    · exact known.registry
    · exact sound.registries other
  · rintro other (new | old)
    · exact made other new
    · exact sound.functions other old

theorem compile_keeps (settings : Settings) {function : Function}
    (sound : function.Sound predicates agreed) (source : String) (requires : List String) :
    (compile settings function source requires).Keeps predicates agreed
      (Function.Sound predicates agreed) :=
  upholds_bind (settings.assemble_keeps sound.made) fun _ serves =>
    Assembly.guard_keeps serves sound

/-- A step leaves a sound session sound. -/
theorem Sound.step (sound : session.Sound predicates agreed)
    (coherent : ∀ meaning, agreed meaning → Coherent meaning)
    (step : Step predicates agreed session session') : session'.Sound predicates agreed := by
  have explains {Result : Type} {action : Action Result}
      (scripted : Scripted agreed session.functions action) : Action.Explains agreed action :=
    scripted.explains fun function known => (sound.functions function known).explains coherent
  cases step with
  | define scope name hint allowed => exact ⟨allowed, sound.registries, sound.functions⟩
  | write signature identity body made scripted =>
    exact sound.add (.plain made fun arguments => explains (scripted arguments))
  | copy function signature known made =>
    exact sound.add ((sound.functions function known).withSignature made)
  | decorate number settings function known =>
    exact sound.work number (settings.decorate_keeps (sound.functions function known))
  | compile number settings function source requires known =>
    exact sound.work number
      (compile_keeps settings (sound.functions function known) source requires)
  | perform action scripted =>
    exact ⟨((explains scripted).after _ sound.steady).1, sound.registries, sound.functions⟩

theorem Reachable.sound (reachable : Reachable predicates agreed session)
    (coherent : ∀ meaning, agreed meaning → Coherent meaning) :
    session.Sound predicates agreed := by
  induction reachable with
  | initial allowed => exact ⟨allowed, fun _ => Registry.empty_sound, nofun⟩
  | next _ step ih => exact ih.step coherent step

/-- In a session in which references with one name in one scope always stand for one hint, a
violation that a call ends in was reported with a cause that a search found, unless the rejected
value has an instance of a class derived from `dict` in it. -/
theorem violation_explained {function : Function} {arguments : Arguments} {violation : Violation}
    {after : World} (reachable : Reachable predicates agreed session)
    (coherent : ∀ meaning, agreed meaning → Coherent meaning)
    (known : session.functions function)
    (failed : (function.call arguments).Fails session.world (.violation violation) after)
    (free : violation.value.FreeOf .dict) : violation.Explained := by
  have sound := reachable.sound coherent
  have explains := (sound.functions function known).explains coherent arguments
  exact ((explains session.world sound.steady).2 _ after failed).2 violation rfl free

/-! ### Sessions with guarded functions -/

/-- A function with one parameter that returns nothing. -/
def silent (name : String) (identity : Nat) (hint : Hint) : Function :=
  .plain ⟨name, name, none, ⟨101, "module"⟩, [⟨"x", .positionalOnly, some hint⟩], none⟩ identity
    fun _ => pure .null

/-- Settings under which all items are looked at. -/
def thorough : Settings := ⟨true, .full, true, false, ⟨102, .fixed 0⟩⟩

/-- The session with such a function, guarded through the registry with number 0. -/
def guarding (session : Session) (function : Function) : Session :=
  (session.add function).work 0 (compile thorough function "    return x" [])

theorem Reachable.guarding (reachable : Reachable predicates agreed session) {name : String}
    {identity : Nat} {hint : Hint} (made : hint.WellMade predicates) :
    Reachable predicates agreed (session.guarding (silent name identity hint)) := by
  refine .next (.next reachable (.write _ identity _ ⟨?_, ?_⟩ fun _ => ?_))
    (.compile 0 thorough _ _ _ (.inl rfl))
  · rintro _ (_ | ⟨_, ⟨⟩⟩) _ ⟨⟩
    exact made
  · rintro _ ⟨⟩
  · exact .own (upholds_pure trivial)

theorem wellMade_reference (target : Reference) : (Hint.reference target).WellMade predicates := by
  constructor
  · rintro values (_ | ⟨⟨⟩, _⟩)
  · rintro inner validators (_ | ⟨⟨⟩, _⟩)

theorem nested_reachable :
    Reachable (fun _ _ => true) Coherent { initial with world := nestedWorld } := by
  refine .next (.initial fun _ _ _ _ => rfl) (.define _ _ _ ?_)
  intro target target' names scopes
  show World.binding? _ target.scope target.name = World.binding? _ target'.scope target'.name
  rw [names, scopes]

theorem violation_explained_in_nested_list :
    let session := ({ initial with world := nestedWorld } : Session).guarding
      (silent "f" 103 (.reference nestedIntegers))
    let arguments : Arguments := .ofLists [.list 0 [.int 1, .list 1 [.str 2 "a"]]] []
    Reachable (fun _ _ => true) Coherent session ∧
      ∃ function violation after, session.functions function ∧
        (function.call arguments).Fails session.world (.violation violation) after ∧
        violation.value.FreeOf .dict ∧ violation.Explained := by
  intro session arguments
  have reachable : Reachable (fun _ _ => true) Coherent session :=
    nested_reachable.guarding (wellMade_reference _)
  obtain ⟨function, violation, after, known, failed, same⟩ : ∃ function violation after,
      session.functions function ∧
        (function.call arguments).Fails session.world (.violation violation) after ∧
          violation.value = .list 0 [.int 1, .list 1 [.str 2 "a"]] :=
    ⟨_, _, _, .inl rfl, rfl, rfl⟩
  have free : violation.value.FreeOf .dict := by
    rw [same]
    refine Value.freeOf_of_parts nofun (List.forall_mem_cons.mpr ⟨?_, ?_⟩)
    · exact Value.freeOf_of_parts nofun nofun
    · exact List.forall_mem_singleton.mpr (Value.freeOf_of_parts nofun
        (List.forall_mem_singleton.mpr (Value.freeOf_of_parts nofun nofun)))
  exact ⟨reachable, function, violation, after, known, failed, free,
    violation_explained reachable (fun _ => id) known failed free⟩

/-- References to one name, told apart by their serial numbers. -/
def mention (serial : Nat) : Reference := ⟨serial, "A", ⟨101, "module"⟩⟩

/-- The session after the name was bound to a class. -/
def naming (session : Session) (c : Class) : Session :=
  { session with world := session.world.define (mention 0).scope (mention 0).name (.instanceOf c) }

/-- A function that refers to a name is guarded and its reference resolved, the name is bound anew,
and another function with a reference of its own is guarded through the same registry. -/
def rebinding : Session :=
  let guarded := (initial.naming .int).guarding (silent "f" 103 (.reference (mention 104)))
  let resolved : Session :=
    { guarded with world := ((Action.resolve (mention 104)).run.run guarded.world).2 }
  (resolved.naming .str).guarding (silent "g" 105 (.reference (mention 106)))

theorem rebinding_reachable : Reachable predicates (fun _ => True) rebinding := by
  have first : Reachable predicates (fun _ => True) (initial.naming .int) :=
    .next (.initial trivial) (.define _ _ _ trivial)
  refine Reachable.guarding (.next (.next (first.guarding (wellMade_reference _))
    (.perform (Action.resolve (mention 104)) (.own ?_))) (.define _ _ _ trivial))
    (wellMade_reference _)
  intro before _
  refine ⟨fun hint after ended => ⟨trivial, trivial⟩, fun failure after failed => ⟨trivial, ?_⟩⟩
  exact ((Action.quiet_resolve (mention 104)) before rfl).2 failure after failed |>.2

/-- A function that takes tables from texts to integers is guarded. -/
def tabulating : Session :=
  initial.guarding
    (silent "f" 103 (.generic .dict [.instanceOf .str, .instanceOf .int] false))

theorem tabulating_reachable : Reachable predicates Coherent tabulating := by
  refine Reachable.guarding (.initial fun _ _ _ _ => rfl) ⟨?_, ?_⟩
  · rintro values (_ | ⟨_ | ⟨_, _ | ⟨_, ⟨⟩⟩⟩, _ | ⟨⟨⟩, _⟩⟩)
  · rintro inner validators (_ | ⟨_ | ⟨_, _ | ⟨_, ⟨⟩⟩⟩, _ | ⟨⟨⟩, _⟩⟩)

/-- A call of some function with the value is rejected after a search that found nothing. -/
def Unexplained (session : Session) (value : Value) : Prop :=
  ∃ function violation after, session.functions function ∧
    (function.call (.ofLists [value] [])).Fails session.world (.violation violation) after ∧
    violation.Reports none ∧
    violation.cause = value.described ++ " failed a check no cause was found for"

/-- An instance of a class derived from `dict` is rejected without a cause, and so is a value that
fits what a name stands for but not what it stood for when the check was made. -/
theorem unexplained_violations :
    (Reachable (fun _ _ => true) Coherent tabulating ∧
      tabulating.Unexplained (.object 0 ⟨100, "Derived", "module", [.dict], []⟩)) ∧
    Reachable (fun _ _ => true) (fun _ => True) rebinding ∧ (Value.str 0 "s").FreeOf .dict ∧
      rebinding.Unexplained (.str 0 "s") := by
  refine ⟨⟨tabulating_reachable, ?_⟩, rebinding_reachable, ?_, ?_⟩
  · refine ⟨_, _, _, .inl rfl, rfl, ?_, rfl⟩
    exact ⟨thorough, 0, .generic .dict [.instanceOf .str, .instanceOf .int] false,
      tabulating.world, _, _, rfl, rfl⟩
  · exact Value.freeOf_of_parts nofun nofun
  · refine ⟨_, _, _, .inl rfl, rfl, ?_, rfl⟩
    exact ⟨thorough, 0, .reference (mention 106), rebinding.world, _, _, rfl, rfl⟩

end Session

end CallGuard
