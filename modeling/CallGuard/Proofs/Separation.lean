/-
Functions that share a registry are kept apart. Which registries functions are
guarded through makes no difference to what their calls come to, however calls,
guarding and definitions follow each other, as long as no definition puts a
reference out of date that another one shares its name with. A name that is
bound anew after one of two such references was resolved does make a difference:
the registry hands out a fragment with the other reference in it.
-/
import CallGuard.Proofs.Concurrence

namespace CallGuard

open CallGuard.Action Making List Source World Signature

/-! ### Events -/

/-- What is guarded: a function that was written, or one that came of guarding before. -/
inductive Subject where
  | written (signature : Signature) (identity : Nat)
  | made (number : Nat)

/-- What can happen to names, registries and functions. -/
inductive Event where
  | define (scope : Scope) (name : String) (hint : Hint)
  | guard (registry : Nat) (settings : Settings) (subject : Subject)
  | call (number : Nat) (arguments : Arguments)

/-- What is seen of an event. -/
inductive Report where
  | defined
  | guarded (succeeded : Bool)
  | called (outcome : Except Failure Value)
  /-- There is no function with that number. -/
  | missing

/-- The world, the registries by number, and what came of guarding so far. -/
structure Stage where
  world : World
  registries : Nat → Registry
  made : List Function

namespace Stage

def fresh (world : World) : Stage := ⟨world, fun _ => .empty, []⟩

variable (bodies : Nat → Arguments → Action Value)

def function? (stage : Stage) : Subject → Option Function
  | .written signature identity => some (.written bodies signature identity)
  | .made number => stage.made[number]?

/-- Guards a function through one of the registries. -/
def guard (stage : Stage) (registry : Nat) (settings : Settings) (function : Function) :
    Report × Stage :=
  let (outcome, workshop) :=
    (settings.decorate function).run.run ⟨stage.registries registry, stage.world⟩
  (.guarded outcome.toBool,
    { world := workshop.world
      registries := fun other =>
        if other = registry then workshop.registry else stage.registries other
      made := stage.made ++ outcome.toOption.toList })

/-- Lets an event happen. -/
def step (stage : Stage) : Event → Report × Stage
  | .define scope name hint =>
    (.defined, { stage with world := stage.world.define scope name hint })
  | .guard registry settings subject =>
    match stage.function? bodies subject with
    | some function => stage.guard registry settings function
    | none => (.missing, stage)
  | .call number arguments =>
    match stage.made[number]? with
    | some function =>
      let (outcome, world) := (function.call arguments).run.run stage.world
      (.called outcome, { stage with world := world })
    | none => (.missing, stage)

/-- Lets events happen one after the other. -/
def run : List Event → Stage → List Report
  | [], _ => []
  | event :: rest, stage => (stage.step bodies event).1 :: run rest (stage.step bodies event).2

/-- No definition among the events puts a reference out of date that shares its name. -/
def Steady (mentioned : Reference → Prop) : List Event → Stage → Prop
  | [], _ => True
  | .define scope name hint :: rest, stage =>
    (stage.world.define scope name hint).Current mentioned ∧
      Steady mentioned rest (stage.step bodies (.define scope name hint)).2
  | event :: rest, stage => Steady mentioned rest (stage.step bodies event).2

/-! ### Two runs -/

variable {bodies} {mentioned : Reference → Prop} {trusted : Hint → Prop} {names : Nat → String}

/-- Stages that cannot be told apart by calling functions. -/
structure Twin (mentioned : Reference → Prop) (trusted : Hint → Prop) (names : Nat → String)
    (bodies : Nat → Arguments → Action Value) (stage stage' : Stage) : Prop where
  world : stage.world.Concurs mentioned stage'.world
  registries : ∀ number, (stage.registries number).Certified trusted names bodies
  registries' : ∀ number, (stage'.registries number).Certified trusted names bodies
  made : List.Forall₂ (Function.Twin (World.Concurs mentioned) trusted names bodies bodies)
    stage.made stage'.made

end Stage

/-- Events that differ at most in the registry that a function is guarded through. -/
inductive Event.Rerouted : Event → Event → Prop
  | define (scope : Scope) (name : String) (hint : Hint) :
    Rerouted (.define scope name hint) (.define scope name hint)
  | guard (registry registry' : Nat) (settings : Settings) (subject : Subject) :
    Rerouted (.guard registry settings subject) (.guard registry' settings subject)
  | call (number : Nat) (arguments : Arguments) :
    Rerouted (.call number arguments) (.call number arguments)

/-- What is guarded, if it was written, is genuine. -/
def Event.Genuine (names : Nat → String) (trusted : Hint → Prop) : Event → Prop
  | .guard _ _ (.written signature identity) => signature.Genuine names trusted identity
  | _ => True

namespace Stage

variable {bodies : Nat → Arguments → Action Value} {mentioned : Reference → Prop}
  {trusted : Hint → Prop} {names : Nat → String} {stage stage' : Stage}

theorem Twin.fresh {world : World} (current : world.Current mentioned) :
    (fresh world).Twin mentioned trusted names bodies (.fresh world) :=
  ⟨.refl current, fun _ => Registry.empty_certified, fun _ => Registry.empty_certified, .nil⟩

theorem Twin.getElem? (twin : stage.Twin mentioned trusted names bodies stage') (number : Nat) :
    stage.made[number]? = none ∧ stage'.made[number]? = none ∨
      ∃ function function', stage.made[number]? = some function ∧
        stage'.made[number]? = some function' ∧
        function.Twin (World.Concurs mentioned) trusted names bodies bodies function' := by
  have each := twin.made
  generalize stage.made = made at each
  generalize stage'.made = made' at each
  induction each generalizing number with
  | nil => exact .inl ⟨rfl, rfl⟩
  | cons link _ ih =>
    cases number with
    | zero => exact .inr ⟨_, _, rfl, rfl, link⟩
    | succ number => exact ih number

/-- Functions that cannot be told apart are guarded alike, through whatever registries. -/
theorem Twin.guard (decodable : Hint.Decodable (World.Concurs mentioned) trusted)
    (twin : stage.Twin mentioned trusted names bodies stage') (registry registry' : Nat)
    (settings : Settings) {function function' : Function}
    (functions : function.Twin (World.Concurs mentioned) trusted names bodies bodies function') :
    (stage.guard registry settings function).1 = (stage'.guard registry' settings function').1 ∧
      (stage.guard registry settings function).2.Twin mentioned trusted names bodies
        (stage'.guard registry' settings function').2 := by
  have similarity : Similarity (World.Concurs mentioned) := similarity_concurs
  have known : (Workshop.mk (stage.registries registry) stage.world).registry.Certified trusted
    names bodies := twin.registries registry
  have known' : (Workshop.mk (stage'.registries registry') stage'.world).registry.Certified trusted
    names bodies := twin.registries' registry'
  obtain ⟨certified, idle⟩ := settings.decorate_certified similarity decodable functions.founded.1
    known
  obtain ⟨certified', idle'⟩ := settings.decorate_certified similarity decodable
    functions.founded.2 known'
  have agree := settings.decorate_agree similarity decodable functions known known'
  unfold Stage.guard
  generalize (settings.decorate function).run.run ⟨stage.registries registry, stage.world⟩ = run
    at certified idle agree
  generalize (settings.decorate function').run.run ⟨stage'.registries registry', stage'.world⟩ =
    run' at certified' idle' agree
  obtain ⟨outcome, workshop⟩ := run
  obtain ⟨outcome', workshop'⟩ := run'
  have registries (number : Nat) : (if number = registry then workshop.registry
      else stage.registries number).Certified trusted names bodies := by
    split
    · exact certified
    · exact twin.registries number
  have registries' (number : Nat) : (if number = registry' then workshop'.registry
      else stage'.registries number).Certified trusted names bodies := by
    split
    · exact certified'
    · exact twin.registries' number
  have world := twin.world.idle idle idle'
  cases agree with
  | failed _ _ =>
    refine ⟨rfl, world, registries, registries', ?_⟩
    exact rel_append twin.made .nil
  | done link =>
    refine ⟨rfl, world, registries, registries', ?_⟩
    exact rel_append twin.made (.cons link .nil)

theorem Twin.step (decodable : Hint.Decodable (World.Concurs mentioned) trusted)
    (correspond : ∀ identity arguments, Corresponds (World.Concurs mentioned)
      (bodies identity arguments) (bodies identity arguments))
    (twin : stage.Twin mentioned trusted names bodies stage') {event event' : Event}
    (rerouted : event.Rerouted event') (genuine : event.Genuine names trusted)
    (current : ∀ scope name hint, event = .define scope name hint →
      (stage.world.define scope name hint).Current mentioned) :
    (stage.step bodies event).1 = (stage'.step bodies event').1 ∧
      (stage.step bodies event).2.Twin mentioned trusted names bodies
        (stage'.step bodies event').2 := by
  cases rerouted with
  | define scope name hint =>
    exact ⟨rfl, twin.world.define (current scope name hint rfl), twin.registries, twin.registries',
      twin.made⟩
  | guard registry registry' settings subject =>
    cases subject with
    | written signature identity =>
      exact twin.guard decodable registry registry' settings
        (.written genuine genuine rfl (correspond identity))
    | made index =>
      unfold Stage.step Stage.function?
      dsimp only
      rcases twin.getElem? index with ⟨none, none'⟩ | ⟨_, _, found, found', functions⟩
      · rw [none, none']
        exact ⟨rfl, twin⟩
      · rw [found, found']
        exact twin.guard decodable registry registry' settings functions
  | call index arguments =>
    unfold Stage.step
    dsimp only
    rcases twin.getElem? index with ⟨none, none'⟩ | ⟨function, function', found, found', functions⟩
    · rw [none, none']
      exact ⟨rfl, twin⟩
    · rw [found, found']
      obtain ⟨outcomes, worlds⟩ :=
        functions.call_corresponds similarity_concurs arguments _ _ twin.world
      exact ⟨congrArg Report.called outcomes, worlds, twin.registries, twin.registries', twin.made⟩

/-- Runs whose events differ at most in the registries that functions are guarded through are seen
alike. -/
theorem Twin.run (decodable : Hint.Decodable (World.Concurs mentioned) trusted)
    (correspond : ∀ identity arguments, Corresponds (World.Concurs mentioned)
      (bodies identity arguments) (bodies identity arguments))
    (twin : stage.Twin mentioned trusted names bodies stage') {events events' : List Event}
    (rerouted : List.Forall₂ Event.Rerouted events events')
    (genuine : ∀ event ∈ events, event.Genuine names trusted)
    (steady : Steady bodies mentioned events stage) :
    run bodies events stage = run bodies events' stage' := by
  induction rerouted generalizing stage stage' with
  | nil => rfl
  | @cons event event' events events' first rest ih =>
    obtain ⟨known, genuine⟩ := forall_mem_cons.mp genuine
    obtain ⟨current, steady⟩ : (∀ scope name hint, event = .define scope name hint →
        (stage.world.define scope name hint).Current mentioned) ∧
        Steady bodies mentioned events (stage.step bodies event).2 := by
      cases first with
      | define scope name hint =>
        refine ⟨?_, steady.2⟩
        rintro _ _ _ ⟨⟩
        exact steady.1
      | guard | call => exact ⟨nofun, steady⟩
    obtain ⟨reports, later⟩ := twin.step decodable correspond first known current
    rw [Stage.run, Stage.run, reports, ih later genuine steady]

end Stage

/-! ### Functions with one parameter -/

namespace Settings

variable {settings : Settings} {hint : Hint} {check : Check} {fragment : Fragment}
  {before middle : Workshop} {bodies : Nat → Arguments → Action Value}

theorem run_assemble_taking (wanted : hint.isIgnorable = false) (quiet : fragment.warnings = [])
    (supplied : (settings.fragment ("parameter " ++ "x" ++ ":") hint rootLevel).run.run
      before = (.ok fragment, middle)) :
    (settings.assemble (.taking hint)).run.run before =
      (.ok (.of "f" [⟨"x", .positionalOnly, 0, hint, fragment⟩] .unchecked), middle) := by
  have checkable : (some hint).bind Hint.checkable = some hint := by
    rw [Option.bind_some, Hint.checkable, wanted]
    rfl
  have drafted : (settings.draftParameters 0 (taking hint).parameters .empty).run.run
      before = (.ok (Draft.empty.addParameters [⟨"x", .positionalOnly, 0, hint, fragment⟩]),
        middle) := by
    rw [taking, draftParameters, checkable]
    exact (run_bind_ok supplied).trans rfl
  have valid : (Making.ofExcept (taking hint).validate).run.run before =
      (.ok (), before) := by
    rw [validate_taking]
    rfl
  have resulting (draft : Draft) :
      (settings.draftResult (taking hint).returns draft).run.run middle =
        (.ok (draft.addResult .unchecked, .unchecked), middle) := rfl
  have noted (note : Warning → Making Unit) :
      (((Draft.empty.addParameters [⟨"x", .positionalOnly, 0, hint, fragment⟩]).addResult
        .unchecked).warnings.forM note).run.run middle = (.ok (), middle) := by
    rw [show Draft.warnings _ = [] from quiet]
    rfl
  rw [assemble, run_bind_ok valid, run_bind_ok drafted, run_bind_ok (resulting _)]
  exact run_bind_ok (noted _)

end Settings

/-- A function with one parameter is under a guard with the given check. -/
def Function.Checks (bodies : Nat → Arguments → Action Value) (settings : Settings) (hint : Hint)
    (check : Check) (identity : Nat) (function : Function) : Prop :=
  ∃ number source hints, function = .guarded (.taking hint) number
    ⟨.taking settings hint check, settings, source, hints, []⟩
    (.written bodies (.taking hint) identity)

namespace Settings

variable {settings : Settings} {hint : Hint} {check : Check}
  {bodies : Nat → Arguments → Action Value}

/-- A function with one parameter gets a guard with the fragment that is supplied, and is filed. -/
theorem run_decorate_taking {validators : Nat → Validator} {registry stock : Registry}
    {world : World} {identity : Nat} (stocked : registry.Stocked (Hint.Known validators) bodies)
    (acceptable : (taking hint).Acceptable validators) (wanted : hint.isIgnorable = false)
    (missing : registry.guarded? (.of settings (.written bodies (.taking hint) identity)) = none)
    (quiet : settings.warnings hint = [])
    (supplied : ∀ world, ∃ later,
      (settings.fragment ("parameter " ++ "x" ++ ":") hint rootLevel).run.run
        ⟨registry, world⟩ = (.ok ⟨check, rootLevel, []⟩, ⟨stock, later⟩) ∧
          world.Noted later) :
    ∃ guarded later,
      (settings.decorate (.written bodies (.taking hint) identity)).run.run ⟨registry, world⟩ =
        (.ok guarded, ⟨stock.fileGuarded (.of settings (.written bodies (.taking hint) identity))
          guarded, later⟩) ∧
      guarded.Checks bodies settings hint check identity ∧ world.Idle later := by
  have yields := settings.yields_decorate (.taking hint) identity (bodies identity)
    ⟨registry, world⟩
  rw [Function.written] at missing ⊢
  simp only [Function.Checks, Plan.taking, quiet]
  generalize (settings.decorate (.plain (.taking hint) identity (bodies identity))).run.run
    ⟨registry, world⟩ = run at yields ⊢
  cases yields with
  | unneeded unneeded => cases (needsChecking_taking wanted).symm.trans unneeded
  | known _ found => cases missing.symm.trans found
  | @failed failure later after _ _ _ failed =>
    obtain ⟨_, _, run⟩ := exists_compile_eq_ok stocked settings acceptable identity later
    cases run.symm.trans failed
  | @made guarded later after _ _ noted ran =>
    obtain ⟨middle, supplied, noted'⟩ := supplied later
    have assembled := run_assemble_taking wanted rfl supplied
    rw [compile, show (Function.plain (.taking hint) identity (bodies identity)).signature =
      .taking hint from rfl, run_bind_ok assembled, Assembly.guard] at ran
    cases verified : verify (Assembly.of "f" [⟨"x", .positionalOnly, 0, hint,
      ⟨check, rootLevel, []⟩⟩] .unchecked).source (Assembly.of "f" [⟨"x", .positionalOnly, 0,
        hint, ⟨check, rootLevel, []⟩⟩] .unchecked).requires with
    | error failure =>
      rw [verified] at ran
      cases ran
    | ok =>
      rw [verified] at ran
      cases kept : settings.keepsSource <;> rw [kept] at ran <;> cases ran <;>
        exact ⟨_, _, rfl, ⟨_, _, _, rfl⟩, (noted.trans noted').idle.trans ⟨_, _, rfl⟩⟩

end Settings

/-! ### Functions that refer to a name -/

/-- The reference with the serial number to the name `A` in a module. -/
def Reference.toA (serial : Nat) : Reference := ⟨serial, "A", ⟨101, "module"⟩⟩

theorem Hint.inside_toA {inner : Hint} {serial : Nat}
    (inside : inner.Inside (.reference (.toA serial))) : inner = .reference (.toA serial) := by
  cases inside with
  | self => rfl
  | child member => cases member

theorem Signature.acceptable_toA (validators : Nat → Validator) (serial : Nat) :
    (taking (.reference (.toA serial))).Acceptable validators := by
  refine acceptable_taking rfl (fun _ _ inside => ?_)
    ⟨fun _ inside => ?_, fun settings check made => ?_⟩
  · cases Hint.inside_toA inside
  · cases Hint.inside_toA inside
    exact (by decide : isHarmless "A".toList = true)
  · cases made
    exact Nat.zero_le _

namespace Settings

theorem warnings_toA (settings : Settings) (serial : Nat) :
    settings.warnings (.reference (.toA serial)) = [] := by
  obtain ⟨_, _, aliases, _, _⟩ := settings
  cases aliases <;> rfl

/-- A registry that knows nothing of the name gets a fragment with the reference itself. -/
theorem run_fragment_toA (settings : Settings) {registry : Registry} {serial : Nat}
    (missing : registry.fragment? (.of settings (.reference (.toA serial)) rootLevel)
      (.reference (.toA serial)) = none) :
    ∃ check, settings.check (.reference (.toA serial)) = .ok check ∧ ∀ world, ∃ later,
      (settings.fragment ("parameter " ++ "x" ++ ":") (.reference (.toA serial))
        rootLevel).run.run ⟨registry, world⟩ =
          (.ok ⟨check, rootLevel, []⟩,
            ⟨registry.fileFragment (.of settings (.reference (.toA serial)) rootLevel)
              (.reference (.toA serial)) ⟨check, rootLevel, []⟩, later⟩) ∧
        world.Noted later := by
  refine ⟨_, rfl, fun world => ?_⟩
  have supplies := settings.supplies_fragment ("parameter " ++ "x" ++ ":")
    (.reference (.toA serial)) rootLevel ⟨registry, world⟩
  generalize (settings.fragment _ _ _).run.run _ = run at supplies ⊢
  cases supplies with
  | known found => cases missing.symm.trans found
  | refused _ refused => cases refused
  | made _ made noted =>
    cases made
    rw [warnings_toA]
    exact ⟨_, rfl, noted⟩

/-- A registry that knows a function with a reference to the name gives another one a fragment with
that reference. -/
theorem fragment?_toA (settings : Settings) (registry : Registry) (fragment : Fragment)
    (key : GuardKey) (guarded : Function) (serial serial' : Nat) :
    ((registry.fileFragment (.of settings (.reference (.toA serial)) rootLevel)
      (.reference (.toA serial)) fragment).fileGuarded key guarded).fragment?
        (.of settings (.reference (.toA serial')) rootLevel) (.reference (.toA serial')) =
      some fragment := by
  rw [show FragmentKey.of settings (.reference (.toA serial')) rootLevel =
    .of settings (.reference (.toA serial)) rootLevel from rfl, Registry.fragment?]
  show ((lookup _ ((_, _) :: _)).bind _ = _)
  rw [lookup_cons_self]
  rfl

end Settings

section

variable {bodies : Nat → Arguments → Action Value} {settings : Settings} {target : Reference}
  {hint hint' : Hint} {check inner : Check} {value : Value} {accepted : Bool} {world : World}
  {identity : Nat}

/-- The check of a reference is that of the hint that it stands for. -/
theorem Settings.exists_verdict_reference (made : settings.check (.reference target) = .ok check)
    (denoted : world.denotes target = some hint)
    (inside : settings.checkWithin maxDepth [] hint = .ok inner) {random : UInt32}
    (verdict : inner.verdict value random = pure accepted) :
    ∃ later, (check.verdict value random).Ends world accepted later ∧
      World.Consulted target world later := by
  obtain ⟨later, run, consulted⟩ := consulted_resolve target world
  rw [denoted] at run
  cases made
  refine ⟨later, ends_bind.mpr ⟨hint, later, run, ?_⟩, consulted⟩
  dsimp only
  rw [show settings.checkWithin 32 [] hint = _ from inside]
  dsimp only
  rw [verdict]
  exact ends_pure.mpr ⟨rfl, rfl⟩

/-- What a call under a guard with the check of a reference comes to. -/
theorem Function.Checks.exists_call {function : Function}
    (checks : function.Checks bodies settings hint check identity)
    (made : settings.check (.reference target) = .ok check)
    (denoted : world.denotes target = some hint')
    (inside : settings.checkWithin maxDepth [] hint' = .ok inner)
    (verdict : ∀ random, inner.verdict value random = pure accepted) :
    ∃ (guard : Guard) (random : UInt32) (middle : World), guard.settings = settings ∧
      middle.referent? target = some hint' ∧
      (∀ other, other ≠ target → middle.referent? other = world.referent? other) ∧
      (∀ scope name, middle.binding? scope name = world.binding? scope name) ∧
      (function.call ⟨[value], []⟩).run.run world =
        (if accepted then bodies identity ⟨[value], []⟩
          else guard.reject "f" .parameter "x" hint value random).run.run middle := by
  obtain ⟨number, source, hints, rfl⟩ := checks
  have needed : check.needsRandom = true := by
    cases made
    rfl
  obtain ⟨random, drawn, ends, scopes, resolved⟩ : ∃ random drawn,
      (draw settings.source).Ends world random drawn ∧ drawn.scopes = world.scopes ∧
        drawn.resolved = world.resolved := ⟨_, _, rfl, rfl, rfl⟩
  have denoted' : drawn.denotes target = some hint' := by
    rw [denotes, referent?, binding?, bindings, scopes, resolved]
    exact denoted
  obtain ⟨middle, judged, consulted⟩ :=
    Settings.exists_verdict_reference made denoted' inside (verdict random)
  refine ⟨⟨.taking settings hint check, settings, source, hints, []⟩, random, middle, rfl,
    consulted.self.trans denoted', fun other differ => ?_, fun scope name => ?_, ?_⟩
  · rw [consulted.other other differ, referent?, resolved]
    rfl
  · rw [consulted.bindings, binding?, bindings, scopes]
    rfl
  · rw [Function.call, Guard.call_taking_drawn rfl needed, ExceptT.run_bind, StateT.run_bind, ends]
    show ((check.verdict value random >>= _ : Action Value).run.run drawn) = _
    rw [ExceptT.run_bind, StateT.run_bind, judged]
    rfl

/-- A guard that rejects a value for a reference reports a violation. -/
theorem Guard.exists_reject_fails (owned : world.denotes target = some hint) {cause : Option Cause}
    {random : UInt32} {guard : Guard}
    (found : Cause.findWithin guard.settings random maxDepth hint value = pure cause) :
    ∃ violation later, (guard.reject "f" .parameter "x" (.reference target) value random :
      Action Value).Fails world (.violation violation) later := by
  obtain ⟨middle, run, -⟩ := consulted_resolve target world
  rw [owned] at run
  have search : (Cause.find guard.settings random (.reference target) value).Ends world cause
      middle := by
    refine ends_bind.mpr ⟨hint, middle, run, ?_⟩
    rw [show Cause.findWithin guard.settings random 32 hint value = _ from found]
    exact ends_pure.mpr ⟨rfl, rfl⟩
  obtain ⟨violation, later, reported⟩ : ∃ violation later,
      (report guard.settings "f" .parameter "x" (.reference target) value random).Ends world
        violation later := ⟨_, _, ends_bind.mpr ⟨_, _, search, rfl⟩⟩
  exact ⟨violation, later, fails_bind.mpr (.inr ⟨violation, later, reported, rfl⟩)⟩

end

namespace Settings

/-- The first function that refers to the name gets a check with its reference, which the registry
has for other functions that refer to the name from then on. -/
theorem exists_decorate_first (settings : Settings) (validators : Nat → Validator)
    (bodies : Nat → Arguments → Action Value) (serial identity : Nat) (world : World) :
    ∃ check guarded registry later, settings.check (.reference (.toA serial)) = .ok check ∧
      (settings.decorate (.written bodies (.taking (.reference (.toA serial))) identity)).run.run
        ⟨.empty, world⟩ = (.ok guarded, ⟨registry, later⟩) ∧
      guarded.Checks bodies settings (.reference (.toA serial)) check identity ∧
      world.Idle later ∧
      registry.Stocked (Hint.Known validators) bodies ∧
      (∀ other, registry.fragment? (.of settings (.reference (.toA other)) rootLevel)
        (.reference (.toA other)) = some ⟨check, rootLevel, []⟩) ∧
      ∀ other serial', other ≠ identity → registry.guarded?
        (.of settings (.written bodies (.taking (.reference (.toA serial'))) other)) = none := by
  obtain ⟨check, made, supplied⟩ := settings.run_fragment_toA
    (rfl : Registry.empty.fragment? _ (.reference (.toA serial)) = none)
  have acceptable := acceptable_toA validators serial
  obtain ⟨guarded, later, run, checks, idle⟩ :=
    @run_decorate_taking settings (.reference (.toA serial)) check bodies validators .empty _ world
      identity Registry.empty_stocked acceptable rfl rfl (settings.warnings_toA serial) supplied
  have step := settings.decorate_stocked ⟨.empty, world⟩ (.written acceptable.known :
    (Function.written bodies (.taking (.reference (.toA serial))) identity).Founded _ bodies)
    Registry.empty_stocked
  rw [run] at step
  refine ⟨check, guarded, _, later, made, run, checks, idle, step.1,
    fun other => settings.fragment?_toA _ _ _ _ _ _, fun other serial' differ => ?_⟩
  rw [Registry.guarded?_fileGuarded, if_neg]
  · rfl
  · intro same
    injection same with functions
    injection functions with identities
    injection identities with identities
    exact differ identities

/-- A function that refers to the name gets the check that the registry has. -/
theorem exists_decorate_second {settings : Settings} {validators : Nat → Validator}
    {bodies : Nat → Arguments → Action Value} {serial identity : Nat} {registry : Registry}
    {check : Check} (stocked : registry.Stocked (Hint.Known validators) bodies)
    (known : registry.fragment? (.of settings (.reference (.toA serial)) rootLevel)
      (.reference (.toA serial)) = some ⟨check, rootLevel, []⟩)
    (missing : registry.guarded?
      (.of settings (.written bodies (.taking (.reference (.toA serial))) identity)) = none)
    (world : World) :
    ∃ guarded registry' later,
      (settings.decorate (.written bodies (.taking (.reference (.toA serial))) identity)).run.run
        ⟨registry, world⟩ = (.ok guarded, ⟨registry', later⟩) ∧
      guarded.Checks bodies settings (.reference (.toA serial)) check identity ∧
      world.Idle later := by
  obtain ⟨guarded, later, run, checks, idle⟩ :=
    @run_decorate_taking settings (.reference (.toA serial)) check bodies validators registry
      registry world identity stocked (acceptable_toA validators serial) rfl missing
      (settings.warnings_toA serial) fun world => by
        have supplies := settings.supplies_fragment ("parameter " ++ "x" ++ ":")
          (.reference (.toA serial)) rootLevel ⟨registry, world⟩
        generalize (settings.fragment _ _ _).run.run _ = run at supplies ⊢
        cases supplies with
        | known found noted =>
          cases known.symm.trans found
          exact ⟨_, rfl, noted⟩
        | refused missing => cases missing.symm.trans known
        | made missing => cases missing.symm.trans known
  exact ⟨guarded, _, later, run, checks, idle⟩

end Settings

namespace Stage

variable {bodies : Nat → Arguments → Action Value}

theorem step_guard {world later : World} {registries : Nat → Registry} {made : List Function}
    (number : Nat) {registry : Registry} {settings : Settings} {signature : Signature}
    {identity : Nat} {guarded : Function}
    (run : (settings.decorate (.written bodies signature identity)).run.run
      ⟨registries number, world⟩ = (.ok guarded, ⟨registry, later⟩)) :
    (⟨world, registries, made⟩ : Stage).step bodies
        (.guard number settings (.written signature identity)) =
      (.guarded true, ⟨later, fun other => if other = number then registry else registries other,
        made ++ [guarded]⟩) := by
  show Stage.guard _ number settings (.written bodies signature identity) = _
  rw [Stage.guard, run]
  rfl

theorem step_call {world : World} {registries : Nat → Registry} {made : List Function}
    {number : Nat} {arguments : Arguments} {function : Function} {outcome : Except Failure Value}
    {later : World} (found : made[number]? = some function)
    (run : (function.call arguments).run.run world = (outcome, later)) :
    (⟨world, registries, made⟩ : Stage).step bodies (.call number arguments) =
      (.called outcome, ⟨later, registries, made⟩) := by
  rw [step, found]
  dsimp only
  rw [run]

end Stage

/-! ### Functions kept apart -/

/-- A reference that a hint of the signature mentions. -/
def Signature.Mentions (signature : Signature) (target : Reference) : Prop :=
  ∃ hint, ((∃ parameter ∈ signature.parameters, parameter.hint = some hint) ∨
    signature.returns = some hint) ∧ (Hint.reference target).Inside hint

/-- A reference that a hint of a function mentions which is guarded at some time. -/
def Event.Mentioned (events : List Event) (target : Reference) : Prop :=
  ∃ registry settings signature identity,
    .guard registry settings (.written signature identity) ∈ events ∧ signature.Mentions target

namespace Stage

variable {bodies : Nat → Arguments → Action Value} {names : Nat → String}
  {validators : Nat → Validator} {named : String → Value} {events events' : List Event}

/-- Which registries functions are guarded through makes no difference to what calls come to,
whatever is defined, guarded and called in whatever order: through one that they share or each
through one of its own. -/
theorem reports_independent (rerouted : List.Forall₂ Event.Rerouted events events')
    (genuine : ∀ event ∈ events, event.Genuine names (Hint.Readable validators named))
    (correspond : ∀ identity arguments, Corresponds (World.Concurs (Event.Mentioned events))
      (bodies identity arguments) (bodies identity arguments))
    {world : World} (current : world.Current (Event.Mentioned events))
    (steady : Steady bodies (Event.Mentioned events) events (.fresh world)) :
    run bodies events (.fresh world) = run bodies events' (.fresh world) := by
  let trusted (hint : Hint) : Prop := hint.Readable validators named ∧
    ∀ target, (Hint.reference target).Inside hint → Event.Mentioned events target
  have decodable : Hint.Decodable (World.Concurs (Event.Mentioned events)) trusted :=
    Hint.decodable_of_readable (fun _ known => known.1)
      fun _ _ known known' _ _ inside inside' names scopes =>
        World.resolve_corresponds names scopes (.inr ⟨known.2 _ inside, known'.2 _ inside'⟩)
  have known : ∀ event ∈ events, event.Genuine names trusted := by
    intro event member
    have readable := genuine event member
    cases event with
    | define | call => trivial
    | guard registry settings subject =>
      cases subject with
      | made => trivial
      | written signature identity =>
        refine ⟨readable.name, fun parameter found hint given => ⟨?_, fun target inside => ?_⟩,
          fun hint given => ⟨?_, fun target inside => ?_⟩⟩
        · exact readable.hints.parameters parameter found hint given
        · exact ⟨registry, settings, signature, identity, member, hint,
            .inl ⟨parameter, found, given⟩, inside⟩
        · exact readable.hints.returns hint given
        · exact ⟨registry, settings, signature, identity, member, hint, .inr given, inside⟩
  exact (Twin.fresh current).run decodable correspond rerouted known steady

/-- Two functions that refer to the name `A`, which is bound to integers, are guarded, the second
through the given registry; then the name is bound to texts, and the second function called. -/
def redefining (registry : Nat) : List Event :=
  let settings := Settings.standard ⟨102, .fixed 5⟩
  [.define ⟨101, "module"⟩ "A" (.instanceOf .int),
    .guard 0 settings (.written (.taking (.reference (.toA 104))) 103),
    .guard registry settings (.written (.taking (.reference (.toA 106))) 105),
    .define ⟨101, "module"⟩ "A" (.instanceOf .str),
    .call 1 ⟨[.str 0 "s"], []⟩]

/-- As long as none of the two references was resolved, the registry makes no difference. -/
theorem reports_independent_before_resolving :
    let bodies : Nat → Arguments → Action Value := fun _ _ => pure .null
    run bodies (redefining 0) (.fresh .initial) = run bodies (redefining 1) (.fresh .initial) ∧
      (run bodies (redefining 0) (.fresh .initial)).getLast? = some (.called (.ok .null)) := by
  intro bodies
  let settings := Settings.standard ⟨102, .fixed 5⟩
  let mentioned := Event.Mentioned (redefining 0)
  let defined := World.initial.define ⟨101, "module"⟩ "A" (.instanceOf .int)
  have unresolved {world : World} (nothing : world.resolved = World.initial.resolved) :
      world.Current mentioned := by
    intro target _ hint found
    rw [World.referent?, nothing] at found
    cases found
  -- Guarding the two functions resolves nothing.
  obtain ⟨check, first, registry, early, made, decorated, -, idle, stocked, known, missing⟩ :=
    settings.exists_decorate_first Validator.lenient bodies 104 103 defined
  obtain ⟨second, registry', late, decorated', checks, idle'⟩ :=
    Settings.exists_decorate_second stocked (known 106) (missing 105 106 (by decide)) early
  have kept : late.resolved = World.initial.resolved := by
    obtain ⟨_, _, rfl⟩ := idle
    obtain ⟨_, _, rfl⟩ := idle'
    rfl
  let registries : Nat → Registry := fun other => if other = 0 then registry else .empty
  have guarding : (⟨defined, fun _ => .empty, []⟩ : Stage).step bodies (.guard 0 settings
      (.written (.taking (.reference (.toA 104))) 103)) = (_, ⟨early, registries, [first]⟩) :=
    step_guard 0 decorated
  have guarding' : (⟨early, registries, [first]⟩ : Stage).step bodies _ = _ :=
    step_guard 0 decorated'
  have steady : Steady bodies mentioned (redefining 0) (.fresh .initial) := by
    refine ⟨unresolved rfl, ?_⟩
    show Steady bodies mentioned (.guard 0 settings _ :: .guard 0 settings _ :: _)
      ⟨defined, fun _ => .empty, []⟩
    rw [Steady, guarding, Steady, guarding']
    · exact ⟨unresolved kept, trivial⟩
    · rintro _ _ _ ⟨⟩
    · rintro _ _ _ ⟨⟩
  let names : Nat → String := fun _ => "f"
  let named : String → Value := fun _ => .null
  have genuine (serial identity : Nat) : (Signature.taking (.reference (.toA serial))).Genuine
      names (Hint.Readable Validator.lenient named) identity := by
    refine ⟨rfl, List.forall_mem_singleton.mpr ?_, by rintro _ ⟨⟩⟩
    rintro _ ⟨⟩
    refine ⟨fun _ inside => ?_, fun _ _ inside => ?_, fun _ _ inside => ?_⟩
    all_goals cases Hint.inside_toA inside
  constructor
  · have each : ∀ event ∈ redefining 0, event.Genuine names (Hint.Readable Validator.lenient named) :=
      List.forall_mem_cons.mpr ⟨trivial, List.forall_mem_cons.mpr ⟨genuine 104 103,
        List.forall_mem_cons.mpr ⟨genuine 106 105, List.forall_mem_cons.mpr ⟨trivial,
          List.forall_mem_singleton.mpr trivial⟩⟩⟩⟩
    exact reports_independent (.cons (.define ..) (.cons (.guard ..) (.cons (.guard ..)
      (.cons (.define ..) (.cons (.call ..) .nil))))) each (fun _ _ => corresponds_pure _)
      (unresolved rfl) steady
  · let rebound := late.define ⟨101, "module"⟩ "A" (.instanceOf .str)
    have denoted : rebound.denotes (.toA 104) = some (.instanceOf .str) := by
      rw [World.denotes, World.referent?, show rebound.resolved = _ from kept]
      exact World.binding?_define_self _ _ _ _
    have str : settings.checkWithin maxDepth [] (.instanceOf .str) = .ok (.instanceOf [.str]) := rfl
    obtain ⟨_, _, _, -, -, -, -, call⟩ :=
      @Function.Checks.exists_call _ _ (.toA 104) _ _ _ _ (.str 0 "s") true rebound _ _ checks made
        denoted str fun _ => rfl
    rw [redefining, run, run, run, show ((fresh .initial).step bodies _).2 =
      ⟨defined, fun _ => .empty, []⟩ from rfl, guarding, guarding', run, run,
      show (Stage.step bodies ⟨late, _, _⟩ _).2 = ⟨rebound, _, _⟩ from rfl, step_call rfl call]
    rfl

/-- The name `A` is bound to integers, and a function that refers to it is guarded and called; then
the name is bound to texts, and another function that refers to it is guarded, through the given
registry, and called. -/
def rebinding (registry : Nat) : List Event :=
  let settings := Settings.standard ⟨102, .fixed 5⟩
  [.define ⟨101, "module"⟩ "A" (.instanceOf .int),
    .guard 0 settings (.written (.taking (.reference (.toA 104))) 103),
    .call 0 ⟨[.int 1], []⟩,
    .define ⟨101, "module"⟩ "A" (.instanceOf .str),
    .guard registry settings (.written (.taking (.reference (.toA 106))) 105),
    .call 1 ⟨[.str 0 "s"], []⟩]

/-- The call of the second function is rejected if it shares the registry with the first one. -/
theorem reference_shared :
    let bodies : Nat → Arguments → Action Value := fun _ _ => pure .null
    List.Forall₂ Event.Rerouted (rebinding 0) (rebinding 1) ∧
      (∃ violation, (run bodies (rebinding 0) (.fresh .initial)).getLast? =
        some (.called (.error (.violation violation)))) ∧
      (run bodies (rebinding 1) (.fresh .initial)).getLast? = some (.called (.ok .null)) := by
  intro bodies
  refine ⟨.cons (.define ..) (.cons (.guard ..) (.cons (.call ..) (.cons (.define ..)
    (.cons (.guard ..) (.cons (.call ..) .nil))))), ?_⟩
  let settings := Settings.standard ⟨102, .fixed 5⟩
  have int : settings.checkWithin maxDepth [] (.instanceOf .int) = .ok (.instanceOf [.int]) := rfl
  have str : settings.checkWithin maxDepth [] (.instanceOf .str) = .ok (.instanceOf [.str]) := rfl
  have distinct : Reference.toA 106 ≠ .toA 104 := by decide
  let defined := World.initial.define ⟨101, "module"⟩ "A" (.instanceOf .int)
  -- The first function is guarded and called, and the name bound anew.
  obtain ⟨check, first, registry, _, made, decorated, checks, ⟨next, journal, rfl⟩, stocked, known,
    missing⟩ := settings.exists_decorate_first Validator.lenient
      bodies 104 103 defined
  obtain ⟨_, _, called, -, resolved, others, -, call⟩ :=
    @Function.Checks.exists_call _ _ (.toA 104) _ _ _ _ (.int 1) true
      { defined with next := next, journal := journal } _ _ checks made rfl int fun _ => rfl
  let rebound := called.define ⟨101, "module"⟩ "A" (.instanceOf .str)
  let registries : Nat → Registry := fun other => if other = 0 then registry else .empty
  have start (number : Nat) : (run bodies (rebinding number) (.fresh .initial)).getLast? =
      some (((⟨rebound, registries, [first]⟩ : Stage).step bodies (.guard number settings
        (.written (.taking (.reference (.toA 106))) 105))).2.step bodies
          (.call 1 ⟨[.str 0 "s"], []⟩)).1 := by
    have guarding : (⟨defined, fun _ => .empty, []⟩ : Stage).step bodies (.guard 0 settings
        (.written (.taking (.reference (.toA 104))) 103)) =
          (_, ⟨{ defined with next := next, journal := journal }, registries, [first]⟩) :=
      step_guard 0 decorated
    rw [rebinding, run, run, run, show ((fresh .initial).step bodies _).2 =
      ⟨defined, fun _ => .empty, []⟩ from rfl, guarding, step_call rfl call]
    rfl
  have old : rebound.denotes (.toA 104) = some (.instanceOf .int) := by
    rw [World.denotes, show rebound.referent? (.toA 104) = _ from resolved]
    rfl
  have new : rebound.denotes (.toA 106) = some (.instanceOf .str) := by
    rw [World.denotes, show rebound.referent? (.toA 106) = none from others _ distinct]
    exact World.binding?_define_self _ _ _ _
  constructor
  · -- The second function gets the reference of the first one.
    obtain ⟨second, _, _, decorated, checks, ⟨next, journal, rfl⟩⟩ :=
      Settings.exists_decorate_second stocked (known 106) (missing 105 106 (by decide)) rebound
    obtain ⟨guard, random, middle, under, -, others, bindings, call⟩ :=
      @Function.Checks.exists_call _ _ (.toA 104) _ _ _ _ (.str 0 "s") false
        { rebound with next := next, journal := journal } _ _ checks made old int fun _ => rfl
    have new : middle.denotes (.toA 106) = some (.instanceOf .str) := by
      rw [World.denotes, others _ distinct, bindings]
      exact new
    obtain ⟨violation, _, failed⟩ := @Guard.exists_reject_fails _ _ (.str 0 "s") _ new none random
      guard (by rw [under]; rfl)
    refine ⟨violation, (start 0).trans ?_⟩
    have guarding : (⟨rebound, registries, [first]⟩ : Stage).step bodies _ = _ :=
      step_guard 0 decorated
    rw [guarding, step_call rfl (call.trans failed)]
  · -- The second function gets its own reference.
    obtain ⟨check, second, _, _, made, decorated, checks, ⟨next, journal, rfl⟩, -⟩ :=
      settings.exists_decorate_first Validator.lenient bodies 106 105
        rebound
    obtain ⟨_, _, _, -, -, -, -, call⟩ :=
      @Function.Checks.exists_call _ _ (.toA 106) _ _ _ _ (.str 0 "s") true
        { rebound with next := next, journal := journal } _ _ checks made new str fun _ => rfl
    have guarding : (⟨rebound, registries, [first]⟩ : Stage).step bodies _ = _ :=
      step_guard 1 decorated
    rw [start 1, guarding, step_call rfl call]

end Stage

end CallGuard
