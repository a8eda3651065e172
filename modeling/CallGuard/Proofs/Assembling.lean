/-
What an assembly is made of. The checks of the parameters follow one another in
the order of the parameters, each with the position that its parameter has among
those that take positional arguments; parameters without a hint that can fail
are left out, but their positions count. Each fragment is one made for the hint
at hand or for one that is the same. The source, the names it looks up and the
plan are then functions of the checks alone, so that what is to be shown of
them can be shown by induction on the checks.
-/
import CallGuard.Proofs.Guarding
import CallGuard.Proofs.Tandem

namespace CallGuard

open CallGuard.Action Making Source

variable {issued : Hint → Prop} {settings : Settings}

/-! ### Fragments -/

/-- The fragment was made for the hint or for one that is the same and left the same imprint. -/
def Settings.Provides (settings : Settings) (issued : Hint → Prop) (hint : Hint)
    (fragment : Fragment) : Prop :=
  ∃ twin check, issued twin ∧ (twin = hint ∨ twin.same hint = true ∧ twin.imprint = hint.imprint) ∧
    settings.check twin = .ok check ∧
    fragment = ⟨check, rootLevel, settings.warnings twin⟩

theorem Settings.fragment_upholds (settings : Settings) (label : String) {hint : Hint}
    (known : issued hint) (start : Workshop) :
    Upholds (start.Grown issued) (settings.Provides issued hint)
      (fun failure => ∃ refusal, settings.check hint = .error refusal ∧
        failure = refusal.failure label hint)
      (settings.fragment label hint rootLevel) := by
  intro before grown
  have supplied := settings.supplies_fragment label hint rootLevel before
  generalize (settings.fragment label hint rootLevel).run.run before = run at supplied ⊢
  cases supplied with
  | known found noted =>
    obtain ⟨twin, check, known', same, imprints, made, rfl⟩ := grown.fragments.handed found
    refine ⟨?_, nofun⟩
    rintro _ _ ⟨⟩
    exact ⟨grown.trans ⟨grown.fragments, rfl, noted.idle⟩, twin, check, known',
      .inr ⟨same, imprints⟩, made, rfl⟩
  | refused _ refused noted =>
    refine ⟨nofun, ?_⟩
    rintro _ _ ⟨⟩
    exact ⟨grown.trans ⟨grown.fragments, rfl, noted.idle⟩, _, refused, rfl⟩
  | @made check _ _ made noted =>
    refine ⟨?_, nofun⟩
    rintro _ _ ⟨⟩
    exact ⟨grown.trans ⟨grown.fragments.fileFragment _ known made, rfl, noted.idle⟩, hint, check,
      known, .inl rfl, made, rfl⟩

/-! ### Drafts -/

/-- The position of the next parameter. -/
def ParameterKind.next (kind : ParameterKind) (position : Nat) : Nat :=
  if kind.takesPosition then position + 1 else position

/-- The checks of parameters, the first of which has the given position. -/
inductive Planned (provided : Hint → Fragment → Prop) :
    Nat → List Parameter → List ParameterCheck → Prop
  | nil (position : Nat) : Planned provided position [] []
  | skipped {position : Nat} {parameter : Parameter} {rest : List Parameter}
    {checks : List ParameterCheck}
    (unchecked : parameter.hint.bind Hint.checkable = none ∨ parameter.kind = .variadicKeyword)
    (later : Planned provided (parameter.kind.next position) rest checks) :
    Planned provided position (parameter :: rest) checks
  | checked {position : Nat} {parameter : Parameter} {rest : List Parameter}
    {checks : List ParameterCheck} {hint : Hint} {fragment : Fragment}
    (checked : parameter.hint.bind Hint.checkable = some hint)
    (kind : parameter.kind ≠ .variadicKeyword) (given : provided hint fragment)
    (later : Planned provided (parameter.kind.next position) rest checks) :
    Planned provided position (parameter :: rest)
      (⟨parameter.name, parameter.kind, position, hint, fragment⟩ :: checks)

/-- The check of the result. -/
inductive Resulting (provided : Hint → Fragment → Prop) : Option Hint → ResultCheck → Prop
  | unchecked {returns : Option Hint} (unchecked : returns.bind Hint.checkable = none) :
    Resulting provided returns .unchecked
  | never : Resulting provided (some .never) .never
  | checked {returns : Option Hint} {hint : Hint} {fragment : Fragment}
    (checked : returns.bind Hint.checkable = some hint) (given : provided hint fragment) :
    Resulting provided returns (.checked hint fragment)

/-- Adds the tests of parameters. -/
def Draft.addParameters (draft : Draft) (checks : List ParameterCheck) : Draft :=
  checks.foldl (fun draft check =>
    draft.addParameter ((bindArgument check.kind).getD "") check) draft

/-- Adds the end of the source. -/
def Draft.addResult (draft : Draft) : ResultCheck → Draft
  | .unchecked => draft.write returnUntested
  | .never => draft.write neverReturn
  | .checked _ fragment =>
    ((draft.write callBeforeTest).addTest fragment Guard.resultName).write
      returnTested

/-- The hint of some parameter or of the result cannot be checked. -/
def Signature.Refused (settings : Settings) (parameters : List Parameter) (returns : Option Hint) :
    Prop :=
  (∃ parameter ∈ parameters, ∃ hint, parameter.hint.bind Hint.checkable = some hint ∧
    parameter.kind ≠ .variadicKeyword ∧ ∃ refusal, settings.check hint = .error refusal) ∨
    ∃ hint, returns.bind Hint.checkable = some hint ∧ hint ≠ .never ∧
      ∃ refusal, settings.check hint = .error refusal

namespace Settings

variable (settings)

theorem bindArgument_eq_none {kind : ParameterKind} :
    bindArgument kind = none ↔ kind = .variadicKeyword := by
  constructor
  · intro missing
    cases kind with
    | variadicKeyword => rfl
    | _ => cases missing
  · rintro rfl
    rfl

theorem draftParameters_upholds (start : Workshop) {parameters : List Parameter}
    (known : ∀ parameter ∈ parameters, ∀ hint, parameter.hint = some hint → issued hint)
    (position : Nat) (draft : Draft) :
    Upholds (start.Grown issued)
      (fun drafted => ∃ checks, Planned (settings.Provides issued) position parameters checks ∧
        drafted = draft.addParameters checks)
      (fun _ => Signature.Refused settings parameters none)
      (settings.draftParameters position parameters draft) := by
  induction parameters generalizing position draft with
  | nil => exact upholds_pure ⟨[], .nil position, rfl⟩
  | cons parameter rest ih =>
    obtain ⟨head, tail⟩ := List.forall_mem_cons.mp known
    have tolerated (failure : Failure) (refused : Signature.Refused settings rest none) :
        Signature.Refused settings (parameter :: rest) none := by
      refine refused.imp_left fun found => ?_
      obtain ⟨other, member, refused⟩ := found
      exact ⟨other, List.mem_cons_of_mem _ member, refused⟩
    rw [draftParameters]
    split
    case h_1 hint binding checkable binds =>
      have kind : parameter.kind ≠ .variadicKeyword := by
        intro kind
        rw [bindArgument_eq_none.mpr kind] at binds
        cases binds
      refine upholds_bind ((settings.fragment_upholds _ (head hint (eq_of_checkable checkable))
        start).weaken (fun _ => id) ?_) fun fragment given => ?_
      · rintro failure ⟨refusal, refused, -⟩
        exact .inl ⟨parameter, List.mem_cons_self, hint, checkable, kind, refusal, refused⟩
      · refine (ih tail _ _).weaken ?_ tolerated
        rintro _ ⟨checks, planned, rfl⟩
        refine ⟨_, .checked checkable kind given planned, ?_⟩
        rw [Draft.addParameters, Draft.addParameters, List.foldl_cons, binds, Option.getD_some]
    case h_2 unchecked =>
      refine (ih tail _ _).weaken ?_ tolerated
      rintro _ ⟨checks, planned, rfl⟩
      refine ⟨checks, .skipped ?_ planned, rfl⟩
      cases checkable : parameter.hint.bind Hint.checkable with
      | none => exact .inl rfl
      | some hint =>
        refine .inr (bindArgument_eq_none.mp ?_)
        cases binds : bindArgument parameter.kind with
        | none => rfl
        | some binding => exact absurd binds (unchecked hint binding checkable)

theorem draftResult_upholds (start : Workshop) {returns : Option Hint}
    (known : ∀ hint, returns = some hint → issued hint) (draft : Draft) :
    Upholds (start.Grown issued)
      (fun drafted => ∃ result, Resulting (settings.Provides issued) returns result ∧
        drafted = (draft.addResult result, result))
      (fun _ => Signature.Refused settings [] returns) (settings.draftResult returns draft) := by
  unfold draftResult
  split
  · exact upholds_pure ⟨_, .never, rfl⟩
  · rename_i returns' other
    split
    case h_1 unchecked => exact upholds_pure ⟨_, .unchecked unchecked, rfl⟩
    case h_2 hint checkable =>
      have given := eq_of_checkable checkable
      refine upholds_bind ((settings.fragment_upholds _ (known hint given) start).weaken
        (fun _ => id) ?_) fun fragment provides =>
          upholds_pure ⟨_, .checked checkable provides, rfl⟩
      rintro failure ⟨refusal, refused, -⟩
      exact .inr ⟨hint, checkable, fun never => other (never ▸ given), refusal, refused⟩

end Settings

/-! ### Assemblies -/

/-- The assembly with the given checks. -/
def Assembly.of (name : String) (checks : List ParameterCheck) (result : ResultCheck) : Assembly :=
  let draft := (Draft.empty.addParameters checks).addResult result
  { source := fill head [("func_name", name)] ++
      (if draft.countsArguments then countArguments else "") ++
      (if draft.needsRandom then drawRandom else "") ++ draft.text ++ "\n"
    plan := ⟨draft.checks, result, draft.needsRandom⟩
    requires := draft.requires.eraseDups.mergeSort fun left right => decide (left ≤ right)
    warnings := draft.warnings }

theorem Draft.addParameters_checks (draft : Draft) (checks : List ParameterCheck) :
    (draft.addParameters checks).checks = draft.checks ++ checks := by
  induction checks generalizing draft with
  | nil => exact (List.append_nil _).symm
  | cons check rest ih =>
    have later := ih (draft.addParameter ((bindArgument check.kind).getD "") check)
    rw [addParameter, List.append_assoc] at later
    exact later

theorem Assembly.of_parameters (name : String) (checks : List ParameterCheck)
    (result : ResultCheck) : (of name checks result).plan.parameters = checks := by
  show ((Draft.empty.addParameters checks).addResult result).checks = checks
  have kept (draft : Draft) : (draft.addResult result).checks = draft.checks := by
    cases result <;> rfl
  rw [kept, Draft.addParameters_checks]
  rfl

/-- The assembly is put together from checks of the parameters and of the result. -/
structure Assembly.Fits (settings : Settings) (issued : Hint → Prop) (signature : Signature)
    (assembly : Assembly) : Prop where
  valid : signature.validate = .ok ()
  parts : ∃ checks result,
    Planned (settings.Provides issued) 0 signature.parameters checks ∧
      Resulting (settings.Provides issued) signature.returns result ∧
      assembly = .of signature.name checks result

theorem upholds_ofAction {Result : Type} {action : Action Result} (start : Workshop)
    (idles : ∀ world, ∃ result later, action.Ends world result later ∧ world.Idle later)
    (tolerated : Failure → Prop) :
    Upholds (start.Grown issued) (fun _ => True) tolerated (ofAction action) := by
  intro before grown
  obtain ⟨result, later, ended, idle⟩ := idles before.world
  have run : (ofAction action).run.run before = (.ok result, ⟨before.registry, later⟩) := by
    show ((action.run.run before.world).1, Workshop.mk before.registry
      (action.run.run before.world).2) = _
    rw [ended]
  rw [run]
  refine ⟨?_, nofun⟩
  rintro _ _ ⟨⟩
  exact ⟨grown.trans ⟨grown.fragments, rfl, idle⟩, trivial⟩

namespace Settings

variable (settings)

theorem assemble_upholds (start : Workshop) {signature : Signature}
    (known : signature.Trusted issued) :
    Upholds (start.Grown issued) (Assembly.Fits settings issued signature)
      (fun failure => signature.validate = .error failure ∨
        Signature.Refused settings signature.parameters signature.returns)
      (settings.assemble signature) := by
  have valid : Upholds (start.Grown issued) (fun _ => signature.validate = .ok ())
      (fun failure => signature.validate = .error failure ∨
        Signature.Refused settings signature.parameters signature.returns)
      (Making.ofExcept signature.validate) := by
    cases signature.validate with
    | error failure => exact upholds_throw (.inl rfl)
    | ok => exact upholds_pure rfl
  refine upholds_bind valid fun _ valid => ?_
  refine upholds_bind ((settings.draftParameters_upholds start known.parameters 0 .empty).weaken
    (fun _ => id) fun _ refused => .inr (refused.imp_right nofun)) fun draft drafted => ?_
  obtain ⟨checks, planned, rfl⟩ := drafted
  refine upholds_bind ((settings.draftResult_upholds start known.returns _).weaken (fun _ => id)
    fun _ refused => .inr (refused.imp_left nofun)) fun drafted resulting => ?_
  obtain ⟨result, resulting, rfl⟩ := resulting
  refine upholds_bind (upholds_forM fun warning _ => upholds_ofAction start
    (fun _ => ⟨_, _, rfl, _, _, rfl⟩) _) fun _ _ => upholds_pure ⟨valid, checks, result, planned,
      resulting, rfl⟩

/-- Around a function, an assembly becomes a guard with its plan, or its source does not verify. -/
theorem guard_upholds (start : Workshop) (assembly : Assembly) (function : Function) :
    Upholds (start.Grown issued) (fun guarded => ∃ identity guard,
        guarded = .guarded function.signature identity guard function ∧
          guard.plan = assembly.plan ∧ guard.settings = settings)
      (fun failure => verify assembly.source assembly.requires = .error failure)
      (assembly.guard settings function) := by
  have verified : Upholds (start.Grown issued) (fun _ => True)
      (fun failure => verify assembly.source assembly.requires = .error failure)
      (Making.ofExcept (verify assembly.source assembly.requires)) := by
    cases verify assembly.source assembly.requires with
    | error failure => exact upholds_throw rfl
    | ok => exact upholds_pure trivial
  have made : Upholds (start.Grown issued) (fun _ => True)
      (fun failure => verify assembly.source assembly.requires = .error failure)
      (ofAction fresh) :=
    upholds_ofAction start (fun _ => ⟨_, _, rfl, _, _, rfl⟩) _
  refine upholds_bind verified fun _ _ => ?_
  split
  · refine upholds_bind (upholds_ofAction start (fun _ => ⟨_, _, rfl, _, _, rfl⟩) _) fun _ _ =>
      upholds_bind made fun identity _ => upholds_pure ⟨identity, _, rfl, rfl, rfl⟩
  · exact upholds_bind made fun identity _ => upholds_pure ⟨identity, _, rfl, rfl, rfl⟩

end Settings

/-! ### Registries -/

variable {bodies : Nat → Arguments → Action Value}

/-- A written function inside a guard that was put together under the settings. -/
inductive Settings.Encloses (settings : Settings) (issued : Hint → Prop)
    (bodies : Nat → Arguments → Action Value) (signature : Signature) (identity : Nat) :
    Function → Prop
  | guarded (number : Nat) {guard : Guard} {assembly : Assembly}
    (fits : assembly.Fits settings issued signature) (plan : guard.plan = assembly.plan)
    (under : guard.settings = settings) :
    Encloses settings issued bodies signature identity
      (.guarded signature number guard (.written bodies signature identity))

theorem Settings.compile_upholds (settings : Settings) (start : Workshop) {signature : Signature}
    (known : signature.Trusted issued) (identity : Nat) :
    Upholds (start.Grown issued) (settings.Encloses issued bodies signature identity)
      (fun failure => signature.validate = .error failure ∨
        Signature.Refused settings signature.parameters signature.returns ∨
        ∃ assembly : Assembly, assembly.Fits settings issued signature ∧
          verify assembly.source assembly.requires = .error failure)
      (settings.compile (.written bodies signature identity)) := by
  refine upholds_bind ((settings.assemble_upholds start known).weaken (fun _ => id)
    fun _ => Or.imp_right .inl) fun assembly fits => ?_
  refine (settings.guard_upholds start assembly _).weaken ?_
    fun failure fault => .inr (.inr ⟨assembly, fits, fault⟩)
  rintro _ ⟨number, guard, rfl, plan, under⟩
  exact .guarded number fits plan under

/-- Fragments were made for issued hints, and what is handed out under a key is the function of the
key inside a guard that was put together under the settings of the key. -/
structure Registry.Stocked (issued : Hint → Prop) (bodies : Nat → Arguments → Action Value)
    (registry : Registry) : Prop where
  fragments : registry.Faithful issued
  guards : ∀ key guarded, registry.guarded? key = some guarded →
    ∃ settings : Settings, ∃ signature identity,
      key = .of settings (.written bodies signature identity) ∧ signature.needsChecking = true ∧
        settings.Encloses issued bodies signature identity guarded

theorem Registry.empty_stocked : Registry.empty.Stocked issued bodies := ⟨empty_faithful, nofun⟩

/-- Guarding a function leaves registries stocked and takes nothing back. -/
theorem Settings.decorate_stocked (settings : Settings) {function : Function} (workshop : Workshop)
    (founded : function.Founded (fun _ signature => signature.Trusted issued) bodies)
    (stocked : workshop.registry.Stocked issued bodies) :
    ((settings.decorate function).run.run workshop).2.registry.Stocked issued bodies ∧
      workshop.registry.Retains ((settings.decorate function).run.run workshop).2.registry := by
  have start (later : World) : Workshop.Grown issued ⟨workshop.registry, later⟩
      ⟨workshop.registry, later⟩ := ⟨stocked.fragments, rfl, _, _, rfl⟩
  refine settings.decorate_reaches (fun after => after.registry.Stocked issued bodies ∧
    workshop.registry.Retains after.registry) founded ?_ ?_ ?_
  · exact fun later noted => ⟨stocked, fun _ _ => id⟩
  · intro signature identity known needed later failure after noted ran
    obtain ⟨grown, -⟩ := (settings.compile_upholds _ known identity _ (start later)).2 _ _ ran
    have same : after.registry.guarded? = workshop.registry.guarded? := by
      funext key
      rw [Registry.guarded?, Registry.guarded?, grown.guards]
    refine ⟨⟨grown.fragments, ?_⟩, ?_⟩
    · rw [same]
      exact stocked.guards
    · rw [Registry.Retains, same]
      exact fun _ _ => id
  · intro signature identity known needed later guarded after noted missing ran
    obtain ⟨grown, encloses⟩ := (settings.compile_upholds _ known identity _ (start later)).1 _ _ ran
    have same : after.registry.guarded? = workshop.registry.guarded? := by
      funext key
      rw [Registry.guarded?, Registry.guarded?, grown.guards]
    refine ⟨⟨grown.fragments, fun key guarded' found => ?_⟩, fun key guarded' found => ?_⟩
    · rw [Registry.guarded?_fileGuarded, same] at found
      split at found
      · rename_i here
        cases found
        exact ⟨settings, signature, identity, here, needed, encloses⟩
      · exact stocked.guards key guarded' found
    · rw [Registry.guarded?_fileGuarded, same, if_neg]
      · exact found
      · rintro rfl
        cases missing.symm.trans found

variable {registry : Registry}

theorem Registry.Served.stocked
    (served : registry.Served (fun _ signature => signature.Trusted issued) bodies) :
    registry.Stocked issued bodies := by
  induction served with
  | fresh => exact empty_stocked
  | step _ settings founded world ih =>
    exact (settings.decorate_stocked ⟨_, world⟩ founded ih).1

/-- A registry that fragments were made with for issued hints and functions with issued hints were
guarded with, in whatever order, under whatever settings and in whatever worlds. Some of it may have
failed. -/
inductive Registry.Employed (issued : Hint → Prop) (bodies : Nat → Arguments → Action Value) :
    Registry → Prop
  | fresh : Employed issued bodies .empty
  | made {registry : Registry} (before : Employed issued bodies registry) (settings : Settings)
    (label : String) {hint : Hint} (known : issued hint) (level : Nat) (world : World) :
    Employed issued bodies
      ((settings.fragment label hint level).run.run ⟨registry, world⟩).2.registry
  | guarded {registry : Registry} (before : Employed issued bodies registry) (settings : Settings)
    {function : Function}
    (founded : function.Founded (fun _ signature => signature.Trusted issued) bodies)
    (world : World) :
    Employed issued bodies ((settings.decorate function).run.run ⟨registry, world⟩).2.registry

theorem Registry.Employed.stocked
    (employed : registry.Employed issued bodies) : registry.Stocked issued bodies := by
  induction employed with
  | fresh => exact empty_stocked
  | @made registry _ settings label hint known level world ih =>
    have supplied := settings.supplies_fragment label hint level ⟨registry, world⟩
    generalize (settings.fragment label hint level).run.run ⟨registry, world⟩ = outcome
      at supplied ⊢
    cases supplied with
    | known | refused => exact ih
    | made _ made _ =>
      exact ⟨ih.fragments.fileFragment level known made, ih.guards⟩
  | guarded _ settings founded world ih =>
    exact (settings.decorate_stocked ⟨_, world⟩ founded ih).1

theorem Signature.trusted_all (signature : Signature) : signature.Trusted fun _ => True :=
  ⟨fun _ _ _ _ => trivial, fun _ _ => trivial⟩

theorem Registry.Served.stocked_all
    (served : registry.Served (fun _ _ => True) bodies) :
    registry.Stocked (fun _ => True) bodies :=
  (served.imp fun _ signature _ => signature.trusted_all).stocked

end CallGuard
