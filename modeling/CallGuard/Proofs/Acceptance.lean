/-
Functions that guards can be made for: their names are identifiers, their hints
can be checked, and whatever the hints mention may be written in a guard. Guards
for them verify, whatever the registry was used for before. A literal with a
text that is mistaken for something else keeps a function from being guarded.
-/
import CallGuard.Proofs.Validity
import CallGuard.Proofs.Writable

namespace CallGuard

open CallGuard.Action Making Source List Signature

/-! ### Signatures that guards can be written for -/

/-- The function and what its hints mention may be written in a guard, and its hints can be
checked. -/
structure Signature.Acceptable (validators : Nat → Validator) (signature : Signature) : Prop where
  named : Text.isIdentifier signature.name = true
  valid : signature.validate = .ok ()
  parameters : ∀ parameter ∈ signature.parameters, ∀ hint, parameter.hint = some hint →
    hint.obstacle = none
  returns : ∀ hint, signature.returns = some hint → hint = .never ∨ hint.obstacle = none
  listed : signature.Trusted (Hint.Listed validators)
  writable : signature.Trusted Hint.Writable

variable {validators : Nat → Validator} {settings : Settings} {signature : Signature}

theorem Signature.Acceptable.known (acceptable : signature.Acceptable validators) :
    signature.Trusted (Hint.Known validators) :=
  ⟨fun parameter member hint given => ⟨acceptable.listed.parameters parameter member hint given,
      .inr (acceptable.writable.parameters parameter member hint given).countable⟩,
    fun hint given => ⟨acceptable.listed.returns hint given,
      .inr (acceptable.writable.returns hint given).countable⟩⟩

variable {fragment : Fragment} {Provides : Hint → Fragment → Prop} {trusted : Hint → Prop}
  {value : Value}

variable {hint : Hint} {check : Check}

/-- A fragment for a hint that keeps a promise may be written, whichever hint it was made for. -/
theorem Settings.Provides.proper {promise : Promise}
    (provides : settings.Provides trusted hint fragment)
    (known : ∀ hint, trusted hint → hint.Listed validators) (listed : hint.Listed validators)
    (within : hint.Within (.keeping promise)) (small : fragment.locals ≤ 2 ^ 64) :
    fragment.Proper promise := by
  obtain ⟨twin, check, trusted, found, made, rfl⟩ := provides
  have within' : twin.Within (.keeping promise) := by
    rcases found with rfl | ⟨same, -⟩
    · exact within
    · exact within.keeping_of_same (known twin trusted) listed same
  exact ⟨rfl, within_of_checkWithin within' made, small⟩

theorem Settings.Provides.locals_le
    (provides : settings.Provides (Hint.Known validators) hint fragment)
    (listed : hint.Listed validators) (countable : hint.Countable) :
    fragment.locals ≤ 2 ^ 64 := by
  obtain ⟨twin, check, known, found, made, rfl⟩ := provides
  rcases found with rfl | ⟨same, imprints⟩
  · exact countable settings check made
  · rcases known.counted with built | small
    · obtain ⟨check', made', locals⟩ :=
        Hint.exists_locals_of_same ⟨built, known.listed⟩ listed same imprints made
      exact Nat.le_trans (Nat.le_of_eq locals) (countable settings check' made')
    · exact small settings check made

/-- Each check of a plan is for a parameter with a hint. -/
theorem Planned.origin {position : Nat} {parameters : List Parameter} {checks : List ParameterCheck}
    (planned : Planned Provides position parameters checks) :
    ∀ check ∈ checks, check.kind ≠ .variadicKeyword ∧ ∃ parameter ∈ parameters,
      parameter.name = check.name ∧ ∃ hint, parameter.hint = some hint ∧
        Provides hint check.fragment := by
  induction planned with
  | nil => exact fun _ => nofun
  | skipped _ _ ih =>
    intro check member
    obtain ⟨kind, parameter, listed, origin⟩ := ih check member
    exact ⟨kind, parameter, mem_cons_of_mem _ listed, origin⟩
  | checked checkable kind given _ ih =>
    refine forall_mem_cons.mpr ⟨⟨kind, _, mem_cons_self, rfl, _,
      Settings.eq_of_checkable checkable, given⟩, fun check member => ?_⟩
    obtain ⟨kind, parameter, listed, origin⟩ := ih check member
    exact ⟨kind, parameter, mem_cons_of_mem _ listed, origin⟩

/-- If the result is checked, that is for a hint. -/
theorem Resulting.origin {returns : Option Hint} {result : ResultCheck}
    (resulting : Resulting Provides returns result)
    (checked : result = .checked hint fragment) :
    ∃ hint, returns = some hint ∧ Provides hint fragment := by
  cases resulting with
  | unchecked | never => cases checked
  | checked checkable given =>
    cases checked
    exact ⟨_, Settings.eq_of_checkable checkable, given⟩

/-- The source of a guard for such a signature verifies. -/
theorem Assembly.Fits.verifies {assembly : Assembly}
    (fits : assembly.Fits settings (Hint.Known validators) signature)
    (acceptable : signature.Acceptable validators) :
    Source.verify assembly.source assembly.requires = .ok () := by
  obtain ⟨checks, result, planned, resulting, rfl⟩ := fits.parts
  have proper {hint : Hint} {fragment : Fragment} (listed : hint.Listed validators)
      (writable : hint.Writable)
      (given : settings.Provides (Hint.Known validators) hint fragment) :
      fragment.Proper ⟨True, True⟩ :=
    given.proper (fun _ known => known.listed) listed writable.within
      (given.locals_le listed writable.countable)
  refine @verify_of ⟨True, True⟩ _ _ _ acceptable.named trivial trivial (fun check member => ?_) ?_
  · obtain ⟨kind, parameter, listed, name, hint, hinted, given⟩ := planned.origin check member
    exact ⟨kind, kept_of_isIdentifier (name ▸ isIdentifier_of_validate
      acceptable.valid listed), proper (acceptable.listed.parameters parameter listed hint hinted)
        (acceptable.writable.parameters parameter listed hint hinted) given⟩
  · cases result with
    | unchecked | never => trivial
    | checked _ fragment =>
      obtain ⟨hint, hinted, given⟩ := resulting.origin rfl
      exact proper (acceptable.listed.returns hint hinted) (acceptable.writable.returns hint hinted)
        given

theorem Signature.Acceptable.not_refused (acceptable : signature.Acceptable validators) :
    ¬ Refused settings signature.parameters signature.returns := by
  have checks {hint : Hint} (supported : hint.obstacle = none) {refusal : Refusal}
      (refused : settings.check hint = .error refusal) : False := by
    obtain ⟨check, made⟩ := Settings.exists_checkWithin (maxDepth + 1) [] supported
    cases made.symm.trans refused
  rintro (⟨parameter, member, hint, checkable, -, refusal, refused⟩ |
    ⟨hint, checkable, other, refusal, refused⟩)
  · have given := Settings.eq_of_checkable checkable
    exact checks (acceptable.parameters parameter member hint given) refused
  · rcases acceptable.returns hint (Settings.eq_of_checkable checkable) with never | supported
    · exact other never
    · exact checks supported refused

namespace Settings

variable {bodies : Nat → Arguments → Action Value} {registry : Registry}

theorem grown_of_stocked {trusted : Hint → Prop} (stocked : registry.Stocked trusted bodies)
    (world : World) : Workshop.Grown trusted ⟨registry, world⟩ ⟨registry, world⟩ :=
  ⟨stocked.fragments, rfl, _, _, rfl⟩

theorem exists_assemble_eq_ok (stocked : registry.Stocked (Hint.Known validators) bodies)
    (settings : Settings) (acceptable : signature.Acceptable validators) (world : World) :
    ∃ assembly after,
      (settings.assemble signature).run.run ⟨registry, world⟩ = (.ok assembly, after) ∧
        assembly.Fits settings (Hint.Known validators) signature := by
  have upheld := settings.assemble_upholds ⟨registry, world⟩ acceptable.known _
    (grown_of_stocked stocked world)
  rcases run : (settings.assemble signature).run.run ⟨registry, world⟩ with
    ⟨failure | assembly, after⟩
  · rcases (upheld.2 failure after run).2 with invalid | refused
    · cases acceptable.valid.symm.trans invalid
    · exact absurd refused acceptable.not_refused
  · exact ⟨assembly, after, rfl, (upheld.1 assembly after run).2⟩

theorem exists_compile_eq_ok (stocked : registry.Stocked (Hint.Known validators) bodies)
    (settings : Settings) (acceptable : signature.Acceptable validators) (identity : Nat)
    (world : World) :
    ∃ guarded after, (settings.compile (.written bodies signature identity)).run.run
      ⟨registry, world⟩ = (.ok guarded, after) := by
  have upheld := @compile_upholds _ bodies settings ⟨registry, world⟩ _ acceptable.known identity _
    (grown_of_stocked stocked world)
  rcases run : (settings.compile (.written bodies signature identity)).run.run ⟨registry, world⟩
    with ⟨failure | guarded, after⟩
  · rcases (upheld.2 failure after run).2 with invalid | refused | ⟨assembly, fits, unverified⟩
    · cases acceptable.valid.symm.trans invalid
    · exact absurd refused acceptable.not_refused
    · cases (fits.verifies acceptable).symm.trans unverified
  · exact ⟨guarded, after, rfl⟩

theorem exists_decorate_eq_ok (stocked : registry.Stocked (Hint.Known validators) bodies)
    (settings : Settings) {function : Function}
    (founded : function.Founded (fun _ signature => signature.Acceptable validators) bodies)
    (world : World) :
    ∃ guarded after,
      (settings.decorate function).run.run ⟨registry, world⟩ = (.ok guarded, after) := by
  induction founded with
  | @written signature identity acceptable =>
    have yields := settings.yields_decorate signature identity (bodies identity) ⟨registry, world⟩
    rw [Function.written]
    generalize (settings.decorate (.plain signature identity (bodies identity))).run.run
      ⟨registry, world⟩ = run at yields ⊢
    cases yields with
    | unneeded | known | made => exact ⟨_, _, rfl⟩
    | @failed failure later after _ _ _ failed =>
      obtain ⟨guarded, after', run⟩ :=
        exists_compile_eq_ok stocked settings acceptable identity later
      cases run.symm.trans failed
  | @guarded signature identity guard inner _ ih =>
    by_cases same : guard.settings.imprint = settings.imprint
    · obtain ⟨later, run, -⟩ :=
        settings.run_decorate_again signature identity inner same ⟨registry, world⟩
      exact ⟨_, _, run⟩
    · rw [decorate, if_neg same]
      exact ih

end Settings

/-! ### Functions with one parameter -/

theorem Signature.validate_taking (hint : Hint) : (taking hint).validate = .ok () := by
  have named : Parameter.nameFault? ⟨"x", .positionalOnly, some hint⟩ [] = none := by
    have identifier : Text.isIdentifier "x" = true := by decide
    have free : reservedStart.toList.isPrefixOf "x".toList = false := by decide
    rw [Parameter.nameFault?, identifier, free]
    rfl
  rw [validate, taking, validateFrom, named]
  rfl

theorem Signature.acceptable_taking {validators : Nat → Validator}
    (supported : hint.obstacle = none) (listed : hint.Listed validators)
    (writable : hint.Writable) : (taking hint).Acceptable validators := by
  have only {wanted : Hint → Prop} (given : wanted hint) :
      ∀ parameter ∈ (taking hint).parameters, ∀ hint', parameter.hint = some hint' →
        wanted hint' := by
    refine forall_mem_singleton.mpr ?_
    rintro _ ⟨⟩
    exact given
  exact ⟨(by decide : Text.isIdentifier "f" = true), validate_taking _, only supported, nofun,
    ⟨only listed, nofun⟩, ⟨only writable, nofun⟩⟩

/-- The plan for a function with one parameter and the given check. -/
def Plan.taking (settings : Settings) (hint : Hint) (check : Check) : Plan :=
  ⟨[⟨"x", .positionalOnly, 0, hint, ⟨check, rootLevel, settings.warnings hint⟩⟩], .unchecked,
    check.needsRandom⟩

theorem Assembly.Fits.plan_taking {assembly : Assembly}
    (fits : assembly.Fits settings (· = hint) (.taking hint))
    (made : settings.check hint = .ok check) (wanted : hint.isIgnorable = false) :
    assembly = .of "f" (Plan.taking settings hint check).parameters .unchecked ∧
      assembly.plan = .taking settings hint check := by
  have asked : Hint.checkable hint = some hint := by
    rw [Hint.checkable, wanted]
    rfl
  obtain ⟨checks, result, planned, resulting, rfl⟩ := fits.parts
  cases resulting with
  | checked checkable => cases checkable
  | unchecked _ =>
    cases planned with
    | skipped unchecked =>
      rcases unchecked with unchecked | kind
      · cases asked.symm.trans unchecked
      · cases kind
    | @checked _ _ _ checks hint' fragment checkable kind given later =>
      cases later
      cases asked.symm.trans checkable
      obtain ⟨twin, check', rfl, -, made', rfl⟩ := given
      cases made.symm.trans made'
      exact ⟨rfl, rfl⟩

theorem Signature.trusted_taking (known : trusted hint) :
    (taking hint).Trusted trusted := by
  refine ⟨forall_mem_singleton.mpr ?_, nofun⟩
  rintro _ ⟨⟩
  exact known

theorem Signature.Trusted.imp {trusted' : Hint → Prop} (known : signature.Trusted trusted)
    (implies : ∀ hint, trusted hint → trusted' hint) : signature.Trusted trusted' :=
  ⟨fun parameter member hint given => implies hint (known.parameters parameter member hint given),
    fun hint given => implies hint (known.returns hint given)⟩

/-- For a function with one parameter, what is put together has the check of the hint. -/
theorem Settings.exists_assemble_eq_taking (settings : Settings)
    (made : settings.check hint = .ok check) (wanted : hint.isIgnorable = false) (world : World) :
    ∃ after, (settings.assemble (.taking hint)).run.run ⟨.empty, world⟩ =
      (.ok (.of "f" (Plan.taking settings hint check).parameters .unchecked), after) := by
  have known : (taking hint).Trusted (· = hint) := trusted_taking rfl
  have upheld := settings.assemble_upholds ⟨.empty, world⟩ known ⟨.empty, world⟩
    ⟨Registry.empty_faithful, rfl, _, _, rfl⟩
  rcases run : (settings.assemble (.taking hint)).run.run ⟨.empty, world⟩ with
    ⟨failure | assembly, after⟩
  · rcases (upheld.2 failure after run).2 with invalid | refused | ⟨_, unchecked, -⟩
    · cases (validate_taking hint).symm.trans invalid
    · obtain ⟨parameter, member, hint', checkable, -, refusal, refused⟩ := refused
      cases mem_singleton.mp member
      cases eq_of_checkable checkable
      cases made.symm.trans refused
    · cases unchecked
  · obtain ⟨rfl, -⟩ := (upheld.1 assembly after run).2.plan_taking made wanted
    exact ⟨after, rfl⟩

theorem Settings.exists_assemble_taking (settings : Settings)
    (made : settings.check hint = .ok check) (wanted : hint.isIgnorable = false) (world : World) :
    ∃ assembly after,
      (settings.assemble (.taking hint)).run.run ⟨.empty, world⟩ = (.ok assembly, after) ∧
        assembly.plan = .taking settings hint check := by
  obtain ⟨after, run⟩ := settings.exists_assemble_eq_taking made wanted world
  exact ⟨_, after, run, rfl⟩

/-- A function with one parameter that may be written gets a guard with the check of the hint. -/
theorem Settings.exists_compile_taking (settings : Settings)
    (bodies : Nat → Arguments → Action Value)
    (acceptable : (taking hint).Acceptable validators)
    (made : settings.check hint = .ok check) (wanted : hint.isIgnorable = false) (identity : Nat)
    (world : World) :
    ∃ number guard after,
      (settings.compile (.written bodies (.taking hint) identity)).run.run ⟨.empty, world⟩ =
        (.ok (.guarded (.taking hint) number guard (.written bodies (.taking hint) identity)),
          after) ∧
      guard.settings = settings ∧ guard.plan = .taking settings hint check := by
  obtain ⟨guarded, after, run⟩ := exists_compile_eq_ok
    (Registry.empty_stocked : Registry.empty.Stocked (Hint.Known validators) bodies) settings
    acceptable identity world
  have known : (taking hint).Trusted (· = hint) := trusted_taking rfl
  have encloses := ((settings.compile_upholds ⟨.empty, world⟩ known identity ⟨.empty, world⟩
    ⟨Registry.empty_faithful, rfl, _, _, rfl⟩).1 guarded after run).2
  cases encloses with
  | @guarded number guard assembly fits plan under =>
    exact ⟨number, guard, after, run, under, plan.trans (fits.plan_taking made wanted).2⟩

theorem needsChecking_taking (wanted : hint.isIgnorable = false) :
    (taking hint).needsChecking = true := by
  rw [needsChecking, Bool.or_eq_true]
  exact .inl (any_eq_true.mpr ⟨hint, mem_cons_self, by rw [wanted]; rfl⟩)

/-- Such a function is guarded with an empty registry, which then has it to hand out. -/
theorem Settings.exists_decorate_taking (settings : Settings)
    (bodies : Nat → Arguments → Action Value)
    (acceptable : (taking hint).Acceptable validators)
    (made : settings.check hint = .ok check) (wanted : hint.isIgnorable = false) (identity : Nat)
    (world : World) :
    ∃ number guard after,
      (settings.decorate (.written bodies (.taking hint) identity)).run.run ⟨.empty, world⟩ =
        (.ok (.guarded (.taking hint) number guard (.written bodies (.taking hint) identity)),
          after) ∧
      guard.settings = settings ∧ guard.plan = .taking settings hint check ∧
      after.registry.guarded? (.of settings (.written bodies (.taking hint) identity)) =
        some (.guarded (.taking hint) number guard (.written bodies (.taking hint) identity)) := by
  have yields := settings.yields_decorate (.taking hint) identity (bodies identity) ⟨.empty, world⟩
  rw [Function.written]
  generalize (settings.decorate (.plain (.taking hint) identity (bodies identity))).run.run
    ⟨.empty, world⟩ = run at yields ⊢
  cases yields with
  | unneeded unneeded => cases (needsChecking_taking wanted).symm.trans unneeded
  | known _ found => cases found
  | @failed failure later after _ _ _ failed =>
    obtain ⟨_, _, _, run, -⟩ :=
      settings.exists_compile_taking bodies acceptable made wanted identity later
    cases run.symm.trans failed
  | @made guarded later after _ _ _ ran =>
    obtain ⟨number, guard, after', run, under, plan⟩ :=
      settings.exists_compile_taking bodies acceptable made wanted identity later
    cases run.symm.trans ran
    refine ⟨number, guard, _, rfl, under, plan, ?_⟩
    rw [Registry.guarded?_fileGuarded, Function.written, if_pos rfl]

namespace Guard

variable {guard : Guard} {settings : Settings} {hint : Hint} {check : Check}

/-- The one argument is checked, and then the call proceeds. -/
theorem check_taking (plan : guard.plan = .taking settings hint check) (value : Value)
    (function : String) (proceed : Action Value) (random : UInt32) :
    (do
      guard.plan.parameters.forM fun check =>
        (check.taken ⟨[value], []⟩).forM (guard.checkArgument function check random)
      guard.checkResult function random (← proceed)) = (do
      if ← check.verdict value random then proceed
      else guard.reject function .parameter "x" hint value random) := by
  have returns (result : Value) : guard.checkResult function random result = pure result := by
    rw [checkResult, plan]
    rfl
  simp only [plan, Plan.taking, ParameterCheck.taken, checkArgument, returns,
    getElem?_cons_zero, Option.toList_some, forM_eq_forM, forM_cons, forM_nil,
    bind_assoc, bind_pure]
  refine bind_congr fun accepted => ?_
  cases accepted with
  | true => rfl
  | false =>
    rw [if_neg Bool.false_ne_true, if_neg Bool.false_ne_true, reject, reject, bind_assoc]
    rfl

/-- The argument is checked without an integer if none is needed. -/
theorem call_taking (plan : guard.plan = .taking settings hint check)
    (unneeded : check.needsRandom = false) (value : Value) (function : String)
    (proceed : Action Value) : guard.call function ⟨[value], []⟩ proceed = (do
      if ← check.verdict value 0 then proceed
      else guard.reject function .parameter "x" hint value 0) := by
  rw [← check_taking plan value function proceed 0, call,
    show guard.plan.needsRandom = false by rw [plan]; exact unneeded]
  rfl

/-- Otherwise an integer is drawn first. -/
theorem call_taking_drawn (plan : guard.plan = .taking settings hint check)
    (needed : check.needsRandom = true) (value : Value) (function : String)
    (proceed : Action Value) : guard.call function ⟨[value], []⟩ proceed = (do
      let random ← draw guard.settings.source
      if ← check.verdict value random then proceed
      else guard.reject function .parameter "x" hint value random) := by
  rw [call, show guard.plan.needsRandom = true by rw [plan]; exact needed]
  exact bind_congr fun random => check_taking plan value function proceed random

end Guard

/-! ### Classes -/

theorem Signature.acceptable_instanceOf (validators : Nat → Validator) {c : Class}
    (known : c ∈ Class.builtins) (narrow : c ≠ .object) :
    (taking (.instanceOf c)).Acceptable validators := by
  refine acceptable_taking rfl (fun _ _ inside => ?_)
    ⟨fun _ inside => ?_, fun settings check made => ?_⟩
  · cases Hint.inside_instanceOf inside
  · cases Hint.inside_instanceOf inside
    exact Class.writable_builtin known
  · have shaped : (Hint.instanceOf c).shape = .instanceOf c := if_neg narrow
    rw [Settings.check, Settings.checkWithin, shaped] at made
    cases made
    exact Nat.zero_le _

/-! ### Integers -/

/-- Validators that accept everything. -/
def Validator.lenient (serial : Nat) : Validator := ⟨serial, "even", fun _ => true⟩

theorem Signature.acceptable_int (validators : Nat → Validator) :
    (taking (.instanceOf .int)).Acceptable validators :=
  acceptable_instanceOf validators (by decide) (by decide)

theorem Signature.acceptable_integers (validators : Nat → Validator) :
    (taking .integers).Acceptable validators := by
  refine acceptable_taking rfl (fun _ _ inside => ?_)
    ⟨fun _ inside => ?_, fun settings check made => ?_⟩
  · rcases Hint.inside_integers inside with same | same <;> cases same
  · rcases Hint.inside_integers inside with rfl | rfl
    · trivial
    · exact Class.writable_builtin (by decide)
  · cases made
    exact Nat.le_of_ble_eq_true rfl

/-! ### Literals -/

theorem Hint.inside_literal {inner : Hint} {values : List Value}
    (inside : inner.Inside (literal values)) : inner = literal values := by
  cases inside with
  | self => rfl
  | child member => cases member

theorem Value.inside_atomic {inner : Value} (atomic : value.parts = [])
    (inside : inner.Inside value) : inner = value := by
  cases inside with
  | self => rfl
  | part member =>
    rw [atomic] at member
    cases member

/-- A literal without parts that may be written makes a function acceptable. -/
theorem Signature.acceptable_literal (validators : Nat → Validator) (atomic : value.parts = [])
    (other : ∀ c, value ≠ .classObject c) (kind : value.kind.Standard) (tame : value.OwnTame)
    (harmless : ∀ name ∈ value.lookups ++ value.kind.lookups, isHarmless name.toList = true) :
    (taking (.literal [value])).Acceptable validators := by
  refine acceptable_taking rfl (fun inner given inside => ?_)
    ⟨fun inner inside => ?_, fun settings check made => ?_⟩
  · cases Hint.inside_literal inside
  · cases Hint.inside_literal inside
    refine forall_mem_singleton.mpr ⟨fun c inside => ?_, kind, fun part inside => ?_, harmless⟩
    · exact absurd (Value.inside_atomic atomic inside).symm (other c)
    · cases Value.inside_atomic atomic inside
      exact tame
  · cases made
    exact Nat.zero_le _

theorem Class.standard_str : Class.str.Standard :=
  (writable_builtin (by decide : Class.str ∈ builtins)).standard

/-! ### Guards that verify -/

variable {bodies : Nat → Arguments → Action Value}

/-- Whatever a registry was used for, a guard for a function can be put together if the signature is
acceptable: the source verifies, and guarding the function, or a function that was guarded before,
succeeds. -/
theorem Settings.guards_verify {registry : Registry}
    (employed : registry.Employed (Hint.Known validators) bodies) (settings : Settings)
    (acceptable : signature.Acceptable validators) (identity : Nat) (world : World) :
    (∃ assembly after,
      (settings.assemble signature).run.run ⟨registry, world⟩ = (.ok assembly, after) ∧
        Source.verify assembly.source assembly.requires = .ok ()) ∧
    (∃ guarded after, (settings.compile (.written bodies signature identity)).run.run
      ⟨registry, world⟩ = (.ok guarded, after)) ∧
    ∀ function : Function,
      function.Founded (fun number given => number = identity ∧ given = signature) bodies →
      ∃ guarded after,
        (settings.decorate function).run.run ⟨registry, world⟩ = (.ok guarded, after) := by
  have stocked := employed.stocked
  refine ⟨?_, exists_compile_eq_ok stocked settings acceptable identity world, ?_⟩
  · obtain ⟨assembly, after, run, fits⟩ := exists_assemble_eq_ok stocked settings acceptable world
    exact ⟨assembly, after, run, fits.verifies acceptable⟩
  · intro function founded
    refine exists_decorate_eq_ok stocked settings (founded.imp ?_) world
    rintro _ _ ⟨rfl, rfl⟩
    exact acceptable

/-- A text that reads like a look-up does no harm. -/
theorem Settings.guards_verify_for_text :
    let bodies : Nat → Arguments → Action Value := fun _ _ => pure .null
    let settings := Settings.standard ⟨102, .fixed 5⟩
    let signature := Signature.taking (.literal [.str 201 "__hc_registry['x']"])
    Registry.Employed (Hint.Known fun serial => ⟨serial, "even", fun _ => true⟩) bodies .empty ∧
      signature.Acceptable (fun serial => ⟨serial, "even", fun _ => true⟩) ∧
      ∃ guarded after, (settings.decorate (.written bodies signature 103)).run.run
        ⟨.empty, .initial⟩ = (.ok guarded, after) := by
  intro bodies settings signature
  have employed : Registry.Employed (Hint.Known fun serial => ⟨serial, "even", fun _ => true⟩)
      bodies .empty := .fresh
  have acceptable : signature.Acceptable fun serial => ⟨serial, "even", fun _ => true⟩ :=
    Signature.acceptable_literal _ rfl nofun Class.standard_str
      (by decide : isHarmless "__hc_registry['x']".toList = true) nofun
  exact ⟨employed, acceptable, (settings.guards_verify employed acceptable 103 .initial).2.2 _
    (.written ⟨rfl, rfl⟩)⟩

/-! ### Texts that are mistaken for something else -/

theorem Settings.verified_of_compile {settings : Settings} {function guarded : Function}
    {before after : Workshop}
    (run : (settings.compile function).run.run before = (.ok guarded, after)) :
    ∃ assembly middle,
      (settings.assemble function.signature).run.run before = (.ok assembly, middle) ∧
        Source.verify assembly.source assembly.requires = .ok () ∧
        (assembly.guard settings function).run.run middle = (.ok guarded, after) := by
  rw [compile, ExceptT.run_bind, StateT.run_bind] at run
  rcases assembled : (settings.assemble function.signature).run.run before with
    ⟨failure | assembly, middle⟩
  · rw [assembled] at run
    cases congrArg Prod.fst run
  · rw [assembled] at run
    change (assembly.guard settings function).run.run middle = _ at run
    refine ⟨assembly, middle, rfl, ?_, run⟩
    rw [Assembly.guard] at run
    cases verified : Source.verify assembly.source assembly.requires with
    | ok => rfl
    | error failure =>
      rw [verified] at run
      cases congrArg Prod.fst run

namespace Source

variable {source : String} {requires : List String}

theorem verify_eq_error {failure : Failure} (failed : verify source requires = .error failure) :
    ∃ fault, failure = .internal fault source := by
  unfold verify at failed
  dsimp only at failed
  split at failed
  · rename_i fault _
    cases failed
    exact ⟨fault, rfl⟩
  · cases failed

theorem clear_of_verify (verified : verify source requires = .ok ()) :
    leftHole? source.toList = none ∧ unboundName? source.toList requires = none := by
  unfold verify at verified
  dsimp only at verified
  split at verified
  · cases verified
  · rename_i clear
    simp only [Option.or_eq_none_iff] at clear
    exact ⟨clear.1, clear.2.2.2⟩

theorem lookedUp_ne_nil {text : List Char} (found : lookupStart <:+: text) :
    lookedUp text ≠ [] := by
  obtain ⟨before, after, rfl⟩ := found
  induction before with
  | nil =>
    have start : lookupStart = '_' :: "_hc_registry['".toList := by decide
    have here : lookupStart.isPrefixOf ('_' :: ("_hc_registry['".toList ++ after)) = true := by
      rw [List.isPrefixOf_iff_prefix, start]
      exact ⟨after, rfl⟩
    rw [nil_append, start, cons_append, lookedUp, if_pos here]
    exact cons_ne_nil _ _
  | cons c before ih =>
    rw [cons_append, cons_append, lookedUp]
    split
    · exact cons_ne_nil _ _
    · exact ih

/-- A source that leaves the hole for a name, or looks up what it does not require, does not
verify. -/
theorem not_verify (found : nameHole.toList <:+: source.toList ∨ lookupStart <:+: source.toList) :
    verify source [] ≠ .ok () := by
  intro verified
  obtain ⟨holes, names⟩ := clear_of_verify verified
  rcases found with hole | look
  · rw [leftHole?, Option.map_eq_none_iff, find?_eq_none] at holes
    exact holes nameHole (by decide) ((Text.occurs_iff_infix _ _).mpr hole)
  · rw [unboundName?, Option.map_eq_none_iff, find?_eq_none] at names
    refine lookedUp_ne_nil look (eq_nil_iff_forall_not_mem.mpr fun name member => ?_)
    exact names name member rfl

end Source

/-- A function whose guards do not verify cannot be guarded. -/
theorem Settings.decorate_unverified {bodies : Nat → Arguments → Action Value}
    {issued : Hint → Prop} {signature : Signature} (settings : Settings)
    (trusted : signature.Trusted issued) (needed : signature.needsChecking = true)
    (valid : signature.validate = .ok ())
    (accepted : ¬ Signature.Refused settings signature.parameters signature.returns)
    (unverified : ∀ assembly : Assembly, assembly.Fits settings issued signature →
      Source.verify assembly.source assembly.requires ≠ .ok ()) (identity : Nat) (world : World) :
    ∃ fault source after, (settings.decorate (.written bodies signature identity)).run.run
      ⟨.empty, world⟩ = (.error (.internal fault source), after) := by
  have start (later : World) : Workshop.Grown issued ⟨.empty, later⟩ ⟨.empty, later⟩ :=
    ⟨Registry.empty_faithful, rfl, _, _, rfl⟩
  have yields := settings.yields_decorate signature identity (bodies identity) ⟨.empty, world⟩
  rw [Function.written]
  generalize (settings.decorate (.plain signature identity (bodies identity))).run.run
    ⟨.empty, world⟩ = run at yields ⊢
  cases yields with
  | unneeded unneeded => cases needed.symm.trans unneeded
  | known _ found => cases found
  | @failed failure later after _ _ _ failed =>
    have upheld := @compile_upholds _ bodies settings _ _ trusted identity _ (start later)
    rcases (upheld.2 failure after failed).2 with invalid | refused | ⟨assembly, fits, wrong⟩
    · cases valid.symm.trans invalid
    · exact absurd refused accepted
    · obtain ⟨fault, rfl⟩ := verify_eq_error wrong
      exact ⟨fault, _, after, rfl⟩
  | @made guarded later after _ _ _ made =>
    obtain ⟨assembly, middle, assembled, verified, -⟩ := verified_of_compile made
    have upheld := settings.assemble_upholds ⟨.empty, later⟩ trusted _ (start later)
    exact absurd verified (unverified assembly (upheld.1 assembly middle assembled).2)

/-- The text of a check is in the source of a guard. -/
theorem Assembly.render_infix (name : String) (check : ParameterCheck) :
    (check.fragment.render rootName 0).toList <:+: (of name [check] .unchecked).source.toList := by
  have before {part text more : String} (inside : part.toList <:+: text.toList) :
      part.toList <:+: (text ++ more).toList := by
    rw [String.toList_append]
    exact infix_append_of_infix_left inside
  have after {part text more : String} (inside : part.toList <:+: text.toList) :
      part.toList <:+: (more ++ text).toList := by
    rw [String.toList_append]
    exact infix_append_of_infix_right inside
  have tested : (check.fragment.render rootName 0).toList <:+:
      (test check.fragment 0 (Text.quotedWithoutBraces check.name)).toList :=
    before (after infix_rfl)
  have drafted : (check.fragment.render rootName 0).toList <:+:
      ((Draft.empty.addParameters [check]).addResult .unchecked).text.toList :=
    before (after tested)
  exact before (after drafted)

theorem Check.standard_str (identity : Nat) (text : String) :
    (Check.oneOf [.str identity text]).Standard := by
  refine List.forall_mem_singleton.mpr ⟨fun c inside => ?_, Class.standard_str⟩
  cases Value.inside_atomic rfl inside

/-- What is in the check of a literal with a text is in the source. -/
theorem Assembly.infix_of_str {needle : List Char} {identity : Nat} {text : String}
    (found : Text.occurs needle (((Check.oneOf [.str identity text]).script Script.tested 0
      rootLevel).print rootName.toList localName) = true) (warnings : List Warning) :
    needle <:+: (of "f" [⟨"x", .positionalOnly, 0, .literal [.str identity text],
      ⟨.oneOf [.str identity text], rootLevel, warnings⟩⟩] .unchecked).source.toList := by
  have shown := render_infix "f" ⟨"x", .positionalOnly, 0, .literal [.str identity text],
    ⟨.oneOf [.str identity text], rootLevel, warnings⟩⟩
  rw [Fragment.render_script (Check.standard_str identity text) (Nat.zero_le _)] at shown
  exact ((Text.occurs_iff_infix _ _).mp found).trans shown

/-- Texts of literals that are mistaken for a look-up or for a hole keep a function from being
guarded. -/
theorem Settings.literals_mistaken :
    let bodies : Nat → Arguments → Action Value := fun _ _ => pure .null
    let settings := Settings.standard ⟨102, .fixed 5⟩
    ∀ text ∈ ["__hc_registry[", "?|PITH_ROOT_NAME`^"],
      let signature := Signature.taking (.literal [.str 201 text])
      Text.isIdentifier signature.name = true ∧ signature.validate = .ok () ∧
        (Hint.literal [.str 201 text]).obstacle = none ∧
        ∃ fault source after, (settings.decorate (.written bodies signature 103)).run.run
          ⟨.empty, .initial⟩ = (.error (.internal fault source), after) := by
  intro bodies settings text member signature
  have found : ∀ text ∈ ["__hc_registry[", "?|PITH_ROOT_NAME`^"],
      let shown := ((Check.oneOf [.str 201 text]).script Script.tested 0 rootLevel).print
        rootName.toList localName
      Text.occurs nameHole.toList shown = true ∨ Text.occurs lookupStart shown = true := by
    decide +kernel
  have unverified {assembly : Assembly}
      (fits : assembly.Fits settings (· = .literal [.str 201 text]) signature) :
      Source.verify assembly.source assembly.requires ≠ .ok () := by
    have made : settings.check (.literal [.str 201 text]) = .ok (.oneOf [.str 201 text]) := rfl
    obtain ⟨rfl, -⟩ := fits.plan_taking made rfl
    have requires : ([] : List String).mergeSort (fun left right => decide (left ≤ right)) = [] :=
      List.mergeSort_nil
    change Source.verify _ (List.mergeSort [] _) ≠ .ok ()
    rw [requires]
    exact not_verify ((found text member).imp
      (Assembly.infix_of_str · _) (Assembly.infix_of_str · _))
  refine ⟨(by decide : Text.isIdentifier "f" = true), Signature.validate_taking _, rfl, ?_⟩
  refine settings.decorate_unverified ⟨List.forall_mem_singleton.mpr ?_, nofun⟩ rfl
    (Signature.validate_taking _) ?_ (fun _ => unverified) 103 .initial
  · rintro _ ⟨⟩
    rfl
  · rintro (⟨_, member, _, checkable, -, _, refused⟩ | ⟨_, checkable, -⟩)
    · cases List.mem_singleton.mp member
      cases checkable
      cases refused
    · cases checkable

end CallGuard
