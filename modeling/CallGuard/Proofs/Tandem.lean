/-
Putting guards together side by side. Two registries may hold different
fragments, as long as every fragment was made for a hint that is trusted and
imprints of trusted hints can be read back. Then guards for signatures that are
twins are put together with both or with neither, and the two guards cannot be
told apart: they have the same source and their plans are twins. Besides
fragments being filed, nothing but the journal and the next serial number
changes on the way.
-/
import CallGuard.Proofs.Counterpart
import CallGuard.Proofs.Decoding
import CallGuard.Proofs.Filing
import CallGuard.Proofs.Transparency

namespace CallGuard

open CallGuard.Action

/-! ### Steps in tandem -/

/-- The later world differs from the earlier one at most in its journal and in the next serial
number. -/
def World.Idle (world later : World) : Prop :=
  ∃ next journal, later = { world with next := next, journal := journal }

theorem World.Noted.idle {world later : World} (noted : world.Noted later) : world.Idle later := by
  obtain ⟨journal, rfl⟩ := noted
  exact ⟨world.next, journal, rfl⟩

theorem World.Idle.trans {first second third : World} (early : first.Idle second)
    (late : second.Idle third) : first.Idle third := by
  obtain ⟨_, _, rfl⟩ := early
  obtain ⟨next, journal, rfl⟩ := late
  exact ⟨next, journal, rfl⟩

/-- Nothing happened but that fragments for trusted hints were filed. -/
structure Workshop.Grown (trusted : Hint → Prop) (workshop later : Workshop) : Prop where
  fragments : later.registry.Faithful trusted
  guards : later.registry.guards = workshop.registry.guards
  world : workshop.world.Idle later.world

theorem Workshop.Grown.trans {trusted : Hint → Prop} {first second third : Workshop}
    (early : first.Grown trusted second) (late : second.Grown trusted third) :
    first.Grown trusted third :=
  ⟨late.fragments, late.guards.trans early.guards, early.world.trans late.world⟩

/-- Both fail, or both succeed with results that are related. -/
inductive Agree {Result Result' : Type} (related : Result → Result' → Prop) :
    Except Failure Result → Except Failure Result' → Prop
  | failed (failure failure' : Failure) : Agree related (.error failure) (.error failure')
  | done {result : Result} {result' : Result'} (link : related result result') :
    Agree related (.ok result) (.ok result')

theorem Agree.imp {Result Result' : Type} {related related' : Result → Result' → Prop}
    {outcome : Except Failure Result} {outcome' : Except Failure Result'}
    (agree : Agree related outcome outcome')
    (weaker : ∀ result result', related result result' → related' result result') :
    Agree related' outcome outcome' := by
  cases agree with
  | failed failure failure' => exact .failed failure failure'
  | done link => exact .done (weaker _ _ link)

namespace Making

variable {trusted : Hint → Prop} {Result Result' Other Other' : Type}
  {related : Result → Result' → Prop}

/-- Whatever trusted fragments two registries hold, the two steps both fail or both succeed with
results that are related, and do nothing but file fragments for trusted hints. -/
def Tandem (trusted : Hint → Prop) (related : Result → Result' → Prop) (step : Making Result)
    (step' : Making Result') : Prop :=
  ∀ workshop workshop', workshop.registry.Faithful trusted → workshop'.registry.Faithful trusted →
    Agree related (step.run.run workshop).1 (step'.run.run workshop').1 ∧
      workshop.Grown trusted (step.run.run workshop).2 ∧
      workshop'.Grown trusted (step'.run.run workshop').2

theorem Tandem.imp {related' : Result → Result' → Prop} {step : Making Result}
    {step' : Making Result'} (tandem : Tandem trusted related step step')
    (weaker : ∀ result result', related result result' → related' result result') :
    Tandem trusted related' step step' := by
  intro workshop workshop' faithful faithful'
  obtain ⟨agree, grown⟩ := tandem workshop workshop' faithful faithful'
  exact ⟨agree.imp weaker, grown⟩

theorem tandem_ofExcept {result : Except Failure Result} {result' : Except Failure Result'}
    (agree : Agree related result result') :
    Tandem trusted related (ofExcept result) (ofExcept result') :=
  fun _ _ faithful faithful' =>
    ⟨agree, ⟨faithful, rfl, _, _, rfl⟩, ⟨faithful', rfl, _, _, rfl⟩⟩

theorem tandem_pure {result : Result} {result' : Result'} (link : related result result') :
    Tandem trusted related (pure result) (pure result') :=
  tandem_ofExcept (.done link)

theorem tandem_bind {linked : Other → Other' → Prop} {step : Making Other} {step' : Making Other'}
    {next : Other → Making Result} {next' : Other' → Making Result'}
    (first : Tandem trusted linked step step')
    (rest : ∀ value value', linked value value' → Tandem trusted related (next value) (next' value')) :
    Tandem trusted related (step >>= next) (step' >>= next') := by
  intro workshop workshop' faithful faithful'
  obtain ⟨agree, grown, grown'⟩ := first workshop workshop' faithful faithful'
  rw [ExceptT.run_bind, ExceptT.run_bind, StateT.run_bind, StateT.run_bind]
  generalize step.run.run workshop = ran at agree grown ⊢
  generalize step'.run.run workshop' = ran' at agree grown' ⊢
  obtain ⟨outcome, after⟩ := ran
  obtain ⟨outcome', after'⟩ := ran'
  cases agree with
  | failed failure failure' => exact ⟨.failed failure failure', grown, grown'⟩
  | done link =>
    obtain ⟨agree, later, later'⟩ := rest _ _ link after after' grown.fragments grown'.fragments
    exact ⟨agree, grown.trans later, grown'.trans later'⟩

/-- Actions that succeed everywhere and leave the world idle can be run side by side. -/
theorem tandem_ofAction {action : Action Result} {action' : Action Result'}
    (idles : ∀ world, ∃ result later, action.Ends world result later ∧ world.Idle later)
    (idles' : ∀ world, ∃ result later, action'.Ends world result later ∧ world.Idle later) :
    Tandem trusted (fun _ _ => True) (ofAction action) (ofAction action') := by
  intro workshop workshop' faithful faithful'
  obtain ⟨result, later, ended, idle⟩ := idles workshop.world
  obtain ⟨result', later', ended', idle'⟩ := idles' workshop'.world
  have run : (ofAction action).run.run workshop = (.ok result, ⟨workshop.registry, later⟩) := by
    show ((action.run.run workshop.world).1, Workshop.mk workshop.registry
      (action.run.run workshop.world).2) = _
    rw [ended]
  have run' : (ofAction action').run.run workshop' =
      (.ok result', ⟨workshop'.registry, later'⟩) := by
    show ((action'.run.run workshop'.world).1, Workshop.mk workshop'.registry
      (action'.run.run workshop'.world).2) = _
    rw [ended']
  rw [run, run']
  exact ⟨.done trivial, ⟨faithful, rfl, idle⟩, ⟨faithful', rfl, idle'⟩⟩

theorem tandem_note (level level' : Level) (topic topic' message message' : String) :
    Tandem trusted (fun _ _ => True) (ofAction (note level topic message))
      (ofAction (note level' topic' message')) :=
  tandem_ofAction (fun _ => ⟨_, _, rfl, _, _, rfl⟩) fun _ => ⟨_, _, rfl, _, _, rfl⟩

theorem tandem_fresh : Tandem trusted (fun _ _ => True) (ofAction fresh) (ofAction fresh) :=
  tandem_ofAction (fun _ => ⟨_, _, rfl, _, _, rfl⟩) fun _ => ⟨_, _, rfl, _, _, rfl⟩

theorem tandem_notes {Item : Type} (items : List Item) (level : Level) (topic : String)
    (message message' : Item → String) :
    Tandem trusted (fun _ _ => True)
      (items.forM fun item => ofAction (note level topic (message item)))
      (items.forM fun item => ofAction (note level topic (message' item))) := by
  induction items with
  | nil => exact tandem_pure trivial
  | cons first rest ih =>
    exact tandem_bind (tandem_note _ _ _ _ _ _) fun _ _ _ => ih

end Making

open Making

variable {similar : World → World → Prop} {trusted : Hint → Prop} {settings : Settings}

/-! ### Fragments -/

/-- The fragment cannot be told apart from one made afresh for the hint. -/
structure Fragment.Suits (similar : World → World → Prop) (settings : Settings) (hint : Hint)
    (level : Nat) (fragment : Fragment) : Prop where
  check : ∃ check, settings.check hint = .ok check ∧ fragment.check.Twin similar True check
  level : fragment.level = level
  warnings : fragment.warnings = settings.warnings hint

/-- Fragments that cannot be told apart. -/
structure Fragment.Twin (similar : World → World → Prop) (a b : Fragment) : Prop where
  check : a.check.Twin similar True b.check
  level : a.level = b.level
  warnings : a.warnings = b.warnings

theorem Fragment.Twin.code_eq {a b : Fragment} (twin : a.Twin similar b) : a.code = b.code := by
  rw [code, code, twin.level]
  exact twin.check.code trivial b.level

/-- Fragments that suit twins are twins. -/
theorem Fragment.Suits.twin (similarity : Similarity similar) {hint hint' : Hint} {level : Nat}
    {fragment fragment' : Fragment} (twin : hint.Twin similar True hint')
    (suits : fragment.Suits similar settings hint level)
    (suits' : fragment'.Suits similar settings hint' level) : fragment.Twin similar fragment' := by
  obtain ⟨check, made, like⟩ := suits.check
  obtain ⟨check', made', like'⟩ := suits'.check
  have between := Settings.twin_of_checkWithin similarity twin made made'
  exact ⟨(like.trans similarity between).trans similarity (like'.symm similarity),
    suits.level.trans suits'.level.symm,
    suits.warnings.trans ((twin.warnings_eq settings).trans suits'.warnings.symm)⟩

/-- What comes of making a fragment for a trusted hint depends on the hint only. -/
theorem Settings.fragment_suits (similarity : Similarity similar)
    (decodable : Hint.Decodable similar trusted) (label : String) {hint : Hint} (level : Nat)
    (known : trusted hint) {workshop : Workshop} (faithful : workshop.registry.Faithful trusted) :
    let run := (settings.fragment label hint level).run.run workshop
    ((∃ fragment, run.1 = .ok fragment ∧ fragment.Suits similar settings hint level) ∨
      ∃ failure refusal, run.1 = .error failure ∧ settings.check hint = .error refusal) ∧
      workshop.Grown trusted run.2 := by
  intro run
  have supplied : settings.Supplies label hint level workshop run :=
    settings.supplies_fragment label hint level workshop
  have suits {check : Check} (made : settings.check hint = .ok check) :
      Fragment.Suits similar settings hint level ⟨check, level, settings.warnings hint⟩ :=
    ⟨⟨check, made, twin_of_checkWithin similarity (.refl similarity hint) made made⟩, rfl, rfl⟩
  clear_value run
  cases supplied with
  | known found noted =>
    obtain ⟨twin, check, known', -, imprints, made, rfl⟩ := faithful.handed found
    have twins := decodable.twin known' known imprints
    obtain ⟨check', made', like⟩ := exists_twin_of_checkWithin similarity [] twins made
    exact ⟨.inl ⟨_, rfl, ⟨check', made', like⟩, rfl, twins.warnings_eq settings⟩,
      faithful, rfl, noted.idle⟩
  | refused _ refused noted =>
    exact ⟨.inr ⟨_, _, rfl, refused⟩, faithful, rfl, noted.idle⟩
  | made _ made noted =>
    exact ⟨.inl ⟨_, rfl, suits made⟩, faithful.fileFragment level known made, rfl, noted.idle⟩

theorem Settings.fragment_tandem (similarity : Similarity similar)
    (decodable : Hint.Decodable similar trusted) (label label' : String) {hint hint' : Hint}
    (level : Nat) (known : trusted hint) (known' : trusted hint')
    (twin : hint.Twin similar True hint') :
    Tandem trusted (fun fragment fragment' => hint.Reported similar settings hint' ∧
        fragment.Twin similar fragment')
      (settings.fragment label hint level) (settings.fragment label' hint' level) := by
  intro workshop workshop' faithful faithful'
  obtain ⟨outcome, grown⟩ :=
    settings.fragment_suits similarity decodable label level known faithful
  obtain ⟨outcome', grown'⟩ :=
    settings.fragment_suits similarity decodable label' level known' faithful'
  refine ⟨?_, grown, grown'⟩
  rcases outcome with ⟨fragment, run, suits⟩ | ⟨failure, refusal, run, refused⟩
  · rcases outcome' with ⟨fragment', run', suits'⟩ | ⟨failure', refusal', run', refused'⟩
    · rw [run, run']
      obtain ⟨check, made, -⟩ := suits.check
      exact .done ⟨twin.reported similarity made, suits.twin similarity twin suits'⟩
    · obtain ⟨check, made, -⟩ := suits.check
      obtain ⟨check', made'⟩ := exists_checkWithin_of_twin similarity [] twin made
      cases made'.symm.trans refused'
  · rcases outcome' with ⟨fragment', run', suits'⟩ | ⟨failure', refusal', run', refused'⟩
    · obtain ⟨check', made', -⟩ := suits'.check
      obtain ⟨check, made⟩ := exists_checkWithin_of_twin similarity [] (twin.symm similarity) made'
      cases made.symm.trans refused
    · rw [run, run']
      exact .failed failure failure'

/-! ### Drafts -/

/-- Drafts that cannot be told apart. -/
structure Draft.Twin (similar : World → World → Prop) (settings : Settings) (a b : Draft) :
    Prop where
  text : a.text = b.text
  locals : a.locals = b.locals
  needsRandom : a.needsRandom = b.needsRandom
  countsArguments : a.countsArguments = b.countsArguments
  requires : ∀ name, name ∈ a.requires ↔ name ∈ b.requires
  warnings : a.warnings = b.warnings
  checks : List.Forall₂ (ParameterCheck.Twin similar settings) a.checks b.checks

namespace Draft

variable {draft draft' : Draft} {fragment fragment' : Fragment}

theorem Twin.write (twin : draft.Twin similar settings draft') (text : String) :
    (draft.write text).Twin similar settings (draft'.write text) :=
  { twin with text := congrArg (· ++ text) twin.text }

theorem Twin.addTest (twin : draft.Twin similar settings draft')
    (fragments : fragment.Twin similar fragment') (name : String) :
    (draft.addTest fragment name).Twin similar settings (draft'.addTest fragment' name) where
  text := by
    have same (offset : Nat) (name : String) :
        Source.test fragment offset name = Source.test fragment' offset name := by
      rw [Source.test, Source.test, Fragment.render, Fragment.render, fragments.code_eq,
        fragments.check.needsRandom]
    rw [Draft.addTest, Draft.addTest, twin.text, twin.locals, same]
  locals := by
    rw [Draft.addTest, Draft.addTest, twin.locals, Fragment.locals, Fragment.locals,
      fragments.check.locals]
  needsRandom := by
    rw [Draft.addTest, Draft.addTest, twin.needsRandom, fragments.check.needsRandom]
  countsArguments := twin.countsArguments
  requires name := by
    rw [Draft.addTest, Draft.addTest, List.mem_append, List.mem_append, twin.requires name,
      fragments.check.lookups name]
  warnings := by rw [Draft.addTest, Draft.addTest, twin.warnings, fragments.warnings]
  checks := twin.checks

theorem Twin.addParameter (twin : draft.Twin similar settings draft') (binding name : String)
    (kind : ParameterKind) (index : Nat) {hint hint' : Hint}
    (hints : hint.Reported similar settings hint') (fragments : fragment.Twin similar fragment') :
    (draft.addParameter binding ⟨name, kind, index, hint, fragment⟩).Twin similar settings
      (draft'.addParameter binding ⟨name, kind, index, hint', fragment'⟩) :=
  { (twin.write _).addTest fragments name with
    countsArguments := congrArg (· || kind.takesPosition) twin.countsArguments
    checks := List.rel_append twin.checks (.cons ⟨rfl, rfl, rfl, hints, fragments.check⟩ .nil) }

theorem twin_empty : empty.Twin similar settings empty :=
  ⟨rfl, rfl, rfl, rfl, fun _ => Iff.rfl, rfl, .nil⟩

end Draft

/-- Of two hints that are twins, both are checked or neither. -/
theorem Hint.checkable_twin {hint hint' : Option Hint}
    (twins : Option.Rel (Hint.Twin similar True) hint hint') :
    (hint.bind Hint.checkable = none ∧ hint'.bind Hint.checkable = none) ∨
      ∃ given given', (hint = some given ∧ hint.bind Hint.checkable = some given) ∧
        (hint' = some given' ∧ hint'.bind Hint.checkable = some given') ∧
        given.Twin similar True given' := by
  cases twins with
  | none => exact .inl ⟨rfl, rfl⟩
  | @some given given' twin =>
    rw [Option.bind_some, Option.bind_some, Hint.checkable, Hint.checkable, twin.isIgnorable_eq]
    split
    · exact .inl ⟨rfl, rfl⟩
    · exact .inr ⟨given, given', ⟨rfl, rfl⟩, ⟨rfl, rfl⟩, twin⟩

namespace Settings

variable (settings)

theorem draftParameters_tandem (similarity : Similarity similar)
    (decodable : Hint.Decodable similar trusted) {parameters parameters' : List Parameter}
    (each : List.Forall₂ (Parameter.Twin similar) parameters parameters')
    (known : ∀ parameter ∈ parameters, ∀ hint, parameter.hint = some hint → trusted hint)
    (known' : ∀ parameter ∈ parameters', ∀ hint, parameter.hint = some hint → trusted hint)
    (position : Nat) {draft draft' : Draft} (drafts : draft.Twin similar settings draft') :
    Tandem trusted (Draft.Twin similar settings) (settings.draftParameters position parameters draft)
      (settings.draftParameters position parameters' draft') := by
  induction each generalizing position draft draft' with
  | nil => exact tandem_pure drafts
  | @cons parameter parameter' rest rest' head tail ih =>
    obtain ⟨knownHead, knownRest⟩ := List.forall_mem_cons.mp known
    obtain ⟨knownHead', knownRest'⟩ := List.forall_mem_cons.mp known'
    have later {draft draft' : Draft} (drafts : draft.Twin similar settings draft') :=
      ih knownRest knownRest'
        (if parameter'.kind.takesPosition then position + 1 else position) drafts
    rw [draftParameters, draftParameters, head.name, head.kind]
    rcases Hint.checkable_twin head.hint with ⟨unchecked, unchecked'⟩ |
      ⟨hint, hint', ⟨given, checked⟩, ⟨given', checked'⟩, twin⟩
    · rw [unchecked, unchecked']
      exact later drafts
    · rw [checked, checked']
      cases Source.bindArgument parameter'.kind with
      | none => exact later drafts
      | some binding =>
        refine tandem_bind (fragment_tandem similarity decodable _ _ _ (knownHead hint given)
          (knownHead' hint' given') twin) ?_
        rintro fragment fragment' ⟨reported, fragments⟩
        exact later (drafts.addParameter binding _ _ _ reported fragments)

/-- The end of the source where the result is not one that never comes. -/
def draftChecked (returns : Option Hint) (draft : Draft) : Making (Draft × ResultCheck) :=
  match returns.bind Hint.checkable with
  | none => return (draft.write Source.returnUntested, .unchecked)
  | some hint => do
    let fragment ← settings.fragment "return:" hint Source.rootLevel
    let tested := (draft.write Source.callBeforeTest).addTest fragment Guard.resultName
    return (tested.write Source.returnTested, .checked hint fragment)

theorem draftResult_tandem (similarity : Similarity similar)
    (decodable : Hint.Decodable similar trusted) {returns returns' : Option Hint}
    (twins : Option.Rel (Hint.Twin similar True) returns returns')
    (known : ∀ hint, returns = some hint → trusted hint)
    (known' : ∀ hint, returns' = some hint → trusted hint) {draft draft' : Draft}
    (drafts : draft.Twin similar settings draft') :
    Tandem trusted (fun drafted drafted' => drafted.1.Twin similar settings drafted'.1 ∧
        drafted.2.Twin similar settings drafted'.2)
      (settings.draftResult returns draft) (settings.draftResult returns' draft') := by
  have tested : Tandem trusted (fun drafted drafted' => drafted.1.Twin similar settings drafted'.1 ∧
        drafted.2.Twin similar settings drafted'.2)
      (settings.draftChecked returns draft) (settings.draftChecked returns' draft') := by
    unfold draftChecked
    rcases Hint.checkable_twin twins with ⟨unchecked, unchecked'⟩ |
      ⟨hint, hint', ⟨given, checked⟩, ⟨given', checked'⟩, twin⟩
    · rw [unchecked, unchecked']
      exact tandem_pure ⟨drafts.write _, .unchecked⟩
    · rw [checked, checked']
      refine tandem_bind (fragment_tandem similarity decodable _ _ _ (known hint given)
        (known' hint' given') twin) ?_
      rintro fragment fragment' ⟨reported, fragments⟩
      exact tandem_pure ⟨((drafts.write _).addTest fragments _).write _,
        .checked reported fragments.check⟩
  cases twins with
  | none => exact tested
  | some twin =>
    cases twin with
    | never => exact tandem_pure ⟨drafts.write _, .never⟩
    | _ => exact tested

end Settings

/-! ### Signatures -/

namespace Parameter

variable {a b : Parameter}

theorem Twin.nameFault?_eq (twin : a.Twin similar b) (taken : List String) :
    a.nameFault? taken = b.nameFault? taken := by
  rw [nameFault?, nameFault?, twin.name]

theorem Twin.placeFault?_eq (twin : a.Twin similar b) (previous : Option ParameterKind) :
    a.placeFault? previous = b.placeFault? previous := by
  unfold placeFault?
  rw [twin.kind]

theorem Twin.hintFault? (twin : a.Twin similar b) :
    Option.Rel (fun _ _ => True) a.hintFault? b.hintFault? := by
  rw [Parameter.hintFault?, Parameter.hintFault?, twin.kind]
  split
  · rcases Hint.checkable_twin twin.hint with ⟨unchecked, unchecked'⟩ |
      ⟨hint, hint', ⟨-, checked⟩, ⟨-, checked'⟩, -⟩
    · rw [unchecked, unchecked']
      exact .none
    · rw [checked, checked']
      exact .some trivial
  · exact .none

end Parameter

namespace Signature

variable {signature signature' : Signature}

theorem validateFrom_agree {parameters parameters' : List Parameter}
    (each : List.Forall₂ (Parameter.Twin similar) parameters parameters') (function : String)
    (taken : List String) (previous : Option ParameterKind) :
    Agree (fun _ _ => True) (validateFrom function taken previous parameters)
      (validateFrom function taken previous parameters') := by
  induction each generalizing taken previous with
  | nil => exact .done trivial
  | @cons parameter parameter' rest rest' head tail ih =>
    have hints := head.hintFault?
    rw [validateFrom, validateFrom, head.nameFault?_eq, head.placeFault?_eq, head.name, head.kind]
    cases parameter'.nameFault? taken with
    | some fault => exact .failed _ _
    | none =>
      cases parameter'.placeFault? previous with
      | some fault => exact .failed _ _
      | none =>
        dsimp only [Option.orElse]
        generalize parameter.hintFault? = fault at hints ⊢
        generalize parameter'.hintFault? = fault' at hints ⊢
        cases hints with
        | some => exact .failed _ _
        | none => exact ih _ _

theorem Twin.validate_agree (twin : signature.Twin similar signature') :
    Agree (fun _ _ => True) signature.validate signature'.validate := by
  rw [validate, validate, twin.qualname]
  exact validateFrom_agree twin.parameters _ _ _

theorem Twin.needsChecking_eq (twin : signature.Twin similar signature') :
    signature.needsChecking = signature'.needsChecking := by
  have checked {hint hint' : Option Hint} (twins : Option.Rel (Hint.Twin similar True) hint hint') :
      hint.any (fun hint => !hint.isIgnorable) = hint'.any fun hint => !hint.isIgnorable := by
    cases twins with
    | none => rfl
    | some twin => rw [Option.any_some, Option.any_some, twin.isIgnorable_eq]
  have some_checked {parameters parameters' : List Parameter}
      (each : List.Forall₂ (Parameter.Twin similar) parameters parameters') :
      (parameters.any fun parameter => parameter.hint.any fun hint => !hint.isIgnorable) =
        parameters'.any fun parameter => parameter.hint.any fun hint => !hint.isIgnorable := by
    induction each with
    | nil => rfl
    | cons head _ ih =>
      rw [List.any_cons, List.any_cons, checked head.hint, ih]
  have flat (parameters : List Parameter) :
      (parameters.filterMap Parameter.hint).any (fun hint => !hint.isIgnorable) =
        parameters.any fun parameter => parameter.hint.any fun hint => !hint.isIgnorable := by
    rw [List.any_filterMap]
    rfl
  rw [needsChecking, needsChecking, flat, flat, some_checked twin.parameters, checked twin.returns]

end Signature

/-! ### Guards -/

/-- Assemblies that cannot be told apart. -/
structure Assembly.Twin (similar : World → World → Prop) (settings : Settings) (a b : Assembly) :
    Prop where
  source : a.source = b.source
  plan : a.plan.Twin similar settings b.plan
  requires : a.requires = b.requires

namespace Settings

variable (settings)

theorem assemble_tandem (similarity : Similarity similar)
    (decodable : Hint.Decodable similar trusted) {signature signature' : Signature}
    (known : signature.Trusted trusted) (known' : signature'.Trusted trusted)
    (twin : signature.Twin similar signature') :
    Tandem trusted (Assembly.Twin similar settings) (settings.assemble signature)
      (settings.assemble signature') := by
  refine tandem_bind (tandem_ofExcept twin.validate_agree) fun _ _ _ =>
    tandem_bind (settings.draftParameters_tandem similarity decodable twin.parameters
      known.parameters known'.parameters 0 Draft.twin_empty) fun draft draft' drafts =>
    tandem_bind (settings.draftResult_tandem similarity decodable twin.returns known.returns
      known'.returns drafts) fun drafted drafted' links => ?_
  obtain ⟨drafts, results⟩ := links
  have notes : Tandem trusted (fun _ _ => True) (drafted.1.warnings.forM fun warning => ofAction <|
        note .warn "assemble" (signature.qualname ++ "(): " ++ warning.text))
      (drafted'.1.warnings.forM fun warning => ofAction <|
        note .warn "assemble" (signature'.qualname ++ "(): " ++ warning.text)) := by
    rw [drafts.warnings]
    exact tandem_notes _ _ _ _ _
  refine tandem_bind notes fun _ _ _ => tandem_pure ⟨?_, ⟨drafts.checks, results,
    drafts.needsRandom⟩, sorted_eq drafts.requires⟩
  rw [twin.name, drafts.countsArguments, drafts.needsRandom, drafts.text]

end Settings

theorem Assembly.guard_tandem {assembly assembly' : Assembly}
    (twin : assembly.Twin similar settings assembly') (function function' : Function) :
    Tandem trusted (fun made made' => ∃ identity identity' guard guard',
        made = .guarded function.signature identity guard function ∧
        made' = .guarded function'.signature identity' guard' function' ∧
        guard.settings = settings ∧ guard'.settings = settings ∧
        guard.plan.Twin similar settings guard'.plan)
      (assembly.guard settings function) (assembly'.guard settings function') := by
  have verified : Agree (fun _ _ => True) (Source.verify assembly.source assembly.requires)
      (Source.verify assembly'.source assembly'.requires) := by
    rw [twin.source, twin.requires]
    cases Source.verify assembly'.source assembly'.requires with
    | error failure => exact .failed failure failure
    | ok => exact .done trivial
  refine tandem_bind (tandem_ofExcept verified) fun _ _ _ => ?_
  split
  · refine tandem_bind (tandem_note _ _ _ _ _ _) fun _ _ _ =>
      tandem_bind tandem_fresh fun identity identity' _ => tandem_pure ?_
    exact ⟨identity, identity', _, _, rfl, rfl, rfl, rfl, twin.plan⟩
  · refine tandem_bind tandem_fresh fun identity identity' _ => tandem_pure ?_
    exact ⟨identity, identity', _, _, rfl, rfl, rfl, rfl, twin.plan⟩

end CallGuard
