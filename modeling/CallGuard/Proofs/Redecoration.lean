/-
Guarding a function again and again. A registry hands out the same guarded
function for the same settings from the first time on, and a guarded function is
taken off its guard before it is guarded under other settings. So however often
a function has been guarded, one time after the other with one registry, the last
settings decide: what comes out is what guarding the function itself under them
gives. There is never more than one guard around it.
-/
import CallGuard.Proofs.Acceptance
import CallGuard.Proofs.Calling

namespace CallGuard

open CallGuard.Action

variable {bodies : Nat → Arguments → Action Value} {function guarded : Function}
  {settings : Settings} {registry : Registry}

/-- The function was guarded, what came out was guarded again, and so on, all with one registry,
with which other functions may have been guarded meanwhile. The settings are the last ones and the
registry is as it is now. -/
inductive Function.Dressed (bodies : Nat → Arguments → Action Value) (function : Function) :
    Settings → Function → Registry → Prop
  | first {registry : Registry} (served : registry.Served (fun _ _ => True) bodies)
    {settings : Settings} {guarded : Function} {world : World} {after : Workshop}
    (run : (settings.decorate function).run.run ⟨registry, world⟩ = (.ok guarded, after)) :
    Dressed bodies function settings guarded after.registry
  | again {settings settings' : Settings} {guarded guarded' : Function} {registry : Registry}
    (before : Dressed bodies function settings guarded registry) {world : World} {after : Workshop}
    (run : (settings'.decorate guarded).run.run ⟨registry, world⟩ = (.ok guarded', after)) :
    Dressed bodies function settings' guarded' after.registry
  | meanwhile {settings : Settings} {guarded : Function} {registry : Registry}
    (before : Dressed bodies function settings guarded registry) (settings' : Settings)
    {other : Function} (founded : other.Founded (fun _ _ => True) bodies) (world : World) :
    Dressed bodies function settings guarded
      ((settings'.decorate other).run.run ⟨registry, world⟩).2.registry

/-! ### Keys -/

/-- Keys are equal for equal settings and functions with one imprint only. -/
theorem GuardKey.eq_of_of {settings settings' : Settings} {signature signature' : Signature}
    {identity identity' : Nat}
    (same : GuardKey.of settings (.written bodies signature identity) =
      .of settings' (.written bodies signature' identity')) :
    settings = settings' ∧ identity = identity' ∧ ∀ other : Settings,
      GuardKey.of other (.written bodies signature identity) =
        .of other (.written bodies signature' identity') := by
  obtain ⟨imprint, imprints⟩ := GuardKey.mk.inj same
  refine ⟨Settings.eq_of_imprint imprints, Hint.Mark.identity.inj (List.cons.inj imprint).1, ?_⟩
  intro other
  rw [GuardKey.of, GuardKey.of]
  exact congrArg (GuardKey.mk · other.imprint) imprint

/-! ### The last settings decide -/

namespace Function

/-- A function without anything to check comes out as it is; any other one is what the registry
hands out for the settings. -/
inductive Settled (bodies : Nat → Arguments → Action Value) (signature : Signature) (identity : Nat)
    (settings : Settings) (guarded : Function) (registry : Registry) : Prop
  | unneeded (unneeded : signature.needsChecking = false)
    (same : guarded = .written bodies signature identity)
  | filed (needed : signature.needsChecking = true)
    (found : registry.guarded? (.of settings (.written bodies signature identity)) = some guarded)

variable {signature : Signature} {identity : Nat}

theorem settled_of_decorate {world : World} {after : Workshop}
    (run : (settings.decorate (.written bodies signature identity)).run.run ⟨registry, world⟩ =
      (.ok guarded, after)) :
    Settled bodies signature identity settings guarded after.registry := by
  have yields := settings.yields_decorate signature identity (bodies identity) ⟨registry, world⟩
  rw [written] at run
  rw [run] at yields
  cases yields with
  | unneeded unneeded _ => exact .unneeded unneeded rfl
  | known needed found _ => exact .filed needed found
  | made needed _ _ _ =>
    refine .filed needed ?_
    rw [written, Registry.guarded?_fileGuarded, if_pos rfl]

/-- Guarding what the registry hands out for a function is guarding the function. -/
theorem settled_of_decorate_again {settings' : Settings} {guarded' : Function} {world : World}
    {after : Workshop} (stocked : registry.Stocked (fun _ => True) bodies)
    (settled : Settled bodies signature identity settings guarded registry)
    (run : (settings'.decorate guarded).run.run ⟨registry, world⟩ = (.ok guarded', after)) :
    Settled bodies signature identity settings' guarded' after.registry := by
  cases settled with
  | unneeded unneeded same =>
    subst same
    exact settled_of_decorate run
  | filed needed found =>
    obtain ⟨settings'', signature', identity', key, needed', encloses⟩ := stocked.guards _ _ found
    obtain ⟨rfl, rfl, keys⟩ := GuardKey.eq_of_of key
    cases encloses with
    | guarded number fits plan under =>
      by_cases same : settings.imprint = settings'.imprint
      · obtain ⟨later, run', -⟩ := settings'.run_decorate_again signature' number
          (.written bodies signature' identity) (under ▸ same) ⟨registry, world⟩
        obtain rfl := Settings.eq_of_imprint same
        cases run.symm.trans run'
        exact .filed needed found
      · rw [Settings.decorate, if_neg (under ▸ same)] at run
        cases settled_of_decorate run with
        | unneeded unneeded _ => cases unneeded.symm.trans needed'
        | filed _ found' => exact .filed needed (keys settings' ▸ found')

theorem Settled.founded (stocked : registry.Stocked (fun _ => True) bodies)
    (settled : Settled bodies signature identity settings guarded registry) :
    guarded.Founded (fun _ _ => True) bodies := by
  cases settled with
  | unneeded _ same =>
    subst same
    exact .written trivial
  | filed _ found =>
    obtain ⟨_, _, _, _, _, encloses⟩ := stocked.guards _ _ found
    cases encloses with
    | guarded number _ _ _ => exact .guarded _ number _ (.written trivial)

/-- Guarding the function gives what is settled and leaves the registry as it is. -/
theorem Settled.run_decorate (settled : Settled bodies signature identity settings guarded registry)
    (world : World) : ∃ later,
      (settings.decorate (written bodies signature identity)).run.run ⟨registry, world⟩ =
        (.ok guarded, ⟨registry, later⟩) := by
  cases settled with
  | unneeded unneeded same =>
    subst same
    have yields := settings.yields_decorate signature identity (bodies identity) ⟨registry, world⟩
    rw [written]
    generalize (settings.decorate (.plain signature identity (bodies identity))).run.run
      ⟨registry, world⟩ = run at yields ⊢
    cases yields with
    | unneeded _ _ => exact ⟨_, rfl⟩
    | known needed _ _ => cases needed.symm.trans unneeded
    | failed needed _ _ _ => cases needed.symm.trans unneeded
    | made needed _ _ _ => cases needed.symm.trans unneeded
  | filed needed found => exact settings.decorate_known needed found

theorem Settled.later {later : Registry}
    (settled : Settled bodies signature identity settings guarded registry)
    (retains : registry.Retains later) :
    Settled bodies signature identity settings guarded later := by
  cases settled with
  | unneeded unneeded same => exact .unneeded unneeded same
  | filed needed found => exact .filed needed (retains _ _ found)

theorem Dressed.settled
    (dressed : (written bodies signature identity).Dressed bodies settings guarded registry) :
    registry.Stocked (fun _ => True) bodies ∧
      Settled bodies signature identity settings guarded registry := by
  have trusts {function : Function} (founded : function.Founded (fun _ _ => True) bodies) :
      function.Founded (fun _ signature => signature.Trusted fun _ => True) bodies :=
    founded.imp fun _ signature _ => signature.trusted_all
  induction dressed with
  | @first registry served settings guarded world after run =>
    have stocked := (settings.decorate_stocked ⟨registry, world⟩
      (trusts (.written trivial : (written bodies signature identity).Founded _ bodies))
      served.stocked_all).1
    rw [run] at stocked
    exact ⟨stocked, settled_of_decorate run⟩
  | @again settings settings' guarded guarded' registry _ world after run ih =>
    obtain ⟨stocked, settled⟩ := ih
    have stocked' := (settings'.decorate_stocked ⟨registry, world⟩
      (trusts (settled.founded stocked)) stocked).1
    rw [run] at stocked'
    exact ⟨stocked', settled_of_decorate_again stocked settled run⟩
  | @meanwhile settings guarded registry _ settings' other founded world ih =>
    obtain ⟨stocked, settled⟩ := ih
    obtain ⟨stocked', retains⟩ :=
      settings'.decorate_stocked ⟨registry, world⟩ (trusts founded) stocked
    exact ⟨stocked', settled.later retains⟩

end Function

/-! ### One guard at most -/

theorem Settings.Provides.inquiring {issued : Hint → Prop} {hint : Hint} {fragment : Fragment}
    (provides : settings.Provides issued hint fragment) : fragment.check.Inquiring := by
  obtain ⟨twin, check, -, -, made, rfl⟩ := provides
  exact Settings.inquiring_of_checkWithin made

theorem Planned.inquiring {provided : Hint → Fragment → Prop}
    (inquiring : ∀ hint fragment, provided hint fragment → fragment.check.Inquiring)
    {position : Nat} {parameters : List Parameter} {checks : List ParameterCheck}
    (planned : Planned provided position parameters checks) :
    ∀ check ∈ checks, check.fragment.check.Inquiring := by
  induction planned with
  | nil => exact fun _ => nofun
  | skipped _ _ ih => exact ih
  | checked _ _ given _ ih =>
    exact List.forall_mem_cons.mpr ⟨inquiring _ _ given, ih⟩

theorem Resulting.inquiring {provided : Hint → Fragment → Prop}
    (inquiring : ∀ hint fragment, provided hint fragment → fragment.check.Inquiring)
    {returns : Option Hint} {hint : Hint} {fragment : Fragment}
    (resulting : Resulting provided returns (.checked hint fragment)) :
    fragment.check.Inquiring := by
  cases resulting with
  | checked _ given => exact inquiring hint fragment given

/-- The checks of an assembly are inquiries. -/
theorem Assembly.Fits.inquiring {issued : Hint → Prop} {signature : Signature} {assembly : Assembly}
    (fits : assembly.Fits settings issued signature) : assembly.plan.Inquiring := by
  obtain ⟨checks, result, planned, resulting, rfl⟩ := fits.parts
  refine ⟨?_, ?_⟩
  · rw [Assembly.of_parameters]
    exact planned.inquiring fun _ _ => Settings.Provides.inquiring
  · intro hint fragment checked
    obtain rfl : result = .checked hint fragment := checked
    exact resulting.inquiring fun _ _ => Settings.Provides.inquiring

namespace Function

variable {signature : Signature} {identity : Nat}

/-- The one guard around a written function, and what it does in a call: it draws at most one
integer, from the source of its settings, and the body is run once if it is run. -/
structure Enclosed (bodies : Nat → Arguments → Action Value) (identity : Nat) (settings : Settings)
    (guard : Guard) (signature : Signature) (guarded : Function) : Prop where
  number : ∃ number, guarded = .guarded signature number guard (.written bodies signature identity)
  under : guard.settings = settings
  call : ∀ arguments, guarded.call arguments = do
    let random ← guard.enter signature.qualname arguments
    guard.checkResult signature.qualname random (← bodies identity arguments)
  admits : ∀ arguments, (guard.enter signature.qualname arguments).Draws settings.source 1
  looks : ∀ random value,
    (guard.checkResult signature.qualname random value).Draws settings.source 0

theorem enclosed_of_encloses {issued : Hint → Prop}
    (encloses : settings.Encloses issued bodies signature identity guarded) :
    ∃ guard, Enclosed bodies identity settings guard signature guarded := by
  cases encloses with
  | @guarded number guard assembly fits plan under =>
    have inquiring : guard.plan.Inquiring := plan ▸ fits.inquiring
    refine ⟨guard, ⟨number, rfl⟩, under, fun arguments => ?_, fun arguments => ?_, ?_⟩
    · exact guard.call_eq_enter signature.qualname arguments (bodies identity arguments)
    · rw [← under]
      exact guard.admit_draws inquiring signature.qualname arguments
    · exact guard.checkResult_draws settings.source inquiring signature.qualname

/-- However often a function was guarded with one registry, the last settings decide: guarding the
function itself under them gives the same function, and so does guarding what came out once more.
That is the function itself if there is nothing to check, and otherwise a function with one guard
around the body. -/
theorem Dressed.last_settings_win
    (dressed : (written bodies signature identity).Dressed bodies settings guarded registry) :
    (∀ world, ∃ later, (settings.decorate (written bodies signature identity)).run.run
      ⟨registry, world⟩ = (.ok guarded, ⟨registry, later⟩)) ∧
    (∀ world, ∃ later, (settings.decorate guarded).run.run ⟨registry, world⟩ =
      (.ok guarded, ⟨registry, later⟩)) ∧
    (signature.needsChecking = false ∧ guarded = written bodies signature identity ∨
      signature.needsChecking = true ∧ ∃ guard signature',
        Enclosed bodies identity settings guard signature' guarded) := by
  obtain ⟨stocked, settled⟩ := dressed.settled
  refine ⟨settled.run_decorate, ?_⟩
  cases settled with
  | unneeded unneeded same =>
    subst same
    exact ⟨(Settled.unneeded unneeded rfl).run_decorate, .inl ⟨unneeded, rfl⟩⟩
  | filed needed found =>
    obtain ⟨settings', signature', identity', key, -, encloses⟩ := stocked.guards _ _ found
    obtain ⟨rfl, rfl, -⟩ := GuardKey.eq_of_of key
    obtain ⟨guard, enclosed⟩ := enclosed_of_encloses encloses
    refine ⟨fun world => ?_, .inr ⟨needed, guard, signature', enclosed⟩⟩
    obtain ⟨number, rfl⟩ := enclosed.number
    obtain ⟨later, run, -⟩ := settings.run_decorate_again signature' number
      (written bodies signature' identity) (congrArg Settings.imprint enclosed.under)
      ⟨registry, world⟩
    exact ⟨later, run⟩

/-- A function that was guarded under strict settings and then under others that are not. -/
theorem Dressed.last_settings_win_of_two :
    let bodies : Nat → Arguments → Action Value := fun _ _ => pure .null
    let first := Settings.standard ⟨102, .fixed 5⟩
    let second := { first with strict := false }
    let function := written bodies (.taking (.instanceOf .int)) 103
    first.imprint ≠ second.imprint ∧ ∃ guarded guarded' after after',
      (first.decorate function).run.run ⟨.empty, .initial⟩ = (.ok guarded, after) ∧
      (second.decorate guarded).run.run after = (.ok guarded', after') ∧
      (∃ later, (second.decorate function).run.run ⟨after'.registry, .initial⟩ =
        (.ok guarded', ⟨after'.registry, later⟩)) ∧
      ∃ guard signature, Enclosed bodies 103 second guard signature guarded' := by
  intro bodies first second function
  have acceptable := Signature.acceptable_int Validator.lenient
  obtain ⟨number, guard, after, run, -⟩ :=
    first.exists_decorate_taking bodies acceptable rfl rfl 103 .initial
  have stocked := (first.decorate_stocked ⟨.empty, .initial⟩
    (.written acceptable.known : function.Founded _ bodies) Registry.empty_stocked).1
  rw [run] at stocked
  obtain ⟨guarded', after', run'⟩ := second.exists_decorate_eq_ok stocked
    (.guarded _ number guard (.written acceptable)) after.world
  have dressed : function.Dressed bodies second guarded' after'.registry :=
    .again (.first .fresh run) run'
  obtain ⟨same, -, outcome⟩ := dressed.last_settings_win
  rcases outcome with ⟨unneeded, -⟩ | ⟨-, guard', signature', enclosed⟩
  · cases unneeded
  · exact ⟨by decide, _, guarded', after, after', run, run', same .initial, guard', signature',
      enclosed⟩

end Function

end CallGuard
