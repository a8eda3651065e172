/-
What registries hold. A fragment that is filed was made for the hint it is filed
with, under settings that agree with its key in all that checks depend on, and a
guarded function that is filed is sound. Making fragments, putting guards
together and guarding functions leave a registry so whether they succeed or
fail, and the functions that come out of it are sound.
-/
import CallGuard.Proofs.Explanation
import CallGuard.Proofs.Making

namespace CallGuard

variable {predicates : Nat → Value → Bool} {agreed : (Reference → Option Hint) → Prop}

/-! ### Sound registries -/

/-- Fragments are filed with the hints they were made for, and guarded functions are sound. -/
structure Registry.Sound (predicates : Nat → Value → Bool)
    (agreed : (Reference → Option Hint) → Prop) (registry : Registry) : Prop where
  fragments : ∀ key hint fragment, (key, hint, fragment) ∈ registry.fragments →
    hint.WellMade predicates ∧ ∃ settings : Settings, settings.checkImprint = key.settings ∧
      settings.check hint = .ok fragment.check
  guards : ∀ key function, (key, function) ∈ registry.guards → function.Sound predicates agreed

theorem Registry.empty_sound : Registry.empty.Sound predicates agreed :=
  ⟨nofun, nofun⟩

variable {registry : Registry} {settings : Settings} {function : Function}

/-- A fragment that is handed out serves the hint it is handed out for. -/
theorem Registry.Sound.serves (sound : registry.Sound predicates agreed)
    {hint : Hint} {level : Nat} {fragment : Fragment}
    (made : hint.WellMade predicates)
    (found : registry.fragment? (.of settings hint level) hint = some fragment) :
    settings.Serves predicates hint fragment.check := by
  obtain ⟨twin, located, same⟩ := mem_of_fragment? found
  obtain ⟨twinMade, settings', imprint, check⟩ := sound.fragments _ _ _ located
  exact ⟨made, twin, twinMade, (settings.check_congr imprint.symm twin).trans check, .inr same⟩

theorem Registry.Sound.fileFragment
    (sound : registry.Sound predicates agreed) {hint : Hint}
    {fragment : Fragment} (level : Nat) (made : hint.WellMade predicates)
    (checked : settings.check hint = .ok fragment.check) :
    (registry.fileFragment (.of settings hint level) hint fragment).Sound predicates agreed := by
  refine ⟨fun key hint' fragment' member => ?_, sound.guards⟩
  rcases mem_file member with same | old
  · cases same
    exact ⟨made, settings, rfl, checked⟩
  · exact sound.fragments key hint' fragment' old

theorem Registry.Sound.fileGuarded
    (sound : registry.Sound predicates agreed) (key : GuardKey)
    (known : function.Sound predicates agreed) :
    (registry.fileGuarded key function).Sound predicates agreed := by
  refine ⟨sound.fragments, fun key' function' member => ?_⟩
  rcases mem_file member with same | old
  · cases same
    exact known
  · exact sound.guards key' function' old

/-- The registry is sound, and references stand for what is agreed. -/
structure Workshop.Sound (predicates : Nat → Value → Bool)
    (agreed : (Reference → Option Hint) → Prop) (workshop : Workshop) : Prop where
  registry : workshop.registry.Sound predicates agreed
  steady : agreed workshop.world.denotes

namespace Making

variable {Result : Type} {wanted : Result → Prop}

/-- Started in a sound workshop, the step leaves it sound, and its result is as wanted. -/
abbrev Keeps (predicates : Nat → Value → Bool) (agreed : (Reference → Option Hint) → Prop)
    (wanted : Result → Prop) (step : Making Result) : Prop :=
  Upholds (Workshop.Sound predicates agreed) wanted (fun _ => True) step

theorem keeps_get : Keeps predicates agreed (Workshop.Sound predicates agreed) get := by
  intro before sound
  refine ⟨fun workshop after ended => ?_, fun failure after failed => ?_⟩
  · cases ended
    exact ⟨sound, sound⟩
  · cases failed

theorem keeps_modify (change : Registry → Registry)
    (sound : ∀ registry : Registry, registry.Sound predicates agreed →
      (change registry).Sound predicates agreed) :
    Keeps predicates agreed (fun _ => True)
      (modify fun workshop => { workshop with registry := change workshop.registry }) := by
  intro before known
  refine ⟨fun _ after ended => ?_, fun failure after failed => ?_⟩
  · cases ended
    exact ⟨⟨sound _ known.registry, known.steady⟩, trivial⟩
  · cases failed

theorem keeps_ofAction {action : Action Result} (quiet : ∀ meaning, action.Quiet meaning) :
    Keeps predicates agreed (fun _ => True) (ofAction action) := by
  intro before sound
  have same : (action.run.run before.world).2.denotes = before.world.denotes :=
    ((quiet before.world.denotes).after before.world rfl).1
  have steady : agreed (action.run.run before.world).2.denotes := same ▸ sound.steady
  refine ⟨fun result after ended => ?_, fun failure after failed => ?_⟩
  · obtain ⟨-, rfl⟩ := Prod.mk.inj ended
    exact ⟨⟨sound.registry, steady⟩, trivial⟩
  · obtain ⟨-, rfl⟩ := Prod.mk.inj failed
    exact ⟨⟨sound.registry, steady⟩, trivial⟩

theorem keeps_note (level : Level) (topic message : String) :
    Keeps predicates agreed (fun _ => True) (ofAction (Action.note level topic message)) :=
  keeps_ofAction fun _ => Action.quiet_note level topic message

theorem keeps_ofExcept (result : Except Failure Result) :
    Keeps predicates agreed (fun _ => True) (ofExcept result) := by
  cases result with
  | error failure => exact upholds_throw trivial
  | ok result => exact upholds_pure trivial

end Making

/-! ### Making fragments -/

namespace Settings

open Making

variable (settings : Settings)

theorem fragment_keeps (label : String) {hint : Hint} (level : Nat)
    (made : hint.WellMade predicates) :
    Keeps predicates agreed (fun fragment => settings.Serves predicates hint fragment.check)
      (settings.fragment label hint level) := by
  refine upholds_bind keeps_get fun workshop sound => ?_
  cases found : workshop.registry.fragment? (.of settings hint level) hint with
  | some fragment =>
    dsimp only
    exact upholds_bind (keeps_note _ _ _) fun _ _ => upholds_pure (sound.registry.serves made found)
  | none =>
    refine upholds_bind (keeps_note _ _ _) fun _ _ =>
      upholds_bind (keeps_ofAction fun meaning => ?_) fun _ _ => ?_
    · refine upholds_forM fun remark _ => ?_
      split
      · exact Action.quiet_note _ _ _
      · exact Action.quiet_pure
    · cases checked : settings.check hint with
      | error refusal => exact upholds_throw trivial
      | ok check =>
        have serves : settings.Serves predicates hint check := ⟨made, hint, made, checked, .inl rfl⟩
        refine upholds_bind (keeps_modify (fun registry => registry.fileFragment _ hint _) ?_)
          fun _ _ => upholds_pure serves
        exact fun registry sound => sound.fileFragment level made checked

/-! ### Putting guards together -/

theorem eq_of_checkable {hint : Option Hint} {checked : Hint}
    (found : hint.bind Hint.checkable = some checked) : hint = some checked := by
  obtain ⟨given, rfl, kept⟩ := Option.bind_eq_some_iff.mp found
  rw [(Hint.checkable_eq_some kept).1]

theorem draftParameters_keeps (position : Nat) {parameters : List Parameter} {draft : Draft}
    (made : ∀ parameter ∈ parameters, ∀ hint, parameter.hint = some hint →
      hint.WellMade predicates)
    (serves : ∀ check ∈ draft.checks, settings.Serves predicates check.hint check.fragment.check) :
    Keeps predicates agreed (fun draft => ∀ check ∈ draft.checks,
        settings.Serves predicates check.hint check.fragment.check)
      (settings.draftParameters position parameters draft) := by
  induction parameters generalizing position draft with
  | nil => exact upholds_pure serves
  | cons parameter rest ih =>
    obtain ⟨head, tail⟩ := List.forall_mem_cons.mp made
    rw [draftParameters]
    split
    case h_1 hint binding checkable _ =>
      refine upholds_bind (settings.fragment_keeps _ _ (head hint (eq_of_checkable checkable)))
        fun fragment served => ih _ tail fun check member => ?_
      rcases List.mem_append.mp member with old | new
      · exact serves check old
      · cases List.mem_singleton.mp new
        exact served
    case h_2 => exact ih _ tail serves

theorem draftResult_keeps {returns : Option Hint} {draft : Draft}
    (made : ∀ hint, returns = some hint → hint.WellMade predicates) :
    Keeps predicates agreed (fun drafted => drafted.1.checks = draft.checks ∧
        ∀ hint fragment, drafted.2 = .checked hint fragment →
          settings.Serves predicates hint fragment.check)
      (settings.draftResult returns draft) := by
  unfold draftResult
  split
  · exact upholds_pure ⟨rfl, nofun⟩
  · split
    case h_1 => exact upholds_pure ⟨rfl, nofun⟩
    case h_2 hint checkable =>
      refine upholds_bind (settings.fragment_keeps _ _ (made hint (eq_of_checkable checkable)))
        fun fragment served => upholds_pure ⟨rfl, ?_⟩
      rintro _ _ ⟨⟩
      exact served

theorem assemble_keeps {signature : Signature} (made : signature.WellMade predicates) :
    Keeps predicates agreed (fun assembly => assembly.plan.Serves settings predicates)
      (settings.assemble signature) := by
  refine upholds_bind (keeps_ofExcept _) fun _ _ =>
    upholds_bind (settings.draftParameters_keeps 0 made.parameters nofun) fun draft serves =>
    upholds_bind (settings.draftResult_keeps made.returns) fun drafted known => ?_
  obtain ⟨draft', result⟩ := drafted
  refine upholds_bind (upholds_forM fun warning _ => keeps_note _ _ _) fun _ _ =>
    upholds_pure ⟨?_, known.2⟩
  rw [known.1]
  exact serves

end Settings

open Making

theorem Assembly.guard_keeps {assembly : Assembly}
    (serves : assembly.plan.Serves settings predicates)
    (sound : function.Sound predicates agreed) :
    Keeps predicates agreed (Function.Sound predicates agreed)
      (assembly.guard settings function) := by
  have last (source : Option String) (hints : Option (List (String × Hint))) :
      Keeps predicates agreed (Function.Sound predicates agreed) (do
        return .guarded function.signature (← ofAction Action.fresh)
          ⟨assembly.plan, settings, source, hints, assembly.warnings⟩ function) :=
    upholds_bind (keeps_ofAction fun _ => Action.quiet_fresh) fun identity _ =>
      upholds_pure (.guarded sound.made serves sound)
  refine upholds_bind (keeps_ofExcept _) fun _ _ => ?_
  split
  · exact upholds_bind (keeps_note _ _ _) fun _ _ => last _ _
  · exact last _ _

/-- Guarding a sound function in a sound workshop leaves the workshop sound and gives a sound
function. -/
theorem Settings.decorate_keeps (settings : Settings)
    (sound : function.Sound predicates agreed) :
    Keeps predicates agreed (Function.Sound predicates agreed) (settings.decorate function) := by
  induction sound with
  | @guarded signature identity guard inner made serves inside ih =>
    rw [decorate]
    split
    · exact upholds_bind (keeps_note _ _ _) fun _ _ => upholds_pure (.guarded made serves inside)
    · exact ih
  | @plain signature identity body made explains =>
    have sound : (Function.plain signature identity body).Sound predicates agreed :=
      .plain made explains
    rw [decorate]
    dsimp only
    split
    · refine upholds_bind keeps_get fun workshop known => ?_
      cases found : workshop.registry.guarded? (.of settings (.plain signature identity body)) with
      | some function =>
        refine upholds_bind (keeps_note _ _ _) fun _ _ => upholds_pure ?_
        exact known.registry.guards _ function (mem_of_lookup found)
      | none =>
        refine upholds_bind (keeps_note _ _ _) fun _ _ =>
          upholds_bind (settings.assemble_keeps made) fun assembly serves =>
          upholds_bind (Assembly.guard_keeps serves sound) fun function known =>
          upholds_bind (keeps_modify (fun registry => registry.fileGuarded _ function) ?_)
            fun _ _ => upholds_pure known
        exact fun registry filed => filed.fileGuarded _ known
    · exact upholds_bind (keeps_note _ _ _) fun _ _ => upholds_pure sound

end CallGuard
