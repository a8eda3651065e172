/-
What comes of making a fragment. A registry either has one to hand out, and then
nothing but the journal changes, or it has none, and then the outcome is what
the hint itself gives: a failure, with the registry as it was, or a fragment of
its check, which is filed. Later proofs go by these three cases.
-/
import CallGuard.Assembly
import CallGuard.Proofs.Resolution

namespace CallGuard

/-! ### Notes -/

/-- The later world differs from the earlier one at most in its journal. -/
def World.Noted (world later : World) : Prop := ∃ journal, later = { world with journal := journal }

theorem World.Noted.trans {first second third : World} (early : first.Noted second)
    (late : second.Noted third) : first.Noted third := by
  obtain ⟨_, rfl⟩ := early
  obtain ⟨journal, rfl⟩ := late
  exact ⟨journal, rfl⟩

namespace Action

/-- The action succeeds everywhere and does nothing but write to the journal. -/
def OnlyNotes (action : Action PUnit) : Prop :=
  ∀ world, ∃ later, action.Ends world ⟨⟩ later ∧ world.Noted later

theorem onlyNotes_pure : OnlyNotes (pure ⟨⟩) := fun world => ⟨world, rfl, _, rfl⟩

theorem onlyNotes_note (level : Level) (topic message : String) :
    OnlyNotes (note level topic message) :=
  fun _ => ⟨_, rfl, _, rfl⟩

theorem onlyNotes_forM {Item : Type} {items : List Item} {write : Item → Action PUnit}
    (each : ∀ item, OnlyNotes (write item)) : OnlyNotes (items.forM write) := by
  induction items with
  | nil => exact onlyNotes_pure
  | cons first rest ih =>
    intro world
    obtain ⟨middle, ended, noted⟩ := each first world
    obtain ⟨later, ended', noted'⟩ := ih middle
    exact ⟨later, ends_bind.mpr ⟨⟨⟩, middle, ended, ended'⟩, noted.trans noted'⟩

/-- Such an action before another step around a registry leaves the registry alone. -/
theorem OnlyNotes.andThen {Result : Type} {action : Action PUnit} (notes : action.OnlyNotes)
    {next : PUnit → Making Result} {workshop : Workshop}
    (wanted : Except Failure Result × Workshop → Prop)
    (rest : ∀ later, workshop.world.Noted later →
      wanted ((next ⟨⟩).run.run { workshop with world := later })) :
    wanted ((Making.ofAction action >>= next).run.run workshop) := by
  obtain ⟨later, ended, noted⟩ := notes workshop.world
  have run : (Making.ofAction action).run.run workshop =
      (.ok ⟨⟩, { workshop with world := later }) := by
    show ((action.run.run workshop.world).1,
      { workshop with world := (action.run.run workshop.world).2 }) = _
    rw [ended]
  rw [ExceptT.run_bind, StateT.run_bind, run]
  exact rest later noted

end Action

/-! ### Registries -/

/-- What is filed is the new entry or was there before. -/
theorem Registry.mem_file {Key Entry : Type} [DecidableEq Key] {key : Key} {entry : Entry}
    {entries : List (Key × Entry)} {filed : Key × Entry} (member : filed ∈ file key entry entries) :
    filed = (key, entry) ∨ filed ∈ entries := by
  rcases List.mem_cons.mp member with same | kept
  · exact .inl same
  · exact .inr (List.mem_filter.mp kept).1

theorem mem_of_lookup {Key Entry : Type} [BEq Key] [LawfulBEq Key] {key : Key} {entry : Entry}
    {entries : List (Key × Entry)} (found : entries.lookup key = some entry) :
    (key, entry) ∈ entries := by
  obtain ⟨before, after, rfl, -⟩ := List.lookup_eq_some_iff.mp found
  exact List.mem_append_right _ List.mem_cons_self

/-- A fragment that is handed out was filed for a hint that is the same. -/
theorem Registry.mem_of_fragment? {registry : Registry} {key : FragmentKey} {hint : Hint}
    {fragment : Fragment} (found : registry.fragment? key hint = some fragment) :
    ∃ twin, (key, twin, fragment) ∈ registry.fragments ∧ twin.same hint = true := by
  obtain ⟨⟨twin, filed⟩, located, handed⟩ := Option.bind_eq_some_iff.mp found
  dsimp only at handed
  split at handed
  · rename_i same
    cases handed
    exact ⟨twin, mem_of_lookup located, same⟩
  · cases handed

/-! ### Fragments -/

theorem Making.run_get_bind {Result : Type} (next : Workshop → Making Result)
    (workshop : Workshop) :
    (get >>= next : Making Result).run.run workshop = (next workshop).run.run workshop :=
  rfl

theorem Making.run_bind_ok {Result Other : Type} {first : Making Other}
    {next : Other → Making Result} {before middle : Workshop} {value : Other}
    (run : first.run.run before = (.ok value, middle)) :
    (first >>= next).run.run before = (next value).run.run middle := by
  rw [ExceptT.run_bind, StateT.run_bind, run]
  rfl

namespace Settings

/-- What may come of making a fragment, and the workshop afterwards. -/
inductive Supplies (settings : Settings) (label : String) (hint : Hint) (level : Nat)
    (workshop : Workshop) : Except Failure Fragment × Workshop → Prop
  | known {fragment : Fragment} {later : World}
    (found : workshop.registry.fragment? (.of settings hint level) hint = some fragment)
    (noted : workshop.world.Noted later) :
    Supplies settings label hint level workshop (.ok fragment, ⟨workshop.registry, later⟩)
  | refused {refusal : Refusal} {later : World}
    (missing : workshop.registry.fragment? (.of settings hint level) hint = none)
    (refused : settings.check hint = .error refusal) (noted : workshop.world.Noted later) :
    Supplies settings label hint level workshop
      (.error (refusal.failure label hint), ⟨workshop.registry, later⟩)
  | made {check : Check} {later : World}
    (missing : workshop.registry.fragment? (.of settings hint level) hint = none)
    (made : settings.check hint = .ok check) (noted : workshop.world.Noted later) :
    Supplies settings label hint level workshop
      (.ok ⟨check, level, settings.warnings hint⟩,
        ⟨workshop.registry.fileFragment (.of settings hint level) hint
          ⟨check, level, settings.warnings hint⟩, later⟩)

theorem supplies_fragment (settings : Settings) (label : String) (hint : Hint) (level : Nat)
    (workshop : Workshop) :
    settings.Supplies label hint level workshop
      ((settings.fragment label hint level).run.run workshop) := by
  unfold fragment
  rw [Making.run_get_bind]
  cases found : workshop.registry.fragment? (.of settings hint level) hint with
  | some fragment =>
    refine (Action.onlyNotes_note _ _ _).andThen _ fun later noted => ?_
    exact .known found noted
  | none =>
    refine (Action.onlyNotes_note _ _ _).andThen _ fun middle noted => ?_
    refine (Action.onlyNotes_forM fun remark => ?_).andThen _ fun later noted' => ?_
    · split
      · exact Action.onlyNotes_note _ _ _
      · exact Action.onlyNotes_pure
    · cases checked : settings.check hint with
      | error refusal => exact .refused found checked (noted.trans noted')
      | ok check => exact .made found checked (noted.trans noted')

end Settings

end CallGuard
