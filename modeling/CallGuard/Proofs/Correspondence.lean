/-
Two runs side by side. Worlds may differ in what nothing looks at; which worlds
count as similar is left open. Two actions correspond if, started in similar
worlds, they come to the same outcome, result or failure, and leave similar
worlds. The file gives the rules by which actions that are put together from
corresponding ones correspond.
-/
import CallGuard.Proofs.Resolution
import Mathlib.Data.List.Forall2

namespace CallGuard

namespace Action

variable {Result Other Item Item' : Type} {similar : World → World → Prop}

/-- Started in similar worlds, the two actions come to the same outcome and leave similar worlds. -/
def Corresponds (similar : World → World → Prop) (action action' : Action Result) : Prop :=
  ∀ world world', similar world world' →
    (action.run.run world).1 = (action'.run.run world').1 ∧
      similar (action.run.run world).2 (action'.run.run world').2

/-! ### Rules -/

theorem corresponds_pure (value : Result) : Corresponds similar (pure value) (pure value) :=
  fun _ _ alike => ⟨rfl, alike⟩

theorem corresponds_throw (failure : Failure) :
    Corresponds similar (throw failure : Action Result) (throw failure) :=
  fun _ _ alike => ⟨rfl, alike⟩

theorem corresponds_bind {action action' : Action Other} {next next' : Other → Action Result}
    (first : Corresponds similar action action')
    (rest : ∀ value, Corresponds similar (next value) (next' value)) :
    Corresponds similar (action >>= next) (action' >>= next') := by
  intro world world' alike
  obtain ⟨same, alike⟩ := first world world' alike
  rw [ExceptT.run_bind, ExceptT.run_bind, StateT.run_bind, StateT.run_bind]
  rcases run : action.run.run world with ⟨outcome, after⟩
  rcases run' : action'.run.run world' with ⟨outcome', after'⟩
  rw [run, run'] at same alike
  obtain rfl : outcome = outcome' := same
  cases outcome with
  | error failure => exact ⟨rfl, alike⟩
  | ok value => exact rest value after after' alike

/-- Asking the second question only after one answer to the first. -/
theorem corresponds_ite {ask ask' : Action Bool} {yes yes' no no' : Action Result}
    (first : Corresponds similar ask ask') (second : Corresponds similar yes yes')
    (third : Corresponds similar no no') :
    Corresponds similar (do if ← ask then yes else no) (do if ← ask' then yes' else no') := by
  refine corresponds_bind first fun answer => ?_
  cases answer with
  | true => exact second
  | false => exact third

variable {items : List Item}

theorem corresponds_allM {ask ask' : Item → Action Bool}
    (each : ∀ item, Corresponds similar (ask item) (ask' item)) :
    Corresponds similar (items.allM ask) (items.allM ask') := by
  induction items with
  | nil => exact corresponds_pure true
  | cons first rest ih =>
    rw [List.allM_cons, List.allM_cons]
    refine corresponds_bind (each first) fun answer => ?_
    cases answer with
    | true => exact ih
    | false => exact corresponds_pure false

theorem corresponds_forM {items' : List Item'} {step : Item → Action PUnit}
    {step' : Item' → Action PUnit}
    (each : List.Forall₂ (fun item item' => Corresponds similar (step item) (step' item'))
      items items') :
    Corresponds similar (items.forM step) (items'.forM step') := by
  induction each with
  | nil => exact corresponds_pure PUnit.unit
  | cons head _ ih => exact corresponds_bind head fun _ => ih

theorem corresponds_findSomeM? {items' : List Item'}
    {search : Item → Action (Option Other)} {search' : Item' → Action (Option Other)}
    (each : List.Forall₂ (fun item item' => Corresponds similar (search item) (search' item'))
      items items') :
    Corresponds similar (items.findSomeM? search) (items'.findSomeM? search') := by
  induction each with
  | nil => exact corresponds_pure none
  | cons head _ ih =>
    rw [List.findSomeM?_cons, List.findSomeM?_cons]
    refine corresponds_bind head fun found => ?_
    cases found with
    | none => exact ih
    | some other => exact corresponds_pure (some other)

/-! ### Similar worlds -/

/-- Similarity is symmetric and transitive, and everything that checks, searches for a cause and
guards do to a world by themselves corresponds to itself. -/
structure Similarity (similar : World → World → Prop) : Prop where
  symm : ∀ {world world' : World}, similar world world' → similar world' world
  trans : ∀ {world world' world'' : World}, similar world world' → similar world' world'' →
    similar world world''
  note : ∀ level topic message,
    Corresponds similar (note level topic message) (note level topic message)
  ask : ∀ protocol c, Corresponds similar (ask protocol c) (ask protocol c)
  draw : ∀ source, Corresponds similar (draw source) (draw source)
  resolve : ∀ target, Corresponds similar (resolve target) (resolve target)

theorem Corresponds.symm {action action' : Action Result} (similarity : Similarity similar)
    (corresponds : Corresponds similar action action') : Corresponds similar action' action := by
  intro world world' alike
  obtain ⟨same, alike⟩ := corresponds world' world (similarity.symm alike)
  exact ⟨same.symm, similarity.symm alike⟩

theorem Corresponds.trans {action action' action'' : Action Result}
    (similarity : Similarity similar) (first : Corresponds similar action action')
    (second : Corresponds similar action' action'') : Corresponds similar action action'' := by
  intro world world' alike
  -- A world that is similar to another one is similar to itself.
  have same := similarity.trans alike (similarity.symm alike)
  obtain ⟨outcomes, later⟩ := first world world same
  obtain ⟨outcomes', later'⟩ := second world world' alike
  exact ⟨outcomes.trans outcomes', similarity.trans later later'⟩

theorem corresponds_eq_refl (action : Action Result) : Corresponds Eq action action := by
  rintro world _ rfl
  exact ⟨rfl, rfl⟩

theorem Corresponds.eq {action action' : Action Result} (corresponds : Corresponds Eq action action') :
    action = action' := by
  refine funext fun world => ?_
  obtain ⟨outcomes, worlds⟩ := corresponds world world rfl
  exact Prod.ext outcomes worlds

/-- Equal worlds are similar. -/
theorem similarity_eq : Similarity Eq where
  symm := Eq.symm
  trans := Eq.trans
  note _ _ _ := corresponds_eq_refl _
  ask _ _ := corresponds_eq_refl _
  draw _ := corresponds_eq_refl _
  resolve _ := corresponds_eq_refl _

end Action

end CallGuard
