/-
What checks do to the world. The verdict of a check that was made for a hint is
an inquiry: it asks protocols and resolves references and does nothing else, at
whatever depth and through whatever references it goes.
-/
import CallGuard.Proofs.Congruence
import CallGuard.Proofs.Invariant

namespace CallGuard

open CallGuard.Action

/-- Whatever the value and the integer drawn, the verdict is an inquiry. -/
def Check.Inquiring (check : Check) : Prop :=
  ∀ (value : Value) (random : UInt32), Inquires (check.verdict value random)

namespace Parts

variable {parts : List (Nat × Check)}

theorem someHolds_inquires (each : ∀ part ∈ parts, part.2.Inquiring) (value : Value)
    (random : UInt32) : Inquires ((ofList parts).someHolds value random) := by
  induction parts with
  | nil => exact .pure false
  | cons first rest ih =>
    obtain ⟨head, tail⟩ := List.forall_mem_cons.mp each
    exact inquires_ite (head value random) (.pure true) (ih tail)

theorem allHold_inquires (each : ∀ part ∈ parts, part.2.Inquiring) (contents : Nat → Option Value)
    (random : UInt32) : Inquires ((ofList parts).allHold contents random) := by
  induction parts with
  | nil => exact .pure true
  | cons first rest ih =>
    obtain ⟨head, tail⟩ := List.forall_mem_cons.mp each
    rw [ofList, allHold]
    cases contents first.1 with
    | none => exact ih tail
    | some value => exact inquires_ite (head value random) (ih tail) (.pure false)

end Parts

namespace Check

theorem inquiring_eachItem {item : Check} (inside : item.Inquiring) (container : Class)
    (sampling : Sampling) : (eachItem container item sampling).Inquiring := by
  intro value random
  rw [verdict]
  split
  · exact inquires_allM fun picked => inside picked.2 random
  · exact .pure false

theorem inquiring_eachEntry {sides : List (Nat × Check)} (each : ∀ side ∈ sides, side.2.Inquiring)
    (sampling : Sampling) : (eachEntry (.ofList sides) sampling).Inquiring := by
  intro value random
  rw [verdict]
  split
  · exact .pure false
  · exact inquires_allM fun picked => Parts.allHold_inquires each _ random

theorem inquiring_tupleOf {items : List (Nat × Check)} (each : ∀ item ∈ items, item.2.Inquiring)
    (size : Nat) : (tupleOf size (.ofList items)).Inquiring := by
  intro value random
  rw [verdict]
  split
  · exact Parts.allHold_inquires each _ random
  · exact .pure false

end Check

namespace Settings

variable {settings : Settings}

theorem inquiring_of_leafCheck {shape : Shape} {check : Check}
    (found : settings.leafCheck shape = some check) : check.Inquiring := by
  intro value random
  cases single_of_leafCheck found with
  | structural protocol => exact .ask protocol value.kind
  | _ => exact .pure _

/-- To be an inquiry goes through whatever checks are put together from. -/
theorem inquiring_congruence :
    settings.Congruence settings (.same fun _ => True) fun check _ => check.Inquiring where
  compatible := Hint.compatible_same
  leaf shapes found :=
    ⟨_, leafCheck_eq_of_linked shapes ▸ found, inquiring_of_leafCheck found⟩
  anyOf each := Parts.someHolds_inquires fun _ member =>
    (exists_linked_right each member).elim fun _ found => found.2
  eachItem inside container := Check.inquiring_eachItem inside container _
  eachEntry each := Check.inquiring_eachEntry (fun _ member =>
    (exists_linked_right each member).elim fun _ found => found.2.2) _
  tupleOf each := Check.inquiring_tupleOf fun _ member =>
    (exists_linked_right each member).elim fun _ found => found.2.2
  validated inside _ := fun value random => inquires_ite (inside value random) (.pure _) (.pure _)
  deferred {levels target target'} _ later := by
    refine fun value random => .bind (.resolve target) fun hint => ?_
    cases made : settings.checkWithin levels [] hint with
    | ok check => exact later (Hint.linked_same fun _ _ => trivial) made made value random
    | error refusal => exact .throw (refusal.failure_ne_violation _ _)

/-- The verdicts of a check are inquiries, at whatever depth and through whatever references. -/
theorem inquiring_of_checkWithin {levels : Nat} {path : List Nat} {hint : Hint} {check : Check}
    (made : settings.checkWithin levels path hint = .ok check) : check.Inquiring :=
  inquiring_congruence.checkWithin (Hint.linked_same fun _ _ => trivial) made made

end Settings

end CallGuard
