/-
What may be written in a guard. A hint brings the names of classes, protocols,
validators and references into the source of a guard, and the texts of its
literals. All of these are quoted, but a last look at the source is a look at its
letters, and there are two texts that it takes for something else even in
quotes: the hole for a name, and what a look-up starts with. The check of a hint
without these may be written, and so may that of every hint that is the same.
-/
import CallGuard.Proofs.Verification
import CallGuard.Proofs.Vocabulary

namespace CallGuard

open CallGuard.Action Making Source

/-! ### What may be written -/

/-- The class is named as it should be, and so is what is looked up for it. -/
structure Class.Writable (c : Class) : Prop where
  standard : c.Standard
  harmless : ∀ name ∈ c.lookups, isHarmless name.toList = true

/-- The literal may be written in a guard. -/
structure Value.Writable (value : Value) : Prop where
  standard : value.Standard
  kind : value.kind.Standard
  tame : value.Tame
  harmless : ∀ name ∈ value.lookups ++ value.kind.lookups, isHarmless name.toList = true

/-- What a hint itself brings into a guard may be written there. -/
def Hint.OwnWritable : Hint → Prop
  | instanceOf c => c.Writable
  | structural protocol => isHarmless protocol.name.toList = true
  | reference target => isHarmless target.name.toList = true
  | annotated _ validators => ∀ validator ∈ validators, isHarmless validator.text.toList = true
  | literal values => ∀ value ∈ values, value.Writable
  | _ => True

/-- The names that a check of the hint binds can be counted. -/
def Hint.Countable (hint : Hint) : Prop :=
  ∀ (settings : Settings) (check : Check), settings.check hint = .ok check →
    check.locals ≤ 2 ^ 64

/-- Everything inside the hint may be written in a guard, and the names that a check of it binds can
be counted. -/
structure Hint.Writable (hint : Hint) : Prop where
  own : ∀ inner : Hint, inner.Inside hint → inner.OwnWritable
  countable : hint.Countable

/-- What guards ask of the hints that a registry was used for before: their validators are those that
their serial numbers stand for, and their literals are made by their constructors, unless the names
that their checks bind can be counted anyway. -/
structure Hint.Known (validators : Nat → Validator) (hint : Hint) : Prop where
  listed : hint.Listed validators
  counted : hint.Built ∨ hint.Countable

theorem Class.writable_builtin {c : Class} (known : c ∈ builtins) : c.Writable := by
  refine ⟨fun _ => known, ?_⟩
  rw [lookups_builtin known]
  nofun

variable {promise : Promise}

/-! ### What is promised -/

theorem Class.Writable.keeps {c : Class} (writable : c.Writable) : c.Keeps promise :=
  ⟨writable.standard, fun name member => kept_of_isHarmless (writable.harmless name member)⟩

theorem Value.Writable.keeps {value : Value} (writable : value.Writable) : value.Keeps promise := by
  obtain ⟨own, ofKind⟩ := List.forall_mem_append.mp writable.harmless
  refine ⟨writable.standard, ⟨writable.kind, fun name member =>
    kept_of_isHarmless (ofKind name member)⟩, fun part inside text found => ?_,
    fun name member => kept_of_isHarmless (own name member)⟩
  have tame := writable.tame part inside
  cases part with
  | str | bytes =>
    cases found
    exact kept_of_isHarmless tame
  | _ => cases found

/-- What may be written keeps every promise. -/
theorem Hint.Writable.within {hint : Hint} (writable : hint.Writable) :
    hint.Within (.keeping promise) := by
  intro inner inside
  have own := writable.own inner inside
  cases inner with
  | instanceOf c => exact Class.Writable.keeps own
  | structural | reference => exact kept_of_isHarmless own
  | annotated => exact fun validator member => kept_of_isHarmless (own validator member)
  | literal => exact fun value member => (own value member).keeps
  | _ => trivial

/-! ### Hints that are the same -/

namespace Value

theorem Keeps.of_equal {a b : Value} (keeps : b.Keeps promise) (same : a.equal b = true)
    (kinds : a.kind = b.kind) : a.Keeps promise := by
  refine ⟨keeps.standard.of_equal same, kinds ▸ keeps.kind, fun part inside text found => ?_,
    fun name member => keeps.names name (mem_lookups_of_equal same member)⟩
  obtain ⟨part', inside', link⟩ := exists_inside_of_equal inside same
  have kept := keeps.texts part' inside'
  cases equal_iff.mp link with
  | str | bytes => exact kept text found
  | _ => cases found

end Value

namespace Hint

variable {validators : Nat → Validator} {a b : Hint}

/-- A hint that is the same as one that keeps a promise keeps it, too. -/
theorem Within.keeping_of_same (within : b.Within (.keeping promise))
    (listed : a.Listed validators) (listed' : b.Listed validators) (same : a.same b = true) :
    a.Within (.keeping promise) := by
  refine within.of_same same (fun equal kinds keeps => Value.Keeps.of_equal keeps equal kinds) ?_
  intro _ _ _ _ inside inside' validator member validator' member' serials kept
  rw [← listed _ _ inside validator member, serials, listed' _ _ inside' validator' member']
  exact kept

/-- The checks of hints that are the same bind as many names. -/
theorem exists_locals_of_same {settings : Settings} {check : Check} (issued : a.Issued validators)
    (listed : b.Listed validators) (same : a.same b = true) (imprints : a.imprint = b.imprint)
    (made : settings.check a = .ok check) :
    ∃ check', settings.check b = .ok check' ∧ check.locals = check'.locals := by
  -- The number of names depends on no world, so no worlds need to be similar.
  have similarity : Similarity fun _ _ => False :=
    ⟨id, fun alike _ => alike, fun _ _ _ _ _ => False.elim, fun _ _ _ _ => False.elim,
      fun _ _ _ => False.elim, fun _ _ _ => False.elim⟩
  have twin : Twin (fun _ _ => False) False a b :=
    twin_of_matches issued listed False.elim (fun _ _ _ _ _ _ _ _ => False.elim)
      (matches_of_same same) imprints
  obtain ⟨check', made', twins⟩ := Settings.exists_twin_of_checkWithin similarity [] twin made
  exact ⟨check', made', twins.locals⟩

end Hint

end CallGuard
