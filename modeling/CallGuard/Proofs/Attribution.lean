/-
What a guarded function says about itself. Its signature is that of the function
that the guard was made for, and a registry may hand it out for another function
with the same body, qualified name, parameters and result. What is filed does
not tell descriptions and scopes apart. As long as these go with the rest, a
function keeps its signature when it is guarded, whatever was guarded before.
-/
import CallGuard.Proofs.Reuse

namespace CallGuard

open CallGuard.Action CallGuard.Function

variable {genuine : Nat → Signature → Prop} {bodies : Nat → Arguments → Action Value}
  {registry : Registry}

/-! ### The function that a guard was made for -/

/-- Every function that is handed out has the signature of a genuine function, which it is filed
under. -/
def Registry.Attributed (genuine : Nat → Signature → Prop)
    (bodies : Nat → Arguments → Action Value) (registry : Registry) : Prop :=
  ∀ key guarded, registry.guarded? key = some guarded →
    ∃ settings : Settings, ∃ identity, genuine identity guarded.signature ∧
      key = .of settings (.written bodies guarded.signature identity)

/-- Putting a guard around a function keeps its signature and files no function. -/
theorem Settings.compile_signature (settings : Settings) {signature : Signature} {identity : Nat}
    {workshop after : Workshop} (stocked : workshop.registry.Stocked (fun _ => True) bodies)
    {outcome : Except Failure Function}
    (ran : (settings.compile (.written bodies signature identity)).run.run workshop =
      (outcome, after)) :
    after.registry.guarded? = workshop.registry.guarded? ∧
      ∀ guarded, outcome = .ok guarded → guarded.signature = signature := by
  have start : workshop.Grown (fun _ => True) workshop := ⟨stocked.fragments, rfl, _, _, rfl⟩
  have same (grown : workshop.Grown (fun _ => True) after) :
      after.registry.guarded? = workshop.registry.guarded? := by
    funext key
    rw [Registry.guarded?, Registry.guarded?, grown.guards]
  obtain ⟨done, failed⟩ := settings.compile_upholds workshop signature.trusted_all identity
    workshop start
  cases outcome with
  | error failure => exact ⟨same (failed _ _ ran).1, by rintro _ ⟨⟩⟩
  | ok guarded =>
    obtain ⟨grown, encloses⟩ := done _ _ ran
    refine ⟨same grown, ?_⟩
    rintro _ ⟨⟩
    cases encloses
    rfl

theorem Registry.Served.attributed (served : registry.Served genuine bodies) :
    registry.Attributed genuine bodies := by
  induction served with
  | fresh => exact nofun
  | @step registry before settings function founded world ih =>
    have stocked : registry.Stocked (fun _ => True) bodies :=
      (before.imp fun _ _ _ => trivial).stocked_all
    refine settings.decorate_reaches (fun after => after.registry.Attributed genuine bodies)
      founded ?_ ?_ ?_
    · exact fun _ _ => ih
    · intro signature identity known _ later failure after _ ran
      have start : (Workshop.mk registry later).registry.Stocked (fun _ => True) bodies := stocked
      obtain ⟨same, -⟩ := settings.compile_signature start ran
      rw [Attributed, same]
      exact ih
    · intro signature identity known _ later guarded after _ _ ran key guarded' found
      have start : (Workshop.mk registry later).registry.Stocked (fun _ => True) bodies := stocked
      obtain ⟨same, kept⟩ := settings.compile_signature start ran
      rw [guarded?_fileGuarded, same] at found
      split at found
      · rename_i here
        cases found
        obtain rfl := kept guarded rfl
        exact ⟨settings, identity, known, here⟩
      · exact ih key guarded' found

/-- Guarding a written function gives one with the signature of a genuine function with the same
imprint. -/
theorem Registry.Served.decorate_imprint (served : registry.Served genuine bodies)
    {signature : Signature} {identity : Nat} (known : genuine identity signature)
    (settings : Settings) {world : World} {guarded : Function}
    (done : ((settings.decorate (.written bodies signature identity)).run.run
      ⟨registry, world⟩).1 = .ok guarded) :
    genuine identity guarded.signature ∧
      (written bodies guarded.signature identity).imprint =
        (written bodies signature identity).imprint := by
  have yields := settings.yields_decorate signature identity (bodies identity) ⟨registry, world⟩
  rw [written] at done
  generalize (settings.decorate (.plain signature identity (bodies identity))).run.run
    ⟨registry, world⟩ = run at yields done
  cases yields with
  | unneeded =>
    cases done
    exact ⟨known, rfl⟩
  | known _ found =>
    cases done
    obtain ⟨settings', identity', known', key⟩ := served.attributed _ _ found
    have imprints : (written bodies signature identity).imprint =
        (written bodies guarded.signature identity').imprint := (GuardKey.mk.inj key).1
    have identities : identity = identity' := Hint.Mark.identity.inj (List.cons.inj imprints).1
    subst identities
    exact ⟨known', imprints.symm⟩
  | failed => cases done
  | @made _ later _ _ _ _ ran =>
    cases done
    have stocked : (Workshop.mk registry later).registry.Stocked (fun _ => True) bodies :=
      (served.imp fun _ _ _ => trivial).stocked_all
    have kept := (settings.compile_signature stocked ran).2 _ rfl
    rw [kept]
    exact ⟨known, rfl⟩

/-! ### Signatures that are kept -/

variable {names : Nat → String} {trusted : Hint → Prop}
  {notes : List Hint.Mark → Option String × Scope}

namespace Signature

/-- A genuine signature whose description and scope go with what the function is filed under. -/
structure Attested (names : Nat → String) (trusted : Hint → Prop)
    (notes : List Hint.Mark → Option String × Scope) (bodies : Nat → Arguments → Action Value)
    (identity : Nat) (signature : Signature) : Prop
    extends signature.Genuine names trusted identity where
  noted : notes (written bodies signature identity).imprint =
    (signature.description, signature.scope)

/-- Signatures that say the same: all texts are equal, and hints cannot be told apart. -/
structure Copies (copy signature : Signature) : Prop
    extends copy.Twin (fun _ _ => False) signature where
  description : copy.description = signature.description
  scope : copy.scope = signature.scope

theorem Attested.copies (decodable : Hint.Decodable (fun _ _ => False) trusted) {identity : Nat}
    {copy signature : Signature} (attested : copy.Attested names trusted notes bodies identity)
    (attested' : signature.Attested names trusted notes bodies identity)
    (same : (written bodies copy identity).imprint =
      (written bodies signature identity).imprint) : copy.Copies signature := by
  have noted := attested.noted
  rw [same, attested'.noted] at noted
  obtain ⟨descriptions, scopes⟩ := Prod.mk.inj noted
  exact ⟨signatures_twin decodable attested.toGenuine attested'.toGenuine same,
    descriptions.symm, scopes.symm⟩

end Signature

namespace Settings

variable {validators : Nat → Validator} {named : String → Value}

theorem decodable_readable :
    Hint.Decodable (fun _ _ => False) fun hint => hint.Readable validators named :=
  Hint.decodable_of_readable (fun _ known => known) fun _ _ _ _ _ _ _ _ _ _ _ _ similar =>
    similar.elim

/-- A function keeps its name, its qualified name, its description, its scope, its parameters and
its result when it is guarded, with whatever functions the registry has been used before. -/
theorem decorate_keeps_signature
    (served : registry.Served (Signature.Attested names (·.Readable validators named) notes bodies)
      bodies) {signature : Signature} {identity : Nat}
    (attested : signature.Attested names (·.Readable validators named) notes bodies identity)
    (settings : Settings) (world : World) {guarded : Function}
    (done : ((settings.decorate (.written bodies signature identity)).run.run
      ⟨registry, world⟩).1 = .ok guarded) :
    guarded.signature.Copies signature := by
  obtain ⟨known, same⟩ := served.decorate_imprint attested settings done
  exact known.copies decodable_readable attested same

/-- A clone that takes lists of integers and has a description of its own keeps it, although the
registry knows the function. -/
theorem decorate_keeps_signature_of_clone :
    let bodies : Nat → Arguments → Action Value := fun _ _ => pure .null
    let settings := Settings.standard ⟨102, .fixed 5⟩
    let function := Function.written bodies (.taking (.instanceOf .int)) 103
    let clone := { Signature.taking .integers with description := some "new" }
    ∃ known after guarded,
      (settings.decorate function).run.run ⟨.empty, .initial⟩ = (.ok known, after) ∧
      ((settings.decorate (.written bodies clone 103)).run.run ⟨after.registry, .initial⟩).1 =
        .ok guarded ∧ guarded.signature.Copies clone := by
  intro bodies settings function clone
  let notes : List Hint.Mark → Option String × Scope := fun imprint =>
    (if imprint = (Function.written bodies clone 103).imprint then some "new" else none,
      clone.scope)
  let readable : Hint → Prop := (·.Readable Validator.lenient fun _ => .null)
  have genuine (hint : Hint) (plain : ∀ inner : Hint, inner.Inside hint →
      inner = .integers ∨ inner = .instanceOf .int) :
      (Signature.taking hint).Genuine (fun _ => "f") readable 103 :=
    ⟨rfl, Signature.trusted_taking (Hint.readable_of_integers plain).1⟩
  have ours : (Signature.taking (.instanceOf .int)).Attested (fun _ => "f") readable notes bodies
      103 :=
    ⟨genuine _ fun _ inside => .inr (Hint.inside_instanceOf inside), by decide⟩
  have theirs : clone.Attested (fun _ => "f") readable notes bodies 103 := by
    have hints := (genuine .integers fun _ inside => Hint.inside_integers inside).hints
    exact ⟨⟨rfl, hints.parameters, hints.returns⟩, by decide⟩
  obtain ⟨number, guard, after, run, -⟩ := settings.exists_decorate_taking bodies
    (Signature.acceptable_int Validator.lenient) rfl rfl 103 .initial
  have served := Registry.Served.step .fresh settings (.written ours : function.Founded _ bodies)
    .initial
  have stocked : after.registry.Stocked (Hint.Known Validator.lenient) bodies := by
    have step := settings.decorate_stocked ⟨.empty, .initial⟩
      (.written (Signature.acceptable_int Validator.lenient).known : function.Founded _ bodies)
      Registry.empty_stocked
    rw [run] at step
    exact step.1
  have acceptable := Signature.acceptable_integers Validator.lenient
  have acceptable' : clone.Acceptable Validator.lenient :=
    ⟨acceptable.named, acceptable.valid, acceptable.parameters, acceptable.returns,
      ⟨acceptable.listed.parameters, acceptable.listed.returns⟩,
      ⟨acceptable.writable.parameters, acceptable.writable.returns⟩⟩
  obtain ⟨guarded, after', run'⟩ := settings.exists_decorate_eq_ok stocked
    (.written acceptable' : (Function.written bodies clone 103).Founded _ bodies) .initial
  rw [run] at served
  have done := congrArg Prod.fst run'
  exact ⟨_, after, guarded, run, done,
    decorate_keeps_signature served theirs settings .initial done⟩

/-- A function and a clone of it that has a description. The clone is taken for the function, which
is known to the registry, and loses its description. -/
theorem description_lost :
    let bodies : Nat → Arguments → Action Value := fun _ _ => pure .null
    let settings := Settings.standard ⟨102, .fixed 5⟩
    let function := Function.written bodies (.taking (.instanceOf .int)) 103
    let clone := { Signature.taking (.instanceOf .int) with description := some "new" }
    ∃ known after guarded,
      (settings.decorate function).run.run ⟨.empty, .initial⟩ = (.ok known, after) ∧
      ((settings.decorate (.written bodies clone 103)).run.run ⟨after.registry, .initial⟩).1 =
        .ok guarded ∧ guarded.signature.description = none := by
  intro bodies settings function clone
  obtain ⟨number, guard, after, run, -, -, filed⟩ := settings.exists_decorate_taking bodies
    (Signature.acceptable_int Validator.lenient) rfl rfl 103 .initial
  obtain ⟨later, known⟩ : ∃ later, (settings.decorate (.written bodies clone 103)).run.run
      ⟨after.registry, .initial⟩ = (.ok _, ⟨after.registry, later⟩) :=
    settings.decorate_known rfl filed
  exact ⟨_, after, _, run, congrArg Prod.fst known, rfl⟩

end Settings

end CallGuard
