/-
A registry that functions have been guarded with gives functions that behave
like those from an empty one. Guarded functions are filed under an imprint and
handed out without a look at the function at hand, so all depends on what the
imprint leaves out: which instance or class a literal is beyond what is written
of it, and where the validators of an annotated hint inside another one end.
Where literals are told apart by their texts and no annotated hint ends with
another one, nothing that matters is left out.
-/
import CallGuard.Proofs.Acceptance
import CallGuard.Proofs.Certification
import CallGuard.Proofs.Numeral

namespace CallGuard

open CallGuard.Action

/-! ### Hints that their imprints tell -/

namespace Hint

/-- The texts of the literals in the hint tell what they are, its validators are those that their
serial numbers stand for, and no annotated hint in it has an open end inside. -/
def Readable (validators : Nat → Validator) (named : String → Value) (hint : Hint) : Prop :=
  hint.Orderly validators (Value.Told named)

/-- There is no reference in the hint. -/
def Bare (hint : Hint) : Prop := ∀ target, ¬ (reference target).Inside hint

variable {validators : Nat → Validator} {named : String → Value}

variable {similar : World → World → Prop}

theorem decodable_of_readable {trusted : Hint → Prop}
    (readable : ∀ hint, trusted hint → hint.Readable validators named)
    (concordant : ∀ a b, trusted a → trusted b → Concordant similar a b) :
    Decodable similar trusted :=
  decodable (fun _ _ told told' => Value.twin_of_text told told') readable concordant

theorem decodable_of_bare :
    Decodable similar fun hint => hint.Readable validators named ∧ hint.Bare :=
  decodable_of_readable (fun _ known => known.1) fun _ _ _ known => concordant_of_bare known.2

theorem readable_of_integers {hint : Hint}
    (plain : ∀ inner : Hint, inner.Inside hint → inner = integers ∨ inner = instanceOf .int) :
    hint.Readable validators named ∧ hint.Bare := by
  refine ⟨⟨fun _ inside => ?_, fun _ _ inside => ?_, fun _ _ inside => ?_⟩, fun _ inside => ?_⟩
  all_goals rcases plain _ inside with same | same <;> cases same

end Hint

/-! ### The same behaviour as with an empty registry -/

variable {similar : World → World → Prop} {trusted : Hint → Prop} {names : Nat → String}
  {bodies : Nat → Arguments → Action Value} {registry : Registry}

/-- A registry that functions were guarded with is certified. -/
theorem Registry.Served.certified (similarity : Similarity similar)
    (decodable : Hint.Decodable similar trusted)
    (served : registry.Served (Signature.Genuine names trusted) bodies) :
    registry.Certified trusted names bodies := by
  induction served with
  | fresh => exact empty_certified
  | step _ settings founded world ih =>
    exact (settings.decorate_certified similarity decodable founded ih).1

namespace Settings

variable {validators : Nat → Validator} {named : String → Value}

/-- Guarding a function without references fails, with a registry that functions were guarded with
before, just if it fails with an empty one. Otherwise the two functions do the same in every world
and with all arguments. -/
theorem decorate_like_fresh
    (served : registry.Served
      (Signature.Genuine names fun hint => hint.Readable validators named ∧ hint.Bare) bodies)
    {function : Function}
    (founded : function.Founded
      (Signature.Genuine names fun hint => hint.Readable validators named ∧ hint.Bare) bodies)
    (settings : Settings) (world : World) :
    Agree (fun guarded fresh => ∀ arguments, guarded.call arguments = fresh.call arguments)
      ((settings.decorate function).run.run ⟨registry, world⟩).1
      ((settings.decorate function).run.run ⟨.empty, world⟩).1 := by
  have certified := served.certified similarity_eq Hint.decodable_of_bare
  induction founded with
  | @written signature identity genuine =>
    have twin : (Function.written bodies signature identity).Twin Eq _ names bodies bodies
        (.written bodies signature identity) :=
      .written genuine genuine rfl fun arguments => corresponds_eq_refl _
    refine (settings.decorate_agree similarity_eq Hint.decodable_of_bare twin certified
      Registry.empty_certified).imp fun guarded fresh twin arguments => ?_
    exact (twin.call_corresponds similarity_eq arguments).eq
  | @guarded signature identity guard inner _ inductionHypothesis =>
    by_cases same : guard.settings.imprint = settings.imprint
    · obtain ⟨later, run, -⟩ :=
        settings.run_decorate_again signature identity inner same ⟨registry, world⟩
      obtain ⟨later', run', -⟩ :=
        settings.run_decorate_again signature identity inner same ⟨.empty, world⟩
      rw [run, run']
      exact .done fun arguments => rfl
    · rw [decorate, if_neg same]
      exact inductionHypothesis

/-- A clone of a function that takes lists of integers behaves as with an empty registry, although
the registry knows the function. -/
theorem decorate_like_fresh_for_clone :
    let bodies : Nat → Arguments → Action Value := fun _ _ => pure .null
    let settings := Settings.standard ⟨102, .fixed 5⟩
    let function := Function.written bodies (.taking (.instanceOf .int)) 103
    let clone := Function.written bodies (.taking .integers) 103
    ∃ known after guarded fresh,
      (settings.decorate function).run.run ⟨.empty, .initial⟩ = (.ok known, after) ∧
      ((settings.decorate clone).run.run ⟨after.registry, .initial⟩).1 = .ok guarded ∧
      ((settings.decorate clone).run.run ⟨.empty, .initial⟩).1 = .ok fresh ∧
      ∀ arguments, guarded.call arguments = fresh.call arguments := by
  intro bodies settings function clone
  let known := Signature.Genuine (fun _ => "f")
    fun hint => hint.Readable Validator.lenient (fun _ => .null) ∧ hint.Bare
  have readable (hint : Hint) (plain : ∀ inner : Hint, inner.Inside hint →
      inner = .integers ∨ inner = .instanceOf .int) : known 103 (.taking hint) :=
    ⟨rfl, Signature.trusted_taking (Hint.readable_of_integers plain)⟩
  have genuine := readable (.instanceOf .int) fun _ inside => .inr (Hint.inside_instanceOf inside)
  have genuine' := readable .integers fun _ inside => Hint.inside_integers inside
  obtain ⟨number, guard, after, run, -⟩ := settings.exists_decorate_taking bodies
    (Signature.acceptable_int Validator.lenient) rfl rfl 103 .initial
  obtain ⟨number', guard', after', run', -⟩ := settings.exists_decorate_taking bodies
    (Signature.acceptable_integers Validator.lenient) rfl rfl 103 .initial
  have served : after.registry.Served known bodies := by
    have step := Registry.Served.step .fresh settings
      (.written genuine : function.Founded _ bodies) .initial
    rwa [run] at step
  have agree := settings.decorate_like_fresh served (.written genuine' : clone.Founded _ bodies)
    .initial
  rw [run'] at agree
  rcases outcome : ((settings.decorate clone).run.run ⟨after.registry, .initial⟩).1 with
    failure | guarded
  · rw [outcome] at agree
    cases agree
  · rw [outcome] at agree
    cases agree with
    | done same => exact ⟨_, after, guarded, _, run, outcome, congrArg Prod.fst run', same⟩

/-- An instance of a class `C`. -/
def instanceOfC (identity : Nat) : Value := .object identity ⟨50, "C", "__main__", [], []⟩

/-- Two functions with one body that take nothing but one instance each of the same class. The second
one is taken for the first one, which is known to the registry, and its calls are rejected. -/
theorem clone_taken_for_another :
    let bodies : Nat → Arguments → Action Value := fun _ _ => pure .null
    let settings := Settings.standard ⟨102, .fixed 5⟩
    let function := Function.written bodies (.taking (.literal [instanceOfC 301])) 103
    let clone := Function.written bodies (.taking (.literal [instanceOfC 302])) 103
    ∃ known after guarded fresh,
      (settings.decorate function).run.run ⟨.empty, .initial⟩ = (.ok known, after) ∧
      ((settings.decorate clone).run.run ⟨after.registry, .initial⟩).1 = .ok guarded ∧
      ((settings.decorate clone).run.run ⟨.empty, .initial⟩).1 = .ok fresh ∧
      (∃ violation, ((guarded.call ⟨[instanceOfC 302], []⟩).run.run .initial).1 =
        .error (.violation violation)) ∧
      ((fresh.call ⟨[instanceOfC 302], []⟩).run.run .initial).1 = .ok .null := by
  intro bodies settings function clone
  have acceptable (identity : Nat) :
      (Signature.taking (.literal [instanceOfC identity])).Acceptable Validator.lenient := by
    refine Signature.acceptable_literal Validator.lenient rfl nofun ?_ trivial ?_
    · exact fun home => absurd home (by decide : "__main__" ≠ Class.builtinHome)
    · exact (by decide : ∀ name ∈ ["<__main__.C object>", "__main__.C"],
        Source.isHarmless name.toList = true)
  obtain ⟨number, guard, after, run, under, plan, filed⟩ := settings.exists_decorate_taking bodies
    (acceptable 301) rfl rfl 103 .initial
  obtain ⟨number', guard', after', run', under', plan', -⟩ := settings.exists_decorate_taking bodies
    (acceptable 302) rfl rfl 103 .initial
  obtain ⟨later, known⟩ : ∃ later, (settings.decorate clone).run.run ⟨after.registry, .initial⟩ =
      (.ok _, ⟨after.registry, later⟩) := settings.decorate_known rfl filed
  refine ⟨_, after, _, _, run, congrArg Prod.fst known, congrArg Prod.fst run', ?_, ?_⟩
  · have rejected : (Check.oneOf [instanceOfC 301]).verdict (instanceOfC 302) 0 = pure false := by
      exact congrArg pure (by decide +kernel : [instanceOfC 301].any (instanceOfC 302).isLiteral = false)
    rw [Function.call, Guard.call_taking plan rfl, rejected, pure_bind, if_neg Bool.false_ne_true,
      Guard.reject, under]
    exact ⟨_, rfl⟩
  · have accepted : (Check.oneOf [instanceOfC 302]).verdict (instanceOfC 302) 0 = pure true := by
      exact congrArg pure (by decide +kernel : [instanceOfC 302].any (instanceOfC 302).isLiteral = true)
    rw [Function.call, Guard.call_taking plan' rfl, accepted, pure_bind, if_pos rfl]
    rfl

end Settings

end CallGuard
