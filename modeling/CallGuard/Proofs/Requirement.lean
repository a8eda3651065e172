/-
The names that a guard requires. Whatever is looked up for the checks of a guard
is written into its source as a look-up, and a look through the source finds it
there, read back as it was written. It finds nothing else as long as no text that
is quoted ends like the start of a look-up: with the quote after it, such a text
reads as one.
-/
import CallGuard.Proofs.Freshness

namespace CallGuard

open Source

/-! ### Hints that cannot be mistaken -/

/-- The hint names standard classes only, and nothing that it brings into a guard ends like the
start of a look-up. -/
def Hint.Unmistakable (hint : Hint) : Prop := hint.Within (.keeping ⟨False, True⟩)

/-- If nothing is promised, standard classes are all that it takes. -/
theorem Hint.Standard.keeping {hint : Hint} (standard : hint.Standard) :
    hint.Within (.keeping ⟨False, False⟩) := by
  have kept (text : List Char) : Promise.Kept ⟨False, False⟩ text := ⟨False.elim, False.elim⟩
  intro inner inside
  have own := standard inner inside
  cases inner with
  | instanceOf c => exact ⟨own, fun _ _ => kept _⟩
  | structural | reference => exact kept _
  | annotated => exact fun _ _ => kept _
  | literal =>
    exact fun value member => ⟨(own value member).1, ⟨(own value member).2, fun _ _ => kept _⟩,
      fun _ _ _ _ => kept _, fun _ _ => kept _⟩
  | _ => trivial

/-! ### What is looked up in a guard -/

variable {validators : Nat → Validator} {settings : Settings} {signature : Signature}
  {bodies : Nat → Arguments → Action Value}

/-- In the source of a guard, the names that it requires are looked up, and no others if that is
promised. -/
theorem Assembly.Fits.exists_clean {promise : Promise} {assembly : Assembly}
    (fits : assembly.Fits settings (Hint.Listed validators) signature)
    (named : Text.isIdentifier signature.name = true)
    (known : signature.Trusted (Hint.Listed validators))
    (within : signature.Trusted (Hint.Within (.keeping promise)))
    (countable : assembly.plan.locals ≤ 2 ^ 64) :
    ∃ names, Clean promise names assembly.source.toList ∧
      ∀ name, name ∈ names ↔ name ∈ assembly.requires := by
  obtain ⟨checks, result, planned, resulting, rfl⟩ := fits.parts
  have each : ∀ check ∈ checks, check.Proper promise := by
    intro check member
    obtain ⟨kind, parameter, listed, name, hint, hinted, given⟩ := planned.origin check member
    have part := Plan.locals_parameter_le (of_parameters signature.name checks result ▸ member)
    exact ⟨kind, kept_of_isIdentifier (name ▸ Signature.isIdentifier_of_validate fits.valid
      listed), given.proper (fun _ => id) (known.parameters parameter listed hint hinted)
        (within.parameters parameter listed hint hinted) (Nat.le_trans part countable)⟩
  have last : result.Proper promise := by
    cases result with
    | unchecked | never => trivial
    | checked _ fragment =>
      obtain ⟨hint, hinted, given⟩ := resulting.origin rfl
      exact given.proper (fun _ => id) (known.returns hint hinted) (within.returns hint hinted)
        (Nat.le_trans (Plan.locals_result_le rfl) countable)
  obtain ⟨text, names, roles, source, leading, -, required⟩ :=
    @exists_leading promise signature.name _ _ each last
  refine ⟨names, ?_, required⟩
  rw [source]
  exact (spotless_fill_head named leading.spotless).clean

namespace Settings

/-- Whatever a registry was used for, a guard for a function with an identifier as its name and with
standard classes looks up in its source every name that it requires. It looks up no other names if
nothing that the hints bring in ends like the start of a look-up. The names that its checks bind
must be few enough to be numbered with 64 bits. -/
theorem requires_looked_up {registry : Registry}
    (employed : registry.Employed (Hint.Listed validators) bodies) (settings : Settings)
    (named : Text.isIdentifier signature.name = true)
    (listed : signature.Trusted (Hint.Listed validators))
    (standard : signature.Trusted Hint.Standard) {world : World} {assembly : Assembly}
    {after : Workshop}
    (assembled : (settings.assemble signature).run.run ⟨registry, world⟩ = (.ok assembly, after))
    (countable : assembly.plan.locals ≤ 2 ^ 64) :
    (∀ name ∈ assembly.requires, name ∈ lookedUp assembly.source.toList) ∧
      (signature.Trusted Hint.Unmistakable →
        ∀ name, name ∈ lookedUp assembly.source.toList ↔ name ∈ assembly.requires) := by
  have start : Workshop.Grown (Hint.Listed validators) ⟨registry, world⟩ ⟨registry, world⟩ :=
    ⟨employed.stocked.fragments, rfl, _, _, rfl⟩
  obtain ⟨-, fits⟩ := (settings.assemble_upholds _ listed _ start).1 _ _ assembled
  have found : ∀ name ∈ assembly.requires, name ∈ lookedUp assembly.source.toList := by
    obtain ⟨names, clean, required⟩ := fits.exists_clean named listed
      (standard.imp fun _ => Hint.Standard.keeping) countable
    intro name member
    rw [← List.append_nil assembly.source.toList]
    exact clean.found [] name ((required name).mpr member)
  refine ⟨found, fun unmistakable name => ⟨fun member => ?_, found name⟩⟩
  obtain ⟨names, clean, required⟩ := fits.exists_clean named listed unmistakable countable
  exact (required name).mp (clean.mem_of_lookedUp trivial member)

/-- The guard of a function that takes values with a protocol, or a text that reads like a look-up,
looks up the protocol, whose name has a quote in it, and nothing else. -/
theorem requires_looked_up_of_protocol :
    let settings := Settings.standard ⟨102, .fixed 5⟩
    let protocol : Hint := .structural ⟨301, "it's", ["close"]⟩
    let text : Hint := .literal [.str 201 "__hc_registry['x']"]
    let signature := Signature.taking (.union [protocol, text])
    signature.Trusted Hint.Standard ∧ signature.Trusted Hint.Unmistakable ∧ ∃ assembly after,
      (settings.assemble signature).run.run ⟨.empty, .initial⟩ = (.ok assembly, after) ∧
        ∀ name, name ∈ lookedUp assembly.source.toList ↔ name = "it's" := by
  intro settings protocol text signature
  have inner {inner : Hint} (inside : inner.Inside (.union [protocol, text])) :
      inner = .union [protocol, text] ∨ inner = .structural ⟨301, "it's", ["close"]⟩ ∨
        inner = .literal [.str 201 "__hc_registry['x']"] := by
    cases inside with
    | self => exact .inl rfl
    | child member deeper =>
      rcases List.mem_pair.mp member with rfl | rfl
      · cases deeper with
        | self => exact .inr (.inl rfl)
        | child member => cases member
      · exact .inr (.inr (Hint.inside_literal deeper))
  have plain : (Value.str 201 "__hc_registry['x']").Standard := by
    intro c inside
    cases Value.inside_atomic rfl inside
  have listed : signature.Trusted (Hint.Listed fun serial => ⟨serial, "even", fun _ => true⟩) := by
    refine Signature.trusted_taking fun _ _ inside => ?_
    rcases inner inside with same | same | same <;> cases same
  have standard : signature.Trusted Hint.Standard := by
    refine Signature.trusted_taking fun _ inside => ?_
    rcases inner inside with rfl | rfl | rfl
    · trivial
    · trivial
    · exact List.forall_mem_singleton.mpr ⟨plain, Class.standard_str⟩
  have unmistakable : signature.Trusted Hint.Unmistakable := by
    refine Signature.trusted_taking fun _ inside => ?_
    rcases inner inside with rfl | rfl | rfl
    · trivial
    · exact ⟨False.elim, fun _ => (by decide : ¬ lookupOpening <:+ "it's".toList)⟩
    · refine List.forall_mem_singleton.mpr ⟨plain, Class.keeps_builtin (by decide),
        fun part inside text found => ?_, nofun⟩
      cases Value.inside_atomic rfl inside
      cases found
      exact kept_of_isHarmless (by decide)
  obtain ⟨after, assembled⟩ := settings.exists_assemble_eq_taking
    (rfl : settings.check (.union [protocol, text]) = .ok _) rfl .initial
  refine ⟨standard, unmistakable, _, after, assembled, fun name => ?_⟩
  have employed : Registry.empty.Employed
      (Hint.Listed fun serial => ⟨serial, "even", fun _ => true⟩) fun _ _ => pure .null := .fresh
  rw [(settings.requires_looked_up employed (by decide : Text.isIdentifier "f" = true) listed
    standard assembled (by decide)).2 unmistakable, Assembly.mem_of_requires]
  exact List.mem_singleton

/-- A text that ends like the start of a look-up is taken for one. -/
theorem text_taken_for_lookup :
    let settings := Settings.standard ⟨102, .fixed 5⟩
    let signature := Signature.taking (.literal [.str 201 "__hc_registry["])
    Text.isIdentifier signature.name = true ∧ signature.Trusted Hint.Standard ∧ ∃ assembly after,
      (settings.assemble signature).run.run ⟨.empty, .initial⟩ = (.ok assembly, after) ∧
        assembly.requires = [] ∧ lookedUp assembly.source.toList ≠ [] := by
  intro settings signature
  have trusted : signature.Trusted Hint.Standard := by
    refine Signature.trusted_taking fun inner inside => ?_
    cases Hint.inside_literal inside
    exact Check.standard_str 201 "__hc_registry["
  obtain ⟨after, assembled⟩ := settings.exists_assemble_eq_taking
    (rfl : settings.check (.literal [.str 201 "__hc_registry["]) = .ok _) rfl .initial
  refine ⟨(by decide : Text.isIdentifier "f" = true), trusted, _, after, assembled,
    List.eq_nil_iff_forall_not_mem.mpr fun name member => ?_, ?_⟩
  · cases Assembly.mem_of_requires.mp member
  · have found : Text.occurs lookupStart (((Check.oneOf [.str 201 "__hc_registry["]).script
        Script.tested 0 rootLevel).print rootName.toList localName) = true := by decide +kernel
    exact lookedUp_ne_nil (Assembly.infix_of_str found _)

end Settings

end CallGuard
