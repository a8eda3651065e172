/-
What comes of guarding a function. One that is guarded under the same settings
already stays as it is; of one that is guarded under others, the function inside
is guarded anew. A plain function with nothing to check is left alone; for any
other one the registry has a guarded function to hand out, or a guard is put
around it, which may fail, and what was made is filed. Whatever is to be known of
registries in use goes by these cases.
-/
import CallGuard.Proofs.Making

namespace CallGuard

open CallGuard.Action Making

theorem Settings.eq_of_imprint {settings settings' : Settings}
    (same : settings.imprint = settings'.imprint) : settings = settings' := by
  obtain ⟨strict, sampling, warnsOfAliases, keepsSource, source⟩ := settings
  obtain ⟨strict', sampling', warnsOfAliases', keepsSource', source'⟩ := settings'
  obtain ⟨⟨rfl, rfl, rfl⟩, rfl, rfl⟩ := Prod.mk.inj same
  rfl

/-! ### Putting a guard around a function -/

namespace Settings

/-- Puts a guard around a function, without a look at the functions that are filed. -/
def compile (settings : Settings) (function : Function) : Making Function := do
  let assembly ← settings.assemble function.signature
  assembly.guard settings function

/-- Files a function that a guard was put around. -/
def file (settings : Settings) (function guarded : Function) : Making Function := do
  modify fun workshop =>
    { workshop with registry := workshop.registry.fileGuarded (.of settings function) guarded }
  return guarded

/-- What may come of guarding a plain function, and the workshop afterwards. -/
inductive Yields (settings : Settings) (function : Function) (workshop : Workshop) :
    Except Failure Function × Workshop → Prop
  | unneeded {later : World} (unneeded : function.signature.needsChecking = false)
    (noted : workshop.world.Noted later) :
    Yields settings function workshop (.ok function, ⟨workshop.registry, later⟩)
  | known {guarded : Function} {later : World} (needed : function.signature.needsChecking = true)
    (found : workshop.registry.guarded? (.of settings function) = some guarded)
    (noted : workshop.world.Noted later) :
    Yields settings function workshop (.ok guarded, ⟨workshop.registry, later⟩)
  | failed {failure : Failure} {later : World} {after : Workshop}
    (needed : function.signature.needsChecking = true)
    (missing : workshop.registry.guarded? (.of settings function) = none)
    (noted : workshop.world.Noted later)
    (failed : (settings.compile function).run.run ⟨workshop.registry, later⟩ =
      (.error failure, after)) :
    Yields settings function workshop (.error failure, after)
  | made {guarded : Function} {later : World} {after : Workshop}
    (needed : function.signature.needsChecking = true)
    (missing : workshop.registry.guarded? (.of settings function) = none)
    (noted : workshop.world.Noted later)
    (made : (settings.compile function).run.run ⟨workshop.registry, later⟩ = (.ok guarded, after)) :
    Yields settings function workshop
      (.ok guarded, ⟨after.registry.fileGuarded (.of settings function) guarded, after.world⟩)

theorem yields_decorate (settings : Settings) (signature : Signature) (identity : Nat)
    (body : Arguments → Action Value) (workshop : Workshop) :
    settings.Yields (.plain signature identity body) workshop
      ((settings.decorate (.plain signature identity body)).run.run workshop) := by
  cases needed : signature.needsChecking with
  | false =>
    rw [decorate, if_neg (by rw [needed]; exact Bool.false_ne_true)]
    exact .unneeded needed ⟨_, rfl⟩
  | true =>
    rw [decorate, if_pos needed, run_get_bind]
    cases found : workshop.registry.guarded? (.of settings (.plain signature identity body)) with
    | some guarded =>
      refine (onlyNotes_note _ _ _).andThen _ fun later noted => ?_
      exact .known needed found noted
    | none =>
      refine (onlyNotes_note _ _ _).andThen _ fun later noted => ?_
      rw [← bind_assoc]
      show settings.Yields _ workshop ((settings.compile (.plain signature identity body) >>=
        settings.file (.plain signature identity body)).run.run ⟨workshop.registry, later⟩)
      rw [ExceptT.run_bind, StateT.run_bind]
      rcases run : (settings.compile (.plain signature identity body)).run.run
        ⟨workshop.registry, later⟩ with ⟨failure | guarded, after⟩
      · exact .failed needed found noted run
      · exact .made needed found noted run

/-- What is known is handed out. -/
theorem decorate_known (settings : Settings) {signature : Signature} {identity : Nat}
    {body : Arguments → Action Value} {workshop : Workshop} {guarded : Function}
    (needed : signature.needsChecking = true)
    (found : workshop.registry.guarded? (.of settings (.plain signature identity body)) =
      some guarded) :
    ∃ later, (settings.decorate (.plain signature identity body)).run.run workshop =
      (.ok guarded, ⟨workshop.registry, later⟩) := by
  have yields := settings.yields_decorate signature identity body workshop
  generalize (settings.decorate (.plain signature identity body)).run.run workshop = run at yields ⊢
  cases yields with
  | unneeded unneeded => cases unneeded.symm.trans needed
  | known _ found' =>
    cases found'.symm.trans found
    exact ⟨_, rfl⟩
  | failed _ missing => cases missing.symm.trans found
  | made _ missing => cases missing.symm.trans found

theorem run_decorate_again (settings : Settings) (signature : Signature) (identity : Nat)
    {guard : Guard} (inner : Function) (same : guard.settings.imprint = settings.imprint)
    (workshop : Workshop) :
    ∃ later, (settings.decorate (.guarded signature identity guard inner)).run.run workshop =
      (.ok (.guarded signature identity guard inner), ⟨workshop.registry, later⟩) ∧
        workshop.world.Noted later := by
  rw [decorate, if_pos same]
  exact ⟨_, rfl, _, rfl⟩

end Settings

/-! ### Functions -/

/-- The function with the body that the identity stands for. -/
def Function.written (bodies : Nat → Arguments → Action Value) (signature : Signature)
    (identity : Nat) : Function :=
  .plain signature identity (bodies identity)

/-- The signature of a function `f` with one parameter `x`. -/
def Signature.taking (hint : Hint) : Signature :=
  ⟨"f", "f", none, ⟨101, "module"⟩, [⟨"x", .positionalOnly, some hint⟩], none⟩

/-- The innermost function was written, under a signature that is genuine for its body. -/
inductive Function.Founded (genuine : Nat → Signature → Prop)
    (bodies : Nat → Arguments → Action Value) : Function → Prop
  | written {signature : Signature} {identity : Nat} (known : genuine identity signature) :
    Founded genuine bodies (.written bodies signature identity)
  | guarded (signature : Signature) (identity : Nat) (guard : Guard) {inner : Function}
    (inside : Founded genuine bodies inner) :
    Founded genuine bodies (.guarded signature identity guard inner)

theorem Function.Founded.imp {genuine genuine' : Nat → Signature → Prop}
    {bodies : Nat → Arguments → Action Value} {function : Function}
    (founded : function.Founded genuine bodies)
    (weaker : ∀ identity signature, genuine identity signature → genuine' identity signature) :
    function.Founded genuine' bodies := by
  induction founded with
  | written known => exact .written (weaker _ _ known)
  | guarded signature identity guard _ ih =>
    exact .guarded signature identity guard ih

/-! ### Registries in use -/

namespace Registry

theorem lookup_filter_ne {Key Entry : Type} [DecidableEq Key] {key other : Key}
    {entries : List (Key × Entry)} (differ : other ≠ key) :
    (entries.filter fun filed => decide (filed.1 ≠ key)).lookup other = entries.lookup other := by
  induction entries with
  | nil => rfl
  | cons entry rest ih =>
    obtain ⟨known, value⟩ := entry
    by_cases same : other = known
    · subst same
      rw [List.filter_cons_of_pos (by simpa using differ), List.lookup_cons_self,
        List.lookup_cons_self]
    · rw [List.lookup_cons, beq_false_of_ne same, ← ih, List.filter_cons]
      split
      · rw [List.lookup_cons, beq_false_of_ne same]
      · rfl

/-- What is filed is handed out under its key, and what was filed before under other keys. -/
theorem guarded?_fileGuarded (registry : Registry) (key other : GuardKey) (function : Function) :
    (registry.fileGuarded key function).guarded? other =
      if other = key then some function else registry.guarded? other := by
  rw [guarded?, fileGuarded, file, List.lookup_cons]
  by_cases same : other = key
  · rw [if_pos same, beq_iff_eq.mpr same]
  · rw [if_neg same, beq_false_of_ne same]
    exact lookup_filter_ne same

end Registry

/-- What the one registry hands out the other one does, too. -/
def Registry.Retains (registry later : Registry) : Prop :=
  ∀ key guarded, registry.guarded? key = some guarded → later.guarded? key = some guarded

/-- A registry that functions were guarded with, one after the other, under whatever settings and
in whatever worlds. Guarding some of them may have failed. -/
inductive Registry.Served (genuine : Nat → Signature → Prop)
    (bodies : Nat → Arguments → Action Value) : Registry → Prop
  | fresh : Served genuine bodies .empty
  | step {registry : Registry} (before : Served genuine bodies registry) (settings : Settings)
    {function : Function} (founded : function.Founded genuine bodies) (world : World) :
    Served genuine bodies ((settings.decorate function).run.run ⟨registry, world⟩).2.registry

variable {genuine : Nat → Signature → Prop} {bodies : Nat → Arguments → Action Value}

/-- What holds after putting a guard around a written function and filing what was made holds after
guarding a function. -/
theorem Settings.decorate_reaches (settings : Settings) (wanted : Workshop → Prop)
    {function : Function} {workshop : Workshop} (founded : function.Founded genuine bodies)
    (noted : ∀ later, workshop.world.Noted later → wanted ⟨workshop.registry, later⟩)
    (failed : ∀ signature identity, genuine identity signature →
      signature.needsChecking = true → ∀ later failure after, workshop.world.Noted later →
      (settings.compile (.written bodies signature identity)).run.run ⟨workshop.registry, later⟩ =
        (.error failure, after) → wanted after)
    (filed : ∀ signature identity, genuine identity signature →
      signature.needsChecking = true → ∀ later guarded after, workshop.world.Noted later →
      workshop.registry.guarded? (.of settings (.written bodies signature identity)) = none →
      (settings.compile (.written bodies signature identity)).run.run ⟨workshop.registry, later⟩ =
        (.ok guarded, after) →
      wanted ⟨after.registry.fileGuarded (.of settings (.written bodies signature identity)) guarded,
        after.world⟩) :
    wanted ((settings.decorate function).run.run workshop).2 := by
  induction founded with
  | @written signature identity known =>
    have yields := settings.yields_decorate signature identity (bodies identity) workshop
    rw [Function.written]
    generalize (settings.decorate (.plain signature identity (bodies identity))).run.run workshop =
      run at yields ⊢
    cases yields with
    | unneeded _ idle => exact noted _ idle
    | known _ _ idle => exact noted _ idle
    | failed needed _ idle ran => exact failed signature identity known needed _ _ _ idle ran
    | made needed missing idle ran =>
      exact filed signature identity known needed _ _ _ idle missing ran
  | @guarded signature identity guard inner _ ih =>
    by_cases same : guard.settings.imprint = settings.imprint
    · obtain ⟨later, run, idle⟩ := settings.run_decorate_again signature identity inner same workshop
      rw [run]
      exact noted _ idle
    · rw [decorate, if_neg same]
      exact ih

theorem Registry.Served.imp {genuine' : Nat → Signature → Prop} {registry : Registry}
    (served : registry.Served genuine bodies)
    (weaker : ∀ identity signature, genuine identity signature → genuine' identity signature) :
    registry.Served genuine' bodies := by
  induction served with
  | fresh => exact .fresh
  | step _ settings founded world ih =>
    exact .step ih settings (founded.imp weaker) world

end CallGuard
