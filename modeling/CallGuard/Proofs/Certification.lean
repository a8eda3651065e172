/-
Guarding functions side by side. A guarded function that a registry hands out
was put together for a function with the same imprint, perhaps with another
registry and in another world. Since imprints can be read back, it cannot be
told apart from one put together for the function at hand, so guarding a
function with one registry or with another gives functions whose calls come to
the same outcome. The bodies need not be the same on both sides, as long as they
correspond.
-/
import CallGuard.Proofs.Guarding
import CallGuard.Proofs.Tandem

namespace CallGuard

open CallGuard.Action Making CallGuard.Function

variable {similar : World → World → Prop} {trusted : Hint → Prop} {names : Nat → String}
  {bodies bodies' : Nat → Arguments → Action Value} {settings : Settings}

/-! ### Functions -/

/-- The name goes with the body, and the hints are trusted. -/
structure Signature.Genuine (names : Nat → String) (trusted : Hint → Prop) (identity : Nat)
    (signature : Signature) : Prop where
  name : signature.name = names identity
  hints : signature.Trusted trusted

/-- Functions that cannot be told apart by calling them. -/
inductive Function.Twin (similar : World → World → Prop) (trusted : Hint → Prop)
    (names : Nat → String) (bodies bodies' : Nat → Arguments → Action Value) :
    Function → Function → Prop
  | written {signature signature' : Signature} {identity : Nat}
    (genuine : signature.Genuine names trusted identity)
    (genuine' : signature'.Genuine names trusted identity)
    (same : (written bodies signature identity).imprint =
      (written bodies' signature' identity).imprint)
    (corresponds : ∀ arguments,
      Corresponds similar (bodies identity arguments) (bodies' identity arguments)) :
    Twin similar trusted names bodies bodies' (.written bodies signature identity)
      (.written bodies' signature' identity)
  | guarded {signature signature' : Signature} {identity identity' : Nat} {guard guard' : Guard}
    {inner inner' : Function} (settings : guard.settings = guard'.settings)
    (plans : guard.plan.Twin similar guard'.settings guard'.plan)
    (qualnames : inner.signature.qualname = inner'.signature.qualname)
    (inside : Twin similar trusted names bodies bodies' inner inner') :
    Twin similar trusted names bodies bodies' (.guarded signature identity guard inner)
      (.guarded signature' identity' guard' inner')

namespace Function

variable {function function' : Function}

/-- Calls of functions that cannot be told apart come to the same outcome. -/
theorem Twin.call_corresponds (similarity : Similarity similar)
    (twin : function.Twin similar trusted names bodies bodies' function') (arguments : Arguments) :
    Corresponds similar (function.call arguments) (function'.call arguments) := by
  induction twin with
  | written _ _ _ corresponds => exact corresponds arguments
  | guarded settings plans qualnames _ ih =>
    rw [call, call, qualnames]
    exact Guard.call_corresponds similarity settings plans _ arguments ih

theorem Twin.founded (twin : function.Twin similar trusted names bodies bodies' function') :
    function.Founded (Signature.Genuine names trusted) bodies ∧
      function'.Founded (Signature.Genuine names trusted) bodies' := by
  induction twin with
  | written genuine genuine' => exact ⟨.written genuine, .written genuine'⟩
  | guarded _ _ _ _ ih =>
    exact ⟨.guarded _ _ _ ih.1, .guarded _ _ _ ih.2⟩

/-- Functions with one imprint have signatures that are twins. -/
theorem signatures_twin (decodable : Hint.Decodable similar trusted)
    {signature signature' : Signature} {identity : Nat}
    (genuine : signature.Genuine names trusted identity)
    (genuine' : signature'.Genuine names trusted identity)
    (same : (written bodies signature identity).imprint =
      (written bodies' signature' identity).imprint) : signature.Twin similar signature' :=
  (decodable.function (a := written bodies signature identity)
    (b := written bodies' signature' identity) genuine.hints genuine'.hints
    (fun _ => genuine.name.trans genuine'.name.symm) same).2

/-- The two functions with guards around them that cannot be told apart. -/
inductive Around (similar : World → World → Prop) (settings : Settings)
    (function function' : Function) : Function → Function → Prop
  | guarded (signature signature' : Signature) (identity identity' : Nat) {guard guard' : Guard}
    (ours : guard.settings = settings) (theirs : guard'.settings = settings)
    (plans : guard.plan.Twin similar settings guard'.plan) :
    Around similar settings function function' (.guarded signature identity guard function)
      (.guarded signature' identity' guard' function')

theorem Around.twin {guarded guarded' : Function}
    (around : Around similar settings function function' guarded guarded')
    (qualnames : function.signature.qualname = function'.signature.qualname)
    (inside : function.Twin similar trusted names bodies bodies' function') :
    guarded.Twin similar trusted names bodies bodies' guarded' := by
  cases around with
  | guarded _ _ _ _ ours theirs plans =>
    exact .guarded (ours.trans theirs.symm) (theirs ▸ plans) qualnames inside

end Function

variable {identity : Nat} {signature : Signature}

/-- Guards around functions with one imprint cannot be told apart. -/
theorem Settings.compile_tandem (settings : Settings) (similarity : Similarity similar)
    (decodable : Hint.Decodable similar trusted) {signature signature' : Signature}
    (genuine : signature.Genuine names trusted identity)
    (genuine' : signature'.Genuine names trusted identity)
    (same : (written bodies signature identity).imprint =
      (written bodies' signature' identity).imprint) :
    Tandem trusted (Function.Around similar settings (.written bodies signature identity)
        (.written bodies' signature' identity))
      (settings.compile (.written bodies signature identity))
      (settings.compile (.written bodies' signature' identity)) := by
  refine tandem_bind (settings.assemble_tandem similarity decodable genuine.hints genuine'.hints
    (signatures_twin decodable genuine genuine' same)) fun assembly assembly' assemblies =>
      (Assembly.guard_tandem assemblies _ _).imp fun made made' link => ?_
  obtain ⟨number, number', guard, guard', rfl, rfl, ours, theirs, plans⟩ := link
  exact .guarded _ _ number number' ours theirs plans

/-- Putting a guard around a function files fragments for trusted hints and does nothing else. -/
theorem Settings.compile_grown (settings : Settings) (similarity : Similarity similar)
    (decodable : Hint.Decodable similar trusted)
    (genuine : signature.Genuine names trusted identity) {workshop after : Workshop}
    (faithful : workshop.registry.Faithful trusted) {outcome : Except Failure Function}
    (ran : (settings.compile (.written bodies signature identity)).run.run workshop =
      (outcome, after)) : workshop.Grown trusted after := by
  have same : (written bodies signature identity).imprint =
      (written bodies signature identity).imprint := rfl
  obtain ⟨-, grown, -⟩ := settings.compile_tandem similarity decodable genuine genuine same workshop
    workshop faithful faithful
  rwa [ran] at grown

/-! ### Registries -/

/-- The fragments were made for trusted hints, and every function that is filed was put together
for a function that it is filed under. -/
structure Registry.Certified (trusted : Hint → Prop) (names : Nat → String)
    (bodies : Nat → Arguments → Action Value) (registry : Registry) : Prop where
  fragments : registry.Faithful trusted
  guards : ∀ key guarded, (key, guarded) ∈ registry.guards →
    ∃ settings : Settings, ∃ signature identity, signature.Genuine names trusted identity ∧
      key = .of settings (.written bodies signature identity) ∧
      ∃ workshop : Workshop, workshop.registry.Faithful trusted ∧
        ((settings.compile (.written bodies signature identity)).run.run workshop).1 = .ok guarded

theorem Registry.empty_certified : Registry.empty.Certified trusted names bodies :=
  ⟨empty_faithful, nofun⟩

theorem Workshop.Grown.certified {workshop later : Workshop} (grown : workshop.Grown trusted later)
    (certified : workshop.registry.Certified trusted names bodies) :
    later.registry.Certified trusted names bodies := by
  refine ⟨grown.fragments, ?_⟩
  rw [grown.guards]
  exact certified.guards

variable {registry : Registry}

theorem Registry.Certified.fileGuarded (certified : registry.Certified trusted names bodies)
    (genuine : signature.Genuine names trusted identity)
    {workshop : Workshop} {guarded : Function} (faithful : workshop.registry.Faithful trusted)
    (made : ((settings.compile (.written bodies signature identity)).run.run workshop).1 =
      .ok guarded) :
    (registry.fileGuarded (.of settings (.written bodies signature identity)) guarded).Certified
      trusted names bodies := by
  refine ⟨certified.fragments, fun key guarded' member => ?_⟩
  rcases mem_file member with same | old
  · cases same
    exact ⟨settings, signature, identity, genuine, rfl, workshop, faithful, made⟩
  · exact certified.guards key guarded' old

/-- What is handed out was put together under the same settings for a function with the same
imprint. -/
theorem Registry.Certified.handed (certified : registry.Certified trusted names bodies)
    {guarded : Function}
    (found : registry.guarded? (.of settings (.written bodies signature identity)) = some guarded) :
    ∃ signature' : Signature, signature'.Genuine names trusted identity ∧
      (written bodies signature' identity).imprint =
        (written bodies signature identity).imprint ∧
      ∃ workshop : Workshop, workshop.registry.Faithful trusted ∧
        ((settings.compile (.written bodies signature' identity)).run.run workshop).1 =
          .ok guarded := by
  obtain ⟨settings', signature', identity', genuine, key, workshop, faithful, made⟩ :=
    certified.guards _ _ (mem_of_lookup found)
  obtain ⟨imprint, imprints⟩ := GuardKey.mk.inj key
  obtain rfl := Settings.eq_of_imprint imprints
  have identities : identity = identity' := Hint.Mark.identity.inj (List.cons.inj imprint).1
  subst identities
  exact ⟨signature', genuine, imprint.symm, workshop, faithful, made⟩

/-! ### Guarding functions -/

namespace Settings

variable (settings)

variable {function : Function} {workshop : Workshop} {signature : Signature}

/-- Guarding a function leaves registries certified and does nothing else but write to the journal
and take serial numbers. -/
theorem decorate_certified (similarity : Similarity similar)
    (decodable : Hint.Decodable similar trusted)
    (founded : function.Founded (Signature.Genuine names trusted) bodies)
    (certified : workshop.registry.Certified trusted names bodies) :
    ((settings.decorate function).run.run workshop).2.registry.Certified trusted names bodies ∧
      workshop.world.Idle ((settings.decorate function).run.run workshop).2.world := by
  refine settings.decorate_reaches (fun after => after.registry.Certified trusted names bodies ∧
    workshop.world.Idle after.world) founded ?_ ?_ ?_
  · intro later noted
    exact ⟨certified, noted.idle⟩
  · intro signature identity genuine _ later failure after noted ran
    have start : (Workshop.mk workshop.registry later).registry.Faithful trusted :=
      certified.fragments
    have grown := settings.compile_grown similarity decodable genuine start ran
    exact ⟨grown.certified certified, noted.idle.trans grown.world⟩
  · intro signature identity genuine _ later guarded after noted _ ran
    have start : (Workshop.mk workshop.registry later).registry.Faithful trusted :=
      certified.fragments
    have grown := settings.compile_grown similarity decodable genuine start ran
    exact ⟨(grown.certified certified).fileGuarded genuine start (congrArg Prod.fst ran),
      noted.idle.trans grown.world⟩

/-- Guarding a function that was written gives the same as putting a guard around a function with
the same imprint, with some registry and in some world. -/
theorem exists_compile_eq_decorate {identity : Nat}
    (genuine : signature.Genuine names trusted identity) (needed : signature.needsChecking = true)
    (certified : workshop.registry.Certified trusted names bodies) :
    ∃ signature' : Signature, signature'.Genuine names trusted identity ∧
      (written bodies signature' identity).imprint =
        (written bodies signature identity).imprint ∧
      ∃ start : Workshop, start.registry.Faithful trusted ∧
        ((settings.decorate (.written bodies signature identity)).run.run workshop).1 =
          ((settings.compile (.written bodies signature' identity)).run.run start).1 := by
  have yields := settings.yields_decorate signature identity (bodies identity) workshop
  rw [written]
  generalize (settings.decorate (.plain signature identity (bodies identity))).run.run workshop =
    run at yields ⊢
  cases yields with
  | unneeded unneeded => cases unneeded.symm.trans needed
  | known _ found _ =>
    obtain ⟨signature', genuine', same, start, faithful, made⟩ := certified.handed found
    exact ⟨signature', genuine', same, start, faithful, made.symm⟩
  | @failed _ later _ _ _ _ ran | @made _ later _ _ _ _ ran =>
    exact ⟨signature, genuine, rfl, ⟨workshop.registry, later⟩, certified.fragments,
      (congrArg Prod.fst ran).symm⟩

theorem decorate_unneeded (identity : Nat) (unneeded : signature.needsChecking = false)
    (workshop : Workshop) :
    ((settings.decorate (.written bodies signature identity)).run.run workshop).1 =
      .ok (.written bodies signature identity) := by
  rw [written, decorate, if_neg (by rw [unneeded]; exact Bool.false_ne_true)]
  rfl

/-- Of two functions that cannot be told apart, both can be guarded, with whatever registries, or
neither, and then the two cannot be told apart. -/
theorem decorate_agree (similarity : Similarity similar)
    (decodable : Hint.Decodable similar trusted) {function' : Function}
    (twin : function.Twin similar trusted names bodies bodies' function') {workshop' : Workshop}
    (certified : workshop.registry.Certified trusted names bodies)
    (certified' : workshop'.registry.Certified trusted names bodies') :
    Agree (Function.Twin similar trusted names bodies bodies')
      ((settings.decorate function).run.run workshop).1
      ((settings.decorate function').run.run workshop').1 := by
  induction twin with
  | @written signature signature' identity genuine genuine' same corresponds =>
    have needs : signature.needsChecking = signature'.needsChecking :=
      (signatures_twin decodable genuine genuine' same).needsChecking_eq
    cases needed : signature'.needsChecking with
    | true =>
      obtain ⟨first, known, imprints, start, faithful, outcome⟩ :=
        settings.exists_compile_eq_decorate genuine (needs.trans needed) certified
      obtain ⟨second, known', imprints', start', faithful', outcome'⟩ :=
        settings.exists_compile_eq_decorate genuine' needed certified'
      have same := imprints.trans (same.trans imprints'.symm)
      rw [outcome, outcome']
      refine (settings.compile_tandem similarity decodable known known' same start start' faithful
        faithful').1.imp fun guarded guarded' around => ?_
      exact around.twin (signatures_twin decodable known known' same).qualname
        (.written known known' same corresponds)
    | false =>
      rw [settings.decorate_unneeded identity (needs.trans needed) workshop,
        settings.decorate_unneeded identity needed workshop']
      exact .done (.written genuine genuine' same corresponds)
  | @guarded signature signature' identity identity' guard guard' inner inner' shared plans qualnames
      inside ih =>
    by_cases same : guard'.settings.imprint = settings.imprint
    · obtain ⟨later, run, -⟩ := settings.run_decorate_again signature identity inner
        (shared ▸ same) workshop
      obtain ⟨later', run', -⟩ := settings.run_decorate_again signature' identity' inner' same
        workshop'
      rw [run, run']
      exact .done (.guarded shared plans qualnames inside)
    · rw [decorate, decorate, if_neg (shared ▸ same), if_neg same]
      exact ih

end Settings

end CallGuard
