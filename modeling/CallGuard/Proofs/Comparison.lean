/-
Comparing a question with a search. A question is answered yes or no; a search
finds something or nothing. Two things can be said of a search beside a
question: that it finds nothing only if the answer is yes, should both come to
an end, and that it does come to an end and finds nothing just if the answer is
yes. The file gives the rules for both, one for each way in which questions and
searches are put together. References keep their meaning throughout.
-/
import CallGuard.Proofs.Invariant

namespace CallGuard

namespace Action

variable {Found Other : Type} {trusted faithful : Prop} {meaning : Reference → Option Hint}

/-! ### Rules for agreement -/

/-- How a question and a search agree wherever references stand for what `meaning` says. The search
finds nothing only if the answer is yes, if the two are trusted that far. If they are faithful to
each other, the search also succeeds whenever the question is answered, and it finds nothing just if
the answer is yes. -/
structure Agrees (trusted faithful : Prop) (meaning : Reference → Option Hint) (ask : Action Bool)
    (search : Action (Option Found)) : Prop where
  asks : Quiet meaning ask
  searches : Quiet meaning search
  sound : trusted → ∀ {before before' after after' : World} {holds : Bool},
    before.denotes = meaning → before'.denotes = meaning → ask.Ends before holds after →
      search.Ends before' none after' → holds = true
  complete : faithful → ∀ {before after : World} {holds : Bool}, before.denotes = meaning →
    ask.Ends before holds after →
      Returns meaning search fun found => found = none ↔ holds = true

variable {search : Action (Option Found)}

theorem Agrees.weaken {ask : Action Bool}
    {trusted' faithful' : Prop} (agree : Agrees trusted faithful meaning ask search)
    (weaker : trusted' → trusted) (weaker' : faithful' → faithful) :
    Agrees trusted' faithful' meaning ask search :=
  ⟨agree.asks, agree.searches, fun known => agree.sound (weaker known),
    fun known => agree.complete (weaker' known)⟩

theorem agrees_of_quiet {ask : Action Bool}
    (asks : Quiet meaning ask) (searches : Quiet meaning search) (untrusted : ¬ trusted)
    (unfaithful : ¬ faithful) : Agrees trusted faithful meaning ask search :=
  ⟨asks, searches, fun known => absurd known untrusted, fun known => absurd known unfaithful⟩

/-- After a negative answer, a trusted search does not come to nothing. -/
theorem Agrees.upholds {ask : Action Bool}
    (agree : Agrees trusted faithful meaning ask search) :
    Upholds (fun world => world.denotes = meaning)
      (fun answer => answer = false → trusted → ∀ before after, before.denotes = meaning →
        ¬ search.Ends before none after)
      (fun failure => ∀ violation, failure ≠ .violation violation) ask := by
  intro before steady
  refine ⟨fun answer after ended => ⟨agree.asks.steady steady ended, ?_⟩,
    (agree.asks before steady).2⟩
  rintro rfl known before' after' steady' ended'
  exact Bool.false_ne_true (agree.sound known steady steady' ended ended')

theorem agrees_pure_of {holds : Bool} {found : Option Found} (sound : found = none → holds = true)
    (complete : faithful → holds = true → found = none) :
    Agrees trusted faithful meaning (pure holds) (pure found) where
  asks := quiet_pure
  searches := quiet_pure
  sound _ _ _ _ _ _ _ _ ended ended' := by
    obtain ⟨rfl, -⟩ := ends_pure.mp ended
    exact sound (ends_pure.mp ended').1
  complete known _ _ _ _ ended := by
    obtain ⟨rfl, -⟩ := ends_pure.mp ended
    exact returns_pure ⟨sound, complete known⟩

theorem agrees_pure {holds : Bool} {found : Option Found} (same : found = none ↔ holds = true) :
    Agrees trusted faithful meaning (pure holds) (pure found) :=
  agrees_pure_of same.mp fun _ => same.mpr

/-- What is done with the result of a search may change what was found but not whether. -/
theorem Agrees.bind {ask : Action Bool} {search : Action (Option Found)}
    {next : Option Found → Action (Option Other)}
    (agree : Agrees trusted faithful meaning ask search)
    (keeps : ∀ found, Returns meaning (next found) fun other => other = none ↔ found = none) :
    Agrees trusted faithful meaning ask (search >>= next) where
  asks := agree.asks
  searches := quiet_bind agree.searches fun found => (keeps found).quiet
  sound known _ _ _ _ _ steady steady' ended ended' := by
    obtain ⟨found, middle, ended', rest⟩ := ends_bind.mp ended'
    have later := agree.searches.steady steady' ended'
    obtain ⟨other, last, rest', -, same⟩ := keeps found middle later
    obtain ⟨rfl, -⟩ := rest.unique rest'
    obtain rfl := same.mp rfl
    exact agree.sound known steady steady' ended ended'
  complete known _ _ _ steady ended :=
    returns_bind (agree.complete known steady ended) fun found same =>
      (keeps found).weaken fun other same' => same'.trans same

theorem Agrees.map {ask : Action Bool} (change : Found → Other)
    (agree : Agrees trusted faithful meaning ask search) :
    Agrees trusted faithful meaning ask (do return (← search).map change) :=
  agree.bind fun _ => returns_pure Option.map_eq_none_iff

/-- Two questions of which the second is asked if the answer to the first is yes. -/
theorem agrees_and {ask ask' : Action Bool} {search : Action (Option Found)}
    {next : Option Found → Action (Option Other)}
    (first : Agrees trusted faithful meaning ask search)
    (second : Agrees trusted faithful meaning ask' (next none))
    (stop : ∀ found, Returns meaning (next (some found)) fun other => other ≠ none) :
    Agrees trusted faithful meaning (do if ← ask then ask' else pure false) (search >>= next) where
  asks := by
    refine quiet_bind first.asks fun answer => ?_
    cases answer with
    | true => exact second.asks
    | false => exact quiet_pure
  searches := by
    refine quiet_bind first.searches fun found => ?_
    cases found with
    | none => exact second.searches
    | some cause => exact (stop cause).quiet
  sound known _ _ _ _ _ steady steady' ended ended' := by
    obtain ⟨answer, middle, ended, rest⟩ := ends_bind.mp ended
    obtain ⟨found, middle', ended', rest'⟩ := ends_bind.mp ended'
    have later := first.asks.steady steady ended
    have later' := first.searches.steady steady' ended'
    cases found with
    | none =>
      obtain rfl := first.sound known steady steady' ended ended'
      exact second.sound known later later' rest rest'
    | some cause =>
      obtain ⟨other, _, rest'', -, missing⟩ := stop cause middle' later'
      exact absurd (rest'.unique rest'').1.symm missing
  complete known _ _ _ steady ended := by
    obtain ⟨answer, middle, ended, rest⟩ := ends_bind.mp ended
    have later := first.asks.steady steady ended
    refine returns_bind (first.complete known steady ended) fun found same => ?_
    cases answer with
    | true =>
      rw [same.mpr rfl]
      exact second.complete known later rest
    | false =>
      obtain ⟨rfl, -⟩ := ends_pure.mp rest
      cases found with
      | none => exact absurd (same.mp rfl) Bool.false_ne_true
      | some cause =>
        exact (stop cause).weaken fun other missing => iff_of_false missing Bool.false_ne_true

/-- Two questions of which the second is asked if the answer to the first is no. -/
theorem agrees_or {ask ask' : Action Bool} {search : Action (Option Found)}
    {next : Option Found → Action (Option Other)}
    (first : Agrees trusted faithful meaning ask search)
    (second : ∀ found, Agrees trusted faithful meaning ask' (next (some found)))
    (asks : Quiet meaning ask') (stop : Returns meaning (next none) fun other => other = none) :
    Agrees trusted faithful meaning (do if ← ask then pure true else ask') (search >>= next) where
  asks := by
    refine quiet_bind first.asks fun answer => ?_
    cases answer with
    | true => exact quiet_pure
    | false => exact asks
  searches := by
    refine quiet_bind first.searches fun found => ?_
    cases found with
    | none => exact stop.quiet
    | some cause => exact (second cause).searches
  sound known _ _ _ _ _ steady steady' ended ended' := by
    obtain ⟨answer, middle, ended, rest⟩ := ends_bind.mp ended
    cases answer with
    | true => exact (ends_pure.mp rest).1.symm
    | false =>
      obtain ⟨found, middle', ended', rest'⟩ := ends_bind.mp ended'
      cases found with
      | none => exact absurd (first.sound known steady steady' ended ended') Bool.false_ne_true
      | some cause =>
        exact (second cause).sound known (first.asks.steady steady ended)
          (first.searches.steady steady' ended') rest rest'
  complete known _ _ _ steady ended := by
    obtain ⟨answer, middle, ended, rest⟩ := ends_bind.mp ended
    have later := first.asks.steady steady ended
    refine returns_bind (first.complete known steady ended) fun found same => ?_
    cases answer with
    | true =>
      obtain ⟨rfl, -⟩ := ends_pure.mp rest
      rw [same.mpr rfl]
      exact stop.weaken fun other missing => iff_of_true missing rfl
    | false =>
      cases found with
      | none => exact absurd (same.mp rfl) Bool.false_ne_true
      | some cause => exact (second cause).complete known later rest

/-- One question, asked as the last of several. -/
theorem Agrees.last {ask : Action Bool}
    (agree : Agrees trusted faithful meaning ask search) :
    Agrees trusted faithful meaning (do if ← ask then pure true else pure false) search := by
  have same : (fun holds => if holds = true then pure true else pure false) =
      (pure : Bool → Action Bool) := by
    funext holds
    cases holds <;> rfl
  rw [same, bind_pure]
  exact agree

/-- Questions about the items of a list, asked until the answer is no. -/
theorem agrees_allM {Item : Type} {items : List Item} {ask : Item → Action Bool}
    {search : Item → Action (Option Found)}
    (each : ∀ item ∈ items, Agrees trusted faithful meaning (ask item) (search item)) :
    Agrees trusted faithful meaning (items.allM ask) (items.findSomeM? search) := by
  induction items with
  | nil => exact agrees_pure (iff_of_true rfl rfl)
  | cons first rest ih =>
    obtain ⟨head, tail⟩ := List.forall_mem_cons.mp each
    rw [List.allM_cons, List.findSomeM?_cons]
    exact agrees_and head (ih tail) fun _ => returns_pure (Option.some_ne_none _)

theorem agrees_ask {protocol : Protocol} {c : Class} {next : Bool → Action (Option Found)}
    (same : ∀ answer, Returns meaning (next answer) fun found => found = none ↔ answer = true) :
    Agrees trusted faithful meaning (ask protocol c) (ask protocol c >>= next) := by
  have returns : Returns meaning (ask protocol c >>= next) fun found =>
      found = none ↔ protocol.isSatisfiedBy c = true :=
    returns_bind (returns_ask protocol c) fun answer known => known ▸ same answer
  have answered {before after : World} {holds : Bool}
      (ended : (ask protocol c).Ends before holds after) : holds = protocol.isSatisfiedBy c := by
    obtain ⟨after', ended', -⟩ := ask_ends protocol c before
    exact (ended.unique ended').1
  refine ⟨quiet_ask protocol c, returns.quiet, ?_, ?_⟩
  · intro _ before before' after after' holds steady steady' ended ended'
    obtain ⟨found, _, ended'', -, same⟩ := returns before' steady'
    obtain ⟨rfl, -⟩ := ended'.unique ended''
    exact (answered ended).trans (same.mp rfl)
  · intro _ before after holds steady ended
    rw [answered ended]
    exact returns

end Action

end CallGuard
