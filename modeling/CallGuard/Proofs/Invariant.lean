/-
What steps keep. A step reads and changes a state and may fail, and what it did
before failing stands, so an invariant has to survive failures as well. The
file gives the rules for invariants once for every kind of state. Inquiries are
the actions that do nothing to the world but ask protocols and resolve
references, so they keep whatever these two keep. A search for a cause is one,
in whatever hint; it follows that it leaves references standing for what they
stood for and is not stopped by a violation.
-/
import CallGuard.Proofs.Resolution

namespace CallGuard

/-! ### Invariants of steps -/

section Steps

variable {State Result Other Item : Type} {invariant : State → Prop} {wanted : Result → Prop}
  {tolerated : Failure → Prop}

/-- Started where the invariant holds, the step leaves it holding, and it ends in a result as
wanted or in a failure that is tolerated. -/
def Upholds (invariant : State → Prop) (wanted : Result → Prop) (tolerated : Failure → Prop)
    (step : ExceptT Failure (StateM State) Result) : Prop :=
  ∀ before, invariant before →
    (∀ result after, step.run.run before = (.ok result, after) →
      invariant after ∧ wanted result) ∧
    ∀ failure after, step.run.run before = (.error failure, after) →
      invariant after ∧ tolerated failure

variable {step : ExceptT Failure (StateM State) Result}

theorem Upholds.weaken {wanted' : Result → Prop}
    {tolerated' : Failure → Prop} (upholds : Upholds invariant wanted tolerated step)
    (weaker : ∀ result, wanted result → wanted' result)
    (weaker' : ∀ failure, tolerated failure → tolerated' failure) :
    Upholds invariant wanted' tolerated' step := by
  intro before holds
  obtain ⟨succeeds, fails⟩ := upholds before holds
  exact ⟨fun result after ended => (succeeds result after ended).imp_right (weaker result),
    fun failure after failed => (fails failure after failed).imp_right (weaker' failure)⟩

/-- However the step ends, the invariant holds afterwards. -/
theorem Upholds.after {step : ExceptT Failure (StateM State) Result}
    (upholds : Upholds invariant wanted tolerated step) (before : State)
    (holds : invariant before) :
    invariant (step.run.run before).2 ∧
      ∀ result, (step.run.run before).1 = .ok result → wanted result := by
  obtain ⟨succeeds, fails⟩ := upholds before holds
  rcases run : step.run.run before with ⟨failure | result, after⟩
  · exact ⟨(fails failure after run).1, nofun⟩
  · obtain ⟨kept, known⟩ := succeeds result after run
    refine ⟨kept, ?_⟩
    rintro _ ⟨⟩
    exact known

theorem upholds_pure {value : Result} (holds : wanted value) :
    Upholds invariant wanted tolerated (pure value) := by
  intro before kept
  refine ⟨fun result after ended => ?_, fun failure after failed => ?_⟩
  · cases ended
    exact ⟨kept, holds⟩
  · cases failed

theorem upholds_throw {failure : Failure} (holds : tolerated failure) :
    Upholds invariant wanted tolerated (throw failure) := by
  intro before kept
  refine ⟨fun result after ended => ?_, fun failure after failed => ?_⟩
  · cases ended
  · cases failed
    exact ⟨kept, holds⟩

theorem upholds_bind {step : ExceptT Failure (StateM State) Other}
    {next : Other → ExceptT Failure (StateM State) Result} {between : Other → Prop}
    (first : Upholds invariant between tolerated step)
    (rest : ∀ value, between value → Upholds invariant wanted tolerated (next value)) :
    Upholds invariant wanted tolerated (step >>= next) := by
  intro before kept
  obtain ⟨succeeds, fails⟩ := first before kept
  rw [ExceptT.run_bind, StateT.run_bind]
  rcases run : step.run.run before with ⟨failure | value, middle⟩
  · obtain ⟨kept, holds⟩ := fails failure middle run
    refine ⟨fun result after ended => ?_, fun failure after failed => ?_⟩
    · cases ended
    · cases failed
      exact ⟨kept, holds⟩
  · obtain ⟨kept, holds⟩ := succeeds value middle run
    exact rest value holds middle kept

theorem upholds_tryCatch
    {handler : Failure → ExceptT Failure (StateM State) Result}
    (first : Upholds invariant wanted tolerated step)
    (rest : ∀ failure, Upholds invariant wanted tolerated (handler failure)) :
    Upholds invariant wanted tolerated (tryCatch step handler) := by
  intro before kept
  obtain ⟨succeeds, fails⟩ := first before kept
  rw [ExceptT.run_tryCatch, StateT.run_bind]
  rcases run : step.run.run before with ⟨failure | result, after⟩
  · exact rest failure after (fails failure after run).1
  · refine ⟨fun result' after' ended => ?_, fun failure after' failed => ?_⟩
    · cases ended
      exact succeeds result after run
    · cases failed

/-- What holds after the step whenever it held before is an invariant. -/
theorem upholds_of_after
    (kept : ∀ before, invariant before → invariant (step.run.run before).2) :
    Upholds invariant (fun _ => True) (fun _ => True) step := by
  intro before holds
  have kept := kept before holds
  refine ⟨fun result after ended => ?_, fun failure after failed => ?_⟩
  · rw [ended] at kept
    exact ⟨kept, trivial⟩
  · rw [failed] at kept
    exact ⟨kept, trivial⟩

theorem upholds_forM {items : List Item} {step : Item → ExceptT Failure (StateM State) PUnit}
    (each : ∀ item ∈ items, Upholds invariant (fun _ => True) tolerated (step item)) :
    Upholds invariant (fun _ => True) tolerated (items.forM step) := by
  induction items with
  | nil => exact upholds_pure trivial
  | cons first rest ih =>
    obtain ⟨head, tail⟩ := List.forall_mem_cons.mp each
    exact upholds_bind head fun _ _ => ih tail

theorem upholds_findSomeM? {wanted : Option Other → Prop} {items : List Item}
    {step : Item → ExceptT Failure (StateM State) (Option Other)} (nothing : wanted none)
    (each : ∀ item ∈ items, Upholds invariant wanted tolerated (step item)) :
    Upholds invariant wanted tolerated (items.findSomeM? step) := by
  induction items with
  | nil => exact upholds_pure nothing
  | cons first rest ih =>
    obtain ⟨head, tail⟩ := List.forall_mem_cons.mp each
    rw [List.findSomeM?_cons]
    refine upholds_bind head fun found known => ?_
    cases found with
    | none => exact ih tail
    | some other => exact upholds_pure known

end Steps

namespace Action

variable {Result Other Item : Type} {meaning : Reference → Option Hint}

/-! ### Quiet actions -/

/-- The action leaves references standing for what `meaning` says and is not stopped by a
violation. -/
def Quiet (meaning : Reference → Option Hint) (action : Action Result) : Prop :=
  Upholds (fun world => world.denotes = meaning) (fun _ => True)
    (fun failure => ∀ violation, failure ≠ .violation violation) action

theorem quiet_pure {value : Result} : Quiet meaning (pure value) := upholds_pure trivial

theorem quiet_bind {action : Action Other} {next : Other → Action Result}
    (first : Quiet meaning action) (rest : ∀ value, Quiet meaning (next value)) :
    Quiet meaning (action >>= next) :=
  upholds_bind first fun value _ => rest value

theorem Quiet.steady {action : Action Result} (quiet : Quiet meaning action)
    {before after : World} {result : Result} (steady : before.denotes = meaning)
    (ended : action.Ends before result after) : after.denotes = meaning :=
  ((quiet before steady).1 result after ended).1

theorem quiet_throw {failure : Failure} (other : ∀ violation, failure ≠ .violation violation) :
    Quiet meaning (throw failure : Action Result) :=
  upholds_throw other

variable {action : Action Result}

theorem Returns.quiet {wanted : Result → Prop}
    (returns : Returns meaning action wanted) : Quiet meaning action := by
  intro before steady
  obtain ⟨result, after, ended, steady', -⟩ := returns before steady
  refine ⟨fun result' after' ended' => ?_, fun failure after' failed => ?_⟩
  · obtain ⟨-, rfl⟩ := ended.unique ended'
    exact ⟨steady', trivial⟩
  · cases ended.symm.trans failed

theorem quiet_ask (protocol : Protocol) (c : Class) : Quiet meaning (ask protocol c) :=
  (returns_ask protocol c).quiet

theorem quiet_modifyGet {change : World → Result × World}
    (same : ∀ world, (change world).2.denotes = world.denotes) :
    Quiet meaning (modifyGet change) := by
  intro before steady
  refine ⟨fun result after ended => ?_, fun failure after failed => ?_⟩
  · cases ended
    exact ⟨(same before).trans steady, trivial⟩
  · cases failed

theorem quiet_note (level : Level) (topic message : String) :
    Quiet meaning (note level topic message) :=
  quiet_modifyGet fun _ => rfl

theorem quiet_fresh : Quiet meaning fresh := quiet_modifyGet fun _ => rfl

theorem quiet_draw (source : IndexSource) : Quiet meaning (draw source) :=
  quiet_modifyGet fun _ => rfl

theorem quiet_resolve (reference : Reference) : Quiet meaning (resolve reference) := by
  intro before steady
  refine ⟨fun hint after ended => ⟨(Ends.denotes ended).2.trans steady, trivial⟩, ?_⟩
  intro failure after failed
  cases denoted : before.denotes reference with
  | some hint =>
    obtain ⟨after', ended, -⟩ := resolve_ends denoted
    cases ended.symm.trans failed
  | none =>
    obtain ⟨after', failed', steady'⟩ := resolve_fails denoted
    cases failed'.symm.trans failed
    exact ⟨steady'.trans steady, nofun⟩

/-! ### Inquiries -/

/-- The action is put together from questions to protocols and look-ups of references, and does not
fail with a violation. -/
inductive Inquires : {Result : Type} → Action Result → Prop
  | pure {Result : Type} (value : Result) : Inquires (pure value)
  | throw {Result : Type} {failure : Failure} (other : ∀ violation, failure ≠ .violation violation) :
    Inquires (throw failure : Action Result)
  | ask (protocol : Protocol) (c : Class) : Inquires (ask protocol c)
  | resolve (reference : Reference) : Inquires (resolve reference)
  | bind {Result Other : Type} {action : Action Other} {next : Other → Action Result}
    (first : Inquires action) (rest : ∀ value, Inquires (next value)) : Inquires (action >>= next)

theorem Inquires.upholds {invariant : World → Prop} {tolerated : Failure → Prop}
    (asks : ∀ protocol c, Upholds invariant (fun _ => True) tolerated (Action.ask protocol c))
    (resolves : ∀ reference, Upholds invariant (fun _ => True) tolerated (Action.resolve reference))
    (fails : ∀ failure, (∀ violation, failure ≠ .violation violation) → tolerated failure)
    (inquires : Inquires action) :
    Upholds invariant (fun _ => True) tolerated action := by
  induction inquires with
  | pure value => exact upholds_pure trivial
  | throw other => exact upholds_throw (fails _ other)
  | ask protocol c => exact asks protocol c
  | resolve reference => exact resolves reference
  | bind _ _ firstHypothesis restHypothesis =>
    exact upholds_bind firstHypothesis fun value _ => restHypothesis value

theorem Inquires.quiet (inquires : Inquires action) :
    Quiet meaning action :=
  inquires.upholds quiet_ask quiet_resolve fun _ other => other

/-- Asking the second question only after one answer to the first. -/
theorem inquires_ite {ask : Action Bool} {yes no : Action Result} (first : Inquires ask)
    (second : Inquires yes) (third : Inquires no) : Inquires (do if ← ask then yes else no) := by
  refine .bind first fun answer => ?_
  cases answer with
  | true => exact second
  | false => exact third

theorem inquires_allM {items : List Item} {ask : Item → Action Bool}
    (each : ∀ item, Inquires (ask item)) : Inquires (items.allM ask) := by
  induction items with
  | nil => exact .pure true
  | cons first rest ih =>
    rw [List.allM_cons]
    refine .bind (each first) fun answer => ?_
    cases answer with
    | true => exact ih
    | false => exact .pure false

theorem inquires_findSomeM? {items : List Item} {search : Item → Action (Option Other)}
    (each : ∀ item, Inquires (search item)) : Inquires (items.findSomeM? search) := by
  induction items with
  | nil => exact .pure none
  | cons first rest ih =>
    rw [List.findSomeM?_cons]
    refine .bind (each first) fun found => ?_
    cases found with
    | none => exact ih
    | some other => exact .pure (some other)

/-- What may become of the world when a reference is resolved. -/
theorem after_resolve (wanted : World → Prop) {world : World} (reference : Reference)
    (known : wanted world) (consulted : wanted (world.consulted reference))
    (settled : world.referent? reference = none → ∀ hint, wanted
      { world.consulted reference with resolved := world.resolved.set reference hint }) :
    wanted ((resolve reference).run.run world).2 := by
  cases found : world.referent? reference with
  | some hint =>
    rw [resolve_known found]
    exact known
  | none =>
    cases bound : world.binding? reference.scope reference.name with
    | some hint =>
      rw [resolve_bound found bound]
      exact settled found hint
    | none =>
      rw [resolve_unbound found bound]
      exact consulted

end Action

/-! ### Searches are inquiries -/

namespace Cause

open CallGuard.Action

variable {settings : Settings} {random : UInt32} {value : Value}

theorem ofLeaf_inquires (hint : Hint) (shape : Shape) :
    Inquires (ofLeaf settings hint shape value) := by
  cases shape with
  | unsupported obstacle => exact .throw nofun
  | structural protocol =>
    exact inquires_ite (.ask protocol value.kind) (.pure none) (.pure _)
  | _ => exact .pure _

variable {searches : List (Action (Option Cause))}

theorem ofSearches_inquires
    (each : ∀ search ∈ searches, Inquires search) (best : Option Cause) :
    Inquires (ofSearches best searches) := by
  induction searches generalizing best with
  | nil => exact .pure _
  | cons first rest ih =>
    obtain ⟨head, tail⟩ := List.forall_mem_cons.mp each
    refine .bind head fun found => ?_
    cases found with
    | none => exact .pure _
    | some cause => exact ih tail _

theorem ofUnion_inquires {members : List Hint}
    (each : ∀ search ∈ searches, Inquires search) : Inquires (ofUnion members value searches) := by
  refine .bind (ofSearches_inquires each none) fun found => ?_
  rcases found with _ | _ | cause <;> exact .pure _

theorem findShallow_inquires (hint : Hint) : Inquires (findShallow settings hint value) := by
  fun_induction findShallow settings hint value with
  | case1 hint inner validators shaped ih => exact ih
  | case2 hint members shaped ih =>
    refine ofUnion_inquires (List.forall_mem_map.mpr ?_)
    rintro ⟨member, inMembers⟩ -
    exact ih member inMembers
  | case3 => exact ofLeaf_inquires _ _

/-- A search is an inquiry, at whatever depth and through whatever references. -/
theorem findWithin_inquires (levels : Nat) (hint : Hint) :
    Inquires (findWithin settings random levels hint value) := by
  induction levels generalizing hint value with
  | zero => exact findShallow_inquires hint
  | succ levels ih =>
    have inside (item : Hint) (content : Value) (describe : Cause → Cause) :
        Inquires (do return (← findWithin settings random levels item content).map describe) :=
      .bind (ih item) fun _ => .pure _
    rw [findWithin]
    split
    case h_1 => exact ofUnion_inquires (List.forall_mem_map.mpr fun _ _ => ih _)
    case h_2 =>
      split
      · exact .pure _
      · exact inquires_findSomeM? fun picked => inside _ _ _
    case h_3 key entry _ =>
      split
      · exact .pure _
      · refine inquires_findSomeM? fun picked => ?_
        cases key with
        | none =>
          cases entry with
          | none => exact .pure _
          | some entry => exact inside _ _ _
        | some key =>
          refine .bind (ih key) fun inKey => ?_
          rcases inKey with _ | cause
          · cases entry with
            | none => exact .pure _
            | some entry => exact inside _ _ _
          · exact .pure _
    case h_4 =>
      split
      · exact .pure _
      · dsimp only
        split
        · exact .pure _
        · exact inquires_findSomeM? fun picked => inside _ _ _
    case h_5 target _ => exact .bind (.resolve target) fun hint => ih hint
    case h_6 inner validators _ =>
      refine .bind (ih inner) fun found => ?_
      cases found <;> exact .pure _
    case h_7 => exact ofLeaf_inquires _ _

/-- A search leaves references standing for what they stood for. -/
theorem findWithin_quiet {meaning : Reference → Option Hint} (levels : Nat) (hint : Hint) :
    Quiet meaning (findWithin settings random levels hint value) :=
  (findWithin_inquires levels hint).quiet

end Cause

end CallGuard
