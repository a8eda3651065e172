/-
Worlds that concur. References to one name may have been resolved in the one
world and not in the other, but as long as they stand for what the name is bound
to, this makes no difference: actions that correspond in equal worlds correspond
in such worlds, too, and definitions keep the worlds alike unless they put a
reference out of date.
-/
import CallGuard.Proofs.Reuse

namespace CallGuard

open CallGuard.Action

/-! ### Worlds that concur -/

namespace World

variable {mentioned : Reference → Prop} {world world' later later' : World}

/-- The reference is mentioned, and so is another one with its name in its scope. -/
def Shares (mentioned : Reference → Prop) (target : Reference) : Prop :=
  mentioned target ∧ ∃ other, mentioned other ∧ other ≠ target ∧ other.name = target.name ∧
    other.scope = target.scope

/-- A reference that shares its name and has been resolved stands for what the name is bound to. -/
def Current (mentioned : Reference → Prop) (world : World) : Prop :=
  ∀ target, Shares mentioned target → ∀ hint, world.referent? target = some hint →
    world.binding? target.scope target.name = some hint

/-- One of the references that share a name has been resolved. -/
def Settled (mentioned : Reference → Prop) (world : World) (scope : Scope) (name : String) : Prop :=
  ∃ target hint, Shares mentioned target ∧ target.scope = scope ∧ target.name = name ∧
    world.referent? target = some hint

/-- Worlds that differ, as far as checks go, at most in which of the references that share a name
have been resolved. -/
structure Concurs (mentioned : Reference → Prop) (world world' : World) : Prop where
  bindings : ∀ scope name, world.binding? scope name = world'.binding? scope name
  draws : ∀ source, world.draws source = world'.draws source
  alone : ∀ target, ¬ Shares mentioned target → world.referent? target = world'.referent? target
  settled : ∀ scope name, world.Settled mentioned scope name ↔ world'.Settled mentioned scope name
  current : world.Current mentioned
  current' : world'.Current mentioned

theorem Concurs.refl (current : world.Current mentioned) : world.Concurs mentioned world :=
  ⟨fun _ _ => rfl, fun _ => rfl, fun _ _ => rfl, fun _ _ => Iff.rfl, current, current⟩

theorem Concurs.symm (concurs : world.Concurs mentioned world') : world'.Concurs mentioned world :=
  ⟨fun scope name => (concurs.bindings scope name).symm, fun source => (concurs.draws source).symm,
    fun target lone => (concurs.alone target lone).symm,
    fun scope name => (concurs.settled scope name).symm, concurs.current', concurs.current⟩

theorem Concurs.trans {world'' : World} (first : world.Concurs mentioned world')
    (second : world'.Concurs mentioned world'') : world.Concurs mentioned world'' :=
  ⟨fun scope name => (first.bindings scope name).trans (second.bindings scope name),
    fun source => (first.draws source).trans (second.draws source),
    fun target lone => (first.alone target lone).trans (second.alone target lone),
    fun scope name => (first.settled scope name).trans (second.settled scope name), first.current,
    second.current'⟩

/-- What is neither bound nor resolved nor drawn does not matter. -/
theorem Concurs.of_eq (concurs : world.Concurs mentioned world')
    (scopes : later.scopes = world.scopes) (resolved : later.resolved = world.resolved)
    (drawn : later.drawn = world.drawn) (scopes' : later'.scopes = world'.scopes)
    (resolved' : later'.resolved = world'.resolved) (drawn' : later'.drawn = world'.drawn) :
    later.Concurs mentioned later' := by
  obtain ⟨_, _, _, _, _, _⟩ := world
  obtain ⟨_, _, _, _, _, _⟩ := world'
  obtain ⟨_, _, _, _, _, _⟩ := later
  obtain ⟨_, _, _, _, _, _⟩ := later'
  cases scopes
  cases resolved
  cases drawn
  cases scopes'
  cases resolved'
  cases drawn'
  exact ⟨concurs.bindings, concurs.draws, concurs.alone, concurs.settled, concurs.current,
    concurs.current'⟩

theorem Concurs.idle (concurs : world.Concurs mentioned world') (idle : world.Idle later)
    (idle' : world'.Idle later') : later.Concurs mentioned later' := by
  obtain ⟨_, _, rfl⟩ := idle
  obtain ⟨_, _, rfl⟩ := idle'
  exact concurs.of_eq rfl rfl rfl rfl rfl rfl

/-! ### Resolving -/

/-- What resolving a reference changes. -/
structure Consulted (target : Reference) (world later : World) : Prop where
  bindings : ∀ scope name, later.binding? scope name = world.binding? scope name
  draws : ∀ source, later.draws source = world.draws source
  self : later.referent? target = world.denotes target
  other : ∀ other, other ≠ target → later.referent? other = world.referent? other

theorem consulted_resolve (target : Reference) (world : World) :
    ∃ later, (resolve target).run.run world =
        (match world.denotes target with
          | some hint => .ok hint
          | none => .error (.unresolved target.name target.scope.name), later) ∧
      Consulted target world later := by
  cases found : world.referent? target with
  | some hint =>
    have denoted : world.denotes target = some hint := by rw [denotes, found, Option.some_or]
    refine ⟨world, ?_, fun _ _ => rfl, fun _ => rfl, found.trans denoted.symm, fun _ _ => rfl⟩
    rw [denoted]
    exact resolve_known found
  | none =>
    have denoted : world.denotes target = world.binding? target.scope target.name := by
      rw [denotes, found, Option.none_or]
    cases bound : world.binding? target.scope target.name with
    | none =>
      refine ⟨_, ?_, fun _ _ => binding?_consulted world target _ _, fun _ => rfl, ?_,
        fun _ _ => rfl⟩
      · rw [denoted, bound]
        exact resolve_unbound found bound
      · exact found.trans (denoted.trans bound).symm
    | some hint =>
      refine ⟨{ world.consulted target with resolved := world.resolved.set target hint }, ?_,
        fun _ _ => binding?_consulted world target _ _, fun _ => rfl, ?_,
        fun other differ => Table.get?_set_other _ _ differ⟩
      · rw [denoted, bound]
        exact resolve_bound found bound
      · exact (Table.get?_set_self _ _ _).trans (denoted.trans bound).symm

/-- As long as all is current, a reference that shares its name stands for what the name is bound
to. -/
theorem Current.denotes_eq (current : world.Current mentioned) {target : Reference}
    (shares : Shares mentioned target) :
    world.denotes target = world.binding? target.scope target.name := by
  rw [denotes]
  cases found : world.referent? target with
  | none => rfl
  | some hint => rw [current target shares hint found, Option.some_or]

namespace Consulted

variable {target : Reference}

theorem current (consulted : Consulted target world later) (current : world.Current mentioned) :
    later.Current mentioned := by
  intro other shares hint found
  rw [consulted.bindings]
  by_cases same : other = target
  · subst same
    rw [← current.denotes_eq shares, ← consulted.self, found]
  · rw [consulted.other other same] at found
    exact current other shares hint found

theorem settled_iff (consulted : Consulted target world later) (scope : Scope) (name : String) :
    later.Settled mentioned scope name ↔ world.Settled mentioned scope name ∨
      Shares mentioned target ∧ target.scope = scope ∧ target.name = name ∧
        (world.denotes target).isSome = true := by
  constructor
  · rintro ⟨other, hint, shares, rfl, rfl, found⟩
    by_cases same : other = target
    · subst same
      rw [consulted.self] at found
      exact .inr ⟨shares, rfl, rfl, by rw [found]; rfl⟩
    · rw [consulted.other other same] at found
      exact .inl ⟨other, hint, shares, rfl, rfl, found⟩
  · rintro (⟨other, hint, shares, rfl, rfl, found⟩ | ⟨shares, rfl, rfl, denoted⟩)
    · by_cases same : other = target
      · subst same
        refine ⟨other, hint, shares, rfl, rfl, ?_⟩
        rw [consulted.self, denotes, found, Option.some_or]
      · exact ⟨other, hint, shares, rfl, rfl, (consulted.other other same).trans found⟩
    · obtain ⟨hint, denoted⟩ := Option.isSome_iff_exists.mp denoted
      exact ⟨target, hint, shares, rfl, rfl, consulted.self.trans denoted⟩

end Consulted

/-- References with one name in one scope are resolved alike if they are the same or both
mentioned. -/
theorem resolve_corresponds {target target' : Reference} (names : target.name = target'.name)
    (scopes : target.scope = target'.scope)
    (known : target = target' ∨ mentioned target ∧ mentioned target') :
    Corresponds (Concurs mentioned) (resolve target) (resolve target') := by
  intro world world' concurs
  -- Either both share their name, or they are one and the same.
  have either : target = target' ∧ ¬ Shares mentioned target ∨
      Shares mentioned target ∧ Shares mentioned target' := by
    by_cases same : target = target'
    · subst same
      by_cases shares : Shares mentioned target
      · exact .inr ⟨shares, shares⟩
      · exact .inl ⟨rfl, shares⟩
    · obtain ⟨here, there⟩ := known.resolve_left same
      exact .inr ⟨⟨here, target', there, Ne.symm same, names.symm, scopes.symm⟩,
        there, target, here, same, names, scopes⟩
  have denoted : world.denotes target = world'.denotes target' := by
    rcases either with ⟨rfl, lone⟩ | ⟨shares, shares'⟩
    · rw [denotes, denotes, concurs.alone target lone, concurs.bindings]
    · rw [concurs.current.denotes_eq shares, concurs.current'.denotes_eq shares',
        concurs.bindings, names, scopes]
  obtain ⟨later, run, consulted⟩ := consulted_resolve target world
  obtain ⟨later', run', consulted'⟩ := consulted_resolve target' world'
  rw [run, run', denoted, names, scopes]
  refine ⟨rfl, ?_, ?_, ?_, ?_, consulted.current concurs.current,
    consulted'.current concurs.current'⟩
  · intro scope name
    rw [consulted.bindings, consulted'.bindings, concurs.bindings]
  · intro source
    rw [consulted.draws, consulted'.draws, concurs.draws]
  · intro other lone
    rcases either with ⟨rfl, _⟩ | ⟨shares, shares'⟩
    · by_cases same : other = target
      · rw [same, consulted.self, consulted'.self, denoted]
      · rw [consulted.other other same, consulted'.other other same, concurs.alone other lone]
    · have differ : other ≠ target := fun same => lone (same ▸ shares)
      have differ' : other ≠ target' := fun same => lone (same ▸ shares')
      rw [consulted.other other differ, consulted'.other other differ', concurs.alone other lone]
  · intro scope name
    have agree : Shares mentioned target ↔ Shares mentioned target' := by
      rcases either with ⟨rfl, -⟩ | ⟨shares, shares'⟩
      · exact Iff.rfl
      · exact iff_of_true shares shares'
    rw [consulted.settled_iff, consulted'.settled_iff, concurs.settled, agree, scopes, names,
      denoted]

theorem ask_corresponds (protocol : Protocol) (c : Class) :
    Corresponds (Concurs mentioned) (ask protocol c) (ask protocol c) := by
  intro world world' concurs
  have asked (world : World) : ∃ asked, ((ask protocol c).run.run world).2 =
      { world with asked := asked } := by
    show ∃ asked, (if world.asked.contains (protocol, c) then world else _) = _
    split
    · exact ⟨world.asked, rfl⟩
    · exact ⟨_, rfl⟩
  obtain ⟨_, after⟩ := asked world
  obtain ⟨_, after'⟩ := asked world'
  rw [after, after']
  exact ⟨rfl, concurs.of_eq rfl rfl rfl rfl rfl rfl⟩

theorem draw_corresponds (source : IndexSource) :
    Corresponds (Concurs mentioned) (draw source) (draw source) := by
  intro world world' concurs
  have drawn (world : World) (other : IndexSource) : ((draw source).run.run world).2.draws other =
      if other.serial = source.serial then world.draws source + 1 else world.draws other := by
    show ((world.drawn.set source.serial _).get? other.serial).getD 0 = _
    split
    · rename_i same
      rw [same, Table.get?_set_self]
      rfl
    · rename_i differ
      rw [Table.get?_set_other _ _ differ]
      rfl
  refine ⟨?_, concurs.bindings, fun other => ?_, concurs.alone, concurs.settled, concurs.current,
    concurs.current'⟩
  · show Except.ok (source.rule.draw (world.draws source)) =
      Except.ok (source.rule.draw (world'.draws source))
    rw [concurs.draws]
  · rw [drawn, drawn, concurs.draws, concurs.draws]

theorem similarity_concurs : Similarity (Concurs mentioned) where
  symm := Concurs.symm
  trans := Concurs.trans
  note _ _ _ _ _ concurs := ⟨rfl, concurs.of_eq rfl rfl rfl rfl rfl rfl⟩
  ask := ask_corresponds
  draw := draw_corresponds
  resolve _ := resolve_corresponds rfl rfl (.inl rfl)

/-! ### Definitions -/

theorem binding?_define (world : World) (scope other : Scope) (name name' : String) (hint : Hint) :
    (world.define scope name hint).binding? other name' =
      if other.serial = scope.serial ∧ name' = name then some hint
      else world.binding? other name' := by
  by_cases here : other.serial = scope.serial
  · have same : (world.define scope name hint).binding? other name' =
        (world.define scope name hint).binding? scope name' := by
      rw [binding?, binding?, bindings, bindings, here]
    have same' : world.binding? other name' = world.binding? scope name' := by
      rw [binding?, binding?, bindings, bindings, here]
    rw [same, same']
    by_cases named : name' = name
    · rw [named, binding?_define_self, if_pos ⟨here, rfl⟩]
    · have kept : (fun entry : String × Hint => entry.1 != name) =
          fun entry => decide (entry.1 ≠ name) := by
        funext entry
        simp [bne, beq_eq_decide]
      rw [if_neg fun both => named both.2, binding?, bindings, define, Table.get?_set_self]
      show List.lookup name' ((name, hint) :: _) = _
      rw [List.lookup_cons, beq_false_of_ne named, kept]
      exact Registry.lookup_filter_ne named
  · rw [binding?, bindings_define_other _ _ _ _ _ here, if_neg fun both => here both.1]
    rfl

/-- A definition that leaves the one world current leaves the other one so, and they still
concur. -/
theorem Concurs.define (concurs : world.Concurs mentioned world') {scope : Scope} {name : String}
    {hint : Hint} (current : (world.define scope name hint).Current mentioned) :
    (world.define scope name hint).Concurs mentioned (world'.define scope name hint) := by
  have bindings (other : Scope) (name' : String) :
      (world.define scope name hint).binding? other name' =
        (world'.define scope name hint).binding? other name' := by
    rw [binding?_define, binding?_define, concurs.bindings]
  refine ⟨bindings, concurs.draws, concurs.alone, concurs.settled, current, ?_⟩
  intro target shares known found
  -- Another reference with the name has been resolved in the first world, to the same hint.
  have old : world'.binding? target.scope target.name = some known :=
    concurs.current' target shares known found
  obtain ⟨other, known', shares', scopes, names, found'⟩ :=
    (concurs.settled _ _).mpr ⟨target, known, shares, rfl, rfl, found⟩
  have old' : world.binding? other.scope other.name = some known' :=
    concurs.current other shares' known' found'
  have new := current other shares' known' found'
  rw [scopes, names] at old' new
  rw [concurs.bindings, old] at old'
  cases old'
  rw [← bindings, new]

end World

end CallGuard
