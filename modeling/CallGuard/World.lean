/-
The state that checks read and change: what names are bound to in each scope
and how often they were looked up, what references have been resolved to, which
classes protocols have been asked about, how often each source was drawn from,
and a journal of what happened. Serial numbers are handed out here too.
-/
import CallGuard.Failure
import CallGuard.Settings
import CallGuard.Table

namespace CallGuard

/-! ### The journal -/

/-- How much a journal entry matters, the most important first. -/
inductive Level where
  | error | warn | info | debug | trace
  deriving DecidableEq

def Level.rank : Level → Nat
  | error => 1
  | warn => 2
  | info => 3
  | debug => 4
  | trace => 5

/-- A journal entry: how much it matters, what part of the work it is about, and what happened. -/
structure Entry where
  level : Level
  topic : String
  message : String
  deriving DecidableEq

/-! ### The world -/

/-- What a scope holds: bindings, the newest first, and the number of look-ups so far. -/
structure Bindings where
  names : List (String × Hint)
  lookups : Nat

structure World where
  /-- The next serial number. -/
  next : Nat
  scopes : Table Nat Bindings
  /-- What references have been resolved to. -/
  resolved : Table Reference Hint
  /-- The classes that protocols have been asked about. -/
  asked : List (Protocol × Class)
  /-- How often sources have been drawn from. -/
  drawn : Table Nat Nat
  /-- What happened, the newest first. -/
  journal : List Entry

/-- A world in which nothing has happened. The first serial numbers belong to the built-in classes
and protocols. -/
def World.initial : World :=
  ⟨Class.firstSerial + Protocol.builtins.length, [], [], [], [], []⟩

/-- A step that reads and changes the world and may fail; what it did before failing stands. -/
abbrev Action (Result : Type) := ExceptT Failure (StateM World) Result

namespace World

/-- The bindings of a scope. -/
def bindings (world : World) (scope : Scope) : Bindings :=
  (world.scopes.get? scope.serial).getD ⟨[], 0⟩

/-- What a name is bound to. -/
def binding? (world : World) (scope : Scope) (name : String) : Option Hint :=
  (world.bindings scope).names.lookup name

/-- Binds a name, in place of an earlier binding. -/
def define (world : World) (scope : Scope) (name : String) (hint : Hint) : World :=
  let old := world.bindings scope
  let kept := old.names.filter fun entry => entry.1 != name
  { world with scopes := world.scopes.set scope.serial { old with names := (name, hint) :: kept } }

/-- Counts one more look-up. -/
def countLookup (world : World) (scope : Scope) : World :=
  let old := world.bindings scope
  { world with scopes := world.scopes.set scope.serial { old with lookups := old.lookups + 1 } }

/-- The number of draws from a source so far. -/
def draws (world : World) (source : IndexSource) : Nat := (world.drawn.get? source.serial).getD 0

/-- Whether and to what a reference has been resolved. -/
def referent? (world : World) (reference : Reference) : Option Hint :=
  world.resolved.get? reference

/-! ### Binding facts -/

theorem bindings_define_other (world : World) (scope other : Scope) (name : String) (hint : Hint)
    (differ : other.serial ≠ scope.serial) :
    (world.define scope name hint).bindings other = world.bindings other := by
  simp [define, bindings, differ]

@[simp] theorem binding?_define_self (world : World) (scope : Scope) (name : String)
    (hint : Hint) : (world.define scope name hint).binding? scope name = some hint := by
  simp [binding?, bindings, define]

/-- A definition leaves what is resolved as it is. -/
@[simp] theorem referent?_define (world : World) (scope : Scope) (name : String) (hint : Hint)
    (reference : Reference) :
    (world.define scope name hint).referent? reference = world.referent? reference := rfl

/-- Looking up changes no binding. -/
@[simp] theorem binding?_countLookup (world : World) (scope other : Scope) (name : String) :
    (world.countLookup scope).binding? other name = world.binding? other name := by
  by_cases same : other.serial = scope.serial
  · simp [binding?, bindings, countLookup, same]
  · simp [binding?, bindings, countLookup, same]

end World

/-! ### Actions -/

namespace Action

/-- A fresh serial number. -/
def fresh : Action Nat :=
  modifyGet fun world => (world.next, { world with next := world.next + 1 })

/-- Writes a journal entry. -/
def note (level : Level) (topic message : String) : Action Unit :=
  modify fun world => { world with journal := ⟨level, topic, message⟩ :: world.journal }

/-- Binds a name in a scope. -/
def define (scope : Scope) (name : String) (hint : Hint) : Action Unit :=
  modify fun world => world.define scope name hint

/-- Looks a name up, which counts. -/
def lookup (scope : Scope) (name : String) : Action (Option Hint) :=
  modifyGet fun world => (world.binding? scope name, world.countLookup scope)

/-- Asks whether a class satisfies a protocol, which is remembered. -/
def ask (protocol : Protocol) (c : Class) : Action Bool :=
  modifyGet fun world =>
    (protocol.isSatisfiedBy c,
      if world.asked.contains (protocol, c) then world
      else { world with asked := (protocol, c) :: world.asked })

/-- Draws the next integer of a source. -/
def draw (source : IndexSource) : Action UInt32 :=
  modifyGet fun world =>
    (source.rule.draw (world.draws source),
      { world with drawn := world.drawn.set source.serial (world.draws source + 1) })

/-- The hint a reference stands for. The first successful look-up settles it. -/
def resolve (reference : Reference) : Action Hint := do
  match (← get).referent? reference with
  | some hint => pure hint
  | none =>
    note .trace "hint" ("resolving forward reference " ++ Text.spelled reference.name ++ " in " ++
      Text.spelled reference.scope.name)
    match ← lookup reference.scope reference.name with
    | none => throw (.unresolved reference.name reference.scope.name)
    | some hint =>
      modify fun world => { world with resolved := world.resolved.set reference hint }
      pure hint

end Action

end CallGuard
