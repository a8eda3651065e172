/-
Registries keep finished fragments and guarded functions, so that the same hint
or function is not worked on twice. Fragments are filed under the imprint of
their hint, the settings that matter to checks and the level of their text, and
a fragment is only handed out for a hint that is the same. Guarded functions
are filed under the body, the qualified name, the parameters and the result hint
of the function inside and under the settings; what else is known about the
function plays no part.
-/
import CallGuard.Function

namespace CallGuard

/-- Where a fragment is filed. -/
structure FragmentKey where
  hint : List Hint.Mark
  settings : Bool × Sampling × Bool
  level : Nat
  deriving DecidableEq

/-- Where a guarded function is filed. -/
structure GuardKey where
  function : List Hint.Mark
  settings : (Bool × Sampling × Bool) × Bool × IndexSource
  deriving DecidableEq

/-- The key of the fragment for a hint. -/
def FragmentKey.of (settings : Settings) (hint : Hint) (level : Nat) : FragmentKey :=
  ⟨hint.imprint, settings.checkImprint, level⟩

/-- The imprint of a hint that may be missing. -/
def Hint.optionalImprint : Option Hint → List Hint.Mark
  | none => [.flag false]
  | some hint => .flag true :: hint.imprint

/-- The imprint of a parameter. -/
def Parameter.imprint (parameter : Parameter) : List Hint.Mark :=
  .name parameter.name :: .variant parameter.kind.rank :: Hint.optionalImprint parameter.hint

/-- The key of the guarded function around a function. -/
def GuardKey.of (settings : Settings) (function : Function) : GuardKey :=
  let signature := function.signature
  ⟨.identity function.identity :: .name signature.qualname ::
      signature.parameters.flatMap Parameter.imprint ++ Hint.optionalImprint signature.returns,
    settings.imprint⟩

/-- Finished work. -/
structure Registry where
  guards : List (GuardKey × Function)
  fragments : List (FragmentKey × Hint × Fragment)

namespace Registry

def empty : Registry := ⟨[], []⟩

/-- The fragment filed under a key, if it was made for the same hint. -/
def fragment? (registry : Registry) (key : FragmentKey) (hint : Hint) : Option Fragment :=
  (registry.fragments.lookup key).bind fun entry => if entry.1 == hint then some entry.2 else none

/-- The guarded function filed under a key. -/
def guarded? (registry : Registry) (key : GuardKey) : Option Function := registry.guards.lookup key

/-- Files an entry in place of an earlier one under the same key. -/
def file {Key Entry : Type} [DecidableEq Key] (key : Key) (entry : Entry)
    (entries : List (Key × Entry)) : List (Key × Entry) :=
  (key, entry) :: entries.filter fun filed => decide (filed.1 ≠ key)

def fileFragment (registry : Registry) (key : FragmentKey) (hint : Hint) (fragment : Fragment) :
    Registry :=
  { registry with fragments := file key (hint, fragment) registry.fragments }

def fileGuarded (registry : Registry) (key : GuardKey) (function : Function) : Registry :=
  { registry with guards := file key function registry.guards }

/-- A summary of a registry. -/
def summary (registry : Registry) : String :=
  "Registry \x7b wrappers: " ++ toString registry.guards.length ++ ", fragments: " ++
    toString registry.fragments.length ++ " \x7d"

end Registry

/-! ### Working with a registry -/

/-- A registry and the world around it. -/
structure Workshop where
  registry : Registry
  world : World

/-- A step that uses a registry and may fail; what it did before failing stands. -/
abbrev Making (Result : Type) := ExceptT Failure (StateM Workshop) Result

namespace Making

/-- A step that leaves the registry alone. -/
def ofAction {Result : Type} (action : Action Result) : Making Result :=
  ExceptT.mk fun workshop =>
    let (result, world) := action.run.run workshop.world
    (result, { workshop with world := world })

/-- A result that may be a failure. -/
def ofExcept {Result : Type} (result : Except Failure Result) : Making Result :=
  ExceptT.mk (pure result)

end Making

end CallGuard
