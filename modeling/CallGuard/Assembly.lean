/-
Putting a guard together. The fragments of the checked parameters and of the
result are taken from the registry or made; their texts, each with names of its
own, become the source of the guard, and their checks its plan.
-/
import CallGuard.Registry
import CallGuard.Source.Verify

namespace CallGuard

/-! ### Fragments -/

/-- The fragment for a hint, from the registry if it is there. The label says what the hint is
for. -/
def Settings.fragment (settings : Settings) (label : String) (hint : Hint) (level : Nat) :
    Making Fragment := do
  let key := FragmentKey.of settings hint level
  match (← get).registry.fragment? key hint with
  | some fragment =>
    Making.ofAction (Action.note .debug "synth" ("fragment cache hit for " ++ hint.text))
    return fragment
  | none =>
    Making.ofAction (Action.note .debug "synth" ("fragment cache miss for " ++ hint.text))
    Making.ofAction <| hint.remarks.forM fun
      | .cut inner => Action.note .debug "synth" (inner.text ++ " nests deeper than " ++
          toString maxDepth ++ " levels; checking its origin only")
      | _ => pure ()
    match settings.check hint with
    | .error refusal => throw (refusal.failure label hint)
    | .ok check =>
      let fragment : Fragment := ⟨check, level, settings.warnings hint⟩
      modify fun workshop =>
        { workshop with registry := workshop.registry.fileFragment key hint fragment }
      return fragment

/-! ### Assemblies -/

/-- The parts of a guard before they are verified. -/
structure Assembly where
  source : String
  plan : Plan
  requires : List String
  warnings : List Warning

/-- What has been put together so far: text, names bound, names looked up, warnings and checks. -/
structure Draft where
  text : String
  locals : Nat
  needsRandom : Bool
  countsArguments : Bool
  requires : List String
  warnings : List Warning
  checks : List ParameterCheck

namespace Draft

def empty : Draft := ⟨"", 0, false, false, [], [], []⟩

/-- Adds text. -/
def write (draft : Draft) (text : String) : Draft := { draft with text := draft.text ++ text }

/-- Adds the test of the value with the given name. -/
def addTest (draft : Draft) (fragment : Fragment) (name : String) : Draft :=
  { draft with
    text := draft.text ++ Source.test fragment draft.locals (Text.quotedWithoutBraces name)
    locals := draft.locals + fragment.locals
    needsRandom := draft.needsRandom || fragment.check.needsRandom
    requires := draft.requires ++ fragment.check.lookups
    warnings := draft.warnings ++ fragment.warnings }

/-- Adds the test of a parameter. -/
def addParameter (draft : Draft) (binding : String) (check : ParameterCheck) : Draft :=
  let bound := draft.write (Source.fill binding
    [("arg_index", toString check.index), ("arg_name", Text.quotedWithoutBraces check.name)])
  let tested := bound.addTest check.fragment check.name
  { tested with
    countsArguments := draft.countsArguments || check.kind.takesPosition
    checks := draft.checks ++ [check] }

end Draft

/-- Adds the tests of parameters, the first of which has the given position. -/
def Settings.draftParameters (settings : Settings) : Nat → List Parameter → Draft → Making Draft
  | _, [], draft => return draft
  | position, parameter :: rest, draft => do
    let next := if parameter.kind.takesPosition then position + 1 else position
    match parameter.hint.bind Hint.checkable, Source.bindArgument parameter.kind with
    | some hint, some binding =>
      let fragment ← settings.fragment ("parameter " ++ parameter.name ++ ":") hint Source.rootLevel
      settings.draftParameters next rest
        (draft.addParameter binding ⟨parameter.name, parameter.kind, position, hint, fragment⟩)
    | _, _ => settings.draftParameters next rest draft

/-- Adds the end of the source, and says what happens to the result. -/
def Settings.draftResult (settings : Settings) (returns : Option Hint) (draft : Draft) :
    Making (Draft × ResultCheck) :=
  match returns with
  | some .never => return (draft.write Source.neverReturn, .never)
  | returns =>
    match returns.bind Hint.checkable with
    | none => return (draft.write Source.returnUntested, .unchecked)
    | some hint => do
      let fragment ← settings.fragment "return:" hint Source.rootLevel
      let tested := (draft.write Source.callBeforeTest).addTest fragment Guard.resultName
      return (tested.write Source.returnTested, .checked hint fragment)

/-- The parts of a guard for functions with the given signature. -/
def Settings.assemble (settings : Settings) (signature : Signature) : Making Assembly := do
  Making.ofExcept signature.validate
  let draft ← settings.draftParameters 0 signature.parameters .empty
  let (draft, result) ← settings.draftResult signature.returns draft
  draft.warnings.forM fun warning => Making.ofAction <|
    Action.note .warn "assemble" (signature.qualname ++ "(): " ++ warning.text)
  return {
    source := Source.fill Source.head [("func_name", signature.name)] ++
      (if draft.countsArguments then Source.countArguments else "") ++
      (if draft.needsRandom then Source.drawRandom else "") ++ draft.text ++ "\n"
    plan := ⟨draft.checks, result, draft.needsRandom⟩
    requires := draft.requires.eraseDups.mergeSort fun left right => decide (left ≤ right)
    warnings := draft.warnings }

/-! ### Guarding functions -/

/-- Adds a named hint, in place of an earlier one with the same name. -/
def putHint (name : String) (hint : Hint) : List (String × Hint) → List (String × Hint)
  | [] => [(name, hint)]
  | (name', hint') :: rest =>
    if name' = name then (name', hint) :: rest else (name', hint') :: putHint name hint rest

/-- The checked hints by the names of their parameters. -/
def Plan.hints (plan : Plan) : List (String × Hint) :=
  let parameters := plan.parameters.map fun check => (check.name, check.hint)
  match plan.result with
  | .unchecked => parameters
  | .never => putHint Guard.resultName .never parameters
  | .checked hint _ => putHint Guard.resultName hint parameters

/-- The function guarded by an assembly. -/
def Assembly.guard (assembly : Assembly) (settings : Settings) (function : Function) :
    Making Function := do
  Making.ofExcept (Source.verify assembly.source assembly.requires)
  let kept {Kept : Type} (value : Kept) : Option Kept :=
    if settings.keepsSource then some value else none
  if settings.keepsSource then
    Making.ofAction <| Action.note .debug "compile"
      ("compiled wrapper for " ++ function.signature.qualname ++ "():\n" ++ assembly.source)
  return .guarded function.signature (← Making.ofAction Action.fresh)
    ⟨assembly.plan, settings, kept assembly.source, kept assembly.plan.hints, assembly.warnings⟩
    function

/-- Guards a function. A function already guarded under the same settings stays as it is, one
guarded under others is guarded anew, and one with nothing to check is left alone. -/
def Settings.decorate (settings : Settings) : Function → Making Function
  | .guarded signature identity guard inner =>
    if guard.settings.imprint = settings.imprint then do
      Making.ofAction <| Action.note .debug "decor"
        (signature.qualname ++ "() already decorated under this configuration")
      return .guarded signature identity guard inner
    else settings.decorate inner
  | .plain signature identity body => do
    let function := Function.plain signature identity body
    let note (text : String) : Making Unit := Making.ofAction (Action.note .debug "decor" text)
    if signature.needsChecking then
      let key := GuardKey.of settings function
      match (← get).registry.guarded? key with
      | some known =>
        note ("wrapper cache hit for " ++ signature.qualname ++ "()")
        return known
      | none =>
        note ("wrapper cache miss for " ++ signature.qualname ++ "()")
        let assembly ← settings.assemble signature
        let made ← assembly.guard settings function
        modify fun workshop => { workshop with registry := workshop.registry.fileGuarded key made }
        return made
    else
      note (signature.qualname ++ "() has no checkable hints; leaving it undecorated")
      return function

end CallGuard
