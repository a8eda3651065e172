/-
The command line. One task checks a value against a hint, another one shows the
source of the guard for a signature. What a run prints is a function of its
arguments, of the configuration file if one is named, and of the rule that
integers are drawn by if no seed is given.
-/
import CallGuard.Assembly
import CallGuard.Command.Option
import CallGuard.Hint.Reading
import CallGuard.Settings.Reading
import CallGuard.Value.Reading

namespace CallGuard.Command

/-! ### Arguments -/

/-- What is to be done. -/
inductive Task where
  | check (hint value format : String)
  | source (name : String) (parameters : List String) (returns : Option String)

/-- A command line that makes sense. -/
structure Invocation where
  /-- Journal entries up to this level are shown. -/
  level : Level
  /-- The path of the configuration file. -/
  configuration : Option String
  seed : Option UInt64
  task : Task

/-- The level with the given name in either case. Other names mean warnings. -/
def levelOf (name : String) : Level :=
  let name := name.map Char.toLower
  if name = "trace" then .trace
  else if name = "debug" then .debug
  else if name = "info" then .info
  else if name = "error" then .error
  else .warn

/-- The task with the given name and arguments. -/
def task? (name : String) (arguments : List String) : Option Task :=
  if name = "check" then do
    let (given, rest) ← options? [⟨"hint", none⟩, ⟨"value", none⟩, ⟨"format", some 'f'⟩] arguments
    if !rest.isEmpty then none
    else
      let hint ← (← single? given "hint")
      let value ← (← single? given "value")
      let format ← single? given "format"
      some (.check hint value (format.getD "text"))
  else if name = "source" then do
    let (given, rest) ← options? [⟨"name", none⟩, ⟨"param", none⟩, ⟨"returns", none⟩] arguments
    if !rest.isEmpty then none
    else
      let name ← single? given "name"
      let returns ← single? given "returns"
      some (.source (name.getD "func") (values given "param") returns)
  else none

/-- What a command line asks for; nothing if it makes no sense. -/
def invocation? (arguments : List String) : Option Invocation := do
  let (given, rest) ←
    options? [⟨"log-level", some 'l'⟩, ⟨"config", some 'c'⟩, ⟨"seed", none⟩] arguments
  let level ← single? given "log-level"
  let configuration ← single? given "config"
  let seed ← match ← single? given "seed" with
    | none => some none
    | some text => (seed? text).map some
  match rest with
  | name :: arguments =>
    if configuration = some "" then none
    else some ⟨levelOf (level.getD "warn"), configuration, seed, ← task? name arguments⟩
  | [] => none

/-! ### Sessions -/

/-- Why a run fails. -/
inductive Problem where
  | unreadableFile (path : String)
  | badConfiguration (path : String)
  | badValue (text : String)
  | badParameter (entry : String)
  | nothingToCheck (name : String)
  | failure (cause : Failure)

def Problem.message : Problem → String
  | unreadableFile path => "failed to read config " ++ Text.spelled path
  | badConfiguration path => "failed to parse config " ++ Text.spelled path
  | badValue text => "invalid JSON value " ++ Text.spelled text
  | badParameter entry => "expected name:hint, got " ++ Text.spelled entry
  | nothingToCheck name => name ++ "() has no checkable hints"
  | failure cause => cause.message

/-- A run so far: what has been made, what has been told about it, and how many journal entries are
part of that. -/
structure Session where
  workshop : Workshop
  diagnostics : String
  told : Nat

/-- A part of a run. -/
abbrev Step (Result : Type) := ExceptT Problem (StateM Session) Result

/-- A journal entry as it is shown. The lines after the first are indented. -/
def shownEntry (entry : Entry) : String :=
  let label := match entry.level with
    | .error => "ERROR"
    | .warn => "WARN "
    | .info => "INFO "
    | .debug => "DEBUG"
    | .trace => "TRACE"
  "[" ++ label ++ " hintcheck::" ++ entry.topic ++ "] " ++
    Text.replaceAll "\n" "\n    " entry.message ++ "\n"

namespace Session

/-- A run with the journal told up to now, as far as the level allows. -/
def caughtUp (session : Session) (level : Level) : Session :=
  let journal := session.workshop.world.journal
  let news := (journal.take (journal.length - session.told)).reverse
  let shown := news.filter fun entry => entry.level.rank ≤ level.rank
  { session with
    diagnostics := session.diagnostics ++ String.join (shown.map shownEntry)
    told := journal.length }

/-- A run with one more line told. -/
def say (session : Session) (line : String) : Session :=
  { session with diagnostics := session.diagnostics ++ line ++ "\n" }

end Session

namespace Step

/-- A step of guarding as part of a run. -/
def ofMaking {Result : Type} (making : Making Result) : Step Result :=
  ExceptT.mk fun session =>
    let (result, workshop) := making.run.run session.workshop
    (result.mapError .failure, { session with workshop })

/-- An action as part of a run. -/
def ofAction {Result : Type} (action : Action Result) : Step Result :=
  ofMaking (Making.ofAction action)

/-- An action whose failure is looked at by what follows. -/
def attempt {Result : Type} (action : Action Result) : Step (Except Failure Result) :=
  ofAction (ExceptT.mk (do return .ok (← action.run)))

end Step

/-! ### Tasks -/

/-- The settings of a run, given the contents of the configuration file if it could be read. -/
def settings (invocation : Invocation) (contents : Option String) (rule : DrawRule) :
    Step Settings := do
  let standard := Settings.standard ⟨← Step.ofAction Action.fresh, rule⟩
  let given ← match invocation.configuration with
    | none => pure standard
    | some path =>
      match contents with
      | none => throw (.unreadableFile path)
      | some text =>
        match standard.read? text with
        | none => throw (.badConfiguration path)
        | some settings => pure settings
  match invocation.seed with
  | none => pure given
  | some seed =>
    pure { given with source := ⟨← Step.ofAction Action.fresh, .seeded seed⟩ }

/-- A violation as a document. -/
def violationText (violation : Violation) : String :=
  let kind := match violation.site with
    | .parameter => "param"
    | .result => "return"
  let member (name text : String) : String :=
    "  " ++ Document.quoted name ++ ": " ++ Document.quoted text ++ ",\n"
  let culprit (value : Value) : String :=
    "    \x7b\n      " ++ Document.quoted "repr" ++ ": " ++ Document.quoted value.shown ++
      "\n    \x7d"
  "\x7b\n" ++ member "kind" kind ++ member "func" violation.function ++
    member "pith_name" violation.name ++ member "pith_repr" violation.value.shown ++
    member "hint" violation.hint ++ member "cause" violation.cause ++ "  " ++
    Document.quoted "culprits" ++ ": [\n" ++
    ",\n".intercalate (violation.culprits.map culprit) ++ "\n  ]\n\x7d"

/-- The scope that texts on the command line are read in. -/
def mainScope : Step Scope := do return ⟨← Step.ofAction Action.fresh, "__main__"⟩

/-- A function that hands its argument back, with one parameter. -/
def identityFunction (scope : Scope) (hint : Hint) : Step Function := do
  pure (.plain ⟨"check", "check", none, scope, [⟨"value", .positionalOrKeyword, some hint⟩], none⟩
    (← Step.ofAction Action.fresh)
    fun arguments => pure ((arguments.get? 0 "value").getD .null))

/-- Checks a value against a hint: what is printed, and whether the value fits. -/
def check (level : Level) (settings : Settings) (hint value format : String) :
    Step (String × Bool) := do
  let scope ← mainScope
  let hint ← Step.ofAction (Hint.read scope hint)
  match Document.read? value with
  | none => throw (.badValue value)
  | some document =>
    let function ← identityFunction scope hint
    let guarded ← Step.ofMaking (settings.decorate function)
    modify fun session => session.caughtUp level
    match guarded.guard? with
    | none => pure ()
    | some guard =>
      guard.warnings.forM fun warning =>
        modify fun session => session.say ("warning: " ++ warning.text)
    let value ← Step.ofAction (Value.ofDocument document)
    match ← Step.attempt (guarded.call ⟨[value], []⟩) with
    | .ok _ => return (if format = "json" then "\x7b\"ok\":true\x7d\n" else "ok\n", true)
    | .error (.violation violation) =>
      return ((if format = "json" then violationText violation else violation.message) ++ "\n",
        false)
    | .error failure => throw (.failure failure)

/-- The parameter that an entry describes: a name, a colon and a hint. -/
def parameterOf (scope : Scope) (entry : String) : Step Parameter := do
  let chars := entry.toList
  match chars.dropWhile (· ≠ ':') with
  | [] => throw (.badParameter entry)
  | _ :: hint =>
    let hint ← Step.ofAction (Hint.read scope (String.ofList hint))
    let name := Text.trimBlanks (String.ofList (chars.takeWhile (· ≠ ':')))
    pure ⟨name, .positionalOrKeyword, some hint⟩

/-- The source of the guard for a signature. -/
def source (settings : Settings) (name : String) (parameters : List String)
    (returns : Option String) : Step String := do
  let scope ← mainScope
  let parameters ← parameters.mapM (parameterOf scope)
  let returns ← match returns with
    | none => pure none
    | some text => do pure (some (← Step.ofAction (Hint.read scope text)))
  let function := Function.plain ⟨name, name, none, scope, parameters, returns⟩
    (← Step.ofAction Action.fresh) fun _ => pure .null
  let guarded ← Step.ofMaking ({ settings with keepsSource := true }.decorate function)
  match guarded.guard?.bind Guard.source with
  | some source => pure source
  | none => throw (.nothingToCheck name)

/-- What a run ends with. -/
structure Outcome where
  exit : UInt32
  output : String
  diagnostics : String

namespace Invocation

/-- The work of a run: what is printed, and whether all is well. -/
def work (invocation : Invocation) (contents : Option String) (rule : DrawRule) :
    Step (String × Bool) := do
  let settings ← settings invocation contents rule
  match invocation.task with
  | .check hint value format => check invocation.level settings hint value format
  | .source name parameters returns => return (← source settings name parameters returns, true)

/-- A run, given the contents of the configuration file if it could be read. -/
def run (invocation : Invocation) (contents : Option String) (rule : DrawRule) : Outcome :=
  let start : Session := ⟨⟨.empty, World.initial⟩, "", 0⟩
  let (result, session) := (invocation.work contents rule).run.run start
  let session := session.caughtUp invocation.level
  match result with
  | .ok (output, fits) => ⟨if fits then 0 else 1, output, session.diagnostics⟩
  | .error problem => ⟨1, "", (session.say ("Error: " ++ problem.message)).diagnostics⟩

end Invocation

/-- The exit code for a command line that makes no sense. -/
def usageExit : UInt32 := 2

/-- How the command line is used. -/
def usage : String :=
  "Usage: hintcheck [-l LEVEL] [-c FILE] [--seed N] check --hint HINT --value JSON [-f FORMAT]\n" ++
  "       hintcheck [-l LEVEL] [-c FILE] [--seed N] source [--name NAME] [--param NAME:HINT]... " ++
  "[--returns HINT]\n"

end CallGuard.Command
