/-
The names in a guard. Each test in a guard has names of its own, numbered on from
those of the tests before it. So the loops of a guard bind each name once, every
name is used in the loop that binds it only, and what has to be got ready before
a test is got ready if it is used.
-/
import CallGuard.Proofs.Acceptance
import CallGuard.Proofs.Gaps
import CallGuard.Proofs.Locals
import Mathlib.Algebra.GroupWithZero.Nat
import Mathlib.Algebra.Order.BigOperators.Group.List
import Mathlib.Algebra.Order.Group.Nat

namespace CallGuard

open Source Script List

/-- The check of the fragment can be written with names for all that it binds. -/
structure Fragment.Legible (fragment : Fragment) : Prop where
  standard : fragment.check.Standard
  small : fragment.locals ≤ 2 ^ 64

/-- A test binds the names of its fragment, numbered from the given number on. -/
theorem Fragment.Legible.stating {fragment : Fragment} (legible : fragment.Legible) (offset : Nat)
    (name : String) :
    Stating (range' offset fragment.locals) (readied false fragment.check.needsRandom)
      (test fragment offset (Text.quotedWithoutBraces name)).toList := by
  obtain ⟨opening, opened, scope⟩ := closes_testOpening
  obtain ⟨raising, raised, scope'⟩ := exists_reads_raising fragment.check.needsRandom name
  have phrase : (fragment.check.script tested offset fragment.level).code.Phrase
      (range' offset fragment.check.locals) (fun _ => False)
        (· ∈ readied false fragment.check.needsRandom) :=
    Check.phrase_script legible.standard (fun needed => mem_readied.mpr (.inr ⟨needed, rfl⟩))
      phrase_tested offset fragment.level
  have reads := reads_print (Check.regular_script legible.standard regular_tested offset
    fragment.level)
  rw [← render_script legible.standard legible.small] at reads
  obtain ⟨pending, whole⟩ := reads.append raised fun c found => by cases found; rfl
  have scopes := (scope.mono (fun _ => id) nofun).append (phrase.toScoped.append scope')
  rw [nil_append, append_nil] at scopes
  rw [test, String.toList_append, String.toList_append, List.append_assoc, testClosing_eq]
  refine ⟨fun c found => ?_, _, ⟨pending, opened.append whole⟩, scopes⟩
  rw [testOpening_eq] at found
  cases found
  rfl

/-! ### Drafts -/

/-- What a guard with the draft gets ready. -/
def Draft.ready (draft : Draft) : List (List Char) :=
  readied draft.countsArguments draft.needsRandom

/-- The loops of the draft bind the names that were given out so far, each once, and what is used
before the tests is got ready. -/
def Draft.Fresh (draft : Draft) : Prop :=
  Stating (range draft.locals) draft.ready draft.text.toList

theorem range_add (count more : Nat) :
    range (count + more) = range count ++ range' count more := by
  rw [range_eq_range', range_eq_range', ← range'_append_1, Nat.zero_add]

namespace Draft

variable {draft : Draft}

theorem Fresh.write (fresh : draft.Fresh) {text : String} (states : Stating [] [] text.toList) :
    (draft.write text).Fresh := by
  have whole := fresh.append (states.mono (nil_subset draft.ready))
  rw [append_nil, ← String.toList_append] at whole
  exact whole

theorem Fresh.addTest (fresh : draft.Fresh) {fragment : Fragment} (legible : fragment.Legible)
    (name : String) : (draft.addTest fragment name).Fresh := by
  have before : draft.ready ⊆ (draft.addTest fragment name).ready := readied_subset id Bool.or_inl
  have own : readied false fragment.check.needsRandom ⊆ (draft.addTest fragment name).ready :=
    readied_subset nofun Bool.or_inr
  have whole := (fresh.mono before).append ((legible.stating draft.locals name).mono own)
  rw [← range_add, ← String.toList_append] at whole
  exact whole

theorem Fresh.addParameter (fresh : draft.Fresh) {check : ParameterCheck}
    (kind : check.kind ≠ .variadicKeyword) (legible : check.fragment.Legible) :
    (draft.addParameter ((bindArgument check.kind).getD "") check).Fresh := by
  have before : draft.ready ⊆
      (draft.addParameter ((bindArgument check.kind).getD "") check).ready :=
    readied_subset Bool.or_inl Bool.or_inl
  have binding : readied check.kind.takesPosition false ⊆
      (draft.addParameter ((bindArgument check.kind).getD "") check).ready :=
    readied_subset Bool.or_inr nofun
  have own : readied false check.fragment.check.needsRandom ⊆
      (draft.addParameter ((bindArgument check.kind).getD "") check).ready :=
    readied_subset nofun Bool.or_inr
  have whole := ((fresh.mono before).append
    ((stating_bindArgument kind check.index check.name).mono binding)).append
    ((legible.stating draft.locals check.name).mono own)
  rw [append_nil, ← range_add, ← String.toList_append, ← String.toList_append] at whole
  exact whole

theorem Fresh.addParameters (fresh : draft.Fresh) {checks : List ParameterCheck}
    (each : ∀ check ∈ checks, check.kind ≠ .variadicKeyword ∧ check.fragment.Legible) :
    (draft.addParameters checks).Fresh := by
  induction checks generalizing draft with
  | nil => exact fresh
  | cons check rest ih =>
    obtain ⟨head, tail⟩ := forall_mem_cons.mp each
    exact ih (fresh.addParameter head.1 head.2) tail

theorem Fresh.addResult (fresh : draft.Fresh) {result : ResultCheck}
    (legible : ∀ hint fragment, result = .checked hint fragment → fragment.Legible) :
    (draft.addResult result).Fresh := by
  cases result with
  | unchecked => exact fresh.write stating_returnUntested
  | never => exact fresh.write stating_neverReturn
  | checked hint fragment =>
    exact ((fresh.write stating_callBeforeTest).addTest (legible hint fragment rfl) _).write
      stating_returnTested

theorem addParameters_locals (draft : Draft) (checks : List ParameterCheck) :
    (draft.addParameters checks).locals =
      draft.locals + (checks.map fun check => check.fragment.locals).sum := by
  induction checks generalizing draft with
  | nil => rfl
  | cons check rest ih =>
    rw [map_cons, sum_cons, ← Nat.add_assoc]
    exact ih _

end Draft

/-! ### Lines -/

namespace Source

theorem mem_linesFrom {row : List Char} (flat : '\n' ∉ row) (current before after : List Char) :
    row ∈ linesFrom current (before ++ '\n' :: (row ++ '\n' :: after)) := by
  induction before generalizing current with
  | nil =>
    rw [nil_append, linesFrom, linesFrom_row flat]
    exact mem_cons_of_mem _ mem_cons_self
  | cons c before ih =>
    by_cases same : c = '\n'
    · subst same
      exact mem_cons_of_mem _ (ih [])
    · rw [cons_append, linesFrom]
      · exact ih _
      · exact same

/-- The line of code at the end of a statement is among the lines of code. -/
theorem mem_codeLines {statement remark row : String} (same : statement = remark ++ ("\n" ++ row))
    (flat : '\n' ∉ row.toList) (code : (unindented row.toList).head?.any (· != '#') = true)
    (before : List Char) {after : List Char} (line : ∀ c ∈ after.head?, c = '\n')
    (more : after ≠ []) : row.toList ∈ codeLines (before ++ (statement.toList ++ after)) := by
  have text : before ++ (statement.toList ++ after) =
      (before ++ remark.toList) ++ '\n' :: (row.toList ++ after) := by
    rw [same, String.toList_append, String.toList_append, List.append_assoc, List.append_assoc,
      List.append_assoc]
    rfl
  rw [text]
  cases after with
  | nil => exact absurd rfl more
  | cons c after =>
    cases line c rfl
    refine mem_filter.mpr ⟨mem_linesFrom flat [] _ after, ?_⟩
    cases shown : unindented row.toList with
    | nil =>
      rw [shown] at code
      cases code
    | cons c rest =>
      rw [shown] at code
      exact code

end Source

/-! ### Guards -/

namespace Draft

variable (draft : Draft)

/-- The body of a guard. -/
def body : String :=
  (if draft.countsArguments then countArguments else "") ++
    (if draft.needsRandom then drawRandom else "") ++ draft.text ++ "\n"

/-- The line that binds the number of positional arguments. -/
def countLine : String := "    __hc_args_len = len(args)"

/-- The line that draws the integer of the call. -/
def drawLine : String := "    __hc_random_int = __hc_registry.random_int()"

variable {draft}

theorem stating_counting : Stating [] draft.ready
    (if draft.countsArguments then countArguments else "").toList := by
  split
  · rename_i counts
    exact stating_countArguments.mono (readied_subset (fun _ => counts) nofun)
  · exact stating_nil

theorem stating_drawing : Stating [] draft.ready
    (if draft.needsRandom then drawRandom else "").toList := by
  split
  · rename_i needed
    exact stating_drawRandom.mono (readied_subset nofun fun _ => needed)
  · exact stating_nil

/-- What follows the lines that get something ready. -/
theorem Fresh.ending (fresh : draft.Fresh) :
    Stating (range draft.locals) draft.ready (draft.text.toList ++ ['\n']) := by
  have line : Stating [] draft.ready ['\n'] :=
    ⟨fun _ found => (Option.some.inj found).symm, .done, ⟨[], [], rfl, fun _ _ _ => by
      rw [Code.append_done]; rfl⟩, Code.phrase_done.toScoped⟩
  have whole := fresh.append line
  rwa [append_nil] at whole

theorem body_chars : draft.body.toList =
    (if draft.countsArguments then countArguments else "").toList ++
      ((if draft.needsRandom then drawRandom else "").toList ++ (draft.text.toList ++ ['\n'])) := by
  rw [body, String.toList_append, String.toList_append, String.toList_append, List.append_assoc,
    List.append_assoc]
  rfl

theorem Fresh.body (fresh : draft.Fresh) :
    Stating (range draft.locals) draft.ready draft.body.toList := by
  rw [body_chars]
  exact stating_counting.append (stating_drawing.append fresh.ending)

theorem Fresh.countLine_mem (fresh : draft.Fresh) (ready : countName.toList ∈ draft.ready) :
    countLine.toList ∈ codeLines draft.body.toList := by
  have counts : draft.countsArguments = true :=
    ((mem_readied.mp ready).resolve_right fun other => absurd other.2 (by decide)).1
  have shown : countArguments =
      "\n    # Localize the number of passed positional arguments for efficiency." ++
        ("\n" ++ countLine) :=
    eq_of_chars (chars_append (chars_append rfl rfl) rfl) (chars_append rfl (chars_append rfl rfl))
      (by decide +kernel)
  have line := (stating_drawing.append fresh.ending).1
  rw [body_chars, if_pos counts]
  exact mem_codeLines shown (by decide) (by decide) [] line (by simp)

theorem Fresh.drawLine_mem (fresh : draft.Fresh) (ready : randomName.toList ∈ draft.ready) :
    drawLine.toList ∈ codeLines draft.body.toList := by
  have needed : draft.needsRandom = true :=
    ((mem_readied.mp ready).resolve_left fun other => absurd other.2 (by decide)).1
  have shown : drawRandom =
      "\n    # Draw one pseudo-random integer shared by every sampled container check." ++
        ("\n" ++ drawLine) :=
    eq_of_chars (chars_append (chars_append rfl rfl) rfl) (chars_append rfl (chars_append rfl rfl))
      (by decide +kernel)
  rw [body_chars, if_pos needed]
  exact mem_codeLines shown (by decide) (by decide) _ fresh.ending.1 (by simp)

end Draft

/-- The number of names that the check of a result binds. -/
def ResultCheck.locals : ResultCheck → Nat
  | checked _ fragment => fragment.locals
  | _ => 0

/-- The number of names that the checks of a plan bind. -/
def Plan.locals (plan : Plan) : Nat :=
  (plan.parameters.map fun check => check.fragment.locals).sum + plan.result.locals

theorem Plan.locals_parameter_le {plan : Plan} {check : ParameterCheck}
    (member : check ∈ plan.parameters) : check.fragment.locals ≤ plan.locals := by
  have part := le_sum_of_mem (mem_map_of_mem
    (f := fun check : ParameterCheck => check.fragment.locals) member)
  exact Nat.le_add_right_of_le part

theorem Plan.locals_result_le {plan : Plan} {hint : Hint} {fragment : Fragment}
    (checked : plan.result = .checked hint fragment) : fragment.locals ≤ plan.locals := by
  rw [Plan.locals, checked]
  exact Nat.le_add_left _ _

theorem Assembly.of_locals (name : String) (checks : List ParameterCheck) (result : ResultCheck) :
    ((Draft.empty.addParameters checks).addResult result).locals =
      (of name checks result).plan.locals := by
  have added (draft : Draft) : (draft.addResult result).locals = draft.locals + result.locals := by
    cases result <;> rfl
  rw [added, Draft.addParameters_locals, Plan.locals, of_parameters, Draft.empty, Nat.zero_add]
  rfl

theorem Assembly.of_source (name : String) (checks : List ParameterCheck) (result : ResultCheck) :
    (of name checks result).source = fill head [("func_name", name)] ++
      ((Draft.empty.addParameters checks).addResult result).body := by
  rw [Draft.body, ← String.append_assoc, ← String.append_assoc, ← String.append_assoc]
  rfl

variable {settings : Settings} {issued : Hint → Prop}

theorem Settings.Provides.standard {hint : Hint} {fragment : Fragment}
    (provides : settings.Provides issued hint fragment) (standard : hint.Standard) :
    fragment.check.Standard := by
  obtain ⟨twin, check, -, found, made, rfl⟩ := provides
  have standard' : twin.Standard := by
    rcases found with rfl | ⟨same, -⟩
    · exact standard
    · exact standard.of_same same
  exact (within_of_checkWithin standard' made).standard (fun _ => id) fun _ => id

/-- The draft that an assembly is made from is fresh, if its names can be counted. -/
theorem Assembly.Fits.fresh {signature : Signature} {assembly : Assembly}
    (fits : assembly.Fits settings issued signature) (standard : signature.Trusted Hint.Standard)
    (countable : assembly.plan.locals ≤ 2 ^ 64) :
    ∃ draft : Draft, draft.Fresh ∧ draft.locals = assembly.plan.locals ∧
      assembly.source = fill head [("func_name", signature.name)] ++ draft.body := by
  obtain ⟨checks, result, planned, resulting, rfl⟩ := fits.parts
  have each : ∀ check ∈ checks, check.kind ≠ .variadicKeyword ∧ check.fragment.Legible := by
    intro check member
    obtain ⟨kind, parameter, listed, -, hint, hinted, given⟩ := planned.origin check member
    have part := Plan.locals_parameter_le (of_parameters signature.name checks result ▸ member)
    exact ⟨kind, given.standard (standard.parameters parameter listed hint hinted),
      Nat.le_trans part countable⟩
  have last (hint : Hint) (fragment : Fragment) (checked : result = .checked hint fragment) :
      fragment.Legible := by
    obtain ⟨hint, hinted, given⟩ := resulting.origin checked
    exact ⟨given.standard (standard.returns hint hinted),
      Nat.le_trans (Plan.locals_result_le checked) countable⟩
  have empty : Draft.empty.Fresh := stating_nil
  exact ⟨_, (empty.addParameters each).addResult last, of_locals _ checks result, of_source _ _ _⟩

variable {bodies : Nat → Arguments → Action Value}

/-- Whatever a registry was used for, the names in the body of a guard are in scope: its loops bind
the names with the numbers below the number of names that its checks bind, each once, every such
name is used in the loop that binds it only, and the number of arguments and the integer of the call
are used only if there is a line that binds them. The names must be few enough to be numbered with
64 bits. -/
theorem Settings.names_in_scope {registry : Registry}
    (employed : registry.Employed (fun _ => True) bodies) (settings : Settings)
    {signature : Signature} (standard : signature.Trusted Hint.Standard) {world : World}
    {assembly : Assembly} {after : Workshop}
    (assembled : (settings.assemble signature).run.run ⟨registry, world⟩ = (.ok assembly, after))
    (countable : assembly.plan.locals ≤ 2 ^ 64) :
    ∃ body code, assembly.source = fill head [("func_name", signature.name)] ++ body ∧
      Code.read body.toList = some code ∧
      code.bindings.Nodup ∧
      (∀ name, name ∈ code.bindings ↔ ∃ number < assembly.plan.locals, name = localName number) ∧
      (∀ number, localName number ∉ code.unbound) ∧
      (countName.toList ∈ code.names → Draft.countLine.toList ∈ codeLines body.toList) ∧
      (randomName.toList ∈ code.names → Draft.drawLine.toList ∈ codeLines body.toList) := by
  have start : Workshop.Grown (fun _ => True) ⟨registry, world⟩ ⟨registry, world⟩ :=
    ⟨employed.stocked.fragments, rfl, _, _, rfl⟩
  obtain ⟨-, fits⟩ := (settings.assemble_upholds _ signature.trusted_all _ start).1 _ _ assembled
  obtain ⟨draft, fresh, total, source⟩ := fits.fresh standard countable
  obtain ⟨-, code, reads, scope⟩ := fresh.body
  refine ⟨draft.body, code, source, reads.read, ?_, fun name => ?_, scope.unbound,
    fun used => fresh.countLine_mem (scope.uses _ used (by decide)),
    fun used => fresh.drawLine_mem (scope.uses _ used (by decide))⟩
  · rw [scope.bindings]
    exact List.Nodup.map localName_injective List.nodup_range
  · rw [scope.bindings, List.mem_map, ← total]
    simp only [List.mem_range, eq_comm]

/-- The guard of a function that takes lists of lists binds two names. -/
theorem Settings.names_in_scope_of_nested_lists :
    let settings := Settings.standard ⟨102, .fixed 5⟩
    let signature := Signature.taking (.generic .list [.integers] false)
    signature.Trusted Hint.Standard ∧ ∃ assembly after,
      (settings.assemble signature).run.run ⟨.empty, .initial⟩ = (.ok assembly, after) ∧
        ∃ body code, assembly.source = fill head [("func_name", "f")] ++ body ∧
          Code.read body.toList = some code ∧ code.bindings.Nodup ∧
          (∀ name, name ∈ code.bindings ↔ ∃ number < 2, name = localName number) ∧
          ∀ number, localName number ∉ code.unbound := by
  intro settings signature
  have standard : signature.Trusted Hint.Standard := by
    refine Signature.trusted_taking fun inner inside => ?_
    cases inside with
    | self => trivial
    | child member deeper =>
      cases List.mem_singleton.mp member
      rcases Hint.inside_integers deeper with rfl | rfl
      · trivial
      · exact fun _ => (by decide : Class.int ∈ Class.builtins)
  obtain ⟨assembly, after, assembled, plan⟩ := settings.exists_assemble_taking
    (rfl : settings.check (.generic .list [.integers] false) = .ok _) rfl .initial
  have total : assembly.plan.locals = 2 := by
    rw [plan]
    rfl
  have employed : Registry.empty.Employed (fun _ => True) fun _ _ => pure .null := .fresh
  obtain ⟨body, code, source, read, distinct, bound, used, -⟩ := settings.names_in_scope employed
    standard assembled (by rw [total]; decide)
  rw [total] at bound
  exact ⟨standard, assembly, after, assembled, body, code, source, read, distinct, bound, used⟩

end CallGuard
