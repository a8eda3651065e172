/-
Guards that verify. A test of a value is a statement of its own: its only
condition is the check, however many lines that takes, and its block raises the
violation. So the source of a guard is a head followed by statements, the last
of which leaves the function, and a last look at it finds nothing wrong.
-/
import CallGuard.Proofs.Assembling
import CallGuard.Proofs.Wording

namespace CallGuard

open List Text Template

namespace Source

variable {promise : Promise}

/-! ### Tests -/

/-- The remarks above a test. -/
def remark : String :=
  "\n" ++
  "        # Type-check this passed parameter or return value against this\n" ++
  "        # type hint."

theorem leading_remark :
    ∃ roles, Leading promise [] 4 0 remark.toList roles ∧ roles.isEmpty = true :=
  leading_letters (chars_append (chars_append rfl rfl) rfl) (by decide +kernel)

/-- What a test starts with. -/
def question : List Char := "        if not ".toList

theorem testOpening_eq : testOpening.toList = remark.toList ++ '\n' :: question := by
  have opening : testOpening = remark ++ ("\n" ++ "        if not ") := by
    rw [testOpening, remark]
    rfl
  rw [opening, String.toList_append, String.toList_append]
  rfl

/-- The block of a test, up to the name of the value. -/
def raiseStart : String :=
  "\n            raise __hc_registry.raise_violation(\n" ++
  "                func=__hc_func,\n                pith_name="

/-- The block of a test from there to the integer of the call. -/
def raiseMiddle : String := ",\n                pith_value=__hc_pith_root,"

/-- The end of the block of a test. -/
def raiseEnd : String := "\n            )"

/-- The block of a test, with a gap for the name of the value. -/
def raisingCells (random : Bool) : List (Cell Unit) :=
  raiseStart.toList.map .letter ++ .gap () ::
    (raiseMiddle ++ (if random then passRandom else "") ++ raiseEnd).toList.map .letter

variable {text : String} {chars chars' : List Char}

theorem eq_of_chars {text' : String} (shown : text = String.ofList chars)
    (shown' : text' = String.ofList chars') (same : chars = chars') : text = text' := by
  rw [shown, shown', same]

theorem testClosing_chars : testClosing.toList = ':' :: (raiseStart.toList ++ (nameHole.toList ++
    (raiseMiddle.toList ++ (unfilled "random_int_if_any".toList ++ raiseEnd.toList)))) := by
  have closing : testClosing = ":" ++ (raiseStart ++ (nameHole ++ (raiseMiddle ++
      (hole "random_int_if_any" ++ raiseEnd)))) :=
    eq_of_chars (by repeat' first | apply chars_append | rfl)
      (by repeat' first | apply chars_append | rfl) (by decide +kernel)
  rw [closing, String.toList_append, String.toList_append, String.toList_append,
    String.toList_append, String.toList_append, toList_hole]
  rfl

theorem not_mem_of_chars {c : Char} (same : text = String.ofList chars) (absent : c ∉ chars) :
    c ∉ text.toList := by
  rw [same, String.toList_ofList]
  exact absent

/-- The block of a test starts after a colon, with the name in its gap. -/
theorem testClosing_eq (random : Bool) (name : String) :
    (replaceAll nameHole name (fill testClosing
      [("random_int_if_any", if random then passRandom else "")])).toList =
      ':' :: write (fun _ => name.toList) (raisingCells random) := by
  have startBrace : '{' ∉ ':' :: raiseStart.toList := by
    rw [mem_cons, not_or]
    exact ⟨by decide, not_mem_of_chars (chars_append rfl rfl) (by decide)⟩
  have startQuestion : '?' ∉ ':' :: raiseStart.toList := by
    rw [mem_cons, not_or]
    exact ⟨by decide, not_mem_of_chars (chars_append rfl rfl) (by decide)⟩
  have middleBrace : '{' ∉ raiseMiddle.toList := not_mem_of_chars rfl (by decide)
  have middleQuestion : '?' ∉ raiseMiddle.toList := not_mem_of_chars rfl (by decide)
  have hole : nameHole.toList = '?' :: "|PITH_ROOT_NAME`^".toList := by decide
  have passed : '?' ∉ (if random then passRandom else "").toList := by
    cases random with
    | false => exact not_mem_nil
    | true => exact not_mem_of_chars (chars_append rfl rfl) (by decide)
  rw [raisingCells]
  generalize (if random then passRandom else "") = integer at passed ⊢
  have filled : (fill testClosing [("random_int_if_any", integer)]).toList =
      ':' :: raiseStart.toList ++ (nameHole.toList ++ (raiseMiddle.toList ++
        (integer.toList ++ raiseEnd.toList))) := by
    rw [fill, foldl_cons, foldl_nil, replaceAll, String.toList_ofList,
      toList_hole, testClosing_chars, ← cons_append, unfilled,
      replaceFrom_pass startBrace, replaceFrom_pass (by decide),
      replaceFrom_pass middleBrace, replaceFrom_here]
    have ending := @Text.replaceFrom_pass ("random_int_if_any".toList ++ ['}']) integer.toList '{'
      raiseEnd.toList (by decide) []
    rw [append_nil] at ending
    rw [ending, replaceFrom, append_nil]
  have rest : '?' ∉ raiseMiddle.toList ++ (integer.toList ++ raiseEnd.toList) := by
    rw [mem_append, mem_append, not_or, not_or]
    exact ⟨middleQuestion, passed, by decide⟩
  have ending := @Text.replaceFrom_pass "|PITH_ROOT_NAME`^".toList name.toList '?' _ rest []
  rw [append_nil] at ending
  rw [replaceAll, String.toList_ofList, filled, hole, replaceFrom_pass startQuestion,
    replaceFrom_here, ending, replaceFrom, append_nil, write_append,
    write_letters, String.toList_append, String.toList_append, append_assoc]
  rw [write, flatMap_cons, ← write, write_letters, cons_append]
  rfl

/-- Whether the cells raise, in lines deeper than a test. -/
def isRaising (cells : List (Cell Unit)) : Bool :=
  isTidy cells && (roles? cells).any fun
    | [] => false
    | next :: rest => next.raises && decide (8 < next.indent) && Role.leadTo 0 (next :: rest)

theorem isRaising_of_chars {start rest : String} (same : start = String.ofList chars)
    (same' : rest = String.ofList chars')
    (raising : isRaising (chars.map .letter ++ .gap () :: chars'.map .letter) = true) :
    isRaising (start.toList.map .letter ++ .gap () :: rest.toList.map .letter) = true := by
  rwa [same, same', String.toList_ofList, String.toList_ofList]

theorem isRaising_raisingCells (random : Bool) : isRaising (raisingCells random) = true := by
  cases random with
  | true =>
    exact isRaising_of_chars (chars_append rfl rfl)
      (by repeat' first | apply chars_append | rfl) (by decide +kernel)
  | false =>
    exact isRaising_of_chars (chars_append rfl rfl) (chars_append (chars_append rfl rfl) rfl)
      (by decide +kernel)

/-- What a test asks, on one line or more: whatever raises in a block after it makes it sound. -/
theorem ruled_question {text : List Char} (laid : Laid rootLevel text) :
    ∃ first later, Ruled ('\n' :: (question ++ (text ++ [':']))) (first :: later) ∧
      first.indent = 8 ∧ ∀ (next : Role) (rest : List Role), next.raises = true →
        8 < next.indent → Role.areSound (first :: later ++ next :: rest) =
          Role.areSound (next :: rest) := by
  have decided : isDecided question = true := by decide
  have asks : role question = ⟨8, false, true, false, false⟩ := by decide
  cases laid with
  | single plain =>
    have flat : '\n' ∉ question ++ (text ++ [':']) := by
      have other : '\n' ∉ question := by decide
      simp [other, plain.flat]
    have line := ruled_row flat
    rw [role?_framed decided text (by decide), asks] at line
    refine ⟨_, _, line, rfl, fun next rest raises deeper => ?_⟩
    simp [Role.areSound, Role.body?, raises, deeper]
  | @several text calm =>
    obtain ⟨quiet, ruled, each⟩ := calm.ruled
    have opening : Ruled ('\n' :: (question ++ ['('])) [⟨8, false, true, false, false⟩] :=
      ruled_row (by decide)
    have closing : Ruled ('\n' :: (replicate (4 * rootLevel) ' ' ++ [')', ':']))
        [⟨8, true, false, false, false⟩] := ruled_row (by decide)
    have whole := (opening.append ruled).append closing
    refine ⟨_, _, by simpa using whole, rfl, fun next rest raises deeper => ?_⟩
    rw [cons_append, Role.areSound, append_assoc, Role.body?, if_neg Bool.false_ne_true,
      Role.body?_of_quiet each, Role.areSound_of_leadTo (Role.leadTo_of_quiet each)
        fun _ below => absurd below (Nat.not_lt_zero _)]
    simp [Role.areSound, Role.body?, raises, deeper]

theorem localName_eq (number : Nat) :
    localName number = "__hc_pith_".toList ++ Nat.toDigits 10 number := by
  rw [localName, String.toList_append]
  exact congrArg _ Nat.toList_repr

theorem plain_localName (number : Nat) : Plain (localName number) := by
  have flat : '\n' ∉ Nat.toDigits 10 number := fun member =>
    absurd (isDigit_of_mem_toDigits _ member) (by decide)
  have ends := @endsCode_numeral [] (fun _ => []) number
  rw [Script.print_numeral] at ends
  rw [localName_eq]
  refine ⟨?_, startsCode_append (by decide) _, endsCode_append (Nat.toList_repr ▸ ends) _⟩
  rw [mem_append, not_or]
  exact ⟨by decide, flat⟩

/-- The name of a local value is not taken for that of the registry, from the first digit on. -/
theorem clean_localName (number : Nat) : Clean promise [] (localName number) := by
  have starts := forall_digits (fun c =>
    avoids nameHole.toList ("__hc_pith_".toList ++ [c]) = true ∧
      avoids lookupStart ("__hc_pith_".toList ++ [c]) = true) (by decide)
  rw [localName_eq]
  have digits := @Text.isDigit_of_mem_toDigits number
  cases shown : Nat.toDigits 10 number with
  | nil => exact absurd shown Nat.toDigits_ne_nil
  | cons c rest =>
    rw [shown] at digits
    obtain ⟨first, later⟩ := forall_mem_cons.mp digits
    rw [append_cons]
    refine (clean_of_avoids (fun _ => (starts c first).1) fun _ => (starts c first).2).append
      (clean_of_not_mem ?_ ?_)
    · exact fun member => absurd (later _ member) (by decide)
    · exact fun member => absurd (later _ member) (by decide)

end Source

/-- The fragment is for a value at the top of a guard, its check may be written there, and what the
check brings in is as promised. -/
structure Fragment.Proper (promise : Source.Promise) (fragment : Fragment) : Prop where
  level : fragment.level = Source.rootLevel
  within : fragment.check.Within (.keeping promise)
  small : fragment.check.locals ≤ 2 ^ 64

open Source Script

variable {promise : Promise} {fragment : Fragment}

theorem Fragment.Proper.standard (proper : fragment.Proper promise) : fragment.check.Standard :=
  proper.within.standard (fun _ => Class.Keeps.standard) fun _ keeps =>
    ⟨Value.Keeps.standard keeps, (Value.Keeps.kind keeps).standard⟩

theorem Fragment.Proper.laid (proper : fragment.Proper promise) (offset : Nat) :
    Laid rootLevel (fragment.render rootName offset).toList := by
  have plain : Plain (tested.print rootName.toList localName) := by
    rw [print_tested]
    exact ⟨by decide, by decide, by decide⟩
  rw [render_script proper.standard proper.small, proper.level]
  exact Check.laid_script plain_localName proper.standard plain offset rootLevel

theorem Fragment.Proper.spotless (proper : fragment.Proper promise) (offset : Nat) :
    Spotless promise fragment.check.lookups (fragment.render rootName offset).toList := by
  have clean : Clean promise [] (tested.print rootName.toList localName) := by
    rw [print_tested]
    exact clean_of_avoids (fun _ => by decide) fun _ => by decide
  rw [render_script proper.standard proper.small]
  refine ⟨Check.composed_script keeping_clean proper.within clean offset _ fun number _ _ => ?_, ?_⟩
  · rw [print_bound]
    exact clean_localName number
  · exact unbraced_print (by decide) localName_clear
      (Check.regular_script proper.standard regular_tested offset _)

/-- A test is a statement in a block of its own. -/
theorem Fragment.Proper.leading (proper : fragment.Proper promise) (offset : Nat) {name : String}
    (kept : promise.Kept name.toList) :
    ∃ first later, Leading promise fragment.check.lookups 8 0
      (test fragment offset (quotedWithoutBraces name)).toList (first :: later) := by
  obtain ⟨first, later, asked, deep, sound⟩ := ruled_question (proper.laid offset)
  obtain ⟨remarks, remarked, empty⟩ := @leading_remark promise
  have raising := isRaising_raisingCells fragment.check.needsRandom
  rw [isRaising, Bool.and_eq_true, Option.any_eq_true] at raising
  obtain ⟨tidy, roles, found, raising⟩ := raising
  have raised := @ruled_write _ (fun _ => (quotedWithoutBraces name).toList) _ _ found
    fun _ _ => flat_name name
  have text : (test fragment offset (quotedWithoutBraces name)).toList =
      remark.toList ++ ('\n' :: (question ++ ((fragment.render rootName offset).toList ++ [':'])) ++
        write (fun _ => (quotedWithoutBraces name).toList)
          (raisingCells fragment.check.needsRandom)) := by
    rw [test, String.toList_append, String.toList_append, testOpening_eq, testClosing_eq]
    simp only [List.append_assoc, List.cons_append, List.nil_append]
  cases List.isEmpty_iff.mp empty
  refine ⟨first, later ++ roles, ?_, ?_, fun role found => ?_, fun rest _ => ?_⟩
  · have starts : Spotless promise [] ('\n' :: question) := spotless_of_avoids (by decide)
    have colon : Spotless promise [] [':'] := spotless_of_avoids (by decide)
    have whole := remarked.spotless.append ((starts.append ((proper.spotless offset).append
      colon)).append (spotless_write tidy fun _ _ => spotless_name kept))
    rw [append_nil, append_nil] at whole
    rw [text]
    exact whole
  · rw [text]
    exact remarked.ruled.append (asked.append raised)
  · cases found
    exact deep
  · cases roles with
    | nil => exact absurd raising Bool.false_ne_true
    | cons next later' =>
      simp only [Bool.and_eq_true, decide_eq_true_eq] at raising
      have statement := sound next (later' ++ rest) raising.1.1 raising.1.2
      rw [← List.cons_append] at statement
      rw [← List.cons_append, List.append_assoc, statement]
      exact Role.areSound_of_leadTo raising.2 fun _ below => absurd below (Nat.not_lt_zero _)

/-! ### Drafts -/

/-- A check of a parameter that may be written in a guard. -/
structure ParameterCheck.Proper (promise : Promise) (check : ParameterCheck) : Prop where
  kind : check.kind ≠ .variadicKeyword
  name : promise.Kept check.name.toList
  fragment : check.fragment.Proper promise

/-- A check of a result that may be written in a guard. -/
def ResultCheck.Proper (promise : Promise) : ResultCheck → Prop
  | checked _ fragment => fragment.Proper promise
  | _ => True

/-- The draft is made of statements, which look up what it requires. -/
def Draft.Sound (promise : Promise) (draft : Draft) : Prop :=
  ∃ roles, Leading promise draft.requires 4 0 draft.text.toList roles

namespace Draft

variable {draft : Draft}

theorem Sound.addParameter (sound : draft.Sound promise) {check : ParameterCheck}
    (proper : check.Proper promise) :
    (draft.addParameter ((bindArgument check.kind).getD "") check).Sound promise := by
  obtain ⟨before, leading⟩ := sound
  obtain ⟨binding, bound, filled⟩ := leading_bindArgument proper.kind check.index proper.name
  obtain ⟨first, later, tested⟩ := proper.fragment.leading draft.locals proper.name
  refine ⟨before ++ (binding ++ first :: later), ?_⟩
  have statement : Leading promise check.fragment.check.lookups 4 0 _ _ := bound.block filled tested
  have whole := leading.append statement
  rw [← List.append_assoc, ← String.toList_append, ← String.toList_append] at whole
  exact whole

theorem Sound.addParameters (sound : draft.Sound promise) {checks : List ParameterCheck}
    (proper : ∀ check ∈ checks, check.Proper promise) :
    (draft.addParameters checks).Sound promise := by
  induction checks generalizing draft with
  | nil => exact sound
  | cons check rest ih =>
    obtain ⟨head, tail⟩ := forall_mem_cons.mp proper
    exact ih (sound.addParameter head) tail

theorem leave_append (roles roles' : List Role) :
    Role.leave (roles ++ roles') = (Role.leave roles || Role.leave roles') :=
  any_append

/-- With its end, a draft leaves the function. -/
theorem Sound.addResult (sound : draft.Sound promise) {result : ResultCheck}
    (proper : result.Proper promise) :
    ∃ roles, Leading promise (draft.addResult result).requires 4 0
      (draft.addResult result).text.toList roles ∧ Role.leave roles = true := by
  obtain ⟨before, leading⟩ := sound
  have ends {before : List Role} {names : List String} {text text' : String}
      (leading : Leading promise names 4 0 text.toList before)
      (added : ∃ roles, Leading promise [] 4 0 text'.toList roles ∧ Role.leave roles = true) :
      ∃ roles, Leading promise names 4 0 (text ++ text').toList roles ∧
        Role.leave roles = true := by
    obtain ⟨after, leading', leaves⟩ := added
    refine ⟨before ++ after, ?_, by rw [leave_append, leaves, Bool.or_true]⟩
    rw [← append_nil names, String.toList_append]
    exact leading.append leading'
  cases result with
  | unchecked => exact ends leading leading_returnUntested
  | never => exact ends leading leading_neverReturn
  | checked hint fragment =>
    have proper : fragment.Proper promise := proper
    obtain ⟨calling, called, filled⟩ := @leading_callBeforeTest promise
    obtain ⟨first, later, tested⟩ := proper.leading draft.locals
      (kept_of_isHarmless (by decide : isHarmless Guard.resultName.toList = true))
    have statement : Leading promise fragment.check.lookups 4 0 _ _ := called.block filled tested
    have whole := leading.append statement
    rw [← List.append_assoc, ← String.toList_append, ← String.toList_append] at whole
    exact ends whole leading_returnTested

end Draft

/-! ### Identifiers -/

namespace Text

/-- The characters of an identifier are letters, numerals and underscores. -/
theorem not_mem_of_isIdentifier {text : String} (identifier : isIdentifier text = true) {c : Char}
    (small : c.toNat < 128) (other : c.isAlphanum = false) (underscore : c ≠ '_') :
    c ∉ text.toList := by
  have letter : isLetter c = false := by
    rw [isLetter, if_pos small]
    rw [Char.isAlphanum, Bool.or_eq_false_iff] at other
    exact other.1
  have numeral : isLetterOrNumeral c = false := by
    rw [isLetterOrNumeral, if_pos small, other]
  have unequal : (c == '_') = false := beq_false_of_ne underscore
  intro member
  rw [isIdentifier] at identifier
  cases shown : text.toList with
  | nil =>
    rw [shown] at member
    cases member
  | cons first rest =>
    rw [shown] at identifier member
    simp only [Bool.and_eq_true, all_eq_true] at identifier
    rcases mem_cons.mp member with rfl | member
    · rw [letter, unequal] at identifier
      cases identifier.1
    · have allowed := identifier.2 c member
      rw [numeral, unequal] at allowed
      cases allowed

/-- A text with a last character that is not in the pattern, and with another one of the pattern
missing, does not hold the start of the pattern. -/
theorem avoids_concat {pattern text : List Char} {last missing : Char} (foreign : last ∉ pattern)
    (needed : missing ∈ pattern) (absent : missing ∉ text) :
    avoids pattern (text ++ [last]) = true := by
  have clash {pattern text : List Char} (foreign : last ∉ pattern) (needed : missing ∈ pattern)
      (absent : missing ∉ text) : clashes pattern (text ++ [last]) = true := by
    induction pattern generalizing text with
    | nil => cases needed
    | cons a pattern ih =>
      obtain ⟨differs, foreign⟩ := not_or.mp (mem_cons.not.mp foreign)
      cases text with
      | nil =>
        rw [nil_append, clashes, bne_iff_ne.mpr (Ne.symm differs), Bool.true_or]
      | cons b text =>
        obtain ⟨other, absent⟩ := not_or.mp (mem_cons.not.mp absent)
        rw [cons_append, clashes, Bool.or_eq_true, bne_iff_ne]
        rcases mem_cons.mp needed with rfl | needed
        · exact .inl other
        · exact .inr (ih foreign needed absent)
  induction text with
  | nil =>
    rw [nil_append, avoids, ← nil_append [last], clash foreign needed absent]
    rfl
  | cons c text ih =>
    rw [cons_append, avoids, ← cons_append, clash foreign needed absent,
      ih fun member => absent (mem_cons_of_mem c member)]
    rfl

end Text

namespace Source

variable {names : List String}

variable {name : String} {text : List Char}

theorem kept_of_isIdentifier (identifier : isIdentifier name = true) :
    promise.Kept name.toList := by
  have question : '?' ∉ name.toList :=
    not_mem_of_isIdentifier identifier (by decide) (by decide) (by decide)
  have bracket : '[' ∉ name.toList :=
    not_mem_of_isIdentifier identifier (by decide) (by decide) (by decide)
  exact ⟨fun _ found => question (found.subset (by decide)),
    fun _ found => bracket (found.subset (by decide))⟩

/-! ### Heads -/

/-- What follows the name in the head of a guard, from the first end of a line on. -/
def headEnd : String :=
  "\n    *args,\n" ++
  "    __hc_func=__hc_func,\n" ++
  "    __hc_registry=__hc_registry,\n" ++
  "    **kwargs\n" ++
  "):"

theorem leading_headEnd :
    ∃ roles, Leading promise [] 4 4 headEnd.toList roles ∧ !roles.isEmpty :=
  leading_letters (by repeat' first | apply chars_append | rfl)
    (by decide +kernel)

/-- What a guard starts with. -/
def headStart : List Char := "def ".toList

theorem head_chars : head.toList = headStart ++ (unfilled "func_name".toList ++
    ('(' :: headEnd.toList)) := by
  have parts : head = "def " ++ (hole "func_name" ++ ("(" ++ headEnd)) :=
    eq_of_chars (by repeat' first | apply chars_append | rfl)
      (by repeat' first | apply chars_append | rfl)
      (by decide +kernel)
  rw [parts, String.toList_append, String.toList_append, String.toList_append, toList_hole]
  rfl

theorem fill_head (name : String) :
    (fill head [("func_name", name)]).toList =
      (headStart ++ (name.toList ++ ['('])) ++ headEnd.toList := by
  have start : '{' ∉ headStart := by decide
  have rest : '{' ∉ '(' :: headEnd.toList := by
    rw [mem_cons, not_or]
    exact ⟨by decide, not_mem_of_chars (by repeat' first | apply chars_append | rfl) (by decide)⟩
  have ending := @Text.replaceFrom_pass ("func_name".toList ++ ['}']) name.toList '{' _ rest []
  rw [append_nil] at ending
  rw [fill, foldl_cons, foldl_nil, replaceAll, String.toList_ofList,
    toList_hole, head_chars, unfilled, replaceFrom_pass start,
    replaceFrom_here, ending, replaceFrom, List.append_nil, List.append_assoc,
    List.append_assoc]
  rfl

/-- The first line of a guard. -/
theorem spotless_headLine (identifier : isIdentifier name = true) :
    '\n' ∉ headStart ++ (name.toList ++ ['(']) ∧
      Spotless promise [] (headStart ++ (name.toList ++ ['('])) := by
  have absent {c : Char} (small : c.toNat < 128) (other : c.isAlphanum = false)
      (underscore : c ≠ '_') : c ∉ name.toList :=
    not_mem_of_isIdentifier identifier small other underscore
  have flat : '\n' ∉ name.toList := absent (by decide) (by decide) (by decide)
  have question : '?' ∉ name.toList := absent (by decide) (by decide) (by decide)
  have brace : '{' ∉ name.toList := absent (by decide) (by decide) (by decide)
  have bracket : '[' ∉ name.toList := absent (by decide) (by decide) (by decide)
  have start : Spotless promise [] headStart := spotless_of_avoids (by decide)
  refine ⟨?_, start.append ⟨clean_of_avoids (fun _ => ?_) fun _ => ?_, unbraced_of_not_mem ?_⟩⟩
  · have other : '\n' ∉ headStart := by decide
    simp [other, flat]
  · exact avoids_concat (by decide) (by decide : '?' ∈ nameHole.toList) question
  · exact avoids_concat (by decide) (by decide : '[' ∈ lookupStart) bracket
  · simp [brace]

theorem role?_headLine (name : String) :
    role? (headStart ++ (name.toList ++ ['('])) = some ⟨0, false, false, false, false⟩ := by
  rw [role?_framed (by decide) name.toList (by decide)]
  exact congrArg some (by decide)

/-! ### Verification -/

/-- Nothing is left to fill in if no text that is quoted holds the hole for a name. -/
theorem leftHole?_eq_none (spotless : Spotless promise names text) (promised : promise.unnamed) :
    leftHole? text = none := by
  have missing {pattern : List Char} (filled : pattern.isEmpty = false)
      (avoid : avoids pattern text = true) : occurs pattern text = false := by
    have whole := occurs_of_avoids avoid []
    rwa [append_nil, occurs, filled] at whole
  rw [leftHole?, Option.map_eq_none_iff, find?_eq_none]
  intro left member
  rw [Bool.not_eq_true]
  rcases mem_holes member with rfl | ⟨rest, known, shown⟩
  · exact missing (by decide) (spotless.clean.unnamed promised)
  · rw [shown]
    exact missing rfl (spotless.unbraced rest known)

/-- No other names are looked up if no text that is quoted ends like the start of a look-up. -/
theorem Clean.mem_of_lookedUp (clean : Clean promise names text) (promised : promise.closed)
    (member : name ∈ lookedUp text) : name ∈ names := by
  rw [← append_nil text] at member
  exact (clean.looks promised [] name member).elim id nofun

/-- A head leaves no hole and looks nothing up. -/
theorem spotless_fill_head (identifier : isIdentifier name = true) {text : String}
    (spotless : Spotless promise names text.toList) :
    Spotless promise names (fill head [("func_name", name)] ++ text ++ "\n").toList := by
  obtain ⟨opening, opened, -⟩ := @leading_headEnd promise
  have newline : Spotless promise [] ['\n'] := spotless_of_avoids (by decide)
  have whole := (((spotless_headLine identifier).2.append opened.spotless).append spotless).append
    newline
  rw [append_nil] at whole
  rw [String.toList_append, String.toList_append, fill_head]
  exact whole

/-- A head with statements behind it verifies if the function is left. -/
theorem verify_eq_ok (identifier : isIdentifier name = true) {text : String}
    {roles : List Role} (leading : Leading promise names 4 0 text.toList roles)
    (unnamed : promise.unnamed) (closed : promise.closed) (leaves : Role.leave roles = true)
    {requires : List String} (known : ∀ name ∈ names, name ∈ requires) :
    verify (fill head [("func_name", name)] ++ text ++ "\n") requires = .ok () := by
  obtain ⟨flat, -⟩ := @spotless_headLine promise name identifier
  obtain ⟨opening, opened, filled⟩ := @leading_headEnd promise
  have spotless := spotless_fill_head identifier leading.spotless
  cases roles with
  | nil => cases leaves
  | cons first later =>
    have body := opened.block filled leading
    have shown : (fill head [("func_name", name)] ++ text ++ "\n").toList =
        (headStart ++ (name.toList ++ ['('])) ++ (headEnd.toList ++ text.toList) ++ ['\n'] := by
      rw [String.toList_append, String.toList_append, fill_head, append_assoc _ headEnd.toList]
      rfl
    have roles := map_role_of_ruled flat body.ruled
    rw [role?_headLine] at roles
    have sound := body.sound [] nofun
    rw [append_nil] at sound
    have blocks : blockFault? (codeLines ((headStart ++ (name.toList ++ ['('])) ++
        (headEnd.toList ++ text.toList) ++ ['\n'])) = none := by
      refine blockFault?_eq_none ?_
      rw [roles]
      exact sound
    have leaves' : hasExit (codeLines ((headStart ++ (name.toList ++ ['('])) ++
        (headEnd.toList ++ text.toList) ++ ['\n'])) = true := by
      rw [hasExit_eq, roles, Draft.leave_append, Draft.leave_append, leaves, Bool.or_true,
        Bool.or_true]
    have bound : unboundName? (fill head [("func_name", name)] ++ text ++ "\n").toList requires =
        none := by
      rw [unboundName?, Option.map_eq_none_iff, find?_eq_none]
      intro looked member
      simpa using known looked (spotless.clean.mem_of_lookedUp closed member)
    rw [verify, leftHole?_eq_none spotless unnamed, bound, shown, blocks, leaves', if_pos rfl]
    rfl

end Source

namespace Assembly

variable {name : String} {checks : List ParameterCheck} {result : ResultCheck}

theorem mem_of_requires {required : String} : required ∈ (of name checks result).requires ↔
    required ∈ ((Draft.empty.addParameters checks).addResult result).requires := by
  show required ∈ mergeSort _ _ ↔ _
  rw [mem_mergeSort, mem_eraseDups]

/-- The source of a guard is a head with statements behind it, which look up what the guard requires
and leave the function. -/
theorem exists_leading (proper : ∀ check ∈ checks, check.Proper promise)
    (proper' : result.Proper promise) :
    ∃ (text : String) (names : List String) (roles : List Role),
      (of name checks result).source = fill head [("func_name", name)] ++ text ++ "\n" ∧
        Leading promise names 4 0 text.toList roles ∧ Role.leave roles = true ∧
        ∀ required, required ∈ names ↔ required ∈ (of name checks result).requires := by
  have empty : Draft.empty.Sound promise := ⟨[], leading_nil⟩
  obtain ⟨roles, leading, leaves⟩ := (empty.addParameters proper).addResult proper'
  have required := @mem_of_requires name checks result
  generalize shown : (Draft.empty.addParameters checks).addResult result = draft at leading required
  obtain ⟨counting, counted, -⟩ := @leading_countArguments promise
  obtain ⟨drawing, drawn, -⟩ := @leading_drawRandom promise
  have chosen {text : String} {roles : List Role}
      (leading : Leading promise [] 4 0 text.toList roles) (condition : Bool) :
      ∃ roles, Leading promise [] 4 0 (if condition then text else "").toList roles := by
    cases condition with
    | true => exact ⟨_, leading⟩
    | false => exact ⟨_, leading_nil⟩
  obtain ⟨first, starts⟩ := chosen counted draft.countsArguments
  obtain ⟨second, continues⟩ := chosen drawn draft.needsRandom
  have whole := (starts.append continues).append leading
  rw [← String.toList_append, ← String.toList_append] at whole
  refine ⟨_, _, _, ?_, whole, ?_, fun _ => required.symm⟩
  · rw [← shown, ← String.append_assoc, ← String.append_assoc]
    rfl
  · rw [Draft.leave_append, leaves, Bool.or_true]

/-- The source of a guard verifies. -/
theorem verify_of (identifier : isIdentifier name = true) (unnamed : promise.unnamed)
    (closed : promise.closed) (proper : ∀ check ∈ checks, check.Proper promise)
    (proper' : result.Proper promise) :
    Source.verify (of name checks result).source (of name checks result).requires = .ok () := by
  obtain ⟨text, names, roles, source, leading, leaves, known⟩ :=
    @exists_leading promise name _ _ proper proper'
  rw [source]
  exact verify_eq_ok identifier leading unnamed closed leaves fun required => (known required).mp

end Assembly

end CallGuard
