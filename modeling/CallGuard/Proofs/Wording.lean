/-
The templates of a guard. The letters of each template leave no hole and look
nothing up, its lines are statements of the function or lead into a deeper
block, and what goes into the gaps has no say in either. Everything here is
found out by going through the letters of the templates.
-/
import CallGuard.Proofs.Indentation
import CallGuard.Proofs.Lookups

namespace CallGuard

open List Text Template

/-! ### Long texts -/

/-- Texts that are put together from others are taken apart with this, down to those others, which
are short enough to be spelled out. -/
theorem chars_append {text text' : String} {chars chars' : List Char}
    (same : text = String.ofList chars) (same' : text' = String.ofList chars') :
    text ++ text' = String.ofList (chars ++ chars') := by
  rw [same, same', String.ofList_append]

namespace Source

/-! ### Spotless texts -/

/-- The text has no holes if what is quoted is as promised, and the given names are looked up. -/
structure Spotless (promise : Promise) (names : List String) (text : List Char) : Prop where
  clean : Clean promise names text
  unbraced : Unbraced text

variable {promise : Promise} {names names' : List String}

variable {text' chars : List Char} {Gap : Type} {indent : Nat} {also : List Role → Bool}
  {template : String}

variable {text : List Char}

theorem Spotless.append (spotless : Spotless promise names text)
    (spotless' : Spotless promise names' text') :
    Spotless promise (names ++ names') (text ++ text') :=
  ⟨spotless.clean.append spotless'.clean, spotless.unbraced.append spotless'.unbraced⟩

/-- What a look through a guard is for. -/
def patterns : List (List Char) :=
  nameHole.toList :: lookupStart :: braced.map ('{' :: ·)

theorem spotless_of_avoids
    (avoid : ∀ pattern ∈ patterns, avoids pattern text = true) : Spotless promise [] text := by
  obtain ⟨unnamed, avoid⟩ := forall_mem_cons.mp avoid
  obtain ⟨looks, avoid⟩ := forall_mem_cons.mp avoid
  exact ⟨clean_of_avoids (fun _ => unnamed) fun _ => looks, forall_mem_map.mp avoid⟩

theorem Spotless.cons {c : Char} (spotless : Spotless promise names text)
    (clash : ∀ pattern ∈ patterns, clashes pattern (c :: text) = true) :
    Spotless promise names (c :: text) := by
  obtain ⟨unnamed, clash⟩ := forall_mem_cons.mp clash
  obtain ⟨looks, clash⟩ := forall_mem_cons.mp clash
  refine ⟨⟨fun promised => ?_, fun rest name member => ?_, fun promised rest name member =>
    spotless.clean.looks promised rest name ?_⟩, fun rest member => ?_⟩
  · rw [avoids, unnamed, spotless.clean.unnamed promised]
    rfl
  · exact lookedUp_subset_cons c _ (spotless.clean.found rest name member)
  · rwa [cons_append, lookedUp, ← cons_append,
      not_prefix_of_clashes (clashes_append looks rest), if_neg Bool.false_ne_true]
      at member
  · rw [avoids, forall_mem_map.mp clash rest member, spotless.unbraced rest member]
    rfl

/-- Whether no pattern may start in the letters of cells. -/
def isTidy {Gap : Type} : List (Cell Gap) → Bool
  | [] => true
  | .letter c :: rest =>
    patterns.all (fun pattern => clashes pattern (c :: openingLetters rest)) && isTidy rest
  | .gap _ :: rest => isTidy rest

theorem spotless_write {values : Gap → List Char} {cells : List (Cell Gap)}
    (tidy : isTidy cells = true)
    (each : ∀ name, .gap name ∈ cells → Spotless promise [] (values name)) :
    Spotless promise [] (write values cells) := by
  induction cells with
  | nil => exact spotless_of_avoids fun _ _ => rfl
  | cons cell rest ih =>
    have inside (name : Gap) (member : .gap name ∈ rest) :=
      each name (mem_cons_of_mem _ member)
    cases cell with
    | gap name => exact (each name mem_cons_self).append (ih tidy inside)
    | letter c =>
      rw [isTidy, Bool.and_eq_true, all_eq_true] at tidy
      refine (ih tidy.2 inside).cons fun pattern member => ?_
      obtain ⟨later, split, -⟩ := openingLetters_append rest
      rw [split, write_append, write_letters, ← cons_append]
      exact clashes_append (tidy.1 pattern member) _

/-! ### Statements -/

namespace Role

/-- Whether the lines are no tests, and the block that each of them opens has a body, be it the line
that comes after them all, if that is indented by so much or more. -/
def leadTo (indent : Nat) : List Role → Bool
  | [] => true
  | role :: rest =>
    !role.tests &&
      (!role.opens || decide (role.indent < (rest.head?.map Role.indent).getD indent)) &&
      leadTo indent rest

theorem body?_of_quiet {quiet : List Role} (each : ∀ role ∈ quiet, role.isQuiet = true)
    (rest : List Role) : body? (quiet ++ rest) = body? rest := by
  induction quiet with
  | nil => rfl
  | cons role quiet ih =>
    obtain ⟨head, tail⟩ := forall_mem_cons.mp each
    simp only [isQuiet, Bool.and_eq_true, Bool.not_eq_true'] at head
    rw [cons_append, body?, head.1, if_neg Bool.false_ne_true, ih tail]

theorem areSound_of_leadTo {indent : Nat} {roles : List Role} (lead : leadTo indent roles = true)
    {rest : List Role} (deeper : ∀ less < indent, ∃ next ∈ rest.head?, less < next.indent) :
    areSound (roles ++ rest) = areSound rest := by
  induction roles with
  | nil => rfl
  | cons role roles ih =>
    simp only [leadTo, Bool.and_eq_true, Bool.not_eq_true', Bool.or_eq_true,
      decide_eq_true_eq] at lead
    obtain ⟨⟨noTest, body⟩, lead⟩ := lead
    have bodied : (!role.opens || (roles ++ rest).head?.any fun next =>
        decide (role.indent < next.indent)) = true := by
      rcases body with closed | deep
      · rw [closed]
        rfl
      · rw [Bool.or_eq_true]
        right
        cases roles with
        | nil =>
          obtain ⟨next, found, less⟩ := deeper _ deep
          rw [nil_append, Option.mem_def.mp found, Option.any_some, decide_eq_true_eq]
          exact less
        | cons next roles => exact decide_eq_true deep
    rw [cons_append, areSound, bodied, noTest, ih lead]
    rfl

theorem leadTo_of_quiet {roles : List Role} (quiet : ∀ role ∈ roles, role.isQuiet = true) :
    leadTo 0 roles = true := by
  induction roles with
  | nil => rfl
  | cons role roles ih =>
    obtain ⟨head, tail⟩ := forall_mem_cons.mp quiet
    simp only [isQuiet, Bool.and_eq_true, Bool.not_eq_true'] at head
    rw [leadTo, head.1, head.2, ih tail]
    rfl

end Role

/-- The text adds lines that start with a given indentation and lead to a line that is indented by
so much or more. -/
structure Leading (promise : Promise) (names : List String) (first indent : Nat)
    (text : List Char) (roles : List Role) : Prop where
  spotless : Spotless promise names text
  ruled : Ruled text roles
  starts : ∀ role ∈ roles.head?, role.indent = first
  sound : ∀ rest : List Role, (∀ less < indent, ∃ next ∈ rest.head?, less < next.indent) →
    Role.areSound (roles ++ rest) = Role.areSound rest

theorem leading_nil : Leading promise [] 4 0 [] [] :=
  ⟨spotless_of_avoids fun _ _ => rfl, ruled_nil, nofun, fun _ _ => rfl⟩

/-- Statements may follow one another. -/
theorem Leading.append {roles roles' : List Role}
    (leading : Leading promise names 4 0 text roles)
    (leading' : Leading promise names' 4 0 text' roles') :
    Leading promise (names ++ names') 4 0 (text ++ text') (roles ++ roles') := by
  refine ⟨leading.spotless.append leading'.spotless, leading.ruled.append leading'.ruled,
    fun role found => ?_, fun rest _ => ?_⟩
  · cases roles with
    | nil => exact leading'.starts role found
    | cons first roles => exact leading.starts role found
  · rw [append_assoc, leading.sound _ nofun, leading'.sound _ nofun]

/-- A statement may have a block. -/
theorem Leading.block {first : Nat} {roles later : List Role} {next : Role}
    (leading : Leading promise names first indent text roles) (filled : !roles.isEmpty)
    (leading' : Leading promise names' indent 0 text' (next :: later)) :
    Leading promise (names ++ names') first 0 (text ++ text') (roles ++ next :: later) := by
  refine ⟨leading.spotless.append leading'.spotless, leading.ruled.append leading'.ruled,
    fun role found => ?_, fun rest _ => ?_⟩
  · cases roles with
    | nil => cases filled
    | cons first roles => exact leading.starts role found
  · rw [append_assoc, leading.sound _ fun less smaller => ⟨next, rfl, ?_⟩,
      leading'.sound _ nofun]
    rwa [leading'.starts next rfl]

/-- Whether the letters of a template show that its lines are statements of a function and lead to a
line that is indented by so much or more, and that they satisfy another condition. -/
def isLeading {Gap : Type} (indent : Nat) (also : List Role → Bool) (cells : List (Cell Gap)) :
    Bool :=
  isTidy cells && (roles? cells).any fun roles =>
    roles.head?.all (fun role => role.indent == 4) && Role.leadTo indent roles && also roles

theorem leading_write {cells : List (Cell Gap)} (leading : isLeading indent also cells = true)
    {values : Gap → List Char}
    (each : ∀ name, .gap name ∈ cells → '\n' ∉ values name ∧ Spotless promise [] (values name)) :
    ∃ roles, Leading promise [] 4 indent (write values cells) roles ∧
      also roles = true := by
  rw [isLeading, Bool.and_eq_true, Option.any_eq_true] at leading
  obtain ⟨tidy, roles, found, shown⟩ := leading
  simp only [Bool.and_eq_true, Option.all_eq_true, beq_iff_eq] at shown
  exact ⟨roles, ⟨spotless_write tidy fun name member => (each name member).2,
    ruled_write found fun name member => (each name member).1, shown.1.1,
    fun rest => Role.areSound_of_leadTo shown.1.2⟩, shown.2⟩

/-! ### Templates without gaps -/

theorem leading_letters (same : template = String.ofList chars)
    (leading : isLeading indent also (chars.map (Cell.letter : Char → Cell Empty)) = true) :
    ∃ roles, Leading promise [] 4 indent template.toList roles ∧ also roles = true := by
  have written : ∃ roles, Leading promise [] 4 indent
      (write Empty.elim (chars.map .letter)) roles ∧ also roles = true :=
    leading_write leading nofun
  rwa [write_letters, ← @String.toList_ofList chars, ← same] at written

theorem leading_countArguments :
    ∃ roles, Leading promise [] 4 0 countArguments.toList roles ∧ true :=
  leading_letters (chars_append (chars_append rfl rfl) rfl) (by decide +kernel)

theorem leading_drawRandom : ∃ roles, Leading promise [] 4 0 drawRandom.toList roles ∧ true :=
  leading_letters (chars_append (chars_append rfl rfl) rfl) (by decide +kernel)

theorem leading_callBeforeTest :
    ∃ roles, Leading promise [] 4 8 callBeforeTest.toList roles ∧ !roles.isEmpty :=
  leading_letters (by repeat' first | apply chars_append | rfl) (by decide +kernel)

theorem leading_returnTested :
    ∃ roles, Leading promise [] 4 0 returnTested.toList roles ∧ Role.leave roles = true :=
  leading_letters (chars_append rfl rfl) (by decide +kernel)

theorem leading_returnUntested :
    ∃ roles, Leading promise [] 4 0 returnUntested.toList roles ∧ Role.leave roles = true :=
  leading_letters (by repeat' first | apply chars_append | rfl) (by decide +kernel)

theorem leading_neverReturn :
    ∃ roles, Leading promise [] 4 0 neverReturn.toList roles ∧ Role.leave roles = true :=
  leading_letters (by repeat' first | apply chars_append | rfl)
    (by decide +kernel)

/-! ### Bound arguments -/

/-- Whether a template has gaps for the position and the name of an argument only, and its lines
lead to a test. -/
def isBinding (chars : List Char) : Bool :=
  isSound chars && isLeading 8 (fun roles => !roles.isEmpty) (read chars) &&
    (read chars).all fun
      | .letter _ => true
      | .gap name => ["arg_index".toList, "arg_name".toList].contains name

theorem spotless_of_not_mem (question : '?' ∉ text) (underscore : '_' ∉ text)
    (brace : '{' ∉ text) : Spotless promise [] text :=
  ⟨clean_of_not_mem question underscore, unbraced_of_not_mem brace⟩

theorem not_mem_number {c : Char} (other : c.isDigit = false) (number : Nat) :
    c ∉ (toString number).toList := by
  intro member
  rw [isDigit_of_mem_toDigits c (Nat.toList_repr ▸ member)] at other
  cases other

theorem spotless_number (number : Nat) : Spotless promise [] (toString number).toList :=
  spotless_of_not_mem (not_mem_number (by decide) number) (not_mem_number (by decide) number)
    (not_mem_number (by decide) number)

theorem clear_name (name : String) : '{' ∉ (quotedWithoutBraces name).toList := by
  rw [← @Script.print_quoted [] (fun _ => []) name, Script.quoted, Script.print, mem_append,
    not_or]
  exact ⟨Piece.clear_of_regular (Script.regular_quoted name).1 nofun nofun, not_mem_nil⟩

theorem spotless_name {name : String} (kept : promise.Kept name.toList) :
    Spotless promise [] (quotedWithoutBraces name).toList :=
  ⟨clean_quotedWithoutBraces kept, unbraced_of_not_mem (clear_name name)⟩

theorem flat_name (name : String) : '\n' ∉ (quotedWithoutBraces name).toList := by
  rw [← @Script.print_quoted [] (fun _ => []) name]
  exact flat_quoted name

/-- What goes into the gaps for the position and the name of an argument. -/
def argument (index : Nat) (name : String) (gap : List Char) : List Char :=
  if gap = "arg_index".toList then (toString index).toList
  else (quotedWithoutBraces name).toList

theorem fill_argument (sound : isSound template.toList = true)
    (gaps : ∀ gap, .gap gap ∈ read template.toList →
      gap ∈ ["arg_index".toList, "arg_name".toList]) (index : Nat) (name : String) :
    (fill template [("arg_index", toString index),
      ("arg_name", quotedWithoutBraces name)]).toList =
      write (argument index name) (read template.toList) := by
  rw [fill_eq sound]
  · refine write_congr fun gap member => ?_
    rcases mem_pair.mp (gaps gap member) with rfl | rfl
    · rw [filled_here, argument, if_pos rfl]
    · rw [filled_later (by decide), filled_here, argument, if_neg (by decide)]
  · exact forall_mem_cons.mpr ⟨(by decide : '}' ∉ "arg_index".toList),
      forall_mem_singleton.mpr (by decide : '}' ∉ "arg_name".toList)⟩
  · exact forall_mem_cons.mpr ⟨not_mem_number (by decide) index,
      forall_mem_singleton.mpr (clear_name name)⟩

theorem leading_of_isBinding (same : template = String.ofList chars)
    (binding : isBinding chars = true) (index : Nat) {name : String}
    (kept : promise.Kept name.toList) :
    ∃ roles, Leading promise [] 4 8 (fill template [("arg_index", toString index),
      ("arg_name", quotedWithoutBraces name)]).toList roles ∧ !roles.isEmpty := by
  simp only [isBinding, Bool.and_eq_true, all_eq_true] at binding
  obtain ⟨⟨sound, leading⟩, gaps⟩ := binding
  rw [← @String.toList_ofList chars, ← same] at sound leading gaps
  rw [fill_argument sound fun gap member => contains_iff_mem.mp (gaps _ member)]
  refine leading_write leading fun gap _ => ?_
  unfold argument
  split
  · exact ⟨not_mem_number (by decide) index, spotless_number index⟩
  · exact ⟨flat_name name, spotless_name kept⟩

theorem leading_bindArgument {kind : ParameterKind} (other : kind ≠ .variadicKeyword) (index : Nat)
    {name : String} (kept : promise.Kept name.toList) :
    ∃ roles, Leading promise [] 4 8 (fill ((bindArgument kind).getD "")
      [("arg_index", toString index), ("arg_name", quotedWithoutBraces name)]).toList roles ∧
        !roles.isEmpty := by
  cases kind with
  | variadicKeyword => exact absurd rfl other
  | _ =>
    exact leading_of_isBinding (by repeat' first | apply chars_append | rfl) (by decide +kernel)
      index kept

end Source

end CallGuard
