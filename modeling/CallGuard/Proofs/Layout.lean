/-
The lines of a guard. Whether blocks have bodies and tests raise depends on a few
things about each line only: how far it is indented, whether it opens a block,
and what it starts with. Texts are taken apart into the lines they add, and the
lines of a template are like that whatever goes into its gaps.
-/
import CallGuard.Proofs.Scanning
import CallGuard.Proofs.Template

namespace CallGuard.Source

open List Template

/-! ### Lines -/

/-- What matters about a line of code. -/
structure Role where
  indent : Nat
  opens : Bool
  tests : Bool
  raises : Bool
  returns : Bool
  deriving DecidableEq

/-- What matters about a line. -/
def role (line : List Char) : Role :=
  ⟨indent line, opensBlock line, begins "if not " line, begins "raise " line,
    begins "return " line⟩

/-- Whether a line is neither blank nor a comment. -/
def isCode (line : List Char) : Bool :=
  match unindented line with
  | [] => false
  | c :: _ => c != '#'

def role? (line : List Char) : Option Role := if isCode line then some (role line) else none

namespace Role

/-- What follows the first line that opens a block. -/
def body? : List Role → Option Role
  | [] => none
  | role :: rest => if role.opens then rest.head? else body? rest

/-- Whether each block has a body and each test raises. -/
def areSound : List Role → Bool
  | [] => true
  | role :: rest =>
    (!role.opens || rest.head?.any fun next => decide (role.indent < next.indent)) &&
      (!role.tests || (body? (role :: rest)).any raises) && areSound rest

/-- The line is no test and opens no block. -/
def isQuiet (role : Role) : Bool := !role.opens && !role.tests

end Role

theorem blockBody?_map (lines : List (List Char)) :
    (blockBody? lines).map role = Role.body? (lines.map role) := by
  induction lines with
  | nil => rfl
  | cons line rest ih =>
    rw [blockBody?, map_cons, Role.body?]
    show Option.map role (if opensBlock line then _ else _) = if opensBlock line then _ else _
    split
    · rw [head?_map]
    · exact ih

/-- Blocks are checked by what matters about their lines. -/
theorem blockFault?_eq_none {lines : List (List Char)}
    (sound : Role.areSound (lines.map role) = true) : blockFault? lines = none := by
  induction lines with
  | nil => rfl
  | cons line rest ih =>
    rw [map_cons, Role.areSound, ← map_cons, ← blockBody?_map, head?_map] at sound
    simp only [Bool.and_eq_true] at sound
    obtain ⟨⟨bodied, raising⟩, later⟩ := sound
    rw [Option.any_map] at bodied raising
    have excluded : ∀ given wanted : Bool, (!given || wanted) = true → (given && !wanted) = false := by
      decide
    have body : (opensBlock line && !(rest.head?.any fun next => indent line < indent next)) =
        false := excluded _ _ bodied
    have raised : (begins "if not " line && !(blockBody? (line :: rest)).any (begins "raise ")) =
        false := excluded _ _ raising
    rw [blockFault?, body, raised]
    exact ih later

/-- Whether some line leaves the function. -/
def Role.leave (roles : List Role) : Bool :=
  roles.any fun role => role.indent == 4 && (role.returns || role.raises)

theorem hasExit_eq (lines : List (List Char)) :
    hasExit lines = Role.leave (lines.map role) := by
  rw [hasExit, Role.leave, any_map]
  rfl

theorem map_role_codeLines (lines : List (List Char)) :
    (lines.filter isCode).map role = lines.filterMap role? := by
  induction lines with
  | nil => rfl
  | cons line rest ih =>
    by_cases code : isCode line = true
    · rw [filter_cons_of_pos code, map_cons, ih, filterMap_cons_some (by rw [role?, if_pos code])]
    · rw [filter_cons_of_neg code, ih, filterMap_cons_none (by rw [role?, if_neg code])]

/-! ### Texts as lines -/

/-- The text adds lines with the given roles to what stands before it. -/
def Ruled (text : List Char) (roles : List Role) : Prop :=
  ∃ rows : List (List Char), text = rows.flatMap ('\n' :: ·) ∧ (∀ row ∈ rows, '\n' ∉ row) ∧
    rows.filterMap role? = roles

theorem flatMap_rows (first : List Char) (rows : List (List Char)) :
    first ++ rows.flatMap ('\n' :: ·) ++ ['\n'] = (first :: rows).flatMap (· ++ ['\n']) := by
  induction rows generalizing first with
  | nil => simp
  | cons row rest ih =>
    show first ++ ('\n' :: row ++ rest.flatMap ('\n' :: ·)) ++ ['\n'] =
      first ++ ['\n'] ++ (row :: rest).flatMap (· ++ ['\n'])
    rw [← ih row]
    simp

theorem ruled_nil : Ruled [] [] := ⟨[], rfl, nofun, rfl⟩

theorem Ruled.append {text text' : List Char} {roles roles' : List Role} (ruled : Ruled text roles)
    (ruled' : Ruled text' roles') : Ruled (text ++ text') (roles ++ roles') := by
  obtain ⟨rows, rfl, flat, rfl⟩ := ruled
  obtain ⟨rows', rfl, flat', rfl⟩ := ruled'
  exact ⟨rows ++ rows', flatMap_append.symm, forall_mem_append.mpr ⟨flat, flat'⟩, filterMap_append⟩

theorem ruled_row {row : List Char} (flat : '\n' ∉ row) :
    Ruled ('\n' :: row) (role? row).toList := by
  refine ⟨[row], (append_nil _).symm, forall_mem_singleton.mpr flat, ?_⟩
  cases found : role? row with
  | none => rw [filterMap_cons_none found]; rfl
  | some role => rw [filterMap_cons_some found]; rfl

theorem linesFrom_row {row : List Char} (flat : '\n' ∉ row) (current rest : List Char) :
    linesFrom current (row ++ '\n' :: rest) = (current.reverse ++ row) :: linesFrom [] rest := by
  induction row generalizing current with
  | nil => rw [nil_append, linesFrom, append_nil]
  | cons c row ih =>
    obtain ⟨differs, flat⟩ := not_or.mp (mem_cons.not.mp flat)
    rw [cons_append, linesFrom]
    · rw [ih flat, reverse_cons, append_assoc, singleton_append]
    · exact fun same => differs same.symm

theorem linesFrom_rows {rows : List (List Char)} (flat : ∀ row ∈ rows, '\n' ∉ row) :
    linesFrom [] (rows.flatMap (· ++ ['\n'])) = rows := by
  induction rows with
  | nil => rfl
  | cons row rest ih =>
    obtain ⟨head, tail⟩ := forall_mem_cons.mp flat
    rw [flatMap_cons, append_assoc, singleton_append, linesFrom_row head, ih tail]
    rfl

/-- The roles of the lines of a text. -/
theorem map_role_of_ruled {first text : List Char} {roles : List Role} (flat : '\n' ∉ first)
    (ruled : Ruled text roles) :
    (codeLines (first ++ text ++ ['\n'])).map role = (role? first).toList ++ roles := by
  obtain ⟨rows, rfl, flatRows, rfl⟩ := ruled
  show ((linesFrom [] _).filter isCode).map role = _
  rw [map_role_codeLines, flatMap_rows, linesFrom_rows (forall_mem_cons.mpr ⟨flat, flatRows⟩)]
  cases found : role? first with
  | none => rw [filterMap_cons_none found]; rfl
  | some role => rw [filterMap_cons_some found]; rfl

/-! ### The lines of templates -/

/-- The words that matter at the start of a line. -/
def openings : List String := ["if not ", "raise ", "return "]

/-- Whether the start of a line shows which of these words the line starts with, if any. -/
def isDecided (start : List Char) : Bool :=
  match unindented start with
  | [] => false
  | c :: rest => c != '#' && openings.all fun words =>
      decide (words.toList.length ≤ rest.length + 1) || Text.clashes words.toList (c :: rest)

variable {start : List Char}

theorem unindented_append (decided : isDecided start = true)
    (rest : List Char) : unindented (start ++ rest) = unindented start ++ rest := by
  have filled : (start.dropWhile Text.isBlank).isEmpty = false := by
    rw [isEmpty_eq_false_iff]
    intro empty
    rw [isDecided, unindented, empty] at decided
    cases decided
  rw [unindented, unindented, dropWhile_append, filled]
  rfl

theorem indent_append (decided : isDecided start = true) (rest : List Char) :
    indent (start ++ rest) = indent start := by
  have short : (start.takeWhile Text.isBlank).length ≠ start.length := by
    intro whole
    have blank : start.dropWhile Text.isBlank = [] := by
      have parts := congrArg length (takeWhile_append_dropWhile (p := Text.isBlank) (l := start))
      rw [length_append] at parts
      exact length_eq_zero_iff.mp (by omega)
    rw [isDecided, unindented, blank] at decided
    cases decided
  rw [indent, indent, takeWhile_append, if_neg short]

theorem begins_append (decided : isDecided start = true) (rest : List Char)
    {words : String} (known : words ∈ openings) :
    begins words (start ++ rest) = begins words start := by
  rw [begins, begins, unindented_append decided]
  unfold isDecided at decided
  split at decided
  · cases decided
  · rename_i shown
    simp only [Bool.and_eq_true, all_eq_true, Bool.or_eq_true, decide_eq_true_eq] at decided
    rw [shown]
    rcases decided.2 words known with long | clash
    · rw [Bool.eq_iff_iff, isPrefixOf_iff_prefix, isPrefixOf_iff_prefix]
      exact ⟨fun found => prefix_of_prefix_length_le found (prefix_append _ _) long,
        fun found => found.trans (prefix_append _ _)⟩
    · rw [Text.not_prefix_of_clashes clash,
        Text.not_prefix_of_clashes (Text.clashes_append clash rest)]

/-- A line opens a block if its last character that is not blank is a colon. -/
theorem opensBlock_concat (line : List Char) {last : Char} (solid : Text.isBlank last = false) :
    opensBlock (line ++ [last]) = (last == ':') := by
  rw [opensBlock, closed, reverse_append, reverse_singleton, singleton_append,
    dropWhile_cons, if_neg (by rw [solid]; exact Bool.false_ne_true), reverse_cons,
    reverse_reverse, getLast?_append, getLast?_singleton, Option.some_or]
  rfl

/-- What matters about a line shows in its start and in its last character. -/
theorem role?_framed (decided : isDecided start = true) (middle : List Char)
    {last : Char} (solid : Text.isBlank last = false) :
    role? (start ++ (middle ++ [last])) = some { role start with opens := last == ':' } := by
  have code : isCode (start ++ (middle ++ [last])) = true := by
    rw [isCode, unindented_append decided]
    unfold isDecided at decided
    cases shown : unindented start with
    | nil =>
      rw [shown] at decided
      cases decided
    | cons c rest =>
      rw [shown, Bool.and_eq_true] at decided
      exact decided.1
  rw [role?, if_pos code, role, role, indent_append decided,
    begins_append decided _ (by decide), begins_append decided _ (by decide),
    begins_append decided _ (by decide), ← append_assoc, opensBlock_concat _ solid]

section Cells

variable {Gap : Type}

/-- The cells of the first line and those of the lines after it. -/
def rowsOf : List (Cell Gap) → List (Cell Gap) × List (List (Cell Gap))
  | [] => ([], [])
  | .letter c :: rest =>
    if c = '\n' then ([], (rowsOf rest).1 :: (rowsOf rest).2)
    else (.letter c :: (rowsOf rest).1, (rowsOf rest).2)
  | .gap name :: rest => (.gap name :: (rowsOf rest).1, (rowsOf rest).2)

/-- The letters before the first gap. -/
def openingLetters : List (Cell Gap) → List Char
  | .letter c :: rest => c :: openingLetters rest
  | _ => []

/-- What matters about a line, if it shows in its letters. -/
def rowRole? (row : List (Cell Gap)) : Option (Option Role) :=
  let start := openingLetters row
  if start.length = row.length then some (role? start)
  else match row.getLast? with
    | some (.letter last) =>
      if isDecided start && !Text.isBlank last then
        some (some { role start with opens := last == ':' })
      else none
    | _ => none

/-- The roles of the lines that cells add, if they show in the letters. -/
def roles? (cells : List (Cell Gap)) : Option (List Role) :=
  match rowsOf cells with
  | ([], rows) => (rows.mapM rowRole?).map (filterMap id)
  | _ => none

variable {values : Gap → List Char}

theorem write_rowsOf (cells : List (Cell Gap)) :
    write values cells = write values (rowsOf cells).1 ++
      (rowsOf cells).2.flatMap fun row => '\n' :: write values row := by
  induction cells with
  | nil => rfl
  | cons cell rest ih =>
    show cell.text values ++ write values rest = _
    cases cell with
    | gap name =>
      rw [ih, ← append_assoc]
      rfl
    | letter c =>
      rw [rowsOf, ih]
      split
      · rename_i newline
        rw [newline]
        rfl
      · rfl

/-- Rows have no line ends of their own, and their gaps are those of the cells. -/
theorem mem_rowsOf (cells : List (Cell Gap)) :
    ∀ row ∈ (rowsOf cells).1 :: (rowsOf cells).2, .letter '\n' ∉ row ∧
      ∀ name, .gap name ∈ row → .gap name ∈ cells := by
  induction cells with
  | nil => simp [rowsOf]
  | cons cell rest ih =>
    obtain ⟨head, tail⟩ := forall_mem_cons.mp ih
    have later (row : List (Cell Gap)) (known : .letter '\n' ∉ row ∧
        ∀ name, .gap name ∈ row → .gap name ∈ rest) : .letter '\n' ∉ row ∧
          ∀ name, .gap name ∈ row → .gap name ∈ cell :: rest :=
      ⟨known.1, fun name member => mem_cons_of_mem _ (known.2 name member)⟩
    cases cell with
    | gap name =>
      refine forall_mem_cons.mpr ⟨⟨?_, fun other member => ?_⟩,
        fun row member => later row (tail row member)⟩
      · exact fun member => head.1 ((mem_cons.mp member).resolve_left nofun)
      · rcases mem_cons.mp member with same | member
        · rw [same]
          exact mem_cons_self
        · exact mem_cons_of_mem _ (head.2 other member)
    | letter c =>
      rw [rowsOf]
      split
      · refine forall_mem_cons.mpr ⟨⟨nofun, nofun⟩, forall_mem_cons.mpr
          ⟨later _ head, fun row member => later row (tail row member)⟩⟩
      · rename_i other
        refine forall_mem_cons.mpr ⟨⟨?_, fun name member => ?_⟩,
          fun row member => later row (tail row member)⟩
        · intro member
          rcases mem_cons.mp member with same | member
          · exact other (Cell.letter.inj same).symm
          · exact head.1 member
        · exact mem_cons_of_mem _ (head.2 name ((mem_cons.mp member).resolve_left nofun))

theorem openingLetters_append (row : List (Cell Gap)) :
    ∃ rest, row = (openingLetters row).map .letter ++ rest ∧
      (openingLetters row).length + rest.length = row.length := by
  induction row with
  | nil => exact ⟨[], rfl, rfl⟩
  | cons cell row ih =>
    cases cell with
    | gap name => exact ⟨.gap name :: row, rfl, Nat.zero_add _⟩
    | letter c =>
      obtain ⟨rest, split, total⟩ := ih
      refine ⟨rest, congrArg (_ :: ·) split, ?_⟩
      rw [openingLetters, length_cons, length_cons]
      omega

theorem write_letters (letters : List Char) :
    write values (letters.map .letter) = letters := by
  induction letters with
  | nil => rfl
  | cons c rest ih => exact congrArg (c :: ·) ih

theorem role?_of_rowRole? {row : List (Cell Gap)} {found : Option Role}
    (shown : rowRole? row = some found) : role? (write values row) = found := by
  obtain ⟨rest, split, total⟩ := openingLetters_append row
  unfold rowRole? at shown
  dsimp only at shown
  split at shown
  · rename_i whole
    have none : rest = [] := length_eq_zero_iff.mp (by omega)
    rw [split, none, append_nil, write_letters]
    exact Option.some.inj shown
  · rename_i part
    split at shown
    · rename_i last ends
      split at shown
      · rename_i clear
        rw [Bool.and_eq_true, Bool.not_eq_true'] at clear
        have filled : rest ≠ [] := fun none => part (by rw [none] at total; exact total)
        rw [split, getLast?_append_of_ne_nil _ filled] at ends
        obtain ⟨middle, rfl⟩ := getLast?_eq_some_iff.mp ends
        have written : write values row = openingLetters row ++
            (write values middle ++ [last]) := by
          conv_lhs => rw [split]
          rw [write_append, write_append, write_letters]
          rfl
        rw [written, role?_framed clear.1 _ clear.2]
        exact Option.some.inj shown
      · cases shown
    · cases shown

theorem filterMap_of_mapM {rows : List (List (Cell Gap))} {shapes : List (Option Role)}
    (each : rows.mapM rowRole? = some shapes) :
    rows.filterMap (fun row => role? (write values row)) = shapes.filterMap id := by
  induction rows generalizing shapes with
  | nil =>
    cases each
    rfl
  | cons row rest ih =>
    rw [mapM_cons] at each
    obtain ⟨shape, shown, made⟩ := Option.bind_eq_some_iff.mp each
    obtain ⟨later, listed, done⟩ := Option.bind_eq_some_iff.mp made
    cases done
    rw [filterMap_cons, filterMap_cons, role?_of_rowRole? shown, ih listed]
    rfl

theorem flat_write {row : List (Cell Gap)} (letters : .letter '\n' ∉ row)
    (flat : ∀ name, .gap name ∈ row → '\n' ∉ values name) : '\n' ∉ write values row := by
  intro member
  obtain ⟨cell, inside, member⟩ := mem_flatMap.mp member
  cases cell with
  | letter c => exact letters (mem_singleton.mp member ▸ inside)
  | gap name => exact flat name inside member

/-- The lines that cells add are the same whatever is in the gaps, as long as no gap ends a line. -/
theorem ruled_write {cells : List (Cell Gap)} {roles : List Role} (found : roles? cells = some roles)
    (flat : ∀ name, .gap name ∈ cells → '\n' ∉ values name) :
    Ruled (write values cells) roles := by
  have rows := mem_rowsOf cells
  have written := @write_rowsOf Gap values cells
  unfold roles? at found
  split at found
  · rename_i given shown
    rw [shown] at rows written
    obtain ⟨shapes, each, rfl⟩ := Option.map_eq_some_iff.mp found
    obtain ⟨-, rows⟩ := forall_mem_cons.mp rows
    refine ⟨given.map (write values), ?_, ?_, ?_⟩
    · rw [written, flatMap_map]
      rfl
    · refine forall_mem_map.mpr fun row member => ?_
      exact flat_write (rows row member).1 fun name inside => flat name ((rows row member).2 name inside)
    · rw [filterMap_map]
      exact filterMap_of_mapM each
  · cases found

end Cells

end CallGuard.Source
