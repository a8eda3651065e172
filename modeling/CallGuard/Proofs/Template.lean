/-
Templates and what becomes of them. A template is a row of cells, letters and
gaps; to fill its gaps one after the other, by replacing in texts, is to write
the cells with what goes into each gap. The text of a guard is put together from
a few templates, so whatever is to be shown of that text is shown of the cells
of each template, by evaluation, and of the texts that go into the gaps.
-/
import CallGuard.Source
import CallGuard.Proofs.Script

namespace CallGuard

open List

/-- A letter of a template, or a gap. -/
inductive Cell (Gap : Type) where
  | letter (c : Char)
  | gap (name : Gap)
  deriving DecidableEq

namespace Cell

variable {Gap : Type}

/-- The text of a cell, with the given texts in the gaps. -/
def text (values : Gap → List Char) : Cell Gap → List Char
  | letter c => [c]
  | gap name => values name

end Cell

namespace Template

/-- Reads a template. The name of a gap that is open is held in reverse. -/
def readFrom : Option (List Char) → List Char → List (Cell (List Char))
  | _, [] => []
  | none, c :: rest =>
    if c = '{' then readFrom (some []) rest else .letter c :: readFrom none rest
  | some name, c :: rest =>
    if c = '}' then .gap name.reverse :: readFrom none rest else readFrom (some (c :: name)) rest

/-- The cells of a template. -/
def read (chars : List Char) : List (Cell (List Char)) := readFrom none chars

/-- The text of cells, with the given texts in the gaps. -/
def write {Gap : Type} (values : Gap → List Char) (cells : List (Cell Gap)) : List Char :=
  cells.flatMap (Cell.text values)

/-- A gap as it stands in a template. -/
def unfilled (name : List Char) : List Char := '{' :: (name ++ ['}'])

/-- Whether braces stand around gaps only, and what is read can be written again. -/
def isSound (chars : List Char) : Bool :=
  write unfilled (read chars) == chars &&
    (read chars).all fun
      | .letter c => c != '{'
      | .gap name => !name.contains '{' && !name.contains '}'

variable {Gap : Type} {values : Gap → List Char}

theorem write_append (cells later : List (Cell Gap)) :
    write values (cells ++ later) = write values cells ++ write values later :=
  flatMap_append

theorem write_congr {values' : Gap → List Char} {cells : List (Cell Gap)}
    (same : ∀ name, .gap name ∈ cells → values name = values' name) :
    write values cells = write values' cells := by
  refine congrArg flatten (map_congr_left fun cell member => ?_)
  cases cell with
  | letter c => rfl
  | gap name => exact same name member

/-! ### Filling gaps -/

theorem takeWhile_name {name : List Char} (closed : '}' ∉ name) (rest : List Char) :
    (name ++ '}' :: rest).takeWhile (· != '}') = name := by
  have inside : ∀ c ∈ name, (c != '}') = true := by
    intro c member
    rw [bne_iff_ne]
    rintro rfl
    exact closed member
  rw [takeWhile_append_of_pos inside, takeWhile_cons, if_neg (by decide), append_nil]

/-- A gap is not taken for one with another name. -/
theorem replaceFrom_unfilled {name other replacement : List Char} (differs : name ≠ other)
    (closed : '}' ∉ name) (closedOther : '}' ∉ other) (opened : '{' ∉ other) (rest : List Char) :
    Text.replaceFrom (unfilled name) replacement 0 (unfilled other ++ rest) =
      unfilled other ++ Text.replaceFrom (unfilled name) replacement 0 rest := by
  have apart : (unfilled name).isPrefixOf (unfilled other ++ rest) = false := by
    rw [Bool.eq_false_iff, ne_eq, isPrefixOf_iff_prefix]
    rintro ⟨after, same⟩
    simp only [unfilled, cons_append, append_assoc, cons.injEq, true_and,
      nil_append] at same
    rw [← takeWhile_name closed after, same, takeWhile_name closedOther rest] at differs
    exact differs rfl
  have clear : '{' ∉ other ++ ['}'] := by
    rw [mem_append, mem_singleton, not_or]
    exact ⟨opened, by decide⟩
  show Text.replaceFrom (unfilled name) replacement 0 ('{' :: (other ++ ['}'] ++ rest)) = _
  rw [Text.replaceFrom, if_neg]
  · exact congrArg ('{' :: ·) (Text.replaceFrom_pass clear rest)
  · rw [← cons_append]
    exact fun here => Bool.false_ne_true (apart.symm.trans here)

/-- Filling the gaps of one name, where the others are filled or still gaps. -/
theorem replaceFrom_write {name replacement : List Char} (closed : '}' ∉ name)
    {cells : List (Cell (List Char))} (letters : ∀ c, .letter c ∈ cells → c ≠ '{')
    {before after : List Char → List Char}
    (gaps : ∀ gap, .gap gap ∈ cells →
      gap = name ∧ before gap = unfilled name ∧ after gap = replacement ∨
      '{' ∉ before gap ∧ after gap = before gap ∨
      gap ≠ name ∧ '}' ∉ gap ∧ '{' ∉ gap ∧ before gap = unfilled gap ∧ after gap = unfilled gap) :
    Text.replaceFrom (unfilled name) replacement 0 (write before cells) = write after cells := by
  induction cells with
  | nil => rfl
  | cons cell rest ih =>
    have later := ih (fun c member => letters c (mem_cons_of_mem _ member))
      fun gap member => gaps gap (mem_cons_of_mem _ member)
    show Text.replaceFrom _ _ 0 (cell.text before ++ write before rest) =
      cell.text after ++ write after rest
    rw [← later]
    cases cell with
    | letter c =>
      have clear : '{' ∉ [c] := fun member =>
        letters c mem_cons_self (mem_singleton.mp member).symm
      exact Text.replaceFrom_pass clear _
    | gap gap =>
      show Text.replaceFrom _ _ 0 (before gap ++ _) = after gap ++ _
      rcases gaps gap mem_cons_self with
        ⟨rfl, unfilled, filled⟩ | ⟨clear, same⟩ | ⟨differs, closed', opened, unfilled, same⟩
      · rw [unfilled, filled]
        exact Text.replaceFrom_here '{' _
      · rw [same]
        exact Text.replaceFrom_pass clear _
      · rw [unfilled, same]
        exact replaceFrom_unfilled differs.symm closed closed' opened _

/-- What is in a gap after some names were given texts. -/
def filled (values : List (String × String)) (name : List Char) : List Char :=
  match values.find? fun value => value.1.toList == name with
  | some value => value.2.toList
  | none => unfilled name

theorem filled_here (name text : String) (rest : List (String × String)) :
    filled ((name, text) :: rest) name.toList = text.toList := by
  rw [filled, find?_cons, beq_self_eq_true]

theorem filled_later {given : String} {name : List Char} (differs : given.toList ≠ name)
    (text : String) (rest : List (String × String)) :
    filled ((given, text) :: rest) name = filled rest name := by
  rw [filled, find?_cons, beq_false_of_ne differs]
  rfl

theorem toList_hole (name : String) : (Source.hole name).toList = unfilled name.toList := by
  simp [Source.hole, unfilled]

/-- To fill a template is to write its cells with texts in the gaps. -/
theorem fill_eq {template : String} (sound : isSound template.toList = true)
    {values : List (String × String)} (names : ∀ value ∈ values, '}' ∉ value.1.toList)
    (clear : ∀ value ∈ values, '{' ∉ value.2.toList) :
    (Source.fill template values).toList = write (filled values) (read template.toList) := by
  simp only [isSound, Bool.and_eq_true, beq_iff_eq, all_eq_true] at sound
  obtain ⟨written, plain⟩ := sound
  have letters (c : Char) (member : .letter c ∈ read template.toList) : c ≠ '{' := by
    simpa using plain _ member
  have gaps (gap : List Char) (member : .gap gap ∈ read template.toList) :
      '{' ∉ gap ∧ '}' ∉ gap := by
    simpa using plain _ member
  -- The texts given so far stand in their gaps, whichever texts are given later.
  have filling (early late : List (String × String)) (text : String)
      (names : ∀ value ∈ late, '}' ∉ value.1.toList)
      (clear : ∀ value ∈ early ++ late, '{' ∉ value.2.toList)
      (so : text.toList = write (filled early) (read template.toList)) :
      (late.foldl (fun text value => Text.replaceAll (Source.hole value.1) value.2 text)
        text).toList = write (filled (early ++ late)) (read template.toList) := by
    induction late generalizing early text with
    | nil => rwa [append_nil]
    | cons value late ih =>
      rw [foldl_cons, append_cons]
      refine ih (early ++ [value]) _
        (fun value member => names value (mem_cons_of_mem _ member))
        (by rwa [append_assoc, singleton_append]) ?_
      rw [Text.replaceAll, String.toList_ofList, so, toList_hole]
      refine replaceFrom_write (names value mem_cons_self) letters fun gap member => ?_
      cases found : early.find? fun value => value.1.toList == gap with
      | some known =>
        have kept : filled (early ++ [value]) gap = filled early gap := by
          rw [filled, filled, find?_append, found, Option.some_or]
        refine .inr (.inl ⟨?_, kept⟩)
        rw [filled, found]
        exact clear known (mem_append_left _ (mem_of_find?_eq_some found))
      | none =>
        have open' : filled early gap = unfilled gap := by rw [filled, found]
        by_cases same : value.1.toList = gap
        · subst same
          refine .inl ⟨rfl, open', ?_⟩
          rw [filled, find?_append, found, Option.none_or, find?_singleton,
            if_pos (beq_self_eq_true _)]
        · refine .inr (.inr ⟨fun same' => same same'.symm, (gaps gap member).2, (gaps gap member).1,
            open', ?_⟩)
          rw [filled, find?_append, found, Option.none_or, find?_singleton,
            if_neg (by simpa using same)]
  exact filling [] values template names clear written.symm

end Template

end CallGuard
