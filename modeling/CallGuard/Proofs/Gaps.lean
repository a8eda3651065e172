/-
Templates as code. What the templates of a guard are read as does not depend on
the numbers and the names that go into their gaps, so it is found out by reading
them once. None of them binds names in loops or uses names that loops bind, and
only some of them use the number of arguments or the integer of the call.
-/
import CallGuard.Proofs.Scope

namespace CallGuard

open Template Reader

/-! ### Reading templates -/

namespace Reader

/-- A number is being read. -/
def IsNumber (pending : List Char) : Prop := ∃ c rest, pending = c :: rest ∧ c.isDigit = true

/-- The readers are in one place, but may be in different numbers. -/
inductive Alike : Reader → Reader → Prop
  | same (reader : Reader) : Alike reader reader
  | numbers {pending pending' : List Char} (number : IsNumber pending)
    (number' : IsNumber pending') : Alike (code pending) (code pending')

theorem IsNumber.flush {pending : List Char} (number : IsNumber pending) :
    flush pending = [.number] := by
  obtain ⟨c, rest, rfl, digit⟩ := number
  rw [Reader.flush, if_pos digit]

theorem IsNumber.append {pending : List Char} (number : IsNumber pending) (more : List Char) :
    IsNumber (pending ++ more) := by
  obtain ⟨c, rest, rfl, digit⟩ := number
  exact ⟨c, rest ++ more, rfl, digit⟩

variable {reader reader' : Reader}

theorem Alike.step (alike : Alike reader reader') (c : Char) :
    (reader.step c).1 = (reader'.step c).1 ∧ Alike (reader.step c).2 (reader'.step c).2 := by
  cases alike with
  | same => exact ⟨rfl, .same _⟩
  | numbers number number' =>
    simp only [step, number.flush, number'.flush]
    split
    · exact ⟨rfl, .numbers (number.append _) (number'.append _)⟩
    · exact ⟨rfl, .same _⟩

theorem Alike.eq_code (alike : Alike reader (code [])) : reader = code [] := by
  cases alike with
  | same => rfl
  | numbers _ number' =>
    obtain ⟨_, _, absurd, _⟩ := number'
    cases absurd

/-- Texts that are read in the same way where code starts anew. -/
def Swaps (text text' : List Char) : Prop :=
  ((code []).scan text).1 = ((code []).scan text').1 ∧
    Alike ((code []).scan text).2 ((code []).scan text').2

variable {Gap : Type}

/-- Whether code starts anew at each gap, for the given texts in the gaps. -/
def meets (samples : Gap → List Char) : Reader → List (Cell Gap) → Bool
  | _, [] => true
  | reader, .letter c :: rest => (reader.step c).2.meets samples rest
  | reader, .gap name :: rest =>
    reader == code [] && (reader.scan (samples name)).2.meets samples rest

/-- What is in the gaps of a template may be swapped. -/
theorem Alike.scan_write {values samples : Gap → List Char} {cells : List (Cell Gap)}
    (alike : Alike reader reader') (meets : reader'.meets samples cells = true)
    (swaps : ∀ name, .gap name ∈ cells → Swaps (values name) (samples name)) :
    (reader.scan (write values cells)).1 =
        (reader'.scan (write samples cells)).1 ∧
      Alike (reader.scan (write values cells)).2
        (reader'.scan (write samples cells)).2 := by
  induction cells generalizing reader reader' with
  | nil => exact ⟨rfl, alike⟩
  | cons cell rest ih =>
    have later {next next' : Reader} (alike : Alike next next')
        (meets : next'.meets samples rest = true) := ih alike meets
      fun name member => swaps name (List.mem_cons_of_mem _ member)
    show (reader.scan (cell.text values ++ write values rest)).1 =
      (reader'.scan (cell.text samples ++ write samples rest)).1 ∧
      Alike (reader.scan (cell.text values ++ write values rest)).2
        (reader'.scan (cell.text samples ++ write samples rest)).2
    cases cell with
    | letter c =>
      obtain ⟨same, next⟩ := alike.step c
      obtain ⟨same', last⟩ := later next meets
      exact ⟨congrArg₂ (· ++ ·) same same', last⟩
    | gap name =>
      rw [Reader.meets, Bool.and_eq_true, beq_iff_eq] at meets
      obtain ⟨rfl, meets⟩ := meets
      cases alike.eq_code
      obtain ⟨same, next⟩ := swaps name List.mem_cons_self
      obtain ⟨same', last⟩ := later next meets
      rw [scan_append, scan_append]
      exact ⟨congrArg₂ (· ++ ·) same same', last⟩

end Reader

theorem Reader.Alike.flush {reader : Reader} {pending : List Char}
    (alike : Alike reader (code pending)) :
    ∃ pending', reader = code pending' ∧ flush pending' = flush pending := by
  cases alike with
  | same => exact ⟨pending, rfl, rfl⟩
  | numbers number number' => exact ⟨_, rfl, by rw [number.flush, number'.flush]⟩

/-! ### Templates -/

namespace Code

/-- Whether code binds nothing and uses nothing that loops bind, and of what a guard gets ready no
more than is given. -/
def isPlain (ready : List (List Char)) (code : Code) : Bool :=
  code.bindings.isEmpty && !code.calls false && code.names.all fun name =>
    !isLocal name && (!prepared.contains name || ready.contains name)

theorem scoped_of_isPlain {ready : List (List Char)} {code : Code}
    (plain : code.isPlain ready = true) : code.Scoped [] (fun _ => False) (· ∈ ready) := by
  simp only [isPlain, Bool.and_eq_true, List.isEmpty_iff, Bool.not_eq_true', List.all_eq_true,
    Bool.or_eq_true, List.contains_eq_mem, decide_eq_false_iff_not, decide_eq_true_eq] at plain
  obtain ⟨⟨bindings, calls⟩, each⟩ := plain
  refine ⟨bindings, fun number member => ?_, fun name member prepared => ?_, calls⟩
  · cases (isLocal_localName number).symm.trans (each _ (mem_names_of_unboundAfter member)).1
  · exact (each name member).2.resolve_left fun absent => absent prepared

end Code

namespace Source

/-- Whether a template with the given texts in its gaps is read as code that binds nothing, whatever
texts of the same kind are in the gaps. -/
def isReadable {Gap : Type} (samples : Gap → List Char) (ready : List (List Char))
    (cells : List (Cell Gap)) : Bool :=
  (code []).meets samples cells &&
    ((code []).scan (write samples cells)).2 matches .code _ &&
    (Code.read (write samples cells)).any (Code.isPlain ready)

theorem exists_reads_write {Gap : Type} {values samples : Gap → List Char}
    {ready : List (List Char)} {cells : List (Cell Gap)}
    (readable : isReadable samples ready cells = true)
    (swaps : ∀ name, .gap name ∈ cells → Reader.Swaps (values name) (samples name)) :
    ∃ code, Reads (write values cells) code ∧
      code.Scoped [] (fun _ => False) (· ∈ ready) := by
  rw [isReadable, Bool.and_eq_true, Bool.and_eq_true, Option.any_eq_true] at readable
  obtain ⟨⟨meets, ends⟩, code, read, plain⟩ := readable
  obtain ⟨same, alike⟩ := (Reader.Alike.same (.code [])).scan_write meets swaps
  refine ⟨code, ?_, Code.scoped_of_isPlain plain⟩
  rw [Code.read, Atom.read] at read
  rcases scanned : (Reader.code []).scan (write samples cells) with ⟨found, reader⟩
  rw [scanned] at same alike read ends
  cases reader with
  | code pending =>
    obtain ⟨pending', last, flushed⟩ := alike.flush
    have scanned' : (Reader.code []).scan (write values cells) = (found, .code pending') :=
      Prod.ext same last
    refine ⟨pending', reads_of_read scanned' ?_⟩
    rw [flushed]
    exact read
  | _ => cases ends

/-! ### Statements -/

/-- The text starts on a line of its own and is read as code whose loops bind the names with the
given numbers, that uses them inside of these loops only, and that uses what a guard gets ready only
if it is among what is given. -/
def Stating (numbers : List Nat) (ready : List (List Char)) (text : List Char) : Prop :=
  (∀ c ∈ text.head?, c = '\n') ∧
    ∃ code, Reads text code ∧ code.Scoped numbers (fun _ => False) (· ∈ ready)

variable {numbers numbers' : List Nat} {ready ready' : List (List Char)} {text text' : List Char}

theorem apart_of_line (line : ∀ c ∈ text.head?, c = '\n') : Apart text := by
  intro c found
  rw [line c found]
  rfl

theorem stating_nil : Stating [] ready [] :=
  ⟨nofun, .done, ⟨_, reads_nil⟩, Code.phrase_done.toScoped⟩

/-- What is got ready if the number of arguments and the integer of the call are wanted. -/
def readied (counts random : Bool) : List (List Char) :=
  (if counts then [countName.toList] else []) ++ if random then [randomName.toList] else []

theorem mem_readied {counts random : Bool} {name : List Char} :
    name ∈ readied counts random ↔
      counts = true ∧ name = countName.toList ∨ random = true ∧ name = randomName.toList := by
  cases counts <;> cases random <;> simp [readied]

theorem readied_subset {counts counts' random random' : Bool}
    (left : counts = true → counts' = true) (right : random = true → random' = true) :
    readied counts random ⊆ readied counts' random' :=
  fun _ member => mem_readied.mpr ((mem_readied.mp member).imp (.imp_left left) (.imp_left right))

theorem Stating.mono (states : Stating numbers ready text) (more : ready ⊆ ready') :
    Stating numbers ready' text := by
  obtain ⟨line, code, reads, scope⟩ := states
  exact ⟨line, code, reads, scope.mono (fun _ => id) fun _ known => more known⟩

theorem Stating.append (states : Stating numbers ready text)
    (states' : Stating numbers' ready text') :
    Stating (numbers ++ numbers') ready (text ++ text') := by
  obtain ⟨line, code, reads, scope⟩ := states
  obtain ⟨line', code', reads', scope'⟩ := states'
  refine ⟨fun c found => ?_, code ++ code', reads.append reads' (apart_of_line line'),
    scope.append scope'⟩
  cases text with
  | nil => exact line' c found
  | cons c text => exact line _ found

/-! ### Templates without gaps -/

theorem stating_letters {template : String} {chars : List Char}
    (same : template = String.ofList chars) (line : ∀ c ∈ chars.head?, c = '\n')
    (readable : isReadable Empty.elim ready (chars.map (Cell.letter : Char → Cell Empty)) = true) :
    Stating [] ready template.toList := by
  have reads := @exists_reads_write Empty Empty.elim Empty.elim ready _ readable nofun
  rw [write_letters] at reads
  rw [same, String.toList_ofList]
  exact ⟨line, reads⟩

theorem stating_countArguments : Stating [] (readied true false) countArguments.toList :=
  stating_letters (chars_append (chars_append rfl rfl) rfl) (by decide) (by decide +kernel)

theorem stating_drawRandom : Stating [] (readied false true) drawRandom.toList :=
  stating_letters (chars_append (chars_append rfl rfl) rfl) (by decide) (by decide +kernel)

theorem stating_callBeforeTest : Stating [] [] callBeforeTest.toList :=
  stating_letters (by repeat' first | apply chars_append | rfl) (by decide) (by decide +kernel)

theorem stating_returnTested : Stating [] [] returnTested.toList :=
  stating_letters (chars_append rfl rfl) (by decide) (by decide +kernel)

theorem stating_returnUntested : Stating [] [] returnUntested.toList :=
  stating_letters (chars_append (chars_append (chars_append rfl rfl) rfl) rfl) (by decide)
    (by decide +kernel)

theorem stating_neverReturn : Stating [] [] neverReturn.toList :=
  stating_letters (by repeat' first | apply chars_append | rfl)
    (by decide) (by decide +kernel)

/-! ### Bound arguments -/

theorem swaps_number (number number' : Nat) :
    Reader.Swaps (toString number).toList (toString number').toList := by
  have scanned (number : Nat) : (code []).scan (toString number).toList =
      ([], .code (Nat.toDigits 10 number)) := by
    rw [show (toString number).toList = Nat.toDigits 10 number from Nat.toList_repr]
    refine scan_nameParts (fun c member => ?_) []
    rw [isNamePart, Char.isAlphanum, Text.isDigit_of_mem_toDigits c member, Bool.or_true,
      Bool.true_or]
  have isNumber (number : Nat) : Reader.IsNumber (Nat.toDigits 10 number) := by
    have digits := @Text.isDigit_of_mem_toDigits number
    cases shown : Nat.toDigits 10 number with
    | nil => exact absurd shown Nat.toDigits_ne_nil
    | cons c rest => exact ⟨c, rest, rfl, digits c (shown ▸ List.mem_cons_self)⟩
  rw [Reader.Swaps, scanned, scanned]
  exact ⟨rfl, .numbers (isNumber number) (isNumber number')⟩

theorem swaps_name (name name' : String) :
    Reader.Swaps (Text.quotedWithoutBraces name).toList
      (Text.quotedWithoutBraces name').toList := by
  have scanned (name : String) : (code []).scan (Text.quotedWithoutBraces name).toList =
      ([.literal], .code []) := by
    rw [Text.quotedWithoutBraces, String.toList_ofList]
    show (code []).scan ('\'' :: (_ ++ ['\''])) = _
    rw [scan, show (code []).step '\'' = ([.literal], .quote) from rfl,
      scan_append, scan_bodied
        (Token.bodied_flatMap Text.bodied_escapedWithoutBraces)]
    rfl
  rw [Reader.Swaps, scanned, scanned]
  exact ⟨rfl, .same _⟩

/-- Whether a template has gaps for the position and the name of an argument only, and is read as
code that binds nothing. -/
def isNaming (ready : List (List Char)) (chars : List Char) : Bool :=
  isSound chars && isReadable (argument 0 "") ready (read chars) &&
    ((read chars).all fun
      | .letter _ => true
      | .gap name => ["arg_index".toList, "arg_name".toList].contains name) &&
    (read chars).head? == some (.letter '\n')

theorem stating_of_isNaming {template : String} {chars : List Char}
    (same : template = String.ofList chars) (naming : isNaming ready chars = true) (index : Nat)
    (name : String) :
    Stating [] ready (fill template [("arg_index", toString index),
      ("arg_name", Text.quotedWithoutBraces name)]).toList := by
  simp only [isNaming, Bool.and_eq_true, List.all_eq_true, beq_iff_eq] at naming
  obtain ⟨⟨⟨sound, readable⟩, gaps⟩, line⟩ := naming
  rw [← @String.toList_ofList chars, ← same] at sound readable gaps line
  rw [fill_argument sound fun gap member => List.contains_iff_mem.mp (gaps _ member)]
  refine ⟨fun c found => ?_, exists_reads_write readable fun gap _ => ?_⟩
  · cases cells : read template.toList with
    | nil =>
      rw [cells] at line
      cases line
    | cons cell rest =>
      rw [cells] at line found
      cases line
      cases found
      rfl
  · unfold argument
    split
    · exact swaps_number index 0
    · exact swaps_name name ""

theorem stating_bindArgument {kind : ParameterKind} (other : kind ≠ .variadicKeyword) (index : Nat)
    (name : String) :
    Stating [] (readied kind.takesPosition false)
      (fill ((bindArgument kind).getD "") [("arg_index", toString index),
        ("arg_name", Text.quotedWithoutBraces name)]).toList := by
  cases kind with
  | variadicKeyword => exact absurd rfl other
  | _ =>
    exact stating_of_isNaming (by repeat' first | apply chars_append | rfl) (by decide +kernel)
      index name

/-! ### Tests -/

theorem closes_testOpening :
    ∃ code, ReadsUpTo [] testOpening.toList code ∧
      code.Scoped [] (fun _ => False) (· ∈ ([] : List (List Char))) := by
  have shown : ∃ chars, testOpening = String.ofList chars ∧
      isReadable Empty.elim [] (chars.map (Cell.letter : Char → Cell Empty)) = true ∧
        ((code []).scan chars).2 = .code [] :=
    ⟨_, chars_append (chars_append (chars_append rfl rfl) rfl) rfl, by decide +kernel,
      by decide +kernel⟩
  obtain ⟨chars, same, readable, ended⟩ := shown
  obtain ⟨code, reads, scope⟩ :=
    @exists_reads_write Empty Empty.elim Empty.elim [] _ readable nofun
  rw [write_letters] at reads
  rw [same, String.toList_ofList]
  exact ⟨code, reads.closed ended, scope⟩

theorem isReadable_of_chars {start rest : String} {chars chars' : List Char}
    (same : start = String.ofList chars) (same' : rest = String.ofList chars')
    (readable : isReadable (fun _ => (Text.quotedWithoutBraces "").toList) ready
      (chars.map .letter ++ .gap () :: chars'.map .letter) = true) :
    isReadable (fun _ => (Text.quotedWithoutBraces "").toList) ready
      (start.toList.map .letter ++ .gap () :: rest.toList.map .letter) = true := by
  rwa [same, same', String.toList_ofList, String.toList_ofList]

theorem isReadable_raisingCells (random : Bool) :
    isReadable (fun _ => (Text.quotedWithoutBraces "").toList) (readied false random)
      (raisingCells random) = true := by
  cases random with
  | true =>
    exact isReadable_of_chars (chars_append rfl rfl)
      (chars_append (chars_append rfl (chars_append rfl rfl)) rfl) (by decide +kernel)
  | false =>
    exact isReadable_of_chars (chars_append rfl rfl) (chars_append (chars_append rfl rfl) rfl)
      (by decide +kernel)

/-- The block of a test, after its colon. -/
theorem exists_reads_raising (random : Bool) (name : String) :
    ∃ code, Reads (':' :: write (fun _ => (Text.quotedWithoutBraces name).toList)
      (raisingCells random)) code ∧
        code.Scoped [] (fun _ => False) (· ∈ readied false random) := by
  obtain ⟨code, ⟨pending, reads⟩, scope⟩ := exists_reads_write (isReadable_raisingCells random)
    fun _ _ => swaps_name name ""
  have colon : ReadsUpTo [] [':'] (.atom (.symbol ':') .done) :=
    ⟨[.symbol ':'], rfl, fun _ _ _ => rfl⟩
  have plain : (Code.atom (.symbol ':') .done).Scoped [] (fun _ => False)
      (· ∈ readied false random) := ⟨rfl, nofun, nofun, rfl⟩
  exact ⟨_, ⟨pending, colon.append reads⟩, plain.append scope⟩

end Source

end CallGuard
