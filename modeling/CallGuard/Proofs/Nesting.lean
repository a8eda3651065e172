/-
Code as a reader sees it. Outside of quotes and comments, a text is read as names,
numbers, literals and symbols, and what stands between two brackets as a group.
In what is read, the names that the clauses of loops bind are told from those
that are used where no loop binds them. Texts that are read one after the other
are read as what each of them is read as, unless a name runs on.
-/
import CallGuard.Proofs.Script

namespace CallGuard

open List

/-! ### Atoms -/

/-- The smallest parts of code. -/
inductive Atom where
  | name (chars : List Char)
  | number
  | literal
  | symbol (c : Char)
  deriving DecidableEq

/-- Where the reader of a text is: in code, after the first letters of a name or number, in a quoted
literal, after a backslash there, or in a comment. -/
inductive Reader where
  | code (pending : List Char)
  | quote
  | escape
  | comment
  deriving DecidableEq

namespace Reader

/-- Whether a character belongs to names and numbers. -/
def isNamePart (c : Char) : Bool := c.isAlphanum || c == '_'

/-- The name or number that ends here. -/
def flush : List Char → List Atom
  | [] => []
  | c :: rest => [if c.isDigit then .number else .name (c :: rest)]

/-- Reads one character. -/
def step : Reader → Char → List Atom × Reader
  | code pending, c =>
    if isNamePart c then ([], code (pending ++ [c]))
    else if c = '\'' then (flush pending ++ [.literal], quote)
    else if c = '#' then (flush pending, comment)
    else if c.isWhitespace then (flush pending, code [])
    else (flush pending ++ [.symbol c], code [])
  | quote, c => ([], if c = '\\' then escape else if c = '\'' then code [] else quote)
  | escape, _ => ([], quote)
  | comment, c => ([], if c = '\n' then code [] else comment)

/-- Reads a text. -/
def scan : Reader → List Char → List Atom × Reader
  | reader, [] => ([], reader)
  | reader, c :: rest =>
    let later := (reader.step c).2.scan rest
    ((reader.step c).1 ++ later.1, later.2)

theorem scan_append (reader : Reader) (text rest : List Char) :
    reader.scan (text ++ rest) = ((reader.scan text).1 ++ ((reader.scan text).2.scan rest).1,
      ((reader.scan text).2.scan rest).2) := by
  induction text generalizing reader with
  | nil => rfl
  | cons c text ih =>
    simp only [cons_append, scan, ih, append_assoc]

end Reader

/-- The atoms of a text. -/
def Atom.read (text : List Char) : List Atom :=
  match (Reader.code []).scan text with
  | (found, .code pending) => found ++ Reader.flush pending
  | (found, _) => found

/-! ### Groups -/

/-- Code with its brackets in pairs. -/
inductive Code where
  | done
  | atom (first : Atom) (rest : Code)
  | group (bracket : Bracket) (inner rest : Code)
  deriving DecidableEq

/-- The bracket that an atom opens. -/
def Atom.opened? : Atom → Option Bracket
  | symbol c => [Bracket.round, .square, .curly].find? fun bracket => bracket.opening == c
  | _ => none

/-- The bracket that an atom closes. -/
def Atom.closed? : Atom → Option Bracket
  | symbol c => [Bracket.round, .square, .curly].find? fun bracket => bracket.closing == c
  | _ => none

namespace Code

def append : Code → Code → Code
  | done, after => after
  | atom first rest, after => atom first (append rest after)
  | group bracket inner rest, after => group bracket inner (append rest after)

instance : Append Code := ⟨append⟩

@[simp] theorem done_append (after : Code) : done ++ after = after := rfl

@[simp] theorem atom_append (first : Atom) (rest after : Code) :
    atom first rest ++ after = atom first (rest ++ after) := rfl

@[simp] theorem group_append (bracket : Bracket) (inner rest after : Code) :
    group bracket inner rest ++ after = group bracket inner (rest ++ after) := rfl

@[simp] theorem append_done (code : Code) : code ++ done = code := by
  induction code with
  | done => rfl
  | atom first rest ih => rw [atom_append, ih]
  | group bracket inner rest _ ih => rw [group_append, ih]

theorem append_assoc (first second third : Code) :
    first ++ second ++ third = first ++ (second ++ third) := by
  induction first with
  | done => rfl
  | atom first rest ih =>
    rw [atom_append, atom_append, ih, atom_append]
  | group bracket inner rest _ ih =>
    rw [group_append, group_append, ih, group_append]

/-- Reads one atom, after what was read of the groups that are open and of the innermost one. -/
def shift (first : Atom) (outer : List (Bracket × Code)) (current : Code) :
    Option (List (Bracket × Code) × Code) :=
  match first.opened?, first.closed? with
  | some bracket, _ => some ((bracket, current) :: outer, done)
  | none, none => some (outer, current ++ atom first done)
  | none, some bracket =>
    match outer with
    | [] => none
    | (opened, before) :: outer =>
      if bracket = opened then some (outer, before ++ group bracket current done) else none

/-- Pairs brackets. -/
def nest : List (Bracket × Code) → Code → List Atom → Option Code
  | outer, current, [] => if outer.isEmpty then some current else none
  | outer, current, first :: rest =>
    (shift first outer current).bind fun next => nest next.1 next.2 rest

/-- What a text is read as. -/
def read (text : List Char) : Option Code := nest [] done (Atom.read text)

section

variable (outer : List (Bracket × Code)) (current : Code)

/-- The innermost open group, if what is open stands after other code. -/
def onto (frames : List (Bracket × Code)) (inner : Code) : Code :=
  if frames.isEmpty then current ++ inner else inner

/-- The groups that are open, if they stand after other code. -/
def lift : List (Bracket × Code) → List (Bracket × Code)
  | [] => outer
  | (bracket, before) :: frames => (bracket, onto current frames before) :: lift frames

variable {outer current}

theorem onto_append (frames : List (Bracket × Code)) (inner more : Code) :
    onto current frames (inner ++ more) = onto current frames inner ++ more := by
  unfold onto
  split
  · rw [append_assoc]
  · rfl

theorem shift_lift {first : Atom} {frames frames' : List (Bracket × Code)} {inner inner' : Code}
    (shifted : shift first frames inner = some (frames', inner')) :
    shift first (lift outer current frames) (onto current frames inner) =
      some (lift outer current frames', onto current frames' inner') := by
  unfold shift at shifted ⊢
  split at shifted
  · cases shifted
    rfl
  · cases shifted
    rw [onto_append]
  · split at shifted
    · cases shifted
    · split at shifted
      · rename_i closes
        cases shifted
        rw [lift]
        dsimp only
        rw [if_pos closes, onto_append]
        rfl
      · cases shifted

/-- Atoms that are read as code by themselves are read as this code after others, too. -/
theorem nest_lift {atoms : List Atom} {frames : List (Bracket × Code)} {inner code : Code}
    (nested : nest frames inner atoms = some code) (rest : List Atom) :
    nest (lift outer current frames) (onto current frames inner) (atoms ++ rest) =
      nest outer (current ++ code) rest := by
  induction atoms generalizing frames inner with
  | nil =>
    cases frames with
    | nil =>
      cases nested
      rfl
    | cons _ _ => cases nested
  | cons first atoms ih =>
    obtain ⟨⟨frames', inner'⟩, shifted, nested⟩ := Option.bind_eq_some_iff.mp nested
    rw [cons_append, nest, shift_lift shifted]
    exact ih nested

end

/-! ### Names -/

/-- All names. -/
def names : Code → List (List Char)
  | done => []
  | atom (.name chars) rest => chars :: rest.names
  | atom _ rest => rest.names
  | group _ inner rest => inner.names ++ rest.names

def isAll (first : Atom) : Bool := first == .name "all".toList

/-- The names before the word `in`. -/
def listed : Code → List (List Char)
  | done => []
  | atom (.name chars) rest => if chars = "in".toList then [] else chars :: rest.listed
  | atom _ rest => rest.listed
  | group _ _ rest => rest.listed

/-- The names that the clause of a loop binds. -/
def clause : Code → List (List Char)
  | done => []
  | atom first rest => if first = .name "for".toList then rest.listed else rest.clause
  | group _ _ rest => rest.clause

/-- What stands after the word `in`. -/
def afterIn : Code → Code
  | done => done
  | atom first rest => if first = .name "in".toList then rest else rest.afterIn
  | group _ _ rest => rest.afterIn

/-- What the clause of a loop runs over. -/
def iterated : Code → Code
  | done => done
  | atom first rest => if first = .name "for".toList then rest.afterIn else rest.iterated
  | group _ _ rest => rest.iterated

/-- The names that are bound in a group which is what a function is called with, if the function is
`all`. -/
def bound (called : Bool) (bracket : Bracket) (inner : Code) : List (List Char) :=
  if called = true ∧ bracket = .round then inner.clause else []

/-- The names that loops bind in code that stands after a name, which may be `all`. -/
def bindingsAfter : Bool → Code → List (List Char)
  | _, done => []
  | _, atom first rest => rest.bindingsAfter (isAll first)
  | called, group bracket inner rest =>
    bound called bracket inner ++ inner.bindingsAfter false ++ rest.bindingsAfter false

/-- The names that are used where no loop binds them. A loop binds names in the conditions before
its clause, but not in what it runs over. -/
def unboundAfter : Bool → Code → List (List Char)
  | _, done => []
  | _, atom (.name chars) rest => chars :: rest.unboundAfter (isAll (.name chars))
  | _, atom first rest => rest.unboundAfter (isAll first)
  | called, group bracket inner rest =>
    (inner.unboundAfter false).filter (fun name => !(bound called bracket inner).contains name ||
      inner.iterated.names.contains name) ++ rest.unboundAfter false

/-- The names that loops bind, once for each loop. -/
def bindings (code : Code) : List (List Char) := code.bindingsAfter false

/-- The names that are used outside of the loops that bind them. -/
def unbound (code : Code) : List (List Char) := code.unboundAfter false

/-! ### Code after code -/

/-- Whether code ends in the name `all`, after a name that may be `all`. -/
def calls : Bool → Code → Bool
  | called, done => called
  | _, atom first rest => rest.calls (isAll first)
  | _, group _ _ rest => rest.calls false

theorem bindingsAfter_append (called : Bool) (first second : Code) :
    (first ++ second).bindingsAfter called =
      first.bindingsAfter called ++ second.bindingsAfter (first.calls called) := by
  induction first generalizing called with
  | done => rfl
  | atom _ rest ih => exact ih _
  | group bracket inner rest _ ih =>
    rw [group_append, bindingsAfter, ih, bindingsAfter, calls,
      List.append_assoc _ _ (second.bindingsAfter _)]

theorem unboundAfter_append (called : Bool) (first second : Code) :
    (first ++ second).unboundAfter called =
      first.unboundAfter called ++ second.unboundAfter (first.calls called) := by
  induction first generalizing called with
  | done => rfl
  | atom first rest ih =>
    cases first with
    | name chars => exact congrArg (chars :: ·) (ih _)
    | _ => exact ih _
  | group bracket inner rest _ ih =>
    rw [group_append, unboundAfter, ih, unboundAfter, calls,
      List.append_assoc _ _ (second.unboundAfter _)]

theorem calls_append (called : Bool) (first second : Code) :
    (first ++ second).calls called = second.calls (first.calls called) := by
  induction first generalizing called with
  | done => rfl
  | atom _ rest ih => exact ih _
  | group _ _ rest _ ih => exact ih _

theorem names_append (first second : Code) :
    (first ++ second).names = first.names ++ second.names := by
  induction first with
  | done => rfl
  | atom first rest ih =>
    cases first with
    | name chars => exact congrArg (chars :: ·) ih
    | _ => exact ih
  | group bracket inner rest _ ih =>
    rw [group_append, names, ih, names, List.append_assoc]

/-- No clause of a loop starts in the code, other than in a group. -/
def Clauseless : Code → Prop
  | done => True
  | atom first rest => first ≠ .name "for".toList ∧ rest.Clauseless
  | group _ _ rest => rest.Clauseless

theorem clause_append {first : Code} (clauseless : first.Clauseless) (second : Code) :
    (first ++ second).clause = second.clause := by
  induction first with
  | done => rfl
  | atom first rest ih =>
    rw [atom_append, clause, if_neg clauseless.1, ih clauseless.2]
  | group _ _ rest _ ih => exact ih clauseless

theorem iterated_append {first : Code} (clauseless : first.Clauseless) (second : Code) :
    (first ++ second).iterated = second.iterated := by
  induction first with
  | done => rfl
  | atom first rest ih =>
    rw [atom_append, iterated, if_neg clauseless.1, ih clauseless.2]
  | group _ _ rest _ ih => exact ih clauseless

theorem Clauseless.append {first second : Code} (clauseless : first.Clauseless)
    (clauseless' : second.Clauseless) : (first ++ second).Clauseless := by
  induction first with
  | done => exact clauseless'
  | atom _ _ ih => exact ⟨clauseless.1, ih clauseless.2⟩
  | group _ _ _ _ ih => exact ih clauseless

theorem mem_names_of_unboundAfter {code : Code} {called : Bool} {name : List Char}
    (member : name ∈ code.unboundAfter called) : name ∈ code.names := by
  induction code generalizing called with
  | done => cases member
  | atom first rest ih =>
    cases first with
    | name chars =>
      rcases mem_cons.mp member with rfl | member
      · exact mem_cons_self
      · exact mem_cons_of_mem _ (ih member)
    | _ => exact ih member
  | group bracket inner rest inside ih =>
    rcases mem_append.mp member with member | member
    · exact mem_append_left _ (inside (mem_of_mem_filter member))
    · exact mem_append_right _ (ih member)

/-- Where loops bind nothing, all names are used outside of loops. -/
theorem mem_unboundAfter_of_names {code : Code} {called : Bool}
    (binding : code.bindingsAfter called = []) {name : List Char} (member : name ∈ code.names) :
    name ∈ code.unboundAfter called := by
  induction code generalizing called with
  | done => cases member
  | atom first rest ih =>
    cases first with
    | name chars =>
      rcases mem_cons.mp member with rfl | member
      · exact mem_cons_self
      · exact mem_cons_of_mem _ (ih binding member)
    | _ => exact ih binding member
  | group bracket inner rest inside ih =>
    rw [bindingsAfter, append_eq_nil_iff, append_eq_nil_iff] at binding
    obtain ⟨⟨none, within⟩, later⟩ := binding
    rcases mem_append.mp member with member | member
    · refine mem_append_left _ (mem_filter.mpr ⟨inside within member, ?_⟩)
      rw [none]
      rfl
    · exact mem_append_right _ (ih later member)

end Code

/-! ### Texts that are read as code -/

/-- The text is read as the code, up to a name or number at its end that may go on. -/
def ReadsUpTo (pending text : List Char) (code : Code) : Prop :=
  ∃ found, (Reader.code []).scan text = (found, .code pending) ∧
    ∀ outer current rest, Code.nest outer current (found ++ Reader.flush pending ++ rest) =
      Code.nest outer (current ++ code) rest

/-- The text is read as the code. -/
def Reads (text : List Char) (code : Code) : Prop := ∃ pending, ReadsUpTo pending text code

/-- The text does not start with a part of a name. -/
def Apart (text : List Char) : Prop := ∀ c ∈ text.head?, Reader.isNamePart c = false

variable {text : List Char} {chars : List Char}

theorem Reads.read {code : Code} (reads : Reads text code) :
    Code.read text = some code := by
  obtain ⟨pending, found, scanned, nested⟩ := reads
  have whole := nested [] .done []
  rw [append_nil] at whole
  rw [Code.read, Atom.read, scanned]
  exact whole

theorem reads_nil : ReadsUpTo [] [] .done := ⟨[], rfl, fun _ _ _ => by rw [Code.append_done]; rfl⟩

theorem Reader.scan_pending {c : Char} (other : isNamePart c = false) (pending rest : List Char) :
    (code pending).scan (c :: rest) =
      (flush pending ++ ((code []).scan (c :: rest)).1, ((code []).scan (c :: rest)).2) := by
  have step : (code pending).step c =
      (flush pending ++ ((code []).step c).1, ((code []).step c).2) := by
    simp only [Reader.step, other, if_neg Bool.false_ne_true]
    split
    · rfl
    split
    · rw [flush, append_nil]
    split
    · rw [flush, append_nil]
    · rfl
  rw [scan, scan, step, append_assoc]

/-- After text that is over, text is read as by itself. -/
theorem ReadsUpTo.append {first second pending : List Char} {code code' : Code}
    (closed : ReadsUpTo [] first code) (reads : ReadsUpTo pending second code') :
    ReadsUpTo pending (first ++ second) (code ++ code') := by
  obtain ⟨found, scanned, nested⟩ := closed
  obtain ⟨found', scanned', nested'⟩ := reads
  refine ⟨found ++ found', ?_, fun outer current rest => ?_⟩
  · rw [Reader.scan_append, scanned, scanned']
  · have joined := nested outer current (found' ++ Reader.flush pending ++ rest)
    rw [nested', Reader.flush, append_nil] at joined
    rw [← Code.append_assoc, ← joined]
    simp only [append_assoc]

/-- Text that starts with no part of a name is read as by itself. -/
theorem Reads.append {first second : List Char} {code code' : Code} (reads : Reads first code)
    (reads' : Reads second code') (apart : Apart second) :
    Reads (first ++ second) (code ++ code') := by
  obtain ⟨middle, found, scanned, nested⟩ := reads
  obtain ⟨pending, found', scanned', nested'⟩ := reads'
  cases second with
  | nil =>
    cases scanned'
    refine ⟨middle, found, ?_, fun outer current rest => ?_⟩
    · rwa [append_nil]
    · rw [nested, ← Code.append_assoc]
      exact nested' outer (current ++ code) rest
  | cons c second =>
    refine ⟨pending, found ++ (Reader.flush middle ++ found'), ?_, fun outer current rest => ?_⟩
    · rw [Reader.scan_append, scanned, Reader.scan_pending (apart c rfl), scanned']
    · have joined := nested outer current (found' ++ Reader.flush pending ++ rest)
      rw [nested'] at joined
      rw [← Code.append_assoc, ← joined]
      simp only [append_assoc]

/-- A text that is read to its end is read as this code wherever it stands. -/
theorem reads_of_read {text pending : List Char} {found : List Atom} {code : Code}
    (scanned : (Reader.code []).scan text = (found, .code pending))
    (nested : Code.nest [] .done (found ++ Reader.flush pending) = some code) :
    ReadsUpTo pending text code := by
  refine ⟨found, scanned, fun outer current rest => ?_⟩
  have lifted := @Code.nest_lift outer current _ _ _ _ nested rest
  rwa [Code.onto, if_pos isEmpty_nil, Code.append_done] at lifted

/-- Whether a name may go on after a text is seen at its end. -/
theorem Reads.closed {code : Code} (reads : Reads text code)
    (ended : ((Reader.code []).scan text).2 = .code []) : ReadsUpTo [] text code := by
  obtain ⟨pending, found, scanned, nested⟩ := reads
  rw [scanned] at ended
  cases ended
  exact ⟨found, scanned, nested⟩

/-- Brackets around text make a group of what the text is read as. -/
theorem Reads.group {inner : Code} (reads : Reads text inner)
    (bracket : Bracket) :
    ReadsUpTo [] (bracket.opening :: (text ++ [bracket.closing])) (.group bracket inner .done) := by
  obtain ⟨pending, found, scanned, nested⟩ := reads
  have opening : (Reader.code []).step bracket.opening =
      ([.symbol bracket.opening], .code []) := by
    cases bracket <;> rfl
  have closing : (Reader.code []).scan [bracket.closing] =
      ([.symbol bracket.closing], .code []) := by
    cases bracket <;> rfl
  have other : Reader.isNamePart bracket.closing = false := by cases bracket <;> rfl
  refine ⟨.symbol bracket.opening :: (found ++ (Reader.flush pending ++
    [.symbol bracket.closing])), ?_, fun outer current rest => ?_⟩
  · rw [Reader.scan, opening, Reader.scan_append, scanned, Reader.scan_pending other, closing]
    rfl
  · have inside := nested ((bracket, current) :: outer) .done (.symbol bracket.closing :: rest)
    have opened (atoms : List Atom) : Code.nest outer current (.symbol bracket.opening :: atoms) =
        Code.nest ((bracket, current) :: outer) .done atoms := by
      cases bracket <;> rfl
    have ended : Code.nest ((bracket, current) :: outer) (.done ++ inner)
        (.symbol bracket.closing :: rest) =
          Code.nest outer (current ++ .group bracket inner .done) rest := by
      cases bracket <;> rfl
    rw [← ended, ← inside, cons_append, cons_append, opened, Reader.flush, append_nil]
    simp only [append_assoc, singleton_append]

/-! ### Names, literals and flat texts -/

namespace Reader

/-- Whether the characters are a name. -/
def isName : List Char → Bool
  | [] => false
  | c :: rest => !c.isDigit && (c :: rest).all isNamePart

theorem scan_nameParts {chars : List Char} (parts : ∀ c ∈ chars, isNamePart c = true)
    (pending : List Char) : (code pending).scan chars = ([], code (pending ++ chars)) := by
  induction chars generalizing pending with
  | nil => rw [append_nil]; rfl
  | cons c chars ih =>
    obtain ⟨first, later⟩ := forall_mem_cons.mp parts
    rw [scan, step, if_pos first, ih later, append_assoc]
    rfl

theorem scan_bodied {body : List Char} (bodied : Token.Bodied '\'' body) :
    quote.scan body = ([], quote) := by
  induction bodied with
  | nil => rfl
  | plain noBackslash noQuote _ ih =>
    rw [scan, step, if_neg noBackslash, if_neg noQuote, ih]
    rfl
  | escaped _ ih =>
    rw [scan, step, if_pos rfl, scan, step, ih]
    rfl

end Reader

theorem reads_name (named : Reader.isName chars = true) :
    ReadsUpTo chars chars (.atom (.name chars) .done) := by
  cases chars with
  | nil => cases named
  | cons c chars =>
    rw [Reader.isName, Bool.and_eq_true, Bool.not_eq_true', all_eq_true] at named
    refine ⟨[], Reader.scan_nameParts named.2 [], fun outer current rest => ?_⟩
    rw [Reader.flush, named.1]
    rfl

theorem closes_quote {body : List Char} (bodied : Token.Bodied '\'' body) :
    ReadsUpTo [] ('\'' :: (body ++ ['\''])) (.atom .literal .done) := by
  refine ⟨[.literal], ?_, fun outer current rest => rfl⟩
  rw [Reader.scan, show (Reader.code []).step '\'' = ([.literal], .quote) from rfl,
    Reader.scan_append, Reader.scan_bodied bodied]
  rfl

/-- Neither quotes nor comments nor brackets are in the text. -/
def isFlat (c : Char) : Bool :=
  c != '\'' && c != '#' && (Atom.symbol c).opened?.isNone && (Atom.symbol c).closed?.isNone

/-- The atoms one after the other. -/
def Code.ofAtoms : List Atom → Code
  | [] => done
  | first :: rest => atom first (ofAtoms rest)

theorem Code.nest_ofAtoms {atoms : List Atom}
    (flat : ∀ first ∈ atoms, first.opened? = none ∧ first.closed? = none)
    (outer : List (Bracket × Code)) (current : Code) (rest : List Atom) :
    nest outer current (atoms ++ rest) = nest outer (current ++ ofAtoms atoms) rest := by
  induction atoms generalizing current with
  | nil => rw [ofAtoms, append_done]; rfl
  | cons first atoms ih =>
    obtain ⟨here, later⟩ := forall_mem_cons.mp flat
    rw [cons_append, nest, shift, here.1, here.2]
    dsimp only [Option.bind_some]
    rw [ih later, append_assoc]
    rfl

/-- The atoms of a flat text are flat, and names in it have its characters only. -/
theorem Reader.scan_flat (flat : ∀ c ∈ chars, isFlat c = true)
    (pending : List Char) :
    ∃ found last, (code pending).scan chars = (found, code last) ∧
      (∀ first ∈ found ++ flush last, first.opened? = none ∧ first.closed? = none) ∧
      ∀ name, .name name ∈ found ++ flush last → ∀ c ∈ name, c ∈ pending ++ chars := by
  have flushed (pending : List Char) : (∀ first ∈ flush pending,
      first.opened? = none ∧ first.closed? = none) ∧
      ∀ name, .name name ∈ flush pending → name = pending := by
    cases pending with
    | nil => exact ⟨forall_mem_nil _, fun _ member => absurd member not_mem_nil⟩
    | cons c rest =>
      rw [flush]
      split
      · exact ⟨forall_mem_singleton.mpr ⟨rfl, rfl⟩, fun name member => by simp at member⟩
      · exact ⟨forall_mem_singleton.mpr ⟨rfl, rfl⟩, fun name member => by simpa using member⟩
  induction chars generalizing pending with
  | nil =>
    refine ⟨[], pending, rfl, (flushed pending).1, fun name member c inside => ?_⟩
    rw [append_nil, ← (flushed pending).2 name member]
    exact inside
  | cons c chars ih =>
    obtain ⟨here, later⟩ := forall_mem_cons.mp flat
    simp only [isFlat, Bool.and_eq_true, bne_iff_ne, Option.isNone_iff_eq_none] at here
    by_cases part : isNamePart c = true
    · obtain ⟨found, last, scanned, plain, named⟩ := ih later (pending ++ [c])
      refine ⟨found, last, ?_, plain, fun name member d inside => ?_⟩
      · rw [scan, step, if_pos part, scanned]
        rfl
      · have member := named name member d inside
        rwa [append_assoc] at member
    · obtain ⟨found, last, scanned, plain, named⟩ := ih later []
      have step : ∃ symbols : List Atom, (code pending).step c =
          (flush pending ++ symbols, code []) ∧ ∀ first ∈ symbols, first = .symbol c := by
        rw [Reader.step, if_neg part, if_neg here.1.1.1, if_neg here.1.1.2]
        split
        · exact ⟨[], by rw [append_nil], forall_mem_nil _⟩
        · exact ⟨[.symbol c], rfl, fun _ => mem_singleton.mp⟩
      obtain ⟨symbols, stepped, only⟩ := step
      refine ⟨flush pending ++ symbols ++ found, last, ?_, fun first member => ?_,
        fun name member d inside => ?_⟩
      · rw [scan, stepped, scanned]
      · rw [append_assoc, append_assoc] at member
        rcases mem_append.mp member with member | member
        · exact (flushed pending).1 first member
        rcases mem_append.mp member with member | member
        · rw [only first member]
          exact ⟨here.1.2, here.2⟩
        · exact plain first member
      · rw [append_assoc, append_assoc] at member
        rcases mem_append.mp member with member | member
        · rw [(flushed pending).2 name member] at inside
          exact mem_append_left _ inside
        rcases mem_append.mp member with member | member
        · cases only _ member
        · exact mem_append_right _ (mem_cons_of_mem _ (named name member d inside))

/-- A flat text is read as its atoms. -/
theorem reads_flat (flat : ∀ c ∈ chars, isFlat c = true) :
    Reads chars (.ofAtoms (Atom.read chars)) := by
  obtain ⟨found, last, scanned, plain, -⟩ := Reader.scan_flat flat []
  refine ⟨last, found, scanned, fun outer current rest => ?_⟩
  rw [Atom.read, scanned]
  exact Code.nest_ofAtoms plain outer current rest

theorem mem_of_mem_read_flat {chars name : List Char} (flat : ∀ c ∈ chars, isFlat c = true)
    (member : .name name ∈ Atom.read chars) : ∀ c ∈ name, c ∈ chars := by
  obtain ⟨found, last, scanned, -, named⟩ := Reader.scan_flat flat []
  rw [Atom.read, scanned] at member
  exact named name member

end CallGuard
