/-
Names in their places. The text of a script is read as the code of the script. In
code, names are in their places if the loops bind names with given numbers, one
after the other, and such a name is used nowhere but in the loop that binds it,
unless it is allowed, say because a loop around the code binds it. Whatever
scripts are put together from, names are in their places if they are so in its
parts.
-/
import CallGuard.Proofs.Nesting
import CallGuard.Proofs.Verification

namespace CallGuard

open Source List Code Piece

/-! ### The code of scripts -/

def Piece.code : Piece → Code
  | word text => .atom (.name text.toList) .done
  | mark text => .ofAtoms (Atom.read text.toList)
  | numeral chars => .ofAtoms (Atom.read chars)
  | quote _ => .atom .literal .done
  | value => .atom (.name rootName.toList) .done
  | bound number => .atom (.name (localName number)) .done

/-- What the text of a script is read as. -/
def Script.code : Script → Code
  | done => .done
  | piece first rest => first.code ++ rest.code
  | group bracket inner rest => .group bracket inner.code rest.code
  | line _ rest => rest.code

theorem isName_localName (number : Nat) : Reader.isName (localName number) = true := by
  have digits : (Nat.toDigits 10 number).all Reader.isNamePart = true := by
    rw [all_eq_true]
    intro c member
    rw [Reader.isNamePart, Char.isAlphanum, Text.isDigit_of_mem_toDigits c member, Bool.or_true,
      Bool.true_or]
  rw [localName_eq]
  show (!Char.isDigit '_' && ("__hc_pith_".toList ++ Nat.toDigits 10 number).all
    Reader.isNamePart) = true
  rw [all_append, digits]
  decide

theorem isFlat_of_isNumeric {c : Char} (numeric : isNumeric c = true) : isFlat c = true := by
  rw [isNumeric, Bool.or_eq_true, contains_iff_mem] at numeric
  rcases numeric with digit | other
  · exact Text.forall_digits (fun c => isFlat c = true) (by decide) c digit
  · have each : ∀ c ∈ ['.', '-', '+', 'N', 'a', 'i', 'n', 'f', 'j'], isFlat c = true := by decide
    exact each c other

theorem Piece.reads_print {piece : Piece} (regular : piece.Regular) :
    Reads (piece.print rootName.toList localName) piece.code := by
  cases piece with
  | word text =>
    have named : ∀ word ∈ words, Reader.isName word.toList = true := by decide +kernel
    exact ⟨_, reads_name (named text regular)⟩
  | mark text =>
    have flat : ∀ mark ∈ marks, ∀ c ∈ mark.toList, isFlat c = true := by decide +kernel
    exact reads_flat (flat text regular)
  | numeral chars => exact reads_flat fun c member => isFlat_of_isNumeric (regular.2 c member)
  | quote body => exact ⟨_, closes_quote regular.1⟩
  | value => exact ⟨_, reads_name (by decide)⟩
  | bound number => exact ⟨_, reads_name (isName_localName number)⟩

/-- After a mark or a quoted text, code starts anew. -/
theorem Piece.closes_print {piece : Piece} (regular : piece.Regular)
    (nameless : piece.isName = false) :
    ReadsUpTo [] (piece.print rootName.toList localName) piece.code := by
  cases piece with
  | mark text =>
    have closed : ∀ mark ∈ marks, ((Reader.code []).scan mark.toList).2 = .code [] := by
      decide +kernel
    exact (reads_print regular).closed (closed text regular)
  | quote body => exact closes_quote regular.1
  | _ => cases nameless

namespace Script

variable {script : Script}

theorem apart_print (regular : script.Regular) (nameless : script.startsName = false) :
    Apart (script.print rootName.toList localName) := by
  intro c member
  cases script with
  | done => cases member
  | piece first rest =>
    cases first with
    | mark text =>
      have apart : ∀ mark ∈ marks, ∃ c ∈ mark.toList.head?, Reader.isNamePart c = false := by
        decide +kernel
      obtain ⟨start, found, other⟩ := apart text regular.1
      rw [print, Piece.print, head?_append, Option.mem_def.mp found] at member
      cases member
      exact other
    | quote body =>
      cases member
      rfl
    | _ => cases nameless
  | group bracket inner rest =>
    cases member
    cases bracket <;> rfl
  | line level rest =>
    cases member
    rfl

theorem reads_blanks (count : Nat) : ReadsUpTo [] (replicate count ' ') .done := by
  induction count with
  | zero => exact reads_nil
  | succ count ih =>
    have blank : ReadsUpTo [] [' '] .done := ⟨[], rfl, fun _ _ _ => by rw [Code.append_done]; rfl⟩
    exact blank.append ih

/-- The text of a script is read as its code. -/
theorem reads_print (regular : script.Regular) :
    Reads (script.print rootName.toList localName) script.code := by
  induction script with
  | done => exact ⟨_, reads_nil⟩
  | piece first rest ih =>
    obtain ⟨regularFirst, apart, regular⟩ := regular
    have later := ih regular
    by_cases named : first.isName = true
    · exact (Piece.reads_print regularFirst).append later (apart_print regular (apart named))
    · obtain ⟨pending, reads⟩ := later
      exact ⟨pending, (closes_print regularFirst (Bool.eq_false_iff.mpr named)).append reads⟩
  | group bracket inner rest inside ih =>
    obtain ⟨-, regularInner, regular⟩ := regular
    obtain ⟨pending, reads⟩ := ih regular
    have whole := ((inside regularInner).group bracket).append reads
    rw [List.cons_append, List.append_assoc] at whole
    exact ⟨pending, whole⟩
  | line level rest ih =>
    obtain ⟨pending, reads⟩ := ih regular
    have opening : ReadsUpTo [] ['\n'] .done :=
      ⟨[], rfl, fun _ _ _ => by rw [Code.append_done]; rfl⟩
    exact ⟨pending, opening.append ((reads_blanks _).append reads)⟩

theorem code_append (first second : Script) :
    (first ++ second).code = first.code ++ second.code := by
  induction first with
  | done => rfl
  | piece first rest ih =>
    rw [piece_append, code, ih, code, Code.append_assoc]
  | group bracket inner rest _ ih =>
    rw [group_append, code, ih, code, Code.group_append]
  | line level rest ih => rw [line_append, code, ih, code]

end Script

/-! ### Names in their places -/

/-- The number of positional arguments. -/
def countName : String := "__hc_args_len"

/-- The names that a guard gets ready before they are used. -/
def prepared : List (List Char) := [countName.toList, randomName.toList]

/-- Whether a name is one that loops bind. -/
def isLocal (name : List Char) : Bool :=
  "__hc_pith_".toList.isPrefixOf name && (name.drop 10).all Char.isDigit

theorem isLocal_localName (number : Nat) : isLocal (localName number) = true := by
  rw [localName_eq, isLocal, Bool.and_eq_true, all_eq_true]
  refine ⟨List.isPrefixOf_iff_prefix.mpr (prefix_append _ _), fun c member => ?_⟩
  exact Text.isDigit_of_mem_toDigits c member

theorem localName_injective : Function.Injective localName := by
  intro number number' same
  rw [localName_eq, localName_eq, append_cancel_left_eq] at same
  rw [← @Nat.ofDigitChars_ten_toDigits number, same, Nat.ofDigitChars_ten_toDigits]

theorem localName_ne {chars : List Char} (common : isLocal chars = false) (number : Nat) :
    localName number ≠ chars := by
  rintro rfl
  rw [isLocal_localName] at common
  cases common

namespace Code

/-- Loops bind the names with the given numbers, once each and in this order; other names that
loops may bind are used only if they are allowed, and what a guard gets ready only if it is known to
be. -/
structure Scoped (numbers : List Nat) (allowed : Nat → Prop) (known : List Char → Prop)
    (code : Code) : Prop where
  bindings : code.bindings = numbers.map localName
  unbound : ∀ number, localName number ∈ code.unbound → allowed number
  uses : ∀ name ∈ code.names, name ∈ prepared → known name
  calls : code.calls false = false

/-- Names are in their places, and the code may stand before the clause of a loop. -/
structure Phrase (numbers : List Nat) (allowed : Nat → Prop) (known : List Char → Prop)
    (code : Code) : Prop extends Scoped numbers allowed known code where
  clauseless : code.Clauseless

variable {numbers numbers' : List Nat} {allowed : Nat → Prop} {known : List Char → Prop}
  {code code' : Code}

theorem Scoped.append (first : code.Scoped numbers allowed known)
    (second : code'.Scoped numbers' allowed known) :
    (code ++ code').Scoped (numbers ++ numbers') allowed known := by
  refine ⟨?_, fun number member => ?_, fun name member => ?_, ?_⟩
  · rw [Code.bindings, bindingsAfter_append, first.calls, map_append, ← first.bindings,
      ← second.bindings]
    rfl
  · rw [Code.unbound, unboundAfter_append, first.calls] at member
    rcases mem_append.mp member with member | member
    · exact first.unbound number member
    · exact second.unbound number member
  · rw [names_append] at member
    rcases mem_append.mp member with member | member
    · exact first.uses name member
    · exact second.uses name member
  · rw [calls_append, first.calls, second.calls]

theorem Scoped.mono {allowed' : Nat → Prop} {known' : List Char → Prop}
    (scope : code.Scoped numbers allowed known) (more : ∀ number, allowed number → allowed' number)
    (also : ∀ name, known name → known' name) : code.Scoped numbers allowed' known' :=
  ⟨scope.bindings, fun number member => more number (scope.unbound number member),
    fun name member ready => also name (scope.uses name member ready), scope.calls⟩

theorem phrase_done : done.Phrase [] allowed known := ⟨⟨rfl, nofun, nofun, rfl⟩, trivial⟩

theorem Phrase.append (first : code.Phrase numbers allowed known)
    (second : code'.Phrase numbers' allowed known) :
    (code ++ code').Phrase (numbers ++ numbers') allowed known :=
  ⟨first.toScoped.append second.toScoped, first.clauseless.append second.clauseless⟩

variable {chars : List Char}

theorem scoped_name (other : chars ≠ "all".toList)
    (free : ∀ number, localName number = chars → allowed number)
    (use : chars ∈ prepared → known chars) :
    (atom (.name chars) done).Scoped [] allowed known := by
  refine ⟨rfl, fun number member => free number (mem_singleton.mp member),
    fun name member ready => ?_, ?_⟩
  · cases mem_singleton.mp member
    exact use ready
  · exact beq_false_of_ne fun same => other (Atom.name.inj same)

theorem phrase_name (other : chars ∉ ["all".toList, "for".toList])
    (free : ∀ number, localName number = chars → allowed number)
    (use : chars ∈ prepared → known chars) :
    (atom (.name chars) done).Phrase [] allowed known := by
  rw [mem_pair, not_or] at other
  exact ⟨scoped_name other.1 free use, fun same => other.2 (Atom.name.inj same), trivial⟩

/-- Whether a name means nothing to loops and need not be got ready. -/
def isCommon (chars : List Char) : Bool :=
  !(["all".toList, "for".toList] ++ prepared).contains chars && !isLocal chars

theorem phrase_common (common : isCommon chars = true) :
    (atom (.name chars) done).Phrase [] allowed known := by
  simp only [isCommon, Bool.and_eq_true, Bool.not_eq_true', contains_eq_mem,
    decide_eq_false_iff_not, mem_append, not_or] at common
  exact phrase_name common.1.1 (fun number same => absurd same (localName_ne common.2 number))
    fun ready => absurd ready common.1.2

theorem phrase_literal : (atom .literal done).Phrase [] allowed known :=
  ⟨⟨rfl, nofun, nofun, rfl⟩, nofun, trivial⟩

theorem phrase_ofAtoms {atoms : List Atom}
    (each : ∀ chars, .name chars ∈ atoms → isCommon chars = true) :
    (ofAtoms atoms).Phrase [] allowed known := by
  induction atoms with
  | nil => exact phrase_done
  | cons first atoms ih =>
    have later := ih fun chars member => each chars (mem_cons_of_mem _ member)
    have here : (atom first done).Phrase [] allowed known := by
      cases first with
      | name chars => exact phrase_common (each chars mem_cons_self)
      | _ => exact ⟨⟨rfl, nofun, nofun, rfl⟩, nofun, trivial⟩
    exact here.append later

theorem Scoped.group (inner : code.Scoped numbers allowed known) (bracket : Bracket) :
    (group bracket code done).Phrase numbers allowed known := by
  refine ⟨⟨?_, fun number member => ?_, fun name member => ?_, rfl⟩, trivial⟩
  · rw [← inner.bindings]
    exact append_nil _
  · rw [Code.unbound, unboundAfter, unboundAfter, append_nil] at member
    exact inner.unbound number (mem_of_mem_filter member)
  · rw [names, names, append_nil] at member
    exact inner.uses name member

/-- A call of `all` whose clause binds names for the conditions before it. -/
theorem phrase_all {loop : List Nat} {conditions names contents : Code}
    (listed : (names ++ atom (.name "in".toList) contents).listed = loop.map localName)
    (iterates : (names ++ atom (.name "in".toList) contents).afterIn = contents)
    (scope : conditions.Phrase numbers (fun number => number ∈ loop ∨ allowed number) known)
    (scopeNames : names.Scoped [] (· ∈ loop) known)
    (scopeContents : contents.Scoped [] allowed known) :
    (atom (.name "all".toList) (.group .round (conditions ++ atom (.name "for".toList) (names ++
      atom (.name "in".toList) contents)) done)).Phrase (loop ++ numbers) allowed known := by
  have bound : (conditions ++ atom (.name "for".toList) (names ++
      atom (.name "in".toList) contents)).clause = loop.map localName := by
    rw [clause_append scope.clauseless, clause, if_pos rfl, listed]
  have source : (conditions ++ atom (.name "for".toList) (names ++
      atom (.name "in".toList) contents)).iterated = contents := by
    rw [iterated_append scope.clauseless, iterated, if_pos rfl, iterates]
  have inner : (conditions ++ atom (.name "for".toList) (names ++
      atom (.name "in".toList) contents)).Scoped numbers
        (fun number => number ∈ loop ∨ allowed number) known := by
    have wordFor : (atom (.name "for".toList) done).Scoped []
        (fun number => number ∈ loop ∨ allowed number) known :=
      scoped_name (by decide) (fun number same => absurd same (localName_ne (by decide) number))
        fun ready => absurd ready (by decide)
    have wordIn : (atom (.name "in".toList) done).Phrase []
        (fun number => number ∈ loop ∨ allowed number) known := phrase_common (by decide)
    have clause := wordFor.append ((scopeNames.mono (fun _ => .inl) fun _ => id).append
      (wordIn.toScoped.append (scopeContents.mono (fun _ => .inr) fun _ => id)))
    have whole := scope.toScoped.append clause
    rwa [append_nil, append_nil, append_nil, append_nil] at whole
  generalize conditions ++ atom (.name "for".toList) (names ++ atom (.name "in".toList) contents) =
    argument at bound source inner
  refine ⟨⟨?_, fun number member => ?_, fun name member ready => ?_, rfl⟩, by decide, trivial⟩
  · show argument.clause ++ argument.bindings ++ [] = _
    rw [bound, inner.bindings, append_nil, map_append]
  · rcases mem_cons.mp member with same | member
    · exact absurd same (localName_ne (by decide) number)
    · -- What the clause binds is filtered out, unless it is used in what the loop runs over.
      rw [unboundAfter, unboundAfter, append_nil, mem_filter, Code.bound,
        if_pos ⟨by decide, rfl⟩, bound, source] at member
      rcases inner.unbound number member.1 with inside | free
      · have listed := contains_iff_mem.mpr (mem_map_of_mem (f := localName) inside)
        rw [listed, Bool.not_true, Bool.false_or, contains_iff_mem] at member
        exact scopeContents.unbound number
          (mem_unboundAfter_of_names scopeContents.bindings member.2)
      · exact free
  · rcases mem_cons.mp member with rfl | member
    · exact absurd ready (by decide)
    · rw [Code.names, Code.names, append_nil] at member
      exact inner.uses name member ready

end Code

/-! ### Names in scripts -/

open Script

section

variable {numbers numbers' : List Nat} {allowed : Nat → Prop} {known : List Char → Prop}

namespace Script

variable {first second inner subject : Script} {text connective : String} {terms : List Script}
  {bindings : List (List Nat)}

theorem phrase_append (phrase : first.code.Phrase numbers allowed known)
    (phrase' : second.code.Phrase numbers' allowed known) :
    (first ++ second).code.Phrase (numbers ++ numbers') allowed known := by
  rw [code_append]
  exact phrase.append phrase'

theorem phrase_done : done.code.Phrase [] allowed known := Code.phrase_done

theorem phrase_word (common : isCommon text.toList = true) :
    (word text).code.Phrase [] allowed known :=
  phrase_common common

theorem phrase_mark (listed : text ∈ marks) :
    (mark text).code.Phrase [] allowed known := by
  have symbols : ∀ mark ∈ marks, ∀ atom ∈ Atom.read mark.toList,
      ∃ c ∈ mark.toList, atom = .symbol c := by
    decide +kernel
  refine (phrase_ofAtoms fun chars member => ?_).append phrase_done
  obtain ⟨c, -, same⟩ := symbols text listed _ member
  cases same

theorem phrase_joined (phrase : first.code.Phrase numbers allowed known)
    (listed : text ∈ marks) (phrase' : second.code.Phrase numbers' allowed known) :
    (first ++ mark text ++ second).code.Phrase (numbers ++ numbers') allowed known := by
  have joined := phrase_append (phrase_append phrase (phrase_mark listed)) phrase'
  rwa [append_nil] at joined

theorem phrase_numeral {chars : List Char} (numeric : ∀ c ∈ chars, isNumeric c = true) :
    (piece (.numeral chars) done).code.Phrase [] allowed known := by
  refine (phrase_ofAtoms fun name member => ?_).append phrase_done
  -- Names that are made of the letters of numbers, like `nan`, have neither `l` nor `r` nor `_`.
  have inside := mem_of_mem_read_flat (fun c found => isFlat_of_isNumeric (numeric c found)) member
  have absent {c : Char} (other : isNumeric c = false) : c ∉ name := fun found => by
    rw [numeric c (inside c found)] at other
    cases other
  have differs {chars : List Char} {c : Char} (other : isNumeric c = false)
      (found : c ∈ chars) : name ≠ chars := fun same => absent other (same ▸ found)
  have foreign : isLocal name = false := by
    rw [Bool.eq_false_iff]
    intro isLocal
    rw [CallGuard.isLocal, Bool.and_eq_true, isPrefixOf_iff_prefix] at isLocal
    exact absent (by decide : isNumeric '_' = false) (isLocal.1.subset (by decide))
  rw [isCommon, foreign, Bool.not_false, Bool.and_true, Bool.not_eq_true', Bool.eq_false_iff,
    ne_eq, contains_iff_mem]
  simp only [mem_append, mem_cons, prepared, not_mem_nil, or_false, not_or]
  exact ⟨⟨differs (by decide : isNumeric 'l' = false) (by decide),
    differs (by decide : isNumeric 'r' = false) (by decide)⟩,
    differs (by decide : isNumeric '_' = false) (by decide),
    differs (by decide : isNumeric '_' = false) (by decide)⟩

theorem phrase_size (number : Nat) : (numeral number).code.Phrase [] allowed known :=
  phrase_numeral fun c member => by
    rw [isNumeric, Text.isDigit_of_mem_toDigits c member, Bool.true_or]

theorem phrase_quote (body : List Char) : (piece (.quote body) done).code.Phrase [] allowed known :=
  phrase_literal

theorem phrase_group (phrase : inner.code.Phrase numbers allowed known) (bracket : Bracket) :
    (group bracket inner done).code.Phrase numbers allowed known :=
  phrase.toScoped.group bracket

theorem phrase_line {rest : Script} (phrase : rest.code.Phrase numbers allowed known)
    (level : Nat) : (line level rest).code.Phrase numbers allowed known :=
  phrase

theorem phrase_end (level : Nat) : (line level done).code.Phrase [] allowed known := phrase_done

theorem phrase_tested : tested.code.Phrase [] allowed known := phrase_common (by decide)

theorem phrase_bound {number : Nat} (free : allowed number) :
    (bound number).code.Phrase [] allowed known := by
  have other {chars : List Char} (common : isLocal chars = false) := localName_ne common number
  refine phrase_name (fun member => ?_) (fun number' same => localName_injective same ▸ free)
    fun ready => ?_
  · rcases mem_pair.mp member with same | same
    · exact other (by decide) same
    · exact other (by decide) same
  · rcases mem_pair.mp ready with same | same
    · exact absurd same (other (by decide))
    · exact absurd same (other (by decide))

theorem phrase_random (ready : known randomName.toList) :
    (word randomName).code.Phrase [] allowed known :=
  phrase_name (by decide) (fun number same => absurd same (localName_ne (by decide) number))
    fun _ => ready

theorem phrase_lookup (name : String) : (lookup name).code.Phrase [] allowed known :=
  phrase_append (phrase_word (by decide)) (phrase_group (phrase_quote _) .square)

theorem phrase_call {function : String} (common : isCommon function.toList = true)
    (phrase : inner.code.Phrase numbers allowed known) :
    (call function inner).code.Phrase numbers allowed known :=
  phrase_append (phrase_word common) (phrase_group phrase .round)

theorem phrase_isInstance {described : Script} (phrase : subject.code.Phrase [] allowed known)
    (phrase' : described.code.Phrase [] allowed known) :
    (isInstance subject described).code.Phrase [] allowed known :=
  phrase_call (by decide) (phrase_joined phrase (by decide) phrase')

/-- Conditions bind the names that each of them binds, one after the other. -/
theorem phrase_conditions (level : Nat) (common : isCommon connective.toList = true)
    (each : List.Forall₂ (fun term numbers => term.code.Phrase numbers allowed known) terms
      bindings) :
    (conditions level connective terms).code.Phrase bindings.flatten allowed known := by
  induction each with
  | nil => exact phrase_done
  | @cons term numbers terms bindings head tail ih =>
    cases tail with
    | nil =>
      rw [flatten_singleton]
      exact head
    | cons next tail =>
      have line := phrase_joined head (by decide : " " ∈ marks) (phrase_word common)
      have lines := phrase_append (phrase_line line level) ih
      rwa [append_nil] at lines

theorem phrase_bracketed (level : Nat) (common : isCommon connective.toList = true)
    (each : List.Forall₂ (fun term numbers => term.code.Phrase numbers allowed known) terms
      bindings) :
    (bracketed level connective terms).code.Phrase bindings.flatten allowed known := by
  have lines := phrase_append (phrase_conditions (level + 1) common each) (phrase_end level)
  rw [append_nil] at lines
  exact phrase_group lines .round

/-- A loop binds its own names before those of its conditions. -/
theorem phrase_loop (level : Nat) {container names contents : Script} {own : List Nat}
    (phrase : subject.code.Phrase [] allowed known)
    (phraseContainer : container.code.Phrase [] allowed known)
    (listed : ∀ rest : Code, (names.code ++ .atom (.name "in".toList) rest).listed =
      own.map localName ∧ (names.code ++ .atom (.name "in".toList) rest).afterIn = rest)
    (phraseNames : names.code.Phrase [] (· ∈ own) known) (each : List.Forall₂ (fun term numbers =>
      term.code.Phrase numbers (fun number => number ∈ own ∨ allowed number) known) terms bindings)
    (phraseContents : contents.code.Phrase [] allowed known) :
    (loop level subject container names terms contents).code.Phrase (own ++ bindings.flatten)
      allowed known := by
  have test := phrase_joined (phrase_isInstance phrase phraseContainer)
    (by decide : " " ∈ marks) (phrase_word (by decide : isCommon "and".toList = true))
  have all := phrase_all (listed contents.code).1 (listed contents.code).2
    (phrase_conditions (level + 2) (by decide : isCommon "and".toList = true) each)
    phraseNames.toScoped phraseContents.toScoped
  have blank : (mark " ").code = .done := by decide
  have called : (call "all" (conditions (level + 2) "and" terms ++
      line (level + 2) (word "for" ++ mark " " ++ names ++ mark " " ++ word "in" ++ mark " " ++
        contents) ++ line (level + 1) done)).code =
      .atom (.name "all".toList) (.group .round ((conditions (level + 2) "and" terms).code ++
        .atom (.name "for".toList) (names.code ++
          .atom (.name "in".toList) contents.code)) .done) := by
    simp only [call, code_append, blank, word, code, Piece.code, Code.atom_append, Code.done_append,
      Code.append_done, Code.append_assoc]
  rw [← called] at all
  have lines := phrase_append (phrase_append (phrase_line test (level + 1))
    (phrase_line all (level + 1))) (phrase_end level)
  rw [append_nil] at lines
  exact phrase_group lines .round

end Script

end

end CallGuard
