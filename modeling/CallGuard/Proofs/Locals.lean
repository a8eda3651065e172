/-
The names that checks bind. The script of a check binds as many names as the
check says, numbered from the given number on, each in the clause of one loop,
and uses it inside of that loop only; the integer of the call is used only if the
check says that it needs one.
-/
import CallGuard.Proofs.Scope

namespace CallGuard

open Source Script List

variable {allowed : Nat → Prop} {known : List Char → Prop}

/-! ### Names in the scripts of values -/

theorem Class.phrase_script {c : Class} (standard : c.Standard) :
    c.script.code.Phrase [] allowed known := by
  unfold script
  split
  · rename_i home
    have common : ∀ c ∈ builtins, Code.isCommon c.name.toList = true := by decide +kernel
    exact phrase_word (common c (standard home))
  · exact phrase_lookup _

theorem inline_phrase : Inline fun _ script => script.code.Phrase [] allowed known where
  nothing := phrase_done
  word listed := by
    have common : ∀ word ∈ Piece.common, Code.isCommon word.toList = true := by decide +kernel
    exact phrase_word (common _ listed)
  numeral _ numeric := phrase_numeral numeric
  special _ := phrase_quote _
  joined phrase listed phrase' := phrase_joined phrase listed phrase'
  group phrase _ phrase' := phrase_append phrase (phrase_group phrase' _)

/-- The script of a value uses no names but those of classes. -/
theorem Value.phrase_script {given : Value} (standard : given.Standard) :
    given.script.code.Phrase [] allowed known := by
  refine inline_script inline_phrase standard fun part inside named => ?_
  cases part with
  | str _ text => exact phrase_quote _
  | bytes _ data => exact phrase_append (phrase_word (by decide)) (phrase_quote _)
  | classObject c => exact Class.phrase_script (standard c inside)
  | object identity kind => exact phrase_lookup _
  | _ => cases named

/-! ### Names in the scripts of checks -/

/-- The call of one of the functions that the registry has. -/
theorem phrase_method {method : String} (common : Code.isCommon method.toList = true)
    {arguments : Script} (phrase : arguments.code.Phrase [] allowed known) :
    (word registryName ++ mark "." ++ call method arguments).code.Phrase [] allowed known :=
  phrase_joined (phrase_word (by decide)) (by decide) (phrase_call common phrase)

theorem Sampling.phrase_script (sampling : Sampling) {subject suffix : Script}
    (phrase : subject.code.Phrase [] allowed known)
    (phraseSuffix : suffix.code.Phrase [] allowed known) {method : String}
    (common : Code.isCommon method.toList = true)
    (ready : sampling.isRandom = true → known randomName.toList) :
    (sampling.script subject method suffix).code.Phrase [] allowed known := by
  have sampled (drawn : sampling.isRandom = true) (count : Nat) :=
    phrase_method common (phrase_joined (phrase_joined phrase (by decide : ", " ∈ Piece.marks)
      (phrase_random (ready drawn))) (by decide : ", " ∈ Piece.marks) (phrase_size count))
  cases sampling with
  | full => exact phrase_append phrase phraseSuffix
  | one => exact sampled rfl 1
  | count number => exact sampled rfl number

/-- The numbers of the names that each of several parts binds. -/
def Parts.ranges : Parts → Nat → List (List Nat)
  | .nil, _ => []
  | .cons _ check rest, first =>
    range' first check.locals :: rest.ranges (first + check.locals)

theorem Parts.flatten_ranges : ∀ (parts : Parts) (first : Nat),
    (parts.ranges first).flatten = range' first parts.locals
  | .nil, _ => rfl
  | .cons _ check rest, first => by
    rw [ranges, flatten_cons, flatten_ranges rest, locals, range'_append_1]

theorem listed_localName (number : Nat) (rest : Code) :
    (.atom (.name (localName number)) rest : Code).listed = localName number :: rest.listed ∧
      (.atom (.name (localName number)) rest : Code).afterIn = rest.afterIn := by
  have other : localName number ≠ "in".toList := localName_ne (by decide) number
  rw [Code.listed, if_neg other, Code.afterIn, if_neg fun same => other (Atom.name.inj same)]
  exact ⟨rfl, rfl⟩

theorem listed_bound (first : Nat) (rest : Code) :
    ((bound first).code ++ .atom (.name "in".toList) rest).listed = [first].map localName ∧
      ((bound first).code ++ .atom (.name "in".toList) rest).afterIn = rest := by
  obtain ⟨listed, after⟩ := listed_localName first (.atom (.name "in".toList) rest)
  exact ⟨listed, after⟩

theorem listed_pair (first : Nat) (rest : Code) :
    ((bound first ++ mark ", " ++ bound (first + 1)).code ++
        .atom (.name "in".toList) rest).listed = [first, first + 1].map localName ∧
      ((bound first ++ mark ", " ++ bound (first + 1)).code ++
        .atom (.name "in".toList) rest).afterIn = rest := by
  have comma : (mark ", ").code = .atom (.symbol ',') .done := by decide
  obtain ⟨listed, after⟩ := listed_localName (first + 1) (.atom (.name "in".toList) rest)
  obtain ⟨listed', after'⟩ := listed_localName first (.atom (.symbol ',')
    (.atom (.name (localName (first + 1))) (.atom (.name "in".toList) rest)))
  rw [code_append, code_append, comma]
  exact ⟨listed'.trans (congrArg _ listed), after'.trans after⟩

mutual
/-- The script of a check binds as many names as the check says, numbered from the given number on,
and uses no others but those that its subject uses. -/
theorem Check.phrase_script : ∀ {check : Check}, check.Standard →
    (check.needsRandom = true → known randomName.toList) → ∀ {allowed : Nat → Prop}
    {subject : Script}, subject.code.Phrase [] allowed known → ∀ first level,
    (check.script subject first level).code.Phrase (range' first check.locals) allowed known
  | .always, _, _, _, _, _, _, _ => phrase_word (by decide)
  | .isNull, _, _, _, _, phrase, _, _ =>
    phrase_joined (phrase_joined phrase (by decide) (phrase_word (by decide))) (by decide)
      (phrase_word (by decide))
  | .instanceOf _, standard, _, _, _, phrase, _, _ =>
    phrase_isInstance phrase
      (inline_phrase.classes fun c member => Class.phrase_script (standard c member))
  | .classObject none, _, _, _, _, phrase, _, _ =>
    phrase_isInstance phrase (phrase_word (by decide))
  | .classObject (some base), standard, _, _, _, phrase, _, _ =>
    phrase_group (phrase_joined (phrase_joined (phrase_isInstance phrase (phrase_word (by decide)))
      (by decide) (phrase_word (by decide))) (by decide) (phrase_call (by decide)
        (phrase_joined phrase (by decide) (Class.phrase_script (standard base rfl))))) .round
  | .structural _, _, _, _, _, phrase, _, _ => phrase_isInstance phrase (phrase_lookup _)
  | .oneOf _, standard, _, _, _, phrase, _, _ =>
    inline_phrase.literals phrase fun value member =>
      ⟨Value.phrase_script (standard value member).1, Class.phrase_script (standard value member).2⟩
  | .anyOf parts, standard, ready, _, _, phrase, first, level => by
    rw [Check.locals, ← parts.flatten_ranges]
    exact phrase_bracketed level (by decide)
      (Parts.phrase_scripts standard ready (fun _ _ => phrase) first (level + 1))
  | .eachItem _ item sampling, standard, ready, allowed, _, phrase, first, level => by
    rw [Check.needsRandom, Bool.or_eq_true] at ready
    have subject : (bound first).code.Phrase [] (fun number => number ∈ [first] ∨ allowed number)
        known := phrase_bound (.inl (mem_singleton_self first))
    have inner := Check.phrase_script standard.2 (fun drawn => ready (.inl drawn)) subject
      (first + 1) (level + 2)
    have looped := phrase_loop level phrase (Class.phrase_script standard.1) (listed_bound first)
      (phrase_bound (mem_singleton_self first)) (.cons inner .nil)
      (sampling.phrase_script phrase phrase_done (by decide : Code.isCommon "sample".toList = true)
        fun drawn => ready (.inr drawn))
    rw [flatten_singleton] at looped
    rw [Check.locals, Nat.add_comm, range'_succ]
    exact looped
  | .eachEntry sides sampling, standard, ready, allowed, _, phrase, first, level => by
    rw [Check.needsRandom, Bool.or_eq_true] at ready
    have own {slot : Nat} (side : slot < 2) : first + slot ∈ [first, first + 1] := by
      match slot, side with
      | 0, _ => exact mem_cons_self
      | 1, _ => exact mem_cons_of_mem _ mem_cons_self
    have subjects : ∀ slot ∈ sides.slots, (bound (first + slot)).code.Phrase []
        (fun number => number ∈ [first, first + 1] ∨ allowed number) known :=
      fun slot member => phrase_bound (.inl (own (standard.2 slot member)))
    have inner := Parts.phrase_scripts standard.1 (fun drawn => ready (.inl drawn)) subjects
      (first + 2) (level + 2)
    have looped := phrase_loop level phrase
      (phrase_word (by decide : Code.isCommon "dict".toList = true)) (listed_pair first)
      (phrase_joined (phrase_bound (own (by decide : 0 < 2))) (by decide)
        (phrase_bound (own (by decide : 1 < 2)))) inner
      (sampling.phrase_script phrase (phrase_append (phrase_mark (by decide : "." ∈ Piece.marks))
        (phrase_call (by decide : Code.isCommon "items".toList = true) phrase_done))
        (by decide : Code.isCommon "sample_items".toList = true) fun drawn => ready (.inr drawn))
    rw [Parts.flatten_ranges] at looped
    rw [Check.locals, Nat.add_comm, range'_succ, range'_succ]
    exact looped
  | .tupleOf size items, standard, ready, _, subject, phrase, first, level => by
    have length := phrase_joined
      (phrase_call (by decide : Code.isCommon "len".toList = true) phrase)
      (by decide : " == " ∈ Piece.marks) (phrase_size size)
    have parts := Parts.phrase_scripts standard ready
      (fun slot _ => phrase_append phrase (phrase_group (phrase_size slot) .square)) first
      (level + 1)
    have test := phrase_isInstance phrase
      (phrase_word (by decide : Code.isCommon "tuple".toList = true))
    have whole := phrase_bracketed level (by decide : Code.isCommon "and".toList = true)
      (.cons test (.cons length parts))
    rw [flatten_cons, flatten_cons, Parts.flatten_ranges] at whole
    exact whole
  | .validated inner validators, standard, ready, allowed, subject, phrase, first, level => by
    have ready : inner.needsRandom = true → known randomName.toList := ready
    have checked := Check.phrase_script standard.1 ready phrase first (level + 1)
    have validated : List.Forall₂ (fun term numbers => term.code.Phrase numbers allowed known)
        (validators.map (Validator.script subject)) (validators.map fun _ => []) :=
      forall₂_map_left_iff.mpr (forall₂_map_right_iff.mpr (forall₂_same.mpr
        fun validator _ => phrase_append (phrase_lookup _) (phrase_group phrase .round)))
    have unnumbered : (validators.map fun _ => ([] : List Nat)).flatten = [] :=
      flatten_eq_nil_iff.mpr (forall_mem_map.mpr fun _ _ => rfl)
    rw [Check.script, Check.locals]
    split
    · rename_i always
      have unnamed : inner.locals = 0 := by
        cases inner with
        | always => rfl
        | _ => cases always
      rw [unnamed, nil_append]
      have whole := phrase_bracketed level (by decide : Code.isCommon "and".toList = true) validated
      rwa [unnumbered] at whole
    · have whole := phrase_bracketed level (by decide : Code.isCommon "and".toList = true)
        (.cons checked validated)
      rwa [flatten_cons, unnumbered, append_nil] at whole
  | .deferred _ _, _, ready, _, _, phrase, _, _ =>
    phrase_method (by decide) (phrase_joined (phrase_joined (phrase_quote _) (by decide) phrase)
      (by decide) (phrase_random (ready rfl)))

theorem Parts.phrase_scripts : ∀ {parts : Parts}, parts.Standard →
    (parts.needsRandom = true → known randomName.toList) → ∀ {allowed : Nat → Prop}
    {subjects : Nat → Script},
    (∀ slot ∈ parts.slots, (subjects slot).code.Phrase [] allowed known) → ∀ first level,
    List.Forall₂ (fun term numbers => term.code.Phrase numbers allowed known)
      (parts.scripts subjects first level) (parts.ranges first)
  | .nil, _, _, _, _, _, _, _ => .nil
  | .cons slot check rest, standard, ready, _, _, phrase, first, level => by
    rw [Parts.needsRandom, Bool.or_eq_true] at ready
    obtain ⟨head, tail⟩ := forall_mem_cons.mp phrase
    exact .cons (Check.phrase_script standard.1 (fun drawn => ready (.inl drawn)) head first level)
      (Parts.phrase_scripts standard.2 (fun drawn => ready (.inr drawn)) tail _ level)
end

end CallGuard
