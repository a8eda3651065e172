/-
What a look through a check finds. No hole is left in its text, and the names
that are looked up there are those that the check says it needs, as long as no
text that a hint brings in is mistaken for a hole or for the start of a look-up.
The names that it needs are found there in any case.
-/
import CallGuard.Proofs.Exchange
import CallGuard.Proofs.Rendering
import CallGuard.Proofs.Scanning

namespace CallGuard

open Script List Text

namespace Source

/-! ### Clean texts -/

/-- The given names are looked up in the text. If what is quoted in it is as promised, it has no
hole for a name, and no other names are looked up. -/
structure Clean (promise : Promise) (names : List String) (text : List Char) : Prop where
  unnamed : promise.unnamed → avoids nameHole.toList text = true
  found : ∀ rest, ∀ name ∈ names, name ∈ lookedUp (text ++ rest)
  looks : promise.closed → ∀ rest, ∀ name ∈ lookedUp (text ++ rest),
    name ∈ names ∨ name ∈ lookedUp rest

variable {text : List Char}

theorem lookedUp_of_avoids (avoid : avoids lookupStart text = true)
    (rest : List Char) : lookedUp (text ++ rest) = lookedUp rest := by
  induction text with
  | nil => rfl
  | cons c text ih =>
    rw [avoids, Bool.and_eq_true] at avoid
    rw [cons_append, lookedUp, ← cons_append,
      not_prefix_of_clashes (clashes_append avoid.1 rest), if_neg Bool.false_ne_true,
      ih avoid.2]

/-- What is looked up in the rest of a text is looked up in the text. -/
theorem lookedUp_subset_cons (c : Char) (text : List Char) :
    lookedUp text ⊆ lookedUp (c :: text) := by
  rw [lookedUp]
  split
  · exact subset_cons_self _ _
  · exact List.Subset.refl _

theorem lookedUp_subset_append (text rest : List Char) :
    lookedUp rest ⊆ lookedUp (text ++ rest) := by
  induction text with
  | nil => exact List.Subset.refl _
  | cons c text ih =>
    exact List.Subset.trans ih (lookedUp_subset_cons c _)

variable {promise : Promise} {names names' : List String}

theorem clean_of_avoids
    (unnamed : promise.unnamed → avoids nameHole.toList text = true)
    (avoid : promise.closed → avoids lookupStart text = true) : Clean promise [] text := by
  refine ⟨unnamed, nofun, fun promised rest name member => .inr ?_⟩
  rwa [lookedUp_of_avoids (avoid promised)] at member

theorem Clean.append {text text' : List Char} (clean : Clean promise names text)
    (clean' : Clean promise names' text') : Clean promise (names ++ names') (text ++ text') := by
  refine ⟨fun promised => avoids_append (clean.unnamed promised) (clean'.unnamed promised),
    fun rest name member => ?_, fun promised rest name member => ?_⟩
  · rw [List.append_assoc]
    rcases mem_append.mp member with here | later
    · exact clean.found _ name here
    · exact lookedUp_subset_append _ _ (clean'.found rest name later)
  · rw [List.append_assoc] at member
    rw [mem_append, or_assoc]
    exact (clean.looks promised _ name member).imp_right (clean'.looks promised rest name)

/-- Text that looks nothing up adds no names. -/
theorem Clean.followed {text text' : List Char} (clean : Clean promise names text)
    (clean' : Clean promise [] text') : Clean promise names (text ++ text') := by
  rw [← append_nil names]
  exact clean.append clean'

theorem clean_nil : Clean promise [] [] := clean_of_avoids (fun _ => rfl) fun _ => rfl

/-- Text without question marks and underscores is clean. -/
theorem clean_of_not_mem (question : '?' ∉ text) (underscore : '_' ∉ text) :
    Clean promise [] text := by
  have hole : nameHole.toList = '?' :: "|PITH_ROOT_NAME`^".toList := by decide
  have start : lookupStart = '_' :: "_hc_registry['".toList := by decide
  refine clean_of_avoids (fun _ => ?_) fun _ => ?_
  · rw [hole]
    exact avoids_of_not_mem _ question
  · rw [start]
    exact avoids_of_not_mem _ underscore

/-- The body of a quoted text looks nothing up if it keeps the promise. -/
theorem clean_of_bodied {body : List Char} (bodied : Token.Bodied '\'' body)
    (kept : promise.Kept body) : Clean promise [] ('\'' :: (body ++ ['\''])) :=
  clean_of_avoids (fun promised => avoids_nameHole (kept.unnamed promised))
    fun promised => avoids_lookupStart bodied (kept.closed promised)

theorem clean_quotedWithoutBraces {text : String} (kept : promise.Kept text.toList) :
    Clean promise [] (quotedWithoutBraces text).toList := by
  rw [quotedWithoutBraces, String.toList_ofList]
  exact clean_of_bodied (Token.bodied_flatMap bodied_escapedWithoutBraces) kept.text

theorem lookupCode_chars (name : String) : (lookupCode name).toList =
    lookupOpening ++ ((quotedWithoutBraces name).toList ++ [']']) := by
  have start : registryName.toList ++ "[".toList = lookupOpening := by decide
  have finish : "]".toList = [']'] := by decide
  rw [lookupCode, String.toList_append, String.toList_append, String.toList_append, start, finish,
    List.append_assoc]

theorem lookupCode_append (name : String) (rest : List Char) :
    (lookupCode name).toList ++ rest = lookupStart ++
      (name.toList.flatMap escapedWithoutBraces ++ '\'' :: ']' :: rest) := by
  rw [lookupCode_chars, lookupStart_eq, quotedWithoutBraces, String.toList_ofList]
  simp

/-- What is looked up is what stands in the quotes. -/
theorem lookedUp_lookupCode (name : String) (rest : List Char) :
    lookedUp ((lookupCode name).toList ++ rest) = name :: lookedUp ("_hc_registry[".toList ++
      ((quotedWithoutBraces name).toList ++ [']']) ++ rest) := by
  have opening : lookupOpening = '_' :: "_hc_registry[".toList := by decide
  have read : String.ofList (readQuoted
      (((lookupCode name).toList ++ rest).drop lookupStart.length)) = name := by
    rw [lookupCode_append, drop_left, readQuoted_flatMap, String.ofList_toList]
  have found : lookupStart.isPrefixOf ((lookupCode name).toList ++ rest) = true := by
    rw [lookupCode_append, isPrefixOf_iff_prefix]
    exact prefix_append _ _
  rw [lookupCode_chars, opening, cons_append, cons_append] at found read ⊢
  rw [lookedUp, if_pos found, read]

theorem clean_lookup {name : String} (kept : promise.Kept name.toList) :
    Clean promise [name] (lookupCode name).toList := by
  have quoted := (clean_quotedWithoutBraces kept).append
    (clean_of_not_mem (by decide : '?' ∉ [']']) (by decide))
  have rest : Clean promise [] ("_hc_registry[".toList ++
      ((quotedWithoutBraces name).toList ++ [']'])) :=
    (clean_of_avoids (fun _ => by decide) fun _ => by decide).append quoted
  refine ⟨fun promised => ?_, fun after other member => ?_, fun promised after other member => ?_⟩
  · rw [lookupCode_chars]
    exact avoids_append (by decide) (quoted.unnamed promised)
  · rw [lookedUp_lookupCode, mem_singleton.mp member]
    exact mem_cons_self
  · rw [lookedUp_lookupCode] at member
    rcases mem_cons.mp member with same | later
    · exact .inl (mem_singleton.mpr same)
    · exact .inr ((rest.looks promised after other later).resolve_left not_mem_nil)

/-! ### Scripts put together -/

variable {value : List Char} {naming : Nat → List Char}

theorem clean_word {text : String}
    (known : text ∈ Piece.common ++ ["all", "for", randomName] ++ Class.builtins.map Class.name) :
    Clean promise [] ((word text).print value naming) := by
  have words : ∀ word ∈ Piece.common ++ ["all", "for", randomName] ++
      Class.builtins.map Class.name, avoids nameHole.toList word.toList = true ∧
        avoids lookupStart word.toList = true := by decide +kernel
  rw [print_word]
  exact clean_of_avoids (fun _ => (words text known).1) fun _ => (words text known).2

theorem clean_mark {text : String} (known : text ∈ Piece.marks) : Clean promise [] text.toList := by
  have marks : ∀ mark ∈ Piece.marks, '?' ∉ mark.toList ∧ '_' ∉ mark.toList := by decide +kernel
  exact clean_of_not_mem (marks text known).1 (marks text known).2

theorem clean_group {bracket : Bracket} {inner : Script}
    (clean : Clean promise names (inner.print value naming)) :
    Clean promise names ((group bracket inner done).print value naming) := by
  have opening : Clean promise [] [bracket.opening] := by
    cases bracket <;> exact clean_of_not_mem (by decide) (by decide)
  have closing : Clean promise [] [bracket.closing] := by
    cases bracket <;> exact clean_of_not_mem (by decide) (by decide)
  exact opening.append (clean.followed closing)

theorem clean_line (level : Nat) {rest : Script}
    (clean : Clean promise names (rest.print value naming)) :
    Clean promise names ((line level rest).print value naming) := by
  have blank {c : Char} (other : c ≠ '\n') (other' : c ≠ ' ') :
      c ∉ '\n' :: replicate (4 * level) ' ' := fun member =>
    (mem_cons.mp member).elim other fun later => other' (eq_of_mem_replicate later)
  exact (clean_of_not_mem (blank (by decide) (by decide)) (blank (by decide) (by decide))).append
    clean

/-- The call of one of the functions that the registry has. -/
theorem clean_method {method : String} (known : method ∈ Piece.methods) {arguments : Script}
    (clean : Clean promise names (arguments.print value naming)) :
    Clean promise names
      ((word registryName ++ mark "." ++ call method arguments).print value naming) := by
  have methods : ∀ method ∈ Piece.methods,
      avoids nameHole.toList ("__hc_registry.".toList ++ method.toList) = true ∧
        avoids lookupStart ("__hc_registry.".toList ++ method.toList) = true := by decide
  have text : (word registryName ++ mark "." ++ call method arguments).print value naming =
      ("__hc_registry.".toList ++ method.toList) ++
        (group .round arguments done).print value naming := by
    rw [call, print_append, print_append, print_append, print_word, print_word, print_mark,
      ← List.append_assoc]
    rfl
  rw [text]
  exact (clean_of_avoids (fun _ => (methods method known).1) fun _ =>
    (methods method known).2).append (clean_group clean)

theorem composed_clean : Script.Composed fun names script =>
    Clean promise names (script.print value naming) where
  nothing := clean_nil
  word known := clean_word (mem_append_left _ (mem_append_left _ known))
  control known := clean_word (mem_append_left _ (mem_append_right _ known))
  numeral _ numeric := by
    refine Clean.followed (clean_of_not_mem (fun member => ?_) fun member => ?_) clean_nil
    · exact absurd (numeric _ member) (by decide)
    · exact absurd (numeric _ member) (by decide)
  special known := by
    have specials : ∀ text ∈ ["nan", "-inf", "inf"], isHarmless text.toList = true := by decide
    rw [print_quoted]
    exact clean_quotedWithoutBraces (kept_of_isHarmless (specials _ known))
  joined clean known clean' := by
    rw [print_append, print_append, print_mark]
    exact (clean.followed (clean_mark known)).append clean'
  group clean _ inside := by
    rw [print_append]
    exact clean.append (clean_group inside)
  line level clean clean' := by
    rw [print_append]
    exact clean.append (clean_line level clean')
  method known clean := clean_method known clean

end Source

open Source

/-! ### Values and checks -/

/-- The class is named as it should be, and what is looked up for it keeps a promise. -/
structure Class.Keeps (promise : Promise) (c : Class) : Prop where
  standard : c.Standard
  names : ∀ name ∈ c.lookups, promise.Kept name.toList

namespace Value

/-- The text that a value itself brings in is harmless. -/
def OwnTame : Value → Prop
  | str _ text => isHarmless text.toList = true
  | bytes _ data => isHarmless (data.map fun byte => Char.ofNat byte.toNat) = true
  | _ => True

/-- All texts inside a value are harmless. -/
def Tame (value : Value) : Prop := ∀ part : Value, part.Inside value → part.OwnTame

/-- The text that a value itself brings in. -/
def ownText? : Value → Option (List Char)
  | str _ text => some text.toList
  | bytes _ data => some (data.map fun byte => Char.ofNat byte.toNat)
  | _ => none

theorem lookups_subset_of_part {part value : Value} (member : part ∈ value.parts) :
    part.lookups ⊆ value.lookups := by
  intro name found
  cases value with
  | list _ items | tuple _ items | set _ items | frozenset _ items =>
    exact mem_lookupsIn.mpr ⟨part, member, found⟩
  | dict _ entries =>
    obtain ⟨entry, inEntries, inEntry⟩ := mem_flatMap.mp member
    rcases mem_pair.mp inEntry with rfl | rfl
    · exact mem_lookupsInEntries.mpr ⟨entry, inEntries, .inl found⟩
    · exact mem_lookupsInEntries.mpr ⟨entry, inEntries, .inr found⟩
  | _ => cases member

theorem Inside.lookups_subset {part value : Value} (inside : part.Inside value) :
    part.lookups ⊆ value.lookups := by
  induction inside with
  | self => exact List.Subset.refl _
  | part member _ ih =>
    exact List.Subset.trans ih (lookups_subset_of_part member)

/-- The literal has standard classes only, and all that it brings into a guard keeps a promise. -/
structure Keeps (promise : Promise) (value : Value) : Prop where
  standard : value.Standard
  kind : value.kind.Keeps promise
  texts : ∀ part : Value, part.Inside value → ∀ text ∈ part.ownText?, promise.Kept text
  names : ∀ name ∈ value.lookups, promise.Kept name.toList

end Value

variable {promise : Promise}

/-- Nothing is looked up for a built-in class. -/
theorem Class.lookups_builtin {c : Class} (known : c ∈ builtins) : c.lookups = [] := by
  have each : ∀ c ∈ builtins, c.home = builtinHome := by decide
  rw [lookups, if_pos (each c known)]

theorem Class.keeps_builtin {c : Class} (known : c ∈ builtins) : c.Keeps promise := by
  refine ⟨fun _ => known, ?_⟩
  rw [lookups_builtin known]
  nofun

/-- What keeps a promise. -/
def Vocabulary.keeping (promise : Promise) : Vocabulary :=
  ⟨Class.Keeps promise, Value.Keeps promise, fun text => promise.Kept text.toList,
    fun _ => Class.keeps_builtin⟩

variable {value : List Char} {naming : Nat → List Char}

theorem Script.clean_known {name : String} (kept : promise.Kept name.toList) :
    Clean promise [name] ((lookup name).print value naming) := by
  rw [print_lookup]
  exact clean_lookup kept

theorem Class.Keeps.clean_script {c : Class} (keeps : c.Keeps promise) :
    Clean promise c.lookups (c.script.print value naming) := by
  obtain ⟨standard, names⟩ := keeps
  unfold script
  unfold lookups at names ⊢
  split
  · rename_i home
    exact clean_word (mem_append_right _ (mem_map_of_mem (standard home)))
  · rename_i home
    rw [if_neg home] at names
    exact clean_known (names _ mem_cons_self)

/-- The script of a value looks up what the value says. -/
theorem Value.Keeps.clean_script {given : Value} (keeps : given.Keeps promise) :
    Clean promise given.lookups (given.script.print value naming) := by
  refine inline_script composed_clean.toInline keeps.standard fun part inside named => ?_
  have names (name : String) (member : name ∈ part.lookups) : promise.Kept name.toList :=
    keeps.names name (inside.lookups_subset member)
  cases part with
  | str _ text =>
    rw [script, print_quoted]
    exact clean_quotedWithoutBraces (keeps.texts _ inside _ rfl)
  | bytes _ data =>
    have letter : Clean promise [] ((word "b").print value naming) := clean_word (by decide)
    rw [script, print_append]
    exact letter.append (Clean.followed (clean_of_bodied (Token.bodied_flatMap bodied_byteCode)
      (keeps.texts _ inside _ rfl).bytes) clean_nil)
  | classObject c => exact Class.Keeps.clean_script ⟨keeps.standard c inside, names⟩
  | object identity kind => exact clean_known (names _ mem_cons_self)
  | _ => cases named

/-- The script of a check looks up what the check says. -/
theorem keeping_clean : (Vocabulary.keeping promise).Composed fun names script =>
    Clean promise names (script.print value naming) where
  toComposed := composed_clean
  ofClass keeps := keeps.clean_script
  ofLiteral keeps := ⟨keeps.clean_script, keeps.kind.clean_script⟩
  lookup kept := clean_known kept
  quoted kept := by
    rw [print_quoted]
    exact clean_quotedWithoutBraces kept

/-! ### Holes with braces -/

namespace Source

/-- The holes that start with a brace, without it. -/
def braced : List (List Char) :=
  ["pith\x7d".toList, "pith_".toList, "arg_index\x7d".toList, "arg_name\x7d".toList, "func_name\x7d".toList,
    "random_int_if_any\x7d".toList]

theorem mem_holes {left : String} (member : left ∈ holes) :
    left = nameHole ∨ ∃ rest ∈ braced, left.toList = '{' :: rest := by
  have listed : ∀ left ∈ holes, left = nameHole ∨ ∃ rest ∈ braced, left.toList = '{' :: rest := by
    decide +kernel
  exact listed left member

/-- No hole that starts with a brace is in the text. -/
def Unbraced (text : List Char) : Prop :=
  ∀ rest ∈ braced, avoids ('{' :: rest) text = true

theorem Unbraced.append {text text' : List Char} (unbraced : Unbraced text)
    (unbraced' : Unbraced text') : Unbraced (text ++ text') :=
  fun rest member => avoids_append (unbraced rest member) (unbraced' rest member)

theorem unbraced_of_not_mem {text : List Char} (missing : '{' ∉ text) : Unbraced text :=
  fun rest _ => avoids_of_not_mem rest missing

theorem Unbraced.brace {text : List Char} (unbraced : Unbraced text)
    (clash : ∀ rest ∈ braced, clashes rest text = true) : Unbraced ('{' :: text) := by
  intro rest member
  rw [avoids, clashes, clash rest member, Bool.or_true, unbraced rest member]
  rfl

end Source

namespace Script

variable {value : List Char} {naming : Nat → List Char}

/-- What follows an opening brace does not fill a hole. -/
theorem clashes_of_opens {script : Script} (regular : script.Regular) (opens : script.opens = true)
    (after : List Char) {rest : List Char} (member : rest ∈ braced) :
    clashes rest (script.print value naming ++ '}' :: after) = true := by
  have letters : ∀ rest ∈ braced, ∀ c ∈ ['}', '\'', '(', '[', '{', '-', '.'],
      clashes rest [c] = true := by decide +kernel
  cases script with
  | done => exact clashes_append (letters rest member '}' (by decide)) after
  | piece first later =>
    rw [print, List.append_assoc]
    cases first with
    | word text =>
      have words : ∀ text ∈ Piece.words, text ≠ "all" → text ≠ "and" → ∀ rest ∈ braced,
          clashes rest text.toList = true := by decide +kernel
      simp only [Script.opens, Bool.and_eq_true, bne_iff_ne] at opens
      exact clashes_append (words text regular.1 opens.1 opens.2 rest member) _
    | numeral chars =>
      have digits := forall_digits (fun c => ∀ rest ∈ braced, clashes rest [c] = true)
        (by decide +kernel)
      cases chars with
      | nil => cases opens
      | cons c chars =>
        simp only [Script.opens, head?_cons, Option.any_some, Bool.or_eq_true, beq_iff_eq] at opens
        have start : clashes rest [c] = true := by
          rcases opens with (digit | rfl) | rfl
          · exact digits c digit rest member
          · exact letters rest member '-' (by decide)
          · exact letters rest member '.' (by decide)
        exact clashes_append start _
    | quote body => exact clashes_append (letters rest member '\'' (by decide)) _
    | mark text => cases opens
    | value => cases opens
    | bound number => cases opens
  | group bracket inner later =>
    have opening : clashes rest [bracket.opening] = true := by
      cases bracket <;> exact letters rest member _ (by decide)
    exact clashes_append opening _
  | line level later => cases opens

/-- No hole is left in a regular script. -/
theorem unbraced_print (clear : '{' ∉ value) (named : ∀ number, '{' ∉ naming number)
    {script : Script} (regular : script.Regular) : Unbraced (script.print value naming) := by
  induction script with
  | done => exact unbraced_of_not_mem not_mem_nil
  | piece first rest ih =>
    refine Unbraced.append ?_ (ih regular.2.2)
    cases first with
    | value => exact unbraced_of_not_mem clear
    | bound number => exact unbraced_of_not_mem (named number)
    | word | mark | numeral | quote =>
      exact unbraced_of_not_mem (Piece.clear_of_regular regular.1 nofun nofun)
  | group bracket inner rest inside ih =>
    obtain ⟨opens, regularInner, regular⟩ := regular
    have later := ih regular
    have closing : Unbraced [bracket.closing] := by
      cases bracket <;> exact unbraced_of_not_mem (by decide)
    have contents := (inside regularInner).append (closing.append later)
    cases bracket with
    | round => exact (unbraced_of_not_mem (by decide : '{' ∉ ['('])).append contents
    | square => exact (unbraced_of_not_mem (by decide : '{' ∉ ['['])).append contents
    | curly =>
      exact contents.brace fun hole member => clashes_of_opens regularInner (opens rfl) _ member
  | line level rest ih =>
    exact (unbraced_of_not_mem (clear_line level)).append (ih regular)

end Script

end CallGuard
