/-
Hints that are read back from their text. A parser takes the text of a hint for
a term, which stands for a hint that is the same: names mean what they say,
quoted names are references again, and the values of a literal have the class
and the contents they had.
-/
import CallGuard.Proofs.Parsing
import CallGuard.Proofs.Verification
import Mathlib.Algebra.Group.Int.Defs

namespace CallGuard

open Lexeme Grammar List Text

theorem Text.unescape_eq_self {text : List Char} (plain : '\\' ∉ text) : unescape text = text := by
  induction text with
  | nil => rfl
  | cons c text ih =>
    rw [mem_cons, not_or] at plain
    rw [unescape_plain (Ne.symm plain.1), ih plain.2]

/-! ### Values of literals -/

namespace Value

/-- The values that a literal can be written with so that they are read again. -/
inductive Expressible : Value → Prop
  | null : Expressible null
  | bool (truth : Bool) : Expressible (bool truth)
  | int {number : Int} (low : -2 ^ 63 ≤ number) (high : number < 2 ^ 63) : Expressible (int number)
  | str (identity : Nat) (text : String) : Expressible (str identity text)

/-- A term that the text of a value is read as, and that stands for an equal value of its class. -/
structure Spells (value : Value) (term : Term) : Prop where
  derives : Derives value.text.toList term
  reads : ∀ world, ∃ read later, (Hint.readLiteral term).Ends world read later ∧
    read.equal value = true ∧ read.kind = value.kind

end Value

namespace Hint

/-- The body of a string is what stands between its quotes. -/
theorem stringBody_eq (bytes : Bool) {quote : Char} (quotes : quote = '\'' ∨ quote = '"')
    {units : List (List Char)} (each : ∀ unit ∈ units, StringUnit quote unit) :
    stringBody (mark bytes ++ quote :: (units.flatten ++ [quote])) =
      .ok (unescape units.flatten, bytes) := by
  have single : [quote, quote].isPrefixOf (units.flatten ++ [quote]) = false := by
    rw [Bool.eq_false_iff]
    intro starts
    obtain ⟨more, shown⟩ := List.isPrefixOf_iff_prefix.mp starts
    exact ne_tripled quotes each .nil more shown.symm
  have found : ¬ (!(quote == '\'' || quote == '"')) = true := by
    rcases quotes with rfl | rfl <;> decide
  have unquoted : ∀ c ∈ mark bytes, (!(c == '\'' || c == '"')) = true := by
    cases bytes <;> decide
  have closed : [quote].isSuffixOf (units.flatten ++ [quote]) = true :=
    List.isSuffixOf_iff_suffix.mpr ⟨units.flatten, rfl⟩
  have body : (units.flatten ++ [quote]).take ((units.flatten ++ [quote]).length - 1) =
      units.flatten := by
    rw [length_append, length_singleton, Nat.add_sub_cancel, take_left]
  have marks : (mark bytes ++ quote :: (units.flatten ++ [quote])).takeWhile
      (fun c => !(c == '\'' || c == '"')) = mark bytes := by
    refine (takeWhile_append_of_pos unquoted).trans (Eq.trans ?_ (append_nil _))
    exact congrArg (mark bytes ++ ·) (takeWhile_cons_of_neg found)
  have start : (mark bytes ++ quote :: (units.flatten ++ [quote])).dropWhile
      (fun c => !(c == '\'' || c == '"')) = quote :: (units.flatten ++ [quote]) :=
    (dropWhile_append_of_pos unquoted).trans (dropWhile_cons_of_neg found)
  have letters : ((mark bytes).map Char.toLower).contains 'f' = false ∧
      ((mark bytes).map Char.toLower).contains 'r' = false ∧
      ((mark bytes).map Char.toLower).contains 'b' = bytes := by cases bytes <;> decide
  obtain ⟨unformatted, cooked, marked⟩ := letters
  rw [stringBody]
  dsimp only
  rw [marks, start]
  dsimp only
  rw [single, unformatted, cooked, marked]
  show (if [quote].isSuffixOf (units.flatten ++ [quote]) = true then
    Except.ok (unescape ((units.flatten ++ [quote]).take _), bytes) else _) = _
  rw [if_pos closed]
  exact congrArg (fun body => Except.ok (unescape body, bytes)) body

end Hint

namespace Value

theorem exists_spells_int {number : Int} (low : -2 ^ 63 ≤ number) (high : number < 2 ^ 63) :
    ∃ term, (int number).Spells term := by
  obtain ⟨negative, token, shown, rfl⟩ := IntegerToken.exists_signedText_eq number
  refine ⟨token.term negative, ?_, fun world => ⟨_, world, ?_, by simp [equal], rfl⟩⟩
  · rw [shown]
    exact .integer negative token
  · rw [token.readLiteral_term, token.readInteger_text, if_pos ⟨low, high⟩]
    rfl

theorem exists_spells_str (identity : Nat) (text : String) :
    ∃ term, (str identity text).Spells term := by
  have quotes := Token.quoteFor_eq text.toList
  have shown : (str identity text).text.toList = quoteFor text.toList ::
      ((text.toList.map (escaped (quoteFor text.toList))).flatten ++
        [quoteFor text.toList]) := by
    rw [Value.text, quoted, String.toList_ofList, flatMap_def]
    rfl
  have each : ∀ unit ∈ text.toList.map (escaped (quoteFor text.toList)),
      StringUnit (quoteFor text.toList) unit := by
    intro unit member
    obtain ⟨c, -, rfl⟩ := mem_map.mp member
    exact .of_escapedAs (escapedAs_escaped _ c)
  have derives := Derives.quoted false quotes each
  have body := Hint.stringBody_eq false quotes each
  rw [mark, nil_append, ← shown] at derives body
  rw [← flatMap_def, unescape_flatMap quotes (escapedAs_escaped _)] at body
  refine ⟨_, derives, fun world =>
    ⟨str world.next text, { world with next := world.next + 1 }, ?_, by simp [equal], rfl⟩⟩
  rw [Hint.readLiteral, body]
  dsimp only
  rw [String.ofList_toList]
  rfl

theorem exists_spells {value : Value} (expressible : value.Expressible) : ∃ term, value.Spells term := by
  cases expressible with
  | null =>
    have member : null.text ∈ Hint.words := by decide
    exact ⟨_, .word member, fun world => ⟨null, world, rfl, by simp [equal], rfl⟩⟩
  | bool truth =>
    have member : (bool truth).text ∈ Hint.words := by cases truth <;> decide
    refine ⟨_, .word member, fun world => ⟨bool truth, world, ?_, ?_, rfl⟩⟩
    · cases truth <;> rfl
    · simp [equal]
  | int low high => exact exists_spells_int low high
  | str identity text => exact exists_spells_str identity text

end Value

/-! ### Hints -/

namespace Hint

theorem exists_forall₂ {Left Right : Type} {related : Left → Right → Prop} {lefts : List Left}
    (each : ∀ left ∈ lefts, ∃ right, related left right) :
    ∃ rights, List.Forall₂ related lefts rights := by
  induction lefts with
  | nil => exact ⟨[], .nil⟩
  | cons left lefts ih =>
    rw [forall_mem_cons] at each
    obtain ⟨right, first⟩ := each.1
    obtain ⟨rights, others⟩ := ih each.2
    exact ⟨right :: rights, .cons first others⟩

/-- The hints that can be written so that they are read again in a scope. -/
inductive Expressible (scope : Scope) : Hint → Prop
  | any : Expressible scope any
  | null : Expressible scope null
  | never : Expressible scope never
  | instanceOf {c : Class}
    (known : c ∈ [Class.object, .int, .bool, .float, .complex, .str, .bytes, .tuple]) :
    Expressible scope (instanceOf c)
  | structural {protocol : Protocol} (known : protocol ∈ Protocol.builtins) :
    Expressible scope (structural protocol)
  | reference {target : Reference} (here : target.scope = scope)
    (identifier : isIdentifier target.name = true) : Expressible scope (reference target)
  | generic (origin : Origin) {arguments : List Hint}
    (each : ∀ argument ∈ arguments, Expressible scope argument) (aliased : Bool) :
    Expressible scope (generic origin arguments aliased)
  | fixed {items : List Hint} (each : ∀ item ∈ items, Expressible scope item) (aliased : Bool) :
    Expressible scope (tuple items false aliased)
  | variadic {item : Hint} (inside : Expressible scope item) (aliased : Bool) :
    Expressible scope (tuple [item] true aliased)
  | union {members : List Hint} (nonempty : members ≠ [])
    (each : ∀ member ∈ members, Expressible scope member) : Expressible scope (union members)
  | literal {values : List Value} (nonempty : values ≠ [])
    (each : ∀ value ∈ values, value.Expressible) : Expressible scope (literal values)

/-- A term that the text of a hint is read as, and that stands for the same hint. -/
structure Spells (scope : Scope) (hint : Hint) (term : Term) : Prop where
  derives : Derives hint.text.toList term
  plain : isEllipsis term = false ∧ ∀ text assignable, term ≠ .tuple text true assignable
  reads : ∀ world, ∃ read later, (ofTerm scope term).Ends world read later ∧ read.same hint = true

variable {scope : Scope} {hint : Hint} {name : String}

/-- A name by itself. -/
theorem spells_bare (member : name ∈ words) (named : name ∉ ["None", "True", "False"])
    (text : hint.text = name)
    (meaning : ∃ read, bare scope name = pure read ∧ read.same hint = true) :
    ∃ term, Spells scope hint term := by
  obtain ⟨-, -, proper⟩ := worded_of_mem member
  have derives := Derives.word member
  rw [ofWord_eq named, ← text] at derives
  refine ⟨_, derives, ⟨rfl, fun _ _ => Term.noConfusion⟩, fun world => ?_⟩
  obtain ⟨read, meant, same⟩ := meaning
  refine ⟨read, world, ?_, same⟩
  rw [ofTerm, text, proper, meant]
  rfl

/-- A name with parts between brackets. -/
theorem spells_subscripted (member : name ∈ words) (named : name ∉ ["None", "True", "False"])
    {parts : List String} {terms : List Term} (nonempty : parts ≠ [])
    (derived : List.Forall₂ (fun part term => Derives part.toList term) parts terms)
    (text : hint.text = subscripted name parts)
    (meaning : ∀ world, ∃ read later, (subscript scope name terms).Ends world read later ∧
      read.same hint = true) : ∃ term, Spells scope hint term := by
  obtain ⟨-, -, proper⟩ := worded_of_mem member
  obtain ⟨paired, each⟩ := forall₂_iff_zip.mp derived
  have derives := Derives.subscripted member named nonempty paired fun _ _ => each
  rw [← text] at derives
  refine ⟨_, derives, ⟨rfl, fun _ _ => Term.noConfusion⟩, fun world => ?_⟩
  rw [ofTerm, proper]
  exact meaning world

section Parts

variable {hints : List Hint} {terms : List Term}

theorem derives_texts (each : List.Forall₂ (Spells scope) hints terms) :
    List.Forall₂ (fun part term => Derives part.toList term) (texts hints) terms := by
  rw [texts_eq_map, forall₂_map_left_iff]
  exact each.imp fun _ _ spells => spells.derives

/-- Terms that spell hints are read as the same hints, one after the other. -/
theorem ends_ofTerms (each : List.Forall₂ (Spells scope) hints terms) (world : World) :
    ∃ read later, (ofTerms scope terms).Ends world read later ∧ sameList read hints = true := by
  induction each generalizing world with
  | nil =>
    rw [ofTerms]
    exact ⟨[], world, rfl, rfl⟩
  | cons spells others ih =>
    obtain ⟨read, middle, ended, same⟩ := spells.reads world
    obtain ⟨reads, later, ended', same'⟩ := ih middle
    rw [ofTerms]
    refine ⟨read :: reads, later, ?_, by rw [sameList, same, same']; rfl⟩
    exact Action.ends_bind.mpr
      ⟨read, middle, ended, Action.ends_bind.mpr ⟨reads, later, ended', rfl⟩⟩

theorem ends_readLiterals {values : List Value} (each : List.Forall₂ Value.Spells values terms)
    (world : World) : ∃ read later, (terms.mapM readLiteral).Ends world read later ∧
      List.Forall₂ (fun a b : Value => a.equal b = true ∧ a.kind = b.kind) read values := by
  induction each generalizing world with
  | nil => exact ⟨[], world, rfl, .nil⟩
  | cons spells others ih =>
    obtain ⟨read, middle, ended, same⟩ := spells.reads world
    obtain ⟨reads, later, ended', same'⟩ := ih middle
    rw [mapM_cons]
    refine ⟨read :: reads, later, ?_, .cons same same'⟩
    exact Action.ends_bind.mpr
      ⟨read, middle, ended, Action.ends_bind.mpr ⟨reads, later, ended', rfl⟩⟩

end Parts

theorem exists_spells_reference {target : Reference} (here : target.scope = scope)
    (identifier : isIdentifier target.name = true) :
    ∃ term, Spells scope (reference target) term := by
  have absent {c : Char} (small : c.toNat < 128) (other : c.isAlphanum = false)
      (underscore : c ≠ '_') : c ∉ target.name.toList :=
    not_mem_of_isIdentifier identifier small other underscore
  have units : (target.name.toList.map ([·])).flatten = target.name.toList := by
    rw [← flatMap_def]
    exact flatMap_singleton' _
  have each : ∀ unit ∈ target.name.toList.map ([·]), StringUnit '\'' unit := by
    intro unit found
    obtain ⟨c, member, rfl⟩ := mem_map.mp found
    have other {d : Char} (small : d.toNat < 128) (other : d.isAlphanum = false)
        (underscore : d ≠ '_') : c ≠ d := by
      rintro rfl
      exact absent small other underscore member
    exact .plain (other (by decide) (by decide) (by decide))
      (other (by decide) (by decide) (by decide)) (other (by decide) (by decide) (by decide))
      (other (by decide) (by decide) (by decide))
  have shown : (reference target).text.toList =
      '\'' :: ((target.name.toList.map ([·])).flatten ++ ['\'']) := by
    rw [units, text]
    simp
  have derives := Derives.quoted false (.inl rfl) each
  have body := stringBody_eq false (.inl rfl) each
  have plain : unescape target.name.toList = target.name.toList :=
    unescape_eq_self (absent (by decide) (by decide) (by decide))
  rw [mark, nil_append, ← shown] at derives body
  rw [units, plain] at body
  refine ⟨_, derives, ⟨rfl, fun _ _ => Term.noConfusion⟩, fun world => ?_⟩
  refine ⟨reference ⟨world.next, target.name, scope⟩, { world with next := world.next + 1 },
    ?_, ?_⟩
  · rw [ofTerm, body]
    dsimp only
    rw [String.ofList_toList]
    rfl
  · simp [same, here]

theorem exists_spells_null : ∃ term, Spells scope null term := by
  have member : null.text ∈ words := by decide
  refine ⟨.null, .word member, ⟨rfl, fun _ _ => Term.noConfusion⟩, fun world => ?_⟩
  rw [ofTerm]
  exact ⟨null, world, rfl, rfl⟩

theorem exists_spells_generic (origin : Origin) (aliased : Bool) {arguments : List Hint}
    (each : ∀ argument ∈ arguments, ∃ term, Spells scope argument term) :
    ∃ term, Spells scope (generic origin arguments aliased) term := by
  have facts : (if aliased then origin.aliasName else origin.name) ∈ words ∧
      (if aliased then origin.aliasName else origin.name) ∉ ["None", "True", "False"] ∧
      designation? (if aliased then origin.aliasName else origin.name) =
        some (.container origin aliased) := by
    cases origin <;> cases aliased <;> exact ⟨by decide, by decide, rfl⟩
  obtain ⟨member, named, designated⟩ := facts
  cases arguments with
  | nil =>
    refine spells_bare member named rfl
      ⟨generic origin [] aliased, ?_, same_of_matches (.generic .nil)⟩
    rw [bare, designated]
  | cons argument arguments =>
    obtain ⟨terms, spells⟩ := exists_forall₂ each
    refine spells_subscripted member named ?_ (derives_texts spells) rfl fun world => ?_
    · exact cons_ne_nil _ _
    obtain ⟨read, later, ended, same⟩ := ends_ofTerms spells world
    unfold subscript
    rw [designated]
    refine ⟨generic origin read aliased, later, Action.ends_bind.mpr ⟨read, later, ended, rfl⟩, ?_⟩
    simp [Hint.same, same]

theorem tuple_word (aliased : Bool) : (if aliased then "Tuple" else "tuple") ∈ words ∧
    (if aliased then "Tuple" else "tuple") ∉ ["None", "True", "False"] ∧
    designation? (if aliased then "Tuple" else "tuple") = some (.tuple aliased) := by
  cases aliased <;> exact ⟨by decide, by decide, rfl⟩

theorem plain_of_spells {hints : List Hint} {terms : List Term}
    (each : List.Forall₂ (Spells scope) hints terms) :
    ∀ term ∈ terms, isEllipsis term = false ∧
      ∀ text assignable, term ≠ .tuple text true assignable := by
  induction each with
  | nil => exact forall_mem_nil _
  | cons spells _ ih =>
    exact forall_mem_cons.mpr ⟨spells.plain, ih⟩

theorem exists_spells_fixed (aliased : Bool) {items : List Hint}
    (each : ∀ item ∈ items, ∃ term, Spells scope item term) :
    ∃ term, Spells scope (tuple items false aliased) term := by
  obtain ⟨member, named, designated⟩ := tuple_word aliased
  cases items with
  | nil =>
    refine spells_subscripted member named (cons_ne_nil _ _) (.cons .unit .nil) rfl fun world => ?_
    unfold subscript
    rw [designated]
    exact ⟨tuple [] false aliased, world, rfl, same_of_matches (.tuple .nil)⟩
  | cons item items =>
    obtain ⟨terms, spells⟩ := exists_forall₂ each
    have plain := plain_of_spells spells
    refine spells_subscripted member named ?_ (derives_texts spells) rfl fun world => ?_
    · exact cons_ne_nil _ _
    obtain ⟨read, later, ended, same⟩ := ends_ofTerms spells world
    unfold subscript
    rw [designated]
    dsimp only
    split
    · exact absurd rfl ((plain _ mem_cons_self).2 _ _)
    · cases (plain .ellipsis (by simp)).1
    · have none : ¬ terms.any isEllipsis = true := by
        rw [any_eq_true]
        rintro ⟨term, found, dots⟩
        cases dots.symm.trans (plain term found).1
      rw [if_neg none]
      refine ⟨tuple read false aliased, later, Action.ends_bind.mpr ⟨read, later, ended, rfl⟩, ?_⟩
      simp [Hint.same, same]

theorem exists_spells_variadic (aliased : Bool) {item : Hint} {term : Term}
    (spells : Spells scope item term) : ∃ term, Spells scope (tuple [item] true aliased) term := by
  obtain ⟨member, named, designated⟩ := tuple_word aliased
  refine spells_subscripted member named (cons_ne_nil _ _) (.cons spells.derives (.cons .dots .nil))
    rfl fun world => ?_
  obtain ⟨read, later, ended, same⟩ := spells.reads world
  unfold subscript
  rw [designated]
  dsimp only
  split
  · rename_i shown
    cases shown
  · rename_i shown
    cases shown
    rw [spells.plain.1]
    refine ⟨tuple [read] true aliased, later, Action.ends_bind.mpr ⟨read, later, ended, rfl⟩, ?_⟩
    simp [Hint.same, sameList, same]
  · rename_i other
    exact absurd rfl (other term)

theorem exists_spells_union {members : List Hint} (nonempty : members ≠ [])
    (each : ∀ member ∈ members, ∃ term, Spells scope member term) :
    ∃ term, Spells scope (union members) term := by
  obtain ⟨terms, spells⟩ := exists_forall₂ each
  have some : texts members ≠ [] := by
    rw [texts_eq_map]
    exact mt map_eq_nil_iff.mp nonempty
  have member : "Union" ∈ words := by decide
  refine spells_subscripted member (by decide) some (derives_texts spells) rfl fun world => ?_
  obtain ⟨read, later, ended, same⟩ := ends_ofTerms spells world
  have designated : designation? "Union" = Option.some .union := rfl
  unfold subscript
  rw [designated]
  exact ⟨union read, later, Action.ends_bind.mpr ⟨read, later, ended, rfl⟩, same⟩

theorem exists_spells_literal {values : List Value} (nonempty : values ≠ [])
    (each : ∀ value ∈ values, value.Expressible) : ∃ term, Spells scope (literal values) term := by
  obtain ⟨terms, spells⟩ :=
    exists_forall₂ fun value member => Value.exists_spells (each value member)
  have derived : List.Forall₂ (fun part term => Derives part.toList term) (values.map Value.text)
      terms := by
    rw [forall₂_map_left_iff]
    exact spells.imp fun _ _ spells => spells.derives
  have some : values.map Value.text ≠ [] := mt map_eq_nil_iff.mp nonempty
  have member : "Literal" ∈ words := by decide
  refine spells_subscripted member (by decide) some derived rfl fun world => ?_
  obtain ⟨read, later, ended, same⟩ := ends_readLiterals spells world
  have designated : designation? "Literal" = Option.some .literal := rfl
  unfold subscript
  rw [designated]
  exact ⟨literal read, later, Action.ends_bind.mpr ⟨read, later, ended, rfl⟩,
    same_of_matches (.literal same)⟩

theorem exists_spells (expressible : hint.Expressible scope) : ∃ term, Spells scope hint term := by
  induction expressible with
  | any => exact spells_bare (by decide) (by decide) rfl ⟨_, rfl, rfl⟩
  | null => exact exists_spells_null
  | never => exact spells_bare (by decide) (by decide) rfl ⟨_, rfl, rfl⟩
  | @instanceOf c known =>
    simp only [mem_cons, not_mem_nil, or_false] at known
    rcases known with rfl | rfl | rfl | rfl | rfl | rfl | rfl | rfl
    all_goals
      exact spells_bare (by decide) (by decide) rfl ⟨_, rfl, same_of_matches (.instanceOf _)⟩
  | @structural protocol known =>
    simp only [Protocol.builtins, mem_cons, not_mem_nil, or_false] at known
    rcases known with rfl | rfl | rfl | rfl | rfl | rfl | rfl | rfl | rfl
    all_goals
      exact spells_bare (by decide) (by decide) rfl ⟨_, rfl, same_of_matches (.structural _)⟩
  | reference here identifier => exact exists_spells_reference here identifier
  | generic origin each aliased ih =>
    exact exists_spells_generic origin aliased ih
  | fixed each aliased ih => exact exists_spells_fixed aliased ih
  | variadic inside aliased ih =>
    exact ih.elim fun _ spells => exists_spells_variadic aliased spells
  | union nonempty each ih =>
    exact exists_spells_union nonempty ih
  | literal nonempty each => exact exists_spells_literal nonempty each

/-- With any parser of hints, the text of a hint is read as the same hint. -/
theorem readWith_text {parse : List Char → Option Outline} (parses : Parses parse)
    (expressible : hint.Expressible scope) (world : World) :
    ∃ read later, (readWith parse scope hint.text).Ends world read later ∧
      read.same hint = true := by
  obtain ⟨term, spells⟩ := exists_spells expressible
  rw [readWith_eq parses spells.derives]
  exact spells.reads world

/-- The text of a hint is read as the same hint. -/
theorem read_text (expressible : hint.Expressible scope) (world : World) :
    ∃ read later, (Hint.read scope hint.text).Ends world read later ∧ read.same hint = true :=
  readWith_text parses_outline expressible world

/-- A hint that has one of everything that is written in a special way inside. -/
def sampler (scope : Scope) : Hint :=
  generic .dict
    [reference ⟨0, "Node", scope⟩,
      union [tuple [] false true, generic .type [generic .type [] false] false,
        tuple [literal [.int (-2 ^ 63), .str 1 "it's \"\n\"\x00", .bool true, .null]] true false]]
    true

theorem expressible_sampler (scope : Scope) : (sampler scope).Expressible scope := by
  have values : ∀ value ∈ [Value.int (-2 ^ 63), .str 1 "it's \"\n\"\x00", .bool true, .null],
      value.Expressible := by
    simp only [forall_mem_cons]
    exact ⟨.int (by decide) (by decide), .str _ _, .bool _, .null, forall_mem_nil _⟩
  have node : (reference ⟨0, "Node", scope⟩).Expressible scope :=
    .reference rfl (show isIdentifier "Node" = true by decide)
  have kind : (generic .type [generic .type [] false] false).Expressible scope :=
    .generic _ (forall_mem_singleton.mpr (.generic _ (forall_mem_nil _) _)) _
  refine .generic _ (forall_mem_cons.mpr ⟨node, ?_⟩) _
  refine forall_mem_singleton.mpr (.union (cons_ne_nil _ _) ?_)
  simp only [forall_mem_cons]
  exact ⟨.fixed (forall_mem_nil _) _, kind,
    .variadic (.literal (cons_ne_nil _ _) values) _, forall_mem_nil _⟩

theorem read_text_of_sampler :
    (sampler ⟨0, "main"⟩).Expressible ⟨0, "main"⟩ ∧ ∃ read later,
      (Hint.read ⟨0, "main"⟩ (sampler ⟨0, "main"⟩).text).Ends .initial read later ∧
        read.same (sampler ⟨0, "main"⟩) = true :=
  ⟨expressible_sampler _, read_text (expressible_sampler _) .initial⟩

end Hint

end CallGuard
