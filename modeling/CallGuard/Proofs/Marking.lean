/-
Hints that are the same and the imprints they leave. An imprint goes by the text
of literal values, so it is the same for hints that are the same where equal
values have one text. Zeros have two texts, and sets and dictionaries one for
each order of their items.
-/
import CallGuard.Proofs.Sameness
import CallGuard.Proofs.Legibility

namespace CallGuard

open List

/-! ### Values with one text -/

theorem Binary64.eq_of_eq {x y : Binary64} (same : x.eq y = true) (nonzero : x.isZero = false) :
    x = y := by
  cases x
  cases y
  simp_all [Binary64.eq]

theorem map_eq_of_forall₂ {Item Image : Type} {image : Item → Image} {lefts rights : List Item}
    (each : List.Forall₂ (fun left right => image left = image right) lefts rights) :
    lefts.map image = rights.map image := by
  rwa [← forall₂_eq_eq_eq, forall₂_map_left_iff, forall₂_map_right_iff]

/-- Items that are all written the same leave no choice to as many that are written like them. -/
theorem map_eq_of_uniform {Item : Type} {write : Item → String} {lefts rights : List Item}
    (size : lefts.length = rights.length)
    (uniform : ∀ left ∈ lefts, ∀ other ∈ lefts, write left = write other)
    (covered : ∀ right ∈ rights, ∃ left ∈ lefts, write left = write right) :
    lefts.map write = rights.map write := by
  cases lefts with
  | nil => rw [eq_nil_of_length_eq_zero size.symm]
  | cons first rest =>
    have only (left : Item) (member : left ∈ first :: rest) : write left = write first :=
      uniform left member first mem_cons_self
    rw [map_eq_replicate_iff.mpr only, size]
    refine (map_eq_replicate_iff.mpr fun right member => ?_).symm
    obtain ⟨left, inside, same⟩ := covered right member
    rw [← same, only left inside]

namespace Value

/-- A number is not zero, which is written with its sign, and the items of a set or the entries of a
dictionary are all written the same. -/
def HasOneText : Value → Prop
  | float x => x.isZero = false
  | complex x y => x.isZero = false ∧ y.isZero = false
  | set _ items | frozenset _ items => ∀ a ∈ items, ∀ b ∈ items, a.text = b.text
  | dict _ entries =>
    ∀ a ∈ entries, ∀ b ∈ entries, a.1.text = b.1.text ∧ a.2.text = b.2.text
  | _ => True

/-- No part of a value, at any depth, has an equal value with another text. -/
def Definite (value : Value) : Prop := ∀ inner : Value, inner.Inside value → inner.HasOneText

theorem text_eq_of_equal {a b : Value} (built : a.Built) (definite : a.Definite)
    (same : a.equal b = true) : a.text = b.text := by
  induction a using induction_parts generalizing b with
  | step a ih =>
    have write (part : Value) (member : part ∈ a.parts) (other : Value)
        (link : part.equal other = true) : part.text = other.text :=
      ih part member (built.part member)
        (fun inner inside => definite inner (.part member inside)) link
    have turn (part : Value) (member : part ∈ a.parts) (other : Value)
        (link : equal part other = true) : equal other part = true :=
      equal_symm (built.part member) link
    have one := definite a .self
    have distinct := built a .self
    rw [equal_iff] at same
    cases same with
    | null | bool | int | str | bytes | classObject | object => rfl
    | float same => rw [Binary64.eq_of_eq same one]
    | complex real imaginary =>
      rw [Binary64.eq_of_eq real one.1, Binary64.eq_of_eq imaginary one.2]
    | list each | tuple each =>
      have items := map_eq_of_forall₂
        (forall₂_imp_of_mem each fun item member item' _ => write item member item')
      simp [text, texts_eq_map, items]
    | set size each | frozenset size each =>
      have covered := covered_of_distinct (fun _ _ => id) turn distinct size each
      have items := map_eq_of_uniform size one fun b member =>
        (covered b member).imp fun a link => ⟨link.1, write a link.1 b link.2⟩
      rw [text, text, texts_eq_map, texts_eq_map, items]
    | dict size each =>
      have covered := covered_of_distinct (fun _ _ link => link.1)
        (fun entry member => turn entry.1 (mem_parts_of_key member)) distinct size each
      rw [text, text, entryTexts_eq_map, entryTexts_eq_map, map_eq_of_uniform size]
      · intro a member b member'
        rw [(one a member b member').1, (one a member b member').2]
      · intro b member
        obtain ⟨a, inside, key, content⟩ := covered b member
        refine ⟨a, inside, ?_⟩
        rw [write a.1 (mem_parts_of_key inside) b.1 key,
          write a.2 (mem_parts_of_entry inside) b.2 content]

end Value

namespace Hint

theorem imprints_eq_flatMap (hints : List Hint) : imprints hints = hints.flatMap imprint := by
  induction hints with
  | nil => rfl
  | cons hint hints ih => rw [imprints, ih, flatMap_cons]

/-- Hints that are the same leave the same imprint if equal literals are written the same. -/
theorem imprint_eq_of_matches {a b : Hint} (matched : Matches a b)
    (written : ∀ values, (literal values).Inside a → ∀ value ∈ values, ∀ other,
      value.equal other = true → value.text = other.text) : a.imprint = b.imprint := by
  induction a using induction_children generalizing b with
  | step a ih =>
    have each : List.Forall₂ (fun child child' => child.imprint = child'.imprint)
        a.children b.children :=
      forall₂_imp_of_mem matched.children fun child member _ _ link =>
        ih child member link fun values inside =>
          written values (.child member inside)
    have children : imprints a.children = imprints b.children := by
      rw [imprints_eq_flatMap, imprints_eq_flatMap, flatMap_def, flatMap_def,
        map_eq_of_forall₂ each]
    cases matched with
    | any | null | never | instanceOf | structural | unknown => rfl
    | union same | generic same | tuple same =>
      rw [imprint, imprint, same.length_eq]
      rw [Hint.children, Hint.children] at children
      rw [children]
    | reference link => rw [imprint, imprint, link.1, link.2]
    | annotated _ serials =>
      rw [imprint, imprint, (forall₂_cons.mp each).1,
        map_eq_of_forall₂ (serials.imp fun _ _ => congrArg Mark.identity)]
    | literal same =>
      rw [imprint, imprint, flatMap_def, flatMap_def, map_eq_of_forall₂]
      refine forall₂_imp_of_mem same fun value member other _ link => ?_
      rw [valueImprint, valueImprint, link.2, written _ .self value member other link.1]

/-- Hints that are the same leave the same imprint, if their literals are made by their constructors
and have one text. -/
theorem imprint_eq_of_same {a b : Hint}
    (built : ∀ values, (literal values).Inside a → ∀ value ∈ values, value.Built)
    (definite : ∀ values, (literal values).Inside a → ∀ value ∈ values, value.Definite)
    (same : a.same b = true) : a.imprint = b.imprint :=
  imprint_eq_of_matches (matches_of_same same) fun values inside value member _ link =>
    Value.text_eq_of_equal (built values inside value member) (definite values inside value member)
      link

/-- What is made anew, with other identities, leaves the same imprint. -/
theorem imprint_eq_of_same_remade :
    let made (i : Nat) : Hint := union
      [literal [.tuple i [.float ⟨0x3FF8000000000000⟩, .set (i + 1) [.int 3]]],
        reference ⟨i + 2, "T", ⟨101, "module"⟩⟩]
    (made 1).same (made 5) = true ∧ (made 1).imprint = (made 5).imprint := by
  intro made
  have same : (made 1).same (made 5) = true := by decide +kernel
  have only (values : List Value) (inside : (literal values).Inside (made 1)) :
      values = [.tuple 1 [.float ⟨0x3FF8000000000000⟩, .set 2 [.int 3]]] := by
    rcases inside with _ | ⟨_ | ⟨_, _ | ⟨_, ⟨⟩⟩⟩, _ | ⟨⟨⟩, _⟩⟩
    rfl
  have parts (inner : Value)
      (inside : inner.Inside (.tuple 1 [.float ⟨0x3FF8000000000000⟩, .set 2 [.int 3]])) :
      inner.HasDistinct ∧ inner.HasOneText := by
    rcases inside with _ | ⟨_ | ⟨_, _ | ⟨_, ⟨⟩⟩⟩, _ | ⟨_ | ⟨_, ⟨⟩⟩, _ | ⟨⟨⟩, _⟩⟩⟩
    · exact ⟨trivial, trivial⟩
    · exact ⟨trivial, show Binary64.isZero _ = false by decide⟩
    · exact ⟨List.pairwise_singleton _ _,
        show ∀ a ∈ [_], ∀ b ∈ [_], Value.text a = Value.text b by simp⟩
    · exact ⟨trivial, trivial⟩
  refine ⟨same, imprint_eq_of_same (fun values found => ?_) (fun values found => ?_) same⟩ <;>
    rw [only values found]
  · exact List.forall_mem_singleton.mpr fun inner inside => (parts inner inside).1
  · exact List.forall_mem_singleton.mpr fun inner inside => (parts inner inside).2

/-- Zeros with different signs are equal, and so are sets in another order, but neither are written
the same. -/
theorem imprint_ne_of_same :
    let zero : Hint := literal [.float ⟨0⟩]
    let negativeZero : Hint := literal [.float ⟨0x8000000000000000⟩]
    let ascending : Hint := literal [.ofSet 1 [.int 1, .int 2]]
    let descending : Hint := literal [.ofSet 2 [.int 2, .int 1]]
    (zero.same negativeZero = true ∧ zero.imprint ≠ negativeZero.imprint) ∧
      ascending.same descending = true ∧ ascending.imprint ≠ descending.imprint := by
  decide +kernel

end Hint

end CallGuard
