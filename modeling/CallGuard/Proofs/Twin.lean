/-
Hints that cannot be told apart. Hints that are alike may still be written
differently: the two zeros are equal, and so are sets in whatever order. Twins
are alike, are written the same and have the same validators; their references
have the same names and are resolved to the same hints. Twins have the same
parts at the same places, however unions were flattened and repetitions dropped.
-/
import CallGuard.Proofs.Correspondence
import CallGuard.Proofs.Shape

namespace CallGuard

open CallGuard.Action

variable {similar : World → World → Prop} {legible : Prop}

/-- Literals that can stand in for each other, name the same things and are written the same, also
as expressions if they are legible. -/
structure Value.Twin (legible : Prop) (a b : Value) : Prop where
  alike : a.Alike b
  lookups : ∀ name, name ∈ a.lookups ↔ name ∈ b.lookups
  text : a.text = b.text
  code : legible → a.code = b.code

theorem Value.Twin.refl (value : Value) : value.Twin legible value :=
  ⟨.refl value, fun _ => Iff.rfl, rfl, fun _ => rfl⟩

theorem Value.Twin.symm {a b : Value} (twin : a.Twin legible b) : b.Twin legible a :=
  ⟨twin.alike.symm, fun name => (twin.lookups name).symm, twin.text.symm,
    fun written => (twin.code written).symm⟩

/-- References have one name in one scope and are resolved alike, validators are equal, and literals
are twins. -/
abbrev Linkage.twin (similar : World → World → Prop) (legible : Prop) : Linkage :=
  ⟨fun a b => a.name = b.name ∧ a.scope = b.scope ∧ Corresponds similar (resolve a) (resolve b), Eq,
    Value.Twin legible⟩

/-- Hints that cannot be told apart in worlds that are similar. -/
abbrev Hint.Twin (similar : World → World → Prop) (legible : Prop) : Hint → Hint → Prop :=
  Linked (.twin similar legible)

/-- Shapes that cannot be told apart in worlds that are similar. -/
abbrev Shape.Twin (similar : World → World → Prop) (legible : Prop) : Shape → Shape → Prop :=
  Linked (Hint.Twin similar legible) (.twin similar legible)

namespace Hint

variable {a b : Hint}

theorem Twin.refl (similarity : Similarity similar) (hint : Hint) :
    Twin similar legible hint hint :=
  linked_self (fun target => ⟨rfl, rfl, similarity.resolve target⟩) (fun _ => rfl) .refl

theorem Twin.symm (similarity : Similarity similar) (twin : Twin similar legible a b) :
    Twin similar legible b a :=
  twin.swap (fun _ _ link => ⟨link.1.symm, link.2.1.symm, link.2.2.symm similarity⟩)
    (fun _ _ => Eq.symm) fun _ _ => Value.Twin.symm

/-- References in the two hints with one name in one scope are resolved alike. -/
def Concordant (similar : World → World → Prop) (a b : Hint) : Prop :=
  ∀ target target', (reference target).Inside a → (reference target').Inside b →
    target.name = target'.name → target.scope = target'.scope →
    Corresponds similar (resolve target) (resolve target')

theorem Concordant.child {child child' : Hint} (concordant : Concordant similar a b)
    (member : child ∈ a.children) (member' : child' ∈ b.children) :
    Concordant similar child child' :=
  fun target target' inside inside' =>
    concordant target target' (.child member inside) (.child member' inside')

theorem concordant_of_bare (bare : ∀ target, ¬ (reference target).Inside b) :
    Concordant similar a b :=
  fun _ target' _ inside => absurd inside (bare target')

/-- Twins are alike, whatever references stand for: references with one name in one scope are taken
to be alike. -/
theorem Twin.alike (twin : Twin similar legible a b) : Alike (fun _ => none) a b :=
  twin.imp (fun _ _ link => ⟨link.1, link.2.1, rfl⟩) (fun _ _ same => same ▸ ⟨rfl, rfl⟩)
    fun _ _ => Value.Twin.alike

/-- Twins have shapes that are twins. -/
theorem Twin.shape (twin : Twin similar legible a b) : a.shape.Twin similar legible b.shape :=
  Linked.shape (fun first second => Alike.same_eq (Twin.alike first) (Twin.alike second)) twin

/-! ### Texts -/

theorem texts_eq_map (hints : List Hint) : texts hints = hints.map text := by
  induction hints with
  | nil => rfl
  | cons first rest ih => rw [texts, ih, List.map_cons]

/-- Twins are written the same. -/
theorem Twin.text_eq (twin : Twin similar legible a b) : a.text = b.text := by
  induction a using induction_children generalizing b with
  | step a ih =>
    have children {others : List Hint}
        (each : List.Forall₂ (Twin similar legible) a.children others) :
        texts a.children = texts others := by
      rw [texts_eq_map, texts_eq_map, ← List.forall₂_eq_eq_eq, List.forall₂_map_left_iff,
        List.forall₂_map_right_iff]
      exact forall₂_imp_of_mem each fun child member _ _ link => ih child member link
    cases twin with
    | any | null | never | instanceOf _ | structural _ | unknown _ => rfl
    | @union members members' each =>
      have same : texts members = texts members' := children each
      rw [text, text, same]
    | @generic origin arguments arguments' aliased each =>
      have same : texts arguments = texts arguments' := children each
      cases each with
      | nil => rfl
      | cons _ _ => exact congrArg (subscripted _) same
    | @tuple items items' variadic aliased each =>
      have same : texts items = texts items' := children each
      cases each with
      | nil => rfl
      | cons _ _ => simp only [text, same]
    | reference link => rw [text, text, link.1]
    | annotated inside each =>
      cases List.forall₂_eq_eq_eq ▸ each
      rw [text, text, ih _ List.mem_cons_self inside]
    | @literal values values' each =>
      have same : values.map Value.text = values'.map Value.text := by
        rw [← List.forall₂_eq_eq_eq, List.forall₂_map_left_iff, List.forall₂_map_right_iff]
        exact each.imp fun _ _ link => link.text
      rw [text, text, same]

/-! ### Older names -/

theorem Linked.isAlias_eq {linkage : Linkage} (linked : Linked linkage a b) :
    a.isAlias = b.isAlias := by
  cases linked <;> rfl

end Hint

end CallGuard
