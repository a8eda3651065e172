/-
Hints that can stand in for each other. A hint that is the same as another one
need not be equal to it: its literals may be other objects, and its references
may have cells of their own. Hints that are built the same way are linked, and
how their references, validators and literals are linked tells how much they
have in common. Two hints are alike if they differ in nothing that a check or a
search for a cause can see while references stand for what they do. Hints that
are the same are alike as soon as their literals are made by their constructors,
their validators go by their serial numbers and their references stand for the
same.
-/
import CallGuard.Proofs.Equality
import CallGuard.Proofs.Structure

namespace CallGuard

open List

variable {Left Right : Type} {lefts : List Left} {rights : List Right}

/-- A relation between lists, item by item, may be replaced by one that holds of the items. -/
theorem forall₂_imp_of_mem {related related' : Left → Right → Prop}
    (each : List.Forall₂ related lefts rights)
    (weaker : ∀ left ∈ lefts, ∀ right ∈ rights, related left right → related' left right) :
    List.Forall₂ related' lefts rights := by
  induction each with
  | nil => exact .nil
  | cons head _ ih =>
    refine .cons (weaker _ mem_cons_self _ mem_cons_self head)
      (ih fun left member right member' => ?_)
    exact weaker left (mem_cons_of_mem _ member) right (mem_cons_of_mem _ member')

theorem exists_linked_left {linked : Left → Right → Prop}
    (links : List.Forall₂ linked lefts rights) {right : Right}
    (member : right ∈ rights) : ∃ left ∈ lefts, linked left right := by
  induction links with
  | nil => cases member
  | cons head _ ih =>
    rcases mem_cons.mp member with rfl | member
    · exact ⟨_, mem_cons_self, head⟩
    · obtain ⟨left, member, link⟩ := ih member
      exact ⟨left, mem_cons_of_mem _ member, link⟩

theorem exists_linked_right {linked : Left → Right → Prop}
    (links : List.Forall₂ linked lefts rights) {left : Left}
    (member : left ∈ lefts) : ∃ right ∈ rights, linked left right :=
  exists_linked_left links.flip member

/-- If two lists are linked item by item, then so are lists that stand in for them. -/
theorem forall₂_transfer {Left Left' Right Right' : Type} {lefts : List Left}
    {lefts' : List Left'} {rights : List Right} {rights' : List Right'}
    {replaces : Left → Left' → Prop} {replaces' : Right → Right' → Prop}
    {linked : Left → Right → Prop} {linked' : Left' → Right' → Prop}
    (links : List.Forall₂ linked lefts rights) (first : List.Forall₂ replaces lefts lefts')
    (second : List.Forall₂ replaces' rights rights')
    (transfer : ∀ left ∈ lefts, ∀ left' right right', replaces left left' →
      replaces' right right' → linked left right → linked' left' right') :
    List.Forall₂ linked' lefts' rights' := by
  induction links generalizing lefts' rights' with
  | nil =>
    cases first
    cases second
    exact .nil
  | cons link _ ih =>
    cases first with
    | cons head tail =>
      cases second with
      | cons head' tail' =>
        refine .cons (transfer _ mem_cons_self _ _ _ head head' link)
          (ih tail tail' fun left member => ?_)
        exact transfer left (mem_cons_of_mem _ member)

/-! ### Literals and validators -/

/-- Literals that can stand in for each other in whatever they are compared with. -/
structure Value.Alike (a b : Value) : Prop where
  kind : a.kind = b.kind
  left : ∀ value : Value, a.equal value = b.equal value
  right : ∀ value : Value, value.equal a = value.equal b
  isLiteral : ∀ value : Value, value.isLiteral a = value.isLiteral b

theorem Value.Alike.refl (value : Value) : value.Alike value :=
  ⟨rfl, fun _ => rfl, fun _ => rfl, fun _ => rfl⟩

theorem Value.Alike.symm {a b : Value} (alike : a.Alike b) : b.Alike a :=
  ⟨alike.kind.symm, fun value => (alike.left value).symm, fun value => (alike.right value).symm,
    fun value => (alike.isLiteral value).symm⟩

/-- Equal literals of one class can stand in for each other. -/
theorem Value.alike_of_equal {a b : Value} (same : a.equal b = true) (kinds : a.kind = b.kind)
    (built : a.Built) : a.Alike b where
  kind := kinds
  left value := by
    rw [Bool.eq_iff_iff]
    exact ⟨fun link => equal_trans (equal_symm built same) link, fun link => equal_trans same link⟩
  right _ := equal_congr built same
  isLiteral _ := isLiteral_congr built same kinds

theorem Value.Alike.equal {a b a' b' : Value} (first : a.Alike a') (second : b.Alike b')
    (same : a.equal b = true) : a'.equal b' = true := by
  rw [← second.right, ← first.left]
  exact same

theorem Value.any_isLiteral_eq {values values' : List Value} {value : Value}
    (each : List.Forall₂ Value.Alike values values') :
    values.any value.isLiteral = values'.any value.isLiteral := by
  induction each with
  | nil => rfl
  | cons head _ ih =>
    rw [any_cons, any_cons, head.isLiteral, ih]

/-- Validators that can stand in for each other. -/
def Validator.Alike (a b : Validator) : Prop := a.serial = b.serial ∧ a.accepts = b.accepts

theorem Validator.all_accepts_eq {validators validators' : List Validator} {value : Value}
    (each : List.Forall₂ Validator.Alike validators validators') :
    (validators.all fun validator => validator.accepts value) =
      validators'.all fun validator => validator.accepts value := by
  induction each with
  | nil => rfl
  | cons head _ ih =>
    rw [all_cons, all_cons, head.2, ih]

/-! ### Linked hints -/

/-- How the parts of two hints are linked that are no hints themselves. -/
structure Linkage where
  references : Reference → Reference → Prop
  validators : Validator → Validator → Prop
  literals : Value → Value → Prop

/-- References have one name in one scope and stand for the same, and validators and literals can
stand in for each other. -/
abbrev Linkage.alike (meaning : Reference → Option Hint) : Linkage :=
  ⟨fun a b => a.name = b.name ∧ a.scope = b.scope ∧ meaning a = meaning b, Validator.Alike,
    Value.Alike⟩

namespace Hint

/-- Hints that are built the same way, with linked parts at the same places. -/
inductive Linked (linkage : Linkage) : Hint → Hint → Prop
  | any : Linked linkage any any
  | null : Linked linkage null null
  | never : Linked linkage never never
  | instanceOf (c : Class) : Linked linkage (instanceOf c) (instanceOf c)
  | union {members members' : List Hint} (each : List.Forall₂ (Linked linkage) members members') :
    Linked linkage (union members) (union members')
  | generic {origin : Origin} {arguments arguments' : List Hint} {aliased : Bool}
    (each : List.Forall₂ (Linked linkage) arguments arguments') :
    Linked linkage (generic origin arguments aliased) (generic origin arguments' aliased)
  | tuple {items items' : List Hint} {variadic aliased : Bool}
    (each : List.Forall₂ (Linked linkage) items items') :
    Linked linkage (tuple items variadic aliased) (tuple items' variadic aliased)
  | structural (protocol : Protocol) : Linked linkage (structural protocol) (structural protocol)
  | reference {target target' : Reference} (link : linkage.references target target') :
    Linked linkage (reference target) (reference target')
  | annotated {inner inner' : Hint} {validators validators' : List Validator}
    (inside : Linked linkage inner inner')
    (each : List.Forall₂ linkage.validators validators validators') :
    Linked linkage (annotated inner validators) (annotated inner' validators')
  | literal {values values' : List Value} (each : List.Forall₂ linkage.literals values values') :
    Linked linkage (literal values) (literal values')
  | unknown (description : String) : Linked linkage (unknown description) (unknown description)

variable {linkage linkage' : Linkage} {a b : Hint}

theorem Linked.children (linked : Linked linkage a b) :
    List.Forall₂ (Linked linkage) a.children b.children := by
  cases linked with
  | union each | generic each | tuple each => exact each
  | annotated inside _ => exact .cons inside .nil
  | any | null | never | instanceOf _ | structural _ | reference _ | literal _ | unknown _ =>
    exact .nil

theorem linked_self {hint : Hint} (references : ∀ target, linkage.references target target)
    (validators : ∀ validator, linkage.validators validator validator)
    (literals : ∀ value, linkage.literals value value) : Linked linkage hint hint := by
  induction hint using induction_children with
  | step hint ih =>
    have children : List.Forall₂ (Linked linkage) hint.children hint.children :=
      forall₂_same.mpr ih
    cases hint with
    | any | null | never | instanceOf | structural | unknown => constructor
    | union | generic | tuple =>
      constructor
      exact children
    | reference target => exact .reference (references target)
    | annotated inner given =>
      exact .annotated (ih inner mem_cons_self)
        (forall₂_same.mpr fun validator _ => validators validator)
    | literal values => exact .literal (forall₂_same.mpr fun value _ => literals value)

theorem Linked.swap (linked : Linked linkage a b)
    (references : ∀ a b, linkage.references a b → linkage'.references b a)
    (validators : ∀ a b, linkage.validators a b → linkage'.validators b a)
    (literals : ∀ a b, linkage.literals a b → linkage'.literals b a) : Linked linkage' b a := by
  induction a using induction_children generalizing b with
  | step a ih =>
    have children : List.Forall₂ (Linked linkage') b.children a.children :=
      .flip (forall₂_imp_of_mem linked.children fun child member _ _ link => ih child member link)
    cases linked with
    | any | null | never | instanceOf | structural | unknown => constructor
    | union | generic | tuple =>
      constructor
      exact children
    | reference link => exact .reference (references _ _ link)
    | annotated inside each =>
      exact .annotated (ih _ mem_cons_self inside) (.flip (each.imp validators))
    | literal each => exact .literal (.flip (each.imp literals))

/-- What links the parts may be replaced by what holds of the parts that are inside the hints. -/
theorem Linked.imp_inside (linked : Linked linkage a b)
    (references : ∀ target target', (Hint.reference target).Inside a →
      (Hint.reference target').Inside b → linkage.references target target' →
        linkage'.references target target')
    (validators : ∀ inner given inner' given', (Hint.annotated inner given).Inside a →
      (Hint.annotated inner' given').Inside b → ∀ validator ∈ given, ∀ validator' ∈ given',
        linkage.validators validator validator' → linkage'.validators validator validator')
    (literals : ∀ values values', (Hint.literal values).Inside a → (Hint.literal values').Inside b →
      ∀ value ∈ values, ∀ value' ∈ values',
        linkage.literals value value' → linkage'.literals value value') : Linked linkage' a b := by
  induction a using induction_children generalizing b with
  | step a ih =>
    have children : List.Forall₂ (Linked linkage') a.children b.children := by
      refine forall₂_imp_of_mem linked.children fun child member child' member' link => ?_
      refine ih child member link ?_ ?_ ?_
      · intro target target' inside inside'
        exact references target target' (.child member inside) (.child member' inside')
      · intro inner given inner' given' inside inside'
        exact validators inner given inner' given' (.child member inside) (.child member' inside')
      · intro values values' inside inside'
        exact literals values values' (.child member inside) (.child member' inside')
    cases linked with
    | any | null | never | instanceOf | structural | unknown => constructor
    | union | generic | tuple =>
      constructor
      exact children
    | reference link => exact .reference (references _ _ .self .self link)
    | annotated _ each =>
      obtain _ | ⟨inside, -⟩ := children
      exact .annotated inside (forall₂_imp_of_mem each (validators _ _ _ _ .self .self))
    | literal each => exact .literal (forall₂_imp_of_mem each (literals _ _ .self .self))

theorem Linked.imp (linked : Linked linkage a b)
    (references : ∀ a b, linkage.references a b → linkage'.references a b)
    (validators : ∀ a b, linkage.validators a b → linkage'.validators a b)
    (literals : ∀ a b, linkage.literals a b → linkage'.literals a b) : Linked linkage' a b :=
  linked.imp_inside (fun target target' _ _ => references target target')
    (fun _ _ _ _ _ _ validator _ validator' _ => validators validator validator')
    (fun _ _ _ _ value _ value' _ => literals value value')

/-! ### When two hints are the same -/

/-- The rules by which hints are the same. -/
abbrev Matches : Hint → Hint → Prop :=
  Linked ⟨fun a b => a.name = b.name ∧ a.scope = b.scope, fun a b => a.serial = b.serial,
    fun a b => a.equal b = true ∧ a.kind = b.kind⟩

theorem sameValidators_iff {validators validators' : List Validator} :
    sameValidators validators validators' = true ↔
      List.Forall₂ (fun a b : Validator => a.serial = b.serial) validators validators' := by
  rw [forall₂_iff_zip]
  simp [sameValidators]

theorem sameValues_iff {values values' : List Value} :
    sameValues values values' = true ↔
      List.Forall₂ (fun a b : Value => a.equal b = true ∧ a.kind = b.kind) values values' := by
  rw [forall₂_iff_zip]
  simp only [sameValues, Bool.and_eq_true, beq_iff_eq, all_eq_true, Prod.forall]
  exact Iff.rfl

theorem sameList_iff {hints hints' : List Hint} :
    sameList hints hints' = true ↔ List.Forall₂ (fun a b => same a b = true) hints hints' := by
  induction hints generalizing hints' with
  | nil => cases hints' <;> simp [sameList]
  | cons first rest ih =>
    cases hints' with
    | nil => simp [sameList]
    | cons _ _ => simp [sameList, ih]

theorem matches_of_same {a b : Hint} (same : a.same b = true) : Matches a b := by
  induction a using induction_children generalizing b with
  | step a ih =>
    have children {others : List Hint} (each : sameList a.children others = true) :
        List.Forall₂ Matches a.children others :=
      forall₂_imp_of_mem (sameList_iff.mp each) fun child member _ _ link => ih child member link
    unfold Hint.same at same
    split at same
    case h_1 => exact .any
    case h_2 => exact .null
    case h_3 => exact .never
    case h_4 => exact beq_iff_eq.mp same ▸ .instanceOf _
    case h_5 => exact .union (children same)
    case h_6 =>
      simp only [Bool.and_eq_true, beq_iff_eq] at same
      obtain ⟨⟨rfl, each⟩, rfl⟩ := same
      exact .generic (children each)
    case h_7 =>
      simp only [Bool.and_eq_true, beq_iff_eq] at same
      obtain ⟨⟨each, rfl⟩, rfl⟩ := same
      exact .tuple (children each)
    case h_8 => exact beq_iff_eq.mp same ▸ .structural _
    case h_9 =>
      simp only [Bool.and_eq_true, beq_iff_eq] at same
      exact .reference same
    case h_10 =>
      obtain ⟨inside, each⟩ := Bool.and_eq_true_iff.mp same
      exact .annotated (ih _ mem_cons_self inside) (sameValidators_iff.mp each)
    case h_11 => exact .literal (sameValues_iff.mp same)
    case h_12 => exact beq_iff_eq.mp same ▸ .unknown _
    case h_13 => cases same

theorem same_of_matches {a b : Hint} (matched : Matches a b) : a.same b = true := by
  induction a using induction_children generalizing b with
  | step a ih =>
    have children {others : List Hint} (each : List.Forall₂ Matches a.children others) :
        sameList a.children others = true :=
      sameList_iff.mpr (forall₂_imp_of_mem each fun child member _ _ link => ih child member link)
    cases matched with
    | any | null | never => rfl
    | instanceOf c | structural protocol | unknown description => exact beq_self_eq_true _
    | union each => exact children each
    | @generic origin arguments arguments' aliased each =>
      have lists : sameList arguments arguments' = true := children each
      rw [same, lists, beq_self_eq_true, beq_self_eq_true]
      rfl
    | @tuple items items' variadic aliased each =>
      have lists : sameList items items' = true := children each
      rw [same, lists, beq_self_eq_true, beq_self_eq_true]
      rfl
    | reference link =>
      rw [same, link.1, link.2, beq_self_eq_true, beq_self_eq_true]
      rfl
    | annotated inside each =>
      rw [same, ih _ mem_cons_self inside, Bool.true_and]
      exact sameValidators_iff.mpr each
    | literal each => exact sameValues_iff.mpr each

/-! ### Hints that are alike -/

/-- Hints that can stand in for each other while references stand for what `meaning` says. -/
abbrev Alike (meaning : Reference → Option Hint) : Hint → Hint → Prop := Linked (.alike meaning)

variable {meaning : Reference → Option Hint}

theorem Alike.refl (hint : Hint) : Alike meaning hint hint :=
  linked_self (fun _ => ⟨rfl, rfl, rfl⟩) (fun _ => ⟨rfl, rfl⟩) Value.Alike.refl

theorem Alike.symm (alike : Alike meaning a b) : Alike meaning b a :=
  alike.swap (fun _ _ link => ⟨link.1.symm, link.2.1.symm, link.2.2.symm⟩)
    (fun _ _ link => ⟨link.1.symm, link.2.symm⟩) fun _ _ link => link.symm

/-- Hints that are alike are the same as the same hints. -/
theorem Alike.matches {a a' b b' : Hint} (first : Alike meaning a a') (second : Alike meaning b b')
    (matched : Matches a b) : Matches a' b' := by
  induction a using induction_children generalizing a' b b' with
  | step a ih =>
    have children {as bs bs' : List Hint} (firsts : List.Forall₂ (Alike meaning) a.children as)
        (seconds : List.Forall₂ (Alike meaning) bs bs')
        (links : List.Forall₂ Matches a.children bs) : List.Forall₂ Matches as bs' :=
      forall₂_transfer links firsts seconds
        fun child member _ _ _ head head' link => ih child member head head' link
    cases matched with
    | any | null | never | instanceOf | structural | unknown =>
      cases first
      cases second
      constructor
    | union each =>
      cases first with | union firsts =>
      cases second with | union seconds =>
      exact .union (children firsts seconds each)
    | generic each =>
      cases first with | generic firsts =>
      cases second with | generic seconds =>
      exact .generic (children firsts seconds each)
    | tuple each =>
      cases first with | tuple firsts =>
      cases second with | tuple seconds =>
      exact .tuple (children firsts seconds each)
    | reference link =>
      cases first with | reference link' =>
      cases second with | reference link'' =>
      exact .reference ⟨link'.1.symm.trans (link.1.trans link''.1),
        link'.2.1.symm.trans (link.2.trans link''.2.1)⟩
    | annotated inside each =>
      cases first with | annotated inside' firsts =>
      cases second with | annotated inside'' seconds =>
      refine .annotated (ih _ mem_cons_self inside' inside'' inside) ?_
      exact forall₂_transfer each firsts seconds fun _ _ _ _ _ head head' serials =>
        head.1.symm.trans (serials.trans head'.1)
    | literal each =>
      cases first with | literal firsts =>
      cases second with | literal seconds =>
      refine .literal (forall₂_transfer each firsts seconds ?_)
      intro _ _ _ _ _ head head' link
      exact ⟨head.equal head' link.1, head.kind.symm.trans (link.2.trans head'.kind)⟩

theorem Alike.same_eq {a a' b b' : Hint} (first : Alike meaning a a')
    (second : Alike meaning b b') : a.same b = a'.same b' := by
  rw [Bool.eq_iff_iff]
  constructor
  · intro same
    exact same_of_matches (first.matches second (matches_of_same same))
  · intro same
    exact same_of_matches (first.symm.matches second.symm (matches_of_same same))

/-! ### Hints that are the same are alike -/

/-- The literals inside a hint are made by their constructors, and its validators are the
predicates that their serial numbers stand for. -/
structure WellMade (predicates : Nat → Value → Bool) (hint : Hint) : Prop where
  built : ∀ values, (literal values).Inside hint → ∀ value ∈ values, value.Built
  faithful : ∀ inner validators, (annotated inner validators).Inside hint →
    ∀ validator ∈ validators, validator.accepts = predicates validator.serial

variable {predicates : Nat → Value → Bool}

theorem WellMade.inside {inner outer : Hint} (made : outer.WellMade predicates)
    (inside : inner.Inside outer) : inner.WellMade predicates :=
  ⟨fun values deeper => made.built values (deeper.trans inside),
    fun hint validators deeper => made.faithful hint validators (deeper.trans inside)⟩

/-- References with one name in one scope stand for one hint. -/
def Univocal (meaning : Reference → Option Hint) (a b : Hint) : Prop :=
  ∀ target target', (reference target).Inside a → (reference target').Inside b →
    target.name = target'.name → target.scope = target'.scope → meaning target = meaning target'

/-- Hints that are the same are alike if they are made well and their references agree. -/
theorem alike_of_same {a b : Hint} (made : a.WellMade predicates) (made' : b.WellMade predicates)
    (agree : Univocal meaning a b) (same : a.same b = true) : Alike meaning a b := by
  refine (matches_of_same same).imp_inside ?_ ?_ ?_
  · intro target target' inside inside' link
    exact ⟨link.1, link.2, agree target target' inside inside' link.1 link.2⟩
  · intro inner given inner' given' inside inside' validator member validator' member' serials
    refine ⟨serials, ?_⟩
    rw [made.faithful _ _ inside _ member, made'.faithful _ _ inside' _ member', serials]
  · intro values _ inside _ value member _ _ link
    exact Value.alike_of_equal link.1 link.2 (made.built _ inside value member)

end Hint

end CallGuard
