/-
Equality of values. A set equals another of the same size if each of its items
has an equal one there, which looks one way only; it is symmetric because the
items of a set are distinct, and so a set cannot be matched into another one of
its size without using up all of it. The same holds of the keys of a
dictionary. Values whose sets and dictionaries are made by their constructors
have distinct items and keys at every depth, and on them equality is symmetric;
transitive it is on all values.
-/
import CallGuard.Check
import Mathlib.Data.List.Forall2

namespace CallGuard

open List

/-- If each item of a list is linked to one of a list of the same length, and no two of them to the
same one, then every item of the second list is linked to one of the first. -/
theorem linked_of_length_eq {Left Right : Type} (linked : Left → Right → Prop)
    {lefts : List Left} {rights : List Right} (size : lefts.length = rights.length)
    (apart : lefts.Pairwise fun left other => ∀ right, linked left right → ¬ linked other right)
    (covered : ∀ left ∈ lefts, ∃ right ∈ rights, linked left right) :
    ∀ right ∈ rights, ∃ left ∈ lefts, linked left right := by
  induction lefts generalizing rights with
  | nil =>
    intro right member
    rw [eq_nil_of_length_eq_zero size.symm] at member
    cases member
  | cons first rest ih =>
    obtain ⟨partner, member, link⟩ := covered first mem_cons_self
    obtain ⟨before, after, rfl⟩ := append_of_mem member
    obtain ⟨firstApart, restApart⟩ := pairwise_cons.mp apart
    have size' : rest.length = (before ++ after).length := by
      simp only [length_cons, length_append] at size ⊢
      omega
    -- The partner of the first item is spoken for, so the rest is covered without it.
    have covered' : ∀ left ∈ rest, ∃ right ∈ before ++ after, linked left right := by
      intro left inRest
      obtain ⟨right, inRights, link'⟩ := covered left (mem_cons_of_mem _ inRest)
      refine ⟨right, ?_, link'⟩
      rcases mem_append.mp inRights with early | late
      · exact mem_append_left _ early
      · rcases mem_cons.mp late with rfl | late
        · exact absurd link' (firstApart left inRest right link)
        · exact mem_append_right _ late
    intro right inRights
    by_cases same : right = partner
    · exact ⟨first, mem_cons_self, same ▸ link⟩
    · have inOthers : right ∈ before ++ after := by
        simp only [mem_append, mem_cons, same, false_or] at inRights ⊢
        exact inRights
      obtain ⟨left, inRest, link'⟩ := ih size' restApart covered' right inOthers
      exact ⟨left, mem_cons_of_mem _ inRest, link'⟩

/-! ### Floating-point equality -/

namespace Binary64

variable {x y : Binary64}

theorem eq_symm (same : x.eq y = true) : y.eq x = true := by
  simp only [eq, Bool.and_eq_true, Bool.or_eq_true, beq_iff_eq] at same ⊢
  exact ⟨⟨same.1.2, same.1.1⟩, same.2.imp Eq.symm And.symm⟩

theorem eq_self_iff : x.eq x = true ↔ x.isNaN = false := by
  simp [eq]

theorem isZero_of_bits (same : x.bits = y.bits) (zero : x.isZero = true) :
    y.isZero = true := by
  cases x
  cases y
  cases same
  exact zero

theorem eq_trans {z : Binary64} (first : x.eq y = true) (second : y.eq z = true) :
    x.eq z = true := by
  simp only [eq, Bool.and_eq_true, Bool.or_eq_true, beq_iff_eq] at first second ⊢
  refine ⟨⟨first.1.1, second.1.2⟩, ?_⟩
  rcases first.2 with bits | ⟨zero, zero'⟩ <;> rcases second.2 with bits' | ⟨zero'', zero'''⟩
  · exact .inl (bits.trans bits')
  · exact .inr ⟨isZero_of_bits bits.symm zero'', zero'''⟩
  · exact .inr ⟨zero, isZero_of_bits bits' zero'⟩
  · exact .inr ⟨zero, zero'''⟩

end Binary64

namespace Value

/-! ### Parts of values -/

/-- The values directly inside a value. -/
def parts : Value → List Value
  | list _ items | tuple _ items | set _ items | frozenset _ items => items
  | dict _ entries => entries.flatMap fun entry => [entry.1, entry.2]
  | _ => []

variable {identity : Nat} {as bs cs values : List Value}

variable {entries : List (Value × Value)}

variable {entry : Value × Value} {value a b : Value}

theorem mem_parts_of_key
    (member : entry ∈ entries) : entry.1 ∈ (dict identity entries).parts :=
  mem_flatMap.mpr ⟨entry, member, mem_cons_self⟩

theorem mem_parts_of_entry
    (member : entry ∈ entries) :
    entry.2 ∈ (dict identity entries).parts :=
  mem_flatMap.mpr ⟨entry, member, mem_cons_of_mem _ mem_cons_self⟩

theorem sizeOf_lt_of_mem_parts {part value : Value} (member : part ∈ value.parts) :
    sizeOf part < sizeOf value := by
  cases value with
  | list _ items | tuple _ items | set _ items | frozenset _ items =>
    have smaller : sizeOf part < sizeOf items := sizeOf_lt_of_mem member
    simp only [list.sizeOf_spec, tuple.sizeOf_spec, set.sizeOf_spec, frozenset.sizeOf_spec]
    omega
  | dict _ entries =>
    obtain ⟨entry, inEntries, inEntry⟩ := mem_flatMap.mp member
    have smaller := sizeOf_lt_of_mem inEntries
    obtain ⟨key, content⟩ := entry
    simp only [mem_cons, not_mem_nil, or_false] at inEntry
    simp only [Prod.mk.sizeOf_spec] at smaller
    simp only [dict.sizeOf_spec]
    rcases inEntry with rfl | rfl <;> omega
  | null | bool _ | int _ | float _ | complex _ _ | str _ _ | bytes _ _ | classObject _
  | object _ _ => cases member

/-- What holds of a value as soon as it holds of its parts holds of every value. -/
theorem induction_parts {motive : Value → Prop}
    (step : ∀ value, (∀ part ∈ value.parts, motive part) → motive value) (value : Value) :
    motive value :=
  step value fun part _ => induction_parts step part
termination_by sizeOf value
decreasing_by
  rename_i member
  exact sizeOf_lt_of_mem_parts member

/-- A value inside another one, at whatever depth, or the other one itself. -/
inductive Inside (inner : Value) : Value → Prop
  | self : Inside inner inner
  | part {part value : Value} (member : part ∈ value.parts) (deeper : Inside inner part) :
    Inside inner value

theorem Inside.trans {inner middle outer : Value} (first : inner.Inside middle)
    (second : middle.Inside outer) : inner.Inside outer := by
  induction second with
  | self => exact first
  | part member _ ih => exact .part member ih

/-! ### When two values are equal -/

/-- What it takes for two values to be equal. -/
inductive Matches : Value → Value → Prop
  | null : Matches null null
  | bool (truth : Bool) : Matches (bool truth) (bool truth)
  | int (number : Int) : Matches (int number) (int number)
  | float {x y : Binary64} (same : x.eq y = true) : Matches (float x) (float y)
  | complex {x y x' y' : Binary64} (real : x.eq x' = true) (imaginary : y.eq y' = true) :
    Matches (complex x y) (complex x' y')
  | str (i j : Nat) (text : String) : Matches (str i text) (str j text)
  | bytes (i j : Nat) (data : List UInt8) : Matches (bytes i data) (bytes j data)
  | list {i j : Nat} {items items' : List Value}
    (each : List.Forall₂ (fun a b => equal a b = true) items items') :
    Matches (list i items) (list j items')
  | tuple {i j : Nat} {items items' : List Value}
    (each : List.Forall₂ (fun a b => equal a b = true) items items') :
    Matches (tuple i items) (tuple j items')
  | set {i j : Nat} {items items' : List Value} (size : items.length = items'.length)
    (each : ∀ a ∈ items, ∃ b ∈ items', equal a b = true) : Matches (set i items) (set j items')
  | frozenset {i j : Nat} {items items' : List Value} (size : items.length = items'.length)
    (each : ∀ a ∈ items, ∃ b ∈ items', equal a b = true) :
    Matches (frozenset i items) (frozenset j items')
  | dict {i j : Nat} {entries entries' : List (Value × Value)}
    (size : entries.length = entries'.length)
    (each : ∀ a ∈ entries, ∃ b ∈ entries', equal a.1 b.1 = true ∧ equal a.2 b.2 = true) :
    Matches (dict i entries) (dict j entries')
  | classObject (c : Class) : Matches (classObject c) (classObject c)
  | object (i : Nat) (c : Class) : Matches (object i c) (object i c)

theorem equalItems_iff {items items' : List Value} :
    equalItems items items' = true ↔ List.Forall₂ (fun a b => equal a b = true) items items' := by
  induction items generalizing items' with
  | nil => cases items' <;> simp [equalItems]
  | cons first rest ih =>
    cases items' with
    | nil => simp [equalItems]
    | cons first' rest' => simp [equalItems, ih]

theorem containedIn_iff {items items' : List Value} :
    containedIn items items' = true ↔ ∀ a ∈ items, ∃ b ∈ items', equal a b = true := by
  induction items with
  | nil => simp [containedIn]
  | cons first rest ih => simp [containedIn, ih]

theorem entriesContainedIn_iff {entries entries' : List (Value × Value)} :
    entriesContainedIn entries entries' = true ↔
      ∀ a ∈ entries, ∃ b ∈ entries', equal a.1 b.1 = true ∧ equal a.2 b.2 = true := by
  induction entries with
  | nil => simp [entriesContainedIn]
  | cons first rest ih =>
    obtain ⟨key, value⟩ := first
    simp only [entriesContainedIn, Bool.and_eq_true, any_eq_true, ih, forall_mem_cons]

theorem equal_iff {a b : Value} : equal a b = true ↔ Matches a b := by
  constructor
  · intro same
    unfold equal at same
    split at same
    case h_1 => exact .null
    case h_2 => exact beq_iff_eq.mp same ▸ .bool _
    case h_3 => exact beq_iff_eq.mp same ▸ .int _
    case h_4 => exact .float same
    case h_5 => exact .complex (Bool.and_eq_true_iff.mp same).1 (Bool.and_eq_true_iff.mp same).2
    case h_6 => exact beq_iff_eq.mp same ▸ .str _ _ _
    case h_7 => exact beq_iff_eq.mp same ▸ .bytes _ _ _
    case h_8 => exact .list (equalItems_iff.mp same)
    case h_9 => exact .tuple (equalItems_iff.mp same)
    case h_10 =>
      obtain ⟨size, each⟩ := Bool.and_eq_true_iff.mp same
      exact .set (beq_iff_eq.mp size) (containedIn_iff.mp each)
    case h_11 =>
      obtain ⟨size, each⟩ := Bool.and_eq_true_iff.mp same
      exact .frozenset (beq_iff_eq.mp size) (containedIn_iff.mp each)
    case h_12 =>
      obtain ⟨size, each⟩ := Bool.and_eq_true_iff.mp same
      exact .dict (beq_iff_eq.mp size) (entriesContainedIn_iff.mp each)
    case h_13 => exact beq_iff_eq.mp same ▸ .classObject _
    case h_14 =>
      obtain ⟨identity, kind⟩ := Bool.and_eq_true_iff.mp same
      exact beq_iff_eq.mp identity ▸ beq_iff_eq.mp kind ▸ .object _ _
    case h_15 => cases same
  · intro matched
    cases matched with
    | null | bool | int | str | bytes | classObject | object => simp [equal]
    | float same => simpa [equal] using same
    | complex real imaginary => simp [equal, real, imaginary]
    | list each | tuple each => simpa [equal] using equalItems_iff.mpr each
    | set size each | frozenset size each =>
      simpa [equal, size] using containedIn_iff.mpr each
    | dict size each => simpa [equal, size] using entriesContainedIn_iff.mpr each

/-! ### Transitivity -/

theorem forall₂_trans {related : Value → Value → Prop}
    (chain : ∀ a ∈ as, ∀ b c, related a b → related b c → related a c)
    (first : List.Forall₂ related as bs) (second : List.Forall₂ related bs cs) :
    List.Forall₂ related as cs := by
  induction first generalizing cs with
  | nil => exact second
  | cons link _ ih =>
    cases second with
    | cons link' rest =>
      exact .cons (chain _ mem_cons_self _ _ link link')
        (ih (fun a member => chain a (mem_cons_of_mem _ member)) rest)

theorem contained_trans
    (chain : ∀ a ∈ as, ∀ b c, equal a b = true → equal b c = true → equal a c = true)
    (first : ∀ a ∈ as, ∃ b ∈ bs, equal a b = true) (second : ∀ b ∈ bs, ∃ c ∈ cs, equal b c = true) :
    ∀ a ∈ as, ∃ c ∈ cs, equal a c = true := by
  intro a member
  obtain ⟨b, member', link⟩ := first a member
  obtain ⟨c, member'', link'⟩ := second b member'
  exact ⟨c, member'', chain a member b c link link'⟩

theorem equal_trans {a b c : Value} (first : equal a b = true) (second : equal b c = true) :
    equal a c = true := by
  induction a using induction_parts generalizing b c with
  | step a ih =>
    have chain (part : Value) (member : part ∈ a.parts) (b c : Value) (link : equal part b = true)
        (link' : equal b c = true) : equal part c = true :=
      ih part member link link'
    rw [equal_iff] at first second ⊢
    cases first with
    | null | bool | int | classObject | object => exact second
    | str | bytes =>
      cases second
      constructor
    | float same =>
      cases second with
      | float same' => exact .float (Binary64.eq_trans same same')
    | complex real imaginary =>
      cases second with
      | complex real' imaginary' =>
        exact .complex (Binary64.eq_trans real real') (Binary64.eq_trans imaginary imaginary')
    | list each =>
      cases second with
      | list each' => exact .list (forall₂_trans chain each each')
    | tuple each =>
      cases second with
      | tuple each' => exact .tuple (forall₂_trans chain each each')
    | set size each =>
      cases second with
      | set size' each' => exact .set (size.trans size') (contained_trans chain each each')
    | frozenset size each =>
      cases second with
      | frozenset size' each' =>
        exact .frozenset (size.trans size') (contained_trans chain each each')
    | dict size each =>
      cases second with
      | dict size' each' =>
        refine .dict (size.trans size') fun entry member => ?_
        obtain ⟨entry', member', key, content⟩ := each entry member
        obtain ⟨entry'', member'', key', content'⟩ := each' entry' member'
        exact ⟨entry'', member'', chain _ (mem_parts_of_key member) _ _ key key',
          chain _ (mem_parts_of_entry member) _ _ content content'⟩

/-! ### Symmetry -/

/-- The items of a set and the keys of a dictionary are distinct. -/
def HasDistinct : Value → Prop
  | set _ items | frozenset _ items => items.Pairwise fun a b => equal a b = false
  | dict _ entries => entries.Pairwise fun a b => equal a.1 b.1 = false
  | _ => True

/-- Sets and dictionaries are as their constructors make them, at every depth. -/
def Built (value : Value) : Prop := ∀ inner : Value, inner.Inside value → inner.HasDistinct

theorem Built.part {part value : Value} (built : value.Built) (member : part ∈ value.parts) :
    part.Built :=
  fun inner inside => built inner (.part member inside)

theorem built_of_parts {value : Value} (distinct : value.HasDistinct)
    (parts : ∀ part ∈ value.parts, part.Built) : value.Built := by
  intro inner inside
  cases inside with
  | self => exact distinct
  | part member deeper => exact parts _ member inner deeper

theorem forall₂_symm (turn : ∀ a ∈ as, ∀ b, equal a b = true → equal b a = true)
    (each : List.Forall₂ (fun a b => equal a b = true) as bs) :
    List.Forall₂ (fun a b => equal a b = true) bs as := by
  induction each with
  | nil => exact .nil
  | cons link _ ih =>
    exact .cons (turn _ mem_cons_self _ link) (ih fun a member => turn a (mem_cons_of_mem _ member))

/-- Distinct items that are each linked to one in a list of the same length use it up. -/
theorem covered_of_distinct {Item : Type} {key : Item → Value} {linked : Item → Item → Prop}
    {as bs : List Item} (keys : ∀ a b, linked a b → equal (key a) (key b) = true)
    (turn : ∀ a ∈ as, ∀ b, equal (key a) b = true → equal b (key a) = true)
    (distinct : as.Pairwise fun a b => equal (key a) (key b) = false)
    (size : as.length = bs.length) (each : ∀ a ∈ as, ∃ b ∈ bs, linked a b) :
    ∀ b ∈ bs, ∃ a ∈ as, linked a b := by
  refine linked_of_length_eq _ size (distinct.imp_of_mem ?_) each
  intro a a' _ member differ b link link'
  rw [equal_trans (keys a b link) (turn a' member _ (keys a' b link'))] at differ
  cases differ

theorem contained_symm (turn : ∀ a ∈ as, ∀ b, equal a b = true → equal b a = true)
    (distinct : as.Pairwise fun a b => equal a b = false) (size : as.length = bs.length)
    (each : ∀ a ∈ as, ∃ b ∈ bs, equal a b = true) : ∀ b ∈ bs, ∃ a ∈ as, equal b a = true := by
  intro b member
  obtain ⟨a, member', link⟩ := covered_of_distinct (fun _ _ => id) turn distinct size each b member
  exact ⟨a, member', turn a member' b link⟩

theorem equal_symm {a b : Value} (built : a.Built) (same : equal a b = true) :
    equal b a = true := by
  induction a using induction_parts generalizing b with
  | step a ih =>
    have turn (part : Value) (member : part ∈ a.parts) (other : Value)
        (link : equal part other = true) : equal other part = true :=
      ih part member (built.part member) link
    have distinct := built a .self
    rw [equal_iff] at same ⊢
    cases same with
    | null | bool | int | classObject | object | str | bytes => constructor
    | float same => exact .float (Binary64.eq_symm same)
    | complex real imaginary => exact .complex (Binary64.eq_symm real) (Binary64.eq_symm imaginary)
    | list each => exact .list (forall₂_symm turn each)
    | tuple each => exact .tuple (forall₂_symm turn each)
    | set size each => exact .set size.symm (contained_symm turn distinct size each)
    | frozenset size each => exact .frozenset size.symm (contained_symm turn distinct size each)
    | dict size each =>
      refine .dict size.symm fun b member => ?_
      obtain ⟨a, member', key, content⟩ := covered_of_distinct (fun _ _ link => link.1)
        (fun entry member => turn entry.1 (mem_parts_of_key member)) distinct size each b member
      exact ⟨a, member', turn _ (mem_parts_of_key member') _ key,
        turn _ (mem_parts_of_entry member') _ content⟩

/-- Equal values are equal to the same values. -/
theorem equal_congr (built : a.Built) (same : equal a b = true) :
    equal value a = equal value b := by
  rw [Bool.eq_iff_iff]
  exact ⟨fun link => equal_trans link same, fun link => equal_trans link (equal_symm built same)⟩

/-- Items that are made by their constructors may as well be looked for from the other side. -/
theorem containedIn_eq_all (built : ∀ a ∈ as, a.Built) (others : ∀ b ∈ bs, b.Built) :
    containedIn as bs = as.all fun a => bs.any (· == a) := by
  rw [Bool.eq_iff_iff, containedIn_iff, all_eq_true]
  refine forall₂_congr fun a member => ?_
  rw [any_eq_true]
  exact exists_congr fun b => and_congr_right fun member' =>
    ⟨equal_symm (built a member), equal_symm (others b member')⟩

/-! ### Literals -/

theorem looselyEqual_of_plain {value literal : Value} (notInt : ∀ n, literal.counted ≠ int n)
    (notFloat : ∀ x, literal.counted ≠ float x) :
    value.looselyEqual literal = equal value.counted literal.counted := by
  unfold looselyEqual
  split
  · rename_i counted
    exact absurd counted (notFloat _)
  · rename_i counted
    exact absurd counted (notInt _)
  · rfl

/-- Values that are not counted are compared with others as they are. -/
theorem looselyEqual_congr (notInt : ∀ n, a.counted ≠ int n)
    (notFloat : ∀ x, a.counted ≠ float x) (notInt' : ∀ n, b.counted ≠ int n)
    (notFloat' : ∀ x, b.counted ≠ float x) (counted : a.counted = a) (counted' : b.counted = b)
    (same : ∀ value, equal value a = equal value b) :
    value.looselyEqual a = value.looselyEqual b := by
  rw [looselyEqual_of_plain notInt notFloat, looselyEqual_of_plain notInt' notFloat', counted,
    counted', same]

theorem looselyEqual_float {value : Value} {x y : Binary64} (same : x.eq y = true) :
    value.looselyEqual (float x) = value.looselyEqual (float y) := by
  have congr (z : Binary64) : z.eq x = z.eq y := by
    rw [Bool.eq_iff_iff]
    exact ⟨fun link => Binary64.eq_trans link same,
      fun link => Binary64.eq_trans link (Binary64.eq_symm same)⟩
  unfold looselyEqual
  cases value.counted <;> simp [counted, congr, BEq.beq, equal]

/-- Equal literals admit the same values. -/
theorem isLiteral_congr (built : a.Built) (same : equal a b = true)
    (kinds : a.kind = b.kind) : value.isLiteral a = value.isLiteral b := by
  unfold isLiteral
  rw [kinds]
  congr 1
  cases equal_iff.mp same with
  | null | bool | int | classObject | object => rfl
  | float numbers => exact looselyEqual_float numbers
  | complex | str | bytes | list | tuple | set | frozenset | dict =>
    exact looselyEqual_congr nofun nofun nofun nofun rfl rfl fun _ => equal_congr built same

/-! ### Constructors -/

theorem distinct_spec (values kept : List Value) (built : ∀ value ∈ values, value.Built)
    (builtKept : ∀ value ∈ kept, value.Built)
    (apart : kept.Pairwise fun a b => equal a b = false) :
    let result := values.foldl
      (fun kept value => if kept.any (· == value) then kept else kept ++ [value]) kept
    (∀ value ∈ result, value.Built) ∧ result.Pairwise fun a b => equal a b = false := by
  induction values generalizing kept with
  | nil => exact ⟨builtKept, apart⟩
  | cons value rest ih =>
    rw [foldl_cons]
    have builtValue := built value mem_cons_self
    refine ih _ (fun other member => built other (mem_cons_of_mem _ member)) ?_ ?_
    · intro other member
      split at member
      · exact builtKept other member
      · rcases mem_append.mp member with member | member
        · exact builtKept other member
        · exact mem_singleton.mp member ▸ builtValue
    · split
      · exact apart
      · rename_i fresh
        refine pairwise_append.mpr ⟨apart, pairwise_singleton _ _, ?_⟩
        intro earlier member later isValue
        rw [mem_singleton.mp isValue, Bool.eq_false_iff]
        exact fun same => fresh (any_eq_true.mpr ⟨earlier, member, same⟩)

theorem built_ofSet (built : ∀ value ∈ values, value.Built) :
    (ofSet identity values).Built :=
  have spec := distinct_spec values [] built nofun List.Pairwise.nil
  built_of_parts spec.2 spec.1

theorem built_ofFrozenset (built : ∀ value ∈ values, value.Built) :
    (ofFrozenset identity values).Built :=
  have spec := distinct_spec values [] built nofun List.Pairwise.nil
  built_of_parts spec.2 spec.1

theorem mem_putEntry {key value : Value}
    (member : entry ∈ putEntry key value entries) :
    entry ∈ entries ∨ (entry.1 = key ∨ ∃ old ∈ entries, entry.1 = old.1) ∧ entry.2 = value := by
  fun_induction putEntry key value entries with
  | case1 =>
    rw [mem_singleton] at member
    exact .inr ⟨.inl (congrArg Prod.fst member), congrArg Prod.snd member⟩
  | case2 key' value' rest _ =>
    rcases mem_cons.mp member with rfl | member
    · exact .inr ⟨.inr ⟨(key', value'), mem_cons_self, rfl⟩, rfl⟩
    · exact .inl (mem_cons_of_mem _ member)
  | case3 key' value' rest _ ih =>
    rcases mem_cons.mp member with rfl | member
    · exact .inl mem_cons_self
    · rcases ih member with old | ⟨isKey | ⟨old, member, same⟩, isValue⟩
      · exact .inl (mem_cons_of_mem _ old)
      · exact .inr ⟨.inl isKey, isValue⟩
      · exact .inr ⟨.inr ⟨old, mem_cons_of_mem _ member, same⟩, isValue⟩

theorem pairwise_putEntry (key value : Value)
    (apart : entries.Pairwise fun a b => equal a.1 b.1 = false) :
    (putEntry key value entries).Pairwise fun a b => equal a.1 b.1 = false := by
  fun_induction putEntry key value entries with
  | case1 => exact pairwise_singleton _ _
  | case2 key' value' rest _ =>
    obtain ⟨first, others⟩ := pairwise_cons.mp apart
    exact pairwise_cons.mpr ⟨first, others⟩
  | case3 key' value' rest differ ih =>
    obtain ⟨first, others⟩ := pairwise_cons.mp apart
    refine pairwise_cons.mpr ⟨fun entry member => ?_, ih others⟩
    rcases mem_putEntry member with old | ⟨isKey | ⟨old, member, same⟩, _⟩
    · exact first entry old
    · rw [isKey]
      exact Bool.eq_false_iff.mpr differ
    · rw [same]
      exact first old member

theorem putEntries_spec (entries kept : List (Value × Value))
    (built : ∀ entry ∈ entries, entry.1.Built ∧ entry.2.Built)
    (builtKept : ∀ entry ∈ kept, entry.1.Built ∧ entry.2.Built)
    (apart : kept.Pairwise fun a b => equal a.1 b.1 = false) :
    let result := entries.foldl (fun kept entry => putEntry entry.1 entry.2 kept) kept
    (∀ entry ∈ result, entry.1.Built ∧ entry.2.Built) ∧
      result.Pairwise fun a b => equal a.1 b.1 = false := by
  induction entries generalizing kept with
  | nil => exact ⟨builtKept, apart⟩
  | cons entry rest ih =>
    rw [foldl_cons]
    have builtEntry := built entry mem_cons_self
    refine ih _ (fun other member => built other (mem_cons_of_mem _ member))
      (fun other member => ?_) (pairwise_putEntry _ _ apart)
    rcases mem_putEntry member with old | ⟨isKey | ⟨old, member, same⟩, isValue⟩
    · exact builtKept other old
    · rw [isKey, isValue]
      exact builtEntry
    · rw [same, isValue]
      exact ⟨(builtKept old member).1, builtEntry.2⟩

theorem built_ofEntries
    (built : ∀ entry ∈ entries, entry.1.Built ∧ entry.2.Built) :
    (ofEntries identity entries).Built := by
  obtain ⟨contents, apart⟩ := putEntries_spec entries [] built nofun List.Pairwise.nil
  refine built_of_parts apart fun part member => ?_
  obtain ⟨entry, inEntries, inEntry⟩ := mem_flatMap.mp member
  rcases mem_cons.mp inEntry with rfl | inEntry
  · exact (contents entry inEntries).1
  · rw [mem_singleton.mp inEntry]
    exact (contents entry inEntries).2

end Value

end CallGuard
