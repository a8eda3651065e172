/-
Equality of values is a partial equivalence. It is symmetric and transitive on
values that are made by their constructors, and such a value equals itself just
if there is no not-a-number in it, at whatever depth. Sets are made by dropping
items that equal earlier ones; what is kept has one item for each item that was
given, so sets do not depend on the order of the items, and neither do
dictionaries whose keys differ.
-/
import CallGuard.Proofs.Equality
import Mathlib.Data.List.Induction
import Mathlib.Data.List.Perm.Subperm

namespace CallGuard

open List

namespace Value

/-! ### Values made by constructors -/

/-- Made by constructors alone, and so are the values inside; sets and dictionaries are made from
any items and entries. -/
inductive Constructed : Value → Prop
  | null : Constructed null
  | bool (truth : Bool) : Constructed (bool truth)
  | int (number : Int) : Constructed (int number)
  | float (number : Binary64) : Constructed (float number)
  | complex (real imaginary : Binary64) : Constructed (complex real imaginary)
  | str (identity : Nat) (text : String) : Constructed (str identity text)
  | bytes (identity : Nat) (data : List UInt8) : Constructed (bytes identity data)
  | list (identity : Nat) {items : List Value} (each : ∀ item ∈ items, Constructed item) :
    Constructed (list identity items)
  | tuple (identity : Nat) {items : List Value} (each : ∀ item ∈ items, Constructed item) :
    Constructed (tuple identity items)
  | ofSet (identity : Nat) {items : List Value} (each : ∀ item ∈ items, Constructed item) :
    Constructed (ofSet identity items)
  | ofFrozenset (identity : Nat) {items : List Value} (each : ∀ item ∈ items, Constructed item) :
    Constructed (ofFrozenset identity items)
  | ofEntries (identity : Nat) {entries : List (Value × Value)}
    (keys : ∀ entry ∈ entries, Constructed entry.1)
    (contents : ∀ entry ∈ entries, Constructed entry.2) : Constructed (ofEntries identity entries)
  | classObject (described : Class) : Constructed (classObject described)
  | object (identity : Nat) (kind : Class) : Constructed (object identity kind)

variable {value : Value}

theorem Constructed.built (constructed : value.Constructed) : value.Built := by
  induction constructed with
  | null | bool | int | float | complex | str | bytes | classObject | object =>
    exact built_of_parts trivial nofun
  | list _ _ each | tuple _ _ each => exact built_of_parts trivial each
  | ofSet _ _ each => exact built_ofSet each
  | ofFrozenset _ _ each => exact built_ofFrozenset each
  | ofEntries _ _ _ keys contents =>
    exact built_ofEntries fun entry member => ⟨keys entry member, contents entry member⟩

/-! ### Not-a-numbers -/

/-- Whether a value is not a number, or a complex number with such a part. -/
def isNaN : Value → Bool
  | float number => number.isNaN
  | complex real imaginary => real.isNaN || imaginary.isNaN
  | _ => false

/-- Something that is not a number is inside the value. -/
def HasNaN (value : Value) : Prop := ∃ inner : Value, inner.Inside value ∧ inner.isNaN = true

theorem hasNaN_iff :
    value.HasNaN ↔ value.isNaN = true ∨ ∃ part ∈ value.parts, part.HasNaN := by
  constructor
  · rintro ⟨inner, inside, notNumber⟩
    cases inside with
    | self => exact .inl notNumber
    | part member deeper => exact .inr ⟨_, member, inner, deeper, notNumber⟩
  · rintro (notNumber | ⟨part, member, inner, inside, notNumber⟩)
    · exact ⟨value, .self, notNumber⟩
    · exact ⟨inner, .part member inside, notNumber⟩

/-! ### Values that equal themselves -/

/-- What equals some value equals itself. -/
theorem equal_self_of_equal {a b : Value} (built : a.Built) (same : equal a b = true) :
    equal a a = true :=
  equal_trans same (equal_symm built same)

/-- A value equals itself if it is not a not-a-number and the values inside equal themselves. -/
theorem equal_self_step (built : value.Built) :
    equal value value = true ↔
      value.isNaN = false ∧ ∀ part ∈ value.parts, equal part part = true := by
  -- In a set, each item only has to have an equal one.
  have contained (items : List Value) (inside : ∀ item ∈ items, item.Built) :
      (∀ a ∈ items, ∃ b ∈ items, equal a b = true) ↔ ∀ item ∈ items, equal item item = true := by
    constructor
    · intro each item member
      obtain ⟨other, -, same⟩ := each item member
      exact equal_self_of_equal (inside item member) same
    · exact fun each item member => ⟨item, member, each item member⟩
  have built_part {part : Value} (member : part ∈ value.parts) : part.Built := built.part member
  cases value with
  | null | bool | int | str | bytes | classObject | object => simp [equal, isNaN, parts]
  | float number => simp [equal, isNaN, parts, Binary64.eq_self_iff]
  | complex real imaginary => simp [equal, isNaN, parts, Binary64.eq_self_iff]
  | list _ items | tuple _ items => simp [equal, isNaN, parts, equalItems_iff, forall₂_same]
  | set _ items | frozenset _ items =>
    have each := contained items fun _ => built_part
    simpa [equal, isNaN, parts, containedIn_iff] using each
  | dict _ entries =>
    simp only [equal, isNaN, beq_self_eq_true, Bool.true_and, entriesContainedIn_iff, true_and,
      parts, forall_mem_flatMap, forall_mem_cons, not_mem_nil, false_imp_iff,
      implies_true, and_true]
    constructor
    · intro each entry member
      obtain ⟨other, -, key, content⟩ := each entry member
      exact ⟨equal_self_of_equal (built_part (mem_parts_of_key member)) key,
        equal_self_of_equal (built_part (mem_parts_of_entry member)) content⟩
    · exact fun each entry member => ⟨entry, member, each entry member⟩

theorem equal_self_iff (built : value.Built) :
    equal value value = true ↔ ¬ value.HasNaN := by
  induction value using induction_parts with
  | step value ih =>
    rw [equal_self_step built, hasNaN_iff, not_or, Bool.not_eq_true, not_exists]
    refine and_congr_right fun _ => forall_congr' fun part => ?_
    rw [not_and]
    exact forall_congr' fun member => ih part member (built.part member)

/-! ### Sets from lists -/

theorem distinct_concat (values : List Value) (value : Value) :
    distinct (values ++ [value]) =
      if (distinct values).any (· == value) then distinct values
      else distinct values ++ [value] := by
  rw [distinct, foldl_append]
  rfl

/-- What is kept of a list of values came from it. -/
theorem mem_of_mem_distinct {values : List Value}
    (member : value ∈ distinct values) : value ∈ values := by
  induction values using reverseRecOn with
  | nil => cases member
  | append_singleton values last ih =>
    rw [distinct_concat] at member
    split at member
    · exact mem_append_left _ (ih member)
    · exact mem_append.mpr ((mem_append.mp member).imp_left ih)

/-- A value that equals itself has an equal one among those that are kept. -/
theorem exists_mem_distinct {values : List Value} (built : ∀ value ∈ values, value.Built)
    (member : value ∈ values) (same : equal value value = true) :
    ∃ kept ∈ distinct values, equal value kept = true := by
  induction values using reverseRecOn with
  | nil => cases member
  | append_singleton values last ih =>
    rw [distinct_concat]
    obtain ⟨builtEarlier, builtLast⟩ := forall_mem_append.mp built
    rcases mem_append.mp member with earlier | isLast
    · obtain ⟨kept, inKept, link⟩ := ih builtEarlier earlier
      split
      · exact ⟨kept, inKept, link⟩
      · exact ⟨kept, mem_append_left _ inKept, link⟩
    · cases mem_singleton.mp isLast
      split
      · rename_i known
        obtain ⟨kept, inKept, link⟩ := any_eq_true.mp known
        exact ⟨kept, inKept, equal_symm (builtEarlier kept (mem_of_mem_distinct inKept)) link⟩
      · exact ⟨value, mem_append_right _ mem_cons_self, same⟩

/-- Distinct values that each have an equal one in a list are not more than it has. -/
theorem length_le_of_contained {values others : List Value} (built : ∀ value ∈ values, value.Built)
    (distinct : values.Pairwise fun a b => equal a b = false)
    (each : ∀ a ∈ values, ∃ b ∈ others, equal a b = true) : values.length ≤ others.length := by
  choose! partner inOthers link using each
  have apart : (values.map partner).Nodup := by
    refine pairwise_map.mpr (distinct.imp_of_mem fun {a b} inValues inValues' differ same => ?_)
    have back := equal_symm (built b inValues') (link b inValues')
    rw [← same] at back
    rw [equal_trans (link a inValues) back] at differ
    cases differ
  have within : values.map partner ⊆ others := fun other member => by
    obtain ⟨value, inValues, rfl⟩ := mem_map.mp member
    exact inOthers value inValues
  simpa using (subperm_of_subset apart within).length_le

section Permutations

variable {items items' : List Value}

theorem contained_distinct (subset : items ⊆ items') (built : ∀ item ∈ items', item.Built)
    (same : ∀ item ∈ items, equal item item = true) :
    ∀ a ∈ distinct items, ∃ b ∈ distinct items', equal a b = true := by
  intro a member
  have given := mem_of_mem_distinct member
  exact exists_mem_distinct built (subset given) (same a given)

/-- In whatever order values are given, as many are kept, and they are equal. -/
theorem distinct_of_perm (permuted : items.Perm items') (built : ∀ item ∈ items, item.Built)
    (same : ∀ item ∈ items, equal item item = true) :
    (distinct items).length = (distinct items').length ∧
      ∀ a ∈ distinct items, ∃ b ∈ distinct items', equal a b = true := by
  have built' : ∀ item ∈ items', item.Built := fun item member =>
    built item (permuted.mem_iff.mpr member)
  have same' : ∀ item ∈ items', equal item item = true := fun item member =>
    same item (permuted.mem_iff.mpr member)
  have spec := distinct_spec items [] built nofun List.Pairwise.nil
  have spec' := distinct_spec items' [] built' nofun List.Pairwise.nil
  have there := contained_distinct permuted.subset built' same
  have back := contained_distinct permuted.symm.subset built same'
  exact ⟨Nat.le_antisymm (length_le_of_contained spec.1 spec.2 there)
    (length_le_of_contained spec'.1 spec'.2 back), there⟩

end Permutations

/-! ### Dictionaries from entries -/

/-- An entry whose key equals no earlier one is put at the end. -/
theorem putEntry_of_fresh {key value : Value} {entries : List (Value × Value)}
    (fresh : ∀ entry ∈ entries, equal entry.1 key = false) :
    putEntry key value entries = entries ++ [(key, value)] := by
  induction entries with
  | nil => rfl
  | cons first rest ih =>
    obtain ⟨differs, fresh⟩ := forall_mem_cons.mp fresh
    have other : ¬ (first.1 == key) = true := Bool.eq_false_iff.mp differs
    rw [putEntry, if_neg other, ih fresh, cons_append]

/-- Entries with distinct keys are all kept as they are. -/
theorem ofEntries_of_distinct {identity : Nat} {entries : List (Value × Value)}
    (distinct : entries.Pairwise fun a b => equal a.1 b.1 = false) :
    ofEntries identity entries = dict identity entries := by
  rw [ofEntries]
  congr 1
  induction entries using reverseRecOn with
  | nil => rfl
  | append_singleton entries last ih =>
    obtain ⟨earlier, -, differ⟩ := pairwise_append.mp distinct
    rw [foldl_append, ih earlier, foldl_cons, foldl_nil]
    exact putEntry_of_fresh fun entry member => differ entry member last mem_cons_self

theorem distinct_keys_of_perm {entries entries' : List (Value × Value)}
    (permuted : entries.Perm entries') (built : ∀ entry ∈ entries, entry.1.Built)
    (distinct : entries.Pairwise fun a b => equal a.1 b.1 = false) :
    entries'.Pairwise fun a b => equal a.1 b.1 = false := by
  -- Pairs in a permuted list may be turned around, so both directions are carried along.
  have both : entries.Pairwise fun a b => equal a.1 b.1 = false ∧ equal b.1 a.1 = false := by
    refine distinct.imp_of_mem fun {a b} _ member differ => ⟨differ, ?_⟩
    rw [Bool.eq_false_iff] at differ ⊢
    exact fun same => differ (equal_symm (built b member) same)
  exact ((permuted.pairwise_iff And.symm).mp both).imp And.left

/-! ### A partial equivalence -/

/-- Equality is symmetric and transitive, and a value equals itself just if it has no not-a-number
inside. Values without one make the same set in whatever order they come, and so do entries with
distinct keys for dictionaries. -/
theorem equality_partial_equivalence :
    (∀ a b : Value, a.Constructed → b.Constructed → equal a b = true → equal b a = true) ∧
    (∀ a b c : Value, equal a b = true → equal b c = true → equal a c = true) ∧
    (∀ value : Value, value.Constructed → (equal value value = true ↔ ¬ value.HasNaN)) ∧
    (∀ (i j : Nat) (items items' : List Value), items.Perm items' →
      (∀ item ∈ items, item.Constructed ∧ ¬ item.HasNaN) →
      equal (ofSet i items) (ofSet j items') = true ∧
        equal (ofFrozenset i items) (ofFrozenset j items') = true) ∧
    ∀ (i j : Nat) (entries entries' : List (Value × Value)), entries.Perm entries' →
      (∀ entry ∈ entries, (entry.1.Constructed ∧ ¬ entry.1.HasNaN) ∧
        entry.2.Constructed ∧ ¬ entry.2.HasNaN) →
      entries.Pairwise (fun a b => equal a.1 b.1 = false) →
      equal (ofEntries i entries) (ofEntries j entries') = true := by
  have same {value : Value} (known : value.Constructed ∧ ¬ value.HasNaN) :
      equal value value = true := (equal_self_iff known.1.built).mpr known.2
  refine ⟨fun a b constructed _ => equal_symm constructed.built, fun a b c => equal_trans,
    fun value constructed => equal_self_iff constructed.built,
    fun i j items items' permuted each => ?_, fun i j entries entries' permuted each distinct => ?_⟩
  · obtain ⟨size, contained⟩ := distinct_of_perm permuted
      (fun item member => (each item member).1.built) fun item member => same (each item member)
    exact ⟨equal_iff.mpr (.set size contained), equal_iff.mpr (.frozenset size contained)⟩
  · have distinct' := distinct_keys_of_perm permuted
      (fun entry member => (each entry member).1.1.built) distinct
    rw [ofEntries_of_distinct distinct, ofEntries_of_distinct distinct', equal_iff]
    refine .dict permuted.length_eq fun entry member => ⟨entry, permuted.mem_iff.mp member, ?_⟩
    exact ⟨same (each entry member).1, same (each entry member).2⟩

/-- The two zeros are equal, so a set keeps the first of them; a list with a not-a-number does not
equal itself. -/
theorem equality_partial_equivalence_of_zeros :
    let zero := float ⟨0⟩
    let negative := float ⟨0x8000000000000000⟩
    let notNumber := list 100 [float ⟨0x7FF8000000000000⟩]
    let items := [zero, tuple 101 [zero], negative]
    let entries := [(zero, int 1), (tuple 102 [negative], negative)]
    equal zero negative = true ∧ equal negative zero = true ∧
      equal (tuple 101 [zero]) (tuple 102 [zero]) = true ∧ notNumber.HasNaN ∧
      equal (ofSet 103 items) (ofSet 104 items.reverse) = true ∧
      equal (ofFrozenset 103 items) (ofFrozenset 104 items.reverse) = true ∧
      equal (ofEntries 105 entries) (ofEntries 106 entries.reverse) = true := by
  intro zero negative notNumber items entries
  obtain ⟨symmetric, transitive, reflexive, sets, dictionaries⟩ := equality_partial_equivalence
  have single (identity : Nat) (number : Binary64) : (tuple identity [float number]).Constructed :=
    .tuple identity (List.forall_mem_singleton.mpr (.float number))
  have free {value : Value} (constructed : value.Constructed) (same : equal value value = true) :
      value.Constructed ∧ ¬ value.HasNaN :=
    ⟨constructed, (reflexive value constructed).mp same⟩
  have zeroFree := free (.float ⟨0⟩) (by decide +kernel)
  have negativeFree := free (.float ⟨0x8000000000000000⟩) (by decide +kernel)
  have each : ∀ item ∈ items, item.Constructed ∧ ¬ item.HasNaN :=
    List.forall_mem_cons.mpr ⟨zeroFree, List.forall_mem_cons.mpr
      ⟨free (single 101 ⟨0⟩) (by decide +kernel), List.forall_mem_singleton.mpr negativeFree⟩⟩
  have entriesEach : ∀ entry ∈ entries, (entry.1.Constructed ∧ ¬ entry.1.HasNaN) ∧
      entry.2.Constructed ∧ ¬ entry.2.HasNaN :=
    List.forall_mem_cons.mpr ⟨⟨zeroFree, free (.int 1) (by decide +kernel)⟩,
      List.forall_mem_singleton.mpr
        ⟨free (single 102 ⟨0x8000000000000000⟩) (by decide +kernel), negativeFree⟩⟩
  have differ : entries.Pairwise fun a b => equal a.1 b.1 = false := by decide +kernel
  have missing : notNumber.HasNaN := by
    by_contra absent
    have constructed : notNumber.Constructed :=
      .list 100 (List.forall_mem_singleton.mpr (.float _))
    exact absurd ((reflexive notNumber constructed).mpr absent) (by decide +kernel)
  have same : equal zero negative = true := by decide +kernel
  obtain ⟨set, frozenset⟩ := sets 103 104 items _ (List.reverse_perm items).symm each
  exact ⟨same, symmetric _ _ (.float _) (.float _) same,
    transitive _ (tuple 107 [negative]) _ (by decide +kernel) (by decide +kernel), missing, set,
    frozenset, dictionaries 105 106 entries _ (List.reverse_perm entries).symm entriesEach differ⟩

end Value

end CallGuard
