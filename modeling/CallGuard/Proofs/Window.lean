/-
The window that a sampling looks at. The positions that are looked at are the
first ones of all positions of the container, turned so that they begin with the
start. So they are positions of the container, none comes twice, more items are
looked at by going on where fewer end, and all positions are there if there are
as many as the container has. The window is found in the same way with numbers
of 64 bits, without a sum that is too large or a division by zero.
-/
import CallGuard.Sampling
import Mathlib.Data.ENat.Lattice
import Mathlib.Data.List.Rotate

namespace CallGuard.Sampling

open List

/-! ### How many items -/

/-- The most items of one container that are looked at. -/
def limit : Sampling → ℕ∞
  | one => 1
  | count number => number
  | full => ⊤

/-- Samplings are ordered by their limits: one item is a count of one, and no count exceeds all
items. -/
instance : Preorder Sampling := Preorder.lift limit

variable {few many sampling : Sampling} {length : Nat} {random : UInt32}

theorem size_eq (sampling : Sampling) (length : Nat) :
    (sampling.size length : ℕ∞) = min (length : ℕ∞) sampling.limit := by
  cases sampling with
  | one => exact Nat.mono_cast.map_min
  | count number => exact Nat.mono_cast.map_min
  | full => exact (min_top_right _).symm

theorem size_mono (fewer : few ≤ many) (length : Nat) : few.size length ≤ many.size length := by
  rw [← ENat.natCast_le_natCast, size_eq, size_eq]
  exact min_le_min_left _ fewer

theorem le_full (sampling : Sampling) : sampling ≤ full :=
  show sampling.limit ≤ ⊤ from le_top

theorem eq_full_of_le (fewer : full ≤ many) : many = full := by
  have unlimited : many.limit = ⊤ := top_le_iff.mp fewer
  cases many with
  | one => exact absurd unlimited (ENat.natCast_ne_top 1)
  | count number => exact absurd unlimited (ENat.natCast_ne_top number)
  | full => rfl

/-- Unless all items are looked at, the number of items does not matter to where one starts. -/
theorem start_eq (fewer : few ≤ many) (sampled : many ≠ full) (length : Nat) :
    few.start length random = many.start length random := by
  have isRandom {sampling : Sampling} (sampled : sampling ≠ full) : sampling.isRandom = true := by
    cases sampling with
    | full => exact absurd rfl sampled
    | one | count _ => rfl
  have sampled' : few ≠ full := by
    rintro rfl
    exact sampled (eq_full_of_le fewer)
  rw [start, start, isRandom sampled, isRandom sampled']

/-! ### Windows -/

/-- The positions are the first of all positions, turned so that they begin with the start. -/
theorem indices_eq (sampling : Sampling) (length : Nat) (random : UInt32) :
    sampling.indices length random =
      ((range length).rotate (sampling.start length random)).take (sampling.size length) := by
  have small : sampling.size length ≤ length := size_mono sampling.le_full length
  refine ext_getElem (by simp [indices, small]) fun step inside inside' => ?_
  simp [indices, getElem_rotate, Nat.add_comm]

theorem length_indices : (sampling.indices length random).length = sampling.size length := by
  rw [indices, length_map, length_range]

theorem lt_of_mem_indices {index : Nat} (member : index ∈ sampling.indices length random) :
    index < length := by
  rw [indices_eq] at member
  exact mem_range.mp (mem_rotate.mp (mem_of_mem_take member))

theorem nodup_indices : (sampling.indices length random).Nodup := by
  rw [indices_eq]
  exact (nodup_rotate.mpr nodup_range).take

/-- If as many items are looked at as there are, every position is among them. -/
theorem indices_perm (all : sampling.size length = length) :
    (sampling.indices length random).Perm (range length) := by
  rw [indices_eq, take_of_length_le (by simp [all])]
  exact rotate_perm _ _

/-- Unless all items are looked at, those that a smaller number of items leads to come first. -/
theorem indices_leading (fewer : few ≤ many) (sampled : many ≠ full) :
    few.indices length random <+: many.indices length random := by
  rw [indices_eq, indices_eq, start_eq fewer sampled]
  exact take_prefix_take_left (size_mono fewer length)

/-! ### Machine words -/

/-- The sum of two numbers, unless it takes more than 64 bits. -/
def sum? (a b : Nat) : Option Nat := if a + b < 2 ^ 64 then some (a + b) else none

/-- The remainder of one number by another, unless that one is zero. -/
def remainder? (a b : Nat) : Option Nat := if b = 0 then none else some (a % b)

/-- The start as it is found with 64 bits. -/
def startInWords? (sampling : Sampling) (length : Nat) (random : UInt32) : Option Nat :=
  if sampling.isRandom ∧ length ≠ 0 then remainder? random.toNat length else some 0

/-- The positions as they are found with 64 bits. -/
def indicesInWords? (sampling : Sampling) (length : Nat) (random : UInt32) :
    Option (List Nat) := do
  let start ← sampling.startInWords? length random
  (range (sampling.size length)).mapM fun step => do
    let position ← sum? start step
    remainder? position length

theorem mapM_eq_some {Item Result : Type} {items : List Item} {step : Item → Option Result}
    {result : Item → Result} (each : ∀ item ∈ items, step item = some (result item)) :
    items.mapM step = some (items.map result) := by
  induction items with
  | nil => rfl
  | cons item items ih =>
    rw [forall_mem_cons] at each
    rw [mapM_cons, each.1, ih each.2]
    rfl

/-- Sums of positions in containers that fit into memory fit into 64 bits, and where there are no
positions nothing is divided. -/
theorem indicesInWords?_eq (fits : length < 2 ^ 63) :
    sampling.indicesInWords? length random = some (sampling.indices length random) := by
  have small : sampling.size length ≤ length := size_mono sampling.le_full length
  rcases Nat.eq_zero_or_pos length with rfl | filled
  · have none : sampling.size 0 = 0 := Nat.le_zero.mp small
    simp [indicesInWords?, startInWords?, indices, none]
  · have found : sampling.startInWords? length random = some (sampling.start length random) := by
      simp [startInWords?, remainder?, start, filled.ne', apply_ite some]
    have before : sampling.start length random < length := by
      unfold start
      split
      · exact Nat.mod_lt _ filled
      · exact filled
    rw [indicesInWords?, found]
    refine mapM_eq_some fun step member => ?_
    have inside : step < length := (mem_range.mp member).trans_le small
    have fits' : sampling.start length random + step < 2 ^ 64 := by omega
    rw [sum?, if_pos fits']
    exact if_neg filled.ne'

/-- As many positions are looked at as the sampling asks for and the container has; they are
positions of the container, distinct, and found without leaving 64 bits. Counting fewer items leaves
out the last ones, and if no item is left out then every position is there. -/
theorem indices_form_window (sampling : Sampling) {length : Nat} (fits : length < 2 ^ 63)
    (random : UInt32) :
    sampling.indicesInWords? length random = some (sampling.indices length random) ∧
      ((sampling.indices length random).length : ℕ∞) = min (length : ℕ∞) sampling.limit ∧
      (∀ index ∈ sampling.indices length random, index < length) ∧
      (sampling.indices length random).Nodup ∧
      (∀ number number' : Nat, number ≤ number' →
        (count number).indices length random <+: (count number').indices length random) ∧
      (min (length : ℕ∞) sampling.limit = length →
        (sampling.indices length random).Perm (List.range length)) := by
  refine ⟨indicesInWords?_eq fits, ?_, fun _ => lt_of_mem_indices, nodup_indices,
    fun number number' fewer => ?_, fun all => ?_⟩
  · rw [length_indices, size_eq]
  · exact indices_leading (Nat.mono_cast fewer : (number : ℕ∞) ≤ number') nofun
  · rw [← size_eq] at all
    exact indices_perm (ENat.natCast_inj.mp all)

theorem indices_form_window_at_end :
    5 < 2 ^ 63 ∧ (count 3).indices 5 9 = [4, 0, 1] ∧
      (count 3).indicesInWords? 5 9 = some [4, 0, 1] ∧ (count 2).indices 5 9 <+: [4, 0, 1] := by
  obtain ⟨words, -, -, -, counts, -⟩ := indices_form_window (count 3) (show 5 < 2 ^ 63 by decide) 9
  exact ⟨by decide, by decide, words, counts 2 3 (by decide)⟩

end CallGuard.Sampling
