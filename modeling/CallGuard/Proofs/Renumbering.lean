/-
Renumbering of markers. A marker is found where it stands, in whatever text,
and what it is replaced by starts with a brace again; so no marker is made,
merged or hidden when others are renumbered, not even next to one that is cut
short, and the markers of a renumbered text are those of the text with other
numbers. To renumber twice is therefore to renumber once, by the sum.
-/
import CallGuard.Proofs.Script
import Mathlib.Data.List.Infix
import Mathlib.Data.List.TakeWhile

namespace CallGuard.Text

open List

/-- Somewhere in the text there is a marker with the given number. -/
def Marked (text : List Char) (number : Nat) : Prop :=
  ∃ before digits after, Numeric digits number ∧
    text = before ++ (markerStart.toList ++ (digits ++ '}' :: after))

variable {text : List Char} {number length : Nat} {replace : Nat → List Char}

theorem exists_numeric_of_markerAt (found : markerAt text = some (number, length)) :
    ∃ digits after, Numeric digits number ∧
      text = markerStart.toList ++ (digits ++ '}' :: after) := by
  rw [markerAt] at found
  dsimp only at found
  split at found
  · next starts =>
    obtain ⟨rest, rfl⟩ := List.isPrefixOf_iff_prefix.mp starts
    rw [drop_left] at found
    split at found
    · next after closed =>
      split at found
      · cases found
      · next proper =>
        obtain ⟨rfl, -⟩ := Prod.mk.inj (Option.some.inj found)
        rw [Bool.or_eq_true, not_or, List.isEmpty_iff, decide_eq_true_eq, Nat.not_le,
          Nat.one_shiftLeft] at proper
        refine ⟨_, after, ⟨proper.1, fun c member => mem_takeWhile_imp member, rfl, proper.2⟩, ?_⟩
        rw [← closed, prefix_iff_eq_append.mp (List.takeWhile_prefix _)]
    · cases found
  · cases found

theorem Marked.cons (marked : Marked text number) (c : Char) : Marked (c :: text) number := by
  obtain ⟨before, digits, after, numeric, rfl⟩ := marked
  exact ⟨c :: before, digits, after, numeric, rfl⟩

theorem marked_of_markerAt (found : markerAt text = some (number, length)) :
    Marked text number := by
  obtain ⟨digits, after, numeric, rfl⟩ := exists_numeric_of_markerAt found
  exact ⟨[], digits, after, numeric, rfl⟩

/-- Text without markers stays as it is. -/
theorem mapMarkersFrom_of_unmarked (unmarked : ∀ number, ¬ Marked text number) :
    mapMarkersFrom replace 0 text = text := by
  induction text with
  | nil => rfl
  | cons c text ih =>
    have none : markerAt (c :: text) = none :=
      Option.eq_none_iff_forall_ne_some.mpr fun _ found => unmarked _ (marked_of_markerAt found)
    rw [mapMarkersFrom, none]
    exact congrArg _ (ih fun number marked => unmarked number (marked.cons c))

/-- What has no brace and is found after the replacement was there before. -/
theorem prefix_of_mapMarkersFrom (opens : ∀ number, ∃ more, replace number = '{' :: more)
    {chars : List Char} (clear : '{' ∉ chars) (found : chars <+: mapMarkersFrom replace 0 text) :
    chars <+: text := by
  induction chars generalizing text with
  | nil => exact nil_prefix
  | cons d chars ih =>
    obtain ⟨differs, clear⟩ := not_or.mp (mem_cons.not.mp clear)
    cases text with
    | nil => exact found
    | cons c text =>
      rw [mapMarkersFrom] at found
      split at found
      · next number length _ =>
        obtain ⟨more, shown⟩ := opens number
        rw [shown, cons_append, cons_prefix_cons] at found
        exact absurd found.1.symm differs
      · rw [cons_prefix_cons] at found ⊢
        exact ⟨found.1, ih clear found.2⟩

/-- No marker comes about when those after it are replaced. -/
theorem markerAt_mapMarkersFrom (opens : ∀ number, ∃ more, replace number = '{' :: more) {c : Char}
    (unmarked : markerAt (c :: text) = none) :
    markerAt (c :: mapMarkersFrom replace 0 text) = none := by
  refine Option.eq_none_iff_forall_ne_some.mpr fun _ found => ?_
  obtain ⟨digits, after, numeric, shown⟩ := exists_numeric_of_markerAt found
  have start : markerStart.toList = '{' :: "pith_".toList := by decide
  rw [start, cons_append] at shown
  obtain ⟨rfl, same⟩ := List.cons.inj shown
  have clear : '{' ∉ "pith_".toList ++ (digits ++ ['}']) := by
    rw [mem_append, mem_append, not_or, not_or]
    exact ⟨by decide, fun member => absurd (numeric.decimal _ member) (by decide), by decide⟩
  obtain ⟨later, rfl⟩ : "pith_".toList ++ (digits ++ ['}']) <+: text := by
    refine prefix_of_mapMarkersFrom opens clear ⟨after, ?_⟩
    rw [same, append_assoc, append_assoc, singleton_append]
  rw [append_assoc, append_assoc, singleton_append, ← cons_append, ← start,
    markerAt_numeric numeric] at unmarked
  cases unmarked

/-- What renumbered markers are replaced by is what the markers are replaced by, with the new
numbers. The induction is on the scan of the text: the scan of what it writes goes along. -/
theorem mapMarkersFrom_shift (replace : Nat → List Char) {amount : Nat} (skip : Nat)
    (text : List Char) (fits : ∀ number, Marked text number → number + amount < 2 ^ 64) :
    mapMarkersFrom replace 0
        (mapMarkersFrom (fun number => (marker (number + amount)).toList) skip text) =
      mapMarkersFrom (fun number => replace (number + amount)) skip text := by
  induction text generalizing skip with
  | nil => cases skip <;> rfl
  | cons c text ih =>
    have ih (skip : Nat) := ih skip fun number marked => fits number (marked.cons c)
    cases skip with
    | succ skip => exact ih skip
    | zero =>
      rw [mapMarkersFrom, mapMarkersFrom]
      cases found : markerAt (c :: text) with
      | some marked =>
        obtain ⟨number, length⟩ := marked
        dsimp only
        rw [mapMarkersFrom_marker (fits number (marked_of_markerAt found)), ih]
      | none =>
        dsimp only
        rw [mapMarkersFrom, markerAt_mapMarkersFrom (fun _ => ⟨_, marker_chars _⟩) found, ih]

theorem mapMarkers_shiftMarkers (replacement : Nat → String) {amount : Nat} {text : String}
    (fits : ∀ number, Marked text.toList number → number + amount < 2 ^ 64) :
    mapMarkers replacement (shiftMarkers amount text) =
      mapMarkers (fun number => replacement (number + amount)) text := by
  by_cases zero : amount = 0
  · rw [shiftMarkers, if_pos zero, zero]
    rfl
  · rw [shiftMarkers, if_neg zero, mapMarkers, mapMarkers, String.toList_ofList,
      mapMarkersFrom_shift _ 0 _ fits]
    rfl

theorem mapMarkers_of_unmarked (replacement : Nat → String) {text : String}
    (unmarked : ∀ number, ¬ Marked text.toList number) : mapMarkers replacement text = text := by
  rw [mapMarkers, mapMarkersFrom_of_unmarked unmarked, String.ofList_toList]

/-- To renumber the markers of a text, whatever else is in it, and then to renumber or name them is
to do so at once by the sum, as long as all numbers keep to 64 bits. Text without markers stays as
it is. -/
theorem renumbering_composes (text : String) (first second : Nat)
    (fits : ∀ number, Marked text.toList number → number + (first + second) < 2 ^ 64) :
    shiftMarkers second (shiftMarkers first text) = shiftMarkers (first + second) text ∧
      nameMarkers second (shiftMarkers first text) = nameMarkers (first + second) text ∧
      ((∀ number, ¬ Marked text.toList number) →
        ∀ amount, shiftMarkers amount text = text ∧ nameMarkers amount text = text) := by
  have once (number : Nat) (marked : Marked text.toList number) : number + first < 2 ^ 64 :=
    Nat.lt_of_le_of_lt (by omega) (fits number marked)
  refine ⟨?_, ?_, fun unmarked amount => ⟨?_, mapMarkers_of_unmarked _ unmarked⟩⟩
  · by_cases zero : second = 0
    · have same (text : String) : shiftMarkers 0 text = text := if_pos rfl
      rw [zero, same, Nat.add_zero]
    · rw [shiftMarkers, if_neg zero, mapMarkers_shiftMarkers _ once, shiftMarkers,
        if_neg (by omega)]
      simp only [Nat.add_assoc]
  · rw [nameMarkers, mapMarkers_shiftMarkers _ once, nameMarkers]
    simp only [Nat.add_assoc]
  · rw [shiftMarkers]
    split
    · rfl
    · exact mapMarkers_of_unmarked _ unmarked

/-- A marker with leading zeros inside one that is cut short. -/
theorem renumbering_composes_nested :
    let text := "\x7bpith_\x7bpith_07\x7d"
    shiftMarkers 3 (shiftMarkers 2 text) = "\x7bpith_\x7bpith_12\x7d" ∧
      nameMarkers 3 (shiftMarkers 2 text) = "\x7bpith___hc_pith_12" := by
  intro text
  have each : ∀ rest ∈ text.toList.tails, ∀ found ∈ markerAt rest, found.1 + (2 + 3) < 2 ^ 64 := by
    decide +kernel
  have fits (number : Nat) (marked : Marked text.toList number) : number + (2 + 3) < 2 ^ 64 := by
    obtain ⟨before, digits, after, numeric, shown⟩ := marked
    exact each _ ((mem_tails _ _).mpr ⟨before, shown.symm⟩) _ (markerAt_numeric numeric after)
  obtain ⟨shifted, named, -⟩ := renumbering_composes text 2 3 fits
  exact ⟨shifted.trans (by decide +kernel), named.trans (by decide +kernel)⟩

end CallGuard.Text
