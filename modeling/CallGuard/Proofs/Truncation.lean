/-
What truncation keeps. A text is read from left to right, so its first clusters
are the clusters of what they make up, and a dot at the end of any text takes
one column, even where it joins the cluster before it. So a text that is too
wide is cut after the last cluster that leaves room for three dots, and the
result, which is not too wide, is left as it is. This holds however texts are
divided and measured, as long as the columns add up, as those of a terminal do.
-/
import CallGuard.Text.Width

namespace CallGuard.Text

open List

/-! ### Columns -/

section Columns

variable {Piece : Type} (width : Piece → Nat)

theorem foldl_columns (pieces : List Piece) (total : Nat) :
    pieces.foldl (fun total piece => total + width piece) total = total + columns width pieces := by
  induction pieces generalizing total with
  | nil => rfl
  | cons piece pieces ih =>
    show foldl _ (total + width piece) pieces = total + foldl _ (0 + width piece) pieces
    rw [ih, ih, Nat.zero_add, Nat.add_assoc]

theorem columns_append (pieces more : List Piece) :
    columns width (pieces ++ more) = columns width pieces + columns width more := by
  rw [columns, foldl_append]
  exact foldl_columns width more _

theorem columns_cons (piece : Piece) (more : List Piece) :
    columns width (piece :: more) = width piece + columns width more := by
  rw [← Nat.zero_add (width piece)]
  exact foldl_columns width more _

end Columns

/-! ### A dot at the end -/

theorem emojiUnit_dot (text : List Char) :
    emojiUnit (text ++ ['.']) = (emojiUnit text).map (· ++ ['.']) := by
  cases text with
  | nil => decide +kernel
  | cons c rest =>
    rw [cons_append, emojiUnit.eq_def, emojiUnit.eq_def]
    dsimp only
    split
    · rfl
    · cases rest with
      | nil =>
        have plain : (0x1f3fb ≤ '.'.toNat && '.'.toNat < 0x1f400) = false := by decide
        dsimp only [nil_append]
        rw [if_neg (by decide), plain, Bool.false_and, if_neg Bool.false_ne_true]
        split <;> rfl
      | cons d after =>
        dsimp only [cons_append]
        split
        · rfl
        · split
          · rfl
          · split <;> rfl

theorem emojiRun_dot (fuel : Nat) (text : List Char) :
    emojiRun fuel (text ++ ['.']) = (emojiRun fuel text).map (· ++ ['.']) := by
  induction fuel generalizing text with
  | zero => rfl
  | succ fuel ih =>
    rw [emojiRun, emojiRun, emojiUnit_dot]
    cases emojiUnit text with
    | none => rfl
    | some rest =>
      cases rest with
      | nil => rfl
      | cons c after =>
        dsimp only [Option.map_some, cons_append]
        rw [ih]
        split
        · cases emojiRun fuel after <;> rfl
        · rfl

theorem suffix_of_emojiUnit {c : Char} {text rest : List Char}
    (read : emojiUnit (c :: text) = some rest) : rest <:+ text := by
  rw [emojiUnit.eq_def] at read
  dsimp only at read
  split at read
  · cases read
  · split at read
    · split at read <;> cases read
      exact suffix_rfl
    · split at read
      · cases read
        exact suffix_cons _ _
      · split at read
        · cases read
          exact suffix_cons _ _
        · split at read <;> cases read
          exact suffix_rfl

theorem emojiRun_succ {fuel : Nat} {text : List Char} (enough : text.length ≤ fuel) :
    emojiRun (fuel + 1) text = emojiRun fuel text := by
  induction fuel generalizing text with
  | zero => rw [length_eq_zero_iff.mp (Nat.le_zero.mp enough)]; rfl
  | succ fuel ih =>
    cases text with
    | nil => rfl
    | cons c text =>
      rw [emojiRun, emojiRun]
      cases read : emojiUnit (c :: text) with
      | none => rfl
      | some rest =>
        cases rest with
        | nil => rfl
        | cons d after =>
          have shorter := (suffix_of_emojiUnit read).length_le
          rw [length_cons] at shorter enough
          dsimp only
          rw [ih (by omega)]

theorem clusterWidth_dot (cluster : List Char) :
    clusterWidth (cluster ++ ['.']) = clusterWidth cluster + 1 := by
  have dot : columns charWidth ['.'] = 1 := by decide
  rw [clusterWidth, clusterWidth, length_append, length_singleton, emojiRun_dot,
    emojiRun_succ (Nat.le_refl _)]
  cases emojiRun cluster.length cluster with
  | none => exact (columns_append _ _ _).trans (congrArg _ dot)
  | some rest =>
    dsimp only [Option.map_some]
    rw [columns_append, dot, Nat.add_assoc]

theorem clusterWidth_singleton_dot : clusterWidth ['.'] = 1 := by
  have alone := clusterWidth_dot []
  rwa [nil_append, show clusterWidth [] = 0 from rfl] at alone

/-- The dot joins the last cluster or is one of its own. -/
theorem columns_clustersFrom_dot (state : JoinState) (current text : List Char) :
    columns clusterWidth (clustersFrom state current (text ++ ['.'])) =
      columns clusterWidth (clustersFrom state current text) + 1 := by
  induction text generalizing state current with
  | nil =>
    rw [nil_append, clustersFrom, clustersFrom, clustersFrom, clustersFrom]
    split
    · rw [columns_cons, columns_cons, reverse_cons, clusterWidth_dot, Nat.add_right_comm]
    · rw [columns_cons, columns_cons, columns_cons, reverse_singleton, clusterWidth_singleton_dot,
        Nat.add_comm 1, Nat.add_assoc]
  | cons c text ih =>
    rw [cons_append, clustersFrom, clustersFrom]
    split
    · exact ih _ _
    · rw [columns_cons, columns_cons, ih, Nat.add_assoc]

theorem width_dot (text : List Char) : width (text ++ ['.']) = width text + 1 := by
  cases text with
  | nil =>
    show columns clusterWidth [['.']] = 0 + 1
    rw [columns_cons, clusterWidth_singleton_dot]
    rfl
  | cons c text => exact columns_clustersFrom_dot _ _ text

theorem width_replicate_dot (count : Nat) : width (replicate count '.') = count := by
  induction count with
  | zero => rfl
  | succ count ih => rw [replicate_succ', width_dot, ih]

/-! ### Whole clusters -/

theorem flatten_clustersFrom (state : JoinState) (current text : List Char) :
    (clustersFrom state current text).flatten = current.reverse ++ text := by
  induction text generalizing state current with
  | nil => rw [clustersFrom, flatten_singleton, append_nil]
  | cons c text ih =>
    rw [clustersFrom]
    split
    · rw [ih, reverse_cons, append_assoc, singleton_append]
    · rw [flatten_cons, ih, reverse_singleton, singleton_append]

theorem flatten_clusters (text : List Char) : (clusters text).flatten = text := by
  cases text with
  | nil => rfl
  | cons c text => exact flatten_clustersFrom _ _ text

/-- The first clusters of a text are found again in what they make up. -/
theorem exists_clustersFrom_eq {state : JoinState} {current text : List Char}
    {kept : List (List Char)} (filled : kept ≠ []) (whole : kept <+: clustersFrom state current text) :
    ∃ read, kept.flatten = current.reverse ++ read ∧ clustersFrom state current read = kept := by
  induction text generalizing state current kept with
  | nil =>
    obtain rfl : kept = [current.reverse] := by
      rw [clustersFrom] at whole
      exact whole.eq_of_length_le (length_pos_iff.mpr filled)
    exact ⟨[], flatten_singleton.trans (append_nil _).symm, rfl⟩
  | cons c text ih =>
    rw [clustersFrom] at whole
    split at whole
    · next joins =>
      obtain ⟨read, shown, again⟩ := ih filled whole
      refine ⟨c :: read, ?_, ?_⟩
      · rw [shown, reverse_cons, append_assoc, singleton_append]
      · rw [clustersFrom, if_pos joins, again]
    · next apart =>
      obtain ⟨first, others, rfl⟩ := exists_cons_of_ne_nil filled
      obtain ⟨rfl, later⟩ := cons_prefix_cons.mp whole
      by_cases last : others = []
      · rw [last]
        exact ⟨[], flatten_singleton.trans (append_nil _).symm, rfl⟩
      · obtain ⟨read, shown, again⟩ := ih last later
        refine ⟨c :: read, ?_, ?_⟩
        · rw [flatten_cons, shown, reverse_singleton, singleton_append]
        · rw [clustersFrom, if_neg apart, again]

theorem width_flatten {text : List Char} {kept : List (List Char)} (whole : kept <+: clusters text) :
    width kept.flatten = columns clusterWidth kept := by
  by_cases filled : kept = []
  · rw [filled]
    rfl
  · cases text with
    | nil => exact absurd (prefix_nil.mp whole) filled
    | cons c text =>
      obtain ⟨read, shown, again⟩ := exists_clustersFrom_eq filled whole
      rw [shown]
      exact congrArg _ again

/-! ### What fits -/

namespace Measure

variable {measure : Measure}

theorem fitting_prefix (room : Nat) (pieces : List (List Char)) :
    measure.fitting room pieces <+: pieces := by
  induction pieces generalizing room with
  | nil => exact nil_prefix
  | cons piece pieces ih =>
    rw [fitting]
    split
    · exact cons_prefix_cons.mpr ⟨rfl, ih _⟩
    · exact nil_prefix

/-- What fits is as long as it can be: other first pieces are part of it just if they fit. -/
theorem prefix_fitting_iff {room : Nat} {kept pieces : List (List Char)} (whole : kept <+: pieces) :
    kept <+: measure.fitting room pieces ↔ columns measure.clusterWidth kept ≤ room := by
  induction pieces generalizing room kept with
  | nil =>
    rw [prefix_nil.mp whole]
    exact iff_of_true nil_prefix (Nat.zero_le _)
  | cons piece pieces ih =>
    cases kept with
    | nil => exact iff_of_true nil_prefix (Nat.zero_le _)
    | cons first kept =>
      obtain ⟨rfl, later⟩ := cons_prefix_cons.mp whole
      rw [fitting, columns_cons]
      split
      · next fits =>
        rw [cons_prefix_cons, and_iff_right rfl, ih later]
        omega
      · next wide =>
        refine iff_of_false (fun found => cons_ne_nil _ _ (prefix_nil.mp found)) ?_
        omega

/-! ### Truncated texts -/

/-- What truncation takes for granted: the clusters of a text make it up, the first clusters of a
text are together as wide as each for itself, and a dot at the end takes at most one column. -/
structure Additive (measure : Measure) : Prop where
  whole : ∀ text, (measure.clusters text).flatten = text
  sum : ∀ text kept, kept <+: measure.clusters text →
    measure.width kept.flatten = columns measure.clusterWidth kept
  dot : ∀ text, measure.width (text ++ ['.']) ≤ measure.width text + 1

/-- The start of a text up to the end of one of its clusters. -/
def IsCut (measure : Measure) (text start : List Char) : Prop :=
  ∃ kept, kept <+: measure.clusters text ∧ start = kept.flatten

/-- The longest start of a text that ends with a cluster and leaves room for three dots. -/
structure IsLongestCut (measure : Measure) (text start : List Char) : Prop where
  starts : start <+: text
  cut : measure.IsCut text start
  fits : measure.width start ≤ maxShownWidth - 3
  longest : ∀ other, measure.IsCut text other → measure.width other ≤ maxShownWidth - 3 →
    other <+: start

theorem Additive.isLongestCut_fitting (additive : measure.Additive) (text : List Char) :
    measure.IsLongestCut text
      (measure.fitting (maxShownWidth - 3) (measure.clusters text)).flatten := by
  have whole := measure.fitting_prefix (maxShownWidth - 3) (measure.clusters text)
  refine ⟨?_, ⟨_, whole, rfl⟩, ?_, ?_⟩
  · obtain ⟨rest, shown⟩ := whole
    exact ⟨rest.flatten, by rw [← flatten_append, shown, additive.whole]⟩
  · rw [additive.sum text _ whole]
    exact (prefix_fitting_iff whole).mp (prefix_refl _)
  · rintro _ ⟨kept, first, rfl⟩ fits
    rw [additive.sum text _ first, ← prefix_fitting_iff first] at fits
    obtain ⟨rest, shown⟩ := fits
    exact ⟨rest.flatten, by rw [← flatten_append, shown]⟩

theorem truncate_of_narrow {text : String} (narrow : measure.width text.toList ≤ maxShownWidth) :
    measure.truncate text = text :=
  if_pos narrow

theorem Additive.exists_truncate_eq (additive : measure.Additive) {text : String}
    (wide : maxShownWidth < measure.width text.toList) :
    ∃ start, measure.IsLongestCut text.toList start ∧
      measure.truncate text = String.ofList (start ++ ['.', '.', '.']) :=
  ⟨_, additive.isLongestCut_fitting _, if_neg (Nat.not_le.mpr wide)⟩

theorem Additive.width_truncate_le (additive : measure.Additive) (text : String) :
    measure.width (measure.truncate text).toList ≤ maxShownWidth := by
  rcases Nat.lt_or_ge maxShownWidth (measure.width text.toList) with wide | narrow
  · obtain ⟨start, longest, shown⟩ := additive.exists_truncate_eq wide
    have dots : measure.width (start ++ ['.', '.', '.']) ≤ measure.width start + 3 :=
      calc measure.width (start ++ ['.', '.', '.'])
          = measure.width (start ++ ['.'] ++ ['.'] ++ ['.']) := by rw [append_cons, append_cons]
        _ ≤ measure.width (start ++ ['.'] ++ ['.']) + 1 := additive.dot _
        _ ≤ measure.width (start ++ ['.']) + 1 + 1 := Nat.succ_le_succ (additive.dot _)
        _ ≤ measure.width start + 3 := Nat.succ_le_succ (Nat.succ_le_succ (additive.dot _))
    rw [shown, String.toList_ofList]
    exact Nat.le_trans dots (Nat.add_le_of_le_sub (by decide) longest.fits)
  · rwa [truncate_of_narrow narrow]

/-- Whatever clusters and columns are, as long as columns add up: a text that is not too wide is
shown whole. Of any other text the longest start is shown that ends with a cluster and leaves room
for the dots. The result is never too wide, so that nothing is cut off from it again. -/
theorem truncate_shows_longest (measure : Measure) (additive : measure.Additive) (text : String) :
    (measure.width text.toList ≤ maxShownWidth → measure.truncate text = text) ∧
      (maxShownWidth < measure.width text.toList →
        ∃ start, measure.IsLongestCut text.toList start ∧
          measure.truncate text = String.ofList (start ++ ['.', '.', '.'])) ∧
      measure.width (measure.truncate text).toList ≤ maxShownWidth ∧
      measure.truncate (measure.truncate text) = measure.truncate text :=
  ⟨truncate_of_narrow, additive.exists_truncate_eq, additive.width_truncate_le text,
    truncate_of_narrow (additive.width_truncate_le text)⟩

end Measure

/-- The columns of a terminal add up. -/
theorem additive_terminal : terminal.Additive where
  whole := flatten_clusters
  sum _ _ := width_flatten
  dot text := Nat.le_of_eq (width_dot text)

/-- On a terminal no result of truncation is too wide or changed again. A line of dots is cut off as
soon as it is one column too wide. -/
theorem truncate_line_of_dots :
    let line := String.ofList (replicate 73 '.')
    terminal.Additive ∧
      (∀ text, width (truncate text).toList ≤ maxShownWidth ∧
        truncate (truncate text) = truncate text) ∧
      maxShownWidth < width line.toList ∧ ∃ start, terminal.IsLongestCut line.toList start ∧
        truncate line = String.ofList (start ++ ['.', '.', '.']) := by
  intro line
  have shows := terminal.truncate_shows_longest additive_terminal
  have wide : maxShownWidth < width line.toList := by
    rw [String.toList_ofList, width_replicate_dot]
    decide
  exact ⟨additive_terminal, fun text => (shows text).2.2, wide, (shows line).2.1 wide⟩

end CallGuard.Text
