/-
Sets of code points given by their boundaries. Reading upwards from zero,
membership starts out false and flips at each boundary, so a set of a hundred
ranges is an ascending list of two hundred numbers, and a code point belongs to
it when an odd number of boundaries lies at or below it. Large sets are written
down as the lengths of the runs between their boundaries.
-/

namespace CallGuard

/-- A set of code points, as the ascending list of the places where membership flips. -/
structure CodeSet where
  boundaries : Array Nat

namespace CodeSet

/-- The set whose runs of code points, outside and inside by turns, have the given lengths. -/
def ofRuns (runs : Array Nat) : CodeSet :=
  let add (read : Array Nat × Nat) (run : Nat) := (read.1.push (read.2 + run), read.2 + run)
  ⟨(runs.foldl add (#[], 0)).1⟩

/-- Bisection between `low` and `high` for the number of boundaries at or below `code`. -/
def bisect (set : CodeSet) (code : Nat) : Nat → Nat → Nat → Nat
  | 0, low, _ => low
  | fuel + 1, low, high =>
    if low < high then
      let middle := (low + high) / 2
      if set.boundaries.getD middle 0 ≤ code then set.bisect code fuel (middle + 1) high
      else set.bisect code fuel low middle
    else low

/-- The number of boundaries at or below `code`. -/
def passed (set : CodeSet) (code : Nat) : Nat :=
  set.bisect code (set.boundaries.size.log2 + 1) 0 set.boundaries.size

/-- Whether a character belongs to the set. -/
def contains (set : CodeSet) (c : Char) : Bool := set.passed c.toNat % 2 == 1

end CodeSet

end CallGuard
