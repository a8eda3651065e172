/-
Which items of a container are looked at. A container may be checked in full or
in part; in part means a run of neighbouring items that starts anywhere and
wraps around the end. The start comes from an integer drawn once per call, so
whoever knows that integer can look at the same items again.
-/

namespace CallGuard

/-- How many items of a container are looked at. -/
inductive Sampling where
  | one
  | count (number : Nat)
  | full
  deriving DecidableEq

namespace Sampling

/-- Whether the items looked at depend on the drawn integer. -/
def isRandom : Sampling → Bool
  | full => false
  | _ => true

/-- The number of items of a container of the given length that are looked at. -/
def size (sampling : Sampling) (length : Nat) : Nat :=
  match sampling with
  | one => min length 1
  | count number => min length number
  | full => length

/-- The first position that is looked at. -/
def start (sampling : Sampling) (length : Nat) (random : UInt32) : Nat :=
  if sampling.isRandom then random.toNat % length else 0

/-- The positions that are looked at, in order. -/
def indices (sampling : Sampling) (length : Nat) (random : UInt32) : List Nat :=
  (List.range (sampling.size length)).map fun step =>
    (sampling.start length random + step) % length

/-- The items that are looked at, with their positions. -/
def pick {Item : Type} (sampling : Sampling) (items : List Item) (random : UInt32) :
    List (Nat × Item) :=
  let array := items.toArray
  (sampling.indices array.size random).filterMap fun index =>
    array[index]?.map fun item => (index, item)

end Sampling

end CallGuard
