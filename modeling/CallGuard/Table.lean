/-
Tables from keys to entries, as lists of pairs with each key at most once.
-/

namespace CallGuard

/-- A table from keys to entries. -/
abbrev Table (Key Entry : Type) := List (Key × Entry)

namespace Table

variable {Key Entry : Type} [DecidableEq Key]

/-- The entry of a key. -/
def get? : Table Key Entry → Key → Option Entry
  | [], _ => none
  | (key', entry) :: rest, key => if key' = key then some entry else get? rest key

/-- Sets the entry of a key, in place if it has one. -/
def set : Table Key Entry → Key → Entry → Table Key Entry
  | [], key, entry => [(key, entry)]
  | (key', entry') :: rest, key, entry =>
    if key' = key then (key', entry) :: rest else (key', entry') :: set rest key entry

@[simp] theorem get?_set_self (table : Table Key Entry) (key : Key) (entry : Entry) :
    (table.set key entry).get? key = some entry := by
  fun_induction set table key entry <;> simp_all [get?]

@[simp] theorem get?_set_other (table : Table Key Entry) {key other : Key} (entry : Entry)
    (differ : other ≠ key) : (table.set key entry).get? other = table.get? other := by
  fun_induction set table key entry <;> simp_all [get?, Ne.symm]

end Table

end CallGuard
