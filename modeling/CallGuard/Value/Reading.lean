/-
Values in documents. Objects become dictionaries whose keys stand in the order
of their characters; of members with the same name the last one counts.
-/
import CallGuard.Document
import CallGuard.World

namespace CallGuard.Value

/-- Puts a member into an ordered list of members, in place of one with the same name. -/
def insertMember (name : String) (value : Value) : List (String × Value) → List (String × Value)
  | [] => [(name, value)]
  | (other, old) :: rest =>
    if name < other then (name, value) :: (other, old) :: rest
    else if name = other then (name, value) :: rest
    else (other, old) :: insertMember name value rest

mutual
/-- A new value with the contents of a document. -/
def ofDocument : Document → Action Value
  | .null => pure .null
  | .bool truth => pure (.bool truth)
  | .integer number =>
    pure (if number < 0x8000000000000000 then .int number else .float (Binary64.ofInt number))
  | .float number => pure (.float number)
  | .string chars => do pure (.str (← Action.fresh) chars)
  | .list items => do
    let identity ← Action.fresh
    pure (.list identity (← ofDocuments items))
  | .object members => do
    let identity ← Action.fresh
    let ordered := (← ofMembers members).foldl (fun found member =>
      insertMember member.1 member.2 found) []
    let entries ← ordered.mapM fun (name, value) => do pure (.str (← Action.fresh) name, value)
    pure (.dict identity entries)

/-- New values with the contents of documents. -/
def ofDocuments : List Document → Action (List Value)
  | [] => pure []
  | document :: rest => do
    let value ← ofDocument document
    let values ← ofDocuments rest
    pure (value :: values)

/-- The same under names. -/
def ofMembers : List (String × Document) → Action (List (String × Value))
  | [] => pure []
  | (name, document) :: rest => do
    let value ← ofDocument document
    let values ← ofMembers rest
    pure ((name, value) :: values)
end

end CallGuard.Value
