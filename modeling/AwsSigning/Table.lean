/-
AwsSigning/Table.lean

Tables from texts to values that remember the order in which keys arrived.

Writing to a key that is there changes its value in place; a new key goes to
the end.  So the keys of a table built by writing are always different.
-/

namespace AwsSigning

/-- Keys with their values, in order of first arrival. -/
abbrev Table (α : Type) := List (String × α)

namespace Table

/-- The value under a key. -/
def get? (table : Table α) (key : String) : Option α := table.lookup key

/-- Whether there is a value under a key. -/
def has (table : Table α) (key : String) : Bool := (table.get? key).isSome

/-- The table with a value under a key. -/
def set : Table α → String → α → Table α
  | [], key, value => [(key, value)]
  | (k, v) :: rest, key, value =>
    if k = key then (key, value) :: rest else (k, v) :: set rest key value

/-- The table without a key. -/
def erase (table : Table α) (key : String) : Table α := table.filter (·.1 ≠ key)

/-- The table with all entries of a list written to it, from left to right. -/
def setAll (table : Table α) (entries : List (String × α)) : Table α :=
  entries.foldl (fun t (key, value) => t.set key value) table

/-- The table that a list of entries writes. -/
def ofList (entries : List (String × α)) : Table α := setAll [] entries

end Table

end AwsSigning
