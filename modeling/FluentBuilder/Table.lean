/-!
# Tables in order of insertion

A table holds values under names, in the order in which the names were first put into it. Putting a
value under a name that is there replaces the value and keeps the place (`Table.put`). Sorting is by
code points (`sortedBy`).
-/

namespace FluentBuilder

/-! ### Sorting -/

section sorting

variable {α : Type}

/-- Puts an item before the first one that is greater. -/
def insertSorted (key : α → String) (x : α) : List α → List α
  | [] => [x]
  | y :: rest => if key x < key y then x :: y :: rest else y :: insertSorted key x rest

/-- The items in ascending order of their keys; those of one key stay in order. -/
def sortedBy (key : α → String) (xs : List α) : List α :=
  xs.foldl (fun sorted x => insertSorted key x sorted) []

end sorting

/-- Names in ascending order. -/
def sortedNames (names : List String) : List String :=
  sortedBy id names

/-! ### Tables -/

/-- Values under names, in order of insertion. -/
abbrev Table (α : Type) := List (String × α)

namespace Table

variable {α : Type}

/-- The value under a name. -/
def find? (table : Table α) (name : String) : Option α :=
  (List.find? (fun entry => entry.1 == name) table).map Prod.snd

/-- Puts a value under a name. -/
def put (table : Table α) (name : String) (value : α) : Table α :=
  match table with
  | [] => [(name, value)]
  | entry :: rest =>
    if entry.1 = name then (name, value) :: rest else entry :: put rest name value

/-- The table of some entries, put one after the other. -/
def ofEntries (entries : List (String × α)) : Table α :=
  entries.foldl (fun table entry => table.put entry.1 entry.2) []

/-- The names in order. -/
def names (table : Table α) : List String :=
  table.map Prod.fst

/-- The table in ascending order of names. -/
def sorted (table : Table α) : Table α :=
  sortedBy Prod.fst table

end Table
end FluentBuilder
