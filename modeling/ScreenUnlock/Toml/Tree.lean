/-
Building the tables of a document.

A document names tables in several ways, and which of them may still be
added to depends on how it came to be: by its own header, as the parent
in another header, or as the parent in a dotted key. A tree keeps that
with each table until the whole document is read; then `Tree.freeze`
forgets it.

- A header gives a table its body. It may name a table that exists only
  as a parent in other headers, and no other.
- A dotted key may pass through tables that have no body of their own,
  and its last step must be one that dotted keys made.
- A value, an inline table too, is closed.
- A header of an array adds one table to the array; a path that leads
  through the array goes to its last table.
-/
import ScreenUnlock.Toml.Value

namespace ScreenUnlock.Toml

/-- How a table came to be. -/
inductive Origin where
  -- By its own header, or as the document itself.
  | header
  -- As the parent in a header.
  | parent
  -- As the parent in a dotted key.
  | dotted
  deriving DecidableEq, Repr

/-- What stands at a key while the document is read. -/
inductive Tree where
  | leaf (value : Value)
  | table (origin : Origin) (entries : List (String × Tree))
  -- An array of tables, each with its entries, the last one first.
  | tables (bodies : List (List (String × Tree)))

/-- The entries of a table while the document is read. -/
abbrev Entries := List (String × Tree)

namespace Entries

/-- What stands at a key. -/
def find? (entries : Entries) (key : String) : Option Tree :=
  List.lookup key entries

/-- Let `tree` stand at a key: in the place of what stood there, or
behind everything else. -/
def put (entries : Entries) (key : String) (tree : Tree) : Entries :=
  match entries with
  | [] => [(key, tree)]
  | (other, old) :: rest =>
    if other = key then (key, tree) :: rest
    else (other, old) :: put rest key tree

end Entries

/-- A change of a table, given how the table came to be; `none` where the
document may not ask for it. -/
abbrev Change := Origin → Entries → Option Entries

-- ============================================================ the paths

/-- Change the table that a header's path leads to. Tables that are
missing on the way are made. -/
def alongHeader (change : Change) : List String → Change
  | [], origin, entries => change origin entries
  | key :: path, _, entries =>
    match entries.find? key with
    | none =>
      (alongHeader change path .parent []).map fun inner =>
        entries.put key (.table .parent inner)
    | some (.leaf _) => none
    | some (.table origin inner) =>
      (alongHeader change path origin inner).map fun inner' =>
        entries.put key (.table origin inner')
    | some (.tables []) => none
    | some (.tables (body :: bodies)) =>
      (alongHeader change path .header body).map fun body' =>
        entries.put key (.tables (body' :: bodies))

/-- Change the table that the parents in a dotted key lead to. Tables
that are missing on the way are made; one with a body of its own may not
be passed. -/
def alongKey (change : Change) : List String → Change
  | [], origin, entries => change origin entries
  | key :: path, _, entries =>
    match entries.find? key with
    | none =>
      (alongKey change path .dotted []).map fun inner =>
        entries.put key (.table .dotted inner)
    | some (.leaf _) => none
    | some (.table .header _) => none
    | some (.table origin inner) =>
      (alongKey change path origin inner).map fun inner' =>
        entries.put key (.table origin inner')
    | some (.tables []) => none
    | some (.tables (body :: bodies)) =>
      (alongKey change path .header body).map fun body' =>
        entries.put key (.tables (body' :: bodies))

-- ========================================================== the changes

/-- A path and its last key. -/
structure KeyPath where
  parents : List String
  last : String
  deriving DecidableEq, Repr

/-- Set a key that is not set yet. -/
def setNew (key : String) (value : Value) : Change := fun _ entries =>
  match entries.find? key with
  | none => some (entries.put key (.leaf value))
  | some _ => none

/-- Set a key in a table. A dotted key sets it in the table that its
parents lead to, which must be one that dotted keys made. -/
def define (path : KeyPath) (value : Value) : Change :=
  if path.parents = [] then setNew path.last value
  else
    alongKey
      (fun origin entries =>
        if origin = .dotted then setNew path.last value origin entries
        else none)
      path.parents

/-- Give a table its body: a new one, or one that was only a parent. -/
def openTable (path : KeyPath) : Change :=
  alongHeader
    (fun _ entries =>
      match entries.find? path.last with
      | none => some (entries.put path.last (.table .header []))
      | some (.table .parent inner) =>
        some (entries.put path.last (.table .header inner))
      | some _ => none)
    path.parents

/-- Add one table to an array of tables. -/
def openArrayTable (path : KeyPath) : Change :=
  alongHeader
    (fun _ entries =>
      match entries.find? path.last with
      | none => some (entries.put path.last (.tables [[]]))
      | some (.tables bodies) =>
        some (entries.put path.last (.tables ([] :: bodies)))
      | some _ => none)
    path.parents

-- ============================================================= freezing

mutual

/-- The value that stands at a key once the document is read. -/
def Tree.freeze : Tree → Value
  | .leaf value => value
  | .table _ entries => .table (freezeEntries entries)
  | .tables bodies => .array (freezeBodies bodies).reverse

/-- The entries of a table once the document is read. -/
def freezeEntries : List (String × Tree) → Table
  | [] => []
  | (key, tree) :: rest => (key, tree.freeze) :: freezeEntries rest

/-- The tables of an array once the document is read. -/
def freezeBodies : List (List (String × Tree)) → List Value
  | [] => []
  | body :: rest => .table (freezeEntries body) :: freezeBodies rest

end

end ScreenUnlock.Toml
