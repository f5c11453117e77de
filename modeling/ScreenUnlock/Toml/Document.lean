/-
Reading a whole document.

The lines of a document become statements, and the statements build the
document's table one after the other: a header says which table the keys
behind it go to.
-/
import ScreenUnlock.Toml.Syntax

namespace ScreenUnlock.Toml

open Reading

/-- What a line of a document says. -/
inductive Statement where
  | header (path : KeyPath)
  | arrayHeader (path : KeyPath)
  | assign (path : KeyPath) (value : Value)

-- ============================================================ the lines

/-- A header of a table or of an array of tables. -/
def header : Reading Statement := do
  if ← looksAt "[[" then
    word "[["
    let path ← keyPath
    word "]]"
    lineRest
    return .arrayHeader path
  else
    char '['
    let path ← keyPath
    char ']'
    lineRest
    return .header path

/-- One line of a document, and the blanks behind it; an empty line and a
comment say nothing. -/
def line : Reading (Option Statement) := do
  let statement ← match ← peek? with
    | none => failure
    | some '#' => do comment; lineEnd; pure none
    | some '\n' => do newline; pure none
    | some '\r' => do newline; pure none
    | some '[' => do pure (some (← header))
    | some _ => do
      let (path, assigned) ← keyValue (value nestingLimit)
      lineRest
      pure (some (.assign path assigned))
  blanks
  return statement

/-- All lines of a document. A byte order mark may stand in front. -/
def statements? (text : String) : Option (List Statement) :=
  let reading : Reading (List (Option Statement)) := do
    let _ ← perhaps (char '\uFEFF')
    blanks
    many line
  match reading text.toList with
  | some (found, []) => some (found.filterMap id)
  | _ => none

-- ============================================================ the table

/-- A document while its statements are carried out. -/
structure Draft where
  entries : Entries
  -- The table that keys belong to; the document's own if empty.
  current : List String

/-- Carry out a statement, unless the statements before forbid it. -/
def Draft.carryOut? (draft : Draft) : Statement → Option Draft
  | .header path =>
    (openTable path .header draft.entries).map fun entries =>
      ⟨entries, path.parents ++ [path.last]⟩
  | .arrayHeader path =>
    (openArrayTable path .header draft.entries).map fun entries =>
      ⟨entries, path.parents ++ [path.last]⟩
  | .assign path value =>
    (alongHeader (define path value) draft.current .header
      draft.entries).map fun entries => { draft with entries }

/-- The table that statements build, if they are allowed together. -/
def build? (statements : List Statement) : Option Table :=
  (statements.foldlM Draft.carryOut? ⟨[], []⟩).map fun draft =>
    freezeEntries draft.entries

/-- The table of a document, if the text is one. -/
def parse? (text : String) : Option Table :=
  (statements? text).bind build?

end ScreenUnlock.Toml
