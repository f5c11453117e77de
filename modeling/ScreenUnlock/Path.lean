/-
Paths, as texts with slashes. A path whose bytes are no UTF-8 is left out.

A path is kept as it was written. `Path.join` puts another path behind
it; an absolute one takes its place. `Path.components` is what the path
says once doubled slashes, a slash at the end and single dots are
disregarded, and two paths are the same if their components are.
-/
namespace ScreenUnlock

/-- A path, as written. -/
structure Path where
  text : String
  deriving DecidableEq, Repr

namespace Path

/-- A part of a path. -/
inductive Component where
  | root
  -- A single dot in front of a relative path.
  | here
  -- Two dots.
  | up
  | name (name : String)
  deriving DecidableEq, Repr

/-- The characters between the slashes, as they are. -/
def split : List Char → List (List Char)
  | [] => [[]]
  | c :: rest =>
    if c = '/' then [] :: split rest
    else
      match split rest with
      | [] => [[c]]
      | first :: others => (c :: first) :: others

/-- The texts between the slashes, as they are. -/
def parts (path : Path) : List String :=
  (split path.text.toList).map String.ofList

/-- Whether the path begins at the root directory. -/
def isAbsolute (path : Path) : Bool :=
  path.text.toList.head? = some '/'

/-- A text between slashes as a component; an empty one and a single dot
say nothing. -/
def component? (part : String) : Option Component :=
  if part = "" ∨ part = "." then none
  else if part = ".." then some .up
  else some (.name part)

/-- What the path says. -/
def components (path : Path) : List Component :=
  let front : List Component :=
    if path.isAbsolute then [.root]
    else if path.parts.head? = some "." then [.here]
    else []
  front ++ path.parts.filterMap component?

/-- Whether two paths say the same. -/
def same (path other : Path) : Bool :=
  path.components = other.components

/-- The path that leads to `other` from here. -/
def join (path : Path) (other : String) : Path :=
  let text := path.text.toList
  if other.toList.head? = some '/' then ⟨other⟩
  else if text = [] ∨ text.getLast? = some '/' then ⟨path.text ++ other⟩
  else ⟨path.text ++ "/" ++ other⟩

end Path

end ScreenUnlock
