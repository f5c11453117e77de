/-
Files and directories.

A path is followed part by part. Every part but a name in a directory
asks for a directory to stand in, so `file/`, `file/.` and `dir/x/..`
with no `x` lead nowhere. Names are at most 255 bytes long, paths less
than 4096, and neither holds a NUL.

A tree is what the process can find. There may be files that it finds and
cannot read. Three things are left out. There are no symbolic links: all
that is asked of a tree follows them, and so a link is what it leads to.
There are no directories that may not be searched: whatever stands in one
is not there. And names are texts, so none is without UTF-8.
-/
import ScreenUnlock.Bytes
import ScreenUnlock.IoError
import ScreenUnlock.Path

namespace ScreenUnlock

/-- A file or a directory. -/
inductive FileNode where
  | file (content : Bytes)
  -- A file that cannot be read, and why.
  | unreadable (cause : IoError)
  | directory (entries : List (String × FileNode))

/-- All files, and the directory that relative paths begin at. -/
structure FileTree where
  root : FileNode
  -- The names that lead to the working directory.
  workingDirectory : List String

-- ============================================================= building

namespace FileNode

/-- Let `node` stand at a name: in the place of what stood there, or
behind everything else. -/
def putEntry (name : String) (node : FileNode) :
    List (String × FileNode) → List (String × FileNode)
  | [] => [(name, node)]
  | (other, old) :: rest =>
    if other = name then (name, node) :: rest
    else (other, old) :: putEntry name node rest

/-- The entries of a directory; none of anything else. -/
def entriesOf : Option FileNode → List (String × FileNode)
  | some (.directory entries) => entries
  | _ => []

/-- Put a file at the end of the names. Directories on the way are made;
what is there already stays a file or a directory. -/
def putFile (file : FileNode) : List String → Option FileNode → FileNode
  | [], some (.directory entries) => .directory entries
  | [], _ => file
  | _ :: _, some (.file old) => .file old
  | _ :: _, some (.unreadable cause) => .unreadable cause
  | name :: names, node =>
    let entries := entriesOf node
    .directory
      (putEntry name (putFile file names (entries.lookup name)) entries)

/-- Make the directory at the end of the names, and those on the way. What
is a file already stays one. -/
def putDirectory : List String → Option FileNode → FileNode
  | _, some (.file old) => .file old
  | _, some (.unreadable cause) => .unreadable cause
  | [], node => .directory (entriesOf node)
  | name :: names, node =>
    let entries := entriesOf node
    .directory
      (putEntry name (putDirectory names (entries.lookup name)) entries)

end FileNode

namespace FileTree

/-- The names that a component leads to, from the names before it. -/
def after (names : List String) : Path.Component → List String
  | .root => []
  | .here => names
  | .up => names.dropLast
  | .name name => names ++ [name]

/-- Nothing but a working directory. -/
def empty (workingDirectory : Path) : FileTree :=
  let names := workingDirectory.components.foldl after []
  { root := .putDirectory names none, workingDirectory := names }

/-- The tree with a directory wherever the components lead through, also
where they lead back from. -/
def withWay (tree : FileTree) (names : List String) :
    List Path.Component → FileTree
  | [] => tree
  | component :: components =>
    let names := after names component
    let root := FileNode.putDirectory names (some tree.root)
    withWay { tree with root } names components

/-- The tree with a directory at a path. -/
def withDirectory (tree : FileTree) (path : Path) : FileTree :=
  tree.withWay tree.workingDirectory path.components

/-- The tree with a file at a path, readable or not, and with the
directories that lead there. -/
def withNode (tree : FileTree) (path : Path) (file : FileNode) : FileTree :=
  let names := path.components.foldl after tree.workingDirectory
  let tree := tree.withWay tree.workingDirectory path.components.dropLast
  { tree with root := .putFile file names (some tree.root) }

/-- The tree with a file of this content at a path. -/
def withFile (tree : FileTree) (path : Path) (content : Bytes) : FileTree :=
  tree.withNode path (.file content)

-- ============================================================ following

/-- Follow the parts of a path. The directories above are kept, the
nearest first; above the root directory there is the root directory. -/
def follow : FileNode → List FileNode → List String → Option FileNode
  | node, _, [] => some node
  | .file _, _, _ :: _ => none
  | .unreadable _, _, _ :: _ => none
  | .directory entries, above, part :: parts =>
    if part = "" ∨ part = "." then
      follow (.directory entries) above parts
    else if part = ".." then
      match above with
      | [] => follow (.directory entries) [] parts
      | parent :: others => follow parent others parts
    else if 255 < (Bytes.ofText part).length then none
    else
      match entries.lookup part with
      | none => none
      | some node => follow node (.directory entries :: above) parts

/-- The longest path that can be followed, in bytes. -/
def pathLimit : Nat := 4095

/-- What a path leads to. -/
def find? (tree : FileTree) (path : Path) : Option FileNode :=
  if path.text = "" ∨ '\x00' ∈ path.text.toList
      ∨ pathLimit < (Bytes.ofText path.text).length then none
  else if path.isAbsolute then follow tree.root [] path.parts
  else follow tree.root [] (tree.workingDirectory ++ path.parts)

/-- Whether there is anything at a path. -/
def contains (tree : FileTree) (path : Path) : Bool :=
  (tree.find? path).isSome

/-- The text of a file. -/
def readText (tree : FileTree) (path : Path) : Except IoError String :=
  match tree.find? path with
  | none => .error .notFound
  | some (.directory _) => .error .isDirectory
  | some (.unreadable cause) => .error cause
  | some (.file content) =>
    match Bytes.toText? content with
    | some text => .ok text
    | none => .error .invalidText

end FileTree

end ScreenUnlock
