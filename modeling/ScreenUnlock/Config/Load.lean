/-
Which file configures the helper.

A privileged helper trusts nothing but the system file. Otherwise a path
that was asked for wins, then the user's own file if it exists, then the
system file. Without a file at the chosen path the defaults apply; a file
that is there and is not in order is an error, never a reason to look
elsewhere.
-/
import ScreenUnlock.Config.Document
import ScreenUnlock.FileTree

namespace ScreenUnlock

/-- What the environment says about the user's files. -/
structure UserDirs where
  home : Option String
  configHome : Option String
  -- The home directory by the user database, for want of another.
  databaseHome : Option String
  deriving DecidableEq, Repr

namespace UserDirs

/-- The home directory; an empty name is none. -/
def homeDirectory? (dirs : UserDirs) : Option Path :=
  match dirs.home.filter (· ≠ "") with
  | some home => some ⟨home⟩
  | none => dirs.databaseHome.map Path.mk

/-- The directory of configuration files. One from the environment counts
only if it is absolute. -/
def configDirectory? (dirs : UserDirs) : Option Path :=
  match (dirs.configHome.map Path.mk).filter Path.isAbsolute with
  | some path => some path
  | none => dirs.homeDirectory?.map (·.join ".config")

end UserDirs

namespace Config

/-- The system file. -/
def systemPath : Path := ⟨"/etc/lock-auth/helper.toml"⟩

/-- The user's own file. -/
def userPath? (dirs : UserDirs) : Option Path :=
  dirs.configDirectory?.map fun path =>
    (path.join "lock-auth").join "helper.toml"

/-- The path of the file to load. -/
def resolvePath (tree : FileTree) (dirs : UserDirs) (explicit : Option Path)
    (privileged : Bool) : Path :=
  if privileged then systemPath
  else
    match explicit with
    | some path => path
    | none =>
      match userPath? dirs with
      | some path => if tree.contains path then path else systemPath
      | none => systemPath

/-- The configuration in the file at a path. -/
def loadFrom (tree : FileTree) (path : Path)
    (reader : Toml.Reader := Toml.parse?) : Except ConfigError Config :=
  match tree.readText path with
  | .error cause => .error (.unreadable cause)
  | .ok text => ofText text reader

/-- The configuration in the file at a path, or the default if nothing
is there. -/
def loadIfPresent (tree : FileTree) (path : Path)
    (reader : Toml.Reader := Toml.parse?) : Except ConfigError Config :=
  if tree.contains path then loadFrom tree path reader else .ok default

/-- The configuration of this process. -/
def load (tree : FileTree) (dirs : UserDirs) (explicit : Option Path)
    (privileged : Bool) (reader : Toml.Reader := Toml.parse?) :
    Except ConfigError Config :=
  loadIfPresent tree (resolvePath tree dirs explicit privileged) reader

end Config

end ScreenUnlock
