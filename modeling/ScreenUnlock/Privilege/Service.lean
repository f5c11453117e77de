/-
Where the authentication stack knows the service from.

A file with the name of the service counts first; without it, the single
file of older systems.
-/
import ScreenUnlock.Config.Basic
import ScreenUnlock.FileTree

namespace ScreenUnlock

/-- Where a service is defined. -/
inductive Registration where
  | service (path : Path)
  -- At best in the single file of older systems.
  | legacy (path : Path)
  | missing
  deriving DecidableEq, Repr

/-- Look where the configured service is defined. -/
def Registration.find (tree : FileTree) (config : Config) : Registration :=
  let own := config.configDir.join config.service
  if tree.contains own then .service own
  else if tree.contains config.configFile then .legacy config.configFile
  else .missing

end ScreenUnlock
