/-
The lines the screen locker sends to the helper.

There is a single control word, the exit marker. A line that holds it
anywhere asks the helper to cancel; every other line, however much it
looks like the protocol, is a secret.
-/
import ScreenUnlock.Bytes

namespace ScreenUnlock

/-- What a line from the screen locker means. -/
inductive Request where
  | exit
  | secret
  deriving DecidableEq, Repr

namespace Request

/-- The word that asks the helper to exit. -/
def exitMarker : Bytes :=
  Bytes.ofText "CS_PAM_AUTH_REQUEST_SUBPROCESS_EXIT"

/-- What the line means. -/
def ofLine (line : Bytes) : Request :=
  if Bytes.contains exitMarker line then exit else secret

end Request

end ScreenUnlock
