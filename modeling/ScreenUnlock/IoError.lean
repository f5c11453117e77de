/-
Failures of reading and writing that the helper can report.

The cause is a constructor; the wording is in `IoError.message` alone,
and every error that wraps such a cause puts its own words in front.
-/
namespace ScreenUnlock

/-- Why a read, write or flush failed. -/
inductive IoError where
  | brokenPipe
  | interrupted
  | wouldBlock
  | permissionDenied
  -- The sink took no byte of a buffer that was not empty.
  | nothingWritten
  | noSpace
  | invalidText
  | isDirectory
  | notFound
  deriving DecidableEq, Repr

/-- The wording of the failure. -/
def IoError.message : IoError → String
  | brokenPipe => "broken pipe"
  | interrupted => "operation interrupted"
  | wouldBlock => "operation would block"
  | permissionDenied => "permission denied"
  | nothingWritten => "failed to write whole buffer"
  | noSpace => "No space left on device (os error 28)"
  | invalidText => "stream did not contain valid UTF-8"
  | isDirectory => "Is a directory (os error 21)"
  | notFound => "No such file or directory (os error 2)"

end ScreenUnlock
