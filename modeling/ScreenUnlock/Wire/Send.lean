/-
Sending messages, one flushed line at a time.

The line is complete before the first byte is offered, so the screen
locker never sees a message that was begun before it was known. A line
counts as sent once it was accepted whole and the one flush after it
succeeded; a failed flush is not repeated.
-/
import ScreenUnlock.Wire.Message
import ScreenUnlock.Wire.Sink

namespace ScreenUnlock

/-- Write one message as a line and flush it. -/
def Sink.send (sink : Sink) (message : Message) : Except IoError Unit × Sink :=
  match sink.writeAll message.lineBytes with
  | (.error cause, sink') => (.error cause, sink')
  | (.ok (), sink') => sink'.flush

/-- What the screen locker is told when locking cannot be enforced: it
shall dismiss its dialog, as after a success. -/
def Sink.reportUnavailable (sink : Sink) : Except IoError Unit × Sink :=
  sink.send .success

/-- The wording of a failed send. -/
def sendFailure (cause : IoError) : String :=
  "I/O error: " ++ cause.message

end ScreenUnlock
