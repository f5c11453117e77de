/-
The slot: where one line from the screen locker changes hands.

The reader of the input puts a line into the slot and waits until it is
taken; the conversation takes it out, or learns that the session is
cancelled. The slot holds at most one line. Cancellation is permanent,
its first reason is kept, and it wins over a line that is still there.

Each operation here is one critical section: it runs as a whole or, where
the result is `none`, it cannot run yet and its caller waits. Who waits
and who is woken is the business of `Slot.Room`.
-/
import ScreenUnlock.Wire.Request

namespace ScreenUnlock

-- ============================================================ the secret

/-- A captured input line. -/
structure Secret where
  -- The line, without its newline.
  bytes : Bytes
  deriving DecidableEq, Repr

namespace Secret

/-- Move a buffer into a secret; the second part is what the buffer
holds afterwards, which is nothing but zeros. -/
def ofBuffer (buffer : Bytes) : Secret × Bytes :=
  (⟨buffer⟩, Bytes.zeros buffer.length)

/-- The secret with the bytes of a text. -/
def ofText (text : String) : Secret :=
  ⟨Bytes.ofText text⟩

/-- What the line asks for. -/
def request (secret : Secret) : Request :=
  Request.ofLine secret.bytes

/-- The length of the line in bytes. -/
def length (secret : Secret) : Nat :=
  secret.bytes.length

/-- Whether the line is empty. -/
def isEmpty (secret : Secret) : Bool :=
  secret.bytes.isEmpty

/-- What a log may show of a secret: never its bytes. -/
def description (_ : Secret) : String :=
  "PendingSecret \x7b bytes: \"[REDACTED]\" \x7d"

end Secret

-- ====================================================== the cancellation

/-- Why a session was cancelled. -/
inductive CancelReason where
  | exitRequested
  | inputClosed
  | shutdown
  deriving DecidableEq, Repr

namespace CancelReason

/-- The reason as it appears in an outcome. -/
def name : CancelReason → String
  | exitRequested => "exit_requested"
  | inputClosed => "input_closed"
  | shutdown => "shutdown"

/-- The reason as it appears in a slot's description. -/
def tag : CancelReason → String
  | exitRequested => "ExitRequested"
  | inputClosed => "InputClosed"
  | shutdown => "Shutdown"

end CancelReason

/-- What a taker gets. -/
inductive Handoff where
  -- The line; it is the taker's now.
  | secret (secret : Secret)
  | cancelled (reason : CancelReason)
  deriving DecidableEq, Repr

-- ============================================================== the slot

/-- Room for one line, and the cancellation flag. -/
structure Slot where
  -- The line that nobody has taken yet.
  pending : Option Secret := none
  -- Why the session was cancelled, once it is.
  cancelled : Option CancelReason := none
  deriving DecidableEq, Repr

namespace Slot

/-- A new slot: empty, not cancelled. -/
def empty : Slot := {}

/-- Put a line in. A full slot makes the caller wait; a cancelled one
refuses, and the line is dropped. -/
def publish? (slot : Slot) (secret : Secret) : Option (Bool × Slot) :=
  match slot.cancelled, slot.pending with
  | some _, _ => some (false, slot)
  | none, some _ => none
  | none, none => some (true, { slot with pending := some secret })

/-- Take the line out. Cancellation comes before a line; an empty slot
makes the caller wait. -/
def take? (slot : Slot) : Option (Handoff × Slot) :=
  match slot.cancelled, slot.pending with
  | some reason, _ => some (.cancelled reason, slot)
  | none, some secret => some (.secret secret, { slot with pending := none })
  | none, none => none

/-- Wait for the line to be taken: whether it was, and not cancelled. -/
def consumed? (slot : Slot) : Option Bool :=
  match slot.cancelled, slot.pending with
  | some _, _ => some false
  | none, some _ => none
  | none, none => some true

/-- Cancel: whether this call was the first to do so. A later reason
does not replace the first. -/
def cancel (slot : Slot) (reason : CancelReason) : Bool × Slot :=
  match slot.cancelled with
  | some _ => (false, slot)
  | none => (true, { slot with cancelled := some reason })

/-- Drop the line that nobody has taken: whether there was one. -/
def clear (slot : Slot) : Bool × Slot :=
  (slot.pending.isSome, { slot with pending := none })

/-- What a log may show of the slot. -/
def description (slot : Slot) : String :=
  "SecretSlot \x7b pending: "
    ++ (if slot.pending.isSome then "true" else "false")
    ++ ", cancelled: "
    ++ (match slot.cancelled with
        | none => "None"
        | some reason => "Some(" ++ reason.tag ++ ")")
    ++ " \x7d"

end Slot

end ScreenUnlock
