/-
A screen locker that follows a script.

It watches what it receives. Each time it receives exactly the line that
says the helper is ready for an answer, it counts a prompt. While it has
sent fewer newlines than it has counted prompts, it sends the next of its
answers, or closes the stream if none is left. An answer need not be one
line: one without a newline is followed by the next at once, and one with
several newlines serves several prompts.
-/
import ScreenUnlock.Wire.Message

namespace ScreenUnlock

/-- A scripted screen locker. -/
structure Caller where
  answers : List Bytes
  prompts : Nat
  newlines : Nat
  -- What it has sent and nobody has read.
  stream : Bytes
  closed : Bool
  deriving DecidableEq, Repr

namespace Caller

/-- A screen locker that has sent nothing. Lines that were handed over
before it came count as sent. -/
def new (answers : List Bytes) (linesBefore : Nat) : Caller :=
  { answers, prompts := 0, newlines := linesBefore, stream := [],
    closed := false }

/-- Send answers until each prompt has its newline, then stop; or close
the stream when they have run out. -/
def answerFrom (caller : Caller) : List Bytes → Caller
  | [] =>
    if caller.newlines < caller.prompts then
      { caller with answers := [], closed := true }
    else { caller with answers := [] }
  | answer :: answers =>
    if caller.newlines < caller.prompts then
      { caller with
        newlines := caller.newlines + answer.count Bytes.newline
        stream := caller.stream ++ answer }.answerFrom answers
    else { caller with answers := answer :: answers }

/-- Receive what was flushed at once. -/
def receive (caller : Caller) (received : Bytes) : Caller :=
  if received = Message.lineBytes (.busy false) ∧ caller.closed = false then
    { caller with prompts := caller.prompts + 1 }.answerFrom caller.answers
  else caller

/-- The most that one read can take from the stream. -/
def nextRead (caller : Caller) (most : Nat) : Bytes :=
  caller.stream.take most

/-- What is left after such a read. -/
def afterRead (caller : Caller) (most : Nat) : Caller :=
  { caller with stream := caller.stream.drop most }

end Caller

end ScreenUnlock
