/-
A conversation at a slot, watched from outside.

At most one request is under way. While it waits for its line no other
request is made. The messages of each step are shown as long as somebody
listens; once nobody does, they are dropped and nothing else changes.
-/
import ScreenUnlock.Auth.Exchange

namespace ScreenUnlock

/-- A conversation with its slot. -/
structure Dialogue where
  slot : Slot := {}
  -- The request that waits for its line.
  waiting : Option Exchange := none
  -- Whether anybody receives its messages.
  listening : Bool := true
  deriving DecidableEq, Repr

namespace Dialogue

/-- What can be done from outside. -/
inductive Op where
  | converse (style : Style) (text : String)
  | publish (secret : Secret)
  | cancel (reason : CancelReason)
  | clear
  | closeEvents
  deriving DecidableEq, Repr

/-- What came of it. -/
inductive Result where
  | replied (reply : Option Secret)
  | blocked
  -- It was not done, because its caller would have to wait.
  | wouldBlock
  | flag (value : Bool)
  | done
  deriving DecidableEq, Repr

/-- The messages that somebody receives. -/
def heard (dialogue : Dialogue) (messages : List Message) : List Message :=
  if dialogue.listening then messages else []

/-- Let the waiting request go on: its reply if it has one now, the
dialogue, and the messages. -/
def resume (dialogue : Dialogue) :
    Option (Option Secret) × Dialogue × List Message :=
  match dialogue.waiting with
  | none => (none, dialogue, [])
  | some exchange =>
    match exchange.advance dialogue.slot with
    | (.over reply, slot', messages) =>
      (some reply, { dialogue with slot := slot', waiting := none }, messages)
    | (exchange', slot', messages) =>
      (none, { dialogue with slot := slot', waiting := some exchange' },
        messages)

/-- Begin a request and let it go on as far as it can. -/
def begin (dialogue : Dialogue) (style : Style) (text : String) :
    Result × Dialogue × List Message :=
  match { dialogue with waiting := some (.opening style text) }.resume with
  | (some reply, dialogue', messages) => (.replied reply, dialogue', messages)
  | (none, dialogue', messages) => (.blocked, dialogue', messages)

/-- What one operation leads to. -/
structure Turn where
  result : Result
  -- The reply of the request that waited, if it has one now.
  woken : Option (Option Secret)
  heard : List Message
  dialogue : Dialogue
  deriving DecidableEq, Repr

/-- The turn of an operation that changed the slot: the waiting request
goes on with it. -/
def withSlot (dialogue : Dialogue) (result : Result) (slot : Slot) : Turn :=
  let (woken, dialogue', messages) := { dialogue with slot }.resume
  ⟨result, woken, dialogue.heard messages, dialogue'⟩

/-- Do one thing. -/
def perform (dialogue : Dialogue) : Op → Turn
  | .converse style text =>
    match dialogue.waiting with
    | some _ => ⟨.wouldBlock, none, [], dialogue⟩
    | none =>
      let (result, dialogue', messages) := dialogue.begin style text
      ⟨result, none, dialogue.heard messages, dialogue'⟩
  | .publish secret =>
    match dialogue.slot.publish? secret with
    | none => ⟨.wouldBlock, none, [], dialogue⟩
    | some (done, slot') => dialogue.withSlot (.flag done) slot'
  | .cancel reason =>
    let (first, slot') := dialogue.slot.cancel reason
    dialogue.withSlot (.flag first) slot'
  | .clear =>
    let (dropped, slot') := dialogue.slot.clear
    dialogue.withSlot (.flag dropped) slot'
  | .closeEvents =>
    ⟨.done, none, [], { dialogue with listening := false }⟩

/-- End the dialogue: a request that still waits is let go by
cancelling. Its reply, if there is one. -/
def dismiss (dialogue : Dialogue) : Option (Option Secret) :=
  match dialogue.waiting with
  | none => none
  | some _ => (dialogue.perform (.cancel .shutdown)).woken

end Dialogue

end ScreenUnlock
