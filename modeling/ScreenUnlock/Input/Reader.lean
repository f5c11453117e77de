/-
The reader: the thread that owns the input.

It turns the input into lines and hands them over one by one. A line is
put into the slot, and nothing more is read until that line has been
taken, so the end of the input cannot overtake a line that came before
it. Between two waits for input the reader looks at the cancellation
flag. When the input ends or fails, or the session is cancelled, the
reader scrubs its buffer, cancels the session itself, drops a line that
nobody took, and is done.

Each step that touches the slot touches it once. What the system answers
to the reader's waiting and reading comes from outside, as part of the
action, so a statement about all actions is one about every input and
every way in which it arrives.
-/
import ScreenUnlock.Input.LineBuffer

namespace ScreenUnlock

/-- What waiting for input can come to. -/
inductive Readiness where
  -- There is something to read, or the input has ended.
  | ready
  | idle
  | signal
  | failed
  deriving DecidableEq, Repr

/-- What a read can come to. -/
inductive Arrival where
  | bytes (data : Bytes)
  | endOfInput
  | interrupted
  | wouldBlock
  | failed
  -- The read brought the reader's thread down.
  | crashed
  deriving DecidableEq, Repr

/-- Where the reader stands. -/
inductive Reader.Phase where
  | looking
  | offering (line : Secret)
  -- Waiting for that line to be taken.
  | awaiting
  | polling
  | reading
  -- Done with the input; about to cancel the session.
  | leaving
  | sweeping
  | finished
  -- Broken down, without any of the last steps.
  | crashed
  deriving DecidableEq, Repr

/-- The thread that owns the input. -/
structure Reader where
  phase : Reader.Phase
  buffer : LineBuffer

namespace Reader

/-- A reader that has read nothing. One whose buffer is more than memory
can be asked for breaks down at once. -/
def new (maxLineLen : Nat) : Reader :=
  match LineBuffer.new? maxLineLen with
  | some buffer => { phase := .looking, buffer }
  | none => { phase := .crashed, buffer := .new 0 }

/-- Whether the thread has come to its end, one way or the other. -/
def isOver (reader : Reader) : Bool :=
  match reader.phase with
  | .finished => true
  | .crashed => true
  | _ => false

/-- What the reader does, with what the system answers. -/
inductive Action where
  -- A step that needs nothing from the system.
  | step
  | poll (readiness : Readiness)
  | read (arrival : Arrival)
  deriving DecidableEq, Repr

/-- What others can see of a step. -/
inductive Effect where
  | received (data : Bytes)
  | published (line : Secret)
  -- A line was dropped, because the session is cancelled.
  | refused (line : Secret)
  | cancelled (reason : CancelReason)
  | swept (line : Secret)
  deriving DecidableEq, Repr

/-- What a step leads to. -/
structure Next where
  reader : Reader
  slot : Slot
  effect : Option Effect := none

/-- The reader at another place. -/
def goto (reader : Reader) (phase : Phase) : Reader :=
  { reader with phase }

/-- The next step, for the places that need nothing from the system;
`none` while the reader waits for the slot. -/
def step? (reader : Reader) (slot : Slot) : Option Next :=
  match reader.phase with
  | .looking =>
    match slot.cancelled with
    | some _ => some ⟨reader.goto .leaving, slot, none⟩
    | none =>
      match reader.buffer.nextLine? with
      | some (line, buffer) =>
        some ⟨{ phase := .offering line, buffer }, slot, none⟩
      | none => some ⟨reader.goto .polling, slot, none⟩
  | .offering line =>
    match slot.publish? line with
    | none => none
    | some (true, slot') =>
      some ⟨reader.goto .awaiting, slot', some (.published line)⟩
    | some (false, slot') =>
      some ⟨reader.goto .leaving, slot', some (.refused line)⟩
  | .awaiting =>
    match slot.consumed? with
    | none => none
    | some true => some ⟨reader.goto .looking, slot, none⟩
    | some false => some ⟨reader.goto .leaving, slot, none⟩
  | .leaving =>
    let (first, slot') := slot.cancel .inputClosed
    some ⟨{ phase := .sweeping, buffer := reader.buffer.clear }, slot',
      if first then some (.cancelled .inputClosed) else none⟩
  | .sweeping =>
    some ⟨reader.goto .finished, slot.clear.2, slot.pending.map .swept⟩
  | _ => none

/-- Where the reader goes after waiting for input. -/
def afterPoll : Readiness → Phase
  | .ready => .reading
  | .idle => .looking
  | .signal => .looking
  | .failed => .leaving

/-- The reader after a read; `none` if no read can come to this. -/
def afterRead? (reader : Reader) : Arrival → Option Reader
  | .bytes data =>
    if 0 < data.length ∧ data.length ≤ readChunk then
      some { phase := .looking, buffer := reader.buffer.push data }
    else none
  | .endOfInput => some (reader.goto .leaving)
  | .interrupted => some (reader.goto .looking)
  | .wouldBlock => some (reader.goto .looking)
  | .failed => some (reader.goto .leaving)
  | .crashed => some (reader.goto .crashed)

/-- What is seen of a read. -/
def Arrival.effect : Arrival → Option Effect
  | .bytes data => some (.received data)
  | _ => none

/-- The reader and the slot after an action, if the action is possible. -/
def apply (action : Action) (reader : Reader) (slot : Slot) : Option Next :=
  match action, reader.phase with
  | .step, _ => reader.step? slot
  | .poll readiness, .polling =>
    some ⟨reader.goto (afterPoll readiness), slot, none⟩
  | .read arrival, .reading =>
    (reader.afterRead? arrival).map fun reader' =>
      ⟨reader', slot, Arrival.effect arrival⟩
  | _, _ => none

end Reader

end ScreenUnlock
