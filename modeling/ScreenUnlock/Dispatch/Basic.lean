/-
The dispatch loop with everything that runs beside it.

# The system

Three kinds of threads share a session. The reader hands input lines
over through the slot. Each attempt is a call of the backend; what it
has to say goes through a channel. The dispatch loop starts the
attempts, one after the other, and is the only one that writes.

The loop looks at the cancellation flag, starts an attempt, and attends
to it: it forwards what the channel brings, notices when the reader is
over, and from then on waits for the attempt only until a deadline. It
then writes what is left in the channel and records the verdict. When
the session has its outcome the loop writes the terminal line, cancels
the session, waits for the reader as long as the grace period lasts, and
drops a line that nobody took. A write that fails ends the loop at once;
what follows is the same. If the grace period is so long that no clock
can show the deadline, the loop breaks down on setting it, and nothing
follows.

# Interleavings

`apply` is one step of one thread. Which thread is next, what the input
brings and how time goes by is in the action, so `Run` speaks of every
order of steps, every input and every timing. A step touches at most one
thing that the threads share, and writing touches nothing that they
share, so nothing that could happen in between is left out.

`Run` also keeps the history: the events of the steps, oldest first.
-/
import ScreenUnlock.Config.Basic
import ScreenUnlock.Dispatch.Attempt
import ScreenUnlock.Input.Reader
import ScreenUnlock.Wire.Send

namespace ScreenUnlock.Dispatch

-- ============================================================= the state

/-- What stays the same during a run. -/
structure Setup where
  authenticator : Authenticator
  maxLineLen : Nat
  -- How long to wait for work that is left, in milliseconds.
  grace : Nat

/-- The setup that a configuration asks for. -/
def Setup.ofConfig (authenticator : Authenticator) (config : Config) :
    Setup :=
  { authenticator
    maxLineLen := config.maxLineLen.toNat
    grace := config.graceSecs.toNat * 1000 }

/-- How a run ends. -/
abbrev Ending := Except IoError Outcome

/-- Where the dispatch loop stands. -/
inductive Phase where
  | deciding
  | launching
  | attending
  -- The attempt is over or given up; its last lines are written.
  | settling (verdict : Verdict)
  | stopping (ending : Ending)
  -- Waiting for the reader, until the clock shows `limit`.
  | awaiting (ending : Ending) (limit : Nat)
  | sweeping (ending : Ending)
  | returned (ending : Ending)
  -- Broken down: no clock can show the moment that the loop would have to
  -- wait for.
  | crashed

/-- The first moment, in milliseconds, that no clock can show: the seconds
of a moment have 63 bits. -/
def clockLimit : Nat := Nat.pow 2 63 * 1000

/-- The whole system. -/
structure State where
  session : Session
  reader : Reader
  -- The attempts that were started, newest first. All but the newest are
  -- over or were given up.
  attempts : List Attempt
  started : Nat
  -- What the attempts have said and the loop has not written yet.
  channel : List Message
  phase : Phase
  -- When an attempt is given up, once the reader is known to be over.
  deadline : Option Nat
  -- The time, in milliseconds.
  clock : Nat
  sink : Sink

/-- The system at its start. -/
def State.start (setup : Setup) (session : Session) (sink : Sink) : State :=
  { session
    reader := .new setup.maxLineLen
    attempts := []
    started := 0
    channel := []
    phase := .deciding
    deadline := none
    clock := 0
    sink }

-- ======================================================= what can happen

/-- A step of the dispatch loop. -/
inductive Move where
  | check
  | launch
  -- Write what the channel brings next, while the attempt runs.
  | forward
  | join
  -- Learn that the reader is over. The deadline that this sets must be a
  -- moment that a clock can show.
  | notice
  | abandon
  -- Write what is left in the channel.
  | drain
  | settle
  | stop
  -- Learn that the reader is over, at the end.
  | reap
  | giveUp
  | sweep
  deriving DecidableEq, Repr

/-- One step of the system. -/
inductive Action where
  | reader (action : Reader.Action)
  | attempt (number : Nat)
  | move (move : Move)
  | elapse (milliseconds : Nat)
  deriving DecidableEq, Repr

/-- What can be seen of a run. -/
inductive Event where
  | reader (effect : Reader.Effect)
  | attempt (number : Nat) (effect : Attempt.Effect)
  | started (number : Nat)
  | abandoned
  -- A message was written and flushed.
  | sent (message : Message)
  | unsent (message : Message) (cause : IoError)
  | recorded (verdict : Verdict) (step : Step)
  -- The loop cancelled the session, for the first time.
  | cancelled (reason : CancelReason)
  | swept (line : Secret)
  deriving DecidableEq, Repr

-- ========================================================== the channel

namespace State

/-- Whether the loop still listens to the channel. -/
def listens (state : State) : Bool :=
  match state.phase with
  | .deciding | .launching | .attending | .settling _ => true
  | _ => false

/-- An attempt says something. Nobody hears it once the loop has
stopped listening. -/
def say (state : State) (message : Message) : State :=
  if state.listens then { state with channel := state.channel ++ [message] }
  else state

/-- The slot of the session is now `slot`. -/
def withSlot (state : State) (slot : Slot) : State :=
  { state with session := { state.session with slot } }

/-- Where the attempt with this number stands among the attempts. They
are numbered from 0 in the order they were started. -/
def placeOf (state : State) (number : Nat) : Nat :=
  state.started - 1 - number

/-- The attempt with this number. -/
def attempt? (state : State) (number : Nat) : Option Attempt :=
  if number < state.started then
    state.attempts[state.placeOf number]?
  else none

/-- The replies of all attempts, oldest first. -/
def transcripts (state : State) : List Transcript :=
  state.attempts.reverse.map Attempt.replies

/-- The calls so far, as the next one gets to know them. -/
def precedents (state : State) : Precedents :=
  { count := state.started
    transcript := fun number =>
      ((state.attempt? number).map Attempt.replies).getD [] }

end State

-- ============================================================== writing

/-- A state and what could be seen on the way to it. -/
abbrev Result := State × List Event

/-- Write a message and go on in the phase `next`; a failure ends the
loop. -/
def State.write (state : State) (message : Message) (next : Phase) : Result :=
  match state.sink.send message with
  | (.ok (), sink) => ({ state with sink, phase := next }, [.sent message])
  | (.error cause, sink) =>
    ({ state with sink, phase := .stopping (.error cause) },
      [.unsent message cause])

/-- Report the outcome: the last line of the session. -/
def State.conclude (state : State) (outcome : Outcome) : Result :=
  state.write outcome.message (.stopping (.ok outcome))

-- ================================================================ steps

/-- A step of the dispatch loop, if it is possible now. -/
def State.move? (setup : Setup) (state : State) : Move → Option Result
  | .check =>
    match state.phase with
    | .deciding =>
      match state.session.observe with
      | (some outcome, session) =>
        some ({ state with session }.conclude outcome)
      | (none, session) =>
        some ({ state with session, phase := .launching }, [])
    | _ => none
  | .launch =>
    match state.phase with
    | .launching =>
      let call :=
        setup.authenticator.verify state.session.context state.precedents
      some ({ state with
          attempts := .new call :: state.attempts
          started := state.started + 1
          phase := .attending },
        [.started state.started])
    | _ => none
  | .forward =>
    match state.phase, state.channel with
    | .attending, message :: channel =>
      some ({ state with channel }.write message .attending)
    | _, _ => none
  | .join =>
    match state.phase, state.attempts.head?.bind Attempt.verdict? with
    | .attending, some verdict =>
      some ({ state with phase := .settling verdict }, [])
    | _, _ => none
  | .notice =>
    match state.phase, state.deadline with
    | .attending, none =>
      if state.reader.isOver then
        let limit := state.clock + setup.grace
        if limit < clockLimit then
          some ({ state with deadline := some limit }, [])
        else some ({ state with phase := .crashed }, [])
      else none
    | _, _ => none
  | .abandon =>
    match state.phase, state.deadline with
    | .attending, some limit =>
      if limit ≤ state.clock then
        some ({ state with phase := .settling (.rejected .aborted) },
          [.abandoned])
      else none
    | _, _ => none
  | .drain =>
    match state.phase, state.channel with
    | .settling verdict, message :: channel =>
      some ({ state with channel }.write message (.settling verdict))
    | _, _ => none
  | .settle =>
    match state.phase, state.channel with
    | .settling verdict, [] =>
      let (step, session) := state.session.record verdict
      let (state', events) := match step with
        | .retry => { state with session }.write .failure .deciding
        | .finish outcome => { state with session }.conclude outcome
      some (state', .recorded verdict step :: events)
    | _, _ => none
  | .stop =>
    match state.phase with
    | .stopping ending =>
      let (first, slot) := state.session.slot.cancel .shutdown
      some ({ state.withSlot slot with
          phase := .awaiting ending (state.clock + setup.grace) },
        if first then [.cancelled .shutdown] else [])
    | _ => none
  | .reap =>
    match state.phase with
    | .awaiting ending _ =>
      if state.reader.isOver then
        some ({ state with phase := .sweeping ending }, [])
      else none
    | _ => none
  | .giveUp =>
    match state.phase with
    | .awaiting ending limit =>
      if limit ≤ state.clock then
        some ({ state with phase := .sweeping ending }, [])
      else none
    | _ => none
  | .sweep =>
    match state.phase with
    | .sweeping ending =>
      let slot := state.session.slot
      some ({ state.withSlot slot.clear.2 with phase := .returned ending },
        (slot.pending.map Event.swept).toList)
    | _ => none

/-- A step of the reader, if it is possible now. -/
def State.readerStep? (state : State) (action : Reader.Action) :
    Option Result :=
  (Reader.apply action state.reader state.session.slot).map fun next =>
    ({ state.withSlot next.slot with reader := next.reader },
      (next.effect.map Event.reader).toList)

/-- The message an attempt says with a step, if it says one. -/
def Attempt.Effect.said? : Attempt.Effect → Option Message
  | .conversed effect => effect.message?
  | .replied _ => none

/-- A step of an attempt, if it is possible now. -/
def State.attemptStep? (state : State) (number : Nat) : Option Result :=
  match state.attempt? number with
  | none => none
  | some attempt =>
    (attempt.step? state.clock state.session.slot).map fun next =>
      let state' := { state.withSlot next.slot with
        attempts :=
          state.attempts.set (state.placeOf number) next.attempt }
      let state'' := match next.effect.bind Attempt.Effect.said? with
        | some message => state'.say message
        | none => state'
      (state'', (next.effect.map (Event.attempt number)).toList)

/-- One step of the system, if it is possible now: where it leads, and
what can be seen of it. -/
def apply (setup : Setup) (action : Action) (state : State) : Option Result :=
  match action with
  | .reader action => state.readerStep? action
  | .attempt number => state.attemptStep? number
  | .move move => state.move? setup move
  | .elapse milliseconds =>
    some ({ state with clock := state.clock + milliseconds }, [])

/-- The runs of the system: from a start, any order of possible steps.
The list holds the events so far, oldest first. -/
inductive Run (setup : Setup) (start : State) :
    List Event → State → Prop where
  | init : Run setup start [] start
  | step {history events : List Event} {state state' : State}
      (action : Action) :
      Run setup start history state →
      apply setup action state = some (state', events) →
      Run setup start (history ++ events) state'

end ScreenUnlock.Dispatch
