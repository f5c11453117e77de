/-
A whole run against a scripted screen locker.

Of all orders of steps a rehearsal takes one: attempts go first, then
the reader, then the dispatch loop, each as far as it can; time goes by
only when nothing else is possible, and then only up to the next moment
at which something is. Every step is one of `Dispatch.apply`.

Taking a line is one step, and what the attempt does next shows whether
the exit marker is in the line. To look for it takes time, the more the
longer the line is; all others go on meanwhile.

When the loop has returned, an attempt that is still under way is waited
for once more, as long as the grace period lasts.

The screen locker receives a message when it is sent, and what it sends
is what the reader reads.
-/
import ScreenUnlock.Dispatch.Basic
import ScreenUnlock.Dispatch.Caller

namespace ScreenUnlock.Dispatch

/-- A run with its screen locker. -/
structure Scene where
  state : State
  caller : Caller
  -- How many attempts, counted from the newest, need to be looked at;
  -- all older ones are over.
  recent : Nat
  -- The attempts that are looking through a line, and until when.
  searches : List (Nat × Nat) := []

namespace Scene

-- ===================================================== choosing a step

/-- The attempts that need to be looked at, oldest first. -/
def recentAttempts (scene : Scene) : List Attempt :=
  (scene.state.attempts.take scene.recent).reverse

/-- The attempts that can go on, oldest first. -/
def ready (scene : Scene) : List Nat :=
  let state := scene.state
  let attempts := scene.recentAttempts
  attempts.zipIdx.filterMap fun (attempt, place) =>
    if (attempt.step? state.clock state.session.slot).isSome then
      some (state.started - attempts.length + place)
    else none

/-- Whether an attempt is looking through a line. -/
def isSearching (scene : Scene) (number : Nat) : Bool :=
  scene.searches.any fun (searcher, limit) =>
    searcher = number ∧ scene.state.clock < limit

/-- The first attempt that can go on and is not busy with a line. -/
def attemptAction? (scene : Scene) : Option Action :=
  (scene.ready.find? fun number => !scene.isSearching number).map .attempt

/-- What the reader does next, if it can go on. An open stream that
brings nothing lets a wait end only when there is a cancellation to
find. -/
def readerAction? (scene : Scene) : Option Action :=
  let action : Option Reader.Action :=
    match scene.state.reader.phase with
    | .polling =>
      if scene.caller.stream ≠ [] ∨ scene.caller.closed then
        some (.poll .ready)
      else if scene.state.session.slot.cancelled.isSome then
        some (.poll .idle)
      else none
    | .reading =>
      if scene.caller.stream ≠ [] then
        some (.read (.bytes (scene.caller.nextRead readChunk)))
      else some (.read .endOfInput)
    | _ => some .step
  match action with
  | none => none
  | some action =>
    if (scene.state.readerStep? action).isSome then some (.reader action)
    else none

/-- The steps of the dispatch loop, the preferred ones first. -/
def preference : List Move :=
  [.forward, .join, .notice, .abandon, .drain, .settle, .check, .launch,
    .stop, .reap, .giveUp, .sweep]

/-- The preferred step of the dispatch loop among those that are
possible. -/
def moveAction? (setup : Setup) (scene : Scene) : Option Action :=
  (preference.find? fun move =>
    (scene.state.move? setup move).isSome).map .move

/-- When the attempts that sleep wake, and those that look through a line
are through. -/
def wakes (scene : Scene) : List Nat :=
  scene.recentAttempts.filterMap Attempt.wake? ++ scene.searches.map (·.2)

/-- The moments that something waits for. -/
def moments (scene : Scene) : List Nat :=
  scene.wakes
    ++ (match scene.state.phase with
        | .attending => scene.state.deadline.toList
        | .awaiting _ limit => [limit]
        | _ => [])

/-- Let time go by until the next such moment. -/
def elapseAction? (scene : Scene) : Option Action :=
  ((scene.moments.filter (scene.state.clock < ·)).min?).map fun moment =>
    .elapse (moment - scene.state.clock)

/-- The step that a rehearsal takes next; `none` once the loop has
returned or broken down. -/
def next? (setup : Setup) (scene : Scene) : Option Action :=
  match scene.state.phase with
  | .returned _ => none
  | .crashed => none
  | _ =>
    scene.attemptAction?
      <|> scene.readerAction?
      <|> scene.moveAction? setup
      <|> scene.elapseAction?

/-- What goes on after the loop has returned, up to the moment `limit`. -/
def rest? (limit : Nat) (scene : Scene) : Option Action :=
  scene.attemptAction?
    <|> scene.readerAction?
    <|> ((scene.wakes.filter fun moment =>
          scene.state.clock < moment ∧ moment ≤ limit).min?).map fun moment =>
        .elapse (moment - scene.state.clock)

-- ======================================================= taking the step

/-- The screen locker after something has happened: what the reader read
is gone from its stream, and a message that was sent has arrived. -/
def callerAfter (caller : Caller) : Event → Caller
  | .reader (.received _) => caller.afterRead readChunk
  | .sent message => caller.receive message.lineBytes
  | _ => caller

/-- How many bytes of a line an attempt looks through in a millisecond. -/
def searchRate : Nat := 1048576

/-- The searches that are under way after something has happened at
`clock`. -/
def searchesAfter (clock : Nat) (searches : List (Nat × Nat)) :
    Event → List (Nat × Nat)
  | .attempt number (.conversed (.take line)) =>
    (number, clock + line.length / searchRate) :: searches
  | _ => searches.filter fun (_, limit) => clock < limit

/-- The scene after a step. At most one attempt has been started, and the
oldest ones may be over by now. -/
def after (scene : Scene) (state : State) (events : List Event) : Scene :=
  let attempts := (state.attempts.take (scene.recent + 1)).reverse
  { state
    caller := events.foldl callerAfter scene.caller
    recent := (attempts.dropWhile Attempt.isOver).length
    searches := events.foldl (searchesAfter state.clock) scene.searches }

/-- Go on for as long as `choose` has a next step, in at most `fuel`
steps. -/
def play (setup : Setup) (choose : Scene → Option Action) :
    Nat → Scene → Scene
  | 0, scene => scene
  | fuel + 1, scene =>
    match choose scene with
    | none => scene
    | some action =>
      match apply setup action scene.state with
      | none => scene
      | some (state', events) =>
        play setup choose fuel (scene.after state' events)

/-- What the clock shows when a rehearsed run begins: a day. -/
def beginning : Nat := 24 * 60 * 60 * 1000

/-- Steps enough for every run that a script can ask for. -/
def patience : Nat := 10000000

end Scene

-- ============================================================ the report

/-- What a rehearsal shows. -/
structure Report where
  -- How the run ended; `none` if it broke down.
  ending : Option Ending
  output : Bytes
  transcripts : List Transcript
  session : Session

/-- Run a session against a screen locker with these answers. A line
that is in the slot already counts as the first answer. -/
def rehearse (setup : Setup) (session : Session) (sink : Sink)
    (answers : List Bytes) : Report :=
  let linesBefore := if session.slot.pending.isSome then 1 else 0
  let scene : Scene :=
    { state := { State.start setup session sink with clock := Scene.beginning }
      caller := .new answers linesBefore
      recent := 0 }
  let scene' := scene.play setup (Scene.next? setup) Scene.patience
  let limit := scene'.state.clock + setup.grace
  let scene'' := scene'.play setup (Scene.rest? limit) Scene.patience
  { ending := match scene'.state.phase with
      | .returned ending => some ending
      | _ => none
    output := scene''.state.sink.accepted
    transcripts := scene''.state.transcripts
    session := scene''.state.session }

end ScreenUnlock.Dispatch
