/-
A session: who is authenticated, how often it failed, how it ended.

The failure counter counts up to a ceiling that is at least 1 and never
goes back. `Session.record` is the retry policy: an accepted attempt
ends the session, a rejected one ends it when the session is cancelled
or the ceiling is reached, and otherwise asks for another attempt. The
first outcome stands; nothing that happens later changes it.
-/
import ScreenUnlock.Slot.Basic
import ScreenUnlock.Auth.Basic
import ScreenUnlock.Wire.Message

namespace ScreenUnlock

-- =========================================================== the counter

/-- Rejected attempts, counted up to a ceiling. -/
structure Counter where
  failures : UInt32
  ceiling : UInt32
  deriving DecidableEq, Repr

namespace Counter

/-- The ceiling that is used when none is asked for. -/
def defaultCeiling : UInt32 := 5

/-- A counter at 0. A ceiling of 0 counts as 1. -/
def new (ceiling : UInt32) : Counter :=
  { failures := 0, ceiling := max ceiling 1 }

/-- Count one more rejected attempt, unless the ceiling is reached. -/
def recordFailure (counter : Counter) : Counter :=
  if counter.failures < counter.ceiling then
    { counter with failures := counter.failures + 1 }
  else counter

/-- Whether the ceiling is reached. -/
def isExhausted (counter : Counter) : Bool :=
  decide (counter.ceiling ≤ counter.failures)

/-- Whether attempts remain. -/
def hasMore (counter : Counter) : Bool :=
  decide (counter.failures < counter.ceiling)

/-- Count a number of rejected attempts at once, which comes to the same as
one after another (`recordFailures_succ`) and takes no longer for a large
number. -/
def recordFailures (counter : Counter) (n : Nat) : Counter :=
  let left := counter.ceiling.toNat - counter.failures.toNat
  { counter with failures := counter.failures + .ofNat (min n left) }

@[simp] theorem recordFailures_zero (counter : Counter) :
    counter.recordFailures 0 = counter := by
  simp [recordFailures]

theorem recordFailures_succ (counter : Counter) (n : Nat) :
    counter.recordFailures (n + 1) =
      counter.recordFailure.recordFailures n := by
  unfold recordFailures recordFailure
  split
  · rename_i below
    rw [UInt32.lt_iff_toNat_lt] at below
    have next : (counter.failures + 1).toNat = counter.failures.toNat + 1 := by
      have := counter.ceiling.toNat_lt
      rw [UInt32.toNat_add, UInt32.toNat_one]
      omega
    have count : min (n + 1) (counter.ceiling.toNat - counter.failures.toNat)
        = 1 + min n (counter.ceiling.toNat - (counter.failures + 1).toNat) := by
      omega
    simp only [count, UInt32.ofNat_add, UInt32.add_assoc]
    rfl
  · rename_i above
    rw [UInt32.lt_iff_toNat_lt] at above
    have : counter.ceiling.toNat - counter.failures.toNat = 0 := by omega
    simp [this]

end Counter

-- =============================================== verdicts and the outcome

/-- The result of one attempt. -/
inductive Verdict where
  | accepted
  -- The attempt failed, for whatever cause.
  | rejected (cause : AuthError)
  deriving DecidableEq, Repr

/-- How a session ended. -/
inductive Outcome where
  | authenticated
  | cancelled (reason : CancelReason)
  | exhausted
  deriving DecidableEq, Repr

namespace Outcome

/-- The terminal line. A cancelled and an exhausted session look alike:
the screen locker dismisses its dialog either way. -/
def message : Outcome → Message
  | authenticated => .success
  | cancelled _ => .cancelled
  | exhausted => .cancelled

/-- The outcome in words. -/
def display : Outcome → String
  | authenticated => "authenticated"
  | cancelled reason => "cancelled (" ++ reason.name ++ ")"
  | exhausted => "exhausted"

end Outcome

/-- What to do after an attempt. -/
inductive Step where
  -- Report the failure and try again.
  | retry
  -- Report the outcome and shut down.
  | finish (outcome : Outcome)
  deriving DecidableEq, Repr

-- =========================================================== the session

/-- One session of the helper. -/
structure Session where
  context : AuthContext
  counter : Counter
  slot : Slot
  -- How the session ended, once it has.
  outcome : Option Outcome
  deriving DecidableEq, Repr

namespace Session

/-- A new session with this ceiling on rejected attempts. -/
def new (context : AuthContext) (maxFailures : UInt32) : Session :=
  { context, counter := .new maxFailures, slot := .empty, outcome := none }

/-- Whether the session is over. -/
def isFinished (session : Session) : Bool :=
  session.outcome.isSome

/-- End the session with this outcome. -/
def finish (session : Session) (outcome : Outcome) : Session :=
  { session with outcome := some outcome }

/-- Look at the cancellation flag before an attempt: the outcome, if the
session is over or has been cancelled. -/
def observe (session : Session) : Option Outcome × Session :=
  match session.outcome, session.slot.cancelled with
  | some outcome, _ => (some outcome, session)
  | none, some reason =>
    (some (.cancelled reason), session.finish (.cancelled reason))
  | none, none => (none, session)

/-- The retry policy. -/
def record (session : Session) (verdict : Verdict) : Step × Session :=
  match session.outcome, verdict, session.slot.cancelled with
  | some outcome, _, _ => (.finish outcome, session)
  | none, .accepted, _ =>
    (.finish .authenticated, session.finish .authenticated)
  | none, .rejected _, some reason =>
    (.finish (.cancelled reason), session.finish (.cancelled reason))
  | none, .rejected _, none =>
    let session' := { session with counter := session.counter.recordFailure }
    if session'.counter.hasMore then (.retry, session')
    else (.finish .exhausted, session'.finish .exhausted)

-- ============================================================= histories

/-- What can be done to a session from outside. -/
inductive Op where
  | record (verdict : Verdict)
  | observe
  | cancel (reason : CancelReason)
  | publish (secret : Secret)
  | take
  | clear
  deriving DecidableEq, Repr

/-- What came of it. -/
inductive Result where
  | step (step : Step)
  | observed (outcome : Option Outcome)
  | flag (value : Bool)
  | handed (handoff : Handoff)
  deriving DecidableEq, Repr

/-- Do one thing to a session; `none` where the caller would wait. -/
def perform? (session : Session) : Op → Option (Result × Session)
  | .record verdict =>
    let (step, session') := session.record verdict
    some (.step step, session')
  | .observe =>
    let (outcome, session') := session.observe
    some (.observed outcome, session')
  | .cancel reason =>
    let (first, slot') := session.slot.cancel reason
    some (.flag first, { session with slot := slot' })
  | .publish secret =>
    (session.slot.publish? secret).map fun (done, slot') =>
      (.flag done, { session with slot := slot' })
  | .take =>
    session.slot.take?.map fun (handoff, slot') =>
      (.handed handoff, { session with slot := slot' })
  | .clear =>
    let (dropped, slot') := session.slot.clear
    some (.flag dropped, { session with slot := slot' })

end Session

end ScreenUnlock
