/-
One attempt: a call of the backend on a thread of its own.

The thread goes through the call's tree. A request becomes an exchange
at the slot, whose reply chooses the branch; a pause puts the thread to
sleep; the end of the call is the attempt's verdict. A call that breaks
down counts as one that could not run at all.
-/
import ScreenUnlock.Auth.Exchange
import ScreenUnlock.Session.Basic

namespace ScreenUnlock

/-- What the dispatch loop makes of a call that broke down. -/
def AuthError.brokenDown : AuthError :=
  .unavailable "verification task failed"

/-- The verdict on a call that returned. -/
def Verdict.ofResult : Option AuthError → Verdict
  | none => .accepted
  | some cause => .rejected cause

/-- What an attempt's thread is doing. -/
inductive Attempt.Activity where
  | running (call : Verification)
  | conversing (exchange : Exchange) (rest : Option Secret → Verification)
  -- Asleep until the clock shows `wake`.
  | sleeping (wake : Nat) (rest : Verification)
  | ended (verdict : Verdict)

/-- One attempt. -/
structure Attempt where
  activity : Attempt.Activity
  replies : Transcript

namespace Attempt

/-- An attempt that is about to begin. -/
def new (call : Verification) : Attempt :=
  { activity := .running call, replies := [] }

/-- The verdict, once there is one. -/
def verdict? (attempt : Attempt) : Option Verdict :=
  match attempt.activity with
  | .ended verdict => some verdict
  | _ => none

/-- Whether the attempt is over. -/
def isOver (attempt : Attempt) : Bool :=
  attempt.verdict?.isSome

/-- What others can see of a step. -/
inductive Effect where
  | conversed (effect : Exchange.Effect)
  | replied (reply : Option Secret)
  deriving DecidableEq, Repr

/-- What a step leads to. -/
structure Next where
  attempt : Attempt
  slot : Slot
  effect : Option Effect := none

/-- The attempt doing something else. -/
def doing (attempt : Attempt) (activity : Activity) : Attempt :=
  { attempt with activity }

/-- The next step at time `clock`; `none` while the attempt waits for a
line or sleeps, and when it is over. -/
def step? (attempt : Attempt) (clock : Nat) (slot : Slot) : Option Next :=
  match attempt.activity with
  | .running (.finish failure) =>
    some ⟨attempt.doing (.ended (.ofResult failure)), slot, none⟩
  | .running .crash =>
    some ⟨attempt.doing (.ended (.rejected .brokenDown)), slot, none⟩
  | .running (.pause milliseconds rest) =>
    some ⟨attempt.doing (.sleeping (clock + milliseconds) rest), slot, none⟩
  | .running (.converse style text rest) =>
    some ⟨attempt.doing (.conversing (.opening style text) rest), slot, none⟩
  | .conversing (.over reply) rest =>
    some ⟨{ activity := .running (rest reply),
            replies := attempt.replies ++ [reply] },
      slot, some (.replied reply)⟩
  | .conversing exchange rest =>
    (exchange.step? slot).map fun next =>
      ⟨attempt.doing (.conversing next.exchange rest), next.slot,
        next.effect.map .conversed⟩
  | .sleeping wake rest =>
    if wake ≤ clock then some ⟨attempt.doing (.running rest), slot, none⟩
    else none
  | .ended _ => none

/-- When a sleeping attempt wakes. -/
def wake? (attempt : Attempt) : Option Nat :=
  match attempt.activity with
  | .sleeping wake _ => some wake
  | _ => none

end Attempt

end ScreenUnlock
