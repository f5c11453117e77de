/-
One request of a backend and how it is answered.

A prompt without echo is shown, the screen locker is told that it may
answer, and the conversation takes the next line from the slot. A line
with the exit marker cancels the session and is no answer; a cancelled
session gives no answer either; every other line is the answer, and the
screen locker is told that verification is busy again. An information is
shown if it has a text. The other requests have no effect.

The exchange is cut into steps wherever another thread could act in
between: between two messages, before the line is taken, and between
taking an exit request and cancelling the session.
-/
import ScreenUnlock.Auth.Basic
import ScreenUnlock.Wire.Message

namespace ScreenUnlock

/-- How far one request has come. -/
inductive Exchange where
  | opening (style : Style) (text : String)
  | prompted
  -- The screen locker has been told to answer; the line is not taken.
  | asking
  -- An exit request was taken; the session is not cancelled yet.
  | exiting
  -- An answer was taken; the screen locker does not know yet.
  | answering (answer : Secret)
  | over (reply : Option Secret)
  deriving DecidableEq, Repr

namespace Exchange

/-- What others can see of a step. -/
inductive Effect where
  | emit (message : Message)
  | take (secret : Secret)
  -- The session was cancelled, for the first time or again.
  | cancel (reason : CancelReason)
  deriving DecidableEq, Repr

/-- What a step leads to. -/
structure Next where
  exchange : Exchange
  slot : Slot
  effect : Option Effect
  deriving DecidableEq, Repr

/-- The next step; `none` when the request has its reply, and when the
line is still to come. -/
def step? (exchange : Exchange) (slot : Slot) : Option Next :=
  match exchange with
  | .opening .promptEchoOff text =>
    some ⟨.prompted, slot, some (.emit (.promptOf text))⟩
  | .opening .textInfo text =>
    if text = "" then some ⟨.over none, slot, none⟩
    else some ⟨.over none, slot, some (.emit (.infoOf text))⟩
  | .opening .promptEchoOn _ => some ⟨.over none, slot, none⟩
  | .opening .errorMsg _ => some ⟨.over none, slot, none⟩
  | .prompted => some ⟨.asking, slot, some (.emit (.busy false))⟩
  | .asking =>
    match slot.take? with
    | none => none
    | some (.cancelled _, slot') => some ⟨.over none, slot', none⟩
    | some (.secret secret, slot') =>
      match secret.request with
      | .exit => some ⟨.exiting, slot', some (.take secret)⟩
      | .secret => some ⟨.answering secret, slot', some (.take secret)⟩
  | .exiting =>
    let (_, slot') := slot.cancel .exitRequested
    some ⟨.over none, slot', some (.cancel .exitRequested)⟩
  | .answering answer =>
    some ⟨.over (some answer), slot, some (.emit (.busy true))⟩
  | .over _ => none

/-- How many steps are left at most. -/
def rank : Exchange → Nat
  | .opening _ _ => 4
  | .prompted => 3
  | .asking => 2
  | .exiting => 1
  | .answering _ => 1
  | .over _ => 0

/-- Every step brings the request nearer to its reply. -/
theorem rank_step_lt {exchange : Exchange} {slot : Slot} {next : Next}
    (h : exchange.step? slot = some next) :
    next.exchange.rank < exchange.rank := by
  unfold step? at h
  split at h
  case h_6 =>
    split at h
    · simp at h
    · simp only [Option.some.injEq] at h
      subst h
      simp [rank]
    · split at h <;>
        (simp only [Option.some.injEq] at h; subst h; simp [rank])
  case h_2 =>
    split at h <;>
      (simp only [Option.some.injEq] at h; subst h; simp [rank])
  case h_9 => simp at h
  all_goals
    simp only [Option.some.injEq] at h
    subst h
    simp [rank]

/-- The message among the effects of a step. -/
def Effect.message? : Effect → Option Message
  | .emit message => some message
  | _ => none

/-- Go on until the request has its reply or must wait: how far it has
come, the slot, and the messages sent on the way. -/
def advance (exchange : Exchange) (slot : Slot) :
    Exchange × Slot × List Message :=
  match h : exchange.step? slot with
  | none => (exchange, slot, [])
  | some next =>
    have := rank_step_lt h
    let (exchange', slot', messages) := next.exchange.advance next.slot
    (exchange', slot',
      (next.effect.bind Effect.message?).toList ++ messages)
termination_by exchange.rank

end Exchange

end ScreenUnlock
