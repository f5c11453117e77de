/-
Threads at a slot: who waits, who is woken.

Any number of threads call the slot's operations. Each critical section
is one step. A call that cannot run yet parks its thread, and parking
gives the lock up in the same step, so nothing can happen in between. A
step that changes the slot wakes every parked thread; a woken thread
tries its critical section again and may park again. Only `clear` wakes
the others in a step of its own, after it has given the lock up; until
then its thread is `notifying`.

A parked thread may also wake for no reason (`Action.stray`): it tries
again, and finds what it would have found.
-/
import ScreenUnlock.Slot.Basic

namespace ScreenUnlock

namespace Slot

-- ============================================================= the calls

/-- A call on the slot. -/
inductive Call where
  | publish (secret : Secret)
  | take
  | awaitTaken
  | cancel (reason : CancelReason)
  | clear
  deriving DecidableEq, Repr

/-- What a call returns. -/
inductive Reply where
  | flag (value : Bool)
  | handed (handoff : Handoff)
  deriving DecidableEq, Repr

/-- The critical section of a call; `none` where the caller must wait. -/
def serve? (slot : Slot) : Call → Option (Reply × Slot)
  | .publish secret =>
    (slot.publish? secret).map fun (done, slot') => (.flag done, slot')
  | .take => slot.take?.map fun (handoff, slot') => (.handed handoff, slot')
  | .awaitTaken => slot.consumed?.map fun taken => (.flag taken, slot)
  | .cancel reason =>
    let (first, slot') := slot.cancel reason
    some (.flag first, slot')
  | .clear =>
    let (dropped, slot') := slot.clear
    some (.flag dropped, slot')

/-- Whether the critical section wakes the parked threads before it
gives the lock up. A refused line, a taker that finds the session
cancelled and a wait that is over change nothing, so they wake nobody;
`clear` wakes later. -/
def Call.wakes : Call → Reply → Bool
  | .publish _, .flag done => done
  | .take, .handed (.secret _) => true
  | .cancel _, _ => true
  | _, _ => false

-- ============================================================== the room

/-- Where a thread stands. -/
inductive Thread where
  | idle
  | entering (call : Call)
  -- In a call, asleep until somebody wakes it.
  | parked (call : Call)
  -- In `clear`, which has dropped the line (or found none) and has
  -- not woken the others yet.
  | notifying
  deriving DecidableEq, Repr

/-- One critical section that has run. -/
structure Served where
  thread : Nat
  call : Call
  reply : Reply
  deriving DecidableEq, Repr

/-- A slot with its threads. -/
structure Room where
  slot : Slot
  threads : Nat → Thread
  -- The critical sections that have run, oldest first.
  served : List Served

namespace Room

/-- A new slot that nobody has called. -/
def empty : Room :=
  { slot := .empty, threads := fun _ => .idle, served := [] }

/-- The room with thread `t` standing at `thread`. -/
def place (room : Room) (t : Nat) (thread : Thread) : Room :=
  { room with
    threads := fun other => if other = t then thread else room.threads other }

/-- A parked thread tries again; any other goes on as it is. -/
def wake : Thread → Thread
  | .parked call => .entering call
  | thread => thread

/-- Wake every parked thread. -/
def wakeAll (room : Room) : Room :=
  { room with threads := fun t => wake (room.threads t) }

/-- What can happen in a room. -/
inductive Action where
  | call (t : Nat) (call : Call)
  | enter (t : Nat)
  | notify (t : Nat)
  -- A parked thread wakes for no reason.
  | stray (t : Nat)
  deriving DecidableEq, Repr

/-- The critical section of thread `t`, which is in `call`. -/
def enter (room : Room) (t : Nat) (call : Call) : Room :=
  match room.slot.serve? call with
  | none => room.place t (.parked call)
  | some (reply, slot') =>
    let after := if call = .clear then Thread.notifying else .idle
    let room' := { room.place t after with
      slot := slot'
      served := room.served ++ [⟨t, call, reply⟩] }
    if call.wakes reply then room'.wakeAll else room'

/-- The room after an action, if the action is possible. -/
def apply (action : Action) (room : Room) : Option Room :=
  match action with
  | .call t call =>
    match room.threads t with
    | .idle => some (room.place t (.entering call))
    | _ => none
  | .enter t =>
    match room.threads t with
    | .entering call => some (room.enter t call)
    | _ => none
  | .notify t =>
    match room.threads t with
    | .notifying => some (room.wakeAll.place t .idle)
    | _ => none
  | .stray t =>
    match room.threads t with
    | .parked call => some (room.place t (.entering call))
    | _ => none

/-- The rooms that some order of actions leads to. -/
inductive Reachable : Room → Prop where
  | init : Reachable empty
  | step {room room' : Room} (action : Action) :
      Reachable room → apply action room = some room' → Reachable room'

/-- The room after a list of actions, if each is possible in its turn. -/
def follow : List Action → Room → Option Room
  | [], room => some room
  | action :: actions, room => (apply action room).bind (follow actions)

end Room

end Slot

end ScreenUnlock
