/-
Calling a slot from one thread while another waits.

A rehearsal runs calls one after the other. A call that can run at once
runs on the front thread. One that would have to wait is made on the
back thread, which then stays parked there; while it does, no second
call that would have to wait is made. Whenever a call on the front
thread wakes the back thread, that thread runs before the next call.

Every step is an action of the room.
-/
import ScreenUnlock.Slot.Room

namespace ScreenUnlock

namespace Slot.Room

/-- The thread whose calls run at once. -/
def front : Nat := 0

/-- The thread that may stay parked. -/
def back : Nat := 1

/-- What became of a rehearsed call. -/
inductive Rehearsed where
  | returned (reply : Reply)
  | blocked
  -- The call was not made, because it would have to wait and the back
  -- thread waits already.
  | wouldBlock
  deriving DecidableEq, Repr

/-- The same room, with the threads below `count` looked up already: where
they stand then takes no way back through what has happened. -/
def remember (room : Room) (count : Nat) : Room :=
  let known := (List.range count).map room.threads
  { room with
    threads := fun t =>
      match known[t]? with
      | some thread => thread
      | none => room.threads t }

@[simp] theorem remember_eq (room : Room) (count : Nat) :
    room.remember count = room := by
  have : (room.remember count).threads = room.threads := by
    funext t
    by_cases h : t < count <;> simp [remember, h]
  change { room with threads := (room.remember count).threads } = room
  rw [this]

/-- The reply of the last critical section that thread `t` ran. -/
def lastReply (room : Room) (t : Nat) : Option Reply :=
  (room.served.reverse.find? (fun served => served.thread = t)).map
    Served.reply

/-- Let the back thread run if it has been woken. What its call returns,
unless it parks again. -/
def settleBack (room : Room) : Option Reply × Room :=
  match apply (.enter back) room with
  | none => (none, room)
  | some room' =>
    match room'.threads back with
    | .parked _ => (none, room')
    | _ => (room'.lastReply back, room')

/-- The actions of a call that runs to its end on the front thread. -/
def frontActions (call : Call) : List Action :=
  [.call front call, .enter front]
    ++ (if call = .clear then [.notify front] else [])

/-- Make one call: what became of it, what the back thread's call
returned if this one let it go on, and the room afterwards. -/
def rehearse (room : Room) (call : Call) :
    Rehearsed × Option Reply × Room :=
  let room := room.remember (back + 1)
  match room.slot.serve? call with
  | some (reply, _) =>
    match follow (frontActions call) room with
    | none => (.wouldBlock, none, room)
    | some room' =>
      let (woken, room'') := room'.settleBack
      (.returned reply, woken, room'')
  | none =>
    match follow [.call back call, .enter back] room with
    | none => (.wouldBlock, none, room)
    | some room' => (.blocked, none, room')

/-- End the rehearsal: a call that still waits is let go by cancelling.
What it returns, if there is one. -/
def dismiss (room : Room) : Option Reply :=
  match room.threads back with
  | .parked _ => (room.rehearse (.cancel .shutdown)).2.1
  | _ => none

end Slot.Room

end ScreenUnlock
