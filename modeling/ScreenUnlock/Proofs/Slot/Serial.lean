/-
What threads can do at a slot, arm by arm, and the one order behind it.

`Serves` lists the critical sections that can run, with what each finds
in the slot and leaves there; `Room.Arm` lists the steps of the threads.
Both come with the proof that nothing is missing, so the invariants of a
room are case analyses over these arms.

# The order

However the threads are interleaved, the slot goes through one sequence
of critical sections, each of which finds what the one before left
(`Serial`). The record that a room keeps is that sequence
(`Reachable.serial`). What is said of the slot in a room with any
threads is therefore an induction over a list, and a record may be cut
anywhere (`Serial.split`).
-/
import ScreenUnlock.Proofs.Slot
import ScreenUnlock.Slot.Room

namespace ScreenUnlock.Slot

variable {slot slot' : Slot} {call : Call} {reply : Reply}

-- ================================================== one critical section

/-- A critical section that runs: what the call returns, and the slot
afterwards. -/
inductive Serves (slot : Slot) : Call → Reply → Slot → Prop where
  | publish {secret : Secret} :
      slot.cancelled = none → slot.pending = none →
      Serves slot (.publish secret) (.flag true)
        { slot with pending := some secret }
  | refuse {secret : Secret} {reason : CancelReason} :
      slot.cancelled = some reason →
      Serves slot (.publish secret) (.flag false) slot
  | take {secret : Secret} :
      slot.cancelled = none → slot.pending = some secret →
      Serves slot .take (.handed (.secret secret))
        { slot with pending := none }
  -- The session is cancelled; a line that is still there stays.
  | turnAway {reason : CancelReason} :
      slot.cancelled = some reason →
      Serves slot .take (.handed (.cancelled reason)) slot
  | consumed :
      slot.cancelled = none → slot.pending = none →
      Serves slot .awaitTaken (.flag true) slot
  | forsake {reason : CancelReason} :
      slot.cancelled = some reason →
      Serves slot .awaitTaken (.flag false) slot
  | cancel {reason : CancelReason} :
      slot.cancelled = none →
      Serves slot (.cancel reason) (.flag true)
        { slot with cancelled := some reason }
  -- Somebody has cancelled the session before.
  | defer {reason first : CancelReason} :
      slot.cancelled = some first →
      Serves slot (.cancel reason) (.flag false) slot
  | clear :
      Serves slot .clear (.flag slot.pending.isSome)
        { slot with pending := none }

/-- Every critical section that runs is one of these. -/
theorem serves_of_serve? (h : slot.serve? call = some (reply, slot')) :
    Serves slot call reply slot' := by
  cases call with
  | publish secret =>
      obtain ⟨⟨done, after⟩, hpublish, heq⟩ := Option.map_eq_some_iff.mp h
      cases heq
      rcases publish?_inv hpublish with ⟨rfl, hsome, rfl⟩
        | ⟨rfl, hnone, hempty, rfl⟩
      · obtain ⟨reason, hreason⟩ := Option.isSome_iff_exists.mp hsome
        exact .refuse hreason
      · exact .publish hnone hempty
  | take =>
      obtain ⟨⟨handoff, after⟩, htake, heq⟩ := Option.map_eq_some_iff.mp h
      cases heq
      rcases take?_inv htake with ⟨reason, rfl, hreason, rfl⟩
        | ⟨secret, rfl, hnone, hpending, rfl⟩
      · exact .turnAway hreason
      · exact .take hnone hpending
  | awaitTaken =>
      obtain ⟨taken, hconsumed, heq⟩ := Option.map_eq_some_iff.mp h
      cases heq
      rcases consumed?_inv hconsumed with ⟨rfl, hsome⟩ | ⟨rfl, hnone, hempty⟩
      · obtain ⟨reason, hreason⟩ := Option.isSome_iff_exists.mp hsome
        exact .forsake hreason
      · exact .consumed hnone hempty
  | cancel reason =>
      cases hcancelled : slot.cancelled with
      | none =>
          simp only [serve?, cancel_of_none hcancelled] at h
          cases h
          exact .cancel hcancelled
      | some first =>
          simp only [serve?,
            cancel_of_isSome (Option.isSome_of_eq_some hcancelled)] at h
          cases h
          exact .defer hcancelled
  | clear =>
      cases h
      exact .clear

/-- Whether a call has to wait while the slot is not cancelled and holds
this. -/
def Call.waitsFor (call : Call) (pending : Option Secret) : Prop :=
  match call with
  | .publish _ => pending.isSome = true
  | .take => pending = none
  | .awaitTaken => pending.isSome = true
  | .cancel _ => False
  | .clear => False

/-- A call waits only in a slot that nobody has cancelled: for room, for
a secret, or for the secret to be taken. -/
theorem serve?_eq_none_iff :
    slot.serve? call = none
      ↔ slot.cancelled = none ∧ call.waitsFor slot.pending := by
  obtain ⟨pending, cancelled⟩ := slot
  cases call <;> cases cancelled <;> cases pending <;>
    simp [serve?, publish?, take?, consumed?, Call.waitsFor]

-- ================================================== steps of the threads

namespace Room

variable {room room' : Room} {action : Action}

/-- A step of a thread. -/
inductive Arm (room : Room) : Action → Room → Prop where
  | call {t : Nat} {call : Call} :
      room.threads t = .idle →
      Arm room (.call t call) (room.place t (.entering call))
  | park {t : Nat} {call : Call} :
      room.threads t = .entering call → room.slot.serve? call = none →
      Arm room (.enter t) (room.place t (.parked call))
  -- The critical section runs.
  | serve {t : Nat} {call : Call} {reply : Reply} {slot' : Slot} :
      room.threads t = .entering call →
      room.slot.serve? call = some (reply, slot') →
      Arm room (.enter t) (room.enter t call)
  | notify {t : Nat} :
      room.threads t = .notifying →
      Arm room (.notify t) (room.wakeAll.place t .idle)
  | stray {t : Nat} {call : Call} :
      room.threads t = .parked call →
      Arm room (.stray t) (room.place t (.entering call))

/-- Every step is one of the arms. -/
theorem arm_of_apply (hstep : apply action room = some room') :
    Arm room action room' := by
  unfold apply at hstep
  split at hstep
  case h_1 t call =>
    split at hstep
    case h_1 hidle =>
      cases hstep
      exact .call hidle
    case h_2 => cases hstep
  case h_2 t =>
    split at hstep
    case h_1 call hentering =>
      cases hstep
      cases hserve : room.slot.serve? call with
      | none =>
          have hparked : room.enter t call = room.place t (.parked call) := by
            unfold enter
            rw [hserve]
          exact hparked ▸ .park hentering hserve
      | some result => exact .serve hentering hserve
    case h_2 => cases hstep
  case h_3 t =>
    split at hstep
    case h_1 hnotifying =>
      cases hstep
      exact .notify hnotifying
    case h_2 => cases hstep
  case h_4 t =>
    split at hstep
    case h_1 call hparked =>
      cases hstep
      exact .stray hparked
    case h_2 => cases hstep

/-- Where a thread stands when its critical section has run. -/
def Thread.after (call : Call) : Thread :=
  if call = .clear then .notifying else .idle

section Serve

variable {t : Nat} {call : Call} {reply : Reply} {slot' : Slot}
  (hserve : room.slot.serve? call = some (reply, slot'))

include hserve

theorem enter_slot : (room.enter t call).slot = slot' := by
  unfold enter
  rw [hserve]
  dsimp only
  split <;> rfl

theorem enter_served :
    (room.enter t call).served = room.served ++ [⟨t, call, reply⟩] := by
  unfold enter
  rw [hserve]
  dsimp only
  split <;> rfl

theorem enter_threads (u : Nat) :
    (room.enter t call).threads u =
      if call.wakes reply
      then wake (if u = t then Thread.after call else room.threads u)
      else if u = t then Thread.after call else room.threads u := by
  unfold enter
  rw [hserve]
  dsimp only
  split <;> rfl

end Serve

end Room

-- ============================================================= the order

/-- These critical sections, one after the other, lead from the slot
`start` to this one. -/
inductive Serial : Slot → List Served → Slot → Prop where
  | nil {slot : Slot} : Serial slot [] slot
  | cons {start slot last : Slot} {call : Call} {reply : Reply}
      {later : List Served} (thread : Nat) :
      Serves start call reply slot → Serial slot later last →
      Serial start (⟨thread, call, reply⟩ :: later) last

namespace Serial

variable {start last : Slot} {history earlier later : List Served}
  {served : Served}

/-- One after another, and then one more. -/
theorem snoc {thread : Nat} (h : Serial start history slot)
    (hserves : Serves slot call reply slot') :
    Serial start (history ++ [⟨thread, call, reply⟩]) slot' := by
  induction h with
  | nil => exact .cons thread hserves .nil
  | cons other hfirst _ ih => exact .cons other hfirst (ih hserves)

/-- A sequence can be cut anywhere. -/
theorem split (h : Serial start (earlier ++ later) last) :
    ∃ slot, Serial start earlier slot ∧ Serial slot later last := by
  induction earlier generalizing start with
  | nil => exact ⟨start, .nil, h⟩
  | cons served earlier ih =>
      cases h with
      | cons thread hserves hrest =>
          obtain ⟨slot, hearlier, hlater⟩ := ih hrest
          exact ⟨slot, .cons thread hserves hearlier, hlater⟩

/-- The last critical section of a sequence. -/
theorem snoc_inv (h : Serial start (history ++ [served]) last) :
    ∃ slot, Serial start history slot
      ∧ Serves slot served.call served.reply last := by
  obtain ⟨slot, hbefore, hlast⟩ := h.split
  cases hlast with
  | cons thread hserves hnil =>
      cases hnil
      exact ⟨slot, hbefore, hserves⟩

/-- What the critical section at one place of a sequence found. -/
theorem at_step (h : Serial start history last) {i : Nat}
    (hi : history[i]? = some served) :
    ∃ found left, Serial start (history.take i) found
      ∧ Serves found served.call served.reply left
      ∧ Serial left (history.drop (i + 1)) last := by
  obtain ⟨hlt, heq⟩ := List.getElem?_eq_some_iff.mp hi
  rw [← List.take_append_drop i history, List.drop_eq_getElem_cons hlt,
    heq] at h
  obtain ⟨found, hbefore, hrest⟩ := h.split
  cases hrest with
  | cons thread hserves hlater =>
      exact ⟨found, _, hbefore, hserves, hlater⟩

end Serial

-- ============================================================= the rooms

namespace Room

variable {room room' : Room} {action : Action}

theorem Arm.serial (harm : Arm room action room')
    (h : Serial .empty room.served room.slot) :
    Serial .empty room'.served room'.slot := by
  cases harm with
  | serve _ hserve =>
      rw [enter_slot hserve, enter_served hserve]
      exact h.snoc (serves_of_serve? hserve)
  | call _ | park _ _ | notify _ | stray _ => exact h

/-- The critical sections of any threads, in whatever way they are
interleaved, run one after the other on one slot. -/
theorem Reachable.serial (hroom : Reachable room) :
    Serial .empty room.served room.slot := by
  induction hroom with
  | init => exact .nil
  | step action _ hstep ih => exact (arm_of_apply hstep).serial ih

theorem Reachable.follow (hroom : Reachable room) (actions : List Action)
    (h : Room.follow actions room = some room') : Reachable room' := by
  induction actions generalizing room with
  | nil =>
      cases h
      exact hroom
  | cons action actions ih =>
      obtain ⟨next, hnext, hrest⟩ := Option.bind_eq_some_iff.mp h
      exact ih (.step action hroom hnext) hrest

/-- A list of steps that can be taken in a new room leads to a room, and
what is computed of that room is true of it. -/
theorem Reachable.exists_of_follow {α : Type} (actions : List Action)
    (view : Room → α) (value : α)
    (h : (Room.follow actions empty).map view = some value) :
    ∃ room, Reachable room ∧ view room = value := by
  obtain ⟨room, hfollow, hview⟩ := Option.map_eq_some_iff.mp h
  exact ⟨room, Reachable.init.follow actions hfollow, hview⟩

end Room

end ScreenUnlock.Slot
