/-
No wake-up is lost.

A thread parks because its critical section cannot run, and it is asleep
until somebody wakes it. So every step that could let a parked thread go
on must wake it, or leave somebody behind who will. Only `clear` does the
latter: it makes room in the slot in one step and wakes the others in
the next, and in between its thread is `notifying`.

`Watched` is the invariant that has this window in it: a parked thread
still waits for what it parked for, or a `clear` is about to wake it; and
in a cancelled slot nobody is parked at all. What follows for a room in
which no `clear` is under way is `Reachable.parked_waits`.
-/
import ScreenUnlock.Proofs.Slot.Serial

namespace ScreenUnlock.Slot.Room

variable {room room' : Room} {action : Action}

/-- Every parked thread is still waiting, or somebody is about to wake
it; and nobody is parked once the session is cancelled. -/
def Watched (room : Room) : Prop :=
  ∀ t call, room.threads t = .parked call →
    room.slot.cancelled = none
      ∧ (call.waitsFor room.slot.pending ∨ ∃ u, room.threads u = .notifying)

@[simp] theorem place_threads_self (room : Room) (t : Nat)
    (thread : Thread) : (room.place t thread).threads t = thread :=
  if_pos rfl

theorem place_threads_of_ne {t u : Nat} (hne : u ≠ t) (thread : Thread) :
    (room.place t thread).threads u = room.threads u :=
  if_neg hne

@[simp] theorem wake_ne_parked (thread : Thread) (call : Call) :
    wake thread ≠ .parked call := by
  cases thread <;> simp [wake]

theorem Thread.after_ne_parked (call other : Call) :
    Thread.after call ≠ .parked other := by
  unfold Thread.after
  split <;> simp

theorem Watched.of_none
    (h : ∀ t call, room.threads t ≠ .parked call) : Watched room :=
  fun t call hparked => absurd hparked (h t call)

/-- A thread that was not about to wake the others goes elsewhere; if it
parks, it has to wait. -/
theorem Watched.place (h : Watched room) {t : Nat} {thread : Thread}
    (hbefore : room.threads t ≠ .notifying)
    (hparks : ∀ call, thread = .parked call →
      room.slot.cancelled = none ∧ call.waitsFor room.slot.pending) :
    Watched (room.place t thread) := by
  intro u call hparked
  by_cases hu : u = t
  · rw [hu, place_threads_self] at hparked
    obtain ⟨hnone, hwaits⟩ := hparks call hparked
    exact ⟨hnone, .inl hwaits⟩
  · rw [place_threads_of_ne hu] at hparked
    obtain ⟨hnone, hreason⟩ := h u call hparked
    refine ⟨hnone, hreason.imp id ?_⟩
    rintro ⟨v, hv⟩
    have hne : v ≠ t := fun heq => hbefore (heq ▸ hv)
    exact ⟨v, (place_threads_of_ne hne thread).trans hv⟩

/-- A critical section that runs wakes everybody, or lets nobody go on,
or is that of `clear`. -/
theorem Watched.serve (h : Watched room) {t : Nat} {call : Call}
    {reply : Reply} {slot' : Slot}
    (hentering : room.threads t = .entering call)
    (hserve : room.slot.serve? call = some (reply, slot')) :
    Watched (room.enter t call) := by
  intro u other hparked
  rw [enter_threads hserve] at hparked
  cases hwakes : call.wakes reply with
  | true =>
      rw [hwakes, if_pos rfl] at hparked
      exact absurd hparked (wake_ne_parked _ other)
  | false =>
      rw [hwakes, if_neg Bool.false_ne_true] at hparked
      have hu : u ≠ t := by
        rintro rfl
        rw [if_pos rfl] at hparked
        exact Thread.after_ne_parked call other hparked
      rw [if_neg hu] at hparked
      obtain ⟨hnone, hreason⟩ := h u other hparked
      -- who is about to wake the others is not in this critical section
      have hstays : (∃ v, room.threads v = .notifying) →
          ∃ v, (room.enter t call).threads v = .notifying := by
        rintro ⟨v, hv⟩
        have hne : v ≠ t := by
          rintro rfl
          rw [hentering] at hv
          cases hv
        refine ⟨v, ?_⟩
        rw [enter_threads hserve, hwakes, if_neg Bool.false_ne_true,
          if_neg hne, hv]
      rw [enter_slot hserve]
      cases serves_of_serve? hserve with
      | publish _ _ | take _ _ | cancel _ => cases hwakes
      | refuse hsome | turnAway hsome | forsake hsome | defer hsome =>
          rw [hnone] at hsome
          cases hsome
      | consumed _ _ => exact ⟨hnone, hreason.imp id hstays⟩
      | clear =>
          refine ⟨hnone, .inr ⟨t, ?_⟩⟩
          rw [enter_threads hserve, hwakes, if_neg Bool.false_ne_true,
            if_pos rfl]
          rfl

theorem Watched.step (h : Watched room) (harm : Arm room action room') :
    Watched room' := by
  cases harm with
  | call hidle =>
      refine h.place ?_ ?_
      · rw [hidle]
        exact fun heq => by cases heq
      · exact fun _ heq => by cases heq
  | park hentering hserve =>
      refine h.place ?_ ?_
      · rw [hentering]
        exact fun heq => by cases heq
      · rintro _ ⟨⟩
        exact serve?_eq_none_iff.mp hserve
  | serve hentering hserve => exact h.serve hentering hserve
  | @notify t hnotifying =>
      refine .of_none fun u call hparked => ?_
      by_cases hu : u = t
      · rw [hu, place_threads_self] at hparked
        cases hparked
      · rw [place_threads_of_ne hu] at hparked
        exact wake_ne_parked _ call hparked
  | stray hparked =>
      refine h.place ?_ ?_
      · rw [hparked]
        exact fun heq => by cases heq
      · exact fun _ heq => by cases heq

/-- In every room every parked thread will be woken. -/
theorem Reachable.watched (hroom : Reachable room) : Watched room := by
  induction hroom with
  | init => exact .of_none fun _ _ heq => by cases heq
  | step action _ hstep ih => exact ih.step (arm_of_apply hstep)

/-- Whoever is parked while no `clear` is about to wake the others would
park again. -/
theorem Reachable.serve?_eq_none (hroom : Reachable room)
    (hquiet : ∀ u, room.threads u ≠ .notifying) {t : Nat} {call : Call}
    (hparked : room.threads t = .parked call) :
    room.slot.serve? call = none := by
  obtain ⟨hnone, hwaits | ⟨u, hu⟩⟩ := hroom.watched t call hparked
  · exact serve?_eq_none_iff.mpr ⟨hnone, hwaits⟩
  · exact absurd hu (hquiet u)

/-- Nobody is parked in a cancelled slot. -/
theorem Reachable.ne_parked (hroom : Reachable room)
    (hcancelled : room.slot.cancelled.isSome = true) (t : Nat) (call : Call) :
    room.threads t ≠ .parked call := by
  intro hparked
  rw [(hroom.watched t call hparked).1] at hcancelled
  cases hcancelled

/-- No wake-up is lost, for any number of threads and any interleaving of
their calls. While no `clear` stands between dropping the line and waking
the others:

a thread that is parked in `publish` or in `awaitTaken` faces a slot that
holds a secret and is not cancelled, and one that is parked in `take` faces
a slot that is empty and not cancelled. So takers are never parked
together with anybody else, and nobody is parked once the session is
cancelled. -/
theorem Reachable.parked_waits (hroom : Reachable room)
    (hquiet : ∀ u, room.threads u ≠ .notifying) :
    (∀ t secret, room.threads t = .parked (.publish secret) →
        (∃ pending, room.slot.pending = some pending)
          ∧ room.slot.cancelled = none)
      ∧ (∀ t, room.threads t = .parked .awaitTaken →
        (∃ pending, room.slot.pending = some pending)
          ∧ room.slot.cancelled = none)
      ∧ (∀ t, room.threads t = .parked .take →
        room.slot.pending = none ∧ room.slot.cancelled = none)
      ∧ (∀ t u call, room.threads t = .parked .take →
        room.threads u = .parked call → call = .take)
      ∧ (∀ reason, room.slot.cancelled = some reason →
        ∀ t call, room.threads t ≠ .parked call) := by
  have hwaits : ∀ {t call}, room.threads t = .parked call →
      room.slot.cancelled = none ∧ call.waitsFor room.slot.pending :=
    fun hparked =>
      serve?_eq_none_iff.mp (hroom.serve?_eq_none hquiet hparked)
  refine ⟨?publish, ?awaitTaken, ?take, ?apart, ?cancelled⟩
  case publish =>
    intro t secret hparked
    obtain ⟨hnone, hfull⟩ := hwaits hparked
    exact ⟨Option.isSome_iff_exists.mp hfull, hnone⟩
  case awaitTaken =>
    intro t hparked
    obtain ⟨hnone, hfull⟩ := hwaits hparked
    exact ⟨Option.isSome_iff_exists.mp hfull, hnone⟩
  case take =>
    intro t hparked
    obtain ⟨hnone, hempty⟩ := hwaits hparked
    exact ⟨hempty, hnone⟩
  case apart =>
    intro t u call htaker hother
    have hempty : room.slot.pending = none := (hwaits htaker).2
    have hother := (hwaits hother).2
    rw [hempty] at hother
    cases call with
    | take => rfl
    | publish secret => cases hother
    | awaitTaken => cases hother
    | cancel reason => cases hother
    | clear => cases hother
  case cancelled =>
    intro reason hreason t call
    exact hroom.ne_parked (Option.isSome_of_eq_some hreason) t call

/-- A line lies in the slot, another publisher waits for room and a third
thread for the line to be taken. -/
theorem parked_waits_two_lines :
    ∃ room, Reachable room ∧ (∀ u, room.threads u ≠ .notifying)
      ∧ room.threads 1 = .parked (.publish ⟨[98]⟩)
      ∧ room.threads 2 = .parked .awaitTaken
      ∧ (∃ pending, room.slot.pending = some pending)
      ∧ room.slot.cancelled = none
      ∧ ∀ t, room.threads t ≠ .parked .take := by
  obtain ⟨room, hroom, hquiet, hpublisher, hwaiter⟩ :
      ∃ room, Reachable room ∧ (∀ u, room.threads u ≠ .notifying)
        ∧ room.threads 1 = .parked (.publish ⟨[98]⟩)
        ∧ room.threads 2 = .parked .awaitTaken := by
    refine ⟨_, Reachable.init.follow
      [.call 0 (.publish ⟨[97]⟩), .enter 0, .call 1 (.publish ⟨[98]⟩),
        .enter 1, .call 2 .awaitTaken, .enter 2]
      rfl, fun u => ?_, rfl, rfl⟩
    match u with
    | 0 | 1 | 2 => decide
    | u + 3 => exact fun h => by cases h
  obtain ⟨hpublish, -, -, hapart, -⟩ := hroom.parked_waits hquiet
  refine ⟨room, hroom, hquiet, hpublisher, hwaiter, ?_, ?_, ?_⟩
  · exact (hpublish 1 _ hpublisher).1
  · exact (hpublish 1 _ hpublisher).2
  · intro t htaker
    cases hapart t 1 _ htaker hpublisher

/-- Between the two steps of `clear` a publisher can be parked although
there is room. -/
example :
    (follow [.call 0 (.publish ⟨[97]⟩), .enter 0, .call 1 (.publish ⟨[98]⟩),
        .enter 1, .call 2 .clear, .enter 2] empty).map
      (fun room => (room.threads 1, room.slot.pending, room.threads 2))
      = some (.parked (.publish ⟨[98]⟩), none, .notifying) := by decide

end ScreenUnlock.Slot.Room
