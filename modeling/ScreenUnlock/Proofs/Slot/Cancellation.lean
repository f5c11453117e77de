/-
A cancellation stands, and the first reason with it.

Before the first `cancel` the flag is down (`Serial.isOpen`), so that call
is told that it was the first. From then on the slot is in a state that no
call leaves: every operation looks at the flag before it looks at the
line, so nothing goes in and nothing comes out, and the most that happens
is that a `clear` drops the line (`Serial.late`).

Calls that were blocked when the cancellation came are no exception.
Cancelling wakes all of them, nobody parks in a cancelled slot, and so
each of them returns with its next step.
-/
import ScreenUnlock.Proofs.Slot.Parking

namespace ScreenUnlock.Slot

variable {start last slot slot' : Slot} {call : Call} {reply : Reply}
  {reason : CancelReason} {earlier later : List Served}

/-- How a call is answered when the session was cancelled before, for this
reason. -/
def Served.IsLate (served : Served) (reason : CancelReason) : Prop :=
  match served.call with
  | .publish _ => served.reply = .flag false
  | .take => served.reply = .handed (.cancelled reason)
  | .awaitTaken => served.reply = .flag false
  | .cancel _ => served.reply = .flag false
  | .clear => True

-- ====================================================== before and after

/-- Only `cancel` raises the flag. -/
theorem Serves.isOpen (h : Serves slot call reply slot')
    (hnone : slot.cancelled = none) (hcall : ∀ other, call ≠ .cancel other) :
    slot'.cancelled = none := by
  cases h with
  | cancel _ => exact absurd rfl (hcall _)
  | _ => exact hnone

/-- In a cancelled slot a critical section changes nothing, unless it is
that of `clear`. -/
theorem Serves.late (h : Serves slot call reply slot')
    (hreason : slot.cancelled = some reason) (thread : Nat) :
    Served.IsLate ⟨thread, call, reply⟩ reason
      ∧ (slot' = slot ∧ call ≠ .clear
        ∨ slot' = { slot with pending := none }) := by
  cases h with
  | publish hnone _ | take hnone _ | consumed hnone _ | cancel hnone =>
      rw [hnone] at hreason
      cases hreason
  | turnAway hfirst =>
      rw [hfirst] at hreason
      cases hreason
      exact ⟨rfl, .inl ⟨rfl, by simp⟩⟩
  | refuse _ | forsake _ | defer _ => exact ⟨rfl, .inl ⟨rfl, by simp⟩⟩
  | clear => exact ⟨trivial, .inr rfl⟩

/-- As long as nobody cancels, the flag is down. -/
theorem Serial.isOpen (h : Serial start earlier last)
    (hnone : start.cancelled = none)
    (hcalls : ∀ served ∈ earlier, ∀ other, served.call ≠ .cancel other) :
    last.cancelled = none := by
  induction h with
  | nil => exact hnone
  | cons thread hserves _ ih =>
      have hfirst := hcalls _ (List.mem_cons_self ..)
      exact ih (hserves.isOpen hnone hfirst)
        fun served hmem => hcalls served (List.mem_cons_of_mem _ hmem)

/-- What comes after a cancellation: the reason stays, every call is
answered accordingly, and a slot that is empty or cleared stays empty. -/
theorem Serial.late (h : Serial start later last)
    (hreason : start.cancelled = some reason) :
    last.cancelled = some reason
      ∧ (∀ served ∈ later, served.IsLate reason)
      ∧ (start.pending = none ∨ (∃ served ∈ later, served.call = .clear) →
        last.pending = none) := by
  induction h with
  | nil =>
      refine ⟨hreason, fun _ hmem => (by cases hmem), ?_⟩
      rintro (hempty | ⟨_, hmem, _⟩)
      · exact hempty
      · cases hmem
  | @cons start slot last call reply later thread hserves _ ih =>
      obtain ⟨hlate, hslot⟩ := hserves.late hreason thread
      have hkept : slot.cancelled = some reason := by
        rcases hslot with ⟨rfl, -⟩ | rfl <;> exact hreason
      obtain ⟨hlast, hreplies, hempty⟩ := ih hkept
      refine ⟨hlast, ?_, fun hcleared => hempty ?_⟩
      · intro served hmem
        rcases List.mem_cons.mp hmem with rfl | hmem
        · exact hlate
        · exact hreplies served hmem
      · rcases hslot with ⟨rfl, hcall⟩ | rfl
        · -- this one was not the `clear`, so it comes later
          refine hcleared.imp id ?_
          rintro ⟨served, hmem, hclear⟩
          rcases List.mem_cons.mp hmem with rfl | hmem
          · exact absurd hclear hcall
          · exact ⟨served, hmem, hclear⟩
        · exact .inl rfl

namespace Room

variable {room : Room}

/-- In a cancelled slot every call that is under way returns with its next
step. -/
theorem exists_enter (hreason : room.slot.cancelled = some reason) {t : Nat}
    (hentering : room.threads t = .entering call) :
    ∃ room' reply, apply (.enter t) room = some room'
      ∧ room'.served = room.served ++ [⟨t, call, reply⟩] := by
  have happly : apply (.enter t) room = some (room.enter t call) := by
    simp only [apply, hentering]
  cases hserve : room.slot.serve? call with
  | none =>
      have hnone := (serve?_eq_none_iff.mp hserve).1
      rw [hnone] at hreason
      cases hreason
  | some result =>
      obtain ⟨reply, slot'⟩ := result
      exact ⟨_, reply, happly, enter_served hserve⟩

/-- A cancellation is permanent and the first one wins, for any number of
threads and any interleaving of their calls.

Let `cancel reason` be the first `cancel` to run. It returns true, and no
later one does. In every later room, which is every room with that call in
its record, the slot is cancelled for this reason. After it every
`publish` and every `awaitTaken` returns false and every `take` that the
session is cancelled for this reason, whether or not a secret is pending;
and the slot is empty once a `clear` has run. No call is blocked, and each
that is under way returns with its next step. -/
theorem Reachable.cancelled_for_good (hroom : Reachable room) {t : Nat}
    (hserved : room.served = earlier ++ ⟨t, .cancel reason, reply⟩ :: later)
    (hfirst : ∀ served ∈ earlier, ∀ other, served.call ≠ .cancel other) :
    reply = .flag true
      ∧ room.slot.cancelled = some reason
      ∧ (∀ served ∈ later,
        (∀ other, served.call = .cancel other → served.reply = .flag false)
          ∧ (∀ secret, served.call = .publish secret →
            served.reply = .flag false)
          ∧ (served.call = .take →
            served.reply = .handed (.cancelled reason))
          ∧ (served.call = .awaitTaken → served.reply = .flag false)
          ∧ (served.call = .clear → room.slot.pending = none))
      ∧ (∀ u call, room.threads u ≠ .parked call)
      ∧ (∀ u call, room.threads u = .entering call →
        ∃ room' answer, apply (.enter u) room = some room'
          ∧ room'.served = room.served ++ [⟨u, call, answer⟩]) := by
  have hserial := hroom.serial
  rw [hserved] at hserial
  obtain ⟨found, hearlier, hrest⟩ := hserial.split
  have hopen : found.cancelled = none := hearlier.isOpen rfl hfirst
  cases hrest with
  | @cons _ left _ _ _ _ _ hserves hlater =>
      obtain ⟨htrue, hleft⟩ : reply = .flag true
          ∧ left.cancelled = some reason := by
        cases hserves with
        | cancel _ => exact ⟨rfl, rfl⟩
        | defer hsome =>
            rw [hopen] at hsome
            cases hsome
      obtain ⟨hreason, hlate, hcleared⟩ := hlater.late hleft
      refine ⟨htrue, hreason, ?replies, ?blocked, ?next⟩
      case replies =>
        intro served hmem
        have hreply := hlate served hmem
        unfold Served.IsLate at hreply
        refine ⟨?_, ?_, ?_, ?_, ?_⟩
        · intro other hcall
          rwa [hcall] at hreply
        · intro secret hcall
          rwa [hcall] at hreply
        · intro hcall
          rwa [hcall] at hreply
        · intro hcall
          rwa [hcall] at hreply
        · intro hcall
          exact hcleared (.inr ⟨served, hmem, hcall⟩)
      case blocked =>
        exact hroom.ne_parked (Option.isSome_of_eq_some hreason)
      case next =>
        intro u call hentering
        exact exists_enter hreason hentering

/-- A second line is blocked behind the first when the exit request comes.
It is refused, the taker does not get the first line either, and the
shutdown is too late to be the reason. -/
theorem cancelled_for_good_blocked_line :
    ∃ room, Reachable room
      ∧ room.served = [⟨0, .publish ⟨[97]⟩, .flag true⟩]
        ++ ⟨2, .cancel .exitRequested, .flag true⟩ ::
          [⟨0, .cancel .shutdown, .flag false⟩,
            ⟨1, .publish ⟨[98]⟩, .flag false⟩,
            ⟨3, .take, .handed (.cancelled .exitRequested)⟩,
            ⟨2, .clear, .flag true⟩]
      ∧ room.slot.cancelled = some .exitRequested
      ∧ room.slot.pending = none
      ∧ ∀ u call, room.threads u ≠ .parked call := by
  obtain ⟨room, hroom, hserved⟩ := Reachable.exists_of_follow
    [.call 0 (.publish ⟨[97]⟩), .enter 0, .call 1 (.publish ⟨[98]⟩),
      .enter 1, .call 2 (.cancel .exitRequested), .enter 2,
      .call 0 (.cancel .shutdown), .enter 0, .enter 1, .call 3 .take,
      .enter 3, .call 2 .clear, .enter 2]
    Room.served
    ([⟨0, .publish ⟨[97]⟩, .flag true⟩]
      ++ ⟨2, .cancel .exitRequested, .flag true⟩ ::
        [⟨0, .cancel .shutdown, .flag false⟩,
          ⟨1, .publish ⟨[98]⟩, .flag false⟩,
          ⟨3, .take, .handed (.cancelled .exitRequested)⟩,
          ⟨2, .clear, .flag true⟩])
    (by decide +kernel)
  obtain ⟨-, hreason, hlater, hblocked, -⟩ :=
    hroom.cancelled_for_good hserved (by simp)
  refine ⟨room, hroom, hserved, hreason, ?_, hblocked⟩
  have hclear := hlater ⟨2, .clear, .flag true⟩ (by simp)
  exact hclear.2.2.2.2 rfl

end Room

end ScreenUnlock.Slot
