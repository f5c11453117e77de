/-
What each operation of the slot does, in terms of its two fields.

An operation that can run has found the slot in one of a few ways, and
its inversion lemma says which and what it left behind. The flag decides
first everywhere: once the slot is cancelled nothing is put in and
nothing comes out.
-/
import ScreenUnlock.Slot.Basic

namespace ScreenUnlock.Slot

variable {slot slot' : Slot}

theorem publish?_inv {secret : Secret} {done : Bool}
    (h : slot.publish? secret = some (done, slot')) :
    (done = false ∧ slot.cancelled.isSome = true ∧ slot' = slot)
      ∨ (done = true ∧ slot.cancelled = none ∧ slot.pending = none
        ∧ slot' = { slot with pending := some secret }) := by
  unfold publish? at h
  split at h
  case h_1 reason _ hreason =>
    cases h
    exact .inl ⟨rfl, by rw [hreason]; rfl, rfl⟩
  case h_2 => cases h
  case h_3 hnone hempty =>
    cases h
    exact .inr ⟨rfl, hnone, hempty, rfl⟩

theorem take?_inv {handoff : Handoff}
    (h : slot.take? = some (handoff, slot')) :
    (∃ reason, handoff = .cancelled reason ∧ slot.cancelled = some reason
        ∧ slot' = slot)
      ∨ (∃ secret, handoff = .secret secret ∧ slot.cancelled = none
        ∧ slot.pending = some secret
        ∧ slot' = { slot with pending := none }) := by
  unfold take? at h
  split at h
  case h_1 _ reason hreason =>
    cases h
    exact .inl ⟨reason, rfl, hreason, rfl⟩
  case h_2 secret hnone hpending =>
    cases h
    exact .inr ⟨secret, rfl, hnone, hpending, rfl⟩
  case h_3 => cases h

theorem consumed?_inv {taken : Bool} (h : slot.consumed? = some taken) :
    (taken = false ∧ slot.cancelled.isSome = true)
      ∨ (taken = true ∧ slot.cancelled = none ∧ slot.pending = none) := by
  unfold consumed? at h
  split at h
  case h_1 reason _ hreason =>
    cases h
    exact .inl ⟨rfl, by rw [hreason]; rfl⟩
  case h_2 => cases h
  case h_3 hnone hempty =>
    cases h
    exact .inr ⟨rfl, hnone, hempty⟩

@[simp] theorem cancel_pending (slot : Slot) (reason : CancelReason) :
    (slot.cancel reason).2.pending = slot.pending := by
  unfold cancel
  split <;> rfl

/-- A slot that is cancelled stays as it is. -/
theorem cancel_of_isSome (h : slot.cancelled.isSome = true)
    (reason : CancelReason) : slot.cancel reason = (false, slot) := by
  obtain ⟨first, hfirst⟩ := Option.isSome_iff_exists.mp h
  unfold cancel
  rw [hfirst]

theorem cancel_of_none (h : slot.cancelled = none) (reason : CancelReason) :
    slot.cancel reason = (true, { slot with cancelled := some reason }) := by
  unfold cancel
  rw [h]

/-- After a cancellation there is a reason, the first that was given. -/
@[simp] theorem cancel_cancelled (slot : Slot) (reason : CancelReason) :
    (slot.cancel reason).2.cancelled = some (slot.cancelled.getD reason) := by
  unfold cancel
  split
  case h_1 first hfirst => rw [hfirst, Option.getD_some]
  case h_2 hnone => rw [hnone, Option.getD_none]

end ScreenUnlock.Slot
