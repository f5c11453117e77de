/-
What a session does in one step, in terms of its fields.

The counter goes up by one below its ceiling. Looking at the flag and
recording a verdict each find the session in one of a few ways, and an
inversion lemma for each says which and what was left behind. Neither of
them touches the slot.
-/
import ScreenUnlock.Session.Basic

namespace ScreenUnlock

-- ============================================================ the counter

namespace Counter

variable {counter : Counter}

theorem toNat_ceiling_new (ceiling : UInt32) :
    (new ceiling).ceiling.toNat = max ceiling.toNat 1 := by
  show (if ceiling ≤ 1 then (1 : UInt32) else ceiling).toNat = _
  split
  case isTrue hle =>
    rw [UInt32.le_iff_toNat_le] at hle
    exact (Nat.max_eq_right hle).symm
  case isFalse hlt =>
    rw [UInt32.le_iff_toNat_le] at hlt
    exact (Nat.max_eq_left (Nat.le_of_not_le hlt)).symm

@[simp] theorem ceiling_recordFailure :
    counter.recordFailure.ceiling = counter.ceiling := by
  unfold recordFailure
  split <;> rfl

/-- Below the ceiling a failure counts as one. -/
theorem toNat_recordFailure
    (hbelow : counter.failures.toNat < counter.ceiling.toNat) :
    counter.recordFailure.failures.toNat = counter.failures.toNat + 1 := by
  have hlt : counter.failures < counter.ceiling :=
    UInt32.lt_iff_toNat_lt.mpr hbelow
  have := counter.ceiling.toNat_lt
  rw [recordFailure, if_pos hlt, UInt32.toNat_add, UInt32.toNat_one]
  omega

/-- Failures that are counted at once, within the ceiling. -/
theorem toNat_recordFailures {n : Nat}
    (hle : counter.failures.toNat + n ≤ counter.ceiling.toNat) :
    (counter.recordFailures n).failures.toNat
      = counter.failures.toNat + n := by
  induction n generalizing counter with
  | zero => rw [recordFailures_zero, Nat.add_zero]
  | succ n ih =>
      have hnext : counter.recordFailure.failures.toNat
          = counter.failures.toNat + 1 := toNat_recordFailure (by omega)
      have hrest : counter.recordFailure.failures.toNat + n
          ≤ counter.recordFailure.ceiling.toNat := by
        rw [hnext, ceiling_recordFailure]
        omega
      rw [recordFailures_succ, ih hrest, hnext]
      omega

/-- A counter is known by its ceiling and by what it shows. -/
theorem eq_recordFailures {ceiling : UInt32} {n : Nat}
    (hceiling : counter.ceiling.toNat = max ceiling.toNat 1)
    (hshown : counter.failures.toNat = n) (hle : n ≤ max ceiling.toNat 1) :
    counter = (new ceiling).recordFailures n := by
  have hzero : (new ceiling).failures.toNat = 0 := rfl
  have hwithin : (new ceiling).failures.toNat + n
      ≤ (new ceiling).ceiling.toNat := by
    rw [hzero, toNat_ceiling_new]
    omega
  have hfailures : counter.failures
      = ((new ceiling).recordFailures n).failures := by
    rw [← UInt32.toNat_inj, toNat_recordFailures hwithin, hshown, hzero,
      Nat.zero_add]
  have hsame : counter.ceiling = ((new ceiling).recordFailures n).ceiling := by
    rw [← UInt32.toNat_inj, hceiling]
    exact (toNat_ceiling_new ceiling).symm
  cases counter
  cases hfailures
  cases hsame
  rfl

theorem hasMore_eq :
    counter.hasMore
      = decide (counter.failures.toNat < counter.ceiling.toNat) := by
  unfold hasMore
  rw [decide_eq_decide]
  exact UInt32.lt_iff_toNat_lt

end Counter

/-- Whether the attempt failed. -/
def Verdict.isRejected : Verdict → Bool
  | .accepted => false
  | .rejected _ => true

-- =========================================================== the session

namespace Session

variable {session session' : Session}

/-- What looking at the flag can find. -/
theorem observe_inv {found : Option Outcome}
    (h : session.observe = (found, session')) :
    (∃ outcome, found = some outcome ∧ session.outcome = some outcome
        ∧ session' = session)
      ∨ (∃ reason, found = some (.cancelled reason) ∧ session.outcome = none
        ∧ session.slot.cancelled = some reason
        ∧ session' = session.finish (.cancelled reason))
      ∨ (found = none ∧ session.outcome = none
        ∧ session.slot.cancelled = none ∧ session' = session) := by
  unfold observe at h
  split at h
  case h_1 _ outcome houtcome =>
    cases h
    exact .inl ⟨outcome, rfl, houtcome, rfl⟩
  case h_2 reason hnone hreason =>
    cases h
    exact .inr (.inl ⟨reason, rfl, hnone, hreason, rfl⟩)
  case h_3 hnone hopen =>
    cases h
    exact .inr (.inr ⟨rfl, hnone, hopen, rfl⟩)

/-- The session with one more rejected attempt. -/
def counted (session : Session) : Session :=
  { session with counter := session.counter.recordFailure }

/-- The retry policy, case by case. -/
theorem record_inv {verdict : Verdict} {step : Step}
    (h : session.record verdict = (step, session')) :
    (∃ outcome, session.outcome = some outcome ∧ step = .finish outcome
        ∧ session' = session)
      ∨ (session.outcome = none ∧ verdict = .accepted
        ∧ step = .finish .authenticated
        ∧ session' = session.finish .authenticated)
      ∨ (∃ cause reason, session.outcome = none ∧ verdict = .rejected cause
        ∧ session.slot.cancelled = some reason
        ∧ step = .finish (.cancelled reason)
        ∧ session' = session.finish (.cancelled reason))
      ∨ (∃ cause, session.outcome = none ∧ verdict = .rejected cause
        ∧ session.slot.cancelled = none
        ∧ session.counter.recordFailure.hasMore = true
        ∧ step = .retry ∧ session' = session.counted)
      ∨ (∃ cause, session.outcome = none ∧ verdict = .rejected cause
        ∧ session.slot.cancelled = none
        ∧ session.counter.recordFailure.hasMore = false
        ∧ step = .finish .exhausted
        ∧ session' = session.counted.finish .exhausted) := by
  unfold record at h
  split at h
  case h_1 outcome houtcome =>
    cases h
    exact .inl ⟨outcome, houtcome, rfl, rfl⟩
  case h_2 hnone =>
    cases h
    exact .inr (.inl ⟨hnone, rfl, rfl, rfl⟩)
  case h_3 cause reason hnone hreason =>
    cases h
    exact .inr (.inr (.inl ⟨cause, reason, hnone, rfl, hreason, rfl, rfl⟩))
  case h_4 cause hnone hopen =>
    simp only at h
    split at h
    case isTrue hmore =>
      cases h
      exact .inr (.inr (.inr (.inl
        ⟨cause, hnone, rfl, hopen, hmore, rfl, rfl⟩)))
    case isFalse hmore =>
      cases h
      exact .inr (.inr (.inr (.inr
        ⟨cause, hnone, rfl, hopen, Bool.eq_false_iff.mpr hmore, rfl, rfl⟩)))

/-- Neither of them touches the slot. -/
theorem observe_slot {found : Option Outcome}
    (h : session.observe = (found, session')) :
    session'.slot = session.slot := by
  rcases observe_inv h with ⟨_, -, -, rfl⟩ | ⟨_, -, -, -, rfl⟩
    | ⟨-, -, -, rfl⟩ <;> rfl

theorem record_slot {verdict : Verdict} {step : Step}
    (h : session.record verdict = (step, session')) :
    session'.slot = session.slot := by
  rcases record_inv h with ⟨_, -, -, rfl⟩ | ⟨-, -, -, rfl⟩
    | ⟨_, _, -, -, -, -, rfl⟩ | ⟨_, -, -, -, -, -, rfl⟩
    | ⟨_, -, -, -, -, -, rfl⟩ <;> rfl

/-- Another attempt follows only while nobody has cancelled. -/
theorem cancelled_of_retry {verdict : Verdict}
    (h : session.record verdict = (.retry, session')) :
    session.slot.cancelled = none := by
  rcases record_inv h with ⟨_, -, hstep, -⟩ | ⟨-, -, hstep, -⟩
    | ⟨_, _, -, -, -, hstep, -⟩ | ⟨_, -, -, hopen, -, -, -⟩
    | ⟨_, -, -, -, -, hstep, -⟩
  · cases hstep
  · cases hstep
  · cases hstep
  · exact hopen
  · cases hstep

/-- A session without an outcome ends before an attempt only because it
was cancelled. -/
theorem observe_open {outcome : Outcome} (hopen : session.outcome = none)
    (h : session.observe = (some outcome, session')) :
    ∃ reason, outcome = .cancelled reason
      ∧ session.slot.cancelled = some reason := by
  rcases observe_inv h with ⟨_, -, hsome, -⟩ | ⟨reason, heq, -, hreason, -⟩
    | ⟨heq, -⟩
  · rw [hopen] at hsome
    cases hsome
  · cases heq
    exact ⟨reason, rfl, hreason⟩
  · cases heq

/-- What follows from a verdict while the session has no outcome: an
acceptance ends it as authenticated, and in a cancelled session nothing
but an acceptance can end it otherwise than cancelled. -/
theorem record_open {verdict : Verdict} {step : Step}
    (hopen : session.outcome = none)
    (h : session.record verdict = (step, session')) :
    (verdict = .accepted ↔ step = .finish .authenticated)
      ∧ (session.slot.cancelled.isSome = true → verdict = .accepted
        ∨ ∃ reason, step = .finish (.cancelled reason)) := by
  rcases record_inv h with ⟨_, hsome, -⟩ | ⟨-, rfl, rfl, -⟩
    | ⟨cause, reason, -, rfl, -, rfl, -⟩ | ⟨cause, -, rfl, hnone, -, rfl, -⟩
    | ⟨cause, -, rfl, hnone, -, rfl, -⟩
  · rw [hopen] at hsome
    cases hsome
  · exact ⟨⟨fun _ => rfl, fun _ => rfl⟩, fun _ => .inl rfl⟩
  · exact ⟨by simp, fun _ => .inr ⟨reason, rfl⟩⟩
  · exact ⟨by simp, fun hsome => by simp [hnone] at hsome⟩
  · exact ⟨by simp, fun hsome => by simp [hnone] at hsome⟩

/-- How a cancelled session ends after an attempt. -/
theorem outcome_of_record {verdict : Verdict} {outcome : Outcome}
    (hopen : session.outcome = none)
    (hcancelled : session.slot.cancelled.isSome = true)
    (h : session.record verdict = (.finish outcome, session')) :
    (∃ reason, outcome = .cancelled reason) ∨ outcome = .authenticated := by
  obtain ⟨haccepted, hrejected⟩ := record_open hopen h
  rcases hrejected hcancelled with hverdict | ⟨reason, hreason⟩
  · cases haccepted.mp hverdict
    exact .inr rfl
  · cases hreason
    exact .inl ⟨reason, rfl⟩

/-- The reason that is found after an attempt is the first one. -/
theorem cancelled_of_record {verdict : Verdict} {reason : CancelReason}
    (hopen : session.outcome = none)
    (h : session.record verdict = (.finish (.cancelled reason), session')) :
    session.slot.cancelled = some reason := by
  rcases record_inv h with ⟨_, hsome, -⟩ | ⟨-, -, hstep, -⟩
    | ⟨cause, reason', -, -, hreason, hstep, -⟩ | ⟨_, -, -, -, -, hstep, -⟩
    | ⟨_, -, -, -, -, hstep, -⟩
  · rw [hopen] at hsome
    cases hsome
  · cases hstep
  · cases hstep
    exact hreason
  · cases hstep
  · cases hstep

end Session

end ScreenUnlock
