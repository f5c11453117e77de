/-
What the reader can do, arm by arm.

`Reader.Arm` lists every step of the reader with its guards, in terms of
the fields of the slot. `Reader.arm_of_apply` says that the list is
complete, so an invariant of the reader is a case analysis over the arms
and opens no definition.
-/
import ScreenUnlock.Input.Reader
import ScreenUnlock.Proofs.Slot

namespace ScreenUnlock

namespace Reader

/-- A step of the reader: what it asks the system, and what it leads
to. -/
inductive Arm (reader : Reader) (slot : Slot) : Action → Next → Prop where
  | halt : reader.phase = .looking → slot.cancelled.isSome = true →
      Arm reader slot .step ⟨reader.goto .leaving, slot, none⟩
  | extract {line : Secret} {buffer : LineBuffer} :
      reader.phase = .looking → slot.cancelled = none →
      reader.buffer.nextLine? = some (line, buffer) →
      Arm reader slot .step ⟨{ phase := .offering line, buffer }, slot, none⟩
  -- The buffer has no complete line.
  | drained : reader.phase = .looking → slot.cancelled = none →
      reader.buffer.nextLine? = none →
      Arm reader slot .step ⟨reader.goto .polling, slot, none⟩
  | publish {line : Secret} : reader.phase = .offering line →
      slot.cancelled = none → slot.pending = none →
      Arm reader slot .step ⟨reader.goto .awaiting,
        { slot with pending := some line }, some (.published line)⟩
  | refuse {line : Secret} : reader.phase = .offering line →
      slot.cancelled.isSome = true →
      Arm reader slot .step
        ⟨reader.goto .leaving, slot, some (.refused line)⟩
  | consumed : reader.phase = .awaiting → slot.cancelled = none →
      slot.pending = none →
      Arm reader slot .step ⟨reader.goto .looking, slot, none⟩
  -- The session is cancelled while the line waits.
  | forsake : reader.phase = .awaiting → slot.cancelled.isSome = true →
      Arm reader slot .step ⟨reader.goto .leaving, slot, none⟩
  | cancel : reader.phase = .leaving → slot.cancelled = none →
      Arm reader slot .step
        ⟨{ phase := .sweeping, buffer := reader.buffer.clear },
          { slot with cancelled := some .inputClosed },
          some (.cancelled .inputClosed)⟩
  -- Somebody has cancelled the session before.
  | defer : reader.phase = .leaving → slot.cancelled.isSome = true →
      Arm reader slot .step
        ⟨{ phase := .sweeping, buffer := reader.buffer.clear }, slot, none⟩
  | sweep : reader.phase = .sweeping →
      Arm reader slot .step ⟨reader.goto .finished,
        { slot with pending := none }, slot.pending.map .swept⟩
  | poll (readiness : Readiness) : reader.phase = .polling →
      Arm reader slot (.poll readiness)
        ⟨reader.goto (afterPoll readiness), slot, none⟩
  | receive {data : Bytes} : reader.phase = .reading →
      0 < data.length → data.length ≤ readChunk →
      Arm reader slot (.read (.bytes data))
        ⟨{ phase := .looking, buffer := reader.buffer.push data }, slot,
          some (.received data)⟩
  | retry {arrival : Arrival} : reader.phase = .reading →
      arrival = .interrupted ∨ arrival = .wouldBlock →
      Arm reader slot (.read arrival) ⟨reader.goto .looking, slot, none⟩
  | close {arrival : Arrival} : reader.phase = .reading →
      arrival = .endOfInput ∨ arrival = .failed →
      Arm reader slot (.read arrival) ⟨reader.goto .leaving, slot, none⟩
  -- The read brings the thread down.
  | crash : reader.phase = .reading →
      Arm reader slot (.read .crashed) ⟨reader.goto .crashed, slot, none⟩

variable {reader : Reader} {slot : Slot} {next : Next}

theorem arm_of_step (hstep : reader.step? slot = some next) :
    Arm reader slot .step next := by
  unfold step? at hstep
  split at hstep
  case h_1 hphase =>
    split at hstep
    case h_1 reason hreason =>
      cases hstep
      exact .halt hphase (by rw [hreason]; rfl)
    case h_2 hnone =>
      split at hstep
      case h_1 line buffer hline =>
        cases hstep
        exact .extract hphase hnone hline
      case h_2 hline =>
        cases hstep
        exact .drained hphase hnone hline
  case h_2 line hphase =>
    split at hstep
    case h_1 => cases hstep
    case h_2 slot' hpublish =>
      rcases Slot.publish?_inv hpublish with ⟨hdone, -⟩
        | ⟨-, hnone, hempty, rfl⟩
      · cases hdone
      · cases hstep
        exact .publish hphase hnone hempty
    case h_3 slot' hpublish =>
      rcases Slot.publish?_inv hpublish with ⟨-, hsome, rfl⟩ | ⟨hdone, -⟩
      · cases hstep
        exact .refuse hphase hsome
      · cases hdone
  case h_3 hphase =>
    split at hstep
    case h_1 => cases hstep
    case h_2 hconsumed =>
      rcases Slot.consumed?_inv hconsumed with ⟨htaken, -⟩ | ⟨-, hnone, hempty⟩
      · cases htaken
      · cases hstep
        exact .consumed hphase hnone hempty
    case h_3 hconsumed =>
      rcases Slot.consumed?_inv hconsumed with ⟨-, hsome⟩ | ⟨htaken, -⟩
      · cases hstep
        exact .forsake hphase hsome
      · cases htaken
  case h_4 hphase =>
    cases hcancelled : slot.cancelled with
    | none =>
        rw [Slot.cancel_of_none hcancelled] at hstep
        cases hstep
        exact .cancel hphase hcancelled
    | some reason =>
        have hsome : slot.cancelled.isSome = true := by rw [hcancelled]; rfl
        rw [Slot.cancel_of_isSome hsome] at hstep
        cases hstep
        exact .defer hphase hsome
  case h_5 hphase =>
    cases hstep
    exact .sweep hphase
  case h_6 => cases hstep

/-- Every step of the reader is one of the arms. -/
theorem arm_of_apply {action : Action}
    (hstep : apply action reader slot = some next) :
    Arm reader slot action next := by
  unfold apply at hstep
  split at hstep
  case h_1 => exact arm_of_step hstep
  case h_2 readiness hphase =>
    cases hstep
    exact .poll readiness hphase
  case h_3 arrival hphase =>
    cases arrival with
    | bytes data =>
        simp only [afterRead?] at hstep
        split at hstep
        case isTrue hsize =>
          cases hstep
          exact .receive hphase hsize.1 hsize.2
        case isFalse => cases hstep
    | endOfInput =>
        cases hstep
        exact .close hphase (.inl rfl)
    | interrupted =>
        cases hstep
        exact .retry hphase (.inl rfl)
    | wouldBlock =>
        cases hstep
        exact .retry hphase (.inr rfl)
    | failed =>
        cases hstep
        exact .close hphase (.inr rfl)
    | crashed =>
        cases hstep
        exact .crash hphase
  case h_4 => cases hstep

/-- A new reader is at its start, unless it broke down at once. -/
theorem phase_of_new {maxLineLen : Nat} {phase : Phase}
    (h : (new maxLineLen).phase = phase) :
    phase = .looking ∨ phase = .crashed := by
  unfold new at h
  split at h
  · exact .inl h.symm
  · exact .inr h.symm

/-- A reader that is over does nothing more. -/
theorem Arm.not_isOver {action : Action} (harm : Arm reader slot action next) :
    reader.isOver = false := by
  unfold isOver
  cases harm <;> simp [*]

/-- What the reader does to the slot: nothing, or it puts a line in,
cancels the session, or drops the line at its end. -/
theorem Arm.slot_cases {action : Action}
    (harm : Arm reader slot action next) :
    (next.slot = slot ∧ (∀ line, next.effect ≠ some (.published line)))
      ∨ (∃ line, reader.phase = .offering line ∧ slot.cancelled = none
        ∧ slot.pending = none ∧ next.reader = reader.goto .awaiting
        ∧ next.slot = { slot with pending := some line }
        ∧ next.effect = some (.published line))
      ∨ (reader.phase = .leaving ∧ slot.cancelled = none
        ∧ next.slot = { slot with cancelled := some .inputClosed }
        ∧ next.effect = some (.cancelled .inputClosed))
      ∨ (reader.phase = .sweeping
        ∧ next.slot = { slot with pending := none }
        ∧ next.effect = slot.pending.map .swept) := by
  cases harm with
  | publish hphase hnone hempty =>
      exact .inr (.inl ⟨_, hphase, hnone, hempty, rfl, rfl, rfl⟩)
  | cancel hphase hnone => exact .inr (.inr (.inl ⟨hphase, hnone, rfl, rfl⟩))
  | sweep hphase => exact .inr (.inr (.inr ⟨hphase, rfl, rfl⟩))
  | _ => exact .inl ⟨rfl, fun _ h => by cases h⟩

/-- A reader that has put a line into the slot waits there, until the line
is gone or somebody has cancelled. -/
theorem Arm.waiting {action : Action} (harm : Arm reader slot action next)
    (h : slot.cancelled = none → slot.pending.isSome = true →
      reader.phase = .awaiting)
    (hnone : next.slot.cancelled = none)
    (hsome : next.slot.pending.isSome = true) :
    next.reader.phase = .awaiting := by
  cases harm with
  | publish _ _ _ => rfl
  | cancel _ _ => cases hnone
  | sweep _ => cases hsome
  | consumed _ _ hempty =>
      rw [hempty] at hsome
      cases hsome
  | halt _ hcancelled | refuse _ hcancelled | forsake _ hcancelled
  | defer _ hcancelled =>
      rw [hnone] at hcancelled
      cases hcancelled
  | extract hphase _ _ | drained hphase _ _ | poll _ hphase
  | receive hphase _ _ | retry hphase _ | close hphase _ | crash hphase =>
      have hwait := h hnone hsome
      rw [hphase] at hwait
      cases hwait

/-- A reader that has done its work has found or left the session
cancelled. -/
theorem Arm.left {action : Action} (harm : Arm reader slot action next)
    (h : reader.phase = .sweeping ∨ reader.phase = .finished →
      slot.cancelled.isSome = true)
    (hleft : next.reader.phase = .sweeping ∨ next.reader.phase = .finished) :
    next.slot.cancelled.isSome = true := by
  cases harm with
  | cancel _ _ => rfl
  | defer _ hsome => exact hsome
  | sweep hphase => exact h (.inl hphase)
  | poll readiness _ => cases readiness <;> cases hleft <;> contradiction
  | _ => cases hleft <;> contradiction

/-- The reader never takes a cancellation back. -/
theorem Arm.cancelled_mono {action : Action}
    (harm : Arm reader slot action next) {reason : CancelReason}
    (h : slot.cancelled = some reason) :
    next.slot.cancelled = some reason := by
  rcases harm.slot_cases with ⟨hslot, -⟩ | ⟨_, -, hnone, -⟩ | ⟨-, hnone, -⟩
    | ⟨-, hslot, -⟩
  · rw [hslot, h]
  · rw [hnone] at h
    cases h
  · rw [hnone] at h
    cases h
  · rw [hslot]
    exact h

end Reader

end ScreenUnlock
