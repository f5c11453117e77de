/-
The cancellation flag, and what a history tells of it.

The flag is raised by the reader at the end of its input, by an attempt
that took an exit request, and by the dispatch loop when it stops. Each
of them leaves a trace in the history, and the flag is up exactly from
the first trace on (`Run.flagged`). So "recorded while the session
was not cancelled" is a statement about a history alone: it is about the
part before the first trace, `untilCancelled`. The first trace also names
the reason that the slot keeps (`Run.cancelled_eq`).
-/
import ScreenUnlock.Proofs.Dispatch.History

namespace ScreenUnlock.Dispatch

/-- Whether somebody cancels the session in an event. -/
def Event.cancels : Event → Bool
  | .reader (.cancelled _) => true
  | .attempt _ (.conversed (.cancel _)) => true
  | .cancelled _ => true
  | _ => false

/-- The reason that an event gives for a cancellation. -/
def Event.reason? : Event → Option CancelReason
  | .reader (.cancelled reason) => some reason
  | .attempt _ (.conversed (.cancel reason)) => some reason
  | .cancelled reason => some reason
  | _ => none

/-- The first reason that was given. -/
def firstReason (history : List Event) : Option CancelReason :=
  history.findSome? Event.reason?

/-- What happened before the session was cancelled. -/
def untilCancelled (history : List Event) : List Event :=
  history.takeWhile fun event => !event.cancels

/-- The verdicts that were recorded before the session was cancelled. -/
def timely (history : List Event) : List Verdict :=
  verdicts (untilCancelled history)

variable {setup : Setup} {context : AuthContext} {maxFailures : UInt32}
  {sink : Sink} {history later events : List Event}
  {given state state' : State} {action : Action} {reason : CancelReason}

open State (Arm arm_of_apply)

-- ================================================ the part that is timely

theorem untilCancelled_of_none (h : ∀ event ∈ history, event.cancels = false) :
    untilCancelled history = history :=
  List.takeWhile_eq_self_iff.mpr fun event hmem => by simp [h event hmem]

/-- As long as nobody has cancelled, every verdict is timely. -/
theorem timely_of_none (h : ∀ event ∈ history, event.cancels = false) :
    timely history = verdicts history := by
  rw [timely, untilCancelled_of_none h]

/-- Once somebody has cancelled, the timely part is complete. -/
theorem untilCancelled_append_of_some
    (h : ∃ event ∈ history, event.cancels = true) :
    untilCancelled (history ++ events) = untilCancelled history := by
  obtain ⟨event, hmem, hcancels⟩ := h
  exact takeWhile_append_of_mem ⟨event, hmem, by rw [hcancels]; rfl⟩ events

/-- What records no verdict adds no timely one. -/
theorem timely_append_of_nil (h : verdicts events = []) :
    timely (history ++ events) = timely history := by
  by_cases hcancelled : ∃ event ∈ history, event.cancels = true
  · rw [timely, untilCancelled_append_of_some hcancelled, timely]
  · have hnone : ∀ event ∈ history, event.cancels = false :=
      fun event hmem => Bool.eq_false_iff.mpr
        fun hcancels => hcancelled ⟨event, hmem, hcancels⟩
    -- the timely part of `events` is a part of them
    have hpart : verdicts (untilCancelled events) = [] := by
      have hsub : List.Sublist (untilCancelled events) events :=
        (List.takeWhile_prefix _).sublist
      have := hsub.filterMap Event.verdict?
      rw [show events.filterMap Event.verdict? = [] from h] at this
      exact List.sublist_nil.mp this
    rw [timely_of_none hnone, timely, untilCancelled,
      List.takeWhile_append_of_pos fun event hmem => by
        simp [hnone event hmem],
      verdicts_append]
    exact (congrArg (verdicts history ++ ·) hpart).trans (List.append_nil _)

-- ============================================================== the flag

@[simp] theorem firstReason_append (history later : List Event) :
    firstReason (history ++ later)
      = (firstReason history).or (firstReason later) :=
  List.findSome?_append

/-- Somebody cancels exactly when a reason is given. -/
theorem Event.cancels_eq (event : Event) :
    event.cancels = event.reason?.isSome := by
  unfold Event.cancels Event.reason?
  split <;> rfl

/-- A reason that was there before stays; otherwise it is the first that
the step gives. -/
theorem State.Arm.cancelled_eq
    (harm : Arm setup state action state' events) :
    state'.session.slot.cancelled
      = state.session.slot.cancelled.or (firstReason events) := by
  -- the reader, an attempt and `stop` can give one
  cases harm with
  | @reader action next harm =>
      show next.slot.cancelled = _
      cases harm with
      | cancel _ hnone =>
          rw [hnone]
          rfl
      | sweep _ =>
          cases state.session.slot.pending <;> exact Option.or_none.symm
      | _ => exact Option.or_none.symm
  | @attempt number attempt next _ harm =>
      show next.slot.cancelled = _
      cases harm with
      | converse harm =>
          cases harm with
          | exit =>
              rw [Slot.cancel_cancelled]
              exact Option.or_some.symm
          | _ => exact Option.or_none.symm
      | _ => exact Option.or_none.symm
  | halt _ hobserve hwrote =>
      have hslot := Session.observe_slot hobserve
      cases hwrote <;> rw [hslot] <;> exact Option.or_none.symm
  | proceed _ hobserve =>
      rw [Session.observe_slot hobserve]
      exact Option.or_none.symm
  | retry _ _ hrecord hwrote | conclude _ _ hrecord hwrote =>
      have hslot := Session.record_slot hrecord
      cases hwrote <;> rw [hslot] <;> exact Option.or_none.symm
  | forward _ _ hwrote | drain _ _ hwrote =>
      cases hwrote <;> exact Option.or_none.symm
  | stop _ =>
      show (state.session.slot.cancel .shutdown).2.cancelled = _
      cases hcancelled : state.session.slot.cancelled with
      | none =>
          rw [Slot.cancel_of_none hcancelled]
          rfl
      | some reason =>
          rw [Slot.cancel_of_isSome (by rw [hcancelled]; rfl)]
          exact hcancelled
  | sweep _ =>
      show state.session.slot.cancelled = _
      cases state.session.slot.pending <;> exact Option.or_none.symm
  | _ => exact Option.or_none.symm

/-- A step raises the flag exactly if it leaves a trace of that. -/
theorem State.Arm.cancelled_iff
    (harm : Arm setup state action state' events) :
    state'.session.slot.cancelled.isSome = true ↔
      state.session.slot.cancelled.isSome = true
        ∨ ∃ event ∈ events, event.cancels = true := by
  rw [harm.cancelled_eq, Option.isSome_or, Bool.or_eq_true, firstReason,
    List.findSome?_isSome_iff]
  simp only [Event.cancels_eq]

/-- A run keeps the reason that it found, else the first that is given. -/
theorem Run.cancelled_or (hrun : Run setup given later state) :
    state.session.slot.cancelled
      = given.session.slot.cancelled.or (firstReason later) := by
  induction hrun with
  | init => exact Option.or_none.symm
  | step action _ hstep ih =>
      rw [(arm_of_apply hstep).cancelled_eq, ih, firstReason_append,
        Option.or_assoc]

/-- In every run the slot keeps the first reason that was given. -/
theorem Run.cancelled_eq
    (hrun : Run setup (.start setup (.new context maxFailures) sink)
      history state) :
    state.session.slot.cancelled = firstReason history := by
  rw [hrun.cancelled_or]
  exact Option.none_or

/-- The slot is cancelled exactly if somebody has cancelled it. -/
def Flagged (history : List Event) (slot : Slot) : Prop :=
  slot.cancelled.isSome = true ↔ ∃ event ∈ history, event.cancels = true

theorem Flagged.cancels_eq_false {slot : Slot} (h : Flagged history slot)
    (hnone : slot.cancelled = none) :
    ∀ event ∈ history, event.cancels = false := by
  intro event hmem
  rw [← Bool.not_eq_true]
  intro hcancels
  have hsome := h.mpr ⟨event, hmem, hcancels⟩
  rw [hnone] at hsome
  cases hsome

theorem Run.flagged
    (hrun : Run setup (.start setup (.new context maxFailures) sink)
      history state) : Flagged history state.session.slot := by
  induction hrun with
  | init => simp [Flagged, State.start, Session.new, Slot.empty]
  | step action _ hstep ih =>
      unfold Flagged at ih ⊢
      rw [(arm_of_apply hstep).cancelled_iff, ih]
      simp only [List.mem_append, or_and_right, exists_or]

-- ============================================================ the reasons

/-- The reader gives only one reason. -/
theorem firstReason_reader {reader : Reader} {slot : Slot}
    {action : Reader.Action} {next : Reader.Next}
    (harm : Reader.Arm reader slot action next)
    (h : firstReason (next.effect.map Event.reader).toList = some reason) :
    reason = .inputClosed := by
  cases harm with
  | cancel _ _ =>
      cases h
      rfl
  | sweep _ => cases hpending : slot.pending <;> rw [hpending] at h <;> cases h
  | _ => cases h

/-- An attempt gives only one reason. -/
theorem firstReason_attempt {clock number : Nat} {slot : Slot}
    {attempt : Attempt} {next : Attempt.Next}
    (harm : Attempt.Arm clock slot attempt next)
    (h : firstReason (next.effect.map (Event.attempt number)).toList
      = some reason) : reason = .exitRequested := by
  cases harm with
  | converse harm =>
      cases harm with
      | exit =>
          cases h
          rfl
      | _ => cases h
  | _ => cases h

/-- The loop gives only one reason, when it stops. -/
theorem State.Arm.stopping_of_firstReason {move : Move}
    (harm : Arm setup state (.move move) state' events)
    (h : firstReason events = some reason) :
    move = .stop ∧ reason = .shutdown
      ∧ state.session.slot.cancelled = none
      ∧ ∃ ending, state.phase = .stopping ending := by
  cases harm with
  | @stop ending hphase =>
      cases hcancelled : state.session.slot.cancelled with
      | none =>
          rw [Slot.cancel_of_none hcancelled] at h
          cases h
          exact ⟨rfl, rfl, rfl, ending, hphase⟩
      | some first =>
          rw [Slot.cancel_of_isSome (by rw [hcancelled]; rfl)] at h
          cases h
  | halt _ _ hwrote | forward _ _ hwrote | drain _ _ hwrote
  | retry _ _ _ hwrote | conclude _ _ _ hwrote => cases hwrote <;> cases h
  | sweep _ =>
      cases hpending : state.session.slot.pending <;> rw [hpending] at h <;>
        cases h
  | _ => cases h

/-- Nobody else gives that reason. -/
theorem State.Arm.eq_stop_of_shutdown
    (harm : Arm setup state action state' events)
    (h : firstReason events = some .shutdown) : action = .move .stop := by
  cases action with
  | reader action =>
      cases harm with
      | reader harm => cases firstReason_reader harm h
  | attempt number =>
      cases harm with
      | attempt _ harm => cases firstReason_attempt harm h
  | move move =>
      obtain ⟨rfl, -⟩ := harm.stopping_of_firstReason h
      rfl
  | elapse milliseconds =>
      cases harm
      cases h

end ScreenUnlock.Dispatch
