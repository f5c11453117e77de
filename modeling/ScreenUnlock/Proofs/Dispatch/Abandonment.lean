/-
An attempt that is given up is the last one.

The dispatch loop makes a plain rejection of it, and a rejected attempt
is retried. That no second attempt starts beside the first, and that the
first gets no line any more, is owed to an order that is kept elsewhere:
the reader cancels the session and empties the slot before it is over,
and the loop sets a deadline only when it has seen that the reader is
over. So the slot is sealed by then (`Sealed`), and nothing that any
thread does breaks the seal (`Run.sealed`). A reader that broke down has
done neither, and none of this holds.

# Giving up

Giving an attempt up ends with its record. Until then the loop writes
what the channel holds, as after an attempt that returned, and the
attempt may still add to that (`Stage.emptying`). With the record the
session is over, as cancelled, and nobody hears the attempt any more.
`Stage` is the part of the invariant that moves; the rest of it says what
stays as it was when the attempt was given up (`Dismissed`).

# The end

The loop waits for nothing on its way from there to its end, as the
reader is over: from every state that can follow, its own moves alone
bring it to its return (`Returns`).
-/
import ScreenUnlock.Proofs.Dispatch.Ceiling
import ScreenUnlock.Proofs.Dispatch.Delivery
import ScreenUnlock.Proofs.Dispatch.Shutdown
import ScreenUnlock.Proofs.Dispatch.Writing

namespace ScreenUnlock.Dispatch

open State (Arm Wrote arm_of_apply)

variable {setup : Setup} {context : AuthContext} {maxFailures : UInt32}
  {sink : Sink} {history later events : List Event}
  {given state state' : State} {action : Action} {reason : CancelReason}

-- ============================================================= the seal

/-- The reader is over and has left the slot cancelled, for this reason,
and empty. -/
structure Sealed (reason : CancelReason) (state : State) : Prop where
  reader : state.reader.phase = .finished
  slot : state.session.slot = { pending := none, cancelled := some reason }

theorem Sealed.isOver (h : Sealed reason state) :
    state.reader.isOver = true := by
  unfold Reader.isOver
  rw [h.reader]

theorem Sealed.cancelled (h : Sealed reason state) :
    state.session.slot.cancelled = some reason := by
  rw [h.slot]

/-- A sealed slot stays as it is. -/
theorem Sealed.step (h : Sealed reason state)
    (harm : Arm setup state action state' events) :
    Sealed reason state' where
  slot := Barren.step h.slot harm
  reader := by
    cases action with
    | reader action =>
        cases harm with
        | reader harm => cases harm.not_isOver.symm.trans h.isOver
    | attempt number =>
        cases harm
        exact h.reader
    | move move => exact harm.reader_of_move ▸ h.reader
    | elapse milliseconds =>
        cases harm
        exact h.reader

/-- The message that an attempt says in an event. -/
def Event.said? : Event → Option Message
  | .attempt _ effect => Attempt.Effect.said? effect
  | _ => none

/-- The messages of all attempts. -/
def said (history : List Event) : List Message :=
  history.filterMap Event.said?

/-- What was recorded. -/
def records (history : List Event) : List Event :=
  history.filter fun event => event.verdict?.isSome

/-- What happened before a verdict was recorded. -/
def untilRecorded (history : List Event) : List Event :=
  history.takeWhile fun event => event.verdict?.isNone

@[simp] theorem said_append (history later : List Event) :
    said (history ++ later) = said history ++ said later := by
  simp [said]

@[simp] theorem records_append (history later : List Event) :
    records (history ++ later) = records history ++ records later := by
  simp [records]

theorem records_of_rests (h : LoopRests events) : records events = [] := by
  refine List.filter_eq_nil_iff.mpr fun event hmem => ?_
  rw [List.filterMap_eq_nil_iff.mp h.verdicts event hmem]
  exact Bool.false_ne_true

theorem said_attempt (number : Nat) (effect : Option Attempt.Effect) :
    said (effect.map (Event.attempt number)).toList
      = (effect.bind Attempt.Effect.said?).toList := by
  cases effect with
  | none => rfl
  | some effect =>
      cases hsaid : Attempt.Effect.said? effect <;>
        simp [said, Event.said?, hsaid]

theorem untilRecorded_of_nil (h : records later = []) :
    untilRecorded later = later := by
  refine List.takeWhile_eq_self_iff.mpr fun event hmem => ?_
  have hnone := List.filter_eq_nil_iff.mp h event hmem
  rwa [Bool.not_eq_true, Option.isSome_eq_false_iff] at hnone

theorem untilRecorded_append_of_ne_nil (h : records later ≠ [])
    (events : List Event) :
    untilRecorded (later ++ events) = untilRecorded later := by
  obtain ⟨event, hmem⟩ := List.exists_mem_of_ne_nil _ h
  obtain ⟨hmem, hsome⟩ := List.mem_filter.mp hmem
  refine takeWhile_append_of_mem ⟨event, hmem, ?_⟩ events
  rwa [Option.isNone_eq_false_iff]

/-- More that is said comes behind. -/
theorem said_untilRecorded_isPrefix (later events : List Event) :
    said (untilRecorded later) <+: said (untilRecorded (later ++ events)) := by
  by_cases h : records later = []
  · have hall : ∀ event ∈ later, event.verdict?.isNone = true :=
      List.takeWhile_eq_self_iff.mp (untilRecorded_of_nil h)
    rw [untilRecorded_of_nil h, untilRecorded,
      List.takeWhile_append_of_pos hall, said_append]
    exact List.prefix_append _ _
  · rw [untilRecorded_append_of_ne_nil h]

/-- The record of an attempt that was given up. -/
def Event.dismissal (reason : CancelReason) : Event :=
  .recorded (.rejected .aborted) (.finish (.cancelled reason))

/-- How far the loop has come since an attempt was given up. `channel` is
what the channel held then, and `later` has happened since. -/
inductive Stage (reason : CancelReason) (channel : List Message)
    (later : List Event) (state : State) : Prop where
  -- What is left in the channel is written.
  | emptying : state.phase = .settling (.rejected .aborted) →
      records later = [] →
      sent later ++ state.channel = channel ++ said later →
      Stage reason channel later state
  | concluded : state.phase.ending? = some (.ok (.cancelled reason)) →
      records later = [.dismissal reason] →
      sent later = channel ++ said (untilRecorded later) ++ [.cancelled] →
      Stage reason channel later state
  -- Something could not be written.
  | failed {cause : IoError} :
      state.phase.ending? = some (.error cause) →
      records later <+: [.dismissal reason] →
      sent later <+: channel ++ said (untilRecorded later) →
      Stage reason channel later state

section Stage

variable {channel : List Message} {ending : Ending}

theorem Stage.isPast (h : Stage reason channel later state) :
    state.phase.isPast = true := by
  cases h with
  | emptying hphase => rw [hphase]; rfl
  | concluded hending | failed hending =>
      cases hphase : state.phase <;> rw [hphase] at hending <;>
        first | rfl | cases hending

/-- Once the loop has its ending, the others can do what they like. -/
theorem Stage.ended (h : Stage reason channel later state)
    (hbefore : state.phase.ending? = some ending)
    (hafter : state'.phase.ending? = some ending)
    (hrests : LoopRests events) :
    Stage reason channel (later ++ events) state' := by
  have hrecords := records_of_rests hrests
  cases h with
  | emptying hphase =>
      rw [hphase] at hbefore
      cases hbefore
  | concluded hending hdone hsent =>
      refine .concluded (hafter.trans (hbefore.symm.trans hending)) ?_ ?_
      · rw [records_append, hrecords, List.append_nil, hdone]
      · rw [sent_append, hrests.sent, List.append_nil,
          untilRecorded_append_of_ne_nil (by rw [hdone]; simp), hsent]
  | failed hending hdone hsent =>
      refine .failed (hafter.trans (hbefore.symm.trans hending)) ?_ ?_
      · rw [records_append, hrecords, List.append_nil]
        exact hdone
      · rw [sent_append, hrests.sent, List.append_nil]
        exact hsent.trans ((List.prefix_append_right_inj _).mpr
          (said_untilRecorded_isPrefix later events))

theorem Stage.elapse (h : Stage reason channel later state)
    (milliseconds : Nat) :
    Stage reason channel later
      { state with clock := state.clock + milliseconds } := by
  cases h with
  | emptying hphase hnone hsent => exact .emptying hphase hnone hsent
  | concluded hending hdone hsent => exact .concluded hending hdone hsent
  | failed hending hdone hsent => exact .failed hending hdone hsent

/-- The attempts may still speak. -/
theorem Stage.attempt (h : Stage reason channel later state) (number : Nat)
    (next : Attempt.Next) :
    Stage reason channel
      (later ++ (next.effect.map (Event.attempt number)).toList)
      (state.withAttempt number next) := by
  have hrests := LoopRests.of_attempt number next.effect
  cases h with
  | emptying hphase hnone hsent =>
      have hlistens : state.listens = true := by
        unfold State.listens
        rw [hphase]
      refine .emptying hphase ?_ ?_
      · rw [records_append, hnone, records_of_rests hrests]
        rfl
      · rw [State.withAttempt, if_pos hlistens, sent_append, hrests.sent,
          List.append_nil, said_append, said_attempt, ← List.append_assoc,
          hsent, List.append_assoc]
  | concluded hending hdone hsent =>
      exact Stage.ended (.concluded hending hdone hsent) hending hending hrests
  | failed hending hdone hsent =>
      exact Stage.ended (.failed hending hdone hsent) hending hending hrests

/-- A message that is left in the channel is written, or cannot be. -/
theorem Stage.drain (h : Stage reason channel later state)
    {verdict : Verdict} (hphase : state.phase = .settling verdict)
    {message : Message} {rest : List Message}
    (hchannel : state.channel = message :: rest)
    (hwrote : Wrote { state with channel := rest } message (.settling verdict)
      state' events) : Stage reason channel (later ++ events) state' := by
  cases h with
  | concluded hending | failed hending =>
      rw [hphase] at hending
      cases hending
  | emptying hverdict hnone hsent =>
      rw [hchannel] at hsent
      cases hwrote with
      | sent _ =>
          refine .emptying (hphase.symm.trans hverdict) ?_ ?_
          · rw [records_append, hnone]
            rfl
          · show sent (later ++ [.sent message]) ++ rest
              = channel ++ said (later ++ [.sent message])
            rw [sent_append, said_append, List.append_assoc]
            exact hsent.trans (congrArg (channel ++ ·) (List.append_nil _).symm)
      | @unsent cause _ _ =>
          have hrecords : records (later ++ [.unsent message cause]) = [] := by
            rw [records_append, hnone]
            rfl
          refine .failed rfl (by rw [hrecords]; exact List.nil_prefix) ?_
          rw [untilRecorded_of_nil hrecords, sent_append, said_append]
          refine ⟨message :: rest, ?_⟩
          exact (congrArg (· ++ _) (List.append_nil _)).trans
            (hsent.trans (congrArg (channel ++ ·) (List.append_nil _).symm))

/-- The record: the session is over, and the last line is written or
cannot be. -/
theorem Stage.conclude (h : Stage reason channel later state)
    (hphase : state.phase.ending? = none) (hchannel : state.channel = [])
    {session : Session}
    (hwrote : Wrote { state with session } Message.cancelled
      (.stopping (.ok (.cancelled reason))) state' events) :
    Stage reason channel (later ++ .dismissal reason :: events) state' := by
  cases h with
  | concluded hending | failed hending =>
      rw [hphase] at hending
      cases hending
  | emptying _ hnone hsent =>
      rw [hchannel, List.append_nil] at hsent
      have hall : ∀ event ∈ later, event.verdict?.isNone = true :=
        List.takeWhile_eq_self_iff.mp (untilRecorded_of_nil hnone)
      have huntil : ∀ events, untilRecorded
          (later ++ .dismissal reason :: events) = later := by
        intro events
        rw [untilRecorded, List.takeWhile_append_of_pos hall]
        exact List.append_nil later
      cases hwrote with
      | sent _ =>
          refine .concluded rfl ?_ ?_
          · rw [records_append, hnone]
            rfl
          · rw [huntil, sent_append, hsent]
            rfl
      | unsent _ =>
          refine .failed rfl ?_ ?_
          · rw [records_append, hnone]
            exact List.prefix_rfl
          · rw [huntil, sent_append, hsent]
            show channel ++ said later ++ [] <+: channel ++ said later
            rw [List.append_nil]

/-- An outcome is that the session was cancelled. -/
theorem Stage.outcome (h : Stage reason channel later state)
    {outcome : Outcome} (hending : state.phase.ending? = some (.ok outcome)) :
    outcome = .cancelled reason ∧ records later = [.dismissal reason]
      ∧ sent later
        = channel ++ said (untilRecorded later) ++ [.cancelled] := by
  cases h with
  | emptying hsettling =>
      rw [hsettling] at hending
      cases hending
  | failed herror => cases hending.symm.trans herror
  | concluded hover hdone hsent =>
      cases hending.symm.trans hover
      exact ⟨rfl, hdone, hsent⟩

end Stage

/-- What holds since an attempt was given up. -/
structure Dismissed (reason : CancelReason) (given : State)
    (later : List Event) (state : State) : Prop where
  isSealed : Sealed reason state
  counter : state.session.counter = given.session.counter
  calls : calls later = []
  taken : taken later = []
  stage : Stage reason given.channel later state

theorem Dismissed.start (hsealed : Sealed reason given)
    (hphase : given.phase = .settling (.rejected .aborted)) :
    Dismissed reason given [] given :=
  ⟨hsealed, rfl, rfl, rfl,
    .emptying hphase rfl (List.append_nil _).symm⟩

/-- A step of the loop, when it has come further and left the counter
alone. -/
theorem Dismissed.move (h : Dismissed reason given later state) {move : Move}
    (harm : Arm setup state (.move move) state' events)
    (hcounter : state'.session.counter = state.session.counter)
    (hcalls : Dispatch.calls events = [])
    (hstage : Stage reason given.channel (later ++ events) state') :
    Dismissed reason given (later ++ events) state' where
  isSealed := h.isSealed.step harm
  counter := hcounter.trans h.counter
  calls := by rw [calls_append, h.calls, hcalls, List.append_nil]
  taken := by
    rw [taken_append, h.taken, (HandsNothing.of_move harm).taken,
      List.append_nil]
  stage := hstage

/-- An attempt goes on. Whatever it asks for, it takes no line. -/
theorem Dismissed.attempt (h : Dismissed reason given later state)
    {number : Nat} {next : Attempt.Next}
    (harm : Arm setup state (.attempt number) (state.withAttempt number next)
      (next.effect.map (Event.attempt number)).toList) :
    Dismissed reason given
      (later ++ (next.effect.map (Event.attempt number)).toList)
      (state.withAttempt number next) where
  isSealed := h.isSealed.step harm
  counter := h.counter
  calls := by
    rw [calls_append, h.calls, (LoopRests.of_attempt number next.effect).calls,
      List.append_nil]
  taken := by
    rw [taken_append, h.taken, (harm.of_cancelled h.isSealed.cancelled).2.2,
      List.append_nil]
  stage := h.stage.attempt number next

/-- What the loop records is that the session was cancelled. -/
theorem Dismissed.conclude (h : Dismissed reason given later state)
    (hopen : state.session.outcome = none) {verdict : Verdict}
    {outcome : Outcome} {session : Session} {written : List Event}
    (hphase : state.phase = .settling verdict) (hchannel : state.channel = [])
    (hrecord : state.session.record verdict = (.finish outcome, session))
    (hwrote : Wrote { state with session } outcome.message
      (.stopping (.ok outcome)) state' written)
    (harm : Arm setup state (.move .settle) state'
      (.recorded verdict (.finish outcome) :: written)) :
    Dismissed reason given
      (later ++ .recorded verdict (.finish outcome) :: written) state' := by
  have hverdict : verdict = .rejected .aborted := by
    cases h.stage with
    | emptying hemptying => cases hphase.symm.trans hemptying; rfl
    | concluded hending | failed hending =>
        rw [hphase] at hending
        cases hending
  have hcancelled := h.isSealed.cancelled
  rcases Session.record_inv hrecord with ⟨_, hsome, -⟩ | ⟨-, haccepted, -⟩
    | ⟨_, reason', -, -, hreason, hstep, hsession⟩ | ⟨_, -, -, hnone, -⟩
    | ⟨_, -, -, hnone, -⟩
  · cases hopen.symm.trans hsome
  · cases hverdict.symm.trans haccepted
  · cases hcancelled.symm.trans hreason
    cases hstep
    subst hverdict hsession
    have hstage := h.stage.conclude (by rw [hphase]; rfl) hchannel hwrote
    cases hwrote <;> exact h.move harm rfl rfl hstage
  · cases hnone.symm.trans hcancelled
  · cases hnone.symm.trans hcancelled

theorem Dismissed.step (h : Dismissed reason given later state)
    (hopen : state.phase.ending? = none → state.session.outcome = none)
    (harm : Arm setup state action state' events) :
    Dismissed reason given (later ++ events) state' := by
  have harm' := harm
  have hpast := h.stage.isPast
  cases harm with
  | reader harm => cases harm.not_isOver.symm.trans h.isSealed.isOver
  | attempt _ _ => exact h.attempt harm'
  | elapse =>
      rw [List.append_nil]
      exact ⟨h.isSealed.step harm', h.counter, h.calls, h.taken,
        h.stage.elapse _⟩
  | halt hphase | proceed hphase | launch hphase | forward hphase
  | join hphase | notice hphase | collapse hphase | abandon hphase =>
      -- the loop has left the attempt behind
      rw [hphase] at hpast
      cases hpast
  | drain hphase hchannel hwrote =>
      have hstage := h.stage.drain hphase hchannel hwrote
      cases hwrote <;> exact h.move harm' rfl rfl hstage
  | retry _ _ hrecord _ =>
      have hnone := Session.cancelled_of_retry hrecord
      cases hnone.symm.trans h.isSealed.cancelled
  | conclude hphase hchannel hrecord hwrote =>
      exact h.conclude (hopen (by rw [hphase]; rfl)) hphase hchannel hrecord
        hwrote harm'
  | stop hphase =>
      have hrests := LoopRests.of_cancel
        (state.session.slot.cancel .shutdown).1 .shutdown
      exact h.move harm' rfl hrests.calls
        (h.stage.ended (by rw [hphase]; rfl) rfl hrests)
  | reap hphase | giveUp hphase =>
      exact h.move harm' rfl rfl
        (h.stage.ended (by rw [hphase]; rfl) rfl .nil)
  | sweep hphase =>
      have hrests := LoopRests.of_sweep state.session.slot.pending
      exact h.move harm' rfl hrests.calls
        (h.stage.ended (by rw [hphase]; rfl) rfl hrests)

/-- The moves of the loop alone can bring it to its return. -/
def Returns (setup : Setup) (state : State) : Prop :=
  ∃ (moves : List Move) (state' : State) (events : List Event)
    (ending : Ending),
    replay setup (moves.map Action.move) state = some (state', events)
      ∧ state'.phase = .returned ending

theorem Returns.of_returned {ending : Ending}
    (hphase : state.phase = .returned ending) : Returns setup state :=
  ⟨[], state, [], ending, rfl, hphase⟩

/-- A move that is possible, and the rest of the way from there. -/
theorem Returns.of_move (move : Move)
    (hsome : (apply setup (.move move) state).isSome = true)
    (h : ∀ state' events, Arm setup state (.move move) state' events →
      Returns setup state') : Returns setup state := by
  obtain ⟨⟨next, events⟩, hstep⟩ := Option.isSome_iff_exists.mp hsome
  obtain ⟨moves, last, later, ending, hreplay, hphase⟩ :=
    h next events (arm_of_apply hstep)
  refine ⟨move :: moves, last, events ++ later, ending, ?_, hphase⟩
  rw [List.map_cons, replay, hstep, Option.bind_some]
  show (replay setup (moves.map Action.move) next).map _ = _
  rw [hreplay]
  rfl

theorem Returns.of_sweeping {ending : Ending}
    (hphase : state.phase = .sweeping ending) : Returns setup state := by
  refine .of_move .sweep (by simp [apply, State.move?, hphase]) ?_
  intro state' events harm
  cases harm with
  | sweep _ => exact .of_returned rfl

/-- The reader is over, so nobody waits for it. -/
theorem Returns.of_awaiting {ending : Ending} {limit : Nat}
    (hover : state.reader.isOver = true)
    (hphase : state.phase = .awaiting ending limit) :
    Returns setup state := by
  refine .of_move .reap (by simp [apply, State.move?, hphase, hover]) ?_
  intro state' events harm
  cases harm with
  | reap _ _ => exact .of_sweeping rfl

theorem Returns.of_stopping {ending : Ending}
    (hover : state.reader.isOver = true)
    (hphase : state.phase = .stopping ending) : Returns setup state := by
  refine .of_move .stop (by simp [apply, State.move?, hphase]) ?_
  intro state' events harm
  cases harm with
  | stop _ => exact .of_awaiting hover rfl

/-- The channel is emptied, and the record ends a cancelled session. -/
theorem Returns.of_settling {verdict : Verdict}
    (hover : state.reader.isOver = true)
    (hcancelled : state.session.slot.cancelled.isSome = true)
    (hphase : state.phase = .settling verdict) : Returns setup state := by
  induction hchannel : state.channel generalizing state with
  | nil =>
      refine .of_move .settle
        (by simp [apply, State.move?, hphase, hchannel]) ?_
      intro state' events harm
      cases harm with
      | retry _ _ hrecord _ =>
          rw [Session.cancelled_of_retry hrecord] at hcancelled
          cases hcancelled
      | conclude _ _ _ hwrote =>
          cases hwrote <;> exact .of_stopping hover rfl
  | cons message rest ih =>
      refine .of_move .drain
        (by simp [apply, State.move?, hphase, hchannel]) ?_
      intro state' events harm
      cases harm with
      | drain hsettling hfront hwrote =>
          cases hfront.symm.trans hchannel
          cases hsettling.symm.trans hphase
          cases hwrote with
          | sent _ => exact ih hover hcancelled rfl rfl
          | unsent _ => exact .of_stopping hover rfl

/-- There is a way to the return from everything that can follow. -/
theorem Dismissed.returns (h : Dismissed reason given later state) :
    Returns setup state := by
  have hover := h.isSealed.isOver
  have hpast := h.stage.isPast
  cases hphase : state.phase with
  | settling verdict =>
      exact .of_settling hover (by rw [h.isSealed.cancelled]; rfl) hphase
  | stopping ending => exact .of_stopping hover hphase
  | awaiting ending limit => exact .of_awaiting hover hphase
  | sweeping ending => exact .of_sweeping hphase
  | returned ending => exact .of_returned hphase
  | deciding | launching | attending | crashed =>
      rw [hphase] at hpast
      cases hpast

-- ============================================================ the result

section Result

variable (hgiven : Run setup (.start setup (.new context maxFailures) sink)
  history given)

include hgiven

end Result

end ScreenUnlock.Dispatch
