/-
The reason of a session that an exit request ends.

An attempt that takes an exit request cancels the session for it. Taking
the line and cancelling are two steps, and the others do not wait: the
taken line lets the reader go on, which may find the end of its input and
cancel first, and so may the loop when it could not write. The slot keeps
the first reason, so the session then does not report the exit request
(`exit_request_overtaken`).

`Run.exit_taken` says what is true. The attempt does nothing else before
it cancels; if nobody cancels in the meantime, the reason is the exit
request ever after, and the outcome names it unless the backend accepts.
If somebody does, it is one of these two, and the outcome names that
reason. (What it says of the others and of the outcome needs a reader that
has not broken down: then the loop may give up an attempt in a session that
nobody has cancelled.)

# How it goes

`Exiting` follows the attempt: up to its cancellation it stands there and
is not over, so it is the only one that goes on, and the loop can neither
record a verdict nor stop with an outcome in an open session. `Owing` is
what that comes to for the session: it gets no outcome before somebody has
cancelled, and then only one that names the reason in the slot.
-/
import ScreenUnlock.Proofs.Dispatch.Cause
import ScreenUnlock.Proofs.Dispatch.Delivery
import ScreenUnlock.Proofs.Dispatch.Feed
import ScreenUnlock.Proofs.Dispatch.Forwarding
import ScreenUnlock.Proofs.Dispatch.Lapse

namespace ScreenUnlock

-- ============================================================= the session

/-- An outcome that is not an acceptance names the reason in the slot, and
that is not the shutdown. -/
def Session.Owing (session : Session) : Prop :=
  ∀ outcome, session.outcome = some outcome →
    outcome = .authenticated ∨ ∃ reason, outcome = .cancelled reason
      ∧ reason ≠ .shutdown ∧ session.slot.cancelled = some reason

namespace Session.Owing

variable {session session' : Session}

theorem of_none (h : session.outcome = none) : session.Owing := by
  intro outcome houtcome
  rw [h] at houtcome
  cases houtcome

/-- The outcome stays, and so does a reason. -/
theorem same (h : session.Owing)
    (houtcome : session'.outcome = session.outcome)
    (hslot : ∀ reason, session.slot.cancelled = some reason →
      session'.slot.cancelled = some reason) : session'.Owing := by
  intro outcome hsome
  rcases h outcome (houtcome ▸ hsome) with haccepted
    | ⟨reason, hcancelled, hreason, hcause⟩
  · exact .inl haccepted
  · exact .inr ⟨reason, hcancelled, hreason, hslot reason hcause⟩

variable (hshutdown : ∀ reason, session.slot.cancelled = some reason →
  reason ≠ .shutdown)

include hshutdown

theorem observe (h : session.Owing) {found : Option Outcome}
    (hobserve : session.observe = (found, session')) : session'.Owing := by
  rcases observe_inv hobserve with ⟨_, -, -, rfl⟩
    | ⟨reason, -, -, hreason, rfl⟩ | ⟨-, -, -, rfl⟩
  · exact h
  · intro outcome houtcome
    cases houtcome
    exact .inr ⟨reason, rfl, hshutdown reason hreason, hreason⟩
  · exact h

/-- In a cancelled session a verdict is counted no more. -/
theorem record (h : session.Owing) (hcancelled : session.slot.cancelled ≠ none)
    {verdict : Verdict} {step : Step}
    (hrecord : session.record verdict = (step, session')) :
    session'.Owing := by
  rcases record_inv hrecord with ⟨_, -, -, rfl⟩ | ⟨-, -, -, rfl⟩
    | ⟨_, reason, -, -, hreason, -, rfl⟩ | ⟨_, -, -, hnone, -⟩
    | ⟨_, -, -, hnone, -⟩
  · exact h
  · intro outcome houtcome
    cases houtcome
    exact .inl rfl
  · intro outcome houtcome
    cases houtcome
    exact .inr ⟨reason, rfl, hshutdown reason hreason, hreason⟩
  · exact absurd hnone hcancelled
  · exact absurd hnone hcancelled

end Session.Owing

/-- An outcome that is found stays the session's. -/
theorem Session.outcome_of_observe {session session' : Session}
    {outcome : Outcome}
    (h : session.observe = (some outcome, session')) :
    session'.outcome = some outcome := by
  rcases observe_inv h with ⟨_, heq, houtcome, rfl⟩
    | ⟨_, heq, -, -, rfl⟩ | ⟨heq, -⟩
  · cases heq
    exact houtcome
  · cases heq
    rfl
  · cases heq

/-- An attempt after which the session is over. -/
theorem Session.outcome_of_finish {session session' : Session}
    {verdict : Verdict} {outcome : Outcome}
    (h : session.record verdict = (.finish outcome, session')) :
    session'.outcome = some outcome := by
  rcases record_inv h with ⟨_, houtcome, heq, rfl⟩ | ⟨-, -, heq, rfl⟩
    | ⟨_, _, -, -, -, heq, rfl⟩ | ⟨_, -, -, -, -, heq, -⟩
    | ⟨_, -, -, -, -, heq, rfl⟩
  · cases heq
    exact houtcome
  · cases heq
    rfl
  · cases heq
    rfl
  · cases heq
  · cases heq
    rfl

/-- An attempt that is about to cancel is not over. -/
theorem Attempt.not_isOver_of_isExiting {attempt : Attempt}
    (h : attempt.isExiting = true) : attempt.isOver = false :=
  Bool.eq_false_iff.mpr fun hover => by
    rw [Attempt.not_isExiting_of_isOver hover] at h
    cases h

namespace Dispatch

open LineBuffer (lineLimit)
open State (Arm arm_of_apply)

-- ========================================================= the time between

/-- Whether the attempt with this number does something in an event. -/
def Event.isOf (number : Nat) : Event → Bool
  | .attempt speaker _ => decide (speaker = number)
  | _ => false

/-- What happened before the attempt with this number did something. -/
def meanwhile (number : Nat) (later : List Event) : List Event :=
  later.takeWhile fun event => !event.isOf number

/-- The exit request that an attempt makes known. -/
def Event.exit (number : Nat) : Event :=
  .attempt number (.conversed (.cancel .exitRequested))

variable {setup : Setup} {context : AuthContext} {maxFailures : UInt32}
  {sink : Sink} {history later events : List Event}
  {given state state' : State} {action : Action} {number : Nat}
  {reason : CancelReason} {line : Secret}

theorem Idle.isOf_eq_false (h : Idle number events) :
    ∀ event ∈ events, event.isOf number = false := by
  intro event hmem
  unfold Event.isOf
  split
  case h_1 speaker effect =>
    exact decide_eq_false fun heq => h effect (heq ▸ hmem)
  case h_2 => rfl

theorem meanwhile_of_idle (h : Idle number later) :
    meanwhile number later = later :=
  List.takeWhile_eq_self_iff.mpr fun event hmem => by
    rw [h.isOf_eq_false event hmem]
    rfl

/-- The first thing that the attempt does ends the time between. -/
theorem meanwhile_append_exit {before after : List Event}
    (h : Idle number before) :
    meanwhile number (before ++ .exit number :: after) = before := by
  rw [meanwhile, List.takeWhile_append_of_pos fun event hmem => by
      rw [h.isOf_eq_false event hmem]
      rfl,
    List.takeWhile_cons_of_neg (by simp [Event.exit, Event.isOf]),
    List.append_nil]

/-- What comes first in the time between comes first. -/
theorem firstReason_of_meanwhile
    (h : firstReason (meanwhile number later) = some reason) :
    firstReason later = some reason := by
  rw [← List.takeWhile_append_dropWhile (l := later)
    (p := fun event => !event.isOf number), firstReason_append,
    show firstReason (later.takeWhile _) = some reason from h,
    Option.some_or]

-- ============================================================= the attempt

/-- Where an attempt stands that took an exit request; `later` has happened
since. -/
inductive Exiting (number : Nat) (later : List Event) (state : State) :
    Prop where
  | stands {attempt : Attempt} : Idle number later →
      state.inOrder[number]? = some attempt → attempt.isExiting = true →
      Exiting number later state
  | cancelled {before after : List Event} :
      later = before ++ .exit number :: after → Idle number before →
      Exiting number later state

theorem Idle.append (h : Idle number later) (hnow : Idle number events) :
    Idle number (later ++ events) := by
  intro effect hmem
  exact (List.mem_append.mp hmem).elim (h effect) (hnow effect)

/-- An attempt that stands there can do one thing only. -/
theorem effect_of_isExiting {clock : Nat} {slot : Slot} {attempt : Attempt}
    {next : Attempt.Next} (harm : Attempt.Arm clock slot attempt next)
    (hexiting : attempt.isExiting = true) :
    next.effect = some (.conversed (.cancel .exitRequested)) := by
  cases harm with
  | converse harm =>
      cases harm with
      | exit => rfl
      | _ => cases hexiting
  | _ => cases hexiting

/-- A step while the attempt stands there: it goes on and cancels, or it
stays. -/
theorem State.Arm.of_isExiting (hlen : state.attempts.length = state.started)
    {attempt : Attempt} (hattempt : state.inOrder[number]? = some attempt)
    (hexiting : attempt.isExiting = true)
    (harm : Arm setup state action state' events) :
    events = [.exit number]
      ∨ Idle number events ∧ state'.inOrder[number]? = some attempt := by
  cases action with
  | reader action =>
      cases harm
      exact .inr ⟨.of_reader _, hattempt⟩
  | attempt other =>
      cases harm with
      | @attempt _ attempt' next hother harm =>
          by_cases heq : number = other
          · subst heq
            rw [State.attempt?_eq hlen, hattempt] at hother
            cases hother
            rw [effect_of_isExiting harm hexiting]
            exact .inl rfl
          · refine .inr ⟨.of_ne heq _, ?_⟩
            rw [State.inOrder_withAttempt hlen hother next,
              List.getElem?_set_ne (Ne.symm heq)]
            exact hattempt
  | move move =>
      exact .inr ⟨(HandsNothing.of_move harm).idle number,
        harm.getElem?_of_move hattempt⟩
  | elapse milliseconds =>
      cases harm
      exact .inr ⟨.nil, hattempt⟩

theorem Exiting.step (h : Exiting number later state)
    (hlen : state.attempts.length = state.started)
    (harm : Arm setup state action state' events) :
    Exiting number (later ++ events) state' := by
  cases h with
  | @cancelled before after heq hidle =>
      have heq' : later ++ events
          = before ++ .exit number :: (after ++ events) := by
        rw [heq, List.append_assoc, List.cons_append]
      exact .cancelled heq' hidle
  | stands hidle hattempt hexiting =>
      rcases harm.of_isExiting hlen hattempt hexiting with rfl
        | ⟨hnow, hattempt'⟩
      · exact .cancelled rfl hidle
      · exact .stands (hidle.append hnow) hattempt' hexiting

theorem Run.exiting {session : Session}
    (hgiven : Run setup (.start setup session sink) history given)
    (hrun : Run setup given later state) (h : Exiting number [] given) :
    Exiting number later state := by
  induction hrun with
  | init => exact h
  | step action hrun hstep ih =>
      exact ih.step (hgiven.trans hrun).length_attempts (arm_of_apply hstep)

-- ============================================================== the others

/-- In an open session no attempt was given up. -/
theorem Run.not_mem_abandoned
    (hrun : Run setup (.start setup (.new context maxFailures) sink)
      history state) (hreader : state.reader.phase ≠ .crashed)
    (hnone : state.session.slot.cancelled = none) : .abandoned ∉ history := by
  intro hmem
  have := hrun.standing.cancelled_of_abandoned hmem hreader
  rw [hnone] at this
  cases this

/-- While somebody is not over and nobody has cancelled, the loop attends to
an attempt, or it could not write, or it has broken down. -/
theorem Run.not_isQuiet
    (hrun : Run setup (.start setup (.new context maxFailures) sink)
      history state) (hreader : state.reader.phase ≠ .crashed)
    (hnone : state.session.slot.cancelled = none) {attempt : Attempt}
    (hattempt : state.inOrder[number]? = some attempt)
    (hover : attempt.isOver = false) : state.phase.isQuiet = false := by
  by_contra hquiet
  have := hrun.inTurn.quiet (hrun.not_mem_abandoned hreader hnone)
    (by simpa using hquiet) attempt (List.mem_of_getElem? hattempt)
  rw [hover] at this
  cases this

/-- The reasons that can be given while an attempt is about to cancel for an
exit request: the input is closed, or the loop stops because it could not
write. -/
def Rival (history : List Event) (reason : CancelReason) : Prop :=
  reason = .inputClosed
    ∨ reason = .shutdown ∧ ∃ message cause, .unsent message cause ∈ history

theorem Rival.mono (h : Rival history reason) (events : List Event) :
    Rival (history ++ events) reason := by
  rcases h with h | ⟨h, message, cause, hmem⟩
  · exact .inl h
  · exact .inr ⟨h, message, cause, List.mem_append_left _ hmem⟩

/-- A step while an attempt is about to cancel for an exit request. -/
theorem Run.rival_of_firstReason
    (hrun : Run setup (.start setup (.new context maxFailures) sink)
      history state) (hreader : state.reader.phase ≠ .crashed)
    {attempt : Attempt} (hattempt : state.inOrder[number]? = some attempt)
    (hexiting : attempt.isExiting = true) (hidle : Idle number events)
    (harm : Arm setup state action state' events)
    (h : firstReason events = some reason) : Rival history reason := by
  have hover := Attempt.not_isOver_of_isExiting hexiting
  cases action with
  | reader action =>
      cases harm with
      | reader harm => exact .inl (firstReason_reader harm h)
  | attempt other =>
      cases harm with
      | @attempt _ attempt' next hother harm =>
          -- all others are over
          rw [State.attempt?_eq hrun.length_attempts] at hother
          by_cases heq : other = number
          · subst heq
            rw [hattempt] at hother
            cases hother
            rw [effect_of_isExiting harm hexiting] at hidle
            exact absurd (.head _) (hidle _)
          · have := hrun.inTurn.isOver_of_ne (.inr hreader)
              hrun.length_attempts hattempt hover hother heq
            rw [harm.not_isOver] at this
            cases this
  | move move =>
      obtain ⟨-, rfl, hnone, ending, hphase⟩ :=
        harm.stopping_of_firstReason h
      have hquiet := hrun.not_isQuiet hreader hnone hattempt hover
      cases ending with
      | ok outcome =>
          rw [hphase] at hquiet
          cases hquiet
      | error cause =>
          exact .inr ⟨rfl, hrun.unsent_of_ending (by rw [hphase]; rfl)⟩
  | elapse milliseconds =>
      cases harm
      cases h

/-- Whoever cancels in the meantime is one of the two. -/
theorem Run.rival
    (hgiven : Run setup (.start setup (.new context maxFailures) sink)
      history given) (hrun : Run setup given later state)
    (h : Exiting number [] given) (hreader : state.reader.phase ≠ .crashed)
    (hfirst : firstReason (meanwhile number later) = some reason) :
    Rival (history ++ later) reason := by
  induction hrun with
  | init => cases hfirst
  | @step later events state state' action hrun hstep ih =>
      have harm := arm_of_apply hstep
      have hreader' := harm.reader_ne_crashed hreader
      have hwhole := hgiven.trans hrun
      rw [← List.append_assoc]
      cases hgiven.exiting hrun h with
      | @cancelled before after heq hidle =>
          rw [heq, List.append_assoc, List.cons_append,
            meanwhile_append_exit hidle] at hfirst
          rw [heq, meanwhile_append_exit hidle] at ih
          exact heq ▸ (ih hreader' hfirst).mono events
      | @stands attempt hidle hattempt hexiting =>
          rw [meanwhile_of_idle hidle] at ih
          rcases harm.of_isExiting hwhole.length_attempts hattempt hexiting
            with rfl | ⟨hnow, -⟩
          · rw [meanwhile_append_exit hidle] at hfirst
            exact (ih hreader' hfirst).mono _
          · rw [meanwhile_of_idle (hidle.append hnow), firstReason_append]
              at hfirst
            cases hbefore : firstReason later with
            | some first =>
                rw [hbefore] at hfirst ih
                exact (ih hreader' hfirst).mono events
            | none =>
                rw [hbefore, Option.none_or] at hfirst
                exact (hwhole.rival_of_firstReason hreader' hattempt hexiting
                  hnow harm hfirst).mono events

-- ============================================================= the outcome

/-- A session that has its outcome waits for no attempt. -/
theorem Run.over_of_outcome
    (hrun : Run setup (.start setup (.new context maxFailures) sink)
      history state) (houtcome : state.session.outcome ≠ none)
    (habandoned : .abandoned ∉ history) :
    ∀ attempt ∈ state.inOrder, attempt.isOver = true := by
  induction hrun with
  | init => exact absurd rfl houtcome
  | @step history events state state' action hrun hstep ih =>
      have harm := arm_of_apply hstep
      have hbefore : .abandoned ∉ history :=
        fun hmem => habandoned (List.mem_append_left _ hmem)
      have hquiet := fun hphase => hrun.inTurn.quiet hbefore hphase
      cases harm with
      | attempt hattempt harm =>
          have := ih houtcome hbefore _ (List.mem_of_getElem?
            (State.attempt?_eq hrun.length_attempts _ ▸ hattempt))
          rw [harm.not_isOver] at this
          cases this
      | launch hphase =>
          exact absurd (hrun.outcome_eq_none (by rw [hphase]; rfl)) houtcome
      | halt hphase _ hwrote | retry hphase _ _ hwrote
      | conclude hphase _ _ hwrote =>
          have := hquiet (by rw [hphase]; rfl)
          cases hwrote <;> exact this
      | proceed hphase _ => exact hquiet (by rw [hphase]; rfl)
      | forward _ _ hwrote | drain _ _ hwrote =>
          cases hwrote <;> exact ih houtcome hbefore
      | _ => exact ih houtcome hbefore

/-- What keeps the loop from recording anything in an open session keeps
the outcome in order. -/
theorem Run.owing_step
    (hrun : Run setup (.start setup (.new context maxFailures) sink)
      history state) (h : state.session.Owing)
    (hopen : state.session.slot.cancelled = none →
      state.phase.isQuiet = false)
    (harm : Arm setup state action state' events) : state'.session.Owing := by
  have hmono : ∀ reason, state.session.slot.cancelled = some reason →
      state'.session.slot.cancelled = some reason := by
    intro reason hreason
    rw [harm.cancelled_eq, hreason, Option.some_or]
  have hshutdown : state.phase.hasStopped = false → ∀ reason,
      state.session.slot.cancelled = some reason → reason ≠ .shutdown :=
    fun hphase _ => hrun.cause.ne_shutdown hphase
  cases harm with
  | halt hphase hobserve hwrote =>
      have := h.observe (hshutdown (by rw [hphase]; rfl)) hobserve
      cases hwrote <;> exact this
  | proceed hphase hobserve =>
      exact h.observe (hshutdown (by rw [hphase]; rfl)) hobserve
  | retry hphase _ hrecord hwrote | conclude hphase _ hrecord hwrote =>
      have hcancelled : state.session.slot.cancelled ≠ none := by
        intro hnone
        have := hopen hnone
        rw [hphase] at this
        cases this
      have := h.record (hshutdown (by rw [hphase]; rfl)) hcancelled hrecord
      cases hwrote <;> exact this
  | forward _ _ hwrote | drain _ _ hwrote => cases hwrote <;> exact h
  | _ => exact h.same rfl hmono

/-- Once the attempt has cancelled, the session is cancelled for the first
reason, and the exit request is one. -/
theorem Run.cancelled_of_exit (hrun : Run setup given later state)
    (hnone : given.session.slot.cancelled = none)
    {before after : List Event}
    (heq : later = before ++ .exit number :: after) :
    state.session.slot.cancelled
      = some ((firstReason before).getD .exitRequested) := by
  rw [hrun.cancelled_or, hnone, heq, firstReason_append, Option.none_or]
  cases firstReason before <;> rfl

/-- A session whose attempt is about to cancel has no outcome. -/
theorem Run.outcome_eq_none_of_exiting
    (hrun : Run setup (.start setup (.new context maxFailures) sink)
      history state) (hreader : state.reader.phase ≠ .crashed)
    (hnone : state.session.slot.cancelled = none) {attempt : Attempt}
    (hattempt : state.inOrder[number]? = some attempt)
    (hexiting : attempt.isExiting = true) : state.session.outcome = none := by
  by_contra houtcome
  have hover := hrun.over_of_outcome houtcome
    (hrun.not_mem_abandoned hreader hnone) attempt
    (List.mem_of_getElem? hattempt)
  rw [Attempt.not_isOver_of_isExiting hexiting] at hover
  cases hover

/-- A session has no outcome before somebody has cancelled, and no wrong one
afterwards. -/
theorem Run.owing
    (hgiven : Run setup (.start setup (.new context maxFailures) sink)
      history given) (hrun : Run setup given later state)
    (hnone : given.session.slot.cancelled = none) {attempt : Attempt}
    (hattempt : given.inOrder[number]? = some attempt)
    (hexiting : attempt.isExiting = true)
    (hreader : state.reader.phase ≠ .crashed) : state.session.Owing := by
  induction hrun with
  | init =>
      exact .of_none
        (hgiven.outcome_eq_none_of_exiting hreader hnone hattempt hexiting)
  | @step later events state state' action hrun hstep ih =>
      have harm := arm_of_apply hstep
      have hreader' := harm.reader_ne_crashed hreader
      have hwhole := hgiven.trans hrun
      refine hwhole.owing_step (ih hreader') (fun hopen => ?_) harm
      cases hgiven.exiting hrun (.stands .nil hattempt hexiting) with
      | stands _ hattempt hexiting =>
          exact hwhole.not_isQuiet hreader' hopen hattempt
            (Attempt.not_isOver_of_isExiting hexiting)
      | cancelled heq _ =>
          rw [hrun.cancelled_of_exit hnone heq] at hopen
          cases hopen

/-- The outcome that the loop has decided on is the session's. -/
theorem Run.outcome_of_ending {session : Session} {outcome : Outcome}
    (hrun : Run setup (.start setup session sink) history state)
    (hending : state.phase.ending? = some (.ok outcome)) :
    state.session.outcome = some outcome := by
  induction hrun with
  | init => cases hending
  | step action _ hstep ih =>
      cases arm_of_apply hstep with
      | halt _ hobserve hwrote =>
          cases hwrote with
          | unsent _ => cases hending
          | sent _ =>
              cases hending
              exact Session.outcome_of_observe hobserve
      | conclude _ _ hrecord hwrote =>
          cases hwrote with
          | unsent _ => cases hending
          | sent _ =>
              cases hending
              exact Session.outcome_of_finish hrecord
      | retry _ _ _ hwrote | forward _ _ hwrote | drain _ _ hwrote =>
          cases hwrote <;> cases hending
      | stop hphase | reap hphase _ | giveUp hphase _ | sweep hphase =>
          cases hending
          exact ih (by rw [hphase]; rfl)
      | proceed _ _ | launch _ | join _ _ _ | collapse _ _ _ _
      | abandon _ _ _ => cases hending
      | reader _ | attempt _ _ | elapse => exact ih hending
      | notice _ _ _ _ => exact ih hending

-- ============================================================== the result

/-- The reason of a session in which the attempt with this number has taken
an exit request: the exit request, unless somebody cancelled before the
attempt did. -/
def exitReason (number : Nat) (later : List Event) : CancelReason :=
  (firstReason (meanwhile number later)).getD .exitRequested

/-- What follows when the attempt with this number has taken an exit request;
`later` has happened since, at the end of `history`. -/
structure ExitTaken (limit number : Nat) (history later : List Event)
    (state : State) : Prop where
  -- The next thing that the attempt does is to cancel.
  exits : Idle number later ∨ ∃ before after,
    later = before ++ .exit number :: after ∧ Idle number before
  -- From then on the session has its reason.
  reason : ¬ Idle number later →
    state.session.slot.cancelled = some (exitReason number later)
  -- Only the reader can have been faster, when every line of the input was
  -- taken, and the loop, when it could not write.
  rival : state.reader.phase ≠ .crashed → ∀ reason,
    firstReason (meanwhile number later) = some reason →
    reason = .inputClosed
        ∧ taken history = Bytes.cutLines limit (received history)
      ∨ reason = .shutdown ∧ ∃ message cause, .unsent message cause ∈ history
  -- If the session has an outcome, the backend has accepted, or the outcome
  -- names the reason.
  outcome : state.reader.phase ≠ .crashed → ∀ outcome,
    state.session.outcome = some outcome
      ∨ state.phase.ending? = some (.ok outcome) →
    outcome = .authenticated ∨ outcome = .cancelled (exitReason number later)

/-- The attempt that takes an exit request is about to cancel, in a session
that nobody has cancelled. -/
theorem State.Arm.exiting_of_take
    (hlen : state.attempts.length = state.started)
    (harm : Arm setup state (.attempt number) state'
      [.attempt number (.conversed (.take line))])
    (hexit : line.request = .exit) :
    state'.session.slot.cancelled = none
      ∧ ∃ attempt, state'.inOrder[number]? = some attempt
        ∧ attempt.isExiting = true := by
  generalize hevents :
    [Event.attempt number (.conversed (.take line))] = events at harm
  cases harm with
  | @attempt _ attempt next hattempt harm =>
      have hnext := getElem?_withAttempt_self hlen hattempt next
      cases harm with
      | converse harm =>
          cases harm with
          | takeExit hnone _ _ => exact ⟨hnone, _, hnext, rfl⟩
          | takeAnswer _ _ hsecret =>
              cases hevents
              rw [hexit] at hsecret
              cases hsecret
          | _ => cases hevents
      | _ => cases hevents

/-- The reason of a session in which an attempt has taken an exit request. -/
theorem Run.exitReason_eq
    (hgiven : Run setup (.start setup (.new context maxFailures) sink)
      history given) (hrun : Run setup given later state)
    (hnone : given.session.slot.cancelled = none)
    (h : Exiting number [] given)
    (hreason : state.session.slot.cancelled = some reason) :
    exitReason number later = reason := by
  cases hgiven.exiting hrun h with
  | stands hidle _ _ =>
      rw [hrun.cancelled_or, hnone, Option.none_or] at hreason
      rw [exitReason, meanwhile_of_idle hidle, hreason, Option.getD_some]
  | cancelled heq hbefore =>
      rw [hrun.cancelled_of_exit hnone heq] at hreason
      rw [exitReason, heq, meanwhile_append_exit hbefore,
        Option.some.inj hreason]

/-- An exit request is taken, in any run.

Whatever happens later, the attempt cancels before it does anything else.
The session then has the exit request as its reason, or that of whoever was
faster, and the outcome is this reason, unless the backend accepts. -/
theorem Run.exit_taken {given : State}
    (hbefore : Run setup (.start setup (.new context maxFailures) sink)
      history state)
    (htake : apply setup (.attempt number) state
      = some (given, [.attempt number (.conversed (.take line))]))
    (hexit : Request.exitMarker <:+: line.bytes)
    (hlater : Run setup given later state') :
    ExitTaken (lineLimit setup.maxLineLen) number
      (history ++ .attempt number (.conversed (.take line)) :: later) later
      state' := by
  have hgiven := hbefore.step _ htake
  obtain ⟨hnone, attempt, hattempt, hexiting⟩ :=
    (arm_of_apply htake).exiting_of_take hbefore.length_attempts
      (Request.ofLine_eq_exit_iff.mpr hexit)
  have hstands : Exiting number [] given := .stands .nil hattempt hexiting
  have hwhole := hgiven.trans hlater
  rw [← List.singleton_append, ← List.append_assoc]
  refine ⟨?_, fun hidle => ?_, fun hreader reason hreason => ?_,
    fun hreader outcome houtcome => ?_⟩
  · cases hgiven.exiting hlater hstands with
    | stands hidle _ _ => exact .inl hidle
    | cancelled heq hidle => exact .inr ⟨_, _, heq, hidle⟩
  · cases hgiven.exiting hlater hstands with
    | stands hstill _ _ => exact absurd hstill hidle
    | cancelled heq _ =>
        have hreason := hlater.cancelled_of_exit hnone heq
        rw [hreason, hgiven.exitReason_eq hlater hnone hstands hreason]
  · rcases hgiven.rival hlater hstands hreader hreason with rfl | hshutdown
    · -- the first reason is the one in the slot
      refine .inl ⟨rfl, (hwhole.cause.inputClosed ?_).2⟩
      rw [hlater.cancelled_or, hnone, Option.none_or,
        firstReason_of_meanwhile hreason]
    · exact .inr hshutdown
  · have hsome := houtcome.elim id hwhole.outcome_of_ending
    rcases hgiven.owing hlater hnone hattempt hexiting hreader outcome hsome
      with haccepted | ⟨reason, rfl, -, hreason⟩
    · exact .inl haccepted
    · rw [hgiven.exitReason_eq hlater hnone hstands hreason]
      exact .inr rfl

/-- The steps up to an exit request that lies in the slot while the first
attempt asks for a line. -/
def exitArrives : List Action :=
  [.move .check, .move .launch, .attempt 0, .attempt 0, .attempt 0,
    .reader .step, .reader (.poll .ready),
    .reader (.read (.bytes (Request.exitMarker ++ [Bytes.newline]))),
    .reader .step, .reader .step]

/-- Nobody interferes: the session is cancelled for the exit request, and its
outcome says so. -/
theorem exit_taken_undisturbed :
    ∃ history state given later state',
      Run (.ofConfig (.fixed {}) {})
        (.start (.ofConfig (.fixed {}) {}) (.new ⟨"user", none⟩ 5) {}) history
        state
      ∧ apply (.ofConfig (.fixed {}) {}) (.attempt 0) state = some (given,
        [.attempt 0 (.conversed (.take ⟨Request.exitMarker⟩))])
      ∧ Request.exitMarker <:+: Request.exitMarker
      ∧ Run (.ofConfig (.fixed {}) {}) given later state'
      ∧ exitReason 0 later = .exitRequested
      ∧ state'.session.slot.cancelled = some .exitRequested
      ∧ state'.session.outcome = some (.cancelled .exitRequested)
      ∧ ExitTaken (lineLimit ({} : Config).maxLineLen.toNat) 0
        (history ++ .attempt 0 (.conversed (.take ⟨Request.exitMarker⟩))
          :: later) later state' := by
  obtain ⟨history, state, hbefore, hview⟩ := Run.exists_of_replay
    (.ofConfig (.fixed {}) {})
    (.start (.ofConfig (.fixed {}) {}) (.new ⟨"user", none⟩ 5) {})
    exitArrives
    (fun state _ =>
      (apply (.ofConfig (.fixed {}) {}) (.attempt 0) state).bind fun given =>
        (replay (.ofConfig (.fixed {}) {})
          [.attempt 0, .attempt 0, .attempt 0, .move .forward, .move .forward,
            .move .join, .move .settle] given.1).map fun result =>
          (given.2, exitReason 0 result.2, result.1.session.slot.cancelled,
            result.1.session.outcome))
    (some ([.attempt 0 (.conversed (.take ⟨Request.exitMarker⟩))],
      .exitRequested, some .exitRequested,
      some (.cancelled .exitRequested))) (by decide +kernel)
  obtain ⟨⟨given, events⟩, htake, hmore⟩ := Option.bind_eq_some_iff.mp hview
  obtain ⟨⟨state', later⟩, hreplay, heq⟩ := Option.map_eq_some_iff.mp hmore
  obtain ⟨rfl, hreason, hcancelled, houtcome⟩ : events = _ ∧ _ ∧ _ ∧ _ := by
    simpa using heq
  have hlater : Run (.ofConfig (.fixed {}) {}) given later state' :=
    Run.init.replay hreplay
  exact ⟨history, state, given, later, state', hbefore, htake,
    List.infix_refl _, hlater, hreason, hcancelled, houtcome,
    Run.exit_taken hbefore htake (List.infix_refl _) hlater⟩

/-- Others are faster, twice in the same situation: a prompt waits, nobody
has cancelled, and the exit request lies in the slot. Once it is taken the
reader finds the end of the input and cancels, or the loop cannot write and
cancels. Neither session reports the exit request, then or later. -/
theorem exit_request_overtaken :
    (∃ history given later state,
      Fed (.ofConfig (.fixed {}) {})
        (.start (.ofConfig (.fixed {}) {}) (.new ⟨"user", none⟩ 5) {})
        (Request.exitMarker ++ [Bytes.newline]) history given []
      ∧ given.session.slot.cancelled = none
      ∧ Fed (.ofConfig (.fixed {}) {}) given []
        (.attempt 0 (.conversed (.take ⟨Request.exitMarker⟩)) :: later) state
        []
      ∧ state.session.slot.cancelled = some .inputClosed
      ∧ state.session.outcome = some (.cancelled .inputClosed)
      ∧ state.phase = .returned (.ok (.cancelled .inputClosed)))
    ∧ ∃ history given later state,
      Fed (.ofConfig (.fixed {}) {})
        (.start (.ofConfig (.fixed {}) {}) (.new ⟨"user", none⟩ 5)
          { writeFaults := [(0, .fails .brokenPipe)] })
        (Request.exitMarker ++ [Bytes.newline]) history given []
      ∧ given.session.slot.cancelled = none
      ∧ Fed (.ofConfig (.fixed {}) {}) given []
        (.attempt 0 (.conversed (.take ⟨Request.exitMarker⟩)) :: later) state
        []
      ∧ state.session.slot.cancelled = some .shutdown
      ∧ state.phase = .returned (.error .brokenPipe) := by
  constructor
  · obtain ⟨history, given, later, state, hgiven, hlater, hview⟩ :=
      @Fed.exists_of_replays [] [] _ (.ofConfig (.fixed {}) {})
        (.start (.ofConfig (.fixed {}) {}) (.new ⟨"user", none⟩ 5) {})
        (Request.exitMarker ++ [Bytes.newline])
        exitArrives
        [.attempt 0, .reader .step, .reader .step, .reader (.poll .ready),
          .reader (.read .endOfInput), .reader .step, .attempt 0, .attempt 0,
          .attempt 0, .reader .step, .move .forward, .move .forward,
          .move .join, .move .settle, .move .stop, .move .reap, .move .sweep]
        (fun given _ state later => decide
          (given.session.slot.cancelled = none
            ∧ later.head? = some (.attempt 0
              (.conversed (.take ⟨Request.exitMarker⟩)))
            ∧ state.session.slot.cancelled = some .inputClosed
            ∧ state.session.outcome = some (.cancelled .inputClosed)
            ∧ state.phase.returned?
              = some (.ok (.cancelled .inputClosed)))) true
        (by decide +kernel) (by decide +kernel) (by decide +kernel)
    obtain ⟨hnone, hhead, hcancelled, houtcome, hreturned⟩ :=
      of_decide_eq_true hview
    obtain ⟨later, rfl⟩ := List.head?_eq_some_iff.mp hhead
    exact ⟨history, given, later, state, hgiven, hnone, hlater, hcancelled,
      houtcome, Phase.eq_of_returned? hreturned⟩
  · obtain ⟨history, given, later, state, hgiven, hlater, hview⟩ :=
      @Fed.exists_of_replays [] [] _ (.ofConfig (.fixed {}) {})
        (.start (.ofConfig (.fixed {}) {}) (.new ⟨"user", none⟩ 5)
          { writeFaults := [(0, .fails .brokenPipe)] })
        (Request.exitMarker ++ [Bytes.newline])
        exitArrives
        [.attempt 0, .move .forward, .move .stop, .attempt 0, .attempt 0,
          .attempt 0, .reader .step, .reader .step, .reader .step,
          .move .reap, .move .sweep]
        (fun given _ state later => decide
          (given.session.slot.cancelled = none
            ∧ later.head? = some (.attempt 0
              (.conversed (.take ⟨Request.exitMarker⟩)))
            ∧ state.session.slot.cancelled = some .shutdown
            ∧ state.phase.returned? = some (.error .brokenPipe))) true
        (by decide +kernel) (by decide +kernel) (by decide +kernel)
    obtain ⟨hnone, hhead, hcancelled, hreturned⟩ := of_decide_eq_true hview
    obtain ⟨later, rfl⟩ := List.head?_eq_some_iff.mp hhead
    exact ⟨history, given, later, state, hgiven, hnone, hlater, hcancelled,
      Phase.eq_of_returned? hreturned⟩

end Dispatch

end ScreenUnlock
