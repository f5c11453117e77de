/-
The retry ceiling over whole runs.

Four places keep count of the attempts: the loop that starts them, the
verdicts it records, the counter of the session, and the failures and
the terminal line that the screen locker gets to see. `Open` says how
they agree while the session goes on, `Closed` how they agree once it
has its outcome; the verdict that is recorded last leads from the one to
the other. Between two steps of the loop the session may be cancelled by
somebody else, so both speak of the verdicts that were recorded in time.

`Run.keeps_ceiling` reads the result off: one terminal line, at the end; never
more calls than the ceiling allows; a failure for each rejected attempt
but the one that exhausts the session.
-/
import ScreenUnlock.Auth.Backend
import ScreenUnlock.Proofs.Dispatch.Flag
import ScreenUnlock.Proofs.Dispatch.Output
import ScreenUnlock.Proofs.Dispatch.Replay

namespace ScreenUnlock

namespace Dispatch

-- ============================================================== the books

/-- What the loop reports of its own accord. -/
def reports (history : List Event) : List Message :=
  (sent history).filter Message.isReport

/-- How many rejections were recorded before the session was cancelled. -/
def rejections (history : List Event) : Nat :=
  (timely history).countP Verdict.isRejected

/-- The loop attends to an attempt whose verdict is not recorded. -/
def Phase.isEngaged : Phase → Bool
  | .attending => true
  | .settling _ => true
  | .crashed => true
  | _ => false

@[simp] theorem reports_append (history later : List Event) :
    reports (history ++ later) = reports history ++ reports later := by
  simp [reports]

theorem reports_of_rests {events : List Event} (h : LoopRests events) :
    reports events = [] := by
  rw [reports, h.sent, List.filter_nil]

theorem reports_of_talk {message : Message} (h : message.isReport = false) :
    reports [.sent message] = [] := by
  simp [reports, sent, Event.sent?, h]

theorem rejections_append_of_nil {history events : List Event}
    (h : verdicts events = []) :
    rejections (history ++ events) = rejections history := by
  rw [rejections, timely_append_of_nil h, rejections]

/-- The books while the session goes on, `rounds` attempts in. -/
structure Open (ceiling rounds : Nat) (history : List Event)
    (state : State) : Prop where
  outcome : state.session.outcome = none
  limit : state.session.counter.ceiling.toNat = ceiling
  counter : state.session.counter.failures.toNat = rounds
  below : rounds < ceiling
  started : state.started = rounds + if state.phase.isEngaged then 1 else 0
  rejected : ∃ causes : List AuthError,
    verdicts history = causes.map .rejected ∧ causes.length = rounds
  inTime : timely history = verdicts history
  failures : reports history = List.replicate rounds .failure

/-- The books when the session has its outcome, after `rounds` attempts
that were retried. -/
structure Closed (ceiling rounds : Nat) (outcome : Outcome)
    (history : List Event) (state : State) : Prop where
  written : ∃ body, sent history = body ++ [outcome.message]
    ∧ body.filter Message.isReport = List.replicate rounds .failure
  below : rounds < ceiling
  started : state.started ≤ rounds + 1
  counter : state.session.counter.failures.toNat
    = rounds + if outcome = .exhausted then 1 else 0
  inTime : rejections history
    = rounds + if outcome = .exhausted then 1 else 0
  exhausted : outcome = .exhausted → rounds + 1 = ceiling
  last : (verdicts history).getLast? = some .accepted ↔
    outcome = .authenticated

/-- The books of a run. -/
structure Books (ceiling : Nat) (history : List Event) (state : State) :
    Prop where
  isOpen : state.phase.ending? = none →
    ∃ rounds, Open ceiling rounds history state
  isClosed : ∀ outcome, state.phase.ending? = some (.ok outcome) →
    ∃ rounds, Closed ceiling rounds outcome history state

variable {setup : Setup} {context : AuthContext} {maxFailures : UInt32}
  {sink : Sink} {history events : List Event} {state state' : State}
  {action : Action} {ceiling rounds : Nat}

open State (Arm arm_of_apply)

/-- What records and reports nothing keeps the books. -/
theorem Open.same (h : Open ceiling rounds history state)
    (houtcome : state'.session.outcome = state.session.outcome)
    (hcounter : state'.session.counter = state.session.counter)
    (hstarted : state'.started + (if state.phase.isEngaged then 1 else 0)
      = state.started + if state'.phase.isEngaged then 1 else 0)
    (hverdicts : verdicts events = [])
    (hreports : reports events = []) :
    Open ceiling rounds (history ++ events) state' where
  outcome := houtcome.trans h.outcome
  limit := by rw [hcounter, h.limit]
  counter := by rw [hcounter, h.counter]
  below := h.below
  started := by
    have := h.started
    omega
  rejected := by
    rw [verdicts_append, hverdicts, List.append_nil]
    exact h.rejected
  inTime := by
    rw [timely_append_of_nil hverdicts, verdicts_append, hverdicts,
      List.append_nil, h.inTime]
  failures := by rw [reports_append, hreports, List.append_nil, h.failures]

theorem Closed.same {outcome : Outcome}
    (h : Closed ceiling rounds outcome history state)
    (hcounter : state'.session.counter = state.session.counter)
    (hstarted : state'.started = state.started)
    (hrests : LoopRests events) :
    Closed ceiling rounds outcome (history ++ events) state' where
  written := by
    rw [sent_append, hrests.sent, List.append_nil]
    exact h.written
  below := h.below
  started := hstarted ▸ h.started
  counter := by rw [hcounter, h.counter]
  inTime := by rw [rejections_append_of_nil hrests.verdicts, h.inTime]
  exhausted := h.exhausted
  last := by
    rw [verdicts_append, hrests.verdicts, List.append_nil]
    exact h.last

/-- A step that goes to no other place keeps the books of either kind. -/
theorem Books.same (h : Books ceiling history state)
    (houtcome : state'.session.outcome = state.session.outcome)
    (hcounter : state'.session.counter = state.session.counter)
    (hstarted : state'.started = state.started)
    (hphase : state'.phase.ending? = state.phase.ending?)
    (hengaged : state'.phase.isEngaged = state.phase.isEngaged)
    (hrests : LoopRests events) : Books ceiling (history ++ events) state' where
  isOpen := by
    intro hnone
    obtain ⟨rounds, hopen⟩ := h.isOpen (hphase ▸ hnone)
    exact ⟨rounds, hopen.same houtcome hcounter
      (by rw [hstarted, hengaged]) hrests.verdicts (reports_of_rests hrests)⟩
  isClosed := by
    intro outcome hending
    obtain ⟨rounds, hclosed⟩ := h.isClosed outcome (hphase ▸ hending)
    exact ⟨rounds, hclosed.same hcounter hstarted hrests⟩

theorem Books.of_open (h : Open ceiling rounds history state)
    (hphase : state.phase.ending? = none) : Books ceiling history state where
  isOpen _ := ⟨rounds, h⟩
  isClosed outcome hending := by
    rw [hphase] at hending
    cases hending

theorem Books.of_closed {outcome : Outcome}
    (h : Closed ceiling rounds outcome history state)
    (hphase : state.phase.ending? = some (.ok outcome)) :
    Books ceiling history state where
  isOpen hnone := by
    rw [hphase] at hnone
    cases hnone
  isClosed outcome' hending := by
    rw [hphase] at hending
    cases hending
    exact ⟨rounds, h⟩

/-- A loop that failed keeps no books. -/
theorem Books.of_error {cause : IoError}
    (hphase : state.phase.ending? = some (.error cause)) :
    Books ceiling history state where
  isOpen hnone := by
    rw [hphase] at hnone
    cases hnone
  isClosed outcome hending := by
    rw [hphase] at hending
    cases hending

theorem Open.start :
    Open (max maxFailures.toNat 1) 0 []
      (.start setup (.new context maxFailures) sink) where
  outcome := rfl
  limit := Counter.toNat_ceiling_new maxFailures
  counter := rfl
  below := by omega
  started := rfl
  rejected := ⟨[], rfl, rfl⟩
  inTime := rfl
  failures := rfl

-- ============================================== the steps that are booked

theorem Open.rejections_eq (h : Open ceiling rounds history state) :
    rejections history = rounds := by
  obtain ⟨causes, hcauses, hlength⟩ := h.rejected
  rw [rejections, h.inTime, hcauses, List.countP_eq_length.mpr, List.length_map,
    hlength]
  intro verdict hmem
  obtain ⟨cause, -, rfl⟩ := List.mem_map.mp hmem
  rfl

theorem Open.last_ne (h : Open ceiling rounds history state) :
    (verdicts history).getLast? ≠ some .accepted := by
  obtain ⟨causes, hcauses, -⟩ := h.rejected
  intro hlast
  obtain ⟨cause, -, heq⟩ := List.mem_map.mp
    (hcauses ▸ List.mem_of_getLast? hlast)
  cases heq

/-- A verdict that is recorded while nobody has cancelled is in time. -/
theorem timely_recorded (hnone : ∀ event ∈ history, event.cancels = false)
    (verdict : Verdict) (step : Step) (message : Message) :
    timely (history ++ [.recorded verdict step, .sent message])
      = verdicts history ++ [verdict] := by
  refine (timely_of_none fun event hmem => ?_).trans (verdicts_append _ _)
  rcases List.mem_append.mp hmem with hmem | hmem
  · exact hnone event hmem
  · simp only [List.mem_cons, List.not_mem_nil, or_false] at hmem
    rcases hmem with rfl | rfl <;> rfl

/-- The session was cancelled before the next attempt. -/
theorem Open.halt (h : Open ceiling rounds history state)
    (hphase : state.phase = .deciding) {outcome : Outcome}
    {session : Session}
    (hobserve : state.session.observe = (some outcome, session))
    (sink : Sink) :
    Closed ceiling rounds outcome (history ++ [.sent outcome.message])
      { state with session, sink, phase := .stopping (.ok outcome) } := by
  have hstarted := h.started
  rw [hphase] at hstarted
  rcases Session.observe_inv hobserve with ⟨_, -, hsome, -⟩
    | ⟨reason, heq, -, -, rfl⟩ | ⟨heq, -⟩
  · rw [h.outcome] at hsome
    cases hsome
  · cases heq
    refine ⟨⟨sent history, sent_append _ _, h.failures⟩, h.below, ?_,
      h.counter, ?_, fun heq => (by cases heq), ?_⟩
    · show state.started ≤ rounds + 1
      rw [hstarted]
      exact Nat.le_succ rounds
    · exact (rejections_append_of_nil rfl).trans h.rejections_eq
    · rw [verdicts_append, show verdicts [.sent _] = [] from rfl,
        List.append_nil]
      exact ⟨fun hlast => absurd hlast h.last_ne, fun heq => by cases heq⟩
  · cases heq

/-- A rejected attempt is followed by another one. -/
theorem Open.retry (h : Open ceiling rounds history state)
    {verdict : Verdict} (hphase : state.phase = .settling verdict)
    (hnone : ∀ event ∈ history, event.cancels = false) {session : Session}
    (hrecord : state.session.record verdict = (.retry, session))
    (sink : Sink) :
    Open ceiling (rounds + 1)
      (history ++ [.recorded verdict .retry, .sent .failure])
      { state with session, sink, phase := .deciding } := by
  -- of all records only a rejection below the ceiling goes on
  rcases Session.record_inv hrecord with ⟨_, -, hstep, -⟩ | ⟨-, -, hstep, -⟩
    | ⟨_, _, -, -, -, hstep, -⟩ | ⟨cause, -, rfl, -, hmore, -, rfl⟩
    | ⟨_, -, -, -, -, hstep, -⟩
  · cases hstep
  · cases hstep
  · cases hstep
  · have hbelow : state.session.counter.failures.toNat
        < state.session.counter.ceiling.toNat := by
      rw [h.counter, h.limit]
      exact h.below
    have hcounter := Counter.toNat_recordFailure hbelow
    rw [h.counter] at hcounter
    have hlimit : state.session.counter.recordFailure.ceiling.toNat
        = ceiling := by
      rw [Counter.ceiling_recordFailure, h.limit]
    have hstarted := h.started
    rw [hphase] at hstarted
    refine ⟨h.outcome, hlimit, hcounter, ?_, hstarted, ?_, ?_, ?_⟩
    · rw [Counter.hasMore_eq, decide_eq_true_eq, hcounter, hlimit] at hmore
      exact hmore
    · obtain ⟨causes, hcauses, hlength⟩ := h.rejected
      refine ⟨causes ++ [cause], ?_, by rw [List.length_append, hlength]; rfl⟩
      rw [verdicts_append, hcauses, List.map_append]
      rfl
    · rw [timely_recorded hnone, verdicts_append]
      rfl
    · rw [reports_append, h.failures, List.replicate_succ']
      rfl
  · cases hstep

/-- The last verdict decides the outcome. -/
theorem Open.conclude (h : Open ceiling rounds history state)
    {verdict : Verdict} (hphase : state.phase = .settling verdict)
    (hflag : Flagged history state.session.slot)
    {outcome : Outcome} {session : Session}
    (hrecord : state.session.record verdict = (.finish outcome, session))
    (sink : Sink) :
    Closed ceiling rounds outcome
      (history ++ [.recorded verdict (.finish outcome),
        .sent outcome.message])
      { state with session, sink, phase := .stopping (.ok outcome) } := by
  have hwritten : ∃ body, sent (history ++ [.recorded verdict (.finish outcome),
      .sent outcome.message]) = body ++ [outcome.message]
      ∧ body.filter Message.isReport = List.replicate rounds .failure :=
    ⟨sent history, sent_append _ _, h.failures⟩
  have hstarted : state.started ≤ rounds + 1 := by
    rw [h.started, hphase]
    exact Nat.le_refl _
  have hlast : (verdicts (history ++ [.recorded verdict (.finish outcome),
      .sent outcome.message])).getLast? = some verdict := by
    rw [verdicts_append]
    exact List.getLast?_concat ..
  rcases Session.record_inv hrecord with ⟨_, hsome, -⟩ | ⟨-, rfl, hstep, rfl⟩
    | ⟨cause, reason, -, rfl, hreason, hstep, rfl⟩ | ⟨_, -, -, -, -, hstep, -⟩
    | ⟨cause, -, rfl, hopen, hmore, hstep, rfl⟩
  · rw [h.outcome] at hsome
    cases hsome
  · -- accepted: whether in time or not, it is no rejection
    cases hstep
    refine ⟨hwritten, h.below, hstarted, h.counter, ?_,
      fun heq => (by cases heq), by rw [hlast]; simp⟩
    refine Eq.trans ?_ h.rejections_eq
    cases hcancelled : state.session.slot.cancelled with
    | none =>
        rw [rejections, timely_recorded (hflag.cancels_eq_false hcancelled),
          List.countP_append, rejections, h.inTime]
        rfl
    | some reason =>
        rw [rejections, timely,
          untilCancelled_append_of_some (hflag.mp (by rw [hcancelled]; rfl))]
        rfl
  · -- rejected too late
    cases hstep
    refine ⟨hwritten, h.below, hstarted, h.counter, ?_,
      fun heq => (by cases heq), by rw [hlast]; simp⟩
    refine Eq.trans ?_ h.rejections_eq
    rw [rejections, timely,
      untilCancelled_append_of_some (hflag.mp (by rw [hreason]; rfl))]
    rfl
  · cases hstep
  · -- rejected, and the ceiling is reached
    cases hstep
    have hbelow : state.session.counter.failures.toNat
        < state.session.counter.ceiling.toNat := by
      rw [h.counter, h.limit]
      exact h.below
    have hcounter := Counter.toNat_recordFailure hbelow
    rw [h.counter] at hcounter
    refine ⟨hwritten, h.below, hstarted, hcounter, ?_, fun _ => ?_,
      by rw [hlast]; simp⟩
    · rw [rejections, timely_recorded (hflag.cancels_eq_false hopen),
        List.countP_append, ← h.inTime]
      exact congrArg (· + 1) h.rejections_eq
    · rw [Counter.hasMore_eq, decide_eq_false_iff_not, hcounter,
        Counter.ceiling_recordFailure, h.limit] at hmore
      have := h.below
      omega

theorem Books.step (h : Books ceiling history state)
    (hflag : Flagged history state.session.slot)
    (htalk : ∀ message ∈ state.channel, message.isReport = false)
    (harm : Arm setup state action state' events) :
    Books ceiling (history ++ events) state' := by
  -- only `halt`, `retry` and `conclude` write into the books; whoever else
  -- goes on, the loop included, leaves them as they are
  cases harm with
  | @reader _ next _ =>
      exact h.same rfl rfl rfl rfl rfl (.of_reader next.effect)
  | @attempt number _ next _ _ =>
      exact h.same rfl rfl rfl rfl rfl (.of_attempt number next.effect)
  | elapse => exact h.same rfl rfl rfl rfl rfl .nil
  | @halt outcome session _ _ hphase hobserve hwrote =>
      obtain ⟨rounds, hopen⟩ := h.isOpen (by rw [hphase]; rfl)
      cases hwrote with
      | sent _ => exact .of_closed (hopen.halt hphase hobserve _) rfl
      | unsent _ => exact .of_error rfl
  | @proceed session hphase hobserve =>
      rcases Session.observe_inv hobserve with ⟨_, heq, -⟩ | ⟨_, heq, -⟩
        | ⟨-, -, -, rfl⟩
      · cases heq
      · cases heq
      · exact h.same rfl rfl rfl (by rw [hphase]; rfl) (by rw [hphase]; rfl)
          .nil
  | launch hphase =>
      obtain ⟨rounds, hopen⟩ := h.isOpen (by rw [hphase]; rfl)
      exact .of_open (hopen.same rfl rfl (by rw [hphase]; rfl) rfl rfl) rfl
  | forward hphase hchannel hwrote | drain hphase hchannel hwrote =>
      obtain ⟨rounds, hopen⟩ := h.isOpen (by rw [hphase]; rfl)
      have hsilent := reports_of_talk (htalk _ (hchannel ▸ List.mem_cons_self))
      cases hwrote with
      | sent _ =>
          exact .of_open (hopen.same rfl rfl (by rw [hphase]) rfl hsilent) rfl
      | unsent _ => exact .of_error rfl
  | join hphase _ _ =>
      exact h.same rfl rfl rfl (by rw [hphase]; rfl) (by rw [hphase]; rfl) .nil
  | notice _ _ _ _ => exact h.same rfl rfl rfl rfl rfl .nil
  | collapse hphase _ _ _ =>
      exact h.same rfl rfl rfl (by rw [hphase]; rfl) (by rw [hphase]; rfl) .nil
  | abandon hphase _ _ =>
      obtain ⟨rounds, hopen⟩ := h.isOpen (by rw [hphase]; rfl)
      exact .of_open (hopen.same rfl rfl (by rw [hphase]; rfl) rfl rfl) rfl
  | retry hphase _ hrecord hwrote =>
      obtain ⟨rounds, hopen⟩ := h.isOpen (by rw [hphase]; rfl)
      have hnone := hflag.cancels_eq_false (Session.cancelled_of_retry hrecord)
      cases hwrote with
      | sent _ => exact .of_open (hopen.retry hphase hnone hrecord _) rfl
      | unsent _ => exact .of_error rfl
  | conclude hphase _ hrecord hwrote =>
      obtain ⟨rounds, hopen⟩ := h.isOpen (by rw [hphase]; rfl)
      cases hwrote with
      | sent _ => exact .of_closed (hopen.conclude hphase hflag hrecord _) rfl
      | unsent _ => exact .of_error rfl
  | stop hphase =>
      exact h.same rfl rfl rfl (by rw [hphase]; rfl) (by rw [hphase]; rfl)
        (.of_cancel _ _)
  | reap hphase _ | giveUp hphase _ =>
      exact h.same rfl rfl rfl (by rw [hphase]; rfl) (by rw [hphase]; rfl) .nil
  | sweep hphase =>
      exact h.same rfl rfl rfl (by rw [hphase]; rfl) (by rw [hphase]; rfl)
        (.of_sweep _)

/-- Every run keeps its books. -/
theorem Run.books
    (hrun : Run setup (.start setup (.new context maxFailures) sink)
      history state) : Books (max maxFailures.toNat 1) history state := by
  induction hrun with
  | init => exact .of_open .start rfl
  | step action hrun hstep ih =>
      exact ih.step hrun.flagged hrun.channel_talk (arm_of_apply hstep)

/-- A loop without an ending has a session without an outcome. -/
theorem Run.outcome_eq_none
    (hrun : Run setup (.start setup (.new context maxFailures) sink)
      history state) (hphase : state.phase.ending? = none) :
    state.session.outcome = none := by
  obtain ⟨rounds, hopen⟩ := hrun.books.isOpen hphase
  exact hopen.outcome

-- ============================================================ the ceiling

/-- What a session that is over has shown to the screen locker. -/
theorem Closed.count_failure {outcome : Outcome}
    (h : Closed ceiling rounds outcome history state) :
    (sent history).count .failure = rounds := by
  obtain ⟨body, hsent, hbody⟩ := h.written
  have hlast : [outcome.message].count Message.failure = 0 := by
    cases outcome <;> rfl
  have hfilter : body.count Message.failure
      = (body.filter Message.isReport).count .failure :=
    (List.count_filter rfl).symm
  rw [hsent, List.count_append, hlast, Nat.add_zero, hfilter, hbody,
    List.count_replicate_self]

theorem Closed.not_isTerminal {outcome : Outcome}
    (h : Closed ceiling rounds outcome history state) :
    ∃ body, sent history = body ++ [outcome.message]
      ∧ ∀ message ∈ body, message.isTerminal = false := by
  obtain ⟨body, hsent, hbody⟩ := h.written
  refine ⟨body, hsent, fun message hmem => ?_⟩
  cases hreport : message.isReport with
  | false => cases message <;> first | rfl | cases hreport
  | true =>
      have hfailure := List.mem_filter.mpr ⟨hmem, hreport⟩
      rw [hbody] at hfailure
      rw [List.eq_of_mem_replicate hfailure]
      rfl

/-- The retry ceiling, for every backend, every input and every order of
steps. A run that returns with an outcome

- has put out exactly the lines of the messages that were sent, and of
  these the last one, and no other, is terminal;
- has called the backend as often as the ceiling allows, or less;
- has sent fewer failures than the ceiling: as many as its counter says,
  except that the rejection which exhausts the session is not reported;
- has reported a success exactly if its outcome is that the user is
  authenticated, which is the case exactly if the last verdict recorded
  was an acceptance;
- is exhausted exactly if as many rejections as the ceiling were recorded
  while nobody had cancelled the session. -/
theorem Run.keeps_ceiling {outcome : Outcome}
    (hrun : Run setup (.start setup (.new context maxFailures) sink)
      history state) (hreturned : state.phase = .returned (.ok outcome)) :
    state.sink.accepted
        = sink.accepted ++ (sent history).flatMap Message.lineBytes
      ∧ (∃ body, sent history = body ++ [outcome.message]
        ∧ outcome.message.isTerminal = true
        ∧ ∀ message ∈ body, message.isTerminal = false)
      ∧ (calls history).length ≤ max maxFailures.toNat 1
      ∧ (sent history).count .failure ≤ max maxFailures.toNat 1 - 1
      ∧ (outcome ≠ .exhausted → (sent history).count .failure
        = state.session.counter.failures.toNat)
      ∧ (outcome = .exhausted →
        (sent history).count .failure = max maxFailures.toNat 1 - 1)
      ∧ (.success ∈ sent history ↔ outcome = .authenticated)
      ∧ (outcome = .authenticated ↔
        (verdicts history).getLast? = some .accepted)
      ∧ (outcome = .exhausted ↔
        rejections history = max maxFailures.toNat 1) := by
  have hending : state.phase.ending? = some (.ok outcome) := by
    rw [hreturned]
    rfl
  obtain ⟨rounds, hclosed⟩ := hrun.books.isClosed outcome hending
  have hcount := hclosed.count_failure
  have hbelow := hclosed.below
  obtain ⟨body, hsent, hbody⟩ := hclosed.not_isTerminal
  refine ⟨hrun.accepted_of_outcome hending,
    ⟨body, hsent, outcome.isTerminal_message, hbody⟩, ?_, ?_, ?_, ?_, ?_,
    hclosed.last.symm, ?_⟩
  · rw [hrun.calls_eq, List.length_range]
    have := hclosed.started
    omega
  · omega
  · intro hne
    rw [hcount, hclosed.counter, if_neg hne, Nat.add_zero]
  · intro hexhausted
    have := hclosed.exhausted hexhausted
    omega
  · rw [hsent, List.mem_append, List.mem_singleton]
    constructor
    · rintro (hmem | heq)
      · have := hbody _ hmem
        cases this
      · cases outcome <;> first | rfl | cases heq
    · rintro rfl
      exact .inr rfl
  · -- short of the ceiling unless it is the last rejection that counts
    rw [hclosed.inTime]
    constructor
    · intro hexhausted
      rw [if_pos hexhausted, hclosed.exhausted hexhausted]
    · intro heq
      by_contra hne
      rw [if_neg hne] at heq
      omega

/-- Two attempts without a mechanism exhaust a session that allows two:
one failure is reported, then the end. -/
theorem keeps_ceiling_unsupported :
    ∃ history state,
      Run ⟨.unsupported, 1, 0⟩
        (.start ⟨.unsupported, 1, 0⟩ (.new ⟨"user", none⟩ 2) {}) history state
      ∧ state.phase = .returned (.ok .exhausted)
      ∧ (calls history).length ≤ 2
      ∧ (sent history).count .failure = 1
      ∧ .success ∉ sent history
      ∧ rejections history = 2 := by
  obtain ⟨history, state, hrun, hending⟩ := Run.exists_of_replay
    ⟨.unsupported, 1, 0⟩
    (.start ⟨.unsupported, 1, 0⟩ (.new ⟨"user", none⟩ 2) {})
    [.move .check, .move .launch, .attempt 0, .move .join,
      .move .settle, .move .check, .move .launch, .attempt 1, .move .join,
      .move .settle, .move .stop, .move .giveUp, .move .sweep]
    (fun state _ => state.phase.returned?) (some (.ok .exhausted))
    (by decide +kernel)
  have hreturned := Phase.eq_of_returned? hending
  obtain ⟨-, -, hcalls, -, -, hfailures, hsuccess, -, hrejections⟩ :=
    hrun.keeps_ceiling hreturned
  refine ⟨history, state, hrun, hreturned, hcalls, hfailures rfl, ?_,
    hrejections.mp rfl⟩
  intro hmem
  cases hsuccess.mp hmem

end Dispatch

end ScreenUnlock
