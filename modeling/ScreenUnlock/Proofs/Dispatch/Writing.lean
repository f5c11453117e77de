/-
What the loop writes, and what becomes of it when a write fails.

The writer takes one message after the other, and goes on after a failure
if it is asked to. That the screen locker never sees a torn line followed
by another one is owed to the loop: each of the places that write makes
for the end at the first failure, and on the way from there nothing is
written any more (`State.Arm.of_ending`). So a run is in one of two
conditions (`Outlet`). Either every message was sent, or one was not, it
is the last that was tried, and the loop ends with the cause. In both the
sink is the one that `Sink.sends` computes from these messages.

All the messages fit on lines. What the screen locker received is cut at
the newlines, so its lines are those of the messages, and the piece behind
the last newline is all that a failure can leave.
-/
import ScreenUnlock.Auth.Backend
import ScreenUnlock.Proofs.Dispatch.Output
import ScreenUnlock.Proofs.Dispatch.Replay
import ScreenUnlock.Proofs.Wire.Lines

namespace ScreenUnlock.Dispatch

variable {setup : Setup} {context : AuthContext} {maxFailures : UInt32}
  {sink : Sink} {history later events : List Event}
  {given state state' : State} {action : Action} {message : Message}
  {cause : IoError} {ending : Ending}

open State (Arm Wrote arm_of_apply)

-- ======================================================= what was passed on

/-- The message that an event hands to the writer. -/
def Event.passed? : Event → Option Message
  | .sent message => some message
  | .unsent message _ => some message
  | _ => none

/-- The messages that were handed to the writer. -/
def passed (history : List Event) : List Message :=
  history.filterMap Event.passed?

/-- The message that an event could not write, with the cause. -/
def Event.failed? : Event → Option (Message × IoError)
  | .unsent message cause => some (message, cause)
  | _ => none

/-- The messages that could not be written. -/
def failed (history : List Event) : List (Message × IoError) :=
  history.filterMap Event.failed?

@[simp] theorem passed_append (history later : List Event) :
    passed (history ++ later) = passed history ++ passed later := by
  simp [passed]

/-- A verdict that is recorded is not a message. -/
theorem passed_recorded {verdict : Verdict} {step : Step} :
    passed (.recorded verdict step :: events) = passed events := rfl

@[simp] theorem failed_append (history later : List Event) :
    failed (history ++ later) = failed history ++ failed later := by
  simp [failed]

theorem mem_failed_iff :
    (message, cause) ∈ failed history ↔ .unsent message cause ∈ history := by
  unfold failed
  rw [List.mem_filterMap]
  constructor
  · rintro ⟨event, hmem, hfailed⟩
    cases event with
    | unsent other cause' =>
        cases hfailed
        exact hmem
    | _ => cases hfailed
  · exact fun hmem => ⟨_, hmem, rfl⟩

/-- As long as nothing failed, what was handed to the writer was sent. -/
theorem passed_eq_sent (h : failed history = []) :
    passed history = sent history := by
  refine List.filterMap_congr fun event hmem => ?_
  cases event with
  | unsent message cause =>
      exact absurd (List.filterMap_eq_nil_iff.mp h _ hmem) (by simp [Event.failed?])
  | _ => rfl

/-- Nothing passes through the writer. -/
structure Unwritten (events : List Event) : Prop where
  sent : sent events = []
  failed : failed events = []

theorem Unwritten.passed (h : Unwritten events) : passed events = [] :=
  (passed_eq_sent h.failed).trans h.sent

theorem Unwritten.not_mem (h : Unwritten events) :
    .sent message ∉ events := by
  intro hmem
  exact absurd (List.filterMap_eq_nil_iff.mp h.sent _ hmem)
    (Option.some_ne_none _)

theorem LoopRests.unwritten (h : LoopRests events) : Unwritten events where
  sent := h.sent
  failed := List.eq_nil_iff_forall_not_mem.mpr fun _ hmem =>
    h.unsent _ _ (mem_failed_iff.mp hmem)

theorem Unwritten.append (h : Unwritten history) (h' : Unwritten later) :
    Unwritten (history ++ later) where
  sent := by rw [sent_append, h.sent, h'.sent]; rfl
  failed := by rw [failed_append, h.failed, h'.failed]; rfl

-- ========================================================== after the end

/-- A loop that has decided on its ending keeps it, and writes nothing. -/
theorem State.Arm.of_ending (harm : Arm setup state action state' events)
    (h : state.phase.ending? = some ending) :
    state'.phase.ending? = some ending ∧ state'.sink = state.sink
      ∧ Unwritten events := by
  cases harm with
  | @reader _ next _ => exact ⟨h, rfl, (LoopRests.of_reader _).unwritten⟩
  | attempt _ _ => exact ⟨h, rfl, (LoopRests.of_attempt _ _).unwritten⟩
  | elapse => exact ⟨h, rfl, LoopRests.nil.unwritten⟩
  | stop hphase =>
      rw [hphase] at h
      exact ⟨h, rfl, (LoopRests.of_cancel _ _).unwritten⟩
  | reap hphase _ | giveUp hphase _ =>
      rw [hphase] at h
      exact ⟨h, rfl, LoopRests.nil.unwritten⟩
  | sweep hphase =>
      rw [hphase] at h
      exact ⟨h, rfl, (LoopRests.of_sweep _).unwritten⟩
  | halt hphase | proceed hphase | launch hphase | forward hphase
  | join hphase | notice hphase | collapse hphase | abandon hphase
  | drain hphase | retry hphase | conclude hphase =>
      rw [hphase] at h
      cases h

/-- The run can go on to its return with this ending. -/
def ComesTo (setup : Setup) (ending : Ending) (state : State) : Prop :=
  ∃ later state', Run setup state later state'
    ∧ state'.phase = .returned ending

/-- A step that is possible, and the rest of the way from there. -/
theorem ComesTo.of_step (action : Action)
    (hsome : (apply setup action state).isSome = true)
    (h : ∀ state' events, Arm setup state action state' events →
      ComesTo setup ending state') : ComesTo setup ending state := by
  obtain ⟨⟨next, events⟩, hstep⟩ := Option.isSome_iff_exists.mp hsome
  obtain ⟨later, last, hrun, hreturned⟩ := h next events (arm_of_apply hstep)
  exact ⟨_, last, (Run.step action .init hstep).trans hrun, hreturned⟩

theorem ComesTo.of_sweeping (hphase : state.phase = .sweeping ending) :
    ComesTo setup ending state := by
  refine .of_step (.move .sweep) (by simp [apply, State.move?, hphase]) ?_
  intro state' events harm
  cases harm with
  | sweep hsweeping =>
      cases hsweeping.symm.trans hphase
      exact ⟨[], _, .init, rfl⟩

/-- The grace period goes by, and the loop waits no longer. -/
theorem ComesTo.of_awaiting {limit : Nat}
    (hphase : state.phase = .awaiting ending limit) :
    ComesTo setup ending state := by
  refine .of_step (.elapse limit) rfl fun state' events harm => ?_
  cases harm with
  | elapse =>
      refine .of_step (.move .giveUp)
        (by simp [apply, State.move?, hphase]) ?_
      intro state' events harm
      cases harm with
      | giveUp hawaiting _ =>
          cases hawaiting.symm.trans hphase
          exact .of_sweeping rfl

/-- A loop that has decided on its ending comes to its return, wherever
the other threads stand. -/
theorem ComesTo.of_ending (h : state.phase.ending? = some ending) :
    ComesTo setup ending state := by
  cases hphase : state.phase with
  | stopping ending' =>
      rw [hphase] at h
      cases h
      refine .of_step (.move .stop) (by simp [apply, State.move?, hphase]) ?_
      intro state' events harm
      cases harm with
      | stop hstopping =>
          cases hstopping.symm.trans hphase
          exact .of_awaiting rfl
  | awaiting ending' limit =>
      rw [hphase] at h
      cases h
      exact .of_awaiting hphase
  | sweeping ending' =>
      rw [hphase] at h
      cases h
      exact .of_sweeping hphase
  | returned ending' =>
      rw [hphase] at h
      cases h
      exact ⟨[], state, .init, hphase⟩
  | deciding | launching | attending | settling _ | crashed =>
      rw [hphase] at h
      cases h

-- ============================================================== the outlet

/-- What has gone through the writer, and what the sink has become. -/
inductive Outlet (sink : Sink) (history : List Event) (state : State) :
    Prop where
  -- Everything was sent; if the loop ends, the last line is the terminal
  -- one.
  | whole : failed history = [] →
      (∀ ending, state.phase.ending? = some ending → ∃ outcome body,
        ending = .ok outcome ∧ sent history = body ++ [outcome.message]) →
      sink.sends (sent history) = (.ok (), state.sink) →
      Outlet sink history state
  -- One message could not be sent, none came behind it, and the loop ends
  -- with the cause.
  | torn {before after : List Event} {message : Message} {cause : IoError}
      {sink' : Sink} :
      history = before ++ .unsent message cause :: after →
      failed before = [] → Unwritten after →
      state.phase.ending? = some (.error cause) →
      sink.sends (sent before) = (.ok (), sink') →
      sink'.send message = (.error cause, state.sink) →
      Outlet sink history state

theorem Outlet.start {session : Session} :
    Outlet sink [] (.start setup session sink) :=
  .whole rfl (fun _ h => by cases h) rfl

/-- A step that writes nothing. -/
theorem Outlet.same (h : Outlet sink history state)
    (hsink : state'.sink = state.sink)
    (hending : state'.phase.ending? = state.phase.ending?)
    (hquiet : Unwritten events) : Outlet sink (history ++ events) state' := by
  cases h with
  | whole hnone hgoes hsends =>
      have hsent : sent (history ++ events) = sent history := by
        rw [sent_append, hquiet.sent, List.append_nil]
      refine .whole ?_ ?_ ?_
      · rw [failed_append, hnone, hquiet.failed]
        rfl
      · rw [hending, hsent]
        exact hgoes
      · rw [hsent, hsink, hsends]
  | torn hsplit hnone hafter hends hsends hsend =>
      refine .torn ?_ hnone (hafter.append hquiet) (hending.trans hends)
        hsends (hsink ▸ hsend)
      rw [hsplit, List.append_assoc, List.cons_append]

/-- A message is written, or cannot be written. -/
theorem Outlet.wrote (h : Outlet sink history state)
    (hgoes : state.phase.ending? = none) {middle : State} {next : Phase}
    (hwrote : Wrote middle message next state' events)
    (hsink : middle.sink = state.sink)
    (hnext : ∀ ending, next.ending? = some ending →
      ∃ outcome, ending = .ok outcome ∧ message = outcome.message) :
    Outlet sink (history ++ events) state' := by
  cases h with
  | torn _ _ _ hends _ _ =>
      rw [hgoes] at hends
      cases hends
  | whole hnone _ hsends =>
      rw [← hsink] at hsends
      cases hwrote with
      | sent hsend =>
          refine .whole ?_ (fun ending hends => ?_) ?_
          · rw [failed_append, hnone]
            rfl
          · obtain ⟨outcome, rfl, rfl⟩ := hnext ending hends
            exact ⟨outcome, sent history, rfl, sent_append _ _⟩
          · rw [sent_append]
            exact Sink.sends_snoc hsends hsend
      | unsent hsend => exact .torn rfl hnone ⟨rfl, rfl⟩ rfl hsends hsend

theorem Outlet.step (h : Outlet sink history state)
    (harm : Arm setup state action state' events) :
    Outlet sink (history ++ events) state' := by
  have hrecorded : ∀ verdict step, Outlet sink
      (history ++ [.recorded verdict step]) state := fun verdict step =>
    h.same rfl rfl ⟨rfl, rfl⟩
  have hlast : ∀ outcome ending,
      (Phase.stopping (.ok outcome)).ending? = some ending →
      ∃ outcome', ending = .ok outcome'
        ∧ outcome.message = outcome'.message := by
    intro outcome ending hends
    cases hends
    exact ⟨outcome, rfl, rfl⟩
  cases hgoes : state.phase.ending? with
  | some ending =>
      obtain ⟨hends, hsink, hquiet⟩ := harm.of_ending hgoes
      exact h.same hsink (hends.trans hgoes.symm) hquiet
  | none =>
      cases harm with
      | @reader _ next _ =>
          exact h.same rfl rfl (LoopRests.of_reader _).unwritten
      | attempt _ _ => exact h.same rfl rfl (LoopRests.of_attempt _ _).unwritten
      | elapse => exact h.same rfl rfl LoopRests.nil.unwritten
      | halt _ _ hwrote => exact h.wrote hgoes hwrote rfl (hlast _)
      | forward _ _ hwrote | drain _ _ hwrote =>
          exact h.wrote hgoes hwrote rfl (fun _ hends => by cases hends)
      | retry _ _ _ hwrote =>
          rw [List.append_cons]
          exact (hrecorded _ _).wrote hgoes hwrote rfl
            (fun _ hends => by cases hends)
      | conclude _ _ _ hwrote =>
          rw [List.append_cons]
          exact (hrecorded _ _).wrote hgoes hwrote rfl (hlast _)
      | proceed _ _ | launch _ | join _ _ _ | collapse _ _ _ _
      | abandon _ _ _ =>
          exact h.same rfl hgoes.symm ⟨rfl, rfl⟩
      | notice _ _ _ _ => exact h.same rfl rfl ⟨rfl, rfl⟩
      | stop hphase | reap hphase _ | giveUp hphase _ | sweep hphase =>
          rw [hphase] at hgoes
          cases hgoes

theorem Run.outlet {session : Session}
    (hrun : Run setup (.start setup session sink) history state) :
    Outlet sink history state := by
  induction hrun with
  | init => exact .start
  | step action _ hstep ih => exact ih.step (arm_of_apply hstep)

-- =============================================================== the lines

/-- What an attempt says fits on one line. -/
theorem fitsLine_of_said {clock : Nat} {slot : Slot} {attempt : Attempt}
    {next : Attempt.Next} (harm : Attempt.Arm clock slot attempt next)
    (hsaid : next.effect.bind Attempt.Effect.said? = some message) :
    message.FitsLine := by
  cases harm with
  | converse harm =>
      cases harm with
      | prompt =>
          cases hsaid
          exact Message.fitsLine_promptOf _
      | inform _ =>
          cases hsaid
          exact Message.fitsLine_infoOf _
      | ready | answer =>
          cases hsaid
          exact Message.fitsLine_fixed _ (by decide)
      | _ => cases hsaid
  | _ => cases hsaid

theorem fitsLine_outcome (outcome : Outcome) : outcome.message.FitsLine :=
  Message.fitsLine_fixed _ (by
    cases outcome <;> simp [Outcome.message, Message.fixed])

/-- A message that is written leaves nothing behind that does not fit. -/
theorem fitsLine_of_wrote {middle : State} {next : Phase}
    (hwrote : Wrote middle message next state' events)
    (hfits : message.FitsLine)
    (h : ∀ other ∈ passed history ++ middle.channel, other.FitsLine) :
    ∀ other ∈ passed (history ++ events) ++ state'.channel,
      other.FitsLine := by
  have hpassed : passed events = [message] := by cases hwrote <;> rfl
  have hchannel : state'.channel = middle.channel := by cases hwrote <;> rfl
  intro other hmem
  rw [passed_append, hpassed, hchannel, List.append_assoc, List.mem_append,
    List.singleton_append, List.mem_cons] at hmem
  rcases hmem with hmem | rfl | hmem
  · exact h other (List.mem_append_left _ hmem)
  · exact hfits
  · exact h other (List.mem_append_right _ hmem)

/-- Everything that was or will be written fits on lines. -/
theorem Run.fitsLine {session : Session}
    (hrun : Run setup (.start setup session sink) history state) :
    ∀ message ∈ passed history ++ state.channel, message.FitsLine := by
  induction hrun with
  | init => simp [passed, State.start]
  | @step history events state state' action _ hstep ih =>
      have hquiet : state'.channel = state.channel → passed events = [] →
          ∀ message ∈ passed (history ++ events) ++ state'.channel,
            message.FitsLine := by
        intro hchannel hpassed
        rw [passed_append, hpassed, List.append_nil, hchannel]
        exact ih
      have hrecorded : ∀ verdict step, passed [.recorded verdict step] = [] :=
        fun _ _ => rfl
      cases arm_of_apply hstep with
      | @attempt number attempt next _ harm =>
          rw [passed_append, (LoopRests.of_attempt number _).unwritten.passed,
            List.append_nil]
          intro message hmem
          rcases List.mem_append.mp hmem with hmem | hmem
          · exact ih message (List.mem_append_left _ hmem)
          · unfold State.withAttempt at hmem
            split at hmem
            · rcases List.mem_append.mp hmem with hmem | hmem
              · exact ih message (List.mem_append_right _ hmem)
              · exact fitsLine_of_said harm (Option.mem_toList.mp hmem)
            · exact ih message (List.mem_append_right _ hmem)
      | forward _ hchannel hwrote | drain _ hchannel hwrote =>
          rw [hchannel] at ih
          exact fitsLine_of_wrote hwrote (ih _ (by simp))
            fun other hmem => ih other (by
              rcases List.mem_append.mp hmem with hmem | hmem
              · exact List.mem_append_left _ hmem
              · exact List.mem_append_right _ (.tail _ hmem))
      | halt _ _ hwrote =>
          exact fitsLine_of_wrote hwrote (fitsLine_outcome _) ih
      | retry _ _ _ hwrote =>
          rw [List.append_cons]
          exact fitsLine_of_wrote hwrote
            (Message.fitsLine_fixed _ (by decide))
            (by rwa [passed_append, hrecorded, List.append_nil])
      | conclude _ _ _ hwrote =>
          rw [List.append_cons]
          exact fitsLine_of_wrote hwrote (fitsLine_outcome _)
            (by rwa [passed_append, hrecorded, List.append_nil])
      | @reader _ next _ => exact hquiet rfl (LoopRests.of_reader _).unwritten.passed
      | stop _ => exact hquiet rfl (LoopRests.of_cancel _ _).unwritten.passed
      | sweep _ => exact hquiet rfl (LoopRests.of_sweep _).unwritten.passed
      | _ => exact hquiet rfl rfl

-- ============================================================== the output

/-- Nothing passes through the writer after a failure. -/
theorem Outlet.stops (h : Outlet sink history state) {before after : List Event}
    (hsplit : history = before ++ .unsent message cause :: after) :
    passed after = []
      ∧ sink.sends (passed before ++ [message]) = (.error cause, state.sink)
      ∧ state.phase.ending? = some (.error cause) := by
  have hmem : .unsent message cause ∈ history :=
    hsplit ▸ List.mem_append_right _ (.head _)
  cases h with
  | whole hnone _ _ =>
      rw [← mem_failed_iff, hnone] at hmem
      cases hmem
  | @torn before' after' message' cause' sink' hsplit' hnone hafter hends
      hsends hsend =>
      -- both ways of cutting the history cut it at its one failure
      have hsole : .unsent message cause ∉ before' ∧
          .unsent message cause ∉ after' := by
        rw [← mem_failed_iff, ← mem_failed_iff, hnone, hafter.failed]
        exact ⟨List.not_mem_nil, List.not_mem_nil⟩
      obtain ⟨rfl, heq, rfl⟩ := (List.append_cons_inj_of_notMem
        hsole.1 hsole.2).mp (hsplit'.symm.trans hsplit)
      cases heq
      refine ⟨hafter.passed, ?_, hends⟩
      rw [passed_eq_sent hnone]
      exact Sink.sends_snoc hsends hsend

/-- The sink is what it becomes of the messages that went through the
writer, and the result of that decides whether the loop ends well. -/
theorem Outlet.result (h : Outlet sink history state) :
    ∃ result, sink.sends (passed history) = (result, state.sink)
      ∧ ∀ ending, state.phase.ending? = some ending →
        result = ending.map fun _ => () := by
  cases h with
  | whole hnone hgoes hsends =>
      refine ⟨.ok (), by rw [passed_eq_sent hnone, hsends], ?_⟩
      intro ending hends
      obtain ⟨outcome, _, rfl, -⟩ := hgoes ending hends
      rfl
  | @torn before after message cause sink' hsplit hnone hafter hends hsends
      hsend =>
      refine ⟨.error cause, ?_, ?_⟩
      · have hpassed : passed history = sent before ++ [message] := by
          rw [hsplit, List.append_cons, passed_append, passed_append,
            passed_eq_sent hnone, hafter.passed, List.append_nil]
          rfl
        rw [hpassed]
        exact Sink.sends_snoc hsends hsend
      · intro ending hends'
        cases hends.symm.trans hends'
        rfl

/-- What the sink accepted on the way is the lines of what was sent, and
of one more message that was not sent some beginning. -/
theorem Outlet.accepted (h : Outlet sink history state) :
    ∃ torn, state.sink.accepted
        = sink.accepted ++ ((sent history).flatMap Message.lineBytes ++ torn)
      ∧ (failed history = [] ∧ torn = []
          ∧ passed history = sent history
        ∨ ∃ message cause, .unsent message cause ∈ history
          ∧ torn <+: message.lineBytes
          ∧ passed history = sent history ++ [message]) := by
  cases h with
  | whole hnone _ hsends =>
      refine ⟨[], ?_, .inl ⟨hnone, rfl, passed_eq_sent hnone⟩⟩
      rw [List.append_nil]
      exact Sink.accepted_sends hsends
  | @torn before after message cause sink' hsplit hnone hafter _ hsends hsend =>
      obtain ⟨torn, hbegins, haccepted⟩ := Sink.accepted_send_error hsend
      have hsent : sent history = sent before := by
        rw [hsplit, List.append_cons, sent_append, sent_append, hafter.sent,
          List.append_nil]
        exact List.append_nil _
      refine ⟨torn, ?_, .inr ⟨message, cause, ?_, hbegins, ?_⟩⟩
      · rw [haccepted, Sink.accepted_sends hsends, hsent, List.append_assoc]
      · exact hsplit ▸ List.mem_append_right _ (.head _)
      · rw [hsent, ← passed_eq_sent hnone, hsplit, List.append_cons,
          passed_append, passed_append, hafter.passed, List.append_nil]
        rfl

/-- What became of the output in a run that began with `sink`. -/
structure WritesOut (setup : Setup) (sink : Sink) (history : List Event)
    (state : State) : Prop where
  -- Complete lines of what was sent, in order, and of at most one further
  -- message some beginning.
  bytes : ∃ torn, state.sink.accepted
      = sink.accepted ++ ((sent history).flatMap Message.lineBytes ++ torn)
    ∧ (torn = [] ∨ ∃ message cause, .unsent message cause ∈ history
      ∧ passed history = sent history ++ [message]
      ∧ torn <+: message.lineBytes)
  -- Line by line it reads as what was handed to the writer.
  lines : ∀ output : Bytes, state.sink.accepted = sink.accepted ++ output →
    ∀ (i : Nat) (line : Bytes), (Bytes.completeLines output)[i]? = some line →
      ∃ message, (passed history)[i]? = some message
        ∧ (Bytes.toText? line).map Message.parse = some (.ok message)
  -- The first message that cannot be sent is the last that is tried, and
  -- no call is made on the sink any more.
  stops : ∀ before message cause after,
    history = before ++ .unsent message cause :: after →
      passed after = []
      ∧ sink.sends (passed before ++ [message]) = (.error cause, state.sink)
  -- That message decides how the run ends, and there is a way to the end.
  fails : ∀ message cause, .unsent message cause ∈ history →
    state.phase.ending? = some (.error cause)
      ∧ ComesTo setup (.error cause) state
  returns : ∀ ending, state.phase = .returned ending → ∀ cause,
    (ending = .error cause ↔ ∃ message, .unsent message cause ∈ history)
  -- With an outcome it returns only when the terminal line is out.
  succeeds : ∀ outcome, state.phase = .returned (.ok outcome) →
    ∃ body sink', passed history = body ++ [outcome.message]
      ∧ sink.sends body = (.ok (), sink')
      ∧ sink'.send outcome.message = (.ok (), state.sink)
      ∧ state.sink.accepted = sink.accepted
        ++ (body.flatMap Message.lineBytes ++ outcome.message.lineBytes)
      ∧ state.sink.calls.getLast? = some .flushed

/-- Output faults, for every backend, every input, every order of steps
and every sink: what the screen locker receives is complete lines of the
messages that were sent, and behind them no more than the beginning of
one; the first failure is the last thing that happens to the sink, and
it, and nothing else, makes the run return an error. -/
theorem Run.writesOut {session : Session}
    (hrun : Run setup (.start setup session sink) history state) :
    WritesOut setup sink history state where
  bytes := by
    obtain ⟨torn, haccepted, hwhole⟩ := hrun.outlet.accepted
    refine ⟨torn, haccepted, ?_⟩
    rcases hwhole with ⟨-, hnil, -⟩ | ⟨message, cause, hmem, hbegins, hpassed⟩
    · exact .inl hnil
    · exact .inr ⟨message, cause, hmem, hpassed, hbegins⟩
  lines := by
    intro output houtput i line hline
    obtain ⟨torn, haccepted, hwhole⟩ := hrun.outlet.accepted
    have houtput : output = (sent history).flatMap Message.lineBytes ++ torn :=
      List.append_cancel_left (houtput.symm.trans haccepted)
    refine Message.parse_completeLines (fun message hmem =>
      hrun.fitsLine message (List.mem_append_left _ hmem)) ?_ hline
    rw [houtput]
    rcases hwhole with ⟨-, hnil, hpassed⟩ | ⟨message, _, -, hbegins, hpassed⟩
    · exact ⟨[], by rw [hpassed, hnil, List.append_nil, List.append_nil]⟩
    · rw [hpassed, List.flatMap_append, List.flatMap_singleton,
        List.prefix_append_right_inj]
      exact hbegins
  stops := by
    intro before message cause after hsplit
    obtain ⟨hpassed, hsends, -⟩ := hrun.outlet.stops hsplit
    exact ⟨hpassed, hsends⟩
  fails := by
    intro message cause hmem
    obtain ⟨before, after, hsplit⟩ := List.append_of_mem hmem
    obtain ⟨-, -, hends⟩ := hrun.outlet.stops hsplit
    exact ⟨hends, .of_ending hends⟩
  returns := by
    intro ending hreturned cause
    have hends : state.phase.ending? = some ending := by
      rw [hreturned]
      rfl
    constructor
    · rintro rfl
      cases hrun.outlet with
      | whole _ hgoes _ =>
          obtain ⟨outcome, _, heq, -⟩ := hgoes _ hends
          cases heq
      | torn hsplit _ _ hends' _ _ =>
          cases hends.symm.trans hends'
          exact ⟨_, hsplit ▸ List.mem_append_right _ (.head _)⟩
    · rintro ⟨message, hmem⟩
      obtain ⟨before, after, hsplit⟩ := List.append_of_mem hmem
      obtain ⟨-, -, hends'⟩ := hrun.outlet.stops hsplit
      exact Option.some.inj (hends.symm.trans hends')
  succeeds := by
    intro outcome hreturned
    have hends : state.phase.ending? = some (.ok outcome) := by
      rw [hreturned]
      rfl
    cases hrun.outlet with
    | torn _ _ _ hends' _ _ => cases hends.symm.trans hends'
    | whole hnone hgoes hsends =>
        obtain ⟨outcome', body, heq, hsent⟩ := hgoes _ hends
        cases heq
        rw [hsent] at hsends
        obtain ⟨sink', hbody, hsend⟩ := Sink.sends_snoc_inv hsends
        refine ⟨body, sink', (passed_eq_sent hnone).trans hsent, hbody, hsend,
          ?_, Sink.calls_send hsend⟩
        rw [Sink.accepted_send hsend, Sink.accepted_sends hbody,
          List.append_assoc]

/-- Two rejected attempts at a sink that takes 16 bytes a call and breaks
at its fourth: the first failure goes out in two pieces, the second is
torn, and the run returns what went wrong. -/
theorem writesOut_torn_failure :
    ∃ history state,
      Run ⟨.unsupported, 1, 0⟩
        (.start ⟨.unsupported, 1, 0⟩ (.new ⟨"user", none⟩ 3)
          { chunk := some 16, writeFaults := [(3, .fails .brokenPipe)] })
        history state
      ∧ state.phase = .returned (.error .brokenPipe)
      ∧ sent history = [.failure] ∧ passed history = [.failure, .failure]
      ∧ state.sink.accepted.length = 36
      ∧ (Bytes.completeLines state.sink.accepted).length = 1
      ∧ (∀ line, (Bytes.completeLines state.sink.accepted)[0]? = some line →
        (Bytes.toText? line).map Message.parse = some (.ok .failure))
      ∧ ∃ message, .unsent message .brokenPipe ∈ history := by
  obtain ⟨history, state, hrun, hview⟩ := Run.exists_of_replay
    ⟨.unsupported, 1, 0⟩
    (.start ⟨.unsupported, 1, 0⟩ (.new ⟨"user", none⟩ 3)
      { chunk := some 16, writeFaults := [(3, .fails .brokenPipe)] })
    [.move .check, .move .launch, .attempt 0, .move .join,
      .move .settle, .move .check, .move .launch, .attempt 1, .move .join,
      .move .settle, .move .stop, .move .giveUp, .move .sweep]
    (fun state history => (state.phase.returned?, sent history,
      passed history, state.sink.accepted.length,
      (Bytes.completeLines state.sink.accepted).length))
    (some (.error .brokenPipe), [.failure], [.failure, .failure], 36, 1)
    (by decide +kernel)
  simp only [Prod.mk.injEq] at hview
  obtain ⟨hreturned?, hsent, hpassed, haccepted, hlines⟩ := hview
  have hreturned := Phase.eq_of_returned? hreturned?
  have houtput := hrun.writesOut
  refine ⟨history, state, hrun, hreturned, hsent, hpassed, haccepted, hlines,
    fun line hline => ?_, (houtput.returns _ hreturned _).mp rfl⟩
  obtain ⟨message, hmessage, hparse⟩ := houtput.lines _ rfl 0 line hline
  rw [hpassed] at hmessage
  cases hmessage
  exact hparse

end ScreenUnlock.Dispatch
