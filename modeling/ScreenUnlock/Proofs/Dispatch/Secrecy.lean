/-
What the screen locker can learn from the output.

Two runs are compared, with the backends, the answers and the users their
own. What they have in common is their views, and a view has no place for
the bytes of an answer, for a request with echo or an error message, or for
the reason of a failure. So none of these shows.

# The reckoning

Everything that is written can be reckoned from the view alone. A
`Reckoning` goes through the moments of a view and keeps the lines that are
out or will come out, the failures counted so far and the outcome; it knows
nothing of the session, the slot or the attempts. `Agrees` ties it to a
run: while the loop listens, the reckoned lines are what went through the
writer and then what the channel holds, and at the end they are all there
is. One step keeps the two together (`Agrees.step`).

A sink is not part of a view either, but what becomes of a sink is computed
from it and the lines (`Sink.sends`). So runs with one view and one sink
end alike, also where the sink fails on the way.
-/
import ScreenUnlock.Proofs.Dispatch.Forwarding
import ScreenUnlock.Proofs.Dispatch.View
import ScreenUnlock.Proofs.Dispatch.Writing

namespace ScreenUnlock.Dispatch

variable {setup setup' : Setup} {state state' : State}
  {history history' events : List Event} {action : Action} {sink : Sink}
  {view view' : List Moment}

open State (Arm Wrote arm_of_apply)

-- ========================================================= the reckoning

/-- What a step of an attempt says is told by what it shows. -/
theorem said?_eq_of_sight? {clock : Nat} {slot : Slot} {attempt : Attempt}
    {next : Attempt.Next} (harm : Attempt.Arm clock slot attempt next) :
    next.effect.bind Attempt.Effect.said?
      = attempt.sight?.bind Attempt.Sight.said? := by
  cases harm with
  | converse harm =>
      cases harm with
      | inform htext => exact (if_neg htext).symm
      | @ignore style text hprompt hinfo =>
          cases style with
          | promptEchoOff => exact absurd rfl hprompt
          | textInfo => exact (if_pos (hinfo rfl)).symm
          | promptEchoOn | errorMsg => rfl
      | _ => rfl
  | _ => rfl

/-- What can be told of a session from what it shows. -/
structure Reckoning where
  -- The lines that went through the writer, or will.
  written : List Message
  -- Those that are behind them, unless the session ends first.
  waiting : List Message
  counter : Counter
  outcome : Option Outcome

namespace Reckoning

def new (maxFailures : UInt32) : Reckoning :=
  { written := [], waiting := [], counter := .new maxFailures,
    outcome := none }

def lines (reckoning : Reckoning) : List Message :=
  reckoning.written ++ reckoning.waiting

/-- An attempt hands a line to the loop. -/
def hear (reckoning : Reckoning) (said? : Option Message) : Reckoning :=
  { reckoning with waiting := reckoning.waiting ++ said?.toList }

/-- The session ends, and its terminal line comes behind `lines`. -/
def finish (reckoning : Reckoning) (lines : List Message)
    (outcome : Outcome) : Reckoning :=
  { reckoning with
    written := lines ++ [outcome.message]
    waiting := []
    outcome := some outcome }

/-- Another attempt has failed. -/
def fail (reckoning : Reckoning) : Reckoning :=
  let counter := reckoning.counter.recordFailure
  if counter.hasMore then
    { reckoning with
      written := reckoning.lines ++ [.failure]
      waiting := []
      counter }
  else { reckoning with counter }.finish reckoning.lines .exhausted

/-- One more moment. Nothing counts behind the outcome. -/
def see (reckoning : Reckoning) (moment : Moment) : Reckoning :=
  match reckoning.outcome, moment with
  | some _, _ => reckoning
  | none, .attempt _ sight => reckoning.hear sight.said?
  | none, .recorded true _ => reckoning.finish reckoning.lines .authenticated
  | none, .recorded false (some reason) =>
    reckoning.finish reckoning.lines (.cancelled reason)
  | none, .recorded false none => reckoning.fail
  | none, .checked (some reason) =>
    reckoning.finish reckoning.written (.cancelled reason)
  | none, .checked none => reckoning

def seeAll (reckoning : Reckoning) (view : List Moment) : Reckoning :=
  view.foldl see reckoning

/-- What can be told after a view. -/
def after (maxFailures : UInt32) (view : List Moment) : Reckoning :=
  seeAll (.new maxFailures) view

theorem after_append (maxFailures : UInt32) (view view' : List Moment) :
    after maxFailures (view ++ view') = (after maxFailures view).seeAll view' :=
  List.foldl_append ..

variable {reckoning : Reckoning} {moment : Moment} {outcome : Outcome}

/-- A session with an outcome has nothing more to show. -/
theorem see_of_outcome (h : reckoning.outcome = some outcome) :
    reckoning.see moment = reckoning := by
  unfold see
  rw [h]

/-- A flag that is not set changes nothing. -/
theorem see_checked_none : reckoning.see (.checked none) = reckoning := by
  cases h : reckoning.outcome with
  | some outcome => exact see_of_outcome h
  | none =>
      unfold see
      rw [h]

theorem see_checked_some {reason : CancelReason}
    (h : reckoning.outcome = none) : reckoning.see (.checked (some reason))
      = reckoning.finish reckoning.written (.cancelled reason) := by
  unfold see
  rw [h]

/-- What an attempt shows adds a line at most. -/
theorem see_attempt {number : Nat} {sight : Attempt.Sight}
    (h : reckoning.outcome = none) :
    reckoning.see (.attempt number sight) = reckoning.hear sight.said? := by
  unfold see
  rw [h]

theorem lines_hear {said? : Option Message} :
    (reckoning.hear said?).lines = reckoning.lines ++ said?.toList :=
  (List.append_assoc ..).symm

theorem lines_prefix_see_attempt {number : Nat} {sight : Attempt.Sight} :
    reckoning.lines <+: (reckoning.see (.attempt number sight)).lines := by
  cases h : reckoning.outcome with
  | none =>
      rw [see_attempt h, lines_hear]
      exact List.prefix_append ..
  | some outcome => exact ⟨[], by rw [see_of_outcome h, List.append_nil]⟩

theorem lines_finish {lines : List Message} :
    (reckoning.finish lines outcome).lines = lines ++ [outcome.message] :=
  List.append_nil _

variable {session session' : Session} {verdict : Verdict}

/-- An attempt after which the session goes on. -/
theorem see_of_retry (hnone : reckoning.outcome = none)
    (hcounts : reckoning.counter = session.counter)
    (hopen : session.outcome = none)
    (h : session.record verdict = (.retry, session')) :
    session'.outcome = none
      ∧ reckoning.see (.recorded (decide (verdict = .accepted))
          session.slot.cancelled)
        = { reckoning with
            written := reckoning.lines ++ [.failure]
            waiting := []
            counter := session'.counter } := by
  rcases Session.record_inv h with ⟨_, -, hstep, -⟩ | ⟨-, -, hstep, -⟩
    | ⟨_, _, -, -, -, hstep, -⟩ | ⟨_, -, rfl, hcancelled, hmore, -, rfl⟩
    | ⟨_, -, -, -, -, hstep, -⟩
  · cases hstep
  · cases hstep
  · cases hstep
  · refine ⟨hopen, ?_⟩
    rw [hcancelled]
    simp [see, hnone, fail, hcounts, hmore, Session.counted]
  · cases hstep

/-- An attempt after which the session is over. -/
theorem see_of_finish (hnone : reckoning.outcome = none)
    (hcounts : reckoning.counter = session.counter)
    (hopen : session.outcome = none)
    (h : session.record verdict = (.finish outcome, session')) :
    ∃ counter, reckoning.see (.recorded (decide (verdict = .accepted))
        session.slot.cancelled)
      = { reckoning with counter }.finish reckoning.lines outcome := by
  rcases Session.record_inv h with ⟨_, hsome, -⟩ | ⟨-, rfl, hstep, -⟩
    | ⟨_, reason, -, rfl, hcancelled, hstep, -⟩ | ⟨_, -, -, -, -, hstep, -⟩
    | ⟨_, -, rfl, hcancelled, hmore, hstep, -⟩
  · rw [hopen] at hsome
    cases hsome
  · cases hstep
    exact ⟨reckoning.counter, by unfold see; rw [hnone]; rfl⟩
  · cases hstep
    exact ⟨reckoning.counter, by unfold see; rw [hnone, hcancelled]; rfl⟩
  · cases hstep
  · cases hstep
    exact ⟨_, by simp only [see, hnone, hcancelled, fail, hcounts, hmore]; rfl⟩

end Reckoning

-- ============================================ the reckoning and the session

variable {reckoning : Reckoning} {out : List Message} {message : Message}
  {next : Phase} {maxFailures : UInt32}

/-- The reckoning agrees with a run that has come to `state` and has passed
the messages `out` to the writer. -/
inductive Agrees (reckoning : Reckoning) (out : List Message)
    (state : State) : Prop where
  | listening : state.listens = true → state.session.outcome = none →
      reckoning.outcome = none →
      reckoning.counter = state.session.counter →
      reckoning.lines = out ++ state.channel →
      -- Before an attempt nothing has come out of the channel yet.
      (state.phase = .deciding → reckoning.waiting = state.channel) →
      Agrees reckoning out state
  | concluded {outcome : Outcome} :
      state.phase.ending? = some (.ok outcome) →
      reckoning.outcome = some outcome → reckoning.lines = out →
      Agrees reckoning out state
  -- A message could not be written, or the loop broke down.
  | stuck : state.listens = false →
      (∀ outcome, state.phase.ending? ≠ some (.ok outcome)) →
      out <+: reckoning.lines →
      Agrees reckoning out state

namespace Agrees

/-- What went through the writer is where the reckoned lines begin. -/
theorem begins (h : Agrees reckoning out state) :
    out <+: reckoning.lines := by
  cases h with
  | listening _ _ _ _ hlines _ => exact ⟨_, hlines.symm⟩
  | concluded _ _ hlines => exact hlines ▸ List.prefix_rfl
  | stuck _ _ hbegins => exact hbegins

/-- While the loop listens, the session has no outcome. -/
theorem open_of_listens (h : Agrees reckoning out state)
    (hlistens : state.listens = true) :
    state.session.outcome = none ∧ reckoning.outcome = none
      ∧ reckoning.counter = state.session.counter
      ∧ reckoning.lines = out ++ state.channel
      ∧ (state.phase = .deciding → reckoning.waiting = state.channel) := by
  cases h with
  | listening _ hopen hnone hcounts hlines hwaiting =>
      exact ⟨hopen, hnone, hcounts, hlines, hwaiting⟩
  | concluded hends _ _ =>
      rw [ending?_of_listens hlistens] at hends
      cases hends
  | stuck hdeaf _ _ =>
      rw [hdeaf] at hlistens
      cases hlistens

/-- A step that shows nothing and writes nothing. -/
theorem same (h : Agrees reckoning out state)
    (hlistens : state'.listens = state.listens)
    (hending : state'.phase.ending? = state.phase.ending?)
    (houtcome : state'.session.outcome = state.session.outcome)
    (hcounter : state'.session.counter = state.session.counter)
    (hchannel : state'.channel = state.channel)
    (hdeciding : state'.phase = .deciding → state.phase = .deciding) :
    Agrees reckoning out state' := by
  cases h with
  | listening hgoes hopen hnone hcounts hlines hwaiting =>
      refine .listening (hlistens.trans hgoes) (houtcome.trans hopen) hnone
        (hcounts.trans hcounter.symm) ?_ ?_ <;> rw [hchannel]
      · exact hlines
      · exact fun hphase => hwaiting (hdeciding hphase)
  | concluded hends hsome hlines =>
      exact .concluded (hending.trans hends) hsome hlines
  | stuck hdeaf hnot hbegins =>
      exact .stuck (hlistens.trans hdeaf) (hending ▸ hnot) hbegins

/-- What an attempt shows, it says. -/
theorem attempt (h : Agrees reckoning out state) {number : Nat}
    {attempt : Attempt} {next : Attempt.Next}
    (hattempt : state.attempt? number = some attempt)
    (harm : Attempt.Arm state.clock state.session.slot attempt next) :
    Agrees (reckoning.seeAll (state.moment? (.attempt number)).toList) out
      (state.withAttempt number next) := by
  have hsaid := said?_eq_of_sight? harm
  have hmoment : state.moment? (.attempt number)
      = attempt.sight?.map (.attempt number) := by
    rw [State.moment?, hattempt]
    rfl
  rw [hmoment]
  cases hsight : attempt.sight? with
  | none =>
      rw [hsight] at hsaid
      refine h.same rfl rfl rfl rfl ?_ id
      simp [State.withAttempt, hsaid]
  | some sight =>
      rw [hsight] at hsaid
      show Agrees (reckoning.see (.attempt number sight)) out _
      cases h with
      | listening hgoes hopen hnone hcounts hlines hwaiting =>
          have hchannel : (state.withAttempt number next).channel
              = state.channel ++ sight.said?.toList := by
            simp [State.withAttempt, hsaid, hgoes]
          rw [Reckoning.see_attempt hnone]
          refine .listening hgoes hopen hnone hcounts ?_ fun hphase => ?_
          · rw [Reckoning.lines_hear, hlines, hchannel, List.append_assoc]
          · rw [hchannel, ← hwaiting hphase]
            rfl
      | concluded hends hsome hlines =>
          rw [Reckoning.see_of_outcome hsome]
          exact .concluded hends hsome hlines
      | stuck hdeaf hnot hbegins =>
          exact .stuck hdeaf hnot
            (hbegins.trans Reckoning.lines_prefix_see_attempt)

/-- A message is written, or cannot be written. -/
theorem wrote {middle : State}
    (hwrote : Wrote middle message next state' events)
    (hsent : ∀ sink', Agrees reckoning (out ++ [message])
      { middle with sink := sink', phase := next }) :
    Agrees reckoning (out ++ passed events) state' := by
  cases hwrote with
  | sent _ => exact hsent _
  | unsent _ =>
      exact .stuck rfl (fun _ h => by cases h) (hsent middle.sink).begins

/-- The terminal line comes behind what is out. -/
theorem finish {middle : State} {outcome : Outcome} {lines : List Message}
    (hlines : lines = out)
    (hwrote : Wrote middle outcome.message (.stopping (.ok outcome)) state'
      events) :
    Agrees (reckoning.finish lines outcome) (out ++ passed events) state' :=
  wrote hwrote fun _ => .concluded rfl rfl (hlines ▸ Reckoning.lines_finish)

/-- A line comes out of the channel. -/
theorem pass (h : Agrees reckoning out state) {channel : List Message}
    (hlistens : state.listens = true)
    (hchannel : state.channel = message :: channel)
    (hnext : next ≠ .deciding)
    (hgoes : ∀ sink', State.listens
      { state with channel, sink := sink', phase := next } = true)
    (hwrote : Wrote { state with channel } message next state' events) :
    Agrees reckoning (out ++ passed events) state' := by
  obtain ⟨hopen, hnone, hcounts, hlines, -⟩ := h.open_of_listens hlistens
  refine wrote hwrote fun sink' => .listening (hgoes sink') hopen hnone hcounts
    ?_ fun hphase => absurd hphase hnext
  rw [hlines, hchannel, List.append_assoc]
  rfl

/-- The loop finds the session cancelled before an attempt. What is in the
channel by then is not written any more. -/
theorem halt (h : Agrees reckoning out state)
    (hphase : state.phase = .deciding) {outcome : Outcome} {session : Session}
    (hobserve : state.session.observe = (some outcome, session))
    (hwrote : Wrote { state with session } outcome.message
      (.stopping (.ok outcome)) state' events) :
    Agrees (reckoning.see (.checked state.session.slot.cancelled))
      (out ++ passed events) state' := by
  obtain ⟨hopen, hnone, -, hlines, hwaiting⟩ :=
    h.open_of_listens (by simp [State.listens, hphase])
  obtain ⟨reason, rfl, hcancelled⟩ := Session.observe_open hopen hobserve
  rw [hcancelled, Reckoning.see_checked_some hnone]
  refine finish ?_ hwrote
  rw [Reckoning.lines, hwaiting hphase] at hlines
  exact List.append_cancel_right hlines

/-- An attempt is recorded, and its failure is reported. -/
theorem retry (h : Agrees reckoning out state) {verdict : Verdict}
    (hphase : state.phase = .settling verdict) (hchannel : state.channel = [])
    {session : Session}
    (hrecord : state.session.record verdict = (.retry, session))
    (hwrote : Wrote { state with session } .failure .deciding state' events) :
    Agrees (reckoning.see (.recorded (decide (verdict = .accepted))
        state.session.slot.cancelled)) (out ++ passed events) state' := by
  obtain ⟨hopen, hnone, hcounts, hlines, -⟩ :=
    h.open_of_listens (by simp [State.listens, hphase])
  rw [hchannel, List.append_nil] at hlines
  obtain ⟨hstays, hsee⟩ := Reckoning.see_of_retry hnone hcounts hopen hrecord
  rw [hsee]
  refine wrote hwrote fun sink' =>
    .listening rfl hstays hnone rfl ?_ fun _ => hchannel.symm
  rw [hlines, hchannel]
  rfl

/-- An attempt is recorded, and the session is over. -/
theorem conclude (h : Agrees reckoning out state) {verdict : Verdict}
    (hphase : state.phase = .settling verdict) (hchannel : state.channel = [])
    {outcome : Outcome} {session : Session}
    (hrecord : state.session.record verdict = (.finish outcome, session))
    (hwrote : Wrote { state with session } outcome.message
      (.stopping (.ok outcome)) state' events) :
    Agrees (reckoning.see (.recorded (decide (verdict = .accepted))
        state.session.slot.cancelled)) (out ++ passed events) state' := by
  obtain ⟨hopen, hnone, hcounts, hlines, -⟩ :=
    h.open_of_listens (by simp [State.listens, hphase])
  rw [hchannel, List.append_nil] at hlines
  obtain ⟨counter, hsee⟩ :=
    Reckoning.see_of_finish hnone hcounts hopen hrecord
  rw [hsee]
  exact finish hlines hwrote

theorem step (h : Agrees reckoning out state)
    (harm : Arm setup state action state' events) :
    Agrees (reckoning.seeAll (state.moment? action).toList)
      (out ++ passed events) state' := by
  have hquiet : ∀ {events : List Event}, passed events = [] →
      Agrees reckoning out state' →
      Agrees reckoning (out ++ passed events) state' := by
    intro events hpassed h
    rwa [hpassed, List.append_nil]
  cases harm with
  | @reader _ next _ =>
      exact hquiet (LoopRests.of_reader _).unwritten.passed
        (h.same rfl rfl rfl rfl rfl id)
  | @attempt number _ _ hattempt harm =>
      rw [(LoopRests.of_attempt number _).unwritten.passed, List.append_nil]
      exact h.attempt hattempt harm
  | elapse => exact hquiet rfl (h.same rfl rfl rfl rfl rfl id)
  | halt hphase hobserve hwrote => exact h.halt hphase hobserve hwrote
  | proceed hphase hobserve =>
      rcases Session.observe_inv hobserve with ⟨_, heq, -⟩ | ⟨_, heq, -⟩
        | ⟨-, -, hcancelled, rfl⟩
      · cases heq
      · cases heq
      · show Agrees (reckoning.see (.checked state.session.slot.cancelled)) _ _
        rw [hcancelled, Reckoning.see_checked_none]
        exact hquiet rfl (h.same (by simp [State.listens, hphase])
          (by rw [hphase]; rfl) rfl rfl rfl (fun heq => by cases heq))
  | launch hphase | join hphase _ _ | abandon hphase _ _ =>
      exact hquiet rfl (h.same (by simp [State.listens, hphase])
        (by rw [hphase]; rfl) rfl rfl rfl (fun heq => by cases heq))
  | notice _ _ _ _ => exact hquiet rfl (h.same rfl rfl rfl rfl rfl id)
  | collapse _ _ _ _ =>
      exact hquiet rfl (.stuck rfl (fun _ h => by cases h) h.begins)
  | forward hphase hchannel hwrote | drain hphase hchannel hwrote =>
      exact h.pass (by simp [State.listens, hphase]) hchannel
        (fun heq => by cases heq) (fun _ => rfl) hwrote
  | retry hphase hchannel hrecord hwrote =>
      simp only [State.moment?, hphase, passed_recorded]
      exact h.retry hphase hchannel hrecord hwrote
  | conclude hphase hchannel hrecord hwrote =>
      simp only [State.moment?, hphase, passed_recorded]
      exact h.conclude hphase hchannel hrecord hwrote
  | stop hphase =>
      exact hquiet (LoopRests.of_cancel _ _).unwritten.passed
        (h.same (by simp [State.listens, hphase]) (by rw [hphase]; rfl) rfl rfl
          rfl (fun heq => by cases heq))
  | reap hphase _ | giveUp hphase _ =>
      exact hquiet rfl (h.same (by simp [State.listens, hphase])
        (by rw [hphase]; rfl) rfl rfl rfl (fun heq => by cases heq))
  | sweep hphase =>
      exact hquiet (LoopRests.of_sweep _).unwritten.passed
        (h.same (by simp [State.listens, hphase]) (by rw [hphase]; rfl) rfl rfl
          rfl (fun heq => by cases heq))

end Agrees

/-- What was reckoned from the view of a run agrees with it. -/
theorem Viewed.agrees {session : Session}
    (hview : Viewed setup (.start setup session sink) history view state)
    (hcounter : session.counter = .new maxFailures)
    (hopen : session.outcome = none) :
    Agrees (.after maxFailures view) (passed history) state := by
  induction hview with
  | init => exact .listening rfl hopen rfl hcounter.symm rfl fun _ => rfl
  | step action _ hstep ih =>
      rw [passed_append, Reckoning.after_append]
      exact ih.step (arm_of_apply hstep)

-- ============================================================== the output

/-- How the run ends, and the sink at the end, as the reckoning has them. -/
def Reckoning.close (reckoning : Reckoning) (sink : Sink) :
    Option Ending × Sink :=
  match sink.sends reckoning.lines with
  | (.ok (), sink') => (reckoning.outcome.map .ok, sink')
  | (.error cause, sink') => (some (.error cause), sink')

/-- The end of a run is told by its view and the sink it began with. -/
theorem Agrees.close {ending : Ending}
    (h : Agrees reckoning (passed history) state)
    (houtlet : Outlet sink history state)
    (hends : state.phase.ending? = some ending) :
    reckoning.close sink = (some ending, state.sink) := by
  obtain ⟨result, hsends, hresult⟩ := houtlet.result
  rw [hresult ending hends] at hsends
  unfold Reckoning.close
  cases ending with
  | ok outcome =>
      cases h with
      | listening hlistens _ _ _ _ _ =>
          rw [ending?_of_listens hlistens] at hends
          cases hends
      | concluded hends' hsome hlines =>
          cases hends.symm.trans hends'
          rw [hlines, hsends, hsome]
          rfl
      | stuck _ hnot _ => exact absurd hends (hnot outcome)
  | error cause =>
      -- nothing that was still to be written matters any more
      obtain ⟨later, heq⟩ := h.begins
      rw [← heq, Sink.sends_append_error hsends]

/-- Two runs, of which the first has this view, that cannot be told apart by
what they write and how they return. -/
structure Indistinct (maxFailures : UInt32) (view : List Moment) (sink : Sink)
    (state state' : State) : Prop where
  -- On the way, one has written what the other has and perhaps more.
  output : state.sink.accepted <+: state'.sink.accepted
    ∨ state'.sink.accepted <+: state.sink.accepted
  -- When both have returned, they have made the same calls on the sink,
  -- with the same bytes, and their results are the same.
  endings : ∀ ending ending', state.phase = .returned ending →
    state'.phase = .returned ending' →
      ending = ending' ∧ state.sink = state'.sink
  -- What they have written, and the result, is what the view tells.
  reckoned : ∀ ending, state.phase = .returned ending →
    (Reckoning.after maxFailures view).close sink = (some ending, state.sink)

/-- Secrecy, for every two backends, inputs and orders of steps: runs at
one sink with one ceiling write the same and return the same if their
attempts make the same prompts without echo and ask for the same
informations, have the same prompts answered, and are accepted or not and
see the cancellation alike. What the answers are, what else is asked for
and why an attempt failed never shows. -/
theorem Viewed.indistinct {context context' : AuthContext}
    (hview : Viewed setup (.start setup (.new context maxFailures) sink)
      history view state)
    (hview' : Viewed setup' (.start setup' (.new context' maxFailures) sink)
      history' view' state')
    (halike : Alike view view') :
    Indistinct maxFailures view sink state state' := by
  have hagrees := hview.agrees rfl rfl
  have hagrees' := hview'.agrees rfl rfl
  rw [← halike.eq] at hagrees'
  obtain ⟨result, hsends, -⟩ := hview.run.outlet.result
  obtain ⟨result', hsends', -⟩ := hview'.run.outlet.result
  have hclose : ∀ ending, state.phase = .returned ending →
      (Reckoning.after maxFailures view).close sink
        = (some ending, state.sink) := by
    intro ending hreturned
    exact hagrees.close hview.run.outlet (by rw [hreturned]; rfl)
  refine ⟨?_, ?_, hclose⟩
  · have hsink : (sink.sends (passed history)).2 = state.sink := by rw [hsends]
    have hsink' : (sink.sends (passed history')).2 = state'.sink := by
      rw [hsends']
    rw [← hsink, ← hsink']
    -- both are beginnings of what was reckoned
    exact (List.prefix_or_prefix_of_prefix hagrees.begins
      hagrees'.begins).imp Sink.accepted_sends_mono Sink.accepted_sends_mono
  · intro ending ending' hreturned hreturned'
    have hends' : state'.phase.ending? = some ending' := by
      rw [hreturned']
      rfl
    have hboth := (hclose ending hreturned).symm.trans
      (hagrees'.close hview'.run.outlet hends')
    rw [Prod.mk.injEq, Option.some.injEq] at hboth
    exact hboth

/-- An attempt that shows an error and asks a question with echo before its
prompt, and breaks down whatever it is answered. -/
def crashingScript : List ScriptAttempt :=
  [⟨[.converse .errorMsg "Locked." none true,
      .converse .promptEchoOn "Login:" none true,
      .converse .promptEchoOff "Password:" none true], .crash⟩]

/-- A backend that rejects a password, and one that breaks down over
another password for another user. Then the input ends, and both runs have
written the same. -/
theorem indistinct_crashing_backend :
    ∃ history history' view state state',
      Viewed ⟨.fixed {}, 8, 0⟩
        (.start ⟨.fixed {}, 8, 0⟩ (.new ⟨"user", none⟩ 3) {})
        history view state
      ∧ Viewed ⟨.scripted crashingScript, 8, 0⟩
        (.start ⟨.scripted crashingScript, 8, 0⟩ (.new ⟨"other", none⟩ 3) {})
        history' view state'
      ∧ answers history = [[112, 119]] ∧ answers history' = [[120, 121, 122]]
      ∧ state.phase = .returned (.ok (.cancelled .inputClosed))
      ∧ state'.phase = .returned (.ok (.cancelled .inputClosed))
      ∧ sent history = [.prompt "Password:", .busy false, .busy true, .failure,
        .prompt "Password:", .busy false, .cancelled]
      ∧ state.sink = state'.sink := by
  obtain ⟨history, state, hview, hlook⟩ := Viewed.exists_of_replay
    ⟨.fixed {}, 8, 0⟩
    (.start ⟨.fixed {}, 8, 0⟩ (.new ⟨"user", none⟩ 3) {})
    [.move .check, .move .launch, .attempt 0, .attempt 0, .attempt 0,
      .reader .step, .reader (.poll .ready),
      .reader (.read (.bytes [112, 119, 10])), .reader .step, .reader .step,
      .attempt 0, .attempt 0, .attempt 0, .attempt 0, .move .forward,
      .move .forward, .move .forward, .move .join, .move .settle,
      .move .check, .move .launch, .attempt 1, .attempt 1, .attempt 1,
      .move .forward, .move .forward, .reader .step, .reader .step,
      .reader (.poll .ready), .reader (.read .endOfInput), .reader .step,
      .reader .step, .attempt 1, .attempt 1, .attempt 1, .move .join,
      .move .settle, .move .stop, .move .reap, .move .sweep]
    [.checked none, .attempt 0 (.prompt "Password:"), .attempt 0 .ready,
      .attempt 0 .answered, .recorded false none, .checked none,
      .attempt 1 (.prompt "Password:"), .attempt 1 .ready,
      .recorded false (some .inputClosed)]
    (fun state history =>
      (state.phase.returned?, answers history, sent history))
    (some (.ok (.cancelled .inputClosed)), [[112, 119]],
      [.prompt "Password:", .busy false, .busy true, .failure,
        .prompt "Password:", .busy false, .cancelled])
    (by decide +kernel) (by decide +kernel)
  -- here the loop passes the lines on only when the attempts are over
  obtain ⟨history', state', hview', hlook'⟩ := Viewed.exists_of_replay
    ⟨.scripted crashingScript, 8, 0⟩
    (.start ⟨.scripted crashingScript, 8, 0⟩ (.new ⟨"other", none⟩ 3) {})
    [.move .check, .move .launch, .attempt 0, .attempt 0, .attempt 0,
      .attempt 0, .attempt 0, .attempt 0, .attempt 0, .attempt 0, .attempt 0,
      .reader .step, .reader (.poll .ready),
      .reader (.read (.bytes [120, 121, 122, 10])), .reader .step,
      .reader .step, .attempt 0, .attempt 0, .attempt 0, .attempt 0,
      .move .join, .move .drain, .move .drain, .move .drain, .move .settle,
      .move .check, .move .launch, .attempt 1, .attempt 1, .attempt 1,
      .attempt 1, .attempt 1, .attempt 1, .attempt 1, .attempt 1, .attempt 1,
      .reader .step, .reader .step, .reader (.poll .ready),
      .reader (.read .endOfInput), .reader .step, .reader .step, .attempt 1,
      .attempt 1, .attempt 1, .move .join, .move .drain, .move .drain,
      .move .settle, .move .stop, .move .reap, .move .sweep]
    [.checked none, .attempt 0 (.prompt "Password:"), .attempt 0 .ready,
      .attempt 0 .answered, .recorded false none, .checked none,
      .attempt 1 (.prompt "Password:"), .attempt 1 .ready,
      .recorded false (some .inputClosed)]
    (fun state history => (state.phase.returned?, answers history))
    (some (.ok (.cancelled .inputClosed)), [[120, 121, 122]])
    (by decide +kernel) (by decide +kernel)
  simp only [Prod.mk.injEq] at hlook hlook'
  obtain ⟨hreturned?, hanswers, hsent⟩ := hlook
  obtain ⟨hreturned?', hanswers'⟩ := hlook'
  have hreturned := Phase.eq_of_returned? hreturned?
  have hreturned' := Phase.eq_of_returned? hreturned?'
  have hindistinct := hview.indistinct hview' ⟨rfl, fun _ => rfl, rfl, rfl⟩
  exact ⟨history, history', _, state, state', hview, hview', hanswers,
    hanswers', hreturned, hreturned', hsent,
    (hindistinct.endings _ _ hreturned hreturned').2⟩

end ScreenUnlock.Dispatch
