/-
What comes out of a run, message by message and byte by byte.

An attempt only ever says prompts, informations and busy lines; failures
and the terminal line come from the dispatch loop alone. So what is in
the channel can be told from what the loop reports (`isReport`).

A run that ends with an outcome has written everything it tried to write,
and the sink has accepted the lines of the messages that were sent and no
other byte.
-/
import ScreenUnlock.Proofs.Dispatch.Standing
import ScreenUnlock.Proofs.Wire.Send

namespace ScreenUnlock

/-- Whether the dispatch loop says it of its own accord. -/
def Message.isReport : Message → Bool
  | .failure => true
  | .success => true
  | .cancelled => true
  | _ => false

theorem Outcome.isTerminal_message (outcome : Outcome) :
    outcome.message.isTerminal = true := by
  cases outcome <;> rfl

theorem Outcome.message_ne_busy (outcome : Outcome) (isBusy : Bool) :
    outcome.message ≠ .busy isBusy := by
  intro heq
  cases outcome <;> cases heq

theorem Outcome.message_ne_failure (outcome : Outcome) :
    outcome.message ≠ .failure := by
  intro heq
  cases outcome <;> cases heq

namespace Dispatch

variable {setup : Setup} {context : AuthContext} {maxFailures : UInt32}
  {sink : Sink} {history events : List Event} {state state' : State}
  {action : Action}

open State (Arm arm_of_apply)

/-- An attempt reports nothing. -/
theorem not_isReport_of_said {clock : Nat} {slot : Slot} {attempt : Attempt}
    {next : Attempt.Next} (harm : Attempt.Arm clock slot attempt next)
    {message : Message}
    (hsaid : next.effect.bind Attempt.Effect.said? = some message) :
    message.isReport = false := by
  cases harm with
  | converse harm =>
      cases harm <;> cases hsaid <;> rfl
  | _ => cases hsaid

/-- What the channel holds was said by attempts. -/
theorem Run.channel_talk {session : Session}
    (hrun : Run setup (.start setup session sink) history state) :
    ∀ message ∈ state.channel, message.isReport = false := by
  induction hrun with
  | init => simp [State.start]
  | step action _ hstep ih =>
      cases arm_of_apply hstep with
      | @attempt number attempt next _ harm =>
          intro message hmem
          unfold State.withAttempt at hmem
          split at hmem
          · rcases List.mem_append.mp hmem with hmem | hmem
            · exact ih message hmem
            · exact not_isReport_of_said harm (Option.mem_toList.mp hmem)
          · exact ih message hmem
      | forward _ hchannel hwrote | drain _ hchannel hwrote =>
          cases hwrote <;>
            exact fun message hmem => ih message
              (hchannel ▸ List.mem_cons_of_mem _ hmem)
      | halt _ _ hwrote | retry _ _ _ hwrote | conclude _ _ _ hwrote =>
          cases hwrote <;> exact ih
      | _ => exact ih

/-- The calls of the backend are numbered from 0 without a gap. -/
theorem Run.calls_eq {session : Session}
    (hrun : Run setup (.start setup session sink) history state) :
    calls history = List.range state.started := by
  induction hrun with
  | init => rfl
  | step action _ hstep ih =>
      rw [calls_append]
      cases arm_of_apply hstep with
      | @reader _ next _ =>
          rw [(LoopRests.of_reader next.effect).calls, List.append_nil]
          exact ih
      | @attempt number _ next _ _ =>
          rw [(LoopRests.of_attempt number next.effect).calls, List.append_nil]
          exact ih
      | launch _ => rw [ih, List.range_succ]; rfl
      | halt _ _ hwrote | forward _ _ hwrote | drain _ _ hwrote
      | retry _ _ _ hwrote | conclude _ _ _ hwrote =>
          cases hwrote <;> exact (List.append_nil _).trans ih
      | stop _ =>
          rw [(LoopRests.of_cancel _ _).calls, List.append_nil]
          exact ih
      | sweep _ =>
          rw [(LoopRests.of_sweep _).calls, List.append_nil]
          exact ih
      | _ => exact (List.append_nil _).trans ih

-- ============================================================== the bytes

/-- Once something could not be written the loop is on its way out with
the cause. -/
theorem Run.ending_of_unsent {session : Session}
    (hrun : Run setup (.start setup session sink) history state)
    {message : Message} {cause : IoError}
    (hunsent : .unsent message cause ∈ history) :
    ∃ cause', state.phase.ending? = some (.error cause') := by
  induction hrun with
  | init => cases hunsent
  | step action _ hstep ih =>
      rcases List.mem_append.mp hunsent with hbefore | hnow
      · obtain ⟨cause', hending⟩ := ih hbefore
        cases arm_of_apply hstep with
        | reader _ | attempt _ _ | elapse => exact ⟨cause', hending⟩
        | stop hphase | reap hphase _ | giveUp hphase _ | sweep hphase =>
            rw [hphase] at hending
            exact ⟨cause', hending⟩
        | halt hphase | proceed hphase | launch hphase | forward hphase
        | join hphase | notice hphase | collapse hphase | abandon hphase
        | drain hphase | retry hphase | conclude hphase =>
            rw [hphase] at hending
            cases hending
      · cases arm_of_apply hstep with
        | @reader _ next _ =>
            exact absurd hnow ((LoopRests.of_reader next.effect).unsent _ _)
        | @attempt number _ next _ _ =>
            exact absurd hnow
              ((LoopRests.of_attempt number next.effect).unsent _ _)
        | halt _ _ hwrote | forward _ _ hwrote | drain _ _ hwrote
        | retry _ _ _ hwrote | conclude _ _ _ hwrote =>
            cases hwrote with
            | sent _ => simp at hnow
            | unsent _ => exact ⟨_, rfl⟩
        | stop _ => exact absurd hnow ((LoopRests.of_cancel _ _).unsent _ _)
        | sweep _ => exact absurd hnow ((LoopRests.of_sweep _).unsent _ _)
        | _ => simp at hnow

/-- A loop that fails has not been able to write something. -/
theorem Run.unsent_of_ending {session : Session}
    (hrun : Run setup (.start setup session sink) history state)
    {cause : IoError} (hending : state.phase.ending? = some (.error cause)) :
    ∃ message cause, .unsent message cause ∈ history := by
  induction hrun with
  | init => cases hending
  | @step history events state state' action _ hstep ih =>
      have hbefore : state.phase.ending? = some (.error cause) →
          ∃ message cause, .unsent message cause ∈ history ++ events := by
        intro hbefore
        obtain ⟨message, cause', hmem⟩ := ih hbefore
        exact ⟨message, cause', List.mem_append_left _ hmem⟩
      have hnow : ∀ {message cause'}, .unsent message cause' ∈ events →
          ∃ message cause, .unsent message cause ∈ history ++ events :=
        fun hmem => ⟨_, _, List.mem_append_right _ hmem⟩
      cases arm_of_apply hstep with
      | reader _ | attempt _ _ | elapse => exact hbefore hending
      | halt _ _ hwrote | forward _ _ hwrote | drain _ _ hwrote =>
          cases hwrote with
          | sent _ => cases hending
          | unsent _ => exact hnow (.head _)
      | retry _ _ _ hwrote | conclude _ _ _ hwrote =>
          cases hwrote with
          | sent _ => cases hending
          | unsent _ => exact hnow (.tail _ (.head _))
      | stop hphase | reap hphase _ | giveUp hphase _ | sweep hphase =>
          exact hbefore (by rw [hphase]; exact hending)
      | proceed _ _ | launch _ | join _ _ _ | collapse _ _ _ _
      | abandon _ _ _ => cases hending
      | notice hphase _ _ _ => exact hbefore hending

/-- As long as nothing failed the sink has accepted the lines of the
messages that were sent. -/
theorem Run.accepted {session : Session}
    (hrun : Run setup (.start setup session sink) history state)
    (hunsent : ∀ message cause, .unsent message cause ∉ history) :
    state.sink.accepted
      = sink.accepted ++ (sent history).flatMap Message.lineBytes := by
  induction hrun with
  | init => exact (List.append_nil _).symm
  | @step history events state state' action _ hstep ih =>
      have ih := ih fun message cause hmem =>
        hunsent message cause (List.mem_append_left _ hmem)
      -- a step that writes nothing
      have hquiet : state'.sink = state.sink → sent events = [] →
          state'.sink.accepted = sink.accepted
            ++ (sent (history ++ events)).flatMap Message.lineBytes := by
        intro hsink hsent
        rw [sent_append, hsent, List.append_nil, hsink, ih]
      -- a step that writes one message
      have hwritten : ∀ {message : Message} {sink' : Sink},
          state.sink.send message = (.ok (), sink') → state'.sink = sink' →
          sent events = [message] → state'.sink.accepted = sink.accepted
            ++ (sent (history ++ events)).flatMap Message.lineBytes := by
        intro message sink' hsend hsink hsent
        rw [hsink, Sink.accepted_send hsend, ih, sent_append, hsent,
          List.flatMap_append, List.append_assoc, List.flatMap_singleton]
      cases arm_of_apply hstep with
      | @reader _ next _ =>
          exact hquiet rfl (LoopRests.of_reader next.effect).sent
      | @attempt number _ next _ _ =>
          exact hquiet rfl (LoopRests.of_attempt number next.effect).sent
      | halt _ _ hwrote | forward _ _ hwrote | drain _ _ hwrote =>
          cases hwrote with
          | sent hsend => exact hwritten hsend rfl rfl
          | unsent _ =>
              exact absurd (List.mem_append_right _ (.head _)) (hunsent _ _)
      | retry _ _ _ hwrote | conclude _ _ _ hwrote =>
          cases hwrote with
          | sent hsend => exact hwritten hsend rfl rfl
          | unsent _ =>
              exact absurd (List.mem_append_right _ (.tail _ (.head _)))
                (hunsent _ _)
      | stop _ => exact hquiet rfl (LoopRests.of_cancel _ _).sent
      | sweep _ => exact hquiet rfl (LoopRests.of_sweep _).sent
      | _ => exact hquiet rfl rfl

/-- A run that ends with an outcome has put exactly the lines of its
messages out. -/
theorem Run.accepted_of_outcome {session : Session} {outcome : Outcome}
    (hrun : Run setup (.start setup session sink) history state)
    (hending : state.phase.ending? = some (.ok outcome)) :
    state.sink.accepted
      = sink.accepted ++ (sent history).flatMap Message.lineBytes := by
  refine hrun.accepted fun message cause hmem => ?_
  obtain ⟨cause', herror⟩ := hrun.ending_of_unsent hmem
  rw [hending] at herror
  cases herror

end Dispatch

end ScreenUnlock
