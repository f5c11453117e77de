/-
When the loop has returned, nothing lies in the slot, and nothing ever
will.

The loop waits for the reader only as long as the grace period lasts, and
for an attempt that was given up not at all, so both may still be under
way when it returns: the reader with a line in its hands, an attempt
about to take one. That they do no harm is owed to the order of the two
last things that the loop does to the slot. It cancels first and empties
afterwards. In a slot that is cancelled no line goes in or out any more
(`State.Arm.of_cancelled`), so what the loop has emptied stays empty
(`Run.barren`), and the reason stays as well.

# The stop

The loop cancels in one step, on its way from every ending, be it an
outcome or a failure to write. A run that has returned falls into a part
before that step and a part behind it (`Run.exists_stop`). The reason in
the slot is the loop's own if nobody has given one in the first part, and
only then, for nobody but the loop gives that one
(`Run.hasStopped_of_shutdown`).
-/
import ScreenUnlock.Auth.Backend
import ScreenUnlock.Proofs.Dispatch.Replay
import ScreenUnlock.Proofs.Dispatch.Supply

namespace ScreenUnlock.Dispatch

variable {setup : Setup} {session : Session} {sink : Sink}
  {history later events : List Event} {start given state state' : State}
  {action : Action} {reason : CancelReason} {ending : Ending}

open State (Arm arm_of_apply)

-- ===================================================== a cancelled slot

/-- The reader hands nothing over when it leaves the slot alone. -/
theorem published_of_silent {effect : Option Reader.Effect}
    (h : ∀ line, effect ≠ some (.published line)) :
    published (effect.map Event.reader).toList = [] := by
  match effect, h with
  | some (.published line), h => exact absurd rfl (h line)
  | none, _ | some (.received _), _ | some (.refused _), _
  | some (.cancelled _), _ | some (.swept _), _ => rfl

/-- All that any thread can do to a slot that is cancelled is to drop the
line in it. -/
theorem State.Arm.of_cancelled (harm : Arm setup state action state' events)
    (hreason : state.session.slot.cancelled = some reason) :
    (state'.session.slot = state.session.slot
        ∨ state'.session.slot = { state.session.slot with pending := none })
      ∧ published events = [] ∧ taken events = [] := by
  have hcancel : ∀ other, (state.session.slot.cancel other).2
      = state.session.slot := fun other => by
    rw [Slot.cancel_of_isSome (by rw [hreason]; rfl)]
  cases action with
  | reader action =>
      cases harm with
      | reader harm =>
          rcases harm.slot_cases with ⟨hslot, hsilent⟩ | ⟨_, -, hnone, -⟩
            | ⟨-, hnone, -⟩ | ⟨-, hslot, heffect⟩
          · exact ⟨.inl hslot, published_of_silent hsilent, taken_reader _⟩
          · cases hnone.symm.trans hreason
          · cases hnone.symm.trans hreason
          · refine ⟨.inr hslot, published_of_silent fun line hline => ?_,
              taken_reader _⟩
            rw [heffect] at hline
            obtain ⟨_, -, hswept⟩ := Option.map_eq_some_iff.mp hline
            cases hswept
  | attempt number =>
      cases harm with
      | attempt _ harm =>
          refine ⟨?_, published_attempt _ _, ?_⟩
          · rcases harm.slot_cases with ⟨hslot, -⟩ | ⟨_, hnone, -⟩
              | ⟨hslot, -⟩
            · exact .inl hslot
            · cases hnone.symm.trans hreason
            · exact .inl (hslot.trans (hcancel _))
          · rcases harm.slot_cases with ⟨-, hsilent⟩ | ⟨_, hnone, -⟩
              | ⟨-, heffect⟩
            · exact taken_of_silent hsilent number
            · cases hnone.symm.trans hreason
            · rw [heffect]
              rfl
  | move move =>
      have hnothing := HandsNothing.of_move harm
      refine ⟨?_, hnothing.published, hnothing.taken⟩
      rcases harm.slot_cases_of_move with hslot | hslot | ⟨-, hslot⟩
      · exact .inl hslot
      · exact .inl (hslot.trans (hcancel _))
      · exact .inr hslot
  | elapse milliseconds =>
      cases harm
      exact ⟨.inl rfl, rfl, rfl⟩

/-- A slot that is cancelled, for this reason, and empty. -/
def Barren (reason : CancelReason) (slot : Slot) : Prop :=
  slot = { pending := none, cancelled := some reason }

theorem Barren.step (h : Barren reason state.session.slot)
    (harm : Arm setup state action state' events) :
    Barren reason state'.session.slot := by
  obtain ⟨hslot | hslot, -⟩ := harm.of_cancelled (congrArg Slot.cancelled h)
  · exact hslot.trans h
  · rw [hslot, h]
    rfl

/-- Such a slot stays as it is, and no line goes through it. -/
theorem Run.barren (hrun : Run setup given later state)
    (h : Barren reason given.session.slot) :
    Barren reason state.session.slot
      ∧ published later = [] ∧ taken later = [] := by
  induction hrun with
  | init => exact ⟨h, rfl, rfl⟩
  | step action _ hstep ih =>
      obtain ⟨hbarren, hpublished, htaken⟩ := ih
      have harm := arm_of_apply hstep
      obtain ⟨-, hpublished', htaken'⟩ :=
        harm.of_cancelled (congrArg Slot.cancelled hbarren)
      refine ⟨hbarren.step harm, ?_, ?_⟩
      · rw [published_append, hpublished, hpublished', List.append_nil]
      · rw [taken_append, htaken, htaken', List.append_nil]

-- ============================================================== the stop

/-- The loop stops now, or it has stopped before. -/
theorem State.Arm.of_stopped (harm : Arm setup state action state' events)
    (hstopped : state'.phase.hasStopped = true)
    (hending : state'.phase.ending? = some ending) :
    action = .move .stop ∧ state.phase = .stopping ending
      ∨ state.phase.hasStopped = true
        ∧ state.phase.ending? = some ending := by
  cases harm with
  | reader _ | attempt _ _ | elapse => exact .inr ⟨hstopped, hending⟩
  | stop hphase =>
      cases hending
      exact .inl ⟨rfl, hphase⟩
  | reap hphase _ | giveUp hphase _ | sweep hphase =>
      cases hending
      exact .inr (by rw [hphase]; exact ⟨rfl, rfl⟩)
  | notice hphase _ _ _ =>
      rw [show state.phase = .attending from hphase] at hstopped
      cases hstopped
  | halt _ _ hwrote | forward _ _ hwrote | drain _ _ hwrote
  | retry _ _ _ hwrote | conclude _ _ _ hwrote =>
      cases hwrote <;> cases hstopped
  | proceed _ _ | launch _ | join _ _ _ | collapse _ _ _ _
  | abandon _ _ _ => cases hstopped

/-- The loop returns now, and empties the slot, or it has returned
before. -/
theorem State.Arm.of_returned (harm : Arm setup state action state' events)
    (hreturned : state'.phase = .returned ending) :
    state'.session.slot.pending = none
      ∨ state.phase = .returned ending := by
  cases harm with
  | sweep _ => exact .inl rfl
  | reader _ | attempt _ _ | elapse | notice _ _ _ _ => exact .inr hreturned
  | halt _ _ hwrote | forward _ _ hwrote | drain _ _ hwrote
  | retry _ _ _ hwrote | conclude _ _ _ hwrote =>
      cases hwrote <;> cases hreturned
  | _ => cases hreturned

/-- A run in which the loop has stopped, cut at the step that did it. -/
theorem Run.exists_stop (hrun : Run setup start history state)
    (hstart : start.phase.hasStopped = false)
    (hstopped : state.phase.hasStopped = true)
    (hending : state.phase.ending? = some ending) :
    ∃ before stopping cancelling stopped after,
      history = before ++ (cancelling ++ after)
        ∧ Run setup start before stopping
        ∧ stopping.phase = .stopping ending
        ∧ apply setup (.move .stop) stopping = some (stopped, cancelling)
        ∧ Run setup stopped after state := by
  induction hrun with
  | init =>
      rw [hstart] at hstopped
      cases hstopped
  | @step history events state state' action hrun hstep ih =>
      rcases (arm_of_apply hstep).of_stopped hstopped hending
        with ⟨rfl, hphase⟩ | ⟨hbefore, hending'⟩
      · exact ⟨history, state, events, state', [], by rw [List.append_nil],
          hrun, hphase, hstep, .init⟩
      · obtain ⟨before, stopping, cancelling, stopped, after, rfl, hfirst,
          hphase, hstop, hrest⟩ := ih hbefore hending'
        refine ⟨before, stopping, cancelling, stopped, after ++ events, ?_,
          hfirst, hphase, hstop, .step action hrest hstep⟩
        simp only [List.append_assoc]

/-- When the loop has returned, nothing lies in a slot that was cancelled
before. -/
theorem Run.barren_of_returned (hrun : Run setup given later state)
    (hgiven : given.phase ≠ .returned ending)
    (hreason : given.session.slot.cancelled = some reason)
    (hreturned : state.phase = .returned ending) :
    Barren reason state.session.slot := by
  induction hrun with
  | init => exact absurd hreturned hgiven
  | @step history events state state' action hrun hstep ih =>
      have harm := arm_of_apply hstep
      rcases harm.of_returned hreturned with hempty | hbefore
      · have hkept := (Run.step action hrun hstep).cancelled_or
        rw [hreason, Option.some_or] at hkept
        unfold Barren
        rw [← hempty, ← hkept]
      · exact (ih hbefore).step harm

/-- A loop that has stopped does not start again. -/
theorem State.Arm.stopped_mono (harm : Arm setup state action state' events)
    (h : state.phase.hasStopped = true) :
    state'.phase.hasStopped = true := by
  cases harm with
  | reader _ | attempt _ _ | elapse => exact h
  | stop _ | reap _ _ | giveUp _ _ | sweep _ => rfl
  | halt hphase | proceed hphase | launch hphase | forward hphase
  | join hphase | notice hphase | collapse hphase | abandon hphase
  | drain hphase | retry hphase | conclude hphase =>
      rw [hphase] at h
      cases h

/-- The loop's reason is given only when the loop stops. -/
theorem Run.hasStopped_of_shutdown (hrun : Run setup start history state)
    (hfirst : firstReason history = some .shutdown) :
    state.phase.hasStopped = true := by
  induction hrun with
  | init => cases hfirst
  | step action _ hstep ih =>
      have harm := arm_of_apply hstep
      rw [firstReason_append] at hfirst
      rcases Option.or_eq_some_iff.mp hfirst with hbefore | ⟨-, hnow⟩
      · exact harm.stopped_mono (ih hbefore)
      · cases harm.eq_stop_of_shutdown hnow
        cases harm with
        | stop _ => rfl

-- ============================================================ the result

/-- How a run that has returned was shut down: `stopping` is the state in
which the loop had its ending, and the slot is cancelled for this `reason`
in the end. -/
structure ShutDown (setup : Setup) (session : Session) (sink : Sink)
    (ending : Ending) (history : List Event) (state : State)
    (stopping : State) (reason : CancelReason) : Prop where
  -- The run went through `stopping`, and cancelled the session next.
  stops : ∃ before cancelling stopped after,
    history = before ++ (cancelling ++ after)
      ∧ Run setup (.start setup session sink) before stopping
      ∧ stopping.phase = .stopping ending
      ∧ apply setup (.move .stop) stopping = some (stopped, cancelling)
      ∧ Run setup stopped after state
  -- A reason that was there is kept.
  first : reason = stopping.session.slot.cancelled.getD .shutdown
  -- The loop gives its reason if nobody has given one, and nobody else
  -- gives that one; a session may have come with it.
  own : session.slot.cancelled ≠ some .shutdown →
    (reason = .shutdown ↔ stopping.session.slot.cancelled = none)
  slot : state.session.slot = { pending := none, cancelled := some reason }
  -- Whatever the threads that are left do, and for however long.
  remains : ∀ later state', Run setup state later state' →
    state'.session.slot = { pending := none, cancelled := some reason }
      ∧ published later = [] ∧ taken later = []

/-- The reason that the loop finds is not its own, unless the session came
with it. -/
theorem Run.ne_shutdown_of_cancelled
    (hrun : Run setup (.start setup session sink) history state)
    (hsession : session.slot.cancelled ≠ some .shutdown)
    (hphase : state.phase = .stopping ending)
    (hreason : state.session.slot.cancelled = some reason) :
    reason ≠ .shutdown := by
  rintro rfl
  rw [hrun.cancelled_or] at hreason
  rcases Option.or_eq_some_iff.mp hreason with hbefore | ⟨-, hfirst⟩
  · exact hsession hbefore
  · have hstopped := hrun.hasStopped_of_shutdown hfirst
    rw [hphase] at hstopped
    cases hstopped

/-- A run that has returned, with an outcome or with what it could not
write, leaves the slot cancelled and empty, for good: for every backend,
every input, every sink and every order of steps, and whether the reader
came to its end in time or not. The reason is that the loop has stopped
exactly if nobody had cancelled the session before. The session may be any,
with a line in its slot or cancelled from the start. -/
theorem Run.shutDown
    (hrun : Run setup (.start setup session sink) history state)
    (hreturned : state.phase = .returned ending) :
    ∃ stopping reason,
      ShutDown setup session sink ending history state stopping reason := by
  have hstopped : state.phase.hasStopped = true := by rw [hreturned]; rfl
  have hending : state.phase.ending? = some ending := by rw [hreturned]; rfl
  obtain ⟨before, stopping, cancelling, stopped, after, hhistory, hbefore,
    hphase, hstop, hafter⟩ := hrun.exists_stop rfl hstopped hending
  have hslot : stopped.session.slot.cancelled
      = some (stopping.session.slot.cancelled.getD .shutdown) := by
    cases arm_of_apply hstop
    exact Slot.cancel_cancelled _ _
  have hnot : stopped.phase ≠ .returned ending := by
    cases arm_of_apply hstop
    exact fun heq => by cases heq
  have hbarren := hafter.barren_of_returned hnot hslot hreturned
  refine ⟨stopping, _,
    ⟨before, cancelling, stopped, after, hhistory, hbefore, hphase, hstop,
      hafter⟩, rfl, fun hsession => ?_, hbarren,
    fun later state' hlater => hlater.barren hbarren⟩
  cases hcancelled : stopping.session.slot.cancelled with
  | none => exact ⟨fun _ => rfl, fun _ => rfl⟩
  | some reason =>
      have hne := hbefore.ne_shutdown_of_cancelled hsession hphase hcancelled
      exact ⟨fun heq => absurd heq hne, fun hnone => by cases hnone⟩

/-- A backend that accepts at once. -/
def Authenticator.obliging : Authenticator :=
  .scripted [{ steps := [], result := .finish none }]

/-- A session with a line in its slot. -/
def Session.primed : Session :=
  { Session.new ⟨"user", none⟩ 3 with
    slot := { pending := some (.ofText "first") } }

/-- Nobody takes the line that lies in the slot, and the reader waits with
the next one in its hands. The loop waits for the reader in vain and drops
the first line. The reader offers the second one after the loop's return,
and is refused. -/
theorem shutDown_reader_offering :
    ∃ history state stopping later state',
      Run ⟨Authenticator.obliging, 8, 5⟩
        (.start ⟨Authenticator.obliging, 8, 5⟩ Session.primed {}) history
        state
      ∧ state.phase = .returned (.ok .authenticated)
      ∧ state.reader.phase = .offering (.ofText "second")
      ∧ .swept (.ofText "first") ∈ history
      ∧ ShutDown ⟨Authenticator.obliging, 8, 5⟩ Session.primed {}
        (.ok .authenticated) history state stopping .shutdown
      ∧ Run ⟨Authenticator.obliging, 8, 5⟩ state later state'
      ∧ .reader (.refused (.ofText "second")) ∈ later
      ∧ state'.session.slot
        = { pending := none, cancelled := some .shutdown } := by
  obtain ⟨history, state, hrun, hview⟩ := Run.exists_of_replay
    ⟨Authenticator.obliging, 8, 5⟩
    (.start ⟨Authenticator.obliging, 8, 5⟩ Session.primed {})
    [.reader .step, .reader (.poll .ready),
      .reader (.read (.bytes (Bytes.ofText "second\n"))), .reader .step,
      .move .check, .move .launch, .attempt 0, .move .join, .move .settle,
      .move .stop, .elapse 5, .move .giveUp, .move .sweep]
    (fun state history =>
      (replay ⟨Authenticator.obliging, 8, 5⟩ [.reader .step] state).map
        fun (last : Result) => decide
          (state.phase.returned? = some (.ok .authenticated)
          ∧ state.reader.phase = .offering (.ofText "second")
          ∧ state.session.slot.cancelled = some .shutdown
          ∧ .swept (.ofText "first") ∈ history
          ∧ .reader (.refused (.ofText "second")) ∈ last.2))
    (some true) (by decide +kernel)
  obtain ⟨⟨state', later⟩, hreplay, hlast⟩ := Option.map_eq_some_iff.mp hview
  obtain ⟨hreturned?, hreader, hcancelled, hswept, hrefused⟩ :=
    of_decide_eq_true hlast
  have hreturned := Phase.eq_of_returned? hreturned?
  have hlater := Run.init.replay hreplay
  obtain ⟨stopping, reason, hshut⟩ := hrun.shutDown hreturned
  rw [hshut.slot] at hcancelled
  cases hcancelled
  exact ⟨history, state, stopping, later, state', hrun, hreturned, hreader,
    hswept, hshut, hlater, hrefused, (hshut.remains _ _ hlater).1⟩

end ScreenUnlock.Dispatch
