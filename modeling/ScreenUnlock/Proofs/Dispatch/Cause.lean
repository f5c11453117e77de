/-
Why a session was cancelled.

Each reason tells what had happened before. The input counts as closed
only when every complete line of it had been taken: the end of the input
overtakes no line. An exit was requested only if a line that asks for it
was taken. And the loop shuts down only when it has its ending, so an
outcome never names the shutdown.

# How it is kept

`Cause` is an invariant of all runs. Most steps neither raise the flag nor
take a line, and `Cause.same` settles them at once; it asks of a step only
what could spoil the four clauses. Three steps raise the flag, and each has
a lemma of its own: the reader at the end of the input (`Cause.close`), an
attempt that finds the exit marker (`Cause.exit`) and the loop when it
stops (`Cause.stop`). `Cause.reader`, `Cause.attempt` and `Cause.move` sort
the steps of the three parties into these. What the other parties have
done so far is not in `Cause` itself: it comes from the invariants of the
reader (`Supply`), of the slot (`Handed`) and of the attempts (`Follows`).
-/
import ScreenUnlock.Proofs.Dispatch.Conduct

namespace ScreenUnlock.Dispatch

open LineBuffer (lineLimit)
open State (Arm arm_of_apply)

variable {setup : Setup} {context : AuthContext} {maxFailures : UInt32}
  {sink : Sink} {history events : List Event} {state state' : State}
  {action : Action} {limit number : Nat}

-- ========================================================= the invariant

/-- What the first reason for the cancellation stands for. -/
structure Cause (limit : Nat) (history : List Event) (state : State) :
    Prop where
  -- The reader is on its way out, and every complete line was taken.
  inputClosed : state.session.slot.cancelled = some .inputClosed →
    (state.reader.phase = .sweeping ∨ state.reader.phase = .finished)
      ∧ taken history = Bytes.cutLines limit (received history)
  -- Which attempt took the line does not matter.
  exitRequested : state.session.slot.cancelled = some .exitRequested →
    ∃ line ∈ taken history, Request.ofLine line = .exit
  shutdown : state.session.slot.cancelled = some .shutdown →
    state.phase.hasStopped = true
  -- The loop has taken its ending from the flag, before it shut down.
  ending : ∀ reason,
    state.phase.ending? = some (.ok (.cancelled reason)) →
    state.session.slot.cancelled = some reason ∧ reason ≠ .shutdown

/-- A line that one attempt took was taken. -/
theorem mem_taken_of_mem_takenBy {line : Bytes}
    (h : line ∈ takenBy number history) : line ∈ taken history := by
  obtain ⟨event, hmem, hline⟩ := List.mem_filterMap.mp h
  refine List.mem_filterMap.mpr ⟨event, hmem, ?_⟩
  unfold Event.takenBy? at hline
  split at hline
  case h_1 taker effect =>
    split at hline
    case isTrue =>
      match effect, hline with
      | .conversed (.take line'), hline => exact hline
    case isFalse => cases hline
  case h_2 => cases hline

/-- At the start nobody has cancelled, so that there is nothing to tell. -/
theorem Cause.start :
    Cause limit [] (.start setup (.new context maxFailures) sink) where
  inputClosed h := by cases h
  exitRequested h := by cases h
  shutdown h := by cases h
  ending _ h := by cases h

/-- A step that neither raises the flag nor takes a line, and in which
nothing comes in any more once the input is closed. -/
theorem Cause.same (h : Cause limit history state)
    (hslot : state'.session.slot.cancelled = state.session.slot.cancelled)
    (hclosed : state.session.slot.cancelled = some .inputClosed →
      state.reader.phase = .sweeping ∨ state.reader.phase = .finished →
      (state'.reader.phase = .sweeping ∨ state'.reader.phase = .finished)
        ∧ received events = [])
    (htaken : state.session.slot.cancelled.isSome = true → taken events = [])
    (hstopped : state.phase.hasStopped = true →
      state'.phase.hasStopped = true)
    (hending : ∀ reason,
      state'.phase.ending? = some (.ok (.cancelled reason)) →
      state.phase.ending? = some (.ok (.cancelled reason))
        ∨ (state.session.slot.cancelled = some reason
          ∧ reason ≠ .shutdown)) :
    Cause limit (history ++ events) state' where
  inputClosed hreason := by
    rw [hslot] at hreason
    obtain ⟨hphase, htook⟩ := h.inputClosed hreason
    obtain ⟨hphase', hreceived⟩ := hclosed hreason hphase
    refine ⟨hphase', ?_⟩
    rw [taken_append, htaken (by rw [hreason]; rfl), received_append,
      hreceived, List.append_nil, List.append_nil, htook]
  exitRequested hreason := by
    rw [hslot] at hreason
    obtain ⟨line, hmem, hexit⟩ := h.exitRequested hreason
    rw [taken_append]
    exact ⟨line, List.mem_append_left _ hmem, hexit⟩
  shutdown hreason := hstopped (h.shutdown (hslot ▸ hreason))
  ending reason hphase := by
    rw [hslot]
    rcases hending reason hphase with hbefore | hnow
    · exact h.ending reason hbefore
    · exact hnow

-- =========================================================== the reader

/-- The reader closes the input: every line of it was taken. It comes to
this only after it has waited for the last line that it handed over. -/
theorem Cause.close (h : Cause limit history state)
    (hstanding : Standing history state)
    (hsupply : Supply limit history state.reader state.session.slot)
    (hhanded : Handed history state.session.slot)
    (hphase : state.reader.phase = .leaving)
    (hnone : state.session.slot.cancelled = none) (reader : Reader)
    (hreader : reader.phase = .sweeping) :
    Cause limit (history ++ [.reader (.cancelled .inputClosed)])
      { state.withSlot { state.session.slot with
          cancelled := some .inputClosed } with reader } where
  inputClosed _ := by
    refine ⟨.inl hreader, ?_⟩
    -- what came in was handed over, and what was handed over was taken
    have hwhole :=
      (hhanded.whole hsupply hstanding.waiting hphase hnone).2.2
    rw [taken_append, received_append,
      show taken [.reader (.cancelled .inputClosed)] = [] from rfl,
      show received [.reader (.cancelled .inputClosed)] = [] from rfl,
      List.append_nil, List.append_nil, hwhole]
  exitRequested hreason := by cases hreason
  shutdown hreason := by cases hreason
  ending reason hphase := by
    -- the flag was not raised yet
    have hbefore := (h.ending reason hphase).1
    rw [hnone] at hbefore
    cases hbefore

/-- A step of the reader. Once it has closed the input it only sweeps the
slot; in all earlier phases the input is not closed. -/
theorem Cause.reader (h : Cause limit history state)
    (hstanding : Standing history state)
    (hsupply : Supply limit history state.reader state.session.slot)
    (hhanded : Handed history state.session.slot) {action : Reader.Action}
    {next : Reader.Next}
    (harm : Reader.Arm state.reader state.session.slot action next) :
    Cause limit (history ++ (next.effect.map Event.reader).toList)
      { state.withSlot next.slot with reader := next.reader } := by
  have htaken : taken (next.effect.map Event.reader).toList = [] :=
    taken_reader next.effect
  cases harm with
  | cancel hphase hnone =>
      exact h.close hstanding hsupply hhanded hphase hnone _ rfl
  | sweep hphase =>
      refine h.same rfl (fun _ _ => ⟨.inr rfl, ?_⟩) (fun _ => htaken) id
        fun _ => .inl
      cases state.session.slot.pending <;> rfl
  | halt hphase _ | extract hphase _ _ | drained hphase _ _
  | publish hphase _ _ | refuse hphase _ | consumed hphase _ _
  | forsake hphase _ | defer hphase _ | poll _ hphase | receive hphase _ _
  | retry hphase _ | close hphase _ | crash hphase =>
      refine h.same rfl (fun _ hclosed => ?_) (fun _ => htaken) id
        fun _ => .inl
      rw [hphase] at hclosed
      simp at hclosed

-- ========================================================= the attempts

/-- The exit request cancels the session. -/
theorem Cause.exit (h : Cause limit history state)
    (hnone : state.session.slot.cancelled = none)
    (hline : ∃ line ∈ taken history, Request.ofLine line = .exit)
    (hslot : state'.session.slot.cancelled = some .exitRequested)
    (hphase : state'.phase = state.phase) :
    Cause limit (history ++ events) state' where
  inputClosed hreason := by
    rw [hslot] at hreason
    cases hreason
  exitRequested _ := by
    obtain ⟨line, hmem, hexit⟩ := hline
    rw [taken_append]
    exact ⟨line, List.mem_append_left _ hmem, hexit⟩
  shutdown hreason := by
    rw [hslot] at hreason
    cases hreason
  ending reason hending := by
    have hbefore := (h.ending reason (hphase ▸ hending)).1
    rw [hnone] at hbefore
    cases hbefore

/-- A step of an attempt. Only one that has found the exit marker touches
the flag, and a line is taken only while nobody has cancelled. -/
theorem Cause.attempt (h : Cause limit history state) {attempt : Attempt}
    {next : Attempt.Next} {call : Verification} {log : List Asked}
    {said : List Message}
    (hfollows : attempt.Follows state.session.slot call log said
      (takenBy number history))
    (harm : Attempt.Arm state.clock state.session.slot attempt next) :
    Cause limit (history ++ (next.effect.map (Event.attempt number)).toList)
      (state.withAttempt number next) := by
  have hreceived := received_attempt number next.effect
  have hkeep : next.slot.cancelled = state.session.slot.cancelled →
      (state.session.slot.cancelled.isSome = true →
        taken (next.effect.map (Event.attempt number)).toList = []) →
      Cause limit
        (history ++ (next.effect.map (Event.attempt number)).toList)
        (state.withAttempt number next) := fun hslot htaken =>
    h.same hslot (fun _ hphase => ⟨hphase, hreceived⟩) htaken id fun _ => .inl
  cases harm with
  | converse harm =>
      cases harm with
      | exit =>
          -- a reason that was there before stays
          cases hcancelled : state.session.slot.cancelled with
          | some reason =>
              refine hkeep ?_ fun _ => rfl
              show (state.session.slot.cancel .exitRequested).2.cancelled = _
              rw [Slot.cancel_of_isSome (by rw [hcancelled]; rfl)]
          | none =>
              obtain ⟨line, hmem, hexit⟩ := hfollows.exit_line
              refine h.exit hcancelled
                ⟨line, mem_taken_of_mem_takenBy hmem, hexit⟩ ?_ rfl
              show (state.session.slot.cancel .exitRequested).2.cancelled = _
              rw [Slot.cancel_of_none hcancelled]
      | takeExit hnone _ _ | takeAnswer hnone _ _ =>
          refine hkeep rfl fun hsome => ?_
          rw [hnone] at hsome
          cases hsome
      | _ => exact hkeep rfl fun _ => rfl
  | _ => exact hkeep rfl fun _ => rfl

-- ============================================================= the loop

/-- A step of the loop that leaves the slot alone. -/
theorem Cause.move (h : Cause limit history state) {move : Move}
    (harm : Arm setup state (.move move) state' events)
    (hslot : state'.session.slot.cancelled = state.session.slot.cancelled)
    (hstopped : state.phase.hasStopped = true →
      state'.phase.hasStopped = true)
    (hending : ∀ reason,
      state'.phase.ending? = some (.ok (.cancelled reason)) →
      state.phase.ending? = some (.ok (.cancelled reason))
        ∨ (state.session.slot.cancelled = some reason
          ∧ reason ≠ .shutdown)) :
    Cause limit (history ++ events) state' := by
  have hnothing := HandsNothing.of_move harm
  refine h.same hslot (fun _ hphase => ⟨?_, hnothing.received⟩)
    (fun _ => hnothing.taken) hstopped hending
  rw [harm.reader_of_move]
  exact hphase

/-- The reason that the loop finds is not its own. -/
theorem Cause.ne_shutdown (h : Cause limit history state)
    (hphase : state.phase.hasStopped = false) {reason : CancelReason}
    (hreason : state.session.slot.cancelled = some reason) :
    reason ≠ .shutdown := by
  rintro rfl
  rw [h.shutdown hreason] at hphase
  cases hphase

/-- The session is over, and the last line is written or not. -/
theorem Cause.finish (h : Cause limit history state) {move : Move}
    {outcome : Outcome} {session : Session} {written : List Event}
    (harm : Arm setup state (.move move) state' events)
    (hslot : session.slot = state.session.slot)
    (hwrote : State.Wrote { state with session } outcome.message
      (.stopping (.ok outcome)) state' written)
    (hphase : state.phase.hasStopped = false)
    (hreason : ∀ reason, outcome = .cancelled reason →
      state.session.slot.cancelled = some reason) :
    Cause limit (history ++ events) state' := by
  have hstopped : state.phase.hasStopped = true →
      state'.phase.hasStopped = true := by
    rw [hphase]
    exact fun hstop => by cases hstop
  cases hwrote with
  | unsent _ =>
      exact h.move harm (by rw [hslot]) hstopped
        fun _ hending => by cases hending
  | sent _ =>
      refine h.move harm (by rw [hslot]) hstopped fun reason hending => .inr ?_
      cases hending
      have hcancelled := hreason reason rfl
      exact ⟨hcancelled, h.ne_shutdown hphase hcancelled⟩

/-- The loop cancels the session when it has its ending. -/
theorem Cause.stop (h : Cause limit history state) {ending : Ending}
    (hphase : state.phase = .stopping ending)
    (harm : Arm setup state (.move .stop) state' events)
    (hslot : state'.session.slot = (state.session.slot.cancel .shutdown).2)
    (hending : state'.phase.ending? = some ending)
    (hstopped : state'.phase.hasStopped = true) :
    Cause limit (history ++ events) state' := by
  have hbefore : state.phase.ending? = some ending := by
    rw [hphase]
    rfl
  cases hcancelled : state.session.slot.cancelled with
  | some reason =>
      rw [Slot.cancel_of_isSome (by rw [hcancelled]; rfl)] at hslot
      refine h.move harm (by rw [hslot]) (fun _ => hstopped)
        fun reason' hafter => .inl ?_
      rw [hbefore, ← hending, hafter]
  | none =>
      rw [Slot.cancel_of_none hcancelled] at hslot
      refine ⟨?_, ?_, fun _ => hstopped, ?_⟩
      · rw [hslot]
        exact fun hreason => by cases hreason
      · rw [hslot]
        exact fun hreason => by cases hreason
      · -- nobody has cancelled, so the ending names no reason
        intro reason hafter
        rw [hending, ← hbefore] at hafter
        have := (h.ending reason hafter).1
        rw [hcancelled] at this
        cases this

-- ========================================================== whole runs

/-- Every step keeps the invariant. -/
theorem Cause.step (h : Cause limit history state)
    (hrun : Run setup (.start setup (.new context maxFailures) sink)
      history state)
    (hsupply : Supply limit history state.reader state.session.slot)
    (harm : Arm setup state action state' events) :
    Cause limit (history ++ events) state' := by
  have hmove := harm
  cases harm with
  | reader harm => exact h.reader hrun.standing hsupply hrun.handed harm
  | attempt hattempt harm =>
      rw [State.attempt?_eq hrun.length_attempts] at hattempt
      obtain ⟨_, _, _, hfollows⟩ := hrun.follows hattempt
      exact h.attempt hfollows harm
  | elapse =>
      exact h.same rfl (fun _ hphase => ⟨hphase, rfl⟩) (fun _ => rfl) id
        fun _ => .inl
  | halt hphase hobserve hwrote =>
      -- the loop has found the flag raised before an attempt
      have hopen := hrun.outcome_eq_none (by rw [hphase]; rfl)
      refine h.finish hmove (Session.observe_slot hobserve) hwrote
        (by rw [hphase]; rfl) ?_
      obtain ⟨reason, rfl, hreason⟩ :=
        Session.observe_open hopen hobserve
      exact fun _ heq => by cases heq; exact hreason
  | conclude hphase _ hrecord hwrote =>
      -- the flag counts only where the verdict says that it does
      have hopen := hrun.outcome_eq_none (by rw [hphase]; rfl)
      refine h.finish hmove (Session.record_slot hrecord) hwrote
        (by rw [hphase]; rfl) ?_
      rintro reason rfl
      exact Session.cancelled_of_record hopen hrecord
  | retry hphase _ hrecord hwrote =>
      have hslot := Session.record_slot hrecord
      cases hwrote <;>
        exact h.move hmove (by rw [hslot])
          (fun hstop => by rw [hphase] at hstop; cases hstop)
          fun _ hafter => by cases hafter
  | forward hphase _ hwrote | drain hphase _ hwrote =>
      cases hwrote <;>
        exact h.move hmove rfl
          (fun hstop => by rw [hphase] at hstop; cases hstop)
          fun _ hafter => by cases hafter
  | proceed hphase hobserve =>
      exact h.move hmove (by rw [Session.observe_slot hobserve])
        (fun hstop => by rw [hphase] at hstop; cases hstop)
        fun _ hafter => by cases hafter
  | launch hphase | join hphase | collapse hphase | abandon hphase =>
      exact h.move hmove rfl
        (fun hstop => by rw [hphase] at hstop; cases hstop)
        fun _ hafter => by cases hafter
  | notice _ _ _ _ => exact h.move hmove rfl id fun _ => .inl
  | stop hphase => exact h.stop hphase hmove rfl rfl rfl
  | reap hphase | giveUp hphase | sweep hphase =>
      exact h.move hmove rfl (fun _ => rfl)
        fun _ hafter => .inl (by rw [hphase]; exact hafter)

/-- In every run the reason of the cancellation tells what had happened
before. -/
theorem Run.cause
    (hrun : Run setup (.start setup (.new context maxFailures) sink)
      history state) :
    Cause (lineLimit setup.maxLineLen) history state := by
  induction hrun with
  | init => exact .start
  | step action hrun hstep ih =>
      exact ih.step hrun hrun.supply (arm_of_apply hstep)

end ScreenUnlock.Dispatch
