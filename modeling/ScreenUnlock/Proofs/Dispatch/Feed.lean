/-
Runs on a given input.

An action carries what the system answers to the reader, so a `Run` says
nothing about where the bytes come from. `Fed` is a run on one stream of
bytes: each read takes some bytes off its front, however many, and the
stream ends or fails only when nothing is left of it. Whatever else
happens, and in which order, is as free as in any run.

What has come in and what is left are the stream (`Fed.stream_eq`), and
when the session is cancelled because the input is closed, nothing is
left (`Fed.closed`).

What is left is also what bounds the reader: as long as its waits and reads
bring something, each of its steps lowers `Reader.effort`, so it comes to its
end or waits for somebody else.
-/
import Mathlib.Data.List.Basic
import ScreenUnlock.Proofs.Dispatch.Replay
import ScreenUnlock.Proofs.Dispatch.Supply

namespace ScreenUnlock

-- ============================================================= the stream

/-- What is left of the stream behind an action that the reader could
take with `rest` left, if it could. -/
def Reader.Action.feed? : Reader.Action → Bytes → Option Bytes
  | .read (.bytes data), rest => data.isPrefixOf? rest
  | .read .endOfInput, rest => if rest = [] then some [] else none
  | .read .failed, rest => if rest = [] then some [] else none
  | .poll .failed, rest => if rest = [] then some [] else none
  | .read .crashed, _ => none
  | _, rest => some rest

/-- The end of the stream is seen when nothing is left. -/
theorem eq_nil_of_over {rest rest' : Bytes}
    (hfeed : (if rest = [] then some [] else none) = some rest') :
    rest = [] ∧ rest' = [] := by
  split at hfeed
  case isTrue hnil => exact ⟨hnil, (Option.some.inj hfeed).symm⟩
  case isFalse => cases hfeed

-- ====================================================== the reader's effort

namespace Reader

/-- Whether something comes of an action. A wait that brings no input and a
read that is interrupted may be repeated for ever. -/
def Action.counts : Action → Bool
  | .poll .idle => false
  | .poll .signal => false
  | .read .interrupted => false
  | .read .wouldBlock => false
  | _ => true

/-- How many steps the reader takes at most before it reads again or is
over. -/
def Phase.rank : Phase → Nat
  | .offering _ => 7
  | .awaiting => 6
  | .looking => 5
  | .polling => 4
  | .reading => 3
  | .leaving => 2
  | .sweeping => 1
  | .finished => 0
  | .crashed => 0

/-- How many steps are left of the reader at most when `left` bytes are
still to be read. A byte counts more outside the buffer than in it, and
there more than a place of the reader's loop. -/
def effort (reader : Reader) (left : Nat) : Nat :=
  8 * left + 4 * reader.buffer.length + reader.phase.rank

variable {reader : Reader} {slot : Slot} {next : Next} {action : Action}
  {rest rest' : Bytes}

/-- Every action of which something comes brings the reader nearer to its
end. -/
theorem Arm.effort_lt (harm : Arm reader slot action next)
    (hfeed : action.feed? rest = some rest') (hcounts : action.counts = true) :
    next.reader.effort rest'.length < reader.effort rest.length := by
  -- an action that takes nothing off the stream
  have hsame : some rest = some rest' →
      (∀ left, next.reader.effort left < reader.effort left) →
      next.reader.effort rest'.length < reader.effort rest.length := by
    intro heq hless
    rw [Option.some.inj heq]
    exact hless _
  -- an action that meets its end
  have hover : (if rest = [] then some [] else none) = some rest' →
      (∀ left, next.reader.effort left < reader.effort left) →
      next.reader.effort rest'.length < reader.effort rest.length := by
    intro hend hless
    obtain ⟨rfl, rfl⟩ := eq_nil_of_over hend
    exact hless _
  cases harm with
  | extract hphase _ hline =>
      refine hsame hfeed fun left => ?_
      have := LineBuffer.nextLine?_length_lt hline
      simp only [effort, Phase.rank, hphase]
      omega
  | cancel hphase _ | defer hphase _ =>
      refine hsame hfeed fun left => ?_
      simp only [effort, Phase.rank, hphase, LineBuffer.clear]
      omega
  | halt hphase _ | drained hphase _ _ | publish hphase _ _ | refuse hphase _
  | consumed hphase _ _ | forsake hphase _ | sweep hphase =>
      refine hsame hfeed fun left => ?_
      simp only [effort, Phase.rank, hphase, goto]
      omega
  | poll readiness hphase =>
      cases readiness with
      | ready =>
          refine hsame hfeed fun left => ?_
          simp only [effort, Phase.rank, hphase, goto, afterPoll]
          omega
      | failed =>
          refine hover hfeed fun left => ?_
          simp only [effort, Phase.rank, hphase, goto, afterPoll]
          omega
      | idle | signal => cases hcounts
  | @receive data hphase hsome _ =>
      have hdata : data ++ rest' = rest :=
        List.isPrefixOf?_eq_some_iff_append_eq.mp hfeed
      have := LineBuffer.length_push_le data reader.buffer
      simp only [effort, Phase.rank, hphase, ← hdata, List.length_append]
      omega
  | retry _ hnothing => rcases hnothing with rfl | rfl <;> cases hcounts
  | close hphase hclosed =>
      rcases hclosed with rfl | rfl <;> refine hover hfeed fun left => ?_ <;>
        simp only [effort, Phase.rank, hphase, goto] <;> omega
  | crash _ => cases hfeed

end Reader

namespace Dispatch

/-- Only the reader takes anything off the stream. -/
def Action.feed? : Action → Bytes → Option Bytes
  | .reader action, rest => action.feed? rest
  | _, rest => some rest

/-- The runs on the stream `stream`, and what is left of it. -/
inductive Fed (setup : Setup) (start : State) (stream : Bytes) :
    List Event → State → Bytes → Prop where
  | init : Fed setup start stream [] start stream
  | step {history events : List Event} {state state' : State}
      {rest rest' : Bytes} (action : Action) :
      Fed setup start stream history state rest →
      action.feed? rest = some rest' →
      apply setup action state = some (state', events) →
      Fed setup start stream (history ++ events) state' rest'

open LineBuffer (lineLimit)
open State (Arm arm_of_apply)

variable {setup : Setup} {start : State} {context : AuthContext}
  {maxFailures : UInt32} {sink : Sink} {stream rest rest' : Bytes}
  {history events : List Event} {state state' : State} {action : Action}

theorem Fed.run (hfed : Fed setup start stream history state rest) :
    Run setup start history state := by
  induction hfed with
  | init => exact .init
  | step action _ _ hstep ih => exact .step action ih hstep

/-- A run goes on with what is left of the stream. -/
theorem Fed.trans {later : List Event}
    (hfed : Fed setup start stream history state rest)
    (hlater : Fed setup state rest later state' rest') :
    Fed setup start stream (history ++ later) state' rest' := by
  induction hlater with
  | init =>
      rw [List.append_nil]
      exact hfed
  | step action _ hfeed hstep ih =>
      rw [← List.append_assoc]
      exact .step action ih hfeed hstep

/-- What a step brings in comes off the stream. -/
theorem received_of_feed (hfeed : action.feed? rest = some rest')
    (harm : Arm setup state action state' events) :
    received events ++ rest' = rest := by
  -- a step that takes nothing off the stream
  have hsame : received events = [] → some rest = some rest' →
      received events ++ rest' = rest := by
    intro hreceived heq
    rw [hreceived, Option.some.inj heq]
    rfl
  -- a step that meets its end
  have hover : received events = [] →
      (if rest = [] then some [] else none) = some rest' →
      received events ++ rest' = rest := by
    intro hreceived hend
    obtain ⟨hrest, hrest'⟩ := eq_nil_of_over hend
    rw [hreceived, hrest, hrest']
    rfl
  cases action with
  | reader action =>
      cases harm with
      | reader harm =>
          cases harm with
          | @receive data _ _ _ =>
              have hdata : data ++ rest' = rest :=
                List.isPrefixOf?_eq_some_iff_append_eq.mp hfeed
              rw [← hdata]
              simp [received, Event.received?]
          | retry _ hnothing =>
              rcases hnothing with rfl | rfl <;> exact hsame rfl hfeed
          | close _ hclosed =>
              rcases hclosed with rfl | rfl <;> exact hover rfl hfeed
          | crash _ => cases hfeed
          | poll readiness _ =>
              cases readiness with
              | failed => exact hover rfl hfeed
              | ready | idle | signal => exact hsame rfl hfeed
          | sweep _ =>
              apply hsame _ hfeed
              cases state.session.slot.pending <;> rfl
          | _ => exact hsame rfl hfeed
  | attempt number =>
      cases harm
      exact hsame (received_attempt _ _) hfeed
  | move move => exact hsame (HandsNothing.of_move harm).received hfeed
  | elapse milliseconds =>
      cases harm
      exact hsame rfl hfeed

/-- What has come in and what is left. -/
theorem Fed.stream_eq (hfed : Fed setup start stream history state rest) :
    received history ++ rest = stream := by
  induction hfed with
  | init => rfl
  | step action _ hfeed hstep ih =>
      rw [received_append, List.append_assoc,
        received_of_feed hfeed (arm_of_apply hstep), ih]

/-- The lines of the stream are put into the slot in order. -/
theorem Fed.published_isPrefix
    (hfed : Fed setup (.start setup (.new context maxFailures) sink) stream
      history state rest) :
    published history
      <+: Bytes.cutLines (lineLimit setup.maxLineLen) stream := by
  rw [← hfed.stream_eq]
  exact hfed.run.supply.published_prefix.trans
    (Bytes.cutLines_prefix_append _ _ _)

/-- The attempts take the lines of the stream, in order. -/
theorem Fed.taken_isPrefix
    (hfed : Fed setup (.start setup (.new context maxFailures) sink) stream
      history state rest) :
    taken history <+: Bytes.cutLines (lineLimit setup.maxLineLen) stream :=
  hfed.run.handed.inOrder.trans hfed.published_isPrefix

/-- Nothing comes out of a stream of which nothing is left. -/
theorem eq_nil_of_feed (hfeed : action.feed? rest = some rest')
    (harm : Arm setup state action state' events) (hnil : rest = []) :
    rest' = [] := by
  have heq := received_of_feed hfeed harm
  rw [hnil] at heq
  exact (List.append_eq_nil_iff.mp heq).2

-- ===================================================== the end of the input

/-- A stream does not break the reader down. -/
theorem State.Arm.reader_ne_crashed_of_feed
    (harm : Arm setup state action state' events)
    (hfeed : action.feed? rest = some rest')
    (hreader : state.reader.phase ≠ .crashed) :
    state'.reader.phase ≠ .crashed := by
  cases harm with
  | reader harm =>
      cases harm with
      | poll readiness _ => cases readiness <;> exact fun h => by cases h
      | crash _ => cases hfeed
      | _ => exact fun h => by cases h
  | halt _ _ hwrote | forward _ _ hwrote | drain _ _ hwrote
  | retry _ _ _ hwrote | conclude _ _ _ hwrote =>
      cases hwrote <;> exact hreader
  | _ => exact hreader

theorem Fed.reader_ne_crashed {session : Session}
    (hfed : Fed setup (.start setup session sink) stream history state rest)
    (hbuffer : LineBuffer.capacityFor setup.maxLineLen
      ≤ LineBuffer.allocationLimit) :
    state.reader.phase ≠ .crashed := by
  induction hfed with
  | init => simp [State.start, Reader.new, LineBuffer.new?, hbuffer]
  | step action _ hfeed hstep ih =>
      exact (arm_of_apply hstep).reader_ne_crashed_of_feed hfeed ih

/-- Only the reader closes the input. -/
theorem State.Arm.inputClosed_inv
    (harm : Arm setup state action state' events)
    (hclosed : state'.session.slot.cancelled = some .inputClosed) :
    state.session.slot.cancelled = some .inputClosed
      ∨ (state.reader.phase = .leaving
        ∧ state.session.slot.cancelled = none) := by
  have hcancel : ∀ reason, reason ≠ .inputClosed →
      (state.session.slot.cancel reason).2.cancelled = some .inputClosed →
      state.session.slot.cancelled = some .inputClosed := by
    intro reason hne hafter
    cases hcancelled : state.session.slot.cancelled with
    | none =>
        rw [Slot.cancel_of_none hcancelled] at hafter
        exact absurd (Option.some.inj hafter) hne
    | some first =>
        rw [Slot.cancel_of_isSome (by rw [hcancelled]; rfl), hcancelled]
          at hafter
        exact hafter
  cases harm with
  | reader harm =>
      cases harm with
      | cancel hphase hnone => exact Or.inr ⟨hphase, hnone⟩
      | _ => exact Or.inl hclosed
  | attempt _ harm =>
      left
      rcases harm.slot_cases with ⟨hslot, -⟩ | ⟨line, -, -, hslot, -⟩
        | ⟨hslot, -⟩
      · rw [← hslot]
        exact hclosed
      · exact (congrArg Slot.cancelled hslot).symm.trans hclosed
      · exact hcancel .exitRequested (by decide)
          ((congrArg Slot.cancelled hslot).symm.trans hclosed)
  | stop _ => exact Or.inl (hcancel .shutdown (by decide) hclosed)
  | halt _ hobserve hwrote =>
      rw [← Session.observe_slot hobserve]
      cases hwrote <;> exact Or.inl hclosed
  | proceed _ hobserve =>
      rw [← Session.observe_slot hobserve]
      exact Or.inl hclosed
  | retry _ _ hrecord hwrote | conclude _ _ hrecord hwrote =>
      rw [← Session.record_slot hrecord]
      cases hwrote <;> exact Or.inl hclosed
  | forward _ _ hwrote | drain _ _ hwrote =>
      cases hwrote <;> exact Or.inl hclosed
  | _ => exact Or.inl hclosed

/-- A reader that leaves an open session has come to the end of the
stream. -/
theorem Fed.leaving {session : Session}
    (hfed : Fed setup (.start setup session sink) stream history state rest)
    (hphase : state.reader.phase = .leaving)
    (hnone : state.session.slot.cancelled = none) : rest = [] := by
  induction hfed with
  | init => exact absurd (Reader.phase_of_new hphase) (by decide)
  | step action _ hfeed hstep ih =>
      have harm := arm_of_apply hstep
      have hbefore := harm.cancelled_mono hnone
      cases action with
      | reader action =>
          cases harm with
          | reader harm =>
              cases harm with
              | halt _ hsome | refuse _ hsome | forsake _ hsome =>
                  rw [hbefore] at hsome
                  cases hsome
              | poll readiness _ =>
                  cases readiness with
                  | failed => exact (eq_nil_of_over hfeed).2
                  | ready | idle | signal => cases hphase
              | close _ hclosed =>
                  rcases hclosed with rfl | rfl <;>
                    exact (eq_nil_of_over hfeed).2
              | _ => cases hphase
      | attempt number =>
          cases harm
          exact (Option.some.inj hfeed).symm.trans (ih hphase hbefore)
      | move move =>
          rw [harm.reader_of_move] at hphase
          exact (Option.some.inj hfeed).symm.trans (ih hphase hbefore)
      | elapse milliseconds =>
          cases harm
          exact (Option.some.inj hfeed).symm.trans (ih hphase hbefore)

/-- When the input counts as closed nothing is left of it. -/
theorem Fed.closed {session : Session}
    (hfed : Fed setup (.start setup session sink) stream history state rest)
    (hnone : session.slot.cancelled = none)
    (hclosed : state.session.slot.cancelled = some .inputClosed) :
    rest = [] := by
  induction hfed with
  | init =>
      rw [show (State.start setup session sink).session = session from rfl,
        hnone] at hclosed
      cases hclosed
  | step action hfed hfeed hstep ih =>
      have harm := arm_of_apply hstep
      refine eq_nil_of_feed hfeed harm ?_
      rcases harm.inputClosed_inv hclosed with hbefore | ⟨hphase, hopen⟩
      · exact ih hbefore
      · exact hfed.leaving hphase hopen

/-- A run that was replayed is one on the stream that its actions take. -/
theorem Fed.replay (hfed : Fed setup start stream history state rest)
    {actions : List Action}
    (hfeed : actions.foldlM (fun rest action => action.feed? rest) rest
      = some rest')
    (hreplay : Dispatch.replay setup actions state = some (state', events)) :
    Fed setup start stream (history ++ events) state' rest' := by
  induction actions generalizing history state events rest with
  | nil =>
      cases hfeed
      cases hreplay
      rw [List.append_nil]
      exact hfed
  | cons action actions ih =>
      obtain ⟨⟨next, now⟩, hnow, hlater⟩ :=
        Option.bind_eq_some_iff.mp hreplay
      obtain ⟨⟨last, later⟩, hrest, heq⟩ := Option.map_eq_some_iff.mp hlater
      cases heq
      rw [List.foldlM_cons] at hfeed
      obtain ⟨left, hleft, hfeed⟩ := Option.bind_eq_some_iff.mp hfeed
      rw [← List.append_assoc]
      exact ih (.step action hfed hleft hnow) hfeed hrest

/-- A list of steps that can be taken, and whose input the stream has, is
a run on it. -/
theorem Fed.exists_of_replay {α : Type} (setup : Setup) (start : State)
    (stream : Bytes) (actions : List Action)
    (view : State → List Event → α) (value : α)
    (hfeed : (actions.foldlM (fun rest (action : Action) => action.feed? rest)
      stream).isSome = true)
    (hreplay : (Dispatch.replay setup actions start).map
      (fun result => view result.1 result.2) = some value) :
    ∃ history state rest, Fed setup start stream history state rest
      ∧ view state history = value := by
  obtain ⟨rest, hrest⟩ := Option.isSome_iff_exists.mp hfeed
  obtain ⟨⟨state, events⟩, hsteps, hview⟩ := Option.map_eq_some_iff.mp hreplay
  exact ⟨events, state, rest, Fed.init.replay hrest hsteps, hview⟩

/-- The same with a second list of steps that goes on where the first one
leads. -/
theorem Fed.exists_of_replays {α : Type} (setup : Setup) (start : State)
    (stream : Bytes) (actions more : List Action)
    (view : State → List Event → State → List Event → α) (value : α)
    (hfeed : actions.foldlM (fun rest (action : Action) => action.feed? rest)
      stream = some rest)
    (hmore : more.foldlM (fun rest (action : Action) => action.feed? rest)
      rest = some rest')
    (hreplay : ((Dispatch.replay setup actions start).bind fun given =>
      (Dispatch.replay setup more given.1).map fun (result : Result) =>
        view given.1 given.2 result.1 result.2) = some value) :
    ∃ history given later state, Fed setup start stream history given rest
      ∧ Fed setup given rest later state rest'
      ∧ view given history state later = value := by
  obtain ⟨⟨given, history⟩, hgiven, hlater⟩ :=
    Option.bind_eq_some_iff.mp hreplay
  obtain ⟨⟨state, later⟩, hsteps, hview⟩ := Option.map_eq_some_iff.mp hlater
  exact ⟨history, given, later, state, Fed.init.replay hfeed hgiven,
    Fed.init.replay hmore hsteps, hview⟩

end Dispatch

end ScreenUnlock
