/-
The exit request at a prompt.

A prompt without echo waits for a line, the session is open, and the next
complete line of the caller is the exit marker. Then the prompt comes back
without an answer, into a cancelled session, and no line reaches the
backend any more (`Fed.declines_exit`). This holds whatever the threads do
in between and however the input is cut into reads, but only if a line may
be as long as the marker. A shorter limit cuts the marker, and what is left
of it is an answer like any other (`exit_marker_answered`).

# The prompt

`Declines` follows the prompt from there. As long as it waits, no line was
taken behind those before it, so the line in the slot can only be the exit
request. Whoever takes it cancels before it replies.

# The way to the reply

That the reply comes in the end is a matter of the two threads that serve
the prompt. `Settles` is what they come to when nobody else interferes,
whichever of them goes next: one of them can go on as long as there is no
reply (`Fed.exists_unaided`), and each of their steps lowers `effort`. The
reader lowers it by what is still to be read and the lines in its buffer
(`Reader.effort`), the attempt by how far the request has come.
-/
import ScreenUnlock.Proofs.Dispatch.Feed
import ScreenUnlock.Proofs.Dispatch.Lapse

namespace ScreenUnlock

-- ============================================================ the request

/-- The marker is an exit request exactly if the line keeps all of it. -/
theorem Request.ofLine_take_exitMarker (limit : Nat) :
    Request.ofLine (Request.exitMarker.take limit) = .exit
      ↔ Request.exitMarker.length ≤ limit := by
  rw [Request.ofLine_eq_exit_iff]
  constructor
  · intro hinfix
    have := hinfix.length_le
    rw [List.length_take] at this
    omega
  · intro hle
    rw [List.take_of_length_le hle]

/-- A prompt without echo that has no line yet. -/
def Exchange.isOutstanding : Exchange → Bool
  | .opening .promptEchoOff _ => true
  | .prompted => true
  | .asking => true
  | _ => false

namespace Attempt

/-- How many steps are left of the request at most. -/
def rank (attempt : Attempt) : Nat :=
  (attempt.exchange?.map Exchange.rank).getD 0

variable {attempt : Attempt} {exchange : Exchange}

/-- An outstanding prompt has no answer. -/
theorem held_of_isOutstanding (h : attempt.exchange? = some exchange)
    (hprompt : exchange.isOutstanding = true) : attempt.held = [] := by
  obtain ⟨activity, replies⟩ := attempt
  cases activity with
  | conversing exchange' rest =>
      cases h
      cases exchange with
      | answering _ | «over» _ => cases hprompt
      | opening _ _ | prompted | asking | exiting => rfl
  | running _ | sleeping _ _ | ended _ => cases h

theorem not_isExiting_of_isOutstanding
    (h : attempt.exchange? = some exchange)
    (hprompt : exchange.isOutstanding = true) :
    attempt.isExiting = false := by
  obtain ⟨activity, replies⟩ := attempt
  cases activity with
  | conversing exchange' rest =>
      cases h
      cases exchange with
      | exiting => cases hprompt
      | opening _ _ | prompted | asking | answering _ | «over» _ => rfl
  | running _ | sleeping _ _ | ended _ => cases h

end Attempt

namespace Dispatch

open LineBuffer (lineLimit)
open State (Arm arm_of_apply)

variable {setup : Setup} {context : AuthContext} {maxFailures : UInt32}
  {sink : Sink} {stream rest : Bytes} {history after events : List Event}
  {state state' : State} {action : Action} {number count : Nat}

-- ========================================================= an open prompt

/-- While a prompt is outstanding in an open session, the backend has all
the lines that were taken. -/
theorem Run.answers_eq_taken
    (hrun : Run setup (.start setup (.new context maxFailures) sink)
      history state) (hreader : state.reader.phase ≠ .crashed)
    {attempt : Attempt} {exchange : Exchange}
    (hattempt : state.inOrder[number]? = some attempt)
    (hexchange : attempt.exchange? = some exchange)
    (hprompt : exchange.isOutstanding = true)
    (hnone : state.session.slot.cancelled = none) :
    answers history = taken history := by
  have hover := Attempt.not_isOver_of_exchange? hexchange
  -- the attempt that prompts is the only one that is not over
  have hcases : ∀ other ∈ state.inOrder,
      other = attempt ∨ other.isOver = true := by
    intro other hmem
    obtain ⟨i, hi⟩ := List.getElem?_of_mem hmem
    by_cases heq : i = number
    · rw [heq, hattempt] at hi
      exact .inl (Option.some.inj hi).symm
    · exact .inr (hrun.inTurn.isOver_of_ne (.inr hreader)
        hrun.length_attempts hattempt hover hi heq)
  have hheld : state.inOrder.flatMap Attempt.held = [] := by
    refine List.flatMap_eq_nil_iff.mpr fun other hmem => ?_
    rcases hcases other hmem with rfl | hother
    · exact Attempt.held_of_isOutstanding hexchange hprompt
    · exact Attempt.held_of_isOver hother
  have hno : ∀ line ∈ taken history, Request.ofLine line ≠ .exit := by
    intro line hmem hrequest
    rcases hrun.delivers.exit ⟨line, hmem, hrequest⟩ with hcancelled
      | ⟨other, hmem, hexiting⟩
    · rw [hnone] at hcancelled
      cases hcancelled
    · rcases hcases other hmem with rfl | hother
      · rw [Attempt.not_isExiting_of_isOutstanding hexchange hprompt]
          at hexiting
        cases hexiting
      · rw [Attempt.not_isExiting_of_isOver hother] at hexiting
        cases hexiting
  have hanswered := hrun.delivers.answered
  rw [hheld, List.append_nil, (secrets_snoc hno []).1] at hanswered
  exact hanswered

/-- The line behind the first `count` asks for the exit. -/
def ExitAfter (count : Nat) (lines : List Bytes) : Prop :=
  ∃ line, lines[count]? = some line ∧ Request.ofLine line = .exit

/-- If a line lies in the slot of an open session behind the first `count`,
it asks for the exit. -/
def ExitNext (count : Nat) (history : List Event) (slot : Slot) : Prop :=
  ∀ line, (taken history).length = count → slot.cancelled = none →
    slot.pending = some line → line.request = .exit

theorem Fed.exitNext
    (hfed : Fed setup (.start setup (.new context maxFailures) sink) stream
      history state rest)
    (hexit : ExitAfter count
      (Bytes.cutLines (lineLimit setup.maxLineLen) stream)) :
    ExitNext count history state.session.slot := by
  rintro line rfl hnone hpending
  obtain ⟨marker, hmarker, hrequest⟩ := hexit
  have hpublished := hfed.published_isPrefix
  rw [hfed.run.handed.lies hnone, hpending] at hpublished
  obtain ⟨later, hlater⟩ := hpublished
  rw [← hlater, List.append_assoc, List.getElem?_append_right (Nat.le_refl _),
    Nat.sub_self] at hmarker
  cases hmarker
  exact hrequest

-- ===================================================== what becomes of it

/-- How far a prompt has come, in front of which `count` lines were taken,
if the next one is an exit request. -/
inductive Unanswered (count : Nat) (history : List Event) (slot : Slot) :
    Exchange → Prop where
  | waits {exchange : Exchange} : exchange.isOutstanding = true →
      (taken history).length = count → Unanswered count history slot exchange
  | exits : Unanswered count history slot .exiting
  | returned : slot.cancelled.isSome = true →
      Unanswered count history slot (.over none)

theorem Unanswered.step {slot : Slot} {exchange : Exchange}
    (h : Unanswered count history slot exchange)
    (hline : ExitNext count history slot)
    {next : Exchange.Next} (harm : Exchange.Arm slot exchange next) :
    Unanswered count (history
        ++ ((next.effect.map Attempt.Effect.conversed).map
          (Event.attempt number)).toList) next.slot next.exchange := by
  cases h with
  | waits hprompt hcount =>
      have hsilent : ∀ message, (taken (history
          ++ [.attempt number (.conversed (.emit message))])).length
            = count := by
        intro message
        rw [taken_append, show taken [_] = [] from rfl, List.append_nil,
          hcount]
      cases harm with
      | prompt => exact .waits rfl (hsilent _)
      | ready => exact .waits rfl (hsilent _)
      | forgo hcancelled => exact .returned hcancelled
      | takeExit _ _ _ => exact .exits
      | @takeAnswer line hnone hpending hrequest =>
          rw [hline line hcount hnone hpending] at hrequest
          cases hrequest
      | @ignore style _ hstyle _ =>
          cases style with
          | promptEchoOff => exact absurd rfl hstyle
          | promptEchoOn | errorMsg | textInfo => cases hprompt
      | inform _ | exit | answer => cases hprompt
  | exits =>
      cases harm with
      | exit => exact .returned (by simp)
  | returned _ => cases harm

/-- What has become of the prompt of the attempt with this number; `after`
has happened since. -/
inductive Declines (number count : Nat) (history after : List Event)
    (state : State) : Prop where
  | asks {attempt : Attempt} {exchange : Exchange} :
      replies number after = [] → state.inOrder[number]? = some attempt →
      attempt.exchange? = some exchange →
      Unanswered count history state.session.slot exchange →
      Declines number count history after state
  | declined {more : List (Option Secret)} :
      replies number after = none :: more →
      state.session.slot.cancelled.isSome = true →
      Declines number count history after state

/-- A step of anybody else. -/
theorem Declines.same (h : Declines number count history after state)
    (hcancelled : state.session.slot.cancelled.isSome = true →
      state'.session.slot.cancelled.isSome = true)
    (horder : ∀ attempt, state.inOrder[number]? = some attempt →
      state'.inOrder[number]? = some attempt)
    (hreplies : replies number events = []) (htaken : taken events = []) :
    Declines number count (history ++ events) (after ++ events) state' := by
  have hreplies' : replies number (after ++ events)
      = replies number after := by
    rw [replies_append, hreplies, List.append_nil]
  cases h with
  | asks hnone hattempt hexchange hprompt =>
      refine .asks (hreplies'.trans hnone) (horder _ hattempt) hexchange ?_
      cases hprompt with
      | waits hprompt hcount =>
          exact .waits hprompt (by rw [taken_append, htaken, List.append_nil,
            hcount])
      | exits => exact .exits
      | returned hsome => exact .returned (hcancelled hsome)
  | declined hhead hsome =>
      exact .declined (hreplies'.trans hhead) (hcancelled hsome)

/-- A step of an attempt: until the prompt has its reply it is a step of
the attempt that prompts. -/
theorem Declines.attempt (h : Declines number count history after state)
    (hturn : InTurn history state) (halone : Alone history state)
    (hlen : state.attempts.length = state.started)
    (hline : ExitNext count history state.session.slot)
    {speaker : Nat} {attempt : Attempt} {next : Attempt.Next}
    (hattempt : state.attempt? speaker = some attempt)
    (harm : Attempt.Arm state.clock state.session.slot attempt next) :
    Declines number count
      (history ++ (next.effect.map (Event.attempt speaker)).toList)
      (after ++ (next.effect.map (Event.attempt speaker)).toList)
      (state.withAttempt speaker next) := by
  cases h with
  | @asks other exchange hnone hother hexchange hprompt =>
      obtain ⟨rfl, rfl⟩ := hturn.eq_of_not_isOver halone hlen hattempt harm
        hother (Attempt.not_isOver_of_exchange? hexchange)
      rcases harm.of_exchange? hexchange with ⟨reply, rfl, heffect, hslot⟩
        | ⟨next', harm', hnext, hslot, heffect⟩
      · cases hprompt with
        | waits hprompt _ => cases hprompt
        | returned hsome =>
            refine @Declines.declined _ _ _ _ _ [] ?_ ?_
            · rw [replies_append, hnone, heffect]
              simp [replies, Event.reply?]
            · show next.slot.cancelled.isSome = true
              rw [hslot]
              exact hsome
      · refine .asks ?_ (State.getElem?_withAttempt_self hlen hattempt next)
          hnext ?_
        · rw [replies_append, hnone, heffect, List.nil_append]
          refine replies_attempt fun reply => ?_
          cases next'.effect <;> exact fun h => by cases h
        · rw [heffect]
          show Unanswered count _ next.slot _
          rw [hslot]
          exact hprompt.step hline harm'
  | @declined more hhead hsome =>
      have hhead' : replies number (after
            ++ (next.effect.map (Event.attempt speaker)).toList)
          = none :: (more ++ replies number
            (next.effect.map (Event.attempt speaker)).toList) := by
        rw [replies_append, hhead]
        rfl
      exact .declined hhead' (harm.isSome_mono hsome)

theorem Declines.step (h : Declines number count history after state)
    (hturn : InTurn history state) (halone : Alone history state)
    (hlen : state.attempts.length = state.started)
    (hline : ExitNext count history state.session.slot)
    (harm : Arm setup state action state' events) :
    Declines number count (history ++ events) (after ++ events) state' := by
  have hcancelled : state.session.slot.cancelled.isSome = true →
      state'.session.slot.cancelled.isSome = true :=
    fun hsome => harm.cancelled_iff.mpr (.inl hsome)
  cases action with
  | reader action =>
      cases harm
      exact h.same hcancelled (fun _ => id) (Idle.of_reader _).replies
        (taken_reader _)
  | attempt speaker =>
      cases harm with
      | attempt hattempt harm =>
          exact h.attempt hturn halone hlen hline hattempt harm
  | move move =>
      have hnothing := HandsNothing.of_move harm
      exact h.same hcancelled (fun _ => harm.getElem?_of_move)
        (hnothing.idle number).replies hnothing.taken
  | elapse milliseconds =>
      cases harm
      exact h.same hcancelled (fun _ => id) rfl rfl

-- =================================================== the way to the reply

/-- A step that the reader and the attempt with this number take unaided:
input is there whenever the reader waits for it, and it reads the next of
the pieces. The last part is the pieces that are left. -/
inductive Unaided (number : Nat) :
    Action → List Bytes → List Bytes → Prop where
  | step {pieces : List Bytes} : Unaided number (.reader .step) pieces pieces
  | poll {pieces : List Bytes} :
      Unaided number (.reader (.poll .ready)) pieces pieces
  | read {data : Bytes} {pieces : List Bytes} :
      Unaided number (.reader (.read (.bytes data))) (data :: pieces) pieces
  | attempt {pieces : List Bytes} :
      Unaided number (.attempt number) pieces pieces

/-- The reader and the attempt with this number can go on, and whichever of
them goes next, after finitely many steps the request of the attempt comes
back without an answer, into a cancelled session. -/
inductive Settles (setup : Setup) (number : Nat) :
    List Bytes → State → Prop where
  | step {pieces : List Bytes} {state : State} :
      -- no deadlock
      (∃ action pieces', Unaided number action pieces pieces'
        ∧ (apply setup action state).isSome = true) →
      -- the step that brings the reply
      (∀ action pieces' state' events, Unaided number action pieces pieces' →
        apply setup action state = some (state', events) →
        replies number events ≠ [] → replies number events = [none]
          ∧ state'.session.slot.cancelled.isSome = true) →
      -- any other step
      (∀ action pieces' state' events, Unaided number action pieces pieces' →
        apply setup action state = some (state', events) →
        replies number events = [] → Settles setup number pieces' state') →
      Settles setup number pieces state

/-- The input comes in these pieces, each of which one read can bring. -/
structure Cut (rest : Bytes) (pieces : List Bytes) : Prop where
  whole : pieces.flatten = rest
  sizes : ∀ piece ∈ pieces, 0 < piece.length ∧ piece.length ≤ readChunk

theorem Unaided.feed {pieces pieces' : List Bytes}
    (h : Unaided number action pieces pieces') (hcut : Cut rest pieces) :
    action.feed? rest = some pieces'.flatten ∧ Cut pieces'.flatten pieces' := by
  cases h with
  | @read data pieces =>
      refine ⟨?_, rfl, fun piece hmem =>
        hcut.sizes piece (List.mem_cons_of_mem _ hmem)⟩
      exact List.isPrefixOf?_eq_some_iff_append_eq.mpr hcut.whole
  | step | poll | attempt =>
      exact ⟨congrArg some hcut.whole.symm, rfl, hcut.sizes⟩

-- ========================================================= one can go on

/-- As long as the line is not in the slot, the reader can go on: either it
has the line, or the line is still to be read. -/
theorem Fed.exists_unaided_reader
    (hfed : Fed setup (.start setup (.new context maxFailures) sink) stream
      history state rest)
    (hbuffer : LineBuffer.capacityFor setup.maxLineLen
      ≤ LineBuffer.allocationLimit)
    (hexit : ExitAfter (taken history).length
      (Bytes.cutLines (lineLimit setup.maxLineLen) stream))
    (hnone : state.session.slot.cancelled = none)
    (hempty : state.session.slot.pending = none) {pieces : List Bytes}
    (hcut : Cut rest pieces) :
    ∃ action pieces', Unaided number action pieces pieces'
      ∧ (apply setup action state).isSome = true := by
  have hleft := hfed.run.standing.left
  rw [hnone] at hleft
  cases hphase : state.reader.phase with
  | looking =>
      refine ⟨_, _, .step, ?_⟩
      simp only [apply, State.readerStep?, Reader.apply, Reader.step?, hphase,
        hnone, Option.isSome_map]
      split <;> rfl
  | offering line | awaiting | leaving =>
      refine ⟨_, _, .step, ?_⟩
      simp [apply, State.readerStep?, Reader.apply, Reader.step?, hphase,
        hnone, hempty, Slot.publish?, Slot.consumed?]
  | polling =>
      refine ⟨_, _, .poll, ?_⟩
      simp [apply, State.readerStep?, Reader.apply, hphase]
  | reading =>
      cases pieces with
      | nil =>
          -- everything was read, handed over and taken
          obtain ⟨line, hline, -⟩ := hexit
          have hlies := hfed.run.handed.lies hnone
          rw [hempty] at hlies
          have hlines := Carries.eq_cutLines
            (hfed.run.supply.carries_nil (.inr hphase)).2
          rw [(hfed.run.supply.carries_nil (.inr hphase)).1] at hlines
          have hstream := hfed.stream_eq
          rw [← hcut.whole, List.flatten_nil, List.append_nil] at hstream
          rw [← hstream, ← hlines, hlies] at hline
          have := (List.getElem?_eq_some_iff.mp hline).1
          simp at this
      | cons piece pieces =>
          refine ⟨_, _, .read, ?_⟩
          simp [apply, State.readerStep?, Reader.apply, hphase,
            Reader.afterRead?, hcut.sizes piece List.mem_cons_self]
  | sweeping => simp [hphase] at hleft
  | finished => simp [hphase] at hleft
  | crashed => exact absurd hphase (hfed.reader_ne_crashed hbuffer)

/-- As long as the prompt has no reply, one of the two can go on. -/
theorem Fed.exists_unaided
    (hfed : Fed setup (.start setup (.new context maxFailures) sink) stream
      history state rest)
    (hbuffer : LineBuffer.capacityFor setup.maxLineLen
      ≤ LineBuffer.allocationLimit)
    (hexit : ExitAfter count
      (Bytes.cutLines (lineLimit setup.maxLineLen) stream))
    {attempt : Attempt} {exchange : Exchange}
    (hattempt : state.inOrder[number]? = some attempt)
    (hexchange : attempt.exchange? = some exchange)
    (hprompt : Unanswered count history state.session.slot exchange)
    {pieces : List Bytes} (hcut : Cut rest pieces) :
    ∃ action pieces', Unaided number action pieces pieces'
      ∧ (apply setup action state).isSome = true := by
  by_cases hready : exchange = .asking →
      state.session.slot.cancelled.isSome = true
        ∨ state.session.slot.pending.isSome = true
  · refine ⟨_, _, .attempt, ?_⟩
    rw [← State.attempt?_eq hfed.run.length_attempts] at hattempt
    simp only [apply, State.attemptStep?, hattempt, Option.isSome_map]
    exact Attempt.isSome_step? hexchange hready
  · obtain ⟨rfl, hblocked⟩ := Classical.not_imp.mp hready
    rw [not_or, Option.not_isSome_iff_eq_none, Option.not_isSome_iff_eq_none]
      at hblocked
    cases hprompt with
    | waits _ hcount =>
        exact hfed.exists_unaided_reader hbuffer (hcount ▸ hexit) hblocked.1
          hblocked.2 hcut

-- ====================================================== each step counts

/-- How many steps are left of the two at most. -/
def effort (number : Nat) (pieces : List Bytes) (state : State) : Nat :=
  (state.inOrder[number]?.map Attempt.rank).getD 0
    + state.reader.effort pieces.flatten.length

theorem Unaided.effort_lt {pieces pieces' : List Bytes}
    (h : Unaided number action pieces pieces')
    (hlen : state.attempts.length = state.started)
    (harm : Arm setup state action state' events) {attempt : Attempt}
    {exchange : Exchange} (hattempt : state.inOrder[number]? = some attempt)
    (hexchange : attempt.exchange? = some exchange)
    (hreplies : replies number events = []) :
    effort number pieces' state' < effort number pieces state := by
  cases h with
  | step =>
      cases harm with
      | reader harm => exact Nat.add_lt_add_left (harm.effort_lt rfl rfl) _
  | poll =>
      cases harm with
      | reader harm => exact Nat.add_lt_add_left (harm.effort_lt rfl rfl) _
  | @read data pieces =>
      cases harm with
      | reader harm =>
          refine Nat.add_lt_add_left (harm.effort_lt ?_ rfl) _
          exact List.isPrefixOf?_eq_some_iff_append_eq.mpr rfl
  | attempt =>
      cases harm with
      | @attempt _ asker next hasker harm =>
          have hnext := State.getElem?_withAttempt_self hlen hasker next
          rw [State.attempt?_eq hlen, hattempt] at hasker
          cases hasker
          rcases harm.of_exchange? hexchange with ⟨reply, -, heffect, -⟩
            | ⟨next', harm', hgoes, -, -⟩
          · rw [heffect] at hreplies
            simp [replies, Event.reply?] at hreplies
          · unfold effort
            rw [hnext, hattempt]
            refine Nat.add_lt_add_right ?_ _
            simpa [Attempt.rank, hgoes, hexchange] using harm'.rank_lt

/-- In one step there is at most one reply. -/
theorem Unaided.length_replies_le {pieces pieces' : List Bytes}
    (h : Unaided number action pieces pieces')
    (harm : Arm setup state action state' events) :
    (replies number events).length ≤ 1 := by
  cases h with
  | attempt =>
      cases harm with
      | @attempt _ _ next _ _ =>
          refine (List.length_filterMap_le _ _).trans ?_
          cases next.effect <;> simp
  | step | poll | read =>
      cases harm
      rw [(Idle.of_reader _).replies]
      exact Nat.zero_le _

/-- If the prompt has its reply in the last step, the reply is none. -/
theorem Declines.of_replies
    (h : Declines number count history (after ++ events) state)
    (hnone : replies number after = [])
    (hlength : (replies number events).length ≤ 1)
    (hreplies : replies number events ≠ []) :
    replies number events = [none]
      ∧ state.session.slot.cancelled.isSome = true := by
  cases h with
  | asks hsilent _ _ _ =>
      rw [replies_append, hnone] at hsilent
      exact absurd hsilent hreplies
  | @declined more hhead hsome =>
      rw [replies_append, hnone, List.nil_append] at hhead
      rw [hhead, List.length_cons] at hlength
      have hmore : more = [] := List.eq_nil_of_length_eq_zero (by omega)
      exact ⟨hmore ▸ hhead, hsome⟩

/-- The reply comes, on whatever stream the line is. -/
theorem Declines.settles (h : Declines number count history after state)
    (hfed : Fed setup (.start setup (.new context maxFailures) sink) stream
      history state rest)
    (hbuffer : LineBuffer.capacityFor setup.maxLineLen
      ≤ LineBuffer.allocationLimit)
    (hexit : ExitAfter count
      (Bytes.cutLines (lineLimit setup.maxLineLen) stream))
    (hnone : replies number after = []) {pieces : List Bytes}
    (hcut : Cut rest pieces) : Settles setup number pieces state := by
  -- on the steps that are left
  induction heffort : effort number pieces state using Nat.strongRecOn
    generalizing history after state rest pieces with
  | ind bound ih =>
      cases h with
      | declined hhead _ =>
          rw [hnone] at hhead
          cases hhead
      | asks hsilent hattempt hexchange hprompt =>
          have hstep : ∀ {action state' events},
              Arm setup state action state' events →
              Declines number count (history ++ events) (after ++ events)
                state' :=
            (Declines.asks hsilent hattempt hexchange hprompt).step
              hfed.run.inTurn (.inr (hfed.reader_ne_crashed hbuffer))
              hfed.run.length_attempts (hfed.exitNext hexit)
          refine .step (hfed.exists_unaided hbuffer hexit hattempt hexchange
            hprompt hcut) ?_ ?_
          · intro action pieces' state' events hunaided happly hreplies
            have harm := arm_of_apply happly
            exact (hstep harm).of_replies hnone
              (hunaided.length_replies_le harm) hreplies
          · intro action pieces' state' events hunaided happly hreplies
            have harm := arm_of_apply happly
            obtain ⟨hfeed, hcut'⟩ := hunaided.feed hcut
            refine ih _ ?_ (hstep harm) (.step action hfed hfeed happly) ?_
              hcut' rfl
            · rw [← heffort]
              exact hunaided.effort_lt hfed.run.length_attempts harm hattempt
                hexchange hreplies
            · rw [replies_append, hnone, hreplies]
              rfl

-- ============================================================== the result

/-- What follows at a prompt of the attempt with this number when the next
line is an exit request; `later` has happened since. -/
structure Declined (setup : Setup) (number : Nat) (later : List Event)
    (state : State) (rest : Bytes) : Prop where
  -- If the prompt is over, it got no answer, and the session is cancelled.
  reply : replies number later = [] ∨ ∃ more,
    replies number later = none :: more
      ∧ state.session.slot.cancelled.isSome = true
  -- If it is not, the reader and the attempt bring it there, however the
  -- rest of the input is cut into reads.
  settles : replies number later = [] → ∀ pieces, Cut rest pieces →
    Settles setup number pieces state
  -- The backend gets no line any more, neither this one nor another.
  silent : answers later = []

/-- The marker is the line behind the first `count`, cut or not. -/
theorem exitAfter_of_marker {limit : Nat}
    (hmarker : Request.exitMarker.length ≤ limit)
    (hline : (Bytes.completeLines stream)[count]?
      = some Request.exitMarker) :
    ExitAfter count (Bytes.cutLines limit stream) := by
  refine ⟨Request.exitMarker.take limit, ?_,
    (Request.ofLine_take_exitMarker limit).mpr hmarker⟩
  rw [Bytes.cutLines, List.getElem?_map, hline]
  rfl

section Prompt

variable {given : State} {later : List Event} {rest' : Bytes}
  {attempt : Attempt} {exchange : Exchange}
  (hfed : Fed setup (.start setup (.new context maxFailures) sink) stream
    history given rest)
  (hbuffer : LineBuffer.capacityFor setup.maxLineLen
    ≤ LineBuffer.allocationLimit)
  (hattempt : given.inOrder[number]? = some attempt)
  (hexchange : attempt.exchange? = some exchange)
  (hprompt : exchange.isOutstanding = true)
  (hexit : ExitAfter (taken history).length
    (Bytes.cutLines (lineLimit setup.maxLineLen) stream))
  (hlater : Fed setup given rest later state rest')

include hfed hbuffer hattempt hexchange hprompt hexit hlater

/-- Whatever happens later, the prompt gets no answer. -/
theorem Fed.declines :
    Declines number (taken history).length (history ++ later) later state := by
  induction hlater with
  | init =>
      rw [List.append_nil]
      exact .asks rfl hattempt hexchange (.waits hprompt rfl)
  | step action hlater _ hstep ih =>
      have hnow := hfed.trans hlater
      rw [← List.append_assoc]
      exact ih.step hnow.run.inTurn (.inr (hnow.reader_ne_crashed hbuffer))
        hnow.run.length_attempts (hnow.exitNext hexit) (arm_of_apply hstep)

/-- The backend had all the answers there can be in front of the exit
request before the prompt. -/
theorem Fed.answers_eq_nil
    (hnone : given.session.slot.cancelled = none) : answers later = [] := by
  obtain ⟨line, hline, hrequest⟩ := hexit
  have hwhole := hfed.trans hlater
  have hprefix : answers (history ++ later) <+: secrets
      (Bytes.cutLines (lineLimit setup.maxLineLen) stream) := by
    refine hwhole.run.answers_prefix.trans (secrets_isPrefix ?_)
    rw [← hwhole.stream_eq]
    exact Bytes.cutLines_prefix_append _ _ _
  have hle := hprefix.length_le.trans (length_secrets_le hline hrequest)
  rw [answers_append, List.length_append,
    hfed.run.answers_eq_taken (hfed.reader_ne_crashed hbuffer) hattempt
      hexchange hprompt hnone] at hle
  exact List.eq_nil_of_length_eq_zero (by omega)

end Prompt

/-- The exit request at an outstanding prompt, for every backend, every
configuration whose lines can hold the marker, every input, every way in
which it is cut into reads, and every order of steps.

While a prompt without echo is outstanding in an open session, the next
complete line of the caller is the marker. Then, whatever happens later,
the request comes back without an answer or has not come back yet, the
session is cancelled when it does, it does come back, and the backend gets
no line from then on. -/
theorem Fed.declines_exit {authenticator : Authenticator} {config : Config}
    {given : State} {later : List Event} {rest' : Bytes} {exchange : Exchange}
    (hmarker : Request.exitMarker.length ≤ config.maxLineLen.toNat)
    (hbuffer : LineBuffer.capacityFor config.maxLineLen.toNat
      ≤ LineBuffer.allocationLimit)
    (hfed : Fed (.ofConfig authenticator config)
      (.start (.ofConfig authenticator config)
        (.new context config.maxFailures) sink) stream history given rest)
    (hasked : (given.attempt? number).bind Attempt.exchange? = some exchange)
    (hprompt : exchange.isOutstanding = true)
    (hnone : given.session.slot.cancelled = none)
    (hline : (Bytes.completeLines stream)[(taken history).length]?
      = some Request.exitMarker)
    (hlater : Fed (.ofConfig authenticator config) given rest later state
      rest') :
    Declined (.ofConfig authenticator config) number later state rest' := by
  obtain ⟨attempt, hattempt, hexchange⟩ := Option.bind_eq_some_iff.mp hasked
  rw [State.attempt?_eq hfed.run.length_attempts] at hattempt
  have hexit := exitAfter_of_marker
    (Nat.le_trans hmarker (Nat.le_max_left _ 1)) hline
  have hdeclines :=
    hfed.declines hbuffer hattempt hexchange hprompt hexit hlater
  refine ⟨?_, fun hsilent pieces hcut => hdeclines.settles
    (hfed.trans hlater) hbuffer hexit hsilent hcut, ?_⟩
  · cases hdeclines with
    | asks hsilent _ _ _ => exact .inl hsilent
    | declined hhead hsome => exact .inr ⟨_, hhead, hsome⟩
  · exact hfed.answers_eq_nil hbuffer hattempt hexchange hprompt hexit hlater
      hnone

/-- The shortest lines that hold the marker. It comes in two reads, and the
prompt returns without an answer. -/
theorem declines_exit_shortest_line :
    ∃ history given later state,
      Fed (.ofConfig (.fixed {}) { maxLineLen := 35 })
        (.start (.ofConfig (.fixed {}) { maxLineLen := 35 })
          (.new ⟨"user", none⟩ 5) {})
        (Request.exitMarker ++ [Bytes.newline]) history given
        (Request.exitMarker ++ [Bytes.newline])
      ∧ Fed (.ofConfig (.fixed {}) { maxLineLen := 35 }) given
        (Request.exitMarker ++ [Bytes.newline]) later state []
      ∧ replies 0 later = [none]
      ∧ Declined (.ofConfig (.fixed {}) { maxLineLen := 35 }) 0 later state
        [] := by
  obtain ⟨history, given, later, state, hfed, hlater, hview⟩ :=
    @Fed.exists_of_replays (Request.exitMarker ++ [Bytes.newline]) [] _
      (.ofConfig (.fixed {}) { maxLineLen := 35 })
      (.start (.ofConfig (.fixed {}) { maxLineLen := 35 })
        (.new ⟨"user", none⟩ 5) {})
      (Request.exitMarker ++ [Bytes.newline])
      [.move .check, .move .launch, .attempt 0]
      [.attempt 0, .reader .step, .reader (.poll .ready),
        .reader (.read (.bytes (Request.exitMarker.take 10))),
        .attempt 0, .reader .step, .reader (.poll .ready),
        .reader (.read (.bytes
          (Request.exitMarker.drop 10 ++ [Bytes.newline]))),
        .reader .step, .reader .step, .attempt 0, .attempt 0, .attempt 0]
      (fun given history _ later => decide
        ((given.attempt? 0).bind Attempt.exchange?
            = some (.opening .promptEchoOff "Password:")
          ∧ given.session.slot.cancelled = none
          ∧ taken history = [] ∧ replies 0 later = [none]))
      true (by decide +kernel) (by decide +kernel) (by decide +kernel)
  obtain ⟨hasked, hnone, htaken, hreplies⟩ := of_decide_eq_true hview
  have hline : (Bytes.completeLines (Request.exitMarker
      ++ [Bytes.newline]))[(taken history).length]?
        = some Request.exitMarker := by
    rw [htaken]
    decide +kernel
  exact ⟨history, given, later, state, hfed, hlater, hreplies,
    Fed.declines_exit (by decide +kernel) (by decide +kernel) hfed hasked rfl
      hnone hline hlater⟩

/-- A valid configuration cuts the marker by one byte. What is left of it
is handed to the backend as an answer, and nobody cancels. -/
theorem exit_marker_answered :
    ({ maxLineLen := 34 } : Config).validate = .ok ()
      ∧ ∃ history given later state,
        Fed (.ofConfig (.fixed {}) { maxLineLen := 34 })
          (.start (.ofConfig (.fixed {}) { maxLineLen := 34 })
            (.new ⟨"user", none⟩ 5) {})
          (Request.exitMarker ++ [Bytes.newline]) history given
          (Request.exitMarker ++ [Bytes.newline])
        ∧ (given.attempt? 0).bind Attempt.exchange?
          = some (.opening .promptEchoOff "Password:")
        ∧ given.session.slot.cancelled = none
        ∧ (Bytes.completeLines (Request.exitMarker
            ++ [Bytes.newline]))[(taken history).length]?
          = some Request.exitMarker
        ∧ Fed (.ofConfig (.fixed {}) { maxLineLen := 34 }) given
          (Request.exitMarker ++ [Bytes.newline]) later state []
        ∧ replies 0 later = [some ⟨Request.exitMarker.take 34⟩]
        ∧ state.session.slot.cancelled = none := by
  obtain ⟨history, given, later, state, hfed, hlater, hview⟩ :=
    @Fed.exists_of_replays (Request.exitMarker ++ [Bytes.newline]) [] _
      (.ofConfig (.fixed {}) { maxLineLen := 34 })
      (.start (.ofConfig (.fixed {}) { maxLineLen := 34 })
        (.new ⟨"user", none⟩ 5) {})
      (Request.exitMarker ++ [Bytes.newline])
      [.move .check, .move .launch, .attempt 0]
      [.attempt 0, .attempt 0, .reader .step, .reader (.poll .ready),
        .reader (.read (.bytes (Request.exitMarker ++ [Bytes.newline]))),
        .reader .step, .reader .step, .attempt 0, .attempt 0, .attempt 0]
      (fun given history state later => decide
        ((given.attempt? 0).bind Attempt.exchange?
            = some (.opening .promptEchoOff "Password:")
          ∧ given.session.slot.cancelled = none
          ∧ (Bytes.completeLines (Request.exitMarker
              ++ [Bytes.newline]))[(taken history).length]?
            = some Request.exitMarker
          ∧ replies 0 later = [some ⟨Request.exitMarker.take 34⟩]
          ∧ state.session.slot.cancelled = none))
      true (by decide +kernel) (by decide +kernel) (by decide +kernel)
  obtain ⟨hasked, hnone, hline, hreplies, hopen⟩ := of_decide_eq_true hview
  exact ⟨by decide +kernel, history, given, later, state, hfed, hasked, hnone,
    hline, hlater, hreplies, hopen⟩

end Dispatch

end ScreenUnlock
