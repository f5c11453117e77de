/-
The dispatch loop passes on what the attempts say.

# The channel

Between an attempt and the screen locker lies a channel that the loop
empties in two places: while it attends to the attempt, and once more
when the attempt has its verdict. `Relays` says that what was written and
what is still in the channel are together what the attempts said, each
attempt in its turn, with a failure behind each one that was retried. An
attempt says nothing outside its turn, because all attempts but the
newest are over (`InTurn`).

# The end

A verdict is recorded only when the channel is empty, so an attempt that
came to its end has been heard to its end (`Relayed`). One that was given
up may still speak; what the loop has written of it is the beginning of
what it says.

A reader that broke down spoils this. Nobody has cancelled the session
then, an attempt that was given up may be retried, and it speaks beside
the next one.
-/
import Mathlib.Data.List.Basic
import ScreenUnlock.Proofs.Dispatch.Ceiling

namespace ScreenUnlock.Dispatch

variable {setup : Setup} {context : AuthContext} {maxFailures : UInt32}
  {sink : Sink} {history events : List Event} {state state' : State}
  {action : Action} {rounds number : Nat}

open State (Arm arm_of_apply)

-- ============================================================= the turns

/-- What the screen locker gets to see of one attempt: what it said, and
a failure if another attempt followed. -/
def turn (history : List Event) (number : Nat) : List Message :=
  emitted number history
    ++ if (steps history)[number]? = some .retry then [.failure] else []

/-- The turns of the first attempts, all of which were retried. -/
def turns (rounds : Nat) (history : List Event) : List Message :=
  (List.range rounds).flatMap fun number =>
    emitted number history ++ [.failure]

theorem turns_succ : turns (rounds + 1) history
    = turns rounds history ++ (emitted rounds history ++ [.failure]) := by
  rw [turns, List.range_succ, List.flatMap_append, List.flatMap_singleton,
    turns]

theorem turns_append
    (h : ∀ number < rounds, emitted number events = []) :
    turns rounds (history ++ events) = turns rounds history := by
  refine List.flatMap_congr fun number hmem => ?_
  rw [emitted_append, h number (List.mem_range.mp hmem), List.append_nil]

theorem flatMap_turn {later : List Step}
    (h : steps history = List.replicate rounds .retry ++ later) :
    (List.range rounds).flatMap (turn history) = turns rounds history := by
  refine List.flatMap_congr fun number hmem => ?_
  have hlt := List.mem_range.mp hmem
  rw [turn, h, List.getElem?_append_left (by simpa using hlt),
    List.getElem?_replicate_of_lt hlt, if_pos rfl]

/-- A step that leaves a reader whole has found it whole. -/
theorem State.Arm.reader_ne_crashed
    (harm : Arm setup state action state' events)
    (h : state'.reader.phase ≠ .crashed) : state.reader.phase ≠ .crashed := by
  cases harm with
  | reader harm =>
      intro hphase
      have := harm.not_isOver
      rw [Reader.isOver, hphase] at this
      cases this
  | halt _ _ hwrote | forward _ _ hwrote | drain _ _ hwrote
  | retry _ _ _ hwrote | conclude _ _ _ hwrote => cases hwrote <;> exact h
  | _ => exact h

-- ========================================================== the invariant

/-- While the session goes on: written and in the channel is what the
attempts said, each in its turn. -/
structure Relays (rounds : Nat) (history : List Event) (state : State) :
    Prop where
  started : state.started = rounds + if state.phase.isEngaged then 1 else 0
  steps : steps history = List.replicate rounds .retry
  clear : state.phase.isEngaged = false → state.channel = []
  written : sent history ++ state.channel = turns rounds history
    ++ if state.phase.isEngaged then emitted rounds history else []

/-- Once the session has its outcome: `part` was written of the attempt
that decided it, if one did. -/
inductive Relayed (outcome : Outcome) (history : List Event)
    (state : State) : Prop where
  -- The session was cancelled before another attempt.
  | halted {rounds : Nat} {reason : CancelReason} :
      outcome = .cancelled reason → .abandoned ∉ history →
      state.started = rounds →
      steps history = List.replicate rounds .retry →
      sent history = turns rounds history ++ [outcome.message] →
      Relayed outcome history state
  -- An attempt decided it.
  | concluded {rounds : Nat} {part : List Message} :
      state.started = rounds + 1 →
      steps history = List.replicate rounds .retry ++ [.finish outcome] →
      part <+: emitted rounds history →
      (.abandoned ∉ history → part = emitted rounds history) →
      sent history = turns rounds history ++ (part ++ [outcome.message]) →
      Relayed outcome history state

/-- What the loop has passed on, wherever it stands. -/
structure Forwards (history : List Event) (state : State) : Prop where
  goesOn : state.listens = true → ∃ rounds, Relays rounds history state
  isOver : ∀ outcome, state.phase.ending? = some (.ok outcome) →
    Relayed outcome history state

/-- A loop that still listens has decided on no ending. -/
theorem ending?_of_listens (h : state.listens = true) :
    state.phase.ending? = none := by
  unfold State.listens at h
  split at h
  case h_1 hphase | h_2 hphase | h_3 hphase | h_4 hphase =>
    rw [hphase]
    rfl
  case h_5 => cases h

theorem Forwards.of_relays (h : Relays rounds history state)
    (hlistens : state.listens = true) : Forwards history state where
  goesOn _ := ⟨rounds, h⟩
  isOver outcome hending := by
    rw [ending?_of_listens hlistens] at hending
    cases hending

theorem Forwards.of_relayed {outcome : Outcome}
    (h : Relayed outcome history state)
    (hphase : state.phase.ending? = some (.ok outcome)) :
    Forwards history state where
  goesOn hlistens := by
    rw [ending?_of_listens hlistens] at hphase
    cases hphase
  isOver outcome' hending := by
    rw [hphase] at hending
    cases hending
    exact h

theorem Forwards.of_error {cause : IoError}
    (hphase : state.phase.ending? = some (.error cause)) :
    Forwards history state where
  goesOn hlistens := by
    rw [ending?_of_listens hlistens] at hphase
    cases hphase
  isOver outcome hending := by
    rw [hphase] at hending
    cases hending

theorem Relays.start {session : Session} :
    Relays 0 [] (.start setup session sink) where
  started := rfl
  steps := rfl
  clear _ := rfl
  written := rfl

/-- A step without a word keeps what was passed on. -/
theorem Relays.same (h : Relays rounds history state)
    (hstarted : state'.started = state.started)
    (hengaged : state'.phase.isEngaged = state.phase.isEngaged)
    (hchannel : state'.channel = state.channel)
    (hsent : sent events = []) (hsteps : Dispatch.steps events = [])
    (hemitted : ∀ number, emitted number events = []) :
    Relays rounds (history ++ events) state' where
  started := by rw [hstarted, hengaged, h.started]
  steps := by rw [steps_append, hsteps, List.append_nil, h.steps]
  clear := by rw [hengaged, hchannel]; exact h.clear
  written := by
    rw [sent_append, hsent, List.append_nil, hchannel, h.written,
      turns_append fun number _ => hemitted number, hengaged, emitted_append,
      hemitted, List.append_nil]

theorem Relayed.same {outcome : Outcome} (h : Relayed outcome history state)
    (hstarted : state'.started = state.started) (hrests : LoopRests events)
    (hemitted : ∀ number, emitted number events = []) :
    Relayed outcome (history ++ events) state' := by
  have habandoned : .abandoned ∉ history ++ events ↔ .abandoned ∉ history := by
    rw [List.mem_append, or_iff_left hrests.abandoned]
  have hsent : sent (history ++ events) = sent history := by
    rw [sent_append, hrests.sent, List.append_nil]
  have hsteps : steps (history ++ events) = steps history := by
    rw [steps_append, hrests.steps, List.append_nil]
  have hturns : ∀ rounds, turns rounds (history ++ events)
      = turns rounds history := fun _ => turns_append fun _ _ => hemitted _
  have hsaid : ∀ number, emitted number (history ++ events)
      = emitted number history := fun number => by
    rw [emitted_append, hemitted, List.append_nil]
  cases h with
  | halted hcancelled hnot hcount hdone hwritten =>
      exact .halted hcancelled (habandoned.mpr hnot) (hstarted.trans hcount)
        (hsteps.trans hdone) (by rw [hsent, hturns, hwritten])
  | @concluded rounds part hcount hdone hprefix hwhole hwritten =>
      refine @Relayed.concluded _ _ _ rounds part (hstarted.trans hcount)
        (hsteps.trans hdone) ?_ (fun hnot => ?_) ?_
      · rw [hsaid]
        exact hprefix
      · rw [hsaid]
        exact hwhole (habandoned.mp hnot)
      · rw [hsent, hturns, hwritten]

theorem Forwards.same (h : Forwards history state)
    (hstarted : state'.started = state.started)
    (hlistens : state'.listens = true → state.listens = true)
    (hphase : state'.phase.ending? = state.phase.ending?)
    (hengaged : state'.phase.isEngaged = state.phase.isEngaged)
    (hchannel : state'.channel = state.channel) (hrests : LoopRests events)
    (hemitted : ∀ number, emitted number events = []) :
    Forwards (history ++ events) state' where
  goesOn := by
    intro hlistens'
    obtain ⟨rounds, hrelays⟩ := h.goesOn (hlistens hlistens')
    exact ⟨rounds, hrelays.same hstarted hengaged hchannel hrests.sent
      hrests.steps hemitted⟩
  isOver := by
    intro outcome hending
    exact (h.isOver outcome (hphase ▸ hending)).same hstarted hrests hemitted

-- ============================================================= the steps

/-- An attempt says something: it is the newest, and it is its turn. -/
theorem Relays.attempt (h : Relays rounds history state)
    (hengaged : state.phase.isEngaged = true) (hlistens : state.listens = true)
    (hnewest : number + 1 = state.started) (next : Attempt.Next) :
    Relays rounds (history ++ (next.effect.map (Event.attempt number)).toList)
      (state.withAttempt number next) := by
  have hrests := LoopRests.of_attempt number next.effect
  obtain rfl : number = rounds := by
    have := h.started
    rw [hengaged, if_pos rfl] at this
    omega
  have hwritten := h.written
  rw [hengaged, if_pos rfl] at hwritten
  refine ⟨h.started, ?_, fun hnot => ?_, ?_⟩
  · rw [steps_append, hrests.steps, List.append_nil, h.steps]
  · have hnot' : state.phase.isEngaged = false := hnot
    rw [hengaged] at hnot'
    cases hnot'
  · show sent (history ++ _) ++ (if state.listens then state.channel
        ++ (next.effect.bind Attempt.Effect.said?).toList else state.channel)
      = turns number (history ++ _) ++ if state.phase.isEngaged then _ else _
    rw [hlistens, if_pos rfl, hengaged, if_pos rfl, sent_append, hrests.sent,
      List.append_nil, ← List.append_assoc, hwritten, emitted_append,
      emitted_attempt, List.append_assoc,
      turns_append fun other hlt => (Idle.of_ne (by omega) _).emitted]

theorem Relayed.attempt {outcome : Outcome}
    (h : Relayed outcome history state)
    (habandoned : .abandoned ∈ history) (hnewest : number + 1 = state.started)
    (next : Attempt.Next) :
    Relayed outcome
      (history ++ (next.effect.map (Event.attempt number)).toList)
      (state.withAttempt number next) := by
  have hrests := LoopRests.of_attempt number next.effect
  cases h with
  | halted _ hnot _ _ _ => exact absurd habandoned hnot
  | @concluded rounds part hcount hdone hprefix _ hwritten =>
      obtain rfl : number = rounds := by omega
      refine .concluded hcount ?_ (List.IsPrefix.trans hprefix ?_)
        (fun hnot => ?_) ?_
      · rw [steps_append, hrests.steps, List.append_nil, hdone]
      · rw [emitted_append]
        exact List.prefix_append _ _
      · exact absurd (List.mem_append_left _ habandoned) hnot
      · rw [sent_append, hrests.sent, List.append_nil, hwritten,
          turns_append fun other hlt => (Idle.of_ne (by omega) _).emitted]

theorem Forwards.attempt (h : Forwards history state)
    (hturn : InTurn history state) (hreader : state.reader.phase ≠ .crashed)
    (hlen : state.attempts.length = state.started) {attempt : Attempt}
    {next : Attempt.Next} (hattempt : state.attempt? number = some attempt)
    (harm : Attempt.Arm state.clock state.session.slot attempt next) :
    Forwards (history ++ (next.effect.map (Event.attempt number)).toList)
      (state.withAttempt number next) := by
  have hnewest := hturn.newest (.inr hreader) hlen hattempt harm
  have hmem : attempt ∈ state.inOrder :=
    List.mem_of_getElem? (State.attempt?_eq hlen number ▸ hattempt)
  refine ⟨fun hlistens => ?_, fun outcome hending => ?_⟩
  · have hlistens' : state.listens = true := hlistens
    obtain ⟨rounds, hrelays⟩ := h.goesOn hlistens'
    cases hengaged : state.phase.isEngaged with
    | true => exact ⟨rounds, hrelays.attempt hengaged hlistens' hnewest next⟩
    | false =>
        -- between two attempts nobody goes on
        have hover := hturn.all_over (.inr hreader)
          (by cases hphase : state.phase <;>
            simp_all [Phase.isEngaged, Phase.isQuiet, State.listens])
          (by cases hphase : state.phase <;>
            simp_all [Phase.isEngaged, Phase.isPast, State.listens])
          attempt hmem
        rw [harm.not_isOver] at hover
        cases hover
  · have hending' : state.phase.ending? = some (.ok outcome) := hending
    by_cases habandoned : .abandoned ∈ history
    · exact (h.isOver outcome hending').attempt habandoned hnewest next
    · have hquiet : state.phase.isQuiet = true := by
        cases hphase : state.phase <;> simp_all [Phase.ending?, Phase.isQuiet]
        all_goals rfl
      have hover := hturn.quiet habandoned hquiet attempt hmem
      rw [harm.not_isOver] at hover
      cases hover

/-- The next message in the channel is written. -/
theorem Relays.pass (h : Relays rounds history state)
    (hengaged : state.phase.isEngaged = true) {message : Message}
    {channel : List Message} (hchannel : state.channel = message :: channel)
    (sink : Sink) :
    Relays rounds (history ++ [.sent message])
      { state with channel, sink } where
  started := h.started
  steps := (steps_append _ _).trans ((List.append_nil _).trans h.steps)
  clear hnot := by
    have hnot' : state.phase.isEngaged = false := hnot
    rw [hengaged] at hnot'
    cases hnot'
  written := by
    have hwritten := h.written
    rw [hchannel, List.append_cons] at hwritten
    rw [sent_append, turns_append fun _ _ => rfl, emitted_append,
      show emitted rounds [.sent message] = [] from rfl, List.append_nil]
    exact hwritten

theorem Relays.launch (h : Relays rounds history state)
    (hphase : state.phase = .launching)
    (hsilent : emitted rounds history = []) (attempt : Attempt) :
    Relays rounds (history ++ [.started state.started])
      { state with
        attempts := attempt :: state.attempts
        started := state.started + 1
        phase := .attending } where
  started := by
    have := h.started
    rw [hphase] at this
    exact congrArg (· + 1) this
  steps := (steps_append _ _).trans ((List.append_nil _).trans h.steps)
  clear hnot := by cases hnot
  written := by
    have hwritten := h.written
    rw [hphase] at hwritten
    rw [sent_append, turns_append fun _ _ => rfl, emitted_append, hsilent]
    exact (congrArg (· ++ state.channel) (List.append_nil _)).trans hwritten

theorem Relays.retry (h : Relays rounds history state) {verdict : Verdict}
    (hphase : state.phase = .settling verdict) (hclear : state.channel = [])
    (session : Session) (sink : Sink) :
    Relays (rounds + 1)
      (history ++ [.recorded verdict .retry, .sent .failure])
      { state with session, sink, phase := .deciding } where
  started := by
    have := h.started
    rw [hphase] at this
    exact this
  steps := by
    rw [steps_append, h.steps, List.replicate_succ']
    rfl
  clear _ := hclear
  written := by
    have hwritten := h.written
    rw [hclear, hphase, List.append_nil] at hwritten
    show sent (history ++ _) ++ state.channel = _
    rw [hclear, List.append_nil, sent_append, hwritten,
      turns_append fun _ _ => rfl, turns_succ, ← List.append_assoc]
    exact (List.append_nil _).symm

theorem Relays.halt (h : Relays rounds history state)
    (hphase : state.phase = .deciding) (habandoned : .abandoned ∉ history)
    {outcome : Outcome} {reason : CancelReason}
    (hreason : outcome = .cancelled reason) (session : Session)
    (sink : Sink) :
    Relayed outcome (history ++ [.sent outcome.message])
      { state with session, sink, phase := .stopping (.ok outcome) } := by
  have hstarted := h.started
  have hwritten := h.written
  rw [hphase] at hstarted hwritten
  rw [h.clear (by rw [hphase]; rfl), List.append_nil] at hwritten
  refine .halted hreason (by simpa using habandoned) hstarted ?_ ?_
  · exact (steps_append _ _).trans ((List.append_nil _).trans h.steps)
  · rw [sent_append, hwritten, turns_append fun _ _ => rfl]
    exact congrArg (· ++ _) (List.append_nil _)

theorem Relays.conclude (h : Relays rounds history state)
    {verdict : Verdict} (hphase : state.phase = .settling verdict)
    (hclear : state.channel = []) (outcome : Outcome) (session : Session)
    (sink : Sink) :
    Relayed outcome
      (history ++ [.recorded verdict (.finish outcome),
        .sent outcome.message])
      { state with session, sink, phase := .stopping (.ok outcome) } := by
  have hstarted := h.started
  have hwritten := h.written
  rw [hphase] at hstarted hwritten
  rw [hclear, List.append_nil] at hwritten
  have hsaid : emitted rounds (history ++ [.recorded verdict (.finish outcome),
      .sent outcome.message]) = emitted rounds history := by
    rw [emitted_append]
    exact List.append_nil _
  refine @Relayed.concluded _ _ _ rounds (emitted rounds history) hstarted
    ?_ ?_ ?_ ?_
  · rw [steps_append, h.steps]
    rfl
  · exact hsaid.symm ▸ List.prefix_rfl
  · rw [hsaid]
    exact fun _ => rfl
  · rw [sent_append, hwritten, turns_append fun _ _ => rfl,
      List.append_assoc]
    rfl

theorem Forwards.step (h : Forwards history state)
    (hturn : InTurn history state)
    (hlen : state.attempts.length = state.started)
    (hunstarted : emitted state.started history = [])
    (hreader : state.reader.phase ≠ .crashed)
    (hopen : state.phase.ending? = none → state.session.outcome = none)
    (harm : Arm setup state action state' events) :
    Forwards (history ++ events) state' := by
  have hmove := harm
  cases harm with
  | @reader _ next _ =>
      exact h.same rfl id rfl rfl rfl (.of_reader next.effect)
        fun _ => (Idle.of_reader _).emitted
  | attempt hattempt harm => exact h.attempt hturn hreader hlen hattempt harm
  | elapse => exact h.same rfl id rfl rfl rfl .nil fun _ => rfl
  | @halt outcome session _ _ hphase hobserve hwrote =>
      obtain ⟨rounds, hrelays⟩ := h.goesOn (by rw [State.listens, hphase])
      have hnot : .abandoned ∉ history := by
        intro habandoned
        have := hturn.givenUp habandoned hreader
        rw [hphase] at this
        cases this
      obtain ⟨reason, hreason, -⟩ :=
        Session.observe_open (hopen (by rw [hphase]; rfl)) hobserve
      cases hwrote with
      | sent _ =>
          exact .of_relayed (hrelays.halt hphase hnot hreason session _) rfl
      | unsent _ => exact .of_error rfl
  | proceed hphase _ =>
      exact h.same rfl (fun _ => by rw [State.listens, hphase])
        (by rw [hphase]; rfl) (by rw [hphase]; rfl) rfl .nil fun _ => rfl
  | launch hphase =>
      obtain ⟨rounds, hrelays⟩ := h.goesOn (by rw [State.listens, hphase])
      have hstarted := hrelays.started
      rw [hphase] at hstarted
      exact .of_relays
        (hrelays.launch hphase (by rw [← hunstarted, hstarted]; rfl) _) rfl
  | forward hphase hchannel hwrote | drain hphase hchannel hwrote =>
      obtain ⟨rounds, hrelays⟩ := h.goesOn (by rw [State.listens, hphase])
      cases hwrote with
      | sent _ =>
          have hpass := hrelays.pass (by rw [hphase]; rfl) hchannel
          rw [hphase] at hpass
          exact .of_relays (hpass _) rfl
      | unsent _ => exact .of_error rfl
  | join hphase _ _ =>
      exact h.same rfl (fun _ => by rw [State.listens, hphase])
        (by rw [hphase]; rfl) (by rw [hphase]; rfl) rfl .nil fun _ => rfl
  | notice _ _ _ _ => exact h.same rfl id rfl rfl rfl .nil fun _ => rfl
  | collapse hphase _ _ _ =>
      exact h.same rfl (fun hlistens => by cases hlistens)
        (by rw [hphase]; rfl) (by rw [hphase]; rfl) rfl .nil fun _ => rfl
  | abandon hphase _ _ =>
      obtain ⟨rounds, hrelays⟩ := h.goesOn (by rw [State.listens, hphase])
      exact .of_relays (hrelays.same rfl (by rw [hphase]; rfl) rfl rfl rfl
        fun _ => rfl) rfl
  | retry hphase hclear _ hwrote =>
      obtain ⟨rounds, hrelays⟩ := h.goesOn (by rw [State.listens, hphase])
      cases hwrote with
      | sent _ => exact .of_relays (hrelays.retry hphase hclear _ _) rfl
      | unsent _ => exact .of_error rfl
  | conclude hphase hclear _ hwrote =>
      obtain ⟨rounds, hrelays⟩ := h.goesOn (by rw [State.listens, hphase])
      cases hwrote with
      | sent _ => exact .of_relayed (hrelays.conclude hphase hclear _ _ _) rfl
      | unsent _ => exact .of_error rfl
  | stop hphase =>
      exact h.same rfl (fun hlistens => by cases hlistens)
        (by rw [hphase]; rfl) (by rw [hphase]; rfl) rfl (.of_cancel _ _)
        fun number => ((HandsNothing.of_move hmove).idle number).emitted
  | reap hphase _ | giveUp hphase _ =>
      exact h.same rfl (fun hlistens => by cases hlistens)
        (by rw [hphase]; rfl) (by rw [hphase]; rfl) rfl .nil fun _ => rfl
  | sweep hphase =>
      exact h.same rfl (fun hlistens => by cases hlistens)
        (by rw [hphase]; rfl) (by rw [hphase]; rfl) rfl (.of_sweep _)
        fun number => ((HandsNothing.of_move hmove).idle number).emitted

/-- In every run the loop passes on what the attempts say, as long as the
reader does not break down. -/
theorem Run.forwards
    (hrun : Run setup (.start setup (.new context maxFailures) sink)
      history state) (hreader : state.reader.phase ≠ .crashed) :
    Forwards history state := by
  induction hrun with
  | init => exact .of_relays .start rfl
  | step action hrun hstep ih =>
      have harm := arm_of_apply hstep
      have hreader' := harm.reader_ne_crashed hreader
      exact (ih hreader').step hrun.inTurn hrun.length_attempts
        (hrun.idle_unstarted (Nat.le_refl _)).emitted hreader'
        hrun.outcome_eq_none harm

/-- The loop forwards faithfully, for every backend, every input and every
order of steps in which the reader does not break down. What a run that
returns with an outcome has written is this, and nothing else: for each
attempt, in the order in which they were started, all messages that it
said, in the order in which it said them, and a failure if it was
retried; then the terminal line. Only of an attempt that was given up,
which is the last one, a beginning of its messages may stand for all. -/
theorem Run.sent_eq_turns {outcome : Outcome}
    (hrun : Run setup (.start setup (.new context maxFailures) sink)
      history state) (hreturned : state.phase = .returned (.ok outcome))
    (hreader : state.reader.phase ≠ .crashed) :
    (.abandoned ∉ history → sent history
        = (calls history).flatMap (turn history) ++ [outcome.message])
      ∧ (.abandoned ∈ history → ∃ earlier last part,
        calls history = earlier ++ [last] ∧ part <+: emitted last history
        ∧ sent history = earlier.flatMap (turn history) ++ part
          ++ [outcome.message]) := by
  rw [hrun.calls_eq]
  cases (hrun.forwards hreader).isOver outcome (by rw [hreturned]; rfl) with
  | @halted rounds _ _ hnot hcount hdone hwritten =>
      refine ⟨fun _ => ?_, fun habandoned => absurd habandoned hnot⟩
      rw [hwritten, hcount, flatMap_turn (hdone.trans (List.append_nil _).symm)]
  | @concluded rounds part hcount hdone hprefix hwhole hwritten =>
      have hturns := flatMap_turn hdone
      have hlast : (steps history)[rounds]? = some (.finish outcome) := by
        rw [hdone, List.getElem?_append_right (by simp)]
        simp
      refine ⟨fun hnot => ?_, fun _ => ⟨List.range rounds, rounds, part, ?_,
        hprefix, ?_⟩⟩
      · rw [hwritten, hcount, List.range_succ, List.flatMap_append, hturns,
          List.flatMap_singleton, turn, hlast, if_neg (by simp),
          List.append_nil, hwhole hnot, List.append_assoc]
      · rw [hcount, List.range_succ]
      · rw [hwritten, hturns, List.append_assoc]

/-- A backend that has something to say before it rejects. -/
def Authenticator.greeting : Authenticator :=
  { probe := .ok ()
    verify := fun _ _ =>
      .converse .textInfo "hello" fun _ => .finish (some .rejected) }

/-- Two attempts, one heard while it was under way and one afterwards:
both are written whole, with the failure between them. -/
theorem sent_eq_turns_greeting :
    ∃ history state,
      Run ⟨Authenticator.greeting, 1, 0⟩ (.start ⟨Authenticator.greeting, 1, 0⟩
        (.new ⟨"user", none⟩ 2) {}) history state
      ∧ state.phase = .returned (.ok .exhausted)
      ∧ state.reader.phase ≠ .crashed
      ∧ sent history = [.info "hello", .failure, .info "hello", .cancelled]
      ∧ sent history
        = (calls history).flatMap (turn history) ++ [.cancelled] := by
  obtain ⟨history, state, hrun, hview⟩ := Run.exists_of_replay
    ⟨Authenticator.greeting, 1, 0⟩
    (.start ⟨Authenticator.greeting, 1, 0⟩
      (.new ⟨"user", none⟩ 2) {})
    [.move .check, .move .launch, .attempt 0, .attempt 0,
      .move .forward, .attempt 0, .attempt 0, .move .join, .move .settle,
      .move .check, .move .launch, .attempt 1, .attempt 1, .attempt 1,
      .attempt 1, .move .join, .move .drain, .move .settle, .move .stop,
      .move .giveUp, .move .sweep]
    (fun state history => (state.phase.returned?, state.reader.phase,
      decide (.abandoned ∈ history), sent history))
    (some (.ok .exhausted), .looking, false,
      [.info "hello", .failure, .info "hello", .cancelled]) (by decide +kernel)
  obtain ⟨hending, hreader, habandoned, hsent⟩ :
      state.phase.returned? = _ ∧ state.reader.phase = _ ∧ _ = false
        ∧ sent history = _ := by
    simpa only [Prod.mk.injEq] using hview
  have hreturned := Phase.eq_of_returned? hending
  have hreader' : state.reader.phase ≠ .crashed := by
    rw [hreader]
    decide
  exact ⟨history, state, hrun, hreturned, hreader', hsent,
    (hrun.sent_eq_turns hreturned hreader').1
      (of_decide_eq_false habandoned)⟩

end ScreenUnlock.Dispatch
