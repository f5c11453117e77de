/-
Readiness and the busy state on the wire.

The screen locker sees a prompt without an answer as a readiness that is
not followed by the busy line. `Brackets` ties this to what becomes of the
prompt: as soon as anything else follows a readiness, in what was written
or in the channel, the session has lapsed; and a readiness that nothing
follows yet belongs to an attempt that is still prompting. A lapsed
session is cancelled, so no rejection is retried in it and no failure
reported.

When the loop has ended, `Closing` keeps what was found. One case is left
open by then: an attempt that was given up in the middle of a prompt. The
terminal line follows its readiness, and whether it gets its answer is
decided later. It is one answer at most, since in a cancelled session only
what was taken before is handed over (`State.Arm.held_of_cancelled`).
-/
import ScreenUnlock.Proofs.Dispatch.Lapse
import ScreenUnlock.Proofs.Dispatch.Writing

namespace ScreenUnlock.Dispatch

variable {setup : Setup} {context : AuthContext} {maxFailures : UInt32}
  {sink : Sink} {history events : List Event} {state state' : State}
  {action : Action} {number : Nat}

open State (Arm Wrote arm_of_apply)

-- ============================================================= the lists

section Lists

variable {words : List Message} {message : Message}

/-- Some readiness in the list is followed by something other than the
busy line. -/
def Lapses (words : List Message) : Prop :=
  ∃ before message after, words = before ++ .busy false :: message :: after
    ∧ message ≠ .busy true

/-- Behind the first such readiness the busy state is not raised, and no
failure is reported. -/
def Mute (words : List Message) : Prop :=
  ∀ before message after, words = before ++ .busy false :: message :: after →
    message ≠ .busy true →
    .busy true ∉ message :: after ∧ .failure ∉ message :: after

/-- One more message lets a prompt lapse only right behind its
readiness. -/
theorem Lapses.snoc_inv (h : Lapses (words ++ [message])) :
    Lapses words
      ∨ (words.getLast? = some (.busy false) ∧ message ≠ .busy true) := by
  obtain ⟨before, other, after, heq, hne⟩ := h
  induction after using List.reverseRecOn with
  | nil =>
      rw [List.append_cons before] at heq
      obtain ⟨rfl, hlast⟩ := List.append_inj' heq rfl
      cases hlast
      exact .inr ⟨List.getLast?_concat .., hne⟩
  | append_singleton after last _ =>
      rw [← List.cons_append, ← List.cons_append, ← List.append_assoc] at heq
      obtain ⟨hwords, -⟩ := List.append_inj' heq rfl
      exact .inl ⟨before, other, after, hwords, hne⟩

theorem Mute.snoc (h : Mute words) (hreport : message ≠ .failure)
    (hlapsed : Lapses words → message ≠ .busy true) :
    Mute (words ++ [message]) := by
  intro before other after heq hne
  induction after using List.reverseRecOn with
  | nil =>
      rw [List.append_cons before] at heq
      obtain ⟨-, hlast⟩ := List.append_inj' heq rfl
      cases hlast
      simp only [List.mem_singleton]
      exact ⟨Ne.symm hne, Ne.symm hreport⟩
  | append_singleton after last _ =>
      rw [← List.cons_append, ← List.cons_append, ← List.append_assoc] at heq
      obtain ⟨hwords, hlast⟩ := List.append_inj' heq rfl
      cases hlast
      obtain ⟨hbusy, hfailure⟩ := h before other after hwords hne
      rw [← List.cons_append, List.mem_append, List.mem_append,
        List.mem_singleton, List.mem_singleton]
      exact ⟨not_or.mpr ⟨hbusy, Ne.symm
          (hlapsed ⟨before, other, after, hwords, hne⟩)⟩,
        not_or.mpr ⟨hfailure, Ne.symm hreport⟩⟩

/-- A list in which every readiness is followed by the busy line. -/
theorem Mute.of_not_lapses (h : ¬ Lapses words) : Mute words :=
  fun before message after heq hne =>
    absurd ⟨before, message, after, heq, hne⟩ h

end Lists

-- ======================================================= while it goes on

/-- What was written and what is still in the channel, while the loop
listens. -/
structure Brackets (history : List Event) (state : State) : Prop where
  mute : Mute (sent history ++ state.channel)
  lapsed : Lapses (sent history ++ state.channel) → Lapsed state
  -- Nothing has followed the last readiness so far.
  ready : (sent history ++ state.channel).getLast? = some (.busy false) →
    Lapsed state ∨ ∃ attempt ∈ state.inOrder, attempt.isPrompting = true
  silent : ∀ before after, history = before ++ .sent (.busy false) :: after →
    (sent after ++ state.channel).head? ≠ some (.busy true) →
    answers after = []

theorem Brackets.start {session : Session} :
    Brackets [] (.start setup session sink) where
  mute := fun before _ _ heq => by cases before <;> cases heq
  lapsed := by
    rintro ⟨before, _, _, heq, -⟩
    cases before <;> cases heq
  ready h := by cases h
  silent before _ heq := by cases before <;> cases heq

/-- A step in which nothing is said, written or answered. -/
theorem Brackets.same (h : Brackets history state)
    (hlapsed : Lapsed state → Lapsed state')
    (horder : ∀ attempt ∈ state.inOrder, attempt ∈ state'.inOrder)
    (hchannel : state'.channel = state.channel)
    (hquiet : Unwritten events) (hanswers : answers events = []) :
    Brackets (history ++ events) state' := by
  have hsent : sent (history ++ events) = sent history := by
    rw [sent_append, hquiet.sent, List.append_nil]
  refine ⟨?_, ?_, ?_, ?_⟩
  · rw [hsent, hchannel]
    exact h.mute
  · rw [hsent, hchannel]
    exact hlapsed ∘ h.lapsed
  · rw [hsent, hchannel]
    intro hlast
    rcases h.ready hlast with hbefore | ⟨attempt, hmem, hprompting⟩
    · exact .inl (hlapsed hbefore)
    · exact .inr ⟨attempt, horder attempt hmem, hprompting⟩
  · intro before after heq hhead
    obtain ⟨later, rfl, hhistory⟩ := split_append heq hquiet.not_mem
    rw [sent_append, hquiet.sent, List.append_nil, hchannel] at hhead
    rw [answers_append, hanswers, List.append_nil]
    exact h.silent before later hhistory hhead

section Saying

variable {attempt : Attempt} {next : Attempt.Next}

/-- Whoever is prompting is the attempt that goes on. -/
theorem Brackets.prompting_of_last (h : Brackets history state)
    (hturn : InTurn history state) (halone : Alone history state)
    (hlen : state.attempts.length = state.started)
    (hattempt : state.attempt? number = some attempt)
    (harm : Attempt.Arm state.clock state.session.slot attempt next)
    (hlast : (sent history ++ state.channel).getLast? = some (.busy false)) :
    Lapsed state ∨ attempt.isPrompting = true := by
  refine (h.ready hlast).imp_right ?_
  rintro ⟨other, hmem, hprompting⟩
  obtain ⟨i, hi⟩ := List.getElem?_of_mem hmem
  have hover : other.isOver = false := by
    by_contra hover
    rw [Attempt.not_isPrompting_of_isOver (Bool.not_eq_false _ ▸ hover)]
      at hprompting
    cases hprompting
  obtain ⟨-, rfl⟩ := hturn.eq_of_not_isOver halone hlen hattempt harm hi hover
  exact hprompting

theorem Brackets.mute_say (h : Brackets history state)
    (hattempt : state.attempt? number = some attempt)
    (harm : Attempt.Arm state.clock state.session.slot attempt next) :
    Mute (sent history ++ state.channel
      ++ (next.effect.bind Attempt.Effect.said?).toList) := by
  cases hsaid : next.effect.bind Attempt.Effect.said? with
  | none =>
      rw [Option.toList_none, List.append_nil]
      exact h.mute
  | some message =>
      refine h.mute.snoc ?_ fun hlapses => ?_
      · rintro rfl
        cases not_isReport_of_said harm hsaid
      · rintro rfl
        exact ((h.lapsed hlapses).attempt hattempt harm).2.2 hsaid

theorem Brackets.lapsed_say (h : Brackets history state)
    (hready : (sent history ++ state.channel).getLast? = some (.busy false) →
      Lapsed state ∨ attempt.isPrompting = true)
    (harm : Attempt.Arm state.clock state.session.slot attempt next)
    (hlapses : Lapses (sent history ++ state.channel
      ++ (next.effect.bind Attempt.Effect.said?).toList)) : Lapsed state := by
  cases hsaid : next.effect.bind Attempt.Effect.said? with
  | none =>
      rw [hsaid, Option.toList_none, List.append_nil] at hlapses
      exact h.lapsed hlapses
  | some message =>
      rw [hsaid] at hlapses
      rcases hlapses.snoc_inv with hbefore | ⟨hlast, hne⟩
      · exact h.lapsed hbefore
      · refine (hready hlast).resolve_right fun hprompting => ?_
        exact hne (harm.said_of_isPrompting hprompting hsaid)

/-- A readiness that is said opens a prompt, and one that was said belongs
to a prompt that goes on or lapses. -/
theorem Brackets.ready_say
    (hready : (sent history ++ state.channel).getLast? = some (.busy false) →
      Lapsed state ∨ attempt.isPrompting = true)
    (hturn : InTurn history state) (halone : Alone history state)
    (hlen : state.attempts.length = state.started)
    (hattempt : state.attempt? number = some attempt)
    (harm : Attempt.Arm state.clock state.session.slot attempt next)
    (hlast : (sent history ++ state.channel
      ++ (next.effect.bind Attempt.Effect.said?).toList).getLast?
        = some (.busy false)) :
    Lapsed (state.withAttempt number next)
      ∨ next.attempt.isPrompting = true := by
  cases hsaid : next.effect.bind Attempt.Effect.said? with
  | some message =>
      rw [hsaid, Option.toList_some, List.getLast?_concat] at hlast
      cases hlast
      exact .inr (harm.isPrompting_of_said hsaid)
  | none =>
      rw [hsaid, Option.toList_none, List.append_nil] at hlast
      rcases hready hlast with hlapsed | hprompting
      · exact .inl (hlapsed.attempt hattempt harm).1
      · rcases (harm.of_isPrompting hprompting).2 with hgoes
          | ⟨reply, hreply, hcancelled, hnone⟩
        · exact .inr hgoes
        · obtain rfl := hnone hsaid
          exact .inl (.of_next hturn halone hlen hattempt harm
            (hcancelled rfl) (Attempt.held_of_reply? hreply))

/-- Behind a readiness without the busy line nobody gets an answer. -/
theorem Brackets.silent_say (h : Brackets history state)
    (hready : (sent history ++ state.channel).getLast? = some (.busy false) →
      Lapsed state ∨ attempt.isPrompting = true)
    (hattempt : state.attempt? number = some attempt)
    (harm : Attempt.Arm state.clock state.session.slot attempt next)
    {before after : List Event}
    (heq : history = before ++ .sent (.busy false) :: after)
    (hhead : (sent after ++ state.channel).head? ≠ some (.busy true)) :
    answers (next.effect.map (Event.attempt number)).toList = [] := by
  refine answers_attempt_eq_nil fun line heffect => ?_
  have hwords : sent history ++ state.channel
      = sent before ++ .busy false :: (sent after ++ state.channel) := by
    rw [heq, sent_append, List.append_assoc]
    rfl
  have hnot : ¬ Lapsed state := by
    intro hlapsed
    have := (hlapsed.attempt hattempt harm).2.1
    rw [heffect] at this
    cases this
  cases hrest : sent after ++ state.channel with
  | nil =>
      -- an answer could only be one to this prompt
      rw [hrest] at hwords
      rcases hready (by rw [hwords, List.getLast?_concat])
        with hlapsed | hprompting
      · exact hnot hlapsed
      · exact (harm.of_isPrompting hprompting).1 _ heffect
  | cons message rest =>
      rw [hrest] at hwords hhead
      exact hnot (h.lapsed ⟨_, message, rest, hwords,
        fun heq => hhead (by rw [heq]; rfl)⟩)

end Saying

/-- An attempt goes on. -/
theorem Brackets.attempt (h : Brackets history state)
    (hlistens : state.listens = true) (hturn : InTurn history state)
    (halone : Alone history state)
    (hlen : state.attempts.length = state.started) {attempt : Attempt}
    {next : Attempt.Next} (hattempt : state.attempt? number = some attempt)
    (harm : Attempt.Arm state.clock state.session.slot attempt next) :
    Brackets (history ++ (next.effect.map (Event.attempt number)).toList)
      (state.withAttempt number next) := by
  have hquiet := (LoopRests.of_attempt number next.effect).unwritten
  have hchannel : (state.withAttempt number next).channel = state.channel
      ++ (next.effect.bind Attempt.Effect.said?).toList :=
    if_pos hlistens
  have hwords : sent (history ++ (next.effect.map (Event.attempt
        number)).toList) ++ (state.withAttempt number next).channel
      = sent history ++ state.channel
        ++ (next.effect.bind Attempt.Effect.said?).toList := by
    rw [sent_append, hquiet.sent, List.append_nil, hchannel,
      List.append_assoc]
  have hmem : next.attempt ∈ (state.withAttempt number next).inOrder :=
    List.mem_of_getElem? (State.getElem?_withAttempt_self hlen hattempt next)
  have hready := h.prompting_of_last hturn halone hlen hattempt harm
  refine ⟨?_, ?_, ?_, ?_⟩
  · rw [hwords]
    exact h.mute_say hattempt harm
  · rw [hwords]
    intro hlapses
    exact ((h.lapsed_say hready harm hlapses).attempt hattempt harm).1
  · rw [hwords]
    intro hlast
    exact (ready_say hready hturn halone hlen hattempt harm hlast).imp_right
      fun hprompting => ⟨_, hmem, hprompting⟩
  · intro before after heq hhead
    obtain ⟨later, rfl, hhistory⟩ := split_append heq hquiet.not_mem
    rw [sent_append, hquiet.sent, List.append_nil, hchannel,
      ← List.append_assoc] at hhead
    have hhead' : (sent later ++ state.channel).head? ≠ some (.busy true) := by
      intro hbusy
      rw [List.head?_append, hbusy] at hhead
      exact hhead rfl
    rw [answers_append, h.silent before later hhistory hhead',
      List.nil_append]
    exact h.silent_say hready hattempt harm hhistory hhead'

/-- The next message in the channel is written. -/
theorem Brackets.pass (h : Brackets history state) {message : Message}
    {channel : List Message} (hchannel : state.channel = message :: channel)
    (sink : Sink) (phase : Phase) :
    Brackets (history ++ [.sent message])
      { state with channel, sink, phase } := by
  have hwords : sent (history ++ [.sent message]) ++ channel
      = sent history ++ state.channel := by
    rw [sent_append, hchannel, List.append_assoc]
    rfl
  have hlapsed : Lapsed state → Lapsed { state with channel, sink, phase } :=
    fun hlapsed => ⟨hlapsed.cancelled, hlapsed.holding⟩
  refine ⟨?_, ?_, ?_, ?_⟩
  · rw [hwords]
    exact h.mute
  · rw [hwords]
    exact hlapsed ∘ h.lapsed
  · rw [hwords]
    exact Or.imp_left hlapsed ∘ h.ready
  · intro before after heq hhead
    rcases split_snoc heq with ⟨-, -, rfl⟩ | ⟨later, rfl, hhistory⟩
    · rfl
    · rw [answers_append]
      refine (List.append_nil _).trans (h.silent before later hhistory ?_)
      rw [sent_append, List.append_assoc] at hhead
      rw [hchannel]
      exact hhead

/-- Once the attempts are over, a readiness that nothing has followed is one
of a prompt that lapsed. -/
theorem Brackets.lapsed_of_last (h : Brackets history state)
    (hover : ∀ attempt ∈ state.inOrder, attempt.isOver = true)
    (hlast : (sent history ++ state.channel).getLast? = some (.busy false)) :
    Lapsed state := by
  rcases h.ready hlast with hlapsed | ⟨attempt, hmem, hprompting⟩
  · exact hlapsed
  · rw [Attempt.not_isPrompting_of_isOver (hover attempt hmem)] at hprompting
    cases hprompting

/-- A failure is reported only if no prompt has lapsed. -/
theorem Brackets.retry (h : Brackets history state)
    (hnone : state.session.slot.cancelled = none)
    (hover : ∀ attempt ∈ state.inOrder, attempt.isOver = true)
    (hclear : state.channel = []) (session : Session) (sink : Sink) :
    Brackets (history ++ [.sent .failure])
      { state with session, sink, phase := .deciding } := by
  have hnot : ¬ Lapsed state := by
    intro hlapsed
    have := hlapsed.cancelled
    rw [hnone] at this
    cases this
  have hlast : (sent history ++ state.channel).getLast?
      ≠ some (.busy false) :=
    fun hlast => hnot (h.lapsed_of_last hover hlast)
  have hlapses : ¬ Lapses (sent history ++ state.channel) :=
    fun hlapses => hnot (h.lapsed hlapses)
  rw [hclear, List.append_nil] at hlast hlapses
  have hnone' : ¬ Lapses (sent history ++ [.failure]) := by
    intro hlapses'
    rcases hlapses'.snoc_inv with hbefore | ⟨hready, -⟩
    · exact hlapses hbefore
    · exact hlast hready
  have hsent : sent (history ++ [.sent .failure]) ++ state.channel
      = sent history ++ [.failure] := by
    rw [hclear, List.append_nil, sent_append]
    rfl
  refine ⟨?_, ?_, ?_, ?_⟩
  · rw [hsent]
    exact .of_not_lapses hnone'
  · rw [hsent]
    exact fun hlapses' => absurd hlapses' hnone'
  · rw [hsent, List.getLast?_concat]
    intro hready
    cases hready
  · intro before after heq hhead
    obtain ⟨later, rfl, hhistory⟩ := split_append heq (by simp)
    rw [answers_append]
    refine (List.append_nil _).trans (h.silent before later hhistory ?_)
    intro hbusy
    rw [sent_append, List.append_assoc, List.head?_append] at hhead
    rw [hclear, List.append_nil] at hbusy
    rw [hbusy] at hhead
    exact hhead rfl

-- =========================================================== when it ends

/-- What was written, when the loop listens no more and has not failed. -/
structure Closing (history : List Event) (state : State) : Prop where
  mute : Mute (sent history)
  silent : ∀ before message after,
    history = before ++ .sent (.busy false) :: after →
    (sent after).head? = some message → message ≠ .busy true →
    (.abandoned ∈ history → message.isTerminal = false) →
    Lapsed state ∧ answers after = []
  -- Whatever was given up, one answer is on its way at most.
  late : ∀ before message after,
    history = before ++ .sent (.busy false) :: after →
    (sent after).head? = some message → message ≠ .busy true →
    state.session.slot.cancelled.isSome = true ∧ (answers after).length
      + (state.inOrder.flatMap Attempt.held).length ≤ 1
  ends : ∀ outcome, state.phase.ending? = some (.ok outcome) →
    Lapses (sent history) →
    (∃ reason, outcome = .cancelled reason) ∨ outcome = .authenticated

/-- What the channel does not show any more, the history shows. -/
theorem Brackets.silent_of_head? (h : Brackets history state)
    {before after : List Event} {message : Message}
    (heq : history = before ++ .sent (.busy false) :: after)
    (hhead : (sent after).head? = some message) (hne : message ≠ .busy true) :
    Lapsed state ∧ answers after = [] := by
  have hhead' : (sent after ++ state.channel).head? = some message := by
    rw [List.head?_append, hhead]
    rfl
  refine ⟨h.lapsed ?_, h.silent before after heq ?_⟩
  · obtain ⟨rest, hrest⟩ := List.head?_eq_some_iff.mp hhead'
    refine ⟨sent before, message, rest, ?_, hne⟩
    rw [heq, sent_append, List.append_assoc, ← hrest]
    rfl
  · rw [hhead']
    exact fun hbusy => hne (Option.some.inj hbusy)

/-- What the channel still holds takes nothing away from what was
written. -/
theorem Brackets.closing (h : Brackets history state)
    (hending : state.phase.ending? = none) : Closing history state where
  mute := fun before message after heq hne => by
    obtain ⟨hbusy, hfailure⟩ := h.mute before message (after ++ state.channel)
      (by rw [heq, List.append_assoc]; rfl) hne
    rw [← List.cons_append, List.mem_append, not_or] at hbusy hfailure
    exact ⟨hbusy.1, hfailure.1⟩
  silent before message after heq hhead hne _ :=
    h.silent_of_head? heq hhead hne
  late before message after heq hhead hne := by
    obtain ⟨hlapsed, hanswers⟩ := h.silent_of_head? heq hhead hne
    rw [hanswers, hlapsed.held_eq_nil]
    exact ⟨hlapsed.cancelled, Nat.zero_le 1⟩
  ends outcome hsome := by
    rw [hending] at hsome
    cases hsome

/-- A prompt that is open when the loop ends was given up. -/
theorem Brackets.lapsed_or_abandoned (h : Brackets history state)
    (hclear : state.channel = [])
    (hover : .abandoned ∉ history →
      ∀ attempt ∈ state.inOrder, attempt.isOver = true)
    (hlast : (sent history).getLast? = some (.busy false)) :
    Lapsed state ∨ .abandoned ∈ history := by
  rw [← List.append_nil (sent history), ← hclear] at hlast
  by_cases hgiven : .abandoned ∈ history
  · exact .inr hgiven
  · exact .inl (h.lapsed_of_last (hover hgiven) hlast)

/-- When the terminal line is out, no answer has come behind a readiness that
something else follows. -/
theorem Brackets.silent_close (h : Brackets history state)
    (hclear : state.channel = []) {outcome : Outcome}
    (hover : .abandoned ∉ history →
      ∀ attempt ∈ state.inOrder, attempt.isOver = true)
    {before after : List Event} {message : Message}
    (heq : history ++ [.sent outcome.message]
      = before ++ .sent (.busy false) :: after)
    (hhead : (sent after).head? = some message) (hne : message ≠ .busy true) :
    answers after = []
      ∧ (Lapsed state ∨ .abandoned ∈ history ∧ message = outcome.message) := by
  obtain ⟨later, rfl, hhistory⟩ :=
    split_append heq (by simp [(outcome.message_ne_busy false).symm])
  have hanswers : answers (later ++ [.sent outcome.message]) = answers later :=
    (answers_append _ _).trans (List.append_nil _)
  rw [hanswers]
  cases hbefore : sent later with
  | cons first rest =>
      rw [sent_append, hbefore] at hhead
      cases hhead
      obtain ⟨hlapsed, hnone⟩ :=
        h.silent_of_head? hhistory (by rw [hbefore]; rfl) hne
      exact ⟨hnone, .inl hlapsed⟩
  | nil =>
      -- the terminal line follows the readiness
      rw [sent_append, hbefore] at hhead
      cases hhead
      have hlast : (sent history).getLast? = some (.busy false) := by
        rw [hhistory, sent_append]
        show (sent before ++ .busy false :: sent later).getLast? = _
        rw [hbefore, List.getLast?_concat]
      refine ⟨h.silent before later hhistory ?_,
        (h.lapsed_or_abandoned hclear hover hlast).imp_right
          fun hgiven => ⟨hgiven, rfl⟩⟩
      rw [hbefore, hclear]
      exact fun h => by cases h

/-- The terminal line is written. -/
theorem Brackets.close (h : Brackets history state)
    (hclear : state.channel = []) {outcome : Outcome}
    (hover : .abandoned ∉ history →
      ∀ attempt ∈ state.inOrder, attempt.isOver = true)
    (habandoned : .abandoned ∈ history →
      state.session.slot.cancelled.isSome = true)
    (hsingle : (state.inOrder.flatMap Attempt.held).length ≤ 1)
    (houtcome : state.session.slot.cancelled.isSome = true →
      (∃ reason, outcome = .cancelled reason) ∨ outcome = .authenticated)
    {session : Session} (hslot : session.slot = state.session.slot)
    (sink : Sink) :
    Closing (history ++ [.sent outcome.message])
      { state with session, sink, phase := .stopping (.ok outcome) } := by
  have hmute := h.mute
  have hlapses := h.lapsed
  rw [hclear, List.append_nil] at hmute hlapses
  have hsent : sent (history ++ [.sent outcome.message])
      = sent history ++ [outcome.message] := sent_append _ _
  refine ⟨?_, ?_, ?_, ?_⟩
  · rw [hsent]
    exact hmute.snoc outcome.message_ne_failure
      fun _ => outcome.message_ne_busy true
  · intro before message after heq hhead hne hterminal
    obtain ⟨hnone, hlapsed | ⟨hgiven, rfl⟩⟩ :=
      h.silent_close hclear hover heq hhead hne
    · exact ⟨⟨hslot ▸ hlapsed.cancelled, hlapsed.holding⟩, hnone⟩
    · have := hterminal (List.mem_append_left _ hgiven)
      rw [Outcome.isTerminal_message] at this
      cases this
  · intro before message after heq hhead hne
    obtain ⟨hnone, hwhy⟩ := h.silent_close hclear hover heq hhead hne
    rw [hnone, hslot]
    exact ⟨hwhy.elim Lapsed.cancelled fun hgiven => habandoned hgiven.1,
      (Nat.zero_add _).trans_le hsingle⟩
  · intro outcome' hending hlapses'
    cases hending
    rw [hsent] at hlapses'
    refine houtcome ?_
    rcases hlapses'.snoc_inv with hbefore | ⟨hlast, -⟩
    · exact (hlapses hbefore).cancelled
    · exact (h.lapsed_or_abandoned hclear hover hlast).elim Lapsed.cancelled
        habandoned

/-- What goes on when the loop listens no more. -/
theorem Closing.same (h : Closing history state)
    (hlen : state.attempts.length = state.started)
    (harm : Arm setup state action state' events)
    (hending : state'.phase.ending? = state.phase.ending?)
    (hrests : LoopRests events) : Closing (history ++ events) state' := by
  have hsent : sent (history ++ events) = sent history := by
    rw [sent_append, hrests.sent, List.append_nil]
  refine ⟨?_, ?_, ?_, ?_⟩
  · rw [hsent]
    exact h.mute
  · intro before message after heq hhead hne hterminal
    obtain ⟨later, rfl, hhistory⟩ := split_append heq hrests.unwritten.not_mem
    rw [sent_append, hrests.sent, List.append_nil] at hhead
    obtain ⟨hdone, hanswers⟩ := h.silent before message later hhistory hhead
      hne fun hmem => hterminal (List.mem_append_left _ hmem)
    obtain ⟨hdone', hnone⟩ := hdone.step harm
    rw [answers_append, hanswers, hnone]
    exact ⟨hdone', rfl⟩
  · intro before message after heq hhead hne
    obtain ⟨later, rfl, hhistory⟩ := split_append heq hrests.unwritten.not_mem
    rw [sent_append, hrests.sent, List.append_nil] at hhead
    obtain ⟨hcancelled, hsingle⟩ := h.late before message later hhistory hhead
      hne
    have hheld := harm.held_of_cancelled hlen hcancelled
    refine ⟨harm.cancelled_iff.mpr (.inl hcancelled), ?_⟩
    rw [answers_append, List.length_append]
    omega
  · rw [hending, hsent]
    exact h.ends

-- =============================================================== the runs

/-- What is known of the prompts without an answer, wherever the loop
stands. -/
structure Heeds (history : List Event) (state : State) : Prop where
  goesOn : state.listens = true → Brackets history state
  isOver : state.listens = false →
    (∀ cause, state.phase.ending? ≠ some (.error cause)) →
    Closing history state

theorem Heeds.of_brackets (h : Brackets history state)
    (hlistens : state.listens = true) : Heeds history state where
  goesOn _ := h
  isOver hnot := by
    rw [hlistens] at hnot
    cases hnot

theorem Heeds.of_closing (h : Closing history state)
    (hlistens : state.listens = false) : Heeds history state where
  goesOn hyes := by
    rw [hlistens] at hyes
    cases hyes
  isOver _ _ := h

theorem Heeds.of_error {cause : IoError}
    (hphase : state.phase.ending? = some (.error cause)) :
    Heeds history state where
  goesOn hlistens := by
    rw [ending?_of_listens hlistens] at hphase
    cases hphase
  isOver _ hnot := absurd hphase (hnot cause)

/-- A message is written, or cannot be written. -/
theorem Heeds.wrote {middle : State} {message : Message} {next : Phase}
    (hwrote : Wrote middle message next state' events)
    (hsent : ∀ sink', Heeds (history ++ [.sent message])
      { middle with sink := sink', phase := next }) :
    Heeds (history ++ events) state' := by
  cases hwrote with
  | sent _ => exact hsent _
  | unsent _ => exact .of_error rfl

/-- A step without a message that leaves the attempts and the loop where
they are. -/
theorem Heeds.same (h : Heeds history state)
    (hlen : state.attempts.length = state.started)
    (harm : Arm setup state action state' events)
    (horder : state'.inOrder = state.inOrder)
    (hchannel : state'.channel = state.channel)
    (hlistens : state'.listens = state.listens)
    (hending : state'.phase.ending? = state.phase.ending?)
    (hrests : LoopRests events) (hanswers : answers events = []) :
    Heeds (history ++ events) state' where
  goesOn hyes := (h.goesOn (hlistens ▸ hyes)).same (fun hdone =>
    (hdone.step harm).1) (fun _ => horder ▸ id) hchannel hrests.unwritten
    hanswers
  isOver hno hnot := (h.isOver (hlistens ▸ hno) (hending ▸ hnot)).same hlen
    harm hending hrests

theorem Heeds.step (h : Heeds history state) (hturn : InTurn history state)
    (hstanding : Standing history state)
    (hdelivers : Delivers history state)
    (hlen : state.attempts.length = state.started)
    (hreader : state.reader.phase ≠ .crashed)
    (hopen : state.phase.ending? = none → state.session.outcome = none)
    (hclear : state.phase = .deciding → state.channel = [])
    (harm : Arm setup state action state' events) :
    Heeds (history ++ events) state' := by
  have hlapsed : Lapsed state → Lapsed state' :=
    fun hlapsed => (hlapsed.step harm).1
  have hsame := h.same hlen harm
  have hclosing := fun hno hnot => (h.isOver hno hnot).same hlen harm
  have hgiven : .abandoned ∈ history →
      state.session.slot.cancelled.isSome = true :=
    fun hmem => hstanding.cancelled_of_abandoned hmem hreader
  have hover : state.phase.isQuiet = true → .abandoned ∉ history →
      ∀ attempt ∈ state.inOrder, attempt.isOver = true :=
    fun hquiet hnot => hturn.quiet hnot hquiet
  -- the loop goes on to a place where it still listens
  have hon : state.listens = true → state'.listens = true →
      (∀ attempt ∈ state.inOrder, attempt ∈ state'.inOrder) →
      state'.channel = state.channel → Unwritten events →
      answers events = [] → Heeds (history ++ events) state' :=
    fun hlistens hlistens' horder hchannel hquiet hanswers =>
      .of_brackets ((h.goesOn hlistens).same hlapsed horder hchannel hquiet
        hanswers) hlistens'
  -- a verdict is recorded before anything is written
  have hrecorded : ∀ {verdict step}, state.listens = true →
      Brackets (history ++ [.recorded verdict step]) state :=
    fun hlistens => (h.goesOn hlistens).same id (fun _ => id) rfl ⟨rfl, rfl⟩ rfl
  cases harm with
  | @reader _ next _ =>
      exact hsame rfl rfl rfl rfl (.of_reader _) (answers_reader _)
  | @attempt number _ next hattempt harm =>
      refine ⟨fun hlistens => ?_, fun hno hnot => ?_⟩
      · exact (h.goesOn hlistens).attempt hlistens hturn (.inr hreader) hlen
          hattempt harm
      · exact hclosing hno hnot rfl (.of_attempt number _)
  | elapse => exact hsame rfl rfl rfl rfl .nil rfl
  | halt hphase hobserve hwrote =>
      have hbrackets := h.goesOn (by rw [State.listens, hphase])
      obtain ⟨reason, rfl, -⟩ :=
        Session.observe_open (hopen (by rw [hphase]; rfl)) hobserve
      exact .wrote hwrote fun sink' => .of_closing (hbrackets.close
        (hclear hphase) (hover (by rw [hphase]; rfl)) hgiven hdelivers.single
        (fun _ => .inl ⟨reason, rfl⟩) (Session.observe_slot hobserve) sink') rfl
  | proceed hphase _ | join hphase _ _ | abandon hphase _ _ =>
      exact hon (by rw [State.listens, hphase]) rfl (fun _ => id) rfl
        ⟨rfl, rfl⟩ rfl
  | notice _ _ _ _ => exact hsame rfl rfl rfl rfl .nil rfl
  | launch hphase =>
      refine hon (by rw [State.listens, hphase]) rfl (fun attempt hmem => ?_)
        rfl ⟨rfl, rfl⟩ rfl
      exact List.mem_reverse.mpr (.tail _ (List.mem_reverse.mp hmem))
  | forward hphase hchannel hwrote | drain hphase hchannel hwrote =>
      have hbrackets := h.goesOn (by rw [State.listens, hphase])
      exact .wrote hwrote fun sink' =>
        .of_brackets (hbrackets.pass hchannel sink' _) rfl
  | collapse hphase _ _ _ =>
      exact .of_closing (((h.goesOn (by rw [State.listens, hphase])).same
        hlapsed (fun _ => id) rfl ⟨rfl, rfl⟩ rfl).closing rfl) rfl
  | retry hphase hempty hrecord hwrote =>
      have hnone := Session.cancelled_of_retry hrecord
      rw [List.append_cons]
      refine .wrote hwrote fun sink' => .of_brackets ((hrecorded
        (by rw [State.listens, hphase])).retry hnone
        (hover (by rw [hphase]; rfl) fun hmem => ?_) hempty _ sink') rfl
      have := hgiven hmem
      rw [hnone] at this
      cases this
  | @conclude verdict outcome session _ _ hphase hempty hrecord hwrote =>
      have houtcome := fun hsome => Session.outcome_of_record
        (hopen (by rw [hphase]; rfl)) hsome hrecord
      rw [List.append_cons]
      refine .wrote hwrote fun sink' => .of_closing ((hrecorded
        (by rw [State.listens, hphase])).close hempty
        (fun hnot => hover (by rw [hphase]; rfl) ?_) (fun hmem => hgiven ?_)
        hdelivers.single houtcome (Session.record_slot hrecord) sink') rfl
      · simpa using hnot
      · simpa using hmem
  | stop hphase =>
      exact hsame rfl rfl (by rw [State.listens, State.listens, hphase])
        (by rw [hphase]; rfl) (.of_cancel _ _) (by split <;> rfl)
  | reap hphase _ | giveUp hphase _ =>
      exact hsame rfl rfl (by rw [State.listens, State.listens, hphase])
        (by rw [hphase]; rfl) .nil rfl
  | sweep hphase =>
      exact hsame rfl rfl (by rw [State.listens, State.listens, hphase])
        (by rw [hphase]; rfl) (.of_sweep _)
        (by cases state.session.slot.pending <;> rfl)

/-- In every run in which the reader does not break down. -/
theorem Run.heeds
    (hrun : Run setup (.start setup (.new context maxFailures) sink)
      history state) (hreader : state.reader.phase ≠ .crashed) :
    Heeds history state := by
  induction hrun with
  | init => exact .of_brackets .start rfl
  | step action hrun hstep ih =>
      have harm := arm_of_apply hstep
      have hreader' := harm.reader_ne_crashed hreader
      refine (ih hreader').step hrun.inTurn hrun.standing hrun.delivers
        hrun.length_attempts hreader' hrun.outcome_eq_none (fun hphase => ?_) harm
      obtain ⟨rounds, hrelays⟩ :=
        (hrun.forwards hreader').goesOn (by rw [State.listens, hphase])
      exact hrelays.clear (by rw [hphase]; rfl)

/-- As long as everything can be written, wherever the loop stands. -/
theorem Heeds.closing (h : Heeds history state)
    (hnot : ∀ cause, state.phase.ending? ≠ some (.error cause)) :
    Closing history state := by
  cases hlistens : state.listens with
  | true => exact (h.goesOn hlistens).closing (ending?_of_listens hlistens)
  | false => exact h.isOver hlistens hnot

end ScreenUnlock.Dispatch
