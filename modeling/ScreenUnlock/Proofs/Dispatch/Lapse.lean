/-
What follows a prompt that got no answer.

A prompt is over without an answer only when the session is cancelled,
and then no attempt holds an answer any more. That condition, `Lapsed`, is
final: nobody takes it back, and from then on the backend gets no answer
and the busy state is not raised (`Lapsed.step`).

`Missing` follows one prompt from its readiness up to its reply, whatever
becomes of the dispatch loop in the meantime. Until then the attempt that
prompts is the only one that goes on, so nobody else gets an answer, and
if the reply is none, the session has lapsed with it.
-/
import ScreenUnlock.Proofs.Cuts
import ScreenUnlock.Proofs.Dispatch.Conduct
import ScreenUnlock.Proofs.Dispatch.Delivery
import ScreenUnlock.Proofs.Dispatch.Forwarding

namespace ScreenUnlock

-- ============================================================ one attempt

namespace Attempt

/-- The screen locker has been told to answer, and the prompt has no reply
yet. -/
def isPrompting (attempt : Attempt) : Bool :=
  match attempt.activity with
  | .conversing .asking _ => true
  | .conversing .exiting _ => true
  | .conversing (.answering _) _ => true
  | _ => false

/-- The reply that the attempt is about to hand over. -/
def reply? (attempt : Attempt) : Option (Option Secret) :=
  match attempt.activity with
  | .conversing (.over reply) _ => some reply
  | _ => none

variable {clock : Nat} {slot : Slot} {attempt : Attempt} {next : Next}
  {message : Message}

theorem not_isPrompting_of_isOver (h : attempt.isOver = true) :
    attempt.isPrompting = false := by
  obtain ⟨activity, replies⟩ := attempt
  cases activity with
  | ended _ => rfl
  | running _ | conversing _ _ | sleeping _ _ => cases h

/-- The readiness opens a prompt. -/
theorem Arm.isPrompting_of_said (harm : Arm clock slot attempt next)
    (hsaid : next.effect.bind Dispatch.Attempt.Effect.said?
      = some (.busy false)) : next.attempt.isPrompting = true := by
  cases harm with
  | converse harm =>
      cases harm with
      | ready => rfl
      | _ => cases hsaid
  | _ => cases hsaid

/-- Nothing but the answer is said during a prompt. -/
theorem Arm.said_of_isPrompting (harm : Arm clock slot attempt next)
    (hprompting : attempt.isPrompting = true)
    (hsaid : next.effect.bind Dispatch.Attempt.Effect.said? = some message) :
    message = .busy true := by
  cases harm with
  | converse harm =>
      cases harm with
      | answer =>
          cases hsaid
          rfl
      | prompt | inform _ | ready => cases hprompting
      | _ => cases hsaid
  | _ => cases hsaid

/-- A prompt goes on, or has its reply; without an answer it has one only
in a cancelled session. -/
theorem Arm.of_isPrompting (harm : Arm clock slot attempt next)
    (hprompting : attempt.isPrompting = true) :
    (∀ reply, next.effect ≠ some (.replied reply))
      ∧ (next.attempt.isPrompting = true
        ∨ ∃ reply, next.attempt.reply? = some reply
          ∧ (reply = none → next.slot.cancelled.isSome = true)
          ∧ (next.effect.bind Dispatch.Attempt.Effect.said? = none →
            reply = none)) := by
  cases harm with
  | converse harm =>
      cases harm with
      | forgo hcancelled =>
          exact ⟨(fun _ h => by cases h),
            .inr ⟨none, rfl, fun _ => hcancelled, fun _ => rfl⟩⟩
      | exit =>
          exact ⟨(fun _ h => by cases h),
            .inr ⟨none, rfl, fun _ => by simp, fun _ => rfl⟩⟩
      | @answer line =>
          exact ⟨(fun _ h => by cases h),
            .inr ⟨some line, rfl, (fun h => by cases h), fun h => by cases h⟩⟩
      | takeExit _ _ _ | takeAnswer _ _ _ =>
          exact ⟨(fun _ h => by cases h), .inl rfl⟩
      | prompt | inform _ | ignore _ _ | ready => cases hprompting
  | finish _ | pause | wake _ | request | reply => cases hprompting

/-- An attempt that has a reply hands it over next. -/
theorem Arm.of_reply? (harm : Arm clock slot attempt next)
    {reply : Option Secret} (hreply : attempt.reply? = some reply) :
    next.effect = some (.replied reply) ∧ next.slot = slot
      ∧ next.attempt.held = [] := by
  cases harm with
  | reply =>
      cases hreply
      exact ⟨rfl, rfl, rfl⟩
  | converse harm => cases harm <;> cases hreply
  | finish _ | pause | wake _ | request => cases hreply

/-- Whoever raises the busy state has taken an answer. -/
theorem Arm.held_of_said (harm : Arm clock slot attempt next)
    (hsaid : next.effect.bind Dispatch.Attempt.Effect.said?
      = some (.busy true)) : attempt.held ≠ [] := by
  cases harm with
  | converse harm =>
      cases harm with
      | answer => exact List.cons_ne_nil _ _
      | _ => cases hsaid
  | _ => cases hsaid

theorem held_of_reply? (h : attempt.reply? = some none) : attempt.held = [] := by
  obtain ⟨activity, replies⟩ := attempt
  cases activity with
  | conversing exchange rest =>
      cases exchange with
      | «over» reply =>
          cases h
          rfl
      | _ => cases h
  | running _ | sleeping _ _ | ended _ => cases h

end Attempt

namespace Dispatch

variable {setup : Setup} {context : AuthContext} {maxFailures : UInt32}
  {sink : Sink} {history events : List Event} {state state' : State}
  {action : Action} {number : Nat}

open State (Arm arm_of_apply)

/-- An attempt that hands over no answer. -/
theorem answers_attempt_eq_nil {effect : Option Attempt.Effect}
    (h : ∀ line, effect ≠ some (.replied (some line))) :
    answers (effect.map (Event.attempt number)).toList = [] := by
  match effect, h with
  | some (.replied (some line)), h => exact absurd rfl (h line)
  | none, _ | some (.conversed _), _ | some (.replied none), _ => rfl

-- ========================================================= no more answers

/-- In a cancelled session nobody takes a line, so what is handed over was
held before. -/
theorem State.Arm.held_of_cancelled
    (hlen : state.attempts.length = state.started)
    (harm : Arm setup state action state' events)
    (hcancelled : state.session.slot.cancelled.isSome = true) :
    (answers events).length + (state'.inOrder.flatMap Attempt.held).length
      = (state.inOrder.flatMap Attempt.held).length := by
  cases action with
  | reader action =>
      cases harm
      rw [answers_reader]
      exact Nat.zero_add _
  | attempt number =>
      cases harm with
      | @attempt _ attempt next hattempt harm =>
          obtain ⟨before, after, hbefore, hafter, -⟩ :=
            inOrder_split hlen hattempt next
          have hnext : (answers (next.effect.map
                (Event.attempt number)).toList).length
              + next.attempt.held.length = attempt.held.length := by
            cases harm.hold with
            | keep hnext _ _ _ hsilent =>
                rw [answers_attempt hsilent, hnext]
                exact Nat.zero_add _
            | take hnone _ _ _ _ _ _ =>
                rw [hnone] at hcancelled
                cases hcancelled
            | exit hheld hnext _ heffect =>
                rw [heffect, hheld, hnext]
                rfl
            | @reply reply hheld _ hnext _ heffect =>
                rw [heffect, hheld, hnext]
                cases reply <;> rfl
          simp only [hbefore, hafter, List.flatMap_append,
            List.flatMap_cons, List.length_append]
          omega
  | move move =>
      rw [(HandsNothing.of_move harm).answers]
      rcases harm.inOrder_of_move with hsame | ⟨caller, precedents, hmore⟩
      · rw [hsame]
        exact Nat.zero_add _
      · rw [hmore, List.flatMap_append]
        exact (Nat.zero_add _).trans
          (congrArg List.length (List.append_nil _))
  | elapse milliseconds =>
      cases harm
      exact Nat.zero_add _

/-- The session is cancelled, and no attempt holds an answer. -/
structure Lapsed (state : State) : Prop where
  cancelled : state.session.slot.cancelled.isSome = true
  holding : ∀ attempt ∈ state.inOrder, attempt.held = []

theorem Lapsed.held_eq_nil (h : Lapsed state) :
    state.inOrder.flatMap Attempt.held = [] :=
  List.flatMap_eq_nil_iff.mpr h.holding

/-- An attempt without an answer hands none over in a cancelled session,
and does not get one. -/
theorem Lapsed.attempt (h : Lapsed state) {attempt : Attempt}
    {next : Attempt.Next} (hattempt : state.attempt? number = some attempt)
    (harm : Attempt.Arm state.clock state.session.slot attempt next) :
    Lapsed (state.withAttempt number next)
      ∧ answers (next.effect.map (Event.attempt number)).toList = []
      ∧ next.effect.bind Attempt.Effect.said? ≠ some (.busy true) := by
  have hmem : attempt ∈ state.inOrder := by
    unfold State.attempt? at hattempt
    split at hattempt
    · exact List.mem_reverse.mpr (List.mem_of_getElem? hattempt)
    · cases hattempt
  have hheld := h.holding attempt hmem
  have hothers : next.attempt.held = [] →
      Lapsed (state.withAttempt number next) := by
    refine fun hnext => ⟨harm.isSome_mono h.cancelled, fun other hother => ?_⟩
    rcases List.mem_or_eq_of_mem_set (List.mem_reverse.mp hother)
      with hother | rfl
    · exact h.holding other (List.mem_reverse.mpr hother)
    · exact hnext
  refine ⟨?_, ?_, fun hsaid => harm.held_of_said hsaid hheld⟩
  · cases harm.hold with
    | keep hnext _ _ _ _ => exact hothers (hnext.trans hheld)
    | take hnone _ _ _ _ _ _ =>
        have := h.cancelled
        rw [hnone] at this
        cases this
    | exit _ hnext _ _ | reply _ _ hnext _ _ => exact hothers hnext
  · cases harm.hold with
    | keep _ _ _ _ hsilent => exact answers_attempt hsilent
    | take _ _ _ _ _ _ heffect | exit _ _ _ heffect => rw [heffect]; rfl
    | @reply reply hreply _ _ _ heffect =>
        rw [hheld] at hreply
        cases reply with
        | none =>
            rw [heffect]
            rfl
        | some line => cases hreply

/-- A lapsed session stays lapsed, and hands over no answer. -/
theorem Lapsed.step (h : Lapsed state)
    (harm : Arm setup state action state' events) :
    Lapsed state' ∧ answers events = [] := by
  have hcancelled := harm.cancelled_iff.mpr (.inl h.cancelled)
  cases action with
  | reader action =>
      cases harm
      exact ⟨⟨hcancelled, h.holding⟩, answers_reader _⟩
  | attempt number =>
      cases harm with
      | attempt hattempt harm =>
          obtain ⟨hlapsed, hanswers, -⟩ := h.attempt hattempt harm
          exact ⟨hlapsed, hanswers⟩
  | move move =>
      refine ⟨⟨hcancelled, fun attempt hmem => ?_⟩,
        (HandsNothing.of_move harm).answers⟩
      rcases harm.inOrder_of_move with hsame | ⟨caller, precedents, hmore⟩
      · exact h.holding attempt (hsame ▸ hmem)
      · rw [hmore, List.mem_append, List.mem_singleton] at hmem
        rcases hmem with hmem | rfl
        · exact h.holding attempt hmem
        · rfl
  | elapse milliseconds =>
      cases harm
      exact ⟨⟨h.cancelled, h.holding⟩, rfl⟩

/-- The attempt that went on stands at its number. -/
theorem State.getElem?_withAttempt_self
    (hlen : state.attempts.length = state.started) {attempt : Attempt}
    (hattempt : state.attempt? number = some attempt) (next : Attempt.Next) :
    (state.withAttempt number next).inOrder[number]? = some next.attempt := by
  rw [inOrder_withAttempt hlen hattempt, List.getElem?_set_self]
  rw [inOrder, List.length_reverse, hlen]
  exact lt_of_attempt? hattempt

/-- Only one attempt at a time is not over. -/
theorem InTurn.eq_of_not_isOver (h : InTurn history state)
    (halone : Alone history state)
    (hlen : state.attempts.length = state.started) {attempt other : Attempt}
    {next : Attempt.Next} (hattempt : state.attempt? number = some attempt)
    (harm : Attempt.Arm state.clock state.session.slot attempt next) {i : Nat}
    (hother : state.inOrder[i]? = some other) (hover : other.isOver = false) :
    i = number ∧ other = attempt := by
  rw [State.attempt?_eq hlen] at hattempt
  have hi : i = number := by
    by_contra hne
    have := h.isOver_of_ne halone hlen hattempt harm.not_isOver hother hne
    rw [hover] at this
    cases this
  subst hi
  exact ⟨rfl, Option.some.inj (hother.symm.trans hattempt)⟩

/-- The attempt under way has nothing to hand over in a cancelled session,
and the others are over. -/
theorem Lapsed.of_next (hturn : InTurn history state)
    (halone : Alone history state)
    (hlen : state.attempts.length = state.started) {attempt : Attempt}
    {next : Attempt.Next} (hattempt : state.attempt? number = some attempt)
    (harm : Attempt.Arm state.clock state.session.slot attempt next)
    (hcancelled : next.slot.cancelled.isSome = true)
    (hheld : next.attempt.held = []) :
    Lapsed (state.withAttempt number next) := by
  refine ⟨hcancelled, fun other hmem => ?_⟩
  obtain ⟨i, hi⟩ := List.getElem?_of_mem hmem
  rcases State.getElem?_withAttempt hlen hattempt hi with ⟨-, rfl⟩
    | ⟨hne, hother⟩
  · exact hheld
  · refine Attempt.held_of_isOver ?_
    by_contra hover
    have := hturn.eq_of_not_isOver halone hlen hattempt harm hother
      (Bool.not_eq_true _ ▸ hover)
    exact hne this.1.symm

-- ============================================================= one prompt

/-- The reply that the attempt with this number gets in an event. -/
def Event.reply? (number : Nat) : Event → Option (Option Secret)
  | .attempt asker (.replied reply) =>
    if asker = number then some reply else none
  | _ => none

/-- The replies that one attempt got. -/
def replies (number : Nat) (history : List Event) : List (Option Secret) :=
  history.filterMap (Event.reply? number)

@[simp] theorem replies_append (number : Nat) (history later : List Event) :
    replies number (history ++ later)
      = replies number history ++ replies number later := by
  simp [replies]

theorem Idle.replies (h : Idle number events) : replies number events = [] := by
  refine List.filterMap_eq_nil_iff.mpr fun event hmem => ?_
  cases event with
  | attempt asker effect =>
      cases effect with
      | replied reply => exact if_neg fun heq => h _ (heq ▸ hmem)
      | conversed effect => rfl
  | _ => rfl

theorem replies_attempt {effect : Option Attempt.Effect}
    (h : ∀ reply, effect ≠ some (.replied reply)) :
    replies number (effect.map (Event.attempt number)).toList = [] := by
  match effect, h with
  | some (.replied reply), h => exact absurd rfl (h reply)
  | none, _ | some (.conversed _), _ => rfl

/-- What has become of a prompt of the attempt with this number since its
readiness. -/
inductive Missing (number : Nat) (after : List Event) (state : State) :
    Prop where
  | asked {attempt : Attempt} : replies number after = [] →
      answers after = [] → state.inOrder[number]? = some attempt →
      attempt.isPrompting = true → Missing number after state
  -- It has its reply, and the backend does not know yet.
  | replied {attempt : Attempt} {reply : Option Secret} :
      replies number after = [] → answers after = [] →
      state.inOrder[number]? = some attempt → attempt.reply? = some reply →
      (reply = none → state.session.slot.cancelled.isSome = true) →
      Missing number after state
  | answered {line : Secret} :
      (replies number after).head? = some (some line) →
      Missing number after state
  | lapsed : Lapsed state → answers after = [] → Missing number after state

/-- A step of anybody else. -/
theorem Missing.same {after : List Event} (h : Missing number after state)
    (hlapsed : Lapsed state → Lapsed state')
    (hcancelled : state.session.slot.cancelled.isSome = true →
      state'.session.slot.cancelled.isSome = true)
    (horder : ∀ attempt, state.inOrder[number]? = some attempt →
      state'.inOrder[number]? = some attempt)
    (hreplies : replies number events = []) (hanswers : answers events = []) :
    Missing number (after ++ events) state' := by
  have hreplies' : replies number (after ++ events) = replies number after := by
    rw [replies_append, hreplies, List.append_nil]
  have hanswers' : answers (after ++ events) = answers after := by
    rw [answers_append, hanswers, List.append_nil]
  cases h with
  | asked hnone hsilent hattempt hprompting =>
      exact .asked (hreplies'.trans hnone) (hanswers'.trans hsilent)
        (horder _ hattempt) hprompting
  | replied hnone hsilent hattempt hreply hreason =>
      exact .replied (hreplies'.trans hnone) (hanswers'.trans hsilent)
        (horder _ hattempt) hreply (hcancelled ∘ hreason)
  | answered hhead => exact .answered (hreplies' ▸ hhead)
  | lapsed hdone hsilent =>
      exact .lapsed (hlapsed hdone) (hanswers'.trans hsilent)

/-- A step of an attempt: while the prompt is open it is a step of the
attempt that prompts. -/
theorem Missing.attempt {after : List Event} {speaker : Nat}
    (h : Missing number after state) (hturn : InTurn history state)
    (halone : Alone history state)
    (hlen : state.attempts.length = state.started) {attempt : Attempt}
    {next : Attempt.Next} (hattempt : state.attempt? speaker = some attempt)
    (harm : Attempt.Arm state.clock state.session.slot attempt next) :
    Missing number
      (after ++ (next.effect.map (Event.attempt speaker)).toList)
      (state.withAttempt speaker next) := by
  have hunique : ∀ {other : Attempt}, state.inOrder[number]? = some other →
      other.isOver = false → number = speaker ∧ other = attempt :=
    fun hother hover =>
      hturn.eq_of_not_isOver halone hlen hattempt harm hother hover
  have hplace := State.getElem?_withAttempt_self hlen hattempt next
  cases h with
  | @asked other hnone hsilent hother hprompting =>
      have hover : other.isOver = false := by
        by_contra hover
        rw [Attempt.not_isPrompting_of_isOver (Bool.not_eq_false _ ▸ hover)]
          at hprompting
        cases hprompting
      obtain ⟨rfl, rfl⟩ := hunique hother hover
      obtain ⟨hquiet, hnext⟩ := harm.of_isPrompting hprompting
      have hnone' : replies number (after
          ++ (next.effect.map (Event.attempt number)).toList) = [] := by
        rw [replies_append, hnone, replies_attempt hquiet]
        rfl
      have hsilent' : answers (after
          ++ (next.effect.map (Event.attempt number)).toList) = [] := by
        rw [answers_append, hsilent, answers_attempt hquiet]
        rfl
      rcases hnext with hgoes | ⟨reply, hreply, hreason, -⟩
      · exact .asked hnone' hsilent' hplace hgoes
      · exact .replied hnone' hsilent' hplace hreply hreason
  | @replied other reply hnone hsilent hother hreply hreason =>
      have hover : other.isOver = false := by
        obtain ⟨activity, replies⟩ := other
        cases activity with
        | ended _ => cases hreply
        | running _ | conversing _ _ | sleeping _ _ => rfl
      obtain ⟨rfl, rfl⟩ := hunique hother hover
      obtain ⟨heffect, hslot, hheld⟩ := harm.of_reply? hreply
      cases reply with
      | none =>
          refine .lapsed (.of_next hturn halone hlen hattempt harm
            (hslot ▸ hreason rfl) hheld) ?_
          rw [answers_append, hsilent, heffect]
          rfl
      | some line =>
          refine @Missing.answered _ _ _ line ?_
          rw [replies_append, hnone, heffect, List.nil_append]
          simp [replies, Event.reply?]
  | @answered line hhead =>
      refine @Missing.answered _ _ _ line ?_
      rw [replies_append, List.head?_append, hhead]
      rfl
  | lapsed hdone hsilent =>
      obtain ⟨hdone', hanswers, -⟩ := hdone.attempt hattempt harm
      refine .lapsed hdone' ?_
      rw [answers_append, hsilent, hanswers]
      rfl

theorem Missing.step {after : List Event} (h : Missing number after state)
    (hturn : InTurn history state) (halone : Alone history state)
    (hlen : state.attempts.length = state.started)
    (harm : Arm setup state action state' events) :
    Missing number (after ++ events) state' := by
  have hlapsed : Lapsed state → Lapsed state' := fun hdone =>
    (hdone.step harm).1
  have hcancelled : state.session.slot.cancelled.isSome = true →
      state'.session.slot.cancelled.isSome = true :=
    fun hsome => harm.cancelled_iff.mpr (.inl hsome)
  cases action with
  | reader action =>
      cases harm
      exact h.same hlapsed hcancelled (fun _ => id) (Idle.of_reader _).replies
        (answers_reader _)
  | attempt speaker =>
      cases harm with
      | attempt hattempt harm => exact h.attempt hturn halone hlen hattempt harm
  | move move =>
      have hnothing := HandsNothing.of_move harm
      exact h.same hlapsed hcancelled (fun _ => harm.getElem?_of_move)
        (hnothing.idle number).replies hnothing.answers
  | elapse milliseconds =>
      cases harm
      exact h.same hlapsed hcancelled (fun _ => id) rfl rfl

/-- Every prompt of a run, from its readiness on. -/
theorem Run.missing
    (hrun : Run setup (.start setup (.new context maxFailures) sink)
      history state) (hreader : state.reader.phase ≠ .crashed)
    {before after : List Event}
    (heq : history = before
      ++ .attempt number (.conversed (.emit (.busy false))) :: after) :
    Missing number after state := by
  induction hrun generalizing after with
  | init => cases before <;> cases heq
  | @step history events state state' action hrun hstep ih =>
      have harm := arm_of_apply hstep
      have hreader' := harm.reader_ne_crashed hreader
      by_cases hmem : .attempt number (.conversed (.emit (.busy false)))
          ∈ events
      · cases action with
        | attempt speaker =>
            cases harm with
            | attempt hattempt harm =>
                obtain ⟨effect, heffect, hsame⟩ := Option.map_eq_some_iff.mp
                  (Option.mem_toList.mp hmem)
                cases hsame
                have harm' := arm_of_apply hstep
                rw [heffect] at heq harm'
                rcases split_snoc heq with ⟨-, -, rfl⟩ | ⟨later, rfl, hhistory⟩
                · -- the readiness is said in this step
                  exact .asked rfl rfl (State.getElem?_withAttempt_self
                    hrun.length_attempts hattempt _)
                    (harm.isPrompting_of_said (by rw [heffect]; rfl))
                · exact (ih hreader' hhistory).step hrun.inTurn (.inr hreader')
                    hrun.length_attempts harm'
        | reader action =>
            cases harm
            exact absurd hmem (Idle.of_reader _ _)
        | move move =>
            exact absurd hmem ((HandsNothing.of_move harm).idle number _)
        | elapse milliseconds =>
            cases harm
            cases hmem
      · obtain ⟨later, rfl, hhistory⟩ := split_append heq hmem
        exact (ih hreader' hhistory).step hrun.inTurn (.inr hreader')
          hrun.length_attempts harm

end Dispatch

end ScreenUnlock
