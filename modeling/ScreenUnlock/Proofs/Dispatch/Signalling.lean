/-
The signals of a whole run: which words are written, how often the busy
state goes up, and what a prompt without an answer leads to.

# The words

What is written between the start of an attempt and its record is what
the attempt said (`Attends`): nobody else says anything, and the verdict
is recorded when the channel is empty. So an attempt that came to its end
has put a whole word on the wire.

# The tally

The busy line is said one step before the answer is handed over. While
the loop listens, the busy lines that were said are the answers that the
backend got or is about to get (`Tally`). An attempt that was given up is
not listened to any more, so its last busy line may be missing; there is
never one too many.
-/
import ScreenUnlock.Auth.Backend
import ScreenUnlock.Proofs.Dispatch.Brackets
import ScreenUnlock.Proofs.Dispatch.Completion

namespace ScreenUnlock

/-- The answer is on its way to the backend. -/
def Attempt.isHanding (attempt : Attempt) : Bool :=
  match attempt.activity with
  | .conversing (.over (some _)) _ => true
  | _ => false

theorem Attempt.not_isHanding_of_isOver {attempt : Attempt}
    (h : attempt.isOver = true) : attempt.isHanding = false := by
  obtain ⟨activity, replies⟩ := attempt
  cases activity with
  | ended _ => rfl
  | running _ | conversing _ _ | sleeping _ _ => cases h

namespace Dispatch

variable {setup : Setup} {context : AuthContext} {maxFailures : UInt32}
  {sink : Sink} {history events : List Event} {state state' : State}
  {action : Action} {number : Nat}

open State (Arm arm_of_apply)

-- ============================================================== the words

/-- What the loop has written since it started the newest attempt, and
what is still in the channel, is what this attempt said. -/
def Attends (history : List Event) (state : State) : Prop :=
  ∃ before during, history = before ++ .started (state.started - 1) :: during
    ∧ calls during = [] ∧ .abandoned ∉ before
    ∧ sent during ++ state.channel = emitted (state.started - 1) history

/-- A step in which nothing is written and no attempt is started. -/
theorem Attends.same (h : Attends history state)
    (hstarted : state'.started = state.started)
    (hchannel : state'.channel = state.channel
      ++ emitted (state.started - 1) events)
    (hsent : sent events = []) (hcalls : calls events = []) :
    Attends (history ++ events) state' := by
  obtain ⟨before, during, hsplit, hnone, hnot, hwritten⟩ := h
  refine ⟨before, during ++ events, ?_, ?_, hnot, ?_⟩
  · rw [hstarted, hsplit, List.append_assoc, List.cons_append]
  · rw [calls_append, hnone, hcalls]
    rfl
  · rw [hstarted, sent_append, hsent, List.append_nil, hchannel,
      ← List.append_assoc, hwritten, emitted_append]

/-- The next message in the channel is written. -/
theorem Attends.pass (h : Attends history state) {message : Message}
    {channel : List Message} (hchannel : state.channel = message :: channel)
    (sink : Sink) (phase : Phase) :
    Attends (history ++ [.sent message])
      { state with channel, sink, phase } := by
  obtain ⟨before, during, hsplit, hnone, hnot, hwritten⟩ := h
  refine ⟨before, during ++ [.sent message], ?_, ?_, hnot, ?_⟩
  · rw [hsplit, List.append_assoc, List.cons_append]
  · rw [calls_append, hnone]
    rfl
  · rw [emitted_append, ← hwritten, hchannel, sent_append, List.append_assoc]
    exact (List.append_nil _).symm

/-- While the loop attends to an attempt. -/
theorem Run.attends
    (hrun : Run setup (.start setup (.new context maxFailures) sink)
      history state) (hreader : state.reader.phase ≠ .crashed)
    (hengaged : state.phase.isEngaged = true)
    (hlistens : state.listens = true) : Attends history state := by
  induction hrun with
  | init => cases hengaged
  | @step history events state state' action hrun hstep ih =>
      have harm := arm_of_apply hstep
      have hreader' := harm.reader_ne_crashed hreader
      have hon := ih hreader'
      cases harm with
      | @reader _ next _ =>
          have hsaid : emitted (state.started - 1)
              (next.effect.map Event.reader).toList = [] :=
            (Idle.of_reader _).emitted
          exact (hon hengaged hlistens).same rfl
            (by rw [hsaid]; exact (List.append_nil _).symm)
            (LoopRests.of_reader _).sent (LoopRests.of_reader _).calls
      | @attempt number attempt next hattempt harm =>
          have hnewest := hrun.inTurn.newest (.inr hreader')
            hrun.length_attempts hattempt harm
          obtain rfl : number = state.started - 1 := by omega
          refine (hon hengaged hlistens).same rfl ?_
            (LoopRests.of_attempt _ _).sent (LoopRests.of_attempt _ _).calls
          rw [emitted_attempt]
          exact if_pos hlistens
      | elapse | notice _ _ _ _ =>
          exact (hon hengaged hlistens).same rfl (List.append_nil _).symm rfl
            rfl
      | launch hphase =>
          obtain ⟨rounds, hrelays⟩ :=
            (hrun.forwards hreader').goesOn (by rw [State.listens, hphase])
          refine ⟨history, [], rfl, rfl, fun hmem => ?_, ?_⟩
          · have := hrun.inTurn.givenUp hmem hreader'
            rw [hphase] at this
            cases this
          · show [] ++ state.channel = emitted state.started (history ++ _)
            rw [hrelays.clear (by rw [hphase]; rfl), emitted_append,
              (hrun.idle_unstarted (Nat.le_refl _)).emitted]
            rfl
      | forward hphase hchannel hwrote | drain hphase hchannel hwrote =>
          have hbefore := hon (by rw [hphase]; rfl)
            (by rw [State.listens, hphase])
          cases hwrote with
          | sent _ => exact hbefore.pass hchannel _ _
          | unsent _ => cases hlistens
      | join hphase _ _ | abandon hphase _ _ =>
          exact (hon (by rw [hphase]; rfl) (by rw [State.listens, hphase])).same
            rfl (List.append_nil _).symm rfl rfl
      | halt _ _ hwrote | retry _ _ _ hwrote | conclude _ _ _ hwrote =>
          cases hwrote <;> cases hengaged
      | proceed _ _ | stop _ | reap _ _ | giveUp _ _ | sweep _ =>
          cases hengaged
      | collapse _ _ _ _ => cases hlistens

/-- There is one last start of an attempt. -/
theorem eq_of_calls_eq_nil {before before' during during' : List Event}
    {number' : Nat}
    (heq : before ++ .started number :: during
      = before' ++ .started number' :: during')
    (h : calls during = []) (h' : calls during' = []) :
    before = before' ∧ during = during' := by
  -- a start that comes later would be one in the other rest
  have hlater : ∀ {first : Event} {between rest rest' : List Event} {n : Nat},
      first :: rest = (first :: between) ++ .started n :: rest' →
      calls rest ≠ [] := by
    intro first between rest rest' n hrest
    have hrest' : rest = between ++ .started n :: rest' :=
      (List.cons.inj hrest).2
    rw [hrest', calls_append]
    exact fun hnil => by cases (List.append_eq_nil_iff.mp hnil).2
  rcases List.append_eq_append_iff.mp heq with ⟨between, rfl, hrest⟩
    | ⟨between, rfl, hrest⟩
  · cases between with
    | nil => exact ⟨(List.append_nil _).symm, (List.cons.inj hrest).2⟩
    | cons first between =>
        obtain ⟨rfl, -⟩ := List.cons.inj hrest
        exact absurd h (hlater hrest)
  · cases between with
    | nil => exact ⟨List.append_nil _, (List.cons.inj hrest).2.symm⟩
    | cons first between =>
        obtain ⟨rfl, -⟩ := List.cons.inj hrest
        exact absurd h' (hlater hrest)

/-- What was written for an attempt that came to its end is a whole
word. -/
def Worded (history : List Event) : Prop :=
  ∀ before number during verdict step after,
    history = before
      ++ .started number :: (during ++ .recorded verdict step :: after) →
    calls during = [] → .abandoned ∉ during →
    sent during ∈ Message.dialogues

/-- A step that records nothing. -/
theorem Worded.same (h : Worded history) (hverdicts : verdicts events = []) :
    Worded (history ++ events) := by
  intro before number during verdict step after heq hcalls hnot
  rw [← List.cons_append, ← List.append_assoc] at heq
  have hmem : .recorded verdict step ∉ events := fun hmem =>
    absurd (List.filterMap_eq_nil_iff.mp hverdicts _ hmem)
      (Option.some_ne_none _)
  obtain ⟨later, -, hhistory⟩ := split_append heq hmem
  refine h before number during verdict step later ?_ hcalls hnot
  rw [hhistory, List.append_assoc, List.cons_append]

/-- A verdict is recorded, and something else is written. -/
theorem Worded.record (h : Worded history)
    (hrun : Run setup (.start setup (.new context maxFailures) sink)
      history state) (hreader : state.reader.phase ≠ .crashed)
    {verdict : Verdict} (hphase : state.phase = .settling verdict)
    (hclear : state.channel = []) {step : Step} {last : Event}
    (hlast : last.verdict? = none) :
    Worded (history ++ [.recorded verdict step, last]) := by
  have hnow : Worded (history ++ [.recorded verdict step]) := by
    intro before number during verdict' step' after heq hcalls hnot
    rw [← List.cons_append, ← List.append_assoc] at heq
    rcases split_snoc heq with ⟨hhistory, -, -⟩ | ⟨later, -, hhistory⟩
    · -- the attempt that is recorded now is over
      obtain ⟨before', during', hsplit, hcalls', hnot', hwritten⟩ :=
        hrun.attends hreader (by rw [hphase]; rfl)
          (by rw [State.listens, hphase])
      obtain ⟨rfl, rfl⟩ := eq_of_calls_eq_nil (hsplit.symm.trans hhistory)
        hcalls' hcalls
      rw [hclear, List.append_nil] at hwritten
      have hgiven : .abandoned ∉ history := by
        rw [hsplit, List.mem_append, List.mem_cons, not_or, not_or]
        exact ⟨hnot', by simp, hnot⟩
      have hcount := hrun.started_of_settling hphase
      have hlt : state.started - 1 < state.inOrder.length := by
        rw [State.inOrder, List.length_reverse, hrun.length_attempts]
        omega
      have hplace := List.getElem?_eq_getElem hlt
      rw [hwritten]
      exact (hrun.speaks hplace).dialogue (hrun.inTurn.quiet hgiven
        (by rw [hphase]; rfl) _ (List.mem_of_getElem? hplace))
    · refine h before number during verdict' step' later ?_ hcalls hnot
      rw [hhistory, List.append_assoc, List.cons_append]
  rw [List.append_cons]
  exact hnow.same (by simp [verdicts, hlast])

theorem Run.worded
    (hrun : Run setup (.start setup (.new context maxFailures) sink)
      history state) (hreader : state.reader.phase ≠ .crashed) :
    Worded history := by
  induction hrun with
  | init => exact fun before _ _ _ _ _ heq => by cases before <;> cases heq
  | step action hrun hstep ih =>
      have harm := arm_of_apply hstep
      have hreader' := harm.reader_ne_crashed hreader
      have hbefore := ih hreader'
      cases harm with
      | reader _ => exact hbefore.same (LoopRests.of_reader _).verdicts
      | attempt _ _ => exact hbefore.same (LoopRests.of_attempt _ _).verdicts
      | stop _ => exact hbefore.same (LoopRests.of_cancel _ _).verdicts
      | sweep _ => exact hbefore.same (LoopRests.of_sweep _).verdicts
      | halt _ _ hwrote | forward _ _ hwrote | drain _ _ hwrote =>
          cases hwrote <;> exact hbefore.same rfl
      | retry hphase hclear _ hwrote | conclude hphase hclear _ hwrote =>
          cases hwrote <;>
            exact hbefore.record hrun hreader' hphase hclear rfl
      | _ => exact hbefore.same rfl

-- ============================================================== the tally

/-- How many answers are on their way to the backend. -/
def State.handing (state : State) : Nat :=
  state.inOrder.countP Attempt.isHanding

/-- A busy line that is said is an answer on its way, and what is on its
way arrives. -/
theorem Attempt.Arm.tally {clock : Nat} {slot : Slot} {attempt : Attempt}
    {next : Attempt.Next} (harm : Attempt.Arm clock slot attempt next)
    (number : Nat) :
    (next.effect.bind Attempt.Effect.said?).toList.count (.busy true)
        + (if attempt.isHanding then 1 else 0)
      = (answers (next.effect.map (Event.attempt number)).toList).length
        + if next.attempt.isHanding then 1 else 0 := by
  cases harm with
  | converse harm => cases harm <;> rfl
  | @reply reply _ _ => cases reply <;> rfl
  | _ => rfl

theorem State.handing_withAttempt
    (hlen : state.attempts.length = state.started) {attempt : Attempt}
    (hattempt : state.attempt? number = some attempt) (next : Attempt.Next) :
    (state.withAttempt number next).handing
        + (if attempt.isHanding then 1 else 0)
      = state.handing + if next.attempt.isHanding then 1 else 0 := by
  obtain ⟨before, after, hsplit, hset, -⟩ :=
    inOrder_split hlen hattempt next
  simp only [handing, hsplit, hset, List.countP_append, List.countP_cons]
  omega

/-- The busy lines that were said, and the answers. -/
structure Tally (history : List Event) (state : State) : Prop where
  atMost : (sent history ++ state.channel).count (.busy true)
    ≤ (answers history).length + state.handing
  listening : state.listens = true →
    (sent history ++ state.channel).count (.busy true)
      = (answers history).length + state.handing
  closed : .abandoned ∉ history →
    (∃ outcome, state.phase.ending? = some (.ok outcome)) →
    (sent history).count (.busy true)
      = (answers history).length + state.handing

/-- A step that neither says nor writes a busy line, and hands nothing
over. -/
theorem Tally.same (h : Tally history state)
    (hwords : (sent (history ++ events) ++ state'.channel).count (.busy true)
      = (sent history ++ state.channel).count (.busy true))
    (hanswers : answers events = [])
    (hhanding : state'.handing = state.handing)
    (hlistens : state'.listens = true → state.listens = true)
    (hclosed : .abandoned ∉ history ++ events →
      (∃ outcome, state'.phase.ending? = some (.ok outcome)) →
      (sent (history ++ events)).count (.busy true)
        = (answers history).length + state.handing) :
    Tally (history ++ events) state' := by
  have hsame : answers (history ++ events) = answers history := by
    rw [answers_append, hanswers, List.append_nil]
  refine ⟨?_, ?_, ?_⟩ <;> rw [hsame, hhanding]
  · rw [hwords]
    exact h.atMost
  · rw [hwords]
    exact h.listening ∘ hlistens
  · exact hclosed

/-- A step that leaves the loop where it is. -/
theorem Tally.rest (h : Tally history state)
    (hchannel : state'.channel = state.channel)
    (hanswers : answers events = [])
    (hhanding : state'.handing = state.handing)
    (hlistens : state'.listens = true → state.listens = true)
    (hending : state'.phase.ending? = state.phase.ending?)
    (hrests : LoopRests events) : Tally (history ++ events) state' := by
  have hsent : sent (history ++ events) = sent history := by
    rw [sent_append, hrests.sent, List.append_nil]
  refine h.same (by rw [hsent, hchannel]) hanswers hhanding hlistens ?_
  rw [hsent, hending, List.mem_append, or_iff_left hrests.abandoned]
  exact h.closed

theorem Tally.attempt (h : Tally history state) (hturn : InTurn history state)
    (hlen : state.attempts.length = state.started) {attempt : Attempt}
    {next : Attempt.Next} (hattempt : state.attempt? number = some attempt)
    (harm : Attempt.Arm state.clock state.session.slot attempt next) :
    Tally (history ++ (next.effect.map (Event.attempt number)).toList)
      (state.withAttempt number next) := by
  have hrests := LoopRests.of_attempt number next.effect
  have htally := Attempt.Arm.tally harm number
  have hhanding := State.handing_withAttempt hlen hattempt next
  have hsent : sent (history
      ++ (next.effect.map (Event.attempt number)).toList) = sent history := by
    rw [sent_append, hrests.sent, List.append_nil]
  have hwords : (sent history ++ (state.withAttempt number next).channel).count
      (.busy true) = (sent history ++ state.channel).count (.busy true)
        + if state.listens then (next.effect.bind
          Attempt.Effect.said?).toList.count (.busy true) else 0 := by
    unfold State.withAttempt
    split
    · rw [← List.append_assoc, List.count_append]
    · rfl
  refine ⟨?_, ?_, ?_⟩
  · rw [hsent, hwords, answers_append, List.length_append]
    have := h.atMost
    split <;> omega
  · intro hlistens
    have hlistens' : state.listens = true := hlistens
    rw [hsent, hwords, if_pos hlistens', answers_append, List.length_append,
      h.listening hlistens']
    omega
  · rintro hnot ⟨outcome, hending⟩
    -- all attempts are over by then
    have hending' : state.phase.ending? = some (.ok outcome) := hending
    have hquiet : state.phase.isQuiet = true := by
      cases hphase : state.phase <;> simp_all [Phase.ending?, Phase.isQuiet]
      all_goals rfl
    rw [State.attempt?_eq hlen] at hattempt
    have hover := hturn.quiet (fun hmem => hnot (List.mem_append_left _ hmem))
      hquiet attempt (List.mem_of_getElem? hattempt)
    rw [harm.not_isOver] at hover
    cases hover

/-- A message of the loop's own is written, and the loop goes on or ends. -/
theorem Tally.report (h : Tally history state) {middle : State}
    {message : Message} {next : Phase}
    (hwrote : State.Wrote middle message next state' events)
    (hmessage : message ≠ .busy true) (hclear : state.channel = [])
    (hlistens : state.listens = true)
    (hchannel : middle.channel = state.channel)
    (horder : middle.inOrder = state.inOrder) :
    Tally (history ++ events) state' := by
  have hcount : [message].count (.busy true) = 0 :=
    List.count_eq_zero.mpr fun hmem =>
      hmessage (List.mem_singleton.mp hmem).symm
  have hbefore := h.listening hlistens
  rw [hclear, List.append_nil] at hbefore
  cases hwrote with
  | sent _ =>
      have hsent : (sent (history ++ [.sent message])).count (.busy true)
          = (sent history).count (.busy true) := by
        rw [sent_append, List.count_append]
        exact (congrArg (_ + ·) hcount).trans (Nat.add_zero _)
      refine h.same ?_ rfl (congrArg (List.countP _) horder) (fun _ => hlistens)
        fun _ _ => hsent.trans hbefore
      show (sent _ ++ middle.channel).count _ = _
      rw [hchannel, hclear, List.append_nil, List.append_nil, hsent]
  | @unsent cause _ _ =>
      have hsent : sent (history ++ [.unsent message cause]) = sent history :=
        (sent_append _ _).trans (List.append_nil _)
      refine h.same ?_ rfl (congrArg (List.countP _) horder) (fun _ => hlistens)
        fun _ ⟨_, hending⟩ => by cases hending
      show (sent _ ++ middle.channel).count _ = _
      rw [hchannel, hsent]

/-- The next message in the channel is written, or lost with a failure. -/
theorem Tally.pass (h : Tally history state) {message : Message}
    {channel : List Message} {next : Phase}
    (hwrote : State.Wrote { state with channel } message next state' events)
    (hchannel : state.channel = message :: channel)
    (hnext : next.ending? = none) (hlistens : state.listens = true) :
    Tally (history ++ events) state' := by
  cases hwrote with
  | sent _ =>
      refine h.same ?_ rfl rfl (fun _ => hlistens) fun _ ⟨_, hending⟩ => ?_
      · show (sent _ ++ channel).count _ = _
        rw [hchannel, List.append_cons (sent history), sent_append]
        rfl
      · have hending' : next.ending? = some (.ok _) := hending
        rw [hnext] at hending'
        cases hending'
  | @unsent cause _ _ =>
      refine ⟨?_, (fun hyes => by cases hyes),
        fun _ ⟨_, hending⟩ => by cases hending⟩
      have hanswers : answers (history ++ [.unsent message cause])
          = answers history := (answers_append _ _).trans (List.append_nil _)
      have hsent : sent (history ++ [.unsent message cause])
          = sent history := (sent_append _ _).trans (List.append_nil _)
      rw [hanswers, hsent]
      refine Nat.le_trans ?_ h.atMost
      rw [hchannel]
      exact ((List.sublist_cons_self message channel).append_left _).count_le _

theorem Tally.step (h : Tally history state) (hturn : InTurn history state)
    (hlen : state.attempts.length = state.started)
    (hclear : state.phase = .deciding → state.channel = [])
    (harm : Arm setup state action state' events) :
    Tally (history ++ events) state' := by
  -- the loop goes on without a word
  have hon : sent events = [] → state'.channel = state.channel →
      answers events = [] → state'.handing = state.handing →
      (state'.listens = true → state.listens = true) →
      state'.phase.ending? = none → Tally (history ++ events) state' := by
    intro hsent hchannel hanswers hhanding hlistens hending
    refine h.same ?_ hanswers hhanding hlistens fun _ ⟨_, hsome⟩ => ?_
    · rw [sent_append, hsent, List.append_nil, hchannel]
    · rw [hending] at hsome
      cases hsome
  have hrecorded : ∀ {verdict step}, state.phase.ending? = none →
      Tally (history ++ [.recorded verdict step]) state := by
    intro verdict step hnone
    refine h.same ?_ rfl rfl id fun _ ⟨_, hsome⟩ => ?_
    · rw [sent_append, show sent [.recorded verdict step] = [] from rfl,
        List.append_nil]
    · rw [hnone] at hsome
      cases hsome
  cases harm with
  | @reader _ next _ =>
      exact h.rest rfl (answers_reader _) rfl id rfl (.of_reader next.effect)
  | attempt hattempt harm => exact h.attempt hturn hlen hattempt harm
  | elapse => exact h.rest rfl rfl rfl id rfl .nil
  | halt hphase _ hwrote =>
      exact h.report hwrote (Outcome.message_ne_busy _ _) (hclear hphase)
        (by rw [State.listens, hphase]) rfl rfl
  | retry hphase hempty _ hwrote =>
      rw [List.append_cons]
      exact (hrecorded (by rw [hphase]; rfl)).report hwrote
        (fun heq => by cases heq) hempty (by rw [State.listens, hphase])
        rfl rfl
  | conclude hphase hempty _ hwrote =>
      rw [List.append_cons]
      exact (hrecorded (by rw [hphase]; rfl)).report hwrote
        (Outcome.message_ne_busy _ _) hempty (by rw [State.listens, hphase])
        rfl rfl
  | forward hphase hchannel hwrote | drain hphase hchannel hwrote =>
      exact h.pass hwrote hchannel rfl (by rw [State.listens, hphase])
  | proceed hphase _ | join hphase _ _ | abandon hphase _ _ =>
      exact hon rfl rfl rfl rfl (fun _ => by rw [State.listens, hphase]) rfl
  | notice _ _ _ _ => exact h.rest rfl rfl rfl id rfl .nil
  | collapse hphase _ _ _ =>
      exact hon rfl rfl rfl rfl (fun hlistens => by cases hlistens) rfl
  | launch hphase =>
      refine hon rfl rfl rfl ?_ (fun _ => by rw [State.listens, hphase]) rfl
      show List.countP _ (_ :: state.attempts).reverse = _
      rw [List.reverse_cons, List.countP_append]
      rfl
  | stop hphase =>
      exact h.rest rfl (by split <;> rfl) rfl
        (fun hlistens => by cases hlistens) (by rw [hphase]; rfl)
        (.of_cancel _ _)
  | reap hphase _ | giveUp hphase _ =>
      exact h.rest rfl rfl rfl (fun hlistens => by cases hlistens)
        (by rw [hphase]; rfl) .nil
  | sweep hphase =>
      exact h.rest rfl (by cases state.session.slot.pending <;> rfl) rfl
        (fun hlistens => by cases hlistens) (by rw [hphase]; rfl)
        (.of_sweep _)

/-- In every run in which the reader does not break down. -/
theorem Run.tally
    (hrun : Run setup (.start setup (.new context maxFailures) sink)
      history state) (hreader : state.reader.phase ≠ .crashed) :
    Tally history state := by
  induction hrun with
  | init => exact ⟨Nat.le_refl _, fun _ => rfl, fun _ _ => rfl⟩
  | step action hrun hstep ih =>
      have harm := arm_of_apply hstep
      have hreader' := harm.reader_ne_crashed hreader
      refine (ih hreader').step hrun.inTurn hrun.length_attempts
        (fun hphase => ?_) harm
      obtain ⟨rounds, hrelays⟩ :=
        (hrun.forwards hreader').goesOn (by rw [State.listens, hphase])
      exact hrelays.clear (by rw [hphase]; rfl)

/-- The answers that are on their way can arrive, whatever else waits. -/
theorem exists_handed (setup : Setup) (count : Nat)
    (hlen : state.attempts.length = state.started)
    (hcount : state.handing = count) :
    ∃ later state', Run setup state later state' ∧ sent later = []
      ∧ (answers later).length = count ∧ state'.handing = 0 := by
  induction count generalizing state with
  | zero => exact ⟨[], state, .init, rfl, rfl, hcount⟩
  | succ count ih =>
      obtain ⟨attempt, hmem, hhanding⟩ := List.countP_pos_iff.mp
        (show 0 < state.inOrder.countP Attempt.isHanding by
          have : state.inOrder.countP Attempt.isHanding = count + 1 := hcount
          omega)
      obtain ⟨number, hnumber⟩ := List.getElem?_of_mem hmem
      have hattempt : state.attempt? number = some attempt :=
        (State.attempt?_eq hlen number).trans hnumber
      -- the attempt hands its answer over
      obtain ⟨line, rest, replies, rfl⟩ : ∃ line rest replies,
          attempt = ⟨.conversing (.over (some line)) rest, replies⟩ := by
        obtain ⟨activity, replies⟩ := attempt
        unfold Attempt.isHanding at hhanding
        split at hhanding
        case h_1 line rest heq => exact ⟨line, rest, replies, by cases heq; rfl⟩
        case h_2 => cases hhanding
      have hsome : (apply setup (.attempt number) state).isSome = true := by
        simp [apply, State.attemptStep?, hattempt, Attempt.step?]
      obtain ⟨⟨next, events⟩, hstep⟩ := Option.isSome_iff_exists.mp hsome
      cases arm_of_apply hstep with
      | attempt hattempt' harm =>
          cases hattempt.symm.trans hattempt'
          cases harm with
          | converse harm => cases harm
          | reply =>
              have hhanding := State.handing_withAttempt hlen hattempt
                ⟨⟨.running (rest (some line)), replies ++ [some line]⟩,
                  state.session.slot, some (.replied (some line))⟩
              obtain ⟨later, last, hlater, hsent, hanswers, hnone⟩ :=
                ih ((List.length_set ..).trans hlen)
                  (Nat.add_right_cancel (hhanding.trans hcount))
              refine ⟨_, last, (Run.step _ .init hstep).trans hlater, ?_, ?_,
                hnone⟩
              · rw [sent_append, hsent]
                rfl
              · rw [answers_append, List.length_append, hanswers]
                exact Nat.add_comm 1 count

-- ============================================================ the signals

/-- No attempt is left that could hand anything over. -/
theorem InTurn.handing_eq_zero (h : InTurn history state)
    (habandoned : .abandoned ∉ history) (hquiet : state.phase.isQuiet = true) :
    state.handing = 0 := by
  refine List.countP_eq_zero.mpr fun attempt hmem => ?_
  rw [Attempt.not_isHanding_of_isOver (h.quiet habandoned hquiet attempt hmem)]
  exact Bool.false_ne_true

/-- A readiness without the busy line has lapsed when the terminal line is
out. -/
theorem lapses_of_head? {before after : List Event} {outcome : Outcome}
    (heq : history = before ++ .sent (.busy false) :: after)
    (hhead : (sent after).head? ≠ some (.busy true))
    (hlast : (sent history).getLast? = some outcome.message) :
    Lapses (sent history) := by
  have hsplit : sent history = sent before ++ .busy false :: sent after := by
    rw [heq, sent_append]
    rfl
  cases hafter : sent after with
  | nil =>
      -- the terminal line is still to come
      rw [hsplit, hafter, List.getLast?_concat] at hlast
      exact absurd (Option.some.inj hlast).symm (outcome.message_ne_busy false)
  | cons message rest =>
      rw [hafter] at hhead
      exact ⟨sent before, message, rest, by rw [hsplit, hafter],
        fun heq => hhead (by rw [heq]; rfl)⟩

/-- What the screen locker can tell from the signals of a run. -/
structure Signals (setup : Setup) (history : List Event) (state : State) :
    Prop where
  -- What is written for an attempt, from its start to its record, is a
  -- whole word, unless the attempt was given up.
  words : ∀ before number during verdict step after,
    history = before
      ++ .started number :: (during ++ .recorded verdict step :: after) →
    calls during = [] → .abandoned ∉ during →
    sent during ∈ Message.dialogues
  -- There is no busy line without an answer. The answer follows its line,
  -- so some of them may still be on their way, and these can all arrive.
  atMost : (sent history).count (.busy true)
    ≤ (answers history).length + state.handing
  arrive : ∃ later state', Run setup state later state' ∧ sent later = []
    ∧ (answers later).length = state.handing
  exact : ∀ ending, state.phase = .returned ending → .abandoned ∉ history →
    (sent history).count (.busy true) = (answers history).length
  -- Behind a readiness that something else follows the busy state is not
  -- raised, no failure is reported, and nothing is answered. Only an attempt
  -- that was given up may, with the terminal line behind its readiness, still
  -- get the answer to this very prompt.
  unanswered : ∀ before message after,
    history = before ++ .sent (.busy false) :: after →
    (sent after).head? = some message → message ≠ .busy true →
    .busy true ∉ sent after ∧ .failure ∉ sent after
      ∧ (answers after).length ≤ 1
      ∧ ((.abandoned ∈ history → message.isTerminal = false) →
        answers after = [])
  -- Behind a prompt that got no answer nobody gets one.
  missed : ∀ before number after, history = before
      ++ .attempt number (.conversed (.emit (.busy false))) :: after →
    (∀ line, (replies number after).head? ≠ some (some line)) →
    answers after = []
  -- The run comes to its return, unless the loop breaks down.
  finishes : state.phase ≠ .crashed → ∀ rest, Finishes setup rest state
  -- With such a prompt it ends as cancelled, unless the backend accepts all
  -- the same.
  ends : ∀ outcome, state.phase = .returned (.ok outcome) → ∀ before after,
    history = before ++ .sent (.busy false) :: after →
    (sent after).head? ≠ some (.busy true) →
    (sent history).getLast? = some .cancelled
        ∧ (∃ reason, outcome = .cancelled reason)
      ∨ outcome = .authenticated
        ∧ (verdicts history).getLast? = some .accepted

/-- The signals of a run, for every backend, every input and every order of
steps in which the reader does not break down and everything can be
written. -/
theorem Run.signals
    (hrun : Run setup (.start setup (.new context maxFailures) sink)
      history state) (hreader : state.reader.phase ≠ .crashed)
    (hunsent : ∀ message cause, .unsent message cause ∉ history) :
    Signals setup history state := by
  have hnot : ∀ cause, state.phase.ending? ≠ some (.error cause) := by
    intro cause hending
    obtain ⟨message, cause', hmem⟩ := hrun.unsent_of_ending hending
    exact hunsent message cause' hmem
  have hclosing := (hrun.heeds hreader).closing hnot
  have htally := hrun.tally hreader
  refine ⟨hrun.worded hreader, ?_, ?_, ?_, ?_, ?_,
    hrun.finishes hreader, ?_⟩
  · have := htally.atMost
    rw [List.count_append] at this
    omega
  · obtain ⟨later, last, hlater, hsent, hanswers, -⟩ :=
      exists_handed setup _ hrun.length_attempts rfl
    exact ⟨later, last, hlater, hsent, hanswers⟩
  · intro ending hreturned habandoned
    have hending : state.phase.ending? = some ending := by
      rw [hreturned]
      rfl
    obtain ⟨outcome, rfl⟩ : ∃ outcome, ending = .ok outcome := by
      cases ending with
      | ok outcome => exact ⟨outcome, rfl⟩
      | error cause => exact absurd hending (hnot cause)
    have hnone := hrun.inTurn.handing_eq_zero habandoned
      (by rw [hreturned]; rfl)
    have := htally.closed habandoned ⟨outcome, hending⟩
    omega
  · intro before message after heq hhead hne
    obtain ⟨rest, hrest⟩ := List.head?_eq_some_iff.mp hhead
    obtain ⟨hbusy, hfailure⟩ := hclosing.mute (sent before) message rest
      (by rw [heq, sent_append, ← hrest]; rfl) hne
    rw [hrest]
    have hlate := (hclosing.late before message after heq hhead hne).2
    exact ⟨hbusy, hfailure, by omega, fun hterminal =>
      (hclosing.silent before message after heq hhead hne hterminal).2⟩
  · intro before number after heq hreply
    cases hrun.missing hreader heq with
    | asked _ hanswers _ _ | replied _ hanswers _ _ _ | lapsed _ hanswers =>
        exact hanswers
    | answered hhead => exact absurd hhead (hreply _)
  · intro outcome hreturned before after heq hhead
    have hending : state.phase.ending? = some (.ok outcome) := by
      rw [hreturned]
      rfl
    obtain ⟨rounds, hclosed⟩ := hrun.books.isClosed outcome hending
    obtain ⟨body, hsent, -⟩ := hclosed.written
    have hlast : (sent history).getLast? = some outcome.message := by
      rw [hsent]
      exact List.getLast?_concat ..
    rcases hclosing.ends outcome hending (lapses_of_head? heq hhead hlast)
      with ⟨reason, rfl⟩ | rfl
    · exact .inl ⟨hlast, reason, rfl⟩
    · exact .inr ⟨rfl, hclosed.last.mpr rfl⟩

/-- A wrong password, and then the end of the input: the second prompt goes
without an answer, and the run ends as cancelled. -/
theorem signals_end_of_input :
    ∃ history state,
      Run ⟨.fixed {}, 8, 0⟩
        (.start ⟨.fixed {}, 8, 0⟩ (.new ⟨"user", none⟩ 3) {}) history state
      ∧ state.phase = .returned (.ok (.cancelled .inputClosed))
      ∧ state.reader.phase ≠ .crashed
      ∧ (∀ message cause, .unsent message cause ∉ history)
      ∧ sent history = [.prompt "Password:", .busy false, .busy true, .failure,
        .prompt "Password:", .busy false, .cancelled]
      ∧ (sent history).count (.busy true) = (answers history).length
      ∧ answers (history.drop 18) = [] := by
  obtain ⟨history, state, hrun, hview⟩ := Run.exists_of_replay
    ⟨.fixed {}, 8, 0⟩
    (.start ⟨.fixed {}, 8, 0⟩ (.new ⟨"user", none⟩ 3) {})
    [.move .check, .move .launch, .attempt 0, .attempt 0, .attempt 0,
      .reader .step, .reader (.poll .ready),
      .reader (.read (.bytes [112, 119, 10])), .reader .step, .reader .step,
      .attempt 0, .attempt 0, .attempt 0, .attempt 0, .move .forward,
      .move .forward, .move .forward, .move .join, .move .settle,
      .move .check, .move .launch, .attempt 1, .attempt 1, .attempt 1,
      .move .forward, .move .forward, .reader .step, .reader .step,
      .reader (.poll .ready), .reader (.read .endOfInput), .reader .step,
      .reader .step, .attempt 1, .attempt 1, .attempt 1, .move .join,
      .move .settle, .move .stop, .move .reap, .move .sweep]
    (fun state history => decide (
      state.phase.returned? = some (.ok (.cancelled .inputClosed))
        ∧ state.reader.phase ≠ .crashed
        ∧ (∀ event ∈ history, event.isMishap = false)
        ∧ sent history = [.prompt "Password:", .busy false, .busy true,
          .failure, .prompt "Password:", .busy false, .cancelled]
        ∧ history[17]? = some (Event.sent (.busy false))
        ∧ sent (history.drop 18) = [.cancelled]))
    true (by decide +kernel)
  obtain ⟨hending, hreader, hsmooth, hsent, hready, hrest⟩ :=
    of_decide_eq_true hview
  have hreturned := Phase.eq_of_returned? hending
  have hunsent : ∀ message cause, .unsent message cause ∉ history :=
    fun message cause hmem => by cases hsmooth _ hmem
  have hsignals := hrun.signals hreader hunsent
  obtain ⟨hlt, hget⟩ := List.getElem?_eq_some_iff.mp hready
  have hsplit : history = history.take 17
      ++ .sent (.busy false) :: history.drop 18 := by
    rw [← hget, List.getElem_cons_drop, List.take_append_drop]
  refine ⟨history, state, hrun, hreturned, hreader, hunsent, hsent,
    hsignals.exact _ hreturned (fun hmem => by cases hsmooth _ hmem), ?_⟩
  exact (hsignals.unanswered _ .cancelled _ hsplit (by rw [hrest]; rfl)
    (by decide)).2.2.2 fun hmem => by cases hsmooth _ hmem

/-- The busy line and the answer are two steps, and an attempt can be given
up between them, or in front of both. In the first run the busy line is
written and the answer never handed over; in the second the answer is handed
over behind the terminal line, to a prompt that seemed to have lapsed. In the
third, whose deadline no clock can show, nothing follows the prompt. -/
theorem signals_astray :
    (∃ history state,
      Run ⟨.fixed {}, 8, 5⟩
        (.start ⟨.fixed {}, 8, 5⟩ (.new ⟨"user", none⟩ 3) {}) history state
      ∧ state.phase = .returned (.ok (.cancelled .inputClosed))
      ∧ state.reader.phase ≠ .crashed
      ∧ (∀ message cause, .unsent message cause ∉ history)
      ∧ (sent history).count (.busy true) = 1 ∧ answers history = [])
    ∧ (∃ before after state,
      Run ⟨.fixed {}, 8, 5⟩
        (.start ⟨.fixed {}, 8, 5⟩ (.new ⟨"user", none⟩ 3) {})
        (before ++ .sent (.busy false) :: after) state
      ∧ state.phase = .returned (.ok (.cancelled .inputClosed))
      ∧ state.reader.phase ≠ .crashed
      ∧ (∀ message cause,
        .unsent message cause ∉ before ++ .sent (.busy false) :: after)
      ∧ sent after = [.cancelled] ∧ answers after = [[112, 119]])
    ∧ ∃ history state,
      Run ⟨.fixed {}, 8, clockLimit⟩
        (.start ⟨.fixed {}, 8, clockLimit⟩ (.new ⟨"user", none⟩ 3) {})
        history state
      ∧ state.phase = .crashed
      ∧ state.reader.phase ≠ .crashed
      ∧ (∀ message cause, .unsent message cause ∉ history)
      ∧ sent history = [.prompt "Password:", .busy false] := by
  refine ⟨?_, ?_, ?_⟩
  · obtain ⟨history, state, hrun, hview⟩ := Run.exists_of_replay
      ⟨.fixed {}, 8, 5⟩
      (.start ⟨.fixed {}, 8, 5⟩ (.new ⟨"user", none⟩ 3) {})
      [.move .check, .move .launch, .attempt 0, .attempt 0, .attempt 0,
        .reader .step, .reader (.poll .ready),
        .reader (.read (.bytes [112, 119, 10])), .reader .step, .reader .step,
        .attempt 0, .attempt 0, .reader .step, .reader .step,
        .reader (.poll .ready), .reader (.read .endOfInput), .reader .step,
        .reader .step, .move .forward, .move .forward, .move .forward,
        .move .notice, .elapse 5, .move .abandon, .move .settle, .move .stop,
        .move .reap, .move .sweep]
      (fun state history => decide (
        state.phase.returned? = some (.ok (.cancelled .inputClosed))
          ∧ state.reader.phase ≠ .crashed
          ∧ (∀ event ∈ history, failed [event] = [])
          ∧ (sent history).count (.busy true) = 1
          ∧ answers history = []))
      true (by decide +kernel)
    obtain ⟨hending, hreader, hwritten, hbusy, hanswers⟩ :=
      of_decide_eq_true hview
    exact ⟨history, state, hrun, Phase.eq_of_returned? hending, hreader,
      fun message cause hmem => (by cases hwritten _ hmem), hbusy, hanswers⟩
  · obtain ⟨history, state, hrun, hview⟩ := Run.exists_of_replay
      ⟨.fixed {}, 8, 5⟩
      (.start ⟨.fixed {}, 8, 5⟩ (.new ⟨"user", none⟩ 3) {})
      [.move .check, .move .launch, .attempt 0, .attempt 0, .attempt 0,
        .reader .step, .reader (.poll .ready),
        .reader (.read (.bytes [112, 119, 10])), .reader .step, .reader .step,
        .attempt 0, .reader .step, .reader .step,
        .reader (.poll .ready), .reader (.read .endOfInput), .reader .step,
        .reader .step, .move .forward, .move .forward,
        .move .notice, .elapse 5, .move .abandon, .move .settle, .attempt 0,
        .attempt 0, .move .stop, .move .reap, .move .sweep]
      (fun state history => decide (
        state.phase.returned? = some (.ok (.cancelled .inputClosed))
          ∧ state.reader.phase ≠ .crashed
          ∧ (∀ event ∈ history, failed [event] = [])
          ∧ history[8]? = some (Event.sent (.busy false))
          ∧ sent (history.drop 9) = [.cancelled]
          ∧ answers (history.drop 9) = [[112, 119]]))
      true (by decide +kernel)
    obtain ⟨hending, hreader, hwritten, hready, hsent, hanswers⟩ :=
      of_decide_eq_true hview
    obtain ⟨hlt, hget⟩ := List.getElem?_eq_some_iff.mp hready
    have hsplit : history = history.take 8
        ++ .sent (.busy false) :: history.drop 9 := by
      rw [← hget, List.getElem_cons_drop, List.take_append_drop]
    refine ⟨history.take 8, history.drop 9, state, ?_,
      Phase.eq_of_returned? hending, hreader, ?_, hsent, hanswers⟩
    · rw [← hsplit]
      exact hrun
    · rw [← hsplit]
      exact fun message cause hmem => (by cases hwritten _ hmem)
  · obtain ⟨history, state, hrun, hview⟩ := Run.exists_of_replay
      ⟨.fixed {}, 8, clockLimit⟩
      (.start ⟨.fixed {}, 8, clockLimit⟩ (.new ⟨"user", none⟩ 3) {})
      [.move .check, .move .launch, .attempt 0, .attempt 0, .attempt 0,
        .move .forward, .move .forward, .reader .step,
        .reader (.poll .ready), .reader (.read .endOfInput), .reader .step,
        .reader .step, .move .notice]
      (fun state history => decide (state.phase.hasCrashed = true
        ∧ state.reader.phase ≠ .crashed
        ∧ (∀ event ∈ history, failed [event] = [])
        ∧ sent history = [.prompt "Password:", .busy false]))
      true (by decide +kernel)
    obtain ⟨hcrashed, hreader, hwritten, hsent⟩ := of_decide_eq_true hview
    exact ⟨history, state, hrun, Phase.eq_of_hasCrashed hcrashed, hreader,
      fun message cause hmem => (by cases hwritten _ hmem), hsent⟩

end Dispatch

end ScreenUnlock
