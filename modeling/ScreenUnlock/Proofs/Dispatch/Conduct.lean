/-
What each attempt of a run did, and what came of it.

Every attempt follows a call of the backend, and what it said and took
belongs to the requests on its way (`Run.follows`). The lines that were
taken in the whole run are those of the attempts, one attempt after the
other (`Run.taken_eq`). As long as none was given up, the verdicts that
were recorded are those of the attempts (`Judged`), and what the loop did
then goes with what the attempt did (`Run.recorded`): a prompt is left
without an answer only in a cancelled session, where nothing is retried.
-/
import Mathlib.Data.List.Basic
import ScreenUnlock.Proofs.Auth.Signals
import ScreenUnlock.Proofs.Dispatch.Ceiling
import ScreenUnlock.Proofs.Dispatch.Supply

namespace ScreenUnlock.Dispatch

variable {setup : Setup} {context : AuthContext} {maxFailures : UInt32}
  {sink : Sink} {history events : List Event} {state state' : State}
  {action : Action} {number : Nat}

open State (Arm arm_of_apply)

-- ======================================================= the attempts' way

/-- The attempts after a step of an attempt. -/
theorem State.getElem?_withAttempt
    (hlen : state.attempts.length = state.started) {attempt other : Attempt}
    {i : Nat} (hattempt : state.attempt? number = some attempt)
    {next : Attempt.Next}
    (h : (state.withAttempt number next).inOrder[i]? = some other) :
    (number = i ∧ other = next.attempt)
      ∨ (number ≠ i ∧ state.inOrder[i]? = some other) := by
  have hlt := lt_of_attempt? hattempt
  have hcount : state.inOrder.length = state.started :=
    List.length_reverse.trans hlen
  rw [inOrder_withAttempt hlen hattempt, List.getElem?_set] at h
  by_cases heq : number = i
  · rw [if_pos heq, if_pos (by omega)] at h
    exact .inl ⟨heq, (Option.some.inj h).symm⟩
  · rw [if_neg heq] at h
    exact .inr ⟨heq, h⟩

/-- What a new attempt has, what each of its steps keeps and no
cancellation takes away, every attempt of a run has. -/
theorem Run.each_attempt {session : Session}
    (Has : Slot → Verification → Attempt → List Message → List Bytes → Prop)
    (hnew : ∀ slot call, Has slot call (.new call) [] [])
    (hmono : ∀ {slot slot' call attempt said takes},
      (slot.cancelled.isSome = true → slot'.cancelled.isSome = true) →
      Has slot call attempt said takes → Has slot' call attempt said takes)
    (hstep : ∀ {clock slot call attempt said takes next},
      Has slot call attempt said takes → Attempt.Arm clock slot attempt next →
      Has next.slot call next.attempt
        (said ++ (next.effect.bind Attempt.Effect.said?).toList)
        (takes ++ (next.effect.bind Attempt.Effect.line?).toList))
    (hrun : Run setup (.start setup session sink) history state)
    {attempt : Attempt} (hattempt : state.inOrder[number]? = some attempt) :
    ∃ caller precedents, Has state.session.slot
      (setup.authenticator.verify caller precedents) attempt
      (emitted number history) (takenBy number history) := by
  induction hrun generalizing number attempt with
  | init => simp [State.start, State.inOrder] at hattempt
  | @step history events state state' action hrun happly ih =>
      have harm := arm_of_apply happly
      have hcancelled : state.session.slot.cancelled.isSome = true →
          state'.session.slot.cancelled.isSome = true :=
        fun hsome => harm.cancelled_iff.mpr (.inl hsome)
      -- an attempt that does nothing in this step
      have hidle : state.inOrder[number]? = some attempt →
          Idle number events → ∃ caller precedents,
          Has state'.session.slot
            (setup.authenticator.verify caller precedents) attempt
            (emitted number (history ++ events))
            (takenBy number (history ++ events)) := by
        intro hbefore hidle
        obtain ⟨caller, precedents, hhas⟩ := ih hbefore
        rw [emitted_append, takenBy_append, hidle.emitted, hidle.takenBy,
          List.append_nil, List.append_nil]
        exact ⟨caller, precedents, hmono hcancelled hhas⟩
      cases action with
      | reader action =>
          cases harm
          exact hidle hattempt (Idle.of_reader _)
      | attempt speaker =>
          cases harm with
          | @attempt _ before next hbefore harm =>
              rcases State.getElem?_withAttempt hrun.length_attempts hbefore
                hattempt with ⟨rfl, rfl⟩ | ⟨hne, hother⟩
              · rw [State.attempt?_eq hrun.length_attempts] at hbefore
                obtain ⟨caller, precedents, hhas⟩ := ih hbefore
                refine ⟨caller, precedents, ?_⟩
                rw [emitted_append, takenBy_append, emitted_attempt,
                  takenBy_attempt]
                exact hstep hhas harm
              · exact hidle hother (Idle.of_ne (Ne.symm hne) _)
      | move move =>
          have hquiet := (HandsNothing.of_move harm).idle number
          rcases harm.inOrder_of_move with hsame | ⟨caller, precedents, hmore⟩
          · exact hidle (hsame ▸ hattempt) hquiet
          · rcases Nat.lt_or_ge number state.inOrder.length with hlt | hge
            · rw [hmore, List.getElem?_append_left hlt] at hattempt
              exact hidle hattempt hquiet
            · rw [hmore, List.getElem?_append_right hge,
                List.getElem?_singleton] at hattempt
              split at hattempt
              case isTrue =>
                cases hattempt
                rw [State.inOrder, List.length_reverse,
                  hrun.length_attempts] at hge
                have hbefore := hrun.idle_unstarted hge
                refine ⟨caller, precedents, ?_⟩
                rw [emitted_append, takenBy_append, hbefore.emitted,
                  hbefore.takenBy, hquiet.emitted, hquiet.takenBy]
                exact hnew _ _
              case isFalse => cases hattempt
      | elapse milliseconds =>
          cases harm
          exact hidle hattempt .nil

/-- Every attempt follows a call of the backend. -/
theorem Run.follows {session : Session}
    (hrun : Run setup (.start setup session sink) history state)
    {attempt : Attempt} (hattempt : state.inOrder[number]? = some attempt) :
    ∃ caller precedents log, attempt.Follows state.session.slot
      (setup.authenticator.verify caller precedents) log
      (emitted number history) (takenBy number history) :=
  hrun.each_attempt
    (fun slot call attempt said takes =>
      ∃ log, attempt.Follows slot call log said takes)
    (fun _ _ => ⟨[], Attempt.Follows.start⟩)
    (fun hmono ⟨log, hfollows⟩ => ⟨log, hfollows.mono hmono⟩)
    (fun ⟨_, hfollows⟩ harm => hfollows.step harm) hattempt

/-- Every attempt keeps to the words that may be shown. -/
theorem Run.speaks {session : Session}
    (hrun : Run setup (.start setup session sink) history state)
    {attempt : Attempt} (hattempt : state.inOrder[number]? = some attempt) :
    Attempt.Speaks state.session.slot attempt.activity
      (emitted number history) := by
  obtain ⟨_, _, hspeaks⟩ := hrun.each_attempt
    (fun slot _ attempt said _ => Attempt.Speaks slot attempt.activity said)
    (fun _ _ => .running .nil) Attempt.Speaks.mono Attempt.Speaks.step hattempt
  exact hspeaks

-- ============================================================= the lines

/-- Whoever takes a line is the newest attempt. -/
theorem InTurn.newest_of_line (h : InTurn history state)
    (hstanding : Standing history state)
    (hlen : state.attempts.length = state.started) {attempt : Attempt}
    {next : Attempt.Next} (hattempt : state.attempt? number = some attempt)
    (harm : Attempt.Arm state.clock state.session.slot attempt next)
    (hline : next.effect.bind Attempt.Effect.line? ≠ none) :
    number + 1 = state.started := by
  rcases harm.slot_cases with ⟨-, hsilent⟩ | ⟨line, hnone, hpending, -, -⟩
    | ⟨-, heffect⟩
  · match heffect : next.effect, hline with
    | some (.conversed (.take line)), _ => exact absurd heffect (hsilent line)
    | none, hline | some (.conversed (.emit _)), hline
    | some (.conversed (.cancel _)), hline | some (.replied _), hline =>
        exact absurd rfl hline
  · refine h.newest (.inr ?_) hlen hattempt harm
    rw [hstanding.waiting hnone (by rw [hpending]; rfl)]
    decide
  · rw [heffect] at hline
    exact absurd rfl hline

/-- A step in which no attempt takes a line. -/
theorem taken_eq_of_quiet {count : Nat}
    (h : taken history
      = (List.range count).flatMap fun i => takenBy i history)
    (htaken : taken events = []) (hnobody : ∀ i, takenBy i events = []) :
    taken (history ++ events)
      = (List.range count).flatMap fun i => takenBy i (history ++ events) := by
  rw [taken_append, htaken, List.append_nil, h]
  refine List.flatMap_congr fun i _ => ?_
  rw [takenBy_append, hnobody, List.append_nil]

/-- The newest attempt takes a line. -/
theorem taken_eq_of_newest {effect : Option Attempt.Effect}
    (h : taken history
      = (List.range (number + 1)).flatMap fun i => takenBy i history) :
    taken (history ++ (effect.map (Event.attempt number)).toList)
      = (List.range (number + 1)).flatMap fun i =>
        takenBy i (history ++ (effect.map (Event.attempt number)).toList) := by
  have hothers : ∀ i ∈ List.range number, takenBy i history
      = takenBy i (history
        ++ (effect.map (Event.attempt number)).toList) := by
    intro i hmem
    have hlt := List.mem_range.mp hmem
    rw [takenBy_append, (Idle.of_ne (by omega) _).takenBy, List.append_nil]
  rw [List.range_succ, List.flatMap_append, List.flatMap_singleton] at h ⊢
  rw [taken_append, h, List.flatMap_congr hothers, takenBy_append,
    taken_attempt, takenBy_attempt, List.append_assoc]

/-- The lines that were taken, attempt by attempt. -/
theorem Run.taken_eq
    (hrun : Run setup (.start setup (.new context maxFailures) sink)
      history state) :
    taken history
      = (List.range state.started).flatMap fun i => takenBy i history := by
  induction hrun with
  | init => rfl
  | @step history events state state' action hrun hstep ih =>
      have harm := arm_of_apply hstep
      cases action with
      | reader action =>
          cases harm
          exact taken_eq_of_quiet ih (taken_reader _)
            fun i => (Idle.of_reader _).takenBy
      | attempt speaker =>
          cases harm with
          | @attempt _ attempt next hattempt harm =>
              cases hline : next.effect.bind Attempt.Effect.line? with
              | none =>
                  refine taken_eq_of_quiet ih
                    (by rw [taken_attempt, hline]; rfl) fun i => ?_
                  by_cases heq : i = speaker
                  · rw [heq, takenBy_attempt, hline]
                    rfl
                  · exact (Idle.of_ne heq _).takenBy
              | some line =>
                  have hnewest := hrun.inTurn.newest_of_line hrun.standing
                    hrun.length_attempts hattempt harm (by rw [hline]; simp)
                  show taken _ = (List.range state.started).flatMap _
                  rw [← hnewest] at ih ⊢
                  exact taken_eq_of_newest ih
      | move move =>
          have hnothing := HandsNothing.of_move harm
          have hnobody := fun i => (hnothing.idle i).takenBy
          have hquiet := taken_eq_of_quiet ih hnothing.taken hnobody
          cases harm with
          | launch hphase =>
              -- the new attempt has taken nothing yet
              have hnew := (hrun.idle_unstarted (Nat.le_refl _)).takenBy
              show taken _ = (List.range (state.started + 1)).flatMap _
              rw [List.range_succ, List.flatMap_append, List.flatMap_singleton,
                takenBy_append, hnew, hnobody, hquiet]
              exact (List.append_nil _).symm
          | halt _ _ hwrote | forward _ _ hwrote | drain _ _ hwrote
          | retry _ _ _ hwrote | conclude _ _ _ hwrote =>
              cases hwrote <;> exact hquiet
          | _ => exact hquiet
      | elapse milliseconds =>
          cases harm
          exact taken_eq_of_quiet ih rfl fun _ => rfl

-- ========================================================== the verdicts

/-- The verdicts that the loop has are those that the attempts came to. -/
structure Judged (history : List Event) (state : State) : Prop where
  settling : ∀ verdict, state.phase = .settling verdict →
    ∃ last : Attempt, state.inOrder[state.started - 1]? = some last
      ∧ last.verdict? = some verdict
  recorded : ∀ (i : Nat) verdict, (verdicts history)[i]? = some verdict →
    ∃ attempt : Attempt, state.inOrder[i]? = some attempt
      ∧ attempt.verdict? = some verdict

/-- A step that records nothing, and after which the attempts that are
over are still what they were. -/
theorem Judged.same (h : Judged history state)
    (hsettling : ∀ verdict, state'.phase = .settling verdict →
      state.phase = .settling verdict)
    (hstarted : state'.started = state.started)
    (hattempts : ∀ (i : Nat) (attempt : Attempt) verdict,
      attempt.verdict? = some verdict →
      state.inOrder[i]? = some attempt → state'.inOrder[i]? = some attempt)
    (hverdicts : verdicts events = []) :
    Judged (history ++ events) state' where
  settling verdict hphase := by
    obtain ⟨last, hlast, hverdict⟩ := h.settling verdict (hsettling _ hphase)
    exact ⟨last, hstarted ▸ hattempts _ _ _ hverdict hlast, hverdict⟩
  recorded i verdict hi := by
    rw [verdicts_append, hverdicts, List.append_nil] at hi
    obtain ⟨attempt, hattempt, hverdict⟩ := h.recorded i verdict hi
    exact ⟨attempt, hattempts _ _ _ hverdict hattempt, hverdict⟩

/-- A verdict is recorded. -/
theorem Judged.record (h : Judged history state) {verdict : Verdict}
    (hphase : state.phase = .settling verdict)
    (hcount : state.started = (verdicts history).length + 1)
    (horder : state'.inOrder = state.inOrder)
    (hsettling : ∀ verdict', state'.phase ≠ .settling verdict')
    (hverdicts : verdicts events = [verdict]) :
    Judged (history ++ events) state' where
  settling verdict' hphase' := absurd hphase' (hsettling verdict')
  recorded i verdict' hi := by
    rw [verdicts_append, hverdicts] at hi
    rw [horder]
    rcases Nat.lt_or_ge i (verdicts history).length with hlt | hge
    · rw [List.getElem?_append_left hlt] at hi
      exact h.recorded i verdict' hi
    · rw [List.getElem?_append_right hge, List.getElem?_singleton] at hi
      split at hi
      case isTrue hlast =>
        cases hi
        have hi : i = state.started - 1 := by omega
        rw [hi]
        exact h.settling verdict hphase
      case isFalse => cases hi

/-- An attempt that goes on is none of those that are over. -/
theorem Judged.attempt (h : Judged history state)
    (hlen : state.attempts.length = state.started) {attempt : Attempt}
    {next : Attempt.Next} (hattempt : state.attempt? number = some attempt)
    (harm : Attempt.Arm state.clock state.session.slot attempt next) :
    Judged (history ++ (next.effect.map (Event.attempt number)).toList)
      (state.withAttempt number next) := by
  refine h.same (fun _ => id) rfl ?_
    (LoopRests.of_attempt number next.effect).verdicts
  intro i other verdict hverdict hother
  rw [State.inOrder_withAttempt hlen hattempt, List.getElem?_set_ne]
  · exact hother
  · rintro rfl
    rw [State.attempt?_eq hlen, hother] at hattempt
    cases hattempt
    have := harm.not_isOver
    rw [Attempt.isOver, hverdict] at this
    cases this

/-- A new attempt comes behind the others. -/
theorem Judged.launch (h : Judged history state) (attempt : Attempt) :
    Judged (history ++ [.started state.started])
      { state with
        attempts := attempt :: state.attempts
        started := state.started + 1
        phase := .attending } where
  settling _ hphase := by cases hphase
  recorded i verdict hi := by
    rw [verdicts_append, show verdicts [.started _] = [] from rfl,
      List.append_nil] at hi
    obtain ⟨other, hother, hverdict⟩ := h.recorded i verdict hi
    refine ⟨other, ?_, hverdict⟩
    show (attempt :: state.attempts).reverse[i]? = _
    rw [List.reverse_cons]
    exact (List.getElem?_append_left
      (List.getElem?_eq_some_iff.mp hother).1).trans hother

/-- The loop learns the verdict of the newest attempt. -/
theorem Judged.join (h : Judged history state)
    (hlen : state.attempts.length = state.started) {last : Attempt}
    {verdict : Verdict} (hlast : state.attempts.head? = some last)
    (hverdict : last.verdict? = some verdict) :
    Judged history { state with phase := .settling verdict } where
  settling verdict' hphase := by
    cases hphase
    refine ⟨last, ?_, hverdict⟩
    show state.attempts.reverse[state.started - 1]? = some last
    have hpos : 0 < state.attempts.length := by
      cases hattempts : state.attempts with
      | nil => simp [hattempts] at hlast
      | cons _ _ => exact Nat.succ_pos _
    rw [List.getElem?_reverse (by omega), hlen,
      show state.started - 1 - (state.started - 1) = 0 by omega,
      ← List.head?_eq_getElem?, hlast]
  recorded := h.recorded

theorem Judged.step (h : Judged history state)
    (hlen : state.attempts.length = state.started)
    (hcount : ∀ verdict, state.phase = .settling verdict →
      state.started = (verdicts history).length + 1)
    (hnot : .abandoned ∉ events)
    (harm : Arm setup state action state' events) :
    Judged (history ++ events) state' := by
  cases harm with
  | @reader _ next _ =>
      exact h.same (fun _ => id) rfl (fun _ _ _ _ => id)
        (LoopRests.of_reader next.effect).verdicts
  | attempt hattempt harm => exact h.attempt hlen hattempt harm
  | launch _ => exact h.launch _
  | join _ hlast hverdict =>
      rw [List.append_nil]
      exact h.join hlen hlast hverdict
  | retry hphase _ _ hwrote | conclude hphase _ _ hwrote =>
      cases hwrote <;>
        exact h.record hphase (hcount _ hphase) rfl (fun _ h => by cases h) rfl
  | abandon _ _ _ => exact absurd (by simp) hnot
  | drain hphase _ hwrote =>
      cases hwrote
      · refine h.same ?_ rfl (fun _ _ _ _ => id) rfl
        intro verdict' h
        cases h
        exact hphase
      · exact h.same (fun _ h => by cases h) rfl (fun _ _ _ _ => id) rfl
  | halt _ _ hwrote | forward _ _ hwrote =>
      cases hwrote <;>
        exact h.same (fun _ h => by cases h) rfl (fun _ _ _ _ => id) rfl
  | stop hphase =>
      exact h.same (fun _ h => by cases h) rfl (fun _ _ _ _ => id)
        (LoopRests.of_cancel _ _).verdicts
  | sweep hphase =>
      exact h.same (fun _ h => by cases h) rfl (fun _ _ _ _ => id)
        (LoopRests.of_sweep _).verdicts
  | elapse | notice _ _ _ _ =>
      exact h.same (fun _ => id) rfl (fun _ _ _ _ => id) rfl
  | proceed _ _ | collapse _ _ _ _ | reap _ _ | giveUp _ _ =>
      exact h.same (fun _ h => by cases h) rfl (fun _ _ _ _ => id) rfl

theorem Run.started_of_settling {verdict : Verdict}
    (hrun : Run setup (.start setup (.new context maxFailures) sink)
      history state) (hphase : state.phase = .settling verdict) :
    state.started = (verdicts history).length + 1 := by
  obtain ⟨rounds, hopen⟩ := hrun.books.isOpen (by rw [hphase]; rfl)
  obtain ⟨causes, hcauses, hlength⟩ := hopen.rejected
  rw [hopen.started, hphase, hcauses, List.length_map, hlength]
  rfl

/-- As long as no attempt is given up, every verdict is the one that its
attempt came to. -/
theorem Run.judged
    (hrun : Run setup (.start setup (.new context maxFailures) sink)
      history state) (hnot : .abandoned ∉ history) : Judged history state := by
  induction hrun with
  | init =>
      refine ⟨fun _ h => ?_, fun _ _ h => ?_⟩ <;>
        simp [State.start, verdicts] at h
  | step action hrun hstep ih =>
      rw [List.mem_append, not_or] at hnot
      exact (ih hnot.1).step hrun.length_attempts
        (fun _ => hrun.started_of_settling) hnot.2 (arm_of_apply hstep)

-- ======================================================== what is retried

/-- Each record holds a verdict and what follows from it. -/
theorem length_steps (history : List Event) :
    (steps history).length = (verdicts history).length := by
  unfold steps verdicts
  rw [List.length_filterMap_eq_countP, List.length_filterMap_eq_countP]
  refine List.countP_congr fun event _ => ?_
  cases event <;> exact Iff.rfl

/-- The attempts whose verdicts were recorded are idle from then on. -/
theorem Judged.idle (h : Judged history state)
    (hlen : state.attempts.length = state.started)
    (harm : Arm setup state action state' events) {i : Nat}
    (hlt : i < (verdicts history).length) : Idle i events := by
  obtain ⟨other, hother, hverdict⟩ :=
    h.recorded i _ (List.getElem?_eq_getElem hlt)
  cases action with
  | reader action =>
      cases harm
      exact Idle.of_reader _
  | attempt number =>
      cases harm with
      | attempt hattempt harm =>
          refine Idle.of_ne ?_ _
          rintro rfl
          rw [State.attempt?_eq hlen, hother] at hattempt
          cases hattempt
          have := harm.not_isOver
          rw [Attempt.isOver, hverdict] at this
          cases this
  | move move => exact (HandsNothing.of_move harm).idle i
  | elapse milliseconds =>
      cases harm
      exact .nil

/-- The attempt with this number went through a call to its end, and the
loop did `step` then: the attempt was accepted exactly if the user is
authenticated, and it left a prompt without an answer only if the session
was cancelled by then. -/
def Recorded (setup : Setup) (history : List Event) (number : Nat)
    (step : Step) : Prop :=
  ∃ caller precedents log verdict,
    (setup.authenticator.verify caller precedents).Ends log verdict
      ∧ emitted number history = log.flatMap Asked.said
      ∧ takenBy number history = log.flatMap Asked.takes
      ∧ (verdict = .accepted ↔ step = .finish .authenticated)
      ∧ ((∃ asked ∈ log, asked.isMissed = true) →
        verdict = .accepted ∨ ∃ reason, step = .finish (.cancelled reason))

theorem Recorded.idle {step : Step} (h : Recorded setup history number step)
    (hidle : Idle number events) :
    Recorded setup (history ++ events) number step := by
  obtain ⟨caller, precedents, log, verdict, hends, hsaid, htook, hstep⟩ :=
    h
  refine ⟨caller, precedents, log, verdict, hends, ?_, ?_, hstep⟩
  · rw [emitted_append, hidle.emitted, List.append_nil, hsaid]
  · rw [takenBy_append, hidle.takenBy, List.append_nil, htook]

/-- The newest attempt is recorded. -/
theorem Judged.recorded_now (h : Judged history state)
    (hrun : Run setup (.start setup (.new context maxFailures) sink)
      history state) {verdict : Verdict} {step : Step} {session : Session}
    (hphase : state.phase = .settling verdict)
    (hrecord : state.session.record verdict = (step, session)) :
    Recorded setup history (state.started - 1) step := by
  obtain ⟨last, hlast, hverdict⟩ := h.settling _ hphase
  obtain ⟨caller, precedents, log, hfollows⟩ := hrun.follows hlast
  obtain ⟨hends, hsaid, htook⟩ := hfollows.of_verdict hverdict
  have hopen := hrun.outcome_eq_none (by rw [hphase]; rfl)
  obtain ⟨haccepted, hcancelled⟩ := Session.record_open hopen hrecord
  exact ⟨caller, precedents, log, verdict, hends, hsaid, htook, haccepted,
    fun ⟨asked, hmem, hmissed⟩ =>
      hcancelled (hfollows.missed asked hmem hmissed)⟩

/-- As long as no attempt is given up, every step that was recorded is
that of an attempt which came to its end. -/
theorem Run.recorded
    (hrun : Run setup (.start setup (.new context maxFailures) sink)
      history state) (hnot : .abandoned ∉ history) {i : Nat} {step : Step}
    (hrecorded : (steps history)[i]? = some step) :
    Recorded setup history i step := by
  induction hrun with
  | init => simp [steps] at hrecorded
  | @step history events state state' action hrun hstep ih =>
      have hnot' : .abandoned ∉ history :=
        fun hmem => hnot (List.mem_append_left _ hmem)
      have hjudged := hrun.judged hnot'
      have harm := arm_of_apply hstep
      rcases Nat.lt_or_ge i (steps history).length with hlt | hge
      · -- an attempt that was recorded before
        rw [steps_append, List.getElem?_append_left hlt] at hrecorded
        exact (ih hnot' hrecorded).idle (hjudged.idle hrun.length_attempts harm
          (length_steps history ▸ hlt))
      · rw [steps_append, List.getElem?_append_right hge] at hrecorded
        have hsome : steps events ≠ [] := by
          intro hnil
          rw [hnil] at hrecorded
          cases hrecorded
        -- the attempt under way is recorded
        have hnow : ∀ {verdict : Verdict} {step' : Step} {session : Session},
            state.phase = .settling verdict →
            state.session.record verdict = (step', session) →
            steps events = [step'] →
            (∀ number, Idle number events) →
            Recorded setup (history ++ events) i step := by
          intro verdict step' session hphase hrecord hsteps hidle
          rw [hsteps] at hrecorded
          obtain ⟨hlt, hget⟩ := List.getElem?_eq_some_iff.mp hrecorded
          have hcount := hrun.started_of_settling hphase
          rw [length_steps] at hge hlt
          rw [List.length_singleton] at hlt
          have hi : i = state.started - 1 := by omega
          rw [hi]
          rw [List.getElem_singleton] at hget
          exact hget ▸
            (hjudged.recorded_now hrun hphase hrecord).idle (hidle _)
        cases action with
        | reader action =>
            cases harm
            exact absurd (LoopRests.of_reader _).steps hsome
        | attempt number =>
            cases harm
            exact absurd (LoopRests.of_attempt number _).steps hsome
        | move move =>
            have hidle := (HandsNothing.of_move harm).idle
            cases harm with
            | retry hphase _ hrecord hwrote
            | conclude hphase _ hrecord hwrote =>
                exact hnow hphase hrecord (by cases hwrote <;> rfl) hidle
            | halt _ _ hwrote | forward _ _ hwrote | drain _ _ hwrote =>
                cases hwrote <;> exact absurd rfl hsome
            | stop _ => exact absurd (LoopRests.of_cancel _ _).steps hsome
            | sweep _ => exact absurd (LoopRests.of_sweep _).steps hsome
            | _ => exact absurd rfl hsome
        | elapse milliseconds =>
            cases harm
            exact absurd rfl hsome

end ScreenUnlock.Dispatch
