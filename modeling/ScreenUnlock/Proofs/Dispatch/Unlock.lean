/-
A whole session with one known password, on the wire.

Five parts decide what is written: the reader cuts the input into lines,
the slot hands them over, an attempt asks and takes one, the session
counts, the loop writes. Nothing of the race between them can be seen:
what is written follows from the lines alone, up to the first one that
decides the session, and up to the ceiling. Only when the input ends
before either, it depends on the moment how far the last attempt gets. That
the session does not stop on the way is a matter of its own (`Finishes`).

# The argument

Every attempt that was retried has taken one line, and shows question,
busy and failure for it (`Run.retried`); so the lines that were taken are
counted by the failures. What the last attempt took and what follows from
its verdict leave six ways to end (`Story`). A cancelled session was
cancelled by an exit request, which is a line, or by the end of the
input, and then all lines were taken (`Cause`).
-/
import ScreenUnlock.Proofs.Auth.Fixed
import ScreenUnlock.Proofs.Dispatch.Cause
import ScreenUnlock.Proofs.Dispatch.Completion
import ScreenUnlock.Proofs.Dispatch.Forwarding

namespace ScreenUnlock

-- ========================================================== what is shown

namespace FixedPassword

variable {backend : FixedPassword} {ceiling : Nat} {lines wrongs : List Bytes}
  {shown : List Message}

/-- The first attempts, each of them rejected and reported. -/
def failures (backend : FixedPassword) (count : Nat) : List Message :=
  (List.replicate count (backend.answered ++ [.failure])).flatten

/-- What a session shows, given the lines of its input. The lines are
counted from 0. -/
structure Shown (backend : FixedPassword) (ceiling : Nat)
    (lines : List Bytes) (shown : List Message) : Prop where
  -- The first line that decides is the password, and comes in time.
  accepted : ∀ j, lines.findIdx? backend.decides = some j → j < ceiling →
    lines[j]? = some (Bytes.ofText backend.password) →
    ¬ Request.exitMarker <:+: Bytes.ofText backend.password →
    shown = backend.failures j ++ (backend.answered ++ [.success])
  -- It asks for the exit, and comes in time.
  exited : ∀ j line, lines.findIdx? backend.decides = some j →
    j < ceiling → lines[j]? = some line → Request.exitMarker <:+: line →
    shown = backend.failures j ++ (backend.question ++ [.cancelled])
  -- None comes in time, and there are lines enough.
  exhausted : (∀ j, lines.findIdx? backend.decides = some j → ceiling ≤ j) →
    ceiling ≤ lines.length →
    shown = backend.failures (ceiling - 1)
      ++ (backend.answered ++ [.cancelled])
  -- The input ends first: with the last answer, before another attempt,
  -- or while that one asks.
  closed : (∀ j, lines.findIdx? backend.decides = some j → ceiling ≤ j) →
    lines.length < ceiling →
    (0 < lines.length ∧ shown = backend.failures (lines.length - 1)
        ++ (backend.answered ++ [.cancelled]))
      ∨ shown = backend.failures lines.length ++ [.cancelled]
      ∨ shown = backend.failures lines.length
        ++ (backend.question ++ [.cancelled])

/-- None of the lines decides the session. -/
def Undecided (backend : FixedPassword) (lines : List Bytes) : Prop :=
  ∀ line ∈ lines, backend.decides line = false

/-- The ways in which a session goes. -/
inductive Story (backend : FixedPassword) (ceiling : Nat)
    (lines : List Bytes) : List Message → Prop where
  | accepted {wrongs later : List Bytes} : backend.Undecided wrongs →
      lines = wrongs ++ Bytes.ofText backend.password :: later →
      wrongs.length < ceiling →
      ¬ Request.exitMarker <:+: Bytes.ofText backend.password →
      Story backend ceiling lines
        (backend.failures wrongs.length ++ (backend.answered ++ [.success]))
  | exited {wrongs later : List Bytes} {line : Bytes} :
      backend.Undecided wrongs → lines = wrongs ++ line :: later →
      wrongs.length < ceiling → Request.exitMarker <:+: line →
      Story backend ceiling lines
        (backend.failures wrongs.length ++ (backend.question ++ [.cancelled]))
  | exhausted {wrongs later : List Bytes} : backend.Undecided wrongs →
      lines = wrongs ++ later → wrongs.length = ceiling →
      Story backend ceiling lines
        (backend.failures (ceiling - 1) ++ (backend.answered ++ [.cancelled]))
  | closedAfter {count : Nat} : backend.Undecided lines →
      lines.length = count + 1 → count + 1 < ceiling →
      Story backend ceiling lines
        (backend.failures count ++ (backend.answered ++ [.cancelled]))
  | closedBefore : backend.Undecided lines → lines.length < ceiling →
      Story backend ceiling lines
        (backend.failures lines.length ++ [.cancelled])
  | closedWithin : backend.Undecided lines → lines.length < ceiling →
      Story backend ceiling lines
        (backend.failures lines.length ++ (backend.question ++ [.cancelled]))

theorem Undecided.snoc {line : Bytes} (h : backend.Undecided wrongs)
    (hline : backend.decides line = false) :
    backend.Undecided (wrongs ++ [line]) := by
  intro other hmem
  rcases List.mem_append.mp hmem with hmem | hmem
  · exact h other hmem
  · rw [List.mem_singleton.mp hmem]
    exact hline

theorem Undecided.findIdx? (h : backend.Undecided lines) :
    lines.findIdx? backend.decides = none :=
  List.findIdx?_eq_none_iff.mpr h

/-- The first line behind those that do not decide. -/
theorem Undecided.findIdx?_cons {line : Bytes} {later : List Bytes}
    (h : backend.Undecided wrongs) (hline : backend.decides line = true) :
    (wrongs ++ line :: later).findIdx? backend.decides
      = some wrongs.length := by
  rw [List.findIdx?_append, h.findIdx?]
  simp [List.findIdx?_cons, hline]

/-- A line that decides comes behind all that do not. -/
theorem Undecided.length_le {later : List Bytes} {j : Nat}
    (h : backend.Undecided wrongs)
    (hj : (wrongs ++ later).findIdx? backend.decides = some j) :
    wrongs.length ≤ j := by
  rw [List.findIdx?_append, h.findIdx?, Option.none_or,
    Option.map_eq_some_iff] at hj
  obtain ⟨i, -, rfl⟩ := hj
  exact Nat.le_add_left _ _

theorem decides_of_marker {line : Bytes} (h : Request.exitMarker <:+: line) :
    backend.decides line = true := by
  simp [decides, h]

theorem decides_password :
    backend.decides (Bytes.ofText backend.password) = true := by
  simp [decides]

/-- A line decides in time. -/
theorem Shown.of_first {line : Bytes} {j : Nat}
    (hfirst : lines.findIdx? backend.decides = some j) (hbelow : j < ceiling)
    (hline : lines[j]? = some line)
    (haccepted : line = Bytes.ofText backend.password →
      ¬ Request.exitMarker <:+: line →
      shown = backend.failures j ++ (backend.answered ++ [.success]))
    (hexited : Request.exitMarker <:+: line →
      shown = backend.failures j ++ (backend.question ++ [.cancelled])) :
    Shown backend ceiling lines shown where
  accepted j' hj _ hpassword hmarker := by
    rw [hfirst] at hj
    cases hj
    rw [hline] at hpassword
    cases hpassword
    exact haccepted rfl hmarker
  exited j' line' hj _ hline' hmarker := by
    rw [hfirst] at hj
    cases hj
    rw [hline] at hline'
    cases hline'
    exact hexited hmarker
  exhausted hlate _ := absurd (hlate j hfirst) (by omega)
  closed hlate _ := absurd (hlate j hfirst) (by omega)

/-- No line decides in time. -/
theorem Shown.of_late
    (hlate : ∀ j, lines.findIdx? backend.decides = some j → ceiling ≤ j)
    (hexhausted : ceiling ≤ lines.length →
      shown = backend.failures (ceiling - 1)
        ++ (backend.answered ++ [.cancelled]))
    (hclosed : lines.length < ceiling →
      (0 < lines.length ∧ shown = backend.failures (lines.length - 1)
          ++ (backend.answered ++ [.cancelled]))
        ∨ shown = backend.failures lines.length ++ [.cancelled]
        ∨ shown = backend.failures lines.length
          ++ (backend.question ++ [.cancelled])) :
    Shown backend ceiling lines shown where
  accepted j hj hbelow := absurd (hlate j hj) (by omega)
  exited j _ hj hbelow := absurd (hlate j hj) (by omega)
  exhausted _ := hexhausted
  closed _ := hclosed

/-- Each story shows what the lines say. -/
theorem Story.shows (h : Story backend ceiling lines shown) :
    Shown backend ceiling lines shown := by
  have hnever : backend.Undecided lines → ∀ j,
      lines.findIdx? backend.decides = some j → ceiling ≤ j := by
    intro hlines j hj
    rw [hlines.findIdx?] at hj
    cases hj
  cases h with
  | @accepted wrongs later hwrongs hlines hbelow hmarker =>
      subst hlines
      have hline : (wrongs ++ Bytes.ofText backend.password :: later)[
          wrongs.length]? = some (Bytes.ofText backend.password) := by
        simp
      apply Shown.of_first (hwrongs.findIdx?_cons decides_password) hbelow
        hline
      · exact fun _ _ => rfl
      · exact fun hexit => absurd hexit hmarker
  | @exited wrongs later line hwrongs hlines hbelow hmarker =>
      subst hlines
      have hline : (wrongs ++ line :: later)[wrongs.length]? = some line := by
        simp
      apply Shown.of_first
        (hwrongs.findIdx?_cons (decides_of_marker hmarker)) hbelow hline
      · exact fun _ hnot => absurd hmarker hnot
      · exact fun _ => rfl
  | exhausted hwrongs hlines hlength =>
      subst hlines
      apply Shown.of_late (fun j hj => hlength ▸ hwrongs.length_le hj)
      · exact fun _ => rfl
      · intro hshort
        rw [List.length_append] at hshort
        omega
  | closedAfter hlines hlength hbelow =>
      apply Shown.of_late (hnever hlines)
      · intro hlong
        omega
      · intro _
        rw [hlength]
        exact Or.inl ⟨Nat.succ_pos _, rfl⟩
  | closedBefore hlines hbelow =>
      apply Shown.of_late (hnever hlines)
      · intro hlong
        omega
      · exact fun _ => Or.inr (Or.inl rfl)
  | closedWithin hlines hbelow =>
      apply Shown.of_late (hnever hlines)
      · intro hlong
        omega
      · exact fun _ => Or.inr (Or.inr rfl)

/-- The last attempt had a wrong line. -/
theorem Story.of_wrong {later : List Bytes} {line : Bytes}
    {outcome : Outcome} (hwrongs : backend.Undecided wrongs)
    (hline : backend.decides line = false)
    (hbelow : wrongs.length < ceiling)
    (hexhausted : outcome = .exhausted → wrongs.length + 1 = ceiling)
    (hcancelled : ∀ reason, outcome = .cancelled reason → later = [])
    (houtcome : outcome ≠ .authenticated) :
    Story backend ceiling (wrongs ++ [line] ++ later)
      (backend.failures wrongs.length
        ++ (backend.answered ++ [outcome.message])) := by
  have hmessage : outcome.message = .cancelled := by
    cases outcome with
    | authenticated => exact absurd rfl houtcome
    | cancelled _ | exhausted => rfl
  have htaken := hwrongs.snoc hline
  rw [hmessage]
  by_cases hfull : wrongs.length + 1 = ceiling
  · have hstory := @Story.exhausted backend ceiling
      (wrongs ++ [line] ++ later) (wrongs ++ [line]) later htaken rfl
      (by rw [List.length_append, ← hfull]; rfl)
    rw [← hfull] at hstory ⊢
    exact hstory
  · -- the ceiling is not reached, so the input ended
    have hnil : later = [] := by
      cases outcome with
      | authenticated => exact absurd rfl houtcome
      | cancelled reason => exact hcancelled reason rfl
      | exhausted => exact absurd (hexhausted rfl) hfull
    rw [hnil, List.append_nil]
    exact .closedAfter htaken (List.length_append ..) (by omega)

theorem failures_succ (backend : FixedPassword) (count : Nat) :
    backend.failures (count + 1)
      = backend.failures count ++ (backend.answered ++ [.failure]) := by
  rw [failures, List.replicate_succ', List.flatten_concat, failures]

/-- An attempt itself reports no failure. -/
theorem failure_not_mem_answered : .failure ∉ backend.answered := by
  unfold answered question greeting
  split
  · simp [Message.promptOf]
  · split <;> simp [Message.promptOf, Message.infoOf]

/-- Nor does the terminal line behind it, however far it came. -/
theorem failure_not_mem_ending {part : List Message}
    (hpart : part <+: backend.answered) (outcome : Outcome) :
    .failure ∉ part ++ [outcome.message] := by
  intro hmem
  rcases List.mem_append.mp hmem with hmem | hmem
  · exact failure_not_mem_answered (hpart.subset hmem)
  · cases outcome <;> simp [Outcome.message] at hmem

theorem count_failures (count : Nat) :
    (backend.failures count).count .failure = count := by
  induction count with
  | zero => rfl
  | succ count ih =>
      have hnone : backend.answered.count .failure = 0 :=
        List.count_eq_zero.mpr failure_not_mem_answered
      rw [failures_succ, List.count_append, List.count_append, ih, hnone]
      rfl

end FixedPassword

-- ================================================================ the runs

namespace Dispatch

open FixedPassword (Heard Undecided Story Shown)
open LineBuffer (lineLimit)

variable {backend : FixedPassword} {setup : Setup} {context : AuthContext}
  {maxFailures : UInt32} {sink : Sink} {stream rest : Bytes}
  {history : List Event} {state : State}

section Run

variable (hbackend : setup.authenticator = .fixed backend)
  (havailable : backend.unavailable = none)
  (hrun : Run setup (.start setup (.new context maxFailures) sink)
    history state)
  (hnot : .abandoned ∉ history)

include hbackend havailable hrun hnot

/-- An attempt whose verdict was recorded went one of the four ways, and
one that aborted had a reason. -/
theorem Run.heard {i : Nat} {step : Step}
    (hstep : (steps history)[i]? = some step) :
    ∃ verdict, Heard backend (emitted i history) (takenBy i history) verdict
      ∧ (verdict = .accepted ↔ step = .finish .authenticated)
      ∧ (verdict = .rejected .aborted →
        ∃ reason, step = .finish (.cancelled reason)) := by
  obtain ⟨caller, precedents, log, verdict, hends, hsaid, htook, haccepted,
    hmissed⟩ := hrun.recorded hnot hstep
  rw [hbackend] at hends
  obtain ⟨hheard, haborted⟩ :=
    FixedPassword.comes_verification havailable hends
  refine ⟨verdict, ?_, haccepted, ?_⟩
  · rw [hsaid, htook]
    exact hheard
  · intro habort
    rcases hmissed (haborted habort) with haccept | hcancelled
    · rw [haccept] at habort
      cases habort
    · exact hcancelled

/-- An attempt that was retried has taken one line, which decides
nothing. -/
theorem Run.wrong_of_retry {i : Nat}
    (hstep : (steps history)[i]? = some .retry) :
    ∃ line, backend.decides line = false
      ∧ emitted i history = backend.answered
      ∧ takenBy i history = [line] := by
  obtain ⟨verdict, hheard, haccepted, haborted⟩ :=
    hrun.heard hbackend havailable hnot hstep
  generalize emitted i history = said at hheard ⊢
  generalize takenBy i history = took at hheard ⊢
  cases hheard with
  | unanswered | exit _ =>
      -- an attempt that aborts is the last one
      obtain ⟨reason, hreason⟩ := haborted rfl
      cases hreason
  | wrong hline => exact ⟨_, hline, rfl, rfl⟩
  | right _ => cases haccepted.mp rfl

/-- The attempts that were retried, together. -/
theorem Run.retried {rounds : Nat} {later : List Step}
    (hsteps : steps history = List.replicate rounds .retry ++ later) :
    ∃ wrongs, wrongs.length = rounds ∧ Undecided backend wrongs
      ∧ ((List.range rounds).flatMap fun i => takenBy i history) = wrongs
      ∧ turns rounds history = backend.failures rounds := by
  induction rounds generalizing later with
  | zero => exact ⟨[], rfl, fun _ hmem => (by cases hmem), rfl, rfl⟩
  | succ rounds ih =>
      rw [List.replicate_succ', List.append_assoc] at hsteps
      obtain ⟨wrongs, hlength, hwrongs, htook, hturns⟩ := ih hsteps
      have hlast : (steps history)[rounds]? = some .retry := by
        rw [hsteps, List.getElem?_append_right (by simp)]
        simp
      obtain ⟨line, hline, hsaid, htake⟩ :=
        hrun.wrong_of_retry hbackend havailable hnot hlast
      refine ⟨wrongs ++ [line], ?_, ?_, ?_, ?_⟩
      · rw [List.length_append, hlength]
        rfl
      · exact hwrongs.snoc hline
      · rw [List.range_succ, List.flatMap_append, htook,
          List.flatMap_singleton, htake]
      · rw [turns_succ, hturns, hsaid, FixedPassword.failures_succ]

end Run

/-- A session that ends as cancelled, and not by a line, has taken them
all. -/
theorem Fed.taken_of_cancelled {reason : CancelReason}
    (hfed : Fed setup (.start setup (.new context maxFailures) sink) stream
      history state rest)
    (hending : state.phase.ending? = some (.ok (.cancelled reason)))
    (hundecided : Undecided backend (taken history)) :
    taken history = Bytes.cutLines (lineLimit setup.maxLineLen) stream := by
  have hcause := hfed.run.cause
  obtain ⟨hreason, hne⟩ := hcause.ending reason hending
  cases reason with
  | exitRequested =>
      obtain ⟨line, hmem, hexit⟩ := hcause.exitRequested hreason
      have hdecides := hundecided line hmem
      rw [FixedPassword.decides_of_marker
        (Request.ofLine_eq_exit_iff.mp hexit)] at hdecides
      cases hdecides
  | inputClosed =>
      have hrest := hfed.closed rfl hreason
      rw [(hcause.inputClosed hreason).2, ← hfed.stream_eq, hrest,
        List.append_nil]
  | shutdown => exact absurd rfl hne

/-- How many attempts were retried, and whether another one could have
been, is seen from the failures. -/
theorem Run.rounds_lt {outcome : Outcome} {rounds : Nat}
    {later : List Message}
    (hrun : Run setup (.start setup (.new context maxFailures) sink)
      history state)
    (hending : state.phase.ending? = some (.ok outcome))
    (hsent : sent history = backend.failures rounds ++ later)
    (hlater : .failure ∉ later) :
    rounds < max maxFailures.toNat 1
      ∧ (outcome = .exhausted → rounds + 1 = max maxFailures.toNat 1) := by
  obtain ⟨count, hclosed⟩ := hrun.books.isClosed outcome hending
  have hcount := hclosed.count_failure
  rw [hsent, List.count_append, FixedPassword.count_failures,
    List.count_eq_zero.mpr hlater, Nat.add_zero] at hcount
  rw [hcount]
  exact ⟨hclosed.below, hclosed.exhausted⟩

/-- Every session that ends with an outcome has a story. -/
theorem Fed.story {outcome : Outcome}
    (hbackend : setup.authenticator = .fixed backend)
    (havailable : backend.unavailable = none)
    (hfed : Fed setup (.start setup (.new context maxFailures) sink) stream
      history state rest)
    (hreader : state.reader.phase ≠ .crashed) (hnot : .abandoned ∉ history)
    (hending : state.phase.ending? = some (.ok outcome)) :
    Story backend (max maxFailures.toNat 1)
      (Bytes.cutLines (lineLimit setup.maxLineLen) stream) (sent history) := by
  have hrun := hfed.run
  have htaken := hrun.taken_eq
  obtain ⟨later, hlines⟩ := hfed.taken_isPrefix
  have hall : ∀ reason, outcome = .cancelled reason →
      Undecided backend (taken history) → taken history
        = Bytes.cutLines (lineLimit setup.maxLineLen) stream :=
    fun reason hreason => hfed.taken_of_cancelled (hreason ▸ hending)
  -- what was shown gives the attempts, and the attempts give the lines
  cases (hrun.forwards hreader).isOver outcome hending with
  | @halted rounds reason hreason _ hstarted hsteps hsent =>
      obtain ⟨wrongs, hlength, hwrongs, htook, hturns⟩ :=
        hrun.retried hbackend havailable hnot
          (hsteps.trans (List.append_nil _).symm)
      rw [hstarted, htook] at htaken
      rw [hturns] at hsent
      have hnothing : [] <+: backend.answered := List.nil_prefix
      obtain ⟨hbelow, -⟩ := hrun.rounds_lt hending hsent
        (FixedPassword.failure_not_mem_ending hnothing outcome)
      rw [← hall reason hreason (htaken ▸ hwrongs), htaken]
      rw [hsent, hreason]
      subst hlength
      exact .closedBefore hwrongs hbelow
  | @concluded rounds part hstarted hsteps _ hpart hsent =>
      obtain ⟨wrongs, hlength, hwrongs, htook, hturns⟩ :=
        hrun.retried hbackend havailable hnot hsteps
      have hlast : (steps history)[rounds]? = some (.finish outcome) := by
        rw [hsteps, List.getElem?_append_right (by simp)]
        simp
      obtain ⟨verdict, hheard, haccepted, haborted⟩ :=
        hrun.heard hbackend havailable hnot hlast
      rw [hstarted, List.range_succ, List.flatMap_append, htook,
        List.flatMap_singleton] at htaken
      rw [hturns, hpart hnot] at hsent
      obtain ⟨hbelow, hexhausted⟩ := hrun.rounds_lt hending hsent
        (FixedPassword.failure_not_mem_ending hheard.isPrefix outcome)
      -- the last attempt went one of the four ways
      generalize emitted rounds history = said at hheard hsent
      generalize takenBy rounds history = took at hheard htaken
      rw [htaken] at hlines hall
      rw [hsent]
      subst hlength
      cases hheard with
      | unanswered =>
          obtain ⟨reason, hreason⟩ := haborted rfl
          cases hreason
          rw [List.append_nil] at hall
          rw [← hall reason rfl hwrongs]
          exact .closedWithin hwrongs hbelow
      | @exit line hmarker =>
          obtain ⟨reason, hreason⟩ := haborted rfl
          cases hreason
          rw [← hlines, List.append_assoc]
          exact .exited hwrongs rfl hbelow hmarker
      | @wrong line hline =>
          rw [← hlines]
          apply Story.of_wrong hwrongs hline hbelow hexhausted
          · intro reason hreason
            have := hall reason hreason (hwrongs.snoc hline)
            rw [← hlines] at this
            exact List.self_eq_append_right.mp this
          · rintro rfl
            cases haccepted.mpr rfl
      | right hmarker =>
          cases haccepted.mp rfl
          rw [← hlines, List.append_assoc]
          exact .accepted hwrongs rfl hbelow hmarker

/-- What a session with one known password comes to, wherever it stands. -/
structure Played (setup : Setup) (backend : FixedPassword) (ceiling : Nat)
    (sink : Sink) (stream : Bytes) (history : List Event) (state : State)
    (rest : Bytes) : Prop where
  -- Whichever step is next, the run comes to its return,
  finishes : state.phase ≠ .crashed → Finishes setup rest state
  -- and it need not give an attempt up for that.
  returns : state.phase ≠ .crashed → ∃ later state' rest' ending,
    Fed setup state rest later state' rest'
      ∧ state'.phase = .returned ending ∧ .abandoned ∉ later
  -- Nothing breaks the loop down but a deadline that no clock can show.
  crashed : state.phase = .crashed → clockLimit ≤ state.clock + setup.grace
  -- A run that has returned has put out the lines of what was sent, and what
  -- was sent follows from the input and the ceiling.
  shown : ∀ ending, state.phase = .returned ending →
    (∀ message cause, .unsent message cause ∉ history) →
    .abandoned ∉ history →
    state.sink.accepted
        = sink.accepted ++ (sent history).flatMap Message.lineBytes
      ∧ Shown backend ceiling
        ((Bytes.completeLines stream).map
          (List.take (max setup.maxLineLen 1))) (sent history)

/-- A session with one known password, for every input, every way in
which it arrives and every order of steps. The run comes to its return, as
long as a clock can show the deadline. If nothing failed to be written by
then and no attempt was given up, it has put out the lines of what was sent,
and what was sent follows from the complete lines of the input, each cut to
the length that is kept, and the ceiling. -/
theorem Fed.shown
    (hfed : Fed setup (.start setup (.new context maxFailures) sink) stream
      history state rest)
    (hbackend : setup.authenticator = .fixed backend)
    (havailable : backend.unavailable = none)
    (hbuffer : LineBuffer.capacityFor setup.maxLineLen
      ≤ LineBuffer.allocationLimit) :
    Played setup backend (max maxFailures.toNat 1) sink stream history state
      rest := by
  have hreader := hfed.reader_ne_crashed hbuffer
  have hfinishes : state.phase ≠ .crashed → Finishes setup rest state :=
    fun hphase => hfed.run.finishes hreader hphase rest
  refine ⟨hfinishes, fun hphase => (hfinishes hphase).exists_return,
    hfed.run.inTime.crashed, ?_⟩
  intro ending hreturned hwritten hnot
  have hending : state.phase.ending? = some ending := by
    rw [hreturned]
    rfl
  refine ⟨hfed.run.accepted hwritten, ?_⟩
  cases ending with
  | error cause =>
      obtain ⟨message, cause', hmem⟩ := hfed.run.unsent_of_ending hending
      exact absurd hmem (hwritten message cause')
  | ok outcome =>
      exact (hfed.story hbackend havailable hreader hnot hending).shows

/-- A wrong line, then the password: one failure, then the success. -/
theorem shown_second_try :
    ∃ history state rest,
      Fed ⟨.fixed { password := "pw" }, 8, 0⟩
        (.start ⟨.fixed { password := "pw" }, 8, 0⟩ (.new ⟨"user", none⟩ 3) {})
        [120, 10, 112, 119, 10] history state rest
      ∧ state.phase = .returned (.ok .authenticated)
      ∧ Shown { password := "pw" } 3 [[120], [112, 119]] (sent history)
      ∧ sent history = [.prompt "Password:", .busy false, .busy true, .failure,
        .prompt "Password:", .busy false, .busy true, .success] := by
  obtain ⟨history, state, rest, hfed, hview⟩ := Fed.exists_of_replay
    ⟨.fixed { password := "pw" }, 8, 0⟩
    (.start ⟨.fixed { password := "pw" }, 8, 0⟩ (.new ⟨"user", none⟩ 3) {})
    [120, 10, 112, 119, 10]
    [.move .check, .move .launch, .attempt 0, .attempt 0, .attempt 0,
      .reader .step, .reader (.poll .ready),
      .reader (.read (.bytes [120, 10, 112, 119, 10])), .reader .step,
      .reader .step, .attempt 0, .attempt 0, .attempt 0, .attempt 0,
      .move .forward, .move .forward, .move .forward, .move .join,
      .move .settle, .move .check, .move .launch, .attempt 1, .attempt 1,
      .attempt 1, .reader .step, .reader .step, .reader .step, .attempt 1,
      .attempt 1, .attempt 1, .attempt 1, .move .join, .move .drain,
      .move .drain, .move .drain, .move .settle, .move .stop, .move .giveUp,
      .move .sweep]
    (fun state history =>
      (state.phase.returned?, history.filter Event.isMishap))
    (some (.ok .authenticated), []) (by decide +kernel) (by decide +kernel)
  obtain ⟨hreturned, hmishap⟩ := Prod.mk.inj hview
  have hphase := Phase.eq_of_returned? hreturned
  have hnone := List.filter_eq_nil_iff.mp hmishap
  have hbackend : (Setup.mk (.fixed { password := "pw" }) 8 0).authenticator
      = .fixed { password := "pw" } := rfl
  have hplayed := hfed.shown hbackend rfl (by decide)
  obtain ⟨-, hshown⟩ := hplayed.shown _ hphase
    (fun message cause hmem => hnone _ hmem rfl) fun hmem => hnone _ hmem rfl
  have hlines : (Bytes.completeLines [120, 10, 112, 119, 10]).map (List.take 8)
      = [[120], [112, 119]] := by
    decide +kernel
  rw [show max ((3 : UInt32).toNat) 1 = 3 from rfl] at hshown
  rw [show max (8 : Nat) 1 = 8 from rfl, hlines] at hshown
  refine ⟨history, state, rest, hfed, hphase, hshown, ?_⟩
  rw [hshown.accepted 1 (by decide +kernel) (by decide) rfl (by decide +kernel)]
  decide +kernel

end Dispatch

end ScreenUnlock
