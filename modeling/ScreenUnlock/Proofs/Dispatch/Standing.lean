/-
Where the threads stand to one another.

These are the ground facts of every run, of whatever backend, input and
order of steps. Everything that is said of whole runs rests on them.

# The slot and the reader

A line lies in the slot of a session that is not cancelled only while
the reader waits for it to be taken (`waiting`). A reader that has done
its work has cancelled the session (`left`), and so has the dispatch
loop once it waits for the reader (`stopped`).

# One attempt at a time

All attempts but the newest are over. The one exception needs two
accidents: the reader broke down, so that nobody cancelled the session,
and an attempt was given up, so that it may still be under way when the
next one starts. `Alone` rules it out, and it is enough for the facts
about hand-over to rule out one of the two.
-/
import ScreenUnlock.Proofs.Dispatch.History

namespace ScreenUnlock.Dispatch

/-- The ending the loop has decided on, once it has. -/
def Phase.ending? : Phase → Option Ending
  | .stopping ending => some ending
  | .awaiting ending _ => some ending
  | .sweeping ending => some ending
  | .returned ending => some ending
  | _ => none

/-- Whether the loop has cancelled the session. -/
def Phase.hasStopped : Phase → Bool
  | .awaiting _ _ => true
  | .sweeping _ => true
  | .returned _ => true
  | _ => false

/-- The loop attends to no attempt, and has not failed. -/
def Phase.isQuiet : Phase → Bool
  | .deciding => true
  | .launching => true
  | .attending => false
  | .settling _ => true
  | .crashed => false
  | .stopping ending => ending.toBool
  | .awaiting ending _ => ending.toBool
  | .sweeping ending => ending.toBool
  | .returned ending => ending.toBool

/-- The loop does not start or attend to an attempt any more, unless it
retries. -/
def Phase.isPast : Phase → Bool
  | .settling _ => true
  | .stopping _ => true
  | .awaiting _ _ => true
  | .sweeping _ => true
  | .returned _ => true
  | _ => false

variable {setup : Setup} {context : AuthContext} {maxFailures : UInt32}
  {sink : Sink} {history events : List Event} {state state' : State}
  {action : Action}

open State (Arm arm_of_apply)

/-- The count of the attempts is right. -/
theorem Run.length_attempts {session : Session}
    (hrun : Run setup (.start setup session sink) history state) :
    state.attempts.length = state.started := by
  induction hrun with
  | init => rfl
  | step action _ hstep ih =>
      cases arm_of_apply hstep with
      | attempt _ _ =>
          exact (List.length_set ..).trans ih
      | launch _ => exact congrArg Nat.succ ih
      | halt _ _ hwrote | forward _ _ hwrote | drain _ _ hwrote
      | retry _ _ _ hwrote | conclude _ _ _ hwrote =>
          cases hwrote <;> exact ih
      | _ => exact ih

/-- Attempts are only ever added. -/
theorem State.Arm.started_le (harm : Arm setup state action state' events) :
    state.started ≤ state'.started := by
  cases harm with
  | launch _ => exact Nat.le_succ _
  | halt _ _ hwrote | forward _ _ hwrote | drain _ _ hwrote
  | retry _ _ _ hwrote | conclude _ _ _ hwrote =>
      cases hwrote <;> exact Nat.le_refl _
  | _ => exact Nat.le_refl _

/-- An attempt that was not started has done nothing. -/
theorem Run.idle_unstarted {session : Session} {number : Nat}
    (hrun : Run setup (.start setup session sink) history state)
    (hle : state.started ≤ number) : Idle number history := by
  induction hrun with
  | init => exact .nil
  | @step _ events _ _ action _ hstep ih =>
      have harm := arm_of_apply hstep
      have hle' := Nat.le_trans harm.started_le hle
      have hnow : Idle number events := by
        cases action with
        | reader action =>
            cases harm
            exact Idle.of_reader _
        | attempt other =>
            cases harm with
            | attempt hattempt _ =>
                have hlt := State.lt_of_attempt? hattempt
                exact Idle.of_ne (by omega) _
        | move move => exact (HandsNothing.of_move harm).idle number
        | elapse milliseconds =>
            cases harm
            exact .nil
      intro effect hmem
      exact (List.mem_append.mp hmem).elim (ih hle' effect) (hnow effect)

-- =============================================== the slot and the reader

/-- The ground facts about the slot, the reader and the deadline. -/
structure Standing (history : List Event) (state : State) : Prop where
  left : state.reader.phase = .sweeping ∨ state.reader.phase = .finished →
    state.session.slot.cancelled.isSome = true
  stopped : state.phase.hasStopped = true →
    state.session.slot.cancelled.isSome = true
  waiting : state.session.slot.cancelled = none →
    state.session.slot.pending.isSome = true →
    state.reader.phase = .awaiting
  deadline : state.deadline.isSome = true → state.reader.isOver = true
  abandoned : .abandoned ∈ history → state.deadline.isSome = true

theorem Standing.start :
    Standing [] (.start setup (.new context maxFailures) sink) where
  left := by
    rintro (h | h) <;> exact absurd (Reader.phase_of_new h) (by decide)
  stopped := by simp [State.start, Phase.hasStopped]
  waiting := by simp [State.start, Session.new, Slot.empty]
  deadline := by simp [State.start]
  abandoned := by simp

/-- What changes neither slot nor reader nor deadline, and goes to no
phase behind the cancellation, keeps the facts. -/
theorem Standing.same (h : Standing history state)
    (hslot : state'.session.slot = state.session.slot)
    (hreader : state'.reader = state.reader)
    (hphase : state'.phase.hasStopped = true → state.phase.hasStopped = true)
    (hdeadline : state'.deadline = state.deadline)
    (hevents : .abandoned ∉ events) : Standing (history ++ events) state' where
  left := by rw [hslot, hreader]; exact h.left
  stopped := by rw [hslot]; exact h.stopped ∘ hphase
  waiting := by rw [hslot, hreader]; exact h.waiting
  deadline := by rw [hdeadline, hreader]; exact h.deadline
  abandoned := by
    intro hmem
    rw [hdeadline]
    exact h.abandoned ((List.mem_append.mp hmem).resolve_right hevents)

theorem Standing.reader (h : Standing history state) {action : Reader.Action}
    {next : Reader.Next}
    (harm : Reader.Arm state.reader state.session.slot action next) :
    Standing (history ++ (next.effect.map Event.reader).toList)
      { state.withSlot next.slot with reader := next.reader } where
  left := harm.left h.left
  stopped := by
    intro hstop
    obtain ⟨reason, hreason⟩ := Option.isSome_iff_exists.mp (h.stopped hstop)
    exact Option.isSome_iff_exists.mpr ⟨reason, harm.cancelled_mono hreason⟩
  waiting := harm.waiting h.waiting
  deadline := by
    intro hdeadline
    have := h.deadline hdeadline
    rw [harm.not_isOver] at this
    cases this
  abandoned := by
    intro hmem
    exact h.abandoned ((List.mem_append.mp hmem).resolve_right
      (LoopRests.of_reader next.effect).abandoned)

theorem Standing.attempt (h : Standing history state) {number : Nat}
    {attempt : Attempt} {next : Attempt.Next}
    (harm : Attempt.Arm state.clock state.session.slot attempt next) :
    Standing (history ++ (next.effect.map (Event.attempt number)).toList)
      (state.withAttempt number next) where
  left hleft := harm.isSome_mono (h.left hleft)
  stopped hstop := harm.isSome_mono (h.stopped hstop)
  waiting := by
    show next.slot.cancelled = none → next.slot.pending.isSome = true →
      state.reader.phase = .awaiting
    intro hnone hsome
    refine h.waiting ?_ (harm.pending_mono hsome)
    cases hcancelled : state.session.slot.cancelled with
    | none => rfl
    | some reason =>
        rw [harm.cancelled_mono hcancelled] at hnone
        cases hnone
  deadline := h.deadline
  abandoned := by
    intro hmem
    exact h.abandoned ((List.mem_append.mp hmem).resolve_right
      (LoopRests.of_attempt number next.effect).abandoned)

theorem Standing.step (h : Standing history state)
    (harm : Arm setup state action state' events) :
    Standing (history ++ events) state' := by
  cases harm with
  | reader harm => exact h.reader harm
  | attempt _ harm => exact h.attempt harm
  | elapse => exact h.same rfl rfl id rfl (by simp)
  | halt _ hobserve hwrote =>
      have hslot := Session.observe_slot hobserve
      cases hwrote <;>
        exact h.same hslot rfl (fun hstop => by cases hstop) rfl (by simp)
  | proceed _ hobserve =>
      exact h.same (Session.observe_slot hobserve) rfl
        (fun hstop => by cases hstop) rfl (by simp)
  | launch _ | collapse _ _ _ _ | join _ _ _ =>
      exact h.same rfl rfl (fun hstop => by cases hstop) rfl (by simp)
  | forward _ _ hwrote | drain _ _ hwrote =>
      cases hwrote <;>
        exact h.same rfl rfl (fun hstop => by cases hstop) rfl (by simp)
  | retry _ _ hrecord hwrote | conclude _ _ hrecord hwrote =>
      have hslot := Session.record_slot hrecord
      cases hwrote <;>
        exact h.same hslot rfl (fun hstop => by cases hstop) rfl (by simp)
  | notice _ _ hover _ =>
      exact ⟨h.left, h.stopped, h.waiting, fun _ => hover, fun _ => rfl⟩
  | abandon _ hdeadline _ =>
      refine ⟨h.left, ?_, h.waiting, h.deadline, fun _ => ?_⟩
      · intro hstop
        cases hstop
      · show state.deadline.isSome = true
        rw [hdeadline]
        rfl
  | stop _ =>
      have hfirst := Slot.cancel_cancelled state.session.slot .shutdown
      have hsome := Option.isSome_iff_exists.mpr ⟨_, hfirst⟩
      refine ⟨fun _ => hsome, fun _ => hsome, fun hnone => ?_, h.deadline, ?_⟩
      · cases hfirst.symm.trans hnone
      · intro hmem
        refine h.abandoned ((List.mem_append.mp hmem).resolve_right ?_)
        split <;> simp
  | reap hphase _ | giveUp hphase _ =>
      exact h.same rfl rfl (fun _ => by rw [hphase]; rfl) rfl (by simp)
  | sweep hphase =>
      have hsome := h.stopped (by rw [hphase]; rfl)
      refine ⟨fun _ => hsome, fun _ => hsome, fun _ hpending => ?_,
        h.deadline, ?_⟩
      · cases hpending
      · intro hmem
        refine h.abandoned ((List.mem_append.mp hmem).resolve_right ?_)
        cases state.session.slot.pending <;> simp

/-- The ground facts hold in every run. -/
theorem Run.standing
    (hrun : Run setup (.start setup (.new context maxFailures) sink)
      history state) : Standing history state := by
  induction hrun with
  | init => exact .start
  | step action _ hstep ih => exact ih.step (arm_of_apply hstep)

/-- An attempt is given up only after the reader's end, and a reader that
did not break down has cancelled the session by then. -/
theorem Standing.cancelled_of_abandoned (h : Standing history state)
    (habandoned : .abandoned ∈ history)
    (hreader : state.reader.phase ≠ .crashed) :
    state.session.slot.cancelled.isSome = true := by
  have hover := h.deadline (h.abandoned habandoned)
  unfold Reader.isOver at hover
  split at hover
  case h_1 hphase => exact h.left (.inr hphase)
  case h_2 hphase => exact absurd hphase hreader
  case h_3 => cases hover

-- ================================================ one attempt at a time

/-- No attempt can be under way beside another one. -/
def Alone (history : List Event) (state : State) : Prop :=
  .abandoned ∉ history ∨ state.reader.phase ≠ .crashed

theorem Alone.of_later (h : Alone (history ++ events) state')
    (hreader : state'.reader = state.reader) : Alone history state := by
  rcases h with hnot | hphase
  · exact .inl fun hmem => hnot (List.mem_append_left _ hmem)
  · exact .inr (hreader ▸ hphase)

/-- The attempts take turns. -/
structure InTurn (history : List Event) (state : State) : Prop where
  older : Alone history state → ∀ i attempt,
    state.inOrder[i]? = some attempt → i + 1 < state.started →
    attempt.isOver = true
  quiet : .abandoned ∉ history → state.phase.isQuiet = true →
    ∀ attempt ∈ state.inOrder, attempt.isOver = true
  givenUp : .abandoned ∈ history → state.reader.phase ≠ .crashed →
    state.phase.isPast = true

theorem InTurn.start {session : Session} :
    InTurn [] (.start setup session sink) where
  older := by simp [State.start, State.inOrder]
  quiet := by simp [State.start, State.inOrder]
  givenUp := by simp

theorem InTurn.same (h : InTurn history state)
    (hattempts : state'.attempts = state.attempts)
    (hstarted : state'.started = state.started)
    (hreader : state'.reader = state.reader)
    (hquiet : state'.phase.isQuiet = true → state.phase.isQuiet = true)
    (hpast : state.phase.isPast = true → state'.phase.isPast = true)
    (hevents : .abandoned ∉ events) : InTurn (history ++ events) state' where
  older := by
    rw [Alone, State.inOrder, hattempts, hstarted, hreader, List.mem_append,
      or_iff_left hevents]
    exact h.older
  quiet := by
    rw [State.inOrder, hattempts, List.mem_append, or_iff_left hevents]
    exact fun habandoned hphase => h.quiet habandoned (hquiet hphase)
  givenUp := by
    rw [hreader, List.mem_append, or_iff_left hevents]
    exact fun habandoned hphase => hpast (h.givenUp habandoned hphase)

theorem InTurn.reader (h : InTurn history state)
    (hstanding : Standing history state) {action : Reader.Action}
    {next : Reader.Next}
    (harm : Reader.Arm state.reader state.session.slot action next) :
    InTurn (history ++ (next.effect.map Event.reader).toList)
      { state.withSlot next.slot with reader := next.reader } := by
  have hevents := (LoopRests.of_reader next.effect).abandoned
  -- a reader that can go on is not over, so no deadline is set
  have hnot : .abandoned ∉ history := by
    intro habandoned
    have hover := hstanding.deadline (hstanding.abandoned habandoned)
    rw [harm.not_isOver] at hover
    cases hover
  refine ⟨fun _ => h.older (.inl hnot), fun _ => h.quiet hnot, ?_⟩
  intro hmem
  exact absurd ((List.mem_append.mp hmem).resolve_right hevents) hnot

theorem InTurn.attempt (h : InTurn history state)
    (hlen : state.attempts.length = state.started) {number : Nat}
    {attempt : Attempt} {next : Attempt.Next}
    (hattempt : state.attempt? number = some attempt)
    (harm : Attempt.Arm state.clock state.session.slot attempt next) :
    InTurn (history ++ (next.effect.map (Event.attempt number)).toList)
      (state.withAttempt number next) := by
  have hevents := (LoopRests.of_attempt number next.effect).abandoned
  have hget := hattempt
  rw [State.attempt?_eq hlen] at hget
  have hinOrder := State.inOrder_withAttempt hlen hattempt next
  refine ⟨?_, ?_, ?_⟩
  · intro halone i other hother hi
    have halone' : Alone history state := halone.of_later rfl
    rw [hinOrder, List.getElem?_set] at hother
    by_cases heq : number = i
    · -- the attempt that goes on would have to be over
      subst heq
      have := h.older halone' number attempt hget hi
      rw [harm.not_isOver] at this
      cases this
    · rw [if_neg heq] at hother
      exact h.older halone' i other hother hi
  · intro hnot hphase
    rw [List.mem_append, or_iff_left hevents] at hnot
    have := h.quiet hnot hphase attempt (List.mem_of_getElem? hget)
    rw [harm.not_isOver] at this
    cases this
  · intro hmem
    exact h.givenUp ((List.mem_append.mp hmem).resolve_right hevents)

/-- Before an attempt and with nobody beside it, all attempts are over. -/
theorem InTurn.all_over (h : InTurn history state)
    (halone : Alone history state) (hquiet : state.phase.isQuiet = true)
    (hpast : state.phase.isPast = false) :
    ∀ attempt ∈ state.inOrder, attempt.isOver = true := by
  refine h.quiet (fun habandoned => ?_) hquiet
  rcases halone with hnot | hreader
  · exact hnot habandoned
  · have := h.givenUp habandoned hreader
    rw [hpast] at this
    cases this

/-- With nobody beside it, only the newest attempt is not over. -/
theorem InTurn.newest_of_not_isOver (h : InTurn history state)
    (halone : Alone history state)
    (hlen : state.attempts.length = state.started) {number : Nat}
    {attempt : Attempt} (hattempt : state.inOrder[number]? = some attempt)
    (hover : attempt.isOver = false) : number + 1 = state.started := by
  have hlt := (List.getElem?_eq_some_iff.mp hattempt).1
  rw [State.inOrder, List.length_reverse, hlen] at hlt
  by_contra hne
  have := h.older halone number attempt hattempt (by omega)
  rw [hover] at this
  cases this

/-- With nobody beside it, only the newest attempt goes on. -/
theorem InTurn.newest (h : InTurn history state) (halone : Alone history state)
    (hlen : state.attempts.length = state.started) {number : Nat}
    {attempt : Attempt} {next : Attempt.Next}
    (hattempt : state.attempt? number = some attempt)
    (harm : Attempt.Arm state.clock state.session.slot attempt next) :
    number + 1 = state.started := by
  rw [State.attempt?_eq hlen] at hattempt
  exact h.newest_of_not_isOver halone hlen hattempt harm.not_isOver

/-- Beside an attempt that is not over, all others are. -/
theorem InTurn.isOver_of_ne (h : InTurn history state)
    (halone : Alone history state)
    (hlen : state.attempts.length = state.started) {number i : Nat}
    {attempt other : Attempt} (hattempt : state.inOrder[number]? = some attempt)
    (hover : attempt.isOver = false) (hother : state.inOrder[i]? = some other)
    (hne : i ≠ number) : other.isOver = true := by
  have hnewest := h.newest_of_not_isOver halone hlen hattempt hover
  have hlt := (List.getElem?_eq_some_iff.mp hother).1
  rw [State.inOrder, List.length_reverse, hlen] at hlt
  exact h.older halone i other hother (by omega)

/-- All others are over. -/
theorem InTurn.others_over (h : InTurn history state)
    (halone : Alone history state)
    (hlen : state.attempts.length = state.started) {number : Nat}
    (hnewest : number + 1 = state.started) {attempt : Attempt}
    {before after : List Attempt}
    (hsplit : state.inOrder = before ++ attempt :: after)
    (hplace : before.length = number) :
    after = [] ∧ ∀ other ∈ before, other.isOver = true := by
  have hcount : state.inOrder.length = state.started :=
    List.length_reverse.trans hlen
  rw [hsplit, List.length_append, List.length_cons] at hcount
  refine ⟨List.eq_nil_of_length_eq_zero (by omega), fun other hmem => ?_⟩
  obtain ⟨i, hi, hget⟩ := List.getElem_of_mem hmem
  refine h.older halone i other ?_ (by omega)
  rw [hsplit, List.getElem?_append_left hi, ← hget]
  exact List.getElem?_eq_getElem hi

/-- An attempt is started when all others are over. -/
theorem InTurn.launch (h : InTurn history state)
    (hlen : state.attempts.length = state.started)
    (hphase : state.phase = .launching) (attempt : Attempt) :
    InTurn (history ++ [.started state.started])
      { state with
        attempts := attempt :: state.attempts
        started := state.started + 1
        phase := .attending } where
  older := by
    intro halone i other hget hi
    have halone' : Alone history state := halone.of_later rfl
    rw [State.inOrder, List.reverse_cons, List.getElem?_append_left
      (by rw [List.length_reverse, hlen]; exact Nat.lt_of_succ_lt_succ hi)]
      at hget
    exact h.all_over halone' (by rw [hphase]; rfl) (by rw [hphase]; rfl)
      other (List.mem_of_getElem? hget)
  quiet := by
    intro _ hquiet
    cases hquiet
  givenUp := by
    intro hmem hreader
    have := h.givenUp (by simpa using hmem) hreader
    rw [hphase] at this
    cases this

/-- When the newest attempt is over, all are. -/
theorem InTurn.join (h : InTurn history state)
    (hlen : state.attempts.length = state.started) {last : Attempt}
    {verdict : Verdict} (hlast : state.attempts.head? = some last)
    (hverdict : last.verdict? = some verdict) :
    InTurn history { state with phase := .settling verdict } where
  older halone := h.older (halone.imp_right id)
  quiet := by
    intro hnot _ attempt hmem
    obtain ⟨i, hi, hget⟩ := List.getElem_of_mem hmem
    have hget' := List.getElem?_eq_some_iff.mpr ⟨hi, hget⟩
    rw [State.inOrder, List.length_reverse] at hi
    by_cases hnewest : i + 1 < state.started
    · exact h.older (.inl hnot) i attempt hget' hnewest
    · -- the newest is the one with the verdict
      rw [State.inOrder, List.getElem?_reverse hi,
        show state.attempts.length - 1 - i = 0 by omega,
        ← List.head?_eq_getElem?, show state.attempts.head? = some last
          from hlast] at hget'
      cases hget'
      unfold Attempt.isOver
      rw [hverdict]
      rfl
  givenUp _ _ := rfl

/-- Another attempt follows only if nobody has cancelled, so none was given
up unless the reader broke down. -/
theorem InTurn.retry (h : InTurn history state)
    (hstanding : Standing history state) {verdict : Verdict}
    (hphase : state.phase = .settling verdict)
    (hopen : state.session.slot.cancelled = none)
    (hevents : .abandoned ∉ events)
    (hattempts : state'.attempts = state.attempts)
    (hstarted : state'.started = state.started)
    (hreader : state'.reader = state.reader) :
    InTurn (history ++ events) state' where
  older := by
    rw [Alone, State.inOrder, hattempts, hstarted, hreader, List.mem_append,
      or_iff_left hevents]
    exact h.older
  quiet := by
    rw [State.inOrder, hattempts, List.mem_append, or_iff_left hevents]
    exact fun habandoned _ => h.quiet habandoned (by rw [hphase]; rfl)
  givenUp := by
    rw [hreader, List.mem_append, or_iff_left hevents]
    intro habandoned hwhole
    have := hstanding.cancelled_of_abandoned habandoned hwhole
    rw [hopen] at this
    cases this

theorem InTurn.step (h : InTurn history state)
    (hstanding : Standing history state)
    (hlen : state.attempts.length = state.started)
    (harm : Arm setup state action state' events) :
    InTurn (history ++ events) state' := by
  cases harm with
  | reader harm => exact h.reader hstanding harm
  | attempt hattempt harm => exact h.attempt hlen hattempt harm
  | elapse => exact h.same rfl rfl rfl id id (by simp)
  | halt hphase _ hwrote =>
      cases hwrote <;>
        exact h.same rfl rfl rfl (fun _ => by rw [hphase]; rfl) (fun _ => rfl)
          (by simp)
  | proceed hphase _ =>
      exact h.same rfl rfl rfl (fun _ => by rw [hphase]; rfl)
        (fun hpast => by rw [hphase] at hpast; cases hpast) (by simp)
  | launch hphase => exact h.launch hlen hphase _
  | forward hphase _ hwrote =>
      cases hwrote
      · exact h.same rfl rfl rfl (fun hquiet => by cases hquiet)
          (fun hpast => by rw [hphase] at hpast; cases hpast) (by simp)
      · exact h.same rfl rfl rfl (fun hquiet => by cases hquiet)
          (fun _ => rfl) (by simp)
  | join _ hlast hverdict =>
      rw [List.append_nil]
      exact h.join hlen hlast hverdict
  | notice hphase _ _ _ =>
      exact h.same rfl rfl rfl id id (by simp)
  | collapse hphase _ _ _ =>
      exact h.same rfl rfl rfl (fun hquiet => by cases hquiet)
        (fun hpast => by rw [hphase] at hpast; cases hpast) (by simp)
  | abandon hphase _ _ =>
      refine ⟨fun halone => h.older (.inr ?_), fun hnot => ?_, fun _ _ => rfl⟩
      · exact halone.resolve_left (by simp)
      · simp at hnot
  | drain hphase _ hwrote =>
      cases hwrote <;>
        exact h.same rfl rfl rfl (fun _ => by rw [hphase]; rfl) (fun _ => rfl)
          (by simp)
  | conclude hphase _ _ hwrote =>
      cases hwrote <;>
        exact h.same rfl rfl rfl (fun _ => by rw [hphase]; rfl) (fun _ => rfl)
          (by simp)
  | retry hphase _ hrecord hwrote =>
      cases hwrote with
      | sent _ =>
          exact h.retry hstanding hphase (Session.cancelled_of_retry hrecord)
            (by simp) rfl rfl rfl
      | unsent _ =>
          exact h.same rfl rfl rfl (fun hquiet => by cases hquiet)
            (fun _ => rfl) (by simp)
  | stop hphase =>
      refine h.same rfl rfl rfl (fun hquiet => by rw [hphase]; exact hquiet)
        (fun _ => rfl) ?_
      split <;> simp
  | reap hphase _ | giveUp hphase _ =>
      exact h.same rfl rfl rfl (fun hquiet => by rw [hphase]; exact hquiet)
        (fun _ => rfl) (by simp)
  | sweep hphase =>
      refine h.same rfl rfl rfl (fun hquiet => by rw [hphase]; exact hquiet)
        (fun _ => rfl) ?_
      cases state.session.slot.pending <;> simp

/-- In every run the attempts take turns. -/
theorem Run.inTurn
    (hrun : Run setup (.start setup (.new context maxFailures) sink)
      history state) : InTurn history state := by
  induction hrun with
  | init => exact .start
  | step action hrun hstep ih =>
      exact ih.step hrun.standing hrun.length_attempts (arm_of_apply hstep)

end ScreenUnlock.Dispatch
