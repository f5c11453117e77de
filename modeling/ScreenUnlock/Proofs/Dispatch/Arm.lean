/-
What the whole system can do, arm by arm.

`State.Arm` lists the steps of the system: one arm for the reader, one
for the attempts, and one for each thing the dispatch loop does, with
all its guards. `State.arm_of_apply` says that nothing is missing. The
invariants of a run go through these arms, never through `apply`.

# Writing

Every message is written in one of two ways, and `Wrote` is the pair of
them: the line is out and the loop goes on as planned, or the loop stops
with the cause. An arm that writes carries a `Wrote`.

# Numbers and places

The attempts are stored newest first and known by the order in which
they were started. The lemmas on `attempt?` say what starting one and
changing one does to each number, so that no proof counts from the end.
-/
import ScreenUnlock.Dispatch.Basic
import ScreenUnlock.Proofs.Auth.Attempt
import ScreenUnlock.Proofs.Input.Reader
import ScreenUnlock.Proofs.Session.Basic

namespace ScreenUnlock

namespace Dispatch

namespace State

-- =============================================================== writing

/-- The two ways of writing a message. -/
inductive Wrote (state : State) (message : Message) (next : Phase) :
    State → List Event → Prop where
  | sent {sink : Sink} : state.sink.send message = (.ok (), sink) →
      Wrote state message next { state with sink, phase := next }
        [.sent message]
  | unsent {cause : IoError} {sink : Sink} :
      state.sink.send message = (.error cause, sink) →
      Wrote state message next
        { state with sink, phase := .stopping (.error cause) }
        [.unsent message cause]

theorem wrote_of_write {state state' : State} {message : Message}
    {next : Phase} {events : List Event}
    (h : state.write message next = (state', events)) :
    Wrote state message next state' events := by
  unfold write at h
  split at h
  case h_1 sink hsend =>
    cases h
    exact .sent hsend
  case h_2 cause sink hsend =>
    cases h
    exact .unsent hsend

-- ==================================================== numbers and places

/-- The attempts, oldest first: each stands at its number. -/
def inOrder (state : State) : List Attempt :=
  state.attempts.reverse

theorem attempt?_eq {state : State}
    (hlen : state.attempts.length = state.started) (number : Nat) :
    state.attempt? number = state.inOrder[number]? := by
  unfold attempt? placeOf inOrder
  split
  case isTrue hlt =>
    rw [List.getElem?_reverse (by omega), hlen]
  case isFalse hge =>
    rw [List.getElem?_eq_none (by rw [List.length_reverse]; omega)]

/-- Only an attempt that was started is under way. -/
theorem lt_of_attempt? {state : State} {number : Nat} {attempt : Attempt}
    (h : state.attempt? number = some attempt) : number < state.started := by
  unfold attempt? at h
  split at h
  case isTrue hlt => exact hlt
  case isFalse => cases h

-- ============================================================== the arms

/-- What the step of an attempt makes of the state. -/
def withAttempt (state : State) (number : Nat) (next : Attempt.Next) :
    State :=
  { state.withSlot next.slot with
    attempts := state.attempts.set (state.placeOf number) next.attempt
    channel := if state.listens then
        state.channel ++ (next.effect.bind Attempt.Effect.said?).toList
      else state.channel }

/-- A step of the system: the action, what it leads to, and what can be
seen of it. -/
inductive Arm (setup : Setup) (state : State) :
    Action → State → List Event → Prop where
  | reader {action : Reader.Action} {next : Reader.Next} :
      Reader.Arm state.reader state.session.slot action next →
      Arm setup state (.reader action)
        { state.withSlot next.slot with reader := next.reader }
        (next.effect.map Event.reader).toList
  | attempt {number : Nat} {attempt : Attempt} {next : Attempt.Next} :
      state.attempt? number = some attempt →
      Attempt.Arm state.clock state.session.slot attempt next →
      Arm setup state (.attempt number) (state.withAttempt number next)
        (next.effect.map (Event.attempt number)).toList
  | elapse {milliseconds : Nat} :
      Arm setup state (.elapse milliseconds)
        { state with clock := state.clock + milliseconds } []
  | halt {outcome : Outcome} {session : Session} {state' : State}
      {events : List Event} : state.phase = .deciding →
      state.session.observe = (some outcome, session) →
      Wrote { state with session } outcome.message (.stopping (.ok outcome))
        state' events →
      Arm setup state (.move .check) state' events
  | proceed {session : Session} : state.phase = .deciding →
      state.session.observe = (none, session) →
      Arm setup state (.move .check)
        { state with session, phase := .launching } []
  | launch : state.phase = .launching →
      Arm setup state (.move .launch)
        { state with
          attempts := .new (setup.authenticator.verify state.session.context
            state.precedents) :: state.attempts
          started := state.started + 1
          phase := .attending }
        [.started state.started]
  | forward {message : Message} {channel : List Message} {state' : State}
      {events : List Event} : state.phase = .attending →
      state.channel = message :: channel →
      Wrote { state with channel } message .attending state' events →
      Arm setup state (.move .forward) state' events
  | join {attempt : Attempt} {verdict : Verdict} :
      state.phase = .attending → state.attempts.head? = some attempt →
      attempt.verdict? = some verdict →
      Arm setup state (.move .join) { state with phase := .settling verdict }
        []
  -- The reader is over; the attempt has a deadline from now on.
  | notice : state.phase = .attending → state.deadline = none →
      state.reader.isOver = true → state.clock + setup.grace < clockLimit →
      Arm setup state (.move .notice)
        { state with deadline := some (state.clock + setup.grace) } []
  -- The reader is over, and no clock can show the deadline.
  | collapse : state.phase = .attending → state.deadline = none →
      state.reader.isOver = true → clockLimit ≤ state.clock + setup.grace →
      Arm setup state (.move .notice) { state with phase := .crashed } []
  | abandon {limit : Nat} : state.phase = .attending →
      state.deadline = some limit → limit ≤ state.clock →
      Arm setup state (.move .abandon)
        { state with phase := .settling (.rejected .aborted) } [.abandoned]
  -- What the attempt said last is passed on.
  | drain {verdict : Verdict} {message : Message} {channel : List Message}
      {state' : State} {events : List Event} :
      state.phase = .settling verdict → state.channel = message :: channel →
      Wrote { state with channel } message (.settling verdict) state' events →
      Arm setup state (.move .drain) state' events
  | retry {verdict : Verdict} {session : Session} {state' : State}
      {events : List Event} : state.phase = .settling verdict →
      state.channel = [] → state.session.record verdict = (.retry, session) →
      Wrote { state with session } .failure .deciding state' events →
      Arm setup state (.move .settle) state'
        (.recorded verdict .retry :: events)
  | conclude {verdict : Verdict} {outcome : Outcome} {session : Session}
      {state' : State} {events : List Event} :
      state.phase = .settling verdict → state.channel = [] →
      state.session.record verdict = (.finish outcome, session) →
      Wrote { state with session } outcome.message (.stopping (.ok outcome))
        state' events →
      Arm setup state (.move .settle) state'
        (.recorded verdict (.finish outcome) :: events)
  -- The session is cancelled, if it was not before.
  | stop {ending : Ending} : state.phase = .stopping ending →
      Arm setup state (.move .stop)
        { state.withSlot (state.session.slot.cancel .shutdown).2 with
          phase := .awaiting ending (state.clock + setup.grace) }
        (if (state.session.slot.cancel .shutdown).1 then
          [.cancelled .shutdown] else [])
  | reap {ending : Ending} {limit : Nat} :
      state.phase = .awaiting ending limit → state.reader.isOver = true →
      Arm setup state (.move .reap) { state with phase := .sweeping ending } []
  | giveUp {ending : Ending} {limit : Nat} :
      state.phase = .awaiting ending limit → limit ≤ state.clock →
      Arm setup state (.move .giveUp)
        { state with phase := .sweeping ending } []
  | sweep {ending : Ending} : state.phase = .sweeping ending →
      Arm setup state (.move .sweep)
        { state.withSlot state.session.slot.clear.2 with
          phase := .returned ending }
        (state.session.slot.pending.map Event.swept).toList

variable {setup : Setup} {state state' : State} {events : List Event}

/-- A step of an attempt changes the attempt with its number. -/
theorem inOrder_withAttempt (hlen : state.attempts.length = state.started)
    {number : Nat} {attempt : Attempt}
    (hattempt : state.attempt? number = some attempt) (next : Attempt.Next) :
    (state.withAttempt number next).inOrder
      = state.inOrder.set number next.attempt := by
  rw [attempt?_eq hlen] at hattempt
  obtain ⟨hlt, -⟩ := List.getElem?_eq_some_iff.mp hattempt
  rw [inOrder, List.length_reverse] at hlt
  show (state.attempts.set (state.started - 1 - number) next.attempt).reverse
    = state.attempts.reverse.set number next.attempt
  refine List.ext_getElem? fun i => ?_
  by_cases hi : i < state.attempts.length
  · rw [List.getElem?_reverse (by rw [List.length_set]; exact hi),
      List.length_set, List.getElem?_set, List.getElem?_set,
      List.length_reverse, List.getElem?_reverse hi]
    by_cases heq : number = i
    · rw [if_pos heq, if_pos (by omega), if_pos (by omega), if_pos (by omega)]
    · rw [if_neg heq, if_neg (by omega)]
  · rw [List.getElem?_eq_none (by simp; omega),
      List.getElem?_eq_none (by simp; omega)]

/-- The attempt that goes on and its place among the others. -/
theorem inOrder_split (hlen : state.attempts.length = state.started)
    {number : Nat} {attempt : Attempt}
    (hattempt : state.attempt? number = some attempt) (next : Attempt.Next) :
    ∃ before after, state.inOrder = before ++ attempt :: after
      ∧ (state.withAttempt number next).inOrder
        = before ++ next.attempt :: after
      ∧ before.length = number := by
  have hset := inOrder_withAttempt hlen hattempt next
  rw [attempt?_eq hlen] at hattempt
  obtain ⟨hlt, hget⟩ := List.getElem?_eq_some_iff.mp hattempt
  refine ⟨state.inOrder.take number, state.inOrder.drop (number + 1), ?_, ?_,
    ?_⟩
  · rw [← hget, List.getElem_cons_drop, List.take_append_drop]
  · rw [hset, List.set_eq_take_append_cons_drop, if_pos hlt]
  · rw [List.length_take, Nat.min_eq_left (Nat.le_of_lt hlt)]

theorem say_eq (message : Message) :
    state.say message = { state with
      channel := if state.listens then state.channel ++ [message]
        else state.channel } := by
  unfold say
  split <;> rfl

theorem arm_of_attemptStep {number : Nat}
    (hstep : state.attemptStep? number = some (state', events)) :
    Arm setup state (.attempt number) state' events := by
  unfold attemptStep? at hstep
  split at hstep
  case h_1 => cases hstep
  case h_2 attempt hattempt =>
    obtain ⟨next, hnext, heq⟩ := Option.map_eq_some_iff.mp hstep
    have harm : Arm setup state _ _ _ :=
      .attempt hattempt (Attempt.arm_of_step hnext)
    have hstate : state' = state.withAttempt number next := by
      cases heq
      unfold withAttempt
      split
      case h_1 message hsaid =>
        rw [hsaid, say_eq]
        rfl
      case h_2 hsilent =>
        rw [hsilent]
        simp [withSlot]
    cases heq
    rw [hstate]
    exact harm

/-- The loop looks before an attempt. -/
theorem arm_of_check
    (hstep : state.move? setup .check = some (state', events)) :
    Arm setup state (.move .check) state' events := by
  simp only [move?] at hstep
  split at hstep
  case h_1 hphase =>
    split at hstep
    case h_1 outcome session hobserve =>
      exact .halt hphase hobserve (wrote_of_write (Option.some.inj hstep))
    case h_2 session hobserve =>
      cases hstep
      exact .proceed hphase hobserve
  case h_2 => cases hstep

/-- The loop sees the reader at its end. -/
theorem arm_of_notice
    (hstep : state.move? setup .notice = some (state', events)) :
    Arm setup state (.move .notice) state' events := by
  simp only [move?] at hstep
  split at hstep
  case h_1 hphase hdeadline =>
    split at hstep
    case isTrue hover =>
      split at hstep
      case isTrue hlimit =>
        cases hstep
        exact .notice hphase hdeadline hover hlimit
      case isFalse hlimit =>
        cases hstep
        exact .collapse hphase hdeadline hover (Nat.le_of_not_lt hlimit)
    case isFalse => cases hstep
  case h_2 => cases hstep

/-- The loop records a verdict. -/
theorem arm_of_settle
    (hstep : state.move? setup .settle = some (state', events)) :
    Arm setup state (.move .settle) state' events := by
  simp only [move?] at hstep
  split at hstep
  case h_1 verdict hphase hchannel =>
    cases hrecord : state.session.record verdict with
    | mk step session =>
        rw [hrecord] at hstep
        cases step with
        | retry =>
            cases hwrite : { state with session }.write .failure .deciding
            simp only [hwrite] at hstep
            cases hstep
            exact .retry hphase hchannel hrecord (wrote_of_write hwrite)
        | finish outcome =>
            cases hwrite : { state with session }.conclude outcome
            simp only [hwrite] at hstep
            cases hstep
            exact .conclude hphase hchannel hrecord (wrote_of_write hwrite)
  case h_2 => cases hstep

theorem arm_of_move {move : Move}
    (hstep : state.move? setup move = some (state', events)) :
    Arm setup state (.move move) state' events := by
  cases move with
  | check => exact arm_of_check hstep
  | launch =>
      simp only [move?] at hstep
      split at hstep
      case h_1 hphase =>
        cases hstep
        exact .launch hphase
      case h_2 => cases hstep
  | forward =>
      simp only [move?] at hstep
      split at hstep
      case h_1 message channel hphase hchannel =>
        exact .forward hphase hchannel (wrote_of_write (Option.some.inj hstep))
      case h_2 => cases hstep
  | join =>
      simp only [move?] at hstep
      split at hstep
      case h_1 verdict hphase hverdict =>
        obtain ⟨attempt, hhead, hover⟩ := Option.bind_eq_some_iff.mp hverdict
        cases hstep
        exact .join hphase hhead hover
      case h_2 => cases hstep
  | notice => exact arm_of_notice hstep
  | abandon =>
      simp only [move?] at hstep
      split at hstep
      case h_1 limit hphase hdeadline =>
        split at hstep
        case isTrue hlimit =>
          cases hstep
          exact .abandon hphase hdeadline hlimit
        case isFalse => cases hstep
      case h_2 => cases hstep
  | drain =>
      simp only [move?] at hstep
      split at hstep
      case h_1 verdict message channel hphase hchannel =>
        exact .drain hphase hchannel (wrote_of_write (Option.some.inj hstep))
      case h_2 => cases hstep
  | settle => exact arm_of_settle hstep
  | stop =>
      simp only [move?] at hstep
      split at hstep
      case h_1 ending hphase =>
        cases hstep
        exact .stop hphase
      case h_2 => cases hstep
  | reap =>
      simp only [move?] at hstep
      split at hstep
      case h_1 ending limit hphase =>
        split at hstep
        case isTrue hover =>
          cases hstep
          exact .reap hphase hover
        case isFalse => cases hstep
      case h_2 => cases hstep
  | giveUp =>
      simp only [move?] at hstep
      split at hstep
      case h_1 ending limit hphase =>
        split at hstep
        case isTrue hlimit =>
          cases hstep
          exact .giveUp hphase hlimit
        case isFalse => cases hstep
      case h_2 => cases hstep
  | sweep =>
      simp only [move?] at hstep
      split at hstep
      case h_1 ending hphase =>
        cases hstep
        exact .sweep hphase
      case h_2 => cases hstep

/-- The dispatch loop does nothing to the reader. -/
theorem Arm.reader_of_move {move : Move}
    (harm : Arm setup state (.move move) state' events) :
    state'.reader = state.reader := by
  cases harm with
  | halt _ _ hwrote | forward _ _ hwrote | drain _ _ hwrote
  | retry _ _ _ hwrote | conclude _ _ _ hwrote => cases hwrote <;> rfl
  | _ => rfl

/-- The dispatch loop changes no attempt; it may add one. -/
theorem Arm.inOrder_of_move {move : Move}
    (harm : Arm setup state (.move move) state' events) :
    state'.inOrder = state.inOrder
      ∨ ∃ caller precedents, state'.inOrder = state.inOrder
        ++ [.new (setup.authenticator.verify caller precedents)] := by
  cases harm with
  | launch _ => exact .inr ⟨_, _, List.reverse_cons ..⟩
  | halt _ _ hwrote | forward _ _ hwrote | drain _ _ hwrote
  | retry _ _ _ hwrote | conclude _ _ _ hwrote =>
      left
      cases hwrote <;> rfl
  | _ => exact .inl rfl

/-- Each attempt stays what it is and where it is. -/
theorem Arm.getElem?_of_move {move : Move}
    (harm : Arm setup state (.move move) state' events) {number : Nat}
    {attempt : Attempt} (hattempt : state.inOrder[number]? = some attempt) :
    state'.inOrder[number]? = some attempt := by
  rcases harm.inOrder_of_move with hsame | ⟨_, _, hmore⟩
  · exact hsame ▸ hattempt
  · rw [hmore, List.getElem?_append_left
      (List.getElem?_eq_some_iff.mp hattempt).1]
    exact hattempt

/-- Every step of the system is one of the arms. -/
theorem arm_of_apply {action : Action}
    (hstep : apply setup action state = some (state', events)) :
    Arm setup state action state' events := by
  cases action with
  | reader action =>
      obtain ⟨next, hnext, heq⟩ := Option.map_eq_some_iff.mp hstep
      cases heq
      exact .reader (Reader.arm_of_apply hnext)
  | attempt number => exact arm_of_attemptStep hstep
  | move move => exact arm_of_move hstep
  | elapse milliseconds =>
      cases hstep
      exact .elapse

end State

end Dispatch

end ScreenUnlock
