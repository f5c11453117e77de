/-
Every run comes to its return.

A caller that is silent can hold a run up for as long as it likes, and so
can a read that is interrupted again and again. Time may also go by without
anybody waiting for it. All other steps count (`Action.Counts`), and a run
that goes by steps that count takes finitely many of them, whichever thread
is next: as long as the loop has not returned one of them is possible, and
however they follow one another the loop is back in the end (`Finishes`).
No fairness is asked for, no backend that is content with its answers, and
no sink that takes what it is given.

# One can go on

While the loop attends to an attempt it is the attempt that goes on, unless
it sleeps or waits for a line. For a sleep there is time, and for a line
there is the reader, since an open session with an empty slot has a reader
that is not over (`Run.exists_reader_step`). No step of the loop waits for
anything that could fail to come.

# Each step counts

What is left of a run is compared in three parts (`Nearer`). First the loop:
how many failures the counter can still count, and in which phase of a round
the loop is. Then the attempt that was started last: its call is a tree, so
there may be no bound on the steps that are left of it, but each of them goes
down the tree. At last what the others do meanwhile: the channel, the
deadline, the moments that are still to come, and the effort of the reader.

# Breaking down

One thing can keep the loop from its return: it breaks down when it would
have to set a deadline that no clock can show. `InTime` says that nothing
else breaks it down.
-/
import ScreenUnlock.Proofs.Dispatch.Ceiling
import ScreenUnlock.Proofs.Dispatch.Feed

namespace ScreenUnlock

-- ============================================================ the counter

namespace Counter

variable {counter : Counter}

/-- How many failures can still be counted. -/
def left (counter : Counter) : Nat :=
  counter.ceiling.toNat - counter.failures.toNat

theorem left_recordFailure_le : counter.recordFailure.left ≤ counter.left := by
  by_cases hbelow : counter.failures.toNat < counter.ceiling.toNat
  · rw [left, ceiling_recordFailure, toNat_recordFailure hbelow, left]
    omega
  · rw [recordFailure, if_neg (by rwa [UInt32.lt_iff_toNat_lt])]

theorem left_recordFailure_lt (hmore : counter.recordFailure.hasMore = true) :
    counter.recordFailure.left < counter.left := by
  by_cases hbelow : counter.failures.toNat < counter.ceiling.toNat
  · rw [left, ceiling_recordFailure, toNat_recordFailure hbelow, left]
    omega
  · rw [recordFailure, if_neg (by rwa [UInt32.lt_iff_toNat_lt]), hasMore_eq,
      decide_eq_true_eq] at hmore
    exact absurd hmore hbelow

end Counter

namespace Session

variable {session session' : Session} {verdict : Verdict}

theorem left_observe {found : Option Outcome}
    (h : session.observe = (found, session')) :
    session'.counter.left = session.counter.left := by
  rcases observe_inv h with ⟨_, -, -, rfl⟩ | ⟨_, -, -, -, rfl⟩
    | ⟨-, -, -, rfl⟩ <;> rfl

theorem left_record_le {step : Step}
    (h : session.record verdict = (step, session')) :
    session'.counter.left ≤ session.counter.left := by
  rcases record_inv h with ⟨_, -, -, rfl⟩ | ⟨-, -, -, rfl⟩
    | ⟨_, _, -, -, -, -, rfl⟩ | ⟨_, -, -, -, -, -, rfl⟩
    | ⟨_, -, -, -, -, -, rfl⟩
  · exact Nat.le_refl _
  · exact Nat.le_refl _
  · exact Nat.le_refl _
  · exact Counter.left_recordFailure_le
  · exact Counter.left_recordFailure_le

/-- Another attempt costs a failure. -/
theorem left_record_lt (h : session.record verdict = (.retry, session')) :
    session'.counter.left < session.counter.left := by
  rcases record_inv h with ⟨_, -, hstep, -⟩ | ⟨-, -, hstep, -⟩
    | ⟨_, _, -, -, -, hstep, -⟩ | ⟨_, -, -, -, hmore, -, rfl⟩
    | ⟨_, -, -, -, -, hstep, -⟩
  · cases hstep
  · cases hstep
  · cases hstep
  · exact Counter.left_recordFailure_lt hmore
  · cases hstep

end Session

-- ============================================================ one attempt

namespace Attempt

/-- What becomes of an attempt by one step, whenever it is taken and
whatever the slot is then. -/
def After (later attempt : Attempt) : Prop :=
  ∃ clock slot next, Arm clock slot attempt next ∧ next.attempt = later

variable {replies : Transcript}

theorem acc_ended (verdict : Verdict) :
    Acc After ⟨.ended verdict, replies⟩ := by
  constructor
  rintro _ ⟨clock, slot, next, harm, -⟩
  cases harm

theorem acc_sleeping {wake : Nat} {rest : Verification}
    (h : Acc After ⟨.running rest, replies⟩) :
    Acc After ⟨.sleeping wake rest, replies⟩ := by
  constructor
  rintro _ ⟨clock, slot, next, harm, rfl⟩
  cases harm with
  | wake _ => exact h

/-- A request comes to its reply, and the call goes on with that. -/
theorem acc_conversing {rest : Option Secret → Verification}
    (h : ∀ reply replies, Acc After ⟨.running (rest reply), replies⟩)
    (exchange : Exchange) : Acc After ⟨.conversing exchange rest, replies⟩ := by
  induction hrank : exchange.rank using Nat.strongRecOn
    generalizing exchange with
  | ind rank ih =>
      constructor
      rintro _ ⟨clock, slot, next, harm, rfl⟩
      cases harm with
      | converse harm => exact ih _ (hrank ▸ harm.rank_lt) _ rfl
      | reply => exact h _ _

/-- A call comes to its end. -/
theorem acc_running (call : Verification) :
    Acc After ⟨.running call, replies⟩ := by
  induction call generalizing replies with
  | finish failure | crash =>
      constructor
      rintro _ ⟨clock, slot, next, harm, rfl⟩
      cases harm with
      | finish _ => exact acc_ended _
  | pause milliseconds rest ih =>
      constructor
      rintro _ ⟨clock, slot, next, harm, rfl⟩
      cases harm with
      | finish hverdict => cases hverdict
      | pause => exact acc_sleeping ih
  | converse style text rest ih =>
      constructor
      rintro _ ⟨clock, slot, next, harm, rfl⟩
      cases harm with
      | finish hverdict => cases hverdict
      | request => exact acc_conversing (fun reply _ => ih reply) _

theorem wellFounded_after : WellFounded After := by
  constructor
  rintro ⟨activity, replies⟩
  cases activity with
  | running call => exact acc_running call
  | conversing exchange rest =>
      exact acc_conversing (fun _ _ => acc_running _) exchange
  | sleeping wake rest => exact acc_sleeping (acc_running rest)
  | ended verdict => exact acc_ended verdict

/-- An attempt that is not over can go on, or sleeps, or waits for a line. -/
theorem isSome_step?_or {attempt : Attempt} {clock : Nat} {slot : Slot}
    (hover : attempt.isOver = false) :
    (attempt.step? clock slot).isSome = true
      ∨ (∃ wake, attempt.wake? = some wake ∧ clock < wake)
      ∨ (slot.cancelled = none ∧ slot.pending = none) := by
  obtain ⟨activity, replies⟩ := attempt
  cases activity with
  | running call => exact .inl (by cases call <;> rfl)
  | ended verdict => cases hover
  | sleeping wake rest =>
      by_cases hwake : wake ≤ clock
      · exact .inl (by simp [step?, hwake])
      · exact .inr (.inl ⟨wake, rfl, Nat.lt_of_not_le hwake⟩)
  | conversing exchange rest =>
      by_cases hready :
          slot.cancelled.isSome = true ∨ slot.pending.isSome = true
      · exact .inl (isSome_step? rfl fun _ => hready)
      · rw [not_or, Option.not_isSome_iff_eq_none,
          Option.not_isSome_iff_eq_none] at hready
        exact .inr (.inr hready)

end Attempt

-- ============================================================= the reader

/-- In an open session with an empty slot the reader can go on. It needs
input, or the end of it, whenever it waits for some. -/
theorem Reader.exists_step {reader : Reader} {slot : Slot}
    (hnone : slot.cancelled = none) (hempty : slot.pending = none)
    (hleft : reader.phase ≠ .sweeping ∧ reader.phase ≠ .finished)
    (hwhole : reader.phase ≠ .crashed) (rest : Bytes) :
    ∃ action rest', action.counts = true ∧ action.feed? rest = some rest'
      ∧ (apply action reader slot).isSome = true := by
  cases hphase : reader.phase with
  | looking =>
      refine ⟨.step, rest, rfl, rfl, ?_⟩
      simp only [apply, step?, hphase, hnone]
      split <;> rfl
  | offering line | awaiting | leaving =>
      refine ⟨.step, rest, rfl, rfl, ?_⟩
      simp [apply, step?, hphase, hnone, hempty, Slot.publish?,
        Slot.consumed?]
  | polling =>
      exact ⟨.poll .ready, rest, rfl, rfl, by simp [apply, hphase]⟩
  | reading =>
      cases hrest : rest with
      | nil =>
          exact ⟨.read .endOfInput, [], rfl, rfl,
            by simp [apply, hphase, afterRead?]⟩
      | cons byte more =>
          refine ⟨.read (.bytes [byte]), more, rfl, ?_, ?_⟩
          · exact List.isPrefixOf?_eq_some_iff_append_eq.mpr rfl
          · simp [apply, hphase, afterRead?, readChunk]
  | sweeping => exact absurd hphase hleft.1
  | finished => exact absurd hphase hleft.2
  | crashed => exact absurd hphase hwhole

namespace Dispatch

open State (Arm Wrote arm_of_apply)

variable {setup : Setup} {session : Session} {context : AuthContext}
  {maxFailures : UInt32} {sink : Sink} {history events : List Event} {state state' : State}
  {action : Action} {rest rest' : Bytes}

-- ==================================================== the steps that count

/-- The moment up to which the loop waits for the reader. -/
def Phase.limit? : Phase → Option Nat
  | .awaiting _ limit => some limit
  | _ => none

namespace State

/-- The attempt that was started last. Before the first one it is one that
does nothing. -/
def newest (state : State) : Attempt :=
  state.attempts.headD ⟨.ended (.rejected .brokenDown), []⟩

/-- The moments that somebody waits for. -/
def moments (state : State) : List Nat :=
  state.newest.wake?.toList ++ state.deadline.toList
    ++ state.phase.limit?.toList

end State

/-- Something comes of a step. -/
def Action.Counts (state : State) : Action → Prop
  | .reader action => action.counts = true
  | .elapse milliseconds =>
    ∃ moment ∈ state.moments, state.clock < moment
      ∧ moment ≤ state.clock + milliseconds
  | .attempt _ => True
  | .move _ => True

/-- A step is possible of which something comes, by which no attempt is
given up, and which does not break the loop down. -/
def Goes (setup : Setup) (rest : Bytes) (state : State) : Prop :=
  ∃ action rest' state' events, action.Counts state
    ∧ action ≠ .move .abandon ∧ action.feed? rest = some rest'
    ∧ apply setup action state = some (state', events)
    ∧ state'.phase ≠ .crashed

/-- The loop returns after finitely many of the steps that count, whichever
of them is next, unless it breaks down; `rest` is what is left of the
input. -/
inductive Finishes (setup : Setup) : Bytes → State → Prop where
  | returned {rest : Bytes} {state : State} {ending : Ending} :
      state.phase = .returned ending → Finishes setup rest state
  | goesOn {rest : Bytes} {state : State} : Goes setup rest state →
      (∀ action rest' state' events, action.Counts state →
        action.feed? rest = some rest' →
        apply setup action state = some (state', events) →
        state'.phase ≠ .crashed → Finishes setup rest' state') →
      Finishes setup rest state

/-- Only giving an attempt up is seen as that. -/
theorem State.Arm.eq_abandon (harm : Arm setup state action state' events)
    (hmem : .abandoned ∈ events) : action = .move .abandon := by
  cases harm with
  | abandon _ _ _ => rfl
  | reader _ => exact absurd hmem (LoopRests.of_reader _).abandoned
  | attempt _ _ => exact absurd hmem (LoopRests.of_attempt _ _).abandoned
  | stop _ => exact absurd hmem (LoopRests.of_cancel _ _).abandoned
  | sweep _ => exact absurd hmem (LoopRests.of_sweep _).abandoned
  | halt _ _ hwrote | forward _ _ hwrote | drain _ _ hwrote
  | retry _ _ _ hwrote | conclude _ _ _ hwrote =>
      cases hwrote <;> simp at hmem
  | launch _ => simp at hmem
  | _ => cases hmem

/-- There is a way to the return on which no attempt is given up. -/
theorem Finishes.exists_return (h : Finishes setup rest state) :
    ∃ later state' rest' ending, Fed setup state rest later state' rest'
      ∧ state'.phase = .returned ending ∧ .abandoned ∉ later := by
  induction h with
  | returned hphase =>
      exact ⟨[], _, _, _, .init, hphase, List.not_mem_nil⟩
  | goesOn hgoes _ ih =>
      obtain ⟨action, rest', state', events, hcounts, hne, hfeed, hstep,
        hphase⟩ := hgoes
      obtain ⟨later, last, left, ending, hlater, hreturned, hnot⟩ :=
        ih action rest' state' events hcounts hfeed hstep hphase
      refine ⟨events ++ later, last, left, ending,
        (Fed.init.step action hfeed hstep).trans hlater, hreturned, ?_⟩
      rw [List.mem_append, not_or]
      exact ⟨fun hmem => hne ((arm_of_apply hstep).eq_abandon hmem), hnot⟩

-- ========================================================= one can go on

theorem State.Arm.phase_ne_crashed
    (harm : Arm setup state action state' events)
    (hnotice : action ≠ .move .notice) (hphase : state.phase ≠ .crashed) :
    state'.phase ≠ .crashed := by
  cases harm with
  | reader _ | attempt _ _ | elapse => exact hphase
  | notice _ _ _ _ | collapse _ _ _ _ => exact absurd rfl hnotice
  | halt _ _ hwrote | forward _ _ hwrote | drain _ _ hwrote
  | retry _ _ _ hwrote | conclude _ _ _ hwrote =>
      cases hwrote <;> exact fun h => by cases h
  | _ => exact fun h => by cases h

/-- A step other than those two that can go wrong. -/
theorem Goes.of_isSome (action : Action) (hcounts : action.Counts state)
    (habandon : action ≠ .move .abandon) (hnotice : action ≠ .move .notice)
    (hfeed : action.feed? rest = some rest')
    (hphase : state.phase ≠ .crashed)
    (hsome : (apply setup action state).isSome = true) :
    Goes setup rest state := by
  obtain ⟨⟨state', events⟩, hstep⟩ := Option.isSome_iff_exists.mp hsome
  exact ⟨action, rest', state', events, hcounts, habandon, hfeed, hstep,
    (arm_of_apply hstep).phase_ne_crashed hnotice hphase⟩

/-- There is time. -/
theorem Goes.of_moment {moment : Nat} (hmem : moment ∈ state.moments)
    (hlate : state.clock < moment) (hphase : state.phase ≠ .crashed) :
    Goes setup rest state :=
  .of_isSome (.elapse moment) ⟨moment, hmem, hlate, Nat.le_add_left _ _⟩
    (fun h => by cases h) (fun h => by cases h) rfl hphase rfl

/-- The newest attempt, once there is one. -/
theorem State.head?_eq_newest (hlen : state.attempts.length = state.started)
    (hpos : 0 < state.started) :
    state.attempts.head? = some state.newest := by
  unfold newest
  cases hattempts : state.attempts with
  | nil =>
      rw [hattempts, List.length_nil] at hlen
      omega
  | cons attempt attempts => rfl

/-- It has the last number. -/
theorem State.attempt?_newest (hlen : state.attempts.length = state.started)
    {number : Nat} (hnewest : number + 1 = state.started) :
    state.attempt? number = some state.newest := by
  rw [attempt?, if_pos (by omega), placeOf,
    show state.started - 1 - number = 0 by omega, ← List.head?_eq_getElem?,
    head?_eq_newest hlen (by omega)]

section Run

variable (hrun : Run setup (.start setup (.new context maxFailures) sink)
    history state)
  (hreader : state.reader.phase ≠ .crashed)

include hrun

/-- The loop attends to an attempt that was started. -/
theorem Run.started_pos (hphase : state.phase = .attending) :
    0 < state.started := by
  obtain ⟨rounds, hopen⟩ := hrun.books.isOpen (by rw [hphase]; rfl)
  rw [hopen.started, hphase]
  exact Nat.succ_pos _

include hreader

/-- While a line is waited for, the reader can go on. -/
theorem Run.goes_reader (hphase : state.phase ≠ .crashed)
    (hnone : state.session.slot.cancelled = none)
    (hempty : state.session.slot.pending = none) (rest : Bytes) :
    Goes setup rest state := by
  have hleft := hrun.standing.left
  rw [hnone] at hleft
  obtain ⟨action, rest', hcounts, hfeed, hsome⟩ := Reader.exists_step hnone
    hempty ⟨fun h => absurd (hleft (.inl h)) Bool.false_ne_true,
      fun h => absurd (hleft (.inr h)) Bool.false_ne_true⟩ hreader rest
  exact .of_isSome (.reader action) hcounts (fun h => by cases h)
    (fun h => by cases h) hfeed hphase
    (by rw [apply, State.readerStep?, Option.isSome_map, hsome])

/-- While the loop attends to an attempt, this one or the reader can go on,
or the loop sees that it is over. -/
theorem Run.goes_attending (hphase : state.phase = .attending)
    (rest : Bytes) : Goes setup rest state := by
  have hwhole : state.phase ≠ .crashed := by
    rw [hphase]
    exact fun h => by cases h
  have hlen := hrun.length_attempts
  have hpos := hrun.started_pos hphase
  cases hverdict : state.newest.verdict? with
  | some verdict =>
      refine .of_isSome (.move .join) trivial (fun h => by cases h)
        (fun h => by cases h) rfl hwhole ?_
      simp [apply, State.move?, hphase, State.head?_eq_newest hlen hpos,
        hverdict]
  | none =>
      have hover : state.newest.isOver = false := by
        rw [Attempt.isOver, hverdict]
        rfl
      rcases @Attempt.isSome_step?_or _ state.clock state.session.slot hover
        with hsome | ⟨wake, hwake, hlate⟩ | ⟨hnone, hempty⟩
      · refine .of_isSome (.attempt (state.started - 1)) trivial
          (fun h => by cases h) (fun h => by cases h) rfl hwhole ?_
        simpa [apply, State.attemptStep?, State.attempt?_newest hlen
          (Nat.sub_add_cancel hpos)] using hsome
      · exact .of_moment (by simp [State.moments, hwake]) hlate hwhole
      · exact hrun.goes_reader hreader hwhole hnone hempty rest

/-- As long as the loop has not returned or broken down, somebody can go
on. -/
theorem Run.goes (hphase : state.phase ≠ .crashed)
    (hreturned : ∀ ending, state.phase ≠ .returned ending) (rest : Bytes) :
    Goes setup rest state := by
  have hmove : ∀ move, move ≠ .abandon → move ≠ .notice →
      (state.move? setup move).isSome = true → Goes setup rest state := by
    intro move habandon hnotice hsome
    exact .of_isSome (.move move) trivial
      (fun h => habandon (Action.move.inj h))
      (fun h => hnotice (Action.move.inj h)) rfl hphase hsome
  cases hcase : state.phase with
  | deciding =>
      refine hmove .check (by decide) (by decide) ?_
      simp only [State.move?, hcase]
      split <;> rfl
  | launching =>
      exact hmove .launch (by decide) (by decide)
        (by simp [State.move?, hcase])
  | attending => exact hrun.goes_attending hreader hcase rest
  | settling verdict =>
      cases hchannel : state.channel with
      | nil =>
          exact hmove .settle (by decide) (by decide)
            (by simp [State.move?, hcase, hchannel])
      | cons message channel =>
          exact hmove .drain (by decide) (by decide)
            (by simp [State.move?, hcase, hchannel])
  | stopping ending =>
      exact hmove .stop (by decide) (by decide) (by simp [State.move?, hcase])
  | awaiting ending limit =>
      by_cases hlimit : limit ≤ state.clock
      · exact hmove .giveUp (by decide) (by decide)
          (by simp [State.move?, hcase, hlimit])
      · exact .of_moment (by simp [State.moments, hcase, Phase.limit?])
          (Nat.lt_of_not_le hlimit) hphase
  | sweeping ending =>
      exact hmove .sweep (by decide) (by decide)
        (by simp [State.move?, hcase])
  | returned ending => exact absurd hcase (hreturned ending)
  | crashed => exact absurd hcase hphase

end Run

-- ======================================================== each step counts

/-- Where the loop stands in a round, counted from the end. -/
def Phase.rank : Phase → Nat
  | .deciding => 7
  | .launching => 6
  | .attending => 5
  | .settling _ => 4
  | .stopping _ => 3
  | .awaiting _ _ => 2
  | .sweeping _ => 1
  | .returned _ => 0
  | .crashed => 0

namespace State

/-- How many rounds and phases are left of the loop at most. -/
def rank (state : State) : Nat :=
  8 * state.session.counter.left + state.phase.rank

/-- How many moments are still to come. -/
def waits (state : State) : Nat :=
  state.moments.countP fun moment => decide (state.clock < moment)

/-- What is left of everything else while `rest` is still to be read. A
deadline that is set may be one more moment to wait for. -/
def effort (rest : Bytes) (state : State) : Nat :=
  state.channel.length + (if state.deadline.isNone then 2 else 0)
    + state.waits + state.reader.effort rest.length

end State

/-- Less is left behind a step than in front of it. -/
inductive Nearer : Bytes × State → Bytes × State → Prop where
  | loop {rest rest' : Bytes} {state state' : State} :
      state'.rank < state.rank → Nearer (rest', state') (rest, state)
  | attempt {rest rest' : Bytes} {state state' : State} :
      state'.rank = state.rank → Attempt.After state'.newest state.newest →
      Nearer (rest', state') (rest, state)
  | others {rest rest' : Bytes} {state state' : State} :
      state'.rank = state.rank → state'.newest = state.newest →
      state'.effort rest' < state.effort rest →
      Nearer (rest', state') (rest, state)

theorem wellFounded_nearer : WellFounded Nearer := by
  have hlex := (Prod.lex Nat.lt_wfRel
    (Prod.lex ⟨_, Attempt.wellFounded_after⟩ Nat.lt_wfRel)).wf
  refine Subrelation.wf ?_ (InvImage.wf (fun pair : Bytes × State =>
    (pair.2.rank, pair.2.newest, pair.2.effort pair.1)) hlex)
  intro later given hnearer
  cases hnearer with
  | loop hrank => exact .left _ _ hrank
  | attempt hrank hafter =>
      show Prod.Lex _ _ (_, _, _) (_, _, _)
      rw [hrank]
      exact .right _ (.left _ _ hafter)
  | others hrank hnewest heffort =>
      show Prod.Lex _ _ (_, _, _) (_, _, _)
      rw [hrank, hnewest]
      exact .right _ (.right _ heffort)

/-- The loop comes to a later phase. -/
theorem Nearer.of_phase
    (hcounter : state'.session.counter.left ≤ state.session.counter.left)
    (hphase : state'.phase.rank < state.phase.rank) :
    Nearer (rest', state') (rest, state) := by
  refine .loop ?_
  unfold State.rank
  omega

/-- The loop writes and comes to a later phase, or fails. -/
theorem Nearer.of_wrote {middle : State} {message : Message} {next : Phase}
    (hwrote : Wrote middle message next state' events)
    (hcounter : middle.session.counter.left ≤ state.session.counter.left)
    (hnext : next.rank < state.phase.rank) (hgoes : 3 < state.phase.rank) :
    Nearer (rest', state') (rest, state) := by
  cases hwrote with
  | sent _ => exact .of_phase hcounter hnext
  | unsent _ => exact .of_phase hcounter hgoes

/-- A message is written out of the channel, or fails to be. -/
theorem Nearer.of_passed {message : Message} {channel : List Message}
    {next : Phase} (hchannel : state.channel = message :: channel)
    (hwrote : Wrote { state with channel } message next state' events)
    (hnext : next = state.phase) (hgoes : 3 < state.phase.rank) :
    Nearer (rest, state') (rest, state) := by
  subst hnext
  cases hwrote with
  | sent _ =>
      have hlt : channel.length < state.channel.length := by
        rw [hchannel]
        exact Nat.lt_succ_self _
      exact .others rfl rfl (Nat.add_lt_add_right (Nat.add_lt_add_right
        (Nat.add_lt_add_right hlt _) _) _)
  | unsent _ => exact .of_phase (Nat.le_refl _) hgoes

/-- Time goes by until a moment that somebody waits for. -/
theorem State.waits_elapse {milliseconds moment : Nat}
    (hmem : moment ∈ state.moments) (hlate : state.clock < moment)
    (hcomes : moment ≤ state.clock + milliseconds) :
    State.waits { state with clock := state.clock + milliseconds }
      < state.waits := by
  show state.moments.countP
      (fun moment => decide (state.clock + milliseconds < moment))
    < state.moments.countP fun moment => decide (state.clock < moment)
  obtain ⟨before, after, hsplit⟩ := List.append_of_mem hmem
  have hle : ∀ moments : List Nat,
      moments.countP (fun moment =>
          decide (state.clock + milliseconds < moment))
        ≤ moments.countP fun moment => decide (state.clock < moment) := by
    refine fun moments => List.countP_mono_left fun moment _ h => ?_
    rw [decide_eq_true_eq] at h ⊢
    omega
  have hbefore := hle before
  have hafter := hle after
  rw [hsplit, List.countP_append, List.countP_append, List.countP_cons,
    List.countP_cons, if_neg (by simpa using hcomes),
    if_pos (decide_eq_true hlate)]
  omega

/-- A deadline that is set is at most one more moment to wait for. -/
theorem State.waits_notice {limit : Nat} (hnone : state.deadline = none) :
    State.waits { state with deadline := some limit } ≤ state.waits + 1 := by
  have hmore : ∀ (p : Nat → Bool) (before after : List Nat),
      (before ++ [limit] ++ after).countP p
        ≤ (before ++ [] ++ after).countP p + 1 := by
    intro p before after
    have hone : [limit].countP p ≤ 1 := List.countP_le_length
    simp only [List.countP_append, List.countP_nil]
    omega
  unfold waits moments
  rw [hnone]
  exact hmore _ _ _

/-- The newest attempt goes on. -/
theorem State.newest_withAttempt {number : Nat}
    (hlen : state.attempts.length = state.started)
    (hnewest : number + 1 = state.started) (next : Attempt.Next) :
    (state.withAttempt number next).newest = next.attempt := by
  have hplace : state.placeOf number = 0 := by
    rw [placeOf]
    omega
  show (state.attempts.set (state.placeOf number) next.attempt).headD _ = _
  rw [hplace]
  cases hattempts : state.attempts with
  | nil =>
      rw [hattempts, List.length_nil] at hlen
      omega
  | cons attempt attempts => rfl

/-- Every step that counts leaves less to do. -/
theorem State.Arm.nearer (harm : Arm setup state action state' events)
    (hcounts : action.Counts state) (hfeed : action.feed? rest = some rest')
    (hlen : state.attempts.length = state.started)
    (hnewest : ∀ {number attempt next}, state.attempt? number = some attempt →
      Attempt.Arm state.clock state.session.slot attempt next →
      number + 1 = state.started) :
    Nearer (rest', state') (rest, state) := by
  cases action with
  | reader action =>
      cases harm with
      | reader harm =>
          exact .others rfl rfl
            (Nat.add_lt_add_left (harm.effort_lt hfeed hcounts) _)
  | attempt number =>
      cases harm with
      | @attempt _ attempt next hattempt harm =>
          have hlast := hnewest hattempt harm
          rw [State.attempt?_newest hlen hlast] at hattempt
          cases hattempt
          exact .attempt rfl ⟨_, _, next, harm,
            (State.newest_withAttempt hlen hlast next).symm⟩
  | elapse milliseconds =>
      cases hfeed
      cases harm with
      | elapse =>
          obtain ⟨moment, hmem, hlate, hcomes⟩ := hcounts
          exact .others rfl rfl (Nat.add_lt_add_right (Nat.add_lt_add_left
            (State.waits_elapse hmem hlate hcomes) _) _)
  | move move =>
      cases hfeed
      cases harm with
      | halt hphase hobserve hwrote =>
          exact .of_wrote hwrote (Session.left_observe hobserve).le
            (by simp [Phase.rank, hphase]) (by simp [Phase.rank, hphase])
      | proceed hphase hobserve =>
          exact .of_phase (Session.left_observe hobserve).le
            (by simp [Phase.rank, hphase])
      | launch hphase =>
          exact .of_phase (Nat.le_refl _) (by simp [Phase.rank, hphase])
      | forward hphase hchannel hwrote | drain hphase hchannel hwrote =>
          exact .of_passed hchannel hwrote hphase.symm
            (by simp [Phase.rank, hphase])
      | join hphase _ _ | collapse hphase _ _ _ | abandon hphase _ _ =>
          exact .of_phase (Nat.le_refl _) (by simp [Phase.rank, hphase])
      | notice _ hnone _ _ =>
          refine .others rfl rfl (Nat.add_lt_add_right ?_ _)
          have hwaits := @State.waits_notice state (state.clock + setup.grace)
            hnone
          rw [hnone]
          show state.channel.length + 0 + _ < state.channel.length + 2 + _
          omega
      | @retry _ session _ _ hphase _ hrecord hwrote =>
          have hlt := Session.left_record_lt hrecord
          cases hwrote with
          | sent _ =>
              -- another round, at the cost of a failure
              refine .loop ?_
              show 8 * session.counter.left + 7 < _
              rw [State.rank, hphase, Phase.rank]
              omega
          | unsent _ =>
              exact .of_phase hlt.le (by simp [Phase.rank, hphase])
      | conclude hphase _ hrecord hwrote =>
          exact .of_wrote hwrote (Session.left_record_le hrecord)
            (by simp [Phase.rank, hphase]) (by simp [Phase.rank, hphase])
      | stop hphase | reap hphase _ | giveUp hphase _ | sweep hphase =>
          exact .of_phase (Nat.le_refl _) (by simp [Phase.rank, hphase])

-- ======================================================= breaking down

/-- The loop and its deadline, against what a clock can show. -/
structure InTime (setup : Setup) (state : State) : Prop where
  -- A deadline that was set can be shown.
  deadline : ∀ limit, state.deadline = some limit → limit < clockLimit
  -- A loop that has broken down would have set one that cannot.
  crashed : state.phase = .crashed → clockLimit ≤ state.clock + setup.grace

/-- A step that sets no deadline and does not break the loop down. -/
theorem InTime.same (h : InTime setup state)
    (hdeadline : state'.deadline = state.deadline)
    (hclock : state.clock ≤ state'.clock)
    (hphase : state'.phase = .crashed → state.phase = .crashed) :
    InTime setup state' where
  deadline limit hlimit := h.deadline limit (hdeadline ▸ hlimit)
  crashed hcrashed :=
    Nat.le_trans (h.crashed (hphase hcrashed)) (Nat.add_le_add_right hclock _)

/-- The deadline is checked when it is set, and time only goes on. -/
theorem InTime.step (h : InTime setup state)
    (harm : Arm setup state action state' events) : InTime setup state' := by
  cases harm with
  | notice hphase _ _ hlt =>
      refine ⟨fun limit hlimit => ?_, fun hcrashed => ?_⟩
      · cases hlimit
        exact hlt
      · exact h.crashed hcrashed
  | collapse _ _ _ hle => exact ⟨h.deadline, fun _ => hle⟩
  | elapse => exact h.same rfl (Nat.le_add_right _ _) id
  | reader _ | attempt _ _ => exact h.same rfl (Nat.le_refl _) id
  | halt _ _ hwrote | forward _ _ hwrote | drain _ _ hwrote
  | retry _ _ _ hwrote | conclude _ _ _ hwrote =>
      cases hwrote <;>
        exact h.same rfl (Nat.le_refl _) (fun hphase => by cases hphase)
  | _ => exact h.same rfl (Nat.le_refl _) (fun hphase => by cases hphase)

/-- The loop breaks down for no other cause, in any run. -/
theorem Run.inTime
    (hrun : Run setup (.start setup session sink) history state) :
    InTime setup state := by
  induction hrun with
  | init =>
      refine ⟨fun _ hlimit => ?_, fun hcrashed => ?_⟩
      · cases hlimit
      · cases hcrashed
  | step action _ hstep ih => exact ih.step (arm_of_apply hstep)

-- ============================================================== the return

/-- Whatever has happened, the run comes to its return: for every backend,
every sink and every rest of the input. A reader and a loop that broke down
are left out. -/
theorem Run.finishes
    (hrun : Run setup (.start setup (.new context maxFailures) sink)
      history state) (hreader : state.reader.phase ≠ .crashed)
    (hphase : state.phase ≠ .crashed) (rest : Bytes) :
    Finishes setup rest state := by
  -- on what is left to do
  induction hpair : (rest, state) using wellFounded_nearer.induction
    generalizing history rest state with
  | _ pair ih =>
      subst hpair
      by_cases hreturned : ∃ ending, state.phase = .returned ending
      · obtain ⟨ending, hending⟩ := hreturned
        exact .returned hending
      · refine .goesOn (hrun.goes hreader hphase
          (fun ending hending => hreturned ⟨ending, hending⟩) rest) ?_
        intro action rest' state' events hcounts hfeed hstep hphase'
        have harm := arm_of_apply hstep
        have hless := harm.nearer hcounts hfeed hrun.length_attempts
          (hrun.inTurn.newest (.inr hreader) hrun.length_attempts)
        exact ih _ hless (.step action hrun hstep)
          (harm.reader_ne_crashed_of_feed hfeed hreader) hphase' rest' rfl

end Dispatch

end ScreenUnlock
