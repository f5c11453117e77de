/-
The lines of the caller reach the backend in order and unchanged.

The reader puts lines into the slot and the attempts take them out
(`Run.supply`, `Run.handed`). What is left is the way from the slot to
the backend. A line that was taken is either an exit request or an
answer that one attempt holds until it hands it over as a reply. Two
things could go wrong there. Two attempts could hold answers and hand
them over in the wrong order; but a line can be taken only while the
reader waits, and then all attempts but the newest are over. And a line
behind an exit request could be taken before the session is cancelled;
but the attempt that took the request is the newest one, and the next
thing it does is to cancel.
-/
import Mathlib.Data.List.Infix
import ScreenUnlock.Auth.Backend
import ScreenUnlock.Proofs.Dispatch.Replay
import ScreenUnlock.Proofs.Dispatch.Supply

namespace ScreenUnlock

namespace Attempt

/-- The answer that an attempt has taken and not handed over yet. -/
def held (attempt : Attempt) : List Bytes :=
  match attempt.activity with
  | .conversing (.answering line) _ => [line.bytes]
  | .conversing (.over (some line)) _ => [line.bytes]
  | _ => []

/-- Whether the attempt has taken an exit request and is about to cancel
the session. -/
def isExiting (attempt : Attempt) : Bool :=
  match attempt.activity with
  | .conversing .exiting _ => true
  | _ => false

theorem held_of_isOver {attempt : Attempt} (h : attempt.isOver = true) :
    attempt.held = [] := by
  obtain ⟨activity, replies⟩ := attempt
  cases activity with
  | ended _ => rfl
  | running _ | conversing _ _ | sleeping _ _ => cases h

theorem not_isExiting_of_isOver {attempt : Attempt}
    (h : attempt.isOver = true) : attempt.isExiting = false := by
  obtain ⟨activity, replies⟩ := attempt
  cases activity with
  | ended _ => rfl
  | running _ | conversing _ _ | sleeping _ _ => cases h

/-- What a step of an attempt does with a line. -/
inductive Hold (slot : Slot) (attempt : Attempt) (next : Next) : Prop where
  | keep : next.attempt.held = attempt.held →
      next.attempt.isExiting = attempt.isExiting → next.slot = slot →
      next.effect.bind Effect.line? = none →
      (∀ reply, next.effect ≠ some (.replied reply)) →
      Hold slot attempt next
  | take {line : Secret} : slot.cancelled = none →
      slot.pending = some line → attempt.held = [] →
      attempt.isExiting = false →
      next.attempt.held
        = (if Request.ofLine line.bytes = .secret then [line.bytes] else []) →
      (Request.ofLine line.bytes = .exit → next.attempt.isExiting = true) →
      next.effect = some (.conversed (.take line)) → Hold slot attempt next
  -- It cancels the session.
  | exit : attempt.held = [] → next.attempt.held = [] →
      next.slot.cancelled.isSome = true →
      next.effect = some (.conversed (.cancel .exitRequested)) →
      Hold slot attempt next
  | reply {reply : Option Secret} :
      attempt.held = (reply.map Secret.bytes).toList →
      attempt.isExiting = false → next.attempt.held = [] →
      next.slot = slot → next.effect = some (.replied reply) →
      Hold slot attempt next

theorem Arm.hold {clock : Nat} {slot : Slot} {attempt : Attempt}
    {next : Next} (harm : Arm clock slot attempt next) :
    Hold slot attempt next := by
  cases harm with
  | converse harm =>
      cases harm with
      | @takeExit line hnone hpending hrequest =>
          have hexit : Request.ofLine line.bytes ≠ .secret := by
            rw [show Request.ofLine line.bytes = .exit from hrequest]
            decide
          exact .take hnone hpending rfl rfl (if_neg hexit).symm
            (fun _ => rfl) rfl
      | @takeAnswer line hnone hpending hrequest =>
          have hsecret : Request.ofLine line.bytes = .secret := hrequest
          refine .take hnone hpending rfl rfl (if_pos hsecret).symm ?_ rfl
          rw [hsecret]
          exact fun h => by cases h
      | exit => exact .exit rfl rfl (by simp) rfl
      | _ => exact .keep rfl rfl rfl rfl (fun _ h => by cases h)
  | @reply reply _ _ =>
      refine Hold.reply ?_ rfl rfl rfl rfl
      cases reply <;> rfl
  | _ => exact .keep rfl rfl rfl rfl (fun _ h => by cases h)

end Attempt

namespace Dispatch

open LineBuffer (lineLimit)
open State (Arm arm_of_apply)

variable {setup : Setup} {context : AuthContext} {maxFailures : UInt32}
  {sink : Sink} {history events : List Event} {state state' : State}
  {action : Action} {number : Nat}

-- =========================================================== the answers

/-- The lines before the first exit request. -/
def secrets (lines : List Bytes) : List Bytes :=
  lines.takeWhile fun line => decide (Request.ofLine line = .secret)

theorem secrets_isPrefix {lines lines' : List Bytes} (h : lines <+: lines') :
    secrets lines <+: secrets lines' := by
  obtain ⟨later, rfl⟩ := h
  unfold secrets
  rw [List.takeWhile_append]
  split
  case isTrue hwhole =>
    rw [(List.takeWhile_prefix _).eq_of_length hwhole]
    exact List.prefix_append _ _
  case isFalse => exact List.prefix_rfl

/-- Without an exit request every line is an answer. -/
theorem secrets_snoc {lines : List Bytes}
    (h : ∀ line ∈ lines, Request.ofLine line ≠ .exit) (line : Bytes) :
    secrets lines = lines ∧ secrets (lines ++ [line])
      = lines ++ if Request.ofLine line = .secret then [line] else [] := by
  have hall : ∀ line ∈ lines,
      decide (Request.ofLine line = .secret) = true := by
    intro line hmem
    have := h line hmem
    cases hrequest : Request.ofLine line with
    | exit => exact absurd hrequest this
    | secret => rfl
  refine ⟨List.takeWhile_eq_self_iff.mpr hall, ?_⟩
  rw [secrets, List.takeWhile_append_of_pos hall, List.takeWhile_cons]
  split
  case isTrue hsecret =>
    rw [if_pos (of_decide_eq_true hsecret), List.takeWhile_nil]
  case isFalse hexit => rw [if_neg (by simpa using hexit)]

/-- The answers end before the first exit request. -/
theorem length_secrets_le {lines : List Bytes} {line : Bytes} {count : Nat}
    (hline : lines[count]? = some line)
    (hexit : Request.ofLine line = .exit) : (secrets lines).length ≤ count := by
  by_contra hlong
  obtain ⟨later, hlater⟩ : secrets lines <+: lines :=
    List.takeWhile_prefix _
  have hmem : line ∈ secrets lines := by
    refine List.mem_of_getElem? (i := count) ?_
    rw [← List.getElem?_append_left (Nat.lt_of_not_le hlong), hlater]
    exact hline
  have := List.mem_takeWhile_imp hmem
  rw [hexit] at this
  cases this

/-- The way of a line from the slot to the backend. -/
structure Delivers (history : List Event) (state : State) : Prop where
  answered : answers history ++ state.inOrder.flatMap Attempt.held
    = secrets (taken history)
  single : (state.inOrder.flatMap Attempt.held).length ≤ 1
  exit : (∃ line ∈ taken history, Request.ofLine line = .exit) →
    state.session.slot.cancelled.isSome = true
      ∨ ∃ attempt ∈ state.inOrder, attempt.isExiting = true

theorem Delivers.start {session : Session} :
    Delivers [] (.start setup session sink) where
  answered := rfl
  single := Nat.zero_le _
  exit := by
    rintro ⟨line, hmem, -⟩
    cases hmem

/-- A step that hands nothing over, in which no attempt gives up a line or
an exit request. -/
theorem Delivers.same (h : Delivers history state)
    (hheld : state'.inOrder.flatMap Attempt.held
      = state.inOrder.flatMap Attempt.held)
    (hexiting : (∃ attempt ∈ state.inOrder, attempt.isExiting = true) →
      ∃ attempt ∈ state'.inOrder, attempt.isExiting = true)
    (hcancelled : state.session.slot.cancelled.isSome = true →
      state'.session.slot.cancelled.isSome = true)
    (hanswers : answers events = []) (htaken : taken events = []) :
    Delivers (history ++ events) state' where
  answered := by
    rw [answers_append, taken_append, hanswers, htaken, List.append_nil,
      List.append_nil, hheld, h.answered]
  single := hheld ▸ h.single
  exit := by
    rw [taken_append, htaken, List.append_nil]
    exact fun hmem => (h.exit hmem).imp hcancelled hexiting

theorem answers_attempt {effect : Option Attempt.Effect}
    (h : ∀ reply, effect ≠ some (.replied reply)) :
    answers (effect.map (Event.attempt number)).toList = [] := by
  match effect, h with
  | some (.replied reply), h => exact absurd rfl (h reply)
  | none, _ | some (.conversed _), _ => rfl

/-- Whoever takes a line finds that nobody else holds one, and that no
exit request was taken before. -/
theorem Delivers.clear (h : Delivers history state)
    (hstanding : Standing history state) (hturn : InTurn history state)
    (hlen : state.attempts.length = state.started) {attempt : Attempt}
    {next : Attempt.Next} (hattempt : state.attempt? number = some attempt)
    (harm : Attempt.Arm state.clock state.session.slot attempt next)
    {before after : List Attempt}
    (hsplit : state.inOrder = before ++ attempt :: after)
    (hplace : before.length = number)
    (hnone : state.session.slot.cancelled = none)
    (hpending : state.session.slot.pending.isSome = true)
    (hheld : attempt.held = []) (hexiting : attempt.isExiting = false) :
    after = [] ∧ before.flatMap Attempt.held = []
      ∧ answers history = taken history
      ∧ ∀ line ∈ taken history, Request.ofLine line ≠ .exit := by
  have hreader : state.reader.phase ≠ .crashed := by
    rw [hstanding.waiting hnone hpending]
    decide
  have hnewest := hturn.newest (.inr hreader) hlen hattempt harm
  obtain ⟨rfl, hover⟩ := hturn.others_over (.inr hreader) hlen hnewest hsplit
    hplace
  have hbefore : before.flatMap Attempt.held = [] :=
    List.flatMap_eq_nil_iff.mpr fun other hmem =>
      Attempt.held_of_isOver (hover other hmem)
  -- whoever took an exit request would be about to cancel, but all others
  -- are over and the session is still open
  have hno : ∀ line ∈ taken history, Request.ofLine line ≠ .exit := by
    intro line hmem hrequest
    rcases h.exit ⟨line, hmem, hrequest⟩ with hcancelled
      | ⟨other, hother, hexit⟩
    · rw [hnone] at hcancelled
      cases hcancelled
    · rw [hsplit, List.mem_append, List.mem_singleton] at hother
      rcases hother with hother | rfl
      · rw [Attempt.not_isExiting_of_isOver (hover other hother)] at hexit
        cases hexit
      · rw [hexiting] at hexit
        cases hexit
  refine ⟨rfl, hbefore, ?_, hno⟩
  have hanswered := h.answered
  rw [hsplit, List.flatMap_append, hbefore, List.flatMap_singleton, hheld,
    List.append_nil, List.append_nil] at hanswered
  rw [hanswered]
  exact List.takeWhile_eq_self_iff.mpr fun line hmem => by
    cases hrequest : Request.ofLine line with
    | exit => exact absurd hrequest (hno line hmem)
    | secret => rfl

section Attempt

variable {attempt : Attempt} {next : Attempt.Next}
  {before after : List Attempt}

/-- An attempt does something else. -/
theorem Delivers.keep (h : Delivers history state)
    (hsplit : state.inOrder = before ++ attempt :: after)
    (hsplit' : (state.withAttempt number next).inOrder
      = before ++ next.attempt :: after)
    (hheld : next.attempt.held = attempt.held)
    (hexiting : next.attempt.isExiting = attempt.isExiting)
    (hslot : next.slot = state.session.slot)
    (htake : next.effect.bind Attempt.Effect.line? = none)
    (hreply : ∀ reply, next.effect ≠ some (.replied reply)) :
    Delivers (history ++ (next.effect.map (Event.attempt number)).toList)
      (state.withAttempt number next) := by
  refine h.same ?_ ?_ ?_ (answers_attempt hreply)
    (by rw [taken_attempt, htake]; rfl)
  · rw [hsplit, hsplit', List.flatMap_append, List.flatMap_cons, hheld,
      List.flatMap_append, List.flatMap_cons]
  · rw [hsplit, hsplit']
    rintro ⟨other, hmem, hother⟩
    rcases List.mem_append.mp hmem with hmem | hmem
    · exact ⟨other, List.mem_append_left _ hmem, hother⟩
    · rcases List.mem_cons.mp hmem with rfl | hmem
      · exact ⟨next.attempt, by simp, hexiting.trans hother⟩
      · exact ⟨other, by simp [hmem], hother⟩
  · show state.session.slot.cancelled.isSome = true →
      next.slot.cancelled.isSome = true
    rw [hslot]
    exact id

/-- An attempt takes a line, and nobody else has one. -/
theorem Delivers.take {line : Secret}
    (hsplit' : (state.withAttempt number next).inOrder
      = before ++ [next.attempt])
    (hbefore : before.flatMap Attempt.held = [])
    (hanswers : answers history = taken history)
    (hno : ∀ line ∈ taken history, Request.ofLine line ≠ .exit)
    (hheld' : next.attempt.held
      = if Request.ofLine line.bytes = .secret then [line.bytes] else [])
    (hexiting' : Request.ofLine line.bytes = .exit →
      next.attempt.isExiting = true)
    (heffect : next.effect = some (.conversed (.take line))) :
    Delivers (history ++ (next.effect.map (Event.attempt number)).toList)
      (state.withAttempt number next) := by
  have hheld : (state.withAttempt number next).inOrder.flatMap Attempt.held
      = if Request.ofLine line.bytes = .secret then [line.bytes] else [] := by
    rw [hsplit', List.flatMap_append, hbefore, List.flatMap_singleton, hheld',
      List.nil_append]
  refine ⟨?_, ?_, ?_⟩
  · rw [hheld, heffect, taken_append, answers_append]
    refine Eq.trans ?_ (secrets_snoc hno line.bytes).2.symm
    rw [hanswers]
    exact congrArg (· ++ _) (List.append_nil _)
  · rw [hheld]
    split
    · exact Nat.le_refl _
    · exact Nat.zero_le _
  · rw [heffect, taken_append]
    rintro ⟨other, hmem, hother⟩
    rcases List.mem_append.mp hmem with hmem | hmem
    · exact absurd hother (hno other hmem)
    · obtain rfl : other = line.bytes := by
        simpa [taken, Event.taken?] using hmem
      right
      refine ⟨next.attempt, ?_, hexiting' hother⟩
      rw [hsplit']
      exact List.mem_append_right _ (List.mem_singleton_self _)

/-- An attempt cancels the session. -/
theorem Delivers.leave (h : Delivers history state)
    (hsplit : state.inOrder = before ++ attempt :: after)
    (hsplit' : (state.withAttempt number next).inOrder
      = before ++ next.attempt :: after)
    (hheld : attempt.held = []) (hheld' : next.attempt.held = [])
    (hcancelled : next.slot.cancelled.isSome = true)
    (heffect : next.effect = some (.conversed (.cancel .exitRequested))) :
    Delivers (history ++ (next.effect.map (Event.attempt number)).toList)
      (state.withAttempt number next) := by
  have hsame : (state.withAttempt number next).inOrder.flatMap Attempt.held
      = state.inOrder.flatMap Attempt.held := by
    rw [hsplit, hsplit', List.flatMap_append, List.flatMap_cons, hheld',
      List.flatMap_append, List.flatMap_cons, hheld]
  refine ⟨?_, hsame ▸ h.single, fun _ => .inl hcancelled⟩
  rw [hsame, heffect, answers_append, taken_append]
  refine Eq.trans ?_ (h.answered.trans ?_)
  · exact congrArg (· ++ _) (List.append_nil _)
  · exact congrArg secrets (List.append_nil _).symm

/-- As only one answer is held at a time, whoever holds one is the next to
hand it over. -/
theorem Delivers.held_comm (h : Delivers history state)
    (hsplit : state.inOrder = before ++ attempt :: after) :
    attempt.held ++ (before.flatMap Attempt.held
        ++ after.flatMap Attempt.held)
      = state.inOrder.flatMap Attempt.held := by
  have hsingle := h.single
  rw [hsplit, List.flatMap_append, List.flatMap_cons] at hsingle ⊢
  rw [List.length_append, List.length_append] at hsingle
  cases hline : attempt.held with
  | nil => rfl
  | cons line lines =>
      rw [hline, List.length_cons] at hsingle
      rw [List.eq_nil_of_length_eq_zero
        (show (before.flatMap Attempt.held).length = 0 by omega)]
      rfl

/-- An attempt hands a reply over. -/
theorem Delivers.reply (h : Delivers history state)
    (hsplit : state.inOrder = before ++ attempt :: after)
    (hsplit' : (state.withAttempt number next).inOrder
      = before ++ next.attempt :: after) {reply : Option Secret}
    (hheld : attempt.held = (reply.map Secret.bytes).toList)
    (hexiting : attempt.isExiting = false) (hheld' : next.attempt.held = [])
    (hslot : next.slot = state.session.slot)
    (heffect : next.effect = some (.replied reply)) :
    Delivers (history ++ (next.effect.map (Event.attempt number)).toList)
      (state.withAttempt number next) := by
  have htaken : taken (next.effect.map (Event.attempt number)).toList
      = [] := by
    rw [taken_attempt, heffect]
    rfl
  have hreply : answers (next.effect.map (Event.attempt number)).toList
      = attempt.held := by
    rw [heffect, hheld]
    cases reply <;> rfl
  have hothers : (state.withAttempt number next).inOrder.flatMap Attempt.held
      = before.flatMap Attempt.held ++ after.flatMap Attempt.held := by
    rw [hsplit', List.flatMap_append, List.flatMap_cons, hheld',
      List.nil_append]
  have hcomm := h.held_comm hsplit
  refine ⟨?_, ?_, ?_⟩
  · rw [hothers, answers_append, hreply, taken_append, htaken,
      List.append_nil, List.append_assoc, hcomm, h.answered]
  · have hsingle := h.single
    rw [← hcomm, List.length_append] at hsingle
    rw [hothers]
    omega
  · rw [taken_append, htaken, List.append_nil]
    intro hmem
    -- whoever is about to cancel is somebody else
    rcases h.exit hmem with hcancelled | ⟨other, hother, hexit⟩
    · left
      show next.slot.cancelled.isSome = true
      rw [hslot]
      exact hcancelled
    · right
      refine ⟨other, ?_, hexit⟩
      rw [hsplit] at hother
      rw [hsplit', List.mem_append, List.mem_cons]
      rcases List.mem_append.mp hother with hother | hother
      · exact .inl hother
      · rcases List.mem_cons.mp hother with rfl | hother
        · rw [hexiting] at hexit
          cases hexit
        · exact .inr (.inr hother)

end Attempt

theorem Delivers.attempt (h : Delivers history state)
    (hstanding : Standing history state) (hturn : InTurn history state)
    (hlen : state.attempts.length = state.started) {attempt : Attempt}
    {next : Attempt.Next} (hattempt : state.attempt? number = some attempt)
    (harm : Attempt.Arm state.clock state.session.slot attempt next) :
    Delivers (history ++ (next.effect.map (Event.attempt number)).toList)
      (state.withAttempt number next) := by
  obtain ⟨before, after, hsplit, hsplit', hplace⟩ :=
    State.inOrder_split hlen hattempt next
  cases harm.hold with
  | keep hheld hexiting hslot htake hreply =>
      exact h.keep hsplit hsplit' hheld hexiting hslot htake hreply
  | take hnone hpending hheld hexiting hheld' hexiting' heffect =>
      obtain ⟨rfl, hbefore, hanswers, hno⟩ :=
        h.clear hstanding hturn hlen hattempt harm hsplit hplace hnone
          (by rw [hpending]; rfl) hheld hexiting
      exact .take hsplit' hbefore hanswers hno hheld' hexiting' heffect
  | exit hheld hheld' hcancelled heffect =>
      exact h.leave hsplit hsplit' hheld hheld' hcancelled heffect
  | reply hheld hexiting hheld' hslot heffect =>
      exact h.reply hsplit hsplit' hheld hexiting hheld' hslot heffect

theorem Delivers.step (h : Delivers history state)
    (hstanding : Standing history state) (hturn : InTurn history state)
    (hlen : state.attempts.length = state.started)
    (harm : Arm setup state action state' events) :
    Delivers (history ++ events) state' := by
  have hmono : state.session.slot.cancelled.isSome = true →
      state'.session.slot.cancelled.isSome = true :=
    fun hsome => harm.cancelled_iff.mpr (.inl hsome)
  cases action with
  | reader action =>
      cases harm with
      | reader harm =>
          exact h.same rfl id hmono (answers_reader _) (taken_reader _)
  | attempt number =>
      cases harm with
      | attempt hattempt harm =>
          exact h.attempt hstanding hturn hlen hattempt harm
  | move move =>
      have hnothing := HandsNothing.of_move harm
      rcases harm.inOrder_of_move with hsame | ⟨caller, precedents, hmore⟩
      · exact h.same (by rw [hsame]) (by rw [hsame]; exact id) hmono
          hnothing.answers hnothing.taken
      · refine h.same ?_ ?_ hmono hnothing.answers hnothing.taken
        · rw [hmore, List.flatMap_append]
          exact List.append_nil _
        · rw [hmore]
          rintro ⟨attempt, hmem, hexit⟩
          exact ⟨attempt, List.mem_append_left _ hmem, hexit⟩
  | elapse milliseconds =>
      cases harm
      exact h.same rfl id id rfl rfl

/-- In every run the lines that were taken reach the backend in order. -/
theorem Run.delivers
    (hrun : Run setup (.start setup (.new context maxFailures) sink)
      history state) : Delivers history state := by
  induction hrun with
  | init => exact .start
  | step action hrun hstep ih =>
      exact ih.step hrun.standing hrun.inTurn hrun.length_attempts
        (arm_of_apply hstep)

-- =========================================================== the delivery

/-- The answers are lines of the input, in order. -/
theorem Run.answers_prefix
    (hrun : Run setup (.start setup (.new context maxFailures) sink)
      history state) :
    answers history <+: secrets
      (Bytes.cutLines (lineLimit setup.maxLineLen) (received history)) := by
  have hanswers : answers history <+: secrets (taken history) :=
    hrun.delivers.answered ▸ List.prefix_append _ _
  exact hanswers.trans (secrets_isPrefix
    (hrun.handed.inOrder.trans hrun.supply.published_prefix))

/-- The delivery of the caller's lines, for every input, every way in
which it arrives, every backend and every order of steps.

What the backend gets as answers, in all attempts of a run together, is
the beginning of this list: the complete lines of the bytes that came in,
in order, each cut to the bytes that are kept of a line, as far as the
first of them that holds the exit marker.

And whenever the reader reads, what comes in is at most one chunk, the
buffer has no complete line left, and each of the bytes finds a cell. -/
theorem Run.delivery
    (hrun : Run setup (.start setup (.new context maxFailures) sink)
      history state) :
    answers history <+: (((Bytes.completeLines (received history)).map
        (List.take (max setup.maxLineLen 1))).takeWhile
          fun line => !decide (Request.exitMarker <:+: line))
      ∧ ∀ data state' events,
        apply setup (.reader (.read (.bytes data))) state
          = some (state', events) →
        data.length ≤ readChunk ∧ state.reader.buffer.nextLine? = none
          ∧ ∀ front byte rest, data = front ++ byte :: rest →
            (state.reader.buffer.push front).length
              < (state.reader.buffer.push front).capacity := by
  constructor
  · have hmarker : (fun line => !decide (Request.exitMarker <:+: line))
        = fun line => decide (Request.ofLine line = .secret) := by
      funext line
      rw [← decide_not, decide_eq_decide, ← Request.ofLine_eq_exit_iff]
      cases Request.ofLine line <;> simp
    rw [hmarker]
    exact hrun.answers_prefix
  · intro data state' events hstep
    cases arm_of_apply hstep with
    | reader harm =>
        cases harm with
        | receive hphase _ hread =>
            obtain ⟨-, hcarries⟩ := hrun.supply.carries_nil (.inr hphase)
            refine ⟨hread, hcarries.nextLine?_nil, ?_⟩
            rintro front byte rest rfl
            exact hcarries.push_length_lt hread
        | retry _ harrival | close _ harrival =>
            rcases harrival with h | h <;> cases h

/-- A read that brings one line and the beginning of another: the first
is delivered, and it is all that can be delivered. -/
theorem delivery_one_line :
    ∃ history state,
      Run ⟨.fixed {}, 8, 0⟩
        (.start ⟨.fixed {}, 8, 0⟩ (.new ⟨"user", none⟩ 2) {}) history state
      ∧ received history = [112, 119, 10, 120]
      ∧ answers history = [[112, 119]]
      ∧ answers history <+: (((Bytes.completeLines [112, 119, 10, 120]).map
          (List.take 8)).takeWhile
            fun line => !decide (Request.exitMarker <:+: line)) := by
  obtain ⟨history, state, hrun, hview⟩ := Run.exists_of_replay
    ⟨.fixed {}, 8, 0⟩
    (.start ⟨.fixed {}, 8, 0⟩ (.new ⟨"user", none⟩ 2) {})
    [.move .check, .move .launch, .attempt 0, .attempt 0,
      .attempt 0, .reader .step, .reader (.poll .ready),
      .reader (.read (.bytes [112, 119, 10, 120])), .reader .step,
      .reader .step, .attempt 0, .attempt 0, .attempt 0]
    (fun _ history => (received history, answers history))
    ([112, 119, 10, 120], [[112, 119]]) (by decide +kernel)
  obtain ⟨hreceived, hanswers⟩ := Prod.mk.inj hview
  have hdelivery := hrun.delivery.1
  rw [hreceived] at hdelivery
  exact ⟨history, state, hrun, hreceived, hanswers, hdelivery⟩

end Dispatch

end ScreenUnlock
