/-
What an attempt can do, arm by arm.

Two layers, as in the system itself: `Exchange.Arm` lists the steps of
one request at the slot, `Attempt.Arm` those of the thread that makes
the requests, with the first as one of its arms. Both lists are
complete (`Exchange.arm_of_step`, `Attempt.arm_of_step`).
-/
import ScreenUnlock.Dispatch.Attempt
import ScreenUnlock.Proofs.Slot

namespace ScreenUnlock

namespace Exchange

/-- A step of a request, and what it leads to. -/
inductive Arm (slot : Slot) : Exchange → Next → Prop where
  | prompt {text : String} :
      Arm slot (.opening .promptEchoOff text)
        ⟨.prompted, slot, some (.emit (.promptOf text))⟩
  | inform {text : String} : text ≠ "" →
      Arm slot (.opening .textInfo text)
        ⟨.over none, slot, some (.emit (.infoOf text))⟩
  -- The request has no effect.
  | ignore {style : Style} {text : String} :
      style ≠ .promptEchoOff → (style = .textInfo → text = "") →
      Arm slot (.opening style text) ⟨.over none, slot, none⟩
  | ready : Arm slot .prompted ⟨.asking, slot, some (.emit (.busy false))⟩
  -- The session is cancelled; no line is taken.
  | forgo : slot.cancelled.isSome = true →
      Arm slot .asking ⟨.over none, slot, none⟩
  | takeExit {line : Secret} : slot.cancelled = none →
      slot.pending = some line → line.request = .exit →
      Arm slot .asking
        ⟨.exiting, { slot with pending := none }, some (.take line)⟩
  | takeAnswer {line : Secret} : slot.cancelled = none →
      slot.pending = some line → line.request = .secret →
      Arm slot .asking
        ⟨.answering line, { slot with pending := none }, some (.take line)⟩
  | exit : Arm slot .exiting
      ⟨.over none, (slot.cancel .exitRequested).2,
        some (.cancel .exitRequested)⟩
  | answer {line : Secret} : Arm slot (.answering line)
      ⟨.over (some line), slot, some (.emit (.busy true))⟩

/-- Every step of a request is one of the arms. -/
theorem arm_of_step {exchange : Exchange} {slot : Slot} {next : Next}
    (hstep : exchange.step? slot = some next) : Arm slot exchange next := by
  cases exchange with
  | opening style text =>
      cases style with
      | promptEchoOff =>
          cases hstep
          exact .prompt
      | promptEchoOn =>
          cases hstep
          exact .ignore (by decide) (fun h => by cases h)
      | errorMsg =>
          cases hstep
          exact .ignore (by decide) (fun h => by cases h)
      | textInfo =>
          simp only [step?] at hstep
          split at hstep
          case isTrue htext =>
            cases hstep
            exact .ignore (by decide) (fun _ => htext)
          case isFalse htext =>
            cases hstep
            exact .inform htext
  | prompted =>
      cases hstep
      exact .ready
  | asking =>
      simp only [step?] at hstep
      split at hstep
      case h_1 => cases hstep
      case h_2 reason slot' htake =>
        cases hstep
        rcases Slot.take?_inv htake with ⟨first, -, hfirst, rfl⟩
          | ⟨line, hline, -⟩
        · exact .forgo (by rw [hfirst]; rfl)
        · cases hline
      case h_3 line slot' htake =>
        rcases Slot.take?_inv htake with ⟨reason, hreason, -⟩
          | ⟨line', hline, hnone, hpending, rfl⟩
        · cases hreason
        · cases hline
          split at hstep
          case h_1 hrequest =>
            cases hstep
            exact .takeExit hnone hpending hrequest
          case h_2 hrequest =>
            cases hstep
            exact .takeAnswer hnone hpending hrequest
  | exiting =>
      cases hstep
      exact .exit
  | answering line =>
      cases hstep
      exact .answer
  | «over» reply => cases hstep

/-- Every step brings the request nearer to its reply. -/
theorem Arm.rank_lt {slot : Slot} {exchange : Exchange}
    {next : Next} (harm : Arm slot exchange next) :
    next.exchange.rank < exchange.rank := by
  cases harm <;> simp [rank]

end Exchange

/-- The verdict on a call that makes no more requests. -/
def Verification.verdict? : Verification → Option Verdict
  | .finish failure => some (.ofResult failure)
  | .crash => some (.rejected .brokenDown)
  | .pause _ _ => none
  | .converse _ _ _ => none

namespace Attempt

/-- A step of an attempt, and what it leads to. -/
inductive Arm (clock : Nat) (slot : Slot) : Attempt → Next → Prop where
  -- The call is over, one way or the other.
  | finish {call : Verification} {verdict : Verdict}
      {replies : Transcript} : call.verdict? = some verdict →
      Arm clock slot ⟨.running call, replies⟩
        ⟨⟨.ended verdict, replies⟩, slot, none⟩
  | pause {milliseconds : Nat} {rest : Verification}
      {replies : Transcript} :
      Arm clock slot ⟨.running (.pause milliseconds rest), replies⟩
        ⟨⟨.sleeping (clock + milliseconds) rest, replies⟩, slot, none⟩
  | wake {wake : Nat} {rest : Verification} {replies : Transcript} :
      wake ≤ clock →
      Arm clock slot ⟨.sleeping wake rest, replies⟩
        ⟨⟨.running rest, replies⟩, slot, none⟩
  | request {style : Style} {text : String}
      {rest : Option Secret → Verification} {replies : Transcript} :
      Arm clock slot ⟨.running (.converse style text rest), replies⟩
        ⟨⟨.conversing (.opening style text) rest, replies⟩, slot, none⟩
  | converse {exchange : Exchange} {rest : Option Secret → Verification}
      {replies : Transcript} {next : Exchange.Next} :
      Exchange.Arm slot exchange next →
      Arm clock slot ⟨.conversing exchange rest, replies⟩
        ⟨⟨.conversing next.exchange rest, replies⟩, next.slot,
          next.effect.map .conversed⟩
  | reply {reply : Option Secret} {rest : Option Secret → Verification}
      {replies : Transcript} :
      Arm clock slot ⟨.conversing (.over reply) rest, replies⟩
        ⟨⟨.running (rest reply), replies ++ [reply]⟩, slot,
          some (.replied reply)⟩

/-- Every step of an attempt is one of the arms. -/
theorem arm_of_step {attempt : Attempt} {clock : Nat} {slot : Slot}
    {next : Next} (hstep : attempt.step? clock slot = some next) :
    Arm clock slot attempt next := by
  obtain ⟨activity, replies⟩ := attempt
  cases activity with
  | running call =>
      cases call with
      | finish failure =>
          cases hstep
          exact .finish rfl
      | crash =>
          cases hstep
          exact .finish rfl
      | pause milliseconds rest =>
          cases hstep
          exact .pause
      | converse style text rest =>
          cases hstep
          exact .request
  | conversing exchange rest =>
      cases exchange with
      | «over» reply =>
          cases hstep
          exact .reply
      | opening _ _ | prompted | asking | exiting | answering _ =>
          simp only [step?] at hstep
          obtain ⟨next', hnext, rfl⟩ := Option.map_eq_some_iff.mp hstep
          exact .converse (Exchange.arm_of_step hnext)
  | sleeping wake rest =>
      simp only [step?] at hstep
      split at hstep
      case isTrue hwake =>
        cases hstep
        exact .wake hwake
      case isFalse => cases hstep
  | ended verdict => cases hstep

/-- An attempt that is over does nothing more. -/
theorem Arm.not_isOver {clock : Nat} {slot : Slot} {attempt : Attempt}
    {next : Next} (harm : Arm clock slot attempt next) :
    attempt.isOver = false := by
  cases harm <;> rfl

/-- What an attempt does to the slot: nothing, or it takes the line, or
it cancels the session. -/
theorem Arm.slot_cases {clock : Nat} {slot : Slot} {attempt : Attempt}
    {next : Next} (harm : Arm clock slot attempt next) :
    (next.slot = slot
        ∧ (∀ line, next.effect ≠ some (.conversed (.take line))))
      ∨ (∃ line, slot.cancelled = none ∧ slot.pending = some line
        ∧ next.slot = { slot with pending := none }
        ∧ next.effect = some (.conversed (.take line)))
      ∨ (next.slot = (slot.cancel .exitRequested).2
        ∧ next.effect = some (.conversed (.cancel .exitRequested))) := by
  cases harm with
  | converse harm =>
      cases harm with
      | takeExit hnone hpending _ | takeAnswer hnone hpending _ =>
          exact .inr (.inl ⟨_, hnone, hpending, rfl, rfl⟩)
      | exit => exact .inr (.inr ⟨rfl, rfl⟩)
      | _ => exact .inl ⟨rfl, fun _ h => by cases h⟩
  | _ => exact .inl ⟨rfl, fun _ h => by cases h⟩

/-- An attempt never takes a cancellation back. -/
theorem Arm.cancelled_mono {clock : Nat} {slot : Slot} {attempt : Attempt}
    {next : Next} (harm : Arm clock slot attempt next) {reason : CancelReason}
    (h : slot.cancelled = some reason) :
    next.slot.cancelled = some reason := by
  rcases harm.slot_cases with ⟨hslot, -⟩ | ⟨line, -, -, hslot, -⟩ | ⟨hslot, -⟩
  · rw [hslot, h]
  · rw [hslot]
    exact h
  · rw [hslot, Slot.cancel_cancelled, h, Option.getD_some]

theorem Arm.isSome_mono {clock : Nat} {slot : Slot} {attempt : Attempt}
    {next : Next} (harm : Arm clock slot attempt next)
    (h : slot.cancelled.isSome = true) :
    next.slot.cancelled.isSome = true := by
  obtain ⟨reason, hreason⟩ := Option.isSome_iff_exists.mp h
  exact Option.isSome_iff_exists.mpr ⟨reason, harm.cancelled_mono hreason⟩

/-- An attempt puts no line into the slot. -/
theorem Arm.pending_mono {clock : Nat} {slot : Slot} {attempt : Attempt}
    {next : Next} (harm : Arm clock slot attempt next)
    (h : next.slot.pending.isSome = true) : slot.pending.isSome = true := by
  rcases harm.slot_cases with ⟨hslot, -⟩ | ⟨line, -, -, hslot, -⟩ | ⟨hslot, -⟩
  · rwa [hslot] at h
  · rw [hslot] at h
    cases h
  · rwa [hslot, Slot.cancel_pending] at h

-- ============================================================ the request

/-- The request that the attempt has made, until it has the reply. -/
def exchange? (attempt : Attempt) : Option Exchange :=
  match attempt.activity with
  | .conversing exchange _ => some exchange
  | _ => none

section Request

variable {clock : Nat} {slot : Slot} {attempt : Attempt} {next : Next}
  {exchange : Exchange}

theorem not_isOver_of_exchange? (h : attempt.exchange? = some exchange) :
    attempt.isOver = false := by
  obtain ⟨activity, replies⟩ := attempt
  cases activity with
  | ended _ => cases h
  | running _ | conversing _ _ | sleeping _ _ => rfl

/-- An attempt with a request goes on with it, or hands its reply over. -/
theorem Arm.of_exchange? (harm : Arm clock slot attempt next)
    (h : attempt.exchange? = some exchange) :
    (∃ reply, exchange = .over reply ∧ next.effect = some (.replied reply)
        ∧ next.slot = slot)
      ∨ ∃ next', Exchange.Arm slot exchange next'
        ∧ next.attempt.exchange? = some next'.exchange
        ∧ next.slot = next'.slot
        ∧ next.effect = next'.effect.map .conversed := by
  cases harm with
  | converse harm =>
      cases h
      exact .inr ⟨_, harm, rfl, rfl, rfl⟩
  | reply =>
      cases h
      exact .inl ⟨_, rfl, rfl, rfl⟩
  | finish _ | pause | wake _ | request => cases h

/-- A request can go on, unless it waits for a line. -/
theorem isSome_step? (h : attempt.exchange? = some exchange)
    (hready : exchange = .asking →
      slot.cancelled.isSome = true ∨ slot.pending.isSome = true) :
    (attempt.step? clock slot).isSome = true := by
  obtain ⟨activity, replies⟩ := attempt
  cases activity with
  | conversing exchange' rest =>
      cases h
      cases exchange with
      | opening style text =>
          cases style <;> simp only [step?, Exchange.step?] <;>
            first | rfl | (split <;> rfl)
      | asking =>
          simp only [step?, Exchange.step?, Option.isSome_map]
          obtain ⟨pending, cancelled⟩ := slot
          cases cancelled with
          | some reason => rfl
          | none =>
              cases pending with
              | none => simp at hready
              | some line =>
                  simp only [Slot.take?]
                  split <;> rfl
      | prompted | exiting | answering _ | «over» _ => rfl
  | running _ | sleeping _ _ | ended _ => cases h

end Request

end Attempt

end ScreenUnlock
