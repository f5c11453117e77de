/-
The retry policy over whole histories of a session.

Three things can end a session: a success, a cancellation and the
ceiling on rejected attempts. They compete, with a precedence that is
not the same before and after an attempt, and the slot changes while
they do. `Decides` lists, from the calls alone, what ends a session that
still goes on; `Ends` says that one call of a history is the first to do
so. Nothing in these two looks at a session.

# The books

After each call a session is either `Open`: nothing has decided it, and
the rejections so far were all retried; or `Closed`: the first call that
decided it gave the outcome, which stays. `Open.perform` and
`Closed.perform` take one call, by the arms of `perform`, and
`Session.new_policy` reads the policy off the books of all calls.

# Calls that wait

A call on the slot that would have to wait is not made, and leaves
everything as it is. Where such a call runs later on, because somebody
else has changed the slot, the history has it at that place.
-/
import Mathlib.Data.List.Induction
import Mathlib.Data.List.TakeWhile
import Mathlib.Tactic.ByContra
import ScreenUnlock.Proofs.Cuts
import ScreenUnlock.Proofs.Session.Basic
import ScreenUnlock.Proofs.Slot

namespace ScreenUnlock.Session

-- ====================================================== making the calls

/-- Make one call: what came of it, unless it would have to wait, and the
session afterwards. -/
def perform (session : Session) (op : Op) : Option Result × Session :=
  match session.perform? op with
  | some (result, session') => (some result, session')
  | none => (none, session)

/-- The session after some calls. -/
def after (session : Session) (ops : List Op) : Session :=
  ops.foldl (fun session op => (session.perform op).2) session

/-- What came of each of some calls. -/
def results (session : Session) : List Op → List (Option Result)
  | [] => []
  | op :: ops => (session.perform op).1 :: (session.perform op).2.results ops

/-- How many of some calls were answered with a retry. -/
def retries (session : Session) (ops : List Op) : Nat :=
  (session.results ops).count (some (.step .retry))

theorem after_append (session : Session) (ops later : List Op) :
    session.after (ops ++ later) = (session.after ops).after later :=
  List.foldl_append

theorem after_concat (session : Session) (ops : List Op) (op : Op) :
    session.after (ops ++ [op]) = ((session.after ops).perform op).2 := by
  rw [after_append]
  rfl

theorem results_concat (session : Session) (ops : List Op) (op : Op) :
    session.results (ops ++ [op])
      = session.results ops ++ [((session.after ops).perform op).1] := by
  induction ops generalizing session with
  | nil => rfl
  | cons first ops ih => exact congrArg _ (ih _)

theorem retries_concat (session : Session) (ops : List Op) (op : Op) :
    session.retries (ops ++ [op]) = session.retries ops
      + [((session.after ops).perform op).1].count (some (.step .retry)) := by
  rw [retries, results_concat, List.count_append, retries]

-- ================================================== what the calls decide

namespace Op

/-- The reason that a call gives for cancelling. -/
def reason? : Op → Option CancelReason
  | .cancel reason => some reason
  | _ => none

/-- Whether a call records a rejected attempt. -/
def isRejection : Op → Bool
  | .record verdict => verdict.isRejected
  | _ => false

/-- Whether a call is made on the slot. -/
def isOnSlot : Op → Bool
  | .record _ => false
  | .observe => false
  | _ => true

end Op

/-- The first reason that was given for cancelling. -/
def firstReason (ops : List Op) : Option CancelReason :=
  ops.findSome? Op.reason?

/-- How many rejected attempts were recorded before anybody cancelled. -/
def rejections (ops : List Op) : Nat :=
  (ops.takeWhile fun op => op.reason?.isNone).countP Op.isRejection

/-- What ends a session that goes on after the calls `before`, and how. -/
inductive Decides (ceiling : Nat) (before : List Op) : Op → Outcome → Prop where
  | accepted : Decides ceiling before (.record .accepted) .authenticated
  | rejected {cause : AuthError} {reason : CancelReason} :
      firstReason before = some reason →
      Decides ceiling before (.record (.rejected cause)) (.cancelled reason)
  | observed {reason : CancelReason} : firstReason before = some reason →
      Decides ceiling before .observe (.cancelled reason)
  -- The rejection that reaches the ceiling.
  | exhausted {cause : AuthError} : firstReason before = none →
      rejections before + 1 = ceiling →
      Decides ceiling before (.record (.rejected cause)) .exhausted

/-- None of the calls ends a session. -/
def Undecided (ceiling : Nat) (ops : List Op) : Prop :=
  ∀ before op later outcome, ops = before ++ op :: later →
    ¬ Decides ceiling before op outcome

/-- The first of the calls that ends a session does so with this outcome. -/
def Ends (ceiling : Nat) (ops : List Op) (outcome : Outcome) : Prop :=
  ∃ before op later, ops = before ++ op :: later ∧ Undecided ceiling before
    ∧ Decides ceiling before op outcome

-- ============================================================ one more call

section Concat

variable {ceiling : Nat} {ops : List Op} {op : Op} {outcome : Outcome}

@[simp] theorem firstReason_concat :
    firstReason (ops ++ [op]) = (firstReason ops).or op.reason? := by
  rw [firstReason, List.findSome?_append, List.findSome?_singleton]
  rfl

/-- A rejection counts as long as nobody has cancelled. -/
theorem rejections_concat_rejected {cause : AuthError}
    (hopen : firstReason ops = none) :
    rejections (ops ++ [.record (.rejected cause)]) = rejections ops + 1 := by
  have hall : ∀ op ∈ ops, op.reason?.isNone = true := by
    intro op hmem
    rw [List.findSome?_eq_none_iff.mp hopen op hmem]
    rfl
  rw [rejections, rejections, List.takeWhile_append_of_pos hall,
    List.takeWhile_eq_self_iff.mpr hall, List.countP_append]
  rfl

theorem rejections_concat_of_not (h : op.isRejection = false) :
    rejections (ops ++ [op]) = rejections ops := by
  have hnone : ([op].takeWhile fun op => op.reason?.isNone).countP
      Op.isRejection = 0 := by
    refine List.countP_eq_zero.mpr fun other hmem => ?_
    have hsame := (List.takeWhile_sublist _).mem hmem
    rw [List.mem_singleton.mp hsame, h]
    exact Bool.false_ne_true
  rw [rejections, List.takeWhile_append]
  split
  case isTrue hlength =>
    have hall := (List.takeWhile_prefix _).eq_of_length hlength
    rw [List.countP_append, hnone, Nat.add_zero, rejections, hall]
  case isFalse => rfl

theorem Undecided.nil : Undecided ceiling [] := by
  intro before op later outcome heq
  cases before <;> cases heq

theorem Undecided.concat (h : Undecided ceiling ops)
    (hop : ∀ outcome, ¬ Decides ceiling ops op outcome) :
    Undecided ceiling (ops ++ [op]) := by
  intro before cut later outcome heq
  rcases split_snoc heq with ⟨rfl, rfl, -⟩ | ⟨rest, -, hops⟩
  · exact hop outcome
  · exact h before cut rest outcome hops

theorem Ends.of_decides (h : Undecided ceiling ops)
    (hop : Decides ceiling ops op outcome) :
    Ends ceiling (ops ++ [op]) outcome :=
  ⟨ops, op, [], rfl, h, hop⟩

theorem Ends.concat (h : Ends ceiling ops outcome) (op : Op) :
    Ends ceiling (ops ++ [op]) outcome := by
  obtain ⟨before, cut, later, rfl, hbefore, hcut⟩ := h
  exact ⟨before, cut, later ++ [op], by simp, hbefore, hcut⟩

theorem Decides.unique {other : Outcome} (h : Decides ceiling ops op outcome)
    (hother : Decides ceiling ops op other) : outcome = other := by
  cases h with
  | accepted =>
      cases hother
      rfl
  | rejected hreason =>
      cases hother with
      | rejected hother => rw [Option.some.inj (hreason.symm.trans hother)]
      | exhausted hnone _ => cases hreason.symm.trans hnone
  | observed hreason =>
      cases hother with
      | observed hother => rw [Option.some.inj (hreason.symm.trans hother)]
  | exhausted hnone _ =>
      cases hother with
      | rejected hreason => cases hreason.symm.trans hnone
      | exhausted _ _ => rfl

/-- A history ends a session in one way only. -/
theorem Ends.unique {other : Outcome} (h : Ends ceiling ops outcome)
    (hother : Ends ceiling ops other) : outcome = other := by
  obtain ⟨before, op, later, rfl, hbefore, hop⟩ := h
  obtain ⟨before', op', later', hcuts, hbefore', hop'⟩ := hother
  rcases cuts_inv hcuts with ⟨rfl, rfl⟩ | ⟨between, heq⟩ | ⟨between, heq⟩
  · exact hop.unique hop'
  · exact absurd hop (hbefore' _ _ _ _ heq)
  · exact absurd hop' (hbefore _ _ _ _ heq)

end Concat

-- ========================================================= the arms of a call

/-- A call, what comes of it, and the session afterwards. -/
inductive Arm (session : Session) : Op → Option Result → Session → Prop where
  | record {verdict : Verdict} {step : Step} {session' : Session} :
      session.record verdict = (step, session') →
      Arm session (.record verdict) (some (.step step)) session'
  | observe {found : Option Outcome} {session' : Session} :
      session.observe = (found, session') →
      Arm session .observe (some (.observed found)) session'
  -- A call on the slot leaves everything else alone.
  | handle {op : Op} {result : Option Result} {slot : Slot} :
      op.isOnSlot = true → (∀ step, result ≠ some (.step step)) →
      slot.cancelled = session.slot.cancelled.or op.reason? →
      Arm session op result { session with slot }

theorem arm_perform (session : Session) (op : Op) :
    Arm session op (session.perform op).1 (session.perform op).2 := by
  cases op with
  | record verdict => exact .record rfl
  | observe => exact .observe rfl
  | cancel reason =>
      have hflag := session.slot.cancel_cancelled reason
      exact .handle rfl nofun (hflag.trans Option.or_some.symm)
  | publish secret =>
      simp only [perform, perform?]
      cases hpublish : session.slot.publish? secret with
      | none =>
          show Arm session _ none session
          exact .handle rfl nofun Option.or_none.symm
      | some published =>
          show Arm session _ (some (.flag published.1))
            { session with slot := published.2 }
          refine .handle rfl nofun ?_
          rcases Slot.publish?_inv hpublish with ⟨-, -, hslot⟩
            | ⟨-, -, -, hslot⟩ <;> rw [hslot] <;> exact Option.or_none.symm
  | take =>
      simp only [perform, perform?]
      cases htake : session.slot.take? with
      | none =>
          show Arm session _ none session
          exact .handle rfl nofun Option.or_none.symm
      | some taken =>
          show Arm session _ (some (.handed taken.1))
            { session with slot := taken.2 }
          refine .handle rfl nofun ?_
          rcases Slot.take?_inv htake with ⟨_, -, -, hslot⟩
            | ⟨_, -, -, -, hslot⟩ <;> rw [hslot] <;> exact Option.or_none.symm
  | clear => exact .handle rfl nofun Option.or_none.symm

-- ================================================================ the books

variable {ceiling retried : Nat} {ops : List Op} {op : Op} {outcome : Outcome}
  {result : Option Result} {session session' : Session}

/-- What the books always show. -/
structure Books (ceiling : Nat) (ops : List Op) (session : Session) :
    Prop where
  limit : session.counter.ceiling.toNat = ceiling
  flag : session.slot.cancelled = firstReason ops

/-- The books while a session goes on, after `retried` retries. -/
structure Open (ceiling : Nat) (ops : List Op) (retried : Nat)
    (session : Session) : Prop extends Books ceiling ops session where
  goesOn : session.outcome = none
  undecided : Undecided ceiling ops
  rejected : rejections ops = retried
  counter : session.counter.failures.toNat = retried
  below : retried < ceiling

/-- The books when a session is over, after `retried` retries. -/
structure Closed (ceiling : Nat) (ops : List Op) (retried : Nat)
    (outcome : Outcome) (session : Session) : Prop
    extends Books ceiling ops session where
  decided : session.outcome = some outcome
  ends : Ends ceiling ops outcome
  counter : session.counter.failures.toNat
    = retried + if outcome = .exhausted then 1 else 0
  below : retried < ceiling
  exhausted : outcome = .exhausted → retried + 1 = ceiling
  reason : ∀ reason, outcome = .cancelled reason →
    firstReason ops = some reason

theorem Open.new (context : AuthContext) (maxFailures : UInt32) :
    Open (max maxFailures.toNat 1) [] 0 (.new context maxFailures) := by
  refine ⟨⟨Counter.toNat_ceiling_new maxFailures, rfl⟩, rfl, .nil, rfl, rfl, ?_⟩
  omega

/-- A call that gives no reason leaves the first one as it is. -/
theorem Books.concat (h : Books ceiling ops session)
    (hop : op.reason? = none)
    (hceiling : session'.counter.ceiling = session.counter.ceiling)
    (hslot : session'.slot = session.slot) :
    Books ceiling (ops ++ [op]) session' := by
  refine ⟨by rw [hceiling, h.limit], ?_⟩
  rw [hslot, firstReason_concat, hop, Option.or_none, h.flag]

/-- The flag after a call on the slot. -/
theorem Books.handle (h : Books ceiling ops session) {slot : Slot}
    (hslot : slot.cancelled = session.slot.cancelled.or op.reason?) :
    Books ceiling (ops ++ [op]) { session with slot } := by
  refine ⟨h.limit, ?_⟩
  rw [firstReason_concat, ← h.flag, ← hslot]

/-- An open session that ends without counting a rejection. -/
theorem Open.close (h : Open ceiling ops retried session)
    (hdecides : Decides ceiling ops op outcome) (hop : op.reason? = none)
    (hne : outcome ≠ .exhausted) :
    Closed ceiling (ops ++ [op]) retried outcome (session.finish outcome) := by
  refine ⟨h.toBooks.concat hop rfl rfl, rfl, .of_decides h.undecided hdecides,
    ?_, h.below, fun heq => absurd heq hne, ?_⟩
  · rw [if_neg hne]
    exact h.counter
  · rintro reason rfl
    have hreason : firstReason ops = some reason := by
      cases hdecides <;> assumption
    rw [firstReason_concat, hreason, Option.some_or]

/-- One more rejection is within the ceiling. -/
theorem Open.toNat_recordFailure (h : Open ceiling ops retried session) :
    session.counter.recordFailure.failures.toNat = retried + 1 := by
  have hbelow : session.counter.failures.toNat
      < session.counter.ceiling.toNat := by
    rw [h.counter, h.limit]
    exact h.below
  rw [Counter.toNat_recordFailure hbelow, h.counter]

/-- A verdict that is recorded in an open session. -/
theorem Open.record (h : Open ceiling ops retried session)
    {verdict : Verdict} {step : Step}
    (hrecord : session.record verdict = (step, session')) :
    (step = .retry
        ∧ Open ceiling (ops ++ [.record verdict]) (retried + 1) session')
      ∨ ∃ outcome, step = .finish outcome
        ∧ Closed ceiling (ops ++ [.record verdict]) retried outcome
          session' := by
  have hcounter := h.toNat_recordFailure
  rcases record_inv hrecord with ⟨_, hsome, -⟩ | ⟨-, rfl, rfl, rfl⟩
    | ⟨cause, reason, -, rfl, hreason, rfl, rfl⟩
    | ⟨cause, -, rfl, hnone, hmore, rfl, rfl⟩
    | ⟨cause, -, rfl, hnone, hmore, rfl, rfl⟩
  · rw [h.goesOn] at hsome
    cases hsome
  · exact .inr ⟨_, rfl, h.close .accepted rfl nofun⟩
  · exact .inr ⟨_, rfl, h.close (.rejected (h.flag ▸ hreason)) rfl nofun⟩
  · -- below the ceiling
    have hopen : firstReason ops = none := h.flag ▸ hnone
    have hbelow : retried + 1 < ceiling := by
      rw [Counter.hasMore_eq, decide_eq_true_eq, hcounter,
        Counter.ceiling_recordFailure, h.limit] at hmore
      exact hmore
    have hbooks : Books ceiling (ops ++ [.record (.rejected cause)])
        session.counted :=
      h.toBooks.concat rfl Counter.ceiling_recordFailure rfl
    refine .inl ⟨rfl, hbooks, h.goesOn, h.undecided.concat ?_, ?_, hcounter,
      hbelow⟩
    · intro outcome hdecides
      cases hdecides with
      | rejected hreason => cases hreason.symm.trans hopen
      | exhausted _ hspent =>
          rw [h.rejected] at hspent
          omega
    · rw [rejections_concat_rejected hopen, h.rejected]
  · -- the ceiling is reached
    have hopen : firstReason ops = none := h.flag ▸ hnone
    have hspent : retried + 1 = ceiling := by
      rw [Counter.hasMore_eq, decide_eq_false_iff_not, hcounter,
        Counter.ceiling_recordFailure, h.limit] at hmore
      have := h.below
      omega
    have hbooks : Books ceiling (ops ++ [.record (.rejected cause)])
        (session.counted.finish .exhausted) :=
      h.toBooks.concat rfl Counter.ceiling_recordFailure rfl
    refine .inr ⟨_, rfl, hbooks, rfl, .of_decides h.undecided ?_, hcounter,
      h.below, fun _ => hspent, nofun⟩
    exact .exhausted hopen (by rw [h.rejected, hspent])

/-- Looking at the flag of an open session. -/
theorem Open.observe (h : Open ceiling ops retried session)
    {found : Option Outcome} (hobserve : session.observe = (found, session')) :
    Open ceiling (ops ++ [.observe]) retried session'
      ∨ ∃ outcome, Closed ceiling (ops ++ [.observe]) retried outcome
        session' := by
  rcases observe_inv hobserve with ⟨_, -, hsome, -⟩
    | ⟨reason, -, -, hreason, rfl⟩ | ⟨-, -, hnone, rfl⟩
  · rw [h.goesOn] at hsome
    cases hsome
  · exact .inr ⟨_, h.close (.observed (h.flag ▸ hreason)) rfl nofun⟩
  · refine .inl ⟨h.toBooks.concat rfl rfl rfl, h.goesOn,
      h.undecided.concat ?_, ?_, h.counter, h.below⟩
    · intro outcome hdecides
      cases hdecides with
      | observed hreason =>
          rw [← h.flag, hnone] at hreason
          cases hreason
    · rw [rejections_concat_of_not rfl, h.rejected]

/-- A call in an open session. -/
theorem Open.perform (h : Open ceiling ops retried session)
    (harm : Arm session op result session') :
    Open ceiling (ops ++ [op])
        (retried + [result].count (some (.step .retry))) session'
      ∨ ∃ outcome, Closed ceiling (ops ++ [op])
        (retried + [result].count (some (.step .retry))) outcome session' := by
  cases harm with
  | record hrecord =>
      rcases h.record hrecord with ⟨rfl, hopen⟩ | ⟨outcome, rfl, hclosed⟩
      · exact .inl hopen
      · exact .inr ⟨outcome, hclosed⟩
  | observe hobserve => exact h.observe hobserve
  | handle hslot hresult hflag =>
      rw [List.count_singleton, if_neg (by simpa using hresult .retry),
        Nat.add_zero]
      refine .inl ⟨h.toBooks.handle hflag, h.goesOn, h.undecided.concat ?_, ?_,
        h.counter, h.below⟩
      · intro outcome hdecides
        cases hdecides <;> cases hslot
      · rw [rejections_concat_of_not ?_, h.rejected]
        cases op <;> first | rfl | cases hslot

/-- An acceptance does not look at the flag. -/
theorem record_accepted (h : session.outcome = none) :
    session.record .accepted
      = (.finish .authenticated, session.finish .authenticated) := by
  unfold record
  rw [h]

/-- A session that is over answers with its outcome. -/
theorem record_of_outcome (h : session.outcome = some outcome)
    (verdict : Verdict) :
    session.record verdict = (.finish outcome, session) := by
  unfold record
  rw [h]

theorem observe_of_outcome (h : session.outcome = some outcome) :
    session.observe = (some outcome, session) := by
  unfold observe
  rw [h]

/-- A call after the end. -/
theorem Closed.perform (h : Closed ceiling ops retried outcome session)
    (harm : Arm session op result session') :
    Closed ceiling (ops ++ [op])
      (retried + [result].count (some (.step .retry))) outcome session' := by
  have hreason : ∀ reason, outcome = .cancelled reason →
      firstReason (ops ++ [op]) = some reason := by
    intro reason heq
    rw [firstReason_concat, h.reason reason heq, Option.some_or]
  cases harm with
  | record hrecord =>
      cases (record_of_outcome h.decided _).symm.trans hrecord
      exact ⟨h.toBooks.concat rfl rfl rfl, h.decided, h.ends.concat _,
        h.counter, h.below, h.exhausted, hreason⟩
  | observe hobserve =>
      cases (observe_of_outcome h.decided).symm.trans hobserve
      exact ⟨h.toBooks.concat rfl rfl rfl, h.decided, h.ends.concat _,
        h.counter, h.below, h.exhausted, hreason⟩
  | handle _ hresult hflag =>
      rw [List.count_singleton, if_neg (by simpa using hresult .retry),
        Nat.add_zero]
      exact ⟨h.toBooks.handle hflag, h.decided, h.ends.concat _, h.counter,
        h.below, h.exhausted, hreason⟩

/-- The books of every history, from any open session on. -/
theorem Open.after {start : Session} (h : Open ceiling [] 0 start)
    (ops : List Op) :
    Open ceiling ops (start.retries ops) (start.after ops)
      ∨ ∃ outcome, Closed ceiling ops (start.retries ops) outcome
        (start.after ops) := by
  induction ops using List.reverseRecOn with
  | nil => exact .inl h
  | append_singleton ops op ih =>
      rw [after_concat, retries_concat]
      have harm := arm_perform (start.after ops) op
      rcases ih with hopen | ⟨outcome, hclosed⟩
      · exact hopen.perform harm
      · exact .inr ⟨outcome, hclosed.perform harm⟩

-- =============================================================== the policy

/-- A session that is over: every call to record or to observe is answered
with the outcome and changes nothing. -/
structure Rests (outcome : Outcome) (session : Session) : Prop where
  decided : session.outcome = some outcome
  record : ∀ verdict, session.record verdict = (.finish outcome, session)
  observe : session.observe = (some outcome, session)

theorem Rests.of_outcome (h : session.outcome = some outcome) :
    session.Rests outcome :=
  ⟨h, record_of_outcome h, observe_of_outcome h⟩

theorem Rests.perform (h : session.Rests outcome)
    (harm : Arm session op result session') : session'.Rests outcome := by
  cases harm with
  | record hrecord =>
      cases (h.record _).symm.trans hrecord
      exact h
  | observe hobserve =>
      cases h.observe.symm.trans hobserve
      exact h
  | handle _ _ _ => exact .of_outcome h.decided

/-- No call takes an outcome away. -/
theorem Rests.after (h : session.Rests outcome) (later : List Op) :
    (session.after later).Rests outcome := by
  induction later using List.reverseRecOn with
  | nil => exact h
  | append_singleton later op ih =>
      rw [after_concat]
      exact ih.perform (arm_perform _ op)

/-- The retry policy with a ceiling, after some calls on a session. -/
structure Policy (ceiling : Nat) (start : Session) (ops : List Op) : Prop where
  -- The counter stays within the ceiling; it counts the retries, and the
  -- rejection that reaches the ceiling.
  bounded : (start.after ops).counter.failures.toNat ≤ ceiling
  counted : (start.after ops).counter.failures.toNat = start.retries ops
    + if (start.after ops).outcome = some .exhausted then 1 else 0
  spent : (start.after ops).counter.failures.toNat = ceiling
    ↔ (start.after ops).outcome = some .exhausted
  -- When another attempt is asked for.
  retries : ∀ verdict, ((start.after ops).record verdict).1 = .retry
    ↔ (start.after ops).isFinished = false
      ∧ (start.after ops).slot.cancelled = none
      ∧ verdict.isRejected = true ∧ start.retries ops < ceiling - 1
  -- The first call that decides sets the outcome, which stands.
  ends : ∀ outcome, (start.after ops).outcome = some outcome
    ↔ Ends ceiling ops outcome
  stands : ∀ outcome, (start.after ops).outcome = some outcome →
    ∀ later, (start.after (ops ++ later)).Rests outcome
  -- The first reason for cancelling is kept.
  flag : (start.after ops).slot.cancelled = firstReason ops
  reason : ∀ reason, (start.after ops).outcome = some (.cancelled reason) →
    (start.after ops).slot.cancelled = some reason
  -- An acceptance comes before a cancellation.
  accepts : (start.after ops).outcome = none →
    (start.after ops).record .accepted
      = (.finish .authenticated, (start.after ops).finish .authenticated)

/-- When a session that goes on asks for another attempt. -/
theorem Open.retry_iff (h : Open ceiling ops retried session)
    (verdict : Verdict) :
    (session.record verdict).1 = .retry
      ↔ session.isFinished = false ∧ session.slot.cancelled = none
        ∧ verdict.isRejected = true ∧ retried < ceiling - 1 := by
  have hgoes : session.isFinished = false := by
    rw [isFinished, h.goesOn]
    rfl
  have hmore : session.counter.recordFailure.hasMore = true
      ↔ retried < ceiling - 1 := by
    rw [Counter.hasMore_eq, decide_eq_true_eq, h.toNat_recordFailure,
      Counter.ceiling_recordFailure, h.limit]
    omega
  obtain ⟨step, session', hrecord⟩ : ∃ step session',
      session.record verdict = (step, session') := ⟨_, _, rfl⟩
  rw [hrecord]
  rcases record_inv hrecord with ⟨_, hsome, -⟩ | ⟨-, rfl, rfl, -⟩
    | ⟨_, reason, -, rfl, hreason, rfl, -⟩ | ⟨_, -, rfl, hnone, hless, rfl, -⟩
    | ⟨_, -, rfl, -, hless, rfl, -⟩
  · rw [h.goesOn] at hsome
    cases hsome
  · exact ⟨nofun, fun ⟨_, _, hrejected, _⟩ => by cases hrejected⟩
  · rw [hreason]
    exact ⟨nofun, fun ⟨_, hnone, _⟩ => by cases hnone⟩
  · exact ⟨fun _ => ⟨hgoes, hnone, rfl, hmore.mp hless⟩, fun _ => rfl⟩
  · refine ⟨nofun, fun ⟨_, _, _, hlt⟩ => ?_⟩
    rw [hmore.mpr hlt] at hless
    cases hless

/-- The policy as the books of a session that goes on show it. -/
theorem Open.policy {start : Session}
    (h : Open ceiling ops (start.retries ops) (start.after ops)) :
    Policy ceiling start ops where
  bounded := by
    rw [h.counter]
    exact Nat.le_of_lt h.below
  counted := by
    rw [h.counter, h.goesOn]
    rfl
  spent := by
    rw [h.counter, h.goesOn]
    exact ⟨fun heq => absurd heq (Nat.ne_of_lt h.below), nofun⟩
  retries := h.retry_iff
  ends outcome := by
    rw [h.goesOn]
    refine ⟨nofun, fun ⟨before, op, later, hcut, _, hop⟩ => ?_⟩
    exact absurd hop (h.undecided before op later outcome hcut)
  stands outcome hsome := by
    rw [h.goesOn] at hsome
    cases hsome
  flag := h.flag
  reason reason hsome := by
    rw [h.goesOn] at hsome
    cases hsome
  accepts := record_accepted

/-- The policy as the books of a session that is over show it. -/
theorem Closed.policy {start : Session}
    (h : Closed ceiling ops (start.retries ops) outcome (start.after ops)) :
    Policy ceiling start ops where
  bounded := by
    rw [h.counter]
    have := h.below
    split <;> omega
  counted := by simp only [h.counter, h.decided, Option.some_inj]
  spent := by
    have := h.below
    rw [h.counter, h.decided, Option.some_inj]
    constructor
    · intro heq
      by_contra hne
      rw [if_neg hne] at heq
      omega
    · intro heq
      rw [if_pos heq, h.exhausted heq]
  retries verdict := by
    rw [record_of_outcome h.decided, isFinished, h.decided]
    exact ⟨nofun, fun ⟨hgoes, _⟩ => by cases hgoes⟩
  ends other := by
    rw [h.decided, Option.some_inj]
    constructor
    · rintro rfl
      exact h.ends
    · exact h.ends.unique
  stands other hsome later := by
    rw [after_append]
    exact (Rests.of_outcome hsome).after later
  flag := h.flag
  reason reason hsome := by
    rw [h.decided, Option.some_inj] at hsome
    rw [h.flag, h.reason reason hsome]
  accepts := record_accepted

/-- The counter after some calls is a new one on which so many failures
were counted at once: those that were answered with a retry, and the one
that exhausted the session. -/
theorem counter_after (context : AuthContext) (maxFailures : UInt32)
    (ops : List Op) :
    ((new context maxFailures).after ops).counter
      = (Counter.new maxFailures).recordFailures
        ((new context maxFailures).retries ops
          + if ((new context maxFailures).after ops).outcome = some .exhausted
            then 1 else 0) := by
  rcases (Open.new context maxFailures).after ops with hopen | ⟨_, hclosed⟩
  · exact Counter.eq_recordFailures hopen.limit hopen.policy.counted
      (hopen.policy.counted ▸ hopen.policy.bounded)
  · exact Counter.eq_recordFailures hclosed.limit hclosed.policy.counted
      (hclosed.policy.counted ▸ hclosed.policy.bounded)

/-- Every new session keeps the retry policy, whatever calls are made on
it and in whatever order. A ceiling of 0 counts as 1. -/
theorem new_policy (context : AuthContext) (maxFailures : UInt32)
    (ops : List Op) :
    Policy (max maxFailures.toNat 1) (.new context maxFailures) ops := by
  rcases (Open.new context maxFailures).after ops with hopen | ⟨_, hclosed⟩
  · exact hopen.policy
  · exact hclosed.policy

-- A user who is accepted while the session is cancelled is authenticated.
example : ((Session.new ⟨"user", none⟩ 2).after [.record (.rejected .aborted),
    .cancel .exitRequested, .record .accepted]).outcome
      = some .authenticated := by decide

end ScreenUnlock.Session
