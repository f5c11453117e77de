/-
What a history says: the sequences that the statements about runs speak
of.

Each of them picks some events of a history and keeps their order. They
come in three groups, one for each kind of thread, and a step of one
thread adds nothing to the sequences of the others (`Idle`,
`HandsNothing`, `LoopRests`).
-/
import Mathlib.Data.List.TakeWhile
import ScreenUnlock.Proofs.Auth.Course
import ScreenUnlock.Proofs.Dispatch.Arm

namespace ScreenUnlock.Dispatch

-- ============================================================ the reader

/-- The bytes that an event brings in. -/
def Event.received? : Event → Option Bytes
  | .reader (.received data) => some data
  | _ => none

/-- The bytes that came in. -/
def received (history : List Event) : Bytes :=
  (history.filterMap Event.received?).flatten

/-- The line that an event puts into the slot. -/
def Event.published? : Event → Option Bytes
  | .reader (.published line) => some line.bytes
  | _ => none

/-- The lines that were put into the slot. -/
def published (history : List Event) : List Bytes :=
  history.filterMap Event.published?

-- ========================================================== the attempts

/-- The line that an event takes out of the slot. -/
def Event.taken? : Event → Option Bytes
  | .attempt _ (.conversed (.take line)) => some line.bytes
  | _ => none

/-- The lines that were taken out of the slot. -/
def taken (history : List Event) : List Bytes :=
  history.filterMap Event.taken?

/-- The line that the attempt with this number takes in an event. -/
def Event.takenBy? (number : Nat) : Event → Option Bytes
  | .attempt taker effect => if taker = number then effect.line? else none
  | _ => none

/-- The lines that one attempt took. -/
def takenBy (number : Nat) (history : List Event) : List Bytes :=
  history.filterMap (Event.takenBy? number)

/-- The answer that an event gives to the backend. -/
def Event.answer? : Event → Option Bytes
  | .attempt _ (.replied reply) => reply.map Secret.bytes
  | _ => none

/-- The answers that the backend got, in all attempts together. -/
def answers (history : List Event) : List Bytes :=
  history.filterMap Event.answer?

/-- The message that the attempt with this number says in an event. -/
def Event.emitted? (number : Nat) : Event → Option Message
  | .attempt speaker effect =>
    if speaker = number then Attempt.Effect.said? effect else none
  | _ => none

/-- The messages of one attempt. -/
def emitted (number : Nat) (history : List Event) : List Message :=
  history.filterMap (Event.emitted? number)

-- ===================================================== the dispatch loop

/-- The message that an event writes. -/
def Event.sent? : Event → Option Message
  | .sent message => some message
  | _ => none

/-- The messages that were written. -/
def sent (history : List Event) : List Message :=
  history.filterMap Event.sent?

/-- The verdict that an event records. -/
def Event.verdict? : Event → Option Verdict
  | .recorded verdict _ => some verdict
  | _ => none

/-- The verdicts that were recorded. -/
def verdicts (history : List Event) : List Verdict :=
  history.filterMap Event.verdict?

/-- What an event makes the loop do next. -/
def Event.step? : Event → Option Step
  | .recorded _ step => some step
  | _ => none

/-- What the loop did after each attempt. -/
def steps (history : List Event) : List Step :=
  history.filterMap Event.step?

/-- The attempt that an event starts. -/
def Event.started? : Event → Option Nat
  | .started number => some number
  | _ => none

/-- The calls of the backend. -/
def calls (history : List Event) : List Nat :=
  history.filterMap Event.started?

-- ============================================================== appending

section Append

variable (history later : List Event)

@[simp] theorem received_append :
    received (history ++ later) = received history ++ received later := by
  simp [received]

@[simp] theorem published_append :
    published (history ++ later) = published history ++ published later := by
  simp [published]

@[simp] theorem taken_append :
    taken (history ++ later) = taken history ++ taken later := by
  simp [taken]

@[simp] theorem answers_append :
    answers (history ++ later) = answers history ++ answers later := by
  simp [answers]

@[simp] theorem emitted_append (number : Nat) :
    emitted number (history ++ later)
      = emitted number history ++ emitted number later := by
  simp [emitted]

@[simp] theorem takenBy_append (number : Nat) :
    takenBy number (history ++ later)
      = takenBy number history ++ takenBy number later := by
  simp [takenBy]

@[simp] theorem sent_append :
    sent (history ++ later) = sent history ++ sent later := by
  simp [sent]

@[simp] theorem verdicts_append :
    verdicts (history ++ later) = verdicts history ++ verdicts later := by
  simp [verdicts]

@[simp] theorem steps_append :
    steps (history ++ later) = steps history ++ steps later := by
  simp [steps]

@[simp] theorem calls_append :
    calls (history ++ later) = calls history ++ calls later := by
  simp [calls]

end Append

/-- The first part of a history that ends with some event stays the same
when more happens. -/
theorem takeWhile_append_of_mem {history : List Event} {p : Event → Bool}
    (h : ∃ event ∈ history, p event = false) (later : List Event) :
    (history ++ later).takeWhile p = history.takeWhile p := by
  obtain ⟨event, hmem, hends⟩ := h
  have hshort : (history.takeWhile p).length ≠ history.length := by
    intro heq
    have hall := (List.takeWhile_prefix p).eq_of_length heq
    have hholds := List.takeWhile_eq_self_iff.mp hall event hmem
    rw [hends] at hholds
    cases hholds
  rw [List.takeWhile_append, if_neg hshort]

-- ============================================================ one attempt

/-- The attempt with this number does nothing that can be seen. -/
def Idle (number : Nat) (events : List Event) : Prop :=
  ∀ effect, .attempt number effect ∉ events

section Idle

variable {number : Nat} {events : List Event}

theorem Idle.nil : Idle number [] :=
  fun _ hmem => by cases hmem

theorem Idle.of_reader (effect : Option Reader.Effect) :
    Idle number (effect.map Event.reader).toList := by
  cases effect <;> simp [Idle]

theorem Idle.of_ne {other : Nat} (hne : number ≠ other)
    (effect : Option Attempt.Effect) :
    Idle number (effect.map (Event.attempt other)).toList := by
  cases effect <;> simp [Idle, hne]

/-- An idle attempt says nothing. -/
theorem Idle.emitted (h : Idle number events) : emitted number events = [] := by
  refine List.filterMap_eq_nil_iff.mpr fun event hmem => ?_
  cases event with
  | attempt speaker effect =>
      refine if_neg fun heq => ?_
      exact h effect (heq ▸ hmem)
  | _ => rfl

/-- An idle attempt takes nothing. -/
theorem Idle.takenBy (h : Idle number events) : takenBy number events = [] := by
  refine List.filterMap_eq_nil_iff.mpr fun event hmem => ?_
  cases event with
  | attempt taker effect =>
      refine if_neg fun heq => ?_
      exact h effect (heq ▸ hmem)
  | _ => rfl

/-- What an attempt says in a step. -/
theorem emitted_attempt (number : Nat) (effect : Option Attempt.Effect) :
    emitted number (effect.map (Event.attempt number)).toList
      = (effect.bind Attempt.Effect.said?).toList := by
  cases effect with
  | none => rfl
  | some effect =>
      cases hsaid : Attempt.Effect.said? effect <;>
        simp [Dispatch.emitted, Event.emitted?, hsaid]

/-- What an attempt takes in a step. -/
theorem takenBy_attempt (number : Nat) (effect : Option Attempt.Effect) :
    Dispatch.takenBy number (effect.map (Event.attempt number)).toList
      = (effect.bind Attempt.Effect.line?).toList := by
  cases effect with
  | none => rfl
  | some effect =>
      cases hline : effect.line? <;>
        simp [Dispatch.takenBy, Event.takenBy?, hline]

theorem taken_attempt (number : Nat) (effect : Option Attempt.Effect) :
    taken (effect.map (Event.attempt number)).toList
      = (effect.bind Attempt.Effect.line?).toList := by
  match effect with
  | none | some (.conversed (.emit _)) | some (.conversed (.take _))
  | some (.conversed (.cancel _)) | some (.replied _) => rfl

theorem answers_reader (effect : Option Reader.Effect) :
    answers (effect.map Event.reader).toList = [] := by
  cases effect <;> rfl

theorem taken_reader (effect : Option Reader.Effect) :
    taken (effect.map Event.reader).toList = [] := by
  cases effect <;> rfl

end Idle

-- ========================================================== quiet threads

/-- Nothing is handed over: no input, no line, no answer, and no attempt
does anything. -/
structure HandsNothing (events : List Event) : Prop where
  received : received events = []
  published : published events = []
  taken : taken events = []
  answers : answers events = []
  idle : ∀ number, Idle number events

/-- The dispatch loop does nothing that can be seen: nothing is written,
recorded, started or given up. -/
structure LoopRests (events : List Event) : Prop where
  sent : sent events = []
  verdicts : verdicts events = []
  steps : steps events = []
  calls : calls events = []
  abandoned : Event.abandoned ∉ events
  unsent : ∀ message cause, Event.unsent message cause ∉ events

variable {setup : Setup} {state state' : State} {events : List Event}

theorem HandsNothing.nil : HandsNothing [] :=
  ⟨rfl, rfl, rfl, rfl, fun _ _ => by simp⟩

theorem LoopRests.nil : LoopRests [] :=
  ⟨rfl, rfl, rfl, rfl, by simp, by simp⟩

theorem LoopRests.of_reader (effect : Option Reader.Effect) :
    LoopRests (effect.map Event.reader).toList := by
  cases effect with
  | none => exact .nil
  | some effect => exact ⟨rfl, rfl, rfl, rfl, by simp, by simp⟩

theorem LoopRests.of_attempt (number : Nat)
    (effect : Option Attempt.Effect) :
    LoopRests (effect.map (Event.attempt number)).toList := by
  cases effect with
  | none => exact .nil
  | some effect => exact ⟨rfl, rfl, rfl, rfl, by simp, by simp⟩

/-- Cancelling leaves nothing but its own trace. -/
theorem LoopRests.of_cancel (first : Bool) (reason : CancelReason) :
    LoopRests (if first then [.cancelled reason] else []) := by
  cases first with
  | false => exact .nil
  | true => exact ⟨rfl, rfl, rfl, rfl, by simp, by simp⟩

/-- Neither does dropping a line. -/
theorem LoopRests.of_sweep (line : Option Secret) :
    LoopRests (line.map Event.swept).toList := by
  cases line with
  | none => exact .nil
  | some line => exact ⟨rfl, rfl, rfl, rfl, by simp, by simp⟩

/-- A step of the dispatch loop hands nothing over. -/
theorem HandsNothing.of_move {move : Move}
    (harm : State.Arm setup state (.move move) state' events) :
    HandsNothing events := by
  cases harm with
  | halt _ _ hwrote | forward _ _ hwrote | drain _ _ hwrote
  | retry _ _ _ hwrote | conclude _ _ _ hwrote =>
      cases hwrote <;> exact ⟨rfl, rfl, rfl, rfl, fun _ _ => by simp⟩
  | launch _ | abandon _ _ _ => exact ⟨rfl, rfl, rfl, rfl, fun _ _ => by simp⟩
  | stop _ =>
      split
      · exact ⟨rfl, rfl, rfl, rfl, fun _ _ => by simp⟩
      · exact .nil
  | sweep _ =>
      cases state.session.slot.pending with
      | none => exact .nil
      | some line => exact ⟨rfl, rfl, rfl, rfl, fun _ _ => by simp⟩
  | _ => exact .nil

end ScreenUnlock.Dispatch
