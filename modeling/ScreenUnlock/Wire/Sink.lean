/-
An output stream that may accept little, or fail.

A sink accepts at most `chunk` bytes per write call and fails at chosen
calls; it counts its calls over its whole life and keeps a record of
them. `Sink.writeAll` offers the rest again until the sink has taken
everything: an interrupted call is repeated, a call that takes nothing
is an error, and every other failure ends the attempt.
-/
import ScreenUnlock.Bytes
import ScreenUnlock.IoError

namespace ScreenUnlock

/-- What goes wrong at a write call. -/
inductive WriteFault where
  | fails (cause : IoError)
  -- The call succeeds and takes no byte.
  | takesNothing
  deriving DecidableEq, Repr

/-- A call made on a sink, with what came of it. -/
inductive SinkCall where
  | wrote (count : Nat)
  | writeFault (fault : WriteFault)
  | flushed
  | flushFault (cause : IoError)
  deriving DecidableEq, Repr

/-- An output stream with its faults to come and its record so far. -/
structure Sink where
  -- The most bytes that one call accepts; no limit if absent.
  chunk : Option Nat := none
  full : Bool := false
  -- Write calls, counted from 0, that go wrong; the first entry for a
  -- call counts.
  writeFaults : List (Nat × WriteFault) := []
  flushFaults : List (Nat × IoError) := []
  writes : Nat := 0
  flushes : Nat := 0
  trail : List SinkCall := []
  -- What each write call accepted, the latest first.
  pieces : List Bytes := []
  deriving DecidableEq, Repr

namespace Sink

/-- All calls, oldest first. -/
def calls (sink : Sink) : List SinkCall :=
  sink.trail.reverse

/-- All bytes accepted. -/
def accepted (sink : Sink) : Bytes :=
  sink.pieces.reverse.flatten

/-- The fault that the next write call meets. -/
def nextWriteFault (sink : Sink) : Option WriteFault :=
  if sink.full then some (.fails .noSpace)
  else sink.writeFaults.lookup sink.writes

/-- What one faultless call accepts of a buffer. -/
def share (sink : Sink) (buffer : Bytes) : Bytes :=
  match sink.chunk with
  | none => buffer
  | some most => buffer.take most

/-- The sink after a write call that came out as `call` and of whose
buffer the sink took `taken`. -/
def noteWrite (sink : Sink) (call : SinkCall) (taken : Bytes) : Sink :=
  { sink with
    writes := sink.writes + 1
    trail := call :: sink.trail
    pieces := taken :: sink.pieces }

/-- The sink after a write call that went wrong. -/
def refuse (sink : Sink) (fault : WriteFault) : Sink :=
  sink.noteWrite (.writeFault fault) []

/-- The sink after a write call that met no fault. -/
def accept (sink : Sink) (buffer : Bytes) : Sink :=
  sink.noteWrite (.wrote (sink.share buffer).length) (sink.share buffer)

/-- One flush call. -/
def flush (sink : Sink) : Except IoError Unit × Sink :=
  let sink' := { sink with flushes := sink.flushes + 1 }
  match sink.flushFaults.lookup sink.flushes with
  | some cause =>
    (.error cause, { sink' with trail := .flushFault cause :: sink.trail })
  | none => (.ok (), { sink' with trail := .flushed :: sink.trail })

@[simp] theorem accepted_noteWrite (sink : Sink) (call : SinkCall)
    (taken : Bytes) :
    (sink.noteWrite call taken).accepted = sink.accepted ++ taken := by
  simp [accepted, noteWrite]

@[simp] theorem accepted_flush (sink : Sink) :
    sink.flush.2.accepted = sink.accepted := by
  unfold flush
  split <;> rfl

theorem length_drop_share_lt {sink : Sink} {buffer : Bytes}
    (h : sink.share buffer ≠ []) :
    (buffer.drop (sink.share buffer).length).length < buffer.length := by
  have nonempty : 0 < (sink.share buffer).length :=
    List.length_pos_iff.mpr h
  have le : (sink.share buffer).length ≤ buffer.length := by
    unfold share
    split
    · exact Nat.le_refl _
    · rw [List.length_take]
      exact Nat.min_le_right _ _
  rw [List.length_drop]
  omega

-- ===================================================== writing a buffer

/-- How many write faults are still to come. An interrupted call uses
one up, so only finitely many calls can be repeated. -/
def faultsAhead (sink : Sink) : Nat :=
  sink.writeFaults.countP (fun fault => decide (sink.writes ≤ fault.1))

theorem faultsAhead_accept_le (sink : Sink) (buffer : Bytes) :
    (sink.accept buffer).faultsAhead ≤ sink.faultsAhead := by
  unfold faultsAhead accept noteWrite
  apply List.countP_mono_left
  intro fault _ h
  simp only [decide_eq_true_eq] at h ⊢
  omega

theorem countP_lt_of_lookup {faults : List (Nat × WriteFault)} {n : Nat}
    {fault : WriteFault} (h : faults.lookup n = some fault) :
    faults.countP (fun f => decide (n + 1 ≤ f.1))
      < faults.countP (fun f => decide (n ≤ f.1)) := by
  induction faults with
  | nil => simp at h
  | cons first rest ih =>
    obtain ⟨at', what⟩ := first
    rw [List.countP_cons, List.countP_cons]
    rw [List.lookup_cons] at h
    by_cases same : n = at'
    · subst same
      have le : rest.countP (fun f => decide (n + 1 ≤ f.1))
          ≤ rest.countP (fun f => decide (n ≤ f.1)) := by
        apply List.countP_mono_left
        intro f _ h
        simp only [decide_eq_true_eq] at h ⊢
        omega
      simp only [decide_eq_true_eq]
      rw [if_neg (by omega), if_pos (by omega)]
      omega
    · have different : (n == at') = false := by simpa using same
      rw [different] at h
      have lt := ih h
      simp only [decide_eq_true_eq]
      by_cases below : n ≤ at'
      · rw [if_pos (by omega), if_pos below]; omega
      · rw [if_neg (by omega), if_neg below]; omega

theorem faultsAhead_refuse_lt {sink : Sink} {fault : WriteFault}
    (notFull : sink.full = false) (h : sink.nextWriteFault = some fault) :
    (sink.refuse fault).faultsAhead < sink.faultsAhead := by
  unfold nextWriteFault at h
  rw [notFull] at h
  exact countP_lt_of_lookup h

/-- Write the whole buffer, offering what is left again and again. -/
def writeAll (sink : Sink) (buffer : Bytes) : Except IoError Unit × Sink :=
  if buffer = [] then (.ok (), sink)
  else
    match fault : sink.nextWriteFault with
    | some (.fails cause) =>
      if again : cause = .interrupted ∧ sink.full = false then
        have := faultsAhead_refuse_lt again.2 fault
        (sink.refuse (.fails cause)).writeAll buffer
      else (.error cause, sink.refuse (.fails cause))
    | some .takesNothing =>
      (.error .nothingWritten, sink.refuse .takesNothing)
    | none =>
      if progress : sink.share buffer ≠ [] then
        have := faultsAhead_accept_le sink buffer
        have := length_drop_share_lt progress
        (sink.accept buffer).writeAll
          (buffer.drop (sink.share buffer).length)
      else (.error .nothingWritten, sink.accept buffer)
termination_by buffer.length + sink.faultsAhead
decreasing_by
  all_goals omega

end Sink

end ScreenUnlock
