/-
One line at a sink with faults, call by call.

`Proofs.Wire.Send` says what a sink has accepted when a message counts as
sent; here is how it came to that. Each write call offers all that is left
of the line, and what the sink answers depends on nothing but the number of
the call and on what is offered (`Sink.answer`): it takes a piece off the
front, or the call goes wrong. So writing a line is a list of answers
(`Offers`), in which every answer but the last lets the writing go on.

# The end

An answer that lets the writing go on takes a byte or uses up one of the
faults to come, so there are only so many of them (`Offers.length_le`). The
last answer decides. Either nothing is left, and then the line is flushed,
once; or something is left, and the error is that of the last answer. A
flush that fails is not repeated, not even when it was interrupted.
-/
import ScreenUnlock.Proofs.Wire.Send

namespace ScreenUnlock

/-- What a sink answers to a write call. -/
inductive Answer where
  -- It took this piece, which can be empty.
  | took (piece : Bytes)
  | refused (fault : WriteFault)
  deriving DecidableEq, Repr

namespace Answer

/-- The call that a record shows for the answer. -/
def call : Answer → SinkCall
  | took piece => .wrote piece.length
  | refused fault => .writeFault fault

/-- What the sink took with the answer. -/
def piece : Answer → Bytes
  | took piece => piece
  | refused _ => []

/-- Why the writing ends with the answer; `none` if it goes on. An
interrupted call is made again. -/
def failure? : Answer → Option IoError
  | took [] => some .nothingWritten
  | took (_ :: _) => none
  | refused .takesNothing => some .nothingWritten
  | refused (.fails .interrupted) => none
  | refused (.fails cause) => some cause

theorem failure?_took_eq_none_iff (piece : Bytes) :
    (took piece).failure? = none ↔ piece ≠ [] := by
  cases piece <;> simp [failure?]

theorem failure?_fails {cause : IoError} (h : cause ≠ .interrupted) :
    (refused (.fails cause)).failure? = some cause := by
  cases cause <;> first | rfl | exact absurd rfl h

theorem eq_interrupted_of_failure? {fault : WriteFault}
    (h : (refused fault).failure? = none) :
    fault = .fails .interrupted := by
  cases fault with
  | fails cause =>
      by_contra hne
      rw [failure?_fails (fun hcause => hne (hcause ▸ rfl))] at h
      cases h
  | takesNothing => cases h

/-- With an answer that ends the writing nothing is taken. -/
theorem piece_of_failure? {answer : Answer} {cause : IoError}
    (h : answer.failure? = some cause) : answer.piece = [] := by
  cases answer with
  | took piece =>
      cases piece with
      | nil => rfl
      | cons byte rest => cases h
  | refused fault => rfl

/-- All that was taken with these answers. -/
def taken (answers : List Answer) : Bytes :=
  answers.flatMap piece

@[simp] theorem taken_nil : taken [] = [] := rfl

@[simp] theorem taken_cons (answer : Answer) (answers : List Answer) :
    taken (answer :: answers) = answer.piece ++ taken answers := rfl

end Answer

-- ====================================================== a list of answers

/-- Writing a buffer from the call with this number on: the answers, what is
left of the buffer at last, and what comes of it. -/
inductive Offers (answer : Nat → Bytes → Answer) :
    Nat → Bytes → List Answer → Bytes → Except IoError Unit → Prop where
  | whole {number : Nat} : Offers answer number [] [] [] (.ok ())
  -- What was not taken is offered next.
  | more {number : Nat} {buffer left : Bytes} {answers : List Answer}
      {result : Except IoError Unit} : buffer ≠ [] →
      (answer number buffer).failure? = none →
      Offers answer (number + 1)
        (buffer.drop (answer number buffer).piece.length) answers left
        result →
      Offers answer number buffer (answer number buffer :: answers) left
        result
  | failed {number : Nat} {buffer : Bytes} {cause : IoError} :
      buffer ≠ [] → (answer number buffer).failure? = some cause →
      Offers answer number buffer [answer number buffer] buffer
        (.error cause)

namespace Sink

/-- The fault of the write call with this number. -/
def faultAt (sink : Sink) (number : Nat) : Option WriteFault :=
  if sink.full then some (.fails .noSpace) else sink.writeFaults.lookup number

/-- The answer to the write call with this number. -/
def answer (sink : Sink) (number : Nat) (buffer : Bytes) : Answer :=
  match sink.faultAt number with
  | some fault => .refused fault
  | none => .took (sink.share buffer)

/-- What comes of the next flush call. -/
def nextFlush (sink : Sink) : SinkCall :=
  match sink.flushFaults.lookup sink.flushes with
  | some cause => .flushFault cause
  | none => .flushed

/-- The sink after these answers. -/
def after (sink : Sink) (answers : List Answer) : Sink :=
  answers.foldl (fun sink answer => sink.noteWrite answer.call answer.piece)
    sink

variable {sink : Sink} {number : Nat} {buffer left : Bytes}
  {answers : List Answer} {result : Except IoError Unit}

theorem answer_of_fault {fault : WriteFault}
    (h : sink.faultAt number = some fault) (buffer : Bytes) :
    sink.answer number buffer = .refused fault := by
  unfold answer
  rw [h]

theorem answer_of_none (h : sink.faultAt number = none) (buffer : Bytes) :
    sink.answer number buffer = .took (sink.share buffer) := by
  unfold answer
  rw [h]

/-- The sink takes a piece off the front. -/
theorem piece_append_drop (sink : Sink) (number : Nat) (buffer : Bytes) :
    (sink.answer number buffer).piece
      ++ buffer.drop (sink.answer number buffer).piece.length = buffer := by
  unfold answer
  split
  case h_1 => rfl
  case h_2 => exact share_append_drop sink buffer

theorem after_cons (sink : Sink) (answer : Answer) (answers : List Answer) :
    sink.after (answer :: answers)
      = (sink.noteWrite answer.call answer.piece).after answers := rfl

@[simp] theorem calls_after (sink : Sink) (answers : List Answer) :
    (sink.after answers).calls = sink.calls ++ answers.map Answer.call := by
  induction answers generalizing sink with
  | nil => exact (List.append_nil _).symm
  | cons answer answers ih =>
      rw [after_cons, ih]
      simp [calls, noteWrite]

@[simp] theorem accepted_after (sink : Sink) (answers : List Answer) :
    (sink.after answers).accepted
      = sink.accepted ++ Answer.taken answers := by
  induction answers generalizing sink with
  | nil => exact (List.append_nil _).symm
  | cons answer answers ih =>
      rw [after_cons, ih, accepted_noteWrite, Answer.taken_cons,
        List.append_assoc]

/-- Answers change nothing but the record and the number of the next
call. -/
theorem after_eq (sink : Sink) (answers : List Answer) :
    sink.after answers = { sink with
      writes := sink.writes + answers.length
      trail := (sink.after answers).trail
      pieces := (sink.after answers).pieces } := by
  induction answers generalizing sink with
  | nil => rfl
  | cons answer answers ih =>
      rw [after_cons, ih]
      simp only [noteWrite, List.length_cons, Sink.mk.injEq, and_self,
        true_and, and_true]
      omega

/-- A call that lets the writing go on, and what follows it. -/
theorem exists_offers_of_goes {given : Answer} {written : Sink}
    (hbuffer : buffer ≠ []) (hgiven : sink.answer sink.writes buffer = given)
    (hgoes : given.failure? = none)
    (hrest : ∃ answers left,
      Offers sink.answer (sink.writes + 1) (buffer.drop given.piece.length)
        answers left result
      ∧ written = (sink.noteWrite given.call given.piece).after answers) :
    ∃ answers left,
      Offers sink.answer sink.writes buffer answers left result
      ∧ written = sink.after answers := by
  subst hgiven
  obtain ⟨answers, left, hoffers, rfl⟩ := hrest
  exact ⟨_ :: answers, left, .more hbuffer hgoes hoffers, rfl⟩

/-- A call that ends the writing. -/
theorem exists_offers_of_ends {given : Answer} {cause : IoError}
    (hbuffer : buffer ≠ []) (hgiven : sink.answer sink.writes buffer = given)
    (hends : given.failure? = some cause) :
    ∃ answers left,
      Offers sink.answer sink.writes buffer answers left (.error cause)
      ∧ sink.noteWrite given.call given.piece = sink.after answers := by
  subst hgiven
  exact ⟨_, _, .failed hbuffer hends, rfl⟩

/-- Writing a buffer is a list of answers. -/
theorem exists_offers (sink : Sink) (buffer : Bytes) :
    ∃ answers left,
      Offers sink.answer sink.writes buffer answers left
        (sink.writeAll buffer).1
      ∧ (sink.writeAll buffer).2 = sink.after answers := by
  fun_induction writeAll sink buffer with
  | case1 sink => exact ⟨[], [], .whole, rfl⟩
  | case2 sink buffer hbuffer cause hfault hagain _ ih =>
      obtain ⟨rfl, -⟩ := hagain
      exact exists_offers_of_goes hbuffer (answer_of_fault hfault buffer) rfl
        ih
  | case3 sink buffer hbuffer cause hfault hstop =>
      have hcause : cause ≠ .interrupted := by
        rintro rfl
        refine hstop ⟨rfl, ?_⟩
        rw [nextWriteFault] at hfault
        by_contra hfull
        rw [if_pos (Bool.not_eq_false _ ▸ hfull)] at hfault
        cases hfault
      exact exists_offers_of_ends hbuffer (answer_of_fault hfault buffer)
        (Answer.failure?_fails hcause)
  | case4 sink buffer hbuffer hfault =>
      exact exists_offers_of_ends hbuffer (answer_of_fault hfault buffer) rfl
  | case5 sink buffer hbuffer hnone hshare _ _ ih =>
      exact exists_offers_of_goes hbuffer (answer_of_none hnone buffer)
        ((Answer.failure?_took_eq_none_iff _).mpr hshare) ih
  | case6 sink buffer hbuffer hnone hshare =>
      have hends : (Answer.took (sink.share buffer)).failure?
          = some .nothingWritten := by
        rw [not_not.mp hshare]
        rfl
      exact exists_offers_of_ends hbuffer (answer_of_none hnone buffer) hends

end Sink

-- ================================================ what the answers come to

section Offers

variable {sink : Sink} {number : Nat} {buffer left : Bytes}
  {answers : List Answer} {result : Except IoError Unit}

/-- What was taken and what is left make up the buffer. -/
theorem Offers.taken_append
    (h : Offers sink.answer number buffer answers left result) :
    Answer.taken answers ++ left = buffer := by
  induction h with
  | whole => rfl
  | more _ _ _ ih =>
      rw [Answer.taken_cons, List.append_assoc, ih]
      exact sink.piece_append_drop _ _
  | failed _ hfailure =>
      rw [Answer.taken_cons, Answer.piece_of_failure? hfailure]
      rfl

/-- Each call offers what the calls before it have left, and only the last
answer can end the writing. -/
theorem Offers.cut
    (h : Offers sink.answer number buffer answers left result)
    {before after : List Answer} {answer : Answer}
    (hcut : answers = before ++ answer :: after) :
    answer = sink.answer (number + before.length)
        (buffer.drop (Answer.taken before).length)
      ∧ (after ≠ [] → answer.failure? = none) := by
  induction h generalizing before with
  | whole => cases before <;> cases hcut
  | more _ hnone _ ih =>
      cases before with
      | nil =>
          cases hcut
          exact ⟨rfl, fun _ => hnone⟩
      | cons first before =>
          obtain ⟨rfl, hrest⟩ := List.cons.inj hcut
          obtain ⟨hanswer, hgoes⟩ := ih hrest
          refine ⟨?_, hgoes⟩
          rw [hanswer, List.drop_drop, Answer.taken_cons, List.length_append,
            List.length_cons, Nat.add_right_comm, Nat.add_assoc]
  | failed _ _ =>
      cases before with
      | nil =>
          cases hcut
          exact ⟨rfl, fun hne => absurd rfl hne⟩
      | cons first before =>
          obtain ⟨-, hrest⟩ := List.cons.inj hcut
          cases before <;> cases hrest

/-- How many faults stand at the write calls from a number on. -/
def Sink.faultsFrom (sink : Sink) (number : Nat) : Nat :=
  sink.writeFaults.countP fun fault => decide (number ≤ fault.1)

theorem Sink.faultsFrom_succ_le (sink : Sink) (number : Nat) :
    sink.faultsFrom (number + 1) ≤ sink.faultsFrom number := by
  unfold faultsFrom
  refine List.countP_mono_left fun fault _ h => ?_
  simp only [decide_eq_true_eq] at h ⊢
  omega

/-- An answer that lets the writing go on takes something or uses up a
fault. -/
theorem Sink.progress (h : (sink.answer number buffer).failure? = none) :
    (buffer.drop (sink.answer number buffer).piece.length).length
        + sink.faultsFrom (number + 1)
      < buffer.length + sink.faultsFrom number := by
  have hfewer := sink.faultsFrom_succ_le number
  cases hfault : sink.faultAt number with
  | none =>
      rw [answer_of_none hfault, Answer.failure?_took_eq_none_iff] at h
      rw [answer_of_none hfault]
      have hshorter := length_drop_share_lt h
      show (buffer.drop (sink.share buffer).length).length + _ < _
      omega
  | some fault =>
      rw [answer_of_fault hfault] at h ⊢
      cases Answer.eq_interrupted_of_failure? h
      have hused : sink.faultsFrom (number + 1) < sink.faultsFrom number := by
        unfold faultAt at hfault
        split at hfault
        · cases hfault
        · exact countP_lt_of_lookup hfault
      show (buffer.drop 0).length + _ < _
      rw [List.drop_zero]
      omega

/-- There are only so many calls. -/
theorem Offers.length_le
    (h : Offers sink.answer number buffer answers left result) :
    answers.length ≤ buffer.length + sink.faultsFrom number := by
  induction h with
  | whole => exact Nat.zero_le _
  | more _ hnone _ ih =>
      have hprogress := sink.progress hnone
      rw [List.length_cons]
      omega
  | failed hbuffer _ =>
      have hpos := List.length_pos_iff.mpr hbuffer
      rw [List.length_singleton]
      omega

/-- All has gone well exactly if nothing is left. -/
theorem Offers.ok_iff
    (h : Offers sink.answer number buffer answers left result) :
    result = .ok () ↔ left = [] := by
  induction h with
  | whole => exact iff_of_true rfl rfl
  | more _ _ _ ih => exact ih
  | failed hbuffer _ => exact iff_of_false nofun hbuffer

/-- Otherwise the error is that of the last answer. -/
theorem Offers.error_inv {cause : IoError}
    (h : Offers sink.answer number buffer answers left (.error cause)) :
    ∃ before last, answers = before ++ [last] ∧ last.failure? = some cause := by
  generalize hresult : (Except.error cause : Except IoError Unit) = result at h
  induction h with
  | whole => cases hresult
  | more _ _ _ ih =>
      obtain ⟨before, last, rfl, hfailure⟩ := ih hresult
      exact ⟨_ :: before, last, rfl, hfailure⟩
  | failed _ hfailure =>
      cases hresult
      exact ⟨[], _, rfl, hfailure⟩

end Offers

-- =============================================================== the flush

namespace Sink

variable {sink : Sink}

theorem flush_snd (sink : Sink) :
    sink.flush.2 = { sink with
      flushes := sink.flushes + 1
      trail := sink.nextFlush :: sink.trail } := by
  unfold flush nextFlush
  cases sink.flushFaults.lookup sink.flushes <;> rfl

theorem flush_eq_ok_iff :
    sink.flush.1 = .ok () ↔ sink.nextFlush = .flushed := by
  unfold flush nextFlush
  cases sink.flushFaults.lookup sink.flushes with
  | none => exact iff_of_true rfl rfl
  | some cause => exact iff_of_false nofun nofun

theorem flush_eq_error_iff (cause : IoError) :
    sink.flush.1 = .error cause ↔ sink.nextFlush = .flushFault cause := by
  unfold flush nextFlush
  cases sink.flushFaults.lookup sink.flushes with
  | none => exact iff_of_false nofun nofun
  | some other => simp

/-- Writing does nothing to the flushes to come. -/
theorem nextFlush_after (sink : Sink) (answers : List Answer) :
    (sink.after answers).nextFlush = sink.nextFlush := by
  unfold nextFlush
  rw [after_eq]

-- ============================================================== the result

/-- How one message is sent: the answers to the write calls, what is left of
its line at last, and what comes of it. -/
structure Course (sink : Sink) (message : Message) (answers : List Answer)
    (left : Bytes) (result : Except IoError Unit) (sink' : Sink) : Prop where
  -- Each write call offers what the calls before it have left of the line,
  -- and only the last answer can end the writing.
  offered : ∀ before answer after, answers = before ++ answer :: after →
    answer = sink.answer (sink.writes + before.length)
        (message.lineBytes.drop (Answer.taken before).length)
      ∧ (after ≠ [] → answer.failure? = none)
  finite : answers.length ≤ message.lineBytes.length + sink.faultsAhead
  -- A line that was taken whole is flushed, once; no other line is.
  calls : sink'.calls = sink.calls ++ (answers.map Answer.call
    ++ if left = [] then [sink.nextFlush] else [])
  accepted : sink'.accepted = sink.accepted ++ Answer.taken answers
  line : Answer.taken answers ++ left = message.lineBytes
  ok_iff : result = .ok () ↔ left = [] ∧ sink.nextFlush = .flushed
  unflushed : left = [] → ∀ cause,
    (result = .error cause ↔ sink.nextFlush = .flushFault cause)
  -- The error is that of the last write call.
  unwritten : left ≠ [] → ∃ before last cause, answers = before ++ [last]
    ∧ last.failure? = some cause ∧ result = .error cause
  -- The next message finds the same faults, at the calls that come now.
  later : sink'.answer = sink.answer ∧ sink'.flushFaults = sink.flushFaults
    ∧ sink'.writes = sink.writes + answers.length
    ∧ sink'.flushes = sink.flushes + if left = [] then 1 else 0

section Course

variable {message : Message} {answers : List Answer} {left : Bytes}

/-- The line was not taken whole, and nothing is flushed. -/
theorem course_of_failed {cause : IoError}
    (h : Offers sink.answer sink.writes message.lineBytes answers left
      (.error cause)) :
    sink.Course message answers left (.error cause) (sink.after answers) := by
  have hleft : left ≠ [] := fun hnil => nomatch h.ok_iff.mpr hnil
  obtain ⟨before, last, hlast, hfailure⟩ := h.error_inv
  refine ⟨fun _ _ _ hcut => h.cut hcut, h.length_le, ?_,
    accepted_after sink answers, h.taken_append, ?_, ?_, ?_, ?_⟩
  · rw [calls_after, if_neg hleft, List.append_nil]
  · exact iff_of_false nofun fun hsent => hleft hsent.1
  · exact fun hnil => absurd hnil hleft
  · exact fun _ => ⟨before, last, cause, hlast, hfailure, rfl⟩
  · rw [if_neg hleft, after_eq]
    exact ⟨rfl, rfl, rfl, rfl⟩

/-- The line was taken whole, and the flush decides. -/
theorem course_of_whole
    (h : Offers sink.answer sink.writes message.lineBytes answers left
      (.ok ())) :
    sink.Course message answers left (sink.after answers).flush.1
      (sink.after answers).flush.2 := by
  have hleft : left = [] := h.ok_iff.mp rfl
  refine ⟨fun _ _ _ hcut => h.cut hcut, h.length_le, ?_, ?_, h.taken_append,
    ?_, ?_, ?_, ?_⟩
  · rw [if_pos hleft, flush_snd, nextFlush_after, ← List.append_assoc,
      ← calls_after]
    simp [calls]
  · rw [accepted_flush, accepted_after]
  · rw [flush_eq_ok_iff, nextFlush_after]
    exact (and_iff_right hleft).symm
  · intro _ cause
    rw [flush_eq_error_iff, nextFlush_after]
  · exact fun hne => absurd hleft hne
  · rw [if_pos hleft, flush_snd, after_eq]
    exact ⟨rfl, rfl, rfl, rfl⟩

end Course

/-- One message at any sink, after any number of calls: the sending ends, what
the sink has accepted of it is the front of its line, and what comes of it is
what came of the last call. -/
theorem exists_course (sink : Sink) (message : Message) :
    ∃ answers left, sink.Course message answers left
      (sink.send message).1 (sink.send message).2 := by
  obtain ⟨answers, left, hoffers, hafter⟩ :=
    sink.exists_offers message.lineBytes
  refine ⟨answers, left, ?_⟩
  unfold send
  rcases hwrite : sink.writeAll message.lineBytes with ⟨result, written⟩
  rw [hwrite] at hoffers hafter
  obtain rfl : written = sink.after answers := hafter
  cases result with
  | error cause => exact course_of_failed hoffers
  | ok _ => exact course_of_whole hoffers

/-- A sink that takes eight bytes a call, is interrupted twice and then
breaks: two pieces of the line are out, and it is not flushed. -/
example :
    let sink : Sink :=
      { chunk := some 8
        writeFaults := [(1, .fails .interrupted), (2, .fails .interrupted),
          (4, .fails .brokenPipe)] }
    (sink.send .failure).1 = .error .brokenPipe
      ∧ (sink.send .failure).2.accepted.length = 16
      ∧ (sink.send .failure).2.flushes = 0 := by decide +kernel

end Sink

end ScreenUnlock
