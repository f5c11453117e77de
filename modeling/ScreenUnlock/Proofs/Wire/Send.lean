/-
What the screen locker has received when a message counts as sent, and
when it does not.

`writeAll` offers the rest of a buffer again and again. However the sink
cuts the buffer into pieces, and however often a call is interrupted,
success means that exactly the buffer was accepted, and failure that some
beginning of it was. A message whose flush failed has been accepted
whole.

A sink at which nothing goes wrong takes everything, in however small
pieces (`Faultless`).

`sends` is one message after the other, up to the first that fails. What
a sink has accepted and which calls were made on it is a function of the
messages alone.
-/
import Mathlib.Data.List.Basic
import ScreenUnlock.Wire.Send

namespace ScreenUnlock.Sink

-- ========================================================== one message

/-- What one call accepts is the front of the buffer. -/
theorem share_append_drop (sink : Sink) (buffer : Bytes) :
    sink.share buffer ++ buffer.drop (sink.share buffer).length = buffer := by
  have hbegins : sink.share buffer <+: buffer := by
    unfold share
    split
    · exact List.prefix_rfl
    · exact List.take_prefix _ _
  rw [List.prefix_iff_eq_take.mp hbegins, List.length_take,
    Nat.min_eq_left hbegins.length_le, List.take_append_drop]

/-- A buffer that was written was accepted whole, and nothing else was. -/
theorem accepted_writeAll {sink sink' : Sink} {buffer : Bytes}
    (h : sink.writeAll buffer = (.ok (), sink')) :
    sink'.accepted = sink.accepted ++ buffer := by
  fun_induction writeAll sink buffer with
  | case1 sink =>
      cases h
      rw [List.append_nil]
  | case2 sink buffer _ cause _ _ _ ih =>
      -- an interrupted call has accepted nothing
      rw [ih h, refuse, accepted_noteWrite, List.append_nil]
  | case3 => cases h
  | case4 => cases h
  | case5 sink buffer _ _ _ _ _ ih =>
      rw [ih h, accept, accepted_noteWrite, List.append_assoc,
        share_append_drop]
  | case6 => cases h

/-- A message that was sent was accepted as its line. -/
theorem accepted_send {sink sink' : Sink} {message : Message}
    (h : sink.send message = (.ok (), sink')) :
    sink'.accepted = sink.accepted ++ message.lineBytes := by
  unfold send at h
  split at h
  case h_1 => cases h
  case h_2 written hwrite =>
    have hflush := accepted_flush written
    rw [h] at hflush
    rw [hflush, accepted_writeAll hwrite]

/-- A buffer that could not be written was accepted up to some byte. -/
theorem accepted_writeAll_error {sink sink' : Sink} {buffer : Bytes}
    {cause : IoError} (h : sink.writeAll buffer = (.error cause, sink')) :
    ∃ torn, torn <+: buffer ∧ sink'.accepted = sink.accepted ++ torn := by
  fun_induction writeAll sink buffer with
  | case1 => cases h
  | case2 sink buffer _ _ _ _ _ ih =>
      obtain ⟨torn, hbegins, haccepted⟩ := ih h
      refine ⟨torn, hbegins, ?_⟩
      rw [haccepted, refuse, accepted_noteWrite, List.append_nil]
  | case3 sink buffer | case4 sink buffer =>
      cases h
      exact ⟨[], List.nil_prefix, accepted_noteWrite ..⟩
  | case5 sink buffer _ _ _ _ _ ih =>
      obtain ⟨torn, hbegins, haccepted⟩ := ih h
      refine ⟨sink.share buffer ++ torn, ?_, ?_⟩
      · have hmore :=
          (List.prefix_append_right_inj (sink.share buffer)).mpr hbegins
        rwa [share_append_drop] at hmore
      · rw [haccepted, accept, accepted_noteWrite, List.append_assoc]
  | case6 sink buffer _ _ hnone =>
      cases h
      refine ⟨[], List.nil_prefix, ?_⟩
      rw [accept, accepted_noteWrite, not_not.mp hnone]

/-- A message that could not be sent was accepted up to some byte of its
line, or whole if only its flush failed. -/
theorem accepted_send_error {sink sink' : Sink} {message : Message}
    {cause : IoError} (h : sink.send message = (.error cause, sink')) :
    ∃ torn, torn <+: message.lineBytes
      ∧ sink'.accepted = sink.accepted ++ torn := by
  unfold send at h
  split at h
  case h_1 cause' written hwrite =>
    cases h
    exact accepted_writeAll_error hwrite
  case h_2 written hwrite =>
    have hflush := accepted_flush written
    rw [h] at hflush
    exact ⟨message.lineBytes, List.prefix_rfl,
      by rw [hflush, accepted_writeAll hwrite]⟩

/-- The last call for a message that was sent is its flush. -/
theorem calls_send {sink sink' : Sink} {message : Message}
    (h : sink.send message = (.ok (), sink')) :
    sink'.calls.getLast? = some .flushed := by
  unfold send at h
  split at h
  case h_1 => cases h
  case h_2 written _ =>
    unfold flush at h
    simp only at h
    split at h
    case h_1 => cases h
    case h_2 =>
      cases h
      simp [calls]

-- ===================================================== without a fault

/-- Nothing goes wrong at this sink: each write call takes at least one
byte, and no call fails. -/
structure Faultless (sink : Sink) : Prop where
  room : sink.full = false
  takes : sink.chunk ≠ some 0
  writes : sink.writeFaults = []
  flushes : sink.flushFaults = []

theorem Faultless.share_ne_nil {sink : Sink} (h : sink.Faultless)
    {buffer : Bytes} (hbuffer : buffer ≠ []) : sink.share buffer ≠ [] := by
  unfold share
  split
  case h_1 => exact hbuffer
  case h_2 most hchunk =>
    rw [ne_eq, List.take_eq_nil_iff, not_or]
    exact ⟨fun hzero => h.takes (hzero ▸ hchunk), hbuffer⟩

theorem Faultless.nextWriteFault {sink : Sink} (h : sink.Faultless) :
    sink.nextWriteFault = none := by
  unfold Sink.nextWriteFault
  rw [h.room, h.writes]
  rfl

/-- Every buffer is written, in as many calls as that takes. -/
theorem Faultless.writeAll {sink : Sink} (h : sink.Faultless)
    (buffer : Bytes) :
    ∃ sink', sink.writeAll buffer = (.ok (), sink') ∧ sink'.Faultless := by
  fun_induction Sink.writeAll sink buffer with
  | case1 sink => exact ⟨sink, rfl, h⟩
  | case2 sink _ _ cause hfault _ _ _
  | case3 sink _ _ cause hfault _
  | case4 sink _ _ hfault =>
      rw [h.nextWriteFault] at hfault
      cases hfault
  | case5 sink buffer _ _ _ _ _ ih =>
      exact ih ⟨h.room, h.takes, h.writes, h.flushes⟩
  | case6 sink buffer hbuffer _ hnone =>
      exact absurd (h.share_ne_nil hbuffer) hnone

/-- Every message is sent. -/
theorem Faultless.send {sink : Sink} (h : sink.Faultless)
    (message : Message) :
    ∃ sink', sink.send message = (.ok (), sink') ∧ sink'.Faultless := by
  obtain ⟨written, hwrite, hwritten⟩ := h.writeAll message.lineBytes
  unfold Sink.send flush
  rw [hwrite]
  simp only [hwritten.flushes, List.lookup_nil]
  exact ⟨_, rfl, hwritten.room, hwritten.takes, hwritten.writes, rfl⟩

-- ==================================================== message by message

/-- Send messages one after the other, up to the first that fails. -/
def sends (sink : Sink) : List Message → Except IoError Unit × Sink
  | [] => (.ok (), sink)
  | message :: messages =>
    match sink.send message with
    | (.ok (), sink') => sink'.sends messages
    | (.error cause, sink') => (.error cause, sink')

variable {sink sink' sink'' : Sink} {messages later : List Message}
  {message : Message} {result : Except IoError Unit} {cause : IoError}

theorem sends_append (h : sink.sends messages = (.ok (), sink'))
    (later : List Message) :
    sink.sends (messages ++ later) = sink'.sends later := by
  induction messages generalizing sink with
  | nil =>
      cases h
      rfl
  | cons message messages ih =>
      unfold sends at h
      split at h
      case h_1 next hsend =>
        rw [List.cons_append, sends, hsend]
        exact ih h
      case h_2 => cases h

/-- Nothing is sent after a failure. -/
theorem sends_append_error (h : sink.sends messages = (.error cause, sink'))
    (later : List Message) :
    sink.sends (messages ++ later) = (.error cause, sink') := by
  induction messages generalizing sink with
  | nil => cases h
  | cons message messages ih =>
      unfold sends at h
      split at h
      case h_1 next hsend =>
        rw [List.cons_append, sends, hsend]
        exact ih h
      case h_2 cause' next hsend =>
        cases h
        rw [List.cons_append, sends, hsend]

/-- One more message is sent. -/
theorem sends_snoc (h : sink.sends messages = (.ok (), sink'))
    (hsend : sink'.send message = (result, sink'')) :
    sink.sends (messages ++ [message]) = (result, sink'') := by
  rw [sends_append h, sends, hsend]
  cases result <;> rfl

/-- Whoever has sent them all has sent the last one. -/
theorem sends_snoc_inv
    (h : sink.sends (messages ++ [message]) = (.ok (), sink'')) :
    ∃ sink', sink.sends messages = (.ok (), sink')
      ∧ sink'.send message = (.ok (), sink'') := by
  match hsends : sink.sends messages with
  | (.error cause, sink') =>
      rw [sends_append_error hsends] at h
      cases h
  | (.ok (), sink') =>
      refine ⟨sink', rfl, ?_⟩
      rw [sends_append hsends, sends] at h
      match hsend : sink'.send message with
      | (.error cause, _) =>
          rw [hsend] at h
          cases h
      | (.ok (), _) =>
          rw [hsend] at h
          exact h

/-- A sink without a fault sends them all. -/
theorem Faultless.sends (h : sink.Faultless) (messages : List Message) :
    ∃ sink', sink.sends messages = (.ok (), sink') := by
  induction messages generalizing sink with
  | nil => exact ⟨sink, rfl⟩
  | cons message messages ih =>
      obtain ⟨next, hsend, hnext⟩ := h.send message
      obtain ⟨last, hlast⟩ := ih hnext
      refine ⟨last, ?_⟩
      rw [Sink.sends, hsend]
      exact hlast

/-- What a sink accepts of messages that are all sent. -/
theorem accepted_sends (h : sink.sends messages = (.ok (), sink')) :
    sink'.accepted
      = sink.accepted ++ messages.flatMap Message.lineBytes := by
  induction messages generalizing sink with
  | nil =>
      cases h
      exact (List.append_nil _).symm
  | cons message messages ih =>
      unfold sends at h
      split at h
      case h_1 next hsend =>
        rw [ih h, accepted_send hsend, List.flatMap_cons, List.append_assoc]
      case h_2 => cases h

/-- A sink takes back nothing. -/
theorem accepted_prefix_sends :
    sink.accepted <+: (sink.sends messages).2.accepted := by
  induction messages generalizing sink with
  | nil => exact List.prefix_rfl
  | cons message messages ih =>
      unfold sends
      split
      case h_1 next hsend =>
        have hbegins : sink.accepted <+: next.accepted :=
          ⟨_, (accepted_send hsend).symm⟩
        exact hbegins.trans ih
      case h_2 cause next hsend =>
        obtain ⟨torn, -, haccepted⟩ := accepted_send_error hsend
        exact ⟨torn, haccepted.symm⟩

/-- With more messages a sink accepts the same and then perhaps more. -/
theorem accepted_sends_mono (h : messages <+: later) :
    (sink.sends messages).2.accepted <+: (sink.sends later).2.accepted := by
  obtain ⟨rest, rfl⟩ := h
  match hsends : sink.sends messages with
  | (.ok (), next) =>
      rw [sends_append hsends]
      exact accepted_prefix_sends
  | (.error cause, next) =>
      exact sends_append_error hsends rest ▸ List.prefix_rfl

end ScreenUnlock.Sink
