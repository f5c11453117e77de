/-
The buffer splits its input as lines are defined, whatever the cuts.

The input comes in pieces, and all complete lines are taken out before
each piece. `Bytes.completeLines` and `Bytes.unfinished` know nothing of
pieces, of a buffer or of a discarded rest; `Splits` says that a buffer
gives their result. The induction is over the pieces and rides on
`Carries`: draining empties its list of lines, and then a piece fits.

# Clearing

What a buffer shows of itself depends on the bytes it holds, not on the
cells it has ever used. Two buffers that hold the same bytes are `Alike`;
each operation shows the same of both and leaves them alike. A cleared
buffer and a new one are alike, so everything that happened before a
`clear` is forgotten, even lines that were never taken out and pieces that
were too long.

# Memory

The cells of a buffer are asked for in one piece when it is made. There is
a buffer for every length of line for which that is possible
(`new?_splits`), and none for a longer one.
-/
import ScreenUnlock.Proofs.Input.Buffer

namespace ScreenUnlock.LineBuffer

-- ======================================================== the operations

/-- What can be done with a buffer. -/
inductive Op where
  | push (data : Bytes)
  -- Take the first complete line out, if there is one.
  | next
  -- Take every complete line out.
  | drain
  | clear
  deriving DecidableEq, Repr

/-- Do one thing: the lines that come out of it, and the buffer
afterwards. -/
def perform (buffer : LineBuffer) : Op → List Secret × LineBuffer
  | .push data => ([], buffer.push data)
  | .next =>
    match buffer.nextLine? with
    | none => ([], buffer)
    | some (line, buffer') => ([line], buffer')
  | .drain => buffer.drain
  | .clear => ([], buffer.clear)

/-- The buffer after these operations. -/
def after (buffer : LineBuffer) : List Op → LineBuffer
  | [] => buffer
  | op :: ops => (buffer.perform op).2.after ops

/-- What can be seen of these operations: of each of them the lines that
came out, and how many bytes were stored then. -/
def shown (buffer : LineBuffer) : List Op → List (List Secret × Nat)
  | [] => []
  | op :: ops =>
    ((buffer.perform op).1, (buffer.perform op).2.buffered)
      :: (buffer.perform op).2.shown ops

/-- The lines that came out, in order. -/
def linesOf (buffer : LineBuffer) (ops : List Op) : List Bytes :=
  ((buffer.shown ops).flatMap Prod.fst).map Secret.bytes

/-- The operations that bring the input in these pieces: all complete
lines are taken out before each piece, and at the end. -/
def feeding (pieces : List Bytes) : List Op :=
  pieces.flatMap (fun piece => [.drain, .push piece]) ++ [.drain]

/-- The buffer splits its input into lines of at most `limit` bytes, and
`clear` makes it forget what was before. -/
structure Splits (limit : Nat) (buffer : LineBuffer) : Prop where
  lines : ∀ pieces : List Bytes,
    (∀ piece ∈ pieces, piece.length ≤ readChunk) →
    buffer.linesOf (feeding pieces)
      = (Bytes.completeLines pieces.flatten).map (List.take limit)
  buffered : ∀ pieces : List Bytes,
    (∀ piece ∈ pieces, piece.length ≤ readChunk) →
    (buffer.after (feeding pieces)).buffered
      = min (Bytes.unfinished pieces.flatten).length limit
  afresh : ∀ earlier later : List Op,
    (buffer.after (earlier ++ [.clear])).shown later = buffer.shown later

variable {buffer other : LineBuffer} {taken lines : List Bytes}
  {input : Bytes}

theorem after_append (earlier later : List Op) :
    ∀ buffer : LineBuffer,
      buffer.after (earlier ++ later) = (buffer.after earlier).after later := by
  induction earlier with
  | nil => exact fun _ => rfl
  | cons op earlier ih => exact fun buffer => ih _

theorem linesOf_cons (op : Op) (ops : List Op) :
    buffer.linesOf (op :: ops)
      = (buffer.perform op).1.map Secret.bytes
        ++ (buffer.perform op).2.linesOf ops := by
  rw [linesOf, shown, List.flatMap_cons, List.map_append, linesOf]

theorem perform_drain : buffer.perform .drain = buffer.drain := rfl

theorem feeding_cons (piece : Bytes) (pieces : List Bytes) :
    feeding (piece :: pieces) = .drain :: .push piece :: feeding pieces := rfl

-- =========================================================== the pieces

theorem drain_of_none (h : buffer.nextLine? = none) :
    buffer.drain = ([], buffer) := by
  unfold drain
  split
  case h_1 => rfl
  case h_2 line rest hsome => cases h.symm.trans hsome

theorem drain_of_some {line : Secret} {rest : LineBuffer}
    (h : buffer.nextLine? = some (line, rest)) :
    buffer.drain = (line :: rest.drain.1, rest.drain.2) := by
  rw [drain]
  split
  case h_1 hnone => cases h.symm.trans hnone
  case h_2 line' rest' hsome =>
    cases h.symm.trans hsome
    rfl

/-- Draining gives the lines that the buffer carries, and leaves none. -/
theorem Carries.drain (h : buffer.Carries taken lines input) :
    ∃ buffer', buffer.drain = (lines.map Secret.mk, buffer')
      ∧ buffer'.maxLine = buffer.maxLine
      ∧ buffer'.Carries (taken ++ lines) [] input := by
  induction lines generalizing buffer taken with
  | nil =>
      refine ⟨buffer, drain_of_none h.nextLine?_nil, rfl, ?_⟩
      rwa [List.append_nil]
  | cons line lines ih =>
      obtain ⟨rest, hnext, hmax, hcarries⟩ := h.nextLine?_cons
      obtain ⟨last, hdrain, hmax', hcarries'⟩ := ih hcarries
      rw [List.append_assoc] at hcarries'
      refine ⟨last, ?_, hmax'.trans hmax, hcarries'⟩
      rw [drain_of_some hnext, hdrain]
      rfl

/-- What comes out of draining, and what follows. -/
theorem linesOf_drain {buffer' : LineBuffer}
    (h : buffer.drain = (lines.map Secret.mk, buffer')) (ops : List Op) :
    buffer.linesOf (.drain :: ops) = lines ++ buffer'.linesOf ops := by
  rw [linesOf_cons, perform_drain, h, List.map_map]
  exact congrArg (· ++ _) (List.map_id lines)

theorem after_drain {drained : List Secret} {buffer' : LineBuffer}
    (h : buffer.drain = (drained, buffer')) (ops : List Op) :
    buffer.after (.drain :: ops) = buffer'.after ops := by
  rw [after, perform_drain, h]

/-- However the rest of the input comes, what comes out is the rest of the
lines, and what stays is the open line. -/
theorem Carries.feeding {pieces : List Bytes}
    (h : buffer.Carries taken lines input)
    (hpieces : ∀ piece ∈ pieces, piece.length ≤ readChunk) :
    taken ++ buffer.linesOf (feeding pieces)
        = Bytes.cutLines buffer.maxLine (input ++ pieces.flatten)
      ∧ (buffer.after (LineBuffer.feeding pieces)).buffered
        = min (Bytes.unfinished (input ++ pieces.flatten)).length
          buffer.maxLine := by
  induction pieces generalizing buffer taken lines input with
  | nil =>
      obtain ⟨last, hdrain, hmax, hcarries⟩ := h.drain
      rw [List.flatten_nil, List.append_nil]
      constructor
      · show taken ++ buffer.linesOf [.drain] = _
        rw [linesOf_drain hdrain]
        exact (congrArg (taken ++ ·) (List.append_nil _)).trans h.cut
      · show (buffer.after [.drain]).buffered = _
        rw [after_drain hdrain, after, buffered, hcarries.holds.length,
          stream_nil, List.nil_append, List.length_take, hmax, Nat.min_comm]
  | cons piece pieces ih =>
      obtain ⟨drained, hdrain, hmax, hcarries⟩ := h.drain
      -- without a complete line there is room for a whole read
      have hpiece := hpieces piece List.mem_cons_self
      have hlength := hcarries.length_le
      have hcapacity := hcarries.capacity
      obtain ⟨lines', hpushed⟩ := hcarries.push piece (by omega)
      obtain ⟨hlines, hbuffered⟩ := ih hpushed fun piece hmem =>
        hpieces piece (List.mem_cons_of_mem _ hmem)
      rw [(push_fixed piece drained).2, hmax, List.append_assoc,
        List.append_assoc] at hlines
      rw [(push_fixed piece drained).2, hmax, List.append_assoc] at hbuffered
      rw [feeding_cons, List.flatten_cons]
      constructor
      · rw [linesOf_drain hdrain, linesOf_cons]
        exact hlines
      · rw [after_drain hdrain]
        exact hbuffered

-- ====================================================== buffers alike

/-- Two buffers that nobody can tell apart. -/
structure Alike (buffer other : LineBuffer) : Prop where
  holds : ∃ bytes, buffer.Holds bytes ∧ other.Holds bytes
  lineStart : buffer.lineStart = other.lineStart
  discarding : buffer.discarding = other.discarding
  maxLine : buffer.maxLine = other.maxLine
  capacity : buffer.capacity = other.capacity

theorem Alike.length (h : Alike buffer other) :
    buffer.length = other.length := by
  obtain ⟨bytes, hbytes, hother⟩ := h.holds
  rw [hbytes.length, hother.length]

theorem Alike.store (h : Alike buffer other) (byte : UInt8) :
    Alike (buffer.store byte) (other.store byte) := by
  have hlength := h.length
  have hcapacity := h.capacity
  by_cases hroom : buffer.length < buffer.capacity
  · have hroom' : other.length < other.capacity := by omega
    obtain ⟨bytes, hbytes, hother⟩ := h.holds
    have hholds := hbytes.store hroom byte
    have hholds' := hother.store hroom' byte
    rw [store_eq hroom] at hholds ⊢
    rw [store_eq hroom'] at hholds' ⊢
    refine ⟨⟨_, hholds, hholds'⟩, ?_, h.discarding, h.maxLine, h.capacity⟩
    rw [hlength, h.lineStart]
  · have hfull : ¬ other.length < other.capacity := by omega
    unfold LineBuffer.store
    rw [if_neg hroom, if_neg hfull]
    exact h

theorem Alike.discard (h : Alike buffer other) (discarding : Bool) :
    Alike { buffer with discarding } { other with discarding } := by
  obtain ⟨bytes, hbytes, hother⟩ := h.holds
  exact ⟨⟨bytes, ⟨hbytes.cells, hbytes.length⟩, ⟨hother.cells, hother.length⟩⟩,
    h.lineStart, rfl, h.maxLine, h.capacity⟩

theorem Alike.pushByte (h : Alike buffer other) (byte : UInt8) :
    Alike (buffer.pushByte byte) (other.pushByte byte) := by
  have hfull : (byte ≠ Bytes.newline
        ∧ buffer.maxLine ≤ buffer.length - buffer.lineStart)
      ↔ (byte ≠ Bytes.newline
        ∧ other.maxLine ≤ other.length - other.lineStart) := by
    rw [h.maxLine, h.length, h.lineStart]
  unfold LineBuffer.pushByte
  rw [← h.discarding]
  split
  · split
    · exact (h.discard false).store byte
    · exact h
  · by_cases hlong : byte ≠ Bytes.newline
        ∧ buffer.maxLine ≤ buffer.length - buffer.lineStart
    · rw [if_pos hlong, if_pos (hfull.mp hlong)]
      exact h.discard true
    · rw [if_neg hlong, if_neg (mt hfull.mpr hlong)]
      exact h.store byte

theorem Alike.push (data : Bytes) :
    ∀ {buffer other : LineBuffer}, Alike buffer other →
      Alike (buffer.push data) (other.push data) := by
  induction data with
  | nil => exact id
  | cons byte data ih => exact fun h => ih (h.pushByte byte)

theorem newlineFrom?_congr {place count : Nat}
    (h : ∀ i, i < place + count → buffer.cell i = other.cell i) :
    buffer.newlineFrom? place count = other.newlineFrom? place count := by
  induction count generalizing place with
  | zero => rfl
  | succ count ih =>
      rw [newlineFrom?, newlineFrom?, h place (by omega),
        ih fun i hi => h i (by omega)]

theorem Alike.lineEnd? (h : Alike buffer other) :
    buffer.lineEnd? = other.lineEnd? := by
  obtain ⟨bytes, hbytes, hother⟩ := h.holds
  unfold LineBuffer.lineEnd?
  rw [← h.lineStart, ← h.length]
  refine newlineFrom?_congr fun i hi => ?_
  have hi' : i < bytes.length := by
    rw [← hbytes.length]
    omega
  rw [hbytes.cell_eq hi', hother.cell_eq hi']

/-- The same line comes out of both, or none. -/
theorem Alike.nextLine? (h : Alike buffer other) :
    (buffer.nextLine? = none ∧ other.nextLine? = none)
      ∨ ∃ line rest rest', buffer.nextLine? = some (line, rest)
        ∧ other.nextLine? = some (line, rest') ∧ Alike rest rest' := by
  have hend := h.lineEnd?
  have hstart := h.lineStart
  unfold LineBuffer.nextLine?
  rw [← hend]
  cases hstop : buffer.lineEnd? with
  | none => exact .inl ⟨rfl, rfl⟩
  | some stop =>
      obtain ⟨bytes, hbytes, hother⟩ := h.holds
      have hlt : stop < bytes.length := hbytes.length ▸ lineEnd?_lt hstop
      have hfront : (buffer.cells.extract 0 stop).data.toList
          = (other.cells.extract 0 stop).data.toList :=
        (hbytes.front (Nat.le_of_lt hlt)).trans
          (hother.front (Nat.le_of_lt hlt)).symm
      refine .inr ⟨_, _, _, rfl, by rw [hfront], ?_⟩
      exact ⟨⟨_, (hbytes.dropFirst hlt).1, (hother.dropFirst hlt).1⟩,
        congrArg (· - (stop + 1)) hstart, h.discarding, h.maxLine, h.capacity⟩

theorem Alike.drain (h : Alike buffer other) :
    buffer.drain.1 = other.drain.1
      ∧ Alike buffer.drain.2 other.drain.2 := by
  -- on the stored bytes, which get fewer with each line
  induction hlength : buffer.length using Nat.strongRecOn
    generalizing buffer other with
  | ind length ih =>
      obtain ⟨hnone, hnone'⟩ | ⟨line, rest, rest', hsome, hsome', hrest⟩ :=
        h.nextLine?
      · rw [drain_of_none hnone, drain_of_none hnone']
        exact ⟨rfl, h⟩
      · obtain ⟨hlines, hlast⟩ :=
          ih _ (hlength ▸ nextLine?_length_lt hsome) hrest rfl
        rw [drain_of_some hsome, drain_of_some hsome', hlines]
        exact ⟨rfl, hlast⟩

/-- Clearing leaves nothing, so all cleared buffers of one size are
alike. -/
theorem holds_clear (buffer : LineBuffer) : buffer.clear.Holds [] :=
  ⟨⟨buffer.cells.size, Array.toList_replicate⟩, rfl⟩

theorem alike_clear (hmax : buffer.maxLine = other.maxLine)
    (hcapacity : buffer.capacity = other.capacity) :
    Alike buffer.clear other.clear :=
  ⟨⟨[], holds_clear buffer, holds_clear other⟩, rfl, rfl, hmax, hcapacity⟩

/-- Every operation gives the same lines and leaves the two alike. -/
theorem Alike.perform (h : Alike buffer other) (op : Op) :
    (buffer.perform op).1 = (other.perform op).1
      ∧ Alike (buffer.perform op).2 (other.perform op).2 := by
  cases op with
  | push data => exact ⟨rfl, Alike.push data h⟩
  | next =>
      unfold LineBuffer.perform
      obtain ⟨hnone, hnone'⟩ | ⟨line, rest, rest', hsome, hsome', hrest⟩ :=
        h.nextLine?
      · rw [hnone, hnone']
        exact ⟨rfl, h⟩
      · rw [hsome, hsome']
        exact ⟨rfl, hrest⟩
  | drain => exact h.drain
  | clear => exact ⟨rfl, alike_clear h.maxLine h.capacity⟩

theorem Alike.shown_eq (ops : List Op) :
    ∀ {buffer other : LineBuffer}, Alike buffer other →
      buffer.shown ops = other.shown ops := by
  induction ops with
  | nil => exact fun _ => rfl
  | cons op ops ih =>
      intro buffer other h
      obtain ⟨hlines, hrest⟩ := h.perform op
      rw [LineBuffer.shown, LineBuffer.shown, hlines, ih hrest, buffered,
        buffered, hrest.length]

-- ============================================================ clearing

/-- Taking a line out changes nothing about the size of the buffer. -/
theorem nextLine?_fixed {line : Secret} {rest : LineBuffer}
    (h : buffer.nextLine? = some (line, rest)) :
    rest.capacity = buffer.capacity ∧ rest.maxLine = buffer.maxLine := by
  unfold nextLine? at h
  split at h
  · cases h
  · cases h
    exact ⟨rfl, rfl⟩

theorem drain_fixed (buffer : LineBuffer) :
    buffer.drain.2.capacity = buffer.capacity
      ∧ buffer.drain.2.maxLine = buffer.maxLine := by
  induction hlength : buffer.length using Nat.strongRecOn
    generalizing buffer with
  | ind length ih =>
      cases hnext : buffer.nextLine? with
      | none =>
          rw [drain_of_none hnext]
          exact ⟨rfl, rfl⟩
      | some next =>
          obtain ⟨hcapacity, hmax⟩ := nextLine?_fixed hnext
          obtain ⟨hcapacity', hmax'⟩ :=
            ih _ (hlength ▸ nextLine?_length_lt hnext) next.2 rfl
          rw [drain_of_some hnext]
          exact ⟨hcapacity'.trans hcapacity, hmax'.trans hmax⟩

theorem perform_fixed (buffer : LineBuffer) (op : Op) :
    (buffer.perform op).2.capacity = buffer.capacity
      ∧ (buffer.perform op).2.maxLine = buffer.maxLine := by
  cases op with
  | push data => exact push_fixed data buffer
  | next =>
      unfold perform
      cases hnext : buffer.nextLine? with
      | none => exact ⟨rfl, rfl⟩
      | some next => exact nextLine?_fixed hnext
  | drain => exact drain_fixed buffer
  | clear => exact ⟨rfl, rfl⟩

theorem after_fixed (ops : List Op) :
    ∀ buffer : LineBuffer, (buffer.after ops).capacity = buffer.capacity
      ∧ (buffer.after ops).maxLine = buffer.maxLine := by
  induction ops with
  | nil => exact fun _ => ⟨rfl, rfl⟩
  | cons op ops ih =>
      intro buffer
      obtain ⟨hcapacity, hmax⟩ := ih (buffer.perform op).2
      obtain ⟨hcapacity', hmax'⟩ := perform_fixed buffer op
      exact ⟨hcapacity.trans hcapacity', hmax.trans hmax'⟩

/-- A new buffer is a cleared one. -/
theorem clear_new (maxLineLen : Nat) :
    (new maxLineLen).clear = new maxLineLen := rfl

-- ============================================================ the result

/-- As long as memory can be asked for it, there is a buffer for every
length of line, and it splits as the plain definition does. -/
theorem new?_splits (maxLineLen : Nat)
    (hroom : capacityFor maxLineLen ≤ allocationLimit) :
    ∃ buffer, new? maxLineLen = some buffer
      ∧ buffer.Splits (max maxLineLen 1) := by
  refine ⟨new maxLineLen, if_pos hroom, ?_, ?_, ?_⟩
  · intro pieces hpieces
    exact ((carries_new maxLineLen).feeding hpieces).1
  · intro pieces hpieces
    exact ((carries_new maxLineLen).feeding hpieces).2
  · intro earlier later
    obtain ⟨hcapacity, hmax⟩ := after_fixed earlier (new maxLineLen)
    have halike := alike_clear hmax hcapacity
    rw [clear_new] at halike
    rw [after_append]
    exact halike.shown_eq later

/-- Two bytes more than the limit in one line, cut within it, an empty
line, a line with a carriage return, and a line that stays open. The same
buffer forgets an open line and a discarded rest when it is cleared. -/
theorem new?_splits_four :
    ∃ buffer, new? 4 = some buffer ∧ buffer.Splits 4
      ∧ buffer.linesOf
          (feeding [[97, 98, 99, 100, 101], [102, 10, 10, 97], [13, 10, 98]])
        = [[97, 98, 99, 100], [], [97, 13]]
      ∧ buffer.shown
          [.push [97, 98, 99, 100, 101], .clear, .push [102, 10], .next]
        = [([], 4), ([], 0), ([], 2), ([⟨[102]⟩], 0)] := by
  obtain ⟨buffer, hnew, hsplits⟩ := new?_splits 4 (by decide)
  have hlines := hsplits.lines
    [[97, 98, 99, 100, 101], [102, 10, 10, 97], [13, 10, 98]] (by decide)
  refine ⟨buffer, hnew, hsplits, hlines.trans (by decide), ?_⟩
  cases hnew
  decide

/-- A line length for which the buffer would take one byte more than
memory can be asked for. There is no buffer then. -/
theorem not_splits_of_huge :
    ¬ ∃ buffer, new? 9223372036854775552 = some buffer
      ∧ buffer.Splits (max 9223372036854775552 1) := by
  rintro ⟨buffer, hnew, -⟩
  have hnone : new? 9223372036854775552 = none := by decide
  rw [hnone] at hnew
  cases hnew

end ScreenUnlock.LineBuffer
