/-
The input buffer as a list of lines.

`Holds` forgets the memory: the cells hold the stored bytes from the
front and zeros behind them. `Carries` forgets the bytes: the buffer
holds some complete lines and an open one. What `push` and `nextLine?`
do is then said of lists, and nothing after this file looks at a cell.

The open line of the buffer is the open line of the input cut to its
limit, and the buffer drops bytes exactly while the input's open line is
longer than that. `Carries` has this as two equations, so pushing a byte
is a statement about the input that was pushed so far
(`Carries.push`).

# Room

A line and one read fit together. As long as no complete line is left
when a read is pushed, each of its bytes finds a cell
(`Carries.push_length_lt`); otherwise `store` would drop bytes without a word.
-/
import ScreenUnlock.Input.LineBuffer
import ScreenUnlock.Proofs.Lines

namespace ScreenUnlock.LineBuffer

open Bytes (newline)

-- ================================================================ memory

/-- The cells hold these bytes from the front and zeros behind them. -/
structure Holds (buffer : LineBuffer) (bytes : Bytes) : Prop where
  cells : ∃ zeros, buffer.cells.data.toList = bytes ++ List.replicate zeros 0
  length : buffer.length = bytes.length

/-- Overwriting replaces a segment and keeps what stands around it. -/
theorem toList_overwrite (cells bytes : ByteArray) (place : Nat) :
    (overwrite cells place bytes).data.toList
      = cells.data.toList.take place ++ bytes.data.toList
        ++ cells.data.toList.drop (place + bytes.data.toList.length) := by
  have hbytes : bytes.data.toList.take bytes.data.size = bytes.data.toList :=
    List.take_of_length_le (by simp)
  have hback : (cells.data.toList.drop (place + bytes.data.size)).take
      (cells.data.size - (place + bytes.data.size))
      = cells.data.toList.drop (place + bytes.data.size) :=
    List.take_of_length_le (by simp)
  unfold overwrite ByteArray.copySlice
  simp only [Array.toList_append, Array.toList_extract,
    List.extract_eq_take_drop, ← ByteArray.size_data, Nat.zero_add,
    Nat.sub_zero, List.drop_zero, Nat.min_self, Array.length_toList,
    hbytes, hback]

theorem toList_setCell {cells : ByteArray} {bytes : Bytes} {zeros : Nat}
    (hcells : cells.data.toList = bytes ++ List.replicate zeros 0)
    (byte : UInt8) :
    ∃ zeros', (setCell cells bytes.length byte).data.toList
      = bytes ++ [byte] ++ List.replicate zeros' 0 := by
  have hsize : cells.size = bytes.length + zeros := by
    have := congrArg List.length hcells
    simpa using this
  unfold setCell
  split
  case isTrue h =>
    obtain ⟨zeros', rfl⟩ : ∃ zeros', zeros = zeros' + 1 :=
      ⟨zeros - 1, by omega⟩
    refine ⟨zeros', ?_⟩
    rw [ByteArray.data_set, Array.toList_set, hcells, List.replicate_succ,
      List.set_append_right _ _ (Nat.le_refl _), Nat.sub_self,
      List.set_cons_zero, List.append_assoc]
    rfl
  case isFalse h =>
    obtain rfl : zeros = 0 := by omega
    refine ⟨0, ?_⟩
    rw [ByteArray.data_push, Array.toList_push, hcells]
    simp

/-- Taking bytes off the front moves the others there and leaves zeros
in their place. -/
theorem toList_shift {cells : ByteArray} {front rest : Bytes} {zeros : Nat}
    (hcells : cells.data.toList
      = front ++ rest ++ List.replicate zeros 0) :
    (shift cells (front ++ rest).length front.length).data.toList
      = rest ++ List.replicate (front.length + zeros) 0 := by
  have hrest : (cells.extract front.length (front ++ rest).length).data.toList
      = rest := by
    rw [ByteArray.data_extract, Array.toList_extract, hcells,
      List.extract_eq_take_drop, List.append_assoc, List.drop_left]
    simp
  have hsize : (cells.extract front.length (front ++ rest).length).size
      = rest.length := by
    have := congrArg List.length hrest
    rwa [Array.length_toList, ByteArray.size_data] at this
  have hmin : min front.length (front ++ rest).length = front.length := by
    simp
  -- the rest goes to the front, then zeros go behind it
  unfold shift zeroCells
  rw [toList_overwrite, toList_overwrite, hrest, hcells, hsize, hmin,
    Array.toList_replicate, List.length_replicate, List.take_zero,
    List.nil_append, List.take_left, ← List.drop_drop, Nat.zero_add,
    List.drop_left, List.drop_drop]
  have hback : rest.length + front.length = (front ++ rest).length := by
    rw [List.length_append, Nat.add_comm]
  rw [hback, List.drop_left, ← List.replicate_append_replicate,
    List.append_assoc]

theorem Holds.cell_eq {buffer : LineBuffer} {bytes : Bytes}
    (h : buffer.Holds bytes) {place : Nat} (hplace : place < bytes.length) :
    buffer.cell place = bytes[place] := by
  obtain ⟨zeros, hcells⟩ := h.cells
  have hsize : place < buffer.cells.size := by
    have := congrArg List.length hcells
    rw [Array.length_toList, ByteArray.size_data, List.length_append] at this
    omega
  unfold cell
  rw [dif_pos hsize]
  have hget : buffer.cells.data.toList[place]? = bytes[place]? := by
    rw [hcells, List.getElem?_append_left hplace]
  rw [List.getElem?_eq_getElem hplace, Array.getElem?_toList,
    Array.getElem?_eq_getElem hsize, Option.some.injEq] at hget
  exact hget

theorem Holds.store {buffer : LineBuffer} {bytes : Bytes}
    (h : buffer.Holds bytes) (hroom : buffer.length < buffer.capacity)
    (byte : UInt8) : (buffer.store byte).Holds (bytes ++ [byte]) := by
  obtain ⟨zeros, hcells⟩ := h.cells
  unfold LineBuffer.store
  rw [if_pos hroom]
  constructor
  · rw [h.length]
    exact toList_setCell hcells byte
  · rw [List.length_append, List.length_singleton, h.length]

/-- What stands in the cells before `stop`. -/
theorem Holds.front {buffer : LineBuffer} {bytes : Bytes}
    (h : buffer.Holds bytes) {stop : Nat} (hstop : stop ≤ bytes.length) :
    (buffer.cells.extract 0 stop).data.toList = bytes.take stop := by
  obtain ⟨zeros, hcells⟩ := h.cells
  rw [ByteArray.data_extract, Array.toList_extract, hcells,
    List.extract_eq_take_drop, List.drop_zero, Nat.sub_zero,
    List.take_append_of_le_length hstop]

/-- The buffer without its first `count` bytes. -/
def dropFirst (buffer : LineBuffer) (count : Nat) : LineBuffer :=
  { buffer with
    cells := shift buffer.cells buffer.length count
    length := buffer.length - count
    lineStart := buffer.lineStart - count }

section DropFirst

-- By `simp`: to compare the two buffers as a whole takes long.
variable (buffer : LineBuffer) (count : Nat)

@[simp] theorem capacity_dropFirst :
    (buffer.dropFirst count).capacity = buffer.capacity := by
  simp only [dropFirst]

@[simp] theorem length_dropFirst :
    (buffer.dropFirst count).length = buffer.length - count := by
  simp only [dropFirst]

@[simp] theorem lineStart_dropFirst :
    (buffer.dropFirst count).lineStart = buffer.lineStart - count := by
  simp only [dropFirst]

@[simp] theorem maxLine_dropFirst :
    (buffer.dropFirst count).maxLine = buffer.maxLine := by
  simp only [dropFirst]

@[simp] theorem discarding_dropFirst :
    (buffer.dropFirst count).discarding = buffer.discarding := by
  simp only [dropFirst]

end DropFirst

/-- What is left then, in as many cells as before. -/
theorem Holds.dropFirst {buffer : LineBuffer} {bytes : Bytes}
    (h : buffer.Holds bytes) {count : Nat} (hcount : count ≤ bytes.length) :
    (buffer.dropFirst count).Holds (bytes.drop count)
      ∧ (buffer.dropFirst count).cells.size = buffer.cells.size := by
  obtain ⟨zeros, hcells⟩ := h.cells
  rw [← List.take_append_drop count bytes] at hcells
  have hshift := toList_shift hcells
  rw [List.take_append_drop, List.length_take_of_le hcount, ← h.length] at hshift
  refine ⟨⟨⟨_, hshift⟩, ?_⟩, ?_⟩
  · rw [length_dropFirst, h.length, List.length_drop]
  · have hbefore := congrArg List.length hcells
    have hafter := congrArg List.length hshift
    rw [Array.length_toList, ByteArray.size_data] at hbefore hafter
    refine hafter.trans (Eq.trans ?_ hbefore.symm)
    simp only [List.length_append, List.length_drop, List.length_take,
      List.length_replicate]
    omega

-- ============================================================= the lines

/-- The bytes of complete lines, each with its newline. -/
def stream (lines : List Bytes) : Bytes :=
  lines.flatMap (· ++ [newline])

@[simp] theorem stream_nil : stream [] = [] := rfl

@[simp] theorem stream_cons (line : Bytes) (lines : List Bytes) :
    stream (line :: lines) = line ++ newline :: stream lines := by
  simp [stream]

@[simp] theorem stream_append (lines later : List Bytes) :
    stream (lines ++ later) = stream lines ++ stream later := by
  simp [stream]

/-- Of the lines of `input`, cut to what the buffer keeps of a line,
`taken` are gone and `lines` are left; behind them stands the open line,
cut in the same way. -/
structure Carries (buffer : LineBuffer) (taken lines : List Bytes)
    (input : Bytes) : Prop where
  cut : taken ++ lines = Bytes.cutLines buffer.maxLine input
  holds : buffer.Holds
    (stream lines ++ (Bytes.unfinished input).take buffer.maxLine)
  lineStart : buffer.lineStart = (stream lines).length
  discarding : buffer.discarding
    = decide (buffer.maxLine < (Bytes.unfinished input).length)
  capacity : buffer.capacity = buffer.maxLine + readChunk

theorem carries_new (maxLineLen : Nat) : (new maxLineLen).Carries [] [] [] where
  cut := rfl
  holds := ⟨⟨0, by simp [new]⟩, by simp [new]⟩
  lineStart := rfl
  discarding := rfl
  capacity := rfl

section Carries

variable {buffer : LineBuffer} {taken lines : List Bytes} {input : Bytes}

/-- The open line begins where the buffer says. -/
theorem Carries.length_sub (h : buffer.Carries taken lines input) :
    buffer.length - buffer.lineStart
      = ((Bytes.unfinished input).take buffer.maxLine).length := by
  rw [h.holds.length, h.lineStart, List.length_append, Nat.add_sub_cancel_left]

/-- A buffer without complete lines holds at most one. -/
theorem Carries.length_le (h : buffer.Carries taken [] input) :
    buffer.length ≤ buffer.maxLine := by
  rw [h.holds.length, stream_nil, List.nil_append]
  exact List.length_take_le _ _

-- ============================================================== pushing

theorem store_eq (hroom : buffer.length < buffer.capacity) (byte : UInt8) :
    buffer.store byte = { buffer with
      cells := setCell buffer.cells buffer.length byte
      length := buffer.length + 1
      lineStart :=
        if byte = newline then buffer.length + 1 else buffer.lineStart } :=
  if_pos hroom

/-- A newline makes the open line a complete one, as it is kept. -/
theorem Carries.pushByte_newline (h : buffer.Carries taken lines input)
    (hroom : buffer.length < buffer.capacity) :
    (buffer.pushByte newline).Carries taken
      (lines ++ [(Bytes.unfinished input).take buffer.maxLine])
      (input ++ [newline]) := by
  have hpush : buffer.pushByte newline
      = { buffer with discarding := false }.store newline := by
    -- a newline ends the dropping, and nothing else sees the flag
    unfold pushByte
    cases hd : buffer.discarding with
    | true => rfl
    | false =>
        rw [if_neg (by simp), if_neg (by simp), ← hd]
  have hheld := @Holds.store { buffer with discarding := false } _
    ⟨h.holds.cells, h.holds.length⟩ hroom newline
  rw [hpush, @store_eq { buffer with discarding := false } hroom] at *
  refine ⟨?_, ?_, ?_, ?_, h.capacity⟩
  · simp only [Bytes.cutLines, Bytes.completeLines_snoc_newline,
      List.map_append, List.map_singleton, ← List.append_assoc]
    rw [h.cut]
    rfl
  · simpa [Bytes.unfinished_snoc_newline] using hheld
  · have hlen := h.holds.length
    rw [if_pos rfl, stream_append, List.length_append, hlen]
    simp
    omega
  · simp [Bytes.unfinished_snoc_newline]

/-- Any other byte goes to the open line, or is dropped there. -/
theorem Carries.pushByte_other (h : buffer.Carries taken lines input)
    (hroom : buffer.length < buffer.capacity) {byte : UInt8}
    (hne : byte ≠ newline) :
    (buffer.pushByte byte).Carries taken lines (input ++ [byte]) := by
  have hcut : taken ++ lines
      = Bytes.cutLines buffer.maxLine (input ++ [byte]) := by
    rw [Bytes.cutLines, Bytes.completeLines_snoc_other hne]
    exact h.cut
  by_cases hlong : buffer.maxLine < (Bytes.unfinished input).length + 1
  · -- the open line is at its limit already
    have hkept : (Bytes.unfinished (input ++ [byte])).take buffer.maxLine
        = (Bytes.unfinished input).take buffer.maxLine := by
      rw [Bytes.unfinished_snoc_other hne,
        List.take_append_of_le_length (by omega)]
    have hpush : buffer.pushByte byte = { buffer with discarding := true } := by
      unfold pushByte
      cases hd : buffer.discarding with
      | true => rw [if_pos rfl, if_neg hne, ← hd]
      | false =>
          have hsub := h.length_sub
          rw [List.length_take] at hsub
          rw [if_neg (by simp), if_pos ⟨hne, by omega⟩]
    rw [hpush]
    refine ⟨hcut, ?_, h.lineStart, ?_, h.capacity⟩
    · rw [hkept]
      exact ⟨h.holds.cells, h.holds.length⟩
    · rw [Bytes.unfinished_snoc_other hne]
      simpa using hlong
  · -- the open line is still shorter
    have hkept : (Bytes.unfinished (input ++ [byte])).take buffer.maxLine
        = (Bytes.unfinished input).take buffer.maxLine ++ [byte] := by
      rw [Bytes.unfinished_snoc_other hne,
        List.take_of_length_le (by simp; omega),
        List.take_of_length_le (by omega)]
    have hpush : buffer.pushByte byte = buffer.store byte := by
      have hsub := h.length_sub
      rw [List.length_take] at hsub
      unfold pushByte
      rw [h.discarding, if_neg (by simp; omega), if_neg (by omega)]
    have hheld := h.holds.store hroom byte
    rw [hpush, store_eq hroom] at *
    refine ⟨hcut, ?_, ?_, ?_, h.capacity⟩
    · rw [hkept, ← List.append_assoc]
      exact hheld
    · rw [if_neg hne]
      exact h.lineStart
    · rw [h.discarding, Bytes.unfinished_snoc_other hne]
      simp
      omega

/-- One byte takes at most one cell. -/
theorem length_pushByte_le (buffer : LineBuffer) (byte : UInt8) :
    (buffer.pushByte byte).length ≤ buffer.length + 1 := by
  unfold pushByte store
  split
  · split
    · split
      · exact Nat.le_refl _
      · exact Nat.le_succ _
    · exact Nat.le_succ _
  · split
    · exact Nat.le_succ _
    · split
      · exact Nat.le_refl _
      · exact Nat.le_succ _

/-- A byte changes nothing about the size of the buffer. -/
theorem pushByte_fixed (buffer : LineBuffer) (byte : UInt8) :
    (buffer.pushByte byte).capacity = buffer.capacity
      ∧ (buffer.pushByte byte).maxLine = buffer.maxLine := by
  unfold pushByte store
  split
  · split
    · split <;> exact ⟨rfl, rfl⟩
    · exact ⟨rfl, rfl⟩
  · split
    · exact ⟨rfl, rfl⟩
    · split <;> exact ⟨rfl, rfl⟩

theorem length_push_le (data : Bytes) :
    ∀ buffer : LineBuffer,
      (buffer.push data).length ≤ buffer.length + data.length := by
  induction data with
  | nil => intro buffer; exact Nat.le_refl _
  | cons byte data ih =>
      intro buffer
      have hbyte := length_pushByte_le buffer byte
      have hdata := ih (buffer.pushByte byte)
      rw [List.length_cons]
      exact Nat.le_trans hdata (by omega)

theorem push_fixed (data : Bytes) :
    ∀ buffer : LineBuffer, (buffer.push data).capacity = buffer.capacity
      ∧ (buffer.push data).maxLine = buffer.maxLine := by
  induction data with
  | nil => intro buffer; exact ⟨rfl, rfl⟩
  | cons byte data ih =>
      intro buffer
      obtain ⟨hcapacity, hmaxLine⟩ := ih (buffer.pushByte byte)
      obtain ⟨hcapacity', hmaxLine'⟩ := pushByte_fixed buffer byte
      exact ⟨hcapacity.trans hcapacity', hmaxLine.trans hmaxLine'⟩

/-- What fits is kept: after a push the buffer carries the lines of the
longer input. -/
theorem Carries.push (h : buffer.Carries taken lines input) (data : Bytes)
    (hroom : buffer.length + data.length ≤ buffer.capacity) :
    ∃ lines', (buffer.push data).Carries taken lines' (input ++ data) := by
  -- byte by byte; each takes at most one cell, so the rest still fits
  induction data generalizing buffer lines input with
  | nil => exact ⟨lines, by simpa [LineBuffer.push] using h⟩
  | cons byte data ih =>
      rw [List.length_cons] at hroom
      have hbyte : ∃ lines', (buffer.pushByte byte).Carries taken lines'
          (input ++ [byte]) := by
        by_cases hb : byte = newline
        · rw [hb]
          exact ⟨_, h.pushByte_newline (by omega)⟩
        · exact ⟨_, h.pushByte_other (by omega) hb⟩
      obtain ⟨lines', hnext⟩ := hbyte
      have hle := length_pushByte_le buffer byte
      obtain ⟨lines'', hlast⟩ := ih hnext
        (by rw [(pushByte_fixed buffer byte).1]; omega)
      rw [List.append_assoc] at hlast
      exact ⟨lines'', hlast⟩

/-- While no complete line is left, one read finds a cell for each of
its bytes. -/
theorem Carries.push_length_lt (h : buffer.Carries taken [] input)
    {front rest : Bytes} {byte : UInt8}
    (hread : (front ++ byte :: rest).length ≤ readChunk) :
    (buffer.push front).length < (buffer.push front).capacity := by
  have hpush := length_push_le front buffer
  have hline := h.length_le
  rw [List.length_append, List.length_cons] at hread
  rw [(push_fixed front buffer).1, h.capacity]
  omega

-- ========================================================= taking a line

theorem newlineFrom?_eq_none {place count : Nat}
    (hno : ∀ i, place ≤ i → i < place + count → buffer.cell i ≠ newline) :
    buffer.newlineFrom? place count = none := by
  induction count generalizing place with
  | zero => rfl
  | succ count ih =>
      unfold newlineFrom?
      rw [if_neg (hno place (Nat.le_refl _) (by omega))]
      exact ih fun i hi hlt => hno i (by omega) (by omega)

theorem newlineFrom?_eq_some {place stop count : Nat} (hle : place ≤ stop)
    (hcount : stop < place + count)
    (hno : ∀ i, place ≤ i → i < stop → buffer.cell i ≠ newline)
    (hstop : buffer.cell stop = newline) :
    buffer.newlineFrom? place count = some stop := by
  induction count generalizing place with
  | zero => omega
  | succ count ih =>
      unfold newlineFrom?
      by_cases heq : place = stop
      · rw [heq, if_pos hstop]
      · rw [if_neg (hno place (Nat.le_refl _) (by omega))]
        exact ih (by omega) (by omega) fun i hi hlt => hno i (by omega) hlt

theorem Carries.newline_not_mem (h : buffer.Carries taken lines input)
    {line : Bytes} (hline : line ∈ lines) : newline ∉ line :=
  Bytes.newline_not_mem_cutLines (h.cut ▸ List.mem_append_right _ hline)

theorem Carries.nextLine?_nil (h : buffer.Carries taken [] input) :
    buffer.nextLine? = none := by
  have hend : buffer.lineEnd? = none := by
    unfold lineEnd?
    rw [h.lineStart]
    exact newlineFrom?_eq_none fun i _ hlt => by simp at hlt
  unfold nextLine?
  rw [hend]

/-- A cleared buffer has no line. -/
theorem nextLine?_clear (buffer : LineBuffer) :
    buffer.clear.nextLine? = none := rfl

/-- A line whose newline stands before the open line comes out as it is. -/
theorem Holds.nextLine?_cons {line rest : Bytes}
    (h : buffer.Holds (line ++ newline :: rest)) (hline : newline ∉ line)
    (hstart : line.length < buffer.lineStart) :
    buffer.nextLine? = some (⟨line⟩, buffer.dropFirst (line.length + 1)) := by
  have hlen := h.length
  rw [List.length_append, List.length_cons] at hlen
  -- the line holds no newline, so the first one is its end
  have hend : buffer.lineEnd? = some line.length := by
    refine newlineFrom?_eq_some (Nat.zero_le _) (by omega) ?_ ?_
    · intro i _ hlt
      rw [h.cell_eq (by simp; omega), List.getElem_append_left hlt]
      exact fun heq => hline (heq ▸ List.getElem_mem hlt)
    · rw [h.cell_eq (by simp), List.getElem_append_right (Nat.le_refl _)]
      simp
  have hin : line.length ≤ (line ++ newline :: rest).length := by simp
  have hfront := h.front hin
  rw [List.take_left] at hfront
  unfold nextLine?
  rw [hend]
  simp only [hfront]
  rfl

/-- The first line comes out as it is, and the buffer carries the
others. -/
theorem Carries.nextLine?_cons {line : Bytes}
    (h : buffer.Carries taken (line :: lines) input) :
    ∃ buffer', buffer.nextLine? = some (⟨line⟩, buffer')
      ∧ buffer'.maxLine = buffer.maxLine
      ∧ buffer'.Carries (taken ++ [line]) lines input := by
  have hholds := h.holds
  rw [stream_cons, List.append_assoc, List.cons_append] at hholds
  have hstart := h.lineStart
  rw [stream_cons, List.length_append, List.length_cons] at hstart
  have hnext := hholds.nextLine?_cons (h.newline_not_mem List.mem_cons_self)
    (by omega)
  have hin : line.length + 1 ≤ (line ++ newline :: (stream lines
      ++ (Bytes.unfinished input).take buffer.maxLine)).length := by simp
  have hrest := (hholds.dropFirst hin).1
  rw [← List.drop_drop, List.drop_left, List.drop_one, List.tail_cons] at hrest
  refine ⟨_, hnext, maxLine_dropFirst _ _, ?_, ?_, ?_, ?_, ?_⟩
  · rw [maxLine_dropFirst, List.append_assoc]
    exact h.cut
  · rw [maxLine_dropFirst]
    exact hrest
  · rw [lineStart_dropFirst]
    omega
  · rw [discarding_dropFirst, maxLine_dropFirst]
    exact h.discarding
  · rw [capacity_dropFirst, maxLine_dropFirst]
    exact h.capacity

end Carries

end ScreenUnlock.LineBuffer
