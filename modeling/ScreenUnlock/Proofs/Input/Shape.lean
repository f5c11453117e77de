/-
The shape of a buffer, whatever was done with it.

`Carries` says what a buffer holds as long as its lines are taken out
before more is pushed. Here nothing is asked of the one who uses it: more
may come than there are cells for, and bytes are lost then, newlines among
them. What is left of the input is not its lines any more. Still, the
bytes that are there have a shape (`Shape`): each line of them is as long
as a line may be at most, the open one begins where the buffer says, and
the rest of it is dropped only if it is that long.

# What is stored

A byte is stored if there is a cell for it and it is a newline or finds its
line shorter than a line may be (`Stores`). Whether the buffer is dropping
the rest of a line makes no difference to that, because then the line is
as long as it may be. So what is stored is told by the bytes in the buffer
alone.

Every operation keeps the shape, and what it takes out and leaves is what
was there and what it stored (`Flow`).
-/
import ScreenUnlock.Proofs.Input.Splitting

namespace ScreenUnlock.LineBuffer

open Bytes (newline)

variable {buffer : LineBuffer} {bytes : Bytes}

-- ================================================================ memory

/-- What the cells hold, all of them, whether they were ever in use or
not. -/
def memory (buffer : LineBuffer) : Bytes :=
  (List.range buffer.capacity).map buffer.cell

/-- The bytes are held by cells that the buffer has. -/
structure Fits (buffer : LineBuffer) (bytes : Bytes) : Prop
    extends buffer.Holds bytes where
  inside : buffer.cells.size ≤ buffer.capacity

theorem Holds.length_le_size (h : buffer.Holds bytes) :
    bytes.length ≤ buffer.cells.size := by
  obtain ⟨zeros, hcells⟩ := h.cells
  have hsize := congrArg List.length hcells
  rw [Array.length_toList, ByteArray.size_data, List.length_append] at hsize
  omega

/-- The cells behind the stored bytes hold zero. -/
theorem Holds.cell_eq_zero (h : buffer.Holds bytes) {place : Nat}
    (hplace : bytes.length ≤ place) : buffer.cell place = 0 := by
  obtain ⟨zeros, hcells⟩ := h.cells
  unfold cell
  split
  case isFalse => rfl
  case isTrue hsize =>
    have hget : buffer.cells.data.toList[place]? = some buffer.cells[place] := by
      rw [Array.getElem?_toList, Array.getElem?_eq_getElem hsize]
      rfl
    rw [hcells, List.getElem?_append_right hplace] at hget
    exact (List.mem_replicate.mp (List.mem_of_getElem? hget)).2

theorem Holds.stored_eq (h : buffer.Holds bytes) : buffer.stored = bytes := by
  unfold stored
  rw [h.front (Nat.le_of_eq h.length), h.length, List.take_length]

theorem Fits.length_le (h : buffer.Fits bytes) :
    bytes.length ≤ buffer.capacity :=
  Nat.le_trans h.length_le_size h.inside

@[simp] theorem length_memory (buffer : LineBuffer) :
    buffer.memory.length = buffer.capacity := by
  simp [memory]

theorem getElem_memory {place : Nat} (h : place < buffer.memory.length) :
    buffer.memory[place] = buffer.cell place := by
  simp [memory]

/-- The stored bytes stand at the front, and zeros fill the rest. -/
theorem Fits.memory_eq (h : buffer.Fits bytes) :
    buffer.memory = bytes ++ Bytes.zeros (buffer.capacity - bytes.length) := by
  have hle := h.length_le
  refine List.ext_getElem ?_ fun place hplace _ => ?_
  · simp [Bytes.zeros, hle]
  · rw [getElem_memory]
    by_cases hin : place < bytes.length
    · rw [h.cell_eq hin, List.getElem_append_left hin]
    · rw [h.cell_eq_zero (Nat.le_of_not_lt hin),
        List.getElem_append_right (Nat.le_of_not_lt hin)]
      simp [Bytes.zeros]

theorem size_setCell_le {cells : ByteArray} {place capacity : Nat}
    {byte : UInt8} (hcells : cells.size ≤ capacity) (hplace : place < capacity) :
    (setCell cells place byte).size ≤ capacity := by
  unfold setCell
  split
  case isTrue hin =>
    have hsize : (cells.set place byte hin).size = cells.size :=
      Array.size_set hin
    exact hsize ▸ hcells
  case isFalse => rw [ByteArray.size_push]; omega

theorem Fits.store (h : buffer.Fits bytes)
    (hroom : buffer.length < buffer.capacity) (byte : UInt8) :
    (buffer.store byte).Fits (bytes ++ [byte]) := by
  refine ⟨h.toHolds.store hroom byte, ?_⟩
  rw [store_eq hroom]
  exact size_setCell_le h.inside hroom

theorem Fits.dropFirst (h : buffer.Fits bytes) {count : Nat}
    (hcount : count ≤ bytes.length) :
    (buffer.dropFirst count).Fits (bytes.drop count) := by
  obtain ⟨hholds, hsize⟩ := h.toHolds.dropFirst hcount
  refine ⟨hholds, ?_⟩
  rw [hsize, capacity_dropFirst]
  exact h.inside

theorem Fits.discard (h : buffer.Fits bytes) (discarding : Bool) :
    { buffer with discarding }.Fits bytes :=
  ⟨⟨h.cells, h.length⟩, h.inside⟩

-- ================================================================= shape

/-- The stored bytes, and how the fields of the buffer go with them. -/
structure Shape (buffer : LineBuffer) (bytes : Bytes) : Prop
    extends buffer.Fits bytes where
  lineStart : buffer.lineStart + (Bytes.unfinished bytes).length = bytes.length
  segments : ∀ segment ∈ bytes.splitOn newline,
    segment.length ≤ buffer.maxLine
  discarding : buffer.discarding = true →
    (Bytes.unfinished bytes).length = buffer.maxLine

theorem shape_new (maxLineLen : Nat) : (new maxLineLen).Shape [] where
  cells := ⟨0, rfl⟩
  length := rfl
  inside := Nat.zero_le _
  lineStart := rfl
  segments := by simp
  discarding := by simp [new]

theorem shape_clear (h : buffer.Shape bytes) : buffer.clear.Shape [] where
  toHolds := holds_clear buffer
  inside := by
    have hsize : (zeroCells buffer.cells.size).size = buffer.cells.size :=
      Array.size_replicate
    exact Nat.le_trans (Nat.le_of_eq hsize) h.inside
  lineStart := rfl
  segments := by simp
  discarding := by simp [clear]

theorem Shape.length_sub (h : buffer.Shape bytes) :
    buffer.length - buffer.lineStart = (Bytes.unfinished bytes).length := by
  have := h.lineStart
  have := h.length
  omega

theorem Shape.unfinished_le (h : buffer.Shape bytes) :
    (Bytes.unfinished bytes).length ≤ buffer.maxLine :=
  h.segments _ (by
    rw [Bytes.splitOn_newline]
    exact List.mem_append_right _ (.head _))

/-- Whether the rest of the open line is dropped concerns the bytes only in
that it must be long enough then. -/
theorem Shape.discard (h : buffer.Shape bytes) {discarding : Bool}
    (hlong : discarding = true →
      (Bytes.unfinished bytes).length = buffer.maxLine) :
    { buffer with discarding }.Shape bytes :=
  ⟨h.toFits.discard discarding, h.lineStart, h.segments, hlong⟩

-- =============================================================== pushing

/-- Whether the buffer stores the byte: there is a cell for it, and it is a
newline or belongs to what is kept of its line. -/
def Stores (buffer : LineBuffer) (byte : UInt8) : Prop :=
  buffer.length < buffer.capacity
    ∧ (byte = newline ∨ buffer.length - buffer.lineStart < buffer.maxLine)

instance (buffer : LineBuffer) (byte : UInt8) :
    Decidable (buffer.Stores byte) :=
  inferInstanceAs (Decidable (_ ∧ _))

/-- Of some bytes that are pushed those that are stored, in order. -/
def keptOf (buffer : LineBuffer) : Bytes → Bytes
  | [] => []
  | byte :: data =>
    if buffer.Stores byte then byte :: (buffer.pushByte byte).keptOf data
    else (buffer.pushByte byte).keptOf data

/-- A newline ends the open line; any other byte makes it longer. -/
theorem Shape.store (h : buffer.Shape bytes) {byte : UInt8}
    (hstores : buffer.Stores byte) (hdiscarding : buffer.discarding = false) :
    (buffer.store byte).Shape (bytes ++ [byte]) := by
  obtain ⟨hroom, hopen⟩ := hstores
  rw [h.length_sub] at hopen
  have hstart := h.lineStart
  have hlength := h.length
  have hfits := h.toFits.store hroom byte
  rw [store_eq hroom] at hfits ⊢
  refine ⟨hfits, ?_, ?_, fun htrue => ?_⟩
  · by_cases hbyte : byte = newline
    · simp only [if_pos hbyte]
      rw [hbyte, Bytes.unfinished_snoc_newline, hlength, List.length_append]
      rfl
    · simp only [if_neg hbyte]
      rw [Bytes.unfinished_snoc_other hbyte, List.length_append,
        List.length_append, ← Nat.add_assoc, hstart]
  · intro segment hsegment
    by_cases hbyte : byte = newline
    · rw [hbyte, Bytes.splitOn_append_newline, List.mem_append] at hsegment
      rcases hsegment with hsegment | hsegment
      · exact h.segments segment hsegment
      · rw [List.splitOn_nil, List.mem_singleton] at hsegment
        rw [hsegment]
        exact Nat.zero_le _
    · rw [Bytes.splitOn_snoc_other hbyte, List.mem_append,
        List.mem_singleton] at hsegment
      rcases hsegment with hsegment | rfl
      · exact h.segments segment (by
          rw [Bytes.splitOn_newline]
          exact List.mem_append_left _ hsegment)
      · rw [List.length_append]
        exact hopen.resolve_left hbyte
  · exact absurd (hdiscarding.symm.trans htrue) Bool.false_ne_true

/-- What is stored is stored in the buffer as it is once the dropping is
over. -/
theorem Shape.pushByte_of_stores (h : buffer.Shape bytes) {byte : UInt8}
    (hstores : buffer.Stores byte) :
    buffer.pushByte byte = { buffer with discarding := false }.store byte := by
  have hopen := hstores.2
  rw [h.length_sub] at hopen
  unfold pushByte
  cases hd : buffer.discarding with
  | true =>
      -- the open line is at its limit, so the byte ends it
      have hbyte : byte = newline :=
        hopen.resolve_right (by rw [h.discarding hd]; exact Nat.lt_irrefl _)
      rw [if_pos rfl, if_pos hbyte]
  | false =>
      have hshort : ¬ (byte ≠ newline
          ∧ buffer.maxLine ≤ buffer.length - buffer.lineStart) := by
        rw [h.length_sub]
        rintro ⟨hne, hlong⟩
        exact absurd (hopen.resolve_left hne) (Nat.not_lt.mpr hlong)
      rw [if_neg Bool.false_ne_true, if_neg hshort, ← hd]

/-- What is not stored changes at most whether the rest of the line is
dropped. -/
theorem Shape.pushByte_of_not_stores (h : buffer.Shape bytes) {byte : UInt8}
    (hnot : ¬ buffer.Stores byte) :
    ∃ discarding, buffer.pushByte byte = { buffer with discarding }
      ∧ (discarding = true →
        (Bytes.unfinished bytes).length = buffer.maxLine) := by
  have hle := h.unfinished_le
  unfold pushByte
  cases hd : buffer.discarding with
  | true =>
      rw [if_pos rfl]
      by_cases hbyte : byte = newline
      · have hfull : ¬ buffer.length < buffer.capacity :=
          fun hroom => hnot ⟨hroom, .inl hbyte⟩
        refine ⟨false, ?_, fun hfalse => absurd hfalse Bool.false_ne_true⟩
        rw [if_pos hbyte, LineBuffer.store, if_neg hfull]
      · refine ⟨true, ?_, fun _ => h.discarding hd⟩
        rw [if_neg hbyte, ← hd]
  | false =>
      rw [if_neg Bool.false_ne_true]
      by_cases hlong : byte ≠ newline
          ∧ buffer.maxLine ≤ buffer.length - buffer.lineStart
      · refine ⟨true, if_pos hlong, fun _ => Nat.le_antisymm hle ?_⟩
        rw [← h.length_sub]
        exact hlong.2
      · have hfull : ¬ buffer.length < buffer.capacity := by
          refine fun hroom => hnot ⟨hroom, ?_⟩
          by_cases hbyte : byte = newline
          · exact .inl hbyte
          · exact .inr (Nat.lt_of_not_le fun hle => hlong ⟨hbyte, hle⟩)
        refine ⟨false, ?_, fun hfalse => absurd hfalse Bool.false_ne_true⟩
        rw [if_neg hlong, LineBuffer.store, if_neg hfull, ← hd]

theorem Shape.pushByte (h : buffer.Shape bytes) (byte : UInt8) :
    (buffer.pushByte byte).Shape
      (if buffer.Stores byte then bytes ++ [byte] else bytes) := by
  by_cases hstores : buffer.Stores byte
  · rw [if_pos hstores, h.pushByte_of_stores hstores]
    have hshape : { buffer with discarding := false }.Shape bytes :=
      h.discard fun hfalse => absurd hfalse Bool.false_ne_true
    exact hshape.store hstores rfl
  · obtain ⟨discarding, hpush, hlong⟩ := h.pushByte_of_not_stores hstores
    rw [if_neg hstores, hpush]
    exact h.discard hlong

theorem Shape.push (data : Bytes) :
    ∀ {buffer : LineBuffer} {bytes : Bytes}, buffer.Shape bytes →
      (buffer.push data).Shape (bytes ++ buffer.keptOf data) := by
  induction data with
  | nil =>
      intro buffer bytes h
      rw [keptOf, List.append_nil]
      exact h
  | cons byte data ih =>
      intro buffer bytes h
      have hrest := ih (h.pushByte byte)
      rw [keptOf]
      by_cases hstores : buffer.Stores byte
      · rw [if_pos hstores] at hrest ⊢
        rwa [List.append_assoc, List.singleton_append] at hrest
      · rw [if_neg hstores] at hrest ⊢
        exact hrest

-- ========================================================= taking a line

theorem Shape.nextLine?_eq_none (h : buffer.Shape bytes)
    (hno : newline ∉ bytes) : buffer.nextLine? = none := by
  have hstart := h.lineStart
  rcases Bytes.unfinished_cases bytes with ⟨-, hopen⟩ | ⟨front, hfront⟩
  · rw [hopen] at hstart
    have hzero : buffer.lineStart = 0 := by omega
    unfold nextLine? lineEnd?
    rw [hzero, Nat.zero_min]
    rfl
  · rw [hfront] at hno
    exact absurd (List.mem_append_right _ (.head _)) hno

theorem Shape.lt_lineStart {line rest : Bytes}
    (h : buffer.Shape (line ++ newline :: rest)) :
    line.length < buffer.lineStart := by
  have hstart := h.lineStart
  have hle := Bytes.length_unfinished_le rest
  rw [Bytes.unfinished_append_newline, List.length_append,
    List.length_cons] at hstart
  omega

theorem Shape.nextLine?_cons {line rest : Bytes}
    (h : buffer.Shape (line ++ newline :: rest)) (hline : newline ∉ line) :
    buffer.nextLine? = some (⟨line⟩, buffer.dropFirst (line.length + 1))
      ∧ (buffer.dropFirst (line.length + 1)).Shape rest := by
  have hstart := h.lineStart
  have hlt := h.lt_lineStart
  rw [Bytes.unfinished_append_newline, List.length_append,
    List.length_cons] at hstart
  have hnext := h.toHolds.nextLine?_cons hline hlt
  have hle : line.length + 1 ≤ (line ++ newline :: rest).length := by simp
  have hfits := h.toFits.dropFirst hle
  rw [← List.drop_drop, List.drop_left, List.drop_one, List.tail_cons] at hfits
  refine ⟨hnext, hfits, ?_, fun segment hsegment => ?_, fun htrue => ?_⟩
  · rw [lineStart_dropFirst]
    omega
  · rw [maxLine_dropFirst]
    refine h.segments segment ?_
    rw [Bytes.splitOn_append_newline]
    exact List.mem_append_right _ hsegment
  · rw [discarding_dropFirst] at htrue
    have hlong := h.discarding htrue
    rwa [Bytes.unfinished_append_newline, ← maxLine_dropFirst] at hlong

/-- There is a line to take out exactly if a newline is stored, and it is
what stands before the first one. -/
theorem Shape.nextLine?_cases (h : buffer.Shape bytes) :
    (newline ∉ bytes ∧ buffer.nextLine? = none)
      ∨ ∃ line rest, bytes = line ++ newline :: rest ∧ newline ∉ line
        ∧ line.length ≤ buffer.maxLine
        ∧ buffer.nextLine? = some (⟨line⟩, buffer.dropFirst (line.length + 1))
        ∧ (buffer.dropFirst (line.length + 1)).Shape rest := by
  by_cases hmem : newline ∈ bytes
  · obtain ⟨line, rest, rfl, hline⟩ := List.eq_append_cons_of_mem hmem
    obtain ⟨hnext, hshape⟩ := h.nextLine?_cons hline
    refine .inr ⟨line, rest, rfl, hline, h.segments line ?_, hnext, hshape⟩
    rw [Bytes.splitOn_append_newline, List.splitOn_eq_singleton hline]
    exact .head _
  · exact .inl ⟨hmem, h.nextLine?_eq_none hmem⟩

-- ======================================================== the operations

/-- Of what an operation brings, the bytes that are stored. -/
def keptBy (buffer : LineBuffer) : Op → Bytes
  | .push data => buffer.keptOf data
  | .next => []
  | .drain => []
  | .clear => []

/-- What an operation does to the stored bytes: it keeps the shape, and
what comes out and what is left is what was there and what was stored,
unless everything was dropped. -/
structure Flow (buffer : LineBuffer) (bytes : Bytes) (op : Op)
    (left : Bytes) : Prop where
  shape : (buffer.perform op).2.Shape left
  lines : ∀ line ∈ (buffer.perform op).1,
    line.bytes.length ≤ buffer.maxLine ∧ newline ∉ line.bytes
  flow : op ≠ .clear → bytes ++ buffer.keptBy op
    = stream ((buffer.perform op).1.map Secret.bytes) ++ left
  cleared : op = .clear → left = []

theorem Shape.drain (h : buffer.Shape bytes) :
    ∃ left, buffer.Flow bytes .drain left := by
  -- on the stored bytes, which get fewer with each line
  induction hlength : buffer.length using Nat.strongRecOn
    generalizing buffer bytes with
  | ind length ih =>
      rcases h.nextLine?_cases with ⟨-, hnone⟩
        | ⟨line, rest, rfl, hline, hle, hsome, hrest⟩
      · refine ⟨bytes, ?_, ?_, fun _ => ?_, fun heq => nomatch heq⟩
        all_goals rw [perform_drain, drain_of_none hnone]
        · exact h
        · simp
        · exact List.append_nil _
      · obtain ⟨left, hshape, hlines, hflow, -⟩ :=
          ih _ (hlength ▸ nextLine?_length_lt hsome) hrest rfl
        refine ⟨left, ?_, ?_, fun _ => ?_, fun heq => nomatch heq⟩
        all_goals rw [perform_drain, drain_of_some hsome]
        · exact hshape
        · intro other hother
          rcases List.mem_cons.mp hother with rfl | hother
          · exact ⟨hle, hline⟩
          · rw [← maxLine_dropFirst buffer (line.length + 1)]
            exact hlines other hother
        · have hrest := hflow (by simp)
          rw [keptBy, List.append_nil] at hrest ⊢
          rw [List.map_cons, stream_cons, hrest, List.append_assoc]
          rfl

theorem Shape.perform (h : buffer.Shape bytes) (op : Op) :
    ∃ left, buffer.Flow bytes op left := by
  cases op with
  | push data =>
      exact ⟨_, Shape.push data h, by simp [LineBuffer.perform], fun _ => rfl,
        fun heq => nomatch heq⟩
  | next =>
      rcases h.nextLine?_cases with ⟨-, hnone⟩
        | ⟨line, rest, rfl, hline, hle, hsome, hrest⟩
      · refine ⟨bytes, ?_, ?_, fun _ => ?_, fun heq => nomatch heq⟩
        all_goals rw [LineBuffer.perform, hnone]
        · exact h
        · simp
        · exact List.append_nil _
      · refine ⟨rest, ?_, ?_, fun _ => ?_, fun heq => nomatch heq⟩
        all_goals rw [LineBuffer.perform, hsome]
        · exact hrest
        · exact fun other hother => by
            rw [List.mem_singleton.mp hother]
            exact ⟨hle, hline⟩
        · simp [keptBy]
  | drain => exact h.drain
  | clear =>
      exact ⟨[], shape_clear h, by simp [LineBuffer.perform],
        fun hne => absurd rfl hne, fun _ => rfl⟩

theorem Shape.after (ops : List Op) :
    ∀ {buffer : LineBuffer} {bytes : Bytes}, buffer.Shape bytes →
      ∃ left, (buffer.after ops).Shape left := by
  induction ops with
  | nil => exact fun h => ⟨_, h⟩
  | cons op ops ih =>
      intro buffer bytes h
      obtain ⟨left, hflow⟩ := h.perform op
      exact ih hflow.shape

end ScreenUnlock.LineBuffer
