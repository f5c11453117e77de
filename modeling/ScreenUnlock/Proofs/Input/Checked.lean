/-
The buffer in memory, with every length and every place checked.

A buffer subtracts lengths and takes parts of its cells, and in numbers
that stop at zero and lists that end where they end nothing is seen of a
subtraction that would go below zero, or of a part that the cells do not
have. So the operations are written once more, on the memory itself
(`Image`): one step at a time, as they scrub a line, move the rest over it
and blank what that leaves behind, and with a fault wherever a difference
would be negative or a part would not lie in the cells.

An image of a buffer that has a shape knows no fault, and what is done to
it is what is done to the buffer (`Shape.image_push`,
`Shape.image_nextLine`). Every buffer has a shape, so this is so after any
operations whatever (`after_sound`), also when bytes were lost for want of
cells and lines grew together because the newline between them was one of
these.
-/
import ScreenUnlock.Proofs.Input.Shape

namespace ScreenUnlock

-- ============================================================ the checks

/-- Why an operation on memory stops. -/
inductive Fault where
  -- A length would go below zero.
  | underflow
  -- A part of the cells was asked for that they do not have.
  | outOfRange
  deriving DecidableEq, Repr

namespace Cells

/-- The difference of two lengths. -/
def minus (length less : Nat) : Except Fault Nat :=
  if less ≤ length then .ok (length - less) else .error .underflow

/-- The cells from `start` to before `stop`. -/
def part (cells : Bytes) (start stop : Nat) : Except Fault Bytes :=
  if start ≤ stop ∧ stop ≤ cells.length then
    .ok ((cells.take stop).drop start)
  else .error .outOfRange

/-- The cells once `bytes` stand from `start` on. -/
def put (cells : Bytes) (start : Nat) (bytes : Bytes) : Except Fault Bytes :=
  if start + bytes.length ≤ cells.length then
    .ok (cells.take start ++ bytes ++ cells.drop (start + bytes.length))
  else .error .outOfRange

/-- Move the cells before `stop` into a secret, and scrub them. -/
def scrub (cells : Bytes) (stop : Nat) : Except Fault (Secret × Bytes) := do
  let line ← part cells 0 stop
  let (secret, scrubbed) := Secret.ofBuffer line
  let cells ← put cells 0 scrubbed
  return (secret, cells)

/-- Copy the cells from `start` to before `stop` to the front. -/
def moveDown (cells : Bytes) (start stop : Nat) : Except Fault Bytes := do
  let moved ← part cells start stop
  put cells 0 moved

/-- Fill the cells from `start` to before `stop` with zeros. -/
def blank (cells : Bytes) (start stop : Nat) : Except Fault Bytes := do
  let slack ← part cells start stop
  put cells start (Bytes.zeros slack.length)

variable {front middle back : Bytes}

theorem minus_add (length less : Nat) :
    minus (less + length) less = .ok length := by
  rw [minus, if_pos (Nat.le_add_right _ _), Nat.add_sub_cancel_left]

theorem part_append {start stop : Nat} (hstart : start = front.length)
    (hstop : stop = front.length + middle.length) :
    part (front ++ middle ++ back) start stop = .ok middle := by
  have hlength : (front ++ middle).length = stop := by
    rw [List.length_append, hstop]
  rw [part, if_pos ⟨by omega, by rw [List.length_append, hlength]; omega⟩,
    List.take_left' hlength, List.drop_left' hstart.symm]

theorem put_append {start : Nat} {bytes : Bytes} (hstart : start = front.length)
    (hlength : bytes.length = middle.length) :
    put (front ++ middle ++ back) start bytes
      = .ok (front ++ bytes ++ back) := by
  have hstop : (front ++ middle).length = start + bytes.length := by
    rw [List.length_append, hstart, hlength]
  rw [put, if_pos (by rw [List.length_append, hstop]; omega),
    List.drop_left' hstop, List.append_assoc front middle,
    List.take_left' hstart.symm]

theorem scrub_append {stop : Nat} (hstop : stop = front.length) :
    scrub (front ++ back) stop
      = .ok (⟨front⟩, Bytes.zeros front.length ++ back) := by
  have hpart := @part_append [] front back 0 stop rfl (by simpa using hstop)
  have hput := @put_append [] front back 0 (Bytes.zeros front.length) rfl
    (by simp [Bytes.zeros])
  rw [List.nil_append] at hpart hput
  unfold scrub Secret.ofBuffer
  rw [hpart]
  show (put (front ++ back) 0 (Bytes.zeros front.length) >>= _) = _
  rw [hput]
  rfl

/-- Only as many cells change as were copied. -/
theorem moveDown_append {start stop : Nat} (hstart : start = front.length)
    (hstop : stop = front.length + middle.length) :
    moveDown (front ++ middle ++ back) start stop
      = .ok (middle ++ (front ++ middle).drop middle.length ++ back) := by
  have hle : middle.length ≤ (front ++ middle).length := by simp
  have hsplit : front ++ middle ++ back
      = [] ++ (front ++ middle).take middle.length
        ++ ((front ++ middle).drop middle.length ++ back) := by
    rw [List.nil_append, ← List.append_assoc, List.take_append_drop]
  have hput := @put_append [] ((front ++ middle).take middle.length)
    ((front ++ middle).drop middle.length ++ back) 0 middle rfl
    (by rw [List.length_take_of_le hle])
  rw [← hsplit, List.nil_append, ← List.append_assoc] at hput
  unfold moveDown
  rw [part_append hstart hstop]
  exact hput

theorem blank_append {start stop : Nat} (hstart : start = front.length)
    (hstop : stop = front.length + middle.length) :
    blank (front ++ middle ++ back) start stop
      = .ok (front ++ Bytes.zeros middle.length ++ back) := by
  unfold blank
  rw [part_append hstart hstop]
  exact put_append hstart (by simp [Bytes.zeros])

end Cells

-- ============================================================= the image

/-- A buffer as it lies in memory. -/
structure Image where
  -- All cells, also those that were never in use.
  cells : Bytes
  length : Nat
  lineStart : Nat
  maxLine : Nat
  discarding : Bool
  deriving DecidableEq, Repr

namespace Image

/-- Write a byte behind the others, if there is a cell for it. -/
def store (image : Image) (byte : UInt8) : Image :=
  if image.length < image.cells.length then
    { image with
      cells := image.cells.set image.length byte
      length := image.length + 1
      lineStart :=
        if byte = Bytes.newline then image.length + 1 else image.lineStart }
  else image

/-- Take in one byte. The open line is measured only if the byte would go
there. -/
def pushByte (image : Image) (byte : UInt8) : Except Fault Image :=
  if image.discarding then
    if byte = Bytes.newline then
      .ok ({ image with discarding := false }.store byte)
    else .ok image
  else if byte = Bytes.newline then .ok (image.store byte)
  else do
    let openLength ← Cells.minus image.length image.lineStart
    if image.maxLine ≤ openLength then
      return { image with discarding := true }
    else return image.store byte

/-- Take in some bytes, in order. -/
def push (image : Image) : Bytes → Except Fault Image
  | [] => .ok image
  | byte :: data => do
    let next ← image.pushByte byte
    next.push data

/-- Take out the line that ends at `stop`. -/
def takeLine (image : Image) (stop : Nat) : Except Fault (Secret × Image) := do
  let (secret, cells) ← Cells.scrub image.cells stop
  let cells ← Cells.moveDown cells (stop + 1) image.length
  let length ← Cells.minus image.length (stop + 1)
  let cells ← Cells.blank cells length image.length
  let lineStart ← Cells.minus image.lineStart (stop + 1)
  return (secret, { image with cells, length, lineStart })

/-- Take the first complete line out, if there is one. -/
def nextLine (image : Image) : Except Fault (Option (Secret × Image)) := do
  let stored ← Cells.part image.cells 0 image.length
  match stored.findIdx? (fun byte => byte = Bytes.newline) with
  | none => return none
  | some stop =>
    let next ← image.takeLine stop
    return some next

/-- Scrubbing, moving and blanking leave the bytes behind the line at the
front, and zeros in the place of all that was there. -/
theorem takeLine_eq {image : Image} {line rest back : Bytes}
    (hcells : image.cells = line ++ Bytes.newline :: rest ++ back)
    (hlength : image.length = (line ++ Bytes.newline :: rest).length)
    (hlineStart : line.length < image.lineStart) :
    image.takeLine line.length = .ok (⟨line⟩,
      { image with
        cells := rest ++ Bytes.zeros (line.length + 1) ++ back
        length := rest.length
        lineStart := image.lineStart - (line.length + 1) }) := by
  rw [List.length_append, List.length_cons, Nat.add_comm rest.length,
    ← Nat.add_assoc] at hlength
  rw [List.append_assoc] at hcells
  have hscrub := @Cells.scrub_append line (Bytes.newline :: rest ++ back)
    line.length rfl
  have hmove := @Cells.moveDown_append
    (Bytes.zeros line.length ++ [Bytes.newline]) rest back (line.length + 1)
    image.length (by simp [Bytes.zeros]) (by simpa [Bytes.zeros] using hlength)
  -- what is left of the scrubbed line, its newline and the bytes moved away
  generalize hslack : (Bytes.zeros line.length ++ [Bytes.newline] ++ rest).drop
    rest.length = slack at hmove
  have hslackLength : slack.length = line.length + 1 := by
    rw [← hslack, List.length_drop]
    simp [Bytes.zeros]
    omega
  have hremaining : Cells.minus image.length (line.length + 1)
      = .ok rest.length := by
    rw [hlength]
    exact Cells.minus_add _ _
  have hblank := @Cells.blank_append rest slack back rest.length image.length
    rfl (by rw [hlength, hslackLength, Nat.add_comm])
  rw [hslackLength] at hblank
  have hstart : Cells.minus image.lineStart (line.length + 1)
      = .ok (image.lineStart - (line.length + 1)) := if_pos hlineStart
  rw [List.append_assoc, List.append_assoc] at hmove
  unfold takeLine
  rw [hcells, hscrub]
  show (Cells.moveDown (Bytes.zeros line.length
    ++ ([Bytes.newline] ++ (rest ++ back))) _ _ >>= _) = _
  rw [hmove]
  simp only [bind, Except.bind, hremaining, hblank, hstart]
  rfl

end Image

namespace LineBuffer

open Bytes (newline)

variable {buffer : LineBuffer} {bytes : Bytes}

/-- The buffer as it lies in memory. -/
def image (buffer : LineBuffer) : Image :=
  { cells := buffer.memory
    length := buffer.length
    lineStart := buffer.lineStart
    maxLine := buffer.maxLine
    discarding := buffer.discarding }

-- ========================================================== no faults

theorem Fits.memory_set (h : buffer.Fits bytes)
    (hroom : buffer.length < buffer.capacity) (byte : UInt8) :
    buffer.memory.set buffer.length byte = (buffer.store byte).memory := by
  have hcapacity : (buffer.store byte).capacity = buffer.capacity := by
    rw [store_eq hroom]
  rw [h.memory_eq, (h.store hroom byte).memory_eq, hcapacity, h.length]
  have hroom' : bytes.length < buffer.capacity := h.length ▸ hroom
  obtain ⟨more, hmore⟩ : ∃ more, buffer.capacity - bytes.length = more + 1 :=
    ⟨buffer.capacity - bytes.length - 1, by omega⟩
  have hless : buffer.capacity - (bytes ++ [byte]).length = more := by
    rw [List.length_append, List.length_singleton]
    omega
  rw [hmore, hless, List.set_append_right _ _ (Nat.le_refl _), Nat.sub_self,
    Bytes.zeros, List.replicate_succ, List.set_cons_zero, List.append_assoc]
  rfl

theorem Fits.image_store (h : buffer.Fits bytes) (byte : UInt8) :
    buffer.image.store byte = (buffer.store byte).image := by
  unfold Image.store
  by_cases hroom : buffer.length < buffer.capacity
  · have hmemory := h.memory_set hroom byte
    rw [if_pos (show buffer.image.length < buffer.image.cells.length from
      length_memory buffer ▸ hroom)]
    unfold image
    simp only [hmemory]
    rw [store_eq hroom]
  · rw [if_neg (show ¬ buffer.image.length < buffer.image.cells.length from
      length_memory buffer ▸ hroom), LineBuffer.store, if_neg hroom]

theorem Shape.image_pushByte (h : buffer.Shape bytes) (byte : UInt8) :
    buffer.image.pushByte byte = .ok (buffer.pushByte byte).image := by
  have hstart := h.lineStart
  have hlength := h.length
  have hminus : Cells.minus buffer.image.length buffer.image.lineStart
      = .ok (buffer.length - buffer.lineStart) :=
    if_pos (show buffer.lineStart ≤ buffer.length by omega)
  unfold Image.pushByte LineBuffer.pushByte
  cases hd : buffer.discarding with
  | true =>
      rw [if_pos (show buffer.image.discarding = true from hd), if_pos rfl]
      by_cases hbyte : byte = newline
      · rw [if_pos hbyte, if_pos hbyte]
        exact congrArg Except.ok ((h.toFits.discard false).image_store byte)
      · rw [if_neg hbyte, if_neg hbyte]
  | false =>
      rw [if_neg (show ¬ buffer.image.discarding = true by simp [image, hd]),
        if_neg Bool.false_ne_true]
      by_cases hbyte : byte = newline
      · rw [if_pos hbyte, if_neg (fun hlong => hlong.1 hbyte),
          h.toFits.image_store]
      · rw [if_neg hbyte, hminus]
        by_cases hlong : buffer.maxLine ≤ buffer.length - buffer.lineStart
        · rw [if_pos ⟨hbyte, hlong⟩]
          exact if_pos hlong
        · rw [if_neg (fun hboth => hlong hboth.2), ← h.toFits.image_store]
          exact if_neg hlong

theorem Shape.image_push (data : Bytes) :
    ∀ {buffer : LineBuffer} {bytes : Bytes}, buffer.Shape bytes →
      buffer.image.push data = .ok (buffer.push data).image := by
  induction data with
  | nil => exact fun _ => rfl
  | cons byte data ih =>
      intro buffer bytes h
      rw [Image.push, h.image_pushByte byte]
      exact ih (h.pushByte byte)

theorem findIdx?_newline {line rest : Bytes} (hline : newline ∉ line) :
    (line ++ newline :: rest).findIdx? (fun byte => byte = newline)
      = some line.length := by
  rw [List.findIdx?_eq_some_iff_getElem]
  refine ⟨by simp, by simp, fun i hi => ?_⟩
  rw [List.getElem_append_left hi, decide_eq_true_eq]
  exact fun heq => hline (heq ▸ List.getElem_mem hi)

/-- What the image of a buffer shows of the line that is gone: nothing. -/
theorem Shape.image_takeLine {line rest : Bytes}
    (h : buffer.Shape (line ++ newline :: rest)) (hline : newline ∉ line) :
    buffer.image.takeLine line.length
      = .ok (⟨line⟩, (buffer.dropFirst (line.length + 1)).image) := by
  obtain ⟨-, hrest⟩ := h.nextLine?_cons hline
  have hle := h.length_le
  have hlength := h.length
  have hmemory : (buffer.dropFirst (line.length + 1)).memory
      = rest ++ Bytes.zeros (line.length + 1) ++ Bytes.zeros
        (buffer.capacity - (line ++ newline :: rest).length) := by
    rw [hrest.memory_eq, List.append_assoc, Bytes.zeros, Bytes.zeros,
      Bytes.zeros, List.replicate_append_replicate, capacity_dropFirst]
    rw [List.length_append, List.length_cons] at hle ⊢
    congr 2
    omega
  rw [Image.takeLine_eq h.memory_eq hlength h.lt_lineStart]
  unfold image
  rw [hmemory, hrest.length, lineStart_dropFirst, maxLine_dropFirst,
    discarding_dropFirst]

theorem Shape.image_nextLine (h : buffer.Shape bytes) :
    buffer.image.nextLine = .ok (buffer.nextLine?.map
      fun (line, rest) => (line, rest.image)) := by
  have hpart : Cells.part buffer.image.cells 0 buffer.image.length
      = .ok bytes := by
    have hpart := @Cells.part_append [] bytes
      (Bytes.zeros (buffer.capacity - bytes.length)) 0 buffer.length rfl
      (by rw [h.length]; simp)
    rwa [List.nil_append, ← h.memory_eq] at hpart
  unfold Image.nextLine
  rw [hpart]
  rcases h.nextLine?_cases with ⟨hno, hnone⟩
    | ⟨line, rest, rfl, hline, -, hsome, -⟩
  · have hfind : bytes.findIdx? (fun byte => byte = newline) = none :=
      List.findIdx?_eq_none_iff.mpr fun byte hbyte =>
        decide_eq_false fun heq => hno (heq ▸ hbyte)
    rw [hnone]
    simp only [bind, Except.bind, hfind]
    rfl
  · rw [hsome]
    simp only [bind, Except.bind, findIdx?_newline hline,
      h.image_takeLine hline]
    rfl

-- ============================================================ the result

/-- Where the open line of some bytes begins: behind the last newline, or
at the front if there is none. -/
inductive OpensAt : Bytes → Nat → Prop where
  | front {bytes : Bytes} : newline ∉ bytes → OpensAt bytes 0
  | behind {front last : Bytes} : newline ∉ last →
      OpensAt (front ++ newline :: last) (front.length + 1)

theorem Shape.opensAt (h : buffer.Shape bytes) :
    OpensAt bytes buffer.lineStart := by
  have hstart := h.lineStart
  rcases Bytes.unfinished_cases bytes with ⟨hno, hopen⟩ | ⟨front, hfront⟩
  · rw [hopen] at hstart
    have hzero : buffer.lineStart = 0 := by omega
    exact hzero ▸ .front hno
  · have hlength := congrArg List.length hfront
    rw [List.length_append, List.length_cons] at hlength
    have hbehind : buffer.lineStart = front.length + 1 := by omega
    rw [hbehind, hfront]
    exact .behind (Bytes.newline_not_mem_unfinished bytes)

/-- What is true of a buffer whose lines keep at most `limit` bytes. The
first three say which of its cells are the stored bytes, the last two that
no operation on it faults. -/
structure Sound (limit : Nat) (buffer : LineBuffer) : Prop where
  cells : buffer.image.cells.length = limit + readChunk
  length_le : buffer.length ≤ limit + readChunk
  stored : buffer.image.cells.take buffer.length = buffer.stored
  lineStart : OpensAt buffer.stored buffer.lineStart
  lineStart_le : buffer.lineStart ≤ buffer.length
  openLine : buffer.length - buffer.lineStart ≤ limit
  discarding : buffer.discarding = true →
    buffer.length - buffer.lineStart = limit
  segments : ∀ segment ∈ buffer.stored.splitOn newline,
    segment.length ≤ limit
  push : ∀ data : Bytes,
    buffer.image.push data = .ok (buffer.push data).image
  nextLine : buffer.image.nextLine
    = .ok (buffer.nextLine?.map fun (line, rest) => (line, rest.image))

theorem Shape.sound (h : buffer.Shape bytes)
    (hcapacity : buffer.capacity = buffer.maxLine + readChunk) :
    buffer.Sound buffer.maxLine where
  cells := (length_memory buffer).trans hcapacity
  length_le := by
    rw [h.length, ← hcapacity]
    exact h.length_le
  stored := by
    show buffer.memory.take buffer.length = _
    rw [h.stored_eq, h.memory_eq, h.length, List.take_left]
  lineStart := h.stored_eq ▸ h.opensAt
  lineStart_le := by
    rw [h.length, ← h.lineStart]
    exact Nat.le_add_right _ _
  openLine := h.length_sub ▸ h.unfinished_le
  discarding := fun htrue => h.length_sub ▸ h.discarding htrue
  segments := h.stored_eq ▸ h.segments
  push := fun data => Shape.image_push data h
  nextLine := h.image_nextLine

/-- Every line that comes out is short enough, and one line. -/
theorem Shape.linesOf (ops : List Op) :
    ∀ {buffer : LineBuffer} {bytes : Bytes}, buffer.Shape bytes →
      ∀ line ∈ buffer.linesOf ops,
        line.length ≤ buffer.maxLine ∧ newline ∉ line := by
  induction ops with
  | nil => simp [LineBuffer.linesOf, shown]
  | cons op ops ih =>
      intro buffer bytes h line hline
      obtain ⟨left, hflow⟩ := h.perform op
      rw [linesOf_cons, List.mem_append, List.mem_map] at hline
      rcases hline with ⟨secret, hsecret, rfl⟩ | hline
      · exact hflow.lines secret hsecret
      · exact (perform_fixed buffer op).2 ▸ ih hflow.shape line hline

/-- Whatever is done with a new buffer, in whatever order, it stays sound.
It stores no more than it has cells for. Its open line begins behind the
last newline; neither this line nor any other is longer than a line may be,
and while the rest of the open line is dropped it is exactly that long.

So no subtraction goes below zero, no part is taken that the cells do not
have, and every line that comes out is short enough and holds no newline,
also after bytes were lost. -/
theorem after_sound (maxLineLen : Nat) (ops : List Op) :
    ((new maxLineLen).after ops).Sound (max maxLineLen 1)
      ∧ ∀ line ∈ (new maxLineLen).linesOf ops,
        line.length ≤ max maxLineLen 1 ∧ newline ∉ line := by
  have hnew := shape_new maxLineLen
  obtain ⟨left, hshape⟩ := Shape.after ops hnew
  obtain ⟨hcapacity, hmax⟩ := after_fixed ops (new maxLineLen)
  have hsound := hshape.sound (by rw [hcapacity, hmax]; rfl)
  rw [hmax] at hsound
  exact ⟨hsound, Shape.linesOf ops hnew⟩

end LineBuffer

end ScreenUnlock
