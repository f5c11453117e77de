/-
The input buffer: bytes in, lines out.

The buffer has a fixed number of cells, which hold the stored bytes from
the front and zeros behind them. A line keeps at most `maxLine` bytes;
what a longer line brings after those is dropped up to its newline. A
byte for which there is no cell left is lost, a newline too; this cannot
happen as long as every line is taken out before more is pushed, because
the buffer has room for one line and one read.

Taking a line out moves the bytes behind it to the front and overwrites
what they leave behind with zeros, so that the line is nowhere in the
buffer any more.
-/
import ScreenUnlock.Slot.Basic

namespace ScreenUnlock

/-- The most bytes that one read of the input brings. -/
def readChunk : Nat := 256

/-- A buffer that cuts the input into lines. -/
structure LineBuffer where
  capacity : Nat
  -- The cells from the front that were ever in use; the others, up to
  -- the capacity, still hold zero.
  cells : ByteArray
  -- How many cells hold stored bytes.
  length : Nat
  -- Where the unfinished line begins: behind the last stored newline,
  -- or at the front if there is none.
  lineStart : Nat
  -- How many bytes a line keeps.
  maxLine : Nat
  -- Whether the rest of the unfinished line is dropped.
  discarding : Bool

namespace LineBuffer

/-- How many bytes a line keeps when `maxLineLen` is asked for: at least
one. -/
def lineLimit (maxLineLen : Nat) : Nat :=
  max maxLineLen 1

/-- How many cells a buffer has. -/
def capacityFor (maxLineLen : Nat) : Nat :=
  lineLimit maxLineLen + readChunk

/-- The most bytes that can be asked of memory in one piece. -/
def allocationLimit : Nat := Nat.pow 2 63 - 1

/-- An empty buffer. -/
def new (maxLineLen : Nat) : LineBuffer :=
  { capacity := capacityFor maxLineLen
    cells := .empty
    length := 0
    lineStart := 0
    maxLine := lineLimit maxLineLen
    discarding := false }

/-- An empty buffer, unless it takes more than memory can be asked for. -/
def new? (maxLineLen : Nat) : Option LineBuffer :=
  if capacityFor maxLineLen ≤ allocationLimit then some (new maxLineLen)
  else none

/-- What a cell holds. -/
def cell (buffer : LineBuffer) (place : Nat) : UInt8 :=
  if h : place < buffer.cells.size then buffer.cells[place] else 0

/-- The stored bytes. -/
def stored (buffer : LineBuffer) : Bytes :=
  (buffer.cells.extract 0 buffer.length).data.toList

/-- How many bytes are stored. -/
def buffered (buffer : LineBuffer) : Nat :=
  buffer.length

/-- The cells once `byte` stands at `place`, which is at most the first
place that was never in use. -/
def setCell (cells : ByteArray) (place : Nat) (byte : UInt8) : ByteArray :=
  if h : place < cells.size then cells.set place byte h
  else cells.push byte

/-- Store a byte, if there is a cell for it. -/
def store (buffer : LineBuffer) (byte : UInt8) : LineBuffer :=
  if buffer.length < buffer.capacity then
    { buffer with
      cells := setCell buffer.cells buffer.length byte
      length := buffer.length + 1
      lineStart :=
        if byte = Bytes.newline then buffer.length + 1 else buffer.lineStart }
  else buffer

/-- Take in one byte of the input. -/
def pushByte (buffer : LineBuffer) (byte : UInt8) : LineBuffer :=
  if buffer.discarding then
    if byte = Bytes.newline then
      { buffer with discarding := false }.store byte
    else buffer
  else if byte ≠ Bytes.newline
      ∧ buffer.maxLine ≤ buffer.length - buffer.lineStart then
    { buffer with discarding := true }
  else buffer.store byte

/-- Take in some bytes of the input, in order. -/
def push (buffer : LineBuffer) (data : Bytes) : LineBuffer :=
  data.foldl pushByte buffer

/-- The first of `count` cells, from `place` on, that holds a newline. -/
def newlineFrom? (buffer : LineBuffer) (place : Nat) : Nat → Option Nat
  | 0 => none
  | count + 1 =>
    if buffer.cell place = Bytes.newline then some place
    else newlineFrom? buffer (place + 1) count

/-- Where the first complete line ends, if there is one. The unfinished
line has no newline, so the cells before it are enough. -/
def lineEnd? (buffer : LineBuffer) : Option Nat :=
  buffer.newlineFrom? 0 (min buffer.lineStart buffer.length)

/-- The cells once `bytes` stand from `place` on. -/
def overwrite (cells : ByteArray) (place : Nat) (bytes : ByteArray) :
    ByteArray :=
  bytes.copySlice 0 cells place bytes.size

/-- Cells that hold zero. -/
def zeroCells (count : Nat) : ByteArray :=
  ⟨Array.replicate count 0⟩

/-- The cells after the first `count` of `length` stored bytes are gone:
the other stored bytes come to the front, and zeros follow. -/
def shift (cells : ByteArray) (length count : Nat) : ByteArray :=
  let rest := cells.extract count length
  let moved := overwrite cells 0 rest
  overwrite moved rest.size (zeroCells (min count length))

/-- Take the first complete line out, without its newline. -/
def nextLine? (buffer : LineBuffer) : Option (Secret × LineBuffer) :=
  match buffer.lineEnd? with
  | none => none
  | some stop =>
    some (⟨(buffer.cells.extract 0 stop).data.toList⟩,
      { buffer with
        cells := shift buffer.cells buffer.length (stop + 1)
        length := buffer.length - (stop + 1)
        lineStart := buffer.lineStart - (stop + 1) })

/-- Overwrite everything, an unfinished line too. -/
def clear (buffer : LineBuffer) : LineBuffer :=
  { buffer with
    cells := zeroCells buffer.cells.size
    length := 0
    lineStart := 0
    discarding := false }

theorem newlineFrom?_lt {buffer : LineBuffer} {place count stop : Nat}
    (h : buffer.newlineFrom? place count = some stop) :
    stop < place + count := by
  induction count generalizing place with
  | zero => simp [newlineFrom?] at h
  | succ count ih =>
    unfold newlineFrom? at h
    split at h
    · simp only [Option.some.injEq] at h
      omega
    · have := ih h
      omega

theorem lineEnd?_lt {buffer : LineBuffer} {stop : Nat}
    (h : buffer.lineEnd? = some stop) : stop < buffer.length := by
  have := newlineFrom?_lt h
  omega

theorem nextLine?_length_lt {buffer buffer' : LineBuffer} {line : Secret}
    (h : buffer.nextLine? = some (line, buffer')) :
    buffer'.length < buffer.length := by
  unfold nextLine? at h
  split at h
  · simp at h
  · rename_i stop found
    simp only [Option.some.injEq, Prod.mk.injEq] at h
    obtain ⟨-, rfl⟩ := h
    have := lineEnd?_lt found
    change buffer.length - (stop + 1) < buffer.length
    omega

/-- Take out every complete line. -/
def drain (buffer : LineBuffer) : List Secret × LineBuffer :=
  match h : buffer.nextLine? with
  | none => ([], buffer)
  | some (line, buffer') =>
    have := nextLine?_length_lt h
    let (lines, buffer'') := buffer'.drain
    (line :: lines, buffer'')
termination_by buffer.length

end LineBuffer

end ScreenUnlock
