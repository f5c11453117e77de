/-
What a buffer still holds of the lines that were taken out: nothing.

A line from the screen locker may be a password, so its bytes must not
stay behind in the buffer once it is gone. A `Ledger` says what went
through a buffer since it was last cleared: the bytes that were stored,
and the lines that came out. It always balances: the lines, each with its
newline, and then what the buffer holds, are the bytes that were stored
(`Shape.ledgerOf`). The cells behind these are zero, all of them.

So what the buffer holds after a line is exactly what was stored after
that line's newline, however long the line and the rest are, and a buffer
that holds no byte is as blank as a new one.
-/
import ScreenUnlock.Proofs.Input.Shape

namespace ScreenUnlock.LineBuffer

open Bytes (newline)

variable {buffer : LineBuffer} {bytes : Bytes}

/-- What went through a buffer since it was made or last cleared. -/
structure Ledger where
  -- The bytes that were stored, in order.
  stored : Bytes := []
  -- The lines that were taken out, in order.
  taken : List Bytes := []
  deriving DecidableEq, Repr

/-- The ledger after one more operation. To clear the buffer is to drop
what it holds, so a new ledger is begun. -/
def Ledger.enter (ledger : Ledger) (buffer : LineBuffer) (op : Op) : Ledger :=
  if op = .clear then {}
  else
    { stored := ledger.stored ++ buffer.keptBy op
      taken := ledger.taken ++ (buffer.perform op).1.map Secret.bytes }

/-- The ledger after these operations. -/
def ledgerOf (buffer : LineBuffer) (ledger : Ledger) : List Op → Ledger
  | [] => ledger
  | op :: ops => (buffer.perform op).2.ledgerOf (ledger.enter buffer op) ops

/-- What was stored is what came out, and then what is held. -/
def Ledger.Balances (ledger : Ledger) (bytes : Bytes) : Prop :=
  ledger.stored = stream ledger.taken ++ bytes

theorem Ledger.Balances.enter {ledger : Ledger} {op : Op} {left : Bytes}
    (h : ledger.Balances bytes) (hflow : buffer.Flow bytes op left) :
    (ledger.enter buffer op).Balances left := by
  unfold Ledger.enter
  split
  case isTrue hclear =>
    rw [hflow.cleared hclear]
    rfl
  case isFalse hkeep =>
    have hmoved := hflow.flow hkeep
    unfold Ledger.Balances at h ⊢
    simp only
    rw [h, List.append_assoc, hmoved, stream_append, List.append_assoc]

/-- Every operation keeps the balance. -/
theorem Shape.ledgerOf (ops : List Op) :
    ∀ {buffer : LineBuffer} {bytes : Bytes} {ledger : Ledger},
      buffer.Shape bytes → ledger.Balances bytes →
      ∃ left, (buffer.after ops).Shape left
        ∧ (buffer.ledgerOf ledger ops).Balances left := by
  induction ops with
  | nil => exact fun h hbalances => ⟨_, h, hbalances⟩
  | cons op ops ih =>
      intro buffer bytes ledger h hbalances
      obtain ⟨left, hflow⟩ := h.perform op
      exact ih hflow.shape (hbalances.enter hflow)

/-- Nothing is left in a buffer but what the ledger says is still to come
out of it. -/
structure Spotless (buffer : LineBuffer) (ledger : Ledger) : Prop where
  -- No byte lies anywhere else.
  inside : buffer.cells.size ≤ buffer.capacity
  length : buffer.stored.length = buffer.length
  memory : buffer.memory
    = buffer.stored ++ Bytes.zeros (buffer.capacity - buffer.length)
  behind : ∀ place, buffer.length ≤ place → buffer.cell place = 0
  stored : ledger.stored = stream ledger.taken ++ buffer.stored
  -- Once a line is taken out, what was stored after its newline is left.
  line : ∀ line rest, buffer.nextLine? = some (line, rest) →
    ledger.stored
        = stream ledger.taken ++ line.bytes ++ newline :: rest.stored
      ∧ rest.memory
        = rest.stored ++ Bytes.zeros (rest.capacity - rest.length)
  empty : buffer.buffered = 0 → buffer.memory = Bytes.zeros buffer.capacity

theorem Shape.memory_eq_stored (h : buffer.Shape bytes) :
    buffer.memory
      = buffer.stored ++ Bytes.zeros (buffer.capacity - buffer.length) := by
  rw [h.stored_eq, h.length]
  exact h.memory_eq

theorem Shape.spotless {ledger : Ledger} (h : buffer.Shape bytes)
    (hbalances : ledger.Balances bytes) : buffer.Spotless ledger where
  inside := h.inside
  length := by rw [h.stored_eq, h.length]
  memory := h.memory_eq_stored
  behind := fun place hplace => h.cell_eq_zero (h.length ▸ hplace)
  stored := h.stored_eq ▸ hbalances
  line := by
    intro line rest hnext
    rcases h.nextLine?_cases with ⟨-, hnone⟩
      | ⟨first, left, rfl, -, -, hsome, hleft⟩
    · exact nomatch hnone.symm.trans hnext
    · obtain ⟨rfl, rfl⟩ := Prod.mk.inj (Option.some.inj (hsome.symm.trans hnext))
      refine ⟨?_, hleft.memory_eq_stored⟩
      rw [hleft.stored_eq, List.append_assoc]
      exact hbalances
  empty := by
    intro hempty
    have hnil : bytes = [] :=
      List.eq_nil_of_length_eq_zero (h.length.symm.trans hempty)
    rw [h.memory_eq, hnil]
    rfl

/-- Whatever is done with a new buffer, in whatever order and whatever is
lost for want of cells: its cells hold the stored bytes that no line has
taken along and no clearing has dropped, in order from the front, and zeros
behind them. Of a line that is taken out nothing stays, and a buffer
without a byte is all zeros. -/
theorem after_spotless (maxLineLen : Nat) (ops : List Op) :
    ((new maxLineLen).after ops).Spotless ((new maxLineLen).ledgerOf {} ops)
      ∧ ((new maxLineLen).after ops).memory.length
        = max maxLineLen 1 + readChunk := by
  have hempty : ({} : Ledger).Balances [] := rfl
  obtain ⟨left, hshape, hbalances⟩ :=
    Shape.ledgerOf ops (shape_new maxLineLen) hempty
  exact ⟨hshape.spotless hbalances,
    (length_memory _).trans (after_fixed ops (new maxLineLen)).1⟩

/-- A line, and a rest that is longer than it: the rest comes to the front
over the line, and the zeros behind it are as many as before and one for
each byte of the line and for its newline. -/
example :
    (((new 4).after [.push [97, 10, 98, 99, 100], .next]).cells.data.toList)
      = [98, 99, 100, 0, 0] := by
  decide +kernel

end ScreenUnlock.LineBuffer
