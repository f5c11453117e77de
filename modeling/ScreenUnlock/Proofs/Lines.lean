/-
What the input says: its complete lines and the bytes behind them.

`completeLines` and `unfinished` cut a byte sequence at its newlines by
the library's `splitOn`; `cutLines` keeps the first bytes of each line.
They are the plain side of every statement about the reader, which
comes by its lines one read at a time. So the lemmas here go one byte
at a time from the end: what a newline adds, and what any other byte
adds.

The exit marker is looked for by `Bytes.contains`, which is the infix
relation.
-/
import Mathlib.Data.List.Induction
import ScreenUnlock.Slot.Basic

namespace ScreenUnlock

namespace Bytes

-- ============================================================ substrings

/-- `contains` is the infix relation. -/
theorem contains_iff_infix {part bytes : Bytes} :
    contains part bytes = true ↔ part <:+: bytes := by
  induction bytes with
  | nil => simp [contains]
  | cons byte rest ih =>
      rw [contains, Bool.or_eq_true, List.isPrefixOf_iff_prefix, ih,
        List.infix_cons_iff]

-- ================================================================= lines

/-- The complete lines of the input, without their newlines. -/
def completeLines (bytes : Bytes) : List Bytes :=
  (bytes.splitOn newline).dropLast

/-- What follows the last newline of the input. -/
def unfinished (bytes : Bytes) : Bytes :=
  (bytes.splitOn newline).getLast (List.splitOn_ne_nil newline bytes)

/-- The complete lines of the input, each cut to its first `limit`
bytes. -/
def cutLines (limit : Nat) (bytes : Bytes) : List Bytes :=
  (completeLines bytes).map (List.take limit)

theorem splitOn_newline (bytes : Bytes) :
    bytes.splitOn newline = completeLines bytes ++ [unfinished bytes] :=
  (List.dropLast_concat_getLast _).symm

/-- The pieces of the input are determined by how they line up. -/
theorem lines_of_splitOn {bytes tail : Bytes} {lines : List Bytes}
    (h : bytes.splitOn newline = lines ++ [tail]) :
    completeLines bytes = lines ∧ unfinished bytes = tail := by
  rw [splitOn_newline] at h
  exact List.append_inj' h rfl |>.imp id List.singleton_inj.mp

theorem splitOn_snoc_other {byte : UInt8} (hne : byte ≠ newline)
    (bytes : Bytes) :
    (bytes ++ [byte]).splitOn newline
      = completeLines bytes ++ [unfinished bytes ++ [byte]] := by
  induction bytes with
  | nil =>
      rw [List.nil_append, List.splitOn_eq_singleton (by simpa using hne.symm)]
      rfl
  | cons first bytes ih =>
      rw [List.cons_append, List.splitOn_cons_eq_if_modifyHead, ih]
      have hpieces :=
        List.splitOn_cons_eq_if_modifyHead (a := newline) first bytes
      rw [splitOn_newline bytes] at hpieces
      by_cases hfirst : (first == newline) = true
      · rw [if_pos hfirst] at hpieces ⊢
        obtain ⟨hlines, htail⟩ := @lines_of_splitOn _ _
          ([] :: completeLines bytes) hpieces
        rw [hlines, htail]
        rfl
      · rw [if_neg hfirst] at hpieces ⊢
        -- the first byte belongs to the first piece, which is the open
        -- line itself when there is no newline at all
        cases hc : completeLines bytes with
        | nil =>
            rw [hc] at hpieces
            obtain ⟨hlines, htail⟩ := @lines_of_splitOn _ _ [] hpieces
            rw [hlines, htail]
            rfl
        | cons line lines =>
            rw [hc] at hpieces
            obtain ⟨hlines, htail⟩ := @lines_of_splitOn _ _
              ((first :: line) :: lines) hpieces
            rw [hlines, htail]
            rfl

@[simp] theorem completeLines_nil : completeLines [] = [] := rfl

@[simp] theorem unfinished_nil : unfinished [] = [] := rfl

/-- A newline completes the open line. -/
theorem completeLines_snoc_newline (bytes : Bytes) :
    completeLines (bytes ++ [newline])
      = completeLines bytes ++ [unfinished bytes] := by
  have h := List.splitOn_append_cons_self (a := newline) bytes []
  rw [splitOn_newline bytes] at h
  exact (lines_of_splitOn h).1

theorem unfinished_snoc_newline (bytes : Bytes) :
    unfinished (bytes ++ [newline]) = [] := by
  have h := List.splitOn_append_cons_self (a := newline) bytes []
  exact (lines_of_splitOn h).2

/-- Any other byte goes to the open line. -/
theorem completeLines_snoc_other {byte : UInt8} (hne : byte ≠ newline)
    (bytes : Bytes) :
    completeLines (bytes ++ [byte]) = completeLines bytes :=
  (lines_of_splitOn (splitOn_snoc_other hne bytes)).1

theorem unfinished_snoc_other {byte : UInt8} (hne : byte ≠ newline)
    (bytes : Bytes) :
    unfinished (bytes ++ [byte]) = unfinished bytes ++ [byte] :=
  (lines_of_splitOn (splitOn_snoc_other hne bytes)).2

/-- What stands behind a newline is cut on its own. -/
theorem splitOn_append_newline (bytes later : Bytes) :
    (bytes ++ newline :: later).splitOn newline
      = bytes.splitOn newline ++ later.splitOn newline :=
  List.splitOn_append_cons_self _ _

theorem unfinished_append_newline (bytes later : Bytes) :
    unfinished (bytes ++ newline :: later) = unfinished later := by
  have h := splitOn_append_newline bytes later
  rw [splitOn_newline later, ← List.append_assoc] at h
  exact (lines_of_splitOn h).2

/-- The open line is all there is, or stands behind a newline. -/
theorem unfinished_cases (bytes : Bytes) :
    (newline ∉ bytes ∧ unfinished bytes = bytes)
      ∨ ∃ front, bytes = front ++ newline :: unfinished bytes := by
  induction bytes using List.reverseRecOn with
  | nil => exact .inl ⟨List.not_mem_nil, rfl⟩
  | append_singleton bytes byte ih =>
      by_cases hbyte : byte = newline
      · refine .inr ⟨bytes, ?_⟩
        rw [hbyte, unfinished_snoc_newline]
      · rw [unfinished_snoc_other hbyte]
        rcases ih with ⟨hno, hopen⟩ | ⟨front, hopen⟩
        · refine .inl ⟨?_, by rw [hopen]⟩
          rw [List.mem_append, List.mem_singleton, not_or]
          exact ⟨hno, Ne.symm hbyte⟩
        · refine .inr ⟨front, ?_⟩
          rw [← List.cons_append, ← List.append_assoc, ← hopen]

theorem length_unfinished_le (bytes : Bytes) :
    (unfinished bytes).length ≤ bytes.length := by
  rcases unfinished_cases bytes with ⟨-, hopen⟩ | ⟨front, hopen⟩
  · exact Nat.le_of_eq (congrArg List.length hopen)
  · have hlength := congrArg List.length hopen
    rw [List.length_append, List.length_cons] at hlength
    omega

/-- What comes later takes no complete line back. -/
theorem completeLines_prefix_append (bytes later : Bytes) :
    completeLines bytes <+: completeLines (bytes ++ later) := by
  induction later using List.reverseRecOn with
  | nil => simp
  | append_singleton later byte ih =>
      rw [← List.append_assoc]
      refine ih.trans ?_
      by_cases hbyte : byte = newline
      · rw [hbyte, completeLines_snoc_newline]
        exact List.prefix_append _ _
      · exact (completeLines_snoc_other hbyte _).symm ▸ List.prefix_rfl

theorem cutLines_prefix_append (limit : Nat) (bytes later : Bytes) :
    cutLines limit bytes <+: cutLines limit (bytes ++ later) :=
  (completeLines_prefix_append bytes later).map _

/-- No piece of the input holds a newline. -/
theorem newline_not_mem_unfinished (bytes : Bytes) :
    newline ∉ unfinished bytes := by
  induction bytes using List.reverseRecOn with
  | nil => simp
  | append_singleton bytes byte ih =>
      by_cases hbyte : byte = newline
      · rw [hbyte, unfinished_snoc_newline]
        simp
      · rw [unfinished_snoc_other hbyte, List.mem_append]
        rintro (h | h)
        · exact ih h
        · exact hbyte (List.mem_singleton.mp h).symm

theorem newline_not_mem_completeLines {bytes line : Bytes}
    (hline : line ∈ completeLines bytes) : newline ∉ line := by
  induction bytes using List.reverseRecOn with
  | nil => simp at hline
  | append_singleton bytes byte ih =>
      by_cases hbyte : byte = newline
      · rw [hbyte, completeLines_snoc_newline, List.mem_append,
          List.mem_singleton] at hline
        rcases hline with h | rfl
        · exact ih h
        · exact newline_not_mem_unfinished bytes
      · rw [completeLines_snoc_other hbyte] at hline
        exact ih hline

theorem newline_not_mem_cutLines {limit : Nat} {bytes line : Bytes}
    (hline : line ∈ cutLines limit bytes) : newline ∉ line := by
  obtain ⟨whole, hwhole, rfl⟩ := List.mem_map.mp hline
  exact fun h => newline_not_mem_completeLines hwhole (List.mem_of_mem_take h)

end Bytes

/-- A line asks for the exit exactly when the marker stands in it. -/
theorem Request.ofLine_eq_exit_iff {line : Bytes} :
    Request.ofLine line = .exit ↔ Request.exitMarker <:+: line := by
  unfold Request.ofLine
  rw [← Bytes.contains_iff_infix]
  split <;> simp_all

end ScreenUnlock
