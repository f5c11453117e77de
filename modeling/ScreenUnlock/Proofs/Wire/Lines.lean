/-
Messages as lines of bytes.

A text that holds no line break becomes bytes that hold no newline, since
in UTF-8 that byte stands for the line break alone. So the line of a
message that fits on one line is the bytes of what it shows, and the one
newline behind them. Cutting the bytes of such messages at the newlines
gives the messages back, also when the last line was torn off.

Every message that the helper sends fits on one line: the constructors
with a text have taken the line breaks out of it.
-/
import ScreenUnlock.Proofs.Lines
import ScreenUnlock.Proofs.Wire.Message

namespace ScreenUnlock

namespace Bytes

-- ================================================================ texts

/-- The bytes of a text read as that text. -/
theorem toText?_ofText (text : String) : toText? (ofText text) = some text := by
  have hbytes : ByteArray.mk (ofText text).toArray = text.toByteArray := by
    conv_rhs => rw [← String.ofList_toList (s := text)]
    rw [String.toByteArray_ofList]
    exact ByteArray.ext List.data_toByteArray.symm
  unfold toText? String.fromUTF8?
  rw [hbytes, dif_pos text.isValidUTF8]
  rfl

@[simp] theorem ofText_push (text : String) (c : Char) :
    ofText (text.push c) = ofText text ++ String.utf8EncodeChar c := by
  rw [ofText, String.toList_push, List.flatMap_append, List.flatMap_singleton]
  rfl

/-- A byte below 128 stands for one character alone: all bytes of the
longer codes are large. -/
theorem toNat_eq_of_mem_utf8EncodeChar {c : Char} {byte : UInt8}
    (h : byte ∈ String.utf8EncodeChar c) (hsmall : byte.toNat < 128) :
    c.toNat = byte.toNat := by
  have hbyte : ∀ n, byte = UInt8.ofNat n → n % 256 = byte.toNat := by
    rintro n rfl
    exact UInt8.toNat_ofNat'.symm
  unfold String.utf8EncodeChar at h
  simp only at h
  split at h
  case isTrue hcode =>
    have := hbyte _ (List.mem_singleton.mp h)
    show c.val.toNat = byte.toNat
    omega
  case isFalse =>
    split at h
    case isTrue =>
      simp only [List.mem_cons, List.not_mem_nil, or_false] at h
      rcases h with h | h <;> have := hbyte _ h <;> omega
    case isFalse =>
      split at h
      case isTrue =>
        simp only [List.mem_cons, List.not_mem_nil, or_false] at h
        rcases h with h | h | h <;> have := hbyte _ h <;> omega
      case isFalse =>
        simp only [List.mem_cons, List.not_mem_nil, or_false] at h
        rcases h with h | h | h | h <;> have := hbyte _ h <;> omega

theorem newline_mem_utf8EncodeChar {c : Char}
    (h : newline ∈ String.utf8EncodeChar c) : c = '\n' :=
  Char.toNat_inj.mp (toNat_eq_of_mem_utf8EncodeChar h (by decide))

theorem newline_not_mem_ofText {text : String} (h : '\n' ∉ text.toList) :
    newline ∉ ofText text := by
  intro hmem
  obtain ⟨c, hc, hbyte⟩ := List.mem_flatMap.mp hmem
  rw [newline_mem_utf8EncodeChar hbyte] at hc
  exact h hc

-- ============================================================ whole lines

/-- What holds no newline belongs to the open line. -/
theorem lines_append_of_not_mem {piece : Bytes} (h : newline ∉ piece)
    (bytes : Bytes) :
    completeLines (bytes ++ piece) = completeLines bytes
      ∧ unfinished (bytes ++ piece) = unfinished bytes ++ piece := by
  induction piece using List.reverseRecOn with
  | nil => simp
  | append_singleton piece byte ih =>
      rw [List.mem_append, not_or, List.mem_singleton] at h
      obtain ⟨hlines, htail⟩ := ih h.1
      have hne : byte ≠ newline := Ne.symm h.2
      rw [← List.append_assoc, completeLines_snoc_other hne,
        unfinished_snoc_other hne, hlines, htail, List.append_assoc]
      exact ⟨rfl, rfl⟩

end Bytes

namespace Message

/-- The message fits on one line. -/
def FitsLine (message : Message) : Prop :=
  '\n' ∉ message.display.toList

theorem not_mem_flatten (text : String) : '\n' ∉ (flatten text).toList := by
  rw [flatten, String.toList_ofList, List.mem_map]
  rintro ⟨c, -, hc⟩
  unfold flattenChar at hc
  split at hc
  case isTrue => cases hc
  case isFalse hnot => exact hnot (.inr hc)

theorem fitsLine_framed {mark text : String} (hmark : '\n' ∉ mark.toList) :
    '\n' ∉ ((mark ++ flatten text).push closingMark).toList := by
  rw [String.toList_push, String.toList_append, List.mem_append,
    List.mem_append, List.mem_singleton]
  rintro ((h | h) | h)
  · exact hmark h
  · exact not_mem_flatten text h
  · cases h

theorem fitsLine_promptOf (text : String) : (promptOf text).FitsLine :=
  fitsLine_framed (by decide)

theorem fitsLine_infoOf (text : String) : (infoOf text).FitsLine :=
  fitsLine_framed (by decide)

theorem fitsLine_fixed : ∀ message ∈ fixed, message.FitsLine := by
  unfold FitsLine
  decide

/-- The bytes of what a message shows, without the newline. -/
def shownBytes (message : Message) : Bytes :=
  Bytes.ofText message.display

theorem lineBytes_eq (message : Message) :
    message.lineBytes = message.shownBytes ++ [Bytes.newline] :=
  Bytes.ofText_push message.display '\n'

/-- The lines of messages are their lines. -/
theorem lines_flatMap {messages : List Message}
    (h : ∀ message ∈ messages, message.FitsLine) :
    Bytes.completeLines (messages.flatMap lineBytes)
        = messages.map shownBytes
      ∧ Bytes.unfinished (messages.flatMap lineBytes) = [] := by
  induction messages using List.reverseRecOn with
  | nil => exact ⟨rfl, rfl⟩
  | append_singleton messages message ih =>
      obtain ⟨hlines, htail⟩ := ih fun other hmem =>
        h other (List.mem_append_left _ hmem)
      have hfits := h message (List.mem_append_right _ (.head _))
      obtain ⟨hsame, hopen⟩ := Bytes.lines_append_of_not_mem
        (Bytes.newline_not_mem_ofText hfits) (messages.flatMap lineBytes)
      rw [List.flatMap_append, List.flatMap_singleton, lineBytes_eq,
        ← List.append_assoc, Bytes.completeLines_snoc_newline,
        Bytes.unfinished_snoc_newline, shownBytes, hsame, hopen, hlines, htail,
        List.map_append]
      exact ⟨rfl, rfl⟩

/-- The complete lines of messages, the last of which may be torn off,
read as these messages. -/
theorem parse_completeLines {messages : List Message} {output : Bytes}
    (h : ∀ message ∈ messages, message.FitsLine)
    (hbegins : output <+: messages.flatMap lineBytes) {i : Nat} {line : Bytes}
    (hline : (Bytes.completeLines output)[i]? = some line) :
    ∃ message, messages[i]? = some message
      ∧ (Bytes.toText? line).map parse = some (.ok message) := by
  obtain ⟨later, hlater⟩ := hbegins
  have hlines := Bytes.completeLines_prefix_append output later
  rw [hlater, (lines_flatMap h).1] at hlines
  obtain ⟨rest, hrest⟩ := hlines
  have hshown : (messages.map shownBytes)[i]? = some line := by
    rw [← hrest, List.getElem?_append_left
      (List.getElem?_eq_some_iff.mp hline).1]
    exact hline
  rw [List.getElem?_map] at hshown
  obtain ⟨message, hmessage, rfl⟩ := Option.map_eq_some_iff.mp hshown
  refine ⟨message, hmessage, ?_⟩
  rw [shownBytes, Bytes.toText?_ofText, Option.map_some,
    parse_eq_ok_iff.mpr (.inl rfl)]

end Message

end ScreenUnlock
