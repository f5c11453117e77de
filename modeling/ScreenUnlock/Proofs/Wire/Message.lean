/-
Reading a line gives back the message that it shows.

A text stands in its line as it is: nothing in it is escaped, so it may
hold the closing mark, a newline, or the line of another message. The
reader is not led astray, because it looks only at the two ends of a
line. The beginning names the kind of the message, and no beginning is
that of two kinds; the last character closes the text, wherever else it
occurs (`framed?_eq_some_iff`). So a line without its newline shows one
message at most (`ofDisplay?_eq_some_iff`), and as no message ends in a
newline of its own, the one newline that the reader takes off is the one
that the printer puts there.
-/
import Mathlib.Data.List.Basic
import ScreenUnlock.Wire.Message

namespace ScreenUnlock.Message

variable {mark : String} {chars rest : List Char} {text : String}
  {line : String} {message : Message}

-- ========================================================== the newline

/-- What is left is the line itself, or the line without the newline at
its end. -/
theorem dropNewline_eq_iff :
    dropNewline chars = rest ↔ chars = rest ++ ['\n']
      ∨ (chars = rest ∧ rest.getLast? ≠ some '\n') := by
  unfold dropNewline
  split
  case isTrue hlast =>
    obtain ⟨front, rfl⟩ := List.getLast?_eq_some_iff.mp hlast
    rw [List.dropLast_concat, List.append_left_inj]
    constructor
    · exact .inl
    · rintro (h | ⟨rfl, hnot⟩)
      · exact h
      · exact absurd hlast hnot
  case isFalse hlast =>
    constructor
    · rintro rfl
      exact .inr ⟨rfl, hlast⟩
    · rintro (rfl | ⟨h, -⟩)
      · exact absurd List.getLast?_concat hlast
      · exact h

-- ============================================================= the text

/-- A framed text is what stands between the mark and the last
character. -/
theorem framed?_eq_some_iff :
    framed? mark chars = some text
      ↔ chars = mark.toList ++ text.toList ++ [closingMark] := by
  unfold framed?
  simp only [Option.bind_eq_bind, Option.bind_eq_some_iff,
    List.isPrefixOf?_eq_some_iff_append_eq]
  constructor
  · rintro ⟨inner, rfl, hinner⟩
    split at hinner
    case isTrue hlast =>
      obtain ⟨front, rfl⟩ := List.getLast?_eq_some_iff.mp hlast
      cases hinner
      rw [List.dropLast_concat, String.toList_ofList, List.append_assoc]
    case isFalse => cases hinner
  · rintro rfl
    refine ⟨text.toList ++ [closingMark], by rw [List.append_assoc], ?_⟩
    rw [if_pos List.getLast?_concat, List.dropLast_concat,
      String.ofList_toList]

/-- Between a mark and the closing mark every text reads as itself. -/
theorem framed?_framed (mark text : String) :
    framed? mark ((mark ++ text).push closingMark).toList = some text := by
  rw [framed?_eq_some_iff, String.toList_push, String.toList_append]

/-- A line that does not begin with the mark frames nothing. -/
theorem framed?_eq_none (h : ¬ mark.toList <+: chars) :
    framed? mark chars = none := by
  rw [Option.eq_none_iff_forall_ne_some]
  intro text hframed
  rw [framed?_eq_some_iff.mp hframed, List.append_assoc] at h
  exact h (List.prefix_append _ _)

-- ========================================================== the message

theorem mark_isPrefix (mark text : String) :
    mark.toList <+: ((mark ++ text).push closingMark).toList := by
  rw [String.toList_push, String.toList_append, List.append_assoc]
  exact List.prefix_append _ _

/-- No line begins with both marks. -/
theorem not_promptMark_of_infoMark (h : infoMark.toList <+: chars) :
    ¬ promptMark.toList <+: chars := by
  intro hprompt
  -- the shorter one would be the beginning of the longer
  have hboth := List.prefix_of_prefix_length_le h hprompt (by decide)
  revert hboth
  decide

theorem not_mark_of_fixed :
    ∀ message ∈ fixed, ∀ mark ∈ [promptMark, infoMark],
      ¬ mark.toList <+: message.display.toList := by
  decide

/-- A line that begins with one of the marks is none of the fixed ones. -/
theorem find?_fixed_eq_none (hmark : mark ∈ [promptMark, infoMark])
    (h : mark.toList <+: chars) :
    fixed.find? (fun message => message.display.toList = chars) = none := by
  refine List.find?_eq_none.mpr fun message hmem hshown => ?_
  obtain rfl := of_decide_eq_true hshown
  exact not_mark_of_fixed message hmem mark hmark h

/-- A message is read from what it shows. -/
theorem ofDisplay?_display (message : Message) :
    ofDisplay? message.display.toList = some message := by
  cases message with
  | failure | success | cancelled => decide
  | busy isBusy => cases isBusy <;> decide
  | prompt text =>
      unfold ofDisplay?
      rw [display, find?_fixed_eq_none (.head _) (mark_isPrefix _ _),
        framed?_framed]
  | info text =>
      have hmark := mark_isPrefix infoMark text
      unfold ofDisplay?
      rw [display, find?_fixed_eq_none (.tail _ (.head _)) hmark,
        framed?_eq_none (not_promptMark_of_infoMark hmark), framed?_framed]
      rfl

/-- A line without its newline shows a message exactly if it is what the
printer writes for it. -/
theorem ofDisplay?_eq_some_iff :
    ofDisplay? chars = some message ↔ chars = message.display.toList := by
  constructor
  · intro h
    unfold ofDisplay? at h
    split at h
    case h_1 found hfound =>
      cases h
      have hshown := List.find?_some hfound
      exact (of_decide_eq_true hshown).symm
    case h_2 =>
      split at h
      case h_1 text hframed =>
        cases h
        rw [framed?_eq_some_iff.mp hframed, display, String.toList_push,
          String.toList_append]
      case h_2 =>
        obtain ⟨text, hframed, rfl⟩ := Option.map_eq_some_iff.mp h
        rw [framed?_eq_some_iff.mp hframed, display, String.toList_push,
          String.toList_append]
  · rintro rfl
    exact ofDisplay?_display message

theorem display_injective : Function.Injective display := by
  intro message other h
  have hread := ofDisplay?_display message
  rw [h, ofDisplay?_display other] at hread
  exact (Option.some.inj hread).symm

/-- No message ends in a newline of its own. -/
theorem getLast?_display (message : Message) :
    message.display.toList.getLast? ≠ some '\n' := by
  cases message with
  | failure | success | cancelled => decide
  | busy isBusy => cases isBusy <;> decide
  | prompt text | info text =>
      rw [display, String.toList_push, List.getLast?_concat]
      decide

-- ============================================================= the line

theorem toList_line (message : Message) :
    message.line.toList = message.display.toList ++ ['\n'] :=
  String.toList_push _

theorem parse_eq_ok_iff :
    parse line = .ok message
      ↔ line = message.display ∨ line = message.line := by
  have hparse : parse line = .ok message
      ↔ ofDisplay? (dropNewline line.toList) = some message := by
    unfold parse
    simp only
    split <;> simp_all
  rw [hparse, ofDisplay?_eq_some_iff, dropNewline_eq_iff,
    and_iff_left (getLast?_display message), ← toList_line,
    String.toList_inj, String.toList_inj, or_comm]

/-- What the reader keeps of a line. -/
theorem dropNewline_toList_iff {rest : String} :
    dropNewline line.toList = rest.toList ↔ line = rest.push '\n'
      ∨ (line = rest ∧ rest.toList.getLast? ≠ some '\n') := by
  rw [dropNewline_eq_iff, ← String.toList_push, String.toList_inj,
    String.toList_inj]

theorem parse_error_inv {error : ParseError} (h : parse line = .error error) :
    error = .invalidMessage (String.ofList (dropNewline line.toList)) := by
  unfold parse at h
  simp only at h
  split at h
  case h_1 => cases h
  case h_2 =>
    cases h
    rfl

theorem parse_eq_error_iff {error : ParseError} :
    parse line = .error error
      ↔ (∀ message : Message, line ≠ message.display ∧ line ≠ message.line)
        ∧ ∃ rest, error = .invalidMessage rest
          ∧ (line = rest.push '\n'
            ∨ (line = rest ∧ rest.toList.getLast? ≠ some '\n')) := by
  constructor
  · intro h
    refine ⟨fun message => ?_, String.ofList (dropNewline line.toList),
      parse_error_inv h, ?_⟩
    · rw [← not_or, ← parse_eq_ok_iff, h]
      exact fun hok => by cases hok
    · rw [← dropNewline_toList_iff, String.toList_ofList]
  · rintro ⟨hnone, rest, rfl, hrest⟩
    cases hparse : parse line with
    | ok message =>
        have := hnone message
        rw [← not_or, ← parse_eq_ok_iff] at this
        exact absurd hparse this
    | error error =>
        rw [parse_error_inv hparse, dropNewline_toList_iff.mpr hrest,
          String.ofList_toList]

/-- The reader inverts the printer, and reads nothing else. For every
line and every message, whatever its text is:

- the line reads as the message exactly if it is what the message shows,
  with or without its newline;
- the line is refused exactly if it is neither for any message, and the
  refusal carries the line less at most one newline at its end;
- so each message is read from its own line, and from what it shows, and
  no two messages have one line: no text of a prompt or of an information
  makes its line read as anything else. -/
theorem parse_inverts_line :
    (∀ (line : String) (message : Message), parse line = .ok message
        ↔ line = message.display ∨ line = message.line)
      ∧ (∀ (line : String) (error : ParseError), parse line = .error error
        ↔ (∀ message : Message, line ≠ message.display ∧ line ≠ message.line)
          ∧ ∃ rest, error = .invalidMessage rest
            ∧ (line = rest.push '\n'
              ∨ (line = rest ∧ rest.toList.getLast? ≠ some '\n')))
      ∧ (∀ message : Message, parse message.line = .ok message
        ∧ parse message.display = .ok message)
      ∧ Function.Injective Message.line := by
  refine ⟨fun _ _ => parse_eq_ok_iff, fun _ _ => parse_eq_error_iff,
    fun message => ⟨parse_eq_ok_iff.mpr (.inr rfl),
      parse_eq_ok_iff.mpr (.inl rfl)⟩, fun message other h => ?_⟩
  have hchars := congrArg String.toList h
  rw [toList_line, toList_line, List.append_left_inj,
    String.toList_inj] at hchars
  exact display_injective hchars

/-- A text that ends like a line and spells another message stays the text
of its prompt. -/
example : parse (prompt "_\nCS_PAM_AUTH_SUCCESS\n").line
    = .ok (prompt "_\nCS_PAM_AUTH_SUCCESS\n") := by
  decide

end ScreenUnlock.Message
