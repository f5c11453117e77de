/-
The stream of messages, cut into lines by whoever reads it.

What the authentication stack wants shown is any text at all: it may hold
line breaks, and what stands behind one may look like a message. A
`Draft` is a message before such a text was put on one line. `Frames`
says that bytes show a list of drafts, in terms of the bytes alone: they
are cut at every newline, nothing is left over, and each line reads as
the message of its draft. How a text may have changed on the way is
`OneLine`, character by character.

So a text that forges a line of the protocol becomes part of its own
line, and of no other (`frames_of_sends`).
-/
import Mathlib.Data.List.Forall2
import ScreenUnlock.Proofs.Wire.Lines
import ScreenUnlock.Proofs.Wire.Send

namespace ScreenUnlock

namespace Message

-- ============================================================ the drafts

/-- What a character becomes on one line: a line break, of either kind, is
a space, and any other character is itself. -/
inductive Flattens : Char → Char → Prop where
  | carriageReturn : Flattens '\r' ' '
  | lineFeed : Flattens '\n' ' '
  | same {c : Char} : c ≠ '\r' → c ≠ '\n' → Flattens c c

/-- The second text is the first one on one line. They have the same number
of characters. -/
def OneLine (text shown : String) : Prop :=
  List.Forall₂ Flattens text.toList shown.toList

/-- A message in the making. -/
inductive Draft where
  | failure
  | success
  | cancelled
  | busy (isBusy : Bool)
  -- The text may hold anything.
  | prompt (text : String)
  | info (text : String)
  deriving DecidableEq, Repr

/-- The message that is sent. -/
def Draft.message : Draft → Message
  | failure => .failure
  | success => .success
  | cancelled => .cancelled
  | busy isBusy => .busy isBusy
  | prompt text => .promptOf text
  | info text => .infoOf text

/-- The message is of the draft's kind, and has its text on one line. -/
inductive Draft.Shows : Draft → Message → Prop where
  | failure : Shows .failure .failure
  | success : Shows .success .success
  | cancelled : Shows .cancelled .cancelled
  | busy {isBusy : Bool} : Shows (.busy isBusy) (.busy isBusy)
  | prompt {text shown : String} : OneLine text shown →
      Shows (.prompt text) (.prompt shown)
  | info {text shown : String} : OneLine text shown →
      Shows (.info text) (.info shown)

theorem flattens_flattenChar (c : Char) : Flattens c (flattenChar c) := by
  unfold flattenChar
  split
  case isTrue hbreak =>
    rcases hbreak with rfl | rfl
    · exact .carriageReturn
    · exact .lineFeed
  case isFalse hother =>
    obtain ⟨hreturn, hfeed⟩ := not_or.mp hother
    exact .same hreturn hfeed

theorem oneLine_flatten (text : String) : OneLine text (flatten text) := by
  unfold OneLine
  rw [flatten, String.toList_ofList, List.forall₂_map_right_iff,
    List.forall₂_same]
  exact fun c _ => flattens_flattenChar c

theorem Draft.shows_message (draft : Draft) : draft.Shows draft.message := by
  cases draft with
  | failure => exact .failure
  | success => exact .success
  | cancelled => exact .cancelled
  | busy isBusy => exact .busy
  | prompt text => exact .prompt (oneLine_flatten text)
  | info text => exact .info (oneLine_flatten text)

/-- Every message that comes of a draft fits on one line. -/
theorem Draft.fitsLine (draft : Draft) : draft.message.FitsLine := by
  cases draft with
  | failure | success | cancelled => exact fitsLine_fixed _ (by decide)
  | busy isBusy => cases isBusy <;> exact fitsLine_fixed _ (by decide)
  | prompt text => exact fitsLine_promptOf text
  | info text => exact fitsLine_infoOf text

-- ============================================================ the stream

/-- The bytes show these drafts, one a line. -/
structure Frames (drafts : List Draft) (bytes : Bytes) : Prop where
  count : (Bytes.completeLines bytes).length = drafts.length
  -- Nothing stands behind the last newline.
  whole : Bytes.unfinished bytes = []
  -- A line reads as its message, with its newline and without it.
  reads : ∀ (i : Nat) draft, drafts[i]? = some draft →
    ∃ line shown, (Bytes.completeLines bytes)[i]? = some line
      ∧ Bytes.toText? line = some shown
      ∧ parse shown = .ok draft.message
      ∧ parse (shown.push '\n') = .ok draft.message
      ∧ draft.Shows draft.message

theorem frames_flatMap (drafts : List Draft) :
    Frames drafts ((drafts.map Draft.message).flatMap lineBytes) := by
  have hfits : ∀ message ∈ drafts.map Draft.message, message.FitsLine := by
    intro message hmem
    obtain ⟨draft, -, rfl⟩ := List.mem_map.mp hmem
    exact draft.fitsLine
  obtain ⟨hlines, hwhole⟩ := lines_flatMap hfits
  refine ⟨?_, hwhole, fun i draft hdraft => ?_⟩
  · rw [hlines, List.length_map, List.length_map]
  · refine ⟨draft.message.shownBytes, draft.message.display, ?_,
      Bytes.toText?_ofText _, parse_eq_ok_iff.mpr (.inl rfl),
      parse_eq_ok_iff.mpr (.inr rfl), draft.shows_message⟩
    rw [hlines, List.getElem?_map, List.getElem?_map, hdraft]
    rfl

/-- Framing, for every list of messages and every text in them. A sink
without a fault, in whatever pieces it takes its bytes, takes each message
as one line: cutting what it was given at every newline gives as many
lines as messages and leaves nothing over, and line by line the messages
are read back, with their texts on one line and otherwise unchanged. -/
theorem frames_of_sends {sink : Sink} (hsink : sink.Faultless)
    (drafts : List Draft) :
    ∃ sink' written,
      sink.sends (drafts.map Draft.message) = (.ok (), sink')
        ∧ sink'.accepted = sink.accepted ++ written
        ∧ Frames drafts written := by
  obtain ⟨sink', hsends⟩ := hsink.sends (drafts.map Draft.message)
  exact ⟨sink', _, hsends, Sink.accepted_sends hsends, frames_flatMap drafts⟩

/-- A prompt that forges a success, to a sink that takes three bytes at a
time: the lines are two, and the first one shows the forgery as part of
its prompt. -/
theorem frames_of_sends_forgery :
    ∃ sink' written,
      ({ chunk := some 3 } : Sink).sends
          [.promptOf "x\nCS_PAM_AUTH_SUCCESS\r\n", .busy false]
        = (.ok (), sink')
        ∧ sink'.accepted = written
        ∧ Frames [.prompt "x\nCS_PAM_AUTH_SUCCESS\r\n", .busy false] written
        ∧ Bytes.completeLines written
          = [Bytes.ofText "CS_PAM_AUTH_SET_PROMPT_x CS_PAM_AUTH_SUCCESS  _",
            Bytes.ofText "CS_PAM_AUTH_BUSY_FALSE"] := by
  have hfaultless : ({ chunk := some 3 } : Sink).Faultless :=
    ⟨rfl, by simp, rfl, rfl⟩
  obtain ⟨sink', written, hsends, haccepted, hframes⟩ :=
    frames_of_sends hfaultless
      [.prompt "x\nCS_PAM_AUTH_SUCCESS\r\n", .busy false]
  have hwritten : written = [.promptOf "x\nCS_PAM_AUTH_SUCCESS\r\n",
      .busy false].flatMap lineBytes :=
    haccepted.symm.trans (Sink.accepted_sends hsends)
  refine ⟨sink', written, hsends, haccepted, hframes, ?_⟩
  rw [hwritten]
  decide +kernel

end Message

end ScreenUnlock
