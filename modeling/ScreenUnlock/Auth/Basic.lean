/-
What the helper asks of a credential backend.

A backend never talks to the screen locker. It makes requests of a
conversation, one after the other, and ends with a result. One call of a
backend is a `Verification`: a tree whose branches are the replies that
its requests may get. Every path through the tree is finite; a call that
never comes back is one that is never run to its end.

Every way in which a call can fail counts as one rejected attempt.
-/
import ScreenUnlock.Slot.Basic

namespace ScreenUnlock

-- ============================================================ the errors

/-- Why an attempt failed. -/
inductive AuthError where
  | rejected
  -- The conversation gave no answer.
  | aborted
  | unavailable (cause : String)
  -- The credential was right, but the account cannot be used.
  | accountInvalid (cause : String)
  deriving DecidableEq, Repr

/-- The wording of the failure. -/
def AuthError.message : AuthError → String
  | rejected => "credential rejected"
  | aborted => "conversation aborted"
  | unavailable cause => "authentication unavailable: " ++ cause
  | accountInvalid cause => "account invalid: " ++ cause

-- ========================================================== the requests

/-- The kind of a request. -/
inductive Style where
  | promptEchoOff
  | promptEchoOn
  | errorMsg
  | textInfo
  deriving DecidableEq, Repr

/-- The kind in words. -/
def Style.name : Style → String
  | promptEchoOff => "prompt_echo_off"
  | promptEchoOn => "prompt_echo_on"
  | errorMsg => "error_msg"
  | textInfo => "text_info"

/-- Who is authenticated, and on which display. -/
structure AuthContext where
  user : String
  display : Option String := none
  deriving DecidableEq, Repr

-- =========================================================== the backend

/-- One call of a backend. -/
inductive Verification where
  -- The call returns; without an error the user is authenticated.
  | finish (failure : Option AuthError)
  | crash
  -- The call does nothing for so many milliseconds.
  | pause (milliseconds : Nat) (rest : Verification)
  | converse (style : Style) (text : String)
      (rest : Option Secret → Verification)

/-- The replies that a call got, one for each request, in order. -/
abbrev Transcript := List (Option Secret)

/-- The calls before one: how many there were, and what each got. -/
structure Precedents where
  count : Nat
  -- The transcript of each call, by its number from 0.
  transcript : Nat → Transcript

/-- A credential backend. -/
structure Authenticator where
  -- Whether the backend can be used at all; asked once, at start-up.
  probe : Except AuthError Unit
  -- The call for one attempt, given the calls before it.
  verify : AuthContext → Precedents → Verification

end ScreenUnlock
