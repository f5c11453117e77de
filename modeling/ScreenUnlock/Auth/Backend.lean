/-
Backends.

`Authenticator.unsupported` stands where no mechanism was built in: its
probe and each of its calls fail. `Authenticator.fixed` knows one
password. `Authenticator.scripted` replays a list of attempts and
repeats the last one.
-/
import ScreenUnlock.Auth.Basic

namespace ScreenUnlock

-- ======================================================= no mechanism

/-- The failure of a helper without a mechanism. -/
def AuthError.unsupported : AuthError :=
  .unavailable "not compiled with locking support"

/-- The backend of a helper without a mechanism. -/
def Authenticator.unsupported : Authenticator :=
  { probe := .error .unsupported
    verify := fun _ _ => .finish (some .unsupported) }

-- ===================================================== one known password

/-- A backend that knows one password. -/
structure FixedPassword where
  password : String := "mock-password"
  prompt : String := "Password:"
  info : Option String := none
  error : Option String := none
  -- Why no call can run, if none can.
  unavailable : Option String := none
  -- Why the probe fails, if it does.
  probeError : Option String := none
  -- How long each call waits before it begins.
  delay : Option Nat := none
  deriving DecidableEq, Repr

namespace FixedPassword

/-- Ask once, and compare the answer with the password byte by byte. No
answer aborts the attempt. -/
def ask (backend : FixedPassword) : Verification :=
  .converse .promptEchoOff backend.prompt fun
    | none => .finish (some .aborted)
    | some answer =>
      if answer.bytes = Bytes.ofText backend.password then .finish none
      else .finish (some .rejected)

/-- Send the texts that come before the prompt, then ask. -/
def talk (backend : FixedPassword) : Verification :=
  let afterInfo := match backend.error with
    | none => backend.ask
    | some text => .converse .errorMsg text fun _ => backend.ask
  match backend.info with
  | none => afterInfo
  | some text => .converse .textInfo text fun _ => afterInfo

/-- One call. -/
def verification (backend : FixedPassword) : Verification :=
  let body := match backend.unavailable with
    | some cause => .finish (some (.unavailable cause))
    | none => backend.talk
  match backend.delay with
  | none => body
  | some milliseconds => .pause milliseconds body

end FixedPassword

/-- The backend that knows one password; all its calls are alike. -/
def Authenticator.fixed (backend : FixedPassword) : Authenticator :=
  { probe := match backend.probeError with
      | some cause => .error (.unavailable cause)
      | none => .ok ()
    verify := fun _ _ => backend.verification }

-- =============================================================== a script

/-- One line of a script. -/
inductive ScriptStep where
  | pause (milliseconds : Nat)
  -- Make a request. Unless it is optional, a prompt without an answer
  -- aborts the attempt, and an answer other than the expected one rejects
  -- it.
  | converse (style : Style) (text : String) (expect : Option Bytes)
      (optional : Bool)
  deriving DecidableEq, Repr

/-- How a scripted attempt ends when all its steps are done. -/
inductive ScriptEnd where
  | finish (failure : Option AuthError)
  | crash
  deriving DecidableEq, Repr

/-- One scripted attempt. -/
structure ScriptAttempt where
  steps : List ScriptStep
  result : ScriptEnd
  deriving DecidableEq, Repr

namespace ScriptAttempt

/-- Why the attempt ends early with this reply, if it does. -/
def objection (style : Style) (expect : Option Bytes) (optional : Bool)
    (reply : Option Secret) : Option AuthError :=
  if optional then none
  else if style = .promptEchoOff ∧ reply = none then some .aborted
  else
    match expect with
    | none => none
    | some bytes => if reply = some ⟨bytes⟩ then none else some .rejected

/-- The call that goes through these steps. -/
def run (result : ScriptEnd) : List ScriptStep → Verification
  | [] =>
    match result with
    | .finish failure => .finish failure
    | .crash => .crash
  | .pause milliseconds :: steps => .pause milliseconds (run result steps)
  | .converse style text expect optional :: steps =>
    .converse style text fun reply =>
      match objection style expect optional reply with
      | some failure => .finish (some failure)
      | none => run result steps

end ScriptAttempt

/-- The backend that replays these attempts, the last one again and
again. Without any attempt each call breaks down. -/
def Authenticator.scripted (attempts : List ScriptAttempt) : Authenticator :=
  { probe := .ok ()
    verify := fun _ earlier =>
      match attempts[min earlier.count (attempts.length - 1)]? with
      | some attempt => ScriptAttempt.run attempt.result attempt.steps
      | none => .crash }

-- ===================================================== calling a backend

/-- What a call asked and how it ended. -/
structure Interview where
  seen : List (Style × String)
  -- How the call ended; a call that broke down has no result.
  result : Option (Option AuthError)
  left : List (Option Secret)

/-- Run a call to its end with prepared answers: each prompt without
echo gets the next one (none if they have run out), every other request
gets no reply. -/
def Verification.interview : Verification → List (Option Secret) → Interview
  | .finish failure, answers => ⟨[], some failure, answers⟩
  | .crash, answers => ⟨[], none, answers⟩
  | .pause _ rest, answers => rest.interview answers
  | .converse style text rest, answers =>
    let reply := if style = .promptEchoOff then answers.head?.join else none
    let answers' := if style = .promptEchoOff then answers.tail else answers
    let later := (rest reply).interview answers'
    { later with seen := (style, text) :: later.seen }

/-- Why locking cannot be set up with a backend. -/
def Authenticator.lockInit (authenticator : Authenticator) :
    Except AuthError Unit :=
  authenticator.probe

end ScreenUnlock
