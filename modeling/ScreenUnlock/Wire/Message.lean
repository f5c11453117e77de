/-
The lines the helper sends to the screen locker.

Each message is one line. Four of them are fixed words; a prompt and an
information carry a text, which stands between a fixed beginning and a
closing underscore. A text made by the constructors `Message.promptOf`
and `Message.infoOf` holds no line break, because each one has become a
space, so no text can end its line early and start another.

`Message.display` is the printer and `Message.parse` the reader of
these lines. The reader takes at most one newline off the end and then
recognises exactly what the printer writes.
-/
import ScreenUnlock.Bytes

namespace ScreenUnlock

/-- A message from the helper to the screen locker. -/
inductive Message where
  -- The last credential was rejected; another attempt follows.
  | failure
  | success
  | cancelled
  -- Whether verification is busy (send nothing) or ready for an answer.
  | busy (isBusy : Bool)
  | prompt (text : String)
  | info (text : String)
  deriving DecidableEq, Repr

namespace Message

-- ============================================================= the text

/-- A line break inside a text becomes a space. -/
def flattenChar (c : Char) : Char :=
  if c = '\r' ∨ c = '\n' then ' ' else c

/-- The text on one line: each carriage return and each line feed is
replaced by one space, so the number of characters stays. -/
def flatten (text : String) : String :=
  String.ofList (text.toList.map flattenChar)

/-- The prompt with this text, kept on one line. -/
def promptOf (text : String) : Message :=
  prompt (flatten text)

/-- The information with this text, kept on one line. -/
def infoOf (text : String) : Message :=
  info (flatten text)

-- ========================================================== the printer

/-- The beginning of a prompt line. -/
def promptMark : String := "CS_PAM_AUTH_SET_PROMPT_"

/-- The beginning of an information line. -/
def infoMark : String := "CS_PAM_AUTH_SET_INFO_"

/-- The character that closes the text of a prompt or an information. -/
def closingMark : Char := '_'

/-- The message as written, without its newline. -/
def display : Message → String
  | failure => "CS_PAM_AUTH_FAILURE"
  | success => "CS_PAM_AUTH_SUCCESS"
  | cancelled => "CS_PAM_AUTH_CANCELLED"
  | busy true => "CS_PAM_AUTH_BUSY_TRUE"
  | busy false => "CS_PAM_AUTH_BUSY_FALSE"
  | prompt text => (promptMark ++ text).push closingMark
  | info text => (infoMark ++ text).push closingMark

/-- The whole line, with its newline. -/
def line (message : Message) : String :=
  message.display.push '\n'

/-- The bytes of the whole line. -/
def lineBytes (message : Message) : Bytes :=
  Bytes.ofText message.line

/-- Whether the session is over once this message is sent. -/
def isTerminal : Message → Bool
  | success => true
  | cancelled => true
  | _ => false

-- =========================================================== the reader

/-- The characters without one newline at their end, if there is one. -/
def dropNewline (chars : List Char) : List Char :=
  if chars.getLast? = some '\n' then chars.dropLast else chars

/-- The text between `mark` and the closing mark. The closing mark is a
character of its own: the last one of `mark` does not count for it. -/
def framed? (mark : String) (chars : List Char) : Option String := do
  let rest ← mark.toList.isPrefixOf? chars
  if rest.getLast? = some closingMark then
    some (String.ofList rest.dropLast)
  else none

/-- The messages without a text. -/
def fixed : List Message :=
  [failure, success, cancelled, busy true, busy false]

/-- The message that a line without its newline shows. -/
def ofDisplay? (chars : List Char) : Option Message :=
  match fixed.find? (fun message => message.display.toList = chars) with
  | some message => some message
  | none =>
    match framed? promptMark chars with
    | some text => some (prompt text)
    | none => (framed? infoMark chars).map info

/-- Why a line could not be read. -/
inductive ParseError where
  -- The line (its newline taken off) shows no message.
  | invalidMessage (line : String)
  deriving DecidableEq, Repr

/-- The wording of the failure. -/
def ParseError.message : ParseError → String
  | invalidMessage line => "invalid message: " ++ line

/-- Read a line, with or without its newline. -/
def parse (line : String) : Except ParseError Message :=
  let chars := dropNewline line.toList
  match ofDisplay? chars with
  | some message => .ok message
  | none => .error (.invalidMessage (String.ofList chars))

end Message

end ScreenUnlock
