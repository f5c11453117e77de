/-
Reading keys and values.

A `Reading` looks at characters from the front and gives a result and
the characters that are left, or refuses. Which rule applies is always
told by the next few characters, so a refusal never has to be taken
back, but for the three optional parts of a date.

Arrays and inline tables may be nested up to a limit, which is what
`value` recurses on.
-/
import ScreenUnlock.Toml.Tree

namespace ScreenUnlock.Toml

/-- Reads something from the front of the characters. -/
abbrev Reading (α : Type) := StateT (List Char) Option α

namespace Reading

-- =========================================================== the basics

/-- The next character, which stays. -/
def peek? : Reading (Option Char) := do
  return (← get).head?

/-- The next character, if it satisfies the condition. -/
def next (condition : Char → Bool) : Reading Char := fun chars =>
  match chars with
  | c :: rest => if condition c then some (c, rest) else none
  | [] => none

/-- The character `c`. -/
def char (c : Char) : Reading Unit := do
  let _ ← next (· = c)

/-- The characters of `word`. -/
def word (word : String) : Reading Unit := fun chars =>
  (word.toList.isPrefixOf? chars).map fun rest => ((), rest)

/-- Whether the characters begin with `word`; they stay. -/
def looksAt (word : String) : Reading Bool := do
  return word.toList.isPrefixOf (← get)

/-- The longest run of characters that satisfy the condition. -/
def run (condition : Char → Bool) : Reading (List Char) := fun chars =>
  some (chars.takeWhile condition, chars.dropWhile condition)

/-- A run that is not empty. -/
def run1 (condition : Char → Bool) : Reading (List Char) := do
  let first ← next condition
  return first :: (← run condition)

/-- What `reading` reads, or nothing where it refuses. -/
def perhaps {α : Type} (reading : Reading α) : Reading (Option α) :=
  fun chars =>
    match reading chars with
    | some (result, rest) => some (some result, rest)
    | none => some (none, chars)

/-- What `reading` reads again and again until it refuses, at most once
for each element of the first list; `found` holds what was read before,
the latest first. -/
def repeated {α : Type} (reading : Reading α) (found : List α) :
    List Char → List Char → List α × List Char
  | [], chars => (found.reverse, chars)
  | _ :: fuel, chars =>
    match reading chars with
    | none => (found.reverse, chars)
    | some (result, rest) => repeated reading (result :: found) fuel rest

/-- What `reading` reads again and again until it refuses. Each time it
reads at least one character, so there are not more times than
characters. -/
def many {α : Type} (reading : Reading α) : Reading (List α) := fun chars =>
  some (repeated reading [] chars chars)

end Reading

open Reading

-- ======================================================= character sets

/-- A blank or a tab. -/
def isBlank (c : Char) : Bool :=
  c = ' ' ∨ c = '\t'

/-- Everything beyond ASCII. -/
def isForeign (c : Char) : Bool :=
  decide (0x80 ≤ c.toNat)

/-- What may stand in a comment. -/
def isComment (c : Char) : Bool :=
  c = '\t' ∨ (0x20 ≤ c.toNat ∧ c.toNat ≤ 0x7e) ∨ isForeign c

/-- What may stand in a string in double quotes as it is. -/
def isBasic (c : Char) : Bool :=
  isComment c ∧ c ≠ '"' ∧ c ≠ '\\'

/-- What may stand in a string in single quotes. -/
def isLiteral (c : Char) : Bool :=
  isComment c ∧ c ≠ '\''

/-- What may stand in a key without quotes. -/
def isBare (c : Char) : Bool :=
  c.isAlphanum ∨ c = '-' ∨ c = '_'

/-- A hexadecimal digit. -/
def isHex (c : Char) : Bool :=
  c.isDigit ∨ ('a' ≤ c ∧ c ≤ 'f') ∨ ('A' ≤ c ∧ c ≤ 'F')

/-- The number that a digit stands for. -/
def digitValue (c : Char) : Nat :=
  if c.isDigit then c.toNat - '0'.toNat
  else if 'a' ≤ c then c.toNat - 'a'.toNat + 10
  else c.toNat - 'A'.toNat + 10

/-- The number that digits stand for. -/
def numeral (base : Nat) (digits : List Char) : Nat :=
  digits.foldl (fun number c => number * base + digitValue c) 0

/-- The digits without the zeros in front. -/
def significant (digits : List Char) : List Char :=
  digits.dropWhile (· = '0')

/-- The number that digits stand for, unless they are more than 64, which
is too many for an integer in every base. -/
def integerNumeral? (base : Nat) (digits : List Char) : Option Nat :=
  let digits := significant digits
  if digits.length ≤ 64 then some (numeral base digits) else none

-- ============================================================ the blanks

/-- Blanks and tabs. -/
def blanks : Reading Unit := do
  let _ ← run isBlank

/-- The end of a line. -/
def newline : Reading Unit := do
  if (← peek?) = some '\r' then word "\r\n" else char '\n'

/-- The end of a line, or of the document. -/
def lineEnd : Reading Unit := do
  if (← get).isEmpty then return else newline

/-- A comment, up to the end of its line. -/
def comment : Reading Unit := do
  char '#'
  let _ ← run isComment

/-- What may follow a header or a value on its line. -/
def lineRest : Reading Unit := do
  blanks
  if (← peek?) = some '#' then comment
  lineEnd

/-- One blank, comment or line end between the items of an array. A
comment there is followed by the end of its line. -/
def gap : Reading Unit := do
  match ← peek? with
  | some '#' => comment; newline
  | some '\n' => newline
  | some '\r' => newline
  | _ => let _ ← next isBlank

/-- Everything that may stand between the items of an array. -/
def gaps : Reading Unit := do
  let _ ← many gap

-- =========================================================== the strings

/-- The character with a number of so many hexadecimal digits. -/
def codePoint (count : Nat) : Reading Char := do
  let digits := (← get).take count
  if digits.length = count ∧ digits.all isHex then
    set ((← get).drop count)
    let number := numeral 16 digits
    if h : number.isValidChar then return Char.ofNatAux number h else failure
  else failure

/-- A character that is written with a backslash. -/
def escaped : Reading Char := do
  char '\\'
  match ← next (fun _ => true) with
  | 'b' => return '\x08'
  | 't' => return '\t'
  | 'n' => return '\n'
  | 'f' => return '\x0c'
  | 'r' => return '\r'
  | '"' => return '"'
  | '\\' => return '\\'
  | 'u' => codePoint 4
  | 'U' => codePoint 8
  | _ => failure

/-- A string in double quotes, on one line. -/
def basicText : Reading String := do
  char '"'
  let chars ← many do
    if (← peek?) = some '\\' then escaped else next isBasic
  char '"'
  return String.ofList chars

/-- A string in single quotes, on one line. -/
def literalText : Reading String := do
  char '\''
  let chars ← run isLiteral
  char '\''
  return String.ofList chars

/-- The number of quotes `quote` that come next; they stay. -/
def quotesAhead (quote : Char) : Reading Nat := do
  return ((← get).takeWhile (· = quote)).length

/-- One or two quotes inside a string of several lines. -/
def innerQuotes (quote : Char) : Reading (List Char) := do
  if (← quotesAhead quote) < 3 then run1 (· = quote) else failure

/-- The end of a string of several lines: three quotes, before which up
to two more belong to the string. -/
def closingQuotes (quote : Char) : Reading (List Char) := do
  let count := min (← quotesAhead quote) 5
  if count < 3 then failure
  set ((← get).drop count)
  return List.replicate (count - 3) quote

/-- A backslash at the end of a line: it takes all blanks and line ends
behind it away. -/
def continuedLine : Reading (List Char) := do
  char '\\'
  blanks
  newline
  let _ ← many do
    if ((← peek?).map isBlank).getD false then
      let _ ← next isBlank
    else newline
  return []

/-- Whether the backslash that comes next ends its line. -/
def looksContinued : Reading Bool := do
  match ((← get).drop 1).dropWhile isBlank with
  | '\n' :: _ => return true
  | '\r' :: '\n' :: _ => return true
  | _ => return false

/-- A line end inside a string; it counts as a line feed. -/
def innerNewline : Reading (List Char) := do
  newline
  return ['\n']

/-- A string of several lines. The line end right behind its opening
quotes does not belong to it. -/
def longText (quote : Char) (piece : Reading (List Char)) :
    Reading String := do
  word (String.ofList [quote, quote, quote])
  let _ ← perhaps newline
  let pieces ← many do
    match ← peek? with
    | some '\n' => innerNewline
    | some '\r' => innerNewline
    | some c => if c = quote then innerQuotes quote else piece
    | none => failure
  let last ← closingQuotes quote
  return String.ofList (pieces.flatten ++ last)

/-- A string of several lines in double quotes. -/
def longBasicText : Reading String :=
  longText '"' do
    if (← peek?) = some '\\' then
      if ← looksContinued then continuedLine else return [← escaped]
    else return [← next isBasic]

/-- A string of several lines in single quotes. -/
def longLiteralText : Reading String :=
  longText '\'' do return [← next isLiteral]

/-- A string. -/
def text : Reading String := do
  if ← looksAt "\"\"\"" then longBasicText
  else if ← looksAt "'''" then longLiteralText
  else if (← peek?) = some '"' then basicText
  else literalText

-- ============================================================== the keys

/-- One key. -/
def simpleKey : Reading String := do
  match ← peek? with
  | some '"' => basicText
  | some '\'' => literalText
  | _ => return String.ofList (← run1 isBare)

/-- How deep arrays and inline tables may be nested, and how many keys a
dotted key may have. -/
def nestingLimit : Nat := 79

/-- A key, dotted or not, with the blanks around it. -/
def keyPath : Reading KeyPath := do
  blanks
  let first ← simpleKey
  blanks
  let others ← many do
    char '.'
    blanks
    let key ← simpleKey
    blanks
    return key
  let keys := first :: others
  if nestingLimit < keys.length then failure
  match keys.getLast? with
  | some last => return ⟨keys.dropLast, last⟩
  | none => failure

-- ============================================================= the dates

/-- So many digits. -/
def digits (count : Nat) : Reading Nat := do
  let found := (← get).take count
  if found.length = count ∧ found.all Char.isDigit then
    set ((← get).drop count)
    return numeral 10 found
  else failure

/-- So many digits whose number lies between two others. -/
def digitsWithin (count low high : Nat) : Reading Nat := do
  let number ← digits count
  if low ≤ number ∧ number ≤ high then return number else failure

/-- The days of a month. -/
def daysIn (year month : Nat) : Nat :=
  if month = 2 then
    if year % 4 = 0 ∧ (year % 100 ≠ 0 ∨ year % 400 = 0) then 29 else 28
  else if month = 4 ∨ month = 6 ∨ month = 9 ∨ month = 11 then 30
  else 31

/-- A date. -/
def date : Reading Unit := do
  let year ← digits 4
  char '-'
  let month ← digitsWithin 2 1 12
  char '-'
  let _ ← digitsWithin 2 1 (daysIn year month)

/-- A time; a minute may have a second 60. -/
def time : Reading Unit := do
  let _ ← digitsWithin 2 0 23
  char ':'
  let _ ← digitsWithin 2 0 59
  char ':'
  let _ ← digitsWithin 2 0 60
  let _ ← perhaps do
    char '.'
    run1 Char.isDigit

/-- How far a time is from the time of the prime meridian. -/
def offset : Reading Unit := do
  let c ← next (fun c => c = 'Z' ∨ c = 'z' ∨ c = '+' ∨ c = '-')
  if c = '+' ∨ c = '-' then
    let _ ← digitsWithin 2 0 23
    char ':'
    let _ ← digitsWithin 2 0 59

/-- A date, perhaps with a time behind a blank or a letter T. -/
def dateAndTime : Reading Unit := do
  date
  let _ ← perhaps do
    let _ ← next (fun c => c = 'T' ∨ c = 't' ∨ c = ' ')
    time
    let _ ← perhaps offset

-- =========================================================== the numbers

/-- A digit behind another one, perhaps with an underscore before it. An
underscore is followed by a digit. -/
def anotherDigit (isDigit : Char → Bool) : Reading Char := do
  let _ ← perhaps (char '_')
  next isDigit

/-- Digits, the underscores between them left out. -/
def digitRun (isDigit : Char → Bool) : Reading (List Char) := do
  let first ← next isDigit
  let more ← many (anotherDigit isDigit)
  if (← peek?) = some '_' then failure
  return first :: more

/-- A sign: whether it is a minus. -/
def sign : Reading Bool := do
  match ← peek? with
  | some '-' => char '-'; return true
  | some '+' => char '+'; return false
  | _ => return false

/-- The digits of a decimal integer, which has no leading zero. -/
def wholeDigits : Reading (List Char) := do
  if (← peek?) = some '0' then
    char '0'
    return ['0']
  else digitRun Char.isDigit

/-- An integer in another base; its sign is always plus. -/
def basedInteger (mark : String) (base : Nat) (isDigit : Char → Bool) :
    Reading Value := do
  word mark
  let number ← liftM (integerNumeral? base (← digitRun isDigit))
  if number < Nat.pow 2 63 then return .integer number else failure

/-- The number that the digits of an exponent stand for. Once it has
reached 2 ^ 16, which is far beyond every double, further digits do not
count. -/
def exponentNumeral (digits : List Char) : Nat :=
  digits.foldl
    (fun number c =>
      if number < Nat.pow 2 16 then number * 10 + digitValue c else number)
    0

/-- The exponent of a float. -/
def exponent : Reading Int := do
  let _ ← next (fun c => c = 'e' ∨ c = 'E')
  let negative ← sign
  let number := exponentNumeral (← digitRun Char.isDigit)
  return if negative then -(number : Int) else number

/-- Whether `digits · 10 ^ scale` is too large for a double. The bound
lies halfway between the largest double and the next power of two. -/
def overflows (digits : List Char) (scale : Int) : Bool :=
  let digits := significant digits
  let bound := Nat.pow 2 1024 - Nat.pow 2 970
  let size : Int := digits.length + scale
  if digits = [] ∨ size < 300 then false
  else if 320 < size then true
  else if 0 ≤ scale then
    decide (bound ≤ numeral 10 digits * Nat.pow 10 scale.toNat)
  else decide (bound * Nat.pow 10 (-scale).toNat ≤ numeral 10 digits)

/-- What may follow the whole digits of a number: nothing for an integer,
a fraction or an exponent or both for a float. -/
def decimalNumber : Reading Value := do
  let negative ← sign
  let whole ← wholeDigits
  let fraction : Option (List Char) ←
    if (← peek?) = some '.' then
      char '.'
      pure (some (← digitRun Char.isDigit))
    else pure none
  let power : Option Int ←
    if (← peek?) = some 'e' ∨ (← peek?) = some 'E' then
      pure (some (← exponent))
    else pure none
  if fraction.isSome ∨ power.isSome then
    let behind := fraction.getD []
    if negative = false
        ∧ overflows (whole ++ behind) (power.getD 0 - behind.length) then
      failure
    return .float
  else
    let number ← liftM (integerNumeral? 10 whole)
    if negative then
      if number ≤ Nat.pow 2 63 then return .integer (-(number : Int))
      else failure
    else
      if number < Nat.pow 2 63 then return .integer number else failure

/-- A float that is no number, or infinite. -/
def specialFloat : Reading Value := do
  let _ ← sign
  if (← peek?) = some 'i' then word "inf" else word "nan"
  return .float

/-- A number. -/
def number : Reading Value := do
  let unsigned := (← get).dropWhile (fun c => c = '+' ∨ c = '-')
  if unsigned.head? = some 'i' ∨ unsigned.head? = some 'n' then specialFloat
  else if ← looksAt "0x" then basedInteger "0x" 16 isHex
  else if ← looksAt "0o" then basedInteger "0o" 8 (fun c => '0' ≤ c ∧ c ≤ '7')
  else if ← looksAt "0b" then basedInteger "0b" 2 (fun c => c = '0' ∨ c = '1')
  else decimalNumber

/-- Whether the next characters are so many digits and then `mark`. -/
def looksDigitsThen (count : Nat) (mark : Char) : Reading Bool := do
  let chars ← get
  return (chars.take count).length = count
    ∧ (chars.take count).all Char.isDigit
    ∧ (chars.drop count).head? = some mark

/-- A date, a time or a number. -/
def dateOrNumber : Reading Value := do
  if ← looksDigitsThen 4 '-' then
    dateAndTime
    return .datetime
  else if ← looksDigitsThen 2 ':' then
    time
    return .datetime
  else number

-- ============================================================ the values

/-- A value that holds no other values. -/
def scalar : Reading Value := do
  match ← peek? with
  | some '"' => return .text (← text)
  | some '\'' => return .text (← text)
  | some 't' => word "true"; return .boolean true
  | some 'f' => word "false"; return .boolean false
  | _ => dateOrNumber

/-- An array. A comma may follow its last item. -/
def array (item : Reading Value) : Reading Value := do
  let spaced : Reading Value := do
    let value ← item
    gaps
    return value
  char '['
  gaps
  if (← peek?) = some ']' then
    char ']'
    return .array []
  else
    let first ← spaced
    let others ← many do
      char ','
      gaps
      spaced
    let _ ← perhaps do
      char ','
      gaps
    char ']'
    return .array (first :: others)

/-- A key and its value, with the blanks around them. -/
def keyValue (item : Reading Value) : Reading (KeyPath × Value) := do
  let path ← keyPath
  char '='
  blanks
  let value ← item
  return (path, value)

/-- An inline table, on one line but for the values in it. -/
def inlineTable (item : Reading Value) : Reading Value := do
  let spaced : Reading (KeyPath × Value) := do
    let pair ← keyValue item
    blanks
    return pair
  char '{'
  blanks
  if (← peek?) = some '}' then
    char '}'
    return .table []
  else
    let first ← spaced
    let others ← many do
      char ','
      spaced
    char '}'
    let entries : Entries ← (first :: others).foldlM
      (fun entries (path, value) =>
        liftM (define path value .header entries))
      []
    return .table (freezeEntries entries)

/-- A value in which arrays and inline tables are nested at most so
deep. -/
def value : Nat → Reading Value
  | 0 => scalar
  | depth + 1 => do
    match ← peek? with
    | some '[' => array (value depth)
    | some '{' => inlineTable (value depth)
    | _ => scalar

end ScreenUnlock.Toml
