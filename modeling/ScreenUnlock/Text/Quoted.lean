/-
Texts in quotes, as messages show them.

A text stands between double quotes. Inside, quotes and backslashes have
a backslash in front of them, the usual control characters have their
letter, and every other hidden character is written by its code point.
-/
import ScreenUnlock.Text.Hidden

namespace ScreenUnlock.Text

/-- The hexadecimal digits of a number, without leading zeros. -/
def hexDigits (number : Nat) : List Char :=
  Nat.toDigits 16 number

/-- A character inside the quotes. -/
def quoteChar (c : Char) : List Char :=
  if c = '\x00' then ['\\', '0']
  else if c = '\t' then ['\\', 't']
  else if c = '\r' then ['\\', 'r']
  else if c = '\n' then ['\\', 'n']
  else if c = '"' ∨ c = '\\' then ['\\', c]
  else if isHidden c then
    ['\\', 'u', '\x7b'] ++ hexDigits c.toNat ++ ['\x7d']
  else [c]

/-- The text in quotes. -/
def quote (text : String) : String :=
  String.ofList ('"' :: text.toList.flatMap quoteChar ++ ['"'])

end ScreenUnlock.Text
