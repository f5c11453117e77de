/-
Bytes and the bytes of a text.

Everything the helper exchanges with the screen locker is a sequence of
bytes. Texts (prompts, names, paths) are strings; `Bytes.ofText` is the
one place where a text becomes bytes, and it goes character by
character, so a statement about the bytes of a text is a statement
about each of its characters.
-/
namespace ScreenUnlock

/-- A sequence of bytes, in order. -/
abbrev Bytes := List UInt8

namespace Bytes

/-- The byte that ends a line. -/
def newline : UInt8 := 10

/-- The UTF-8 bytes of a text. -/
def ofText (text : String) : Bytes :=
  text.toList.flatMap String.utf8EncodeChar

/-- The text with these UTF-8 bytes, if they are valid UTF-8. -/
def toText? (bytes : Bytes) : Option String :=
  String.fromUTF8? (ByteArray.mk bytes.toArray)

/-- As many zero bytes as asked for: what scrubbed memory holds. -/
def zeros (count : Nat) : Bytes :=
  List.replicate count 0

/-- Whether `part` occurs somewhere in the bytes, without gaps. -/
def contains (part : Bytes) : Bytes → Bool
  | [] => part.isEmpty
  | byte :: rest => part.isPrefixOf (byte :: rest) || contains part rest

/-- The pieces of the bytes, cut after each newline: all but the last
piece end with a newline, and the last is left out when it is empty. -/
def cutAfterNewlines : Bytes → List Bytes
  | [] => []
  | byte :: rest =>
    if byte = newline then [byte] :: cutAfterNewlines rest
    else
      match cutAfterNewlines rest with
      | [] => [[byte]]
      | piece :: pieces => (byte :: piece) :: pieces

end Bytes

end ScreenUnlock
