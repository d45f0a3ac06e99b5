/-!
# Reading UTF-8

A run of bytes is read as characters; a byte that does not take part in the
encoding of one stands by itself.  No byte of ASCII is ever taken into another
character, so what is wrong in one place does not hide what follows.
-/

namespace CivicRegistry.Text

/-- A character, or nothing for a byte that encodes none. -/
abbrev Symbol := Option Char

/-- The symbols from the given position on. -/
def symbolsFrom (bytes : ByteArray) (position : Nat) : List Symbol :=
  if position < bytes.size then
    match bytes.utf8DecodeChar? position with
    | some c => some c :: symbolsFrom bytes (position + c.utf8Size)
    | none => none :: symbolsFrom bytes (position + 1)
  else []
termination_by bytes.size - position
decreasing_by
  · have := Char.utf8Size_pos c
    omega
  · omega

/-- The symbols of a run of bytes. -/
def symbols (bytes : ByteArray) : List Symbol :=
  symbolsFrom bytes 0

/-- The symbols of a text are its characters. -/
def symbolsOfText (text : String) : List Symbol :=
  text.toList.map some

/-- The text of a run of bytes, where every byte takes part in a character. -/
def textOfBytes? (bytes : ByteArray) : Option String :=
  ((symbols bytes).mapM id).map String.ofList

end CivicRegistry.Text
