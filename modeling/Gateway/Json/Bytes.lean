import Gateway.Json.Reader
import Gateway.Text.Utf8

/-!
# JSON in bytes

JSON is a text, but the bytes in which it comes need not be one. A byte that belongs to no character
can only do harm inside a string, and there only when somebody looks at that string. The escape of half
a surrogate pair is such a thing, too, so `textOfBytes` spells the one as the other and leaves it to the
reader of the text what is looked at.
-/

namespace Gateway.Json

open Gateway.Text

/-- The escape of half a surrogate pair. -/
def halfPair : List Char := "\\udc80".toList

/-- A character that nothing in JSON admits where it stands. -/
def misplaced : Char := Char.ofNat 0

/-- Spell the errors among characters; `escaped` says that a backslash comes before that is not itself
escaped. -/
def spellErrors (escaped : Bool) : List (Option Char) → List Char
  | [] => []
  | some c :: rest => c :: spellErrors (c == '\\' && !escaped) rest
  | none :: rest =>
    -- Behind a backslash the escape would be read as an escaped backslash.
    (if escaped then [misplaced] else halfPair) ++ spellErrors false rest

/-- **The text of JSON bytes**, with what is no character spelled as half a surrogate pair. -/
def textOfBytes (bytes : List UInt8) : String :=
  String.ofList (spellErrors false (Utf8.pieces bytes))

/-- Read bytes as a value. -/
def readBytes? (bytes : List UInt8) : Option Json :=
  read? (textOfBytes bytes)

end Gateway.Json
