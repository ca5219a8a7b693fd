import Gateway.Binary64.Shortest
import Gateway.Json.Basic

/-!
# Writing JSON

The compact form: no blanks, members in the order in which the value holds them. A string escapes the
double quote, the backslash and the control characters below U+0020 and nothing else; five of the
control characters have a short escape. A binary number has the fewest digits that read back, and a
point even when it is whole.
-/

namespace Gateway.Json

open Gateway.Binary64 (Layout)

/-- Plain notation serves decimal exponents from -5 to 15. -/
def numberLayout : Layout where
  leastPlain := -5
  leastScientific := 16

/-- A hexadecimal digit in lower case. -/
def hexDigit (n : Nat) : Char :=
  Nat.digitChar n

/-- A character as a string writes it. -/
def escapeChar (c : Char) : List Char :=
  if c = '"' then ['\\', '"']
  else if c = '\\' then ['\\', '\\']
  else if 0x20 ≤ c.toNat then [c]
  else if c.toNat = 0x08 then ['\\', 'b']
  else if c.toNat = 0x09 then ['\\', 't']
  else if c.toNat = 0x0A then ['\\', 'n']
  else if c.toNat = 0x0C then ['\\', 'f']
  else if c.toNat = 0x0D then ['\\', 'r']
  else ['\\', 'u', '0', '0', hexDigit (c.toNat / 16), hexDigit (c.toNat % 16)]

/-- A string between its quotes. -/
def printString (s : String) : List Char :=
  '"' :: (s.toList.flatMap escapeChar ++ ['"'])

/-- A whole number. -/
def printInt (n : Int) : List Char :=
  if n < 0 then '-' :: Nat.toDigits 10 n.natAbs else Nat.toDigits 10 n.natAbs

mutual

/-- The characters of a value. -/
def chars : Json → List Char
  | .null => ['n', 'u', 'l', 'l']
  | .bool true => ['t', 'r', 'u', 'e']
  | .bool false => ['f', 'a', 'l', 's', 'e']
  | .int n => printInt n
  | .float x => numberLayout.text x
  | .str s => printString s
  | .arr items => '[' :: (itemChars items ++ [']'])
  | .obj members => '\x7b' :: (memberChars members ++ ['\x7d'])

/-- Items with a comma between any two. -/
def itemChars : List Json → List Char
  | [] => []
  | [value] => value.chars
  | value :: rest => value.chars ++ ',' :: itemChars rest

/-- Members with a comma between any two. -/
def memberChars : List (String × Json) → List Char
  | [] => []
  | [(k, v)] => printString k ++ ':' :: v.chars
  | (k, v) :: rest => printString k ++ ':' :: (v.chars ++ ',' :: memberChars rest)

end

/-- **The text of a value.** -/
def text (value : Json) : String :=
  String.ofList value.chars

end Gateway.Json
