/-!
# UUIDs

The hyphenated form of a UUID: 32 hexadecimal digits, in either case, in groups of 8, 4, 4, 4 and 12.
`uuidDigits` and `uuidText` write a number as a UUID, without and with the hyphens.
-/

namespace Gateway.Text

/-- A hexadecimal digit in either case. -/
def isHexDigit (c : Char) : Bool :=
  c.isDigit || ('a' ≤ c && c ≤ 'f') || ('A' ≤ c && c ≤ 'F')

/-- The places of the hyphens. -/
def uuidHyphens : List Nat := [8, 13, 18, 23]

/-- The text is a hyphenated UUID. -/
def isUuid (s : List Char) : Bool :=
  s.length == 36 &&
    s.zipIdx.all fun (c, i) => if uuidHyphens.contains i then c == '-' else isHexDigit c

/-- A number in 32 hexadecimal digits; a larger number takes more. -/
def uuidDigits (n : Nat) : List Char :=
  let digits := Nat.toDigits 16 n
  List.replicate (32 - digits.length) '0' ++ digits

/-- Hyphens behind the groups of 8, 4, 4 and 4 digits. -/
def hyphenate (digits : List Char) : List Char :=
  digits.take 8 ++ '-' :: (digits.drop 8).take 4 ++ '-' :: (digits.drop 12).take 4
    ++ '-' :: (digits.drop 16).take 4 ++ '-' :: digits.drop 20

/-- A number as a hyphenated UUID. -/
def uuidText (n : Nat) : String :=
  String.ofList (hyphenate (uuidDigits n))

end Gateway.Text
