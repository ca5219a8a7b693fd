import Gateway.Text.Cut
import Gateway.Text.Utf8

/-!
# Percent escapes

In a path or a query a byte may be written as `%` and two hexadecimal digits; a `%` that is not
followed by two of them stands for itself. In a query a `+` stands for a blank, and pairs of names and
values are separated by `&`.
-/

namespace Gateway.Text.Percent

/-- The value of a byte that is a hexadecimal digit, in either case. -/
def hexByte? (b : UInt8) : Option UInt8 :=
  if 0x30 ≤ b && b ≤ 0x39 then some (b - 0x30)
  else if 0x61 ≤ b && b ≤ 0x66 then some (b - 0x61 + 10)
  else if 0x41 ≤ b && b ≤ 0x46 then some (b - 0x41 + 10)
  else none

/-- The bytes that an escaped byte string stands for. -/
def decodeBytes : List UInt8 → List UInt8
  | [] => []
  | 0x25 :: a :: b :: rest =>
    match hexByte? a, hexByte? b with
    | some high, some low => (high * 16 + low) :: decodeBytes rest
    -- The percent sign stands for itself.
    | _, _ => 0x25 :: decodeBytes (a :: b :: rest)
  | b :: rest => b :: decodeBytes rest

/-- The bytes that an escaped text stands for. -/
def decode (s : List Char) : List UInt8 :=
  decodeBytes (Utf8.encode s)

/-- A name or value of a query: blanks for plus signs, then bytes for escapes, then characters, with
the replacement character for bytes that are none. -/
def decodeField (s : List Char) : String :=
  String.ofList (Utf8.decodeLossy (decode (s.map fun c => if c = '+' then ' ' else c)))

/-- The pairs of a query, in order. Empty ones are left out, and a pair without `=` has an empty
value. -/
def readQuery (query : List Char) : List (String × String) :=
  ((fields '&' query).filter (!·.isEmpty)).map fun pair =>
    match cut '=' pair with
    | some (name, value) => (decodeField name, decodeField value)
    | none => (decodeField pair, "")

end Gateway.Text.Percent
