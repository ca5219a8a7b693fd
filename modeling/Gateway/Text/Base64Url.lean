/-!
# Base64 for URLs

Bytes written with the 64 characters `A`–`Z`, `a`–`z`, `0`–`9`, `-` and `_`, six bits each, without
padding. Reading is strict: no other character, no lone character at the end, and no bit set in a last
character beyond the bytes it completes, so each text has at most one reading and each byte string
exactly one text.
-/

namespace Gateway.Text.Base64Url

/-- The character of a six-bit value. -/
def charOf (n : Nat) : Char :=
  if n < 26 then Char.ofNat (n + 'A'.toNat)
  else if n < 52 then Char.ofNat (n - 26 + 'a'.toNat)
  else if n < 62 then Char.ofNat (n - 52 + '0'.toNat)
  else if n = 62 then '-' else '_'

/-- The six-bit value of a character. -/
def valueOf? (c : Char) : Option Nat :=
  if c.isUpper then some (c.toNat - 'A'.toNat)
  else if c.isLower then some (c.toNat - 'a'.toNat + 26)
  else if c.isDigit then some (c.toNat - '0'.toNat + 52)
  else if c = '-' then some 62
  else if c = '_' then some 63
  else none

/-- Write bytes. -/
def encode : List UInt8 → List Char
  | [] => []
  | [a] =>
    let n := a.toNat
    [charOf (n / 4), charOf (n % 4 * 16)]
  | [a, b] =>
    let n := a.toNat * 256 + b.toNat
    [charOf (n / 1024), charOf (n / 16 % 64), charOf (n % 16 * 4)]
  | a :: b :: c :: rest =>
    let n := (a.toNat * 256 + b.toNat) * 256 + c.toNat
    charOf (n / 262144) :: charOf (n / 4096 % 64) :: charOf (n / 64 % 64) :: charOf (n % 64)
      :: encode rest

/-- The bytes of six-bit values. -/
def pack : List Nat → Option (List UInt8)
  | [] => some []
  | [_] => none
  | [p, q] => if q % 16 = 0 then some [UInt8.ofNat (p * 4 + q / 16)] else none
  | [p, q, r] =>
    if r % 4 = 0 then
      let n := (p * 64 + q) * 16 + r / 4
      some [UInt8.ofNat (n / 256), UInt8.ofNat (n % 256)]
    else none
  | p :: q :: r :: s :: rest =>
    let n := ((p * 64 + q) * 64 + r) * 64 + s
    (pack rest).map fun bytes =>
      UInt8.ofNat (n / 65536) :: UInt8.ofNat (n / 256 % 256) :: UInt8.ofNat (n % 256) :: bytes

/-- Read bytes. -/
def decode? (s : List Char) : Option (List UInt8) :=
  (s.mapM valueOf?).bind pack

end Gateway.Text.Base64Url
