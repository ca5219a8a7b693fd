import Gateway.Binary64.Basic
import Gateway.Text.Cut
import Gateway.Text.Numeral

/-!
# Reading decimal and scientific notation

A numeral is an optional sign, then digits with at most one point among or beside them, then an
optional exponent `e` with an optional sign; at least one digit stands before or after the point, and
one in the exponent. The words `inf`, `infinity` and `nan` count as well, in any case. The value is
rounded once, from the exact decimal; what is past the largest number becomes infinity.
-/

namespace Gateway.Binary64

open Gateway.Text

/-- The digits at the front of a text, and the rest. -/
def spanDigits (s : List Char) : List Char × List Char :=
  (s.takeWhile Char.isDigit, s.dropWhile Char.isDigit)

/-- The value of a row of digits. -/
def digitsValue (ds : List Char) : Nat :=
  ds.foldl (fun n c => n * 10 + (c.toNat - '0'.toNat)) 0

/-- The number nearest to `digits · 10 ^ exponent`. Far outside the range of the format the outcome is
settled by the position of the first digit, and the power is not computed. -/
def ofDecimal (negative : Bool) (digits : Nat) (exponent : Int) : Binary64 :=
  if digits = 0 then zero negative
  else
    let leading := exponent + (Nat.toDigits 10 digits).length
    -- The number lies between `10 ^ (leading - 1)` and `10 ^ leading`.
    if 310 < leading then infinity negative
    else if leading < -330 then zero negative
    else ofRatio negative (digits * Nat.pow 10 exponent.toNat) (Nat.pow 10 (-exponent).toNat)

/-- The exponent behind the digits: nothing, or `e` with a whole number. -/
def readExponent : List Char → Option Int
  | [] => some 0
  | c :: rest =>
    if c = 'e' || c = 'E' then
      let (negative, digits) :=
        match rest with
        | '-' :: more => (true, more)
        | '+' :: more => (false, more)
        | more => (false, more)
      if digits.isEmpty || !digits.all Char.isDigit then none
      else
        let n := digitsValue digits
        some (if negative then -(n : Int) else n)
    else none

/-- Read a numeral without its sign. -/
def readUnsigned (negative : Bool) (s : List Char) : Option Binary64 :=
  match String.ofList (lower s) with
  | "inf" | "infinity" => some (infinity negative)
  | "nan" => some { nan with negative }
  | _ =>
    let (whole, rest) := spanDigits s
    let (fraction, rest) :=
      match rest with
      | '.' :: more => spanDigits more
      | more => ([], more)
    if whole.isEmpty && fraction.isEmpty then none
    else
      (readExponent rest).map fun e =>
        ofDecimal negative (digitsValue (whole ++ fraction)) (e - fraction.length)

/-- **Read a numeral.** -/
def read? : List Char → Option Binary64
  | '-' :: rest => readUnsigned true rest
  | '+' :: rest => readUnsigned false rest
  | s => readUnsigned false s

end Gateway.Binary64
