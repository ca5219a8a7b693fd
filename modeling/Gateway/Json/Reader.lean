import Gateway.Json.Basic
import Gateway.Text.Cut
import Gateway.Text.Numeral

/-!
# Reading JSON

The strict grammar: no byte-order mark, no trailing commas, no leading zeros, no control characters in
strings, and nothing but blanks behind the value. Three limits come on top: arrays and objects nest at
most 127 deep, a surrogate escape must be one of a pair, and a number must not exceed the range of
binary numbers.

A whole number that fits 64 bits, signed or not, is kept exactly. Any other number is approximated in
two steps: as many digits as fit 64 bits are gathered, the remaining ones only count towards the
exponent, and the gathered number is multiplied or divided once by a power of ten.

A value that nobody looks at is read without the three limits (`lenient`).
-/

namespace Gateway.Json

open Gateway.Text

/-- Drop the blanks of JSON. -/
def skipBlank (s : List Char) : List Char :=
  s.dropWhile fun c => c == ' ' || c == '\n' || c == '\t' || c == '\r'

/-- How strictly a value is read. -/
inductive Rigour where
  /-- The limits hold. -/
  | strict
  /-- The limits do not hold; the value that comes out is not looked at. -/
  | lenient
deriving DecidableEq, Repr

/-! ## Strings -/

/-- The value of four hexadecimal digits. -/
def hex4? (a b c d : Char) : Option Nat := do
  return (((← hexValue? a) * 16 + (← hexValue? b)) * 16 + (← hexValue? c)) * 16 + (← hexValue? d)

/-- The character that a single-letter escape stands for. -/
def shortEscape? : Char → Option Char
  | '"' => some '"'
  | '\\' => some '\\'
  | '/' => some '/'
  | 'b' => some '\x08'
  | 'f' => some '\x0c'
  | 'n' => some '\n'
  | 'r' => some '\r'
  | 't' => some '\t'
  | _ => none

/-- The code point of a pair of surrogates. -/
def pairedCodePoint (high low : Nat) : Nat :=
  0x10000 + (high - 0xD800) * 0x400 + (low - 0xDC00)

/-- What stands for an escape that is no character, where nobody looks. -/
def replacement : Char := Char.ofNat 0xFFFD

/-- Put a character in front of what was read. -/
def consChar (c : Char) (read : Option (List Char × List Char)) : Option (List Char × List Char) :=
  read.map fun (cs, rest) => (c :: cs, rest)

/-- The content of a string whose opening quote has been read, and what follows its closing quote. -/
def readChars (r : Rigour) : List Char → Option (List Char × List Char)
  | [] => none
  | '"' :: rest => some ([], rest)
  | '\\' :: 'u' :: a :: b :: c :: d :: rest =>
    match hex4? a b c d with
    | none => none
    | some n =>
      -- Only the halves of a surrogate pair are no characters of their own.
      if n < 0xD800 || 0xE000 ≤ n then consChar (Char.ofNat n) (readChars r rest)
      else if r = .lenient then consChar replacement (readChars r rest)
      -- The second half of a pair cannot come first.
      else if 0xDC00 ≤ n then none
      else
        match rest with
        | '\\' :: 'u' :: e :: f :: g :: h :: rest =>
          match hex4? e f g h with
          | none => none
          | some m =>
            if 0xDC00 ≤ m && m < 0xE000 then
              consChar (Char.ofNat (pairedCodePoint n m)) (readChars r rest)
            else none
        | _ => none
  | '\\' :: c :: rest =>
    match shortEscape? c with
    | none => none
    | some e => consChar e (readChars r rest)
  | c :: rest =>
    -- A control character has to be escaped.
    if c.toNat < 0x20 then none else consChar c (readChars r rest)

/-! ## Numbers -/

/-- Gather digits as long as the number fits 64 bits; also how many were gathered. -/
def gather (m taken : Nat) : List Char → Nat × Nat
  | [] => (m, taken)
  | c :: rest =>
    let next := m * 10 + (c.toNat - '0'.toNat)
    if next ≤ maxUnsigned64 then gather next (taken + 1) rest else (m, taken)

/-- Multiply or divide a number by a power of ten; there is no result past the range. A power below
the range of binary numbers is taken in several steps. -/
def timesPowerOfTen (x : Binary64) (e : Int) : Option Binary64 :=
  if e.natAbs ≤ 308 then
    let power := Binary64.ofRatio false (Nat.pow 10 e.natAbs) 1
    if 0 ≤ e then
      let product := x.mul power
      if product.isInfinite then none else some product
    else some (x.div power)
  -- Zero stays zero, however large the exponent is.
  else if x.isZero then some x
  else if 0 ≤ e then none
  -- `10 ^ 308` is the largest power of ten in the range.
  else timesPowerOfTen (x.div (Binary64.ofRatio false (Nat.pow 10 308) 1)) (e + 308)
termination_by e.natAbs
decreasing_by omega

/-- An approximated number, from the gathered digits and the exponent. -/
def approximate (r : Rigour) (negative : Bool) (m : Nat) (e : Int) : Option Json :=
  match timesPowerOfTen (Binary64.ofRatio false m 1) e with
  | some x => some (.float (if negative then x.neg else x))
  | none => if r = .lenient then some .null else none

/-- A whole number whose digits all fit 64 bits. -/
def wholeNumber (negative : Bool) (m : Nat) : Json :=
  if !negative then .int m
  -- Zero keeps its sign, and what lies below the signed range is rounded.
  else if m = 0 || 0x8000000000000000 < m then .float (Binary64.ofRatio true m 1)
  else .int (-m)

/-- The digits at the front of a text, and the rest. -/
def takeDigits (s : List Char) : List Char × List Char :=
  (s.takeWhile Char.isDigit, s.dropWhile Char.isDigit)

/-- The fraction behind a whole part: nothing, or a point and at least one digit. -/
def readFraction : List Char → Option (List Char × List Char)
  | '.' :: rest =>
    let (digits, rest) := takeDigits rest
    if digits.isEmpty then none else some (digits, rest)
  | s => some ([], s)

/-- The exponent of a number: nothing, or `e` with a whole number. -/
def readPower : List Char → Option (Option Int × List Char)
  | c :: rest =>
    if c = 'e' || c = 'E' then
      let (negative, rest) :=
        match rest with
        | '-' :: more => (true, more)
        | '+' :: more => (false, more)
        | more => (false, more)
      let (digits, rest) := takeDigits rest
      if digits.isEmpty then none
      else
        let n := digits.foldl (fun n c => n * 10 + (c.toNat - '0'.toNat)) 0
        some (some (if negative then -(n : Int) else n), rest)
    else some (none, c :: rest)
  | [] => some (none, [])

/-- Read a number behind its sign. -/
def readNumber (r : Rigour) (negative : Bool) (s : List Char) : Option (Json × List Char) := do
  let (whole, rest) := takeDigits s
  -- A leading zero stands alone.
  if whole.isEmpty || (whole.head? = some '0' && 1 < whole.length) then none
  let (fraction, rest) ← readFraction rest
  let (power, rest) ← readPower rest
  let (m, taken) := gather 0 0 whole
  let dropped := whole.length - taken
  if fraction.isEmpty && power.isNone && dropped == 0 then
    return (wholeNumber negative m, rest)
  let (m, places) := gather m 0 fraction
  -- A dropped digit raises the exponent, a digit behind the point lowers it.
  let value ← approximate r negative m ((dropped : Int) - places + power.getD 0)
  return (value, rest)

/-! ## Values -/

/-- Read a word behind its first letter. -/
def readWord (word : List Char) (value : Json) (s : List Char) : Option (Json × List Char) :=
  (dropFront? word s).map fun rest => (value, rest)

mutual

/-- Read a value; `depth` more levels of arrays and objects may open, and `fuel` bounds the steps. -/
def readValue (r : Rigour) (depth : Nat) : Nat → List Char → Option (Json × List Char)
  | 0, _ => none
  | fuel + 1, s =>
    match skipBlank s with
    | '"' :: rest => (readChars r rest).map fun (cs, rest) => (.str (String.ofList cs), rest)
    | '[' :: rest =>
      match depth with
      | 0 => none
      | depth + 1 =>
        match skipBlank rest with
        | ']' :: rest => some (.arr [], rest)
        | rest => (readItems r depth fuel rest).map fun (items, rest) => (.arr items, rest)
    | '\x7b' :: rest =>
      match depth with
      | 0 => none
      | depth + 1 =>
        match skipBlank rest with
        | '\x7d' :: rest => some (.obj [], rest)
        | rest => (readMembers r depth fuel rest).map fun (ms, rest) => (.obj ms, rest)
    | 'n' :: rest => readWord ['u', 'l', 'l'] .null rest
    | 't' :: rest => readWord ['r', 'u', 'e'] (.bool true) rest
    | 'f' :: rest => readWord ['a', 'l', 's', 'e'] (.bool false) rest
    | '-' :: rest => readNumber r true rest
    | c :: rest => if c.isDigit then readNumber r false (c :: rest) else none
    | [] => none

/-- Read the items of an array up to its end; there is at least one. -/
def readItems (r : Rigour) (depth : Nat) : Nat → List Char → Option (List Json × List Char)
  | 0, _ => none
  | fuel + 1, s =>
    match readValue r depth fuel s with
    | none => none
    | some (value, rest) =>
      match skipBlank rest with
      | ']' :: rest => some ([value], rest)
      | ',' :: rest =>
        (readItems r depth fuel rest).map fun (items, rest) => (value :: items, rest)
      | _ => none

/-- Read the members of an object up to its end, as they stand; there is at least one. -/
def readMembers (r : Rigour) (depth : Nat) :
    Nat → List Char → Option (List (String × Json) × List Char)
  | 0, _ => none
  | fuel + 1, s =>
    match skipBlank s with
    | '"' :: rest =>
      match readChars r rest with
      | none => none
      | some (key, rest) =>
        match skipBlank rest with
        | ':' :: rest =>
          match readValue r depth fuel rest with
          | none => none
          | some (value, rest) =>
            match skipBlank rest with
            | '\x7d' :: rest => some ([(String.ofList key, value)], rest)
            | ',' :: rest =>
              (readMembers r depth fuel rest).map fun (ms, rest) =>
                ((String.ofList key, value) :: ms, rest)
            | _ => none
        | _ => none
    | _ => none

end

/-- How deep arrays and objects may nest. -/
def maxDepth : Nat := 127

/-- Steps that suffice for a text: two for each character. -/
def fuelFor (s : List Char) : Nat := 2 * s.length + 2

/-- Read a value at the front of a text, with the members of its objects as they stand. -/
def readFront (depth : Nat) (s : List Char) : Option (Json × List Char) :=
  readValue .strict depth (fuelFor s) s

/-- What follows a value at the front of a text at which nobody looks. -/
def skipFront (s : List Char) : Option (List Char) :=
  (readValue .lenient s.length (fuelFor s) s).map (·.2)

/-- **Read a whole text as a value.** -/
def read? (s : String) : Option Json :=
  match readFront maxDepth s.toList with
  | some (value, rest) => if (skipBlank rest).isEmpty then some value.normalize else none
  | none => none

end Gateway.Json
