import Gateway.Text.Cut
import Gateway.Text.Numeral

/-!
# Internet addresses

The numeric forms of internet addresses: four numbers below 256 between points, or eight groups of up to
four hexadecimal digits between colons. In the long form one row of zero groups may be left out between
two colons, and the last two groups may be written in the short form.

The short form has a loose variant, in which the last of fewer numbers fills the remaining bytes, and a
number may be octal or hexadecimal. A long address may say to which interface it belongs.
-/

namespace Gateway.Text

/-! ## The short form -/

/-- Read a number below 256 without a leading zero. -/
def readOctet? (s : List Char) : Option Nat :=
  if 1 < s.length && (3 < s.length || s.head? == some '0') then none
  else (readInBase 10 s).filter (· ≤ 255)

/-- Read an address in the short form as its four bytes. -/
def readShortAddress? (s : List Char) : Option (List Nat) :=
  let octets := fields '.' s
  if octets.length = 4 then octets.mapM readOctet? else none

/-- Read a number of the loose form: hexadecimal behind `0x`, octal behind another zero. -/
def readLooseNumber? : List Char → Option Nat
  | '0' :: 'x' :: digits | '0' :: 'X' :: digits => readInBase 16 digits
  | '0' :: digits => readInBase 8 ('0' :: digits)
  | digits => readInBase 10 digits

/-- Numbers make up an address of so many bytes: each is one byte, and the last takes what is left. -/
def fillBytes (bytes : Nat) : List Nat → Bool
  | [] => false
  | [last] => 0 < bytes && last < Nat.pow 256 bytes
  | n :: rest => n ≤ 255 && fillBytes (bytes - 1) rest

/-- The text is an address in the loose variant of the short form. -/
def isLooseAddress (s : List Char) : Bool :=
  ((fields '.' s).mapM readLooseNumber?).any (fillBytes 4)

/-! ## The long form -/

/-- Read a group of an address in the long form. -/
def readGroup? (s : List Char) : Option Nat :=
  if s.length ≤ 4 then readInBase 16 s else none

/-- Read a row of groups; the last may stand for two, in the short form. -/
def readGroups? : List (List Char) → Option (List Nat)
  | [] => some []
  | [last] =>
    match readGroup? last, readShortAddress? last with
    | some group, _ => some [group]
    | none, some [a, b, c, d] => some [a * 256 + b, c * 256 + d]
    | none, _ => none
  | group :: rest => do
    let group ← readGroup? group
    return group :: (← readGroups? rest)

/-- The texts before and after the first two colons. -/
def cutDoubleColon : List Char → Option (List Char × List Char)
  | [] => none
  | ':' :: ':' :: rest => some ([], rest)
  | c :: rest => (cutDoubleColon rest).map fun (before, after) => (c :: before, after)

/-- A row of groups; an empty text is no group. -/
def addressGroups (s : List Char) : List (List Char) :=
  if s.isEmpty then [] else fields ':' s

/-- Read an address in the long form as its eight groups. -/
def readLongAddress? (s : List Char) : Option (List Nat) :=
  match cutDoubleColon s with
  | none => (readGroups? (addressGroups s)).filter (·.length == 8)
  | some (before, after) => do
    let front ← (addressGroups before).mapM readGroup?
    let back ← readGroups? (addressGroups after)
    -- At least one group is left out.
    if front.length + back.length ≤ 7 then
      return front ++ List.replicate (8 - (front.length + back.length)) 0 ++ back
    else none

/-- Read an address in the long form that may be followed by `%` and the number of an interface. -/
def readScopedAddress? (s : List Char) : Option (List Nat) :=
  match cut '%' s with
  | none => readLongAddress? s
  | some (address, scope) =>
    if (readInBase 10 scope).any (· ≤ 0xFFFFFFFF) then readLongAddress? address else none

/-- The groups are those of the address that stands for every address of a machine. -/
def isUnspecified (groups : List Nat) : Bool :=
  groups.all (· == 0)

/-- The groups are those of an address in the short form. -/
def isMapped (groups : List Nat) : Bool :=
  groups.take 6 == [0, 0, 0, 0, 0, 0xFFFF]

/-! ## Addresses and ports -/

/-- The text is an address in one of the two forms. -/
def isInternetAddress (s : List Char) : Bool :=
  (readShortAddress? s).isSome || (readLongAddress? s).isSome

/-- A port: a number below 2 to the power of 16. -/
def readPort? (s : List Char) : Option Nat :=
  (readNumeral 65535 s).toOption

end Gateway.Text
