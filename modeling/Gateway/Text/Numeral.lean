/-!
# Reading a bounded decimal numeral

A numeral is an optional `+` followed by ASCII digits, and its value must not exceed a limit. The
characters are read from the left and the first thing that is wrong decides the error: a character
that is no digit, or a prefix whose value is already past the limit.
-/

namespace Gateway.Text

/-- Why a text is not a numeral within its limit. -/
inductive NumeralError where
  /-- The text is empty. -/
  | empty
  /-- A character is not a digit, or a sign stands alone. -/
  | invalidDigit
  /-- The value exceeds the limit. -/
  | tooLarge
deriving DecidableEq, Repr

/-- The wording of a numeral error. -/
def NumeralError.message : NumeralError → String
  | .empty => "cannot parse integer from empty string"
  | .invalidDigit => "invalid digit found in string"
  | .tooLarge => "number too large to fit in target type"

/-- The value of an ASCII digit. -/
def digit? (c : Char) : Option Nat :=
  if c.isDigit then some (c.toNat - '0'.toNat) else none

/-- Continue a numeral whose digits so far are worth `value`. -/
def readDigits (limit value : Nat) : List Char → Except NumeralError Nat
  | [] => .ok value
  | c :: rest =>
    match digit? c with
    | none => .error .invalidDigit
    | some d =>
      if limit < value * 10 + d then .error .tooLarge else readDigits limit (value * 10 + d) rest

/-- Read a whole text as a numeral no larger than `limit`. -/
def readNumeral (limit : Nat) : List Char → Except NumeralError Nat
  | [] => .error .empty
  | ['+'] => .error .invalidDigit
  | '+' :: rest => readDigits limit 0 rest
  | s => readDigits limit 0 s

/-! ## Digits of other bases -/

/-- The value of a hexadecimal digit, in either case. -/
def hexValue? (c : Char) : Option Nat :=
  if c.isDigit then some (c.toNat - '0'.toNat)
  else if 'a' ≤ c && c ≤ 'f' then some (c.toNat - 'a'.toNat + 10)
  else if 'A' ≤ c && c ≤ 'F' then some (c.toNat - 'A'.toNat + 10)
  else none

/-- Read a row of digits of a base up to sixteen. -/
def readInBase (base : Nat) (s : List Char) : Option Nat :=
  let step (n : Nat) (c : Char) : Option Nat :=
    (hexValue? c).bind fun d => if d < base then some (n * base + d) else none
  if s.isEmpty then none else s.foldlM step 0

/-! ## Written numbers -/

/-- A number can be told from its digits. -/
theorem repr_injective {i j : Nat} (same : Nat.repr i = Nat.repr j) : i = j := by
  rw [Nat.repr_eq_ofList_toDigits, Nat.repr_eq_ofList_toDigits, String.ofList_inj] at same
  rw [← Nat.ofDigitChars_ten_toDigits (n := i), ← Nat.ofDigitChars_ten_toDigits (n := j), same]

/-! ## Limits -/

/-- How many unsigned 64-bit numbers there are. -/
def wordSize : Nat := 0x10000000000000000

/-- The largest unsigned 64-bit number. -/
def maxUnsigned64 : Nat := 0xFFFFFFFFFFFFFFFF

end Gateway.Text
