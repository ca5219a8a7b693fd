/-!
# UTF-8

Bytes read as text. A sequence that encodes no character is cut off where it stops being the start of
one, and its bytes together count as one error; `decode?` refuses such a byte string, `decodeLossy` puts
the replacement character U+FFFD in the place of each error.
-/

namespace Gateway.Text.Utf8

/-- The bytes of a text. -/
def encode (s : List Char) : List UInt8 :=
  (String.ofList s).toUTF8.toList

/-- A byte that continues a character. -/
def isContinuation (b : UInt8) : Bool := 0x80 ≤ b && b ≤ 0xBF

/-- The six bits that a continuation adds. -/
def low (b : UInt8) : Nat := b.toNat % 64

/-- The second bytes that may follow a first byte of a longer character, and how many bytes follow in
all. -/
def continuationOf? (b : UInt8) : Option (UInt8 × UInt8 × Nat) :=
  if 0xC2 ≤ b && b ≤ 0xDF then some (0x80, 0xBF, 1)
  else if b == 0xE0 then some (0xA0, 0xBF, 2)
  else if b == 0xED then some (0x80, 0x9F, 2)
  else if 0xE1 ≤ b && b ≤ 0xEF then some (0x80, 0xBF, 2)
  else if b == 0xF0 then some (0x90, 0xBF, 3)
  else if 0xF1 ≤ b && b ≤ 0xF3 then some (0x80, 0xBF, 3)
  else if b == 0xF4 then some (0x80, 0x8F, 3)
  else none

/-- Read the character or the error at the front; an error is `none`. -/
def step (b : UInt8) (rest : List UInt8) : Option Char × List UInt8 :=
  if b < 0x80 then (some (Char.ofNat b.toNat), rest)
  else
    match continuationOf? b with
    | none => (none, rest)
    | some (lo, hi, 1) =>
      match rest with
      | c :: rest' =>
        if lo ≤ c && c ≤ hi then (some (Char.ofNat (b.toNat % 32 * 64 + low c)), rest')
        else (none, rest)
      | [] => (none, rest)
    | some (lo, hi, 2) =>
      match rest with
      | c :: rest' =>
        if lo ≤ c && c ≤ hi then
          match rest' with
          | d :: rest'' =>
            if isContinuation d then
              (some (Char.ofNat ((b.toNat % 16 * 64 + low c) * 64 + low d)), rest'')
            else (none, rest')
          | [] => (none, rest')
        else (none, rest)
      | [] => (none, rest)
    | some (lo, hi, _) =>
      match rest with
      | c :: rest' =>
        if lo ≤ c && c ≤ hi then
          match rest' with
          | d :: rest'' =>
            if isContinuation d then
              match rest'' with
              | e :: rest''' =>
                if isContinuation e then
                  (some (Char.ofNat (((b.toNat % 8 * 64 + low c) * 64 + low d) * 64 + low e)),
                    rest''')
                else (none, rest'')
              | [] => (none, rest'')
            else (none, rest')
          | [] => (none, rest')
        else (none, rest)
      | [] => (none, rest)

/-- What is left behind a step is no longer than what followed its first byte. -/
theorem length_step_le (b : UInt8) (rest : List UInt8) :
    (step b rest).2.length ≤ rest.length := by
  unfold step
  repeat' split
  all_goals simp_all <;> omega

/-- The characters of a byte string, with `none` for each error. -/
def pieces : List UInt8 → List (Option Char)
  | [] => []
  | b :: rest => (step b rest).1 :: pieces (step b rest).2
termination_by bytes => bytes.length
decreasing_by
  have := length_step_le b rest
  simp only [List.length_cons]
  omega

/-- The text of a byte string that has no error. -/
def decode? (bytes : List UInt8) : Option (List Char) :=
  (pieces bytes).mapM fun c => c

/-- The text of a byte string with the replacement character for each error. -/
def decodeLossy (bytes : List UInt8) : List Char :=
  (pieces bytes).map fun c => c.getD (Char.ofNat 0xFFFD)

end Gateway.Text.Utf8
