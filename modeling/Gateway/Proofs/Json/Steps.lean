import Gateway.Json.Reader
import Mathlib.Data.List.Basic

/-!
# One step of the reader

The readers of values, items and members call each other, each time with less fuel. Here each of them is
inverted once: a value is read plainly, or between brackets (`readValue_eq_some_iff`), and what follows an
item or a member is the closing bracket, or a comma with more of them behind it (`readItems_eq_some_iff`,
`readMembers_eq_some_iff`). An induction on the fuel then has a case for each way to go on, and does not
look at the readers themselves.
-/

namespace Gateway.Json

variable {α β : Type}

/-! ## §1 — lists between brackets -/

/-- **What stands behind an opening bracket**: the closing one, or entries up to it. -/
inductive Bracketed (close : Char) (entries : List Char → Option (List α × List Char)) (s : List Char) :
    List α → List Char → Prop
  | closed {rest : List Char} (closes : skipBlank s = close :: rest) : Bracketed close entries s [] rest
  | filled {as : List α} {rest : List Char} (opens : ∀ more, skipBlank s ≠ close :: more)
      (read : entries (skipBlank s) = some (as, rest)) : Bracketed close entries s as rest

/-- **What follows an entry**: the closing bracket, or a comma and further entries up to it. -/
inductive Continued (close : Char) (entries : List Char → Option (List α × List Char)) (a : α)
    (s : List Char) : List α → List Char → Prop
  | last {rest : List Char} (closes : skipBlank s = close :: rest) : Continued close entries a s [a] rest
  | more {as : List α} {rest behind : List Char} (comma : skipBlank s = ',' :: behind)
      (read : entries behind = some (as, rest)) : Continued close entries a s (a :: as) rest

/-- Read what stands behind an opening bracket. -/
def readBracketed (close : Char) (entries : List Char → Option (List α × List Char)) (s : List Char) :
    Option (List α × List Char) :=
  if (skipBlank s).head? = some close then some ([], (skipBlank s).tail) else entries (skipBlank s)

theorem head?_ne_some {c : Char} {s : List Char} (opens : ∀ more, s ≠ c :: more) : s.head? ≠ some c :=
  fun head => opens _ (List.eq_cons_of_mem_head? head)

theorem readBracketed_eq_some_iff {close : Char} {entries : List Char → Option (List α × List Char)}
    {s rest : List Char} {as : List α} :
    readBracketed close entries s = some (as, rest) ↔ Bracketed close entries s as rest := by
  unfold readBracketed
  constructor
  · intro read
    split at read
    next closes =>
      obtain ⟨rfl, rfl⟩ := Prod.mk.inj (Option.some.inj read)
      exact .closed (List.eq_cons_of_mem_head? closes)
    next other => exact .filled (fun more same => other (by rw [same]; rfl)) read
  · intro inside
    cases inside with
    | closed closes =>
      rw [closes]
      exact if_pos rfl
    | filled opens read => rw [if_neg (head?_ne_some opens), read]

/-! ## §2 — values -/

/-- Read a value that is neither an array nor an object. -/
def readPlain (r : Rigour) : List Char → Option (Json × List Char)
  | '"' :: rest => (readChars r rest).map fun (cs, rest) => (.str (String.ofList cs), rest)
  | 'n' :: rest => readWord ['u', 'l', 'l'] .null rest
  | 't' :: rest => readWord ['r', 'u', 'e'] (.bool true) rest
  | 'f' :: rest => readWord ['a', 'l', 's', 'e'] (.bool false) rest
  | '-' :: rest => readNumber r true rest
  | c :: rest => if c.isDigit then readNumber r false (c :: rest) else none
  | [] => none

/-- **The ways to read a value.** -/
inductive ValueStep (r : Rigour) (fuel : Nat) (s : List Char) : Nat → Json → List Char → Prop
  | plain {depth : Nat} {value : Json} {rest : List Char}
      (read : readPlain r (skipBlank s) = some (value, rest)) : ValueStep r fuel s depth value rest
  | array {depth : Nat} {items : List Json} {inner rest : List Char}
      (opens : skipBlank s = '[' :: inner)
      (read : Bracketed ']' (readItems r depth fuel) inner items rest) :
    ValueStep r fuel s (depth + 1) (.arr items) rest
  | object {depth : Nat} {members : List (String × Json)} {inner rest : List Char}
      (opens : skipBlank s = '\x7b' :: inner)
      (read : Bracketed '\x7d' (readMembers r depth fuel) inner members rest) :
    ValueStep r fuel s (depth + 1) (.obj members) rest

variable {r : Rigour} {depth fuel : Nat} {s rest : List Char} {value : Json}

/-- A bracket opens no plain value. -/
theorem readPlain_bracket {c : Char} (bracket : c ∈ ['[', '\x7b']) (s : List Char) :
    readPlain r (c :: s) = none := by
  simp only [List.mem_cons, List.not_mem_nil, or_false] at bracket
  rcases bracket with rfl | rfl <;> rfl

/-- What opens with no bracket is read plainly. -/
theorem readValue_eq_readPlain (noArray : ∀ inner, skipBlank s ≠ '[' :: inner)
    (noObject : ∀ inner, skipBlank s ≠ '\x7b' :: inner) :
    readValue r depth (fuel + 1) s = readPlain r (skipBlank s) := by
  rw [readValue, readPlain.eq_def]
  split
  all_goals simp_all

theorem readValue_array {inner : List Char} (opens : skipBlank s = '[' :: inner) :
    readValue r (depth + 1) (fuel + 1) s =
      (readBracketed ']' (readItems r depth fuel) inner).map fun (items, rest) => (.arr items, rest) := by
  rw [readValue, opens, readBracketed]
  simp only
  split
  next closes =>
    rw [closes]
    rfl
  next other => rw [if_neg (head?_ne_some other)]

theorem readValue_object {inner : List Char} (opens : skipBlank s = '\x7b' :: inner) :
    readValue r (depth + 1) (fuel + 1) s =
      (readBracketed '\x7d' (readMembers r depth fuel) inner).map fun (ms, rest) => (.obj ms, rest) := by
  rw [readValue, opens, readBracketed]
  simp only
  split
  next closes =>
    rw [closes]
    rfl
  next other => rw [if_neg (head?_ne_some other)]

theorem readValue_zero {c : Char} (bracket : c ∈ ['[', '\x7b']) {inner : List Char}
    (opens : skipBlank s = c :: inner) : readValue r 0 (fuel + 1) s = none := by
  simp only [List.mem_cons, List.not_mem_nil, or_false] at bracket
  rw [readValue, opens]
  rcases bracket with rfl | rfl <;> rfl

/-- **A value is read in one of these ways.** -/
theorem readValue_eq_some_iff :
    readValue r depth (fuel + 1) s = some (value, rest) ↔ ValueStep r fuel s depth value rest := by
  constructor
  · intro read
    by_cases array : ∃ inner, skipBlank s = '[' :: inner
    · obtain ⟨inner, opens⟩ := array
      cases depth with
      | zero => cases (readValue_zero (by decide) opens).symm.trans read
      | succ depth =>
        rw [readValue_array opens] at read
        obtain ⟨⟨items, _⟩, inside, same⟩ := Option.map_eq_some_iff.1 read
        obtain ⟨rfl, rfl⟩ := Prod.mk.inj same
        exact .array opens (readBracketed_eq_some_iff.1 inside)
    · by_cases object : ∃ inner, skipBlank s = '\x7b' :: inner
      · obtain ⟨inner, opens⟩ := object
        cases depth with
        | zero => cases (readValue_zero (by decide) opens).symm.trans read
        | succ depth =>
          rw [readValue_object opens] at read
          obtain ⟨⟨members, _⟩, inside, same⟩ := Option.map_eq_some_iff.1 read
          obtain ⟨rfl, rfl⟩ := Prod.mk.inj same
          exact .object opens (readBracketed_eq_some_iff.1 inside)
      · exact .plain (readValue_eq_readPlain (not_exists.1 array) (not_exists.1 object) ▸ read)
  · intro step
    cases step with
    | plain read =>
      rw [readValue_eq_readPlain (fun inner opens => ?_) (fun inner opens => ?_), read]
      all_goals
        rw [opens, readPlain_bracket (by decide)] at read
        cases read
    | array opens inside =>
      rw [readValue_array opens, readBracketed_eq_some_iff.2 inside]
      rfl
    | object opens inside =>
      rw [readValue_object opens, readBracketed_eq_some_iff.2 inside]
      rfl

/-! ## §3 — items and members -/

variable {items : List Json} {members : List (String × Json)}

/-- **Items are read** as a first one and what follows it. -/
theorem readItems_eq_some_iff :
    readItems r depth (fuel + 1) s = some (items, rest) ↔ ∃ value behind,
      readValue r depth fuel s = some (value, behind) ∧
        Continued ']' (readItems r depth fuel) value behind items rest := by
  rw [readItems]
  constructor
  · intro read
    split at read
    next => cases read
    next value behind first =>
      refine ⟨value, behind, first, ?_⟩
      split at read
      next closes =>
        obtain ⟨rfl, rfl⟩ := Prod.mk.inj (Option.some.inj read)
        exact .last closes
      next comma =>
        obtain ⟨⟨more, _⟩, inside, same⟩ := Option.map_eq_some_iff.1 read
        obtain ⟨rfl, rfl⟩ := Prod.mk.inj same
        exact .more comma inside
      next => cases read
  · rintro ⟨value, behind, first, closes | ⟨comma, inside⟩⟩
    · simp only [first, closes]
    · simp only [first, comma, inside, Option.map_some]

/-- **The key of a member**, in quotes and with its colon. -/
inductive Keyed (r : Rigour) (s : List Char) : String → List Char → Prop
  | mk {key quoted behind rest : List Char} (opens : skipBlank s = '"' :: quoted)
      (read : readChars r quoted = some (key, behind)) (colon : skipBlank behind = ':' :: rest) :
    Keyed r s (String.ofList key) rest

/-- **Members are read** as a first one, its key and its value, and what follows it. -/
theorem readMembers_eq_some_iff :
    readMembers r depth (fuel + 1) s = some (members, rest) ↔ ∃ key front value behind,
      Keyed r s key front ∧ readValue r depth fuel front = some (value, behind) ∧
        Continued '\x7d' (readMembers r depth fuel) (key, value) behind members rest := by
  rw [readMembers]
  constructor
  · intro read
    split at read
    next opens =>
      split at read
      next => cases read
      next key _ quoted =>
        split at read
        next colon =>
          split at read
          next => cases read
          next value behind first =>
            refine ⟨String.ofList key, _, value, behind, .mk opens quoted colon, first, ?_⟩
            split at read
            next closes =>
              obtain ⟨rfl, rfl⟩ := Prod.mk.inj (Option.some.inj read)
              exact .last closes
            next comma =>
              obtain ⟨⟨more, _⟩, inside, same⟩ := Option.map_eq_some_iff.1 read
              obtain ⟨rfl, rfl⟩ := Prod.mk.inj same
              exact .more comma inside
            next => cases read
        next => cases read
    next => cases read
  · rintro ⟨_, front, value, behind, ⟨opens, quoted, colon⟩, first, closes | ⟨comma, inside⟩⟩
    · simp only [opens, quoted, colon, first, closes]
    · simp only [opens, quoted, colon, first, comma, inside, Option.map_some]

end Gateway.Json
