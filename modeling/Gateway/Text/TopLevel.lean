/-!
# Commas outside brackets and quotes

A list in a query parameter is separated by commas, but a comma inside parentheses or double quotes
belongs to its item. One left-to-right scan tells them apart. Its state is the bracket depth, whether a
quote is open, and whether the last character was the backslash that escapes the next one; a backslash
escapes inside quotes only, and brackets count only outside them.

`splitTopLevel` yields the items, or nothing when the scan closes a bracket that was never opened or
ends inside a bracket or a quote.
-/

namespace Gateway.Text

/-- What the scan knows after a part of the text. -/
structure Scan where
  /-- How many parentheses are open. -/
  depth : Nat
  /-- A double quote is open. -/
  quoted : Bool
  /-- The next character is escaped. -/
  escaped : Bool
deriving DecidableEq, Repr

namespace Scan

/-- The state before the first character. -/
def start : Scan := ⟨0, false, false⟩

/-- No bracket and no quote is open. -/
def atTop (s : Scan) : Bool :=
  s.depth == 0 && !s.quoted

/-- A comma read in this state ends an item. -/
def splits (s : Scan) : Bool :=
  s.atTop && !s.escaped

/-- Read one character; there is no next state after a bracket that closes nothing. -/
def step (s : Scan) (c : Char) : Option Scan :=
  if s.escaped then some { s with escaped := false }
  else if c = '\\' && s.quoted then some { s with escaped := true }
  else if c = '"' then some { s with quoted := !s.quoted }
  else if c = '(' && !s.quoted then some { s with depth := s.depth + 1 }
  else if c = ')' && !s.quoted then
    match s.depth with
    | 0 => none
    | depth + 1 => some { s with depth := depth }
  else some s

/-- Read a whole text. -/
def run (s : Scan) : List Char → Option Scan
  | [] => some s
  | c :: rest =>
    match s.step c with
    | none => none
    | some s' => s'.run rest

end Scan

/-- Put a character in front of the first piece. -/
def consHead (c : Char) : List (List Char) → List (List Char)
  | [] => [[c]]
  | piece :: pieces => (c :: piece) :: pieces

/-- Split the rest of a text that is read from the state `s`. -/
def splitFrom (s : Scan) : List Char → Option (List (List Char))
  | [] => if s.atTop then some [[]] else none
  | c :: rest =>
    if c = ',' && s.splits then (splitFrom s rest).map ([] :: ·)
    else
      match s.step c with
      | none => none
      | some s' => (splitFrom s' rest).map (consHead c)

/-- The items between the top-level commas. -/
def splitTopLevel (text : List Char) : Option (List (List Char)) :=
  splitFrom .start text

/-! ## Items are parts of the text -/

theorem length_le_of_mem_splitFrom {s : Scan} {text piece : List Char}
    {pieces : List (List Char)} (h : splitFrom s text = some pieces) (mem : piece ∈ pieces) :
    piece.length ≤ text.length := by
  induction text generalizing s piece pieces with
  | nil =>
    rw [splitFrom] at h
    split at h
    · obtain rfl := Option.some.inj h
      simp_all
    · simp at h
  | cons c rest ih =>
    rw [splitFrom] at h
    split at h
    · obtain ⟨more, hmore, rfl⟩ := Option.map_eq_some_iff.1 h
      rcases List.mem_cons.1 mem with rfl | mem
      · simp
      · exact Nat.le_succ_of_le (ih hmore mem)
    · split at h
      · simp at h
      · next s' _ =>
        obtain ⟨more, hmore, rfl⟩ := Option.map_eq_some_iff.1 h
        cases more with
        | nil =>
          obtain rfl : piece = [c] := by simpa [consHead] using mem
          simp
        | cons first others =>
          simp only [consHead, List.mem_cons] at mem
          rcases mem with rfl | mem
          · have := ih hmore (List.mem_cons_self)
            simpa using this
          · exact Nat.le_succ_of_le (ih hmore (List.mem_cons_of_mem _ mem))

/-- **No item is longer than the text**, which bounds the descent into nested groups. -/
theorem length_le_of_mem_splitTopLevel {text piece : List Char} {pieces : List (List Char)}
    (h : splitTopLevel text = some pieces) (mem : piece ∈ pieces) :
    piece.length ≤ text.length :=
  length_le_of_mem_splitFrom h mem

end Gateway.Text
