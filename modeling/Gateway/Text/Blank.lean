/-!
# Blank characters and trimming

The blanks of this library are the characters with the Unicode property `White_Space`. The zero-width
space U+200B and the byte-order mark U+FEFF do not have it, so they survive a trim.

`trim` removes the longest blank run at each end and nothing in between.
-/

namespace Gateway.Text

/-- The code points with the Unicode property `White_Space`, as inclusive ranges. -/
def blankRanges : List (Nat × Nat) :=
  [(0x09, 0x0D), (0x20, 0x20), (0x85, 0x85), (0xA0, 0xA0), (0x1680, 0x1680), (0x2000, 0x200A),
    (0x2028, 0x2029), (0x202F, 0x202F), (0x205F, 0x205F), (0x3000, 0x3000)]

/-- A character is blank when it lies in one of the `White_Space` ranges. -/
def isBlank (c : Char) : Bool :=
  blankRanges.any fun (lo, hi) => lo ≤ c.toNat && c.toNat ≤ hi

/-- The text without its leading blanks. -/
def trimStart (s : List Char) : List Char :=
  s.dropWhile isBlank

/-- The text without its trailing blanks. -/
def trimEnd (s : List Char) : List Char :=
  (s.reverse.dropWhile isBlank).reverse

/-- The text without the blanks at either end. -/
def trim (s : List Char) : List Char :=
  trimEnd (trimStart s)

/-! ## What trimming does to a text -/

/-- A trimmed text is a part of the text it came from, so it is no longer. -/
theorem length_trim_le (s : List Char) : (trim s).length ≤ s.length := by
  have front : (trimStart s).length ≤ s.length := (List.dropWhile_sublist _).length_le
  have back : (trimEnd (trimStart s)).length ≤ (trimStart s).length := by
    simpa [trimEnd] using (List.dropWhile_sublist isBlank (l := (trimStart s).reverse)).length_le
  exact Nat.le_trans back front

/-- Trimming brings in no character. -/
theorem mem_of_mem_trim {text : List Char} {c : Char} (inside : c ∈ trim text) : c ∈ text := by
  rw [trim, trimEnd, List.mem_reverse] at inside
  have kept := (List.dropWhile_sublist isBlank).mem inside
  exact (List.dropWhile_sublist isBlank).mem (List.mem_reverse.1 kept)

/-- **Trimming takes off blanks alone.** -/
theorem filter_trim {p : Char → Bool} (solid : ∀ c, p c = true → isBlank c = false) (text : List Char) :
    (trim text).filter p = text.filter p := by
  have dropped (s : List Char) : (s.dropWhile isBlank).filter p = s.filter p := by
    have blanks : (s.takeWhile isBlank).filter p = [] := by
      rw [List.filter_eq_nil_iff]
      intro c front kept
      have blank := List.all_eq_true.1 (List.all_takeWhile (p := isBlank) (l := s)) c front
      exact Bool.false_ne_true ((solid c kept).symm.trans blank)
    have whole := congrArg (List.filter p) (List.takeWhile_append_dropWhile (p := isBlank) (l := s))
    rwa [List.filter_append, blanks, List.nil_append] at whole
  rw [trim, trimEnd, List.filter_reverse, dropped, List.filter_reverse, List.reverse_reverse, trimStart,
    dropped]

theorem mem_trim_of_mem {text : List Char} {c : Char} (solid : isBlank c = false) (inside : c ∈ text) :
    c ∈ trim text := by
  have same : (trim text).filter (· == c) = text.filter (· == c) :=
    filter_trim (fun d kept => by rwa [eq_of_beq kept]) text
  have kept : c ∈ text.filter (· == c) := List.mem_filter.2 ⟨inside, beq_self_eq_true c⟩
  exact (List.mem_filter.1 (same ▸ kept)).1

/-- A text that starts with a character that is not blank keeps its start. -/
theorem trimStart_cons {c : Char} (h : isBlank c = false) (s : List Char) :
    trimStart (c :: s) = c :: s := by
  simp [trimStart, h]

/-- A text that ends with a character that is not blank keeps its end. -/
theorem trimEnd_concat {c : Char} (h : isBlank c = false) (s : List Char) :
    trimEnd (s ++ [c]) = s ++ [c] := by
  simp [trimEnd, h]

/-- A text that keeps its end is empty or ends with a character that is not blank. -/
theorem eq_nil_or_concat_of_trimEnd {s : List Char} (h : trimEnd s = s) :
    s = [] ∨ ∃ front c, s = front ++ [c] ∧ isBlank c = false := by
  rcases List.eq_nil_or_concat s with rfl | ⟨front, c, rfl⟩
  · exact .inl rfl
  · refine .inr ⟨front, c, List.concat_eq_append, ?_⟩
    cases blank : isBlank c with
    | false => rfl
    | true =>
      have shorter := congrArg List.length h
      have dropped := (List.dropWhile_sublist isBlank (l := front.reverse)).length_le
      simp [trimEnd, blank] at shorter dropped
      omega

/-- Texts that keep their ends keep them when they are joined. -/
theorem trimEnd_append {a b : List Char} (first : trimEnd a = a) (second : trimEnd b = b) :
    trimEnd (a ++ b) = a ++ b := by
  rcases eq_nil_or_concat_of_trimEnd second with rfl | ⟨front, c, rfl, solid⟩
  · rw [List.append_nil, first]
  · rw [← List.append_assoc, trimEnd_concat solid]

/-- What is behind a character that is not blank loses its end alone. -/
theorem trimEnd_append_cons {c : Char} (solid : isBlank c = false) (front back : List Char) :
    trimEnd (front ++ c :: back) = front ++ c :: trimEnd back := by
  have end_of : (front ++ c :: back).reverse = back.reverse ++ c :: front.reverse := by simp
  rw [trimEnd, trimEnd, end_of, List.dropWhile_append]
  split
  next none =>
    rw [List.isEmpty_iff] at none
    simp [none, solid]
  · simp

/-- A text that starts with a character that is not blank and keeps its end is trimmed. -/
theorem trim_cons {c : Char} {s : List Char} (solid : isBlank c = false)
    (closed : trimEnd (c :: s) = c :: s) : trim (c :: s) = c :: s := by
  rw [trim, trimStart_cons solid, closed]

/-- A text with a first character that is not blank is not trimmed to nothing. -/
theorem trim_cons_ne_nil {c : Char} (solid : isBlank c = false) (s : List Char) :
    trim (c :: s) ≠ [] := by
  rw [trim, trimStart_cons solid, trimEnd, List.reverse_cons, List.dropWhile_append]
  split <;> simp [solid]

end Gateway.Text
